import SqlDesk.Proofs.Sql.Template
import SqlDesk.Sql.Setup

/-!
# The shape of statements about metadata

The statements about metadata as data, so that what a statement is can be told from its names. The
form of a statement holds nothing of the names but how many there are, and its slots are filled with
the names as they are given.
-/

namespace SqlDesk.Sql

/-- A statement about metadata. -/
inductive Query where
  | catalogTables (database : String) (filter : TableFilter)
  | tableStatus (database : String) (filter : TableFilter)
  | allTableStatus (database : String)
  | tableNames (database : String)
  | columns (full : Bool) (database table : String)
  | databaseNames
  | databaseNamesLike (pattern : String)
  | catalogDatabases (totals : Bool) (filter : DatabaseFilter)
  | catalogCollation (database : String)
  | selectedCollation

/-- The text of a statement. -/
def Query.text (literal : String → String) : Query → String
  | .catalogTables database filter => Sql.catalogTables literal database filter
  | .tableStatus database filter => Sql.tableStatus literal database filter
  | .allTableStatus database => Sql.allTableStatus database
  | .tableNames database => Sql.tableNames database
  | .columns full database table => Sql.columns full database table
  | .databaseNames => Sql.databaseNames
  | .databaseNamesLike pattern => Sql.databaseNamesLike literal pattern
  | .catalogDatabases totals filter => Sql.catalogDatabases literal totals filter
  | .catalogCollation database => Sql.catalogCollation literal database
  | .selectedCollation => Sql.databaseCollation

/-- How a listing of tables is narrowed by its filter. -/
inductive TableMode where
  | all
  | start
  | names (count : Nat)

def TableFilter.mode (f : TableFilter) : TableMode :=
  if f.isEmpty then .all
  else match f with
    | .name _ => .names 1
    | .start _ => .start
    | .names ss => .names ss.length

/-- The texts that a filter puts into a statement: the names themselves, or a pattern for the names
with a start. -/
def TableFilter.given (f : TableFilter) : List String :=
  if f.isEmpty then []
  else match f with
    | .name s => [s]
    | .start s => [escapeWildcards s ++ "%"]
    | .names ss => ss

/-- How a listing of databases is narrowed by its filter. -/
inductive DatabaseMode where
  | like
  | names (count : Nat)

def DatabaseFilter.mode : DatabaseFilter → DatabaseMode
  | .like _ => .like
  | .names ss => .names ss.length

def DatabaseFilter.given : DatabaseFilter → List String
  | .like pattern => [pattern]
  | .names ss => ss

/-- What is left of a statement about metadata without its names. -/
inductive Form where
  | catalogTables (mode : TableMode)
  | tableStatus (mode : TableMode)
  | allTableStatus
  | tableNames
  | columns (full : Bool)
  | databaseNames
  | databaseNamesLike
  | catalogDatabases (totals : Bool) (mode : DatabaseMode)
  | catalogCollation
  | selectedCollation

def Query.form : Query → Form
  | .catalogTables _ filter => .catalogTables filter.mode
  | .tableStatus _ filter => .tableStatus filter.mode
  | .allTableStatus _ => .allTableStatus
  | .tableNames _ => .tableNames
  | .columns full _ _ => .columns full
  | .databaseNames => .databaseNames
  | .databaseNamesLike _ => .databaseNamesLike
  | .catalogDatabases totals filter => .catalogDatabases totals filter.mode
  | .catalogCollation _ => .catalogCollation
  | .selectedCollation => .selectedCollation

/-- The texts that are put into a statement, in order. -/
def Query.given : Query → List String
  | .catalogTables database filter | .tableStatus database filter => database :: filter.given
  | .allTableStatus database | .tableNames database | .catalogCollation database => [database]
  | .columns _ database table => [database, table]
  | .databaseNames | .selectedCollation => []
  | .databaseNamesLike pattern => [pattern]
  | .catalogDatabases _ filter => filter.given

/-- The slots of the condition that a filter puts on a column. -/
def conditionSlots (word column : String) : TableMode → List Slot
  | .all => []
  | .start => [.fixed (word ++ (backquote column ++ " LIKE ")), .literals 1]
  | .names n => [.fixed (word ++ (backquote column ++ " IN (")), .literals n, .fixed ")"]

/-- The slots of the condition that a filter puts on the name of a database, behind the fixed text
before it. -/
def databaseSlots (sql : String) : DatabaseMode → List Slot
  | .like => [.fixed (sql ++ " WHERE s.SCHEMA_NAME LIKE "), .literals 1]
  | .names n => [.fixed (sql ++ " WHERE s.SCHEMA_NAME IN ("), .literals n, .fixed ")"]

def Form.slots : Form → List Slot
  | .catalogTables mode =>
    .fixed "SELECT * FROM `information_schema`.`TABLES` WHERE `TABLE_SCHEMA` = " :: .literals 1 ::
      conditionSlots " AND " "TABLE_NAME" mode ++ [.fixed " ORDER BY `TABLE_NAME` ASC"]
  | .tableStatus mode =>
    .fixed "SHOW TABLE STATUS FROM " :: .name :: conditionSlots " WHERE " "Name" mode
  | .allTableStatus => [.fixed "SHOW TABLE STATUS FROM ", .name, .fixed ";"]
  | .tableNames => [.fixed "SHOW TABLES FROM ", .name, .fixed ";"]
  | .columns full =>
    [.fixed ("SHOW " ++ (if full then "FULL " else "") ++ "COLUMNS FROM "), .name, .fixed ".",
      .name, .fixed ";"]
  | .databaseNames => [.fixed Sql.databaseNames]
  | .databaseNamesLike => [.fixed "SHOW DATABASES LIKE ", .literals 1]
  | .catalogDatabases totals mode =>
    databaseSlots (catalogColumns totals) mode ++
      if totals then [.fixed " GROUP BY BINARY s.SCHEMA_NAME, s.DEFAULT_COLLATION_NAME"] else []
  | .catalogCollation =>
    [.fixed ("SELECT DEFAULT_COLLATION_NAME FROM information_schema.SCHEMATA WHERE SCHEMA_NAME = "),
      .literals 1, .fixed " LIMIT 1"]
  | .selectedCollation => [.fixed Sql.databaseCollation]

/-- The columns end in a word, which the blank of a condition ends. -/
theorem scan_catalogColumns (totals : Bool) :
    (scan .blank (catalogColumns totals).toList).2 =
      .word (if totals then "SCHEMA_NAME" else "s").toList := by
  cases totals
  · rw [catalogColumns, if_neg Bool.false_ne_true]
    decide +kernel
  · rw [catalogColumns, if_pos rfl]
    simp only [String.toList_append]
    decide +kernel

theorem wellSpaced_databaseSlots (totals : Bool) (mode : DatabaseMode) {slots : List Slot}
    (hoff : startsOff slots = true) (hslots : wellSpaced slots = true) :
    wellSpaced (databaseSlots (catalogColumns totals) mode ++ slots) = true := by
  match mode with
  | .like =>
    refine wellSpaced_fixed ?_ (Bool.and_eq_true_iff.mpr ⟨hoff, hslots⟩)
    rw [String.toList_append, scan_append, scan_catalogColumns]
    cases totals <;> decide +kernel
  | .names n =>
    refine wellSpaced_fixed ?_ (Bool.and_eq_true_iff.mpr ⟨rfl, wellSpaced_fixed (by decide) hslots⟩)
    rw [String.toList_append, scan_append, scan_catalogColumns]
    cases totals <;> decide +kernel

theorem wellSpaced_slots (form : Form) : wellSpaced form.slots = true := by
  rcases form with (_ | _ | n) | (_ | _ | n) | _ | _ | full | _ | _ | ⟨totals, mode⟩ | _ | _
  case catalogTables.names => rfl
  case tableStatus.names => rfl
  case columns => cases full <;> decide +kernel
  case catalogDatabases =>
    cases totals
    · exact wellSpaced_databaseSlots false mode rfl rfl
    · exact wellSpaced_databaseSlots true mode rfl rfl
  all_goals decide +kernel

/-! ## Statements as filled slots -/

theorem TableFilter.length_given (filter : TableFilter) (word column : String) :
    filter.given.length = arity (conditionSlots word column filter.mode) := by
  unfold TableFilter.mode TableFilter.given
  by_cases hempty : filter.isEmpty
  · rw [if_pos hempty, if_pos hempty]
    rfl
  · rw [if_neg hempty, if_neg hempty]
    cases filter <;> simp [conditionSlots, arity]

theorem arity_append (slots slots' : List Slot) :
    arity (slots ++ slots') = arity slots + arity slots' := by
  induction slots with
  | nil => simp [arity]
  | cons slot slots ih => cases slot <;> simp [arity, ih] <;> omega

theorem Query.length_given (q : Query) : q.given.length = arity q.form.slots := by
  cases q with
  | catalogTables database filter =>
    have := filter.length_given " AND " "TABLE_NAME"
    simp [Query.given, Query.form, Form.slots, arity, arity_append, this]
  | tableStatus database filter =>
    have := filter.length_given " WHERE " "Name"
    simp [Query.given, Query.form, Form.slots, arity, this]
  | catalogDatabases totals filter =>
    cases filter <;> cases totals <;>
      simp [Query.given, Query.form, Form.slots, arity, databaseSlots, DatabaseFilter.given,
        DatabaseFilter.mode]
  | _ => rfl

section Text

variable (literal : String → String)

theorem render_fixed (sql : String) (slots : List Slot) (given : List String) :
    render literal (.fixed sql :: slots) given = sql ++ render literal slots given := rfl

theorem render_name (s : String) (slots : List Slot) (given : List String) :
    render literal (.name :: slots) (s :: given) = backquote s ++ render literal slots given := rfl

theorem render_literal (s : String) (slots : List Slot) (given : List String) :
    render literal (.literals 1 :: slots) (s :: given) =
      literal s ++ render literal slots given := by
  rw [render, List.take_succ_cons, List.take_zero, List.drop_succ_cons, List.drop_zero, literals,
    List.map_singleton, String.intercalate_singleton]

theorem render_literals (ss : List String) (slots : List Slot) (given : List String) :
    render literal (.literals ss.length :: slots) (ss ++ given) =
      literals literal ss ++ render literal slots given := by
  rw [render, List.take_left, List.drop_left]

theorem render_nil (given : List String) : render literal [] given = "" := rfl

theorem render_condition (filter : TableFilter) (word column : String) (slots : List Slot) :
    render literal (conditionSlots word column filter.mode ++ slots) filter.given =
      joinedCondition literal word column filter ++ render literal slots [] := by
  unfold TableFilter.mode TableFilter.given joinedCondition
  by_cases hempty : filter.isEmpty
  · rw [if_pos hempty, if_pos hempty, if_pos hempty, String.empty_append]
    rfl
  · rw [if_neg hempty, if_neg hempty, if_neg hempty]
    cases filter with
    | name s =>
      simp only [conditionSlots, List.cons_append, List.nil_append, render_fixed, render_literal,
        condition, literals, List.map_singleton, String.intercalate_singleton, String.append_assoc]
    | start s =>
      simp only [conditionSlots, List.cons_append, List.nil_append, render_fixed, render_literal,
        condition, String.append_assoc]
    | names ss =>
      have := render_literals literal ss (.fixed ")" :: slots) []
      rw [List.append_nil] at this
      simp only [conditionSlots, List.cons_append, List.nil_append, render_fixed, this, condition,
        String.append_assoc]

theorem render_databases (filter : DatabaseFilter) (sql : String) (slots : List Slot) :
    render literal (databaseSlots sql filter.mode ++ slots) filter.given =
      sql ++ databaseCondition literal filter ++ render literal slots [] := by
  cases filter with
  | like pattern =>
    show render literal (.fixed (sql ++ " WHERE s.SCHEMA_NAME LIKE ") :: .literals 1 :: slots)
      [pattern] = sql ++ (" WHERE s.SCHEMA_NAME LIKE " ++ literal pattern) ++ _
    rw [render_fixed, render_literal, String.append_assoc, String.append_assoc,
      String.append_assoc]
  | names ss =>
    have hlist := render_literals literal ss (.fixed ")" :: slots) []
    rw [List.append_nil] at hlist
    show render literal (.fixed (sql ++ " WHERE s.SCHEMA_NAME IN (") :: .literals ss.length ::
      .fixed ")" :: slots) ss =
        sql ++ (" WHERE s.SCHEMA_NAME IN (" ++ literals literal ss ++ ")") ++ _
    rw [render_fixed, hlist, render_fixed]
    simp only [String.append_assoc]

/-- A statement about metadata is its form filled with its names. -/
theorem Query.text_eq_render (q : Query) :
    q.text literal = render literal q.form.slots q.given := by
  unfold Query.text
  cases q with
  | catalogTables database filter =>
    unfold Sql.catalogTables
    simp only [Query.given, Query.form, Form.slots, List.cons_append, render_fixed,
      render_literal, render_condition, render_nil, String.append_empty, String.append_assoc]
  | tableStatus database filter =>
    unfold Sql.tableStatus
    have hfilter := render_condition literal filter " WHERE " "Name" []
    rw [List.append_nil, render_nil, String.append_empty] at hfilter
    simp only [Query.given, Query.form, Form.slots, render_fixed, render_name, hfilter,
      String.append_assoc]
  | catalogDatabases totals filter =>
    unfold Sql.catalogDatabases
    simp only [Query.given, Query.form, Form.slots, render_databases]
    cases totals
    · rfl
    · rw [if_pos rfl, if_pos rfl, render_fixed, render_nil, String.append_empty]
  | columns full database table =>
    unfold Sql.columns
    simp only [Query.given, Query.form, Form.slots, render_fixed, render_name, render_nil,
      String.append_empty, String.append_assoc]
  | allTableStatus | tableNames | catalogCollation =>
    simp only [Query.given, Query.form, Form.slots, render_fixed, render_name, render_literal,
      render_nil, String.append_empty]
    exact String.append_assoc
  | databaseNamesLike pattern =>
    simp only [Query.given, Query.form, Form.slots, render_fixed, render_literal, render_nil,
      String.append_empty]
    rfl
  | databaseNames | selectedCollation =>
    simp only [Query.given, Query.form, Form.slots, render_fixed, render_nil, String.append_empty]

end Text

/-- The tokens of a statement about metadata are those of its form filled with its names. -/
theorem Query.lex_text {escape : String → String} (hescape : Faithful escape) (q : Query) :
    ∃ ts, lex (q.text (quoted escape)) = some ts ∧ fill q.form.slots q.given = some ts := by
  rw [q.text_eq_render]
  exact lex_render hescape (wellSpaced_slots q.form) q.length_given

/-- The tokens of the statements of a form, without the texts between their quotes. -/
def Form.shape (form : Form) : Option (List Token) :=
  (fill form.slots (List.replicate (arity form.slots) "")).map (List.map Token.shape)

/-- Up to the texts between quotes, the tokens of a statement are those of its form alone. -/
theorem Query.shape_eq {escape : String → String} (hescape : Faithful escape) {q : Query}
    {ts : List Token} (h : fill q.form.slots q.given = some ts) :
    q.form.shape = some (ts.map Token.shape) := by
  obtain ⟨blank, -, hblank⟩ :=
    lex_render hescape (wellSpaced_slots q.form) (List.length_replicate (a := ""))
  rw [Form.shape, hblank, Option.map_some, fill_shape hblank h]

/-! ## How statements begin -/

theorem prefix_catalogDatabases (literal : String → String) (totals : Bool)
    (filter : DatabaseFilter) :
    "SELECT s.".toList <+: (catalogDatabases literal totals filter).toList := by
  unfold catalogDatabases catalogColumns
  rw [List.prefix_iff_eq_take]
  cases totals <;>
    simp only [Bool.false_eq_true, if_true, if_false, String.toList_append, List.append_assoc] <;>
    rfl

theorem prefix_databaseNamesLike (literal : String → String) (pattern : String) :
    "SHOW DATABASES LIKE ".toList <+: (databaseNamesLike literal pattern).toList := by
  unfold databaseNamesLike
  rw [String.toList_append]
  exact List.prefix_append _ _

theorem prefix_allTableStatus (database : String) :
    "SHOW TABLE STATUS FROM ".toList <+: (allTableStatus database).toList := by
  unfold allTableStatus
  simp only [String.toList_append, List.append_assoc]
  exact List.prefix_append _ _

end SqlDesk.Sql
