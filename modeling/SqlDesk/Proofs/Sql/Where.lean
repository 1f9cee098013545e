import SqlDesk.Proofs.Sql.Metadata
import SqlDesk.Value

/-!
# Conditions of a statement

What the server takes as the conditions of a listing: columns that are to equal one of some texts,
joined by `AND` behind `WHERE`. Statements of another form have conditions that are not read here.
The conditions of a listing of tables by their names are just the names, whatever they are.
-/

namespace SqlDesk.Sql

/-- A column is to be one of some texts. -/
structure Condition where
  column : String
  texts : List String
deriving DecidableEq, Repr

/-- A row satisfies a condition. -/
def Condition.holds (c : Condition) (row : Row) : Bool :=
  c.texts.any fun text => row.column c.column == .text text

/-- Where the reader of conditions is. -/
inductive Stage where
  /-- In front of a column. -/
  | column
  /-- Behind a column. -/
  | relation (c : String)
  /-- Behind `=`. -/
  | value (c : String)
  /-- Behind `IN`. -/
  | opening (c : String)
  /-- In front of one of the texts of a list. -/
  | item (c : String) (texts : List String)
  /-- Behind one of them. -/
  | separator (c : String) (texts : List String)
  /-- Behind a condition. -/
  | joint

/-- Read conditions up to the end of the statement, or of its clause. -/
def readConditions : Stage → List Token → Option (List Condition)
  | .column, .identifier c :: ts => readConditions (.relation c) ts
  | .relation c, .symbol '=' :: ts => readConditions (.value c) ts
  | .relation c, .word "IN" :: ts => readConditions (.opening c) ts
  | .value c, .text s :: ts => (readConditions .joint ts).map (⟨c, [s]⟩ :: ·)
  | .opening c, .symbol '(' :: ts => readConditions (.item c []) ts
  | .item c ss, .text s :: ts => readConditions (.separator c (ss ++ [s])) ts
  | .separator c ss, .symbol ',' :: ts => readConditions (.item c ss) ts
  | .separator c ss, .symbol ')' :: ts => (readConditions .joint ts).map (⟨c, ss⟩ :: ·)
  | .joint, [] | .joint, .word "ORDER" :: _ => some []
  | .joint, .word "AND" :: ts => readConditions .column ts
  | _, _ => none

/-- The conditions behind `WHERE`, none without it. -/
def clause : List Token → Option (List Condition)
  | .word "WHERE" :: ts => readConditions .column ts
  | _ => some []

/-- The conditions of the two kinds of listings that tables are read from. -/
def listingConditions : List Token → Option (List Condition)
  | .word "SELECT" :: .symbol '*' :: .word "FROM" :: .identifier _ :: .symbol '.' ::
      .identifier _ :: ts => clause ts
  | .word "SHOW" :: .word "TABLE" :: .word "STATUS" :: .word "FROM" :: .identifier _ :: ts =>
    clause ts
  | _ => none

/-- The conditions of a statement, if it can be read. -/
def conditions (sql : String) : Option (List Condition) := (lex sql).bind listingConditions

/-! ## Listings by name -/

theorem readConditions_listed (c : String) (ts : List Token) :
    ∀ {ss : List String} (texts : List String), ss ≠ [] →
      readConditions (.item c texts) (listed ss ++ .symbol ')' :: ts) =
        (readConditions .joint ts).map (⟨c, texts ++ ss⟩ :: ·)
  | [], _, h => absurd rfl h
  | [s], texts, _ => rfl
  | s :: t :: ss, texts, _ => by
    have hlisted : listed (s :: t :: ss) = .text s :: .symbol ',' :: listed (t :: ss) := rfl
    rw [hlisted, List.cons_append, List.cons_append, readConditions, readConditions,
      readConditions_listed c ts (texts ++ [s]) (by simp), List.append_assoc]
    rfl

theorem fill_condition (names : List String) {word column : String} {slots : List Slot}
    {start ts : List Token} (hstart : lex (word ++ (backquote column ++ " IN (")) = some start)
    (hslots : fill slots [] = some ts) :
    fill (conditionSlots word column (.names names.length) ++ slots) names =
      some (start ++ (listed names ++ .symbol ')' :: ts)) := by
  have hclose : lex ")" = some [.symbol ')'] := by decide
  simp only [conditionSlots, List.cons_append, List.nil_append, fill, hstart, hclose,
    Option.bind_some, Nat.le_refl, if_true, List.drop_length, List.take_length, hslots,
    Option.map_some]

theorem TableFilter.mode_names {names : List String} (h : names ≠ []) :
    TableFilter.mode (.names names) = .names names.length := by
  have hempty : TableFilter.isEmpty (.names names) = false := by
    simpa [TableFilter.isEmpty] using h
  rw [TableFilter.mode, if_neg (by rw [hempty]; decide)]

theorem TableFilter.given_names (names : List String) :
    TableFilter.given (.names names) = names := by
  unfold TableFilter.given
  split
  · rename_i hempty
    exact (List.isEmpty_iff.mp hempty).symm
  · rfl

variable {escape : String → String} (hescape : Faithful escape)

include hescape

/-- The catalog is asked for tables of the database that have one of the names. -/
theorem conditions_catalogTables (database : String) {names : List String} (h : names ≠ []) :
    conditions (catalogTables (quoted escape) database (.names names)) =
      some [⟨"TABLE_SCHEMA", [database]⟩, ⟨"TABLE_NAME", names⟩] := by
  obtain ⟨ts, hlex, hfill⟩ := (Query.catalogTables database (.names names)).lex_text hescape
  have hhead : lex "SELECT * FROM `information_schema`.`TABLES` WHERE `TABLE_SCHEMA` = " =
      some [.word "SELECT", .symbol '*', .word "FROM", .identifier "information_schema",
        .symbol '.', .identifier "TABLES", .word "WHERE", .identifier "TABLE_SCHEMA",
        .symbol '='] := by
    decide +kernel
  have hstart : lex (" AND " ++ (backquote "TABLE_NAME" ++ " IN (")) =
      some [.word "AND", .identifier "TABLE_NAME", .word "IN", .symbol '('] := by
    decide +kernel
  have hend : fill [.fixed " ORDER BY `TABLE_NAME` ASC"] [] =
      some [.word "ORDER", .word "BY", .identifier "TABLE_NAME", .word "ASC"] := by
    decide +kernel
  have hcondition := fill_condition names hstart hend
  have hschema : listed [database] = [.text database] := rfl
  simp only [Query.form, Query.given, Form.slots, TableFilter.mode_names h, TableFilter.given_names,
    List.cons_append, fill, hhead, hcondition, Option.bind_some, Option.map_some, List.length_cons,
    Nat.le_add_left, if_true, List.drop_succ_cons, List.drop_zero, List.take_succ_cons,
    List.take_zero, hschema, List.nil_append] at hfill
  obtain rfl := Option.some.inj hfill
  unfold conditions
  rw [show lex (catalogTables (quoted escape) database (.names names)) = _ from hlex,
    Option.bind_some]
  show (readConditions (.item "TABLE_NAME" []) (listed names ++ .symbol ')' :: _)).map _ = _
  rw [readConditions_listed "TABLE_NAME" _ [] h]
  rfl

/-- The status is asked for of tables that have one of the names. -/
theorem conditions_tableStatus (database : String) {names : List String} (h : names ≠ []) :
    conditions (tableStatus (quoted escape) database (.names names)) = some [⟨"Name", names⟩] := by
  obtain ⟨ts, hlex, hfill⟩ := (Query.tableStatus database (.names names)).lex_text hescape
  have hhead : lex "SHOW TABLE STATUS FROM " =
      some [.word "SHOW", .word "TABLE", .word "STATUS", .word "FROM"] := by
    decide +kernel
  have hstart : lex (" WHERE " ++ (backquote "Name" ++ " IN (")) =
      some [.word "WHERE", .identifier "Name", .word "IN", .symbol '('] := by
    decide +kernel
  have hcondition := fill_condition names hstart (show fill [] [] = some [] from rfl)
  rw [List.append_nil] at hcondition
  simp only [Query.form, Query.given, Form.slots, TableFilter.mode_names h, TableFilter.given_names,
    fill, hhead, hcondition, Option.bind_some, Option.map_some] at hfill
  obtain rfl := Option.some.inj hfill
  unfold conditions
  rw [show lex (tableStatus (quoted escape) database (.names names)) = _ from hlex,
    Option.bind_some]
  show readConditions (.item "Name" []) (listed names ++ [.symbol ')']) = _
  rw [readConditions_listed "Name" [] [] h]
  rfl

end SqlDesk.Sql
