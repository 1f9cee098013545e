import SqlDesk.Proofs.Sql.Metadata

/-!
# Statements about facts

The statements that ask for the facts that desks keep differ from all others that desks run of their
own: a statement is told by how it opens, whatever names and settings are put into it.
-/

namespace SqlDesk.Sql

/-- The statements that ask for facts that desks keep. -/
def factStatements : List String := [currentUser, baseDirectory, lowerCaseNames]

/-- The statements that set a connection up. -/
inductive SetsUp : String → Prop where
  | version : SetsUp version
  | names (charset collation : String) : SetsUp (setNames charset collation)
  | locale (locale : String) : SetsUp (setLocale locale)
  | timeZone (zone : String) : SetsUp (setTimeZone zone)

/-- A statement opens with a text. -/
def Opens (start sql : String) : Prop := start.toList <+: sql.toList

instance (start sql : String) : Decidable (Opens start sql) :=
  inferInstanceAs (Decidable (start.toList <+: sql.toList))

theorem Opens.append {start sql : String} (h : Opens start sql) (rest : String) :
    Opens start (sql ++ rest) := by
  unfold Opens at h ⊢
  rw [String.toList_append]
  exact h.trans (List.prefix_append _ _)

theorem Opens.of_longer {start longer sql : String} (h : Opens start longer)
    (hlonger : Opens longer sql) : Opens start sql := List.IsPrefix.trans h hlonger

/-- A statement does not open with either of two texts of which neither opens with the other. -/
theorem Opens.not_opens {start other sql : String} (h : Opens start sql)
    (hstart : ¬ Opens start other) (hother : ¬ Opens other start) : ¬ Opens other sql := by
  intro hopens
  rcases List.prefix_or_prefix_of_prefix h hopens with hprefix | hprefix
  · exact hstart hprefix
  · exact hother hprefix

/-- A statement that opens otherwise than those about facts is none of them. -/
theorem Opens.notMem {start sql : String} (h : Opens start sql)
    (hne : ∀ s ∈ factStatements, ¬ Opens start s) : sql ∉ factStatements :=
  fun hmem => hne sql hmem h

theorem opens_setNames (charset collation : String) :
    Opens "SET NAMES " (setNames charset collation) :=
  .append (.append (.append (.append (by decide) _) _) _) _

theorem opens_setLocale (locale : String) : Opens "SET lc_messages " (setLocale locale) :=
  .append (.append (by decide) _) _

theorem opens_setTimeZone (zone : String) : Opens "SET `time_zone` " (setTimeZone zone) :=
  .append (.append (by decide) _) _

theorem opens_setCollation (collation : String) :
    Opens "SET collation_connection " (setCollation collation) :=
  .append (.append (by decide) _) _

theorem opens_descriptionsOf (table database : String) :
    Opens "SELECT * " (descriptionsOf table database) :=
  .append (.append (.append (by decide) _) _) _

theorem SetsUp.notMem {sql : String} (h : SetsUp sql) : sql ∉ factStatements := by
  cases h with
  | version => decide
  | names charset collation => exact (opens_setNames charset collation).notMem (by decide)
  | locale locale => exact (opens_setLocale locale).notMem (by decide)
  | timeZone zone => exact (opens_setTimeZone zone).notMem (by decide)

theorem setCollation_notMem (collation : String) : setCollation collation ∉ factStatements :=
  (opens_setCollation collation).notMem (by decide)

theorem descriptionsOf_notMem (table database : String) :
    descriptionsOf table database ∉ factStatements :=
  (opens_descriptionsOf table database).notMem (by decide)

/-- How statements about metadata open. -/
def metadataOpenings : List String := ["SELECT * ", "SELECT s.", "SELECT D", "SELECT @@c", "SHOW "]

theorem Query.opens (q : Query) (literal : String → String) :
    ∃ start ∈ metadataOpenings, Opens start (q.text literal) := by
  cases q with
  | catalogTables database filter =>
    have hopens : Opens "SELECT * " (Sql.catalogTables literal database filter) :=
      .append (.append (.append (by decide) _) _) _
    exact ⟨_, by decide, hopens⟩
  | tableStatus database filter =>
    have hopens : Opens "SHOW " (Sql.tableStatus literal database filter) :=
      .append (.append (by decide) _) _
    exact ⟨_, by decide, hopens⟩
  | allTableStatus database =>
    have hopens : Opens "SHOW " (Sql.allTableStatus database) :=
      .of_longer (by decide) (prefix_allTableStatus database)
    exact ⟨_, by decide, hopens⟩
  | tableNames database =>
    have hopens : Opens "SHOW " (Sql.tableNames database) := .append (.append (by decide) _) _
    exact ⟨_, by decide, hopens⟩
  | columns full database table =>
    have hopens : Opens "SHOW " (Sql.columns full database table) :=
      .append (.append (.append (.append (.append (.append (by decide) _) _) _) _) _) _
    exact ⟨_, by decide, hopens⟩
  | databaseNames =>
    have hopens : Opens "SHOW " Sql.databaseNames := by decide
    exact ⟨_, by decide, hopens⟩
  | databaseNamesLike pattern =>
    have hopens : Opens "SHOW " (Sql.databaseNamesLike literal pattern) :=
      .of_longer (by decide) (prefix_databaseNamesLike literal pattern)
    exact ⟨_, by decide, hopens⟩
  | catalogDatabases totals filter =>
    exact ⟨_, by decide, prefix_catalogDatabases literal totals filter⟩
  | catalogCollation database =>
    have hopens : Opens "SELECT D" (Sql.catalogCollation literal database) :=
      .append (.append (by decide) _) _
    exact ⟨_, by decide, hopens⟩
  | selectedCollation =>
    have hopens : Opens "SELECT @@c" Sql.databaseCollation := by decide
    exact ⟨_, by decide, hopens⟩

/-- No statement about metadata asks for a fact. -/
theorem Query.notMem (q : Query) (literal : String → String) :
    q.text literal ∉ factStatements := by
  obtain ⟨start, hstart, hopens⟩ := q.opens literal
  have hne : ∀ start ∈ metadataOpenings, ∀ s ∈ factStatements, ¬ Opens start s := by decide
  exact hopens.notMem (hne start hstart)

/-! ## Statements that set the character set or the collation -/

/-- Whether a statement sets the character set or the collation of a connection. -/
def setsCollation (sql : String) : Bool :=
  Opens "SET NAMES " sql || Opens "SET collation_connection " sql

theorem setsCollation_setNames (charset collation : String) :
    setsCollation (setNames charset collation) = true := by
  rw [setsCollation, decide_eq_true (opens_setNames charset collation), Bool.true_or]

theorem setsCollation_setCollation (collation : String) :
    setsCollation (setCollation collation) = true := by
  rw [setsCollation, decide_eq_true (opens_setCollation collation), Bool.or_true]

/-- A statement that opens otherwise sets neither. -/
theorem Opens.setsCollation_eq_false {start sql : String} (h : Opens start sql)
    (hne : ∀ other ∈ ["SET NAMES ", "SET collation_connection "],
      ¬ Opens start other ∧ ¬ Opens other start) : setsCollation sql = false := by
  have hother : ∀ other ∈ ["SET NAMES ", "SET collation_connection "], ¬ Opens other sql :=
    fun other hmem => h.not_opens (hne other hmem).1 (hne other hmem).2
  rw [setsCollation, decide_eq_false (hother _ (by simp)), decide_eq_false (hother _ (by simp)),
    Bool.false_or]

theorem setsCollation_setLocale (locale : String) : setsCollation (setLocale locale) = false :=
  (opens_setLocale locale).setsCollation_eq_false (by decide)

theorem setsCollation_setTimeZone (zone : String) : setsCollation (setTimeZone zone) = false :=
  (opens_setTimeZone zone).setsCollation_eq_false (by decide)

theorem setsCollation_descriptionsOf (table database : String) :
    setsCollation (descriptionsOf table database) = false :=
  (opens_descriptionsOf table database).setsCollation_eq_false (by decide)

theorem Query.setsCollation (q : Query) (literal : String → String) :
    Sql.setsCollation (q.text literal) = false := by
  obtain ⟨start, hstart, hopens⟩ := q.opens literal
  have hne : ∀ start ∈ metadataOpenings, ∀ other ∈ ["SET NAMES ", "SET collation_connection "],
      ¬ Opens start other ∧ ¬ Opens other start := by decide
  exact hopens.setsCollation_eq_false (hne start hstart)

end SqlDesk.Sql
