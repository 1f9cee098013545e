import Mathlib.Data.List.Induction
import Mathlib.Data.List.Nodup
import SqlDesk.Log.Statement
import SqlDesk.Proofs.Assoc

/-!
# What a statement log tells

Apart from times, a statement log tells of a list of executions what it has counted of them. The
numbers of executions and of failures are those of the list in any case. If no two of the texts have
one digest, the entries are those of the texts in order of first execution, each with what the list
tells of it.
-/

namespace SqlDesk.Log

/-- An execution of a statement. -/
structure Execution where
  query : String
  /-- The tag of the connection it ran on. -/
  role : String
  failed : Bool
deriving DecidableEq, Repr

/-! ## Counting -/

/-- An entry without its time. -/
def StatementEntry.untimed (e : StatementEntry) : StatementEntry := { e with time := .ofInt 0 }

/-- An entry with one more execution of its statement. -/
def StatementEntry.counting (e : StatementEntry) (x : Execution) : StatementEntry :=
  { e with
    role := x.role
    count := e.count + 1
    errors := if x.failed then e.errors + 1 else e.errors }

/-- Entries without times. -/
abbrev Tally := Assoc String StatementEntry

/-- What is known of the statement of an execution before it. -/
def Tally.before (t : Tally) (x : Execution) : StatementEntry :=
  (Assoc.get? t (Digest.ofText x.query)).getD { query := x.query, role := x.role }

/-- Count one more execution. -/
def Tally.counting (t : Tally) (x : Execution) : Tally :=
  Assoc.put t (Digest.ofText x.query) ((t.before x).counting x)

/-- Count executions, one after the other. -/
def Tally.ofList (xs : List Execution) : Tally := xs.foldl counting []

namespace StatementLog

/-- What a log has counted. -/
def tally (log : StatementLog) : Tally := log.entries.mapValues StatementEntry.untimed

theorem record_float (log : StatementLog) (x : Execution) (span : Number.Binary64) :
    ∃ log', log.record x.query (.float span) x.role x.failed = (log', none) ∧
      log'.enabled = log.enabled ∧ log'.tally = log.tally.counting x := by
  have hbefore : log.tally.before x = (Tally.before log.entries x).untimed := by
    unfold tally Tally.before
    rw [Assoc.get?_mapValues]
    cases Assoc.get? log.entries (Digest.ofText x.query) <;> rfl
  refine ⟨_, rfl, rfl, ?_⟩
  unfold Tally.counting
  rw [hbefore]
  exact Assoc.mapValues_put ..

/-- An enabled log counts an execution whose times are in seconds. -/
theorem measure_enabled {log : StatementLog} (h : log.enabled = true) (x : Execution)
    (start stop : Number.Binary64) :
    let measured := log.measure x.query x.role (.float start) (.float stop) x.failed
    measured.2.1.enabled = log.enabled ∧ measured.2.1.tally = log.tally.counting x := by
  obtain ⟨log', hrecord, henabled, htally⟩ := log.record_float x (stop.add start.neg)
  have hspan : Time.since (.float stop) (.float start) = .ok (.float (stop.add start.neg)) := rfl
  unfold measure
  rw [hspan]
  dsimp only
  rw [if_pos h, hrecord]
  exact ⟨henabled, htally⟩

/-- A log that is not enabled stays as it is. -/
theorem measure_disabled {log : StatementLog} (h : log.enabled = false) (query role : String)
    (start stop : Time) (failed : Bool) :
    (log.measure query role start stop failed).2.1 = log := by
  unfold measure
  rcases stop.since start with f | span
  · rfl
  · dsimp only
    rw [if_neg (by simp [h])]

end StatementLog

/-! ## Totals -/

theorem Tally.total_counting (g : StatementEntry → Nat) {x : Execution} {n : Nat} (t : Tally)
    (hnew : g { query := x.query, role := x.role } = 0)
    (hstep : ∀ e : StatementEntry, g (e.counting x) = g e + n) :
    (t.counting x).total g = t.total g + n := by
  have hbefore : ((Assoc.get? t (Digest.ofText x.query)).map g).getD 0 = g (t.before x) := by
    unfold before
    cases Assoc.get? t (Digest.ofText x.query) with
    | none => exact hnew.symm
    | some e => rfl
  have hput := Assoc.total_put g t (Digest.ofText x.query) ((t.before x).counting x)
  rw [hbefore, hstep] at hput
  unfold counting
  omega

variable (xs : List Execution) (x : Execution)

theorem Tally.ofList_concat : Tally.ofList (xs ++ [x]) = (Tally.ofList xs).counting x := by
  unfold ofList
  rw [List.foldl_append, List.foldl_cons, List.foldl_nil]

/-- Every execution is counted. -/
theorem Tally.total_count : (Tally.ofList xs).total (·.count) = xs.length := by
  induction xs using List.reverseRecOn with
  | nil => rfl
  | append_singleton xs x ih =>
    rw [ofList_concat, total_counting _ _ rfl fun e => rfl, ih, List.length_append,
      List.length_singleton]

/-- Every failure is counted. -/
theorem Tally.total_errors : (Tally.ofList xs).total (·.errors) = xs.countP (·.failed) := by
  induction xs using List.reverseRecOn with
  | nil => rfl
  | append_singleton xs x ih =>
    have hstep (e : StatementEntry) : (e.counting x).errors = e.errors + [x].countP (·.failed) := by
      rw [List.countP_singleton]
      unfold StatementEntry.counting
      split <;> rfl
    rw [ofList_concat, total_counting _ _ rfl hstep, ih, List.countP_append]

/-! ## Entries -/

/-- One more element counts if it is new. -/
theorem eraseDups_concat {α : Type} [BEq α] [LawfulBEq α] (as : List α) (a : α) :
    (as ++ [a]).eraseDups = if a ∈ as then as.eraseDups else as.eraseDups ++ [a] := by
  rw [List.eraseDups_append]
  by_cases h : a ∈ as
  · have hnone : [a].removeAll as = [] := by simpa [List.removeAll] using h
    rw [if_pos h, hnone, List.eraseDups_nil, List.append_nil]
  · have hall : [a].removeAll as = [a] := by simpa [List.removeAll] using h
    rw [if_neg h, hall]
    rfl

/-- What executions tell of a statement text: the tag of the connection it last ran on, how often it
was executed and how often it failed. -/
def told (query : String) : StatementEntry :=
  let own := xs.filter (·.query == query)
  { query
    role := (own.getLast?.map (·.role)).getD ""
    count := own.length
    errors := own.countP (·.failed) }

/-- The statement texts in order of first execution. -/
def texts : List String := (xs.map (·.query)).eraseDups

theorem mem_texts {xs : List Execution} {query : String} :
    query ∈ texts xs ↔ ∃ x ∈ xs, x.query = query := by
  unfold texts
  rw [List.mem_eraseDups, List.mem_map]

theorem texts_concat :
    texts (xs ++ [x]) = if x.query ∈ texts xs then texts xs else texts xs ++ [x.query] := by
  have hmem : x.query ∈ texts xs ↔ x.query ∈ xs.map (·.query) := List.mem_eraseDups
  rw [if_congr hmem rfl rfl]
  unfold texts
  rw [List.map_append, List.map_singleton, eraseDups_concat]

theorem texts_nodup : (texts xs).Nodup := by
  induction xs using List.reverseRecOn with
  | nil => exact List.nodup_nil
  | append_singleton xs x ih =>
    rw [texts_concat]
    split
    · exact ih
    · rename_i hnew
      rw [← List.concat_eq_append]
      exact ih.concat hnew

theorem told_concat (query : String) :
    told (xs ++ [x]) query =
      if query = x.query then (told xs query).counting x else told xs query := by
  by_cases h : query = x.query
  · subst h
    rw [if_pos rfl]
    unfold told StatementEntry.counting
    rw [List.filter_append, List.filter_singleton]
    cases hfailed : x.failed <;> simp [hfailed]
  · have hne : (x.query == query) = false := by simpa using Ne.symm h
    simp [told, hne, h]

theorem told_of_notMem {xs : List Execution} {query : String} (h : query ∉ texts xs) :
    told xs query = { query, role := "" } := by
  have hnone : xs.filter (·.query == query) = [] := by
    refine List.filter_eq_nil_iff.mpr fun x hx hquery => ?_
    exact h (mem_texts.mpr ⟨x, hx, by simpa using hquery⟩)
  unfold told
  rw [hnone]
  rfl

/-- No two of the statement texts have one digest. -/
def ToldApart : Prop :=
  ∀ p ∈ texts xs, ∀ q ∈ texts xs, Digest.ofText p = Digest.ofText q → p = q

theorem Tally.ofList_eq (h : ToldApart xs) :
    Tally.ofList xs = (texts xs).map fun q => (Digest.ofText q, told xs q) := by
  induction xs using List.reverseRecOn with
  | nil => rfl
  | append_singleton xs x ih =>
    have hsub {p : String} (hp : p ∈ texts xs) : p ∈ texts (xs ++ [x]) := by
      rw [mem_texts] at hp ⊢
      exact hp.imp fun y hy => ⟨List.mem_append_left _ hy.1, hy.2⟩
    have hx : x.query ∈ texts (xs ++ [x]) := mem_texts.mpr ⟨x, by simp, rfl⟩
    have hkey (p : String) (hp : p ∈ texts xs) (heq : Digest.ofText p = Digest.ofText x.query) :
        p = x.query := h p (hsub hp) x.query hx heq
    rw [ofList_concat, ih fun p hp q hq => h p (hsub hp) q (hsub hq), texts_concat]
    unfold counting before
    rw [Assoc.get?_keyed hkey, Assoc.put_keyed hkey (texts_nodup xs)]
    by_cases hseen : x.query ∈ texts xs
    · -- a text that was seen keeps its place, and what is told of the others stays
      rw [if_pos hseen, if_pos hseen, if_pos hseen]
      refine List.map_congr_left fun p _ => ?_
      rw [told_concat]
      by_cases hp : p = x.query
      · rw [if_pos hp, if_pos hp, hp, Option.getD_some]
      · rw [if_neg hp, if_neg hp]
    · -- a new text comes last, and nothing was told of it before
      rw [if_neg hseen, if_neg hseen, if_neg hseen, List.map_append, List.map_singleton,
        told_concat, if_pos rfl, told_of_notMem hseen]
      congr 1
      refine List.map_congr_left fun p hp => ?_
      rw [told_concat, if_neg fun heq : p = x.query => hseen (heq ▸ hp)]

/-! ## Logs -/

namespace StatementLog

variable {log : StatementLog} {xs : List Execution}

theorem values_tally (log : StatementLog) :
    Assoc.values log.tally = log.list.map StatementEntry.untimed := by
  simp [tally, list, Assoc.mapValues, Assoc.values]

theorem total_tally (log : StatementLog) {g : StatementEntry → Nat} (hg : ∀ e, g e.untimed = g e) :
    Assoc.total g log.tally = (log.list.map g).sum := by
  unfold Assoc.total
  rw [values_tally, List.map_map]
  exact congrArg List.sum (List.map_congr_left fun e _ => hg e)

/-- The entries of a log that has counted executions, apart from their times. -/
theorem list_of_tally (h : log.tally = Tally.ofList xs) (happart : ToldApart xs) :
    log.list.map StatementEntry.untimed = (texts xs).map (told xs) := by
  rw [← values_tally, h, Tally.ofList_eq xs happart]
  simp [Assoc.values]

/-- The totals of a log that has counted executions, apart from the total time. -/
theorem summary_of_tally (h : log.tally = Tally.ofList xs) (happart : ToldApart xs) :
    ∃ time, log.summary = .ofFacts [("count", .int xs.length),
      ("distinct", .int (texts xs).length), ("time", time),
      ("errors", .int (xs.countP (·.failed)))] := by
  have hcount : (log.list.map (·.count)).sum = xs.length := by
    rw [← total_tally log fun _ => rfl, h, Tally.total_count]
  have herrors : (log.list.map (·.errors)).sum = xs.countP (·.failed) := by
    rw [← total_tally log fun _ => rfl, h, Tally.total_errors]
  have hdistinct : log.list.length = (texts xs).length := by
    simpa using congrArg List.length (list_of_tally h happart)
  refine ⟨totalTime log.list, ?_⟩
  unfold summary
  rw [hcount, herrors, hdistinct]

/-- A log that has counted nothing is empty. -/
theorem list_of_tally_nil (h : log.tally = []) : log.list = [] := by
  have hvalues := values_tally log
  rw [h] at hvalues
  exact List.map_eq_nil_iff.mp hvalues.symm

end StatementLog

end SqlDesk.Log
