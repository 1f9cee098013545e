import SqlDesk.Proofs.Settings.Redacted
import SqlDesk.Settings.Desk

/-!
# Secrets and output

The masked output of settings does not depend on the secrets in them. Settings are compared with
their secrets blank: a kind of settings is discreet if every write, every expansion and the masked
output respect that comparison. So two runs that are given the same but for the texts of secrets
succeed and fail alike, and show the same after every step.
-/

namespace SqlDesk

namespace Settings

open Value

/-- A field to be assigned, by its path, and the value for it. -/
structure Assignment where
  path : List String
  value : Value

/-- An assignment with the texts that it gives for secrets blank. -/
def Assignment.redact (a : Assignment) : Assignment :=
  { a with value := a.value.redactFor (a.path.getLastD "") }

namespace Model

variable {α : Type} (m : Model α) (env : Environment)

/-- Carry out an assignment: whether it was accepted, and the settings after it. Where it is refused
they stay as they are. -/
def turn (a : Assignment) (s : α) : Except Error Unit × α :=
  match m.assignAt env a.path a.value s with
  | .ok t => (.ok (), t)
  | .error e => (.error e, s)

/-- What is seen of assignments: the outcome of each, and the masked output after it. -/
def seen : List Assignment → α → List (Except Error Unit × List (String × Dump))
  | [], _ => []
  | a :: as, s =>
    let (r, t) := m.turn env a s
    (r, m.dump true t) :: seen as t

/-- What is seen of settings that are read and then assigned to. -/
def observe (given : Value) (as : List Assignment) :
    Except Error (List (String × Dump) × List (Except Error Unit × List (String × Dump))) :=
  (fun s => (m.dump true s, m.seen env as s)) <$> m.read env given

/-! ## Discreet kinds of settings -/

/-- A kind of settings whose secrets, which `veil` blanks, are neither looked at nor shown. -/
structure Discreet (veil : α → α) : Prop where
  write : ∀ env field v s,
    veil <$> m.write env field (v.redactFor field) (veil s) = veil <$> m.write env field v s
  expand : ∀ env s, m.expand env (veil s) = veil (m.expand env s)
  dump : ∀ s, m.dump true (veil s) = m.dump true s
  writeInside : ∀ env field path v s,
    veil <$> m.writeInside env field path (v.redactFor (path.getLastD "")) (veil s) =
      veil <$> m.writeInside env field path v s

namespace Discreet

variable {m} {veil : α → α} (hm : Discreet m veil)

include hm

theorem write_congr {field : String} {v w : Value} {s t : α}
    (hv : v.redactFor field = w.redactFor field) (hs : veil s = veil t) :
    veil <$> m.write env field v s = veil <$> m.write env field w t := by
  rw [← hm.write, hv, hs, hm.write]

theorem writeInside_congr {field : String} {path : List String} {v w : Value} {s t : α}
    (hv : v.redactFor (path.getLastD "") = w.redactFor (path.getLastD "")) (hs : veil s = veil t) :
    veil <$> m.writeInside env field path v s = veil <$> m.writeInside env field path w t := by
  rw [← hm.writeInside, hv, hs, hm.writeInside]

theorem expand_congr {s t : α} (hs : veil s = veil t) :
    veil (m.expand env s) = veil (m.expand env t) := by
  rw [← hm.expand, hs, hm.expand]

theorem dump_congr {s t : α} (hs : veil s = veil t) : m.dump true s = m.dump true t := by
  rw [← hm.dump, hs, hm.dump]

/-! ### Reading -/

theorem writeFields_congr {es es' : Row} (hes : redactEntries es = redactEntries es')
    (fields : List String) {s t : α} (hs : veil s = veil t) (issues : List Issue) :
    Prod.map veil id <$> m.writeFields env es fields s issues =
      Prod.map veil id <$> m.writeFields env es' fields t issues := by
  induction fields generalizing s t issues with
  | nil =>
    have hpair : Prod.map veil id (s, issues) = Prod.map veil id (t, issues) :=
      Prod.ext hs rfl
    exact congrArg Except.ok hpair
  | cons f fs ih =>
    have hcolumn : (Row.column? es f).map (redactFor f) = (Row.column? es' f).map (redactFor f) := by
      rw [← column?_redactEntries, ← column?_redactEntries, hes]
    rw [Model.writeFields, Model.writeFields]
    rcases hv : Row.column? es f with _ | v <;> rcases hw : Row.column? es' f with _ | w <;>
      rw [hv, hw] at hcolumn
    · exact ih hs issues
    · cases hcolumn
    · cases hcolumn
    · have hwrite : veil <$> m.write env f v s = veil <$> m.write env f w t :=
        hm.write_congr env (Option.some.inj hcolumn) hs
      dsimp only
      rcases hx : m.write env f v s with e | s' <;> rcases hy : m.write env f w t with e' | t' <;>
        rw [hx, hy] at hwrite
      · obtain rfl := Except.error.inj hwrite
        cases e with
        | invalid more => exact ih hs _
        | _ => rfl
      · cases hwrite
      · cases hwrite
      · exact ih (Except.ok.inj hwrite) issues

/-- Settings that are read from values that differ at most in secrets differ at most in secrets, and
where one value is refused the other is refused for the same reason. -/
theorem read_congr {v w : Value} (h : v.redact = w.redact) :
    veil <$> m.read env v = veil <$> m.read env w := by
  have hexpanded : (env.expandValue v).redact = (env.expandValue w).redact := by
    rw [← env.expandValue_redact, ← env.expandValue_redact, h]
  unfold Model.read
  rcases map_of_redact_eq hexpanded with ⟨es, es', hv, hw, hes⟩ | ⟨hv, hw⟩
  · have hkeys : Assoc.keys es = Assoc.keys es' := by
      rw [← keys_redactEntries, ← keys_redactEntries es', hes]
    have hfields := hm.writeFields_congr env hes m.fields (Eq.refl (veil m.default)) []
    rw [hv, hw]
    dsimp only
    rw [hkeys]
    rcases hx : m.writeFields env es m.fields m.default [] with e | ⟨s, is⟩ <;>
      rcases hy : m.writeFields env es' m.fields m.default [] with e' | ⟨t, js⟩ <;>
      rw [hx, hy] at hfields
    · obtain rfl := Except.error.inj hfields
      rfl
    · cases hfields
    · cases hfields
    · obtain ⟨hst, rfl : is = js⟩ := Prod.mk.inj (Except.ok.inj hfields)
      rw [Except.ok_bind, Except.ok_bind]
      dsimp only
      split
      · exact congrArg Except.ok hst
      · rfl
  · split
    · exact absurd ‹_› (hv _)
    · rfl

theorem readField_congr (field : String) {v w : Value} (h : v.redact = w.redact) :
    veil <$> m.readField env field v = veil <$> m.readField env field w := by
  have hread := hm.read_congr env h
  unfold readField
  rcases hx : m.read env v with e | s <;> rcases hy : m.read env w with e' | t <;>
    rw [hx, hy] at hread
  · obtain rfl := Except.error.inj hread
    cases e <;> rfl
  · cases hread
  · cases hread
  · exact hread

/-! ### Assigning -/

theorem assign_congr {field : String} {v w : Value} {s t : α}
    (hv : v.redactFor field = w.redactFor field) (hs : veil s = veil t) :
    veil <$> m.assign env field v s = veil <$> m.assign env field w t := by
  unfold Model.assign
  split
  · exact hm.write_congr env hv (hm.expand_congr env hs)
  · split
    · exact congrArg Except.ok hs
    · split <;> rfl

theorem assignAt_congr {path : List String} {v w : Value} {s t : α}
    (hv : v.redactFor (path.getLastD "") = w.redactFor (path.getLastD "")) (hs : veil s = veil t) :
    veil <$> m.assignAt env path v s = veil <$> m.assignAt env path w t := by
  unfold Model.assignAt
  split
  · rfl
  · exact hm.assign_congr env hv hs
  · rename_i field rest hrest
    rcases rest with _ | ⟨next, rest⟩
    · exact absurd rfl hrest
    · exact hm.writeInside_congr env hv hs

theorem turn_congr {a b : Assignment} (h : a.redact = b.redact) {s t : α} (hs : veil s = veil t) :
    (m.turn env a s).1 = (m.turn env b t).1 ∧ veil (m.turn env a s).2 = veil (m.turn env b t).2 := by
  rcases a with ⟨path, v⟩
  rcases b with ⟨path', w⟩
  obtain ⟨rfl : path = path', hv⟩ := Assignment.mk.inj h
  have hassign := hm.assignAt_congr env hv hs
  unfold turn
  dsimp only at hassign ⊢
  rcases hx : m.assignAt env path v s with e | s' <;>
    rcases hy : m.assignAt env path w t with e' | t' <;> rw [hx, hy] at hassign
  · obtain rfl := Except.error.inj hassign
    exact ⟨rfl, hs⟩
  · cases hassign
  · cases hassign
  · exact ⟨rfl, Except.ok.inj hassign⟩

theorem seen_congr {as bs : List Assignment} (h : as.map Assignment.redact = bs.map Assignment.redact)
    {s t : α} (hs : veil s = veil t) : m.seen env as s = m.seen env bs t := by
  induction as generalizing bs s t with
  | nil =>
    obtain rfl : bs = [] := List.map_eq_nil_iff.mp h.symm
    rfl
  | cons a as ih =>
    rcases bs with _ | ⟨b, bs⟩
    · cases h
    · obtain ⟨hab, hrest⟩ := List.cons.inj h
      obtain ⟨houtcome, hafter⟩ := hm.turn_congr env hab hs
      rw [Model.seen, Model.seen]
      dsimp only
      rw [ih hrest hafter, hm.dump_congr hafter, houtcome]

theorem observe_congr {v w : Value} (hvw : v.redact = w.redact) {as bs : List Assignment}
    (h : as.map Assignment.redact = bs.map Assignment.redact) :
    m.observe env v as = m.observe env w bs := by
  have hread := hm.read_congr env hvw
  unfold observe
  rcases hx : m.read env v with e | s <;> rcases hy : m.read env w with e' | t <;>
    rw [hx, hy] at hread
  · exact congrArg Except.error (Except.error.inj hread)
  · cases hread
  · cases hread
  · have hs : veil s = veil t := Except.ok.inj hread
    have hseen : m.seen env as s = m.seen env bs t := hm.seen_congr env h hs
    show Except.ok (m.dump true s, m.seen env as s) = Except.ok (m.dump true t, m.seen env bs t)
    rw [hm.dump_congr hs, hseen]

end Discreet

end Model

end Settings

/-! ## Settings of a desk -/

namespace ServerSettings

open Settings

/-- The settings with their secrets blank. -/
def withoutSecrets (s : ServerSettings) : ServerSettings :=
  { s with password := ⟨""⟩, controlPass := ⟨""⟩ }

/-- A text that is written into a secret does not show. -/
theorem written_secret (field : String) (v : Value) {put put' : String → ServerSettings}
    {t : ServerSettings} (hput : ∀ x, withoutSecrets (put x) = t)
    (hput' : ∀ x, withoutSecrets (put' x) = t) :
    withoutSecrets <$> put <$> (readText (v.redactFor field)).at field =
      withoutSecrets <$> put' <$> (readText v).at field := by
  rcases readText_redactFor field v with ⟨x, y, rfl, hy⟩ | h
  · rw [hy]
    show Except.ok (withoutSecrets (put y)) = Except.ok (withoutSecrets (put' x))
    rw [hput, hput']
  · rw [h]
    exact Except.map_map_congr (fun x => (hput x).trans (hput' x).symm) _

theorem discreet : model.Discreet withoutSecrets where
  write env field v s := by
    show withoutSecrets <$> write field (v.redactFor field) (withoutSecrets s) =
      withoutSecrets <$> write field v s
    have htext := oblivious_readText v
    have hinteger := oblivious_readInteger v
    have htruth := oblivious_readTruth v
    have hpatterns := oblivious_readPatterns v
    have hsocket := oblivious_readText.readOptional v
    have hport := oblivious_readInteger.readOptional v
    unfold write
    split
    case h_5 => exact written_secret _ v (t := s.withoutSecrets) (fun _ => rfl) fun _ => rfl
    case h_7 => exact written_secret _ v (t := s.withoutSecrets) (fun _ => rfl) fun _ => rfl
    case h_17 => rfl
    all_goals
      rw [Value.redactFor_of_notMem (by decide)]
      simp only [htext, hinteger, htruth, hpatterns, hsocket, hport]
    case h_2 | h_13 =>
      refine Except.map_bind_congr (fun x => ?_) _
      refine Except.map_bind_congr (fun y => ?_) _
      rfl
    case h_9 =>
      refine Except.map_bind_congr (fun n => ?_) _
      rcases n with _ | n
      · rfl
      · refine Except.map_bind_congr (fun m => ?_) _
        rfl
    all_goals
      refine Except.map_map_congr (fun x => ?_) _
      rfl
  expand _ _ := rfl
  dump _ := rfl
  writeInside _ _ _ _ _ := rfl

end ServerSettings

namespace DebugSettings

open Settings

theorem discreet : model.Discreet id where
  write env field v s := by
    show id <$> write field (v.redactFor field) s = id <$> write field v s
    unfold write
    split
    · rw [Value.redactFor_of_notMem (by decide), oblivious_readTruth v]
    · rfl
  expand _ _ := rfl
  dump _ := rfl
  writeInside _ _ _ _ _ := rfl

end DebugSettings

namespace LogSettings

open Settings

theorem discreet : model.Discreet id where
  write env field v s := by
    show id <$> write field (v.redactFor field) s = id <$> write field v s
    unfold write
    split
    case h_7 => rfl
    all_goals rw [Value.redactFor_of_notMem (by decide)]
    · rw [oblivious_readLevel v]
    · rw [oblivious_readChoice _ v]
    · rw [oblivious_readPath.readOptional v]
    · rw [oblivious_readAbove _ v]
    · rw [oblivious_readAtLeast _ v]
    · rw [oblivious_readTruth v]
  expand _ _ := rfl
  dump _ := rfl
  writeInside _ _ _ _ _ := rfl

end LogSettings

namespace DeskSettings

open Settings

/-- The settings with the secrets of the server blank. -/
def withoutSecrets (s : DeskSettings) : DeskSettings := { s with server := s.server.withoutSecrets }

theorem discreet : model.Discreet withoutSecrets where
  write env field v s := by
    show withoutSecrets <$> write env field (v.redactFor field) (withoutSecrets s) =
      withoutSecrets <$> write env field v s
    unfold write
    split
    case h_8 => rfl
    all_goals rw [Value.redactFor_of_notMem (by decide)]
    case h_1 =>
      exact Except.map_map_of_map_eq (ServerSettings.discreet.readField_congr env _ v.redact_redact)
        fun a b hab => congrArg (fun x => { s with server := x }) hab
    case h_2 =>
      rw [oblivious_readTruth v]
      refine Except.map_map_congr (fun x => ?_) _
      rfl
    case h_3 | h_4 =>
      rw [oblivious_readAbove _ v]
      refine Except.map_map_congr (fun x => ?_) _
      rfl
    case h_5 =>
      rw [oblivious_readText.readOptional v]
      refine Except.map_bind_congr (fun x => ?_) _
      refine Except.map_bind_congr (fun y => ?_) _
      rfl
    case h_6 =>
      exact Except.map_map_of_map_eq (DebugSettings.discreet.readField_congr env _ v.redact_redact)
        fun a b hab => congrArg (fun x => { s.withoutSecrets with debug := x }) hab
    case h_7 =>
      exact Except.map_map_of_map_eq (LogSettings.discreet.readField_congr env _ v.redact_redact)
        fun a b hab => congrArg (fun x => { s.withoutSecrets with logging := x }) hab
  expand _ _ := rfl
  dump _ := rfl
  writeInside env field path v s := by
    have hv := v.redactFor_redactFor (path.getLastD "")
    show withoutSecrets <$> writeInside env field path (v.redactFor (path.getLastD ""))
      (withoutSecrets s) = withoutSecrets <$> writeInside env field path v s
    unfold writeInside
    split
    case h_1 =>
      exact Except.map_map_of_map_eq (ServerSettings.discreet.assignAt_congr env hv rfl)
        fun a b hab => congrArg (fun x => { s with server := x }) hab
    case h_2 =>
      exact Except.map_map_of_map_eq (DebugSettings.discreet.assignAt_congr env hv rfl)
        fun a b hab => congrArg (fun x => { s.withoutSecrets with debug := x }) hab
    case h_3 =>
      exact Except.map_map_of_map_eq (LogSettings.discreet.assignAt_congr env hv rfl)
        fun a b hab => congrArg (fun x => { s.withoutSecrets with logging := x }) hab
    case h_4 => rfl

end DeskSettings

/-! ## Two runs -/

namespace Settings

/-- Settings of a desk, or of a server, that are read from two values and assigned two sequences of
values, where the two differ at most in the texts given for secrets, cannot be told apart: reading
and every assignment have the same outcome, and the masked output after each of them is the same. -/
theorem secrets_unobservable (env : Environment) {v w : Value} (hvw : v.redact = w.redact)
    {as bs : List Assignment} (h : as.map Assignment.redact = bs.map Assignment.redact) :
    DeskSettings.model.observe env v as = DeskSettings.model.observe env w bs ∧
      ServerSettings.model.observe env v as = ServerSettings.model.observe env w bs :=
  ⟨DeskSettings.discreet.observe_congr env hvw h, ServerSettings.discreet.observe_congr env hvw h⟩

/-- Two passwords, of which one is a reference, in a run with a refused port. -/
theorem passwords_unobservable :
    let env : Environment := [("A", "x")]
    let given (password : String) : Value := Model.single "server"
      (.map [(.text "user", .text "app"), (.text "password", .text password)])
    let steps (password : String) : List Assignment :=
      [⟨["server", "password"], .text password⟩, ⟨["server", "port"], .int 0⟩,
        ⟨["server", "control_pass"], .text ("$\x7bA\x7d" ++ password)⟩]
    (given "one").redact = (given "$\x7bA\x7d").redact ∧
      (steps "one").map Assignment.redact = (steps "two").map Assignment.redact ∧
      ∃ seen, DeskSettings.model.observe env (given "one") (steps "one") = .ok seen ∧
        DeskSettings.model.observe env (given "$\x7bA\x7d") (steps "two") = .ok seen := by
  intro env given steps
  have hgiven : (given "one").redact = (given "$\x7bA\x7d").redact := rfl
  have hsteps : (steps "one").map Assignment.redact = (steps "two").map Assignment.redact := rfl
  have hsame := (secrets_unobservable env hgiven hsteps).1
  refine ⟨hgiven, hsteps, _, rfl, ?_⟩
  rw [← hsame]
  rfl

end Settings

end SqlDesk
