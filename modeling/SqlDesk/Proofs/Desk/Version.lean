import SqlDesk.Proofs.Desk.Run
import SqlDesk.Proofs.Text.Utf8
import SqlDesk.Proofs.Version

/-!
# What a desk knows of the version

The facts about the version of a server belong together: they are all read from one row of the
server, or all assumed before there is one. So at any time the number and the vendor are those of
the version text and the comment that are remembered beside them.
-/

namespace SqlDesk

/-- The number and the vendor of a version are those of its text and its comment. -/
structure ServerVersion.Coherent (v : ServerVersion) : Prop where
  number : versionNumber v.text = .ok v.number
  vendor : (v.isMariadb, v.isPercona) = detectVendor v.text (ServerVersion.commentText v.comment)

/-- A version row tells a release: its version text, which may be given as bytes, does. -/
def Release.InRow (a : Release) (row : Value) : Prop :=
  ∃ es text, row = .map es ∧ ServerVersion.rowText (Row.column es "@@version") = some text ∧
    a.ToldBy text

/-- The facts about a version are those of a row: its text, the text of its comment and what follows
from these two. -/
structure ServerVersion.ReadFrom (v : ServerVersion) (row : Value) : Prop where
  coherent : v.Coherent
  columns : ∃ es, row = .map es ∧ ServerVersion.rowText (Row.column es "@@version") = some v.text ∧
    v.comment = .text (ServerVersion.rowComment (Row.column es "@@version_comment"))

namespace ServerVersion

theorem Coherent.vendor_unique {v : ServerVersion} (h : v.Coherent) :
    ¬ (v.isMariadb = true ∧ v.isPercona = true) := by
  rintro ⟨hmariadb, hpercona⟩
  have hvendor := h.vendor
  rw [hmariadb, hpercona] at hvendor
  unfold detectVendor at hvendor
  obtain ⟨hfirst, hsecond⟩ := Prod.mk.inj hvendor
  rw [← hfirst] at hsecond
  exact Bool.noConfusion hsecond

theorem coherent_assumed : assumed.Coherent where
  number := by decide
  vendor := by decide

theorem coherent_of_parse {text : String} {comment : Value} {v : ServerVersion}
    (h : parse text comment = .ok v) : v.Coherent ∧ v.text = text ∧ v.comment = comment := by
  obtain ⟨number, hnumber, h⟩ := Except.bind_eq_ok.mp h
  obtain rfl := Except.ok.inj h
  exact ⟨⟨hnumber, rfl⟩, rfl, rfl⟩

/-- A row is taken if it has a version text that starts with a version and can be parsed. -/
theorem ofRow_eq_some_iff {row : Value} {v : ServerVersion} :
    ofRow row = .ok (some v) ↔ ∃ es text, row = .map es ∧
      rowText (Row.column es "@@version") = some text ∧
      (versionGroups text.toList).isSome = true ∧
      parse text (.text (rowComment (Row.column es "@@version_comment"))) = .ok v := by
  constructor
  · intro h
    unfold ofRow at h
    cases row with
    | map es =>
      dsimp only at h
      rcases htext : rowText (Row.column es "@@version") with _ | text <;> rw [htext] at h
      · cases h
      · dsimp only at h
        split at h
        · cases h
        · rename_i hgroups
          obtain ⟨w, hparse, hw⟩ := Except.map_eq_ok.mp h
          obtain rfl := Option.some.inj hw
          have hsome := Option.isSome_iff_ne_none.mpr (mt Option.isNone_iff_eq_none.mpr hgroups)
          exact ⟨es, text, rfl, htext, hsome, hparse⟩
    | _ => cases h
  · rintro ⟨es, text, rfl, htext, hsome, hparse⟩
    have hgroups : ¬ (versionGroups text.toList).isNone = true :=
      mt Option.isNone_iff_eq_none.mp (Option.isSome_iff_ne_none.mp hsome)
    unfold ofRow
    dsimp only
    rw [htext]
    dsimp only
    rw [if_neg hgroups, hparse]
    rfl

theorem readFrom_of_ofRow {row : Value} {v : ServerVersion} (h : ofRow row = .ok (some v)) :
    v.ReadFrom row := by
  obtain ⟨es, text, hrow, htext, -, hparse⟩ := ofRow_eq_some_iff.mp h
  obtain ⟨hcoherent, rfl, hcomment⟩ := coherent_of_parse hparse
  exact ⟨hcoherent, es, hrow, htext, hcomment⟩

/-- The rows that are taken are those that tell a release. -/
theorem exists_ofRow_iff {row : Value} :
    (∃ v, ofRow row = .ok (some v)) ↔ ∃ a : Release, a.InRow row := by
  constructor
  · rintro ⟨v, h⟩
    obtain ⟨es, text, hrow, htext, hsome, hparse⟩ := ofRow_eq_some_iff.mp h
    obtain ⟨hcoherent, rfl, -⟩ := coherent_of_parse hparse
    obtain ⟨a, ha⟩ := Release.exists_toldBy_iff.mpr ⟨hsome, _, hcoherent.number⟩
    exact ⟨a, es, _, hrow, htext, ha⟩
  · rintro ⟨a, es, text, hrow, htext, ha⟩
    obtain ⟨hsome, -⟩ := Release.exists_toldBy_iff.mp ⟨a, ha⟩
    obtain ⟨v, hparse, -⟩ := ha.parse (.text (rowComment (Row.column es "@@version_comment")))
    exact ⟨v, ofRow_eq_some_iff.mpr ⟨es, text, hrow, htext, hsome, hparse⟩⟩

/-- The number that is read from a row is that of its release. -/
theorem ReadFrom.number_eq {row : Value} {v : ServerVersion} (h : v.ReadFrom row) {a : Release}
    (ha : a.InRow row) : v.number = a.packed := by
  obtain ⟨es, hrow, htext, -⟩ := h.columns
  obtain ⟨es', text, hrow', htext', ha⟩ := ha
  obtain rfl : es = es' := Value.map.inj (hrow.symm.trans hrow')
  obtain rfl : v.text = text := Option.some.inj (htext.symm.trans htext')
  exact Except.ok.inj (h.coherent.number.symm.trans ha.versionNumber)

end ServerVersion

namespace Desk

open Act

variable {σ : Type} {desk : Desk σ}

/-- What is known of the version stays coherent. -/
def KeepsCoherent (s t : DeskState σ) : Prop :=
  s.memory.version.Coherent → t.memory.version.Coherent

theorem keepsCoherent_steady (l : Licence) : desk.Steady l KeepsCoherent where
  refl _ := id
  trans h h' := h' ∘ h
  post _ _ := id
  statement unbuffered s _ _ := by
    unfold KeepsCoherent
    rw [measured_run]
    exact id
  request _ _ _ := id
  change s h _ := by
    cases h with
    | version hrow => exact fun _ => (ServerVersion.readFrom_of_ofRow hrow).coherent
    | _ => exact id
  storage _ _ _ := id

theorem run_coherent (ms : List Move) (w : World σ) :
    (desk.run ms ⟨desk.newMemory, w⟩).2.memory.version.Coherent :=
  run_within (R := KeepsCoherent) (fun _ => id) (fun h h' => h' ∘ h) (fun _ _ => id)
    (fun _ _ => perform_within (keepsCoherent_steady _)) _ ServerVersion.coherent_assumed

/-- A version row is taken over as a whole or not at all. -/
theorem perform_setVersion (desk : Desk σ) (row : Value) (s : DeskState σ) :
    match ServerVersion.ofRow row with
    | .ok (some version) => (desk.perform (.setVersion row) s).1 = .ok .nothing ∧
        (desk.perform (.setVersion row) s).2.memory.version = version
    | .ok none => (desk.perform (.setVersion row) s).1 = .ok .nothing ∧
        (desk.perform (.setVersion row) s).2.memory.version = s.memory.version
    | .error f => desk.perform (.setVersion row) s = (.error (.fault f), s) := by
  have hrun : desk.perform (.setVersion row) s =
      (setVersion row >>= fun _ => pure .nothing : Act σ Reply) s := rfl
  rw [hrun]
  unfold setVersion
  simp only [run_bind, run_ofFault]
  rcases ServerVersion.ofRow row with f | _ | version
  · rfl
  · exact ⟨rfl, rfl⟩
  · simp only [Error.ofFault_ok, run_bind, run_remember]
    cases version.isUpgradeRequired <;> exact ⟨rfl, rfl⟩

/-- At any time the facts about the version belong together. A version row replaces all of them by
its own if it tells a release, be it as text or as bytes; a row that is malformed or cannot be read
leaves all of them as they are. -/
theorem version_coherent (desk : Desk σ) (ms : List Move) (w : World σ) :
    let s := (desk.run ms ⟨desk.newMemory, w⟩).2
    let v := s.memory.version
    ((desk.perform .version s).1 = .ok (.number v.number) ∧
      (desk.perform .isMariadb s).1 = .ok (.truth v.isMariadb) ∧
      (desk.perform .isPercona s).1 = .ok (.truth v.isPercona) ∧
      versionNumber v.text = .ok v.number ∧
      (v.isMariadb, v.isPercona) = detectVendor v.text (ServerVersion.commentText v.comment) ∧
      ¬ (v.isMariadb = true ∧ v.isPercona = true)) ∧
    ∀ row, let t := (desk.perform (.setVersion row) s).2
      (match ServerVersion.ofRow row with
        | .ok (some _) => t.memory.version.ReadFrom row
        | _ => t.memory.version = v) ∧
      (∀ a : Release, a.InRow row →
        t.memory.version.ReadFrom row ∧ t.memory.version.number = a.packed) ∧
      ((∀ a : Release, ¬ a.InRow row) → t.memory.version = v) := by
  intro s v
  have hcoherent : v.Coherent := run_coherent ms w
  refine ⟨⟨rfl, rfl, rfl, hcoherent.number, hcoherent.vendor, hcoherent.vendor_unique⟩, ?_⟩
  intro row t
  -- the row's facts are taken as a whole or not at all
  have htaken : match ServerVersion.ofRow row with
      | .ok (some _) => t.memory.version.ReadFrom row
      | _ => t.memory.version = v := by
    have hset := perform_setVersion desk row s
    rcases hrow : ServerVersion.ofRow row with f | _ | version <;> rw [hrow] at hset
    · exact congrArg (·.2.memory.version) hset
    · exact hset.2
    · have hversion : t.memory.version = version := hset.2
      dsimp only
      rw [hversion]
      exact ServerVersion.readFrom_of_ofRow hrow
  refine ⟨htaken, fun a ha => ?_, fun hnone => ?_⟩
  · obtain ⟨version, hrow⟩ := ServerVersion.exists_ofRow_iff.mpr ⟨a, ha⟩
    rw [hrow] at htaken
    exact ⟨htaken, htaken.number_eq ha⟩
  · have hrow := fun h => (ServerVersion.exists_ofRow_iff.mp h).elim hnone
    split at htaken
    · rename_i version heq
      exact absurd ⟨version, heq⟩ hrow
    · exact htaken

/-- A version that is given as bytes is taken with what follows from it, and a row without a number
leaves it as it is. -/
theorem bytes_version_taken :
    let desk : Desk Script := { driver := Script.driver, clock := fun _ => .int 0, scope := "" }
    let row (version : Value) : Value :=
      .map [(.text "@@version", version), (.text "@@version_comment", .text "maria")]
    let told := row (.bytes (Text.encode " 10.6.12-MariaDB-log"))
    let vague := row (.text "unknown")
    let w : World Script := { journal := { state := {} } }
    let after (rows : List Value) : ServerVersion :=
      (desk.run (rows.map fun row => .ask (.setVersion row)) ⟨desk.newMemory, w⟩).2.memory.version
    (Release.InRow ⟨10, 6, 12⟩ told ∧ ∀ a, ¬ Release.InRow a vague) ∧
      (after [told]).ReadFrom told ∧ (after [told]).number = 100612 ∧
      (after [told]).text = " 10.6.12-MariaDB-log" ∧ (after [told]).isMariadb = true ∧
      after [told, vague] = after [told] := by
  intro desk row told vague w after
  have htext : ServerVersion.rowText (.bytes (Text.encode " 10.6.12-MariaDB-log")) =
      some " 10.6.12-MariaDB-log" := congrArg some (Text.decodeLossy_encode _)
  have htold : Release.InRow ⟨10, 6, 12⟩ told := by
    refine ⟨_, _, rfl, htext, ['1', '0'], ['6'], ['1', '2'], startsWithVersion_iff.mpr ?_, ?_, ?_⟩ <;>
      decide +kernel
  have hvague (a : Release) : ¬ Release.InRow a vague := by
    rintro ⟨es, text, hrow, htext, ha⟩
    obtain rfl := Value.map.inj hrow
    obtain rfl : "unknown" = text := Option.some.inj htext
    obtain ⟨hsome, -⟩ := Release.exists_toldBy_iff.mp ⟨a, ha⟩
    exact absurd hsome (by decide)
  obtain ⟨-, hfirst⟩ := version_coherent desk [] w
  have hread : (after [told]).ReadFrom told := ((hfirst told).2.1 _ htold).1
  have hnumber : (after [told]).number = 100612 := ((hfirst told).2.1 _ htold).2
  obtain ⟨-, hsecond⟩ := version_coherent desk [.ask (.setVersion told)] w
  have hkept : after [told, vague] = after [told] := (hsecond vague).2.2 hvague
  obtain ⟨es, hes, hread', hcomment⟩ := hread.columns
  obtain rfl := Value.map.inj hes
  have htaken : (after [told]).text = " 10.6.12-MariaDB-log" :=
    (Option.some.inj (htext.symm.trans hread')).symm
  have hmariadb : (after [told]).isMariadb = true := by
    have hvendor := hread.coherent.vendor
    rw [htaken, hcomment] at hvendor
    exact congrArg Prod.fst hvendor
  exact ⟨⟨htold, hvague⟩, hread, hnumber, htaken, hmariadb, hkept⟩

end Desk

end SqlDesk
