import SqlDesk.Proofs.Settings.Environment
import SqlDesk.Proofs.Settings.Server
import SqlDesk.Settings.Desk

/-!
# References to the environment

A field may be given as a reference. Server settings that are read for themselves then hold the value
of the variable as it is. As a part of the settings of a desk they are read from a mapping in which
references have been expanded already, and expand them once more: there they hold the value exactly
if it has no reference of its own that comes to something else.
-/

namespace SqlDesk.Settings

open Model

theorem read_text {env : Environment} {field : String} (h : field ∈ ServerSettings.texts)
    (x : String) : ServerSettings.model.read env (single field (.text x)) =
      ServerSettings.write field (.text (env.expand x)) {} := by
  have hmem : field ∈ ServerSettings.model.fields := by
    have hsub : ServerSettings.texts ⊆ ServerSettings.model.fields := by decide
    exact hsub h
  exact read_single (by decide) hmem (.text x) (ServerSettings.write_text_ne_invalid_nil h _ _)

/-- Server settings inside the settings of a desk are read with their references expanded before. -/
theorem read_server_iff {env : Environment} {given : Value} {d : DeskSettings} :
    DeskSettings.model.read env (single "server" given) = .ok d ↔
      ∃ s, ServerSettings.model.read env (env.expandValue given) = .ok s ∧
        d = { server := s } := by
  have hwrite : DeskSettings.model.write env "server" (env.expandValue given) {} =
      (fun x => { server := x }) <$>
        ServerSettings.model.readField env "server" (env.expandValue given) := rfl
  have hissues : DeskSettings.model.write env "server" (env.expandValue given) {} ≠
      .error (.invalid []) := by
    rw [hwrite]
    intro h
    rw [Except.map_eq_error] at h
    exact readField_ne_invalid_nil "server" (env.expandValue given) h
  rw [read_single (by decide) (by decide) given hissues]
  show DeskSettings.model.write env "server" (env.expandValue given) {} = .ok d ↔ _
  rw [hwrite, Except.map_eq_ok]
  constructor
  · rintro ⟨s, hs, rfl⟩
    exact ⟨s, readField_eq_ok.mp hs, rfl⟩
  · rintro ⟨s, hs, rfl⟩
    exact ⟨s, readField_eq_ok.mpr hs, rfl⟩

theorem expandValue_single (env : Environment) (field x : String) :
    env.expandValue (single field (.text x)) = single field (.text (env.expand x)) := by
  unfold single
  rw [Environment.expandValue, Environment.expandEntries, Environment.expandEntries,
    Environment.expandValue]

section Reference

variable {env : Environment} {field name value : String} (hfield : field ∈ ServerSettings.texts)
  (hname : IsVariable name) (hvalue : Assoc.get? env name = some value)

include hfield hname hvalue

theorem read_reference : ServerSettings.model.read env (single field (.text (reference name))) =
    ServerSettings.write field (.text value) {} := by
  rw [read_text hfield, env.expand_reference hname, hvalue]
  rfl

theorem read_nested_reference_iff {d : DeskSettings} :
    DeskSettings.model.read env (single "server" (single field (.text (reference name)))) = .ok d ↔
      ∃ s, ServerSettings.write field (.text (env.expand value)) {} = .ok s ∧
        d = { server := s } := by
  have hreference : env.expand (reference name) = value := by
    rw [env.expand_reference hname, hvalue]
    rfl
  rw [read_server_iff, expandValue_single, hreference, read_text hfield]

/-- A field that is given as a reference holds the value of the variable in server settings that are
read for themselves; inside the settings of a desk it holds the value with the references in it
expanded, which is the value exactly if they come to themselves. -/
theorem read_reference_iff (hpasses : ServerSettings.Passes field value) :
    let given := single field (.text (reference name))
    let held := ({} : ServerSettings).setText field value
    ServerSettings.model.read env given = .ok held ∧ held.text? field = some value ∧
      (∀ d, DeskSettings.model.read env (single "server" given) = .ok d →
        d.server = ({} : ServerSettings).setText field (env.expand value)) ∧
      ((∃ d, DeskSettings.model.read env (single "server" given) = .ok d ∧ d.server = held) ↔
        env.expand value = value) := by
  intro given held
  have hwritten : ServerSettings.write field (.text value) {} = .ok held :=
    ServerSettings.write_text_of_passes hfield hpasses {}
  have hheld : held.text? field = some value := ServerSettings.text?_setText hfield {} value
  have hread : ServerSettings.model.read env given = .ok held := by
    rw [read_reference hfield hname hvalue]
    exact hwritten
  have hnested (d : DeskSettings) (hd : DeskSettings.model.read env (single "server" given) = .ok d) :
      d.server = ({} : ServerSettings).setText field (env.expand value) := by
    obtain ⟨s, hs, rfl⟩ := (read_nested_reference_iff hfield hname hvalue).mp hd
    exact ServerSettings.setText_of_write_text hfield hs
  refine ⟨hread, hheld, hnested, ?_, fun h => ?_⟩
  · rintro ⟨d, hd, hserver⟩
    have htext : some (env.expand value) = held.text? field := by
      rw [← hserver, hnested d hd, ServerSettings.text?_setText hfield]
    exact Option.some.inj (htext.trans hheld)
  · refine ⟨{ server := held }, ?_, rfl⟩
    refine (read_nested_reference_iff hfield hname hvalue).mpr ⟨held, ?_, rfl⟩
    rw [h]
    exact hwritten

end Reference

theorem pattern_reference_held :
    let env : Environment := [("HIDDEN", "^(mysql|sys)$")]
    let given := single "hide_db" (.text (reference "HIDDEN"))
    IsVariable "HIDDEN" ∧ ServerSettings.Passes "hide_db" "^(mysql|sys)$" ∧
      ∃ s d, ServerSettings.model.read env given = .ok s ∧ s.hideDb = "^(mysql|sys)$" ∧
        DeskSettings.model.read env (single "server" given) = .ok d ∧ d.server = s := by
  intro env given
  have hname : IsVariable "HIDDEN" := ⟨by decide, by decide, by decide⟩
  have hpasses : ServerSettings.Passes "hide_db" "^(mysql|sys)$" := by decide +kernel
  obtain ⟨hread, -, -, hiff⟩ :=
    @read_reference_iff env "hide_db" _ _ (by decide) hname rfl hpasses
  obtain ⟨d, hd, hserver⟩ := hiff.mpr (by decide)
  exact ⟨hname, hpasses, _, d, hread, rfl, hd, hserver⟩

/-- A password with a reference in it is altered inside the settings of a desk. -/
theorem password_reference_altered :
    let env : Environment := [("DB_PASSWORD", "a$\x7bx\x7db")]
    let given := single "password" (.text (reference "DB_PASSWORD"))
    (∃ s, ServerSettings.model.read env given = .ok s ∧ s.password.text = "a$\x7bx\x7db") ∧
      ∃ d, DeskSettings.model.read env (single "server" given) = .ok d ∧
        d.server.password.text = "ab" :=
  ⟨⟨_, rfl, rfl⟩, _, rfl, rfl⟩

end SqlDesk.Settings
