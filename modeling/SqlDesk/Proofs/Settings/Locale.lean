import SqlDesk.Proofs.Settings.Environment
import SqlDesk.Proofs.Settings.File
import SqlDesk.Proofs.Settings.Secrets
import SqlDesk.Proofs.Text.Identifier

/-!
# The locale in the settings of a desk

A locale is checked when it is given. The assignment of another field expands the references in it
without a further check, but what has passed for an identifier refers to nothing. So the locales that
the settings of a desk can hold are just the texts that pass.
-/

namespace SqlDesk.DeskSettings

open Settings

/-- Settings that a program can come to hold: they are read from values or from a file, whose
documents are loaded in any way, and fields of them are assigned one after the other. The environment
may change on the way. -/
inductive Obtained : DeskSettings → Prop where
  | read {env : Environment} {given : Value} {s : DeskSettings}
      (h : model.read env given = .ok s) : Obtained s
  | file {env : Environment} {load : String → Except Error Value} {read : String → Option String}
      {path : String} {s : DeskSettings} (h : ofFile env load read path = .ok s) : Obtained s
  | assign {s : DeskSettings} (env : Environment) (a : Assignment) (hs : Obtained s) :
      Obtained (model.turn env a s).2

/-- The locale, if there is one, has passed the check. -/
def LocalePasses (s : DeskSettings) : Prop := ∀ l, s.locale = some l → Text.isIdentifier l = true

variable {env : Environment} {s t : DeskSettings}

/-! ## The check -/

theorem checkLocale_eq_some_iff {given : Option String} {l : String} :
    checkLocale given = .ok (some l) ↔ given = some l ∧ Text.isIdentifier l = true := by
  rcases given with _ | g
  · simp [checkLocale]
  · unfold checkLocale
    dsimp only
    by_cases hempty : g.isEmpty = true
    · have hnot : Text.isIdentifier "" = false := by decide
      rw [if_pos hempty, String.isEmpty_iff.mp hempty]
      refine iff_of_false (by simp) ?_
      rintro ⟨h, hl⟩
      rw [← Option.some.inj h, hnot] at hl
      cases hl
    · rw [if_neg hempty]
      by_cases hg : Text.isIdentifier g = true
      · rw [if_pos hg]
        refine ⟨fun h => ?_, fun h => congrArg Except.ok h.1⟩
        obtain rfl := Option.some.inj (Except.ok.inj h)
        exact ⟨rfl, hg⟩
      · rw [if_neg hg]
        refine iff_of_false (by simp) ?_
        rintro ⟨h, hl⟩
        rw [← Option.some.inj h] at hl
        exact hg hl

/-! ## What is kept -/

theorem LocalePasses.write {field : String} {v : Value} (hs : s.LocalePasses)
    (h : write env field v s = .ok t) : t.LocalePasses := by
  unfold DeskSettings.write at h
  split at h
  case h_5 =>
    obtain ⟨given, -, h⟩ := Except.bind_eq_ok.mp h
    obtain ⟨checked, hchecked, h⟩ := Except.bind_eq_ok.mp h
    obtain rfl := Except.ok.inj h
    rintro l rfl
    exact (checkLocale_eq_some_iff.mp hchecked).2
  case h_8 => cases h
  all_goals
    obtain ⟨x, -, rfl⟩ := Except.map_eq_ok.mp h
    exact hs

/-- What has passed for an identifier refers to nothing. -/
theorem expand_of_isIdentifier (env : Environment) {l : String} (h : Text.isIdentifier l = true) :
    env.expand l = l := by
  refine env.expand_of_not_hasReference (not_hasReference_of_notMem fun hmem => ?_)
  have hdollar := Text.plainChar_or_break_of_mem (Text.isIdentifier_iff.mp h) hmem
  exact absurd hdollar (by decide)

theorem LocalePasses.expand (hs : s.LocalePasses) : (model.expand env s).LocalePasses := by
  intro l hl
  obtain ⟨k, hk, rfl⟩ : ∃ k, s.locale = some k ∧ env.expand k = l := Option.map_eq_some_iff.mp hl
  rw [expand_of_isIdentifier env (hs k hk)]
  exact hs k hk

theorem LocalePasses.writeInside {field : String} {path : List String} {v : Value}
    (hs : s.LocalePasses) (h : writeInside env field path v s = .ok t) : t.LocalePasses := by
  unfold DeskSettings.writeInside at h
  split at h
  case h_4 => cases h
  all_goals
    obtain ⟨x, -, rfl⟩ := Except.map_eq_ok.mp h
    exact hs

/-- The settings of a file are read from values. -/
theorem read_of_ofFile {load : String → Except Error Value} {read : String → Option String}
    {path : String} (h : ofFile env load read path = .ok s) :
    ∃ given, model.read env given = .ok s := by
  unfold ofFile at h
  dsimp only at h
  split at h
  · cases h
  · obtain ⟨v, -, h⟩ := Except.bind_eq_ok.mp h
    unfold ofDocument at h
    split at h
    · split at h
      · exact ⟨_, h⟩
      · cases h
    · cases h

theorem localePasses_default : LocalePasses {} := by
  intro l h
  cases h

theorem Obtained.localePasses (h : Obtained s) : s.LocalePasses := by
  have hread {env : Environment} {given : Value} {s : DeskSettings}
      (h : model.read env given = .ok s) : s.LocalePasses :=
    Model.of_read (I := LocalePasses) LocalePasses.write localePasses_default h
  induction h with
  | read h => exact hread h
  | file h =>
    obtain ⟨given, h⟩ := read_of_ofFile h
    exact hread h
  | @assign s env a _ ih =>
    unfold Model.turn
    rcases h : model.assignAt env a.path a.value s with e | t
    · exact ih
    · exact Model.of_assignAt (I := LocalePasses) LocalePasses.write LocalePasses.expand
        LocalePasses.writeInside ih h

/-! ## What can be held -/

theorem read_locale (env : Environment) {l : String} (h : Text.isIdentifier l = true) :
    model.read env (Model.single "mysql_locale" (.text l)) = .ok { locale := some l } := by
  have hexpand : env.expandValue (.text l) = .text l := by
    rw [Environment.expandValue, expand_of_isIdentifier env h]
  have hwrite : model.write env "mysql_locale" (env.expandValue (.text l)) model.default =
      .ok { locale := some l } := by
    rw [hexpand]
    show (checkLocale (some l) >>= fun checked => .ok ({ locale := checked } : DeskSettings)) = _
    rw [checkLocale_eq_some_iff.mpr ⟨rfl, h⟩]
    rfl
  rw [Model.read_single (by decide) (by decide) (.text l) (by rw [hwrite]; simp), hwrite]

/-- The locales that settings can hold are the identifiers and those with a line break behind. -/
theorem exists_obtained_iff {l : String} :
    (∃ s, Obtained s ∧ s.locale = some l) ↔ Text.IsIdentifier l ∨ Text.IsIdentifierLine l := by
  rw [← Text.isIdentifier_iff]
  constructor
  · rintro ⟨s, hs, hl⟩
    exact hs.localePasses l hl
  · exact fun h => ⟨_, .read (read_locale [] h), rfl⟩

/-- A locale of settings has characters of identifiers only, unless there is a line break behind
it. -/
theorem locale_isPlain_iff {l : String} :
    (∀ s, Obtained s → s.locale = some l → Text.IsPlain l) ↔ ¬ Text.IsIdentifierLine l := by
  constructor
  · intro h hline
    obtain ⟨s, hs, hl⟩ := exists_obtained_iff.mpr (.inr hline)
    exact hline.not_isPlain (h s hs hl)
  · intro hnot s hs hl
    have hpasses := exists_obtained_iff.mp ⟨s, hs, hl⟩
    exact (hpasses.resolve_right hnot).isPlain

end SqlDesk.DeskSettings
