import Mathlib.Data.List.Infix
import SqlDesk.Proofs.Except
import SqlDesk.Proofs.Text.Digits
import SqlDesk.Version

/-!
# The order of versions

A version text tells a release by the longest start of it that has the form of a version: white
space, a major number and, behind points, a minor number and a patch. The number that a text is read
as is made of these three alone, so it orders texts as the releases that they tell are ordered, as
long as minor numbers and patches are below one hundred.
-/

namespace SqlDesk

open Text

/-! ## The form of a version -/

/-- The digits of a major number, a minor number and a patch, none for a number that is missing. -/
abbrev VersionGroups : Type := List Char × List Char × List Char

/-- A text has the form of a version with certain numbers. -/
inductive VersionForm : List Char → VersionGroups → Prop where
  | major {spaces major : List Char} (hspaces : ∀ c ∈ spaces, isBlank c = true)
      (hmajor : Digits major) : VersionForm (spaces ++ major) (major, [], [])
  | minor {spaces major minor : List Char} (hspaces : ∀ c ∈ spaces, isBlank c = true)
      (hmajor : Digits major) (hminor : Digits minor) :
      VersionForm (spaces ++ (major ++ '.' :: minor)) (major, minor, [])
  | patch {spaces major minor patch : List Char} (hspaces : ∀ c ∈ spaces, isBlank c = true)
      (hmajor : Digits major) (hminor : Digits minor) (hpatch : Digits patch) :
      VersionForm (spaces ++ (major ++ '.' :: (minor ++ '.' :: patch))) (major, minor, patch)

/-- The longest start of a text that has the form of a version has certain numbers. -/
def StartsWithVersion (text : List Char) (groups : VersionGroups) : Prop :=
  ∃ start, start <+: text ∧ VersionForm start groups ∧
    ∀ start' groups', start' <+: text → VersionForm start' groups' → start'.length ≤ start.length

/-- The number behind a point with which a text begins, and the rest; none if there is no number. -/
def pointed : List Char → List Char × List Char
  | '.' :: ds => if (spanDigits ds).1 = [] then ([], '.' :: ds) else spanDigits ds
  | ds => ([], ds)

theorem versionGroups_eq (text : List Char) :
    versionGroups text =
      let major := spanDigits (text.dropWhile isBlank)
      let minor := pointed major.2
      if major.1 = [] then none else some (major.1, minor.1, (pointed minor.2).1) := rfl

theorem pointed_append {ds : List Char} (h : Digits ds) (rest : List Char) :
    pointed ('.' :: (ds ++ rest)) = (ds ++ (spanDigits rest).1, (spanDigits rest).2) := by
  have hne : ds ++ (spanDigits rest).1 ≠ [] := List.append_ne_nil_of_left_ne_nil h.ne_nil _
  rw [pointed.eq_1, spanDigits_append h.digits, if_neg hne]

/-- Behind a point there is no number, or the number and the rest are the text. -/
theorem pointed_cases (cs : List Char) :
    pointed cs = ([], cs) ∨
      Digits (pointed cs).1 ∧ cs = '.' :: ((pointed cs).1 ++ (pointed cs).2) := by
  unfold pointed
  split
  · rename_i ds
    obtain ⟨hdigits, hsplit⟩ := spanDigits_spec ds
    split
    · exact .inl rfl
    · rename_i hne
      exact .inr ⟨⟨hne, hdigits⟩, congrArg _ hsplit.symm⟩
  · exact .inl rfl

section Start

variable {spaces major : List Char} (hspaces : ∀ c ∈ spaces, isBlank c = true)
  (hmajor : Digits major) (rest : List Char)

include hspaces hmajor

theorem takeWhile_isBlank : (spaces ++ (major ++ rest)).takeWhile isBlank = spaces ∧
    (spaces ++ (major ++ rest)).dropWhile isBlank = major ++ rest := by
  rw [List.takeWhile_append_of_pos hspaces, List.dropWhile_append_of_pos hspaces]
  rcases major with _ | ⟨d, ds⟩
  · exact absurd rfl hmajor.ne_nil
  · have hd := not_isBlank_of_isDigit (hmajor.digits d List.mem_cons_self)
    rw [List.cons_append, List.takeWhile_cons_of_neg (by simp [hd]),
      List.dropWhile_cons_of_neg (by simp [hd]), List.append_nil]
    exact ⟨rfl, rfl⟩

/-- What is read from a text that begins with white space and a number. -/
theorem versionGroups_append :
    versionGroups (spaces ++ (major ++ rest)) =
      let minor := pointed (spanDigits rest).2
      some (major ++ (spanDigits rest).1, minor.1, (pointed minor.2).1) := by
  have hne : major ++ (spanDigits rest).1 ≠ [] :=
    List.append_ne_nil_of_left_ne_nil hmajor.ne_nil _
  rw [versionGroups_eq, (takeWhile_isBlank hspaces hmajor rest).2, spanDigits_append hmajor.digits]
  exact if_neg hne

end Start

/-- A number behind a point, or nothing if it is missing. -/
def behindPoint (ds : List Char) : List Char := if ds = [] then [] else '.' :: ds

theorem length_behindPoint_append {ds : List Char} (h : Digits ds) (more : List Char) :
    (behindPoint (ds ++ more)).length = ds.length + more.length + 1 := by
  rw [behindPoint, if_neg (List.append_ne_nil_of_left_ne_nil h.ne_nil more), List.length_cons,
    List.length_append]

/-- White space and numbers as they are written. -/
def versionStart (spaces : List Char) (groups : VersionGroups) : List Char :=
  spaces ++ (groups.1 ++ (behindPoint groups.2.1 ++ behindPoint groups.2.2))

theorem versionGroups_of_form {text : List Char} {groups : VersionGroups}
    (h : VersionForm text groups) : versionGroups text = some groups := by
  have hnone : pointed [] = ([], []) := rfl
  have hend : spanDigits [] = ([], []) := rfl
  have hlast {ds : List Char} (hds : Digits ds) : pointed ('.' :: ds) = (ds, []) := by
    simpa [hend] using pointed_append hds []
  cases h with
  | @major spaces major hspaces hmajor =>
    have hread := versionGroups_append hspaces hmajor []
    simpa [hend, hnone] using hread
  | minor hspaces hmajor hminor =>
    rw [versionGroups_append hspaces hmajor, spanDigits_of_point]
    simp [hlast hminor, hnone]
  | patch hspaces hmajor hminor hpatch =>
    rw [versionGroups_append hspaces hmajor, spanDigits_of_point]
    simp [pointed_append hminor, spanDigits_of_point, hlast hpatch]

/-- Something is read from a text with a start that has the form of a version. -/
theorem exists_versionGroups {text start : List Char} {groups : VersionGroups}
    (hstart : start <+: text) (hform : VersionForm start groups) :
    ∃ groups', versionGroups text = some groups' := by
  obtain ⟨rest, rfl⟩ := hstart
  cases hform with
  | major hspaces hmajor | minor hspaces hmajor | patch hspaces hmajor =>
    simp only [List.append_assoc]
    exact ⟨_, versionGroups_append hspaces hmajor _⟩

/-- White space, a number and those that are read behind it are written at the start. -/
theorem versionStart_append {spaces major : List Char} (hspaces : ∀ c ∈ spaces, isBlank c = true)
    (hmajor : Digits major) (rest : List Char) :
    let minor := pointed rest
    let groups := (major, minor.1, (pointed minor.2).1)
    versionStart spaces groups <+: spaces ++ (major ++ rest) ∧
      VersionForm (versionStart spaces groups) groups := by
  dsimp only [versionStart]
  rcases pointed_cases rest with hminor | ⟨hminor, hrest⟩
  · simp only [hminor]
    refine ⟨⟨rest, by simp [behindPoint]⟩, ?_⟩
    simpa [behindPoint] using VersionForm.major hspaces hmajor
  · generalize (pointed rest).1 = minor at hminor hrest ⊢
    generalize (pointed rest).2 = rest' at hrest ⊢
    subst hrest
    rcases pointed_cases rest' with hpatch | ⟨hpatch, hrest⟩
    · simp only [hpatch]
      refine ⟨⟨rest', by simp [behindPoint, hminor.ne_nil]⟩, ?_⟩
      simpa [behindPoint, hminor.ne_nil] using VersionForm.minor hspaces hmajor hminor
    · generalize (pointed rest').1 = patch at hpatch hrest ⊢
      generalize (pointed rest').2 = rest'' at hrest
      subst hrest
      refine ⟨⟨rest'', by simp [behindPoint, hminor.ne_nil, hpatch.ne_nil]⟩, ?_⟩
      simpa [behindPoint, hminor.ne_nil, hpatch.ne_nil] using
        VersionForm.patch hspaces hmajor hminor hpatch

/-- What is read from a text is written at its start. -/
theorem versionStart_prefix {text : List Char} {groups : VersionGroups}
    (h : versionGroups text = some groups) :
    versionStart (text.takeWhile isBlank) groups <+: text ∧
      VersionForm (versionStart (text.takeWhile isBlank) groups) groups := by
  obtain ⟨hdigits, hsplit⟩ := spanDigits_spec (text.dropWhile isBlank)
  have hspaces : ∀ c ∈ text.takeWhile isBlank, isBlank c = true :=
    List.all_eq_true.mp List.all_takeWhile
  rw [versionGroups_eq] at h
  dsimp only at h
  split at h
  · cases h
  · rename_i hne
    obtain rfl := Option.some.inj h
    have hwritten :=
      versionStart_append hspaces ⟨hne, hdigits⟩ (spanDigits (text.dropWhile isBlank)).2
    rwa [hsplit, List.takeWhile_append_dropWhile] at hwritten

/-- No start of a text that has the form of a version is longer than what is read from it. -/
theorem length_le_versionStart {text start : List Char} {groups groups' : VersionGroups}
    (h : versionGroups text = some groups) (hstart : start <+: text)
    (hform : VersionForm start groups') :
    start.length ≤ (versionStart (text.takeWhile isBlank) groups).length := by
  obtain ⟨rest, rfl⟩ := hstart
  cases hform with
  | major hspaces hmajor =>
    rw [List.append_assoc] at h ⊢
    rw [versionGroups_append hspaces hmajor] at h
    obtain rfl := Option.some.inj h
    rw [(takeWhile_isBlank hspaces hmajor _).1]
    simp only [versionStart, List.length_append]
    omega
  | minor hspaces hmajor hminor =>
    rw [List.append_assoc, List.append_assoc, List.cons_append] at h ⊢
    rw [versionGroups_append hspaces hmajor, spanDigits_of_point] at h
    dsimp only at h
    rw [pointed_append hminor] at h
    obtain rfl := Option.some.inj h
    rw [(takeWhile_isBlank hspaces hmajor _).1]
    simp only [versionStart, List.length_append, length_behindPoint_append hminor, List.length_cons,
      List.length_nil]
    omega
  | patch hspaces hmajor hminor hpatch =>
    rw [List.append_assoc, List.append_assoc, List.cons_append, List.append_assoc,
      List.cons_append] at h ⊢
    rw [versionGroups_append hspaces hmajor, spanDigits_of_point] at h
    dsimp only at h
    rw [pointed_append hminor, spanDigits_of_point] at h
    dsimp only at h
    rw [pointed_append hpatch] at h
    obtain rfl := Option.some.inj h
    rw [(takeWhile_isBlank hspaces hmajor _).1]
    simp only [versionStart, List.length_append, length_behindPoint_append hminor,
      length_behindPoint_append hpatch, List.length_cons, List.length_nil]
    omega

/-- The numbers of the longest start are the ones that are read. -/
theorem startsWithVersion_iff {text : List Char} {groups : VersionGroups} :
    StartsWithVersion text groups ↔ versionGroups text = some groups := by
  constructor
  · rintro ⟨start, hstart, hform, hlongest⟩
    obtain ⟨groups', hread⟩ := exists_versionGroups hstart hform
    obtain ⟨hstart', hform'⟩ := versionStart_prefix hread
    have hlength := Nat.le_antisymm (length_le_versionStart hread hstart hform)
      (hlongest _ _ hstart' hform')
    have hsame : start = versionStart (text.takeWhile isBlank) groups' :=
      (List.prefix_of_prefix_length_le hstart hstart' hlength.le).eq_of_length hlength
    rw [hsame] at hform
    rw [hread, ← versionGroups_of_form hform', versionGroups_of_form hform]
  · intro h
    obtain ⟨hstart, hform⟩ := versionStart_prefix h
    exact ⟨_, hstart, hform, fun start' groups' => length_le_versionStart h⟩

/-- The numbers with which a text starts make its number if each is short enough to be read. -/
theorem versionNumber_of_short {text : String} {major minor patch : List Char}
    (hgroups : versionGroups text.toList = some (major, minor, patch))
    (hshort : ∀ digits ∈ [major, minor, patch], digits.length ≤ maxDigits) :
    versionNumber text =
      .ok (digitsValue major * 10000 + digitsValue minor * 100 + digitsValue patch) := by
  have hread (digits : List Char) (hdigits : digits ∈ [major, minor, patch]) :
      readDigits digits = .ok (digitsValue digits) :=
    if_neg (Nat.not_lt.mpr (hshort digits hdigits))
  unfold versionNumber
  rw [hgroups]
  dsimp only
  rw [hread major (by simp), hread minor (by simp), hread patch (by simp)]
  rfl

/-- Only numbers that are short enough are read. -/
theorem short_of_versionNumber {text : String} {n : Int} {major minor patch : List Char}
    (hgroups : versionGroups text.toList = some (major, minor, patch))
    (h : versionNumber text = .ok n) : ∀ digits ∈ [major, minor, patch], digits.length ≤ maxDigits := by
  have hshort {digits : List Char} {m : Nat} (h : readDigits digits = .ok m) :
      digits.length ≤ maxDigits := by
    by_contra hlong
    rw [readDigits, if_pos (Nat.not_le.mp hlong)] at h
    cases h
  unfold versionNumber at h
  rw [hgroups] at h
  obtain ⟨a, ha, h⟩ := Except.bind_eq_ok.mp h
  obtain ⟨b, hb, h⟩ := Except.bind_eq_ok.mp h
  obtain ⟨c, hc, -⟩ := Except.bind_eq_ok.mp h
  simp [hshort ha, hshort hb, hshort hc]

/-! ## Releases -/

/-- A release by its numbers. -/
@[ext]
structure Release where
  major : Nat
  minor : Nat
  patch : Nat
deriving DecidableEq, Repr

namespace Release

/-- The numbers of a release come before those of another one, the first that differs deciding. -/
def Before (a b : Release) : Prop :=
  a.major < b.major ∨
    a.major = b.major ∧ (a.minor < b.minor ∨ a.minor = b.minor ∧ a.patch < b.patch)

instance (a b : Release) : Decidable (a.Before b) := inferInstanceAs (Decidable (_ ∨ _))

/-- The minor number and the patch have two digits at most. -/
structure Compact (a : Release) : Prop where
  minor : a.minor < 100
  patch : a.patch < 100

/-- The numbers of a release in one. -/
def packed (a : Release) : Int := a.major * 10000 + a.minor * 100 + a.patch

/-- A text tells a release: its longest start of the form of a version has the numbers of the
release, none of which is too long to be read. -/
def ToldBy (a : Release) (text : String) : Prop :=
  ∃ major minor patch, StartsWithVersion text.toList (major, minor, patch) ∧
    (∀ digits ∈ [major, minor, patch], digits.length ≤ maxDigits) ∧
    a = ⟨digitsValue major, digitsValue minor, digitsValue patch⟩

variable {a b : Release} {text : String}

theorem packed_lt_iff (ha : a.Compact) (hb : b.Compact) : a.packed < b.packed ↔ a.Before b := by
  obtain ⟨⟨_, _⟩, ⟨_, _⟩⟩ := ha, hb
  unfold packed Before
  omega

theorem packed_inj (ha : a.Compact) (hb : b.Compact) (h : a.packed = b.packed) : a = b := by
  obtain ⟨⟨_, _⟩, ⟨_, _⟩⟩ := ha, hb
  unfold packed at h
  have hmajor : a.major = b.major := by omega
  have hminor : a.minor = b.minor := by omega
  exact Release.ext hmajor hminor (by omega)

theorem majorOf_packed (ha : a.Compact) : majorOf a.packed = a.major := by
  obtain ⟨_, _⟩ := ha
  unfold majorOf packed
  omega

theorem needsUpgrade_packed (ha : a.Compact) :
    needsUpgrade a.packed = true ↔ a.major < 5 ∨ a.major = 5 ∧ a.minor < 5 := by
  obtain ⟨_, _⟩ := ha
  unfold needsUpgrade minimumVersion packed
  rw [decide_eq_true_iff]
  omega

/-- A text is read as the number of the release that it tells. -/
theorem ToldBy.versionNumber (h : a.ToldBy text) : versionNumber text = .ok a.packed := by
  obtain ⟨major, minor, patch, hstart, hshort, rfl⟩ := h
  exact versionNumber_of_short (startsWithVersion_iff.mp hstart) hshort

/-- A text with a version is read exactly if it tells a release. -/
theorem exists_toldBy_iff :
    (∃ a : Release, a.ToldBy text) ↔
      (versionGroups text.toList).isSome = true ∧ ∃ n, SqlDesk.versionNumber text = .ok n := by
  constructor
  · rintro ⟨a, h⟩
    obtain ⟨major, minor, patch, hstart, -, -⟩ := id h
    exact ⟨by rw [startsWithVersion_iff.mp hstart]; rfl, _, h.versionNumber⟩
  · rintro ⟨hsome, n, hn⟩
    obtain ⟨⟨major, minor, patch⟩, hgroups⟩ := Option.isSome_iff_exists.mp hsome
    exact ⟨_, major, minor, patch, startsWithVersion_iff.mpr hgroups,
      short_of_versionNumber hgroups hn, rfl⟩

theorem ToldBy.parseVersion (h : a.ToldBy text) (ha : a.Compact) :
    parseVersion text = .ok (a.packed, (a.major : Int), needsUpgrade a.packed) := by
  unfold SqlDesk.parseVersion
  rw [h.versionNumber, Except.map_ok, majorOf_packed ha]

theorem ToldBy.parse (h : a.ToldBy text) (comment : Value) :
    ∃ v, ServerVersion.parse text comment = .ok v ∧ v.number = a.packed := by
  unfold ServerVersion.parse
  rw [h.versionNumber]
  exact ⟨_, rfl, rfl⟩

end Release

/-- Two texts that tell releases are read as numbers which are ordered as the releases and equal
only for one release, whatever else stands in the texts. The major version of such a number, and what
is parsed from the text as its major version, alone or among other facts, is that of the release, and
an upgrade is required exactly below 5.5. -/
theorem versionNumber_order {v w : String} {a b : Release} (hv : a.ToldBy v) (hw : b.ToldBy w)
    (ha : a.Compact) (hb : b.Compact) :
    ∃ m n : Int, versionNumber v = .ok m ∧ versionNumber w = .ok n ∧
      (m < n ↔ a.Before b) ∧ (m = n ↔ a = b) ∧ majorOf m = a.major ∧
      (needsUpgrade m = true ↔ a.major < 5 ∨ a.major = 5 ∧ a.minor < 5) ∧
      (∃ upgrade, parseVersion v = .ok (m, (a.major : Int), upgrade) ∧
        (upgrade = true ↔ a.major < 5 ∨ a.major = 5 ∧ a.minor < 5)) ∧
      ∀ comment, ∃ facts, ServerVersion.parse v comment = .ok facts ∧ facts.number = m ∧
        facts.major = a.major ∧
        (facts.isUpgradeRequired = true ↔ a.major < 5 ∨ a.major = 5 ∧ a.minor < 5) := by
  refine ⟨a.packed, b.packed, hv.versionNumber, hw.versionNumber, Release.packed_lt_iff ha hb,
    ⟨Release.packed_inj ha hb, congrArg Release.packed⟩, Release.majorOf_packed ha,
    Release.needsUpgrade_packed ha, ⟨_, hv.parseVersion ha, Release.needsUpgrade_packed ha⟩,
    fun comment => ?_⟩
  obtain ⟨facts, hfacts, hnumber⟩ := hv.parse comment
  refine ⟨facts, hfacts, hnumber, ?_, ?_⟩
  · rw [ServerVersion.major, hnumber, Release.majorOf_packed ha]
  · rw [ServerVersion.isUpgradeRequired, hnumber, Release.needsUpgrade_packed ha]

/-- White space, a patch that is missing although there is text behind a point, and a fourth number
do not matter. -/
theorem spaced_version_order :
    let a : Release := ⟨5, 4, 99⟩
    let b : Release := ⟨5, 5, 0⟩
    (a.ToldBy "\t 5.4.99.7-log" ∧ b.ToldBy "5.5.x-MariaDB" ∧ a.Compact ∧ b.Compact) ∧
      ∃ m n : Int, versionNumber "\t 5.4.99.7-log" = .ok m ∧ versionNumber "5.5.x-MariaDB" = .ok n ∧
        m < n ∧ parseVersion "\t 5.4.99.7-log" = .ok (m, 5, true) := by
  intro a b
  have hv : a.ToldBy "\t 5.4.99.7-log" := by
    refine ⟨['5'], ['4'], ['9', '9'], startsWithVersion_iff.mpr ?_, ?_, ?_⟩ <;> decide +kernel
  have hw : b.ToldBy "5.5.x-MariaDB" := by
    refine ⟨['5'], ['5'], [], startsWithVersion_iff.mpr ?_, ?_, ?_⟩ <;> decide +kernel
  have ha : a.Compact := ⟨by decide, by decide⟩
  have hb : b.Compact := ⟨by decide, by decide⟩
  obtain ⟨m, n, hm, hn, hlt, -, -, -, ⟨upgrade, hparsed, hold⟩, -⟩ :=
    versionNumber_order hv hw ha hb
  obtain rfl : true = upgrade := (hold.mpr (by decide)).symm
  exact ⟨⟨hv, hw, ha, hb⟩, m, n, hm, hn, hlt.mpr (by decide), hparsed⟩

end SqlDesk
