import SqlDesk.Proofs.Settings.Model
import SqlDesk.Settings.Server

/-!
# Writing server settings

Ports and the pattern of hidden databases are checked when they are written; a text is taken as it
is into any other field that holds one.
-/

namespace SqlDesk.ServerSettings

open Settings

/-! ## Patterns of hidden databases -/

/-- A pattern of hidden databases is empty or compiles. -/
def Accepted (pattern : String) : Prop :=
  pattern.isEmpty = true ∨ ∃ p, Pattern.compile pattern = .ok p

theorem accepted_iff {pattern : String} :
    Accepted pattern ↔ (pattern.isEmpty || (Pattern.compile pattern).isOk) = true := by
  unfold Accepted
  rw [Bool.or_eq_true]
  refine or_congr_right ⟨?_, fun h => ?_⟩
  · rintro ⟨p, hp⟩
    rw [hp]
    rfl
  · rcases hp : Pattern.compile pattern with e | p
    · rw [hp] at h
      cases h
    · exact ⟨p, rfl⟩

instance (pattern : String) : Decidable (Accepted pattern) := decidable_of_iff' _ accepted_iff

theorem accepted_empty : Accepted "" := .inl rfl

theorem checkPattern_of_accepted {pattern : String} (h : Accepted pattern) (field : String) :
    checkPattern field pattern = .ok pattern := by
  unfold checkPattern
  rcases h with h | ⟨p, h⟩
  · rw [if_pos h]
  · rw [h]
    exact ite_self _

theorem accepted_of_checkPattern {field pattern p : String}
    (h : checkPattern field pattern = .ok p) : p = pattern ∧ Accepted pattern := by
  unfold checkPattern at h
  split at h
  · exact ⟨(Except.ok.inj h).symm, .inl ‹_›⟩
  · split at h
    · exact ⟨(Except.ok.inj h).symm, .inr ⟨_, ‹_›⟩⟩
    · cases h
    · cases h
    · cases h

theorem checkPattern_ne_invalid_nil (field pattern : String) :
    checkPattern field pattern ≠ .error (.invalid []) := by
  unfold checkPattern
  split
  · simp
  · split <;> simp [refusal]

/-! ## Fields of texts -/

/-- The fields that hold one text. -/
def texts : List String :=
  ["host", "socket", "user", "password", "control_user", "control_pass", "control_host",
    "session_time_zone", "hide_db", "pmadb", "column_info"]

/-- The text of a field. -/
def text? (s : ServerSettings) : String → Option String
  | "host" => some s.host
  | "socket" => s.socket
  | "user" => some s.user
  | "password" => some s.password.text
  | "control_user" => some s.controlUser
  | "control_pass" => some s.controlPass.text
  | "control_host" => some s.controlHost
  | "session_time_zone" => some s.sessionTimeZone
  | "hide_db" => some s.hideDb
  | "pmadb" => some s.storageDb
  | "column_info" => some s.columnInfo
  | _ => none

/-- The settings with a text in a field. -/
def setText (s : ServerSettings) (field x : String) : ServerSettings :=
  match field with
  | "host" => { s with host := x }
  | "socket" => { s with socket := some x }
  | "user" => { s with user := x }
  | "password" => { s with password := ⟨x⟩ }
  | "control_user" => { s with controlUser := x }
  | "control_pass" => { s with controlPass := ⟨x⟩ }
  | "control_host" => { s with controlHost := x }
  | "session_time_zone" => { s with sessionTimeZone := x }
  | "hide_db" => { s with hideDb := x }
  | "pmadb" => { s with storageDb := x }
  | "column_info" => { s with columnInfo := x }
  | _ => s

/-- A text passes the check of its field. -/
def Passes (field x : String) : Prop := field = "hide_db" → Accepted x

instance (field x : String) : Decidable (Passes field x) :=
  inferInstanceAs (Decidable (field = "hide_db" → Accepted x))

theorem text?_setText {field : String} (h : field ∈ texts) (s : ServerSettings) (x : String) :
    (s.setText field x).text? field = some x := by
  simp only [texts, List.mem_cons, List.not_mem_nil, or_false] at h
  rcases h with rfl | rfl | rfl | rfl | rfl | rfl | rfl | rfl | rfl | rfl | rfl <;> rfl

/-- Writing a text into a field of texts. -/
theorem write_text {field : String} (h : field ∈ texts) (x : String) (s : ServerSettings) :
    write field (.text x) s =
      s.setText field <$> (if field = "hide_db" then checkPattern field x else .ok x) := by
  by_cases hpattern : field = "hide_db"
  · subst hpattern
    rw [if_pos rfl]
    show (checkPattern "hide_db" x >>= fun p => .ok { s with hideDb := p }) = _
    rcases checkPattern "hide_db" x with e | p <;> rfl
  · rw [if_neg hpattern]
    simp only [texts, List.mem_cons, List.not_mem_nil, or_false, hpattern, false_or] at h
    rcases h with rfl | rfl | rfl | rfl | rfl | rfl | rfl | rfl | rfl | rfl <;> rfl

theorem write_text_of_passes {field x : String} (h : field ∈ texts) (hx : Passes field x)
    (s : ServerSettings) : write field (.text x) s = .ok (s.setText field x) := by
  rw [write_text h]
  by_cases hpattern : field = "hide_db"
  · rw [if_pos hpattern, checkPattern_of_accepted (hx hpattern)]
    rfl
  · rw [if_neg hpattern]
    rfl

theorem setText_of_write_text {field x : String} (h : field ∈ texts) {s t : ServerSettings}
    (ht : write field (.text x) s = .ok t) : t = s.setText field x := by
  rw [write_text h] at ht
  obtain ⟨y, hy, rfl⟩ := Except.map_eq_ok.mp ht
  by_cases hpattern : field = "hide_db"
  · rw [if_pos hpattern] at hy
    rw [(accepted_of_checkPattern hy).1]
  · rw [if_neg hpattern] at hy
    rw [Except.ok.inj hy]

theorem write_text_ne_invalid_nil {field : String} (h : field ∈ texts) (x : String)
    (s : ServerSettings) : write field (.text x) s ≠ .error (.invalid []) := by
  rw [write_text h]
  intro hinvalid
  rw [Except.map_eq_error] at hinvalid
  by_cases hpattern : field = "hide_db"
  · rw [if_pos hpattern] at hinvalid
    exact checkPattern_ne_invalid_nil field x hinvalid
  · rw [if_neg hpattern] at hinvalid
    cases hinvalid

/-! ## Ports -/

/-- The ports are numbers of ports. -/
structure PortsFit (s : ServerSettings) : Prop where
  port : 1 ≤ s.port ∧ s.port ≤ 65535
  controlPort : ∀ n, s.controlPort = some n → 1 ≤ n ∧ n ≤ 65535

theorem fits_of_checkPort {n m : Int} (h : checkPort n = .ok m) : 1 ≤ m ∧ m ≤ 65535 := by
  unfold checkPort at h
  split at h
  · obtain rfl := Except.ok.inj h
    have hport : isPort n = true := ‹_›
    simpa [isPort] using hport
  · cases h

/-- What is checked is the same in two records of settings. -/
def SameChecked (s t : ServerSettings) : Prop :=
  t.port = s.port ∧ t.controlPort = s.controlPort ∧ t.hideDb = s.hideDb

/-- Every write changes at most one of the fields that are checked, and that one only to a value that
passes. -/
theorem write_checked {field : String} {v : Value} {s t : ServerSettings}
    (h : write field v s = .ok t) :
    SameChecked s t ∨
      field = "port" ∧ (1 ≤ t.port ∧ t.port ≤ 65535) ∧ t.controlPort = s.controlPort ∧
        t.hideDb = s.hideDb ∨
      field = "control_port" ∧ t.port = s.port ∧
        (∀ n, t.controlPort = some n → 1 ≤ n ∧ n ≤ 65535) ∧ t.hideDb = s.hideDb ∨
      field = "hide_db" ∧ t.port = s.port ∧ t.controlPort = s.controlPort ∧ Accepted t.hideDb := by
  unfold write at h
  split at h
  case h_2 =>
    obtain ⟨n, -, h⟩ := Except.bind_eq_ok.mp h
    obtain ⟨m, hm, h⟩ := Except.bind_eq_ok.mp h
    obtain rfl := Except.ok.inj h
    exact .inr (.inl ⟨rfl, fits_of_checkPort hm, rfl, rfl⟩)
  case h_9 =>
    obtain ⟨o, -, h⟩ := Except.bind_eq_ok.mp h
    refine .inr (.inr (.inl ?_))
    rcases o with _ | n
    · obtain rfl := Except.ok.inj h
      exact ⟨rfl, rfl, fun n hn => (by cases hn), rfl⟩
    · obtain ⟨m, hm, h⟩ := Except.bind_eq_ok.mp h
      obtain rfl := Except.ok.inj h
      refine ⟨rfl, rfl, fun k hk => ?_, rfl⟩
      obtain rfl := Option.some.inj hk
      exact fits_of_checkPort hm
  case h_13 =>
    obtain ⟨p, -, h⟩ := Except.bind_eq_ok.mp h
    obtain ⟨q, hq, h⟩ := Except.bind_eq_ok.mp h
    obtain rfl := Except.ok.inj h
    obtain ⟨rfl, haccepted⟩ := accepted_of_checkPattern hq
    exact .inr (.inr (.inr ⟨rfl, rfl, rfl, haccepted⟩))
  case h_17 => cases h
  all_goals
    obtain ⟨x, -, rfl⟩ := Except.map_eq_ok.mp h
    exact .inl ⟨rfl, rfl, rfl⟩

theorem portsFit_default : PortsFit {} where
  port := by decide
  controlPort _ h := by cases h

theorem PortsFit.write {field : String} {v : Value} {s t : ServerSettings} (hs : s.PortsFit)
    (h : write field v s = .ok t) : t.PortsFit := by
  rcases write_checked h with ⟨hport, hcontrol, -⟩ | ⟨-, hport, hcontrol, -⟩ |
    ⟨-, hport, hcontrol, -⟩ | ⟨-, hport, hcontrol, -⟩
  · exact ⟨hport ▸ hs.port, hcontrol ▸ hs.controlPort⟩
  · exact ⟨hport, hcontrol ▸ hs.controlPort⟩
  · exact ⟨hport ▸ hs.port, hcontrol⟩
  · exact ⟨hport ▸ hs.port, hcontrol ▸ hs.controlPort⟩

theorem Accepted.write {field : String} {v : Value} {s t : ServerSettings}
    (hs : Accepted s.hideDb) (h : write field v s = .ok t) : Accepted t.hideDb := by
  rcases write_checked h with ⟨-, -, hpattern⟩ | ⟨-, -, -, hpattern⟩ | ⟨-, -, -, hpattern⟩ |
    ⟨-, -, -, haccepted⟩
  · exact hpattern ▸ hs
  · exact hpattern ▸ hs
  · exact hpattern ▸ hs
  · exact haccepted

end SqlDesk.ServerSettings
