import SqlDesk.Proofs.Desk.Request
import SqlDesk.Proofs.Log.Levels
import SqlDesk.Proofs.Settings.Locale

/-!
# Identifiers that are used as they are

Two kinds of texts are checked to be identifiers and then used as they are. The locale of a desk is put
between quotes in a statement without being escaped, and a level is looked up by its name in capitals.
The check lets a line break behind an identifier through as well, so there can be one in a locale and
in a name that is looked up. The server still reads such a locale back as it was given, and no level
has such a name.
-/

namespace SqlDesk

/-! ## Names of levels -/

namespace Log

/-- The refusal of a level that is no identifier. -/
def invalidLevel (level : String) : Refusal :=
  .make .general ("Invalid log level: " ++ level) "INVALID_LOG_LEVEL"

/-- The refusal of a level that there is not. -/
def unknownLevel (level : String) : Refusal :=
  .make .general ("Unknown log level: " ++ level) "UNKNOWN_LOG_LEVEL"

/-- The name that is looked up for a level, unless the level is refused before. -/
def lookedUp (level : String) : Option String :=
  if Text.identifierPasses (some level) false then some (Text.upper level) else none

/-- What comes of a level by the name that is looked up for it. -/
def levelNamed (level : String) : Option String → Except Error Nat
  | none => .error (.refused (invalidLevel level))
  | some name =>
    match levelOfName? name with
    | some n => .ok n
    | none => .error (.refused (unknownLevel level))

theorem readLevelName_eq (level : String) :
    readLevelName (some level) = levelNamed level (lookedUp level) := by
  unfold readLevelName lookedUp
  rcases Text.identifierPasses (some level) false with _ | _ <;> rfl

variable {level : String}

theorem lookedUp_of_passes (h : Text.IsIdentifier level ∨ Text.IsIdentifierLine level) :
    lookedUp level = some (Text.upper level) := if_pos (Text.identifierPasses_iff.mpr h)

theorem passes_of_lookedUp {name : String} (h : lookedUp level = some name) :
    (Text.IsIdentifier level ∨ Text.IsIdentifierLine level) ∧ name = Text.upper level := by
  unfold lookedUp at h
  split at h
  · exact ⟨Text.identifierPasses_iff.mp ‹_›, (Option.some.inj h).symm⟩
  · cases h

/-- The name that is looked up for a level has characters of identifiers only, unless there is a line
break behind the level. -/
theorem lookedUp_isPlain_iff :
    (∀ name, lookedUp level = some name → Text.IsPlain name) ↔ ¬ Text.IsIdentifierLine level := by
  constructor
  · intro h hline
    exact hline.upper.not_isPlain (h _ (lookedUp_of_passes (.inr hline)))
  · intro hnot name hname
    obtain ⟨hpasses, rfl⟩ := passes_of_lookedUp hname
    exact (hpasses.resolve_right hnot).upper.isPlain

/-- No level has a name with a line break. -/
theorem levelOfName?_of_line {name : String} (h : Text.IsIdentifierLine name) :
    levelOfName? name = none := by
  have hall : ∀ e ∈ levelNames, '\n' ∉ e.1.toList := by decide
  obtain ⟨t, -, rfl⟩ := h
  rcases hlevel : levelOfName? (t ++ "\n") with _ | n
  · rfl
  · exact absurd (show '\n' ∈ (t ++ "\n").toList by simp) (hall _ (mem_levelNames hlevel))

theorem readLevelName_of_line (h : Text.IsIdentifierLine level) :
    readLevelName (some level) = .error (.refused (unknownLevel level)) := by
  rw [readLevelName_eq, lookedUp_of_passes (.inr h), levelNamed, levelOfName?_of_line h.upper]

end Log

/-! ## Locales in statements -/

namespace Sql

/-- The tokens of the statement that sets the language of messages. -/
def localeTokens (locale : String) : List Token :=
  [.word "SET", .word "lc_messages", .symbol '=', .text locale, .symbol ';']

/-- A locale without quotes and backslashes is read back as it is. -/
theorem lex_setLocale {locale : String} (h : ∀ c ∈ locale.toList, c ≠ '\'' ∧ c ≠ '\\') :
    lex (setLocale locale) = some (localeTokens locale) := by
  have hbefore : scan .blank "SET lc_messages = '".toList =
      ([.word "SET", .word "lc_messages", .symbol '='], .inside .single []) := by decide
  have hinside := scan_plainText h []
  have hafter : "';".toList = ['\''] ++ [';'] := rfl
  have hend : read .blank [';'] = some [.symbol ';'] := by decide
  unfold lex setLocale
  rw [String.toList_append, String.toList_append, List.append_assoc, read_append hbefore,
    read_append hinside, List.nil_append, hafter, read_append (scan_close locale.toList),
    read_closed rfl, hend]
  simp [localeTokens, Quote.token]

end Sql

/-- The server reads the locale of a desk back as it is, though nothing in it is escaped. -/
theorem DeskSettings.Obtained.lex_setLocale {d : DeskSettings} (hd : d.Obtained) {locale : String}
    (h : d.locale = some locale) :
    Sql.lex (Sql.setLocale locale) = some (Sql.localeTokens locale) := by
  have hpasses := exists_obtained_iff.mp ⟨d, hd, h⟩
  refine Sql.lex_setLocale fun c hc => ?_
  have hquote : ¬ (Text.PlainChar '\'' ∨ '\'' = '\n') := by decide
  have hslash : ¬ (Text.PlainChar '\\' ∨ '\\' = '\n') := by decide
  constructor
  · rintro rfl
    exact hquote (Text.plainChar_or_break_of_mem hpasses hc)
  · rintro rfl
    exact hslash (Text.plainChar_or_break_of_mem hpasses hc)

namespace Desk

variable {σ : Type} {desk : Desk σ}

/-- A request of the driver that sets the language of messages has a locale between quotes as it
is. -/
def Interpolates (locale : String) (c : Call) : Prop :=
  ∀ sql, c.text? = some sql → Sql.Opens "SET lc_messages " sql →
    sql = "SET lc_messages = '" ++ locale ++ "';"

/-- The licence to do whatever sets the language of messages to one locale only. -/
def Licence.interpolating (locale : String) : Licence where
  asks sql _ := Sql.Opens "SET lc_messages " sql → sql = Sql.setLocale locale
  makes _ := True
  changes _ := True

/-- A statement that opens otherwise does not set the language of messages. -/
theorem asks_interpolating {start sql : String} (h : Sql.Opens start sql)
    (hstart : ¬ Sql.Opens start "SET lc_messages ") (hother : ¬ Sql.Opens "SET lc_messages " start)
    (locale : String) (role : Role) : (Licence.interpolating locale).asks sql role :=
  fun hopens => absurd hopens (h.not_opens hstart hother)

/-- The setup of a connection sets the language of messages to the locale of the settings only. -/
theorem postConnect_interpolates {locale : String} (h : desk.settings.locale = some locale)
    (server : Option ServerSettings) (s : DeskState σ) :
    Act.Sent (Interpolates locale) s (desk.postConnect server s).2 := by
  have hroutine : Routine desk (.interpolating locale) (desk.postConnect server) := by
    unfold postConnect
    have hversion : Sql.Opens "SELECT " Sql.version := by decide
    refine (readVersion_routine ?_ trivial).andThen fun _ => ?_
    · exact asks_interpolating hversion (by decide) (by decide) locale .user
    refine (setCharset_routine (fun charset collation => ?_) trivial).andThen fun _ => ?_
    · exact asks_interpolating (Sql.opens_setNames charset collation) (by decide) (by decide) locale
        .user
    refine (setLocale_routine fun given hgiven _ => ?_).andThen fun _ => ?_
    · rw [Option.some.inj (hgiven.symm.trans h)]
    refine (setTimeZone_routine (fun zone => ?_) _).andThen fun _ => ?_
    · exact asks_interpolating (Sql.opens_setTimeZone zone) (by decide) (by decide) locale .user
    exact .remember .forgetDatabases trivial
  refine hroutine.moves (sent_steady ?_ ?_) s
  · intro sql role link unbuffered hask sql' hsql'
    obtain rfl := Option.some.inj hsql'
    exact hask
  · intro c hc _ sql hsql
    cases c with
    | query => cases hc
    | _ => cases hsql

end Desk

/-! ## What is relied on -/

/-- Unless a text is an identifier with a line break behind it, and only then, it passes the check just
if it is an identifier, it has characters of identifiers only if it is the locale of settings, and so
does the name that is looked up for it as a level. Where it is the locale of a desk, the setup of a
connection puts it between quotes as it is, and the server reads it back. An identifier with a line
break behind it passes, can be the locale of settings, and is the name of no level. -/
theorem identifiers_plain_iff (s : String) :
    ((Text.identifierPasses (some s) false = true ↔ Text.IsIdentifier s) ↔
      ¬ Text.IsIdentifierLine s) ∧
    ((∀ d, DeskSettings.Obtained d → d.locale = some s → Text.IsPlain s) ↔
      ¬ Text.IsIdentifierLine s) ∧
    ((∀ name, Log.lookedUp s = some name → Text.IsPlain name) ↔ ¬ Text.IsIdentifierLine s) ∧
    (∀ {σ : Type} (desk : Desk σ), DeskSettings.Obtained desk.settings →
      desk.settings.locale = some s →
        (∀ server st, Act.Sent (Desk.Interpolates s) st (desk.postConnect server st).2) ∧
        Sql.lex (Sql.setLocale s) = some (Sql.localeTokens s)) ∧
    Log.readLevelName (some s) = Log.levelNamed s (Log.lookedUp s) ∧
    (Text.IsIdentifierLine s →
      Text.identifierPasses (some s) false = true ∧
      (∃ d, DeskSettings.Obtained d ∧ d.locale = some s) ∧
      Log.readLevelName (some s) = .error (.refused (Log.unknownLevel s))) := by
  refine ⟨Text.passes_only_identifiers_iff, DeskSettings.locale_isPlain_iff,
    Log.lookedUp_isPlain_iff, fun desk hd hlocale => ⟨fun server st => ?_, ?_⟩,
    Log.readLevelName_eq s, fun hline => ⟨?_, ?_, Log.readLevelName_of_line hline⟩⟩
  · exact Desk.postConnect_interpolates hlocale server st
  · exact hd.lex_setLocale hlocale
  · exact Text.identifierPasses_iff.mpr (.inr hline)
  · exact DeskSettings.exists_obtained_iff.mpr (.inr hline)

/-- A locale and the name of a level with a line break behind them. -/
theorem line_break_let_through :
    Text.identifierPasses (some "de_DE\n") false = true ∧ ¬ Text.IsIdentifier "de_DE\n" ∧
      (∃ d, DeskSettings.model.read [] (Settings.Model.single "mysql_locale" (.text "de_DE\n")) =
        .ok d ∧ d.locale = some "de_DE\n" ∧ ¬ Text.IsPlain "de_DE\n") ∧
      Log.lookedUp "INFO\n" = some "INFO\n" ∧ ¬ Text.IsPlain "INFO\n" := by
  have hlocale : Text.IsIdentifierLine "de_DE\n" :=
    ⟨"de_DE", Text.isIdentifierList_iff.mp (by decide), rfl⟩
  have hlevel : Text.IsIdentifierLine "INFO\n" :=
    ⟨"INFO", Text.isIdentifierList_iff.mp (by decide), rfl⟩
  have hpasses : Text.isIdentifier "de_DE\n" = true := by decide
  exact ⟨hpasses, hlocale.not_isIdentifier,
    ⟨_, DeskSettings.read_locale [] hpasses, rfl, hlocale.not_isPlain⟩, by decide +kernel,
    hlevel.not_isPlain⟩

end SqlDesk
