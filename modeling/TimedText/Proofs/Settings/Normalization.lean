import TimedText.Proofs.Text.Blank
import TimedText.Settings.Validation

/-!
# Validation as a normalization

Settings that come out of validation are in a normal form: there is no white space around the names
of encodings, and that of the locale is not empty.  All else is normal by its type.  The raw value of
settings in this form is valid and stands for just these settings, and no other settings are what
their raw value stands for.  So whatever raw value is accepted, and in whichever spelling, a second
validation changes nothing.
-/

namespace TimedText

/-- Decoder settings whose names of encodings are trimmed, with one for the locale. -/
structure DecoderSettings.IsNormal (settings : DecoderSettings) : Prop where
  encoding : Text.IsTrimmed settings.encoding
  locale : Text.IsTrimmed settings.localeEncoding
  named : settings.localeEncoding ≠ ""

namespace Settings

/-! ## Single settings -/

/-- What holds of a default and of all that a rule accepts holds of the setting. -/
theorem check_satisfies
    {α : Type}
    (holds : α → Prop)
    (path name : String)
    (entries : Entries)
    (default : α)
    (rule : Value → Except Problem α)
    (initial : holds default)
    (accepted : ∀ value setting, rule value = .ok setting → holds setting) :
    holds (check path name entries default rule).2 := by
  unfold check
  split
  next => exact initial
  next value given =>
    split
    next setting passed => exact accepted value setting passed
    next => exact initial

/-- A setting is the value that its rule makes of what is given, without complaint. -/
theorem check_eq_of_get?
    {α : Type}
    (path name : String)
    (entries : Entries)
    (default setting : α)
    (rule : Value → Except Problem α)
    (value : Value)
    (given : entries.get? name = some value)
    (passed : rule value = .ok setting) :
    check path name entries default rule = ([], setting) := by
  rw [check, given]
  dsimp only
  rw [passed]

/-- A rule for trimmed texts accepts nothing else. -/
theorem isTrimmed_of_trimmedText
    (value : Value)
    (text : String)
    (passed : trimmedText value = .ok text) :
    Text.IsTrimmed text := by
  unfold trimmedText at passed
  cases found : anyText value with
  | error problem =>
      rw [found] at passed
      cases passed
  | ok raw =>
      rw [found] at passed
      cases passed
      exact Text.isTrimmed_trimmed raw

theorem isTrimmed_of_visibleText
    (value : Value)
    (text : String)
    (passed : visibleText value = .ok text) :
    Text.IsTrimmed text ∧ text ≠ "" := by
  unfold visibleText at passed
  split at passed
  next trimmed made =>
    split at passed
    next => cases passed
    next filled =>
      cases passed
      rw [String.isEmpty_iff] at filled
      exact ⟨isTrimmed_of_trimmedText value _ made, filled⟩
  next => cases passed

theorem trimmedText_text (text : String) (trimmed : Text.IsTrimmed text) :
    trimmedText (.text text) = .ok text :=
  congrArg Except.ok ((Text.trimmed_eq_self_iff text).2 trimmed)

theorem visibleText_text (text : String) (trimmed : Text.IsTrimmed text) (filled : text ≠ "") :
    visibleText (.text text) = .ok text := by
  rw [visibleText, trimmedText_text text trimmed]
  dsimp only
  rw [if_neg (by rwa [String.isEmpty_iff])]

/-- The word for a level is one that is accepted, and stands for that level. -/
theorem levelOf_name (level : Log.Level) : levelOf (.text level.name) = .ok level := by
  cases level <;> decide +kernel

theorem formatOf_name (format : Log.Format) : formatOf (.text format.name) = .ok format := by
  cases format <;> decide +kernel

theorem alignOf_bits (part : Horizontal) : alignOf (.int part.bits) = .ok part := by
  cases part <;> rfl

theorem switchOf_bool (switch : Bool) : switchOf (.bool switch) = .ok switch := rfl

/-! ## Sections -/

/-- The settings of a section satisfy what holds of the defaults and of all that it can spell. -/
theorem checkSection_satisfies
    {α : Type}
    (holds : α → Prop)
    (name : String)
    (entries : Entries)
    (default : α)
    (rule : Entries → Checked α)
    (initial : holds default)
    (spelled : ∀ inner, holds (rule inner).2) :
    holds (checkSection name entries default rule).2 := by
  unfold checkSection
  split
  next => exact initial
  next => exact spelled _
  next => exact spelled _
  next => exact spelled _
  next => exact initial

theorem isNormal_default : ({} : DecoderSettings).IsNormal where
  encoding := ⟨nofun, nofun⟩
  locale := (Text.trimmed_eq_self_iff _).1 (by decide +kernel)
  named := by decide

/-- Decoder settings come out of a section in normal form, with complaints or without. -/
theorem isNormal_checkDecoder (entries : Entries) : (checkDecoder entries).2.IsNormal where
  encoding :=
    check_satisfies Text.IsTrimmed "decoder" "encoding" entries _ trimmedText
      isNormal_default.encoding isTrimmed_of_trimmedText
  locale :=
    check_satisfies Text.IsTrimmed "decoder" "locale_encoding" entries _ visibleText
      isNormal_default.locale fun value text passed => (isTrimmed_of_visibleText value text passed).1
  named :=
    check_satisfies (· ≠ "") "decoder" "locale_encoding" entries _ visibleText
      isNormal_default.named fun value text passed => (isTrimmed_of_visibleText value text passed).2

/-- The raw value of system settings stands for them. -/
theorem checkSystem_entries (settings : SystemSettings) :
    checkSystem settings.entries = ([], settings) := by
  simp only [checkSystem,
    check_eq_of_get? _ "log_level" settings.entries _ _ _ _ rfl (levelOf_name settings.logLevel),
    check_eq_of_get? _ "log_format" settings.entries _ _ _ _ rfl (formatOf_name settings.logFormat),
    check_eq_of_get? _ "log_dir" settings.entries _ settings.logDir anyText _ rfl rfl,
    check_eq_of_get? _ "session_id" settings.entries _ settings.sessionId anyText _ rfl rfl,
    List.append_nil]

/-- The raw value of normal decoder settings stands for them. -/
theorem checkDecoder_entries (settings : DecoderSettings) (normal : settings.IsNormal) :
    checkDecoder settings.entries = ([], settings) := by
  simp only [checkDecoder,
    check_eq_of_get? _ "encoding" settings.entries _ _ _ _ rfl
      (trimmedText_text settings.encoding normal.encoding),
    check_eq_of_get? _ "locale_encoding" settings.entries _ _ _ _ rfl
      (visibleText_text settings.localeEncoding normal.locale normal.named),
    check_eq_of_get? _ "autodetect_utf8" settings.entries _ _ _ _ rfl
      (switchOf_bool settings.detectUtf8),
    check_eq_of_get? _ "align" settings.entries _ _ _ _ rfl (alignOf_bits settings.align),
    check_eq_of_get? _ "formatted" settings.entries _ _ _ _ rfl (switchOf_bool settings.formatted),
    List.append_nil]

/-! ## Whole settings -/

/-- Entries are valid if both of their sections are, and stand for what these stand for. -/
theorem validate_eq_ok_iff (entries : Entries) (settings : Settings) :
    validate entries = .ok settings ↔
      checkSection "system" entries {} checkSystem = ([], settings.system) ∧
        checkSection "decoder" entries {} checkDecoder = ([], settings.decoder) := by
  unfold validate
  generalize checkSection "system" entries {} checkSystem = system
  generalize checkSection "decoder" entries {} checkDecoder = decoder
  rcases system with ⟨_ | ⟨complaint, complaints⟩, system⟩
  · rcases decoder with ⟨_ | ⟨complaint, complaints⟩, decoder⟩
    · cases settings
      simp
    · simp
  · simp

/-- Whatever is valid stands for settings in normal form. -/
theorem isNormal_of_validate
    (entries : Entries)
    (settings : Settings)
    (valid : validate entries = .ok settings) :
    settings.decoder.IsNormal := by
  have checked := ((validate_eq_ok_iff entries settings).1 valid).2
  have normal :=
    checkSection_satisfies DecoderSettings.IsNormal "decoder" entries {} checkDecoder
      isNormal_default isNormal_checkDecoder
  rwa [checked] at normal

/-- The settings in normal form are those that their raw value stands for. -/
theorem validate_entries_eq_ok_iff (settings : Settings) :
    validate settings.entries = .ok settings ↔ settings.decoder.IsNormal := by
  constructor
  · exact isNormal_of_validate settings.entries settings
  · intro normal
    rw [validate_eq_ok_iff]
    exact ⟨checkSystem_entries settings.system, checkDecoder_entries settings.decoder normal⟩

end Settings

end TimedText
