import TimedText.Proofs.Settings.Variable
import TimedText.Proofs.Text.LetterCase
import TimedText.Proofs.Text.WholeNumber
import TimedText.Settings.Store

/-!
# Texts that come from the environment

A variable of the environment is a text, and the setting that it stands for may be any text at all:
the identity of a session, the directory of its journal, or the name of an encoding.  A name of an
encoding arrives as it is given.  Any other text is first taken for a switch if it is the word for
one, and for a number if it is one, whatever kind of value its setting has.  A setting that takes
texts only refuses both, so these are the texts with which it does not arrive.
-/

namespace TimedText

namespace Environment

/-! ## How a text is taken -/

/-- The environment with just one variable. -/
def only (name value : String) : Environment :=
  ⟨[(name, value)]⟩

/-- A text that is the word for a switch, in any letter case, or a number. -/
def IsTaken (value : String) : Prop :=
  value.toList.map Char.toLower ∈ ["true".toList, "false".toList] ∨
    ∃ number, Text.IsNumber value.toList number

theorem lowered_eq_iff
    (value word : String)
    (plain : Text.IsPlainWord word.toList) :
    Text.lowered value = word ↔ value.toList.map Char.toLower = word.toList := by
  rw [← Text.lower_eq_iff _ _ plain, Text.lowered, ← String.toList_inj, String.toList_ofList]

/-- What is not taken for a switch or for a number arrives as a text. -/
theorem setting_of_not_isTaken (field value : String) (free : ¬ IsTaken value) :
    setting field value = .text value := by
  unfold setting
  split
  next => rfl
  next =>
    split
    next on =>
      exact (free (.inl (by simp [(lowered_eq_iff value "true" (by decide)).1 on]))).elim
    next off =>
      exact (free (.inl (by simp [(lowered_eq_iff value "false" (by decide)).1 off]))).elim
    next =>
      split
      next number read =>
        exact (free (.inr ⟨number, (Text.integer?_eq_some_iff _ _).1 read⟩)).elim
      next => rfl

/-- What is taken for a switch or for a number is no text, unless it names an encoding. -/
theorem textOf?_setting_of_isTaken
    (field value : String)
    (other : encodingStem.isSuffixOf field.toList = false)
    (taken : IsTaken value) :
    Settings.textOf? (setting field value) = none := by
  unfold setting
  rw [if_neg (by simp [other])]
  split
  next => rfl
  next => rfl
  next noTrue noFalse =>
    rcases taken with word | ⟨number, written⟩
    · simp only [List.mem_cons, List.not_mem_nil, or_false] at word
      rcases word with on | off
      · exact (noTrue ((lowered_eq_iff value "true" (by decide)).2 on)).elim
      · exact (noFalse ((lowered_eq_iff value "false" (by decide)).2 off)).elim
    · rw [(Text.integer?_eq_some_iff _ _).2 written]
      rfl

/-! ## Settings of one variable -/

/-- One variable makes one section with one setting. -/
theorem override_only
    (name value : String)
    (place : Place)
    (found : place? name = some place) :
    (only name value).override [] =
      [(.name place.part, .mapping [(.name place.field, setting place.field value)])] := by
  rw [override, only, List.foldl_cons, List.foldl_nil, overrideOne, found]
  rfl

end Environment

namespace Settings

open Environment (only setting IsTaken)

/-- The settings of a single variable are those of its section with that setting. -/
theorem ofEnvironment_only
    (name value : String)
    (place : Environment.Place)
    (found : Environment.place? name = some place) :
    ofEnvironment (only name value) =
      (validate
        [(.name place.part, .mapping [(.name place.field, setting place.field value)])]).mapError
          .invalid := by
  rw [ofEnvironment, ofEntries, if_pos (by decide), Environment.override_only name value place found]

theorem get?_singleton (name other : String) (value : Value) :
    Entries.get? [(.name name, value)] other = if other = name then some value else none :=
  Entries.get?_put [] name other value

/-- A setting that is alone in its section is checked by its own rule, all others have defaults. -/
theorem check_singleton
    {α : Type}
    (path name other : String)
    (value : Value)
    (default : α)
    (rule : Value → Except Problem α) :
    check path name [(.name other, value)] default rule =
      if name = other then
        match rule value with
        | .ok setting => ([], setting)
        | .error problem => ([{ path := path ++ "." ++ name, problem }], default)
      else
        ([], default) := by
  rw [check, get?_singleton]
  by_cases same : name = other
  · cases given : rule value <;> simp [same, given]
  · simp [same]

/-- A system setting that takes texts refuses anything else. -/
theorem validate_of_no_text
    (field : String)
    (free : field = "session_id" ∨ field = "log_dir")
    (value : Value)
    (noText : textOf? value = none) :
    validate [(.name "system", .mapping [(.name field, value)])] =
      .error [{ path := "system." ++ field, problem := .kind }] := by
  have refused : anyText value = .error .kind := by rw [anyText, noText]
  have checked :
      checkSystem [(.name field, value)] =
        ([{ path := "system." ++ field, problem := .kind }], {}) := by
    rcases free with rfl | rfl <;> simp [checkSystem, check_singleton, refused]
  simp [validate, checkSection, get?_singleton, checked]

/-- A name of an encoding that is more than white space is taken without the white space around. -/
theorem validate_localeEncoding (value : String) :
    validate [(.name "decoder", .mapping [(.name "locale_encoding", .text value)])] =
      if Text.trimmed value = "" then
        .error [{ path := "decoder.locale_encoding", problem := .blank }]
      else
        .ok { decoder := { localeEncoding := Text.trimmed value } } := by
  have visible :
      visibleText (.text value) =
        if Text.trimmed value = "" then .error .blank else .ok (Text.trimmed value) := by
    simp [visibleText, trimmedText, anyText, textOf?, Except.map]
  by_cases nothing : Text.trimmed value = ""
  · rw [if_pos nothing] at visible
    simp [validate, checkSection, get?_singleton, checkDecoder, check_singleton, visible, nothing]
  · rw [if_neg nothing] at visible
    simp [validate, checkSection, get?_singleton, checkDecoder, check_singleton, visible, nothing]

namespace Store

variable (store : Store) (environment : Environment)

/-- The environment alone makes these settings, and they come into force. -/
def Takes (settings : Settings) : Prop :=
  store.loadDefaults environment = (.ok settings, { store with active := some settings })

/-- The environment alone gives one setting a value of the wrong kind, and nothing changes. -/
def Refuses (path : String) : Prop :=
  store.loadDefaults environment = (.error (.invalid [{ path, problem := .kind }]), store)

theorem takes_iff (settings : Settings) :
    store.Takes environment settings ↔ ofEnvironment environment = .ok settings := by
  unfold Takes loadDefaults
  cases ofEnvironment environment with
  | error cause => simp
  | ok loaded => simp

theorem refuses_iff (path : String) :
    store.Refuses environment path ↔
      ofEnvironment environment = .error (.invalid [{ path, problem := .kind }]) := by
  unfold Refuses loadDefaults
  cases ofEnvironment environment with
  | error cause => simp
  | ok loaded => simp

end Store

/-- A setting that takes any text takes those that stay texts, and refuses the others. -/
theorem takes_or_refuses
    (store : Store)
    (name field value : String)
    (settings : Settings)
    (found : Environment.place? name = some ⟨"system", field⟩)
    (free : field = "session_id" ∨ field = "log_dir")
    (valid : validate [(.name "system", .mapping [(.name field, .text value)])] = .ok settings) :
    (store.Takes (only name value) settings ↔ ¬ IsTaken value) ∧
      (store.Refuses (only name value) ("system." ++ field) ↔ IsTaken value) := by
  rw [Store.takes_iff, Store.refuses_iff, ofEnvironment_only name value _ found]
  by_cases taken : IsTaken value
  · have other : Environment.encodingStem.isSuffixOf field.toList = false := by
      rcases free with rfl | rfl <;> decide
    have noText := Environment.textOf?_setting_of_isTaken field value other taken
    rw [validate_of_no_text field free _ noText]
    simp [taken, Except.mapError]
  · rw [Environment.setting_of_not_isTaken field value taken, valid]
    simp [taken, Except.mapError]

/--
A variable for the identity of a session or for the directory of its journal arrives as it is given,
with all other settings at their defaults, exactly if it is neither the word for a switch nor a
number; in that case its setting is refused.  A variable for an encoding arrives always, without the
white space around it, and so does one for the encoding of the locale if there is more to it than
white space.
-/
theorem texts_arrive_unless_taken (store : Store) (value : String) :
    ((store.Takes (only "SUBSDEC_SYSTEM_SESSION_ID" value) { system := { sessionId := value } } ↔
        ¬ IsTaken value) ∧
      (store.Refuses (only "SUBSDEC_SYSTEM_SESSION_ID" value) "system.session_id" ↔
        IsTaken value)) ∧
      ((store.Takes (only "SUBSDEC_SYSTEM_LOG_DIR" value) { system := { logDir := value } } ↔
          ¬ IsTaken value) ∧
        (store.Refuses (only "SUBSDEC_SYSTEM_LOG_DIR" value) "system.log_dir" ↔
          IsTaken value)) ∧
      store.Takes (only "SUBSDEC_DECODER_ENCODING" value)
        { decoder := { encoding := Text.trimmed value } } ∧
      (store.Takes (only "SUBSDEC_DECODER_LOCALE_ENCODING" value)
          { decoder := { localeEncoding := Text.trimmed value } } ↔
        ∃ char ∈ value.toList, Text.isBlank char = false) := by
  refine ⟨?_, ?_, ?_, ?_⟩
  · exact takes_or_refuses store _ "session_id" value _ (by decide) (.inl rfl) rfl
  · exact takes_or_refuses store _ "log_dir" value _ (by decide) (.inr rfl) rfl
  · rw [Store.takes_iff, ofEnvironment_only _ value ⟨"decoder", "encoding"⟩ (by decide)]
    rfl
  · rw [Store.takes_iff,
      ofEnvironment_only _ value ⟨"decoder", "locale_encoding"⟩ (by decide)]
    have kept : setting "locale_encoding" value = .text value := rfl
    have seen :
        (∃ char ∈ value.toList, Text.isBlank char = false) ↔ Text.trimmed value ≠ "" := by
      rw [Ne, Text.trimmed_eq_empty_iff]
      simp
    rw [kept, validate_localeEncoding, seen]
    by_cases nothing : Text.trimmed value = ""
    · simp [Except.mapError, nothing]
    · simp [Except.mapError, nothing]

/-- A session whose identity is a single digit cannot get it from the environment. -/
theorem numeric_identity_is_refused :
    ofEnvironment (only "SUBSDEC_SYSTEM_SESSION_ID" "5") =
        .error (.invalid [{ path := "system.session_id", problem := .kind }]) ∧
      ofEnvironment (only "SUBSDEC_SYSTEM_SESSION_ID" "five") =
        .ok { system := { sessionId := "five" } } := by
  decide +kernel

end Settings

end TimedText
