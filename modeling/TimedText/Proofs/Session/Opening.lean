import TimedText.Proofs.Charset.Choice
import TimedText.Proofs.Converter.Detection
import TimedText.Proofs.Session.Settings

/-!
# Sessions whose encoding is given

The kind of a stream, and after it a declared name, speak for the encoding with authority: where one
of them does, neither the settings nor the platform has a say in it, and detection stays off.  So two
sessions that are opened on the same authority differ in nothing but their settings, and as long as
these agree on the place and the styling, no request can tell one session from the other.

Detection starts only where the encoding is left to the settings, they ask for it, and there is a
decoder to fall back on.
-/

namespace TimedText

/-! ## Choices -/

namespace Charset

/-- A declaration that holds more than white space declares the name in it. -/
theorem declared?_some
    (declaration name : String)
    (trimmed : Text.trimmed declaration = name)
    (visible : name ≠ "") :
    declared? (some declaration) = some name := by
  have present : ¬ name.isEmpty = true := mt String.isEmpty_iff.1 visible
  show (if (Text.trimmed declaration).isEmpty then none else some (Text.trimmed declaration)) = _
  rw [trimmed, if_neg present]

/-- A stream that is always UTF-8 gets a converter in direct mode. -/
theorem converter_of_always
    (preferences : Preferences)
    (platform : String)
    (declaration : Option String)
    (catalogue : Encoding.Catalogue) :
    (choose preferences platform declaration true).converter catalogue = .ok (.direct, none) := by
  have named : Encoding.isUtf8Name Converter.directName = true := by decide +kernel
  exact if_pos named

/-- A choice asks for detection where it comes from settings that do. -/
theorem detect_choose
    (preferences : Preferences)
    (platform : String)
    (declaration : Option String)
    (always : Bool) :
    (choose preferences platform declaration always).detect = true ↔
      ((choose preferences platform declaration always).source = .configured ∨
          (choose preferences platform declaration always).source = .fallback) ∧
        preferences.detect = true := by
  unfold choose
  split
  next => simp
  next =>
    split
    next => simp
    next =>
      unfold preferred
      dsimp only
      split <;> simp

/-- The converter of a choice detects UTF-8 where the choice asks for that and there is a decoder. -/
theorem detecting_of_converter
    {charset : Charset}
    {catalogue : Encoding.Catalogue}
    {converter : Converter}
    {refusal : Option Refusal}
    (opened : charset.converter catalogue = .ok (converter, refusal)) :
    converter.detecting = true ↔ charset.detect = true ∧ converter.isDirect = false := by
  rcases converter_eq_ok opened with rfl | ⟨scheme, -, rfl⟩
  · simp [Converter.direct, Converter.isDirect]
  · simp [Converter.decoding, Converter.isDirect]

end Charset

/-! ## Converters -/

namespace Converter

/-- No packet changes the mode of a converter. -/
theorem isDirect_convert (converter : Converter) (packet : List UInt8) :
    (converter.convert packet).after.isDirect = converter.isDirect := by
  have way := way_convertWithin expansionLimit converter packet
  rw [convert]
  generalize converter.convertWithin expansionLimit packet = step at way
  cases way with
  | closed shut => rfl
  | direct opened channel => rfl
  | passed scheme state text opened channel detected => rfl
  | decoded scheme state opened channel foreign => simp [isDirect, channel]

end Converter

namespace Session

/-! ## Converters of sessions -/

/-- A session is in direct mode for good. -/
theorem isDirect_calls
    (session : Session)
    (requests : List Request)
    (direct : session.converter.isDirect = true) :
    ∀ call ∈ session.calls requests, call.after.converter.isDirect = true :=
  converter_calls (fun converter => converter.isDirect = true)
    (fun converter packet start => (converter.isDirect_convert packet).trans start)
    (fun _ start => start) session requests direct

/-- A session that does not detect UTF-8 never begins to. -/
theorem detecting_calls
    (session : Session)
    (requests : List Request)
    (off : session.converter.detecting = false) :
    ∀ call ∈ session.calls requests, call.after.converter.detecting = false :=
  converter_calls (fun converter => converter.detecting = false)
    (Converter.detecting_convertWithin Converter.expansionLimit)
    (fun _ start => start) session requests off

/-! ## Openings -/

/-- Where the same encoding is chosen, the sessions that are opened differ in their settings only. -/
theorem open?_of_choose_eq
    (old new : DecoderSettings)
    (codec : Codec)
    (one other : Option String)
    (lookup : Color.Lookup)
    (platform elsewhere : String)
    (catalogue : Encoding.Catalogue)
    (same :
      Charset.choose new.preferences elsewhere other codec.isUtf8 =
        Charset.choose old.preferences platform one codec.isUtf8) :
    open? new codec other lookup elsewhere catalogue =
      (open? old codec one lookup platform catalogue).map fun opened =>
        ({ opened.1 with settings := new }, opened.2) := by
  unfold open?
  rw [same]
  generalize Charset.choose old.preferences platform one codec.isUtf8 = charset
  dsimp only
  rcases charset.converter catalogue with fault | ⟨converter, refusal⟩
  · rfl
  · rfl

/-- A stream that is UTF-8 by definition is opened in direct mode, and nothing is reported. -/
theorem open?_realTimeText
    (settings : DecoderSettings)
    (declaration : Option String)
    (lookup : Color.Lookup)
    (platform : String)
    (catalogue : Encoding.Catalogue) :
    open? settings .realTimeText declaration lookup platform catalogue =
      .ok ({ codec := .realTimeText, settings, converter := .direct, lookup }, []) := by
  have direct := Charset.converter_of_always settings.preferences platform declaration catalogue
  unfold open?
  dsimp only
  rw [Codec.isUtf8, beq_self_eq_true, direct]
  rfl

/-! ## Authority -/

/--
Sessions that give every request the same outcome, and whose converters have a property from the
start on.
-/
structure Agree
    (Holds : Converter → Prop)
    (first second : Session)
    (requests others : List Request) : Prop where
  start : Holds first.converter ∧ second.converter = first.converter
  outcomes : List.Forall₂ Call.SameOutcome (first.calls requests) (second.calls others)
  kept : ∀ call ∈ first.calls requests, Holds call.after.converter

/--
Where the encoding of a session is given with authority, its settings have no say in it, and neither
has the platform, whatever names of encodings are known.  Streams that are UTF-8 by definition are opened in direct mode whatever is
declared for them.  Other streams for which the same name is declared are opened alike, without
detection, or refused alike.  Two such sessions whose settings agree on the place and the styling
cannot be told from one another.  And no session whatever detects UTF-8 at its opening, unless its
encoding comes from the settings, these ask for detection, and there is a decoder.
-/
theorem given_encoding_overrides_settings
    (old new : DecoderSettings)
    (lookup : Color.Lookup)
    (platform elsewhere : String)
    (catalogue : Encoding.Catalogue)
    (requests others : List Request)
    (display : old.SameDisplay new)
    (matching : List.Forall₂ (Request.Matches DecoderSettings.SameDisplay) requests others) :
    (∀ one other : Option String,
      ∃ first : Session,
        open? old .realTimeText one lookup platform catalogue = .ok (first, []) ∧
          open? new .realTimeText other lookup elsewhere catalogue =
            .ok ({ first with settings := new }, []) ∧
          Agree (fun converter => converter.isDirect = true)
            first { first with settings := new } requests others) ∧
      (∀ one other : String,
        Text.trimmed one = Text.trimmed other →
          Text.trimmed one ≠ "" →
            open? new .subt (some other) lookup elsewhere catalogue =
                (open? old .subt (some one) lookup platform catalogue).map (fun opened =>
                  ({ opened.1 with settings := new }, opened.2)) ∧
              ∀ first notices,
                open? old .subt (some one) lookup platform catalogue = .ok (first, notices) →
                  Agree (fun converter => converter.detecting = false)
                    first { first with settings := new } requests others) ∧
      ∀ settings codec declaration session notices,
        open? settings codec declaration lookup platform catalogue = .ok (session, notices) →
          (session.converter.detecting = true ↔
            ((Charset.choose settings.preferences platform declaration codec.isUtf8).source =
                  .configured ∨
                (Charset.choose settings.preferences platform declaration codec.isUtf8).source =
                  .fallback) ∧
              settings.detectUtf8 = true ∧
              session.converter.isDirect = false) := by
  refine ⟨?_, ?_, ?_⟩
  · intro one other
    have first := open?_realTimeText old one lookup platform catalogue
    have second := open?_realTimeText new other lookup elsewhere catalogue
    refine ⟨_, first, second, ?_⟩
    exact
      { start := ⟨rfl, rfl⟩,
        outcomes := Alike.sameOutcome ⟨new, rfl⟩ display matching,
        kept := isDirect_calls _ requests rfl }
  · intro one other same visible
    have given := Charset.declared?_some one _ rfl visible
    have again := Charset.declared?_some other _ same.symm visible
    have first := Charset.choose_of_declared old.preferences platform _ _ given
    have second := Charset.choose_of_declared new.preferences elsewhere _ _ again
    constructor
    · apply open?_of_choose_eq
      exact second.trans first.symm
    · intro session notices opened
      rcases open?_eq_ok opened with ⟨converter, refusal, found, rfl⟩
      have choice : Charset.choose old.preferences platform (some one) Codec.subt.isUtf8 = _ := first
      rw [choice] at found
      have off : converter.detecting = false := by
        rw [← Bool.not_eq_true, Charset.detecting_of_converter found]
        simp
      exact
        { start := ⟨off, rfl⟩,
          outcomes := Alike.sameOutcome ⟨new, rfl⟩ display matching,
          kept := detecting_calls _ requests off }
  · intro settings codec declaration session notices opened
    rcases open?_eq_ok opened with ⟨converter, refusal, found, rfl⟩
    rw [Charset.detecting_of_converter found, Charset.detect_choose, and_assoc]
    rfl

/-- A packet that is UTF-8 but not ASCII, and one that is both. -/
def hangulAndLetter : List Request :=
  [ .decode { data := [0xED, 0x95, 0x9C], start := some 5 },
    .decode { data := [0x61], start := some 6 } ]

/-- Settings that speak for another encoding than ASCII, without detection. -/
def wideSettings : DecoderSettings :=
  { encoding := "UTF-16", localeEncoding := "EUC-KR", detectUtf8 := false }

theorem given_encoding_overrides_settings_under_ascii :
    open? wideSettings .subt (some "ASCII\t") Color.byName "CP949" =
        .ok ({ letters with settings := wideSettings }, []) ∧
      Agree (fun converter => converter.detecting = false)
        letters { letters with settings := wideSettings } hangulAndLetter hangulAndLetter ∧
      (letters.calls hangulAndLetter).map Call.answer =
        [ some (.ok none),
          some
            (.ok
              (some
                { start := 6, stop := 6, ephemeral := true, align := .place .bottom .center,
                  segments := [⟨"a", {}⟩] })) ] := by
  have opened : open? {} .subt (some " ASCII") Color.byName "UTF-8" = .ok (letters, []) := rfl
  have matching :
      List.Forall₂ (Request.Matches DecoderSettings.SameDisplay) hangulAndLetter hangulAndLetter :=
    .cons (.decode _) (.cons (.decode _) .nil)
  rcases
    (given_encoding_overrides_settings {} wideSettings Color.byName "UTF-8" "CP949"
      Encoding.catalogue _ _ ⟨rfl, rfl⟩ matching).2.1 " ASCII" "ASCII\t" (by decide +kernel) (by decide +kernel) with
    ⟨again, agree⟩
  rw [opened] at again
  exact ⟨again, agree letters [] opened, by decide +kernel⟩

end Session

end TimedText
