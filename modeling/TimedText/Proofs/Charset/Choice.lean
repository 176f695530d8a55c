import TimedText.Charset
import TimedText.Proofs.Converter.Run
import TimedText.Proofs.Encoding.Name

/-!
# The encoding that a session is given

A declared or configured name is taken as it is, and if it names an encoding, a converter for this
encoding is opened and nothing is reported.  Detection is on only under a configured name, and only
if it is asked for.
-/

namespace TimedText.Charset

/-- A declared name is taken, and switches detection off. -/
theorem choose_of_declared
    (preferences : Preferences)
    (platform : String)
    (declaration : Option String)
    (name : String)
    (declared : declared? declaration = some name) :
    choose preferences platform declaration false =
      { name, source := .declared, detect := false } := by
  simp [choose, declared]

/-- Where none is declared, a configured name is taken, with detection as it is asked for. -/
theorem choose_of_configured
    (preferences : Preferences)
    (platform : String)
    (declaration : Option String)
    (encoding : Encoding)
    (undeclared : declared? declaration = none)
    (named : Encoding.ofName (Text.trimmed preferences.configured) = .ok encoding) :
    choose preferences platform declaration false =
      { name := Text.trimmed preferences.configured, source := .configured,
        detect := preferences.detect } := by
  have known := Encoding.registered?_of_ofName _ encoding named
  have notSystem := Encoding.lowered_ne_system_of_ofName _ encoding named
  have present : ¬ (Text.trimmed preferences.configured).isEmpty = true := by
    intro empty
    rw [String.isEmpty_iff.1 empty] at known
    have unknown : Encoding.registered? "" = none := by
      cbv
    rw [unknown] at known
    cases known
  rw [choose, if_neg Bool.false_ne_true, undeclared]
  show preferred preferences platform = _
  rw [preferred, if_neg present, systemName, if_neg notSystem]

/-- A choice opens a converter in direct mode, or one with the decoder of its name. -/
theorem converter_eq_ok
    {charset : Charset}
    {catalogue : Encoding.Catalogue}
    {converter : Converter}
    {refusal : Option Refusal}
    (opened : charset.converter catalogue = .ok (converter, refusal)) :
    converter = .direct ∨
      ∃ scheme,
        catalogue charset.name = .ok scheme ∧
          converter = .decoding charset.name scheme charset.detect := by
  unfold Charset.converter at opened
  split at opened
  next =>
    cases opened
    exact .inl rfl
  next =>
    split at opened
    next decoded made =>
      cases opened
      exact .inr ((Converter.open?_eq_ok_iff _ _ _ _).1 made)
    next =>
      split at opened
      next => cases opened
      next =>
        cases opened
        exact .inl rfl

/-- A choice whose name is in the catalogue, and is none for UTF-8, opens the decoder of its name. -/
theorem converter_of_found
    (charset : Charset)
    {catalogue : Encoding.Catalogue}
    {scheme : Encoding.Scheme}
    (decoded : Encoding.isUtf8Name charset.name = false)
    (found : catalogue charset.name = .ok scheme) :
    charset.converter catalogue =
      .ok (Converter.decoding charset.name scheme charset.detect, none) := by
  rw [converter, isUtf8, decoded, if_neg Bool.false_ne_true, Converter.open?, found]
  rfl

/-- A choice whose name is that of an encoding other than UTF-8 opens a decoder for it. -/
theorem converter_of_ofName
    (charset : Charset)
    (encoding : Encoding)
    (named : Encoding.ofName charset.name = .ok encoding)
    (different : encoding ≠ .utf8) :
    charset.converter =
      .ok (Converter.decoding charset.name encoding charset.detect, none) := by
  refine converter_of_found charset (Bool.eq_false_iff.2 fun isUtf8 => ?_)
    (Encoding.catalogue_of_ofName named)
  exact different (Encoding.eq_utf8_of_isUtf8Name charset.name encoding named isUtf8)

/-- A choice whose name is one for UTF-8 opens direct mode, or the decoder of UTF-8. -/
theorem converter_of_utf8
    (charset : Charset)
    (catalogue : Encoding.Catalogue)
    (named :
      Encoding.isUtf8Name charset.name = true ∨
        catalogue charset.name = .ok Encoding.utf8.scheme) :
    charset.converter catalogue = .ok (.direct, none) ∨
      charset.converter catalogue =
        .ok (.decoding charset.name Encoding.utf8 charset.detect, none) := by
  cases decoded : Encoding.isUtf8Name charset.name with
  | true =>
      left
      rw [converter, isUtf8, if_pos decoded]
  | false =>
      rw [decoded] at named
      exact .inr (converter_of_found charset decoded (named.resolve_left Bool.false_ne_true))

/--
A declared or configured encoding other than UTF-8 is opened, with detection exactly if no encoding
is declared and detection is asked for.
-/
theorem converter_of_chosen
    (preferences : Preferences)
    (platform : String)
    (declaration : Option String)
    (name : String)
    (encoding : Encoding)
    (named : Encoding.ofName name = .ok encoding)
    (different : encoding ≠ .utf8)
    (chosen :
      declared? declaration = some name ∨
        declared? declaration = none ∧ Text.trimmed preferences.configured = name) :
    ∃ detecting,
      (choose preferences platform declaration false).converter =
          .ok (Converter.decoding name encoding detecting, none) ∧
        (detecting = true ↔ declared? declaration = none ∧ preferences.detect = true) := by
  rcases chosen with declared | ⟨undeclared, rfl⟩
  · refine ⟨false, ?_, by simp [declared]⟩
    rw [choose_of_declared preferences platform declaration name declared]
    exact converter_of_ofName _ encoding named different
  · refine ⟨preferences.detect, ?_, by simp [undeclared]⟩
    rw [choose_of_configured preferences platform declaration encoding undeclared named]
    exact converter_of_ofName _ encoding named different

end TimedText.Charset
