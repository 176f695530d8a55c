import Mathlib
import TimedText.Encoding.Name
import TimedText.Proofs.Text.LetterCase

/-!
# Names that are looked up alike

Names are looked up in their plain form, in which neither letter case nor the white space around a
name leaves a trace.  So what a spelling of a word stands for is what the word stands for.  This
settles two words that are given a meaning of their own before any look-up: those for UTF-8, which
are also names of the encoding, and the one for the encoding of the platform, which names nothing.
-/

namespace TimedText.Encoding

/-! ## Letter case and white space in plain names -/

theorem isNameChar_toLower (char : Char) : isNameChar char.toLower = isNameChar char := by
  by_cases capital : char.isUpper = true
  · have small : char.toLower.isAlpha = true := by
      rw [Char.isAlpha_toLower_eq_isAlpha]
      simp [Char.isAlpha, capital]
    have letter : char.isAlpha = true := by
      simp [Char.isAlpha, capital]
    simp [isNameChar, Char.isAlphanum, small, letter]
  · rw [Char.toLower_eq_of_not_isUpper capital]

/-- The plain form of a text does not depend on its letter case. -/
theorem plainNameFrom_map_toLower (started gap : Bool) (text : List Char) :
    plainNameFrom started gap (text.map Char.toLower) = plainNameFrom started gap text := by
  induction text generalizing started gap with
  | nil => rfl
  | cons char rest hypothesis =>
      rw [List.map_cons, plainNameFrom, plainNameFrom, isNameChar_toLower,
        Char.toLower_toLower_eq_toLower, hypothesis, hypothesis]

/-- A character that stands for itself in a plain name is a letter, a digit or a full stop. -/
theorem code_of_isNameChar (char : Char) (named : isNameChar char = true) :
    ((0x41 ≤ char.toNat ∧ char.toNat ≤ 0x5A ∨ 0x61 ≤ char.toNat ∧ char.toNat ≤ 0x7A) ∨
        0x30 ≤ char.toNat ∧ char.toNat ≤ 0x39) ∨
      char.toNat = 0x2E := by
  simp only [isNameChar, Char.isAlphanum, Char.isAlpha, Char.isUpper, Char.isLower, Char.isDigit,
    Bool.or_eq_true, Bool.and_eq_true, decide_eq_true_eq, beq_iff_eq, ge_iff_le,
    UInt32.le_iff_toNat_le] at named
  rcases named with latin | rfl
  · exact Or.inl latin
  · exact Or.inr rfl

/-- No white space stands for itself in a plain name. -/
theorem isNameChar_of_isBlank (char : Char) (blank : Text.isBlank char = true) :
    isNameChar char = false := by
  cases named : isNameChar char with
  | false => rfl
  | true =>
      have code := code_of_isNameChar char named
      simp only [Text.isBlank, Bool.or_eq_true, Bool.and_eq_true, decide_eq_true_eq, beq_iff_eq]
        at blank
      omega

/-- At the start of a name it does not matter what was passed over. -/
theorem plainNameFrom_unstarted (gap : Bool) (text : List Char) :
    plainNameFrom false gap text = plainNameFrom false false text := by
  cases text with
  | nil => rfl
  | cons char rest => simp [plainNameFrom]

theorem plainNameFrom_trimStart (text : List Char) :
    plainNameFrom false false (Text.trimStart text) = plainNameFrom false false text := by
  induction text with
  | nil => rfl
  | cons char rest hypothesis =>
      by_cases blank : Text.isBlank char = true
      · rw [Text.trimStart] at hypothesis ⊢
        rw [List.dropWhile_cons_of_pos blank, hypothesis, plainNameFrom,
          isNameChar_of_isBlank char blank, if_neg Bool.false_ne_true, plainNameFrom_unstarted true]
      · rw [Text.trimStart, List.dropWhile_cons_of_neg blank]

theorem plainNameFrom_append_blanks
    (started gap : Bool)
    (text blanks : List Char)
    (blank : ∀ char ∈ blanks, Text.isBlank char = true) :
    plainNameFrom started gap (text ++ blanks) = plainNameFrom started gap text := by
  induction text generalizing started gap with
  | nil =>
      induction blanks generalizing gap with
      | nil => rfl
      | cons char rest hypothesis =>
          rw [List.forall_mem_cons] at blank
          show plainNameFrom started gap (char :: rest) = []
          rw [plainNameFrom, isNameChar_of_isBlank char blank.1, if_neg Bool.false_ne_true]
          exact hypothesis blank.2 true
  | cons char rest hypothesis =>
      rw [List.cons_append, plainNameFrom, plainNameFrom, hypothesis, hypothesis]

theorem plainNameFrom_trimEnd (text : List Char) :
    plainNameFrom false false (Text.trimEnd text) = plainNameFrom false false text := by
  have parts :
      Text.trimEnd text ++ (text.reverse.takeWhile Text.isBlank).reverse = text := by
    rw [Text.trimEnd, Text.trimStart, ← List.reverse_append, List.takeWhile_append_dropWhile,
      List.reverse_reverse]
  have blank :
      ∀ char ∈ (text.reverse.takeWhile Text.isBlank).reverse, Text.isBlank char = true := by
    intro char member
    exact List.mem_takeWhile_imp (List.mem_reverse.1 member)
  have kept := plainNameFrom_append_blanks false false (Text.trimEnd text) _ blank
  rw [parts] at kept
  exact kept.symm

/-! ## Looking up -/

/-- What a name stands for depends on its plain form alone. -/
theorem registered?_eq_of_plain
    (left right : String)
    (same :
      plainNameFrom false false left.toList = plainNameFrom false false right.toList) :
    registered? left = registered? right := by
  rw [registered?, registered?, plainName, plainName, undottedName, undottedName, same]

/-- A spelling of a word stands for what the word stands for. -/
theorem registered?_of_lowered
    (name word : String)
    (plain : Text.IsPlainWord word.toList)
    (spelled : Text.lowered name = word) :
    registered? name = registered? word := by
  subst spelled
  have folded := (Text.lower_eq_iff name.toList _ plain).1 (by simp [Text.lowered])
  refine registered?_eq_of_plain _ _ ?_
  rw [← folded, plainNameFrom_map_toLower]

theorem registered?_trimmed (name : String) :
    registered? (Text.trimmed name) = registered? name := by
  refine registered?_eq_of_plain _ _ ?_
  rw [Text.trimmed, String.toList_ofList, Text.trim, plainNameFrom_trimEnd, plainNameFrom_trimStart]

theorem registered?_of_ofName
    (name : String)
    (encoding : Encoding)
    (named : ofName name = .ok encoding) :
    registered? name = some (.encoding encoding) := by
  unfold ofName at named
  split at named
  next => cases named
  next =>
    split at named
    next found registered =>
      cases named
      exact registered
    next => cases named
    next => cases named

/-- The catalogue of the registry knows a name if it is registered for an encoding. -/
theorem catalogue_eq_ok_iff (name : String) (scheme : Scheme) :
    catalogue name = .ok scheme ↔ ∃ encoding, ofName name = .ok encoding ∧ scheme = encoding := by
  unfold catalogue
  cases ofName name with
  | error fault => simp [Except.map]
  | ok encoding => simp [Except.map, eq_comm]

theorem catalogue_of_ofName
    {name : String}
    {encoding : Encoding}
    (named : ofName name = .ok encoding) :
    catalogue name = .ok encoding :=
  (catalogue_eq_ok_iff name encoding).2 ⟨encoding, named, rfl⟩

theorem catalogue_eq_error_iff (name : String) (fault : NameFault) :
    catalogue name = .error fault ↔ ofName name = .error fault := by
  unfold catalogue
  cases ofName name <;> simp [Except.map]

/-- A name that calls for UTF-8 without a decoder names no other encoding. -/
theorem eq_utf8_of_isUtf8Name
    (name : String)
    (encoding : Encoding)
    (named : ofName name = .ok encoding)
    (isUtf8 : isUtf8Name name = true) :
    encoding = .utf8 := by
  have registered := registered?_of_ofName name encoding named
  rw [isUtf8Name, Bool.or_eq_true, beq_iff_eq, beq_iff_eq] at isUtf8
  rw [← registered?_trimmed] at registered
  rcases isUtf8 with spelled | spelled
  · rw [registered?_of_lowered _ _ (by decide) spelled] at registered
    have found : registered? "utf-8" = some (.encoding .utf8) := by
      cbv
    rw [found] at registered
    cases registered
    rfl
  · rw [registered?_of_lowered _ _ (by decide) spelled] at registered
    have found : registered? "utf8" = some (.encoding .utf8) := by
      cbv
    rw [found] at registered
    cases registered
    rfl

/-- The word for the encoding of the platform names no encoding itself. -/
theorem lowered_ne_system_of_ofName
    (name : String)
    (encoding : Encoding)
    (named : ofName name = .ok encoding) :
    Text.lowered name ≠ "system" := by
  intro spelled
  have registered := registered?_of_ofName name encoding named
  rw [registered?_of_lowered name "system" (by decide) spelled] at registered
  have found : registered? "system" = none := by
    cbv
  rw [found] at registered
  cases registered

end TimedText.Encoding
