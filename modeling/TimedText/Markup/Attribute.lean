import TimedText.Text.Blank

/-!
# Attributes of a font tag

A font tag lists attributes, each a name, an equals sign and a value, with white space wherever it
helps.  A value is quoted with either quote character or runs to the next white space or `>`.  The
list ends with the first `>` outside a quoted value, or with the text.

Nothing here fails.  A name without a value and a value without a name are passed over, and a quote
that is never closed makes everything before the next `>` the value.
-/

namespace TimedText.Markup

/-- A named attribute as written. -/
structure Attribute where
  name : List Char
  value : List Char
deriving DecidableEq, Repr

namespace Attribute

/-- Membership in the characters that a name is made of. -/
def isNameChar (char : Char) : Bool :=
  !(Text.isBlank char || char == '=' || char == '>')

/-- Membership in the characters that an unquoted value is made of. -/
def isValueChar (char : Char) : Bool :=
  !(Text.isBlank char || char == '>')

/-- The two characters that can quote a value. -/
def isQuote (char : Char) : Bool :=
  char == '"' || char == '\''

/-- The text before the first given character, and the text after it. -/
def splitAtFirst? (mark : Char) : List Char → Option (List Char × List Char)
  | [] => none
  | char :: rest =>
      if char = mark then some ([], rest)
      else (splitAtFirst? mark rest).map fun (before, after) => (char :: before, after)

/-- The value at the start of a text, and what follows it. -/
def scanValue : List Char → List Char × List Char
  | [] => ([], [])
  | char :: rest =>
      if isQuote char then
        match splitAtFirst? char rest with
        | some (value, after) => (value, after)
        | none => (rest.takeWhile (· != '>'), rest.dropWhile (· != '>'))
      else
        ((char :: rest).takeWhile isValueChar, (char :: rest).dropWhile isValueChar)

/--
One attribute at the start of a text, if a name and a value stand there, and what follows.
-/
def scanOne (text : List Char) : Option Attribute × List Char :=
  let name := text.takeWhile isNameChar
  match Text.trimStart (text.dropWhile isNameChar) with
  | '=' :: rest =>
      let (value, after) := scanValue (Text.trimStart rest)
      (if name.isEmpty then none else some ⟨name, value⟩, after)
  | rest => (none, rest)

/-! ## The scan gets on -/

theorem length_dropWhile_le (test : Char → Bool) (text : List Char) :
    (text.dropWhile test).length ≤ text.length := by
  induction text with
  | nil => simp
  | cons first rest hypothesis =>
      by_cases holds : test first = true
      · simpa [List.dropWhile, holds] using Nat.le_succ_of_le hypothesis
      · simp [List.dropWhile, holds]

theorem length_trimStart_le (text : List Char) :
    (Text.trimStart text).length ≤ text.length :=
  length_dropWhile_le Text.isBlank text

/-- The parts before and after the first mark make up the text, with the mark between them. -/
theorem splitAtFirst?_eq_some
    (mark : Char)
    (text before after : List Char)
    (equal : splitAtFirst? mark text = some (before, after)) :
    text = before ++ mark :: after := by
  induction text generalizing before with
  | nil => simp [splitAtFirst?] at equal
  | cons first rest hypothesis =>
      unfold splitAtFirst? at equal
      split at equal
      case isTrue same =>
          cases equal
          simp [same]
      case isFalse different =>
          obtain ⟨⟨inner, outer⟩, found, pair⟩ := Option.map_eq_some_iff.1 equal
          cases pair
          simp [hypothesis inner found]

/-- What follows a value is no longer than the text that the value starts. -/
theorem length_scanValue_le (text : List Char) :
    (scanValue text).2.length ≤ text.length := by
  cases text with
  | nil => simp [scanValue]
  | cons first rest =>
      simp only [scanValue]
      split
      · split
        next value after found =>
          have parts := splitAtFirst?_eq_some first rest value after found
          simp [parts]
          omega
        · have shorter := length_dropWhile_le (· != '>') rest
          simp only [List.length_cons]
          omega
      · exact length_dropWhile_le isValueChar (first :: rest)

/-- Where neither white space nor `>` stands, reading an attribute uses up some of the text. -/
theorem length_scanOne_lt
    (first : Char)
    (rest : List Char)
    (visible : Text.isBlank first = false)
    (inside : first ≠ '>') :
    (scanOne (first :: rest)).2.length < (first :: rest).length := by
  have remaining :
      ((first :: rest).dropWhile isNameChar).length ≤ rest.length
        ∨ (first = '=' ∧ (first :: rest).dropWhile isNameChar = first :: rest) := by
    by_cases named : isNameChar first = true
    · left
      simpa [List.dropWhile, named] using length_dropWhile_le isNameChar rest
    · right
      constructor
      · simpa [isNameChar, visible, inside] using named
      · simp [List.dropWhile, named]
  unfold scanOne
  dsimp only
  have trimmed := length_trimStart_le ((first :: rest).dropWhile isNameChar)
  split
  next after equal =>
    have bound : after.length + 1 ≤ ((first :: rest).dropWhile isNameChar).length := by
      simpa [equal] using trimmed
    have value := length_scanValue_le (Text.trimStart after)
    have start := length_trimStart_le after
    have whole := length_dropWhile_le isNameChar (first :: rest)
    simp only [List.length_cons] at whole ⊢
    omega
  next other noEquals =>
    rcases remaining with shorter | ⟨equals, same⟩
    · simp only [List.length_cons]
      omega
    · exfalso
      have kept : Text.trimStart (first :: rest) = first :: rest := by
        simp [Text.trimStart, List.dropWhile, visible]
      rw [same, kept, equals] at noEquals
      exact noEquals rest rfl

set_option linter.unusedVariables false in
/--
The attributes of a font tag, the text starting right after the tag's name, and what follows the
tag.
-/
def scan (text : List Char) : List Attribute × List Char :=
  match equal : Text.trimStart text with
  | [] => ([], [])
  | first :: rest =>
      if closing : first = '>' then
        ([], rest)
      else
        let one := scanOne (first :: rest)
        let others := scan one.2
        (one.1.toList ++ others.1, others.2)
termination_by text.length
decreasing_by
  have shorter := length_scanOne_lt first rest (Text.head_trimStart text first rest equal) closing
  have start := length_trimStart_le text
  rw [equal] at start
  exact Nat.lt_of_lt_of_le shorter start

/-- What follows a font tag is no longer than the text that its attributes start. -/
theorem length_scan_le (text : List Char) : (scan text).2.length ≤ text.length := by
  fun_induction scan text with
  | case1 text equal => simp
  | case2 text rest equal =>
      have start := length_trimStart_le text
      rw [equal] at start
      simp only [List.length_cons] at start
      exact Nat.le_of_succ_le start
  | case3 text first rest equal closing one others hypothesis =>
      have shorter :=
        length_scanOne_lt first rest (Text.head_trimStart text first rest equal) closing
      have start := length_trimStart_le text
      rw [equal] at start
      exact Nat.le_trans hypothesis (Nat.le_of_lt (Nat.lt_of_lt_of_le shorter start))

end Attribute

end TimedText.Markup
