import Mathlib
import TimedText.Text.Blank
import TimedText.Text.LetterCase

/-!
# Lower-case forms of basic Latin words

The lower-case form of a text is taken over the whole of Unicode, and some characters outside basic
Latin have a basic Latin letter in theirs: the Kelvin sign has `k`, and the dotted capital I begins
with `i`.  No other letter is reached from outside.  So for a word without `k`, a text has that word
for its lower-case form exactly if folding basic Latin makes it that word, letter by letter.
-/

namespace TimedText.Text

/-- A basic Latin character that is the lower-case form of no character outside basic Latin. -/
def isPlainLetter (letter : Char) : Bool :=
  letter.toNat < 0x80 && letter != 'k' && letter != '\x00'

/-- A word of such characters. -/
def IsPlainWord (word : List Char) : Prop :=
  ∀ letter ∈ word, isPlainLetter letter = true

instance (word : List Char) : Decidable (IsPlainWord word) :=
  decidable_of_iff (word.all isPlainLetter = true) List.all_eq_true

/--
A capital of a run lies in basic Latin, or its small letter lies outside, or it is the Kelvin sign.
-/
theorem capitalRuns_leave_basicLatin :
    ∀ run ∈ capitalRuns,
      run.last < 0x80
        ∨ 0x80 ≤ (run.first : Int) + run.distance
        ∨ (run.first = 0x212A ∧ run.last = 0x212A ∧ run.distance = -8383) := by
  decide +kernel

/-- A small letter found for a character outside basic Latin lies outside too, or is `k`. -/
theorem smallLetter_outside
    (code small : Nat)
    (outside : 0x80 ≤ code)
    (found : capitalRuns.findSome? (·.smallLetter? code) = some small) :
    0x80 ≤ small ∨ small = 0x6B := by
  rcases List.exists_of_findSome?_eq_some found with ⟨run, member, equal⟩
  unfold CapitalRun.smallLetter? at equal
  split at equal
  case isTrue within =>
      simp only [Bool.and_eq_true, decide_eq_true_eq] at within
      rcases within with ⟨⟨above, below⟩, -⟩
      have same : (code + run.distance).toNat = small := by
        simpa using equal
      rcases capitalRuns_leave_basicLatin run member with latin | far | ⟨first, last, distance⟩
      · omega
      · left
        omega
      · right
        omega
  case isFalse =>
      simp at equal

theorem toLower_of_outside
    (char : Char)
    (outside : 0x80 ≤ char.toNat) :
    char.toLower = char := by
  unfold Char.toLower
  split
  next capital =>
    have bound : char.toNat ≤ 90 := UInt32.le_iff_toNat_le.1 capital.2
    omega
  next => rfl

/-- The opening bracket of a tag is the folded form of no other character. -/
theorem toLower_eq_bracket_iff (char : Char) : char.toLower = '<' ↔ char = '<' := by
  constructor
  · intro folded
    unfold Char.toLower at folded
    split at folded
    next capital =>
      have code := congrArg (fun letter => letter.val.toNat) folded
      have above := UInt32.le_iff_toNat_le.1 capital.1
      have below := UInt32.le_iff_toNat_le.1 capital.2
      simp [UInt32.toNat_add] at code above below
      omega
    next => exact folded
  · rintro rfl
    rfl

/-- A character found at a code outside basic Latin, or at the code of `k`, is no plain letter. -/
theorem isPlainLetter_ofNat_eq_false
    (small : Nat)
    (place : 0x80 ≤ small ∨ small = 0x6B) :
    isPlainLetter (Char.ofNat small) = false := by
  rcases place with far | kelvin
  · by_cases valid : small.isValidChar
    · have code : (Char.ofNat small).toNat = small := by
        unfold Char.ofNat
        rw [dif_pos valid]
        simp [Char.ofNatAux, Char.toNat]
      have beyond : ¬ (Char.ofNat small).toNat < 0x80 := by
        omega
      simp [isPlainLetter, beyond]
    · have nul : Char.ofNat small = '\x00' := by
        unfold Char.ofNat
        rw [dif_neg valid]
        rfl
      simp [isPlainLetter, nul]
  · subst kelvin
    rfl

/-- Lowering a character yields a single plain letter exactly if folding basic Latin does. -/
theorem lowerChar_eq_singleton_iff
    (char letter : Char)
    (plain : isPlainLetter letter = true) :
    lowerChar char = [letter] ↔ char.toLower = letter := by
  unfold lowerChar
  split
  case isTrue latin =>
      simp
  case isFalse beyond =>
      have outside : 0x80 ≤ char.toNat := by
        omega
      have kept := toLower_of_outside char outside
      have different : char.toLower ≠ letter := by
        intro equal
        rw [kept] at equal
        subst equal
        simp only [isPlainLetter, Bool.and_eq_true, decide_eq_true_eq] at plain
        omega
      split
      · simp [different]
      · split
        next small found =>
          have strange :=
            isPlainLetter_ofNat_eq_false small (smallLetter_outside char.toNat small outside found)
          constructor
          · intro equal
            have same : Char.ofNat small = letter := by
              simpa using equal
            rw [same, plain] at strange
            cases strange
          · intro equal
            exact (different equal).elim
        next =>
          rw [kept]
          simp

/-- Lowering a character yields one character, or the two of the dotted capital I. -/
theorem lowerChar_cases (char : Char) :
    (∃ letter, lowerChar char = [letter]) ∨ lowerChar char = ['i', '\u0307'] := by
  unfold lowerChar
  split
  · exact Or.inl ⟨_, rfl⟩
  · split
    · exact Or.inr rfl
    · split
      · exact Or.inl ⟨_, rfl⟩
      · exact Or.inl ⟨_, rfl⟩

/-- A sigma has no plain letter for its small form, whether it ends a word or not. -/
theorem lowerBetween_eq_singleton_iff
    (before : List Char)
    (char letter : Char)
    (after : List Char)
    (plain : isPlainLetter letter = true) :
    lowerBetween before char after = [letter] ↔ char.toLower = letter := by
  rw [← lowerChar_eq_singleton_iff char letter plain, lowerBetween]
  split
  next sigma =>
    have small : lowerChar 'Σ' = ['σ'] := by
      decide +kernel
    have final : ['ς'] ≠ [letter] := by
      rintro ⟨⟩
      exact absurd plain (by decide)
    have medial : ['σ'] ≠ [letter] := by
      rintro ⟨⟩
      exact absurd plain (by decide)
    rw [sigma.1, small]
    exact iff_of_false final medial
  next => rfl

/-- Between others too a character has one character, or the two of the dotted capital I. -/
theorem lowerBetween_cases (before : List Char) (char : Char) (after : List Char) :
    (∃ letter, lowerBetween before char after = [letter]) ∨
      lowerBetween before char after = ['i', '\u0307'] := by
  unfold lowerBetween
  split
  · exact Or.inl ⟨_, rfl⟩
  · exact lowerChar_cases char

/--
A text has a plain word for its lower-case form exactly if folding basic Latin makes it that word,
whatever stands before the text.
-/
theorem lowerBehind_eq_iff
    (before text word : List Char)
    (plain : IsPlainWord word) :
    lowerBehind before text = word ↔ text.map Char.toLower = word := by
  induction text generalizing before word with
  | nil => simp [lowerBehind]
  | cons char rest hypothesis =>
      rw [lowerBehind]
      cases word with
      | nil =>
          rcases lowerBetween_cases before char rest with ⟨single, equal⟩ | equal
          · simp [equal]
          · simp [equal]
      | cons letter others =>
          have plainLetter := plain letter (by simp)
          have plainOthers : IsPlainWord others := by
            intro other member
            exact plain other (List.mem_cons_of_mem letter member)
          have lowered := lowerBetween_eq_singleton_iff before char letter rest plainLetter
          have behind := hypothesis (char :: before) others plainOthers
          rw [List.map_cons, List.cons.injEq, ← lowered, ← behind]
          rcases lowerBetween_cases before char rest with ⟨single, equal⟩ | equal
          · simp [equal]
          · have combining : others.head? ≠ some '\u0307' := by
              intro first
              have member := List.mem_of_mem_head? (Option.mem_def.2 first)
              exact absurd (plainOthers _ member) (by decide)
            rw [equal]
            constructor
            · intro same
              simp only [List.cons_append, List.nil_append, List.cons.injEq] at same
              rw [← same.2] at combining
              simp at combining
            · rintro ⟨same, -⟩
              simp at same

/-- A text has a plain word for its lower-case form exactly if folding basic Latin makes it that. -/
theorem lower_eq_iff
    (text word : List Char)
    (plain : IsPlainWord word) :
    lower text = word ↔ text.map Char.toLower = word :=
  lowerBehind_eq_iff [] text word plain

/-! ## Texts in two parts -/

/-- A character that is not passed over and has no letter case: no word goes on across it. -/
def isBoundary (char : Char) : Bool :=
  !isIgnorable char && !isCased char

/-- What stands before a boundary does not tell whether a letter behind it ends a word. -/
theorem beginsCased_append
    (front : List Char)
    (boundary : Char)
    (before : List Char)
    (parts : isBoundary boundary = true) :
    beginsCased (front ++ boundary :: before) = beginsCased front := by
  simp only [isBoundary, Bool.and_eq_true, Bool.not_eq_true'] at parts
  rcases parts with ⟨passed, uncased⟩
  induction front with
  | nil => simp [beginsCased, passed, uncased]
  | cons char rest hypothesis =>
      cases ignorable : isIgnorable char with
      | true => simpa [beginsCased, ignorable] using hypothesis
      | false => simp [beginsCased, ignorable]

/-- What stands before a boundary does not matter to what stands behind it. -/
theorem lowerBehind_append
    (front : List Char)
    (boundary : Char)
    (before text : List Char)
    (parts : isBoundary boundary = true) :
    lowerBehind (front ++ boundary :: before) text = lowerBehind front text := by
  induction text generalizing front with
  | nil => rfl
  | cons char rest hypothesis =>
      have others := hypothesis (char :: front)
      rw [List.cons_append] at others
      rw [lowerBehind, lowerBehind, others, lowerBetween, lowerBetween, endsWord, endsWord,
        beginsCased_append front boundary before parts]

/-- A front without sigmas that ends with a boundary is lowered by itself. -/
theorem lower_append
    (front : List Char)
    (boundary : Char)
    (text : List Char)
    (parts : isBoundary boundary = true)
    (plain : 'Σ' ∉ front ++ [boundary]) :
    lower (front ++ boundary :: text) = (front ++ [boundary]).flatMap lowerChar ++ lower text := by
  have passed (before front : List Char) (clean : 'Σ' ∉ front) :
      lowerBehind before (front ++ text) =
        front.flatMap lowerChar ++ lowerBehind (front.reverse ++ before) text := by
    induction front generalizing before with
    | nil => rfl
    | cons char rest hypothesis =>
        rw [List.mem_cons, not_or] at clean
        have alone : lowerBetween before char (rest ++ text) = lowerChar char :=
          if_neg fun sigma => clean.1 sigma.1.symm
        rw [List.cons_append, lowerBehind, alone, hypothesis _ clean.2, List.flatMap_cons,
          List.append_assoc, List.reverse_cons, List.append_assoc]
        rfl
  have whole : front ++ boundary :: text = (front ++ [boundary]) ++ text := by
    simp
  rw [lower, whole, passed [] _ plain, List.reverse_append, List.append_nil]
  exact congrArg _ (lowerBehind_append [] boundary front.reverse text parts)

/-- The last letter of a word has another small form than the same letter within it. -/
example : lowered "ΑΣΑ ΑΣ'" = "ασα ας'" := by
  decide +kernel

/-! ## Characters that are their own lower-case form -/

/-- The codes of white space outside basic Latin. -/
def wideBlanks : List Nat :=
  [0x85, 0xA0, 0x1680, 0x2000, 0x2001, 0x2002, 0x2003, 0x2004, 0x2005, 0x2006, 0x2007, 0x2008,
    0x2009, 0x200A, 0x2028, 0x2029, 0x202F, 0x205F, 0x3000]

theorem mem_wideBlanks_of_isBlank
    (char : Char)
    (blank : isBlank char = true)
    (outside : 0x80 ≤ char.toNat) :
    char.toNat ∈ wideBlanks := by
  simp only [isBlank, Bool.or_eq_true, Bool.and_eq_true, decide_eq_true_eq, beq_iff_eq] at blank
  simp only [wideBlanks, List.mem_cons, List.not_mem_nil, or_false]
  omega

/-- No run of capital letters reaches white space. -/
theorem wideBlanks_are_no_capitals :
    ∀ code ∈ wideBlanks,
      code ≠ 0x130 ∧ capitalRuns.findSome? (·.smallLetter? code) = none := by
  decide +kernel

/-- White space has no letter case. -/
theorem lowerChar_of_isBlank (char : Char) (blank : isBlank char = true) :
    lowerChar char = [char] := by
  unfold lowerChar
  split
  case isTrue latin =>
      have small : ¬ char.isUpper = true := by
        simp only [isBlank, Bool.or_eq_true, Bool.and_eq_true, decide_eq_true_eq, beq_iff_eq]
          at blank
        simp only [Char.isUpper, decide_eq_true_eq, ge_iff_le, UInt32.le_iff_toNat_le]
        rintro ⟨above, -⟩
        have code : 65 ≤ char.toNat := above
        omega
      rw [Char.toLower_eq_of_not_isUpper small]
  case isFalse beyond =>
      have listed := mem_wideBlanks_of_isBlank char blank (Nat.le_of_not_lt beyond)
      rcases wideBlanks_are_no_capitals char.toNat listed with ⟨undotted, none⟩
      rw [if_neg (by simpa using undotted), none]

/-- A character without letter case stands in the lower-case form of each text that it stands in. -/
theorem mem_lower_of_mem
    (text : List Char)
    (char : Char)
    (kept : lowerChar char = [char])
    (member : char ∈ text) :
    char ∈ lower text := by
  have sigma : ¬ lowerChar 'Σ' = ['Σ'] := by
    decide +kernel
  unfold lower
  generalize [] = before
  induction text generalizing before with
  | nil => cases member
  | cons first rest hypothesis =>
      rw [lowerBehind, List.mem_append]
      rcases List.mem_cons.1 member with rfl | later
      · refine .inl ?_
        have medial : ¬ (char = 'Σ' ∧ endsWord before rest = true) := by
          rintro ⟨rfl, -⟩
          exact sigma kept
        rw [lowerBetween, if_neg medial, kept]
        exact List.mem_singleton_self char
      · exact .inr (hypothesis later (first :: before))

end TimedText.Text
