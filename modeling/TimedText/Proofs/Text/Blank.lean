import Mathlib
import TimedText.Text.Blank

/-!
# Texts without white space around them

Trimming takes the white space off both ends of a text and nothing else.  What is left begins and
ends with other characters, and there is no other part of the text of which that is true and which
has nothing but white space around it.  So a trimmed text is left as it is.

Numbers have a narrower kind of white space around them, and what holds of trimming holds for any
kind of characters.
-/

namespace TimedText.Text

section Stripped

variable (test : Char → Bool)

/-- The text without the characters of a kind at either end. -/
def stripped (text : List Char) : List Char :=
  (text.dropWhile test).rdropWhile test

/-- A text that neither starts nor ends with a character of a kind. -/
structure IsBare (text : List Char) : Prop where
  start : ∀ char, text.head? = some char → test char = false
  ending : ∀ char, text.getLast? = some char → test char = false

theorem IsBare.dropWhile {text : List Char} (bare : IsBare test text) :
    text.dropWhile test = text := by
  cases text with
  | nil => rfl
  | cons first rest => simp [bare.start first rfl]

theorem IsBare.rdropWhile {text : List Char} (bare : IsBare test text) :
    text.rdropWhile test = text := by
  rw [List.rdropWhile_eq_self_iff]
  intro filled
  rw [bare.ending _ (List.getLast?_eq_some_getLast filled)]
  exact Bool.false_ne_true

theorem isBare_stripped (text : List Char) : IsBare test (stripped test text) where
  start char first := by
    rcases List.rdropWhile_prefix test (text.dropWhile test) with ⟨ending, whole⟩
    have head : (text.dropWhile test).head? = some char := by
      change (stripped test text).head? = some char at first
      rw [← whole, List.head?_append]
      change (stripped test text).head?.or ending.head? = some char
      rw [first]
      rfl
    simpa [head] using List.head?_dropWhile_not test text
  ending char last := by
    have filled : stripped test text ≠ [] := by
      intro nothing
      rw [nothing] at last
      cases last
    rw [List.getLast?_eq_some_getLast filled, Option.some_inj] at last
    rw [← Bool.not_eq_true, ← last]
    exact List.rdropWhile_last_not test _ filled

/-- What is left of a text is the one bare part with nothing but those characters around it. -/
theorem stripped_eq_iff (text core : List Char) :
    stripped test text = core ↔
      IsBare test core ∧
        ∃ before after,
          (∀ char ∈ before, test char = true) ∧
            (∀ char ∈ after, test char = true) ∧
            text = before ++ (core ++ after) := by
  constructor
  · rintro rfl
    refine
      ⟨isBare_stripped test text, text.takeWhile test, (text.dropWhile test).rtakeWhile test,
        fun _ => List.mem_takeWhile_imp, fun _ => List.mem_rtakeWhile_imp, ?_⟩
    rw [stripped, List.rdropWhile_append_rtakeWhile, List.takeWhile_append_dropWhile]
  · rintro ⟨bare, before, after, front, back, rfl⟩
    have reversed : ∀ char ∈ after.reverse, test char = true := by simpa using back
    rw [stripped, List.dropWhile_append_of_pos front]
    cases core with
    | nil =>
        rw [List.nil_append, List.dropWhile_eq_nil_iff.2 back]
        rfl
    | cons first rest =>
        have start : (first :: rest ++ after).dropWhile test = first :: rest ++ after := by
          simp [bare.start first rfl]
        rw [start, List.rdropWhile, List.reverse_append, List.dropWhile_append_of_pos reversed]
        exact bare.rdropWhile

theorem stripped_eq_self_iff (text : List Char) : stripped test text = text ↔ IsBare test text := by
  refine ⟨fun same => same ▸ isBare_stripped test text, fun bare => ?_⟩
  rw [stripped, bare.dropWhile, bare.rdropWhile]

end Stripped

/-! ## Trimming -/

/-- A string that neither starts nor ends with white space. -/
def IsTrimmed (text : String) : Prop :=
  IsBare isBlank text.toList

theorem isTrimmed_trimmed (text : String) : IsTrimmed (trimmed text) := by
  rw [IsTrimmed, trimmed, String.toList_ofList]
  exact isBare_stripped isBlank text.toList

/-- A string without white space around it is left as it is. -/
theorem trimmed_eq_self_iff (text : String) : trimmed text = text ↔ IsTrimmed text := by
  rw [IsTrimmed, ← stripped_eq_self_iff, ← String.toList_inj, trimmed, String.toList_ofList]
  rfl

/-- Nothing is left of a string exactly if there is nothing but white space in it. -/
theorem trimmed_eq_empty_iff (text : String) :
    trimmed text = "" ↔ ∀ char ∈ text.toList, isBlank char = true := by
  have whole : trimmed text = "" ↔ stripped isBlank text.toList = [] := by
    rw [← String.toList_inj, trimmed, String.toList_ofList]
    rfl
  rw [whole, stripped_eq_iff]
  constructor
  · rintro ⟨-, before, after, front, back, parts⟩
    rw [parts, List.nil_append, List.forall_mem_append]
    exact ⟨front, back⟩
  · intro blank
    exact ⟨⟨nofun, nofun⟩, text.toList, [], blank, nofun, (List.append_nil _).symm⟩

end TimedText.Text
