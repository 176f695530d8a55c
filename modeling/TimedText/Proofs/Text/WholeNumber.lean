import TimedText.Proofs.Text.Blank
import TimedText.Proofs.Text.Numeral

/-!
# Texts that are a number

A text is a number as a whole if nothing stands in it but digits of any script, with single
underscores between them or none, a sign before them or none, and white space around.  Settings of
the environment and options of the command line are read in this way.  What is read is exactly the
number that such a text has, as long as it does not have too many digits.
-/

namespace TimedText.Text

/-! ## Groups of digits -/

/-- Digits of a kind in groups, with single underscores between the groups. -/
def IsGrouped (digit : Char → Bool) (text : List Char) : Prop :=
  ∀ group ∈ text.splitOn '_', group ≠ [] ∧ ∀ char ∈ group, digit char = true

section Grouped

variable (digit : Char → Bool)

theorem not_isGrouped_nil : ¬ IsGrouped digit [] := by
  intro grouped
  exact (grouped [] (by simp)).1 rfl

theorem not_isGrouped_underscore (rest : List Char) : ¬ IsGrouped digit ('_' :: rest) := by
  intro grouped
  refine (grouped [] ?_).1 rfl
  rw [List.splitOn_cons_eq_if_modifyHead, if_pos (by decide)]
  exact List.mem_cons_self

variable (apart : digit '_' = false)

include apart

theorem ne_underscore_of_digit (char : Char) (decimal : digit char = true) : char ≠ '_' := by
  rintro rfl
  rw [apart] at decimal
  cases decimal

theorem isGrouped_singleton_iff (char : Char) : IsGrouped digit [char] ↔ digit char = true := by
  by_cases underscore : char = '_'
  · simp [underscore, apart, not_isGrouped_underscore]
  · have one : [char].splitOn '_' = [[char]] := by
      simp [List.splitOn_cons_eq_if_modifyHead, underscore]
    simp [IsGrouped, one]

/-- A group of one digit before an underscore. -/
theorem isGrouped_cons_underscore_iff (char : Char) (rest : List Char) :
    IsGrouped digit (char :: '_' :: rest) ↔ digit char = true ∧ IsGrouped digit rest := by
  by_cases underscore : char = '_'
  · simp [underscore, apart, not_isGrouped_underscore]
  · have parts : (char :: '_' :: rest).splitOn '_' = [char] :: rest.splitOn '_' := by
      simp [List.splitOn_cons_eq_if_modifyHead, underscore]
    simp [IsGrouped, parts]

/-- A group that goes on with a further digit. -/
theorem isGrouped_cons_cons_iff
    (char next : Char)
    (rest : List Char)
    (goesOn : next ≠ '_') :
    IsGrouped digit (char :: next :: rest) ↔
      digit char = true ∧ IsGrouped digit (next :: rest) := by
  by_cases underscore : char = '_'
  · simp [underscore, apart, not_isGrouped_underscore]
  · rcases List.exists_cons_of_ne_nil (List.splitOn_ne_nil '_' rest) with ⟨group, others, found⟩
    have short : (next :: rest).splitOn '_' = (next :: group) :: others := by
      simp [List.splitOn_cons_eq_if_modifyHead, goesOn, found]
    have long : (char :: next :: rest).splitOn '_' = (char :: next :: group) :: others := by
      simp [List.splitOn_cons_eq_if_modifyHead, underscore, goesOn, found]
    simp [IsGrouped, short, long, and_assoc]

/-- The digits of a grouped numeral are read, and nothing else is. -/
theorem groupedDigits?_eq_some_iff (text digits : List Char) :
    groupedDigits? digit text = some digits ↔
      IsGrouped digit text ∧ digits = text.filter (· != '_') := by
  -- A digit goes in front of what is read of the rest.
  have behind (char : Char) (rest digits : List Char)
      (hypothesis : ∀ digits,
        groupedDigits? digit rest = some digits ↔
          IsGrouped digit rest ∧ digits = rest.filter (· != '_')) :
      (groupedDigits? digit rest).map (char :: ·) = some digits ↔
        IsGrouped digit rest ∧ digits = char :: rest.filter (· != '_') := by
    rw [Option.map_eq_some_iff]
    constructor
    · rintro ⟨others, read, rfl⟩
      rcases (hypothesis others).1 read with ⟨grouped, rfl⟩
      exact ⟨grouped, rfl⟩
    · rintro ⟨grouped, rfl⟩
      exact ⟨_, (hypothesis _).2 ⟨grouped, rfl⟩, rfl⟩
  induction text using groupedDigits?.induct digit generalizing digits with
  | case1 => simp [groupedDigits?, not_isGrouped_nil]
  | case2 char decimal =>
      have other := ne_underscore_of_digit digit apart char decimal
      rw [groupedDigits?, if_pos decimal, isGrouped_singleton_iff digit apart, Option.some_inj,
        eq_comm]
      simp [decimal, other]
  | case3 char foreign => simp [groupedDigits?, foreign, isGrouped_singleton_iff digit apart]
  | case4 char rest decimal hypothesis =>
      have other := ne_underscore_of_digit digit apart char decimal
      rw [groupedDigits?, if_pos decimal, behind char rest digits hypothesis,
        isGrouped_cons_underscore_iff digit apart]
      simp [decimal, other]
  | case5 char rest foreign =>
      simp [groupedDigits?, foreign, isGrouped_cons_underscore_iff digit apart]
  | case6 char next rest goesOn decimal hypothesis =>
      have other := ne_underscore_of_digit digit apart char decimal
      rw [groupedDigits?, if_pos decimal, behind char _ digits hypothesis,
        isGrouped_cons_cons_iff digit apart char next rest goesOn]
      · simp [decimal, other]
      · exact goesOn
  | case7 char next rest goesOn foreign =>
      simp [groupedDigits?, foreign, isGrouped_cons_cons_iff digit apart char next rest goesOn]

/-- Grouped digits start and end with a digit. -/
theorem ends_of_isGrouped (text : List Char) (grouped : IsGrouped digit text) :
    (∃ first rest, text = first :: rest ∧ digit first = true) ∧
      ∀ last, text.getLast? = some last → digit last = true := by
  induction text using groupedDigits?.induct digit with
  | case1 => exact (not_isGrouped_nil digit grouped).elim
  | case2 char decimal => simpa using decimal
  | case3 char foreign =>
      exact (foreign ((isGrouped_singleton_iff digit apart char).1 grouped)).elim
  | case4 char rest decimal hypothesis =>
      rw [isGrouped_cons_underscore_iff digit apart] at grouped
      rcases hypothesis grouped.2 with ⟨⟨first, others, rfl, -⟩, ending⟩
      exact ⟨⟨char, _, rfl, decimal⟩, by simpa using ending⟩
  | case5 char rest foreign =>
      exact (foreign ((isGrouped_cons_underscore_iff digit apart char rest).1 grouped).1).elim
  | case6 char next rest goesOn decimal hypothesis =>
      rw [isGrouped_cons_cons_iff digit apart char next rest goesOn] at grouped
      rcases hypothesis grouped.2 with ⟨-, ending⟩
      exact ⟨⟨char, _, rfl, decimal⟩, by simpa using ending⟩
  | case7 char next rest goesOn foreign =>
      rw [isGrouped_cons_cons_iff digit apart char next rest goesOn] at grouped
      exact (foreign grouped.1).elim

end Grouped

/-! ## Numbers -/

/--
A text that is a number: digits of any script, in groups or not and not too many of them, with a
sign in front if it has any, and with white space around them.
-/
inductive IsNumber : (text : List Char) → (number : Int) → Prop where
  | number
      (front : ∀ char ∈ before, isNumeralBlank char = true)
      (sign : (mark, negative) ∈ signs)
      (grouped : IsGrouped isDigit digits)
      (short : digits.countP (· != '_') ≤ digitLimit)
      (back : ∀ char ∈ after, isNumeralBlank char = true) :
      IsNumber (before ++ (mark ++ digits ++ after)) (signed negative (numeralValue digits))

theorem isNumeralBlank_of_isDigit (char : Char) (decimal : isDigit char = true) :
    isNumeralBlank char = false := by
  rw [isNumeralBlank, isBlank_of_isDigit char decimal, Bool.false_and]

/-- Underscores between digits do not change their number. -/
theorem numeralValue_filter (digits : List Char) :
    numeralValue (digits.filter (· != '_')) = numeralValue digits := by
  have skipped : digitValue? '_' = none := by decide
  have same : (digits.filter (· != '_')).filterMap digitValue? = digits.filterMap digitValue? := by
    rw [List.filterMap_filter]
    refine List.filterMap_congr fun char _ => ?_
    by_cases underscore : char = '_'
    · simp [underscore, skipped]
    · simp [underscore]
  rw [numeralValue, same, numeralValue]

/-- Digits with a sign in front or none neither start nor end with white space. -/
theorem isBare_of_isGrouped
    {mark : List Char}
    {negative : Bool}
    (sign : (mark, negative) ∈ signs)
    {digits : List Char}
    (grouped : IsGrouped isDigit digits) :
    IsBare isNumeralBlank (mark ++ digits) := by
  rcases ends_of_isGrouped isDigit (by decide) digits grouped with
    ⟨⟨first, rest, rfl, decimal⟩, ending⟩
  constructor
  · intro char start
    simp only [signs, List.mem_cons, Prod.mk.injEq, List.not_mem_nil, or_false] at sign
    rcases sign with ⟨rfl, -⟩ | ⟨rfl, -⟩ | ⟨rfl, -⟩ <;> cases start
    · exact isNumeralBlank_of_isDigit _ decimal
    · rfl
    · rfl
  · intro char last
    rw [List.getLast?_append_of_ne_nil _ (List.cons_ne_nil first rest)] at last
    exact isNumeralBlank_of_isDigit char (ending char last)

/-- What is read of a whole text is the number that it is. -/
theorem integer?_eq_some_iff (text : List Char) (number : Int) :
    integer? text = some number ↔ IsNumber text number := by
  have apart : isDigit '_' = false := by decide
  have stripping : trimNumeral text = stripped isNumeralBlank text := rfl
  unfold integer? limitedNumeral?
  dsimp only
  rw [stripping]
  constructor
  · intro read
    rcases (stripped_eq_iff isNumeralBlank text _).1 rfl with
      ⟨-, before, after, front, back, whole⟩
    rcases exists_sign (stripped isNumeralBlank text) with ⟨mark, sign, parts⟩
    split at read
    next digits found =>
      rcases (groupedDigits?_eq_some_iff isDigit apart _ digits).1 found with ⟨grouped, rfl⟩
      split at read
      next short =>
        rw [Option.some_inj, numeralValue_filter] at read
        rw [← List.countP_eq_length_filter] at short
        rw [whole, parts, ← read]
        exact .number front sign grouped short back
      next => cases read
    next => cases read
  · intro number
    cases number with
    | @number before mark negative digits after front sign grouped short back =>
        have core :
            stripped isNumeralBlank (before ++ (mark ++ digits ++ after)) = mark ++ digits :=
          (stripped_eq_iff isNumeralBlank _ _).2
            ⟨isBare_of_isGrouped sign grouped, before, after, front, back, rfl⟩
        have read := (groupedDigits?_eq_some_iff isDigit apart digits _).2 ⟨grouped, rfl⟩
        rcases ends_of_isGrouped isDigit apart digits grouped with
          ⟨⟨first, rest, rfl, decimal⟩, -⟩
        rw [core, splitSign_of_digit mark negative sign first rest decimal, read]
        dsimp only
        rw [← List.countP_eq_length_filter, if_pos short, numeralValue_filter]

end TimedText.Text
