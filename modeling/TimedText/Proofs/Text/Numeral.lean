import Mathlib
import TimedText.Text.Numeral

/-!
# Written numbers

A whole number is written with the digits of the basic Latin script, at least one of them, and
without a leading zero unless it is zero.  The digits give the number back, also with zeros put in
front of them up to a width.

At the start of a longer text a number may have white space and a sign before its digits, and these
may be of any script.  A text that starts in another way has the number zero.
-/

namespace TimedText.Text

/-! ## Rows of characters -/

/-- A row of characters of a kind is taken off a text that does not go on with one of them. -/
theorem takeWhile_append_of_ends
    {test : Char → Bool}
    {row rest : List Char}
    (kept : ∀ char ∈ row, test char = true)
    (ends : ∀ char, rest.head? = some char → test char = false) :
    (row ++ rest).takeWhile test = row := by
  rw [List.takeWhile_append_of_pos kept]
  cases rest with
  | nil => rw [List.takeWhile_nil, List.append_nil]
  | cons first others =>
      rw [List.takeWhile_cons_of_neg (ne_true_of_eq_false (ends first rfl)), List.append_nil]

theorem dropWhile_append_of_ends
    {test : Char → Bool}
    {row rest : List Char}
    (kept : ∀ char ∈ row, test char = true)
    (ends : ∀ char, rest.head? = some char → test char = false) :
    (row ++ rest).dropWhile test = rest := by
  rw [List.dropWhile_append_of_pos kept]
  cases rest with
  | nil => rfl
  | cons first others => rw [List.dropWhile_cons_of_neg (ne_true_of_eq_false (ends first rfl))]

/-! ## Digits -/

theorem digitValue?_digitChar (digit : Nat) (small : digit < 10) :
    digitValue? (digitChar digit) = some digit := by
  have each : ∀ digit < 10, digitValue? (digitChar digit) = some digit := by decide
  exact each digit small

theorem isDigit_digitChar (digit : Nat) (small : digit < 10) :
    (digitChar digit).isDigit = true := by
  have each : ∀ digit < 10, (digitChar digit).isDigit = true := by decide
  exact each digit small

theorem digitChar_eq_zero_iff (digit : Nat) (small : digit < 10) :
    digitChar digit = '0' ↔ digit = 0 := by
  have each : ∀ digit < 10, digitChar digit = '0' ↔ digit = 0 := by decide
  exact each digit small

/-! ## Natural numbers -/

theorem decimal_ne_nil (value : Nat) : decimal value ≠ [] := by
  rw [decimal]
  split <;> simp

theorem isDigit_of_mem_decimal (value : Nat) :
    ∀ char ∈ decimal value, char.isDigit = true := by
  induction value using decimal.induct with
  | case1 value small =>
      rw [decimal, if_pos small, List.forall_mem_singleton]
      exact isDigit_digitChar value small
  | case2 value large hypothesis =>
      rw [decimal, if_neg large, List.forall_mem_append, List.forall_mem_singleton]
      exact ⟨hypothesis, isDigit_digitChar _ (Nat.mod_lt value (by decide))⟩

/-- No number but zero is written with a zero in front. -/
theorem eq_zero_of_head?_decimal (value : Nat) (zero : (decimal value).head? = some '0') :
    value = 0 := by
  induction value using decimal.induct with
  | case1 value small =>
      rw [decimal, if_pos small] at zero
      exact (digitChar_eq_zero_iff value small).1 (Option.some_inj.1 zero)
  | case2 value large hypothesis =>
      rw [decimal, if_neg large, List.head?_append_of_ne_nil _ (decimal_ne_nil _)] at zero
      have tens := hypothesis zero
      omega

theorem numeralValue_append (digits : List Char) (digit : Nat) (small : digit < 10) :
    numeralValue (digits ++ [digitChar digit]) = 10 * numeralValue digits + digit := by
  simp [numeralValue, List.filterMap_append, digitValue?_digitChar digit small]

/-- The digits of a number give it back. -/
theorem numeralValue_decimal (value : Nat) : numeralValue (decimal value) = value := by
  induction value using decimal.induct with
  | case1 value small =>
      rw [decimal, if_pos small, ← List.nil_append [digitChar value], numeralValue_append _ _ small]
      exact Nat.zero_add value
  | case2 value large hypothesis =>
      rw [decimal, if_neg large, numeralValue_append _ _ (Nat.mod_lt value (by decide)), hypothesis]
      exact Nat.div_add_mod value 10

/-- A number below a power of ten has no more digits than the power has zeros. -/
theorem length_decimal_le
    (width value : Nat)
    (some : 0 < width)
    (small : value < 10 ^ width) :
    (decimal value).length ≤ width := by
  induction value using decimal.induct generalizing width with
  | case1 value digit =>
      rw [decimal, if_pos digit]
      exact some
  | case2 value large hypothesis =>
      rcases width with _ | _ | width
      · exact absurd some (Nat.lt_irrefl 0)
      · exact absurd small large
      · have tens : value / 10 < 10 ^ (width + 1) := by
          apply Nat.div_lt_of_lt_mul
          rwa [pow_succ'] at small
        have fewer := hypothesis (width + 1) (Nat.succ_pos width) tens
        rw [decimal, if_neg large, List.length_append]
        exact Nat.succ_le_succ fewer

/-! ## Numbers with zeros in front -/

theorem numeralValue_cons_zero (digits : List Char) :
    numeralValue ('0' :: digits) = numeralValue digits := by
  have zero : digitValue? '0' = some 0 := by decide
  rw [numeralValue, List.filterMap_cons_some zero]
  rfl

/-- Zeros in front of a number do not change it. -/
theorem numeralValue_padded (width value : Nat) :
    numeralValue (padded width value) = value := by
  have zeros (count : Nat) :
      numeralValue (List.replicate count '0' ++ decimal value) = value := by
    induction count with
    | zero => exact numeralValue_decimal value
    | succ count hypothesis =>
        rw [List.replicate_succ, List.cons_append, numeralValue_cons_zero]
        exact hypothesis
  exact zeros _

theorem isDigit_of_mem_padded (width value : Nat) :
    ∀ char ∈ padded width value, char.isDigit = true := by
  intro char member
  rcases List.mem_append.1 member with zero | digit
  · rw [List.eq_of_mem_replicate zero]
    rfl
  · exact isDigit_of_mem_decimal value char digit

theorem length_padded (width value : Nat) :
    (padded width value).length = max width (decimal value).length := by
  rw [padded, List.length_append, List.length_replicate]
  omega

/-- A number that fits in a width is written in just that width. -/
theorem length_padded_of_lt
    (width value : Nat)
    (some : 0 < width)
    (small : value < 10 ^ width) :
    (padded width value).length = width := by
  rw [length_padded]
  exact max_eq_left (length_decimal_le width value some small)

/-! ## Whole numbers -/

theorem signedDecimal_eq (value : Int) :
    signedDecimal value =
      if value < 0 then '-' :: decimal value.natAbs else decimal value.natAbs := by
  cases value with
  | ofNat value => rfl
  | negSucc value => rw [if_pos (Int.negSucc_lt_zero value)]; rfl

theorem signed_natAbs (value : Int) : signed (decide (value < 0)) value.natAbs = value := by
  unfold signed
  split
  next negative =>
    rw [decide_eq_true_eq] at negative
    omega
  next natural =>
    rw [decide_eq_true_eq] at natural
    omega

/-! ## Numbers at the start of a text -/

/-- What may stand in front of digits, and whether it makes their number negative. -/
def signs : List (List Char × Bool) :=
  [([], false), (['+'], false), (['-'], true)]

/-- A text starts with a digit, behind white space and a sign if it has any. -/
inductive StartsWithDigit : List Char → Prop where
  | digit
      (blank : ∀ char ∈ blanks, isBlank char = true)
      (sign : (mark, negative) ∈ signs)
      (decimal : isDigit first = true) :
      StartsWithDigit (blanks ++ (mark ++ first :: rest))

/-- The number that a text starts with, which is zero if it starts with none. -/
inductive LeadingNumber : (text : List Char) → (number : Int) → Prop where
  | number
      (blank : ∀ char ∈ blanks, isBlank char = true)
      (sign : (mark, negative) ∈ signs)
      (filled : digits ≠ [])
      (decimal : ∀ char ∈ digits, isDigit char = true)
      (ending : ∀ char, rest.head? = some char → isDigit char = false) :
      LeadingNumber (blanks ++ (mark ++ (digits ++ rest))) (signed negative (numeralValue digits))
  | nothing
      (none : ¬ StartsWithDigit text) :
      LeadingNumber text 0

/-- The runs of digits lie in the gaps that white space leaves. -/
theorem digitZeros_between_blanks :
    ∀ start ∈ digitZeros,
      (0x20 < start ∧ start + 9 < 0x85) ∨ (0xA0 < start ∧ start + 9 < 0x1680) ∨
        (0x1680 < start ∧ start + 9 < 0x2000) ∨ 0x3000 < start := by
  decide

theorem isBlank_of_isDigit (char : Char) (digit : isDigit char = true) : isBlank char = false := by
  rcases Option.isSome_iff_exists.1 digit with ⟨value, found⟩
  rcases List.exists_of_findSome?_eq_some found with ⟨start, listed, inside⟩
  have gap := digitZeros_between_blanks start listed
  simp only [Bool.and_eq_true, decide_eq_true_eq, Option.ite_none_right_eq_some] at inside
  rw [← Bool.not_eq_true]
  simp only [isBlank, Bool.or_eq_true, Bool.and_eq_true, decide_eq_true_eq, beq_iff_eq]
  omega

/-- The sign is taken off a text that has one before a digit. -/
theorem splitSign_of_digit
    (mark : List Char)
    (negative : Bool)
    (sign : (mark, negative) ∈ signs)
    (first : Char)
    (rest : List Char)
    (decimal : isDigit first = true) :
    splitSign (mark ++ first :: rest) = (negative, first :: rest) := by
  simp only [signs, List.mem_cons, Prod.mk.injEq, List.not_mem_nil, or_false] at sign
  rcases sign with ⟨rfl, rfl⟩ | ⟨rfl, rfl⟩ | ⟨rfl, rfl⟩
  · rw [List.nil_append, splitSign]
    · rintro others ⟨⟩
      cases decimal
    · rintro others ⟨⟩
      cases decimal
  · rfl
  · rfl

theorem exists_sign (text : List Char) :
    ∃ mark, (mark, (splitSign text).1) ∈ signs ∧ text = mark ++ (splitSign text).2 := by
  unfold splitSign
  split
  next rest => exact ⟨['-'], by simp [signs], rfl⟩
  next rest => exact ⟨['+'], by simp [signs], rfl⟩
  next => exact ⟨[], by simp [signs], rfl⟩

/-- Neither a sign nor a digit is trimmed off. -/
theorem trimStart_of_digit
    (mark : List Char)
    (negative : Bool)
    (sign : (mark, negative) ∈ signs)
    (first : Char)
    (rest : List Char)
    (decimal : isDigit first = true) :
    trimStart (mark ++ first :: rest) = mark ++ first :: rest := by
  simp only [signs, List.mem_cons, Prod.mk.injEq, List.not_mem_nil, or_false] at sign
  rcases sign with ⟨rfl, -⟩ | ⟨rfl, -⟩ | ⟨rfl, -⟩
  · exact List.dropWhile_cons_of_neg (by simp [isBlank_of_isDigit first decimal])
  · rfl
  · rfl

/-- A text that starts with a digit has digits where they are looked for. -/
theorem StartsWithDigit.takeWhile_ne_nil
    {text : List Char}
    (starts : StartsWithDigit text) :
    (splitSign (trimStart text)).2.takeWhile isDigit ≠ [] := by
  cases starts with
  | @digit blanks mark negative first rest blank sign decimal =>
      have trimmed : trimStart (blanks ++ (mark ++ first :: rest)) = mark ++ first :: rest :=
        (List.dropWhile_append_of_pos blank).trans
          (trimStart_of_digit mark negative sign first rest decimal)
      rw [trimmed, splitSign_of_digit mark negative sign first rest decimal]
      simp [List.takeWhile_cons_of_pos decimal]

/-- What is read as the number at the start of a text is the number there. -/
theorem leadingNumber_of_leadingInteger
    (text : List Char)
    (number : Int)
    (read : leadingInteger text = some number) :
    LeadingNumber text number := by
  unfold leadingInteger limitedNumeral? at read
  dsimp only at read
  split at read
  case isFalse => cases read
  case isTrue =>
      rw [Option.some_inj] at read
      subst read
      rcases exists_sign (trimStart text) with ⟨mark, sign, parts⟩
      have starts : StartsWithDigit text → (splitSign (trimStart text)).2.takeWhile isDigit ≠ [] :=
        StartsWithDigit.takeWhile_ne_nil
      generalize splitSign (trimStart text) = split at sign parts starts ⊢
      by_cases filled : split.2.takeWhile isDigit = []
      · rw [filled]
        have zero : signed split.1 (numeralValue []) = 0 := by
          cases split.1 <;> rfl
        rw [zero]
        exact .nothing fun digit => starts digit filled
      · have whole :
            text =
              text.takeWhile isBlank ++
                (mark ++ (split.2.takeWhile isDigit ++ split.2.dropWhile isDigit)) := by
          rw [List.takeWhile_append_dropWhile, ← parts]
          exact List.takeWhile_append_dropWhile.symm
        rw [whole]
        refine .number ?_ sign filled ?_ ?_
        · intro char member
          exact List.mem_takeWhile_imp member
        · intro char member
          exact List.mem_takeWhile_imp member
        · intro char head
          simpa [head] using List.head?_dropWhile_not isDigit split.2

end TimedText.Text
