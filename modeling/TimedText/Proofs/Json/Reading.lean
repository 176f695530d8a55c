import TimedText.Proofs.Json.Writing

/-!
# Written JSON is read back

Every value is read back from its written form: strings with all their characters, numbers of any
size and sign, and arrays and objects with their items and members in order.  Each part is read
whatever follows it, as long as a number is not followed by something that would go on with it.
-/

namespace TimedText.Json

/-! ## Strings -/

theorem hexDigit?_escapeDigit (digit : Nat) (small : digit < 16) :
    hexDigit? (escapeDigit digit) = some digit := by
  have each : ∀ digit < 16, hexDigit? (escapeDigit digit) = some digit := by decide
  exact each digit small

/-- Sixteen bits are read from their four digits. -/
theorem hexUnit?_escapeUnit (unit : Nat) (small : unit < 0x10000) (rest : List Char) :
    hexUnit?
        (escapeDigit (unit / 4096) :: escapeDigit (unit / 256 % 16)
          :: escapeDigit (unit / 16 % 16) :: escapeDigit (unit % 16) :: rest) =
      some (unit, rest) := by
  have first := hexDigit?_escapeDigit (unit / 4096) (by omega)
  have second := hexDigit?_escapeDigit (unit / 256 % 16) (by omega)
  have third := hexDigit?_escapeDigit (unit / 16 % 16) (by omega)
  have fourth := hexDigit?_escapeDigit (unit % 16) (by omega)
  have whole :
      unit / 4096 * 4096 + unit / 256 % 16 * 256 + unit / 16 % 16 * 16 + unit % 16 = unit := by
    omega
  simp only [hexUnit?, first, second, third, fourth, whole]

/-- The escape of sixteen bits that are no surrogate is read as the character of this code. -/
theorem unescape?_escapeUnit
    (unit : Nat)
    (small : unit < 0x10000)
    (alone : unit < 0xD800 ∨ 0xE000 ≤ unit)
    (rest : List Char) :
    unescape? ((escapeUnit unit).drop 1 ++ rest) = some (Char.ofNat unit, rest) := by
  simp only [escapeUnit, List.drop_succ_cons, List.drop_zero, List.cons_append, List.nil_append,
    unescape?, hexUnit?_escapeUnit unit small, if_pos alone]

/-- The escapes of two surrogates are read as the character of the pair. -/
theorem unescape?_escapeUnit_pair
    (high low : Nat)
    (highSmall : high < 1024)
    (lowSmall : low < 1024)
    (rest : List Char) :
    unescape? ((escapeUnit (0xD800 + high)).drop 1 ++ (escapeUnit (0xDC00 + low) ++ rest)) =
      some (Char.ofNat (0x10000 + high * 1024 + low), rest) := by
  have paired : ¬(0xD800 + high < 0xD800 ∨ 0xE000 ≤ 0xD800 + high) := by omega
  have leading : 0xD800 + high < 0xDC00 := by omega
  have trailing : 0xDC00 ≤ 0xDC00 + low ∧ 0xDC00 + low < 0xE000 := by omega
  have first : 0xD800 + high < 0x10000 := by omega
  have second : 0xDC00 + low < 0x10000 := by omega
  simp only [escapeUnit, List.drop_succ_cons, List.drop_zero, List.cons_append, List.nil_append,
    unescape?, hexUnit?_escapeUnit _ first, hexUnit?_escapeUnit _ second, if_neg paired,
    if_pos leading, if_pos trailing, Nat.add_sub_cancel_left]

/-- The escape of a character by its code is read as this character. -/
theorem unescape?_escapeCode (char : Char) (rest : List Char) :
    unescape? ((escapeCode char.toNat).drop 1 ++ rest) = some (char, rest) := by
  have valid : char.toNat < 0xD800 ∨ (0xDFFF < char.toNat ∧ char.toNat < 0x110000) := char.valid
  unfold escapeCode
  split
  next small => rw [unescape?_escapeUnit char.toNat small (by omega), Char.ofNat_toNat]
  next large =>
    have code : 0x10000 + (char.toNat - 0x10000) / 1024 * 1024 + (char.toNat - 0x10000) % 1024 =
        char.toNat := by omega
    rw [List.drop_append_of_le_length (Nat.le_add_left 1 5), List.append_assoc,
      unescape?_escapeUnit_pair _ _ (by omega) (by omega), code, Char.ofNat_toNat]

/-- A character that is written is read, and the rest of the string after it. -/
theorem readString_escape (ascii : Bool) (fuel : Nat) (char : Char) (rest : List Char) :
    readString (fuel + 1) (escape ascii char ++ rest) =
      (readString fuel rest).map fun (others, rest) => (char :: others, rest) := by
  by_cases special : char ∈ named
  · simp only [named, List.mem_cons, List.not_mem_nil, or_false] at special
    rcases special with rfl | rfl | rfl | rfl | rfl | rfl | rfl <;> rfl
  rw [escape_of_notMem_named ascii char special]
  split
  next escaped =>
    have slash : escapeCode char.toNat = '\\' :: (escapeCode char.toNat).drop 1 := by
      unfold escapeCode
      split <;> rfl
    rw [slash, List.cons_append, readString]
    simp only [unescape?_escapeCode char rest]
  next visible =>
    have quote : char ≠ '"' := fun same => special (same ▸ by decide)
    have backslash : char ≠ '\\' := fun same => special (same ▸ by decide)
    rw [List.singleton_append, readString, if_neg (fun control => visible (.inl control))]
    · exact quote
    · exact backslash

/-- The characters of a written string are read up to its closing quote. -/
theorem readString_flatMap_escape
    (ascii : Bool)
    (fuel : Nat)
    (text rest : List Char)
    (enough : text.length < fuel) :
    readString fuel (text.flatMap (escape ascii) ++ '"' :: rest) = some (text, rest) := by
  induction text generalizing fuel with
  | nil =>
      cases fuel with
      | zero => cases enough
      | succ fuel => rfl
  | cons first others hypothesis =>
      cases fuel with
      | zero => cases enough
      | succ fuel =>
          rw [List.flatMap_cons, List.append_assoc, readString_escape,
            hypothesis fuel (Nat.lt_of_succ_lt_succ enough)]
          rfl

theorem length_le_flatMap_escape (ascii : Bool) (text : List Char) :
    text.length ≤ (text.flatMap (escape ascii)).length := by
  induction text with
  | nil => rfl
  | cons first others hypothesis =>
      have positive : 1 ≤ (escape ascii first).length := by
        unfold escape escapeCode escapeUnit
        repeat' split
        all_goals simp
      rw [List.flatMap_cons, List.length_append, List.length_cons]
      omega

/-- A string is read behind its opening quote, with as many steps as a value allows for it. -/
theorem readString_quoted (ascii : Bool) (text rest : List Char) :
    readString ((text.flatMap (escape ascii) ++ '"' :: rest).length + 1)
        (text.flatMap (escape ascii) ++ '"' :: rest) =
      some (text, rest) := by
  apply readString_flatMap_escape
  have short := length_le_flatMap_escape ascii text
  rw [List.length_append]
  omega

/-! ## Numbers -/

/-- A text does not go on with a row of digits before it. -/
def EndsDigits (rest : List Char) : Prop :=
  ∀ char ∈ rest.head?, char.isDigit = false

/-- A text does not go on with a number before it. -/
def EndsNumber (rest : List Char) : Prop :=
  EndsDigits rest ∧ rest.head? ≠ some '.' ∧ rest.head? ≠ some 'e' ∧ rest.head? ≠ some 'E'

theorem takeWhile_decimal (value : Nat) (rest : List Char) (ends : EndsDigits rest) :
    (Text.decimal value ++ rest).takeWhile Char.isDigit = Text.decimal value :=
  Text.takeWhile_append_of_ends (Text.isDigit_of_mem_decimal value) ends

theorem dropWhile_decimal (value : Nat) (rest : List Char) (ends : EndsDigits rest) :
    (Text.decimal value ++ rest).dropWhile Char.isDigit = rest :=
  Text.dropWhile_append_of_ends (Text.isDigit_of_mem_decimal value) ends

theorem isDigit_of_head?_decimal (value : Nat) (rest : List Char) :
    ∀ char ∈ (Text.decimal value ++ rest).head?, char.isDigit = true := by
  intro char head
  rw [List.head?_append_of_ne_nil _ (Text.decimal_ne_nil value)] at head
  exact Text.isDigit_of_mem_decimal value char (List.mem_of_mem_head? head)

/-- A written number starts with its sign, and what follows the sign are the digits of its size. -/
theorem sign_of_signedDecimal (value : Int) (rest : List Char) :
    ((Text.signedDecimal value ++ rest).head? == some '-') = decide (value < 0) ∧
      (if decide (value < 0) then
        (Text.signedDecimal value ++ rest).drop 1
      else
        Text.signedDecimal value ++ rest) =
        Text.decimal value.natAbs ++ rest := by
  rw [Text.signedDecimal_eq]
  split
  next negative =>
    rw [decide_eq_true negative]
    exact ⟨rfl, rfl⟩
  next natural =>
    rw [decide_eq_false natural]
    refine ⟨?_, rfl⟩
    rw [beq_eq_false_iff_ne]
    intro minus
    cases isDigit_of_head?_decimal value.natAbs rest '-' minus

/-- The digits of a written number are no forbidden row: there is one, and zero stands alone. -/
theorem decimal_wellFormed (value : Nat) :
    ((Text.decimal value).isEmpty ||
      ((Text.decimal value).length != 1 && (Text.decimal value).head? == some '0')) = false := by
  have digits : (Text.decimal value).isEmpty = false := by
    rw [List.isEmpty_eq_false_iff]
    exact Text.decimal_ne_nil value
  rw [digits, Bool.false_or, Bool.and_eq_false_imp]
  intro long
  rw [beq_eq_false_iff_ne]
  intro zero
  rw [Text.eq_zero_of_head?_decimal value zero, Text.decimal] at long
  cases long

/-- What a whole number becomes by what follows it: the digits of a power of ten, or a number. -/
def readPower (digits : Int) : List Char → Option (Json × List Char)
  | 'e' :: rest => (readExponent rest).map fun (exponent, rest) => (real digits exponent, rest)
  | 'E' :: rest => (readExponent rest).map fun (exponent, rest) => (real digits exponent, rest)
  | rest => some (int digits, rest)

theorem readNumber_signedDecimal
    (value : Int)
    (rest : List Char)
    (ends : EndsDigits rest)
    (whole : rest.head? ≠ some '.') :
    readNumber (Text.signedDecimal value ++ rest) = readPower value rest := by
  rcases sign_of_signedDecimal value rest with ⟨sign, size⟩
  unfold readNumber
  simp only [sign, size, takeWhile_decimal value.natAbs rest ends,
    dropWhile_decimal value.natAbs rest ends, decimal_wellFormed, Bool.false_eq_true, if_false]
  cases rest with
  | nil => simp [readPower, Text.numeralValue_decimal, Text.signed_natAbs]
  | cons first others =>
      have point : first ≠ '.' := fun same => whole (congrArg some same)
      by_cases small : first = 'e'
      · subst small
        simp [readPower, Text.numeralValue_decimal, Text.signed_natAbs]
      by_cases capital : first = 'E'
      · subst capital
        simp [readPower, Text.numeralValue_decimal, Text.signed_natAbs]
      simp [readPower, point, small, capital, Text.numeralValue_decimal, Text.signed_natAbs]

theorem readNumber_of_int (value : Int) (rest : List Char) (ends : EndsNumber rest) :
    readNumber (Text.signedDecimal value ++ rest) = some (int value, rest) := by
  rcases ends with ⟨digits, point, small, capital⟩
  rw [readNumber_signedDecimal value rest digits point]
  unfold readPower
  split
  next => cases small rfl
  next => cases capital rfl
  next => rfl

theorem splitSign_signedDecimal (value : Int) (rest : List Char) :
    Text.splitSign (Text.signedDecimal value ++ rest) =
      (decide (value < 0), Text.decimal value.natAbs ++ rest) := by
  rw [Text.signedDecimal_eq]
  split
  next negative =>
    rw [decide_eq_true negative]
    rfl
  next natural =>
    rw [decide_eq_false natural]
    unfold Text.splitSign
    split
    next minus =>
      cases isDigit_of_head?_decimal value.natAbs rest '-' (minus ▸ rfl)
    next plus =>
      cases isDigit_of_head?_decimal value.natAbs rest '+' (plus ▸ rfl)
    next => rfl

theorem readExponent_signedDecimal (value : Int) (rest : List Char) (ends : EndsDigits rest) :
    readExponent (Text.signedDecimal value ++ rest) = some (value, rest) := by
  unfold readExponent
  simp only [splitSign_signedDecimal, takeWhile_decimal value.natAbs rest ends,
    dropWhile_decimal value.natAbs rest ends]
  rw [if_neg, Text.numeralValue_decimal, Text.signed_natAbs]
  rw [List.isEmpty_iff]
  exact Text.decimal_ne_nil value.natAbs

theorem readNumber_of_real (digits exponent : Int) (rest : List Char) (ends : EndsDigits rest) :
    readNumber (Text.signedDecimal digits ++ 'e' :: (Text.signedDecimal exponent ++ rest)) =
      some (real digits exponent, rest) := by
  rw [readNumber_signedDecimal digits, readPower, readExponent_signedDecimal exponent rest ends]
  · rfl
  · intro char head
    cases head
    rfl
  · intro point
    cases point

/-! ## Spaces -/

theorem skipSpace_cons (char : Char) (rest : List Char) (visible : isSpace char = false) :
    skipSpace (char :: rest) = char :: rest :=
  List.dropWhile_cons_of_neg (ne_true_of_eq_false visible)

theorem readValue_blank (fuel : Nat) (text : List Char) :
    readValue fuel (' ' :: text) = readValue fuel text := by
  cases fuel with
  | zero => simp only [readValue]
  | succ fuel =>
      have blank : skipSpace (' ' :: text) = skipSpace text := rfl
      simp only [readValue, blank]

theorem readItems_blank (fuel : Nat) (text : List Char) :
    readItems fuel (' ' :: text) = readItems fuel text := by
  cases fuel with
  | zero => simp only [readItems]
  | succ fuel => simp only [readItems, readValue_blank]

theorem readMembers_blank (fuel : Nat) (text : List Char) :
    readMembers fuel (' ' :: text) = readMembers fuel text := by
  cases fuel with
  | zero => simp only [readMembers]
  | succ fuel =>
      have blank : skipSpace (' ' :: text) = skipSpace text := rfl
      simp only [readMembers, blank]

/-! ## First characters -/

theorem head_of_signedDecimal (value : Int) :
    ∃ first others, Text.signedDecimal value = first :: others ∧
      (first = '-' ∨ first.isDigit = true) := by
  rw [Text.signedDecimal_eq]
  split
  next negative => exact ⟨'-', _, rfl, .inl rfl⟩
  next natural =>
    cases digits : Text.decimal value.natAbs with
    | nil => cases Text.decimal_ne_nil value.natAbs digits
    | cons first others =>
        exact ⟨first, others, rfl,
          .inr (Text.isDigit_of_mem_decimal value.natAbs first (digits ▸ List.mem_cons_self))⟩

theorem visible_of_number (first : Char) (number : first = '-' ∨ first.isDigit = true) :
    isSpace first = false ∧ first ∉ ['n', 't', 'f', '"', '[', '{', ']'] := by
  rcases number with rfl | digit
  · decide
  refine ⟨?_, ?_⟩
  · rw [Bool.eq_false_iff]
    intro blank
    simp only [isSpace, Bool.or_eq_true, beq_iff_eq] at blank
    rcases blank with ((rfl | rfl) | rfl) | rfl <;> cases digit
  · intro letter
    simp only [List.mem_cons, List.not_mem_nil, or_false] at letter
    rcases letter with rfl | rfl | rfl | rfl | rfl | rfl | rfl <;> cases digit

/-- No written value starts with a space or with the bracket that closes an array. -/
theorem head_of_render (ascii : Bool) (value : Json) :
    ∃ first others, value.render ascii = first :: others ∧ isSpace first = false ∧ first ≠ ']' := by
  have number : ∀ value : Int, ∃ first others, Text.signedDecimal value = first :: others ∧
      isSpace first = false ∧ first ≠ ']' := by
    intro value
    rcases head_of_signedDecimal value with ⟨first, others, digits, number⟩
    rcases visible_of_number first number with ⟨visible, other⟩
    refine ⟨first, others, digits, visible, ?_⟩
    rintro rfl
    exact other (by decide)
  cases value with
  | null => exact ⟨'n', _, rfl, by decide⟩
  | bool value => cases value <;> exact ⟨_, _, rfl, by decide⟩
  | int value => exact number value
  | real digits exponent =>
      rcases number digits with ⟨first, others, equal, visible, other⟩
      refine ⟨first, others ++ 'e' :: Text.signedDecimal exponent, ?_, visible, other⟩
      rw [render, equal]
      rfl
  | str value => exact ⟨'"', _, rfl, by decide⟩
  | arr items => exact ⟨'[', _, rfl, by decide⟩
  | obj members => exact ⟨'{', _, rfl, by decide⟩

/-- The items of an array do not start with a space or with its closing bracket. -/
theorem head_of_renderItems (ascii : Bool) (first : Json) (others : List Json) :
    ∃ char text, renderItems ascii (first :: others) = char :: text ∧
      isSpace char = false ∧ char ≠ ']' := by
  rcases head_of_render ascii first with ⟨char, text, starts, visible, item⟩
  cases others with
  | nil => exact ⟨char, text, by rw [renderItems, starts], visible, item⟩
  | cons second others =>
      refine ⟨char, text ++ ',' :: ' ' :: renderItems ascii (second :: others), ?_, visible, item⟩
      rw [renderItems, starts, List.cons_append]

/-- The members of an object start with the quote of the first name. -/
theorem head_of_renderMembers
    (ascii : Bool)
    (name : String)
    (value : Json)
    (others : List (String × Json)) :
    ∃ text, renderMembers ascii ((name, value) :: others) = '"' :: text := by
  cases others with
  | nil => exact ⟨_, rfl⟩
  | cons second others => exact ⟨_, rfl⟩

/-! ## Parts -/

variable {ascii : Bool}

/-- A value is read from its written form, whatever follows it. -/
def ReadsBack (ascii : Bool) (value : Json) : Prop :=
  ∀ (fuel : Nat) (rest : List Char), (value.render ascii).length < fuel → EndsNumber rest →
    readValue fuel (value.render ascii ++ rest) = some (value, rest)

/-- Neither the mark between two parts nor the one that closes them goes on with a number. -/
theorem endsNumber_of_mark (mark : Char) (rest : List Char) (known : mark ∈ [',', ']', '}']) :
    EndsNumber (mark :: rest) := by
  simp only [List.mem_cons, List.not_mem_nil, or_false] at known
  rcases known with rfl | rfl | rfl <;> simp [EndsNumber, EndsDigits]

/-- The items of an array are read up to its closing bracket. -/
theorem readItems_renderItems
    (first : Json)
    (others : List Json)
    (every : ∀ item ∈ first :: others, ReadsBack ascii item)
    (fuel : Nat)
    (rest : List Char)
    (enough : (renderItems ascii (first :: others)).length + 1 < fuel) :
    readItems fuel (renderItems ascii (first :: others) ++ ']' :: rest) =
      some (first :: others, rest) := by
  induction others generalizing first fuel with
  | nil =>
      cases fuel with
      | zero => cases enough
      | succ fuel =>
          rw [renderItems] at enough ⊢
          rw [readItems, every first List.mem_cons_self fuel _ (by omega)
            (endsNumber_of_mark ']' _ (by decide))]
          rfl
  | cons second others hypothesis =>
      cases fuel with
      | zero => cases enough
      | succ fuel =>
          rw [renderItems, List.length_append, List.length_cons, List.length_cons] at enough
          rw [renderItems, List.append_assoc, List.cons_append, List.cons_append, readItems,
            every first List.mem_cons_self fuel _ (by omega)
              (endsNumber_of_mark ',' _ (by decide))]
          have remaining := hypothesis second
            (fun item inside => every item (List.mem_cons_of_mem first inside)) fuel (by omega)
          -- The separator is longer than the one step that an item takes.
          rw [← readItems_blank] at remaining
          simp only [skipSpace_cons ',' _ rfl, remaining, Option.map_some]

/-- What becomes of the members by what follows a member: there are more, or they end. -/
def readMembersAfter
    (fuel : Nat)
    (name : String)
    (value : Json) :
    List Char → Option (List (String × Json) × List Char)
  | ',' :: rest => (readMembers fuel rest).map fun (members, rest) => ((name, value) :: members, rest)
  | '}' :: rest => some ([(name, value)], rest)
  | _ => none

/-- The name and the value of a member are read, and what comes after them decides the rest. -/
theorem readMembers_member
    (name : String)
    (value : Json)
    (back : ReadsBack ascii value)
    (fuel : Nat)
    (mark : Char)
    (rest : List Char)
    (enough : (value.render ascii).length < fuel)
    (known : mark ∈ [',', ']', '}']) :
    readMembers (fuel + 1)
        (quoted ascii name.toList ++ ':' :: ' ' :: (value.render ascii ++ mark :: rest)) =
      readMembersAfter fuel name value (mark :: rest) := by
  have visible : skipSpace (mark :: rest) = mark :: rest := by
    simp only [List.mem_cons, List.not_mem_nil, or_false] at known
    rcases known with rfl | rfl | rfl <;> rfl
  rw [quoted, List.append_assoc, List.cons_append, List.singleton_append, readMembers]
  simp only [skipSpace_cons '"' _ rfl, readString_quoted, skipSpace_cons ':' _ rfl, readValue_blank,
    back fuel _ enough (endsNumber_of_mark mark rest known), visible, String.ofList_toList]
  rfl

/-- The members of an object are read up to its closing brace. -/
theorem readMembers_renderMembers
    (name : String)
    (value : Json)
    (others : List (String × Json))
    (every : ∀ member ∈ (name, value) :: others, ReadsBack ascii member.2)
    (fuel : Nat)
    (rest : List Char)
    (enough : (renderMembers ascii ((name, value) :: others)).length < fuel) :
    readMembers fuel (renderMembers ascii ((name, value) :: others) ++ '}' :: rest) =
      some ((name, value) :: others, rest) := by
  induction others generalizing name value fuel with
  | nil =>
      cases fuel with
      | zero => cases enough
      | succ fuel =>
          rw [renderMembers, List.length_append, List.length_cons, List.length_cons] at enough
          rw [renderMembers, List.append_assoc, List.cons_append, List.cons_append,
            readMembers_member name value (every (name, value) List.mem_cons_self) fuel '}' rest
              (by omega) (by decide)]
          rfl
  | cons second others hypothesis =>
      rcases second with ⟨second, next⟩
      cases fuel with
      | zero => cases enough
      | succ fuel =>
          simp only [renderMembers, List.length_append, List.length_cons] at enough
          have remaining := hypothesis second next
            (fun member inside => every member (List.mem_cons_of_mem _ inside)) fuel (by omega)
          rw [← readMembers_blank] at remaining
          simp only [renderMembers, List.append_assoc, List.cons_append]
          rw [readMembers_member name value (every (name, value) List.mem_cons_self) fuel ','
            (' ' :: _) (by omega) (by decide), readMembersAfter, remaining]
          rfl

/-! ## Values -/

/-- Reading a value takes one step of its own before its parts. -/
theorem readsBack_of_succ
    (value : Json)
    (step : ∀ (fuel : Nat) (rest : List Char), (value.render ascii).length ≤ fuel → EndsNumber rest →
      readValue (fuel + 1) (value.render ascii ++ rest) = some (value, rest)) :
    ReadsBack ascii value := by
  intro fuel rest enough ends
  cases fuel with
  | zero => cases enough
  | succ fuel => exact step fuel rest (Nat.le_of_lt_succ enough) ends

theorem readValue_of_number
    (fuel : Nat)
    (first : Char)
    (others : List Char)
    (number : first = '-' ∨ first.isDigit = true) :
    readValue (fuel + 1) (first :: others) = readNumber (first :: others) := by
  rcases visible_of_number first number with ⟨visible, other⟩
  simp only [List.mem_cons, List.not_mem_nil, or_false, not_or] at other
  simp [readValue, skipSpace_cons first others visible, other]

theorem readsBack_int (value : Int) : ReadsBack ascii (int value) := by
  refine readsBack_of_succ _ fun fuel rest enough ends => ?_
  rcases head_of_signedDecimal value with ⟨first, others, digits, number⟩
  rw [← readNumber_of_int value rest ends, render, digits]
  exact readValue_of_number fuel first (others ++ rest) number

theorem readsBack_real (digits exponent : Int) : ReadsBack ascii (real digits exponent) := by
  refine readsBack_of_succ _ fun fuel rest enough ends => ?_
  rcases head_of_signedDecimal digits with ⟨first, others, equal, number⟩
  rw [← readNumber_of_real digits exponent rest ends.1, render, List.append_assoc,
    List.cons_append, equal]
  exact readValue_of_number fuel first _ number

theorem readsBack_str (value : String) : ReadsBack ascii (str value) := by
  refine readsBack_of_succ _ fun fuel rest enough ends => ?_
  rw [render, quoted, List.append_assoc, List.cons_append, List.singleton_append, readValue]
  simp only [skipSpace_cons '"' _ rfl, readString_quoted, Option.map_some, String.ofList_toList]

theorem readsBack_arr (items : List Json) (every : ∀ item ∈ items, ReadsBack ascii item) :
    ReadsBack ascii (arr items) := by
  refine readsBack_of_succ _ fun fuel rest enough ends => ?_
  cases items with
  | nil => rfl
  | cons first others =>
      rw [render, List.length_append, List.length_cons, List.length_singleton] at enough
      have inner := readItems_renderItems first others every fuel rest (by omega)
      rcases head_of_renderItems ascii first others with ⟨char, text, starts, visible, item⟩
      rw [render, List.append_assoc, List.cons_append, List.singleton_append, readValue]
      rw [starts, List.cons_append] at inner ⊢
      simp [skipSpace_cons '[' _ rfl, skipSpace_cons char _ visible, item, inner]

theorem readsBack_obj
    (members : List (String × Json))
    (every : ∀ member ∈ members, ReadsBack ascii member.2) :
    ReadsBack ascii (obj members) := by
  refine readsBack_of_succ _ fun fuel rest enough ends => ?_
  cases members with
  | nil => rfl
  | cons first others =>
      rcases first with ⟨name, value⟩
      rw [render, List.length_append, List.length_cons, List.length_singleton] at enough
      have inner := readMembers_renderMembers name value others every fuel rest (by omega)
      rcases head_of_renderMembers ascii name value others with ⟨text, starts⟩
      rw [render, List.append_assoc, List.cons_append, List.singleton_append, readValue]
      rw [starts, List.cons_append] at inner ⊢
      simp [skipSpace_cons '{' _ rfl, skipSpace_cons '"' _ rfl, inner]

/-- Every value is read from its written form, whatever follows it. -/
theorem readsBack (ascii : Bool) (value : Json) : ReadsBack ascii value := by
  induction value using by_parts with
  | null => exact readsBack_of_succ _ fun _ _ _ _ => rfl
  | bool value => cases value <;> exact readsBack_of_succ _ fun _ _ _ _ => rfl
  | int value => exact readsBack_int value
  | real digits exponent => exact readsBack_real digits exponent
  | str value => exact readsBack_str value
  | arr items every => exact readsBack_arr items every
  | obj members every => exact readsBack_obj members every

/-- The reader of whole texts undoes the writer. -/
theorem parse?_render (ascii : Bool) (value : Json) :
    parse? (value.render ascii) = some value := by
  have ends : EndsNumber [] := by simp [EndsNumber, EndsDigits]
  have whole := readsBack ascii value (2 * (value.render ascii).length + 2) [] (by omega) ends
  rw [List.append_nil] at whole
  rw [parse?, whole]
  rfl

end TimedText.Json
