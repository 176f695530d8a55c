import Mathlib
import TimedText.Encoding
import TimedText.Proofs.Encoding.Utf8

/-!
# UTF-16 and UTF-32 are read as they are written

In a fixed byte order, the bytes of a unit give back its number.  So the reader takes the written
form of a character off the start of the bytes, whatever follows, and the written form of a text is
read back with no bytes left to wait.

Text grows little when it goes from these encodings to UTF-8: a character takes at most three bytes
there for every two that it takes here.
-/

namespace TimedText.Encoding

namespace ByteOrder

@[simp]
theorem length_lowBytes (count value : Nat) : (lowBytes count value).length = count := by
  induction count generalizing value with
  | zero => rfl
  | succ count hypothesis => rw [lowBytes, List.length_cons, hypothesis]

@[simp]
theorem length_bytes (order : ByteOrder) (count value : Nat) :
    (order.bytes count value).length = count := by
  cases order <;> simp [bytes]

/-- The bytes of a number give it back, if there are enough of them. -/
theorem value_bytes
    (order : ByteOrder)
    (count value : Nat)
    (small : value < 256 ^ count) :
    order.value (order.bytes count value) = value := by
  have little :
      (lowBytes count value).foldr (fun byte value => byte.toNat + 256 * value) 0 = value := by
    induction count generalizing value with
    | zero =>
        rw [pow_zero, Nat.lt_one_iff] at small
        rw [small]
        rfl
    | succ count hypothesis =>
        rw [pow_succ'] at small
        rw [lowBytes, List.foldr_cons, hypothesis (value / 256) (Nat.div_lt_of_lt_mul small),
          Utf8.toNat_ofNat_of_lt _ (Nat.mod_lt _ (by decide))]
        exact Nat.mod_add_div value 256
  cases order with
  | little => exact little
  | big =>
      show
        (lowBytes count value).reverse.foldl (fun value byte => 256 * value + byte.toNat) 0 = value
      rw [List.foldl_reverse]
      simpa only [Nat.add_comm] using little

/-- Bytes are made from the number that they make. -/
theorem bytes_value (order : ByteOrder) (bytes : List UInt8) :
    order.bytes bytes.length (order.value bytes) = bytes := by
  have little (bytes : List UInt8) :
      lowBytes bytes.length
          (bytes.foldr (fun byte value => byte.toNat + 256 * value) 0) = bytes := by
    induction bytes with
    | nil => rfl
    | cons byte others hypothesis =>
        have small := byte.toNat_lt
        rw [List.foldr_cons, List.length_cons, lowBytes, Nat.add_mul_mod_self_left,
          Nat.mod_eq_of_lt small, Nat.add_mul_div_left _ _ (by decide), Nat.div_eq_of_lt small,
          Nat.zero_add, hypothesis, UInt8.ofNat_toNat]
  cases order with
  | little => exact little bytes
  | big =>
      have reversed := little bytes.reverse
      rw [List.foldr_reverse, List.length_reverse] at reversed
      show
        (lowBytes bytes.length
            (bytes.foldl (fun value byte => 256 * value + byte.toNat) 0)).reverse = bytes
      rw [List.reverse_eq_iff, ← reversed]
      simp only [Nat.add_comm]

/-- Two bytes make a number below 10000, in either order. -/
theorem value_pair_lt (order : ByteOrder) (first second : UInt8) :
    order.value [first, second] < 0x10000 := by
  have small := first.toNat_lt
  have alike := second.toNat_lt
  cases order <;> simp only [value, List.foldr, List.foldl] <;> omega

end ByteOrder

namespace Wide

/-! ## Units -/

theorem isHigh_iff (unit : Nat) : isHigh unit = true ↔ 0xD800 ≤ unit ∧ unit < 0xDC00 := by
  simp [isHigh]

theorem isLow_iff (unit : Nat) : isLow unit = true ↔ 0xDC00 ≤ unit ∧ unit < 0xE000 := by
  simp [isLow]

/-- The bytes of a unit of two bytes, with the number that they make. -/
theorem exists_pair (order : ByteOrder) (unit : Nat) (small : unit < 0x10000) :
    ∃ first second, order.bytes 2 unit = [first, second] ∧ order.value [first, second] = unit := by
  have value := order.value_bytes 2 unit (by omega)
  have length := order.length_bytes 2 unit
  rcases List.length_eq_two.1 length with ⟨first, second, bytes⟩
  rw [bytes] at value
  exact ⟨first, second, bytes, value⟩

/-- A character beyond the first plane is the pair of the two units that it is written with. -/
theorem pairChar_of_char (char : Char) (beyond : 0x10000 ≤ char.toNat) :
    pairChar (0xD800 + (char.toNat - 0x10000) / 0x400) (0xDC00 + (char.toNat - 0x10000) % 0x400) =
      char := by
  have code :
      0x10000 + (0xD800 + (char.toNat - 0x10000) / 0x400 - 0xD800) * 0x400
          + (0xDC00 + (char.toNat - 0x10000) % 0x400 - 0xDC00) =
        char.toNat := by
    omega
  rw [pairChar, code, Char.ofNat_toNat]

/-! ## Characters -/

/-- A character of the first plane is read from its unit. -/
theorem readUtf16_of_unit
    (order : ByteOrder)
    (char : Char)
    (within : char.toNat < 0x10000)
    (rest : List UInt8) :
    ∃ first second,
      order.bytes 2 char.toNat = [first, second] ∧
        readUtf16 order first (second :: rest) = .chars [char] 1 := by
  have valid := Utf8.toNat_valid char
  rcases exists_pair order char.toNat within with ⟨first, second, bytes, value⟩
  refine ⟨first, second, bytes, ?_⟩
  have noHigh : ¬ isHigh char.toNat = true := by
    rw [isHigh_iff]
    omega
  have noLow : ¬ isLow char.toNat = true := by
    rw [isLow_iff]
    omega
  simp only [readUtf16, value, if_neg noHigh, if_neg noLow, Char.ofNat_toNat]

/-- A character beyond the first plane is read from its two units. -/
theorem readUtf16_of_pair
    (order : ByteOrder)
    (char : Char)
    (beyond : 0x10000 ≤ char.toNat)
    (rest : List UInt8) :
    ∃ first second third fourth,
      encodeChar .two order char = [first, second, third, fourth] ∧
        readUtf16 order first (second :: third :: fourth :: rest) = .chars [char] 3 := by
  have valid := Utf8.toNat_valid char
  rcases exists_pair order (0xD800 + (char.toNat - 0x10000) / 0x400) (by omega) with
    ⟨first, second, highBytes, high⟩
  rcases exists_pair order (0xDC00 + (char.toNat - 0x10000) % 0x400) (by omega) with
    ⟨third, fourth, lowBytes, low⟩
  refine ⟨first, second, third, fourth, ?_, ?_⟩
  · simp only [encodeChar, if_neg (Nat.not_lt.2 beyond), highBytes, lowBytes, List.cons_append,
      List.nil_append]
  · have isHighUnit : isHigh (0xD800 + (char.toNat - 0x10000) / 0x400) = true := by
      rw [isHigh_iff]
      omega
    have isLowUnit : isLow (0xDC00 + (char.toNat - 0x10000) % 0x400) = true := by
      rw [isLow_iff]
      omega
    simp only [readUtf16, high, low, isHighUnit, isLowUnit, if_true, pairChar_of_char char beyond]

theorem readUtf32_of_unit (order : ByteOrder) (char : Char) (rest : List UInt8) :
    ∃ first second third fourth,
      order.bytes 4 char.toNat = [first, second, third, fourth] ∧
        readUtf32 order first (second :: third :: fourth :: rest) = .chars [char] 3 := by
  have valid := Utf8.toNat_valid char
  have value := order.value_bytes 4 char.toNat (by omega)
  match bytes : order.bytes 4 char.toNat, order.length_bytes 4 char.toNat with
  | [first, second, third, fourth], _ =>
      rw [bytes] at value
      refine ⟨first, second, third, fourth, rfl, ?_⟩
      have noSurrogate : ¬ (isHigh char.toNat || isLow char.toNat) = true := by
        rw [Bool.or_eq_true, isHigh_iff, isLow_iff]
        omega
      have inUnicode : char.toNat < 0x110000 := by
        omega
      simp only [readUtf32, value, if_neg noSurrogate, if_pos inUnicode, Char.ofNat_toNat]

/-- The reader takes the written form of a character off the start of bytes. -/
theorem read_encodeChar
    (width : UnitWidth)
    (order : ByteOrder)
    (char : Char)
    (rest : List UInt8) :
    ∃ first tail,
      encodeChar width order char = first :: tail ∧
        read width order first (tail ++ rest) = .chars [char] tail.length := by
  cases width with
  | four =>
      rcases readUtf32_of_unit order char rest with ⟨first, second, third, fourth, bytes, taken⟩
      exact ⟨first, [second, third, fourth], bytes, taken⟩
  | two =>
      by_cases within : char.toNat < 0x10000
      · rcases readUtf16_of_unit order char within rest with ⟨first, second, bytes, taken⟩
        refine ⟨first, [second], ?_, taken⟩
        rw [encodeChar, if_pos within, bytes]
      · rcases readUtf16_of_pair order char (Nat.not_lt.1 within) rest with
          ⟨first, second, third, fourth, bytes, taken⟩
        exact ⟨first, [second, third, fourth], bytes, taken⟩

/-! ## Texts -/

/-- The written form of a text is read back, and leaves no bytes waiting. -/
theorem decodeAll_encode
    (width : UnitWidth)
    (order : ByteOrder)
    (position : Nat)
    (text : List Char) :
    Reader.decodeAll (read width order) position (encode width order text) = .ok (text, []) := by
  induction text generalizing position with
  | nil => simp [encode, Reader.decodeAll]
  | cons char others hypothesis =>
      rcases read_encodeChar width order char (encode width order others) with
        ⟨first, tail, bytes, taken⟩
      rw [encode, List.flatMap_cons, ← encode, bytes, List.cons_append, Reader.decodeAll, taken]
      dsimp only
      rw [List.drop_left, hypothesis]
      rfl

/-- The reader of UTF-16 takes nothing for a character but its written form. -/
theorem encode_of_readUtf16
    (order : ByteOrder)
    (first : UInt8)
    (rest : List UInt8)
    (text : List Char)
    (further : Nat)
    (taken : readUtf16 order first rest = .chars text further) :
    text.flatMap (encodeChar .two order) ++ rest.drop further = first :: rest := by
  unfold readUtf16 at taken
  split at taken
  next => cases taken
  next second rest =>
    have unit := order.value_pair_lt first second
    have bytes := order.bytes_value [first, second]
    dsimp only at taken
    generalize order.value [first, second] = high at unit bytes taken
    split at taken
    next isHighUnit =>
      rw [isHigh_iff] at isHighUnit
      split at taken
      next third fourth rest =>
        have others := order.bytes_value [third, fourth]
        generalize order.value [third, fourth] = low at others taken
        split at taken
        next isLowUnit =>
          cases taken
          rw [isLow_iff] at isLowUnit
          have code := Utf8.toNat_ofNat_of_valid
            (0x10000 + (high - 0xD800) * 0x400 + (low - 0xDC00)) (by omega)
          have beyond : ¬ (pairChar high low).toNat < 0x10000 := by
            rw [pairChar, code]
            omega
          have front : 0xD800 + ((pairChar high low).toNat - 0x10000) / 0x400 = high := by
            rw [pairChar, code]
            omega
          have back : 0xDC00 + ((pairChar high low).toNat - 0x10000) % 0x400 = low := by
            rw [pairChar, code]
            omega
          rw [List.flatMap_singleton, encodeChar]
          dsimp only
          rw [if_neg beyond, front, back]
          exact congrArg₂ (fun one two => one ++ two ++ rest) bytes others
        next => cases taken
      next => cases taken
    next noHigh =>
      split at taken
      next => cases taken
      next noLow =>
        cases taken
        rw [isHigh_iff] at noHigh
        rw [isLow_iff] at noLow
        have code := Utf8.toNat_ofNat_of_valid high (by omega)
        rw [List.flatMap_singleton, encodeChar]
        dsimp only
        rw [code, if_pos unit]
        exact congrArg (· ++ rest) bytes

/-- Bytes that are read to their end are the written form of what is read. -/
theorem encode_of_decodeAll
    {order : ByteOrder}
    {position : Nat}
    {bytes : List UInt8}
    {text : List Char}
    (decoded : Reader.decodeAll (read .two order) position bytes = .ok (text, [])) :
    encode .two order text = bytes := by
  have written := Reader.written_of_decodeAll (encode_of_readUtf16 order) decoded
  rwa [List.append_nil] at written

/-- No two texts have the same written form. -/
theorem encode_injective (width : UnitWidth) (order : ByteOrder) :
    Function.Injective (encode width order) := by
  intro left right equal
  have read := decodeAll_encode width order 0 left
  rw [equal, decodeAll_encode] at read
  cases read
  rfl

/-- Texts that are joined are written as their written forms are joined. -/
theorem encode_intercalate
    (width : UnitWidth)
    (order : ByteOrder)
    (separator : List Char)
    (texts : List (List Char)) :
    encode width order (separator.intercalate texts) =
      (encode width order separator).intercalate (texts.map (encode width order)) := by
  induction texts with
  | nil => rfl
  | cons text rest hypothesis =>
      cases rest with
      | nil => rw [List.map_singleton, List.intercalate_singleton, List.intercalate_singleton]
      | cons next others =>
          rw [List.map_cons, List.map_cons, List.intercalate_cons_cons, List.intercalate_cons_cons,
            ← List.map_cons, ← hypothesis]
          simp only [encode, List.flatMap_append]

/-- The written form of a text has an even number of bytes. -/
theorem even_length_encode (order : ByteOrder) (text : List Char) :
    Even (encode .two order text).length := by
  induction text with
  | nil => exact Even.zero
  | cons char others hypothesis =>
      have here : Even (encodeChar .two order char).length := by
        unfold encodeChar
        dsimp only
        split <;> simp only [List.length_append, ByteOrder.length_bytes] <;> decide
      rw [encode, List.flatMap_cons, ← encode, List.length_append]
      exact here.add hypothesis

/-- A character takes at most three bytes in UTF-8 for every two that it takes here. -/
theorem charSize_le (width : UnitWidth) (order : ByteOrder) (char : Char) :
    2 * Utf8.charSize char ≤ 3 * (encodeChar width order char).length := by
  unfold Utf8.charSize encodeChar
  cases width with
  | four =>
      simp only [ByteOrder.length_bytes]
      split_ifs <;> omega
  | two =>
      dsimp only
      split_ifs <;> simp only [List.length_append, ByteOrder.length_bytes] <;> omega

theorem size_le (width : UnitWidth) (order : ByteOrder) (text : List Char) :
    2 * Utf8.size text ≤ 3 * (encode width order text).length := by
  induction text with
  | nil => exact Nat.le_refl 0
  | cons char others hypothesis =>
      have here := charSize_le width order char
      rw [Utf8.size] at hypothesis ⊢
      rw [encode, List.flatMap_cons, ← encode, List.length_append, List.foldr_cons]
      omega

end Wide

end TimedText.Encoding
