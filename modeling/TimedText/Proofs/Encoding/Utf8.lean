import Mathlib
import TimedText.Encoding.Utf8

/-!
# UTF-8 is read as it is written

The sequences of UTF-8 are listed once, by the number of their bytes, each with the code point that
it stands for.  The reader makes a character of the bytes that it has in front of it exactly if they
start with a sequence, and the sequences are the written forms of characters.

So reading the written form of a text gives back the text, and bytes that can be read to the end are
the written form of what was read.  Bytes are valid UTF-8 if they are the written form of a text,
and then they are that of no other.
-/

namespace TimedText.Encoding

/--
If a reader takes nothing for characters but their written form, bytes are the written form of what is
read of them and the bytes that wait.
-/
theorem Reader.written_of_decodeAll
    {reader : Reader}
    {encodeChar : Char → List UInt8}
    (writes :
      ∀ first rest text further,
        reader first rest = .chars text further →
          text.flatMap encodeChar ++ rest.drop further = first :: rest)
    {position : Nat}
    {bytes waiting : List UInt8}
    {text : List Char}
    (decoded : reader.decodeAll position bytes = .ok (text, waiting)) :
    text.flatMap encodeChar ++ waiting = bytes := by
  induction position, bytes using Reader.decodeAll.induct reader generalizing text waiting with
  | case1 position =>
      rw [Reader.decodeAll] at decoded
      cases decoded
      rfl
  | case2 position first rest taken further found others kept others_eq hypothesis =>
      rw [Reader.decodeAll, found] at decoded
      simp only [others_eq] at decoded
      cases decoded
      rw [List.flatMap_append, List.append_assoc, hypothesis others_eq]
      exact writes first rest taken further found
  | case3 position first rest taken further found fault others_eq hypothesis =>
      rw [Reader.decodeAll, found] at decoded
      simp only [others_eq] at decoded
      cases decoded
  | case4 position first rest found =>
      rw [Reader.decodeAll, found] at decoded
      cases decoded
      rfl
  | case5 position first rest reason further found =>
      rw [Reader.decodeAll, found] at decoded
      cases decoded

namespace Utf8

/-! ## Bytes as numbers -/

theorem isTail_iff (byte : UInt8) :
    isTail byte = true ↔ 0x80 ≤ byte.toNat ∧ byte.toNat ≤ 0xBF := by
  simp [isTail, UInt8.le_iff_toNat_le]

/-- The bytes that can follow a first byte, as numbers. -/
theorem isSecond_iff (first second : UInt8) :
    isSecond first second = true ↔
      (0x80 ≤ second.toNat ∧ second.toNat ≤ 0xBF) ∧
        (first.toNat = 0xE0 → 0xA0 ≤ second.toNat) ∧
        (first.toNat = 0xED → second.toNat < 0xA0) ∧
        (first.toNat = 0xF0 → 0x90 ≤ second.toNat) ∧
        (first.toNat = 0xF4 → second.toNat < 0x90) := by
  unfold isSecond
  simp only [Bool.and_eq_true, isTail_iff, Bool.not_eq_true', Bool.and_eq_false_iff,
    beq_eq_false_iff_ne, ne_eq, decide_eq_false_iff_not, UInt8.lt_iff_toNat_lt,
    UInt8.le_iff_toNat_le, ← UInt8.toNat_inj, ge_iff_le, UInt8.reduceToNat]
  omega

theorem toNat_ofNat_of_lt (number : Nat) (small : number < 0x100) :
    (UInt8.ofNat number).toNat = number := by
  rw [UInt8.toNat_ofNat']
  omega

/-- A byte is made from the number that it stands for. -/
theorem ofNat_eq_of_toNat (byte : UInt8) (number : Nat) (equal : byte.toNat = number) :
    UInt8.ofNat number = byte := by
  subst equal
  exact UInt8.ofNat_toNat

/-! ## Sequences -/

/-- The sequences of one to four bytes, each with its code point. -/
inductive Sequence : (bytes : List UInt8) → (code : Nat) → Prop where
  | single
      {first : UInt8}
      (range : first.toNat < 0x80) :
      Sequence [first] first.toNat
  | double
      {first second : UInt8}
      (range : 0xC2 ≤ first.toNat ∧ first.toNat < 0xE0)
      (tail : isTail second = true) :
      Sequence [first, second] (first.toNat % 0x20 * 0x40 + tailBits second)
  | triple
      {first second third : UInt8}
      (range : 0xE0 ≤ first.toNat ∧ first.toNat < 0xF0)
      (follows : isSecond first second = true)
      (tail : isTail third = true) :
      Sequence [first, second, third]
        (first.toNat % 0x10 * 0x1000 + tailBits second * 0x40 + tailBits third)
  | quadruple
      {first second third fourth : UInt8}
      (range : 0xF0 ≤ first.toNat ∧ first.toNat < 0xF5)
      (follows : isSecond first second = true)
      (inner : isTail third = true)
      (tail : isTail fourth = true) :
      Sequence [first, second, third, fourth]
        (first.toNat % 0x08 * 0x40000 + tailBits second * 0x1000 + tailBits third * 0x40
          + tailBits fourth)

/-- The reader takes a sequence for its character, whatever follows. -/
theorem read_of_sequence
    (final : Bool)
    (first : UInt8)
    (tail rest : List UInt8)
    (code : Nat)
    (sequence : Sequence (first :: tail) code) :
    read final first (tail ++ rest) = .chars [Char.ofNat code] tail.length := by
  unfold read
  simp only [UInt8.lt_iff_toNat_lt, UInt8.reduceToNat]
  cases sequence with
  | single range =>
      rw [if_pos range]
      rfl
  | double range tail =>
      rw [if_neg (by omega), if_neg (by omega), if_pos (by omega)]
      simp [tail]
  | triple range follows tail =>
      rw [if_neg (by omega), if_neg (by omega), if_neg (by omega), if_pos (by omega)]
      simp [follows, tail]
  | quadruple range follows inner tail =>
      rw [if_neg (by omega), if_neg (by omega), if_neg (by omega), if_neg (by omega),
        if_pos (by omega)]
      simp [follows, inner, tail]

/-- A byte of basic Latin in a sequence is the code point of the sequence. -/
theorem code_of_mem_of_sequence
    (bytes : List UInt8)
    (code : Nat)
    (sequence : Sequence bytes code)
    (byte : UInt8)
    (member : byte ∈ bytes)
    (basic : byte.toNat < 0x80) :
    code = byte.toNat := by
  have basicByte : ∃ other ∈ bytes, other.toNat = byte.toNat := ⟨byte, member, rfl⟩
  cases sequence with
  | single range => rw [List.mem_singleton.1 member]
  | double range tail =>
      rw [isTail_iff] at tail
      simp only [List.mem_cons, List.not_mem_nil, or_false, exists_eq_or_imp,
        exists_eq_left] at basicByte
      omega
  | triple range follows tail =>
      rw [isSecond_iff] at follows
      rw [isTail_iff] at tail
      simp only [List.mem_cons, List.not_mem_nil, or_false, exists_eq_or_imp,
        exists_eq_left] at basicByte
      omega
  | quadruple range follows inner tail =>
      rw [isSecond_iff] at follows
      rw [isTail_iff] at inner tail
      simp only [List.mem_cons, List.not_mem_nil, or_false, exists_eq_or_imp,
        exists_eq_left] at basicByte
      omega

/-- No sequence but that of the code point zero holds a zero byte. -/
theorem zero_notMem_of_sequence
    (bytes : List UInt8)
    (code : Nat)
    (sequence : Sequence bytes code)
    (nonzero : code ≠ 0) :
    0 ∉ bytes := fun member =>
  nonzero (code_of_mem_of_sequence bytes code sequence 0 member (by decide))

theorem atEnd_ne_chars (final : Bool) (further after : Nat) (text : List Char) :
    atEnd final further ≠ .chars text after := by
  cases final <;> simp [atEnd]

/-- Bytes after a first one begin with the rest of a sequence, whose character is the text. -/
def Continues (first : UInt8) (rest : List UInt8) (text : List Char) (further : Nat) : Prop :=
  ∃ tail more code,
    rest = tail ++ more ∧ tail.length = further ∧ Sequence (first :: tail) code ∧
      text = [Char.ofNat code]

theorem continues_of_read_triple
    (final : Bool)
    (first : UInt8)
    (rest : List UInt8)
    (text : List Char)
    (further : Nat)
    (range : 0xE0 ≤ first.toNat ∧ first.toNat < 0xF0)
    (found : read final first rest = .chars text further) :
    Continues first rest text further := by
  unfold read at found
  simp only [UInt8.lt_iff_toNat_lt, UInt8.reduceToNat] at found
  rw [if_neg (by omega), if_neg (by omega), if_neg (by omega), if_pos range.2] at found
  split at found
  next => exact (atEnd_ne_chars _ _ _ _ found).elim
  next second =>
    split at found
    next => exact (atEnd_ne_chars _ _ _ _ found).elim
    next => split at found <;> cases found
  next second third more =>
    split at found
    next => cases found
    next follows =>
      split at found
      next tail =>
        cases found
        have fits : isSecond first second = true := by
          simpa using follows
        exact ⟨[second, third], more, _, rfl, rfl, .triple range fits tail, rfl⟩
      next => cases found

theorem continues_of_read_quadruple
    (final : Bool)
    (first : UInt8)
    (rest : List UInt8)
    (text : List Char)
    (further : Nat)
    (range : 0xF0 ≤ first.toNat ∧ first.toNat < 0xF5)
    (found : read final first rest = .chars text further) :
    Continues first rest text further := by
  unfold read at found
  simp only [UInt8.lt_iff_toNat_lt, UInt8.reduceToNat] at found
  rw [if_neg (by omega), if_neg (by omega), if_neg (by omega), if_neg (by omega),
    if_pos range.2] at found
  split at found
  next => exact (atEnd_ne_chars _ _ _ _ found).elim
  next second =>
    split at found
    next => exact (atEnd_ne_chars _ _ _ _ found).elim
    next => cases found
  next second third =>
    split at found
    next => cases found
    next =>
      split at found
      next => exact (atEnd_ne_chars _ _ _ _ found).elim
      next => cases found
  next second third fourth more =>
    split at found
    next => cases found
    next follows =>
      split at found
      next => cases found
      next inner =>
        split at found
        next tail =>
          cases found
          have fits : isSecond first second = true := by
            simpa using follows
          have between : isTail third = true := by
            simpa using inner
          exact
            ⟨[second, third, fourth], more, _, rfl, rfl, .quadruple range fits between tail, rfl⟩
        next => cases found

/-- What the reader takes for characters is a sequence. -/
theorem continues_of_read
    (final : Bool)
    (first : UInt8)
    (rest : List UInt8)
    (text : List Char)
    (further : Nat)
    (found : read final first rest = .chars text further) :
    Continues first rest text further := by
  by_cases triple : 0xE0 ≤ first.toNat ∧ first.toNat < 0xF0
  · exact continues_of_read_triple final first rest text further triple found
  by_cases quadruple : 0xF0 ≤ first.toNat ∧ first.toNat < 0xF5
  · exact continues_of_read_quadruple final first rest text further quadruple found
  unfold read at found
  simp only [UInt8.lt_iff_toNat_lt, UInt8.reduceToNat] at found
  split at found
  next range =>
    cases found
    exact ⟨[], rest, _, rfl, rfl, .single range, rfl⟩
  next =>
    split at found
    next => cases found
    next =>
      split at found
      next =>
        split at found
        next => exact (atEnd_ne_chars _ _ _ _ found).elim
        next second more =>
          split at found
          next tail =>
            cases found
            exact ⟨[second], more, _, rfl, rfl, .double (by omega) tail, rfl⟩
          next => cases found
      next =>
        rw [if_neg (by omega), if_neg (by omega)] at found
        cases found

/-! ## Sequences are written characters -/

/-- The code point of a character is none of a surrogate and not beyond Unicode. -/
theorem toNat_valid (char : Char) :
    char.toNat < 0xD800 ∨ (0xDFFF < char.toNat ∧ char.toNat < 0x110000) :=
  char.valid

theorem toNat_ofNat_of_valid
    (code : Nat)
    (valid : code < 0xD800 ∨ (0xDFFF < code ∧ code < 0x110000)) :
    (Char.ofNat code).toNat = code := by
  have isValid : code.isValidChar := valid
  unfold Char.ofNat
  rw [dif_pos isValid]
  simp [Char.ofNatAux, Char.toNat]

/-- A character is written as a sequence with its code point. -/
theorem sequence_encodeChar (char : Char) : Sequence (encodeChar char) char.toNat := by
  have valid := toNat_valid char
  unfold encodeChar
  generalize char.toNat = code at valid ⊢
  dsimp only
  split
  next single =>
    have first := toNat_ofNat_of_lt code (by omega)
    have sequence := @Sequence.single (UInt8.ofNat code) (by omega)
    rwa [first] at sequence
  split
  next double =>
    have first := toNat_ofNat_of_lt (0xC0 + code / 0x40) (by omega)
    have second := toNat_ofNat_of_lt (0x80 + code % 0x40) (by omega)
    have sequence :=
      @Sequence.double (UInt8.ofNat (0xC0 + code / 0x40)) (UInt8.ofNat (0x80 + code % 0x40))
        (by omega) ((isTail_iff _).2 (by omega))
    rw [tailBits, first, second] at sequence
    have same : (0xC0 + code / 0x40) % 0x20 * 0x40 + (0x80 + code % 0x40) % 0x40 = code := by
      omega
    rwa [same] at sequence
  split
  next triple =>
    have first := toNat_ofNat_of_lt (0xE0 + code / 0x1000) (by omega)
    have second := toNat_ofNat_of_lt (0x80 + code / 0x40 % 0x40) (by omega)
    have third := toNat_ofNat_of_lt (0x80 + code % 0x40) (by omega)
    have sequence :=
      @Sequence.triple (UInt8.ofNat (0xE0 + code / 0x1000))
        (UInt8.ofNat (0x80 + code / 0x40 % 0x40)) (UInt8.ofNat (0x80 + code % 0x40))
        (by omega) ((isSecond_iff _ _).2 (by omega)) ((isTail_iff _).2 (by omega))
    rw [tailBits, tailBits, first, second, third] at sequence
    have same :
        (0xE0 + code / 0x1000) % 0x10 * 0x1000 + (0x80 + code / 0x40 % 0x40) % 0x40 * 0x40
          + (0x80 + code % 0x40) % 0x40 = code := by
      omega
    rwa [same] at sequence
  next quadruple =>
    have first := toNat_ofNat_of_lt (0xF0 + code / 0x40000) (by omega)
    have second := toNat_ofNat_of_lt (0x80 + code / 0x1000 % 0x40) (by omega)
    have third := toNat_ofNat_of_lt (0x80 + code / 0x40 % 0x40) (by omega)
    have fourth := toNat_ofNat_of_lt (0x80 + code % 0x40) (by omega)
    have sequence :=
      @Sequence.quadruple (UInt8.ofNat (0xF0 + code / 0x40000))
        (UInt8.ofNat (0x80 + code / 0x1000 % 0x40)) (UInt8.ofNat (0x80 + code / 0x40 % 0x40))
        (UInt8.ofNat (0x80 + code % 0x40))
        (by omega) ((isSecond_iff _ _).2 (by omega)) ((isTail_iff _).2 (by omega))
        ((isTail_iff _).2 (by omega))
    rw [tailBits, tailBits, tailBits, first, second, third, fourth] at sequence
    have same :
        (0xF0 + code / 0x40000) % 0x08 * 0x40000 + (0x80 + code / 0x1000 % 0x40) % 0x40 * 0x1000
          + (0x80 + code / 0x40 % 0x40) % 0x40 * 0x40 + (0x80 + code % 0x40) % 0x40 = code := by
      omega
    rwa [same] at sequence

/-- A sequence is the written form of the character with its code point. -/
theorem encodeChar_of_sequence
    (bytes : List UInt8)
    (code : Nat)
    (sequence : Sequence bytes code) :
    encodeChar (Char.ofNat code) = bytes := by
  unfold encodeChar
  cases sequence with
  | @single first range =>
      rw [toNat_ofNat_of_valid _ (by omega)]
      dsimp only
      rw [if_pos range, UInt8.ofNat_toNat]
  | @double first second range tail =>
      rw [isTail_iff] at tail
      unfold tailBits
      rw [toNat_ofNat_of_valid _ (by omega)]
      dsimp only
      rw [if_neg (by omega), if_pos (by omega), ofNat_eq_of_toNat first _ (by omega),
        ofNat_eq_of_toNat second _ (by omega)]
  | @triple first second third range follows tail =>
      rw [isSecond_iff] at follows
      rw [isTail_iff] at tail
      unfold tailBits
      rw [toNat_ofNat_of_valid _ (by omega)]
      dsimp only
      rw [if_neg (by omega), if_neg (by omega), if_pos (by omega),
        ofNat_eq_of_toNat first _ (by omega), ofNat_eq_of_toNat second _ (by omega),
        ofNat_eq_of_toNat third _ (by omega)]
  | @quadruple first second third fourth range follows inner tail =>
      rw [isSecond_iff] at follows
      rw [isTail_iff] at inner tail
      unfold tailBits
      rw [toNat_ofNat_of_valid _ (by omega)]
      dsimp only
      rw [if_neg (by omega), if_neg (by omega), if_neg (by omega),
        ofNat_eq_of_toNat first _ (by omega), ofNat_eq_of_toNat second _ (by omega),
        ofNat_eq_of_toNat third _ (by omega), ofNat_eq_of_toNat fourth _ (by omega)]

/-! ## Texts -/

/-- The written form of a text is read back, whatever position its first byte is given. -/
theorem decodeAll_encode
    (final : Bool)
    (position : Nat)
    (text : List Char) :
    Reader.decodeAll (read final) position (encode text) = .ok (text, []) := by
  induction text generalizing position with
  | nil => simp [encode, Reader.decodeAll]
  | cons char rest hypothesis =>
      have sequence := sequence_encodeChar char
      rw [encode, List.flatMap_cons, ← encode]
      cases written : encodeChar char with
      | nil =>
          rw [written] at sequence
          cases sequence
      | cons first tail =>
          rw [written] at sequence
          rw [List.cons_append, Reader.decodeAll,
            read_of_sequence final first tail (encode rest) char.toNat sequence]
          dsimp only
          rw [List.drop_left, hypothesis]
          simp

/-- The written form of what is read, and the bytes that wait, are the bytes. -/
theorem encode_of_decodeAll
    (final : Bool)
    (position : Nat)
    (bytes waiting : List UInt8)
    (text : List Char)
    (decoded : Reader.decodeAll (read final) position bytes = .ok (text, waiting)) :
    encode text ++ waiting = bytes := by
  refine Reader.written_of_decodeAll ?_ decoded
  intro first rest taken further found
  rcases continues_of_read final first rest taken further found with
    ⟨tail, more, code, rfl, length, sequence, rfl⟩
  rw [← length, List.drop_left, List.flatMap_singleton, encodeChar_of_sequence _ code sequence]
  rfl

/-- The reader of final packets waits for nothing. -/
theorem read_final_ne_incomplete (first : UInt8) (rest : List UInt8) :
    read true first rest ≠ .incomplete := by
  unfold read
  repeat' split
  all_goals simp_all [atEnd]

/-- The reader of final packets keeps no bytes back. -/
theorem waiting_eq_nil_of_final
    (position : Nat)
    (bytes waiting : List UInt8)
    (text : List Char)
    (decoded : Reader.decodeAll (read true) position bytes = .ok (text, waiting)) :
    waiting = [] := by
  induction position, bytes using Reader.decodeAll.induct (read true) generalizing text waiting with
  | case1 position =>
      rw [Reader.decodeAll] at decoded
      cases decoded
      rfl
  | case2 position first rest taken further found others kept others_eq hypothesis =>
      rw [Reader.decodeAll, found] at decoded
      simp only [others_eq] at decoded
      cases decoded
      exact hypothesis _ _ others_eq
  | case3 position first rest taken further found fault others_eq hypothesis =>
      rw [Reader.decodeAll, found] at decoded
      simp only [others_eq] at decoded
      cases decoded
  | case4 position first rest found =>
      exact (read_final_ne_incomplete first rest found).elim
  | case5 position first rest reason further found =>
      rw [Reader.decodeAll, found] at decoded
      cases decoded

/-- Bytes have a text exactly if they are the written form of that text. -/
theorem decode?_eq_ok_iff
    (bytes : List UInt8)
    (text : List Char) :
    decode? bytes = .ok text ↔ encode text = bytes := by
  unfold decode?
  constructor
  · intro decoded
    cases outcome : Reader.decodeAll (read true) 0 bytes with
    | error fault =>
        rw [outcome] at decoded
        cases decoded
    | ok answer =>
        rcases answer with ⟨taken, waiting⟩
        rw [outcome] at decoded
        cases decoded
        have written := encode_of_decodeAll true 0 bytes waiting taken outcome
        rwa [waiting_eq_nil_of_final 0 bytes waiting taken outcome, List.append_nil] at written
  · intro written
    rw [← written, decodeAll_encode]
    rfl

/-- No two texts have the same written form. -/
theorem encode_injective : Function.Injective encode := by
  intro left right equal
  have read := (decode?_eq_ok_iff (encode right) left).2 equal
  rw [(decode?_eq_ok_iff (encode right) right).2 rfl] at read
  cases read
  rfl

/-- Bytes that are the written form of a text. -/
def IsValid (bytes : List UInt8) : Prop :=
  ∃ text, encode text = bytes

theorem isValid_iff (bytes : List UInt8) :
    IsValid bytes ↔ (decode? bytes).toOption.isSome = true := by
  constructor
  · rintro ⟨text, written⟩
    rw [(decode?_eq_ok_iff bytes text).2 written]
    rfl
  · intro read
    cases outcome : decode? bytes with
    | error fault =>
        rw [outcome] at read
        cases read
    | ok text => exact ⟨text, (decode?_eq_ok_iff bytes text).1 outcome⟩

instance : DecidablePred IsValid := fun bytes =>
  decidable_of_iff _ (isValid_iff bytes).symm

end Utf8

end TimedText.Encoding
