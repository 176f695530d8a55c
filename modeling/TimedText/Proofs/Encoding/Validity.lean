import TimedText.Proofs.Encoding.Utf8

/-!
# Where bytes cease to be UTF-8

Every row of bytes falls into two parts in one way: a text that it starts with, and a rest that
starts with no character.  The bytes are valid just if nothing is left, and the first part is their
longest valid beginning.  Both loops over the bytes go through the text, and then depend on what the
reader makes of the rest.

Bytes that are not valid may want for more.  They do if the rest is the beginning of a character.
The reader of packets waits in just these cases and in one other, in which it waits in vain: the
rest is the beginning of a surrogate, two bytes long.
-/

namespace TimedText.Encoding.Utf8

/-! ## A text and a rest -/

/-- Bytes that start with no character. -/
def IsHeadless (bytes : List UInt8) : Prop :=
  ∀ char more, bytes ≠ encodeChar char ++ more

/-- The reader takes a written character off the start of bytes. -/
theorem read_encodeChar (final : Bool) (char : Char) (rest : List UInt8) :
    ∃ first tail,
      encodeChar char = first :: tail ∧
        read final first (tail ++ rest) = .chars [char] tail.length := by
  have sequence := sequence_encodeChar char
  cases written : encodeChar char with
  | nil =>
      rw [written] at sequence
      cases sequence
  | cons first tail =>
      rw [written] at sequence
      have taken := read_of_sequence final first tail rest char.toNat sequence
      rw [Char.ofNat_toNat] at taken
      exact ⟨first, tail, rfl, taken⟩

theorem isHeadless_nil : IsHeadless [] := by
  intro char more same
  rcases read_encodeChar true char more with ⟨first, tail, written, -⟩
  rw [written] at same
  cases same

/-- Bytes start with one character at most. -/
theorem encodeChar_append_inj
    {left right : Char}
    {more others : List UInt8}
    (same : encodeChar left ++ more = encodeChar right ++ others) :
    left = right ∧ more = others := by
  rcases read_encodeChar true left more with ⟨first, tail, written, taken⟩
  rcases read_encodeChar true right others with ⟨head, inner, spelled, read⟩
  have bytes := same
  rw [written, spelled, List.cons_append, List.cons_append, List.cons.injEq] at bytes
  rcases bytes with ⟨rfl, rests⟩
  rw [rests, read, Read.chars.injEq, List.cons.injEq] at taken
  rcases taken with ⟨⟨rfl, -⟩, -⟩
  exact ⟨rfl, List.append_cancel_left same⟩

theorem exists_parts (bytes : List UInt8) :
    ∃ text rest, bytes = encode text ++ rest ∧ IsHeadless rest := by
  -- A character at the start is taken off, and the bytes behind it are fewer.
  induction size : bytes.length using Nat.strong_induction_on generalizing bytes with
  | _ count hypothesis =>
      by_cases headless : IsHeadless bytes
      · exact ⟨[], bytes, rfl, headless⟩
      · simp only [IsHeadless, not_forall, not_not] at headless
        rcases headless with ⟨char, more, rfl⟩
        rcases read_encodeChar true char more with ⟨first, tail, written, -⟩
        have shorter : more.length < count := by
          rw [← size, written, List.length_append, List.length_cons]
          omega
        rcases hypothesis more.length shorter more rfl with ⟨text, rest, rfl, headless⟩
        refine ⟨char :: text, rest, ?_, headless⟩
        rw [encode, encode, List.flatMap_cons, List.append_assoc]

section Parts

variable {text : List Char} {rest : List UInt8} (headless : IsHeadless rest)

include headless

/-- A text that the bytes start with goes no further than the one in front of the rest. -/
theorem starts_of_encode_starts
    (taken : List Char)
    (starts : encode taken <+: encode text ++ rest) :
    taken <+: text := by
  induction taken generalizing text with
  | nil => exact List.nil_prefix
  | cons char others hypothesis =>
      rcases starts with ⟨more, same⟩
      rw [encode, List.flatMap_cons, ← encode, List.append_assoc] at same
      cases text with
      | nil => exact (headless char _ same.symm).elim
      | cons head tail =>
          rw [encode, encode, List.flatMap_cons, ← encode, ← encode, List.append_assoc] at same
          -- Both texts start with the same character, as the bytes start with no other.
          rcases encodeChar_append_inj same with ⟨rfl, left⟩
          rw [List.cons_prefix_cons]
          exact ⟨rfl, hypothesis ⟨more, left⟩⟩

/-- There is one way to cut bytes into a text and a rest that starts with no character. -/
theorem parts_unique
    {other : List Char}
    {remainder : List UInt8}
    (alike : IsHeadless remainder)
    (same : encode text ++ rest = encode other ++ remainder) :
    text = other ∧ rest = remainder := by
  have left : text <+: other := starts_of_encode_starts alike text ⟨rest, same⟩
  have right : other <+: text := starts_of_encode_starts headless other ⟨remainder, same.symm⟩
  have equal := left.eq_of_length_le right.length_le
  subst equal
  exact ⟨rfl, List.append_cancel_left same⟩

end Parts

/-- The valid beginning of bytes that all their valid beginnings lie in. -/
structure IsLongestValid (bytes taken : List UInt8) : Prop where
  starts : taken <+: bytes
  valid : IsValid taken
  longest : ∀ other, other <+: bytes → IsValid other → other <+: taken

theorem isLongestValid_encode
    (text : List Char)
    (rest : List UInt8)
    (headless : IsHeadless rest) :
    IsLongestValid (encode text ++ rest) (encode text) where
  starts := ⟨rest, rfl⟩
  valid := ⟨text, rfl⟩
  longest := by
    rintro other starts ⟨taken, rfl⟩
    exact (starts_of_encode_starts headless taken starts).flatMap encodeChar

/-! ## Going through the text -/

theorem decodeAll_append (final : Bool) (position : Nat) (text : List Char) (rest : List UInt8) :
    Reader.decodeAll (read final) position (encode text ++ rest) =
      (Reader.decodeAll (read final) (position + (encode text).length) rest).map
        fun (others, waiting) => (text ++ others, waiting) := by
  induction text generalizing position with
  | nil =>
      rw [show encode [] = [] from rfl, List.nil_append, List.length_nil, Nat.add_zero]
      cases Reader.decodeAll (read final) position rest <;> rfl
  | cons char others hypothesis =>
      rcases read_encodeChar final char (encode others ++ rest) with
        ⟨first, tail, written, taken⟩
      have length :
          position + (encode (char :: others)).length =
            position + tail.length + 1 + (encode others).length := by
        rw [encode, List.flatMap_cons, ← encode, written, List.length_append, List.length_cons]
        omega
      rw [length, encode, List.flatMap_cons, ← encode, written, List.append_assoc,
        List.cons_append, Reader.decodeAll, taken]
      dsimp only
      rw [List.drop_left, hypothesis]
      cases Reader.decodeAll (read final) _ rest <;> rfl

theorem replaceAll_append (final : Bool) (text : List Char) (rest : List UInt8) :
    Reader.replaceAll (read final) (encode text ++ rest) =
      text ++ Reader.replaceAll (read final) rest := by
  induction text with
  | nil => rfl
  | cons char others hypothesis =>
      rcases read_encodeChar final char (encode others ++ rest) with
        ⟨first, tail, written, taken⟩
      rw [encode, List.flatMap_cons, ← encode, written, List.append_assoc, List.cons_append,
        Reader.replaceAll, taken]
      dsimp only
      rw [List.drop_left, hypothesis]
      rfl

/-! ## Starting on the rest -/

theorem read_ne_chars
    (final : Bool)
    (first : UInt8)
    (rest : List UInt8)
    (headless : IsHeadless (first :: rest))
    (text : List Char)
    (further : Nat) :
    read final first rest ≠ .chars text further := by
  intro taken
  rcases continues_of_read final first rest text further taken with
    ⟨tail, more, code, rfl, -, sequence, -⟩
  have written := encodeChar_of_sequence _ code sequence
  exact headless (Char.ofNat code) more (by rw [written, List.cons_append])

theorem exists_read_final
    (first : UInt8)
    (rest : List UInt8)
    (headless : IsHeadless (first :: rest)) :
    ∃ reason further, read true first rest = .illegal reason further := by
  cases taken : read true first rest with
  | chars text further => exact (read_ne_chars true first rest headless text further taken).elim
  | incomplete => exact (read_final_ne_incomplete first rest taken).elim
  | illegal reason further => exact ⟨reason, further, rfl⟩

/-- Bytes that are not valid have a flaw behind the text that they start with. -/
theorem decode?_append
    (text : List Char)
    (first : UInt8)
    (rest : List UInt8)
    (headless : IsHeadless (first :: rest)) :
    ∃ reason,
      decode? (encode text ++ first :: rest) =
        .error (.illegal (encode text).length reason) := by
  rcases exists_read_final first rest headless with ⟨reason, further, taken⟩
  refine ⟨reason, ?_⟩
  rw [decode?, decodeAll_append, Reader.decodeAll, taken, Nat.zero_add]
  rfl

/-- The first illegal stretch is replaced behind the text that the bytes start with. -/
theorem decodeReplacing_append
    (text : List Char)
    (first : UInt8)
    (rest : List UInt8)
    (headless : IsHeadless (first :: rest)) :
    ∃ more, decodeReplacing (encode text ++ first :: rest) = text ++ '\uFFFD' :: more := by
  rcases exists_read_final first rest headless with ⟨reason, further, taken⟩
  refine ⟨Reader.replaceAll (read true) (rest.drop further), ?_⟩
  rw [decodeReplacing, replaceAll_append, Reader.replaceAll, taken]

/-- The first two bytes of a character are one illegal stretch, those of a surrogate are two. -/
example :
    decodeReplacing [0x61, 0xE2, 0x82, 0x62] = ['a', '\uFFFD', 'b'] ∧
      decodeReplacing [0x61, 0xED, 0xA0, 0x62] = ['a', '\uFFFD', '\uFFFD', 'b'] := by
  decide +kernel

/-! ## Bytes that want for more -/

/-- Bytes that can become valid if more bytes follow. -/
def IsCompletable (bytes : List UInt8) : Prop :=
  ∃ more, IsValid (bytes ++ more)

/-- The first two bytes of a surrogate. -/
def IsSurrogateStart (bytes : List UInt8) : Prop :=
  ∃ second, bytes = [0xED, second] ∧ 0xA0 ≤ second ∧ second ≤ 0xBF

/-- Bytes that end with the first two bytes of a surrogate, and are valid before them. -/
def EndsInSurrogateStart (bytes : List UInt8) : Prop :=
  ∃ before start, IsValid before ∧ IsSurrogateStart start ∧ bytes = before ++ start

/-- Bytes can become valid just if nothing is left behind their text but a part of a character. -/
theorem isCompletable_append_iff
    (text : List Char)
    (rest : List UInt8)
    (headless : IsHeadless rest) :
    IsCompletable (encode text ++ rest) ↔ rest = [] ∨ ∃ char, rest <+: encodeChar char := by
  constructor
  · rintro ⟨more, whole, written⟩
    have starts : encode text <+: encode whole ++ [] :=
      ⟨rest ++ more, by rw [← List.append_assoc, ← written, List.append_nil]⟩
    rcases starts_of_encode_starts isHeadless_nil text starts with ⟨others, rfl⟩
    rw [encode, List.flatMap_append, ← encode, ← encode, List.append_assoc] at written
    have left := List.append_cancel_left written
    cases others with
    | nil => exact .inl (List.append_eq_nil_iff.1 left.symm).1
    | cons char others =>
        rw [encode, List.flatMap_cons, ← encode] at left
        rcases List.append_eq_append_iff.1 left with ⟨inner, beyond, -⟩ | ⟨inner, within, -⟩
        · exact (headless char inner beyond).elim
        · exact .inr ⟨char, inner, within.symm⟩
  · rintro (rfl | ⟨char, more, written⟩)
    · exact ⟨[], text, by rw [List.append_nil, List.append_nil]⟩
    · refine ⟨more, text ++ [char], ?_⟩
      rw [List.append_assoc, written, encode, List.flatMap_append, List.flatMap_singleton,
        ← encode]

/-! ## Waiting -/

/-- The beginnings of sequences in which at least one byte is missing. -/
inductive Beginning : (bytes : List UInt8) → Prop where
  | one
      {first : UInt8}
      (range : 0xC2 ≤ first.toNat ∧ first.toNat < 0xF5) :
      Beginning [first]
  | two
      {first second : UInt8}
      (range : 0xE0 ≤ first.toNat ∧ first.toNat < 0xF5)
      (follows : isSecond first second = true) :
      Beginning [first, second]
  | three
      {first second third : UInt8}
      (range : 0xF0 ≤ first.toNat ∧ first.toNat < 0xF5)
      (follows : isSecond first second = true)
      (inner : isTail third = true) :
      Beginning [first, second, third]

/-- What is left of a sequence without its end is a beginning. -/
theorem beginning_of_sequence
    (first missing : UInt8)
    (rest more : List UInt8)
    (code : Nat)
    (sequence : Sequence (first :: rest ++ missing :: more) code) :
    Beginning (first :: rest) := by
  generalize whole : first :: rest ++ missing :: more = bytes at sequence
  cases sequence with
  | single range => simp at whole
  | double range tail =>
      match rest with
      | [] =>
          cases whole
          exact .one (by omega)
      | _ :: _ => simp at whole
  | triple range follows tail =>
      match rest with
      | [] =>
          cases whole
          exact .one (by omega)
      | [second] =>
          cases whole
          exact .two (by omega) follows
      | _ :: _ :: _ => simp at whole
  | quadruple range follows inner tail =>
      match rest with
      | [] =>
          cases whole
          exact .one (by omega)
      | [second] =>
          cases whole
          exact .two (by omega) follows
      | [second, third] =>
          cases whole
          exact .three range follows inner
      | _ :: _ :: _ :: _ => simp at whole

/-- Every first byte of a longer sequence has a second byte that can follow it. -/
theorem exists_isSecond (first : UInt8) : ∃ second, isSecond first second = true := by
  by_cases overlong : first.toNat = 0xE0 ∨ first.toNat = 0xF0
  · refine ⟨0xA0, (isSecond_iff _ _).2 ?_⟩
    simp only [UInt8.reduceToNat]
    omega
  · refine ⟨0x80, (isSecond_iff _ _).2 ?_⟩
    simp only [UInt8.reduceToNat]
    omega

/-- Every beginning has an end. -/
theorem exists_sequence_of_beginning
    (bytes : List UInt8)
    (beginning : Beginning bytes) :
    ∃ more code, Sequence (bytes ++ more) code := by
  have tail : isTail 0x80 = true := rfl
  cases beginning with
  | @one first range =>
      rcases exists_isSecond first with ⟨second, follows⟩
      by_cases short : first.toNat < 0xE0
      · exact ⟨[0x80], _, .double (by omega) tail⟩
      · by_cases middling : first.toNat < 0xF0
        · exact ⟨[second, 0x80], _, .triple (by omega) follows tail⟩
        · exact ⟨[second, 0x80, 0x80], _, .quadruple (by omega) follows tail tail⟩
  | @two first second range follows =>
      by_cases short : first.toNat < 0xF0
      · exact ⟨[0x80], _, .triple (by omega) follows tail⟩
      · exact ⟨[0x80, 0x80], _, .quadruple (by omega) follows tail tail⟩
  | three range follows inner => exact ⟨[0x80], _, .quadruple range follows inner tail⟩

/-- The parts of characters that start with no character are the beginnings of sequences. -/
theorem exists_prefix_encodeChar_iff
    (first : UInt8)
    (rest : List UInt8)
    (headless : IsHeadless (first :: rest)) :
    (∃ char, first :: rest <+: encodeChar char) ↔ Beginning (first :: rest) := by
  constructor
  · rintro ⟨char, more, written⟩
    cases more with
    | nil => exact (headless char [] (by rw [← written, List.append_nil, List.append_nil])).elim
    | cons missing more =>
        have sequence := sequence_encodeChar char
        rw [← written] at sequence
        exact beginning_of_sequence first missing rest more _ sequence
  · intro beginning
    rcases exists_sequence_of_beginning _ beginning with ⟨more, code, sequence⟩
    exact ⟨Char.ofNat code, more, (encodeChar_of_sequence _ code sequence).symm⟩

theorem read_of_beginning
    (first : UInt8)
    (rest : List UInt8)
    (beginning : Beginning (first :: rest)) :
    read false first rest = .incomplete := by
  unfold read
  simp only [UInt8.lt_iff_toNat_lt, UInt8.reduceToNat]
  cases beginning with
  | one range =>
      rw [if_neg (by omega), if_neg (by omega)]
      split
      next => rfl
      split
      next => rfl
      rw [if_pos range.2]
      rfl
  | two range follows =>
      rw [if_neg (by omega), if_neg (by omega), if_neg (by omega)]
      split
      next => simp [follows, atEnd]
      rw [if_pos range.2]
      simp [follows, atEnd]
  | three range follows inner =>
      rw [if_neg (by omega), if_neg (by omega), if_neg (by omega), if_neg (by omega),
        if_pos range.2]
      simp [follows, inner, atEnd]

theorem read_of_isSurrogateStart
    (first : UInt8)
    (rest : List UInt8)
    (start : IsSurrogateStart (first :: rest)) :
    read false first rest = .incomplete := by
  rcases start with ⟨second, bytes, low, high⟩
  rw [List.cons.injEq] at bytes
  rcases bytes with ⟨rfl, rfl⟩
  have tail : isTail second = true := by
    simp only [UInt8.le_iff_toNat_le, UInt8.reduceToNat] at low high
    rw [isTail_iff]
    omega
  have unfit : isSecond 0xED second = false := by
    simp [isSecond, low]
  simp [read, tail, unfit]

/-- Bytes that the reader of packets waits behind. -/
def Waits (bytes : List UInt8) : Prop :=
  Beginning bytes ∨ IsSurrogateStart bytes

theorem waits_of_read_triple
    (first : UInt8)
    (rest : List UInt8)
    (range : 0xE0 ≤ first.toNat ∧ first.toNat < 0xF0)
    (stops : read false first rest = .incomplete) :
    Waits (first :: rest) := by
  unfold read at stops
  simp only [UInt8.lt_iff_toNat_lt, UInt8.reduceToNat] at stops
  rw [if_neg (by omega), if_neg (by omega), if_neg (by omega), if_pos range.2] at stops
  split at stops
  next => exact .inl (.one (by omega))
  next second =>
    split at stops
    next follows => exact .inl (.two (by omega) follows)
    next unfit =>
      split at stops
      next surrogate =>
        simp only [Bool.not_false, Bool.true_and, Bool.and_eq_true, beq_iff_eq, isTail_iff]
          at surrogate
        rw [isSecond_iff] at unfit
        rcases surrogate with ⟨rfl, tail⟩
        simp only [UInt8.reduceToNat] at unfit
        refine .inr ⟨second, rfl, ?_, ?_⟩
        · simp only [UInt8.le_iff_toNat_le, UInt8.reduceToNat]
          omega
        · simp only [UInt8.le_iff_toNat_le, UInt8.reduceToNat]
          omega
      next => cases stops
  next =>
    split at stops
    next => cases stops
    next => split at stops <;> cases stops

theorem waits_of_read_quadruple
    (first : UInt8)
    (rest : List UInt8)
    (range : 0xF0 ≤ first.toNat ∧ first.toNat < 0xF5)
    (stops : read false first rest = .incomplete) :
    Waits (first :: rest) := by
  unfold read at stops
  simp only [UInt8.lt_iff_toNat_lt, UInt8.reduceToNat] at stops
  rw [if_neg (by omega), if_neg (by omega), if_neg (by omega), if_neg (by omega),
    if_pos range.2] at stops
  split at stops
  next => exact .inl (.one (by omega))
  next second =>
    split at stops
    next follows => exact .inl (.two (by omega) follows)
    next => cases stops
  next second third =>
    split at stops
    next => cases stops
    next follows =>
      split at stops
      next inner => exact .inl (.three range (by simpa using follows) inner)
      next => cases stops
  next =>
    split at stops
    next => cases stops
    next =>
      split at stops
      next => cases stops
      next => split at stops <;> cases stops

/-- The reader of packets waits for the end of a beginning, and after the start of a surrogate. -/
theorem read_eq_incomplete_iff (first : UInt8) (rest : List UInt8) :
    read false first rest = .incomplete ↔ Waits (first :: rest) := by
  constructor
  · intro stops
    by_cases triple : 0xE0 ≤ first.toNat ∧ first.toNat < 0xF0
    · exact waits_of_read_triple first rest triple stops
    by_cases quadruple : 0xF0 ≤ first.toNat ∧ first.toNat < 0xF5
    · exact waits_of_read_quadruple first rest quadruple stops
    unfold read at stops
    simp only [UInt8.lt_iff_toNat_lt, UInt8.reduceToNat] at stops
    split at stops
    next => cases stops
    split at stops
    next => cases stops
    split at stops
    next =>
      split at stops
      next => exact .inl (.one (by omega))
      next => split at stops <;> cases stops
    rw [if_neg (by omega), if_neg (by omega)] at stops
    cases stops
  · rintro (beginning | start)
    · exact read_of_beginning first rest beginning
    · exact read_of_isSurrogateStart first rest start

theorem isHeadless_of_isSurrogateStart
    (bytes : List UInt8)
    (start : IsSurrogateStart bytes) :
    IsHeadless bytes := by
  rintro char more rfl
  rcases read_encodeChar false char more with ⟨first, tail, written, taken⟩
  rw [written, List.cons_append] at start
  rw [read_of_isSurrogateStart first (tail ++ more) start] at taken
  cases taken

/--
The reader waits behind a text just if more bytes can make all of it valid, or if what it waits
behind is the start of a surrogate.
-/
theorem waits_iff
    (text : List Char)
    (first : UInt8)
    (rest : List UInt8)
    (headless : IsHeadless (first :: rest)) :
    Waits (first :: rest) ↔
      IsCompletable (encode text ++ first :: rest) ∨
        EndsInSurrogateStart (encode text ++ first :: rest) := by
  refine or_congr ?_ ?_
  · rw [isCompletable_append_iff text _ headless, exists_prefix_encodeChar_iff first rest headless]
    simp
  · constructor
    · intro start
      exact ⟨encode text, first :: rest, ⟨text, rfl⟩, start, rfl⟩
    · rintro ⟨before, start, ⟨other, rfl⟩, surrogate, same⟩
      have alike := isHeadless_of_isSurrogateStart start surrogate
      rwa [(parts_unique headless alike same).2]

/-- What the reader of packets makes of bytes that are not valid. -/
theorem decodeAll_false_append
    (text : List Char)
    (first : UInt8)
    (rest : List UInt8)
    (headless : IsHeadless (first :: rest)) :
    (Waits (first :: rest) ∧
        Reader.decodeAll (read false) 0 (encode text ++ first :: rest) =
          .ok (text, first :: rest)) ∨
      (¬ Waits (first :: rest) ∧
        ∃ reason,
          Reader.decodeAll (read false) 0 (encode text ++ first :: rest) =
            .error (.illegal (encode text).length reason)) := by
  rw [decodeAll_append, Reader.decodeAll, Nat.zero_add, ← read_eq_incomplete_iff]
  cases taken : read false first rest with
  | chars others further =>
      exact (read_ne_chars false first rest headless others further taken).elim
  | incomplete => exact .inl ⟨rfl, by simp [Except.map]⟩
  | illegal reason further => exact .inr ⟨by simp, reason, rfl⟩

end TimedText.Encoding.Utf8
