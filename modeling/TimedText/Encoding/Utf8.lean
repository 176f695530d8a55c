import TimedText.Encoding.Reader

/-!
# UTF-8

Reading UTF-8 from bytes.  A sequence is illegal as soon as its bytes begin no character, and the
illegal stretch is the longest part of it that could have begun one, or a single byte.  Overlong
forms, surrogates and values beyond U+10FFFF begin no character.

At the end of a packet a beginning may wait for more bytes.  Where the packet is read as final, it
is illegal instead.  One beginning waits in vain: the first two bytes of a surrogate, if nothing
follows them.
-/

namespace TimedText.Encoding.Utf8

/-- A byte after the first of a sequence. -/
def isTail (byte : UInt8) : Bool :=
  0x80 ≤ byte && byte ≤ 0xBF

/-- The six bits that a later byte carries. -/
def tailBits (byte : UInt8) : Nat :=
  byte.toNat % 0x40

/-- The second bytes that can follow a first byte of a sequence of three or four. -/
def isSecond (first second : UInt8) : Bool :=
  isTail second
    && !(first == 0xE0 && second < 0xA0)
    && !(first == 0xED && second ≥ 0xA0)
    && !(first == 0xF0 && second < 0x90)
    && !(first == 0xF4 && second ≥ 0x90)

/-- What to make of a beginning at the end of the bytes. -/
def atEnd (final : Bool) (further : Nat) : Read :=
  if final then .illegal .endOfData further else .incomplete

/-- The reader of UTF-8, for a final packet or for one that more bytes may follow. -/
def read (final : Bool) (first : UInt8) (rest : List UInt8) : Read :=
  if first < 0x80 then
    .chars [Char.ofNat first.toNat] 0
  else if first < 0xC2 then
    .illegal .startByte 0
  else if first < 0xE0 then
    match rest with
    | [] => atEnd final 0
    | second :: _ =>
        if isTail second then
          .chars [Char.ofNat (first.toNat % 0x20 * 0x40 + tailBits second)] 1
        else
          .illegal .continuationByte 0
  else if first < 0xF0 then
    match rest with
    | [] => atEnd final 0
    | [second] =>
        if isSecond first second then atEnd final 1
        else if !final && first == 0xED && isTail second then .incomplete
        else .illegal .continuationByte 0
    | second :: third :: _ =>
        if !isSecond first second then
          .illegal .continuationByte 0
        else if isTail third then
          .chars
            [Char.ofNat
              (first.toNat % 0x10 * 0x1000 + tailBits second * 0x40 + tailBits third)]
            2
        else
          .illegal .continuationByte 1
  else if first < 0xF5 then
    match rest with
    | [] => atEnd final 0
    | [second] => if isSecond first second then atEnd final 1 else .illegal .continuationByte 0
    | [second, third] =>
        if !isSecond first second then .illegal .continuationByte 0
        else if isTail third then atEnd final 2
        else .illegal .continuationByte 1
    | second :: third :: fourth :: _ =>
        if !isSecond first second then
          .illegal .continuationByte 0
        else if !isTail third then
          .illegal .continuationByte 1
        else if isTail fourth then
          .chars
            [Char.ofNat
              (first.toNat % 0x08 * 0x40000 + tailBits second * 0x1000
                + tailBits third * 0x40 + tailBits fourth)]
            3
        else
          .illegal .continuationByte 2
  else
    .illegal .startByte 0

/-- The text of bytes that are UTF-8 throughout, or the place and kind of the first flaw. -/
def decode? (bytes : List UInt8) : Except Fault (List Char) :=
  (Reader.decodeAll (read true) 0 bytes).map (·.1)

/-- The text of bytes, with U+FFFD in place of each illegal stretch. -/
def decodeReplacing (bytes : List UInt8) : List Char :=
  Reader.replaceAll (read true) bytes

/-- The decoder for packets. -/
def decoder : Decoder :=
  Decoder.ofReader (read false)

/-! ## Signed UTF-8 -/

/-- The signature that can stand before UTF-8. -/
def signature : List UInt8 := [0xEF, 0xBB, 0xBF]

/-- The state of a decoder that drops one signature: whether one is still looked for, and bytes. -/
structure SignedState where
  looking : Bool := true
  waiting : List UInt8 := []
deriving DecidableEq, Repr

/-- The characters of bytes after which no signature is looked for. -/
def decodeUnsigned (bytes : List UInt8) : Except Fault (List Char × SignedState) :=
  (Reader.decodeAll (read false) 0 bytes).map fun (text, waiting) =>
    (text, { looking := false, waiting })

/--
The decoder that drops a signature at the start.  Positions count from the end of the signature, and
a packet that is the beginning of one waits.
-/
def signedDecoder : Decoder where
  State := SignedState
  initial := {}
  reset _ := {}
  pending state := state.waiting
  decode state bytes :=
    let bytes := state.waiting ++ bytes
    Decoder.settle state
      (if state.looking then
        if signature.isPrefixOf bytes then decodeUnsigned (bytes.drop signature.length)
        else if bytes.isPrefixOf signature then .ok ([], { looking := true, waiting := bytes })
        else decodeUnsigned bytes
      else
        decodeUnsigned bytes)

/-! ## Writing -/

/-- The number of bytes that a character takes. -/
def charSize (char : Char) : Nat :=
  let code := char.toNat
  if code < 0x80 then 1 else if code < 0x800 then 2 else if code < 0x10000 then 3 else 4

/-- The number of bytes that a text takes. -/
def size (text : List Char) : Nat :=
  text.foldr (fun char count => charSize char + count) 0

/-- The bytes of a character. -/
def encodeChar (char : Char) : List UInt8 :=
  let code := char.toNat
  if code < 0x80 then
    [UInt8.ofNat code]
  else if code < 0x800 then
    [UInt8.ofNat (0xC0 + code / 0x40), UInt8.ofNat (0x80 + code % 0x40)]
  else if code < 0x10000 then
    [ UInt8.ofNat (0xE0 + code / 0x1000),
      UInt8.ofNat (0x80 + code / 0x40 % 0x40),
      UInt8.ofNat (0x80 + code % 0x40) ]
  else
    [ UInt8.ofNat (0xF0 + code / 0x40000),
      UInt8.ofNat (0x80 + code / 0x1000 % 0x40),
      UInt8.ofNat (0x80 + code / 0x40 % 0x40),
      UInt8.ofNat (0x80 + code % 0x40) ]

/-- The bytes of a text. -/
def encode (text : List Char) : List UInt8 :=
  text.flatMap encodeChar

/-- A character takes as many bytes as are counted for it. -/
theorem length_encodeChar (char : Char) : (encodeChar char).length = charSize char := by
  unfold encodeChar charSize
  dsimp only
  split
  · rfl
  · split
    · rfl
    · split <;> rfl

/-- A text takes as many bytes as are counted for it. -/
theorem length_encode (text : List Char) : (encode text).length = size text := by
  induction text with
  | nil => rfl
  | cons first rest hypothesis =>
      simp only [encode, size, List.flatMap_cons, List.length_append, List.foldr_cons]
        at hypothesis ⊢
      rw [length_encodeChar, hypothesis]

end TimedText.Encoding.Utf8
