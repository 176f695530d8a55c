import TimedText.Encoding.Reader

/-!
# UTF-16 and UTF-32

The encodings whose units are wider than a byte.  Their bytes stand in one of two orders.  Where the
order is fixed, a byte order mark is a character like any other.  Where it is not, the first unit of
a session has to be a mark, which fixes the order until a reset.

Without a mark the bytes are read in little-endian order, so that illegal bytes and an incomplete
unit are found, before it is said that the order is unknown.
-/

namespace TimedText.Encoding

/-- The order of the bytes of a unit. -/
inductive ByteOrder where
  | little
  | big
deriving DecidableEq, Repr

namespace ByteOrder

/-- The number that bytes make in an order. -/
def value : ByteOrder → List UInt8 → Nat
  | little, bytes => bytes.foldr (fun byte value => byte.toNat + 256 * value) 0
  | big, bytes => bytes.foldl (fun value byte => 256 * value + byte.toNat) 0

/-- The lowest bytes of a number, as many as asked for, the lowest of all first. -/
def lowBytes : (count value : Nat) → List UInt8
  | 0, _ => []
  | count + 1, value => UInt8.ofNat (value % 256) :: lowBytes count (value / 256)

/-- The bytes of a number in an order, as many as asked for. -/
def bytes (order : ByteOrder) (count value : Nat) : List UInt8 :=
  match order with
  | .little => lowBytes count value
  | .big => (lowBytes count value).reverse

end ByteOrder

/-- The width of the units of an encoding. -/
inductive UnitWidth where
  | two
  | four
deriving DecidableEq, Repr

namespace UnitWidth

/-- The number of bytes of a unit. -/
def byteCount : UnitWidth → Nat
  | two => 2
  | four => 4

end UnitWidth

namespace Wide

/-- A unit that is the first half of a pair. -/
def isHigh (unit : Nat) : Bool :=
  0xD800 ≤ unit && unit < 0xDC00

/-- A unit that is the second half of a pair. -/
def isLow (unit : Nat) : Bool :=
  0xDC00 ≤ unit && unit < 0xE000

/-- The character of a pair of units. -/
def pairChar (high low : Nat) : Char :=
  Char.ofNat (0x10000 + (high - 0xD800) * 0x400 + (low - 0xDC00))

/-- The reader of UTF-16 in an order. -/
def readUtf16 (order : ByteOrder) (first : UInt8) : List UInt8 → Read
  | [] => .incomplete
  | second :: rest =>
      let unit := order.value [first, second]
      if isHigh unit then
        match rest with
        | third :: fourth :: _ =>
            let low := order.value [third, fourth]
            if isLow low then .chars [pairChar unit low] 3 else .illegal .unpairedHigh 1
        | _ => .incomplete
      else if isLow unit then
        .illegal .unpairedLow 1
      else
        .chars [Char.ofNat unit] 1

/-- The reader of UTF-32 in an order. -/
def readUtf32 (order : ByteOrder) (first : UInt8) : List UInt8 → Read
  | second :: third :: fourth :: _ =>
      let code := order.value [first, second, third, fourth]
      if isHigh code || isLow code then .illegal .surrogateCode 3
      else if code < 0x110000 then .chars [Char.ofNat code] 3
      else .illegal .beyondUnicode 3
  | _ => .incomplete

/-- The reader for units of a width in an order. -/
def read (width : UnitWidth) (order : ByteOrder) : Reader :=
  match width with
  | .two => readUtf16 order
  | .four => readUtf32 order

/-- The bytes of a byte order mark. -/
def mark (width : UnitWidth) (order : ByteOrder) : List UInt8 :=
  order.bytes width.byteCount 0xFEFF

/-- The order of the mark at the start of bytes. -/
def markedOrder? (width : UnitWidth) (bytes : List UInt8) : Option ByteOrder :=
  if (mark width .little).isPrefixOf bytes then some .little
  else if (mark width .big).isPrefixOf bytes then some .big
  else none

/-- The state of a decoder that learns the byte order from a mark. -/
structure MarkedState where
  order : Option ByteOrder := none
  waiting : List UInt8 := []
deriving DecidableEq, Repr

/-- The characters of bytes in a known order, from a position on. -/
def decodeIn
    (width : UnitWidth)
    (order : ByteOrder)
    (position : Nat)
    (bytes : List UInt8) :
    Except Fault (List Char × MarkedState) :=
  ((read width order).decodeAll position bytes).map fun (text, waiting) =>
    (text, { order := some order, waiting })

/-- The characters of bytes while the order is unknown. -/
def decodeUnmarked
    (width : UnitWidth)
    (bytes : List UInt8) :
    Except Fault (List Char × MarkedState) :=
  match (read width .little).decodeAll 0 bytes with
  | .error fault => .error fault
  | .ok (_, waiting) =>
      if width.byteCount ≤ bytes.length - waiting.length then .error (.blocked .unknownOrder)
      else .ok ([], { order := none, waiting := bytes })

/-- The decoder for units of a width whose order a mark tells. -/
def markedDecoder (width : UnitWidth) : Decoder where
  State := MarkedState
  initial := {}
  reset _ := {}
  pending state := state.waiting
  decode state bytes :=
    let bytes := state.waiting ++ bytes
    Decoder.settle state
      (match state.order with
      | some order => decodeIn width order 0 bytes
      | none =>
          match markedOrder? width bytes with
          | some order => decodeIn width order width.byteCount (bytes.drop width.byteCount)
          | none => decodeUnmarked width bytes)

/-- The decoder for units of a width, in a fixed order or in one that a mark tells. -/
def decoder (width : UnitWidth) : Option ByteOrder → Decoder
  | some order => Decoder.ofReader (read width order)
  | none => markedDecoder width

/-- The bytes of a character in units of a width. -/
def encodeChar (width : UnitWidth) (order : ByteOrder) (char : Char) : List UInt8 :=
  match width with
  | .four => order.bytes 4 char.toNat
  | .two =>
      if char.toNat < 0x10000 then
        order.bytes 2 char.toNat
      else
        let offset := char.toNat - 0x10000
        order.bytes 2 (0xD800 + offset / 0x400) ++ order.bytes 2 (0xDC00 + offset % 0x400)

/-- The bytes of a text in units of a width. -/
def encode (width : UnitWidth) (order : ByteOrder) (text : List Char) : List UInt8 :=
  text.flatMap (encodeChar width order)

end Wide

end TimedText.Encoding
