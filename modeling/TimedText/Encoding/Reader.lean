/-!
# Reading characters from bytes

An encoding without shift states is a reader: it looks at the first byte that is left and at those
after it, and says which characters they make and how many bytes that takes, that the bytes end too
early, or that they are illegal.

Two loops go over a packet with a reader.  `decodeAll` stops at illegal bytes and hands back bytes
that wait for more.  `replaceAll` goes on and puts U+FFFD in place of each illegal stretch.
-/

namespace TimedText.Encoding

/-- Why bytes are illegal. -/
inductive Reason where
  | startByte
  | continuationByte
  | endOfData
  | unpairedLow
  | unpairedHigh
  | beyondUnicode
  | surrogateCode
  | beyondAscii
  | undefinedByte
  | multibyteSequence
deriving DecidableEq, Repr

namespace Reason

/-- The words for a reason. -/
def message : Reason → String
  | startByte => "invalid start byte"
  | continuationByte => "invalid continuation byte"
  | endOfData => "unexpected end of data"
  | unpairedLow => "illegal encoding"
  | unpairedHigh => "illegal UTF-16 surrogate"
  | beyondUnicode => "code point not in range(0x110000)"
  | surrogateCode => "code point in surrogate code point range(0xd800, 0xe000)"
  | beyondAscii => "ordinal not in range(128)"
  | undefinedByte => "character maps to <undefined>"
  | multibyteSequence => "illegal multibyte sequence"

end Reason

/--
What keeps a decoder from saying whether bytes are legal: their order is unknown, their encoding is
none, too many of them wait for more, or they call for a character set that cannot be used in their
place.
-/
inductive Obstacle where
  | unknownOrder
  | noEncoding
  | backlog
  | unusableSet
deriving DecidableEq, Repr

/--
Why a packet cannot be decoded: bytes are illegal at a position, or an obstacle is in the way.
-/
inductive Fault where
  | illegal (position : Nat) (reason : Reason)
  | blocked (obstacle : Obstacle)
deriving DecidableEq, Repr

/-- What a reader makes of a first byte and the bytes after it. -/
inductive Read where
  /-- Characters, which take so many bytes after the first. -/
  | chars (text : List Char) (further : Nat)
  /-- A beginning, which needs bytes that are not there yet. -/
  | incomplete
  /-- Illegal bytes: the first and so many after it. -/
  | illegal (reason : Reason) (further : Nat)
deriving DecidableEq, Repr

/-- A way to read characters from a first byte and the bytes after it. -/
abbrev Reader := UInt8 → List UInt8 → Read

namespace Reader

/--
The characters of bytes whose first stands at a position, and the bytes at the end that wait for
more.
-/
def decodeAll
    (reader : Reader)
    (position : Nat) :
    List UInt8 → Except Fault (List Char × List UInt8)
  | [] => .ok ([], [])
  | first :: rest =>
      match reader first rest with
      | .chars text further =>
          match decodeAll reader (position + further + 1) (rest.drop further) with
          | .ok (others, waiting) => .ok (text ++ others, waiting)
          | .error fault => .error fault
      | .incomplete => .ok ([], first :: rest)
      | .illegal reason _ => .error (.illegal position reason)
termination_by bytes => bytes.length
decreasing_by
  simp only [List.length_drop, List.length_cons]
  omega

/-- The characters of bytes, with U+FFFD in place of illegal bytes and of an incomplete end. -/
def replaceAll (reader : Reader) : List UInt8 → List Char
  | [] => []
  | first :: rest =>
      match reader first rest with
      | .chars text further => text ++ replaceAll reader (rest.drop further)
      | .incomplete => ['\uFFFD']
      | .illegal _ further => '\uFFFD' :: replaceAll reader (rest.drop further)
termination_by bytes => bytes.length
decreasing_by
  all_goals
    simp only [List.length_drop, List.length_cons]
    omega

end Reader

/--
A decoder that is fed packet by packet.  Its state may hold bytes that wait for more, and a packet
that cannot be decoded leaves a state too.  A reset gives up the waiting bytes and goes back to a
start; which parts of the state survive is the decoder's affair.
-/
structure Decoder where
  State : Type
  initial : State
  reset : State → State
  pending : State → List UInt8
  decode : State → List UInt8 → Except Fault (List Char) × State

namespace Decoder

/-- The answer of a decoder whose state changes only if the packet can be decoded. -/
def settle
    {State : Type}
    (before : State) :
    Except Fault (List Char × State) → Except Fault (List Char) × State
  | .ok (text, after) => (.ok text, after)
  | .error fault => (.error fault, before)

/-- The decoder of an encoding without shift states: it holds waiting bytes and nothing else. -/
def ofReader (reader : Reader) : Decoder where
  State := List UInt8
  initial := []
  reset _ := []
  pending waiting := waiting
  decode waiting bytes := settle waiting (reader.decodeAll 0 (waiting ++ bytes))

/-- The decoder that decodes nothing. -/
def none : Decoder where
  State := Unit
  initial := ()
  reset _ := ()
  pending _ := []
  decode _ _ := (.error (.blocked .noEncoding), ())

end Decoder

/--
What a converter has to know about an encoding: its decoder, and whether a zero byte can be part of
a character.
-/
structure Scheme where
  decoder : Decoder
  isWide : Bool := false

end TimedText.Encoding
