import TimedText.Encoding.Name
import TimedText.Text.Numeral

/-!
# Converters

A converter turns the packets of one session into text.  In direct mode packets are taken for
UTF-8, and illegal bytes are replaced and reported.  In convert mode a decoder keeps its state
from packet to packet, and a packet that does not fit its encoding fails as a whole: it yields no
text and the decoder is reset.  A packet also fails if it leaves bytes waiting, or if its text
grows beyond a limit.

While detection is on, a packet that is UTF-8 passes as it is, without touching the decoder.  The
first packet that is not UTF-8 ends detection for good.

A zero byte ends a packet, unless zero bytes can be part of a character.

The decoder is any one at all: a converter only feeds it, asks it for the bytes that wait, and resets
it.
-/

namespace TimedText

open Encoding (Catalogue Decoder NameFault Obstacle Reason Scheme)

/-- The way in which a converter reads packets. -/
inductive Channel where
  | direct
  | decoding (scheme : Scheme) (state : scheme.decoder.State)

/-- A converter: the name that it was opened with, its channel, and two switches. -/
structure Converter where
  name : String
  channel : Channel
  detecting : Bool := false
  closed : Bool := false

namespace Converter

/-! ## Failures -/

/-- Why a packet failed. -/
inductive Failure where
  | invalid (position : Nat) (reason : Reason)
  | incomplete (count : Nat)
  | exhausted (size limit : Int)
deriving DecidableEq, Repr

namespace Failure

/-- The word for the kind of a failure. -/
def kind : Failure → String
  | invalid _ _ => "invalid_sequence"
  | incomplete _ => "incomplete_sequence"
  | exhausted _ _ => "output_exhausted"

/-- What went wrong with a packet. -/
def detail : Failure → String
  | invalid position reason =>
      "위치 " ++ Text.written position ++ "에서 " ++ reason.message
  | incomplete count =>
      "패킷 끝에 불완전한 시퀀스 " ++ Text.written count ++ "바이트"
  | exhausted size limit =>
      "출력 " ++ Text.written size ++ "바이트가 한도 " ++ Text.written limit ++ "바이트 초과"

/-- The report on a packet that failed under an encoding of the given name. -/
def message (name : String) (failure : Failure) : String :=
  name ++ " 변환 실패: " ++ failure.detail

end Failure

/-- Why no text comes of a packet. -/
inductive Error where
  | failed (failure : Failure)
  | closed
  | blocked (obstacle : Obstacle)
deriving DecidableEq, Repr

/-- The report on a packet given to a closed converter. -/
def closedMessage (name : String) : String :=
  "닫힌 변환기입니다: " ++ name

/-- Illegal bytes that were replaced: the position of the first of them, and the reason. -/
structure Flaw where
  position : Nat
  reason : Reason
deriving DecidableEq, Repr

namespace Flaw

/-- The report on illegal bytes that were replaced. -/
def message (flaw : Flaw) : String :=
  "자막 인코딩 변환 실패 (UTF-8 위치 " ++ Text.written flaw.position ++ ": " ++ flaw.reason.message
    ++ "). 유효하지 않은 바이트를 치환하여 표시합니다. 파일을 열기 전에 문자 인코딩을 직접 지정해 보세요."

end Flaw

/-- What comes of a packet: text or an error, a flaw to report, and the converter after it. -/
structure Step where
  result : Except Error (List Char)
  flaw : Option Flaw := none
  after : Converter

/-! ## Opening and closing -/

/-- The name of a converter in direct mode. -/
def directName : String := "UTF-8"

/-- A converter in direct mode. -/
def direct : Converter :=
  { name := directName, channel := .direct }

/-- A converter in convert mode. -/
def decoding (name : String) (scheme : Scheme) (detecting : Bool) : Converter :=
  { name, channel := .decoding scheme scheme.decoder.initial, detecting }

/-- A converter for the encoding of a name, in convert mode even if the name is that of UTF-8. -/
def open?
    (name : String)
    (detecting : Bool)
    (catalogue : Catalogue := Encoding.catalogue) :
    Except NameFault Converter :=
  (catalogue name).map fun scheme => decoding name scheme detecting

/-- A converter in direct mode. -/
def isDirect (converter : Converter) : Bool :=
  match converter.channel with
  | .direct => true
  | .decoding _ _ => false

/-- The word for the mode of a converter. -/
def modeName (converter : Converter) : String :=
  if converter.isDirect then "utf8_direct" else "convert"

/-- The converter after it is closed, which can be done more than once. -/
def close (converter : Converter) : Converter :=
  { converter with closed := true }

/-! ## Converting -/

/-- The bytes before the first zero byte. -/
def untilZero (bytes : List UInt8) : List UInt8 :=
  bytes.takeWhile (· != 0)

/-- A converter whose packets do not end at a zero byte. -/
def isWide (converter : Converter) : Bool :=
  match converter.channel with
  | .direct => false
  | .decoding scheme _ => scheme.isWide

/-- The part of a packet that a converter looks at. -/
def relevant (converter : Converter) (packet : List UInt8) : List UInt8 :=
  if converter.isWide then packet else untilZero packet

/-- The most bytes of text that may come of one byte. -/
def expansionLimit : Int := 6

/-- The text of a packet in direct mode, and the first flaw in it. -/
def readDirect (packet : List UInt8) : List Char × Option Flaw :=
  match Encoding.Utf8.decode? packet with
  | .ok text => (text, none)
  | .error (.illegal position reason) =>
      (Encoding.Utf8.decodeReplacing packet, some { position, reason })
  | .error (.blocked _) => (Encoding.Utf8.decodeReplacing packet, none)

/--
What a decoder makes of a packet: text or an error, and the state after it.  Every failure resets
the state, an obstacle does not.
-/
def transform
    (factor : Int)
    (decoder : Decoder)
    (state : decoder.State)
    (packet : List UInt8) :
    Except Error (List Char) × decoder.State :=
  match decoder.decode state packet with
  | (.error (.blocked obstacle), after) => (.error (.blocked obstacle), after)
  | (.error (.illegal position reason), after) =>
      (.error (.failed (.invalid position reason)), decoder.reset after)
  | (.ok text, after) =>
      let waiting := decoder.pending after
      let size : Int := Encoding.Utf8.size text
      let limit := factor * packet.length
      if waiting ≠ [] then
        (.error (.failed (.incomplete waiting.length)), decoder.reset after)
      else if limit < size then
        (.error (.failed (.exhausted size limit)), decoder.reset after)
      else
        (.ok text, after)

/-- The text that passes as it is while detection is on. -/
def detected? (detecting : Bool) (packet : List UInt8) : Option (List Char) :=
  if detecting then (Encoding.Utf8.decode? packet).toOption else none

/-- What comes of a packet if so many bytes of text may come of one byte. -/
def convertWithin (factor : Int) (converter : Converter) (packet : List UInt8) : Step :=
  if converter.closed then
    { result := .error .closed, after := converter }
  else
    let packet := converter.relevant packet
    match converter.channel with
    | .direct =>
        let (text, flaw) := readDirect packet
        { result := .ok text, flaw, after := converter }
    | .decoding scheme state =>
        match detected? converter.detecting packet with
        | some text => { result := .ok text, after := converter }
        | none =>
            let (result, state) := transform factor scheme.decoder state packet
            { result,
              after := { converter with channel := .decoding scheme state, detecting := false } }

/-- What comes of a packet. -/
def convert (converter : Converter) (packet : List UInt8) : Step :=
  converter.convertWithin expansionLimit packet

end Converter

end TimedText
