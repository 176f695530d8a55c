import TimedText.Charset
import TimedText.Log.Level
import TimedText.Settings
import TimedText.Subtitle

/-!
# Sessions

A session decodes the packets of one stream.  It chooses the encoding and opens a converter once,
at its start.  Each packet is then checked, converted and parsed, and becomes a subtitle or is
dropped; a dropped packet is reported and counted, and does not disturb the packets after it.

New settings for the place and the styling take effect with the next packet.  New settings for the
encoding do not touch an open session.
-/

namespace TimedText

open Encoding (Catalogue NameFault Obstacle)

/-- The kind of a stream of subtitles. -/
inductive Codec where
  | subt
  | realTimeText
deriving DecidableEq, Repr

namespace Codec

/-- The word for a kind of stream. -/
def name : Codec → String
  | subt => "subt"
  | realTimeText => "itu-t140"

/-- The kinds of streams. -/
def all : List Codec := [subt, realTimeText]

/-- The kind of stream of a word. -/
def ofName? (name : String) : Option Codec :=
  all.find? fun codec => codec.name == name

/-- The report on a word for no kind of stream. -/
def unknownMessage (name : String) : String :=
  "지원하지 않는 자막 코덱입니다: " ++ name

/-- A kind of stream that is UTF-8 by definition. -/
def isUtf8 (codec : Codec) : Bool :=
  codec == realTimeText

end Codec

/-- A packet: its bytes, its start if it has one, its length, and two marks of damage. -/
structure Packet where
  data : List UInt8
  start : Option Int
  length : Int := 0
  discontinuity : Bool := false
  corrupted : Bool := false
deriving DecidableEq, Repr

/-- What has become of the packets of a session. -/
structure Tally where
  decoded : Nat := 0
  dropped : Nat := 0
  conversionFailures : Nat := 0
  parseFailures : Nat := 0
deriving DecidableEq, Repr

/-- Something that a session reports. -/
inductive Notice where
  | refused (refusal : Charset.Refusal)
  | repaired (flaw : Converter.Flaw)
  | untimed
  | noData
  | unconverted (name : String) (failure : Converter.Failure)
  | unparsed (length : Nat)
  | encodingKept
deriving DecidableEq, Repr

namespace Notice

/-- How serious a report is. -/
def level : Notice → Log.Level
  | refused _ => .error
  | repaired _ => .error
  | untimed => .warning
  | noData => .warning
  | unconverted _ _ => .error
  | unparsed _ => .error
  | encodingKept => .warning

/-- The words of a report. -/
def message : Notice → String
  | refused refusal => refusal.message
  | repaired flaw => flaw.message
  | untimed => "표시 시각이 없는 자막입니다"
  | noData => "자막 데이터가 없습니다"
  | unconverted name failure =>
      "자막 인코딩 변환 실패 (" ++ failure.kind ++ "): " ++ failure.message name
        ++ ". 파일을 열기 전에 문자 인코딩을 직접 지정해 보세요."
  | unparsed length => "자막 파싱 실패: " ++ Markup.Failure.outOfMemoryMessage length
  | encodingKept => "인코딩 설정 변경은 새 디코더 세션부터 적용됩니다"

end Notice

/-- A session with its settings, its converter, its colours and its tally. -/
structure Session where
  codec : Codec
  settings : DecoderSettings
  converter : Converter
  lookup : Color.Lookup
  tally : Tally := {}

namespace Session

/-- What stops a packet without dropping it. -/
inductive Error where
  | closed
  | blocked (obstacle : Obstacle)
  | numeralTooLong
deriving DecidableEq, Repr

/-- What comes of a packet: a subtitle, nothing or an error; reports; and the session after it. -/
structure Step where
  result : Except Error (Option Subtitle)
  notices : List Notice := []
  after : Session

/-! ## Opening, configuring and closing -/

/-- The session for a stream, and what it reports at its start. -/
def open?
    (settings : DecoderSettings)
    (codec : Codec)
    (declaration : Option String)
    (lookup : Color.Lookup)
    (platform : String)
    (catalogue : Catalogue := Encoding.catalogue) :
    Except NameFault (Session × List Notice) :=
  let charset := Charset.choose settings.preferences platform declaration codec.isUtf8
  match charset.converter catalogue with
  | .ok (converter, refusal) =>
      .ok ({ codec, settings, converter, lookup }, refusal.toList.map .refused)
  | .error fault => .error fault

/-- Settings that differ in what they say about the encoding. -/
def encodingChanged (old new : DecoderSettings) : Bool :=
  new.preferences != old.preferences

/-- The session with new settings, and what it reports about them. -/
def configure (session : Session) (settings : DecoderSettings) : Session × List Notice :=
  ( { session with settings },
    if encodingChanged session.settings settings then [.encodingKept] else [] )

/-- The session after it is closed. -/
def close (session : Session) : Session :=
  { session with converter := session.converter.close }

/-! ## Decoding -/

/-- The session with one more dropped packet. -/
def drop (session : Session) : Session :=
  { session with tally := { session.tally with dropped := session.tally.dropped + 1 } }

/-- The segments that a session shows: styled ones, or all text in one plain segment. -/
def styled (settings : DecoderSettings) (outcome : Markup.Outcome) : List Segment :=
  if settings.formatted then outcome.segments else [{ text := outcome.text }]

/-- The session with one more decoded packet. -/
def countDecoded (session : Session) : Session :=
  { session with tally := { session.tally with decoded := session.tally.decoded + 1 } }

/-- The session with one more packet that failed to convert. -/
def countConversionFailure (session : Session) : Session :=
  { session with
    tally := { session.tally with conversionFailures := session.tally.conversionFailures + 1 } }

/-- The session with one more packet that failed to parse. -/
def countParseFailure (session : Session) : Session :=
  { session with
    tally := { session.tally with parseFailures := session.tally.parseFailures + 1 } }

/-- What comes of a packet's text. -/
def present (session : Session) (packet : Packet) (start : Int) (text : List Char) : Step :=
  match Markup.parse session.lookup session.settings.defaultAlign text with
  | .ok outcome =>
      { result :=
          .ok (some (.timed start packet.length outcome.align (styled session.settings outcome))),
        after := session.countDecoded }
  | .error .outOfMemory =>
      { result := .ok none,
        notices := [.unparsed (Markup.untilNul text).length],
        after := session.countParseFailure.drop }
  | .error .numeralTooLong => { result := .error .numeralTooLong, after := session }

/-- What comes of a packet that has passed the checks. -/
def convertAndShow (session : Session) (packet : Packet) (start : Int) : Step :=
  let step := session.converter.convert packet.data
  let session := { session with converter := step.after }
  let repairs := step.flaw.toList.map Notice.repaired
  match step.result with
  | .ok text =>
      let shown := session.present packet start text
      { shown with notices := repairs ++ shown.notices }
  | .error (.failed failure) =>
      { result := .ok none,
        notices := repairs ++ [.unconverted session.converter.name failure],
        after := session.countConversionFailure.drop }
  | .error .closed => { result := .error .closed, notices := repairs, after := session }
  | .error (.blocked obstacle) =>
      { result := .error (.blocked obstacle), notices := repairs, after := session }

/-- The start of a packet that is shown at some time. -/
def properStart? (packet : Packet) : Option Int :=
  match packet.start with
  | some start => if 0 < start then some start else none
  | none => none

/-- What comes of a packet. -/
def decode (session : Session) (packet : Packet) : Step :=
  if packet.discontinuity || packet.corrupted then
    { result := .ok none, after := session.drop }
  else
    match properStart? packet with
    | none => { result := .ok none, notices := [.untimed], after := session.drop }
    | some start =>
        if packet.data.isEmpty then
          { result := .ok none, notices := [.noData], after := session.drop }
        else
          session.convertAndShow packet start

end Session

end TimedText
