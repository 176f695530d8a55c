import TimedText.Encoding.Chinese
import TimedText.Encoding.CodePage
import TimedText.Encoding.EscapeCodes
import TimedText.Encoding.Japanese
import TimedText.Encoding.Korean
import TimedText.Encoding.Utf8
import TimedText.Encoding.Wide

/-!
# Encodings

The ways in which the bytes of a subtitle can stand for its text.  Most encodings are read byte by
byte or sequence by sequence, without regard to what came before.  The others have a state that
outlasts a packet: a byte order learned from a mark, a signature that is still looked for, or the
character sets that escape sequences have called for.
-/

namespace TimedText

open Encoding in
/-- An encoding that packets can be decoded from. -/
inductive Encoding where
  | ascii
  | latin1
  | page (codePage : CodePage)
  | utf8
  | utf8Signed
  | wide (width : UnitWidth) (order : Option ByteOrder)
  | eucKr
  | cp949
  | eucJp
  | shiftJis
  | cp932
  | gb2312
  | gbk
  | gb18030
  | big5
  | big5Hkscs
  | escape (variant : EscapeVariant)
  | undefined
deriving DecidableEq, Repr

namespace Encoding

/-- An encoding in which a zero byte can be part of a character. -/
def isWide : Encoding → Bool
  | wide _ _ => true
  | _ => false

/-- The reader of an encoding that has no state. -/
def reader? : Encoding → Option Reader
  | ascii => some readAscii
  | latin1 => some readLatin1
  | page codePage => some codePage.read
  | utf8 => some (Utf8.read false)
  | wide width (some order) => some (Wide.read width order)
  | eucKr => some Korean.readEucKr
  | cp949 => some Korean.readCp949
  | eucJp => some Japanese.readEucJp
  | shiftJis => some Japanese.readShiftJis
  | cp932 => some Japanese.readCp932
  | gb2312 => some Chinese.readGb2312
  | gbk => some Chinese.readGbk
  | gb18030 => some Chinese.readGb18030
  | big5 => some Chinese.readBig5
  | big5Hkscs => some Chinese.readBig5Hkscs
  | utf8Signed => none
  | wide _ none => none
  | escape _ => none
  | undefined => none

/-- The decoder of an encoding. -/
def decoder (encoding : Encoding) : Decoder :=
  match encoding.reader? with
  | some reader => Decoder.ofReader reader
  | none =>
      match encoding with
      | utf8Signed => Utf8.signedDecoder
      | wide width _ => Wide.markedDecoder width
      | escape variant => EscapeCodes.decoder variant
      | _ => Decoder.none

/-- What a converter has to know about an encoding. -/
@[reducible]
def scheme (encoding : Encoding) : Scheme :=
  { decoder := encoding.decoder, isWide := encoding.isWide }

instance : Coe Encoding Scheme :=
  ⟨scheme⟩

end Encoding

end TimedText
