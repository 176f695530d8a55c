import TimedText.Encoding.Reader
import TimedText.Encoding.Grid.JisX0208
import TimedText.Encoding.Grid.JisX0212
import TimedText.Encoding.Grid.VendorKanji

/-!
# Japanese encodings

EUC-JP, Shift JIS and code page 932.  EUC-JP takes the places of JIS X 0208 as two bytes from A1
on and announces half-width kana and the supplementary set by a byte of their own.  Shift JIS
folds two rows into one first byte, so that half-width kana have single bytes.  Code page 932 adds
vendor rows, a region for private use, and reads six symbols of JIS X 0208 as their wide forms.
-/

namespace TimedText.Encoding.Japanese

/-- The half-width kana of a byte from A1 to DF. -/
def halfKana (byte : UInt8) : Char :=
  Char.ofNat (0xFEC0 + byte.toNat)

/-- A byte of a half-width kana. -/
def isHalfKana (byte : UInt8) : Bool :=
  0xA1 ≤ byte && byte ≤ 0xDF

/-- The outcome for a character that may be missing. -/
def readCell (further : Nat) : Option Char → Read
  | some char => .chars [char] further
  | none => .illegal .multibyteSequence 0

/-- The reader of EUC-JP. -/
def readEucJp : Reader := fun first rest =>
  if first < 0x80 then
    .chars [Char.ofNat first.toNat] 0
  else if first = 0x8F then
    match rest with
    | second :: third :: _ => readCell 2 (jisX0212Grid.cellFrom? 0xA1 second.toNat third.toNat)
    | _ => .incomplete
  else
    match rest with
    | [] => .incomplete
    | second :: _ =>
        if first = 0x8E then
          readCell 1 (if isHalfKana second then some (halfKana second) else none)
        else
          readCell 1 (jisX0208Grid.cellFrom? 0xA1 first.toNat second.toNat)

/-- The row and the place of two bytes of Shift JIS, counted from zero. -/
def shiftedPlace? (first second : UInt8) : Option (Nat × Nat) :=
  let second := second.toNat
  if 0x40 ≤ second ∧ second ≤ 0xFC ∧ second ≠ 0x7F then
    let pair := first.toNat - (if first < 0xE0 then 0x81 else 0xC1)
    let place := second - (if second < 0x80 then 0x40 else 0x41)
    some (2 * pair + place / 94, place % 94)
  else
    none

/-- A first byte of two in Shift JIS. -/
def isShiftedFirst (byte : UInt8) : Bool :=
  (0x81 ≤ byte && byte ≤ 0x9F) || (0xE0 ≤ byte && byte ≤ 0xEA)

/-- The reader of Shift JIS. -/
def readShiftJis : Reader := fun first rest =>
  if first < 0x80 then
    .chars [Char.ofNat first.toNat] 0
  else if isHalfKana first then
    .chars [halfKana first] 0
  else if isShiftedFirst first then
    match rest with
    | [] => .incomplete
    | second :: _ =>
        readCell 1
          ((shiftedPlace? first second).bind fun (row, place) => jisX0208Grid.cell? row place)
  else
    .illegal .multibyteSequence 0

/-! ## Code page 932 -/

/-- The vendor row that stands for a row, both counted from zero. -/
def vendorRow? (row : Nat) : Option Nat :=
  if row = 12 then some 0
  else if 88 ≤ row ∧ row ≤ 91 then some (row - 87)
  else if 114 ≤ row ∧ row ≤ 118 then some (row - 109)
  else none

/-- The wide form that code page 932 gives to a symbol. -/
def wideForm : Char → Char
  | '〜' => '～'
  | '‖' => '∥'
  | '−' => '－'
  | '¢' => '￠'
  | '£' => '￡'
  | '¬' => '￢'
  | char => char

/-- A character of code page 932 from its row and place. -/
def cp932Char? (row place : Nat) : Option Char :=
  match vendorRow? row with
  | some vendor => vendorKanjiGrid.cell? vendor place
  | none => (jisX0208Grid.cell? row place).map wideForm

/-- The single bytes beside ASCII and kana that code page 932 reads as characters. -/
def cp932Single? (byte : UInt8) : Option Char :=
  if byte = 0x80 then some '\u0080'
  else if byte = 0xA0 then some '\uF8F0'
  else if 0xFD ≤ byte then some (Char.ofNat (0xF8F1 + (byte.toNat - 0xFD)))
  else none

/-- The reader of code page 932. -/
def readCp932 : Reader := fun first rest =>
  if first < 0x80 then
    .chars [Char.ofNat first.toNat] 0
  else if isHalfKana first then
    .chars [halfKana first] 0
  else
    match cp932Single? first with
    | some char => .chars [char] 0
    | none =>
        match rest with
        | [] => .incomplete
        | second :: _ =>
            match shiftedPlace? first second with
            | none => .illegal .multibyteSequence 0
            | some (row, place) =>
                if 0xF0 ≤ first ∧ first ≤ 0xF9 then
                  .chars [Char.ofNat (0xE000 + (row - 94) * 94 + place)] 1
                else
                  readCell 1 (cp932Char? row place)

end TimedText.Encoding.Japanese
