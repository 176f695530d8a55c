import TimedText.Binary64
import TimedText.Text.Numeral

/-!
# Numbers in a YAML text

Whole numbers are written in decimal, in octal after a zero, in binary after `0b`, in hexadecimal
after `0x`, or to the base sixty with colons between the digits.  Numbers with a fraction have a
full stop; an exponent needs a sign.  Underscores may stand between digits.

For each kind there is a test that decides whether a plain scalar is such a number, and a reading
that also serves scalars that are tagged as one.
-/

namespace TimedText.Yaml.Number

/-! ## Tests -/

/-- A digit or an underscore. -/
def isGrouped (char : Char) : Bool :=
  char.isDigit || char == '_'

/-- A digit, and then digits and underscores. -/
def isGroupedRun (text : List Char) : Bool :=
  (text.headD ' ').isDigit && text.all isGrouped

/-- The text without a sign at its start. -/
def unsigned (text : List Char) : List Char :=
  (Text.splitSign text).2

/-- The parts of a text between colons. -/
def splitColons : List Char → List (List Char)
  | [] => [[]]
  | ':' :: rest => [] :: splitColons rest
  | char :: rest =>
      match splitColons rest with
      | first :: others => (char :: first) :: others
      | [] => [[char]]

/-- A digit to the base sixty. -/
def isSixtieth : List Char → Bool
  | [digit] => digit.isDigit
  | [tens, digit] => '0' ≤ tens && tens ≤ '5' && digit.isDigit
  | _ => false

/-- A whole number as a plain scalar writes it. -/
def isInteger (text : List Char) : Bool :=
  match unsigned text with
  | ['0'] => true
  | '0' :: 'b' :: digits => !digits.isEmpty && digits.all fun c => c == '0' || c == '1' || c == '_'
  | '0' :: 'x' :: digits =>
      !digits.isEmpty && digits.all fun c =>
        c.isDigit || c == '_' || ('a' ≤ c && c ≤ 'f') || ('A' ≤ c && c ≤ 'F')
  | '0' :: digits => digits.all fun c => ('0' ≤ c && c ≤ '7') || c == '_'
  | digits =>
      match splitColons digits with
      | first :: others => isGroupedRun first && others.all isSixtieth
      | [] => false

/-- Nothing, or an exponent with its sign. -/
def isExponent : List Char → Bool
  | [] => true
  | letter :: sign :: digits =>
      (letter == 'e' || letter == 'E') && (sign == '-' || sign == '+') && !digits.isEmpty
        && digits.all Char.isDigit
  | _ => false

/-- A number with a fraction as a plain scalar writes it. -/
def isReal (text : List Char) : Bool :=
  let bare := unsigned text
  let whole := bare.takeWhile (· != '.')
  match bare.dropWhile (· != '.') with
  | '.' :: fraction =>
      let rest := fraction.dropWhile isGrouped
      if whole.isEmpty then
        ([".inf", ".Inf", ".INF"].map String.toList).contains bare
          || ([".nan", ".NaN", ".NAN"].map String.toList).contains text
          || (bare == text && (fraction.headD ' ').isDigit && isExponent rest)
      else
        match splitColons whole with
        | [first] => isGroupedRun first && isExponent rest
        | first :: others => isGroupedRun first && others.all isSixtieth && rest.isEmpty
        | [] => false
  | _ => false

/-! ## Readings -/

/-- The text without underscores. -/
def ungrouped (text : List Char) : List Char :=
  text.filter (· != '_')

/-- The value of a digit below sixteen. -/
def digitValue? (char : Char) : Option Nat :=
  if '0' ≤ char ∧ char ≤ '9' then some (char.toNat - 48)
  else if 'a' ≤ char ∧ char ≤ 'f' then some (char.toNat - 87)
  else if 'A' ≤ char ∧ char ≤ 'F' then some (char.toNat - 55)
  else none

/-- The number of digits to a base; there has to be one at least. -/
def inBase? (base : Nat) (text : List Char) : Option Nat :=
  if text.isEmpty then none
  else
    text.foldl
      (fun value char =>
        match value, digitValue? char with
        | some value, some digit => if digit < base then some (value * base + digit) else none
        | _, _ => none)
      (some 0)

/-- The number of digits to the base sixty, each of them a decimal number. -/
def inSixties? (parts : List (List Char)) : Option Int :=
  parts.foldl
    (fun value part =>
      match value, Text.integer? part with
      | some value, some digit => some (value * 60 + digit)
      | _, _ => none)
    (some 0)

/-- The octal digits of a number, which may have `0o` before them. -/
def octalDigits : List Char → List Char
  | '0' :: 'o' :: digits => digits
  | '0' :: 'O' :: digits => digits
  | digits => digits

/-- The whole number of a scalar. -/
def integer? (text : List Char) : Option Int :=
  let plain := ungrouped text
  let (negative, bare) := Text.splitSign plain
  let value : Option Int :=
    match bare with
    | [] => none
    | ['0'] => some 0
    | '0' :: 'b' :: digits => (inBase? 2 digits).map Int.ofNat
    | '0' :: 'x' :: digits => (inBase? 16 digits).map Int.ofNat
    | '0' :: digits => (inBase? 8 (octalDigits ('0' :: digits))).map Int.ofNat
    | digits =>
        if digits.contains ':' then inSixties? (splitColons digits) else Text.integer? digits
  value.map fun value => if negative then -value else value

/-- A decimal number: its digits as a whole number, and the power of ten that they are to take. -/
structure Decimal where
  digits : Int
  exponent : Int
deriving DecidableEq, Repr

/-- The exponent of a decimal number. -/
def exponent? : List Char → Option Int
  | [] => some 0
  | letter :: rest =>
      let (negative, digits) := Text.splitSign rest
      if letter = 'e' ∧ !digits.isEmpty ∧ digits.all Char.isDigit then
        some (Text.signed negative (Text.numeralValue digits))
      else
        none

/-- The decimal number of a text in lower case. -/
def decimal? (text : List Char) : Option Decimal :=
  let (negative, bare) := Text.splitSign (Text.trim text)
  let whole := bare.takeWhile Char.isDigit
  let rest := bare.dropWhile Char.isDigit
  let fraction := if rest.head? = some '.' then rest.tail.takeWhile Char.isDigit else []
  let rest := if rest.head? = some '.' then rest.tail.dropWhile Char.isDigit else rest
  if whole.isEmpty && fraction.isEmpty then none
  else
    (exponent? rest).map fun exponent =>
      { digits := Text.signed negative (Text.numeralValue (whole ++ fraction)),
        exponent := exponent - fraction.length }

/-- The decimal number times sixty and another one added. -/
def Decimal.appendSixtieth (value next : Decimal) : Decimal :=
  let least := min value.exponent next.exponent
  { digits :=
      value.digits * 60 * Int.pow 10 (value.exponent - least).toNat
        + next.digits * Int.pow 10 (next.exponent - least).toNat,
    exponent := least }

/-- The decimal number of digits to the base sixty. -/
def sixties? (parts : List (List Char)) : Option Decimal :=
  parts.foldl
    (fun value part =>
      match value, decimal? part with
      | some value, some next => some (value.appendSixtieth next)
      | _, _ => none)
    (some { digits := 0, exponent := 0 })

/--
The words for infinity and for no number, which may stand where a number with a fraction does.
-/
def wordReal? (negative : Bool) (text : List Char) : Option Binary64 :=
  if text = ".inf".toList ∨ text = "inf".toList ∨ text = "infinity".toList then
    some (.infinite negative)
  else if text = ".nan".toList ∨ text = "nan".toList then
    some .notANumber
  else
    none

/-- The number with a fraction of a scalar. -/
def real? (text : List Char) : Option Binary64 :=
  let plain := (ungrouped text).map Char.toLower
  let (negative, bare) := Text.splitSign plain
  let decimal := if bare.contains ':' then sixties? (splitColons bare) else decimal? bare
  match wordReal? negative bare, decimal with
  | some value, _ => some value
  | none, some decimal =>
      some
        (Binary64.ofDecimal (if negative then -decimal.digits else decimal.digits)
          decimal.exponent)
  | none, none => none

end TimedText.Yaml.Number
