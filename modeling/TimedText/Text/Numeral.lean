import TimedText.Text.Blank
import TimedText.Text.Digit

/-!
# Numerals

Whole numbers as text: writing them in decimal and hexadecimal, and three ways of reading them.

* `leadingInteger` reads the number at the start of a longer text, as attribute values are read.
* `integer?` reads a text that is a number and nothing else, as settings of the environment and of
  the command line are read.
* `basicInteger?` reads the narrower form that a setting given as a quoted number may have.

A written number of more than `digitLimit` digits is refused, leading zeros counted.
-/

namespace TimedText.Text

/-! ## Writing -/

/-- The character of a digit below sixteen, with capital letters from ten on. -/
def digitChar (digit : Nat) : Char :=
  if digit < 10 then Char.ofNat (digit + 48) else Char.ofNat (digit + 55)

/-- A natural number in decimal, without leading zeros. -/
def decimal (value : Nat) : List Char :=
  if value < 10 then
    [digitChar value]
  else
    decimal (value / 10) ++ [digitChar (value % 10)]
termination_by value
decreasing_by omega

/-- A whole number in decimal, with a minus sign before a negative one. -/
def signedDecimal : Int → List Char
  | .ofNat value => decimal value
  | .negSucc value => '-' :: decimal (value + 1)

/-- A whole number in decimal, as a string. -/
def written (value : Int) : String :=
  String.ofList (signedDecimal value)

/-- A natural number in decimal, with zeros in front up to a least width. -/
def padded (width value : Nat) : List Char :=
  let digits := decimal value
  List.replicate (width - digits.length) '0' ++ digits

/-- The last `width` hexadecimal digits of a natural number. -/
def hexadecimal : (width value : Nat) → List Char
  | 0, _ => []
  | width + 1, value => hexadecimal width (value / 16) ++ [digitChar (value % 16)]

@[simp]
theorem length_hexadecimal (width value : Nat) :
    (hexadecimal width value).length = width := by
  induction width generalizing value with
  | zero => rfl
  | succ width hypothesis => simp [hexadecimal, hypothesis]

/-! ## Reading -/

/-- The most digits that a written number may have. -/
def digitLimit : Nat := 4300

/-- A number that has too many digits to be written. -/
def isTooLong (number : Int) : Bool :=
  Nat.pow 10 digitLimit ≤ number.natAbs

/-- The sign at the start of a text, true for a minus, and what follows it. -/
def splitSign : List Char → Bool × List Char
  | '-' :: rest => (true, rest)
  | '+' :: rest => (false, rest)
  | rest => (false, rest)

/-- The number with a sign and digits. -/
def signed (negative : Bool) (value : Nat) : Int :=
  if negative then -value else value

/-- The number of a row of digits, unless there are too many of them. -/
def limitedNumeral? (negative : Bool) (digits : List Char) : Option Int :=
  if digits.length ≤ digitLimit then some (signed negative (numeralValue digits)) else none

/--
The number at the start of a text, after white space and an optional sign, and zero where no digit
stands there.  Nothing is read if the number has too many digits.
-/
def leadingInteger (text : List Char) : Option Int :=
  let (negative, rest) := splitSign (trimStart text)
  limitedNumeral? negative (rest.takeWhile isDigit)

/-- White space that may stand around a number; the information separators are not among it. -/
def isNumeralBlank (char : Char) : Bool :=
  isBlank char && !(0x1C ≤ char.toNat && char.toNat ≤ 0x1F)

/-- The text without the white space that may stand around a number. -/
def trimNumeral (text : List Char) : List Char :=
  ((text.dropWhile isNumeralBlank).reverse.dropWhile isNumeralBlank).reverse

/--
The digits of a numeral in which single underscores may stand between digits.  A digit is due at the
start and after every underscore.
-/
def groupedDigits? (digit : Char → Bool) : List Char → Option (List Char)
  | [] => none
  | [char] => if digit char then some [char] else none
  | char :: '_' :: rest =>
      if digit char then (groupedDigits? digit rest).map (char :: ·) else none
  | char :: next :: rest =>
      if digit char then (groupedDigits? digit (next :: rest)).map (char :: ·) else none

/--
The number that a whole text stands for: an optional sign and decimal digits of any script, grouped
by single underscores or not, with white space around them.
-/
def integer? (text : List Char) : Option Int :=
  let (negative, rest) := splitSign (trimNumeral text)
  match groupedDigits? isDigit rest with
  | some digits => limitedNumeral? negative digits
  | none => none

/-- The text without a fraction that has no digit other than zero. -/
def dropZeroFraction (text : List Char) : List Char :=
  let fraction := text.dropWhile (· != '.')
  if fraction.drop 1 |>.all (· == '0') then text.takeWhile (· != '.') else text

/--
The number that a whole text stands for, in basic digits: an optional sign, digits, grouped by
single underscores or not, and an optional fraction of zeros, with white space around them.
-/
def basicInteger? (text : List Char) : Option Int :=
  let (negative, rest) := splitSign (trimNumeral text)
  match groupedDigits? Char.isDigit (dropZeroFraction rest) with
  | some digits => limitedNumeral? negative digits
  | none => none

end TimedText.Text
