import TimedText.Text.Numeral

/-!
# Dates and times in a YAML text

A date is a year, a month and a day; a time of day and a time zone may follow it.  A plain scalar
is a date only if month and day have two digits, or if a time follows.  A date that no calendar
has is an error, and not a text.
-/

namespace TimedText.Yaml

/--
A date with or without a time of day; the zone is the minutes that it is away from the main one.
-/
structure Moment where
  year : Nat
  month : Nat
  day : Nat
  time : Option (Nat × Nat × Nat) := none
  zone : Int := 0
  full : Bool
deriving DecidableEq, Repr

namespace Moment

/-- The number of at least one and at most two digits, or of exactly so many. -/
def digits? (least most : Nat) (text : List Char) : Option (Nat × Nat × List Char) :=
  let digits := (text.take most).takeWhile Char.isDigit
  if digits.length < least then none
  else some (Text.numeralValue digits, digits.length, text.drop digits.length)

/-- What follows a character. -/
def after? (char : Char) : List Char → Option (List Char)
  | first :: rest => if first = char then some rest else none
  | [] => none

/-- The zone at the end of a text. -/
def zone? (text : List Char) : Option Int :=
  match text.dropWhile fun char => char == ' ' || char == '\t' with
  | [] => if text.isEmpty then some 0 else none
  | ['Z'] => some 0
  | sign :: rest =>
      if sign = '+' ∨ sign = '-' then
        (digits? 1 2 rest).bind fun (hours, _, rest) =>
          let offset : Option Nat :=
            match rest with
            | [] => some (hours * 60)
            | ':' :: rest =>
                (digits? 2 2 rest).bind fun (minutes, _, rest) =>
                  if rest.isEmpty then some (hours * 60 + minutes) else none
            | _ => none
          offset.map fun offset => Text.signed (sign == '-') offset
      else
        none

/-- The time of day after a date, the separator being still there. -/
def time? (text : List Char) : Option ((Nat × Nat × Nat) × Int) :=
  let start : Option (List Char) :=
    match text with
    | 'T' :: rest => some rest
    | 't' :: rest => some rest
    | ' ' :: rest => some (rest.dropWhile fun char => char == ' ' || char == '\t')
    | '\t' :: rest => some (rest.dropWhile fun char => char == ' ' || char == '\t')
    | _ => none
  start.bind fun rest =>
    (digits? 1 2 rest).bind fun (hour, _, rest) =>
      (after? ':' rest).bind fun rest =>
        (digits? 2 2 rest).bind fun (minute, _, rest) =>
          (after? ':' rest).bind fun rest =>
            (digits? 2 2 rest).bind fun (second, _, rest) =>
              let rest := if rest.head? = some '.' then rest.tail.dropWhile Char.isDigit else rest
              (zone? rest).map fun zone => ((hour, minute, second), zone)

/-- The date that a text is, with the time after it. -/
def ofText? (text : List Char) : Option Moment :=
  (digits? 4 4 text).bind fun (year, _, rest) =>
    (after? '-' rest).bind fun rest =>
      (digits? 1 2 rest).bind fun (month, monthWidth, rest) =>
        (after? '-' rest).bind fun rest =>
          (digits? 1 2 rest).bind fun (day, dayWidth, rest) =>
            let full := monthWidth == 2 && dayWidth == 2
            if rest.isEmpty then some { year, month, day, full }
            else
              (time? rest).map fun (time, zone) =>
                { year, month, day, time := some time, zone, full }

/-- A date that a plain scalar is. -/
def isPlain (text : List Char) : Bool :=
  match ofText? text with
  | some moment => moment.full || moment.time.isSome
  | none => false

/-- A year with a day more. -/
def isLeap (year : Nat) : Bool :=
  year % 4 == 0 && (year % 100 != 0 || year % 400 == 0)

/-- The number of days of a month. -/
def monthLength (year month : Nat) : Nat :=
  if month = 2 then (if isLeap year then 29 else 28)
  else if month = 4 ∨ month = 6 ∨ month = 9 ∨ month = 11 then 30
  else 31

/-- A date that the calendar has, with a time that the day has. -/
def isProper (moment : Moment) : Bool :=
  let date :=
    1 ≤ moment.year && 1 ≤ moment.month && moment.month ≤ 12 && 1 ≤ moment.day
      && moment.day ≤ monthLength moment.year moment.month
  match moment.time with
  | none => date
  | some (hour, minute, second) =>
      date && hour < 24 && minute < 60 && second < 60 && moment.zone.natAbs < 24 * 60

end Moment

end TimedText.Yaml
