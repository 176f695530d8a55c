import TimedText.Text.Numeral

/-!
# Moments

The time at which a record is made, on a calendar and a clock and to the second.
-/

namespace TimedText.Log

/-- A time on a calendar and a clock. -/
structure Moment where
  year : Nat := 1970
  month : Nat := 1
  day : Nat := 1
  hour : Nat := 0
  minute : Nat := 0
  second : Nat := 0
deriving DecidableEq, Repr

namespace Moment

/-- The characters of a moment, with a mark between the date and the time of day. -/
def text (moment : Moment) (mark : Char) : List Char :=
  Text.padded 4 moment.year ++ '-' :: Text.padded 2 moment.month ++ '-' :: Text.padded 2 moment.day
    ++ mark :: Text.padded 2 moment.hour ++ ':' :: Text.padded 2 moment.minute
    ++ ':' :: Text.padded 2 moment.second

/--
The moment so many seconds after the beginning of 1970.  Years are counted from March on, so that
the leap day is the last day of its year; four hundred of them have 146097 days.
-/
def ofSeconds (seconds : Nat) : Moment :=
  let days := seconds / 86400 + 719468
  let inCycle := days % 146097
  let yearInCycle := (inCycle - inCycle / 1460 + inCycle / 36524 - inCycle / 146096) / 365
  let inYear := inCycle - (365 * yearInCycle + yearInCycle / 4 - yearInCycle / 100)
  let monthFromMarch := (5 * inYear + 2) / 153
  let month := if monthFromMarch < 10 then monthFromMarch + 3 else monthFromMarch - 9
  let year := days / 146097 * 400 + yearInCycle
  { year := if month ≤ 2 then year + 1 else year,
    month,
    day := inYear - (153 * monthFromMarch + 2) / 5 + 1,
    hour := seconds / 3600 % 24,
    minute := seconds / 60 % 60,
    second := seconds % 60 }

example : ofSeconds 1714996800 = { year := 2024, month := 5, day := 6, hour := 12 } := by
  decide

end Moment

end TimedText.Log
