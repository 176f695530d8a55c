import TimedText.Text.Numeral

/-!
# Timestamps

A time in microseconds is shown in hours, minutes, seconds and thousandths, cut off below the
thousandth.  Hours have at least two digits, and times before zero are shown as zero.
-/

namespace TimedText

/-- A time of day and beyond, to the thousandth of a second. -/
structure Timestamp where
  hours : Nat
  minutes : Nat
  seconds : Nat
  thousandths : Nat
deriving DecidableEq, Repr

namespace Timestamp

/-- The timestamp of a number of thousandths. -/
def ofThousandths (count : Nat) : Timestamp :=
  { hours := count / 1000 / 60 / 60,
    minutes := count / 1000 / 60 % 60,
    seconds := count / 1000 % 60,
    thousandths := count % 1000 }

/-- The thousandths that have passed by a time in microseconds, none before zero. -/
def elapsed (micros : Int) : Nat :=
  micros.toNat / 1000

/-- The timestamp of a time in microseconds. -/
def ofMicros (micros : Int) : Timestamp :=
  ofThousandths (elapsed micros)

/-- The number of thousandths of a timestamp. -/
def total (stamp : Timestamp) : Nat :=
  ((stamp.hours * 60 + stamp.minutes) * 60 + stamp.seconds) * 1000 + stamp.thousandths

/-- The characters of a timestamp. -/
def render (stamp : Timestamp) : List Char :=
  Text.padded 2 stamp.hours ++ ':' :: Text.padded 2 stamp.minutes
    ++ ':' :: Text.padded 2 stamp.seconds ++ '.' :: Text.padded 3 stamp.thousandths

/-- The parts of a timestamp add up to its thousandths. -/
theorem total_ofThousandths (count : Nat) : (ofThousandths count).total = count := by
  simp only [total, ofThousandths]
  omega

end Timestamp

end TimedText
