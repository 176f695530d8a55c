import TimedText.Text.Numeral

/-!
# Numbers with a fraction

A number that was written with a fraction or an exponent is kept with fifty-three significant
bits: a whole number of steps, the width of a step being a power of two.  A number between two
that can be kept becomes the nearer one, and of two equally near ones the one with an even number
of steps.
-/

namespace TimedText

/-- A number with fifty-three significant bits, `steps · 2 ^ scale` if it is finite. -/
inductive Binary64 where
  | finite (steps scale : Int)
  | infinite (negative : Bool)
  | notANumber
deriving DecidableEq, Repr

namespace Binary64

/-- The width of the finest step as a power of two. -/
def finestScale : Int := -1074

/-- The least power of two that is too great to be kept. -/
def overflowScale : Int := 1024

/-- The quotient to the nearest whole number, and to the even one of two equally near. -/
def roundedQuotient (numerator denominator : Nat) : Nat :=
  let quotient := numerator / denominator
  let rest := 2 * (numerator % denominator)
  if rest < denominator then quotient
  else if denominator < rest then quotient + 1
  else quotient + quotient % 2

/-- The quotient of two numbers in steps of a scale. -/
def stepsAt (scale : Int) (numerator denominator : Nat) : Nat :=
  roundedQuotient (numerator * Nat.pow 2 (-scale).toNat) (denominator * Nat.pow 2 scale.toNat)

/-- The scale for a quotient of two positive numbers: its steps then have fifty-three bits. -/
def scaleFor (numerator denominator : Nat) : Int :=
  let guess : Int := (numerator.log2 : Int) - denominator.log2 - 52
  let tooCoarse :=
    numerator * Nat.pow 2 (-guess).toNat < denominator * Nat.pow 2 (guess.toNat + 52)
  max (if tooCoarse then guess - 1 else guess) finestScale

/-- The number nearest to a quotient, with a sign. -/
def ofQuotient (negative : Bool) (numerator denominator : Nat) : Binary64 :=
  if numerator = 0 then
    finite 0 0
  else
    let scale := scaleFor numerator denominator
    let steps := stepsAt scale numerator denominator
    if overflowScale ≤ (steps.log2 : Int) + scale then infinite negative
    else finite (Text.signed negative steps) scale

/-- The number nearest to `digits · 10 ^ exponent`. -/
def ofDecimal (digits exponent : Int) : Binary64 :=
  let negative := digits < 0
  let magnitude := digits.natAbs
  let places : Int := (Text.decimal magnitude).length
  if magnitude = 0 ∨ exponent + places < -400 then finite 0 0
  else if 400 < exponent + places then infinite negative
  else ofQuotient negative (magnitude * Nat.pow 10 exponent.toNat) (Nat.pow 10 (-exponent).toNat)

/-- The whole number that a number is. -/
def integer? : Binary64 → Option Int
  | finite steps scale =>
      if 0 ≤ scale then some (steps * Int.pow 2 scale.toNat)
      else if steps % Int.pow 2 (-scale).toNat = 0 then some (steps / Int.pow 2 (-scale).toNat)
      else none
  | infinite _ => none
  | notANumber => none

example : (ofDecimal 10 (-1)).integer? = some 1 := by decide +kernel

example : (ofDecimal 15 (-1)).integer? = none := by decide +kernel

end Binary64

end TimedText
