/-!
# Alignment

Where a subtitle stands on the screen, as a set of four bits: left 1, right 2, top 4 and bottom 8.
Neither left nor right is centred, neither top nor bottom is in the middle.  Other bits are kept as
they are given.

Subtitles give their place by the digit of a numeric keypad, 1 to 9 from the bottom left to the top
right.
-/

namespace TimedText

/-- A place on the screen, as a bit set. -/
structure Alignment where
  bits : Nat
deriving DecidableEq, Repr

/-- The part of the screen from top to bottom. -/
inductive Vertical where
  | top
  | middle
  | bottom
deriving DecidableEq, Repr

/-- The part of the screen from left to right. -/
inductive Horizontal where
  | left
  | center
  | right
deriving DecidableEq, Repr

namespace Vertical

/-- The word for a part. -/
def name : Vertical → String
  | top => "top"
  | middle => "middle"
  | bottom => "bottom"

/-- The bits of a part. -/
def bits : Vertical → Nat
  | top => 4
  | middle => 0
  | bottom => 8

end Vertical

namespace Horizontal

/-- The word for a part. -/
def name : Horizontal → String
  | left => "left"
  | center => "center"
  | right => "right"

/-- The bits of a part. -/
def bits : Horizontal → Nat
  | left => 1
  | center => 0
  | right => 2

/-- The part with the given bits. -/
def ofBits? (bits : Int) : Option Horizontal :=
  if bits = 0 then some center
  else if bits = 1 then some left
  else if bits = 2 then some right
  else none

end Horizontal

namespace Alignment

/-- The place with the given parts. -/
def place (vertical : Vertical) (horizontal : Horizontal) : Alignment :=
  ⟨vertical.bits ||| horizontal.bits⟩

/-- A bit set from a whole number.  A negative number stands for its bits among the four known. -/
def ofInt : Int → Alignment
  | .ofNat value => ⟨value⟩
  | .negSucc value => ⟨(Int.negSucc value % 16).toNat⟩

/-- The part from top to bottom; top wins over bottom. -/
def vertical (align : Alignment) : Vertical :=
  if align.bits.testBit 2 then .top
  else if align.bits.testBit 3 then .bottom
  else .middle

/-- The part from left to right; left wins over right. -/
def horizontal (align : Alignment) : Horizontal :=
  if align.bits.testBit 0 then .left
  else if align.bits.testBit 1 then .right
  else .center

/-- The place for a key of the keypad, counted from zero. -/
def ofKeyIndex (index : Nat) : Alignment :=
  let vertical := match index / 3 with
    | 0 => Vertical.bottom
    | 1 => Vertical.middle
    | _ => Vertical.top
  let horizontal := match index % 3 with
    | 0 => Horizontal.left
    | 1 => Horizontal.center
    | _ => Horizontal.right
  place vertical horizontal

/-- The place for a key of the keypad, for the keys 1 to 9. -/
def ofKey? (key : Int) : Option Alignment :=
  if 1 ≤ key ∧ key ≤ 9 then some (ofKeyIndex (key - 1).toNat) else none

/-- The report on a number that is no key with a place. -/
def keyMessage (key : Int) : String :=
  "정렬 코드는 1~9 범위여야 합니다: " ++ toString key

end Alignment

end TimedText
