/-!
# Grids of characters

The character sets of East Asia are grids: a row and a place in the row give a character, and some
places have none.
-/

namespace TimedText.Encoding

/-- A character set as rows of one width.  U+FFFD stands for a place without a character. -/
structure Grid where
  width : Nat
  cells : Array Char

namespace Grid

/-- A row filled up to a width. -/
def fill (width : Nat) (row : List Char) : List Char :=
  row.take width ++ List.replicate (width - row.length) '\uFFFD'

/-- The grid with the given rows; a row may leave out its last places. -/
def ofRows (width : Nat) (rows : List String) : Grid :=
  { width, cells := (rows.flatMap fun row => fill width row.toList).toArray }

/-- The character at a row and a place, both counted from zero. -/
def cell? (grid : Grid) (row place : Nat) : Option Char :=
  if place < grid.width then
    match grid.cells[row * grid.width + place]? with
    | some '\uFFFD' => none
    | other => other
  else
    none

/-- The character at a row and a place, both counted from `first`. -/
def cellFrom? (grid : Grid) (first row place : Nat) : Option Char :=
  if first ≤ row ∧ first ≤ place then grid.cell? (row - first) (place - first) else none

end Grid

end TimedText.Encoding
