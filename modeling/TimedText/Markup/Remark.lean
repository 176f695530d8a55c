import TimedText.Markup

/-!
# Remarks on marked-up text

Reading a text does not fail on what it does not know, but it can be asked what it has passed over
and where it has placed the subtitle.  There is a remark for each unknown attribute of a font tag,
and one for the block that gives the place.  The remarks end where the reading is stopped.
-/

namespace TimedText

/-- The words for a place by its sides, with a word for no side at all. -/
def Alignment.sides (align : Alignment) : String :=
  let horizontal := match align.horizontal with
    | .left => ["LEFT"]
    | .right => ["RIGHT"]
    | .center => []
  let vertical := match align.vertical with
    | .top => ["TOP"]
    | .bottom => ["BOTTOM"]
    | .middle => []
  match horizontal ++ vertical with
  | [] => "CENTER"
  | sides => String.intercalate "|" sides

namespace Markup

/-- What there is to remark on. -/
inductive Remark where
  | unknown (name : List Char)
  | placed (body : List Char) (align : Alignment)
deriving DecidableEq, Repr

/-- The words of a remark. -/
def Remark.message : Remark → String
  | unknown name => "알 수 없는 font 속성 무시: " ++ String.ofList name
  | placed body align =>
      "정렬 코드 적용: " ++ String.ofList body ++ " -> <Alignment." ++ align.sides ++ ": "
        ++ Text.written align.bits ++ ">"

/-- The remarks on the attributes of a font tag. -/
def Attribute.remarks (lookup : Color.Lookup) : List Attribute → List Remark
  | [] => []
  | first :: rest =>
      match setting? lookup first with
      | .error _ => []
      | .ok none => .unknown (Text.lower first.name) :: remarks lookup rest
      | .ok (some _) => remarks lookup rest

/-- The remarks on a piece, of which only the first block with a key gives the place. -/
def Piece.remarks (lookup : Color.Lookup) (placed : Bool) (piece : Piece) : List Remark :=
  match piece, piece.key? with
  | openFont attributes, _ => Attribute.remarks lookup attributes
  | block body, some align => if placed then [] else [.placed body align]
  | _, _ => []

/-- The remarks on pieces in a row, behind a block that gives the place or not. -/
def remarksFrom (lookup : Color.Lookup) : (placed : Bool) → List Piece → List Remark
  | _, [] => []
  | placed, first :: rest =>
      first.remarks lookup placed
        ++ match first.marks lookup with
          | .error _ => []
          | .ok _ => remarksFrom lookup (placed || first.key?.isSome) rest

/-- The remarks on a text. -/
def remarks (lookup : Color.Lookup) (text : List Char) : List Remark :=
  remarksFrom lookup false (Piece.split (untilNul text))

end Markup

end TimedText
