import TimedText.Text.LetterCase
import TimedText.Text.Numeral
import TimedText.Style.Stack
import TimedText.Markup.Piece

/-!
# Marked-up subtitles

The text of a subtitle carries its styles and its place.  Reading it yields segments, runs of text
in one style, and the place.

The pieces of the text are turned into marks: characters to show, ranges that open with a change of
style, and closings.  Every opening and every closing starts a new segment in the style that is then
in force, so a text with n of them has n + 1 segments.  The place is that of the first block that
names a key; without one it is the place given by the caller.

Two things can stop the reading: a number with too many digits, and a colour lookup that gives up.
The text ends at its first NUL character.
-/

namespace TimedText

/-- A run of text in one style. -/
structure Segment where
  text : String
  style : Style := {}
deriving DecidableEq, Repr

namespace Segment

/-- The texts of segments in a row. -/
def joinedText (segments : List Segment) : String :=
  String.join (segments.map (·.text))

end Segment

namespace Markup

/-- What can stop the reading of marked-up text. -/
inductive Failure where
  | outOfMemory
  | numeralTooLong
deriving DecidableEq, Repr

namespace Failure

/-- The report on a text of the given length that could not be read for want of memory. -/
def outOfMemoryMessage (length : Nat) : String :=
  "자막 파싱 중 메모리 부족 (길이 " ++ toString length ++ ")"

end Failure

/-- The outcome of reading: at least one segment, and the place. -/
structure Outcome where
  segments : List Segment
  align : Alignment
deriving DecidableEq, Repr

/-- All text of an outcome. -/
def Outcome.text (outcome : Outcome) : String :=
  Segment.joinedText outcome.segments

/-! ## Attributes of a font tag as changes of style -/

namespace Attribute

/-- The attribute of a style that is set to a number. -/
def numberSetting? : String → Option (Int → Style.Attribute)
  | "size" => some .fontSize
  | "outline-level" => some .outlineWidth
  | "shadow-level" => some .shadowWidth
  | "alpha" => some .fontAlpha
  | _ => none

/-- The attribute of a style that is set to a colour. -/
def colorSetting? : String → Option (Color → Style.Attribute)
  | "color" => some .fontColor
  | "outline-color" => some .outlineColor
  | "shadow-color" => some .shadowColor
  | "back-color" => some .backgroundColor
  | _ => none

/-- The attribute of a style that is set to a text. -/
def nameSetting? : String → Option (Option String → Style.Attribute)
  | "face" => some .fontName
  | "family" => some .monoFontName
  | _ => none

/-- What an attribute sets, if it is known; its name is compared in lower case. -/
def setting?
    (lookup : Color.Lookup)
    (written : Attribute) :
    Except Failure (Option Style.Attribute) :=
  let name := String.ofList (Text.lower written.name)
  match nameSetting? name, numberSetting? name, colorSetting? name with
  | some set, _, _ => .ok (some (set (some (String.ofList written.value))))
  | _, some set, _ =>
      match Text.leadingInteger written.value with
      | some number => .ok (some (set number))
      | none => .error .numeralTooLong
  | _, _, some set =>
      match lookup (String.ofList written.value) with
      | some color => .ok (some (set color))
      | none => .error .outOfMemory
  | none, none, none => .ok none

/-- What the attributes of one tag set, in their order. -/
def settings
    (lookup : Color.Lookup) :
    List Attribute → Except Failure (List Style.Attribute)
  | [] => .ok []
  | first :: rest =>
      match setting? lookup first with
      | .error failure => .error failure
      | .ok one =>
          match settings lookup rest with
          | .error failure => .error failure
          | .ok others => .ok (one.toList ++ others)

end Attribute

/-! ## Marks -/

/-- What a text does on its way to the screen. -/
inductive Mark where
  | visible (char : Char)
  | opening (change : Style.Change)
  | closing
deriving DecidableEq, Repr

namespace Piece

/-- The marks of a piece. -/
def marks (lookup : Color.Lookup) : Piece → Except Failure (List Mark)
  | literal char => .ok [.visible char]
  | lineBreak => .ok [.visible '\n']
  | openFlag flag => .ok [.opening (.ofFlag flag)]
  | openFont attributes =>
      match Attribute.settings lookup attributes with
      | .ok settings => .ok [.opening { attributes := settings }]
      | .error failure => .error failure
  | close => .ok [.closing]
  | block body => .ok ((blockFlags body).map fun flag => .opening (.ofFlag flag))

end Piece

/-- The marks of pieces in a row, or the first failure among them. -/
def marks (lookup : Color.Lookup) : List Piece → Except Failure (List Mark)
  | [] => .ok []
  | first :: rest =>
      match first.marks lookup with
      | .error failure => .error failure
      | .ok here =>
          match marks lookup rest with
          | .error failure => .error failure
          | .ok others => .ok (here ++ others)

/-! ## Segments -/

/--
The segments of the marks that follow, where `stack` holds the open styles and `written` the
characters of the segment begun so far, last one first.
-/
def segmentsFrom (stack : Style.Stack) (written : List Char) : List Mark → List Segment
  | [] => [⟨String.ofList written.reverse, stack.current⟩]
  | .visible char :: rest => segmentsFrom stack (char :: written) rest
  | .opening change :: rest =>
      ⟨String.ofList written.reverse, stack.current⟩ :: segmentsFrom (stack.push change) [] rest
  | .closing :: rest =>
      ⟨String.ofList written.reverse, stack.current⟩ :: segmentsFrom stack.pop [] rest

/-- The segments of marks, starting outside all ranges. -/
def segments (marks : List Mark) : List Segment :=
  segmentsFrom .empty [] marks

/-! ## Reading -/

/-- The text up to its first NUL character. -/
def untilNul (text : List Char) : List Char :=
  text.takeWhile (· != '\x00')

/-- A text without a NUL character is read to its end. -/
theorem untilNul_of_notMem (text : List Char) (whole : '\x00' ∉ text) : untilNul text = text := by
  induction text with
  | nil => rfl
  | cons first rest hypothesis =>
      rw [List.mem_cons, not_or] at whole
      have kept : (first != '\x00') = true := bne_iff_ne.2 (Ne.symm whole.1)
      rw [untilNul, List.takeWhile_cons, if_pos kept]
      exact congrArg (first :: ·) (hypothesis whole.2)

/-- The place that a text asks for. -/
def alignment (align : Alignment) (pieces : List Piece) : Alignment :=
  (pieces.findSome? Piece.key?).getD align

/-- The segments and the place of a subtitle's text. -/
def parse
    (lookup : Color.Lookup)
    (align : Alignment)
    (text : List Char) :
    Except Failure Outcome :=
  let pieces := Piece.split (untilNul text)
  match marks lookup pieces with
  | .ok marks => .ok ⟨segments marks, alignment align pieces⟩
  | .error failure => .error failure

/-- Reading always yields a segment. -/
theorem segmentsFrom_ne_nil
    (stack : Style.Stack)
    (written : List Char)
    (marks : List Mark) :
    segmentsFrom stack written marks ≠ [] := by
  induction marks generalizing stack written with
  | nil => simp [segmentsFrom]
  | cons first rest hypothesis =>
      cases first with
      | visible char => exact hypothesis stack (char :: written)
      | opening change => simp [segmentsFrom]
      | closing => simp [segmentsFrom]

end Markup

end TimedText
