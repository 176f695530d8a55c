import TimedText.Alignment
import TimedText.Style
import TimedText.Markup.Attribute

/-!
# Pieces of marked-up text

Marked-up text is a row of pieces: tags in angle brackets, blocks in braces and single characters.
At each place the first kind that fits is taken, so a bracket or brace that opens no tag and no
block is a character like any other.  Each piece uses up at least one character, and the pieces
follow one another without gap or overlap.

Tag names are told apart without regard to letter case.  No letter outside basic Latin has one of
their letters for its small form, so folding basic Latin is enough there.
-/

namespace TimedText.Markup

/-- A part of marked-up text that is read as a whole. -/
inductive Piece where
  | literal (char : Char)
  | lineBreak
  | openFlag (flag : StyleFlag)
  | openFont (attributes : List Attribute)
  | close
  | block (body : List Char)
deriving DecidableEq, Repr

namespace Piece

/-! ## Reading one piece -/

/-- What follows a word at the start of a text; the word is in small basic Latin letters. -/
def dropWord? : (word text : List Char) → Option (List Char)
  | [], text => some text
  | _ :: _, [] => none
  | letter :: word, char :: text =>
      if char.toLower = letter then dropWord? word text else none

/-- The names whose closing tags close what is open. -/
def closableNames : List (List Char) :=
  [['b'], ['i'], ['u'], ['s'], ['f', 'o', 'n', 't']]

/-- The style switched on by the tag with a one-letter name. -/
def flagTags : List (List Char × StyleFlag) :=
  [(['b', '>'], .bold), (['i', '>'], .italic), (['u', '>'], .underline), (['s', '>'], .strikeout)]

/-- The tag that switches a style on, after its opening bracket. -/
def flagTag? (text : List Char) : Option (Piece × List Char) :=
  flagTags.findSome? fun (word, flag) =>
    (dropWord? word text).map fun rest => (openFlag flag, rest)

/-- The line break tag after its opening bracket. -/
def breakTag? (text : List Char) : Option (Piece × List Char) :=
  (dropWord? ['b', 'r', '/', '>'] text).map fun rest => (lineBreak, rest)

/-- The font tag after its opening bracket: white space has to follow its name. -/
def fontTag? (text : List Char) : Option (Piece × List Char) :=
  match dropWord? ['f', 'o', 'n', 't'] text with
  | some (next :: rest) =>
      if Text.isBlank next then
        let (attributes, after) := Attribute.scan (next :: rest)
        some (openFont attributes, after)
      else
        none
  | _ => none

/-- A closing tag after its opening bracket: the name reaches up to the first closing bracket. -/
def closeTag? : List Char → Option (Piece × List Char)
  | '/' :: rest =>
      match Attribute.splitAtFirst? '>' rest with
      | some (name, after) =>
          if name.map Char.toLower ∈ closableNames then some (close, after) else none
      | none => none
  | _ => none

/-- The tag after an opening bracket. -/
def tag? (text : List Char) : Option (Piece × List Char) :=
  breakTag? text <|> flagTag? text <|> fontTag? text <|> closeTag? text

/--
A body makes a block of braces if it starts with a backslash or its second character is a colon.
-/
def isBlockBody : List Char → Bool
  | '\\' :: _ => true
  | _ :: ':' :: _ => true
  | _ => false

/-- The block after an opening brace, up to the first closing brace. -/
def block? (text : List Char) : Option (Piece × List Char) :=
  match Attribute.splitAtFirst? '}' text with
  | some (body, after) => if isBlockBody body then some (block body, after) else none
  | none => none

/-- The piece that starts with a character, and what follows it. -/
def next (first : Char) (rest : List Char) : Piece × List Char :=
  if first = '<' then (tag? rest).getD (literal first, rest)
  else if first = '{' then (block? rest).getD (literal first, rest)
  else (literal first, rest)

/-! ## Reading gets on -/

theorem length_dropWord?_le
    (word text rest : List Char)
    (found : dropWord? word text = some rest) :
    rest.length ≤ text.length := by
  induction word generalizing text with
  | nil => simp_all [dropWord?]
  | cons letter word hypothesis =>
      cases text with
      | nil => simp [dropWord?] at found
      | cons head tail =>
          simp only [dropWord?] at found
          split at found
          · have shorter := hypothesis tail found
            simp only [List.length_cons]
            omega
          · simp at found

theorem length_tag?_le
    (text rest : List Char)
    (piece : Piece)
    (found : tag? text = some (piece, rest)) :
    rest.length ≤ text.length := by
  simp only [tag?, Option.orElse_eq_orElse, Option.orElse_eq_or, Option.or_eq_some_iff] at found
  rcases found with isBreak | ⟨-, isFlag | ⟨-, isFont | ⟨-, isClose⟩⟩⟩
  · simp only [breakTag?, Option.map_eq_some_iff, Prod.mk.injEq] at isBreak
    obtain ⟨after, dropped, -, rfl⟩ := isBreak
    exact length_dropWord?_le _ _ _ dropped
  · simp only [flagTag?] at isFlag
    obtain ⟨⟨word, flag⟩, -, matched⟩ := List.exists_of_findSome?_eq_some isFlag
    simp only [Option.map_eq_some_iff, Prod.mk.injEq] at matched
    obtain ⟨after, dropped, -, rfl⟩ := matched
    exact length_dropWord?_le _ _ _ dropped
  · simp only [fontTag?] at isFont
    split at isFont
    next next after dropped =>
      split at isFont
      · simp only [Option.some.injEq, Prod.mk.injEq] at isFont
        obtain ⟨-, rfl⟩ := isFont
        exact Nat.le_trans (Attribute.length_scan_le _) (length_dropWord?_le _ _ _ dropped)
      · simp at isFont
    · simp at isFont
  · unfold closeTag? at isClose
    split at isClose
    next inner =>
      split at isClose
      next name after divided =>
        split at isClose
        · simp only [Option.some.injEq, Prod.mk.injEq] at isClose
          obtain ⟨-, rfl⟩ := isClose
          have parts := Attribute.splitAtFirst?_eq_some '>' inner name after divided
          simp [parts]
          omega
        · simp at isClose
      · simp at isClose
    · simp at isClose

theorem length_block?_le
    (text rest : List Char)
    (piece : Piece)
    (found : block? text = some (piece, rest)) :
    rest.length ≤ text.length := by
  unfold block? at found
  split at found
  next body after divided =>
    split at found
    · simp only [Option.some.injEq, Prod.mk.injEq] at found
      obtain ⟨-, rfl⟩ := found
      have parts := Attribute.splitAtFirst?_eq_some '}' text body after divided
      simp [parts]
      omega
    · simp at found
  · simp at found

/-- What follows a piece is no longer than what follows its first character. -/
theorem length_next_le (first : Char) (rest : List Char) :
    (next first rest).2.length ≤ rest.length := by
  unfold next
  split
  · cases found : tag? rest with
    | none => simp
    | some pair => exact length_tag?_le rest pair.2 pair.1 found
  · split
    · cases found : block? rest with
      | none => simp
      | some pair => exact length_block?_le rest pair.2 pair.1 found
    · simp

/-- The pieces of a text, in order. -/
def split : List Char → List Piece
  | [] => []
  | first :: rest =>
      let one := next first rest
      one.1 :: split one.2
termination_by text => text.length
decreasing_by
  have shorter := length_next_le first rest
  simp only [List.length_cons]
  omega

/-! ## What a piece means -/

/-- The characters that a piece puts on the screen. -/
def shown : Piece → List Char
  | literal char => [char]
  | lineBreak => ['\n']
  | _ => []

/-- The key of a block that places the subtitle, `\an` and a digit from 1 to 9. -/
def key? : Piece → Option Alignment
  | block ['\\', 'a', 'n', digit] =>
      if '1' ≤ digit ∧ digit ≤ '9' then some (Alignment.ofKeyIndex (digit.toNat - 49)) else none
  | _ => none

/-- The switch for a letter of a style block. -/
def styleCode? : Char → Option StyleFlag
  | 'i' => some .italic
  | 'b' => some .bold
  | 'u' => some .underline
  | _ => none

/-- The switches of a row of style letters, up to the first letter that is none. -/
def styleCodes : List Char → List StyleFlag
  | [] => []
  | letter :: rest =>
      match styleCode? letter with
      | some flag => flag :: styleCodes rest
      | none => []

/-- The switches that a block turns on, each opening a range of its own. -/
def blockFlags : List Char → List StyleFlag
  | 'Y' :: ':' :: codes => styleCodes codes
  | 'y' :: ':' :: codes => styleCodes codes
  | _ => []

end Piece

end TimedText.Markup
