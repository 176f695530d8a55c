import TimedText.Proofs.Markup.Timeline
import TimedText.Proofs.Text.LetterCase

/-!
# Well-nested markup

Markup whose tags nest is a forest.  Its leaves are texts and line breaks, and its inner nodes are
the switches and the font tags, each with what stands inside it.  A forest is written down tag by
tag: an opening tag, what stands inside, and a closing tag, which need not be called after the
opening one.

What a forest shows is read off it in one walk.  A new stretch of text starts where a node starts
and where it ends, and each stretch lies inside the nodes that enclose it, the outermost first.
-/

namespace TimedText.Markup

/-! ## What is written -/

/-- A word as it is written, in any letter case. -/
structure Spelling (word : List Char) where
  letters : List Char
  spelled : Text.lower letters = word

/-- A text that holds no beginning of a tag or a block, and no NUL character. -/
structure PlainText where
  chars : List Char
  plain : ∀ char ∈ chars, char ≠ '<' ∧ char ≠ '{' ∧ char ≠ '\x00'

/-- A field that is set to a whole number. -/
def FontField.isNumber : FontField → Bool
  | size => true
  | outlineLevel => true
  | shadowLevel => true
  | alpha => true
  | _ => false

/-- The digits of the number that a text starts with. -/
def leadingDigits (text : List Char) : List Char :=
  (Text.splitSign (Text.trimStart text)).2.takeWhile Text.isDigit

/--
An attribute with a known name and a quoted value.  The value may hold any character but NUL and the
quote itself; where a number is due, it has no more digits than can be read.
-/
structure QuotedAttribute where
  field : FontField
  name : Spelling field.word.toList
  quote : Char
  quotes : Attribute.isQuote quote = true
  value : List Char
  unquoted : quote ∉ value
  unterminated : '\x00' ∉ value
  readable : field.isNumber = true → (leadingDigits value).length ≤ Text.digitLimit

/-- The letter that names the tag of a switch. -/
def tagLetter : StyleFlag → Char
  | .bold => 'b'
  | .italic => 'i'
  | .underline => 'u'
  | .strikeout => 's'

/-- An opening tag: that of a switch, or a font tag with one attribute or more. -/
inductive OpeningTag where
  | flag (switch : StyleFlag) (name : Spelling [tagLetter switch])
  | font (name : Spelling ['f', 'o', 'n', 't']) (first : QuotedAttribute)
      (others : List QuotedAttribute)

/-- A closing tag: any of the names that close what is open. -/
structure ClosingTag where
  name : List Char
  closable : Text.lower name ∈ Piece.closableNames

/-- Well-nested markup: nothing, or one leaf or node with the markup that follows it. -/
inductive Forest where
  | nil
  | text (content : PlainText) (rest : Forest)
  | lineBreak (name : Spelling ['b', 'r', '/']) (rest : Forest)
  | node (opening : OpeningTag) (inner : Forest) (closing : ClosingTag) (rest : Forest)

/-! ## Writing it down -/

def QuotedAttribute.render (quoted : QuotedAttribute) : List Char :=
  ' ' :: (quoted.name.letters ++
    '=' :: quoted.quote :: (quoted.value ++ [quoted.quote]))

def OpeningTag.render : OpeningTag → List Char
  | flag _ name => '<' :: (name.letters ++ ['>'])
  | font name first others =>
      '<' :: (name.letters ++ ((first :: others).flatMap QuotedAttribute.render ++ ['>']))

def ClosingTag.render (closing : ClosingTag) : List Char :=
  '<' :: '/' :: (closing.name ++ ['>'])

/-- The text of well-nested markup. -/
def Forest.render : Forest → List Char
  | nil => []
  | text content rest => content.chars ++ rest.render
  | lineBreak name rest => '<' :: (name.letters ++ '>' :: rest.render)
  | node opening inner closing rest =>
      opening.render ++ (inner.render ++ (closing.render ++ rest.render))

/-! ## Walking it -/

/-- The style with an attribute set to what its value stands for, if that can be read. -/
def QuotedAttribute.applyTo?
    (lookup : Color.Lookup)
    (style : Style)
    (quoted : QuotedAttribute) :
    Option Style :=
  quoted.field.set? lookup style quoted.value

/-- The style inside a tag that opens in a style, if its values can be read. -/
def OpeningTag.applyTo? (lookup : Color.Lookup) (style : Style) : OpeningTag → Option Style
  | flag switch _ => some { style with flags := style.flags ||| switch.bits }
  | font _ first others => (first :: others).foldlM (QuotedAttribute.applyTo? lookup) style

/-- A stretch of text, and the tags of the nodes around it, the outermost first. -/
structure Stretch where
  text : List Char
  enclosing : List OpeningTag

/-- The style of a stretch: the plain one, changed by the tags around it from the outside in. -/
def Stretch.style? (lookup : Color.Lookup) (stretch : Stretch) : Option Style :=
  stretch.enclosing.foldlM (OpeningTag.applyTo? lookup) Style.plain

/-- Stretches whose first one has a text put in front. -/
def prepend (text : List Char) : List Stretch → List Stretch
  | [] => []
  | first :: rest => { first with text := text ++ first.text } :: rest

/-- The stretches of well-nested markup that stands inside tags. -/
def Forest.stretches (enclosing : List OpeningTag) : Forest → List Stretch
  | nil => [{ text := [], enclosing }]
  | text content rest => prepend content.chars (rest.stretches enclosing)
  | lineBreak _ rest => prepend ['\n'] (rest.stretches enclosing)
  | node opening inner _ rest =>
      { text := [], enclosing } ::
        (inner.stretches (enclosing ++ [opening]) ++ rest.stretches enclosing)

@[simp]
theorem prepend_nil (stretches : List Stretch) : prepend [] stretches = stretches := by
  cases stretches <;> rfl

@[simp]
theorem prepend_prepend (text more : List Char) (stretches : List Stretch) :
    prepend text (prepend more stretches) = prepend (text ++ more) stretches := by
  cases stretches <;> simp [prepend]

/-! ## Words and the end of a text -/

/-- A word is not spelled with a character that has no letter case and does not stand in it. -/
theorem Spelling.notMem
    {word : List Char}
    (name : Spelling word)
    (char : Char)
    (kept : Text.lowerChar char = [char])
    (absent : char ∉ word) :
    char ∉ name.letters := by
  intro member
  have lowered := Text.mem_lower_of_mem name.letters char kept member
  rw [name.spelled] at lowered
  exact absent lowered

theorem Spelling.ne_nil {word : List Char} (name : Spelling word) (filled : word ≠ []) :
    name.letters ≠ [] := by
  intro empty
  have lowered := name.spelled
  rw [empty] at lowered
  exact filled lowered.symm

theorem Spelling.folded
    {word : List Char}
    (name : Spelling word)
    (plain : Text.IsPlainWord word) :
    name.letters.map Char.toLower = word :=
  (Text.lower_eq_iff name.letters word plain).1 name.spelled

theorem QuotedAttribute.isNameChar_name
    (quoted : QuotedAttribute)
    (char : Char)
    (member : char ∈ quoted.name.letters) :
    Attribute.isNameChar char = true := by
  have known : quoted.field.word.toList.all Attribute.isNameChar = true := by
    cases quoted.field <;> rfl
  by_contra separator
  have kept : Text.lowerChar char = [char] := by
    simp only [Attribute.isNameChar, Bool.not_eq_true, Bool.not_eq_false', Bool.or_eq_true,
      beq_iff_eq] at separator
    rcases separator with (blank | rfl) | rfl
    · exact Text.lowerChar_of_isBlank char blank
    · rfl
    · rfl
  refine quoted.name.notMem char kept ?_ member
  intro listed
  exact separator (List.all_eq_true.1 known char listed)

theorem QuotedAttribute.nul_notMem_name (quoted : QuotedAttribute) :
    '\x00' ∉ quoted.name.letters := by
  have words : ∀ field : FontField, '\x00' ∉ field.word.toList := by
    intro field
    cases field <;> decide
  exact quoted.name.notMem '\x00' rfl (words quoted.field)

theorem QuotedAttribute.nul_notMem_render (quoted : QuotedAttribute) :
    '\x00' ∉ quoted.render := by
  have name := quoted.nul_notMem_name
  have quote : '\x00' ≠ quoted.quote := by
    intro same
    have quotes := quoted.quotes
    rw [← same] at quotes
    cases quotes
  simp [render, name, quote, quoted.unterminated]

theorem OpeningTag.nul_notMem_render (opening : OpeningTag) : '\x00' ∉ opening.render := by
  cases opening with
  | flag switch name =>
      have letters := name.notMem '\x00' rfl (by cases switch <;> decide)
      simp [render, letters]
  | font name first others =>
      have letters := name.notMem '\x00' rfl (by decide)
      have rendered : '\x00' ∉ (first :: others).flatMap QuotedAttribute.render := by
        intro member
        rcases List.mem_flatMap.1 member with ⟨quoted, -, inside⟩
        exact quoted.nul_notMem_render inside
      rw [List.flatMap_cons, List.mem_append, not_or] at rendered
      simp [render, letters, rendered.1, rendered.2]

theorem ClosingTag.nul_notMem_render (closing : ClosingTag) : '\x00' ∉ closing.render := by
  have names : ∀ word ∈ Piece.closableNames, '\x00' ∉ word := by
    decide
  have name : '\x00' ∉ closing.name := by
    intro member
    exact names _ closing.closable (Text.mem_lower_of_mem closing.name '\x00' rfl member)
  simp [render, name]

theorem Forest.nul_notMem_render (forest : Forest) : '\x00' ∉ forest.render := by
  induction forest with
  | nil => simp [render]
  | text content rest hypothesis =>
      have chars : '\x00' ∉ content.chars := by
        intro member
        exact (content.plain '\x00' member).2.2 rfl
      simp [render, chars, hypothesis]
  | lineBreak name rest hypothesis =>
      have letters := name.notMem '\x00' rfl (by decide)
      simp [render, letters, hypothesis]
  | node opening inner closing rest innerHypothesis hypothesis =>
      simp [render, opening.nul_notMem_render, closing.nul_notMem_render, innerHypothesis,
        hypothesis]

end TimedText.Markup
