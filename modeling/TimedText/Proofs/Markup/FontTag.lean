import TimedText.Proofs.Markup.Attribute
import TimedText.Proofs.Markup.Forest
import TimedText.Proofs.Markup.Lexeme
import TimedText.Proofs.Markup.Origin
import TimedText.Proofs.Text.Numeral

/-!
# Font tags are read as they are written

A font tag lists names with values.  White space stands before each name, and may stand around the
equals signs and before the closing bracket.  A value stands between quotes and holds anything but
its own quote, or it is bare and holds neither white space nor a closing bracket.

Such a tag is one piece of the text, whatever follows it.  It opens a single range, in a style that
differs from the style around it only in the fields that its attributes name.  A field named more
than once, in whatever letter case, is set by the last attribute that names it.
-/

namespace TimedText.Markup

/-! ## What is written -/

/-- A text of white space. -/
structure Blanks where
  chars : List Char
  blank : ∀ char ∈ chars, Text.isBlank char = true

/-- A value as it can be written: between two quotes, or bare. -/
inductive WrittenValue where
  | quoted (quote : Char) (quotes : Attribute.isQuote quote = true)
      (value : List Char) (unquoted : quote ∉ value) (unterminated : '\x00' ∉ value)
  | bare (first : Char) (unquoted : Attribute.isQuote first = false) (others : List Char)
      (plain :
        ∀ char ∈ first :: others, Text.isBlank char = false ∧ char ≠ '>' ∧ char ≠ '\x00')

namespace WrittenValue

/-- What a written value says. -/
def text : WrittenValue → List Char
  | quoted _ _ value _ _ => value
  | bare first _ others _ => first :: others

def render : WrittenValue → List Char
  | quoted quote _ value _ _ => quote :: (value ++ [quote])
  | bare first _ others _ => first :: others

end WrittenValue

/--
A name and a value with white space before and between them.  Where a number is due, the value has
no more digits than can be read.
-/
structure WrittenAttribute where
  before : Blanks
  parted : before.chars ≠ []
  name : List Char
  filled : name ≠ []
  named : ∀ char ∈ name, Text.isBlank char = false ∧ char ≠ '=' ∧ char ≠ '>' ∧ char ≠ '\x00'
  left : Blanks
  right : Blanks
  value : WrittenValue
  readable :
    ∀ field,
      Attribute.field? ⟨name, value.text⟩ = some field →
        field.isNumber = true → (leadingDigits value.text).length ≤ Text.digitLimit

namespace WrittenAttribute

def written (shape : WrittenAttribute) : Attribute :=
  ⟨shape.name, shape.value.text⟩

def render (shape : WrittenAttribute) : List Char :=
  shape.before.chars ++
    (shape.name ++ (shape.left.chars ++ '=' :: (shape.right.chars ++ shape.value.render)))

end WrittenAttribute

/-- A font tag with one attribute or more. -/
structure FontTag where
  name : Spelling ['f', 'o', 'n', 't']
  first : WrittenAttribute
  others : List WrittenAttribute
  after : Blanks

namespace FontTag

def attributes (tag : FontTag) : List Attribute :=
  (tag.first :: tag.others).map WrittenAttribute.written

def render (tag : FontTag) : List Char :=
  '<' ::
    (tag.name.letters ++
      ((tag.first :: tag.others).flatMap WrittenAttribute.render ++ (tag.after.chars ++ ['>'])))

end FontTag

/-! ## The scan of a written tag -/

theorem Blanks.nul_notMem (blanks : Blanks) : '\x00' ∉ blanks.chars := by
  intro member
  cases blanks.blank '\x00' member

/-- A written value is read up to white space or a bracket, or up to its closing quote. -/
theorem WrittenValue.scanValue_render
    (value : WrittenValue)
    (rest : List Char)
    (ending : ∀ char, rest.head? = some char → Attribute.isValueChar char = false) :
    Attribute.scanValue (value.render ++ rest) = (value.text, rest) := by
  cases value with
  | quoted quote quotes value unquoted unterminated =>
      rw [render, List.cons_append, List.append_assoc]
      exact Attribute.scanValue_of_quoted quote value rest quotes unquoted
  | bare first unquoted others plain =>
      refine Attribute.scanValue_of_bare first others rest unquoted ?_ ending
      intro char member
      rcases plain char member with ⟨visible, inside, -⟩
      simp [Attribute.isValueChar, visible, inside]

theorem WrittenValue.trimStart_render (value : WrittenValue) (rest : List Char) :
    Text.trimStart (value.render ++ rest) = value.render ++ rest := by
  cases value with
  | quoted quote quotes value unquoted unterminated =>
      exact Attribute.trimStart_cons quote _ (Attribute.isBlank_of_isQuote quote quotes)
  | bare first unquoted others plain =>
      exact Attribute.trimStart_cons first _ (plain first List.mem_cons_self).1

theorem WrittenValue.nul_notMem_render (value : WrittenValue) : '\x00' ∉ value.render := by
  cases value with
  | quoted quote quotes value unquoted unterminated =>
      have different : '\x00' ≠ quote := by
        rintro rfl
        cases quotes
      simp [render, different, unterminated]
  | bare first unquoted others plain =>
      intro member
      exact (plain _ member).2.2 rfl

namespace WrittenAttribute

theorem nul_notMem_render (shape : WrittenAttribute) : '\x00' ∉ shape.render := by
  have name : '\x00' ∉ shape.name := fun member => (shape.named _ member).2.2.2 rfl
  simp [render, name, Blanks.nul_notMem, WrittenValue.nul_notMem_render]

theorem isNameChar_name (shape : WrittenAttribute) :
    ∀ char ∈ shape.name, Attribute.isNameChar char = true := by
  intro char member
  rcases shape.named char member with ⟨visible, equals, inside, -⟩
  simp [Attribute.isNameChar, visible, equals, inside]

/-- An attribute is followed by white space or by the closing bracket. -/
theorem isValueChar_head?
    (attributes : List WrittenAttribute)
    (after : Blanks)
    (rest : List Char)
    (char : Char)
    (head : (attributes.flatMap render ++ (after.chars ++ '>' :: rest)).head? = some char) :
    Attribute.isValueChar char = false := by
  have ends (blanks : Blanks) (member : char ∈ blanks.chars) :
      Attribute.isValueChar char = false := by
    simp [Attribute.isValueChar, blanks.blank char member]
  cases attributes with
  | nil =>
      cases parts : after.chars with
      | nil =>
          rw [parts] at head
          cases head
          rfl
      | cons first others =>
          rw [parts] at head
          cases head
          exact ends after (parts ▸ List.mem_cons_self)
  | cons first others =>
      cases parts : first.before.chars with
      | nil => exact (first.parted parts).elim
      | cons blank blanks =>
          rw [List.flatMap_cons, render, parts] at head
          cases head
          exact ends first.before (parts ▸ List.mem_cons_self)

/-- Written attributes are read back, up to the bracket that closes their tag. -/
theorem scan_render
    (attributes : List WrittenAttribute)
    (after : Blanks)
    (rest : List Char) :
    Attribute.scan (attributes.flatMap render ++ (after.chars ++ '>' :: rest)) =
      (attributes.map written, rest) := by
  induction attributes with
  | nil => exact Attribute.scan_of_bracket after.chars rest after.blank
  | cons first others hypothesis =>
      have ending := isValueChar_head? others after rest
      rw [List.flatMap_cons, List.append_assoc, List.map_cons]
      -- Of what follows the first attribute only its start and its scan matter.
      generalize others.flatMap render ++ (after.chars ++ '>' :: rest) = tail
        at hypothesis ending ⊢
      have one :=
        Attribute.scanOne_of_written first.name first.left.chars first.right.chars
          (first.value.render ++ tail) first.value.text tail first.filled first.isNameChar_name
          first.left.blank first.right.blank (first.value.trimStart_render tail)
          (first.value.scanValue_render tail ending)
      rcases List.exists_cons_of_ne_nil first.filled with ⟨letter, letters, parts⟩
      rcases first.named letter (parts ▸ List.mem_cons_self) with ⟨visible, -, inside, -⟩
      rw [parts, List.cons_append] at one
      have scanned :=
        Attribute.scan_of_scanOne first.before.chars letter _ first.before.blank visible inside
          _ tail one
      rw [hypothesis] at scanned
      simpa [render, written, parts] using scanned

end WrittenAttribute

/-! ## The piece of a written tag -/

namespace Piece

theorem split_of_tag?
    (text rest : List Char)
    (piece : Piece)
    (found : tag? text = some (piece, rest)) :
    split ('<' :: text) = piece :: split rest := by
  rw [split, next, if_pos rfl, found]
  rfl

/-- What does not start like a line break or a switch is a font tag or a closing tag. -/
theorem tag?_of_head
    (head : Char)
    (rest : List Char)
    (other : head.toLower ∉ ['b', 'i', 'u', 's']) :
    tag? (head :: rest) = (fontTag? (head :: rest) <|> closeTag? (head :: rest)) := by
  simp only [List.mem_cons, List.not_mem_nil, or_false, not_or] at other
  simp [tag?, breakTag?, flagTag?, flagTags, dropWord?, other]

/-- A written font tag is one piece, whatever follows it. -/
theorem split_of_fontTag (tag : FontTag) (rest : List Char) :
    split (tag.render ++ rest) = openFont tag.attributes :: split rest := by
  have folded := tag.name.folded (by decide)
  have scanned := WrittenAttribute.scan_render (tag.first :: tag.others) tag.after rest
  -- Of what follows the name only the scan and the white space in front matter.
  have starts : ∃ space inner,
      (tag.first :: tag.others).flatMap WrittenAttribute.render ++
            (tag.after.chars ++ '>' :: rest) =
          space :: inner ∧
        Text.isBlank space = true := by
    rcases List.exists_cons_of_ne_nil tag.first.parted with ⟨space, blanks, parts⟩
    have blank := tag.first.before.blank space (parts ▸ List.mem_cons_self)
    rw [List.flatMap_cons, WrittenAttribute.render, parts]
    exact ⟨space, _, rfl, blank⟩
  have whole :
      tag.render ++ rest =
        '<' ::
          (tag.name.letters ++
            ((tag.first :: tag.others).flatMap WrittenAttribute.render ++
              (tag.after.chars ++ '>' :: rest))) := by
    simp [FontTag.render]
  rw [whole]
  generalize (tag.first :: tag.others).flatMap WrittenAttribute.render ++
    (tag.after.chars ++ '>' :: rest) = text at scanned starts ⊢
  rcases starts with ⟨space, inner, rfl, blank⟩
  have dropped := dropWord?_of_spelled _ tag.name.letters (space :: inner) folded
  rcases List.map_eq_cons_iff.1 folded with ⟨head, tail, spelled, small, -⟩
  have other : head.toLower ∉ ['b', 'i', 'u', 's'] := by
    rw [small]
    decide
  have found :
      fontTag? (tag.name.letters ++ space :: inner) = some (openFont tag.attributes, rest) := by
    simp [fontTag?, dropped, blank, scanned, FontTag.attributes]
  refine split_of_tag? _ rest _ ?_
  rw [spelled, List.cons_append] at found ⊢
  rw [tag?_of_head head _ other, found]
  rfl

end Piece

theorem FontTag.nul_notMem_render (tag : FontTag) : '\x00' ∉ tag.render := by
  have letters := tag.name.notMem '\x00' rfl (by decide)
  have attributes : '\x00' ∉ (tag.first :: tag.others).flatMap WrittenAttribute.render := by
    intro member
    rcases List.mem_flatMap.1 member with ⟨shape, -, inside⟩
    exact shape.nul_notMem_render inside
  rw [render]
  generalize (tag.first :: tag.others).flatMap WrittenAttribute.render = written at attributes ⊢
  simp [letters, attributes, Blanks.nul_notMem]

theorem untilNul_append (before rest : List Char) (whole : '\x00' ∉ before) :
    untilNul (before ++ rest) = before ++ untilNul rest := by
  refine List.takeWhile_append_of_pos ?_
  intro char member
  rw [bne_iff_ne]
  rintro rfl
  exact whole member

/-! ## Every written tag can be read -/

theorem leadingInteger_of_length
    (text : List Char)
    (few : (leadingDigits text).length ≤ Text.digitLimit) :
    ∃ number, Text.leadingInteger text = some number :=
  ⟨_, if_pos few⟩

section

variable (colors : String → Color)

/-- What an attribute sets can be read if every colour has a value. -/
theorem Attribute.exists_setting
    (written : Attribute)
    (readable :
      ∀ field,
        written.field? = some field →
          field.isNumber = true → (leadingDigits written.value).length ≤ Text.digitLimit) :
    ∃ setting, setting? (fun name => some (colors name)) written = .ok setting := by
  unfold field? at readable
  simp only [setting?]
  generalize String.ofList (Text.lower written.name) = name at readable ⊢
  cases found : FontField.ofWord? name with
  | none =>
      rcases unknown_settings name (FontField.ne_word_of_ofWord?_eq_none name found) with
        ⟨noName, noNumber, noColor⟩
      exact ⟨none, by rw [noName, noNumber, noColor]⟩
  | some field =>
      have number (isNumber : field.isNumber = true) :=
        leadingInteger_of_length written.value (readable field found isNumber)
      rw [FontField.word_of_ofWord? name field found]
      cases field with
      | face | family => exact ⟨_, rfl⟩
      | color | outlineColor | shadowColor | backColor => exact ⟨_, rfl⟩
      | size | outlineLevel | shadowLevel | alpha =>
          rcases number rfl with ⟨value, read⟩
          simp [FontField.word, nameSetting?, numberSetting?, read]

theorem Attribute.exists_settings
    (attributes : List Attribute)
    (readable :
      ∀ written ∈ attributes, ∀ field,
        written.field? = some field →
          field.isNumber = true → (leadingDigits written.value).length ≤ Text.digitLimit) :
    ∃ changes, settings (fun name => some (colors name)) attributes = .ok changes := by
  induction attributes with
  | nil => exact ⟨[], rfl⟩
  | cons first rest hypothesis =>
      rcases List.forall_mem_cons.1 readable with ⟨here, later⟩
      rcases exists_setting colors first here with ⟨one, firstRead⟩
      rcases hypothesis later with ⟨others, restRead⟩
      exact ⟨one.toList ++ others, by rw [settings, firstRead, restRead]⟩

/-! ## What is read -/

/-- What a value makes of a field: the text itself, the number that it starts with, or a colour. -/
def FontField.Reads (text : List Char) (content : Option String ⊕ Int) : FontField → Prop
  | face | family => content = .inl (some (String.ofList text))
  | size | outlineLevel | shadowLevel | alpha =>
      ∃ number, Text.LeadingNumber text number ∧ content = .inr number
  | color | outlineColor | shadowColor | backColor =>
      content = .inr (colors (String.ofList text))

/-- What a field can hold for a text is what the text makes of it. -/
theorem FontField.reads_of_content?
    (text : List Char)
    (content : Option String ⊕ Int)
    (field : FontField)
    (stands : field.content? (fun name => some (colors name)) text = some content) :
    field.Reads colors text content := by
  cases field with
  | face | family =>
      cases stands
      rfl
  | size | outlineLevel | shadowLevel | alpha =>
      rcases Option.map_eq_some_iff.1 stands with ⟨number, read, rfl⟩
      exact ⟨number, Text.leadingNumber_of_leadingInteger text number read, rfl⟩
  | color | outlineColor | shadowColor | backColor =>
      cases stands
      rfl

/-- The last of the attributes that name a field sets it. -/
theorem Opening.reads_of_applyTo?_font
    (before after : List Attribute)
    (written : Attribute)
    (style inside : Style)
    (applied :
      (Opening.font (before ++ written :: after)).applyTo? (fun name => some (colors name)) style =
        some inside)
    (field : FontField)
    (named : written.field? = some field)
    (last : ∀ later ∈ after, later.field? ≠ some field) :
    field.Reads colors written.value (field.value inside) :=
  field.reads_of_content? colors written.value _
    (Opening.content?_of_settles applied ⟨before, after, rfl, named, last⟩)

/--
A style that opens with attributes differs from the style around it only in the fields that they
name, and the last attribute that names a field says what the field holds.
-/
structure OpensWith (attributes : List Attribute) (outside inside : Style) : Prop where
  flags_eq : inside.flags = outside.flags
  named :
    ∀ (field : FontField) (before : List Attribute) (written : Attribute) (after : List Attribute),
      attributes = before ++ written :: after →
        written.field? = some field →
          (∀ later ∈ after, later.field? ≠ some field) →
            field.Reads colors written.value (field.value inside)
  unnamed :
    ∀ field : FontField,
      (∀ written ∈ attributes, written.field? ≠ some field) →
        field.value inside = field.value outside

theorem opensWith_of_applyTo?
    (attributes : List Attribute)
    (outside inside : Style)
    (applied :
      (Opening.font attributes).applyTo? (fun name => some (colors name)) outside = some inside) :
    OpensWith colors attributes outside inside := by
  have frame := Opening.applyTo?_font_frame _ attributes outside inside applied
  refine ⟨frame.1, ?_, frame.2⟩
  intro field before written after parts named last
  rw [parts] at applied
  exact Opening.reads_of_applyTo?_font colors before after written _ _ applied field named last

/-- The mark of a font tag changes every style as its attributes say. -/
theorem opensWith_of_marks
    (attributes : List Attribute)
    (change : Style.Change)
    (read :
      (Piece.openFont attributes).marks (fun name => some (colors name)) = .ok [.opening change])
    (style : Style) :
    OpensWith colors attributes style (style.apply change) := by
  cases Piece.marks_realise _ _ _ read with
  | cons opened others =>
      cases opened with
      | opening same => exact opensWith_of_applyTo? colors attributes style _ (same style)

theorem FontTag.exists_marks (tag : FontTag) :
    ∃ change,
      (Piece.openFont tag.attributes).marks (fun name => some (colors name)) =
        .ok [.opening change] := by
  have readable :
      ∀ written ∈ tag.attributes, ∀ field,
        written.field? = some field →
          field.isNumber = true → (leadingDigits written.value).length ≤ Text.digitLimit := by
    intro written member
    rcases List.mem_map.1 member with ⟨shape, -, rfl⟩
    exact shape.readable
  rcases Attribute.exists_settings colors tag.attributes readable with ⟨changes, read⟩
  exact ⟨{ attributes := changes }, by rw [Piece.marks, read]⟩

/--
A font tag as it can be written is one piece of a text, and what follows it is read on its own.  It
pushes one style onto any stack, in which every field that one of its attributes names is set from
the last of them, and which is the current style in everything else.
-/
theorem font_tag_opens_as_written (tag : FontTag) (rest : List Char) :
    Piece.split (untilNul (tag.render ++ rest)) =
        .openFont tag.attributes :: Piece.split (untilNul rest) ∧
      ∃ change,
        (Piece.openFont tag.attributes).marks (fun name => some (colors name)) =
            .ok [.opening change] ∧
          ∀ stack : Style.Stack,
            ∃ inside,
              stack.push change = ⟨inside :: stack.entries⟩ ∧
                OpensWith colors tag.attributes stack.current inside := by
  constructor
  · rw [untilNul_append _ rest tag.nul_notMem_render, Piece.split_of_fontTag]
  · rcases tag.exists_marks colors with ⟨change, marks⟩
    refine ⟨change, marks, ?_⟩
    intro stack
    exact ⟨_, rfl, opensWith_of_marks colors tag.attributes change marks stack.current⟩

end

/-- A field that two attributes name in different letter case, with brackets in a value. -/
example :
    let one : Blanks := ⟨['\t'], List.forall_mem_singleton.2 rfl⟩
    let empty : Blanks := ⟨[], List.forall_mem_nil _⟩
    let first : WrittenAttribute :=
      { before := one, parted := by decide, name := "size".toList, filled := by decide,
        named := by simp [Text.isBlank], left := one, right := one,
        value := .quoted '"' rfl ">9<".toList (by decide) (by decide),
        readable := fun _ _ _ => by decide +kernel }
    let second : WrittenAttribute :=
      { first with
        name := "SIZE".toList, filled := by decide, named := by simp [Text.isBlank], left := empty,
        value := .bare '-' rfl "7px".toList (by simp [Text.isBlank]),
        readable := fun _ _ _ => by decide +kernel }
    let tag : FontTag := ⟨⟨"Font".toList, rfl⟩, first, [second], one⟩
    tag.render = "<Font\tsize\t=\t\">9<\"\tSIZE=\t-7px\t>".toList ∧
      (Opening.font tag.attributes).applyTo? Color.byName Style.plain =
        some { fontSize := -7 } :=
  ⟨rfl, by cbv⟩

end TimedText.Markup
