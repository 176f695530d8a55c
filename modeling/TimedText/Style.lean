import TimedText.Color

/-!
# Styles

How a run of text looks: font names, size, colours, widths and four independent switches.  A style
is a value; markup makes new styles from old ones by a `Style.Change`, which adds switches and
sets the attributes that it names.
-/

namespace TimedText

/-- The switches of a style as a bit set.  Bits without a name are kept. -/
abbrev StyleFlags := Nat

/-- A switch of a style. -/
inductive StyleFlag where
  | bold
  | italic
  | underline
  | strikeout
deriving DecidableEq, Repr

namespace StyleFlag

/-- The position of a switch among the bits. -/
def position : StyleFlag → Nat
  | bold => 0
  | italic => 1
  | underline => 5
  | strikeout => 6

/-- A switch as a bit set with one member. -/
def bits (flag : StyleFlag) : StyleFlags :=
  Nat.pow 2 flag.position

/-- The word for a switch. -/
def name : StyleFlag → String
  | bold => "bold"
  | italic => "italic"
  | underline => "underline"
  | strikeout => "strikeout"

/-- The switches in the order in which they are listed. -/
def all : List StyleFlag := [bold, italic, underline, strikeout]

end StyleFlag

/-- The look of a run of text. -/
structure Style where
  flags : StyleFlags := 0
  fontName : Option String := none
  monoFontName : Option String := none
  fontSize : Int := 0
  fontColor : Color := 0xFFFFFF
  outlineColor : Color := 0
  shadowColor : Color := 0
  backgroundColor : Color := 0xFFFFFF
  fontAlpha : Int := 0xFF
  outlineWidth : Int := 1
  shadowWidth : Int := 0
deriving DecidableEq, Repr

namespace Style

/-- The look of text outside all markup. -/
def plain : Style := {}

/-- A switch that is on in a style. -/
def has (style : Style) (flag : StyleFlag) : Bool :=
  style.flags.testBit flag.position

/-- The words for the switches that are on. -/
def flagNames (style : Style) : List String :=
  (StyleFlag.all.filter style.has).map (·.name)

/-- An attribute of a style with its new value. -/
inductive Attribute where
  | fontName (name : Option String)
  | monoFontName (name : Option String)
  | fontSize (size : Int)
  | fontColor (color : Color)
  | outlineColor (color : Color)
  | shadowColor (color : Color)
  | backgroundColor (color : Color)
  | fontAlpha (alpha : Int)
  | outlineWidth (width : Int)
  | shadowWidth (width : Int)
deriving DecidableEq, Repr

namespace Attribute

/-- The word for an attribute. -/
def name : Attribute → String
  | fontName _ => "font_name"
  | monoFontName _ => "mono_font_name"
  | fontSize _ => "font_size"
  | fontColor _ => "font_color"
  | outlineColor _ => "outline_color"
  | shadowColor _ => "shadow_color"
  | backgroundColor _ => "background_color"
  | fontAlpha _ => "font_alpha"
  | outlineWidth _ => "outline_width"
  | shadowWidth _ => "shadow_width"

/-- The style with one attribute set. -/
def apply (style : Style) : Attribute → Style
  | fontName name => { style with fontName := name }
  | monoFontName name => { style with monoFontName := name }
  | fontSize size => { style with fontSize := size }
  | fontColor color => { style with fontColor := color }
  | outlineColor color => { style with outlineColor := color }
  | shadowColor color => { style with shadowColor := color }
  | backgroundColor color => { style with backgroundColor := color }
  | fontAlpha alpha => { style with fontAlpha := alpha }
  | outlineWidth width => { style with outlineWidth := width }
  | shadowWidth width => { style with shadowWidth := width }

end Attribute

/-- The attributes of a style with their values. -/
def attributes (style : Style) : List Attribute :=
  [ .fontName style.fontName,
    .monoFontName style.monoFontName,
    .fontSize style.fontSize,
    .fontColor style.fontColor,
    .outlineColor style.outlineColor,
    .shadowColor style.shadowColor,
    .backgroundColor style.backgroundColor,
    .fontAlpha style.fontAlpha,
    .outlineWidth style.outlineWidth,
    .shadowWidth style.shadowWidth ]

/-- The words for the attributes. -/
def attributeNames : List String :=
  plain.attributes.map Attribute.name

/-- A change of style: switches to add and attributes to set, the last one of a kind winning. -/
structure Change where
  flags : StyleFlags := 0
  attributes : List Attribute := []
deriving DecidableEq, Repr

/-- The change that adds one switch. -/
def Change.ofFlag (flag : StyleFlag) : Change :=
  { flags := flag.bits }

/-- The style after a change. -/
def apply (style : Style) (change : Change) : Style :=
  change.attributes.foldl Attribute.apply { style with flags := style.flags ||| change.flags }

@[simp]
theorem flags_applyAttribute (style : Style) (setting : Attribute) :
    (Attribute.apply style setting).flags = style.flags := by
  cases setting <;> rfl

/-- A change adds its switches to those that are on, and its attributes leave them alone. -/
theorem flags_apply (style : Style) (change : Change) :
    (style.apply change).flags = style.flags ||| change.flags := by
  have unchanged :
      ∀ (attributes : List Attribute) (start : Style),
        (attributes.foldl Attribute.apply start).flags = start.flags := by
    intro attributes
    induction attributes with
    | nil => intro start; rfl
    | cons first rest hypothesis => intro start; simp [hypothesis]
  simp [apply, unchanged]

end Style

end TimedText
