import TimedText.Proofs.Markup.StyleRange
import TimedText.Proofs.Session.Placement
import TimedText.Subtitle.Record

/-!
# Reading records of subtitles

A record holds less than a subtitle may: of a colour its last twenty-four bits, of the switches those
that have names, of the place the words for its two parts.  Nothing is lost of a subtitle that a
session has decoded with the colours of the web names.  Its styles are within range, and its place
is one of the nine.

A record is read back here field by field, each by its name.  The number of the place is not looked
at, so the words alone give the place.
-/

namespace TimedText

/-- Items that are read back one by one are read back in a row. -/
theorem mapM_map_eq_some
    {Item Written : Type}
    (write : Item → Written)
    (read? : Written → Option Item)
    (items : List Item)
    (back : ∀ item ∈ items, read? (write item) = some item) :
    (items.map write).mapM read? = some items := by
  induction items with
  | nil => rfl
  | cons item rest hypothesis =>
      rw [List.forall_mem_cons] at back
      rw [List.map_cons, List.mapM_cons, back.1, hypothesis back.2]
      rfl

/-! ## Digits and words -/

namespace Text

/-- The number of a row of hexadecimal digits, if it holds no other characters. -/
def hexadecimalValue? (digits : List Char) : Option Nat :=
  digits.foldlM (fun value digit => (Json.hexDigit? digit).map (16 * value + ·)) 0

theorem hexDigit?_digitChar (digit : Nat) (small : digit < 16) :
    Json.hexDigit? (digitChar digit) = some digit := by
  have each : ∀ digit < 16, Json.hexDigit? (digitChar digit) = some digit := by decide
  exact each digit small

/-- Hexadecimal digits give back what of a number fits into them. -/
theorem hexadecimalValue?_hexadecimal (width value : Nat) :
    hexadecimalValue? (hexadecimal width value) = some (value % 16 ^ width) := by
  induction width generalizing value with
  | zero => exact congrArg some (Nat.mod_one value).symm
  | succ width hypothesis =>
      have last := hexDigit?_digitChar (value % 16) (Nat.mod_lt value (by decide))
      have whole : value % 16 ^ (width + 1) = 16 * (value / 16 % 16 ^ width) + value % 16 := by
        rw [pow_succ', Nat.mod_mul, Nat.add_comm]
      unfold hexadecimalValue? at hypothesis ⊢
      rw [hexadecimal, List.foldlM_append, hypothesis, whole]
      simp [last]

end Text

namespace Color

/-- The colour of a text as records hold it. -/
def ofHexText? (text : String) : Option Color :=
  match text.toList with
  | '#' :: digits => (Text.hexadecimalValue? digits).map Int.ofNat
  | _ => none

theorem ofHexText?_hexText (color : Color) (proper : color.IsProper) :
    ofHexText? color.hexText = some color := by
  have shown : color.visible % 16 ^ 6 = color.visible :=
    Nat.mod_eq_of_lt (by unfold visible; omega)
  have whole : Int.ofNat color.visible = color :=
    calc
      Int.ofNat color.visible = color % 0x1000000 :=
        Int.toNat_of_nonneg (Int.emod_nonneg color (by decide))
      _ = color := Int.emod_eq_of_lt proper.1 (Int.lt_add_one_of_le proper.2)
  simp only [ofHexText?, hexText, String.toList_ofList, Text.hexadecimalValue?_hexadecimal, shown,
    Option.map_some, whole]

end Color

namespace StyleFlag

/-- The switch of a word. -/
def ofName? (name : String) : Option StyleFlag :=
  all.find? fun flag => flag.name == name

/-- Switches as a bit set. -/
def joined (flags : List StyleFlag) : StyleFlags :=
  flags.foldl (fun bits flag => bits ||| flag.bits) 0

theorem ofName?_name (flag : StyleFlag) : ofName? flag.name = some flag := by
  cases flag <;> decide

end StyleFlag

/-- Switches that have names are found again among all switches. -/
theorem Style.joined_filter_has (style : Style) (named : style.flags &&& namedFlags = style.flags) :
    StyleFlag.joined (StyleFlag.all.filter style.has) = style.flags := by
  have each : ∀ flags ≤ namedFlags, flags &&& namedFlags = flags →
      StyleFlag.joined (StyleFlag.all.filter fun flag => flags.testBit flag.position) = flags := by
    decide +kernel
  exact each style.flags (named ▸ Nat.and_le_right) named

/-- The part of a word, from top to bottom. -/
def Vertical.ofName? (name : String) : Option Vertical :=
  [Vertical.top, .middle, .bottom].find? fun part => part.name == name

/-- The part of a word, from left to right. -/
def Horizontal.ofName? (name : String) : Option Horizontal :=
  [Horizontal.left, .center, .right].find? fun part => part.name == name

/-- The place of two words. -/
def Alignment.ofNames? (vertical horizontal : String) : Option Alignment :=
  match Vertical.ofName? vertical, Horizontal.ofName? horizontal with
  | some vertical, some horizontal => some (.place vertical horizontal)
  | _, _ => none

/-- One of the nine places is given by its words. -/
theorem Alignment.ofNames?_name (align : Alignment) (placed : align.IsPlace) :
    ofNames? align.vertical.name align.horizontal.name = some align := by
  rcases placed with ⟨vertical, horizontal, rfl⟩
  cases vertical <;> cases horizontal <;> decide

/-! ## Fields -/

namespace Json

def text? : Json → Option String
  | str value => some value
  | _ => none

def whole? : Json → Option Int
  | int value => some value
  | _ => none

def switch? : Json → Option Bool
  | bool value => some value
  | _ => none

def items? : Json → Option (List Json)
  | arr items => some items
  | _ => none

/-- A name that may be missing. -/
def name? : Json → Option (Option String)
  | str value => some (some value)
  | null => some none
  | _ => none

/-- What a reader makes of a member of an object. -/
def field? {α : Type} (record : Json) (name : String) (reader : Json → Option α) : Option α :=
  (record.member? name).bind reader

/-- What is read of a member that is there is what its value is read as. -/
theorem field?_of_member
    {α : Type}
    {record value : Json}
    {name : String}
    {reader : Json → Option α}
    {content : α}
    (found : record.member? name = some value)
    (read : reader value = some content) :
    record.field? name reader = some content := by
  rw [field?, found, Option.bind_some, read]

theorem name?_ofName? (name : Option String) : (Json.ofName? name).name? = some name := by
  cases name <;> rfl

end Json

/-- The place of a record, from its words alone. -/
def Alignment.ofRecord? (record : Json) : Option Alignment := do
  ofNames? (← record.field? "vertical" Json.text?) (← record.field? "horizontal" Json.text?)

/-- The colour of a field. -/
def Json.color? (value : Json) : Option Color :=
  value.text?.bind Color.ofHexText?

/-- The switches of a field. -/
def Json.flags? (value : Json) : Option StyleFlags := do
  let names ← (← value.items?).mapM Json.text?
  return StyleFlag.joined (← names.mapM StyleFlag.ofName?)

/-- The style of a record. -/
def Style.ofRecord? (record : Json) : Option Style := do
  return {
    flags := ← record.field? "flags" Json.flags?
    fontName := ← record.field? "font_name" Json.name?
    monoFontName := ← record.field? "mono_font_name" Json.name?
    fontSize := ← record.field? "font_size" Json.whole?
    fontColor := ← record.field? "font_color" Json.color?
    outlineColor := ← record.field? "outline_color" Json.color?
    shadowColor := ← record.field? "shadow_color" Json.color?
    backgroundColor := ← record.field? "background_color" Json.color?
    fontAlpha := ← record.field? "font_alpha" Json.whole?
    outlineWidth := ← record.field? "outline_width" Json.whole?
    shadowWidth := ← record.field? "shadow_width" Json.whole? }

/-- The segment of a record. -/
def Segment.ofRecord? (record : Json) : Option Segment := do
  return {
    text := ← record.field? "text" Json.text?
    style := ← record.field? "style" Style.ofRecord? }

/-- The subtitle of a record. -/
def Subtitle.ofRecord? (record : Json) : Option Subtitle := do
  let items ← record.field? "segments" Json.items?
  return {
    start := ← record.field? "start_us" Json.whole?
    stop := ← record.field? "stop_us" Json.whole?
    ephemeral := ← record.field? "ephemeral" Json.switch?
    align := ← record.field? "align" Alignment.ofRecord?
    segments := ← items.mapM Segment.ofRecord? }

/-! ## What is written is read -/

theorem Json.color?_hexText (color : Color) (proper : color.IsProper) :
    (Json.str color.hexText).color? = some color := by
  rw [color?, text?, Option.bind_some, Color.ofHexText?_hexText color proper]

/-- Switches that have names are read from their names. -/
theorem Json.flags?_flagNames
    (style : Style)
    (named : style.flags &&& Style.namedFlags = style.flags) :
    (Json.arr (style.flagNames.map .str)).flags? = some style.flags := by
  have texts : (style.flagNames.map Json.str).mapM Json.text? = some style.flagNames :=
    mapM_map_eq_some Json.str Json.text? style.flagNames fun name _ => rfl
  have flags : style.flagNames.mapM StyleFlag.ofName? = some (StyleFlag.all.filter style.has) :=
    mapM_map_eq_some StyleFlag.name StyleFlag.ofName? _ fun flag _ => flag.ofName?_name
  simp [flags?, items?, texts, flags, style.joined_filter_has named]

/-- A style within range is read from its record. -/
theorem Style.ofRecord?_record (style : Style) (range : style.InRange) :
    ofRecord? style.record = some style := by
  have flags : style.record.field? "flags" Json.flags? = some style.flags :=
    Json.field?_of_member rfl (Json.flags?_flagNames style range.flags)
  have fontName : style.record.field? "font_name" Json.name? = some style.fontName :=
    Json.field?_of_member rfl (Json.name?_ofName? style.fontName)
  have monoFontName : style.record.field? "mono_font_name" Json.name? = some style.monoFontName :=
    Json.field?_of_member rfl (Json.name?_ofName? style.monoFontName)
  have fontColor : style.record.field? "font_color" Json.color? = some style.fontColor :=
    Json.field?_of_member rfl (Json.color?_hexText style.fontColor range.fontColor)
  have outline : style.record.field? "outline_color" Json.color? = some style.outlineColor :=
    Json.field?_of_member rfl (Json.color?_hexText style.outlineColor range.outlineColor)
  have shadow : style.record.field? "shadow_color" Json.color? = some style.shadowColor :=
    Json.field?_of_member rfl (Json.color?_hexText style.shadowColor range.shadowColor)
  have background :
      style.record.field? "background_color" Json.color? = some style.backgroundColor :=
    Json.field?_of_member rfl (Json.color?_hexText style.backgroundColor range.backgroundColor)
  rw [ofRecord?, flags, fontName, monoFontName, fontColor, outline, shadow, background]
  rfl

theorem Segment.ofRecord?_record (segment : Segment) (range : segment.style.InRange) :
    ofRecord? segment.record = some segment := by
  have style : segment.record.field? "style" Style.ofRecord? = some segment.style :=
    Json.field?_of_member rfl (segment.style.ofRecord?_record range)
  rw [ofRecord?, style]
  rfl

/-- A subtitle in one of the nine places and in styles within range is read from its record. -/
theorem Subtitle.ofRecord?_record
    (subtitle : Subtitle)
    (placed : subtitle.align.IsPlace)
    (range : ∀ segment ∈ subtitle.segments, segment.style.InRange) :
    ofRecord? subtitle.record = some subtitle := by
  have align : subtitle.record.field? "align" Alignment.ofRecord? = some subtitle.align :=
    Json.field?_of_member rfl (subtitle.align.ofNames?_name placed)
  have segments : (subtitle.segments.map Segment.record).mapM Segment.ofRecord? =
      some subtitle.segments :=
    mapM_map_eq_some Segment.record Segment.ofRecord? subtitle.segments fun segment member =>
      segment.ofRecord?_record (range segment member)
  have items : subtitle.record.field? "segments" Json.items? =
      some (subtitle.segments.map Segment.record) :=
    rfl
  rw [ofRecord?, items, align]
  simp only [Option.bind_eq_bind, Option.bind_some, segments]
  rfl

/-! ## Decoded subtitles -/

namespace Subtitle

/-- A subtitle that a session has decoded with the colours of the web names. -/
def IsDecoded (subtitle : Subtitle) : Prop :=
  ∃ (session : Session) (packet : Packet),
    session.lookup = Color.byName ∧ (session.decode packet).result = .ok (some subtitle)

theorem IsDecoded.isPlace {subtitle : Subtitle} (decoded : subtitle.IsDecoded) :
    subtitle.align.IsPlace := by
  rcases decoded with ⟨session, packet, -, shown⟩
  exact session.isPlace_of_decode packet subtitle shown

theorem IsDecoded.inRange {subtitle : Subtitle} (decoded : subtitle.IsDecoded) :
    ∀ segment ∈ subtitle.segments, segment.style.InRange := by
  rcases decoded with ⟨session, packet, webColors, shown⟩
  rcases session.shown_of_decode packet subtitle shown with ⟨start, text, outcome, -, parsed, rfl⟩
  intro segment member
  have colors : session.lookup.IsProper := webColors ▸ Color.isProper_byName
  by_cases formatted : session.settings.formatted = true
  · rw [timed, Session.styled, if_pos formatted] at member
    exact Markup.inRange_of_parse colors _ text outcome parsed segment member
  · rw [timed, Session.styled, if_neg formatted, List.mem_singleton] at member
    rw [member]
    exact Style.inRange_plain

/--
A subtitle that a session has decoded is read from its record.  So no other decoded subtitle has the
same record, and the two words for its place are enough to tell the place.
-/
theorem record_determines_decoded (subtitle : Subtitle) (decoded : subtitle.IsDecoded) :
    ofRecord? subtitle.record = some subtitle ∧
      (∀ other : Subtitle, other.IsDecoded → other.record = subtitle.record → other = subtitle) ∧
      ∀ other : Subtitle,
        other.IsDecoded →
          other.align.vertical.name = subtitle.align.vertical.name →
            other.align.horizontal.name = subtitle.align.horizontal.name →
              other.align = subtitle.align := by
  have reads : ∀ decoded : Subtitle, decoded.IsDecoded →
      ofRecord? decoded.record = some decoded :=
    fun one decoded => one.ofRecord?_record decoded.isPlace decoded.inRange
  refine ⟨reads subtitle decoded, ?_, ?_⟩
  · intro other otherDecoded same
    have read := reads other otherDecoded
    rw [same, reads subtitle decoded] at read
    exact (Option.some_inj.1 read).symm
  · intro other otherDecoded vertical horizontal
    have placed := other.align.ofNames?_name otherDecoded.isPlace
    rw [vertical, horizontal, subtitle.align.ofNames?_name decoded.isPlace] at placed
    exact (Option.some_inj.1 placed).symm

/-- A subtitle at the top left with two switches, a colour, a negative size and a quoted name. -/
def signboard : Subtitle :=
  .timed 1000000 0 (.place .top .left)
    [ { text := "" },
      { text := "", style := { flags := 2 } },
      { text := "", style := { flags := 0x22 } },
      { text := "x",
        style :=
          { flags := 0x22, fontName := some "A \"B\"", fontSize := -3, fontColor := 0x00FFFF } },
      { text := "y", style := { flags := 0x22 } } ]

set_option maxRecDepth 1000 in
/-- The words for a place and nested markup are read from a record again. -/
theorem record_determines_decoded_of_signboard :
    signboard.IsDecoded ∧ ofRecord? signboard.record = some signboard := by
  let session : Session :=
    { codec := .subt, settings := {}, converter := .direct, lookup := Color.byName }
  let text := "\x7b\\an7\x7d\x7bY:iu\x7d<font color=Aqua size=-3 face='A \"B\"'>x</b>y"
  have shown :
      (session.decode
          { data := Encoding.Utf8.encode text.toList, start := some 1000000 }).result =
        .ok (some signboard) := by
    cbv
  have decoded : signboard.IsDecoded := ⟨session, _, rfl, shown⟩
  exact ⟨decoded, (record_determines_decoded signboard decoded).1⟩

end Subtitle

end TimedText
