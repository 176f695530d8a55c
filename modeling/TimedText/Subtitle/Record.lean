import TimedText.Json
import TimedText.Subtitle

/-!
# Subtitles as records

A subtitle as a JSON object, and files that hold one such object a line.  Colours are written as
their last twenty-four bits, switches by their words, and the place by its number and its words.
-/

namespace TimedText

/-- A colour as a record holds it. -/
def Color.hexText (color : Color) : String :=
  String.ofList ('#' :: Text.hexadecimal 6 color.visible)

/-- A name that may be missing. -/
def Json.ofName? : Option String → Json
  | some name => .str name
  | none => .null

namespace Style

/-- The record of a style. -/
def record (style : Style) : Json :=
  .obj
    [ ("flags", .arr (style.flagNames.map .str)),
      ("font_name", .ofName? style.fontName),
      ("mono_font_name", .ofName? style.monoFontName),
      ("font_size", .int style.fontSize),
      ("font_color", .str style.fontColor.hexText),
      ("outline_color", .str style.outlineColor.hexText),
      ("shadow_color", .str style.shadowColor.hexText),
      ("background_color", .str style.backgroundColor.hexText),
      ("font_alpha", .int style.fontAlpha),
      ("outline_width", .int style.outlineWidth),
      ("shadow_width", .int style.shadowWidth) ]

end Style

/-- The record of a segment. -/
def Segment.record (segment : Segment) : Json :=
  .obj [("text", .str segment.text), ("style", segment.style.record)]

/-- The record of a place. -/
def Alignment.record (align : Alignment) : Json :=
  .obj
    [ ("value", .int align.bits),
      ("vertical", .str align.vertical.name),
      ("horizontal", .str align.horizontal.name) ]

namespace Subtitle

/-- The record of a subtitle. -/
def record (subtitle : Subtitle) : Json :=
  .obj
    [ ("start_us", .int subtitle.start),
      ("stop_us", .int subtitle.stop),
      ("ephemeral", .bool subtitle.ephemeral),
      ("align", subtitle.align.record),
      ("text", .str subtitle.text),
      ("segments", .arr (subtitle.segments.map Segment.record)) ]

/-- The line of a subtitle in a file of records. -/
def recordLine (subtitle : Subtitle) : List Char :=
  subtitle.record.render false ++ ['\n']

/-- The lines of subtitles in a file of records. -/
def recordLines (subtitles : List Subtitle) : List Char :=
  subtitles.flatMap recordLine

end Subtitle

end TimedText
