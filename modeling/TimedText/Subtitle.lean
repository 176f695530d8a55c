import TimedText.Markup
import TimedText.Timestamp

/-!
# Subtitles

A subtitle is shown for a span of time, at a place, as segments of styled text.  One without a
length is ephemeral: it stays until the next one.  Times are in microseconds.

A subtitle can be written as a caption, for reading: its times and place on one line, then its text.
-/

namespace TimedText

/-- A subtitle that can be shown. -/
structure Subtitle where
  start : Int
  stop : Int
  ephemeral : Bool
  align : Alignment
  segments : List Segment
deriving DecidableEq, Repr

namespace Subtitle

/-- The subtitle with the given start and length. -/
def timed (start length : Int) (align : Alignment) (segments : List Segment) : Subtitle :=
  { start, stop := start + length, ephemeral := length == 0, align, segments }

/-- The text of a subtitle without its styles. -/
def text (subtitle : Subtitle) : String :=
  Segment.joinedText subtitle.segments

/-- The characters of the span in which a subtitle is shown. -/
def span (subtitle : Subtitle) : List Char :=
  (Timestamp.ofMicros subtitle.start).render ++ " --> ".toList
    ++ (if subtitle.ephemeral then "...".toList else (Timestamp.ofMicros subtitle.stop).render)

/-- The words for the place of a subtitle. -/
def placeName (subtitle : Subtitle) : String :=
  subtitle.align.vertical.name ++ "-" ++ subtitle.align.horizontal.name

/-- A subtitle for reading. -/
def caption (subtitle : Subtitle) : String :=
  String.ofList ('[' :: subtitle.span) ++ "] (" ++ subtitle.placeName ++ ")\n" ++ subtitle.text

end Subtitle

end TimedText
