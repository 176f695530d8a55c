import TimedText.Session

/-!
# Packets of a command line

Standard input is read line by line, a file as one packet or line by line.  The ends of lines
belong to no packet, and empty lines make none.

The packets have no times of their own.  Each is shown for the same time, one after the other; where
that time is nothing they are a microsecond apart.
-/

namespace TimedText.CommandLine

/-! ## Lines -/

/-- The line feed. -/
def lineFeed : UInt8 := 0x0A

/-- The carriage return. -/
def carriageReturn : UInt8 := 0x0D

/-- The bytes without those at the end that pass a test. -/
def dropEnd (test : UInt8 → Bool) (bytes : List UInt8) : List UInt8 :=
  (bytes.reverse.dropWhile test).reverse

/-- The lines of a stream, each with the line feed at its end. -/
def linesWithEnds : List UInt8 → List (List UInt8)
  | [] => []
  | byte :: rest =>
      if byte = lineFeed then [byte] :: linesWithEnds rest
      else
        match linesWithEnds rest with
        | [] => [[byte]]
        | first :: others => (byte :: first) :: others

/-- The packets of a stream: its lines without the line feeds and carriage returns at their ends. -/
def streamPackets (input : List UInt8) : List (List UInt8) :=
  ((linesWithEnds input).map
    (dropEnd fun byte => byte == lineFeed || byte == carriageReturn)).filter (!·.isEmpty)

/-- The pieces of bytes between line feeds. -/
def splitLines : List UInt8 → List (List UInt8)
  | [] => [[]]
  | byte :: rest =>
      if byte = lineFeed then [] :: splitLines rest
      else
        match splitLines rest with
        | [] => [[byte]]
        | first :: others => (byte :: first) :: others

/--
The packets of a file: the whole of it, or its lines without the carriage returns at their ends.
-/
def filePackets (byLine : Bool) (content : List UInt8) : List (List UInt8) :=
  if byLine then
    ((splitLines content).map (dropEnd (· == carriageReturn))).filter (!·.isEmpty)
  else
    [content]

/-! ## Times -/

/-- The time for which a packet is shown, in microseconds, from one in milliseconds. -/
def shownFor (duration : Int) : Int :=
  max 0 duration * 1000

/-- The packet of a place in the order of packets, counted from zero. -/
def packetAt (duration : Int) (index : Nat) (data : List UInt8) : Packet :=
  { data,
    start := some ((index + 1) * max (shownFor duration) 1),
    length := shownFor duration }

end TimedText.CommandLine
