import TimedText.Encoding.CodePage
import TimedText.Encoding.Grid.JisX0208
import TimedText.Encoding.Grid.JisX0212
import TimedText.Encoding.Grid.KsX1001
import TimedText.Encoding.Grid.Gb2312

/-!
# Encodings that switch character sets

The seven-bit encodings of ISO 2022.  Escape sequences put character sets into three places: the
main one, from which characters are read; the alternate one, which stands in for it between a
shift out and a shift in; and the supplementary one, from which an escape takes a single
character.

An escape that begins no sequence of this kind is let through as text, and so are the bytes after it
up to a capital letter.

A reset makes ASCII the main set again and ends a shift.  The other two sets survive it, and so does
an escape that is being let through.
-/

namespace TimedText.Encoding

/-- The encodings that switch character sets. -/
inductive EscapeVariant where
  | japanese
  | japanese2
  | korean
deriving DecidableEq, Repr

namespace EscapeCodes

/-! ## Character sets -/

/-- A character set that a sequence can put into a place. -/
inductive CharacterSet where
  | ascii
  | jisRoman
  | jisX0208
  | jisX0212
  | ksX1001
  | gb2312
  | latin1
  | greek
deriving DecidableEq, Repr

namespace CharacterSet

/-- The set that a final byte names, among those whose characters take one or two bytes. -/
def named? (double : Bool) (final : UInt8) : Option CharacterSet :=
  match double, Char.ofNat final.toNat with
  | false, 'B' => some ascii
  | false, 'J' => some jisRoman
  | false, 'A' => some latin1
  | false, 'F' => some greek
  | true, '@' => some jisX0208
  | true, 'B' => some jisX0208
  | true, 'D' => some jisX0212
  | true, 'C' => some ksX1001
  | true, 'A' => some gb2312
  | _, _ => none

/-- The grid of a set whose characters take two bytes. -/
def grid? : CharacterSet → Option Grid
  | jisX0208 => some jisX0208Grid
  | jisX0212 => some jisX0212Grid
  | ksX1001 => some ksX1001Grid
  | gb2312 => some gb2312Grid
  | _ => none

/-- The character of a single byte, where the set can be read from byte by byte. -/
def single? (set : CharacterSet) (byte : UInt8) : Option Char :=
  match set with
  | ascii => some (Char.ofNat byte.toNat)
  | jisRoman =>
      some
        (if byte = 0x5C then '¥' else if byte = 0x7E then '‾' else Char.ofNat byte.toNat)
  | _ => none

/-- A Greek character that was added to its page later. -/
def isLateGreek (byte : UInt8) : Bool :=
  byte == 0xA4 || byte == 0xA5 || byte == 0xAA

end CharacterSet

/-- The sets that an encoding uses beside ASCII. -/
def sets : EscapeVariant → List CharacterSet
  | .japanese => [.jisRoman, .jisX0208]
  | .japanese2 => [.jisRoman, .jisX0208, .jisX0212, .ksX1001, .gb2312, .latin1, .greek]
  | .korean => [.ksX1001]

/-- An encoding in which shifts bring in the alternate set. -/
def hasShifts (variant : EscapeVariant) : Bool :=
  variant == .korean

/-- An encoding that has a supplementary set. -/
def hasSupplement (variant : EscapeVariant) : Bool :=
  variant == .japanese2

/-- An encoding whose sequences may carry the mark of a revision in front. -/
def allowsRevision (variant : EscapeVariant) : Bool :=
  variant != .korean

/-! ## States -/

/-- The sets in the three places, whether a shift is on, and whether an escape is let through. -/
structure State where
  main : CharacterSet := .ascii
  alternate : CharacterSet := .ascii
  supplement : CharacterSet := .ascii
  shifted : Bool := false
  passing : Bool := false
deriving DecidableEq, Repr

namespace State

/-- The set from which characters are read. -/
def current (state : State) : CharacterSet :=
  if state.shifted then state.alternate else state.main

/-- The state after a reset. -/
def reset (state : State) : State :=
  { state with main := .ascii, shifted := false }

end State

/-- What the first byte that is left and those after it do. -/
inductive Step where
  /-- Characters and a new state, for so many bytes after the first. -/
  | read (text : List Char) (state : State) (further : Nat)
  /-- A beginning, which needs bytes that are not there yet. -/
  | incomplete
  /-- Illegal bytes. -/
  | illegal
  /-- A single character from a set that cannot be in the supplementary place. -/
  | unusable
deriving DecidableEq, Repr

/-! ## Escape sequences -/

/-- The byte that starts an escape sequence. -/
def escapeByte : UInt8 := 0x1B

/-- A byte that ends an escape sequence. -/
def isFinal (byte : UInt8) : Bool :=
  0x40 ≤ byte && byte ≤ 0x5A

/-- A second byte of an escape sequence that switches sets. -/
def isSwitch (byte : UInt8) : Bool :=
  byte == 0x24 || byte == 0x26 || byte == 0x28 || byte == 0x29 || byte == 0x2E

/-- The number of bytes after which an escape sequence has to be over. -/
def sequenceLimit : Nat := 16

/-- How the search for the end of an escape sequence comes out. -/
inductive Ending where
  | found (further : Nat)
  | incomplete
  | missing
deriving DecidableEq, Repr

/--
The end of an escape sequence, searched for from an index among its bytes on.  The mark of a
revision, which takes three bytes, is passed over.
-/
def findEnd (revisions : Bool) (index : Nat) : List UInt8 → Ending
  | [] => if index < sequenceLimit then .incomplete else .missing
  | byte :: rest =>
      if sequenceLimit ≤ index then .missing
      else if isFinal byte then .found index
      else if revisions && byte == 0x26 && rest.head? == some 0x40 then
        findEnd revisions (index + 3) (rest.drop 2)
      else
        findEnd revisions (index + 1) rest
termination_by bytes => bytes.length
decreasing_by
  all_goals
    simp only [List.length_drop, List.length_cons]
    omega

/-- A place for a character set. -/
inductive Place where
  | main
  | alternate
  | supplement
deriving DecidableEq, Repr

/-- The place and the set that a sequence names, given without its first byte. -/
def designation? (variant : EscapeVariant) : List UInt8 → Option (Place × CharacterSet)
  | [0x24, final] => (CharacterSet.named? true final).map (Place.main, ·)
  | [0x28, final] => (CharacterSet.named? false final).map (Place.main, ·)
  | [0x29, final] => (CharacterSet.named? false final).map (Place.alternate, ·)
  | [0x2E, final] =>
      if hasSupplement variant then
        (CharacterSet.named? false final).map (Place.supplement, ·)
      else
        none
  | [0x24, 0x28, final] => (CharacterSet.named? true final).map (Place.main, ·)
  | [0x24, 0x29, final] => (CharacterSet.named? true final).map (Place.alternate, ·)
  | [_, _, 0x1B, 0x24, 0x42] =>
      if allowsRevision variant then some (Place.main, CharacterSet.jisX0208) else none
  | _ => none

/-- The state with a set in a place. -/
def State.designate (state : State) (set : CharacterSet) : Place → State
  | .main => { state with main := set }
  | .alternate => { state with alternate := set }
  | .supplement => { state with supplement := set }

/-- What a switching sequence does, given without its first byte. -/
def switch (variant : EscapeVariant) (state : State) (rest : List UInt8) : Step :=
  match findEnd (allowsRevision variant) 1 rest with
  | .incomplete => .incomplete
  | .missing => .illegal
  | .found further =>
      match designation? variant (rest.take further) with
      | none => .illegal
      | some (place, set) =>
          if set = .ascii ∨ set ∈ sets variant then .read [] (state.designate set place) further
          else .illegal

/-- The single character that an escape takes from the supplementary set. -/
def supplementary (state : State) (byte : UInt8) : Step :=
  let outcome : Option Char → Step
    | some char => .read [char] state 2
    | none => .illegal
  match state.supplement with
  | .ascii => outcome (if byte < 0x80 then some (Char.ofNat byte.toNat) else none)
  | .latin1 => outcome (if byte < 0x80 then some (Char.ofNat (byte.toNat + 0x80)) else none)
  | .greek =>
      let upper := byte ^^^ 0x80
      outcome
        (if upper < 0xA0 then some (Char.ofNat upper.toNat)
        else if CharacterSet.isLateGreek upper then none
        else CodePage.iso8859Part7.char? upper)
  | _ => .unusable

/-! ## Steps -/

/-- What a byte other than a control does in a set. -/
def readFrom (set : CharacterSet) (state : State) (first : UInt8) (rest : List UInt8) : Step :=
  match set.grid? with
  | none =>
      match set.single? first with
      | some char => .read [char] state 0
      | none => .illegal
  | some grid =>
      match rest with
      | [] => .incomplete
      | second :: _ =>
          match grid.cellFrom? 0x21 first.toNat second.toNat with
          | some char => .read [char] state 1
          | none => .illegal

/-- What an escape does, given the bytes after it. -/
def readEscape (variant : EscapeVariant) (state : State) : List UInt8 → Step
  | [] => .incomplete
  | second :: rest =>
      if isSwitch second then
        switch variant state (second :: rest)
      else if hasSupplement variant && second == 0x4E then
        match rest with
        | [] => .incomplete
        | third :: _ => supplementary state third
      else
        .read ['\x1b'] { state with passing := true } 0

/-- What the first byte that is left and those after it do in a state. -/
def step (variant : EscapeVariant) (state : State) (first : UInt8) (rest : List UInt8) : Step :=
  if state.passing then
    .read [Char.ofNat first.toNat] { state with passing := !isFinal first } 0
  else if first = escapeByte then
    readEscape variant state rest
  else if hasShifts variant ∧ first = 0x0F then
    .read [] { state with shifted := false } 0
  else if hasShifts variant ∧ first = 0x0E then
    .read [] { state with shifted := true } 0
  else if first = 0x0A then
    .read ['\n'] { state with shifted := false } 0
  else if first < 0x20 then
    .read [Char.ofNat first.toNat] state 0
  else if 0x80 ≤ first then
    .illegal
  else
    readFrom state.current state first rest

/-! ## Decoding -/

/-- What comes of the bytes of a packet: a fault or characters and waiting bytes, and the state. -/
abbrev Progress := Except Fault (List Char × List UInt8) × State

/-- What comes of bytes whose first stands at a position. -/
def decodeAll
    (variant : EscapeVariant)
    (state : State)
    (position : Nat) :
    List UInt8 → Progress
  | [] => (.ok ([], []), state)
  | first :: rest =>
      match step variant state first rest with
      | .read text after further =>
          match decodeAll variant after (position + further + 1) (rest.drop further) with
          | (.ok (others, waiting), last) => (.ok (text ++ others, waiting), last)
          | (.error fault, last) => (.error fault, last)
      | .incomplete => (.ok ([], first :: rest), state)
      | .illegal => (.error (.illegal position .multibyteSequence), state)
      | .unusable => (.error (.blocked .unusableSet), state)
termination_by bytes => bytes.length
decreasing_by
  simp only [List.length_drop, List.length_cons]
  omega

/-- The most bytes that may wait for more. -/
def waitingLimit : Nat := 8

/-- The decoder of an encoding that switches sets; its state goes with the waiting bytes. -/
def decoder (variant : EscapeVariant) : Decoder where
  State := State × List UInt8
  initial := ({}, [])
  reset state := (state.1.reset, [])
  pending state := state.2
  decode state bytes :=
    match decodeAll variant state.1 0 (state.2 ++ bytes) with
    | (.ok (text, waiting), after) =>
        if waiting.length ≤ waitingLimit then (.ok text, (after, waiting))
        else (.error (.blocked .backlog), (after, state.2))
    | (.error fault, after) => (.error fault, (after, state.2))

end EscapeCodes

end TimedText.Encoding
