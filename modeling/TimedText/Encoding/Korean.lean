import TimedText.Encoding.Reader
import TimedText.Encoding.Grid.KsX1001

/-!
# Korean encodings

EUC-KR and its extension, code page 949.  Both take the places of KS X 1001 as two bytes from A1 on.

EUC-KR spells a syllable that KS X 1001 lacks with eight bytes, four letters of which the first is
the filler.  Code page 949 instead has a place for each of them, in the order of their code
points, in the two-byte codes that KS X 1001 leaves over.
-/

namespace TimedText.Encoding.Korean

/-- A character of KS X 1001 from its two bytes. -/
def ksChar? (first second : UInt8) : Option Char :=
  ksX1001Grid.cellFrom? 0xA1 first.toNat second.toNat

/-! ## Syllables made of letters -/

/-- The letters that can begin a syllable, in the order of the syllables. -/
def initials : List Char :=
  "ㄱㄲㄴㄷㄸㄹㅁㅂㅃㅅㅆㅇㅈㅉㅊㅋㅌㅍㅎ".toList

/-- The letters that can end a syllable, in the order of the syllables. -/
def finals : List Char :=
  "ㄱㄲㄳㄴㄵㄶㄷㄹㄺㄻㄼㄽㄾㄿㅀㅁㅂㅄㅅㅆㅇㅈㅊㅋㅌㅍㅎ".toList

/-- The byte that stands for a letter that is not there, after the byte of the row of letters. -/
def filler : UInt8 := 0xD4

/-- The first byte of every letter. -/
def letterRow : UInt8 := 0xA4

/-- The place of a letter among others. -/
def letterIndex? (letters : List Char) (byte : UInt8) : Option Nat :=
  (ksChar? letterRow byte).bind fun letter => letters.idxOf? letter

/-- The syllable of an initial, a vowel and a final letter, each given by its second byte. -/
def composed? (initial vowel final : UInt8) : Option Char :=
  let final? := if final = filler then some 0 else (letterIndex? finals final).map (· + 1)
  match letterIndex? initials initial, final? with
  | some initial, some final =>
      if 0xBF ≤ vowel ∧ vowel ≤ 0xD3 then
        some (Char.ofNat (0xAC00 + initial * 588 + (vowel.toNat - 0xBF) * 28 + final))
      else
        none
  | _, _ => none

/-- What to make of the filler at the start of a spelled-out syllable, from the third byte on. -/
def readComposed : List UInt8 → Read
  | a :: initial :: b :: vowel :: c :: final :: _ =>
      if a = letterRow ∧ b = letterRow ∧ c = letterRow then
        match composed? initial vowel final with
        | some char => .chars [char] 7
        | none => .illegal .multibyteSequence 0
      else
        .illegal .multibyteSequence 0
  | _ => .incomplete

/-- The reader of EUC-KR. -/
def readEucKr : Reader := fun first rest =>
  if first < 0x80 then
    .chars [Char.ofNat first.toNat] 0
  else
    match rest with
    | [] => .incomplete
    | second :: rest =>
        if first = letterRow ∧ second = filler then
          readComposed rest
        else
          match ksChar? first second with
          | some char => .chars [char] 1
          | none => .illegal .multibyteSequence 0

/-! ## Code page 949 -/

/-- The numbers of a range without those of an ascending list. -/
def without : (start count : Nat) → List Nat → List Nat
  | _, 0, _ => []
  | start, count + 1, [] => start :: without (start + 1) count []
  | start, count + 1, taken :: rest =>
      if start = taken then without (start + 1) count rest
      else start :: without (start + 1) count (taken :: rest)

/-- The syllables of KS X 1001 by their code points, which ascend. -/
def listedSyllables : List Nat :=
  (ksX1001Rows.flatMap fun row => row.toList.map Char.toNat).filter fun code =>
    0xAC00 ≤ code && code ≤ 0xD7A3

/-- The syllables that KS X 1001 lacks, in the order of their code points. -/
def unlistedSyllables : Array Char :=
  ((without 0xAC00 11172 listedSyllables).map Char.ofNat).toArray

/-- The place of a second byte among those of the extension. -/
def extensionPlace? (second : Nat) : Option Nat :=
  if 0x41 ≤ second ∧ second ≤ 0x5A then some (second - 0x41)
  else if 0x61 ≤ second ∧ second ≤ 0x7A then some (second - 0x61 + 26)
  else if 0x81 ≤ second ∧ second ≤ 0xFE then some (second - 0x81 + 52)
  else none

/-- A character of the extension from its two bytes. -/
def extensionChar? (first second : UInt8) : Option Char :=
  match extensionPlace? second.toNat with
  | none => none
  | some place =>
      if 0x81 ≤ first ∧ first ≤ 0xA0 then
        unlistedSyllables[(first.toNat - 0x81) * 178 + place]?
      else if 0xA1 ≤ first ∧ first ≤ 0xC6 ∧ place < 84 then
        unlistedSyllables[32 * 178 + (first.toNat - 0xA1) * 84 + place]?
      else
        none

/-- The reader of code page 949. -/
def readCp949 : Reader := fun first rest =>
  if first < 0x80 then
    .chars [Char.ofNat first.toNat] 0
  else
    match rest with
    | [] => .incomplete
    | second :: _ =>
        match ksChar? first second <|> extensionChar? first second with
        | some char => .chars [char] 1
        | none => .illegal .multibyteSequence 0

end TimedText.Encoding.Korean
