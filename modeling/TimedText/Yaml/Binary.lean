/-!
# Bytes in a YAML text

Bytes are written with sixty-four characters, each for six bits, so that four characters make three
bytes.  Equals signs fill up the last four.  Any other character is passed over.
-/

namespace TimedText.Yaml.Binary

/-- The six bits of a character. -/
def sixBits? (char : Char) : Option Nat :=
  if 'A' ≤ char ∧ char ≤ 'Z' then some (char.toNat - 65)
  else if 'a' ≤ char ∧ char ≤ 'z' then some (char.toNat - 71)
  else if char.isDigit then some (char.toNat + 4)
  else if char = '+' then some 62
  else if char = '/' then some 63
  else none

/-- The byte that the last six bits before a place make with the ones there. -/
def joined (place earlier bits : Nat) : List UInt8 :=
  match place with
  | 0 => []
  | 1 => [UInt8.ofNat (earlier * 4 + bits / 16)]
  | 2 => [UInt8.ofNat (earlier * 16 + bits / 4)]
  | _ => [UInt8.ofNat (earlier * 64 + bits)]

/--
The bytes of the characters from one place in a group of four on; `fillers` is the number of
equals signs just before.  The end may come only between groups, or once equals signs have filled
up a group of at least two characters.
-/
def bytes? (place fillers earlier : Nat) : List Char → Option (List UInt8)
  | [] => if place = 0 then some [] else none
  | '=' :: rest =>
      if 2 ≤ place then
        if 4 ≤ place + fillers + 1 then some [] else bytes? place (fillers + 1) earlier rest
      else
        bytes? place fillers earlier rest
  | char :: rest =>
      match sixBits? char with
      | none => bytes? place fillers earlier rest
      | some bits =>
          (bytes? ((place + 1) % 4) 0 bits rest).map (joined place (earlier % 64) bits ++ ·)

/-- The bytes that a scalar stands for. -/
def ofText? (text : List Char) : Option (List UInt8) :=
  if text.all fun char => char.toNat < 0x80 then bytes? 0 0 0 text else none

example : ofText? "Q1A5 NDk=".toList = some [0x43, 0x50, 0x39, 0x34, 0x39] := by decide

example : ofText? "Q1A5NDk".toList = none := by decide

end TimedText.Yaml.Binary
