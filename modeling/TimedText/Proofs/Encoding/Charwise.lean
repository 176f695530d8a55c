import TimedText.Encoding
import TimedText.Proofs.Encoding.Utf8

/-!
# Texts written character by character

Under ASCII, ISO 8859-1 and the code pages every byte stands alone: a table says which character it
is, if it is one.  The lower half of every table is basic Latin.  So a text is written with as many
bytes as it has characters, basic Latin with the bytes of its numbers, and is read back.

In UTF-8 a character takes up to four bytes, but those below 80 stand for themselves there too.  All
that tells lines apart follows from that: a line feed is the byte 0A and nothing else is.
-/

namespace TimedText.Encoding

/-- The characters of the bytes, where every byte stands alone. -/
def table? : Encoding → Option (UInt8 → Option Char)
  | ascii => some fun byte => if byte < 0x80 then some (Char.ofNat byte.toNat) else none
  | latin1 => some fun byte => some (Char.ofNat byte.toNat)
  | page codePage => some codePage.char?
  | _ => none

/-- A byte stands for a character, and if the character is basic Latin the byte has its number. -/
def Stands (table : UInt8 → Option Char) (byte : UInt8) (char : Char) : Prop :=
  table byte = some char ∧ (char.toNat < 0x80 → byte.toNat = char.toNat)

variable {encoding : Encoding} {table : UInt8 → Option Char}

/-- The lower half of a table is basic Latin. -/
theorem table_of_basic
    (tabled : encoding.table? = some table)
    {byte : UInt8}
    (basic : byte.toNat < 0x80) :
    table byte = some (Char.ofNat byte.toNat) := by
  have small : byte < 0x80 := UInt8.lt_iff_toNat_lt.2 basic
  cases encoding with
  | ascii =>
      cases tabled
      exact if_pos small
  | latin1 =>
      cases tabled
      rfl
  | page codePage =>
      cases tabled
      exact if_pos small
  | _ => cases tabled

/-- The reader of an encoding of single bytes looks its characters up. -/
theorem reader?_of_table?
    (tabled : encoding.table? = some table) :
    ∃ reader,
      encoding.reader? = some reader ∧
        ∀ byte char rest, table byte = some char → reader byte rest = .chars [char] 0 := by
  cases encoding with
  | ascii =>
      cases tabled
      refine ⟨_, rfl, fun byte char rest found => ?_⟩
      rw [Option.ite_none_right_eq_some, Option.some_inj] at found
      rw [readAscii, if_pos found.1, found.2]
  | latin1 =>
      cases tabled
      refine ⟨_, rfl, fun byte char rest found => ?_⟩
      rw [readLatin1, Option.some_inj.1 found]
  | page codePage =>
      cases tabled
      refine ⟨_, rfl, fun byte char rest found => ?_⟩
      rw [CodePage.read, found]
  | _ => cases tabled

/-- Bytes that stand for the characters of a text are read as the text. -/
theorem decodeAll_of_stands
    {reader : Reader}
    (reads : ∀ byte char rest, table byte = some char → reader byte rest = .chars [char] 0)
    {bytes : List UInt8}
    {text : List Char}
    (written : List.Forall₂ (Stands table) bytes text)
    (position : Nat) :
    reader.decodeAll position bytes = .ok (text, []) := by
  induction written generalizing position with
  | nil => rw [Reader.decodeAll]
  | @cons byte char rest others stands written hypothesis =>
      rw [Reader.decodeAll, reads byte char rest stands.1]
      dsimp only
      rw [List.drop_zero, hypothesis]
      rfl

/-- A text takes at most four bytes in UTF-8 for each of its characters. -/
theorem Utf8.size_le_of_length (text : List Char) : Utf8.size text ≤ 4 * text.length := by
  have each (char : Char) : Utf8.charSize char ≤ 4 := by
    unfold Utf8.charSize
    dsimp only
    split_ifs <;> omega
  induction text with
  | nil => exact Nat.le_refl 0
  | cons char rest hypothesis =>
      have here := each char
      rw [Utf8.size] at hypothesis ⊢
      rw [List.foldr_cons, List.length_cons]
      omega

/-! ## Lines -/

/--
Texts are written character by character, in bytes of which those below 80 stand for themselves, a
line feed among them.
-/
structure IsCharwise (Writes : List UInt8 → List Char → Prop) : Prop where
  append :
    ∀ {bytes left right},
      Writes bytes (left ++ right) →
        ∃ first second, bytes = first ++ second ∧ Writes first left ∧ Writes second right
  filled : ∀ {text}, Writes [] text → text = []
  feed : ∀ {bytes}, Writes bytes ['\n'] → bytes = [0x0A]
  basic :
    ∀ {bytes text},
      Writes bytes text → ∀ byte ∈ bytes, byte.toNat < 0x80 → Char.ofNat byte.toNat ∈ text

theorem isCharwise_utf8 : IsCharwise fun bytes text => bytes = Utf8.encode text where
  append written := ⟨_, _, written.trans (List.flatMap_append), rfl, rfl⟩
  filled written := Utf8.encode_injective written.symm
  feed written := written
  basic := by
    rintro _ text rfl byte member basic
    rcases List.mem_flatMap.1 member with ⟨char, inside, among⟩
    have code :=
      Utf8.code_of_mem_of_sequence _ _ (Utf8.sequence_encodeChar char) byte among basic
    rwa [← code, Char.ofNat_toNat]

theorem isCharwise_table
    (tabled : encoding.table? = some table) :
    IsCharwise (List.Forall₂ (Stands table)) where
  append written :=
    ⟨_, _, (List.take_append_drop _ _).symm, List.forall₂_take_append _ _ _ written,
      List.forall₂_drop_append _ _ _ written⟩
  filled written := List.forall₂_nil_left_iff.1 written
  feed written := by
    rcases List.forall₂_cons_right_iff.1 written with ⟨byte, rest, stands, nothing, rfl⟩
    have code : byte = 0x0A := UInt8.toNat_inj.1 (stands.2 (by decide))
    cases nothing
    rw [code]
  basic := by
    intro bytes text written byte member basic
    rcases List.forall₂_iff_get.1 written with ⟨length, each⟩
    rcases List.mem_iff_get.1 member with ⟨index, rfl⟩
    have stands := (each index.val index.isLt (length ▸ index.isLt)).1
    rw [table_of_basic tabled basic, Option.some_inj] at stands
    rw [stands]
    exact List.get_mem _ _

/-- The lines of a written text are written between its line feeds. -/
theorem IsCharwise.exists_blocks
    {Writes : List UInt8 → List Char → Prop}
    (charwise : IsCharwise Writes)
    {lines : List (List Char)}
    (filled : lines ≠ [])
    {content : List UInt8}
    (written : Writes content (['\n'].intercalate lines)) :
    ∃ blocks, content = [0x0A].intercalate blocks ∧ List.Forall₂ Writes blocks lines := by
  induction lines generalizing content with
  | nil => exact (filled rfl).elim
  | cons line rest hypothesis =>
      cases rest with
      | nil =>
          rw [List.intercalate_singleton] at written
          exact ⟨[content], (List.intercalate_singleton).symm, .cons written .nil⟩
      | cons next others =>
          rw [List.intercalate_cons_cons, List.append_assoc] at written
          rcases charwise.append written with ⟨block, behind, rfl, here, written⟩
          rcases charwise.append written with ⟨feed, remaining, rfl, fed, written⟩
          rcases hypothesis (List.cons_ne_nil _ _) written with ⟨blocks, rfl, spelled⟩
          rw [charwise.feed fed]
          cases spelled with
          | cons first rest =>
              refine ⟨_, ?_, .cons here (.cons first rest)⟩
              rw [List.intercalate_cons_cons, List.append_assoc]

end TimedText.Encoding
