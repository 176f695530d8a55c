import TimedText.Proofs.Converter.Utf8
import TimedText.Proofs.Converter.Wide
import TimedText.Proofs.Encoding.Charwise
import TimedText.Proofs.Session.Passage

/-!
# Converters that packets leave as they are

In direct mode, and in convert mode under an encoding that has a reader, no packet changes the
converter.  So each packet is read on its own, wherever the input is cut into packets, and what comes
of one is known from its bytes alone.

The written form of a text is read back in each of these ways, as long as it holds no NUL character.
Under UTF-16 the converse holds too: bytes that are read at all are the written form of what is read,
so a packet with an odd number of bytes is always a failure.
-/

namespace TimedText.Converter

open Encoding (ByteOrder)

/-! ## Packets that change nothing -/

/-- Every packet leaves the converter as it is. -/
def IsSteady (converter : Converter) : Prop :=
  ∀ packet, (converter.convert packet).after = converter

theorem isSteady_direct : direct.IsSteady :=
  fun _ => rfl

theorem isSteady_decoding
    (name : String)
    (encoding : Encoding)
    (read : encoding.reader?.isSome = true) :
    (decoding name encoding false).IsSteady :=
  after_of_carriesOnlyBytes expansionLimit name encoding encoding.isOrderly_decoder
    ((Encoding.carriesOnlyBytes_decoder_iff encoding).2 (.inl read))

/-! ## Texts that are read back -/

/-- The written forms of texts without NUL characters are read back. -/
def Reads (converter : Converter) (Writes : List UInt8 → List Char → Prop) : Prop :=
  ∀ packet text,
    Writes packet text → '\x00' ∉ text → (converter.convert packet).result = .ok text

/-- Texts without NUL characters are written in UTF-8 without zero bytes. -/
theorem untilZero_of_encode (text : List Char) (whole : '\x00' ∉ text) :
    Encoding.Utf8.encode text = untilZero (Encoding.Utf8.encode text) := by
  rw [untilZero_encode, Markup.untilNul_of_notMem text whole]

theorem reads_direct : direct.Reads fun packet text => packet = Encoding.Utf8.encode text := by
  rintro _ text rfl whole
  exact (direct_passes expansionLimit _ text (untilZero_of_encode text whole)).1

theorem reads_utf8 (name : String) :
    (decoding name Encoding.utf8 false).Reads fun packet text => packet = Encoding.Utf8.encode text := by
  rintro _ text rfl whole
  exact (utf8_passes name _ text (untilZero_of_encode text whole)).1

theorem reads_table
    (name : String)
    {encoding : Encoding}
    {table : UInt8 → Option Char}
    (tabled : encoding.table? = some table) :
    (decoding name encoding false).Reads (List.Forall₂ (Encoding.Stands table)) := by
  intro packet text written whole
  rcases Encoding.reader?_of_table? tabled with ⟨reader, read, each⟩
  have nonzero : ∀ byte ∈ packet, (byte != 0) = true := by
    intro byte member
    rw [bne_iff_ne]
    rintro rfl
    exact whole ((Encoding.isCharwise_table tabled).basic written 0 member (by decide))
  have narrow : encoding.isWide = false := by
    cases encoding with
    | wide => cases tabled
    | _ => rfl
  have relevant : (decoding name encoding false).relevant packet = packet := by
    have same : (decoding name encoding false).isWide = encoding.isWide := rfl
    rw [Converter.relevant, same, narrow, untilZero, List.takeWhile_eq_self_iff.2 nonzero]
    rfl
  rw [convert, result_decoding_eq_ok_iff read, relevant]
  refine ⟨Encoding.decodeAll_of_stands each written 0, ?_⟩
  have size := Encoding.Utf8.size_le_of_length text
  have length := written.length_eq
  rw [expansionLimit]
  omega

/-! ## UTF-16 -/

/-- A packet is read as a text exactly if it is the written form of the text. -/
theorem result_wide_eq_ok_iff
    (name : String)
    (order : ByteOrder)
    (packet : List UInt8)
    (text : List Char) :
    ((decoding name (Encoding.wide .two (some order)) false).convert packet).result = .ok text ↔
      Encoding.Wide.encode .two order text = packet := by
  have read :
      (Encoding.wide .two (some order)).reader? = some (Encoding.Wide.read .two order) :=
    rfl
  constructor
  · intro yields
    rw [convert, result_decoding_eq_ok_iff read] at yields
    exact Encoding.Wide.encode_of_decodeAll yields.1
  · rintro rfl
    rw [convert, convert_wide]

end TimedText.Converter
