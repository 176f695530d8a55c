import TimedText.Proofs.Converter.Isolation
import TimedText.Proofs.Converter.Wide
import TimedText.Proofs.Session.Mismatch
import TimedText.Proofs.Session.Passage

/-!
# Behind the terminator

A packet may go on behind its terminator, and what stands there is none of its text.  Converters
whose encoding is not wide cut a packet at its first zero byte before they do anything else with it,
so the bytes behind never reach them.  The others convert the whole packet, as a zero byte may be
part of a character, and what stands behind the terminator is cut from the text.

In between, it could still do harm: it could fail to convert, leave bytes waiting, or be taken in
another way than the text before it.  Under a fixed byte order it does not.  There the decoder of a
session waits for nothing whenever a packet comes in, and a written text is converted throughout.
-/

namespace TimedText

/-! ## Cutting at a terminator -/

/-- What is taken up to a terminator does not depend on what stands behind the terminator. -/
theorem takeWhile_append_terminator
    {Unit : Type}
    (keeps : Unit → Bool)
    (before : List Unit)
    (terminator : Unit)
    (behind : List Unit)
    (stops : keeps terminator = false) :
    (before ++ terminator :: behind).takeWhile keeps = before.takeWhile keeps := by
  induction before with
  | nil => rw [List.nil_append, List.takeWhile_cons, stops]; rfl
  | cons first rest hypothesis =>
      rw [List.cons_append, List.takeWhile_cons, List.takeWhile_cons, hypothesis]

/-! ## Converters that are not wide -/

namespace Converter

open Encoding (ByteOrder Scheme UnitWidth)
open Encoding.Wide (encode)

/-- A step depends on the part of a packet alone that the converter looks at. -/
theorem convertWithin_congr
    (factor : Int)
    (converter : Converter)
    (left right : List UInt8)
    (same : converter.relevant left = converter.relevant right) :
    converter.convertWithin factor left = converter.convertWithin factor right := by
  rw [convertWithin, convertWithin, same]

/-- The bytes behind a zero byte change nothing about a step. -/
theorem convertWithin_append_terminator
    (factor : Int)
    (converter : Converter)
    (data junk : List UInt8)
    (narrow : converter.isWide = false) :
    converter.convertWithin factor (data ++ 0 :: junk) = converter.convertWithin factor data := by
  refine converter.convertWithin_congr factor _ _ ?_
  rw [relevant, relevant, narrow, if_neg Bool.false_ne_true, if_neg Bool.false_ne_true]
  exact takeWhile_append_terminator _ data 0 junk rfl

/-! ## Converters that wait for nothing -/

/-- A converter in whose decoder no bytes wait, if the decoder is orderly and carries nothing else. -/
def IsIdle (converter : Converter) : Prop :=
  ∀ scheme state,
    converter.channel = .decoding scheme state →
      scheme.decoder.IsOrderly →
        scheme.decoder.CarriesOnlyBytes → scheme.decoder.pending state = []

theorem isIdle_direct : direct.IsIdle := by
  intro scheme state channel
  cases channel

theorem isIdle_decoding (name : String) (scheme : Scheme) (detecting : Bool) :
    (decoding name scheme detecting).IsIdle := by
  intro other state channel orderly onlyBytes
  cases channel
  exact orderly.fresh

/-- No packet leaves bytes behind in an orderly decoder that carries only bytes. -/
theorem isIdle_convert
    (converter : Converter)
    (packet : List UInt8)
    (idle : converter.IsIdle) :
    (converter.convert packet).after.IsIdle := by
  have way := way_convertWithin expansionLimit converter packet
  rw [convert]
  generalize converter.convertWithin expansionLimit packet = step at way
  cases way with
  | closed shut => exact idle
  | direct opened channel => exact idle
  | passed scheme state text opened channel detected => exact idle
  | decoded scheme state opened channel foreign =>
      intro other after same orderly onlyBytes
      cases same
      exact pending_transform expansionLimit orderly (idle _ state channel orderly onlyBytes) _

theorem carriesOnlyBytes_wide (width : UnitWidth) (order : ByteOrder) :
    (Encoding.wide width (some order)).decoder.CarriesOnlyBytes :=
  (Encoding.carriesOnlyBytes_decoder_iff (.wide width (some order))).2 (.inl rfl)

/-- While it waits for nothing, a decoder with a fixed byte order is as it was at the start. -/
theorem eq_decoding_of_isIdle
    (converter : Converter)
    (width : UnitWidth)
    (order : ByteOrder)
    (state : (Encoding.wide width (some order)).decoder.State)
    (channel : converter.channel = .decoding (Encoding.wide width (some order)) state)
    (idle : converter.IsIdle)
    (undetecting : converter.detecting = false)
    (unclosed : converter.closed = false) :
    converter = decoding converter.name (Encoding.wide width (some order)) false := by
  -- The state of such a decoder is nothing but the bytes that wait.
  have nothing : state = [] :=
    idle (Encoding.wide width (some order)) state channel
      (Encoding.isOrderly_decoder (.wide width (some order))) (carriesOnlyBytes_wide width order)
  rcases converter with ⟨name, _, detecting, closed⟩
  dsimp only at channel undetecting unclosed
  rw [channel, undetecting, unclosed, nothing]
  rfl

/-- Every written text comes through such a converter and leaves it as it was. -/
theorem convert_wide_of_isIdle
    (converter : Converter)
    (width : UnitWidth)
    (order : ByteOrder)
    (state : (Encoding.wide width (some order)).decoder.State)
    (channel : converter.channel = .decoding (Encoding.wide width (some order)) state)
    (idle : converter.IsIdle)
    (undetecting : converter.detecting = false)
    (unclosed : converter.closed = false)
    (text : List Char) :
    converter.convert (encode width order text) = { result := .ok text, after := converter } := by
  rw [converter.eq_decoding_of_isIdle width order state channel idle undetecting unclosed]
  exact convert_wide converter.name width order text

end Converter

/-! ## Sessions -/

namespace Session

open Encoding (ByteOrder UnitWidth)
open Encoding.Wide (encode)

/-- In every session the converter waits for nothing, whatever was asked for. -/
theorem isIdle_afterAll
    {settings : DecoderSettings}
    {codec : Codec}
    {declaration : Option String}
    {lookup : Color.Lookup}
    {platform : String}
    {catalogue : Encoding.Catalogue}
    {session : Session}
    {notices : List Notice}
    (opened :
      open? settings codec declaration lookup platform catalogue = .ok (session, notices))
    (requests : List Request) :
    (session.afterAll requests).converter.IsIdle := by
  have start : session.converter.IsIdle := by
    rcases converter_of_open? opened with direct | ⟨name, scheme, detecting, decoding⟩
    · rw [direct]
      exact Converter.isIdle_direct
    · rw [decoding]
      exact Converter.isIdle_decoding name scheme detecting
  have kept := converter_call Converter.IsIdle Converter.isIdle_convert (fun _ idle => idle)
  exact afterAll_of_call (fun after => after.converter.IsIdle) kept session start requests

/-- The checks that a packet has to pass do not tell one row of bytes from another. -/
theorem decode_congr
    (session : Session)
    (packet : Packet)
    (left right : List UInt8)
    (leftFilled : left ≠ [])
    (rightFilled : right ≠ [])
    (same :
      ∀ start,
        session.convertAndShow { packet with data := left } start =
          session.convertAndShow { packet with data := right } start) :
    session.decode { packet with data := left } = session.decode { packet with data := right } := by
  have leftThere : left.isEmpty = false := by simpa using leftFilled
  have rightThere : right.isEmpty = false := by simpa using rightFilled
  have timed :
      properStart? { packet with data := left } = properStart? { packet with data := right } :=
    rfl
  rw [decode, decode, timed]
  dsimp only
  rw [leftThere, rightThere]
  cases properStart? { packet with data := right } with
  | none => rfl
  | some start =>
      dsimp only
      rw [if_neg Bool.false_ne_true, if_neg Bool.false_ne_true, same start]

/-- Texts that the parser cuts alike are shown alike, if they come through or the session is closed. -/
theorem convertAndShow_wide
    (session : Session)
    (packet : Packet)
    (start : Int)
    (width : UnitWidth)
    (order : ByteOrder)
    (state : (Encoding.wide width (some order)).decoder.State)
    (channel : session.converter.channel = .decoding (Encoding.wide width (some order)) state)
    (idle : session.converter.IsIdle)
    (undetecting : session.converter.detecting = false)
    (left right : List Char)
    (same : Markup.untilNul left = Markup.untilNul right) :
    session.convertAndShow { packet with data := encode width order left } start =
      session.convertAndShow { packet with data := encode width order right } start := by
  cases closed : session.converter.closed with
  | true =>
      have refused := session.converter.convert_of_closed closed
      rw [convertAndShow, convertAndShow, refused, refused]
  | false =>
      have yields :=
        session.converter.convert_wide_of_isIdle width order state channel idle undetecting closed
      have shown :=
        session.present_congr { packet with data := encode width order right } start left right same
      rw [convertAndShow, convertAndShow, yields, yields]
      dsimp only
      rw [← shown]
      rfl

theorem encode_ne_nil
    (width : UnitWidth)
    (order : ByteOrder)
    (text : List Char)
    (filled : text ≠ []) :
    encode width order text ≠ [] := by
  cases text with
  | nil => exact (filled rfl).elim
  | cons char others =>
      rcases Encoding.Wide.read_encodeChar width order char [] with ⟨first, tail, bytes, -⟩
      rw [encode, List.flatMap_cons, bytes]
      exact List.cons_ne_nil _ _

/--
A converter that is not wide takes the same step whatever stands behind the first zero byte of a
packet.  And a session without detection whose encoding is wide and has a fixed byte order takes the
same step whatever text stands behind a NUL character, in the middle of any run: the same answer,
the same reports and the same session after it.
-/
theorem step_ends_at_terminator
    (settings : DecoderSettings)
    (codec : Codec)
    (declaration : Option String)
    (lookup : Color.Lookup)
    (platform : String)
    (catalogue : Encoding.Catalogue)
    (session : Session)
    (notices : List Notice)
    (opened :
      open? settings codec declaration lookup platform catalogue = .ok (session, notices))
    (requests : List Request) :
    (∀ (factor : Int) (converter : Converter) (data junk : List UInt8),
        converter.isWide = false →
          converter.convertWithin factor (data ++ 0 :: junk) =
            converter.convertWithin factor data) ∧
      (∀ (width : UnitWidth) (order : ByteOrder)
          (state : (Encoding.wide width (some order)).decoder.State),
        (session.afterAll requests).converter.channel =
            .decoding (Encoding.wide width (some order)) state →
          (session.afterAll requests).converter.detecting = false →
            ∀ (packet : Packet) (text others : List Char),
              text ≠ [] →
                (session.afterAll requests).decode
                    { packet with data := encode width order (text ++ '\x00' :: others) } =
                  (session.afterAll requests).decode
                    { packet with data := encode width order text }) := by
  refine ⟨Converter.convertWithin_append_terminator, ?_⟩
  intro width order state channel undetecting packet text others filled
  have idle := isIdle_afterAll opened requests
  have same : Markup.untilNul (text ++ '\x00' :: others) = Markup.untilNul text :=
    takeWhile_append_terminator _ text '\x00' others rfl
  have longer : text ++ '\x00' :: others ≠ [] := by simp
  refine
    decode_congr _ packet _ _ (encode_ne_nil width order _ longer)
      (encode_ne_nil width order text filled) ?_
  intro start
  exact
    convertAndShow_wide _ packet start width order state channel idle undetecting _ _ same

/-- After half a unit, a letter with a NUL character and an open tag behind it is the letter. -/
theorem step_ends_at_terminator_after_half_unit :
    let session : Session :=
      { codec := .subt, settings := {},
        converter := .decoding "UTF-16LE" (Encoding.wide .two (some .little)) false,
        lookup := Color.byName }
    let before := session.afterAll [.decode (packetOf [0x42])]
    open? {} .subt (some "UTF-16LE") Color.byName "UTF-8" = .ok (session, []) ∧
      before.decode
          { packetOf [] with data := encode .two .little ['a', '\x00', '<', 'b', '>', 'c'] } =
        before.decode { packetOf [] with data := encode .two .little ['a'] } ∧
      Converter.direct.convert [0x61, 0x00, 0xFF] = Converter.direct.convert [0x61] := by
  intro session before
  have opened : open? {} .subt (some "UTF-16LE") Color.byName "UTF-8" = .ok (session, []) := by
    rfl
  rcases
    step_ends_at_terminator {} .subt (some "UTF-16LE") Color.byName "UTF-8" Encoding.catalogue
      session [] opened [.decode (packetOf [0x42])] with
    ⟨narrow, wide⟩
  have unchanged : before.converter = session.converter :=
    (converter_decode_of_isProper session _ 1 (packetOf_isProper [0x42] (by simp))).trans
      (Converter.after_of_carriesOnlyBytes Converter.expansionLimit "UTF-16LE"
        (Encoding.wide .two (some .little))
        (Encoding.isOrderly_decoder (.wide .two (some .little)))
        (Converter.carriesOnlyBytes_wide .two .little) [0x42])
  exact
    ⟨opened,
      wide .two .little [] (congrArg Converter.channel unchanged)
        (congrArg Converter.detecting unchanged) (packetOf []) ['a'] ['<', 'b', '>', 'c'] (by simp),
      narrow Converter.expansionLimit Converter.direct [0x61] [0xFF] rfl⟩

end Session

end TimedText
