import TimedText.Proofs.Converter.Recovery
import TimedText.Proofs.Encoding.Charwise
import TimedText.Proofs.Encoding.Frugality

/-!
# The limit on the size of texts

A packet fails if its text takes more bytes in UTF-8 than the packet has bytes, times a factor.  The
limit is counted from the packet alone, though its text may be made of bytes that were held back
before.  But none ever are: a packet that leaves bytes waiting fails, and a failure resets the
decoder.  So where a decoder makes at most one character of each byte, which takes at most four bytes
in UTF-8, a factor of six is never exceeded, whatever the packets of a run are.

With any other factor, a packet that the decoder reads to its end fails exactly if its text is too
large.
-/

namespace TimedText.Converter

open Encoding (Decoder Scheme)

/-- The answer to a packet whose text is too large. -/
def IsExhausted (result : Except Error (List Char)) : Prop :=
  ∃ size limit, result = .error (.failed (.exhausted size limit))

/-! ## Decoders -/

/-- A frugal decoder that holds no bytes makes no text that is too large. -/
theorem not_isExhausted_transform
    {decoder : Decoder}
    (frugal : decoder.IsFrugal)
    {state : decoder.State}
    (nothing : decoder.pending state = [])
    (packet : List UInt8) :
    ¬ IsExhausted (transform expansionLimit decoder state packet).1 := by
  rintro ⟨size, limit, failed⟩
  have outcome := outcome_transform expansionLimit decoder state packet
  generalize transform expansionLimit decoder state packet = answer at outcome failed
  cases outcome with
  | exhausted text after decoded whole beyond =>
      have counted := frugal decoded
      have large := Encoding.Utf8.size_le_of_length text
      rw [nothing, whole, List.length_nil] at counted
      rw [expansionLimit] at beyond
      omega
  | blocked | invalid | incomplete | text => cases failed

/-- The answers of a decoder to packets, each from the state that the one before left. -/
def answers
    (factor : Int)
    (decoder : Decoder)
    (state : decoder.State) :
    List (List UInt8) → List (Except Error (List Char))
  | [] => []
  | packet :: rest =>
      let answer := transform factor decoder state packet
      answer.1 :: answers factor decoder answer.2 rest

theorem not_isExhausted_answers
    {decoder : Decoder}
    (frugal : decoder.IsFrugal)
    (orderly : decoder.IsOrderly)
    {state : decoder.State}
    (nothing : decoder.pending state = [])
    (packets : List (List UInt8)) :
    ∀ answer ∈ answers expansionLimit decoder state packets, ¬ IsExhausted answer := by
  induction packets generalizing state with
  | nil =>
      intro answer member
      cases member
  | cons packet rest hypothesis =>
      rw [answers, List.forall_mem_cons]
      constructor
      · exact not_isExhausted_transform frugal nothing packet
      · exact hypothesis (pending_transform expansionLimit orderly nothing packet)

/-! ## Converters -/

/--
A converter whose decoder, if it has one, makes at most one character of each byte and holds no
bytes.
-/
def IsThrifty (converter : Converter) : Prop :=
  ∀ scheme state,
    converter.channel = .decoding scheme state →
      scheme.decoder.IsFrugal ∧ scheme.decoder.IsOrderly ∧ scheme.decoder.pending state = []

/-- No packet leaves bytes behind in a converter that holds none. -/
theorem IsThrifty.convertWithin
    (factor : Int)
    (converter : Converter)
    (packet : List UInt8)
    (thrifty : converter.IsThrifty) :
    (converter.convertWithin factor packet).after.IsThrifty := by
  have way := way_convertWithin factor converter packet
  generalize converter.convertWithin factor packet = step at way ⊢
  cases way with
  | closed | direct | passed => exact thrifty
  | decoded scheme state opened channel foreign =>
      intro other later same
      cases same
      rcases thrifty scheme state channel with ⟨frugal, orderly, nothing⟩
      exact ⟨frugal, orderly, pending_transform factor orderly nothing _⟩

theorem IsThrifty.not_isExhausted
    (converter : Converter)
    (packet : List UInt8)
    (thrifty : converter.IsThrifty) :
    ¬ IsExhausted (converter.convertWithin expansionLimit packet).result := by
  have way := way_convertWithin expansionLimit converter packet
  generalize converter.convertWithin expansionLimit packet = step at way ⊢
  cases way with
  | closed | direct | passed =>
      rintro ⟨size, limit, failed⟩
      cases failed
  | decoded scheme state opened channel foreign =>
      rcases thrifty scheme state channel with ⟨frugal, _, nothing⟩
      exact not_isExhausted_transform frugal nothing _

theorem isThrifty_decoding
    (name : String)
    (scheme : Scheme)
    (detecting : Bool)
    (frugal : scheme.decoder.IsFrugal)
    (orderly : scheme.decoder.IsOrderly) :
    (decoding name scheme detecting).IsThrifty := by
  intro other state same
  cases same
  exact ⟨frugal, orderly, orderly.fresh⟩

/-- A packet that is read to its end fails exactly if its text is larger than the limit. -/
theorem isExhausted_convertWithin_iff
    (factor : Int)
    (converter : Converter)
    (scheme : Scheme)
    (state after : scheme.decoder.State)
    (packet : List UInt8)
    (text : List Char)
    (opened : converter.closed = false)
    (channel : converter.channel = .decoding scheme state)
    (foreign : detected? converter.detecting (converter.relevant packet) = none)
    (decoded : scheme.decoder.decode state (converter.relevant packet) = (.ok text, after))
    (whole : scheme.decoder.pending after = []) :
    IsExhausted (converter.convertWithin factor packet).result ↔
      factor * (converter.relevant packet).length < (Encoding.Utf8.encode text).length := by
  have goes :
      (converter.convertWithin factor packet).result =
        (transform factor scheme.decoder state (converter.relevant packet)).1 := by
    rw [convertWithin, if_neg (by simp [opened])]
    dsimp only
    rw [channel]
    dsimp only
    rw [foreign]
  rw [goes, Encoding.Utf8.length_encode]
  generalize converter.relevant packet = relevant at decoded ⊢
  unfold transform
  rw [decoded]
  dsimp only
  rw [if_neg (fun waiting => waiting whole)]
  by_cases beyond : factor * relevant.length < Encoding.Utf8.size text
  · rw [if_pos beyond]
    exact ⟨fun _ => beyond, fun _ => ⟨_, _, rfl⟩⟩
  · rw [if_neg beyond]
    constructor
    · rintro ⟨size, limit, failed⟩
      cases failed
    · intro larger
      exact absurd larger beyond

/-! ## Runs -/

/--
The decoders of all encodings that are defined here make at most one character of each byte, and are
orderly.  Whatever a decoder is, if it does so and is so it never exceeds the limit, whatever packets
it is given, and neither does a converter in convert mode, with or without detection.  With any
factor and any decoder, a packet that goes to the decoder and is read to its end fails exactly if its
text takes more bytes in UTF-8 than the factor allows for its own bytes.
-/
theorem limit_is_never_exceeded :
    (∀ encoding : Encoding, encoding.decoder.IsFrugal ∧ encoding.decoder.IsOrderly) ∧
      (∀ (decoder : Decoder) (packets : List (List UInt8)),
        decoder.IsFrugal →
          decoder.IsOrderly →
            ∀ answer ∈ answers expansionLimit decoder decoder.initial packets,
              ¬ IsExhausted answer) ∧
      (∀ (name : String) (scheme : Scheme) (detecting : Bool) (packets : List (List UInt8)),
        scheme.decoder.IsFrugal →
          scheme.decoder.IsOrderly →
            ∀ step ∈ (decoding name scheme detecting).run expansionLimit packets,
              ¬ IsExhausted step.result) ∧
      ∀ (factor : Int) (converter : Converter) (scheme : Scheme)
        (state after : scheme.decoder.State) (packet : List UInt8) (text : List Char),
        converter.closed = false →
          converter.channel = .decoding scheme state →
            detected? converter.detecting (converter.relevant packet) = none →
              scheme.decoder.decode state (converter.relevant packet) = (.ok text, after) →
                scheme.decoder.pending after = [] →
                  (IsExhausted (converter.convertWithin factor packet).result ↔
                    factor * (converter.relevant packet).length <
                      (Encoding.Utf8.encode text).length) := by
  refine
    ⟨fun encoding => ⟨encoding.isFrugal_decoder, encoding.isOrderly_decoder⟩, ?_, ?_,
      isExhausted_convertWithin_iff⟩
  · intro decoder packets frugal orderly
    exact not_isExhausted_answers frugal orderly orderly.fresh packets
  · intro name scheme detecting packets frugal orderly step member
    rcases List.mem_iff_getElem?.1 member with ⟨index, found⟩
    rcases
      step_of_run expansionLimit IsThrifty (IsThrifty.convertWithin expansionLimit) _
        (isThrifty_decoding name scheme detecting frugal orderly) packets index step found with
      ⟨before, packet, thrifty, _, rfl⟩
    exact thrifty.not_isExhausted before packet

/-- Half a mark, a mark alone, nothing at all, and a letter of three bytes in UTF-8. -/
def marksAndHalves : List (List UInt8) :=
  [[0xFF], [0xFF, 0xFE], [], [0x41], [0xFF, 0xFE, 0xAC, 0x20]]

/-- Under UTF-16 the sign is within the limit, as one byte of a code page it is beyond a factor of two. -/
theorem limit_is_never_exceeded_by_euro_sign :
    ((decoding "utf-16" (Encoding.wide .two none) true).run expansionLimit marksAndHalves).map (·.result) =
        [.error (.failed (.incomplete 1)), .ok [], .ok [], .error (.failed (.incomplete 1)),
          .ok ['€']] ∧
      (∃ step ∈ (decoding "utf-16" (Encoding.wide .two none) true).run expansionLimit marksAndHalves,
        step.result = .ok ['€'] ∧ ¬ IsExhausted step.result) ∧
      (∃ answer ∈
          answers expansionLimit (Encoding.Wide.markedDecoder .two)
            (Encoding.Wide.markedDecoder .two).initial marksAndHalves,
        answer = .ok ['€'] ∧ ¬ IsExhausted answer) ∧
      IsExhausted ((decoding "cp1252" (Encoding.page .windows1252) false).convertWithin 2 [0x80]).result := by
  have results :
      ((decoding "utf-16" (Encoding.wide .two none) true).run expansionLimit marksAndHalves).map
          (·.result) =
        [.error (.failed (.incomplete 1)), .ok [], .ok [], .error (.failed (.incomplete 1)),
          .ok ['€']] := by
    cbv
  have answered :
      answers expansionLimit (Encoding.Wide.markedDecoder .two)
          (Encoding.Wide.markedDecoder .two).initial marksAndHalves =
        [.error (.failed (.incomplete 1)), .ok [], .ok [], .error (.failed (.incomplete 1)),
          .ok ['€']] := by
    cbv
  rcases limit_is_never_exceeded with ⟨-, decoders, converters, larger⟩
  refine ⟨results, ?_, ?_, ?_⟩
  · have sign : .ok ['€'] ∈
        ((decoding "utf-16" (Encoding.wide .two none) true).run expansionLimit marksAndHalves).map
          (·.result) := by
      rw [results]
      simp
    rcases List.mem_map.1 sign with ⟨step, member, result⟩
    exact
      ⟨step, member, result,
        converters _ _ _ _ (Encoding.Wide.isFrugal_markedDecoder .two)
          (Encoding.Wide.isOrderly_markedDecoder .two) step member⟩
  · have sign : .ok ['€'] ∈
        answers expansionLimit (Encoding.Wide.markedDecoder .two)
          (Encoding.Wide.markedDecoder .two).initial marksAndHalves := by
      rw [answered]
      simp
    refine ⟨.ok ['€'], sign, rfl, ?_⟩
    exact
      decoders (Encoding.Wide.markedDecoder .two) marksAndHalves
        (Encoding.Wide.isFrugal_markedDecoder .two) (Encoding.Wide.isOrderly_markedDecoder .two) _
        sign
  · apply
      (larger 2 (decoding "cp1252" (Encoding.page .windows1252) false)
        (Encoding.page .windows1252).scheme [] [] [0x80]
        ['€'] rfl rfl rfl (by cbv) rfl).2
    decide

end TimedText.Converter
