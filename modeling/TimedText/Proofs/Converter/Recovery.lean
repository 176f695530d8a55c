import TimedText.Proofs.Converter.Run
import TimedText.Proofs.Encoding.Frugality

/-!
# A failed packet leaves nothing behind

A packet fails if its bytes are illegal, if the last of them wait for more, or if it grows beyond
the limit when it is decoded.  The decoder has read the packet by then, but each of these exits
resets it.  If a reset takes a decoder back to where it started, the run goes on after a failure as
that of a converter that has just been opened without detection.  A packet that yields a text leaves
no bytes waiting in the decoder.

That a reset takes a decoder back to where it started is a property of the encoding.  All encodings
have it but those that switch character sets, where the sets in two of the places survive.
-/

namespace TimedText

/-! ## Resets -/

/-- A decoder whose reset gives up all that it has learned. -/
def Encoding.Decoder.ResetsToInitial (decoder : Encoding.Decoder) : Prop :=
  ∀ state, decoder.reset state = decoder.initial

namespace Encoding

/-- The decoders that keep something over a reset are those that switch character sets. -/
theorem resetsToInitial_decoder_iff (encoding : Encoding) :
    encoding.decoder.ResetsToInitial ↔ ∀ variant, encoding ≠ .escape variant := by
  constructor
  · rintro resets variant rfl
    cases resets (({ alternate := .latin1 } : EscapeCodes.State), [])
  · intro different
    cases encoding with
    | escape variant => exact (different variant rfl).elim
    | wide width order =>
        intro state
        cases order <;> rfl
    | _ =>
        intro state
        rfl

end Encoding

namespace Converter

open Encoding (Decoder Scheme)

/-! ## What a decoder is left with -/

/-- A text is handed out only if no bytes wait for more. -/
theorem pending_of_transform
    (factor : Int)
    (decoder : Decoder)
    (state : decoder.State)
    (packet : List UInt8)
    (text : List Char)
    (yielded : (transform factor decoder state packet).1 = .ok text) :
    decoder.pending (transform factor decoder state packet).2 = [] := by
  have outcome := outcome_transform factor decoder state packet
  generalize transform factor decoder state packet = answer at outcome yielded ⊢
  cases outcome with
  | text taken after decoded nothing within => exact nothing
  | blocked => cases yielded
  | invalid => cases yielded
  | incomplete => cases yielded
  | exhausted => cases yielded

/-- An orderly decoder that holds no bytes holds none after a packet. -/
theorem pending_transform
    (factor : Int)
    {decoder : Decoder}
    (orderly : decoder.IsOrderly)
    {state : decoder.State}
    (nothing : decoder.pending state = [])
    (packet : List UInt8) :
    decoder.pending (transform factor decoder state packet).2 = [] := by
  have outcome := outcome_transform factor decoder state packet
  generalize transform factor decoder state packet = answer at outcome ⊢
  cases outcome with
  | blocked obstacle after decoded =>
      rw [orderly.stopped decoded]
      exact nothing
  | invalid position reason after => exact orderly.cleared after
  | incomplete text after => exact orderly.cleared after
  | exhausted text after => exact orderly.cleared after
  | text taken after decoded whole => exact whole

/-- Every failure resets the decoder. -/
theorem reset_of_transform
    (factor : Int)
    (decoder : Decoder)
    (state : decoder.State)
    (packet : List UInt8)
    (failure : Failure)
    (failed : (transform factor decoder state packet).1 = .error (.failed failure)) :
    ∃ before, (transform factor decoder state packet).2 = decoder.reset before := by
  have outcome := outcome_transform factor decoder state packet
  generalize transform factor decoder state packet = answer at outcome failed ⊢
  cases outcome with
  | invalid position reason after => exact ⟨after, rfl⟩
  | incomplete text after => exact ⟨after, rfl⟩
  | exhausted text after => exact ⟨after, rfl⟩
  | blocked => cases failed
  | text => cases failed

/-- The bytes that wait for more in the decoder of a converter. -/
def undecoded (converter : Converter) : List UInt8 :=
  match converter.channel with
  | .direct => []
  | .decoding scheme state => scheme.decoder.pending state

/-! ## Converters in the middle of a run -/

/--
The converters that a run can come to: detection is on and the decoder has read nothing, or
detection is off.
-/
inductive Reached (name : String) (scheme : Scheme) : (converter : Converter) → Prop where
  | detecting : Reached name scheme (decoding name scheme true)
  | settled (state : scheme.decoder.State) : Reached name scheme (holding name scheme state)

theorem reached_decoding (name : String) (scheme : Scheme) (detecting : Bool) :
    Reached name scheme (decoding name scheme detecting) := by
  cases detecting with
  | false =>
      rw [decoding_false]
      exact .settled _
  | true => exact .detecting

/-- A packet passes a converter that is opened with detection, or goes to one opened without. -/
theorem convertWithin_detecting
    (factor : Int)
    (name : String)
    (scheme : Scheme)
    (packet : List UInt8) :
    (∃ text,
        (decoding name scheme true).convertWithin factor packet =
          { result := .ok text, after := decoding name scheme true }) ∨
      (decoding name scheme true).convertWithin factor packet =
        (holding name scheme scheme.decoder.initial).convertWithin factor packet := by
  by_cases valid : Encoding.Utf8.IsValid ((decoding name scheme true).relevant packet)
  · rcases valid with ⟨text, written⟩
    exact .inl ⟨text, convertWithin_of_encode factor name scheme packet text written⟩
  · exact .inr (convertWithin_of_not_isValid factor name scheme packet valid)

theorem Reached.convertWithin
    (factor : Int)
    (name : String)
    (scheme : Scheme)
    (converter : Converter)
    (packet : List UInt8)
    (reached : Reached name scheme converter) :
    Reached name scheme (converter.convertWithin factor packet).after := by
  cases reached with
  | settled state => exact .settled _
  | detecting =>
      rcases convertWithin_detecting factor name scheme packet with ⟨text, passes⟩ | decoded
      · rw [passes]
        exact .detecting
      · rw [decoded]
        exact .settled _

/-- A failure takes a converter back to where it was opened, without detection. -/
theorem Reached.after_of_failed
    (factor : Int)
    (name : String)
    (scheme : Scheme)
    (converter : Converter)
    (packet : List UInt8)
    (failure : Failure)
    (resets : scheme.decoder.ResetsToInitial)
    (reached : Reached name scheme converter)
    (failed : (converter.convertWithin factor packet).result = .error (.failed failure)) :
    (converter.convertWithin factor packet).after = decoding name scheme false := by
  have settled :
      ∀ state,
        ((holding name scheme state).convertWithin factor packet).result =
            .error (.failed failure) →
          ((holding name scheme state).convertWithin factor packet).after =
            decoding name scheme false := by
    intro state failed
    rcases reset_of_transform factor scheme.decoder state _ failure failed with ⟨before, reset⟩
    rw [convertWithin_holding]
    dsimp only
    rw [reset, resets before, decoding_false]
  cases reached with
  | settled state => exact settled state failed
  | detecting =>
      rcases convertWithin_detecting factor name scheme packet with ⟨text, passes⟩ | decoded
      · rw [passes] at failed
        cases failed
      · rw [decoded] at failed ⊢
        exact settled _ failed

/-- A packet whose text comes from the decoder leaves no bytes there. -/
theorem Reached.undecoded_of_text
    (factor : Int)
    (name : String)
    (scheme : Scheme)
    (converter : Converter)
    (packet : List UInt8)
    (text : List Char)
    (reached : Reached name scheme converter)
    (yielded : (converter.convertWithin factor packet).result = .ok text)
    (decoded : (converter.convertWithin factor packet).after.detecting = false) :
    (converter.convertWithin factor packet).after.undecoded = [] := by
  cases reached with
  | settled state => exact pending_of_transform factor scheme.decoder state _ text yielded
  | detecting =>
      rcases convertWithin_detecting factor name scheme packet with ⟨taken, passes⟩ | foreign
      · rw [passes] at decoded
        cases decoded
      · rw [foreign] at yielded ⊢
        exact pending_of_transform factor scheme.decoder _ _ text yielded

/-! ## The whole run -/

/--
Whatever the decoder is, if a reset takes it back to where it started, a run goes on after any failed
packet as that of a converter opened without detection.  After any packet whose text comes from the
decoder, which leaves detection off, no bytes wait there.
-/
theorem run_recovers
    (factor : Int)
    (name : String)
    (scheme : Scheme)
    (detecting : Bool)
    (packets : List (List UInt8))
    (resets : scheme.decoder.ResetsToInitial) :
    let converter := decoding name scheme detecting
    let fresh := decoding name scheme false
    (∀ (index : Nat) (step : Step) (failure : Failure),
        (converter.run factor packets)[index]? = some step →
          step.result = .error (.failed failure) →
            (converter.run factor packets).drop (index + 1) =
              fresh.run factor (packets.drop (index + 1))) ∧
      (∀ (index : Nat) (step : Step) (text : List Char),
        (converter.run factor packets)[index]? = some step →
          step.result = .ok text →
            step.after.detecting = false →
              step.after.undecoded = []) := by
  intro converter fresh
  have start : Reached name scheme converter := reached_decoding name scheme detecting
  have kept := Reached.convertWithin factor name scheme
  constructor
  · intro index step failure made failed
    rw [drop_run factor _ packets index step made]
    rcases step_of_run factor _ kept _ start packets index step made with
      ⟨before, packet, reached, _, rfl⟩
    rw [Reached.after_of_failed factor name scheme before packet failure resets reached failed]
  · intro index step text made yielded decoded
    rcases step_of_run factor _ kept _ start packets index step made with
      ⟨before, packet, reached, _, rfl⟩
    exact Reached.undecoded_of_text factor name scheme before packet text reached yielded decoded

/-- Half a unit fails, and the byte order that was learned before it is given up. -/
theorem run_recovers_from_half_unit :
    ∃ converter fresh,
      open? "utf-16" true = .ok converter ∧
        open? "utf-16" false = .ok fresh ∧
        (converter.run expansionLimit
            [[0xFF, 0xFE, 0x41, 0x00], [0x42], [0xFE, 0xFF, 0x00, 0x43]]).drop 2 =
          fresh.run expansionLimit [[0xFE, 0xFF, 0x00, 0x43]] ∧
        (converter.run expansionLimit
            [[0xFF, 0xFE, 0x41, 0x00], [0x42], [0xFE, 0xFF, 0x00, 0x43]]).map (·.result) =
          [.ok ['A'], .error (.failed (.incomplete 1)), .ok ['C']] := by
  let utf16 : Encoding := .wide .two none
  have results :
      ((decoding "utf-16" utf16 true).run expansionLimit
          [[0xFF, 0xFE, 0x41, 0x00], [0x42], [0xFE, 0xFF, 0x00, 0x43]]).map (·.result) =
        [.ok ['A'], .error (.failed (.incomplete 1)), .ok ['C']] := by
    cbv
  have resets : utf16.decoder.ResetsToInitial :=
    (Encoding.resetsToInitial_decoder_iff utf16).2 (fun _ => Encoding.noConfusion)
  rcases
    run_recovers expansionLimit "utf-16" utf16 true
      [[0xFF, 0xFE, 0x41, 0x00], [0x42], [0xFE, 0xFF, 0x00, 0x43]] resets with
    ⟨recovers, -⟩
  rcases
    exists_step expansionLimit (decoding "utf-16" utf16 true)
      [[0xFF, 0xFE, 0x41, 0x00], [0x42], [0xFE, 0xFF, 0x00, 0x43]] 1 [0x42] rfl with
    ⟨step, made⟩
  have failed : some step.result = some (.error (.failed (.incomplete 1))) := by
    have second := congrArg (·[1]?) results
    rwa [List.getElem?_map, made] at second
  exact ⟨decoding "utf-16" utf16 true, decoding "utf-16" utf16 false, rfl, rfl,
    recovers 1 step (.incomplete 1) made (Option.some_inj.1 failed), results⟩

end Converter

end TimedText
