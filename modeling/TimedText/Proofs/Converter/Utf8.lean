import TimedText.Proofs.Converter.Isolation
import TimedText.Proofs.Encoding.Name
import TimedText.Proofs.Encoding.Validity
import TimedText.Session

/-!
# UTF-8 in both modes

UTF-8 is read in direct mode, and it can be read in convert mode too, under any of the names of its
decoder but the two that are known beforehand.  Direct mode reads a packet as a whole, as final.
Convert mode reads it as a packet that more bytes may follow.

The modes agree on the packets that are UTF-8 up to their terminator.  On the others they part: one
shows what it can and reports it, the other drops the packet and says whether it is cut off or
broken.  A packet is cut off if more bytes could complete it, and then always dropped as incomplete.
So is a packet that breaks off within a surrogate, which no bytes could complete.
-/

namespace TimedText.Converter

open Encoding.Utf8 (IsValid IsHeadless IsCompletable IsLongestValid EndsInSurrogateStart encode)

/-! ## What a step says -/

/-- What is reported of a step. -/
def Step.reports (step : Step) : List Notice :=
  step.flaw.toList.map .repaired

/-- A step that yields a text and reports nothing. -/
def Step.Passes (step : Step) (text : List Char) : Prop :=
  step.result = .ok text ∧ step.reports = []

/--
A step that yields the longest valid beginning of bytes, then a replacement and more, all of which
can be written, and makes one report of an error.
-/
def Step.Repairs (step : Step) (bytes : List UInt8) : Prop :=
  ∃ text taken more notice,
    step.result = .ok text ∧ text = taken ++ '\uFFFD' :: more ∧
      IsLongestValid bytes (encode taken) ∧ Encoding.Utf8.decode? (encode text) = .ok text ∧
      step.reports = [notice] ∧ notice.level = .error

/-- Bytes that the decoder takes for the beginning of longer ones. -/
def BreaksOff (bytes : List UInt8) : Prop :=
  IsCompletable bytes ∨ EndsInSurrogateStart bytes

/-- A step that drops bytes without a report, as incomplete if they break off and else as invalid. -/
def Step.Drops (step : Step) (bytes : List UInt8) : Prop :=
  ∃ failure,
    step.result = .error (.failed failure) ∧ step.reports = [] ∧
      (BreaksOff bytes → failure.kind = "incomplete_sequence") ∧
      (¬ BreaksOff bytes → failure.kind = "invalid_sequence")

/-! ## Direct mode -/

theorem convertWithin_direct (factor : Int) (packet : List UInt8) :
    direct.convertWithin factor packet =
      { result := .ok (readDirect (untilZero packet)).1,
        flaw := (readDirect (untilZero packet)).2,
        after := direct } :=
  rfl

/-- In direct mode a run is the list of the steps that its packets take on their own. -/
theorem run_direct (factor : Int) (packets : List (List UInt8)) :
    direct.run factor packets = packets.map (direct.convertWithin factor) := by
  induction packets with
  | nil => rfl
  | cons packet rest hypothesis =>
      rw [run_cons, convertWithin_direct, hypothesis, List.map_cons, convertWithin_direct]

theorem direct_passes
    (factor : Int)
    (packet : List UInt8)
    (text : List Char)
    (written : encode text = untilZero packet) :
    (direct.convertWithin factor packet).Passes text := by
  have decoded := (Encoding.Utf8.decode?_eq_ok_iff (untilZero packet) text).2 written
  simp only [convertWithin_direct, readDirect, decoded]
  exact ⟨rfl, rfl⟩

theorem direct_repairs
    (factor : Int)
    (packet : List UInt8)
    (text : List Char)
    (first : UInt8)
    (rest : List UInt8)
    (parts : untilZero packet = encode text ++ first :: rest)
    (headless : IsHeadless (first :: rest)) :
    (direct.convertWithin factor packet).Repairs (untilZero packet) := by
  rcases Encoding.Utf8.decode?_append text first rest headless with ⟨reason, flawed⟩
  rcases Encoding.Utf8.decodeReplacing_append text first rest headless with ⟨more, replaced⟩
  simp only [convertWithin_direct, readDirect, parts, flawed, replaced]
  exact
    ⟨_, text, more, _, rfl, rfl, Encoding.Utf8.isLongestValid_encode text _ headless,
      (Encoding.Utf8.decode?_eq_ok_iff _ _).2 rfl, rfl, rfl⟩

/-! ## Convert mode -/

theorem carriesOnlyBytes_utf8 : Encoding.utf8.decoder.CarriesOnlyBytes :=
  (Encoding.carriesOnlyBytes_decoder_iff .utf8).2 (.inl rfl)

theorem convertWithin_utf8 (factor : Int) (name : String) (packet : List UInt8) :
    (decoding name Encoding.utf8 false).convertWithin factor packet =
      let answer :=
        transform factor (Encoding.Decoder.ofReader (Encoding.Utf8.read false)) []
          (untilZero packet)
      { result := answer.1, after := holding name Encoding.utf8 answer.2 } :=
  rfl

theorem utf8_passes
    (name : String)
    (packet : List UInt8)
    (text : List Char)
    (written : encode text = untilZero packet) :
    ((decoding name Encoding.utf8 false).convertWithin expansionLimit packet).Passes text := by
  have relevant : (decoding name Encoding.utf8 false).relevant packet = untilZero packet := rfl
  refine ⟨(result_decoding_eq_ok_iff rfl _ name packet text).2 ?_, rfl⟩
  rw [relevant, ← written, Encoding.Utf8.length_encode, expansionLimit]
  exact ⟨Encoding.Utf8.decodeAll_encode false 0 text, by omega⟩

theorem utf8_drops
    (name : String)
    (packet : List UInt8)
    (text : List Char)
    (first : UInt8)
    (rest : List UInt8)
    (parts : untilZero packet = encode text ++ first :: rest)
    (headless : IsHeadless (first :: rest)) :
    ((decoding name Encoding.utf8 false).convertWithin expansionLimit packet).Drops
      (untilZero packet) := by
  have fate := Encoding.Utf8.decodeAll_false_append text first rest headless
  rw [Encoding.Utf8.waits_iff text first rest headless, ← BreaksOff, ← parts] at fate
  rw [convertWithin_utf8]
  rcases fate with ⟨breaks, decoded⟩ | ⟨sound, reason, decoded⟩
  · have transformed :
        transform expansionLimit (Encoding.Decoder.ofReader (Encoding.Utf8.read false)) []
            (untilZero packet) =
          (.error (.failed (.incomplete (rest.length + 1))), []) := by
      simp [transform, Encoding.Decoder.ofReader, Encoding.Decoder.settle, decoded]
    rw [transformed]
    exact ⟨_, rfl, rfl, fun _ => rfl, fun sound => (sound breaks).elim⟩
  · have transformed :
        transform expansionLimit (Encoding.Decoder.ofReader (Encoding.Utf8.read false)) []
            (untilZero packet) =
          (.error (.failed (.invalid (encode text).length reason)), []) := by
      simp [transform, Encoding.Decoder.ofReader, Encoding.Decoder.settle, decoded]
    rw [transformed]
    exact ⟨_, rfl, rfl, fun breaks => (sound breaks).elim, fun _ => rfl⟩

/-! ## Both modes -/

/--
For every name of the decoder of UTF-8, a converter is opened, and runs over the same packets in
direct mode and in convert mode compare packet by packet.  If the bytes before the terminator are
the written form of a text, both yield this text and report nothing.  If they are not, direct mode
repairs them, and convert mode drops them, as incomplete if more bytes could make them valid or if
they are valid up to the first two bytes of a surrogate, and else as invalid.
-/
theorem modes_agree_on_utf8
    (name : String)
    (named : Encoding.ofName name = .ok .utf8) :
    ∃ converter,
      open? name false = .ok converter ∧
        ∀ (packets : List (List UInt8)) (index : Nat) (packet : List UInt8),
          packets[index]? = some packet →
            ∃ plain strict,
              (direct.run expansionLimit packets)[index]? = some plain ∧
                (converter.run expansionLimit packets)[index]? = some strict ∧
                (∀ text,
                  encode text = untilZero packet → plain.Passes text ∧ strict.Passes text) ∧
                (¬ IsValid (untilZero packet) →
                  plain.Repairs (untilZero packet) ∧ strict.Drops (untilZero packet)) := by
  have opened : open? name false = .ok (decoding name Encoding.utf8 false) :=
    (open?_eq_ok_iff _ _ _ _).2 ⟨_, Encoding.catalogue_of_ofName named, rfl⟩
  refine ⟨_, opened, ?_⟩
  intro packets index packet found
  refine
    ⟨direct.convertWithin expansionLimit packet,
      (decoding name Encoding.utf8 false).convertWithin expansionLimit packet, ?_, ?_, ?_, ?_⟩
  · rw [run_direct, List.getElem?_map, found, Option.map_some]
  · rw [run_of_carriesOnlyBytes expansionLimit name Encoding.utf8 Encoding.utf8.isOrderly_decoder
        carriesOnlyBytes_utf8,
      List.getElem?_map, found, Option.map_some]
  · intro text written
    exact ⟨direct_passes expansionLimit packet text written, utf8_passes name packet text written⟩
  · intro invalid
    rcases Encoding.Utf8.exists_parts (untilZero packet) with ⟨text, rest, parts, headless⟩
    cases rest with
    | nil => exact (invalid ⟨text, by rw [parts, List.append_nil]⟩).elim
    | cons first rest =>
        exact
          ⟨direct_repairs expansionLimit packet text first rest parts headless,
            utf8_drops name packet text first rest parts headless⟩

/-- A character that is cut off is replaced in one mode and incomplete in the other. -/
theorem modes_agree_on_utf8_at_cut_character :
    Encoding.ofName "utf_8" = .ok .utf8 ∧
      ∃ converter plain strict,
        open? "utf_8" false = .ok converter ∧
          (direct.run expansionLimit [[0x61, 0xE2, 0x82]])[0]? = some plain ∧
          (converter.run expansionLimit [[0x61, 0xE2, 0x82]])[0]? = some strict ∧
          BreaksOff [0x61, 0xE2, 0x82] ∧ plain.Repairs [0x61, 0xE2, 0x82] ∧
          strict.Drops [0x61, 0xE2, 0x82] := by
  have invalid : ¬ IsValid [0x61, 0xE2, 0x82] := by
    have unread : (Encoding.Utf8.decode? [0x61, 0xE2, 0x82]).toOption.isSome = false := by
      cbv
    rw [Encoding.Utf8.isValid_iff, unread]
    exact Bool.false_ne_true
  rcases modes_agree_on_utf8 "utf_8" rfl with ⟨converter, opened, agree⟩
  rcases agree [[0x61, 0xE2, 0x82]] 0 [0x61, 0xE2, 0x82] rfl with
    ⟨plain, strict, showing, dropping, -, part⟩
  rcases part invalid with ⟨repairs, drops⟩
  exact
    ⟨rfl, converter, plain, strict, opened, showing, dropping,
      .inl ⟨[0xAC], ['a', '€'], rfl⟩, repairs, drops⟩

/-- No bytes complete the start of a surrogate, and yet it is dropped as incomplete. -/
theorem start_of_surrogate_is_incomplete :
    ¬ IsCompletable (untilZero [0xED, 0xA0]) ∧
      (open? "utf_8" false).map
          (fun converter => (converter.run expansionLimit [[0xED, 0xA0]]).map (·.result)) =
        .ok [.error (.failed (.incomplete 2))] := by
  have start : Encoding.Utf8.IsSurrogateStart [0xED, 0xA0] := ⟨0xA0, rfl, by decide, by decide⟩
  have headless := Encoding.Utf8.isHeadless_of_isSurrogateStart _ start
  refine ⟨?_, by cbv⟩
  show ¬ IsCompletable (encode [] ++ [0xED, 0xA0])
  rw [Encoding.Utf8.isCompletable_append_iff [] _ headless,
    Encoding.Utf8.exists_prefix_encodeChar_iff _ _ headless]
  rintro (nothing | beginning)
  · cases nothing
  · cases beginning with
    | two range follows => cases follows

end TimedText.Converter
