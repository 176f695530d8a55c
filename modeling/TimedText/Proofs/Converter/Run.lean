import TimedText.Converter
import TimedText.Proofs.Encoding.Utf8

/-!
# Runs of a converter

The packets of a session go through a converter one after the other, and each of them meets the
converter that the one before it left.  A run is the list of the steps that this makes.

In convert mode a packet does one of two things.  Either it passes as it is, and the converter stays
as it was, or it goes to the decoder, and detection is off from then on.  So a converter in the
middle of a run is one that has just been opened, with detection still on, or one without detection
that holds any state of the decoder.
-/

namespace TimedText.Converter

open Encoding (Decoder Scheme)
open Encoding.Utf8 (IsValid encode)

/-! ## Steps in a row -/

/-- The steps of a converter over packets, each from the converter that the one before left. -/
def run (factor : Int) (converter : Converter) : List (List UInt8) → List Step
  | [] => []
  | packet :: rest =>
      let step := converter.convertWithin factor packet
      step :: run factor step.after rest

@[simp]
theorem run_nil (factor : Int) (converter : Converter) : converter.run factor [] = [] :=
  rfl

@[simp]
theorem run_cons
    (factor : Int)
    (converter : Converter)
    (packet : List UInt8)
    (rest : List (List UInt8)) :
    converter.run factor (packet :: rest) =
      converter.convertWithin factor packet ::
        (converter.convertWithin factor packet).after.run factor rest :=
  rfl

@[simp]
theorem length_run
    (factor : Int)
    (converter : Converter)
    (packets : List (List UInt8)) :
    (converter.run factor packets).length = packets.length := by
  induction packets generalizing converter with
  | nil => rfl
  | cons packet rest hypothesis => simp [hypothesis]

/-- Every packet has its step. -/
theorem exists_step
    (factor : Int)
    (converter : Converter)
    (packets : List (List UInt8))
    (index : Nat)
    (packet : List UInt8)
    (found : packets[index]? = some packet) :
    ∃ step, (converter.run factor packets)[index]? = some step := by
  have inside : index < (converter.run factor packets).length := by
    rw [length_run]
    exact (List.getElem?_eq_some_iff.1 found).1
  exact ⟨_, List.getElem?_eq_getElem inside⟩

/-- Behind a step, a run goes on from the converter that the step left. -/
theorem drop_run
    (factor : Int)
    (converter : Converter)
    (packets : List (List UInt8))
    (index : Nat)
    (step : Step)
    (found : (converter.run factor packets)[index]? = some step) :
    (converter.run factor packets).drop (index + 1) =
      step.after.run factor (packets.drop (index + 1)) := by
  induction packets generalizing converter index with
  | nil => simp at found
  | cons packet rest hypothesis =>
      cases index with
      | zero =>
          rw [run_cons, List.getElem?_cons_zero, Option.some_inj] at found
          rw [run_cons, List.drop_succ_cons, List.drop_succ_cons, List.drop_zero, List.drop_zero,
            found]
      | succ index =>
          rw [run_cons, List.getElem?_cons_succ] at found
          rw [run_cons, List.drop_succ_cons, List.drop_succ_cons]
          exact hypothesis _ _ found

/--
Each step of a run is the step of a converter that has every property which the first one has and
which no packet takes away.
-/
theorem step_of_run
    (factor : Int)
    (Holds : Converter → Prop)
    (kept :
      ∀ converter packet, Holds converter → Holds (converter.convertWithin factor packet).after)
    (converter : Converter)
    (start : Holds converter)
    (packets : List (List UInt8))
    (index : Nat)
    (step : Step)
    (found : (converter.run factor packets)[index]? = some step) :
    ∃ before packet,
      Holds before ∧ packets[index]? = some packet ∧
        step = before.convertWithin factor packet := by
  induction packets generalizing converter index with
  | nil => simp at found
  | cons packet rest hypothesis =>
      cases index with
      | zero =>
          rw [run_cons, List.getElem?_cons_zero, Option.some_inj] at found
          exact ⟨converter, packet, start, rfl, found.symm⟩
      | succ index =>
          rw [run_cons, List.getElem?_cons_succ] at found
          exact hypothesis _ (kept converter packet start) _ found

/-! ## One packet in a decoder -/

/-- What can come of a packet that goes to a decoder, with the state after it. -/
inductive Outcome
    (factor : Int)
    (decoder : Decoder)
    (state : decoder.State)
    (packet : List UInt8) :
    (answer : Except Error (List Char) × decoder.State) → Prop where
  | blocked
      (obstacle : Encoding.Obstacle)
      (after : decoder.State)
      (decoded : decoder.decode state packet = (.error (.blocked obstacle), after)) :
      Outcome factor decoder state packet (.error (.blocked obstacle), after)
  | invalid
      (position : Nat)
      (reason : Encoding.Reason)
      (after : decoder.State)
      (decoded : decoder.decode state packet = (.error (.illegal position reason), after)) :
      Outcome factor decoder state packet
        (.error (.failed (.invalid position reason)), decoder.reset after)
  | incomplete
      (text : List Char)
      (after : decoder.State)
      (decoded : decoder.decode state packet = (.ok text, after))
      (waiting : decoder.pending after ≠ []) :
      Outcome factor decoder state packet
        (.error (.failed (.incomplete (decoder.pending after).length)), decoder.reset after)
  | exhausted
      (text : List Char)
      (after : decoder.State)
      (decoded : decoder.decode state packet = (.ok text, after))
      (nothing : decoder.pending after = [])
      (beyond : factor * packet.length < Encoding.Utf8.size text) :
      Outcome factor decoder state packet
        (.error (.failed (.exhausted (Encoding.Utf8.size text) (factor * packet.length))),
          decoder.reset after)
  | text
      (taken : List Char)
      (after : decoder.State)
      (decoded : decoder.decode state packet = (.ok taken, after))
      (nothing : decoder.pending after = [])
      (within : (Encoding.Utf8.size taken : Int) ≤ factor * packet.length) :
      Outcome factor decoder state packet (.ok taken, after)

theorem outcome_transform
    (factor : Int)
    (decoder : Decoder)
    (state : decoder.State)
    (packet : List UInt8) :
    Outcome factor decoder state packet (transform factor decoder state packet) := by
  unfold transform
  split
  next obstacle after decoded => exact .blocked obstacle after decoded
  next position reason after decoded => exact .invalid position reason after decoded
  next text after decoded =>
    dsimp only
    split
    next waiting => exact .incomplete text after decoded waiting
    next nothing =>
      have empty : decoder.pending after = [] := Classical.not_not.1 nothing
      split
      next beyond => exact .exhausted text after decoded empty beyond
      next within => exact .text text after decoded empty (Int.not_lt.1 within)

/-! ## One packet -/

/-- The ways of a packet through a converter. -/
inductive Way
    (factor : Int)
    (converter : Converter)
    (packet : List UInt8) :
    (step : Step) → Prop where
  | closed
      (shut : converter.closed = true) :
      Way factor converter packet { result := .error .closed, after := converter }
  | direct
      (opened : converter.closed = false)
      (channel : converter.channel = .direct) :
      Way factor converter packet
        { result := .ok (readDirect (converter.relevant packet)).1,
          flaw := (readDirect (converter.relevant packet)).2,
          after := converter }
  | passed
      (scheme : Scheme)
      (state : scheme.decoder.State)
      (text : List Char)
      (opened : converter.closed = false)
      (channel : converter.channel = .decoding scheme state)
      (detected : detected? converter.detecting (converter.relevant packet) = some text) :
      Way factor converter packet { result := .ok text, after := converter }
  | decoded
      (scheme : Scheme)
      (state : scheme.decoder.State)
      (opened : converter.closed = false)
      (channel : converter.channel = .decoding scheme state)
      (foreign : detected? converter.detecting (converter.relevant packet) = none) :
      Way factor converter packet
        { result := (transform factor scheme.decoder state (converter.relevant packet)).1,
          after :=
            { converter with
              channel :=
                .decoding scheme
                  (transform factor scheme.decoder state (converter.relevant packet)).2,
              detecting := false } }

theorem way_convertWithin (factor : Int) (converter : Converter) (packet : List UInt8) :
    Way factor converter packet (converter.convertWithin factor packet) := by
  unfold convertWithin
  split
  next shut => exact .closed shut
  next unshut =>
    have opened := Bool.eq_false_of_not_eq_true unshut
    dsimp only
    split
    next channel => exact .direct opened channel
    next scheme state channel =>
      split
      next text detected => exact .passed scheme state text opened channel detected
      next foreign => exact .decoded scheme state opened channel foreign

/-- A closed converter refuses every packet and stays as it is. -/
theorem convert_of_closed
    (converter : Converter)
    (shut : converter.closed = true)
    (packet : List UInt8) :
    converter.convert packet = { result := .error .closed, after := converter } := by
  rw [convert, convertWithin, if_pos shut]

/-! ## One packet in convert mode -/

/-- A converter without detection whose decoder is in a state. -/
def holding (name : String) (scheme : Scheme) (state : scheme.decoder.State) : Converter :=
  { name, channel := .decoding scheme state }

theorem decoding_false (name : String) (scheme : Scheme) :
    decoding name scheme false = holding name scheme scheme.decoder.initial :=
  rfl

section Opening

variable (name : String) (detecting : Bool) (catalogue : Encoding.Catalogue)

/-- A converter can be opened for the names of encodings, and starts with their decoder. -/
theorem open?_eq_ok_iff (converter : Converter) :
    open? name detecting catalogue = .ok converter ↔
      ∃ scheme,
        catalogue name = .ok scheme ∧ converter = decoding name scheme detecting := by
  unfold open?
  cases catalogue name with
  | error fault => simp [Except.map]
  | ok scheme => simp [Except.map, eq_comm]

/-- Nothing is opened for a name without an encoding, for the reason that it has none. -/
theorem open?_eq_error_iff (fault : Encoding.NameFault) :
    open? name detecting catalogue = .error fault ↔ catalogue name = .error fault := by
  unfold open?
  cases catalogue name <;> simp [Except.map]

end Opening

/-- Without detection a packet goes to the decoder. -/
theorem convertWithin_holding
    (factor : Int)
    (name : String)
    (scheme : Scheme)
    (state : scheme.decoder.State)
    (packet : List UInt8) :
    (holding name scheme state).convertWithin factor packet =
      let answer :=
        transform factor scheme.decoder state ((holding name scheme state).relevant packet)
      { result := answer.1, after := holding name scheme answer.2 } :=
  rfl

/--
A packet yields a text exactly if the reader of the encoding reads it to its end, and the text stays
within the limit.
-/
theorem result_decoding_eq_ok_iff
    {encoding : Encoding}
    {reader : Encoding.Reader}
    (read : encoding.reader? = some reader)
    (factor : Int)
    (name : String)
    (packet : List UInt8)
    (text : List Char) :
    ((decoding name encoding false).convertWithin factor packet).result = .ok text ↔
      reader.decodeAll 0 ((decoding name encoding false).relevant packet) = .ok (text, []) ∧
        (Encoding.Utf8.size text : Int) ≤
          factor * ((decoding name encoding false).relevant packet).length := by
  generalize alone : (decoding name encoding false).relevant packet = relevant
  have decoder : encoding.decoder = .ofReader reader := by
    simp only [Encoding.decoder, read]
  have result :
      ((decoding name encoding false).convertWithin factor packet).result =
        (transform factor (.ofReader reader) [] relevant).1 := by
    rw [decoding_false] at alone ⊢
    rw [convertWithin_holding]
    dsimp only
    rw [alone, decoder]
    rfl
  rw [result]
  unfold transform Decoder.ofReader Decoder.settle
  dsimp only
  rw [List.nil_append]
  rcases reader.decodeAll 0 relevant with (⟨position, reason⟩ | obstacle) | ⟨taken, waiting⟩
  · simp
  · simp
  · by_cases nothing : waiting = []
    · simp only [nothing, ne_eq, not_true_eq_false, if_false]
      split <;> grind
    · simp [nothing]

/-- What passes while detection is on is the text that the packet is the written form of. -/
theorem detected?_eq_some_iff (packet : List UInt8) (text : List Char) :
    detected? true packet = some text ↔ encode text = packet := by
  rw [← Encoding.Utf8.decode?_eq_ok_iff]
  show (Encoding.Utf8.decode? packet).toOption = some text ↔ _
  cases Encoding.Utf8.decode? packet with
  | error fault => simp [Except.toOption]
  | ok taken => simp [Except.toOption]

theorem detected?_eq_none_iff (packet : List UInt8) :
    detected? true packet = none ↔ ¬ IsValid packet := by
  constructor
  · rintro absent ⟨text, written⟩
    rw [(detected?_eq_some_iff packet text).2 written] at absent
    cases absent
  · intro invalid
    cases outcome : detected? true packet with
    | none => rfl
    | some text => exact (invalid ⟨text, (detected?_eq_some_iff packet text).1 outcome⟩).elim

/-- While detection is on, a packet that is UTF-8 passes and changes nothing. -/
theorem convertWithin_of_encode
    (factor : Int)
    (name : String)
    (scheme : Scheme)
    (packet : List UInt8)
    (text : List Char)
    (written : encode text = (decoding name scheme true).relevant packet) :
    (decoding name scheme true).convertWithin factor packet =
      { result := .ok text, after := decoding name scheme true } := by
  have passes := (detected?_eq_some_iff _ text).2 written
  unfold convertWithin
  simp only [decoding] at passes ⊢
  rw [passes]
  rfl

/-- A packet that is not UTF-8 does what it does to a converter opened without detection. -/
theorem convertWithin_of_not_isValid
    (factor : Int)
    (name : String)
    (scheme : Scheme)
    (packet : List UInt8)
    (invalid : ¬ IsValid ((decoding name scheme true).relevant packet)) :
    (decoding name scheme true).convertWithin factor packet =
      (decoding name scheme false).convertWithin factor packet := by
  have absent := (detected?_eq_none_iff _).2 invalid
  unfold convertWithin
  simp only [decoding] at absent ⊢
  rw [absent]
  rfl

end TimedText.Converter
