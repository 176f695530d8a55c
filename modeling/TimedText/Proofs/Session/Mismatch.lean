import TimedText.Proofs.Charset.Choice
import TimedText.Proofs.Converter.Obstacle
import TimedText.Proofs.Session.Tally

/-!
# Packets that do not fit their encoding

A packet whose bytes do not fit the encoding of its session is dropped with one report, and the
session goes on.  This is so in every session and at every point of it.

What can go wrong instead is that the decoder meets an obstacle, which stops the packet with an
error.  A session is free of this exactly if no packets take its decoder to where one is met.  Under
the encodings that are defined here this is so exactly if the encoding has no obstacles: then no
packet is stopped, and otherwise the second packet can be.
-/

namespace TimedText.Session

/-! ## The converter of a session -/

section Opened

variable
  {settings : DecoderSettings}
  {codec : Codec}
  {declaration : Option String}
  {lookup : Color.Lookup}
  {platform : String}
  {catalogue : Encoding.Catalogue}
  {session : Session}
  {notices : List Notice}

/-- A session starts in direct mode or with a decoder that has read nothing. -/
theorem converter_of_open?
    (opened :
      open? settings codec declaration lookup platform catalogue = .ok (session, notices)) :
    session.converter = .direct ∨
      ∃ name scheme detecting, session.converter = .decoding name scheme detecting := by
  rcases open?_eq_ok opened with ⟨converter, refusal, found, rfl⟩
  rcases Charset.converter_eq_ok found with direct | ⟨scheme, -, decoding⟩
  · exact .inl direct
  · exact .inr ⟨_, scheme, _, decoding⟩

theorem unclosed_of_open?
    (opened :
      open? settings codec declaration lookup platform catalogue = .ok (session, notices)) :
    session.converter.closed = false := by
  rcases converter_of_open? opened with direct | ⟨name, scheme, detecting, decoding⟩
  · rw [direct]
    rfl
  · rw [decoding]
    rfl

end Opened

/-! ## Packets that fail -/

/-- The step of a packet that does not fit: it is reported, counted and dropped. -/
theorem decode_of_failed
    (session : Session)
    (packet : Packet)
    (start : Int)
    (failure : Converter.Failure)
    (proper : packet.IsProper start)
    (failed : (session.converter.convert packet.data).result = .error (.failed failure)) :
    session.decode packet =
      { result := .ok none,
        notices := [.unconverted session.converter.name failure],
        after := (session.converted packet).countConversionFailure.drop } := by
  have unflawed := session.converter.flaw_of_failed packet.data failure failed
  have named := session.converter.name_convert packet.data
  rw [decode_of_isProper session packet start proper, convertAndShow]
  simp only [failed, unflawed, named, Option.toList_none, List.map_nil, List.nil_append]
  rfl

/-! ## Packets that are stopped -/

/-- The packet with bytes that is shown from the first moment on. -/
def packetOf (data : List UInt8) : Packet :=
  { data, start := some 1 }

theorem packetOf_isProper (data : List UInt8) (filled : data ≠ []) :
    (packetOf data).IsProper 1 :=
  ⟨rfl, rfl, rfl, Int.one_pos, filled⟩

/-- As long as a session is not closed, its converter is where packets with bytes have taken it. -/
theorem exists_packets_of_requests
    (session : Session)
    (requests : List Request)
    (running : .close ∉ requests) :
    ∃ packets,
      [] ∉ packets ∧
        (session.afterAll requests).converter = session.converter.afterAll packets := by
  induction requests generalizing session with
  | nil => exact ⟨[], by simp, rfl⟩
  | cons request rest hypothesis =>
      rw [List.mem_cons, not_or] at running
      rcases hypothesis (session.call request).after running.2 with ⟨packets, filled, reached⟩
      rw [afterAll_cons]
      cases request with
      | close => exact (running.1 rfl).elim
      | configure settings => exact ⟨packets, filled, reached⟩
      | decode packet =>
          rw [reached]
          show
            ∃ others,
              [] ∉ others ∧
                (session.decode packet).after.converter.afterAll packets =
                  session.converter.afterAll others
          rcases converter_decode session packet with untouched | ⟨bytes, read⟩
          · rw [untouched]
            exact ⟨packets, filled, rfl⟩
          · rw [read]
            refine ⟨packet.data :: packets, ?_, rfl⟩
            simpa [filled] using bytes.symm

/-- Any packets with bytes can be given to the converter of a session. -/
theorem converter_afterAll_decode
    (session : Session)
    (packets : List (List UInt8))
    (filled : [] ∉ packets) :
    (session.afterAll (packets.map fun data => .decode (packetOf data))).converter =
      session.converter.afterAll packets := by
  induction packets generalizing session with
  | nil => rfl
  | cons data rest hypothesis =>
      rw [List.mem_cons, not_or] at filled
      have first :=
        converter_decode_of_isProper session _ 1 (packetOf_isProper data (Ne.symm filled.1))
      rw [List.map_cons, afterAll_cons, hypothesis _ filled.2]
      exact congrArg (Converter.afterAll · rest) first

/-- A closed session stops packets for being closed, and an open one as its converter does. -/
theorem decode_ne_blocked
    (session : Session)
    (unobstructed : session.converter.IsUnobstructed)
    (requests : List Request)
    (packet : Packet)
    (obstacle : Encoding.Obstacle) :
    ((session.afterAll requests).decode packet).result ≠ .error (.blocked obstacle) := by
  have way := exit_decode (session.afterAll requests) packet
  generalize (session.afterAll requests).decode packet = step at way
  cases way with
  | blocked start met proper stopped =>
      by_cases closing : .close ∈ requests
      · have shut := (closed_afterAll session requests).2 (.inr closing)
        rw [(session.afterAll requests).converter.convert_of_closed shut] at stopped
        cases stopped
      · rcases exists_packets_of_requests session requests closing with
          ⟨packets, filled, reached⟩
        rw [reached] at stopped
        exact (unobstructed packets packet.data met filled stopped).elim
  | damaged | untimed | empty => simp
  | unconverted | unparsed | shown => simp
  | closed | numeralTooLong => simp

/-- An open session converts every packet to a text or a failure if no obstacle stops its converter. -/
theorem isUnobstructed_iff_answers
    (session : Session)
    (unclosed : session.converter.closed = false) :
    session.converter.IsUnobstructed ↔
      ∀ (requests : List Request) (packet : List UInt8),
        .close ∉ requests →
          let step := (session.afterAll requests).converter.convert packet
          (∃ text, step.result = .ok text) ∨
            ∃ failure, step.result = .error (.failed failure) := by
  constructor
  · intro unobstructed requests packet running step
    have still : (session.afterAll requests).converter.closed = false := by
      rw [← Bool.not_eq_true, closed_afterAll, unclosed]
      simpa using running
    rcases (session.afterAll requests).converter.convert_yields_or_fails still packet with
      text | failure | ⟨obstacle, stopped⟩
    · exact .inl text
    · exact .inr failure
    · rcases exists_packets_of_requests session requests running with ⟨packets, filled, reached⟩
      rw [reached] at stopped
      exact (unobstructed packets packet obstacle filled stopped).elim
  · intro answers packets packet obstacle filled stopped
    have answer :=
      answers (packets.map fun data => .decode (packetOf data)) packet (by simp)
    dsimp only at answer
    rw [converter_afterAll_decode session packets filled, stopped] at answer
    rcases answer with ⟨text, read⟩ | ⟨failure, failed⟩
    · cases read
    · cases failed

/-! ## All sessions -/

/--
Whatever names of encodings are known, every packet given to an open session is converted to a text
or fails exactly if no packets take the decoder of the session to a state in which it is stopped, and
then no packet is stopped.  It is enough that the session reads UTF-8 without a decoder or that its
decoder meets no obstacle in any state, and for the encodings that are defined here this is
necessary.  In every session, a packet that passes the checks and fails is answered with nothing,
counted as dropped and as not converted, and reported as one error.
-/
theorem unfit_packets_are_dropped
    (settings : DecoderSettings)
    (codec : Codec)
    (declaration : Option String)
    (lookup : Color.Lookup)
    (platform : String)
    (catalogue : Encoding.Catalogue)
    (session : Session)
    (notices : List Notice)
    (opened :
      open? settings codec declaration lookup platform catalogue = .ok (session, notices)) :
    (session.converter.IsUnobstructed ↔
        ∀ (requests : List Request) (packet : List UInt8),
          .close ∉ requests →
            let step := (session.afterAll requests).converter.convert packet
            (∃ text, step.result = .ok text) ∨ ∃ failure, step.result = .error (.failed failure)) ∧
      (session.converter.IsUnobstructed →
        ∀ (requests : List Request) (packet : Packet) (obstacle : Encoding.Obstacle),
          ((session.afterAll requests).decode packet).result ≠ .error (.blocked obstacle)) ∧
      (session.converter.HasSafeDecoder → session.converter.IsUnobstructed) ∧
      (∀ (name : String) (encoding : Encoding) (detecting : Bool),
        session.converter = .decoding name encoding detecting →
          (session.converter.IsUnobstructed ↔ encoding.hasObstacles = false)) ∧
      ∀ (requests : List Request) (packet : Packet) (failure : Converter.Failure),
        let before := session.afterAll requests
        let step := before.decode packet
        packet.isProper = true →
          (before.converter.convert packet.data).result = .error (.failed failure) →
            step.result = .ok none ∧
              step.after.tally =
                { before.tally with
                  dropped := before.tally.dropped + 1,
                  conversionFailures := before.tally.conversionFailures + 1 } ∧
              step.notices = [.unconverted before.converter.name failure] ∧
              step.notices.map Notice.level = [.error] := by
  have unclosed := unclosed_of_open? opened
  refine
    ⟨isUnobstructed_iff_answers session unclosed,
      decode_ne_blocked session,
      session.converter.isUnobstructed_of_hasSafeDecoder, ?_, ?_⟩
  · intro name encoding detecting decoding
    rw [decoding]
    exact Converter.isUnobstructed_decoding_iff name encoding detecting
  · intro requests packet failure before step proper failed
    rcases packet.isProper_iff.1 proper with ⟨start, passes⟩
    have dropped : step = _ := decode_of_failed before packet start failure passes failed
    rw [dropped]
    exact ⟨rfl, rfl, rfl, rfl⟩

/-- Half a unit behind a whole packet does not fit, and is dropped. -/
theorem unfit_packets_are_dropped_after_half_unit :
    let requests : List Request := [.decode (packetOf [0x41, 0x00])]
    ∃ session,
      open? {} .subt (some "UTF-16LE") Color.byName "UTF-8" = .ok (session, []) ∧
        (∃ failure,
          ((session.afterAll requests).converter.convert [0x41, 0x00, 0x42]).result =
            .error (.failed failure)) ∧
        ((session.afterAll requests).decode (packetOf [0x41, 0x00, 0x42])).after.tally =
          { decoded := 1, dropped := 1, conversionFailures := 1 } ∧
        ((session.afterAll requests).decode (packetOf [0x41, 0x00, 0x42])).notices.map
            Notice.level =
          [.error] := by
  intro requests
  let session : Session :=
    { codec := .subt, settings := {}, lookup := Color.byName,
      converter := .decoding "UTF-16LE" (Encoding.wide .two (some .little)) false }
  have opened : open? {} .subt (some "UTF-16LE") Color.byName "UTF-8" = .ok (session, []) :=
    rfl
  have tally : (session.afterAll requests).tally = { decoded := 1 } := by
    cbv
  have failed :
      ((session.afterAll requests).converter.convert [0x41, 0x00, 0x42]).result =
        .error (.failed (.incomplete 1)) := by
    cbv
  rcases
    unfit_packets_are_dropped {} .subt (some "UTF-16LE") Color.byName "UTF-8" Encoding.catalogue
      session [] opened with
    ⟨-, -, -, -, drops⟩
  rcases drops requests (packetOf [0x41, 0x00, 0x42]) (.incomplete 1) rfl failed with
    ⟨-, counted, -, reported⟩
  refine ⟨session, opened, ⟨_, failed⟩, ?_, reported⟩
  rw [counted, tally]

/-- Units without a mark are stopped with an error, and neither counted nor reported. -/
theorem unmarked_packet_is_stopped :
    ∃ session,
      open? {} .subt (some "UTF-16") Color.byName "UTF-8" = .ok (session, []) ∧
        (session.converter.convert [0x41, 0x00, 0x42, 0x00]).result =
          .error (.blocked .unknownOrder) ∧
        (session.decode (packetOf [0x41, 0x00, 0x42, 0x00])).result =
          .error (.blocked .unknownOrder) ∧
        (session.decode (packetOf [0x41, 0x00, 0x42, 0x00])).after.tally = {} ∧
        (session.decode (packetOf [0x41, 0x00, 0x42, 0x00])).notices = [] := by
  refine
    ⟨{ codec := .subt, settings := {}, converter := .decoding "UTF-16" (Encoding.wide .two none) false,
        lookup := Color.byName }, rfl, ?_, ?_, ?_, ?_⟩
  · cbv
  · cbv
  · cbv
  · cbv

end TimedText.Session
