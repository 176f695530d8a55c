import Mathlib
import TimedText.Session

/-!
# Ways out of decoding

A packet takes one of nine ways through a session.  Three checks come first, and a packet that fails
one of them is dropped and never reaches the converter.  A packet that passes them is converted; it
is dropped if it fails there, and stops with an error if the converter is closed or meets an
obstacle.  Its text is then parsed, with one way on to a dropped packet, one to an error, and one to
a subtitle.

The ways are listed here once, each with what it is taken for, what it answers and reports, and the
session that it leaves.  What holds of every packet is read off this list.
-/

namespace TimedText

/-- A packet that passes the checks: it is undamaged, shown at some time, and not empty. -/
structure Packet.IsProper (packet : Packet) (start : Int) : Prop where
  continuous : packet.discontinuity = false
  intact : packet.corrupted = false
  timed : packet.start = some start
  positive : 0 < start
  filled : packet.data ≠ []

namespace Packet

theorem not_isProper_of_damaged
    (packet : Packet)
    (mark : packet.discontinuity = true ∨ packet.corrupted = true)
    (start : Int) :
    ¬ packet.IsProper start := by
  intro proper
  rcases mark with discontinuity | corrupted
  · rw [proper.continuous] at discontinuity
    cases discontinuity
  · rw [proper.intact] at corrupted
    cases corrupted

theorem not_isProper_of_untimed
    (packet : Packet)
    (never : ∀ start, packet.start = some start → start ≤ 0)
    (start : Int) :
    ¬ packet.IsProper start := by
  intro proper
  exact not_lt.2 (never start proper.timed) proper.positive

theorem not_isProper_of_empty
    (packet : Packet)
    (nothing : packet.data = [])
    (start : Int) :
    ¬ packet.IsProper start := by
  intro proper
  exact proper.filled nothing

end Packet

namespace Session

/-- The session after its converter has read a packet. -/
def converted (session : Session) (packet : Packet) : Session :=
  { session with converter := (session.converter.convert packet.data).after }

/-- The reports on bytes that were replaced while a packet was converted. -/
def repairs (session : Session) (packet : Packet) : List Notice :=
  (session.converter.convert packet.data).flaw.toList.map Notice.repaired

/-- The ways out of decoding a packet. -/
inductive Exit (session : Session) (packet : Packet) : (step : Step) → Prop where
  | damaged
      (mark : packet.discontinuity = true ∨ packet.corrupted = true) :
      Exit session packet { result := .ok none, after := session.drop }
  | untimed
      (never : ∀ start, packet.start = some start → start ≤ 0) :
      Exit session packet
        { result := .ok none, notices := [.untimed], after := session.drop }
  | empty
      (nothing : packet.data = []) :
      Exit session packet
        { result := .ok none, notices := [.noData], after := session.drop }
  | unconverted
      (start : Int)
      (failure : Converter.Failure)
      (proper : packet.IsProper start)
      (failed : (session.converter.convert packet.data).result = .error (.failed failure)) :
      Exit session packet
        { result := .ok none,
          notices :=
            session.repairs packet ++
              [.unconverted (session.converted packet).converter.name failure],
          after := (session.converted packet).countConversionFailure.drop }
  | closed
      (start : Int)
      (proper : packet.IsProper start)
      (refused : (session.converter.convert packet.data).result = .error .closed) :
      Exit session packet
        { result := .error .closed,
          notices := session.repairs packet,
          after := session.converted packet }
  | blocked
      (start : Int)
      (obstacle : Encoding.Obstacle)
      (proper : packet.IsProper start)
      (stopped : (session.converter.convert packet.data).result = .error (.blocked obstacle)) :
      Exit session packet
        { result := .error (.blocked obstacle),
          notices := session.repairs packet,
          after := session.converted packet }
  | unparsed
      (start : Int)
      (text : List Char)
      (proper : packet.IsProper start)
      (read : (session.converter.convert packet.data).result = .ok text)
      (failed :
        Markup.parse session.lookup session.settings.defaultAlign text = .error .outOfMemory) :
      Exit session packet
        { result := .ok none,
          notices := session.repairs packet ++ [.unparsed (Markup.untilNul text).length],
          after := (session.converted packet).countParseFailure.drop }
  | numeralTooLong
      (start : Int)
      (text : List Char)
      (proper : packet.IsProper start)
      (read : (session.converter.convert packet.data).result = .ok text)
      (failed :
        Markup.parse session.lookup session.settings.defaultAlign text = .error .numeralTooLong) :
      Exit session packet
        { result := .error .numeralTooLong,
          notices := session.repairs packet,
          after := session.converted packet }
  | shown
      (start : Int)
      (text : List Char)
      (outcome : Markup.Outcome)
      (proper : packet.IsProper start)
      (read : (session.converter.convert packet.data).result = .ok text)
      (parsed : Markup.parse session.lookup session.settings.defaultAlign text = .ok outcome) :
      Exit session packet
        { result :=
            .ok
              (some
                (.timed start packet.length outcome.align (styled session.settings outcome))),
          notices := session.repairs packet,
          after := (session.converted packet).countDecoded }

theorem properStart?_eq_some_iff (packet : Packet) (start : Int) :
    properStart? packet = some start ↔ packet.start = some start ∧ 0 < start := by
  unfold properStart?
  cases packet.start with
  | none => simp
  | some given =>
      by_cases positive : 0 < given
      · simp only [if_pos positive, Option.some.injEq]
        constructor
        · rintro rfl
          exact ⟨rfl, positive⟩
        · exact And.left
      · simp only [if_neg positive, Option.some.injEq]
        constructor
        · rintro ⟨⟩
        · rintro ⟨rfl, impossible⟩
          exact (positive impossible).elim

/-- A packet that passes the checks goes to the converter. -/
theorem decode_of_isProper
    (session : Session)
    (packet : Packet)
    (start : Int)
    (proper : packet.IsProper start) :
    session.decode packet = session.convertAndShow packet start := by
  have timed := (properStart?_eq_some_iff packet start).2 ⟨proper.timed, proper.positive⟩
  have filled : ¬ packet.data.isEmpty = true := by
    simpa using proper.filled
  rw [decode, proper.continuous, proper.intact, timed]
  simp only [Bool.or_self, Bool.false_eq_true, if_false, if_neg filled]

theorem exit_convertAndShow
    (session : Session)
    (packet : Packet)
    (start : Int)
    (proper : packet.IsProper start) :
    Exit session packet (session.convertAndShow packet start) := by
  unfold convertAndShow
  dsimp only
  split
  next text read =>
    unfold present
    split
    next outcome parsed =>
      rw [List.append_nil]
      exact .shown start text outcome proper read parsed
    next failed => exact .unparsed start text proper read failed
    next failed =>
      rw [List.append_nil]
      exact .numeralTooLong start text proper read failed
  next failure failed => exact .unconverted start failure proper failed
  next refused => exact .closed start proper refused
  next obstacle stopped => exact .blocked start obstacle proper stopped

/-- Every packet takes one of the ways. -/
theorem exit_decode (session : Session) (packet : Packet) :
    Exit session packet (session.decode packet) := by
  by_cases mark : packet.discontinuity = true ∨ packet.corrupted = true
  · rw [decode, if_pos (Bool.or_eq_true_iff.2 mark)]
    exact .damaged mark
  have unmarked : ¬ (packet.discontinuity || packet.corrupted) = true := by
    rwa [Bool.or_eq_true]
  cases found : properStart? packet with
  | none =>
      rw [decode, if_neg unmarked, found]
      refine .untimed fun start timed => ?_
      by_contra positive
      have proper := (properStart?_eq_some_iff packet start).2 ⟨timed, not_le.1 positive⟩
      rw [found] at proper
      cases proper
  | some start =>
      by_cases nothing : packet.data = []
      · have isEmpty : packet.data.isEmpty = true := List.isEmpty_iff.2 nothing
        rw [decode, if_neg unmarked, found]
        dsimp only
        rw [if_pos isEmpty]
        exact .empty nothing
      · rw [not_or, Bool.not_eq_true, Bool.not_eq_true] at mark
        rcases (properStart?_eq_some_iff packet start).1 found with ⟨timed, positive⟩
        have proper : packet.IsProper start := ⟨mark.1, mark.2, timed, positive, nothing⟩
        rw [decode_of_isProper session packet start proper]
        exact exit_convertAndShow session packet start proper

/-- A packet leaves the converter alone, or has bytes and leaves it as it is after reading them. -/
theorem converter_decode (session : Session) (packet : Packet) :
    (session.decode packet).after.converter = session.converter ∨
      packet.data ≠ [] ∧
        (session.decode packet).after.converter =
          (session.converter.convert packet.data).after := by
  have way := exit_decode session packet
  generalize session.decode packet = step at way
  cases way with
  | damaged | untimed | empty => exact .inl rfl
  | unconverted start failure proper => exact .inr ⟨proper.filled, rfl⟩
  | unparsed start text proper => exact .inr ⟨proper.filled, rfl⟩
  | shown start text outcome proper => exact .inr ⟨proper.filled, rfl⟩
  | closed start proper => exact .inr ⟨proper.filled, rfl⟩
  | blocked start obstacle proper => exact .inr ⟨proper.filled, rfl⟩
  | numeralTooLong start text proper => exact .inr ⟨proper.filled, rfl⟩

theorem converter_decode_of_isProper
    (session : Session)
    (packet : Packet)
    (start : Int)
    (proper : packet.IsProper start) :
    (session.decode packet).after.converter = (session.converter.convert packet.data).after := by
  have way := exit_decode session packet
  generalize session.decode packet = step at way
  cases way with
  | damaged mark => exact (packet.not_isProper_of_damaged mark start proper).elim
  | untimed never => exact (packet.not_isProper_of_untimed never start proper).elim
  | empty nothing => exact (packet.not_isProper_of_empty nothing start proper).elim
  | unconverted | unparsed | shown => rfl
  | closed | blocked | numeralTooLong => rfl

/-- A packet changes neither the settings of a session nor its colours. -/
theorem settings_decode (session : Session) (packet : Packet) :
    (session.decode packet).after.settings = session.settings ∧
      (session.decode packet).after.lookup = session.lookup := by
  have way := exit_decode session packet
  generalize session.decode packet = step at way
  cases way with
  | damaged | untimed | empty | unconverted | unparsed | shown => exact ⟨rfl, rfl⟩
  | closed | blocked | numeralTooLong => exact ⟨rfl, rfl⟩

/-- A subtitle is what a session shows of the text of its packet. -/
theorem shown_of_decode
    (session : Session)
    (packet : Packet)
    (subtitle : Subtitle)
    (shown : (session.decode packet).result = .ok (some subtitle)) :
    ∃ start text outcome,
      (session.converter.convert packet.data).result = .ok text ∧
        Markup.parse session.lookup session.settings.defaultAlign text = .ok outcome ∧
        subtitle = .timed start packet.length outcome.align (styled session.settings outcome) := by
  have way := exit_decode session packet
  generalize session.decode packet = step at way shown
  cases way with
  | damaged | untimed | empty | unconverted | closed | blocked | unparsed | numeralTooLong =>
      cases shown
  | shown start text outcome proper read parsed =>
      cases shown
      exact ⟨start, text, outcome, read, parsed, rfl⟩

end Session

end TimedText
