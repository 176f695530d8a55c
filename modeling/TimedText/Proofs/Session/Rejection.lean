import TimedText.Proofs.Session.Tally

/-!
# Packets that fail a check

A packet that is damaged, shown at no time or empty is answered with nothing, whatever the session
has been through and whether it is closed or not.  It is counted as dropped and touches nothing
else.

Nothing else ever looks at the number of dropped packets.  So the calls on the other packets of a
run are the same with and without the packets that fail a check, and the sessions after them differ
in that number alone, by as many as fail a check.
-/

namespace TimedText

/-- A packet fails a check just if it is damaged, shown at no time, or empty. -/
theorem Packet.isProper_eq_false_iff (packet : Packet) :
    packet.isProper = false ↔
      (packet.discontinuity = true ∨ packet.corrupted = true) ∨
        (∀ start, packet.start = some start → start ≤ 0) ∨
        packet.data = [] := by
  constructor
  · intro improper
    by_contra fine
    rw [not_or, not_or, not_or, Bool.not_eq_true, Bool.not_eq_true, not_forall] at fine
    rcases fine with ⟨⟨continuous, intact⟩, ⟨start, timely⟩, filled⟩
    rw [Classical.not_imp, not_le] at timely
    have proper := packet.isProper_iff.2 ⟨start, continuous, intact, timely.1, timely.2, filled⟩
    rw [improper] at proper
    cases proper
  · intro flawed
    rw [← Bool.not_eq_true, isProper_iff]
    rintro ⟨start, proper⟩
    rcases flawed with mark | never | nothing
    · exact packet.not_isProper_of_damaged mark start proper
    · exact packet.not_isProper_of_untimed never start proper
    · exact packet.not_isProper_of_empty nothing start proper

namespace Session

/-- A request to decode a packet that fails a check. -/
def Request.isRejected : Request → Bool
  | .decode packet => !packet.isProper
  | _ => false

/-! ## One packet -/

/-- A packet that fails a check is answered with nothing, and only counted as dropped. -/
theorem call_of_isRejected
    (session : Session)
    (request : Request)
    (rejected : request.isRejected = true) :
    (session.call request).answer = some (.ok none) ∧
      (session.call request).after = session.drop := by
  cases request with
  | configure settings => cases rejected
  | close => cases rejected
  | decode packet =>
      have improper (start : Int) : ¬ packet.IsProper start := by
        intro proper
        have accepted := packet.isProper_iff.2 ⟨start, proper⟩
        rw [Request.isRejected, accepted] at rejected
        cases rejected
      have way := exit_decode session packet
      simp only [call]
      generalize session.decode packet = step at way ⊢
      cases way with
      | damaged | untimed | empty => exact ⟨rfl, rfl⟩
      | unconverted start _ proper | closed start proper | blocked start _ proper =>
          exact (improper start proper).elim
      | unparsed start _ proper | numeralTooLong start _ proper | shown start _ _ proper =>
          exact (improper start proper).elim

/-! ## The number of dropped packets -/

/-- The session with so many more dropped packets. -/
def dropMore (session : Session) (count : Nat) : Session :=
  { session with tally := { session.tally with dropped := session.tally.dropped + count } }

@[simp]
theorem dropMore_zero (session : Session) : session.dropMore 0 = session :=
  rfl

theorem dropMore_dropMore (session : Session) (count more : Nat) :
    (session.dropMore count).dropMore more = session.dropMore (count + more) := by
  simp only [dropMore, Nat.add_assoc]

theorem drop_eq_dropMore (session : Session) : session.drop = session.dropMore 1 :=
  rfl

section Shift

variable (session : Session) (count : Nat)

theorem present_dropMore (packet : Packet) (start : Int) (text : List Char) :
    (session.dropMore count).present packet start text =
      { session.present packet start text with
        after := (session.present packet start text).after.dropMore count } := by
  unfold present
  dsimp only [dropMore]
  cases Markup.parse session.lookup session.settings.defaultAlign text with
  | ok outcome => rfl
  | error failure =>
      cases failure with
      | outOfMemory => simp only [countParseFailure, drop, Nat.add_right_comm]
      | numeralTooLong => rfl

theorem convertAndShow_dropMore (packet : Packet) (start : Int) :
    (session.dropMore count).convertAndShow packet start =
      { session.convertAndShow packet start with
        after := (session.convertAndShow packet start).after.dropMore count } := by
  unfold convertAndShow
  dsimp only [dropMore]
  cases (session.converter.convert packet.data).result with
  | ok text =>
      have shown := present_dropMore (session.converted packet) count packet start text
      dsimp only [converted, dropMore] at shown
      simp only [shown]
  | error error =>
      cases error with
      | failed failure => simp only [countConversionFailure, drop, Nat.add_right_comm]
      | closed => rfl
      | blocked obstacle => rfl

/-- A packet takes the same way whatever number of packets was dropped before it. -/
theorem decode_dropMore (packet : Packet) :
    (session.dropMore count).decode packet =
      { session.decode packet with after := (session.decode packet).after.dropMore count } := by
  have dropped : (session.dropMore count).drop = session.drop.dropMore count := by
    simp only [drop_eq_dropMore, dropMore_dropMore, Nat.add_comm]
  unfold decode
  rw [dropped]
  split
  next => rfl
  next =>
    cases properStart? packet with
    | none => rfl
    | some start =>
        dsimp only
        split
        next => rfl
        next => exact convertAndShow_dropMore session count packet start

end Shift

/-! ## Calls that differ in the number of dropped packets -/

/-- The same call in two sessions, the first of which has dropped so many more packets. -/
structure Call.Shifted (count : Nat) (one other : Call) : Prop where
  before : one.before = other.before.dropMore count
  request : one.request = other.request
  answer : one.answer = other.answer
  notices : one.notices = other.notices
  after : one.after = other.after.dropMore count

theorem shifted_call (session : Session) (count : Nat) (request : Request) :
    Call.Shifted count ((session.dropMore count).call request) (session.call request) := by
  cases request with
  | decode packet =>
      simp only [call, decode_dropMore]
      exact ⟨rfl, rfl, rfl, rfl, rfl⟩
  | configure settings => exact ⟨rfl, rfl, rfl, rfl, rfl⟩
  | close => exact ⟨rfl, rfl, rfl, rfl, rfl⟩

/-- The calls of a run on requests that are not rejected. -/
def passingCalls (session : Session) (requests : List Request) : List Call :=
  (session.calls requests).filter fun call => !call.request.isRejected

/-- The requests that are not rejected. -/
def Request.passing (requests : List Request) : List Request :=
  requests.filter fun request => !request.isRejected

theorem passingCalls_of_isRejected
    (session : Session)
    (request : Request)
    (rest : List Request)
    (rejected : request.isRejected = true) :
    session.passingCalls (request :: rest) = session.drop.passingCalls rest := by
  rcases call_of_isRejected session request rejected with ⟨-, after⟩
  simp [passingCalls, rejected, after]

theorem passingCalls_of_not_isRejected
    (session : Session)
    (request : Request)
    (rest : List Request)
    (passes : request.isRejected = false) :
    session.passingCalls (request :: rest) =
      session.call request :: (session.call request).after.passingCalls rest := by
  simp [passingCalls, passes]

/-- The calls on requests that pass are the same with more dropped packets before or in between. -/
theorem shifted_passingCalls (session : Session) (count : Nat) (requests : List Request) :
    List.Forall₂ (fun one other => ∃ count, Call.Shifted count one other)
      ((session.dropMore count).passingCalls requests)
      (session.calls (Request.passing requests)) := by
  induction requests generalizing session count with
  | nil => exact .nil
  | cons request rest hypothesis =>
      cases rejected : request.isRejected with
      | true =>
          rw [passingCalls_of_isRejected _ request rest rejected, drop_eq_dropMore,
            dropMore_dropMore]
          simpa [Request.passing, rejected] using hypothesis session (count + 1)
      | false =>
          have shifted := shifted_call session count request
          rw [passingCalls_of_not_isRejected _ request rest rejected, shifted.after]
          simp only [Request.passing, rejected, Bool.not_false, List.filter_cons_of_pos, calls_cons]
          exact .cons ⟨count, shifted⟩ (hypothesis (session.call request).after count)

/-- The session after a run is the one without rejected packets, with these counted as dropped. -/
theorem afterAll_dropMore (session : Session) (count : Nat) (requests : List Request) :
    (session.dropMore count).afterAll requests =
      (session.afterAll (Request.passing requests)).dropMore
        (count + requests.countP Request.isRejected) := by
  induction requests generalizing session count with
  | nil => rfl
  | cons request rest hypothesis =>
      cases rejected : request.isRejected with
      | true =>
          rcases call_of_isRejected (session.dropMore count) request rejected with ⟨-, after⟩
          rw [afterAll_cons, after, drop_eq_dropMore, dropMore_dropMore, hypothesis]
          simp [Request.passing, rejected, Nat.add_comm, Nat.add_left_comm]
      | false =>
          rw [afterAll_cons, (shifted_call session count request).after, hypothesis]
          simp [Request.passing, rejected]

/-! ## Runs with and without rejected packets -/

/--
Packets that fail a check leave no trace.  Without them each other call of a run finds a session
with the same converter, settings and counts, except for the number of dropped packets, gives the
same answer and the same reports, and leaves the same session in that sense.  At the end the number
of dropped packets differs by as many as failed a check.  Each of these was answered with nothing
and only counted, also by a session that was closed.
-/
theorem rejected_packets_leave_no_trace (session : Session) (requests : List Request) :
    (∀ packet : Packet,
      (Request.decode packet).isRejected = true ↔
        (packet.discontinuity = true ∨ packet.corrupted = true) ∨
          (∀ start, packet.start = some start → start ≤ 0) ∨
          packet.data = []) ∧
      List.Forall₂ (fun one other => ∃ count, Call.Shifted count one other)
        (session.passingCalls requests) (session.calls (Request.passing requests)) ∧
      session.afterAll requests =
        (session.afterAll (Request.passing requests)).dropMore
          (requests.countP Request.isRejected) ∧
      ∀ call ∈ session.calls requests,
        call.request.isRejected = true →
          call.answer = some (.ok none) ∧ call.after = call.before.drop := by
  refine ⟨?_, shifted_passingCalls session 0 requests, ?_, ?_⟩
  · intro packet
    rw [Request.isRejected, Bool.not_eq_true', Packet.isProper_eq_false_iff]
  · have shift := afterAll_dropMore session 0 requests
    rwa [dropMore_zero, Nat.zero_add] at shift
  · intro call member rejected
    rcases List.mem_iff_getElem?.1 member with ⟨index, found⟩
    rw [getElem?_calls] at found
    rcases Option.map_eq_some_iff.1 found with ⟨request, -, rfl⟩
    rw [request_call] at rejected
    rw [before_call]
    exact call_of_isRejected _ request rejected

/-- A damaged packet that is no UTF-8, an accented letter, and two packets behind the closing. -/
def damagedAndEmpty : List Request :=
  [ .decode { data := [0xFF], start := some 1, corrupted := true },
    .decode { data := [0xC3, 0xA9], start := some 2 },
    .close,
    .decode { data := [], start := some 3 },
    .decode { data := [0x61], start := some 4 } ]

/-- The damaged packet does not end detection, and the empty one does not meet the closing. -/
theorem rejected_packets_leave_no_trace_of_damagedAndEmpty :
    let session : Session :=
      { codec := .subt, settings := {}, converter := .decoding "ASCII" Encoding.ascii true,
        lookup := Color.byName }
    session.afterAll damagedAndEmpty =
        (session.afterAll (Request.passing damagedAndEmpty)).dropMore 2 ∧
      List.Forall₂ (fun one other => ∃ count, Call.Shifted count one other)
        (session.passingCalls damagedAndEmpty)
        (session.calls (Request.passing damagedAndEmpty)) ∧
      (session.calls (Request.passing damagedAndEmpty)).map Call.answer =
        [ some
            (.ok
              (some
                { start := 2, stop := 2, ephemeral := true, align := .place .bottom .center,
                  segments := [⟨"é", {}⟩] })),
          none,
          some (.error .closed) ] := by
  intro session
  rcases rejected_packets_leave_no_trace session damagedAndEmpty with ⟨-, passing, shift, -⟩
  exact ⟨shift, passing, by decide +kernel⟩

end Session

end TimedText
