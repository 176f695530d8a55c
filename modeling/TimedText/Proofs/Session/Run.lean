import TimedText.Proofs.Converter.Run
import TimedText.Proofs.Session.Exit

/-!
# Runs of a session

A session is asked to decode packets, to take new settings and to close, in any order.  A call is
one such request with the session that it finds, what it answers and the session that it leaves.  A
run is the list of the calls that requests make, each from the session that the one before left.

Closing is for good: no request opens a converter again, so from then on every packet that passes
the checks is answered with an error.
-/

namespace TimedText.Session

/-! ## Calls -/

/-- What a session can be asked for. -/
inductive Request where
  | decode (packet : Packet)
  | configure (settings : DecoderSettings)
  | close
deriving DecidableEq, Repr

/-- A request with its answer, if it has one, its reports, and the sessions around it. -/
structure Call where
  before : Session
  request : Request
  answer : Option (Except Error (Option Subtitle)) := none
  notices : List Notice := []
  after : Session

/-- The call that a request makes. -/
def call (session : Session) (request : Request) : Call :=
  match request with
  | .decode packet =>
      { before := session, request, answer := some (session.decode packet).result,
        notices := (session.decode packet).notices, after := (session.decode packet).after }
  | .configure settings =>
      { before := session, request, notices := (session.configure settings).2,
        after := (session.configure settings).1 }
  | .close => { before := session, request, after := session.close }

@[simp]
theorem before_call (session : Session) (request : Request) :
    (session.call request).before = session := by
  cases request <;> rfl

@[simp]
theorem request_call (session : Session) (request : Request) :
    (session.call request).request = request := by
  cases request <;> rfl

/-! ## Calls in a row -/

/-- The calls that requests make, one after the other. -/
def calls (session : Session) : List Request → List Call
  | [] => []
  | request :: rest => session.call request :: calls (session.call request).after rest

/-- The session after requests. -/
def afterAll (session : Session) (requests : List Request) : Session :=
  requests.foldl (fun session request => (session.call request).after) session

@[simp]
theorem calls_nil (session : Session) : session.calls [] = [] :=
  rfl

@[simp]
theorem calls_cons (session : Session) (request : Request) (rest : List Request) :
    session.calls (request :: rest) =
      session.call request :: (session.call request).after.calls rest :=
  rfl

@[simp]
theorem afterAll_nil (session : Session) : session.afterAll [] = session :=
  rfl

@[simp]
theorem afterAll_cons (session : Session) (request : Request) (rest : List Request) :
    session.afterAll (request :: rest) = (session.call request).after.afterAll rest :=
  rfl

/-- Each call of a run is made in the session that the requests before it left. -/
theorem getElem?_calls
    (session : Session)
    (requests : List Request)
    (index : Nat) :
    (session.calls requests)[index]? =
      requests[index]?.map (session.afterAll (requests.take index)).call := by
  induction requests generalizing session index with
  | nil => rfl
  | cons request rest hypothesis =>
      cases index with
      | zero => rfl
      | succ index => exact hypothesis (session.call request).after index

/-- A property that no request takes away holds in the session after all of them. -/
theorem afterAll_of_call
    (Holds : Session → Prop)
    (kept : ∀ session request, Holds session → Holds (session.call request).after)
    (session : Session)
    (start : Holds session)
    (requests : List Request) :
    Holds (session.afterAll requests) := by
  induction requests generalizing session with
  | nil => exact start
  | cons request rest hypothesis => exact hypothesis _ (kept session request start)

/-! ## Opening -/

/-- A session is opened with a converter for the encoding that is chosen, and nothing is counted. -/
theorem open?_eq_ok
    {settings : DecoderSettings}
    {codec : Codec}
    {declaration : Option String}
    {lookup : Color.Lookup}
    {platform : String}
    {catalogue : Encoding.Catalogue}
    {session : Session}
    {notices : List Notice}
    (opened :
      open? settings codec declaration lookup platform catalogue = .ok (session, notices)) :
    ∃ converter refusal,
      (Charset.choose settings.preferences platform declaration codec.isUtf8).converter catalogue =
          .ok (converter, refusal) ∧
        session = { codec, settings, converter, lookup } := by
  unfold open? at opened
  dsimp only at opened
  split at opened
  next converter refusal found =>
    cases opened
    exact ⟨converter, refusal, found, rfl⟩
  next => cases opened

/-! ## Properties of the converter -/

section Kept

variable (Holds : Converter → Prop)
variable (converted : ∀ converter packet, Holds converter → Holds (converter.convert packet).after)
variable (closed : ∀ converter, Holds converter → Holds converter.close)

include converted closed

/-- A property that neither packets nor closing take from a converter is kept by every request. -/
theorem converter_call
    (session : Session)
    (request : Request)
    (start : Holds session.converter) :
    Holds (session.call request).after.converter := by
  cases request with
  | decode packet =>
      show Holds (session.decode packet).after.converter
      rcases converter_decode session packet with untouched | ⟨-, read⟩
      · rw [untouched]
        exact start
      · rw [read]
        exact converted _ _ start
  | configure settings => exact start
  | close => exact closed _ start

theorem converter_calls
    (session : Session)
    (requests : List Request)
    (start : Holds session.converter) :
    ∀ call ∈ session.calls requests, Holds call.after.converter := by
  induction requests generalizing session with
  | nil => simp
  | cons request rest hypothesis =>
      have here := converter_call Holds converted closed session request start
      rw [calls_cons]
      exact List.forall_mem_cons.2 ⟨here, hypothesis _ here⟩

end Kept

/-! ## Closed sessions -/

theorem closed_convert (converter : Converter) (packet : List UInt8) :
    (converter.convert packet).after.closed = converter.closed := by
  have way := Converter.way_convertWithin Converter.expansionLimit converter packet
  rw [Converter.convert]
  generalize converter.convertWithin Converter.expansionLimit packet = step at way
  cases way <;> rfl

/-- A request closes the converter if it asks for that, and otherwise leaves it as it was. -/
theorem closed_call (session : Session) (request : Request) :
    (session.call request).after.converter.closed = true ↔
      session.converter.closed = true ∨ request = .close := by
  cases request with
  | configure settings => simp [call, configure]
  | close => simp [call, close, Converter.close]
  | decode packet =>
      simp only [call, reduceCtorEq, or_false]
      rcases converter_decode session packet with untouched | ⟨-, read⟩
      · rw [untouched]
      · rw [read, closed_convert]

theorem closed_afterAll (session : Session) (requests : List Request) :
    (session.afterAll requests).converter.closed = true ↔
      session.converter.closed = true ∨ .close ∈ requests := by
  induction requests generalizing session with
  | nil => simp
  | cons request rest hypothesis =>
      rw [afterAll_cons, hypothesis, closed_call, List.mem_cons, or_assoc, eq_comm (a := request)]

theorem result_decode_of_closed
    (session : Session)
    (packet : Packet)
    (start : Int)
    (closed : session.converter.closed = true)
    (proper : packet.IsProper start) :
    (session.decode packet).result = .error .closed := by
  have refused := session.converter.convert_of_closed closed packet.data
  rw [decode_of_isProper session packet start proper, convertAndShow, refused]

end TimedText.Session
