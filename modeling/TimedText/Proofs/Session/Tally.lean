import TimedText.Proofs.Session.Run

/-!
# The tally accounts for every packet

What a call is counted for is told from its answer and from what the converter and the parser make
of its packet, without looking at the tally.  The main statement is that in a run from the opening
of a session on, each number of the tally is the number of calls of one kind.

So packets that are answered are shown or dropped, and those that fail to convert or to parse are
among the dropped ones.  A packet that stops with an error is not counted at all.
-/

namespace TimedText

/-- A packet passes the checks: it is undamaged, shown at some time, and not empty. -/
def Packet.isProper (packet : Packet) : Bool :=
  !packet.discontinuity && !packet.corrupted && packet.start.any (0 < ·) && !packet.data.isEmpty

theorem Packet.isProper_iff (packet : Packet) :
    packet.isProper = true ↔ ∃ start, packet.IsProper start := by
  simp only [isProper, Bool.and_eq_true, Bool.not_eq_true', Option.any_eq_true, decide_eq_true_eq,
    List.isEmpty_eq_false_iff]
  constructor
  · rintro ⟨⟨⟨continuous, intact⟩, start, timed, positive⟩, filled⟩
    exact ⟨start, continuous, intact, timed, positive, filled⟩
  · rintro ⟨start, proper⟩
    exact
      ⟨⟨⟨proper.continuous, proper.intact⟩, start, proper.timed, proper.positive⟩, proper.filled⟩

namespace Session

/-! ## Kinds of calls -/

namespace Call

/-- A packet was answered with a subtitle. -/
def showsSubtitle (call : Call) : Bool :=
  match call.answer with
  | some (.ok (some _)) => true
  | _ => false

/-- A packet was answered with nothing. -/
def dropsPacket (call : Call) : Bool :=
  match call.answer with
  | some (.ok none) => true
  | _ => false

/-- A packet was answered, with a subtitle or with nothing. -/
def returns (call : Call) : Bool :=
  match call.answer with
  | some (.ok _) => true
  | _ => false

/-- A packet passed the checks and could not be converted. -/
def failsToConvert (call : Call) : Bool :=
  match call.request with
  | .decode packet =>
      packet.isProper &&
        match (call.before.converter.convert packet.data).result with
        | .error (.failed _) => true
        | _ => false
  | _ => false

/-- A packet passed the checks and was converted, and the parser ran out of memory on its text. -/
def failsToParse (call : Call) : Bool :=
  match call.request with
  | .decode packet =>
      packet.isProper &&
        match (call.before.converter.convert packet.data).result with
        | .ok text =>
            match Markup.parse call.before.lookup call.before.settings.defaultAlign text with
            | .error .outOfMemory => true
            | _ => false
        | .error _ => false
  | _ => false

end Call

/-- The tally after a call, by what the call is counted for. -/
def counted (tally : Tally) (call : Call) : Tally :=
  { decoded := tally.decoded + if call.showsSubtitle then 1 else 0,
    dropped := tally.dropped + if call.dropsPacket then 1 else 0,
    conversionFailures := tally.conversionFailures + if call.failsToConvert then 1 else 0,
    parseFailures := tally.parseFailures + if call.failsToParse then 1 else 0 }

/-! ## One call -/

/-- A packet that fails a check does not fail behind the checks. -/
theorem fails_of_improper
    (session : Session)
    (packet : Packet)
    (improper : ∀ start, ¬ packet.IsProper start) :
    (session.call (.decode packet)).failsToConvert = false ∧
      (session.call (.decode packet)).failsToParse = false := by
  have refused : packet.isProper = false := by
    rw [← Bool.not_eq_true, Packet.isProper_iff]
    rintro ⟨start, proper⟩
    exact improper start proper
  simp [Call.failsToConvert, Call.failsToParse, call, refused]

/-- Whether a packet that passes the checks fails to convert is up to the converter. -/
theorem failsToConvert_of_isProper
    (session : Session)
    (packet : Packet)
    (start : Int)
    (proper : packet.IsProper start) :
    (session.call (.decode packet)).failsToConvert = true ↔
      ∃ failure, (session.converter.convert packet.data).result = .error (.failed failure) := by
  have accepted := packet.isProper_iff.2 ⟨start, proper⟩
  simp only [Call.failsToConvert, call, accepted, Bool.true_and]
  split
  next failure failed => simp [failed]
  next other =>
    constructor
    · intro impossible
      cases impossible
    · rintro ⟨failure, failed⟩
      exact (other failure failed).elim

theorem failsToParse_of_isProper
    (session : Session)
    (packet : Packet)
    (start : Int)
    (proper : packet.IsProper start) :
    (session.call (.decode packet)).failsToParse = true ↔
      ∃ text,
        (session.converter.convert packet.data).result = .ok text ∧
          Markup.parse session.lookup session.settings.defaultAlign text = .error .outOfMemory := by
  have accepted := packet.isProper_iff.2 ⟨start, proper⟩
  simp only [Call.failsToParse, call, accepted, Bool.true_and]
  split
  next text read =>
    rw [read]
    split
    next failed => simp [failed]
    next other =>
      constructor
      · intro impossible
        cases impossible
      · rintro ⟨same, equal, failed⟩
        cases equal
        exact (other failed).elim
  next error failed => simp [failed]

/-- What a call changes in the tally is what it is counted for, and what fails is dropped. -/
structure Accounts (session : Session) (call : Call) : Prop where
  tally_eq : call.after.tally = counted session.tally call
  drops_of_convert : call.failsToConvert = true → call.dropsPacket = true
  drops_of_parse : call.failsToParse = true → call.dropsPacket = true
  exclusive : ¬ (call.failsToConvert = true ∧ call.failsToParse = true)

/-- A call that answers no packet and fails at nothing may not touch the tally. -/
theorem accounts_of_unanswered
    (session : Session)
    (call : Call)
    (unanswered : ∀ result, call.answer ≠ some (.ok result))
    (noConvert : call.failsToConvert = false)
    (noParse : call.failsToParse = false)
    (same : call.after.tally = session.tally) :
    Accounts session call := by
  have noShow : call.showsSubtitle = false := by
    unfold Call.showsSubtitle
    split
    next subtitle shown => exact (unanswered _ shown).elim
    next => rfl
  have noDrop : call.dropsPacket = false := by
    unfold Call.dropsPacket
    split
    next dropped => exact (unanswered _ dropped).elim
    next => rfl
  constructor <;> simp [same, counted, noShow, noDrop, noConvert, noParse]

theorem accounts_of_unchecked
    (session : Session)
    (call : Call)
    (dropped : call.answer = some (.ok none))
    (noConvert : call.failsToConvert = false)
    (noParse : call.failsToParse = false)
    (one : call.after.tally = session.drop.tally) :
    Accounts session call := by
  constructor <;>
    simp [one, counted, drop, Call.showsSubtitle, Call.dropsPacket, dropped, noConvert, noParse]

theorem accounts_decode (session : Session) (packet : Packet) :
    Accounts session (session.call (.decode packet)) := by
  have way := exit_decode session packet
  have improper := fails_of_improper session packet
  have converts := failsToConvert_of_isProper session packet
  have parses := failsToParse_of_isProper session packet
  have answer :
      (session.call (.decode packet)).answer = some (session.decode packet).result :=
    rfl
  have after : (session.call (.decode packet)).after = (session.decode packet).after :=
    rfl
  generalize session.decode packet = step at way answer after
  generalize session.call (.decode packet) = call at *
  -- The checks drop, failures behind them are counted and drop, and errors are not counted.
  cases way with
  | damaged mark =>
      rcases improper (packet.not_isProper_of_damaged mark) with ⟨noConvert, noParse⟩
      exact accounts_of_unchecked session call answer noConvert noParse (by rw [after])
  | untimed never =>
      rcases improper (packet.not_isProper_of_untimed never) with ⟨noConvert, noParse⟩
      exact accounts_of_unchecked session call answer noConvert noParse (by rw [after])
  | empty nothing =>
      rcases improper (packet.not_isProper_of_empty nothing) with ⟨noConvert, noParse⟩
      exact accounts_of_unchecked session call answer noConvert noParse (by rw [after])
  | unconverted start failure proper failed =>
      have convert : call.failsToConvert = true := by
        simp [converts start proper, failed]
      have noParse : call.failsToParse = false := by
        simp [← Bool.not_eq_true, parses start proper, failed]
      constructor <;>
        simp [answer, after, convert, noParse, counted, Call.showsSubtitle, Call.dropsPacket, drop,
          countConversionFailure, converted]
  | unparsed start text proper read failed =>
      have noConvert : call.failsToConvert = false := by
        simp [← Bool.not_eq_true, converts start proper, read]
      have parse : call.failsToParse = true := by
        simp [parses start proper, read, failed]
      constructor <;>
        simp [answer, after, noConvert, parse, counted, Call.showsSubtitle, Call.dropsPacket, drop,
          countParseFailure, converted]
  | shown start text outcome proper read parsed =>
      have noConvert : call.failsToConvert = false := by
        simp [← Bool.not_eq_true, converts start proper, read]
      have noParse : call.failsToParse = false := by
        simp [← Bool.not_eq_true, parses start proper, read, parsed]
      constructor <;>
        simp [answer, after, noConvert, noParse, counted, Call.showsSubtitle, Call.dropsPacket,
          countDecoded, converted]
  | closed start proper refused =>
      refine accounts_of_unanswered session call (by simp [answer]) ?_ ?_ (by rw [after, converted])
      · simp [← Bool.not_eq_true, converts start proper, refused]
      · simp [← Bool.not_eq_true, parses start proper, refused]
  | blocked start obstacle proper stopped =>
      refine accounts_of_unanswered session call (by simp [answer]) ?_ ?_ (by rw [after, converted])
      · simp [← Bool.not_eq_true, converts start proper, stopped]
      · simp [← Bool.not_eq_true, parses start proper, stopped]
  | numeralTooLong start text proper read failed =>
      refine accounts_of_unanswered session call (by simp [answer]) ?_ ?_ (by rw [after, converted])
      · simp [← Bool.not_eq_true, converts start proper, read]
      · simp [← Bool.not_eq_true, parses start proper, read, failed]

theorem accounts_call (session : Session) (request : Request) :
    Accounts session (session.call request) := by
  cases request with
  | decode packet => exact accounts_decode session packet
  | configure settings => exact accounts_of_unanswered session _ (by simp [call]) rfl rfl rfl
  | close => exact accounts_of_unanswered session _ (by simp [call]) rfl rfl rfl

/-! ## All calls -/

/-- The tally after requests is the one before, with all their calls counted. -/
theorem tally_afterAll (session : Session) (requests : List Request) :
    (session.afterAll requests).tally = (session.calls requests).foldl counted session.tally := by
  induction requests generalizing session with
  | nil => rfl
  | cons request rest hypothesis =>
      rw [afterAll_cons, hypothesis, calls_cons, List.foldl_cons,
        (accounts_call session request).tally_eq]

theorem foldl_counted (tally : Tally) (calls : List Call) :
    calls.foldl counted tally =
      { decoded := tally.decoded + calls.countP Call.showsSubtitle,
        dropped := tally.dropped + calls.countP Call.dropsPacket,
        conversionFailures := tally.conversionFailures + calls.countP Call.failsToConvert,
        parseFailures := tally.parseFailures + calls.countP Call.failsToParse } := by
  induction calls generalizing tally with
  | nil => rfl
  | cons call rest hypothesis =>
      simp only [List.foldl_cons, hypothesis, counted, List.countP_cons, Tally.mk.injEq]
      omega

theorem accounts_of_mem_calls
    (session : Session)
    (requests : List Request)
    (call : Call)
    (member : call ∈ session.calls requests) :
    Accounts call.before call := by
  rcases List.mem_iff_getElem?.1 member with ⟨index, found⟩
  rw [getElem?_calls] at found
  rcases Option.map_eq_some_iff.1 found with ⟨request, -, rfl⟩
  rw [before_call]
  exact accounts_call _ request

theorem Call.countP_returns (calls : List Call) :
    calls.countP returns = calls.countP showsSubtitle + calls.countP dropsPacket := by
  induction calls with
  | nil => rfl
  | cons call rest hypothesis =>
      have one :
          (if call.returns then 1 else 0) =
            (if call.showsSubtitle then 1 else 0) + if call.dropsPacket then 1 else 0 := by
        unfold returns showsSubtitle dropsPacket
        rcases call.answer with _ | _ | _ | _ <;> rfl
      rw [List.countP_cons, List.countP_cons, List.countP_cons, hypothesis, one]
      omega

theorem Call.countP_fails_le
    (calls : List Call)
    (accounts : ∀ call ∈ calls, Accounts call.before call) :
    calls.countP failsToConvert + calls.countP failsToParse ≤ calls.countP dropsPacket := by
  induction calls with
  | nil => exact Nat.le_refl 0
  | cons call rest hypothesis =>
      rw [List.forall_mem_cons] at accounts
      rcases accounts.1 with ⟨-, convert, parse, exclusive⟩
      have others := hypothesis accounts.2
      rw [List.countP_cons, List.countP_cons, List.countP_cons]
      cases converts : call.failsToConvert <;> cases parses : call.failsToParse <;>
        simp_all <;> omega

theorem Accounts.tally_of_unanswered
    {session : Session}
    {call : Call}
    (accounts : Accounts session call)
    (unanswered : call.returns = false) :
    call.after.tally = session.tally := by
  have noShow : call.showsSubtitle = false := by
    revert unanswered
    unfold Call.returns Call.showsSubtitle
    rcases call.answer with _ | _ | _ | _ <;> simp
  have noDrop : call.dropsPacket = false := by
    revert unanswered
    unfold Call.returns Call.dropsPacket
    rcases call.answer with _ | _ | _ | _ <;> simp
  have noConvert : call.failsToConvert = false := by
    rw [← Bool.not_eq_true] at noDrop ⊢
    exact fun fails => noDrop (accounts.drops_of_convert fails)
  have noParse : call.failsToParse = false := by
    rw [← Bool.not_eq_true] at noDrop ⊢
    exact fun fails => noDrop (accounts.drops_of_parse fails)
  rw [accounts.tally_eq]
  simp [counted, noShow, noDrop, noConvert, noParse]

theorem tally_of_open?
    (settings : DecoderSettings)
    (codec : Codec)
    (declaration : Option String)
    (lookup : Color.Lookup)
    (platform : String)
    (catalogue : Encoding.Catalogue)
    (session : Session)
    (notices : List Notice)
    (opened :
      open? settings codec declaration lookup platform catalogue = .ok (session, notices)) :
    session.tally = {} := by
  rcases open?_eq_ok opened with ⟨converter, refusal, -, rfl⟩
  rfl

/--
From the opening of a session on, whatever names of encodings are known and whatever it is asked for and in whatever order, its tally holds
the number of packets answered with a subtitle, the number of those answered with nothing, and among
the latter the numbers of those that could not be converted and of those that could not be parsed.
A call that answers no packet leaves the tally as it was; such a call is made for every packet that
passes the checks after the session was closed.
-/
theorem tally_counts_calls
    (settings : DecoderSettings)
    (codec : Codec)
    (declaration : Option String)
    (lookup : Color.Lookup)
    (platform : String)
    (catalogue : Encoding.Catalogue)
    (session : Session)
    (notices : List Notice)
    (opened :
      open? settings codec declaration lookup platform catalogue = .ok (session, notices))
    (requests : List Request) :
    let calls := session.calls requests
    let tally := (session.afterAll requests).tally
    tally.decoded = calls.countP Call.showsSubtitle ∧
      tally.dropped = calls.countP Call.dropsPacket ∧
      tally.conversionFailures = calls.countP Call.failsToConvert ∧
      tally.parseFailures = calls.countP Call.failsToParse ∧
      tally.decoded + tally.dropped = calls.countP Call.returns ∧
      tally.conversionFailures + tally.parseFailures ≤ tally.dropped ∧
      (∀ call ∈ calls,
        (call.failsToConvert = true ∨ call.failsToParse = true → call.dropsPacket = true) ∧
          (call.returns = false → call.after.tally = call.before.tally)) ∧
      ∀ (index : Nat) (call : Call) (packet : Packet),
        calls[index]? = some call →
          call.request = .decode packet →
            packet.isProper = true →
              .close ∈ requests.take index →
                call.answer = some (.error .closed) := by
  intro calls tally
  have accounts := accounts_of_mem_calls session requests
  have fails := Call.countP_fails_le calls accounts
  have sum :
      tally =
        { decoded := calls.countP Call.showsSubtitle,
          dropped := calls.countP Call.dropsPacket,
          conversionFailures := calls.countP Call.failsToConvert,
          parseFailures := calls.countP Call.failsToParse } := by
    have fresh := tally_of_open? settings codec declaration lookup platform catalogue session notices opened
    show (session.afterAll requests).tally = _
    rw [tally_afterAll, foldl_counted, fresh]
    simp only [Nat.zero_add, calls]
  rw [sum]
  refine ⟨rfl, rfl, rfl, rfl, (Call.countP_returns calls).symm, fails, ?_, ?_⟩
  · intro call member
    have one := accounts call member
    exact ⟨fun fails => fails.elim one.drops_of_convert one.drops_of_parse, one.tally_of_unanswered⟩
  · intro index call packet found asked proper closing
    rw [getElem?_calls] at found
    rcases Option.map_eq_some_iff.1 found with ⟨request, -, rfl⟩
    rw [request_call] at asked
    subst asked
    rcases packet.isProper_iff.1 proper with ⟨start, passes⟩
    have closed := (closed_afterAll session (requests.take index)).2 (Or.inr closing)
    have refused := result_decode_of_closed _ packet start closed passes
    simp only [Session.call, refused]

set_option maxRecDepth 1000 in
/-- A packet each is shown, unconverted, unparsed, damaged, and given to a closed session. -/
theorem tally_counts_calls_until_closed :
    let requests : List Request :=
      [ .decode { data := [0x41], start := some 1 },
        .decode { data := [0xFF], start := some 1 },
        .configure { formatted := false },
        .decode { data := "<font color=red>".toList.map fun char => char.val.toUInt8,
                  start := some 1 },
        .decode { data := [0x41], start := some 1, corrupted := true },
        .close,
        .decode { data := [0x41], start := some 1 } ]
    ∃ session,
      open? {} .subt (some "ASCII") Color.exhausted "UTF-8" = .ok (session, []) ∧
        (session.afterAll requests).tally =
          { decoded := 1, dropped := 3, conversionFailures := 1, parseFailures := 1 } ∧
        (session.calls requests).countP Call.returns = 4 ∧
        (session.calls requests)[6]?.map Call.answer = some (some (.error .closed)) := by
  intro requests
  let session : Session :=
    { codec := .subt, settings := {}, converter := .decoding "ASCII" Encoding.ascii false,
      lookup := Color.exhausted }
  have opened : open? {} .subt (some "ASCII") Color.exhausted "UTF-8" = .ok (session, []) :=
    rfl
  have tally :
      (session.afterAll requests).tally =
        { decoded := 1, dropped := 3, conversionFailures := 1, parseFailures := 1 } := by
    cbv
  rcases
    tally_counts_calls {} .subt (some "ASCII") Color.exhausted "UTF-8" Encoding.catalogue session []
      opened requests with
    ⟨-, -, -, -, returned, -, -, refused⟩
  have call :
      (session.calls requests)[6]? =
        some
          ((session.afterAll (requests.take 6)).call
            (.decode { data := [0x41], start := some 1 })) := by
    rw [getElem?_calls]
    rfl
  refine ⟨session, opened, tally, ?_, ?_⟩
  · rw [← returned, tally]
    rfl
  · rw [call, Option.map_some, refused 6 _ { data := [0x41], start := some 1 } call rfl rfl]
    decide

end Session

end TimedText
