import TimedText.Proofs.CommandLine.Reading
import TimedText.Proofs.CommandLine.Update

/-!
# The exit code of a run

A run that reads its whole input ends with one if a packet failed to convert or to parse, and with
zero if none did.  The packets of a command line are undamaged and shown at some time, so a packet
that is not empty either becomes a subtitle or fails in one of these ways, unless it stops the run.
An empty packet is dropped as well, but is no failure: a file without any content that is read as a
whole comes to no subtitle, and the exit code is none the wiser.
-/

namespace TimedText

/-! ## Failures of a session -/

/-- The packets that failed to convert or to parse. -/
def Tally.failures (tally : Tally) : Nat :=
  tally.conversionFailures + tally.parseFailures

/-- A sound packet fails exactly if it has bytes and nothing comes of it. -/
theorem Session.failures_decode
    {session : Session}
    {packet : Packet}
    {start : Int}
    (continuous : packet.discontinuity = false)
    (intact : packet.corrupted = false)
    (timed : packet.start = some start)
    (positive : 0 < start) :
    (session.decode packet).after.tally.failures =
      session.tally.failures +
        if packet.data ≠ [] ∧ (session.decode packet).result = .ok none then 1 else 0 := by
  have way := exit_decode session packet
  generalize session.decode packet = step at way
  cases way with
  | damaged mark => simp [continuous, intact] at mark
  | untimed never => exact (not_le.2 positive (never start timed)).elim
  | empty nothing => simp [nothing, drop, Tally.failures]
  | unconverted _ failure proper failed =>
      simp [proper.filled, drop, countConversionFailure, converted, Tally.failures]
      omega
  | unparsed _ text proper read failed =>
      simp [proper.filled, drop, countParseFailure, converted, Tally.failures]
      omega
  | closed | blocked | numeralTooLong => simp [converted, Tally.failures]
  | shown => simp [converted, countDecoded, Tally.failures]

namespace CommandLine

/-! ## Lost packets -/

/-- A packet that has bytes, but of which nothing is shown. -/
def Take.IsLost (take : Take) : Prop :=
  take.data ≠ [] ∧ take.shown? = none

instance (take : Take) : Decidable take.IsLost :=
  inferInstanceAs (Decidable (take.data ≠ [] ∧ take.shown? = none))

/-- Nothing is shown of an empty packet. -/
theorem Take.shown?_of_empty {take : Take} (nothing : take.data = []) : take.shown? = none := by
  cases shown : take.shown? with
  | none => rfl
  | some subtitle =>
      have decoded := take.decoded_of_shown? subtitle shown
      have way := take.before.session.exit_decode take.packet
      rw [← Take.step] at way
      generalize take.step = step at way decoded
      cases way with
      | shown start text outcome proper => exact (proper.filled nothing).elim
      | _ => cases decoded

namespace Run

/-- The exit code is one if there are failures, and zero otherwise. -/
theorem exitCode_eq (run : Run) :
    run.exitCode = if run.session.tally.failures = 0 then 0 else 1 := by
  unfold exitCode Tally.failures
  dsimp only
  split <;> split <;> omega

/-- Of a packet that does not stop a run, all that the session makes is shown. -/
theorem result_of_packet
    {run after : Run}
    {data : List UInt8}
    (read : run.packet data = (after, none)) :
    (Take.step ⟨run, data⟩).result = .ok (Take.shown? ⟨run, data⟩) := by
  rw [packet_eq_taking] at read
  rcases result : (Take.step ⟨run, data⟩).result with error | _ | subtitle
  · rw [result] at read
    cases read
  · rw [Take.shown?, result]
  · rw [result] at read
    dsimp only [present] at read
    split at read
    next => cases read
    next short =>
      have shown : Take.shown? ⟨run, data⟩ = some subtitle := by
        rw [Take.shown?, result]
        exact if_neg short
      rw [shown]

/-- A packet that does not stop a run is a failure exactly if it is lost. -/
theorem failures_packet
    {run after : Run}
    {data : List UInt8}
    (read : run.packet data = (after, none)) :
    after.session.tally.failures =
      run.session.tally.failures + if Take.IsLost ⟨run, data⟩ then 1 else 0 := by
  rcases positive_packetAt run.options.duration run.count data with ⟨start, timed, positive⟩
  have counted :
      (Take.step ⟨run, data⟩).after.tally.failures =
        run.session.tally.failures +
          if data ≠ [] ∧ (Take.step ⟨run, data⟩).result = .ok none then 1 else 0 :=
    Session.failures_decode rfl rfl timed positive
  have session : after.session = (Take.step ⟨run, data⟩).after := by
    have left : (run.packet data).1.session = (Take.step ⟨run, data⟩).after := by rw [packet_eq]
    rwa [read] at left
  rw [session, counted, result_of_packet read]
  simp only [Except.ok.injEq]
  rfl

/-- The failures of a run that nothing stops are its lost packets, whatever files change. -/
theorem failures_follow
    {run after : Run}
    {happenings : List Happening}
    (followed : run.follow happenings = (after, none)) :
    after.session.tally.failures =
      run.session.tally.failures + (run.takes happenings).countP (Take.IsLost ·) := by
  induction happenings generalizing run with
  | nil =>
      cases followed
      rfl
  | cons happening rest hypothesis =>
      cases happening with
      | filesChanged files account =>
          rw [hypothesis followed, takes, (run.alike_filesChanged files account).tally_eq]
      | packet data =>
          rcases follow_packet_eq followed with ⟨next, read, others⟩
          rw [hypothesis others, failures_packet read, takes, read, List.countP_cons]
          simp only [decide_eq_true_eq]
          omega

/-- A run without failures so far, that nothing stops, ends with one if a packet is lost. -/
theorem exitCode_of_follow
    {run after : Run}
    {happenings : List Happening}
    (unfailed : run.session.tally.failures = 0)
    (followed : run.follow happenings = (after, none)) :
    after.exitCode = if ∃ take ∈ run.takes happenings, take.IsLost then 1 else 0 := by
  have counted : after.session.tally.failures = 0 ↔ ¬ ∃ take ∈ run.takes happenings, take.IsLost := by
    rw [failures_follow followed, unfailed, Nat.zero_add, List.countP_eq_zero]
    simp
  rw [exitCode_eq]
  simp only [counted, ite_not]

/-- What is taken of packets in a row is one of them. -/
theorem data_mem_of_mem_takes
    {run : Run}
    {packets : List (List UInt8)}
    {take : Take}
    (member : take ∈ run.takes (packets.map .packet)) :
    take.data ∈ packets := by
  rcases run.happens_of_mem_takes _ take member with ⟨before, after, parts, -⟩
  have among : Happening.packet take.data ∈ packets.map Happening.packet := by simp [parts]
  rcases List.mem_map.1 among with ⟨data, here, same⟩
  cases same
  exact here

end Run

/-! ## Whole runs -/

/-- Nothing has failed when a run is prepared. -/
theorem failures_of_prepare
    {options : Options}
    {surroundings : Surroundings}
    {ready : Run}
    (prepared : prepare options surroundings = .ok ready) :
    ready.session.tally.failures = 0 := by
  rcases opened_of_prepare prepared with ⟨settings, opened⟩
  rcases Session.open?_eq_ok opened with ⟨converter, refusal, -, session⟩
  rw [session]
  rfl

/-- A run that is to decode and is stopped before its first packet has the code for settings if any. -/
theorem exit_of_prepare
    {options : Options}
    {surroundings : Surroundings}
    {report : Report}
    {code : Nat}
    (decodes : options.listEncodings = false)
    (stopped : prepare options surroundings = .error report)
    (ended : report.exit = .ok code) :
    code = settingsCode := by
  cases unprepared_of_prepare stopped with
  | listing asked =>
      rw [decodes] at asked
      cases asked
  | unloaded cause store loading =>
      unfold unloaded at ended
      dsimp only at ended
      split at ended <;> cases ended
      rfl
  | invalid | unbegun => cases ended
  | unready settings store logbook run report begun unready =>
      rcases Run.report_of_unready unready with ⟨store, logbook, stop, rfl⟩
      cases ended

/--
A run that decodes and ends with zero or one tells by that whether every packet with bytes was shown:
it ends with zero exactly if all of them were, and with one exactly if one of them was not.  What it
has shown is what came of its packets.  Nothing is shown of an empty packet, but there are none on
standard input or among the lines of files, only files that are read as a whole make them.  The exit
code tells the same also where files change while packets are decoded.
-/
theorem exit_code_tells_of_filled_packets
    (texts : List String)
    (options : Options)
    (surroundings : Surroundings)
    (code : Nat)
    (asked : Options.read texts = .ok options)
    (decodes : options.listEncodings = false)
    (ended : (run texts surroundings).exit = .ok code)
    (known : code = 0 ∨ code = 1) :
    (taken options surroundings).map Take.packet = decodedPackets options surroundings ∧
      (run texts surroundings).shown = (taken options surroundings).filterMap Take.shown? ∧
      (code = 0 ↔
        ∀ take ∈ taken options surroundings,
          take.data ≠ [] → ∃ subtitle, take.shown? = some subtitle) ∧
      (code = 1 ↔
        ∃ take ∈ taken options surroundings, take.data ≠ [] ∧ take.shown? = none) ∧
      (∀ take ∈ taken options surroundings,
        take.data = [] →
          take.shown? = none ∧ options.files ≠ [] ∧ options.lines = false) ∧
      ∀ ready,
        prepare options surroundings = .ok ready →
          ∀ happenings after,
            ready.follow happenings = (after, none) →
              after.exitCode =
                if ∃ take ∈ ready.takes happenings, take.data ≠ [] ∧ take.shown? = none then 1
                else 0 := by
  cases outcome : prepare options surroundings with
  | error report =>
      rw [run_eq_report asked outcome] at ended
      cases exit_of_prepare decodes outcome ended
      simp [settingsCode] at known
  | ok ready =>
      rcases fresh_of_prepare options surroundings ready outcome with ⟨given, -, unshown⟩
      have unfailed := failures_of_prepare outcome
      rw [run_eq_conclude asked outcome] at ended ⊢
      rcases Run.conclude_eq_ok ended with ⟨after, readAll, rfl, report⟩
      rcases ready.comesTo_readAll surroundings.input with ⟨packets, comes, filled⟩
      rw [readAll] at comes
      have whole : taken options surroundings = ready.takes (packets.map .packet) := by
        rw [taken, outcome]
        exact comes.taken_eq
      have followed : ready.follow (packets.map .packet) = (after, none) := comes.follow_eq
      have shown := ready.shown_follow (packets.map .packet)
      rw [followed, unshown, List.nil_append] at shown
      have code := Run.exitCode_of_follow unfailed followed
      refine ⟨(decodedPackets_eq_taken options surroundings).symm, ?_, ?_, ?_, ?_, ?_⟩
      · rw [report, whole]
        exact shown
      · rw [code, whole]
        simp only [ite_eq_right_iff, one_ne_zero, imp_false]
        simp [Take.IsLost, Option.ne_none_iff_exists']
      · rw [code, whole]
        simp only [ite_eq_left_iff, zero_ne_one, imp_false, not_not]
        rfl
      · intro take member nothing
        rw [whole] at member
        exact
          ⟨Take.shown?_of_empty nothing,
            given ▸ filled take.data (Run.data_mem_of_mem_takes member) nothing⟩
      · rintro _ ⟨⟩ happenings other ends
        exact Run.exitCode_of_follow unfailed ends

/-- A file without any content, and one that is not ASCII. -/
def emptyAndBroken : Surroundings :=
  { files := ⟨[(["empty.txt"], .file []), (["broken.txt"], .file [0xFF])]⟩ }

theorem exit_code_tells_of_filled_packets_of_emptyAndBroken :
    (run ["--encoding", "ASCII", "empty.txt", "broken.txt"] emptyAndBroken).exit = .ok 1 ∧
      ∃ take ∈
          taken
            { encoding := some "ASCII", files := [.ofString "empty.txt", .ofString "broken.txt"] }
            emptyAndBroken,
        take.data ≠ [] ∧ take.shown? = none := by
  have ended :
      (run ["--encoding", "ASCII", "empty.txt", "broken.txt"] emptyAndBroken).exit = .ok 1 := by
    decide +kernel
  rcases
    exit_code_tells_of_filled_packets ["--encoding", "ASCII", "empty.txt", "broken.txt"]
      { encoding := some "ASCII", files := [.ofString "empty.txt", .ofString "broken.txt"] }
      emptyAndBroken 1 (by decide +kernel) rfl ended (.inr rfl) with
    ⟨-, -, -, one, -, -⟩
  exact ⟨ended, one.1 rfl⟩

/-- A single empty file is a packet that is dropped, and the run ends as if all had been shown. -/
theorem empty_file_is_dropped_unnoticed :
    Options.read ["empty.txt"] = .ok { files := [.ofString "empty.txt"] } ∧
      decodedPackets { files := [.ofString "empty.txt"] } emptyAndBroken =
        [packetAt 2000 0 []] ∧
      (run ["empty.txt"] emptyAndBroken).shown = [] ∧
      (run ["empty.txt"] emptyAndBroken).exit = .ok 0 := by
  decide +kernel

end CommandLine

end TimedText
