import TimedText.Proofs.CommandLine.Reading

/-!
# The timeline of a run

The packets of a command line have no times of their own.  Each gets a span of the same length, from
its place in the order of packets, and where that length is nothing the packets are a microsecond
apart.  So the spans never overlap, and a packet that is dropped leaves a gap behind.

Subtitles have the spans of their packets.  Those that are shown follow one another as the packets
do, whatever is dropped in between and whatever files change in the meantime.
-/

namespace TimedText

/-! ## The span of a subtitle -/

namespace Session

/-- A subtitle has the span of its packet. -/
theorem span_of_decode
    {session : Session}
    {packet : Packet}
    {subtitle : Subtitle}
    (shown : (session.decode packet).result = .ok (some subtitle)) :
    packet.start = some subtitle.start ∧
      0 < subtitle.start ∧
      subtitle.stop = subtitle.start + packet.length ∧
      subtitle.ephemeral = (packet.length == 0) := by
  have way := exit_decode session packet
  generalize session.decode packet = step at way shown
  cases way with
  | damaged | untimed | empty | unconverted | closed | blocked | unparsed | numeralTooLong =>
      cases shown
  | shown start text outcome proper read parsed =>
      cases shown
      exact ⟨proper.timed, proper.positive, rfl, rfl⟩

/-- A packet that is shown at some time is not reported to have none. -/
theorem untimed_notMem_decode
    {session : Session}
    {packet : Packet}
    {start : Int}
    (timed : packet.start = some start)
    (positive : 0 < start) :
    .untimed ∉ (session.decode packet).notices := by
  have way := exit_decode session packet
  generalize session.decode packet = step at way
  cases way with
  | untimed never => exact (not_le.2 positive (never start timed)).elim
  | damaged | empty => simp
  | unconverted | unparsed => simp [repairs]
  | closed | blocked | numeralTooLong | shown => simp [repairs]

theorem untimed_notMem_open?
    {settings : DecoderSettings}
    {codec : Codec}
    {declaration : Option String}
    {lookup : Color.Lookup}
    {platform : String}
    {catalogue : Encoding.Catalogue}
    {session : Session}
    {notices : List Notice}
    (opened :
      open? settings codec declaration lookup platform catalogue = .ok (session, notices)) :
    .untimed ∉ notices := by
  unfold open? at opened
  dsimp only at opened
  split at opened
  next converter refusal found =>
    cases opened
    simp
  next => cases opened

end Session

namespace CommandLine

/-- A subtitle that is shown of a packet has the span of the packet's place. -/
theorem Take.span_of_shown?
    {take : Take}
    {subtitle : Subtitle}
    (made : take.shown? = some subtitle) :
    0 < subtitle.start ∧
      subtitle.start =
        (take.before.count + 1) * max (shownFor take.before.options.duration) 1 ∧
      subtitle.stop = subtitle.start + shownFor take.before.options.duration ∧
      (subtitle.ephemeral = true ↔ shownFor take.before.options.duration = 0) := by
  rcases Session.span_of_decode (take.decoded_of_shown? subtitle made) with
    ⟨placed, positive, stop, ephemeral⟩
  refine ⟨positive, (Option.some_inj.1 placed).symm, stop, ?_⟩
  rw [ephemeral, beq_iff_eq]
  rfl

/-! ## Reports of untimed packets -/

namespace Run

theorem untimed_notMem_packet
    {run : Run}
    (data : List UInt8)
    (unreported : .untimed ∉ run.notices) :
    .untimed ∉ (run.packet data).1.notices := by
  rcases positive_packetAt run.options.duration run.count data with ⟨start, timed, positive⟩
  rw [packet_eq]
  exact List.not_mem_append unreported (Session.untimed_notMem_decode timed positive)

/-- New settings are reported by their encoding only. -/
theorem untimed_notMem_foldl_deliver
    {run : Run}
    (deliveries : List Settings.Delivery)
    (unreported : .untimed ∉ run.notices) :
    .untimed ∉ (deliveries.foldl deliver run).notices := by
  induction deliveries generalizing run with
  | nil => exact unreported
  | cons delivery rest hypothesis =>
      refine hypothesis (List.not_mem_append unreported ?_)
      split <;> simp

theorem untimed_notMem_filesChanged
    {run : Run}
    (files : FileTree)
    (account : List Log.Record)
    (unreported : .untimed ∉ run.notices) :
    .untimed ∉ (run.filesChanged files account).notices := by
  unfold filesChanged
  split
  next => exact unreported
  next =>
    dsimp only
    exact untimed_notMem_foldl_deliver _ unreported

/-- No packet is ever reported to have no time. -/
theorem untimed_notMem_follow
    {run : Run}
    (happenings : List Happening)
    (unreported : .untimed ∉ run.notices) :
    .untimed ∉ (run.follow happenings).1.notices := by
  induction happenings generalizing run with
  | nil => exact unreported
  | cons happening rest hypothesis =>
      cases happening with
      | filesChanged files account =>
          exact hypothesis (untimed_notMem_filesChanged files account unreported)
      | packet data =>
          have first := untimed_notMem_packet data unreported
          rw [follow]
          generalize run.packet data = read at first ⊢
          rcases read with ⟨after, _ | stop⟩
          · exact hypothesis first
          · exact first

end Run

/-! ## Timelines -/

/--
Packets that stand one after the other, each for the same length or, if that is nothing, a
microsecond apart; subtitles that have the spans of some of them, in their order; and no report of a
packet without a time.
-/
structure IsTimeline
    (length : Int)
    (packets : List Packet)
    (shown : List Subtitle)
    (notices : List Notice) :
    Prop where
  placed :
    ∀ (index : Nat) (packet : Packet),
      packets[index]? = some packet →
        packet.start = some ((index + 1) * max length 1) ∧ packet.length = length
  adjacent :
    0 < length →
      ∀ (index : Nat) (one next : Packet),
        packets[index]? = some one →
          packets[index + 1]? = some next → next.start = one.start.map (· + one.length)
  timed : .untimed ∉ notices
  fromPackets : ∀ subtitle ∈ shown, ∃ packet ∈ packets, packet.start = some subtitle.start
  positive : ∀ subtitle ∈ shown, 0 < subtitle.start
  lasting : ∀ subtitle ∈ shown, subtitle.stop = subtitle.start + length
  ephemeral : ∀ subtitle ∈ shown, subtitle.ephemeral = true ↔ length = 0
  apart : shown.Pairwise fun one later => one.start < later.start ∧ one.stop ≤ later.start

/-- Nothing at all is a timeline, as long as no packet is reported to have no time. -/
theorem isTimeline_nil
    (length : Int)
    (notices : List Notice)
    (timed : .untimed ∉ notices) :
    IsTimeline length [] [] notices where
  placed := nofun
  adjacent := nofun
  timed := timed
  fromPackets := nofun
  positive := nofun
  lasting := nofun
  ephemeral := nofun
  apart := .nil

/-- The spans of later packets begin where those of earlier ones have ended. -/
theorem spans_apart (length : Int) (one later : Nat) (before : one < later) :
    (one + 1) * max length 1 < (later + 1) * max length 1 ∧
      (one + 1) * max length 1 + length ≤ (later + 1) * max length 1 := by
  have wide : 0 ≤ max length 1 := by omega
  have next : (one + 1 : Int) + 1 ≤ later + 1 := by omega
  have spans := Int.mul_le_mul_of_nonneg_right next wide
  rw [Int.add_mul _ 1, Int.one_mul] at spans
  omega

section Followed

variable (run : Run) (happenings : List Run.Happening)

/-- Every subtitle that is shown has the span of a packet that was taken. -/
theorem span_of_mem_shown
    (subtitle : Subtitle)
    (member : subtitle ∈ (run.takes happenings).filterMap Take.shown?) :
    (∃ packet ∈ (run.takes happenings).map Take.packet, packet.start = some subtitle.start) ∧
      0 < subtitle.start ∧
      subtitle.stop = subtitle.start + shownFor run.options.duration ∧
      (subtitle.ephemeral = true ↔ shownFor run.options.duration = 0) := by
  rcases List.mem_filterMap.1 member with ⟨take, taken, made⟩
  rcases Take.span_of_shown? made with ⟨positive, start, stop, ephemeral⟩
  rw [run.options_of_mem_takes happenings take taken] at stop ephemeral
  constructor
  · exact ⟨take.packet, List.mem_map_of_mem taken, congrArg some start.symm⟩
  · exact ⟨positive, stop, ephemeral⟩

/-- The subtitles are shown in the order in which their packets are counted. -/
theorem pairwise_shown :
    ((run.takes happenings).filterMap Take.shown?).Pairwise
      fun one later => one.start < later.start ∧ one.stop ≤ later.start := by
  have counted : ((run.takes happenings).map fun take => take.before.count).Pairwise (· < ·) := by
    rw [run.counts_takes]
    exact List.pairwise_lt_range'
  have options := run.options_of_mem_takes happenings
  rw [List.pairwise_filterMap]
  apply (List.pairwise_map.1 counted).imp_of_mem
  intro one later oneTaken laterTaken before first firstMade second secondMade
  rcases Take.span_of_shown? firstMade with ⟨-, start, stop, -⟩
  rcases Take.span_of_shown? secondMade with ⟨-, laterStart, -, -⟩
  rw [stop, start, laterStart, options one oneTaken, options later laterTaken]
  exact spans_apart (shownFor run.options.duration) _ _ before

variable (unread : run.count = 0)

include unread

/-- The packets of a new run have their places from zero on. -/
theorem count_of_getElem?_takes
    (index : Nat)
    (take : Take)
    (found : (run.takes happenings)[index]? = some take) :
    take.before.count = index := by
  rcases List.getElem?_eq_some_iff.1 found with ⟨inside, rfl⟩
  have counts := congrArg (·[index]?) (run.counts_takes happenings)
  simpa [unread, inside] using counts

theorem placed_takes
    (index : Nat)
    (packet : Packet)
    (found : ((run.takes happenings).map Take.packet)[index]? = some packet) :
    packet.start = some ((index + 1) * max (shownFor run.options.duration) 1) ∧
      packet.length = shownFor run.options.duration := by
  rw [List.getElem?_map, Option.map_eq_some_iff] at found
  rcases found with ⟨take, here, rfl⟩
  rw [Take.packet, run.options_of_mem_takes happenings take (List.mem_of_getElem? here),
    count_of_getElem?_takes run happenings unread index take here]
  exact ⟨rfl, rfl⟩

/-- What a new run does with its packets is a timeline, whatever else happens. -/
theorem isTimeline_follow
    (unshown : run.shown = [])
    (unreported : .untimed ∉ run.notices) :
    IsTimeline (shownFor run.options.duration)
      ((run.takes happenings).map Take.packet)
      (run.follow happenings).1.shown
      (run.follow happenings).1.notices := by
  have spans := span_of_mem_shown run happenings
  have placed := placed_takes run happenings unread
  rw [run.shown_follow, unshown, List.nil_append]
  constructor
  case placed => exact placed
  case adjacent =>
    intro long index one next here there
    have whole : max (shownFor run.options.duration) 1 = shownFor run.options.duration :=
      max_eq_left long
    rw [(placed index one here).1, (placed index one here).2, (placed _ next there).1, whole,
      Option.map_some, Option.some_inj]
    push_cast
    ring
  case timed => exact run.untimed_notMem_follow happenings unreported
  case fromPackets => exact fun subtitle member => (spans subtitle member).1
  case positive => exact fun subtitle member => (spans subtitle member).2.1
  case lasting => exact fun subtitle member => (spans subtitle member).2.2.1
  case ephemeral => exact fun subtitle member => (spans subtitle member).2.2.2
  case apart => exact pairwise_shown run happenings

end Followed

/--
The subtitles of a command line form a timeline, whatever the input and the length that is asked for.
Its packets have their starts in their order, those that are dropped among them, and none is dropped
for having no time.  The subtitles that are shown start later and later, and none starts before an
earlier one has stopped; they are ephemeral exactly if they have no length.  The same holds at any
time before the end, also while files change.
-/
theorem cues_form_timeline
    (texts : List String)
    (options : Options)
    (surroundings : Surroundings)
    (asked : Options.read texts = .ok options) :
    IsTimeline (1000 * max 0 options.duration)
        (decodedPackets options surroundings)
        (run texts surroundings).shown
        (run texts surroundings).notices ∧
      ∀ ready,
        prepare options surroundings = .ok ready →
          ∀ happenings,
            IsTimeline (1000 * max 0 options.duration)
              ((ready.takes happenings).map Take.packet)
              (ready.follow happenings).1.shown
              (ready.follow happenings).1.notices := by
  have length : 1000 * max 0 options.duration = shownFor options.duration := Int.mul_comm _ _
  have followed (ready : Run) (prepared : prepare options surroundings = .ok ready)
      (happenings : List Run.Happening) :
      IsTimeline (shownFor options.duration)
        ((ready.takes happenings).map Take.packet)
        (ready.follow happenings).1.shown
        (ready.follow happenings).1.notices := by
    rcases fresh_of_prepare options surroundings ready prepared with ⟨rfl, unread, unshown⟩
    rcases opened_of_prepare prepared with ⟨settings, opened⟩
    exact isTimeline_follow ready happenings unread unshown (Session.untimed_notMem_open? opened)
  rw [length]
  refine ⟨?_, followed⟩
  cases outcome : prepare options surroundings with
  | error report =>
      rcases unshown_of_prepare outcome with ⟨unshown, notices⟩
      rw [run_eq_report asked outcome, unshown, decodedPackets, outcome]
      refine isTimeline_nil _ _ ?_
      rcases notices with none | ⟨settings, session, opened⟩
      · rw [none]
        exact List.not_mem_nil
      · exact Session.untimed_notMem_open? opened
  | ok ready =>
      rcases ready.comesTo_readAll surroundings.input with ⟨packets, comes, -⟩
      rcases ready.report_conclude surroundings.input with ⟨exit, records, concluded⟩
      have timeline := followed ready outcome (packets.map .packet)
      rw [run_eq_conclude asked outcome, concluded, decodedPackets, outcome]
      dsimp only
      rw [ready.decodesAll_eq_takes, comes.taken_eq]
      change IsTimeline _ _ (ready.readAll surroundings.input).1.shown
        (ready.readAll surroundings.input).1.notices
      rw [comes.after_eq]
      exact timeline

/-- Three lines, the second of which is not ASCII. -/
def brokenSecond : Surroundings :=
  { input := [0x61, 0x0A, 0xFF, 0x0A, 0x62] }

/-- With a negative length the subtitles around a dropped packet are two microseconds apart. -/
theorem cues_form_timeline_around_dropped_packet :
    Options.read ["--encoding", "ASCII", "--duration-ms", "-5"] =
        .ok { encoding := some "ASCII", duration := -5 } ∧
      IsTimeline 0
        (decodedPackets { encoding := some "ASCII", duration := -5 } brokenSecond)
        (run ["--encoding", "ASCII", "--duration-ms", "-5"] brokenSecond).shown
        (run ["--encoding", "ASCII", "--duration-ms", "-5"] brokenSecond).notices ∧
      (decodedPackets { encoding := some "ASCII", duration := -5 } brokenSecond).map Packet.start =
        [some 1, some 2, some 3] ∧
      (run ["--encoding", "ASCII", "--duration-ms", "-5"] brokenSecond).shown.map Subtitle.start =
        [1, 3] := by
  have asked :
      Options.read ["--encoding", "ASCII", "--duration-ms", "-5"] =
        .ok { encoding := some "ASCII", duration := -5 } := by
    decide +kernel
  exact
    ⟨asked, (cues_form_timeline _ _ brokenSecond asked).1, by decide +kernel, by decide +kernel⟩

end CommandLine

end TimedText
