import TimedText.Proofs.Session.Run

/-!
# What settings change in an open session

A session takes its converter when it opens, and from then on reads its settings for two things only:
the place of a text that asks for none, and whether styles are shown.  So two sessions that differ in
nothing but their settings take the same way with every packet.  They stop, drop and report the same,
they count the same, and their converters stay the same; what they show has the same times and the
same text.

This is shown for one packet, then for one request, where new settings may be given to both sessions,
and then for requests in a row.  The relation that the settings of the two sessions keep is left open,
so that the same law says what equal places and styling mean, and what it means to switch styling off.
-/

namespace TimedText

/-! ## Texts -/

/-- The segments of a text and the place that it asks for, if it asks for one. -/
def Markup.content
    (lookup : Color.Lookup)
    (text : List Char) :
    Except Failure (List Segment × Option Alignment) :=
  let pieces := Piece.split (untilNul text)
  (marks lookup pieces).map fun marks => (segments marks, pieces.findSome? Piece.key?)

/-- The place that the caller gives is used where the text asks for none, and for nothing else. -/
theorem Markup.parse_eq_content (lookup : Color.Lookup) (align : Alignment) (text : List Char) :
    parse lookup align text =
      (content lookup text).map fun read => ⟨read.1, read.2.getD align⟩ := by
  unfold parse content
  dsimp only
  cases marks lookup (Piece.split (untilNul text)) with
  | error failure => rfl
  | ok marks => rfl

/-! ## Subtitles -/

namespace Subtitle

/-- A subtitle with all its text in one segment in the plain style. -/
def flattened (subtitle : Subtitle) : Subtitle :=
  { subtitle with segments := [{ text := subtitle.text }] }

@[simp]
theorem text_flattened (subtitle : Subtitle) : subtitle.flattened.text = subtitle.text := by
  simp [flattened, text, Segment.joinedText, String.join]

/-- The times and the text of a subtitle, without its place and its styles. -/
def timesAndText (subtitle : Subtitle) : Int × Int × Bool × String :=
  (subtitle.start, subtitle.stop, subtitle.ephemeral, subtitle.text)

end Subtitle

namespace Session

/-- What is shown of segments under settings, where the text asks for a place or for none. -/
def showing
    (settings : DecoderSettings)
    (start length : Int)
    (place : Option Alignment)
    (segments : List Segment) :
    Subtitle :=
  let align := place.getD settings.defaultAlign
  .timed start length align (styled settings ⟨segments, align⟩)

section Showing

variable (settings : DecoderSettings) (start length : Int) (place : Option Alignment)
variable (segments : List Segment)

theorem showing_eq :
    showing settings start length place segments =
      let subtitle : Subtitle := .timed start length (place.getD settings.defaultAlign) segments
      if settings.formatted then subtitle else subtitle.flattened := by
  unfold showing styled
  cases settings.formatted <;> rfl

/-- The settings touch neither the times of what is shown nor its text. -/
theorem timesAndText_showing :
    (showing settings start length place segments).timesAndText =
      (start, start + length, length == 0, Segment.joinedText segments) := by
  rw [showing_eq]
  dsimp only
  split
  next => rfl
  next =>
    rw [Subtitle.timesAndText, Subtitle.text_flattened]
    rfl

end Showing

/-! ## One packet -/

/-- What two sessions answer to the same request under two settings, if it has an answer. -/
inductive Restyled (old new : DecoderSettings) :
    (one other : Option (Except Error (Option Subtitle))) → Prop where
  | silent : Restyled old new none none
  | stopped (error : Error) : Restyled old new (some (.error error)) (some (.error error))
  | dropped : Restyled old new (some (.ok none)) (some (.ok none))
  | shown
      (start length : Int)
      (place : Option Alignment)
      (segments : List Segment) :
      Restyled old new
        (some (.ok (some (showing old start length place segments))))
        (some (.ok (some (showing new start length place segments))))

/-- The steps of one packet under two settings. -/
structure Step.Parallel (old new : DecoderSettings) (one other : Step) : Prop where
  result : Restyled old new (some one.result) (some other.result)
  notices : other.notices = one.notices
  after : other.after = { one.after with settings := new }

section OnePacket

variable (session : Session) (settings : DecoderSettings) (packet : Packet) (start : Int)

theorem parallel_present (text : List Char) :
    Step.Parallel session.settings settings
      (session.present packet start text)
      ({ session with settings }.present packet start text) := by
  unfold present
  rw [Markup.parse_eq_content, Markup.parse_eq_content]
  dsimp only
  cases Markup.content session.lookup text with
  | error failure =>
      cases failure with
      | outOfMemory => exact ⟨.dropped, rfl, rfl⟩
      | numeralTooLong => exact ⟨.stopped _, rfl, rfl⟩
  | ok read => exact ⟨.shown start packet.length read.2 read.1, rfl, rfl⟩

theorem parallel_convertAndShow :
    Step.Parallel session.settings settings
      (session.convertAndShow packet start)
      ({ session with settings }.convertAndShow packet start) := by
  unfold convertAndShow
  dsimp only
  cases (session.converter.convert packet.data).result with
  | ok text =>
      rcases parallel_present (session.converted packet) settings packet start text with
        ⟨result, notices, after⟩
      exact ⟨result, congrArg (session.repairs packet ++ ·) notices, after⟩
  | error error =>
      cases error with
      | failed failure => exact ⟨.dropped, rfl, rfl⟩
      | closed => exact ⟨.stopped _, rfl, rfl⟩
      | blocked obstacle => exact ⟨.stopped _, rfl, rfl⟩

/-- A packet takes the same way under other settings. -/
theorem parallel_decode :
    Step.Parallel session.settings settings
      (session.decode packet) ({ session with settings }.decode packet) := by
  unfold decode
  split
  next => exact ⟨.dropped, rfl, rfl⟩
  next =>
    cases properStart? packet with
    | none => exact ⟨.dropped, rfl, rfl⟩
    | some start =>
        dsimp only
        split
        next => exact ⟨.dropped, rfl, rfl⟩
        next => exact parallel_convertAndShow session settings packet start

end OnePacket

/-! ## One request -/

/-- Sessions that differ in nothing but their settings. -/
def Alike (first second : Session) : Prop :=
  ∃ settings, second = { first with settings }

theorem Alike.converter_eq {first second : Session} (alike : first.Alike second) :
    second.converter = first.converter := by
  rcases alike with ⟨settings, rfl⟩
  rfl

theorem Alike.tally_eq {first second : Session} (alike : first.Alike second) :
    second.tally = first.tally := by
  rcases alike with ⟨settings, rfl⟩
  rfl

variable {Related : DecoderSettings → DecoderSettings → Prop}

/--
Requests that are the same but for new settings, which are related.  Settings are given as a whole,
and a session takes their decoder section.
-/
inductive Request.Matches (Related : DecoderSettings → DecoderSettings → Prop) :
    (one other : Request) → Prop where
  | decode (packet : Packet) : Matches Related (.decode packet) (.decode packet)
  | configure
      (old new : TimedText.Settings)
      (related : Related old.decoder new.decoder) :
      Matches Related (.configure old.decoder) (.configure new.decoder)
  | close : Matches Related .close .close

/-- A request matches itself, if new settings that it brings are related to themselves. -/
theorem Request.matches_self
    (request : Request)
    (related : ∀ settings, request = .configure settings → Related settings settings) :
    Matches Related request request := by
  cases request with
  | decode packet => exact .decode packet
  | configure settings =>
      exact .configure { decoder := settings } { decoder := settings } (related settings rfl)
  | close => exact .close

/-- Calls of matching requests in sessions that are alike and have related settings. -/
structure Call.Matches
    (Related : DecoderSettings → DecoderSettings → Prop)
    (one other : Call) : Prop where
  before : Related one.before.settings other.before.settings
  answer : Restyled one.before.settings other.before.settings one.answer other.answer
  notices : ∀ packet, one.request = .decode packet → other.notices = one.notices
  alike : one.after.Alike other.after
  after : Related one.after.settings other.after.settings

theorem call_matches
    {first second : Session}
    {request other : Request}
    (matching : Request.Matches Related request other)
    (alike : first.Alike second)
    (related : Related first.settings second.settings) :
    Call.Matches Related (first.call request) (second.call other) := by
  rcases alike with ⟨settings, rfl⟩
  cases matching with
  | decode packet =>
      rcases parallel_decode first settings packet with ⟨result, notices, after⟩
      rcases settings_decode first packet with ⟨kept, -⟩
      have given : ({ first with settings }.decode packet).after.settings = settings := by
        rw [after]
      refine ⟨related, result, fun _ _ => notices, ⟨settings, after⟩, ?_⟩
      rw [call, call, kept, given]
      exact related
  | configure old new asked =>
      refine ⟨related, .silent, ?_, ⟨new.decoder, rfl⟩, asked⟩
      intro packet decodes
      cases decodes
  | close => exact ⟨related, .silent, fun _ _ => rfl, ⟨settings, rfl⟩, related⟩

/-! ## Requests in a row -/

/-- Matching requests make matching calls. -/
theorem calls_match
    {requests others : List Request}
    (matching : List.Forall₂ (Request.Matches Related) requests others)
    {first second : Session}
    (alike : first.Alike second)
    (related : Related first.settings second.settings) :
    List.Forall₂ (Call.Matches Related) (first.calls requests) (second.calls others) := by
  induction matching generalizing first second with
  | nil => exact .nil
  | cons one _ hypothesis =>
      have here := call_matches one alike related
      exact .cons here (hypothesis here.alike here.after)

/-! ## What settings do to answers -/

end Session

namespace DecoderSettings

/-- Settings under which the same is shown: they agree on the place and on the styling. -/
def SameDisplay (old new : DecoderSettings) : Prop :=
  old.align = new.align ∧ old.formatted = new.formatted

/-- Settings that show styles, and the same settings with styles switched off. -/
def Unformatted (old new : DecoderSettings) : Prop :=
  old.formatted = true ∧ new = { old with formatted := false }

end DecoderSettings

namespace Session

section Answers

variable {old new : DecoderSettings} {one other : Option (Except Error (Option Subtitle))}

/-- Settings that agree on the place and on the styling give the same answer. -/
theorem Restyled.eq_of_sameDisplay
    (restyled : Restyled old new one other)
    (display : old.SameDisplay new) :
    other = one := by
  rcases display with ⟨align, formatted⟩
  cases restyled with
  | silent => rfl
  | stopped error => rfl
  | dropped => rfl
  | shown start length place segments =>
      rw [showing_eq, showing_eq, DecoderSettings.defaultAlign, DecoderSettings.defaultAlign, align,
        formatted]

/-- With styles switched off an answer is the same, but flattened. -/
theorem Restyled.eq_flattened
    (restyled : Restyled old new one other)
    (off : old.Unformatted new) :
    other = one.map (Except.map (Option.map Subtitle.flattened)) := by
  rcases off with ⟨formatted, rfl⟩
  cases restyled with
  | silent => rfl
  | stopped error => rfl
  | dropped => rfl
  | shown start length place segments =>
      rw [showing_eq, showing_eq, if_pos formatted, if_neg Bool.false_ne_true]
      rfl

/-- Whatever the settings are, an answer has the same times and the same text. -/
theorem Restyled.timesAndText_eq (restyled : Restyled old new one other) :
    other.map (Except.map (Option.map Subtitle.timesAndText)) =
      one.map (Except.map (Option.map Subtitle.timesAndText)) := by
  cases restyled with
  | silent => rfl
  | stopped error => rfl
  | dropped => rfl
  | shown start length place segments =>
      simp only [Option.map_some, Except.map, timesAndText_showing]

end Answers

/-- Calls with the same outcome: the answer, the reports on a packet, the tally and the converter. -/
structure Call.SameOutcome (one other : Call) : Prop where
  answer : other.answer = one.answer
  notices : ∀ packet, one.request = .decode packet → other.notices = one.notices
  tally : other.after.tally = one.after.tally
  converter : other.after.converter = one.after.converter

/-- Of the settings, nothing but the place and the styling can be told from the calls. -/
theorem Alike.sameOutcome
    {first second : Session}
    {requests others : List Request}
    (alike : first.Alike second)
    (display : first.settings.SameDisplay second.settings)
    (matching : List.Forall₂ (Request.Matches DecoderSettings.SameDisplay) requests others) :
    List.Forall₂ Call.SameOutcome (first.calls requests) (second.calls others) := by
  refine (calls_match matching alike display).imp ?_
  rintro one other ⟨before, answer, notices, after, -⟩
  exact ⟨answer.eq_of_sameDisplay before, notices, after.tally_eq, after.converter_eq⟩

/-! ## Switching styles off -/

/--
Two sessions that are the same but that one shows styles and the other does not answer every packet
in the same way: both with a subtitle, both with nothing, or both with the same error.  The subtitles
have the same times, place and text, and the one without styles has all its text in one segment in
the plain style.  Tallies and converters stay equal.
-/
theorem unformatted_calls_are_flattened
    (first second : Session)
    (requests : List Request)
    (on : first.settings.formatted = true)
    (off : second = { first with settings := { first.settings with formatted := false } })
    (unconfigured : ∀ settings, .configure settings ∉ requests) :
    List.Forall₂
        (fun one other =>
          other.answer = one.answer.map (Except.map (Option.map Subtitle.flattened)) ∧
            other.after.tally = one.after.tally ∧
            other.after.converter = one.after.converter)
        (first.calls requests) (second.calls requests) ∧
      ∀ subtitle : Subtitle,
        subtitle.flattened.text = subtitle.text ∧
          subtitle.flattened.segments =
            [{ text := Segment.joinedText subtitle.segments, style := {} }] := by
  have matching :
      List.Forall₂ (Request.Matches DecoderSettings.Unformatted) requests requests := by
    refine List.forall₂_same.2 fun request member => request.matches_self ?_
    rintro settings rfl
    exact (unconfigured settings member).elim
  have parallel := calls_match matching ⟨_, off⟩ ⟨on, congrArg Session.settings off⟩
  refine ⟨parallel.imp ?_, fun subtitle => ⟨subtitle.text_flattened, rfl⟩⟩
  rintro one other ⟨before, answer, -, alike, -⟩
  exact ⟨answer.eq_flattened before, alike.tally_eq, alike.converter_eq⟩

/-- A styled subtitle at a place of its own, a packet that does not fit, and one behind the closing. -/
def signAndClosing : List Request :=
  [ .decode
      { data := [0x7B, 0x5C, 0x61, 0x6E, 0x37, 0x7D, 0x61, 0x3C, 0x62, 0x3E, 0x62], start := some 5 },
    .decode { data := [0xFF], start := some 6 },
    .close,
    .decode { data := [0x61], start := some 7 } ]

/-- A session for the alphabet. -/
def letters : Session :=
  { codec := .subt, settings := {}, converter := .decoding "ASCII" Encoding.ascii false,
    lookup := Color.byName }

theorem unformatted_calls_are_flattened_behind_sign :
    List.Forall₂
        (fun one other =>
          other.answer = one.answer.map (Except.map (Option.map Subtitle.flattened)) ∧
            other.after.tally = one.after.tally ∧
            other.after.converter = one.after.converter)
        (letters.calls signAndClosing)
        ({ letters with settings := { formatted := false } }.calls signAndClosing) ∧
      (letters.calls signAndClosing).map Call.answer =
        [ some
            (.ok
              (some
                { start := 5, stop := 5, ephemeral := true, align := .place .top .left,
                  segments := [⟨"a", {}⟩, ⟨"b", { flags := StyleFlag.bold.bits }⟩] })),
          some (.ok none),
          none,
          some (.error .closed) ] := by
  refine ⟨(unformatted_calls_are_flattened letters _ signAndClosing rfl rfl ?_).1, ?_⟩
  · simp [signAndClosing]
  · decide +kernel

end Session

end TimedText
