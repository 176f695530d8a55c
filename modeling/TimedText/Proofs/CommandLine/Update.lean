import TimedText.CommandLine.Run
import TimedText.Proofs.Session.Settings

/-!
# New settings for an open session

An open session is given new settings by its owner, or by a run whose file of settings has changed.
What it answers from then on depends on them by two things only, the place and the styling: where
these agree, nothing that the settings say about the encoding or about the journal can be told from
any answer, any number of the tally or the converter.  Whatever the new settings say, subtitles keep
their times and their text.

Settings that cannot be read or are not valid do not get as far as the session, and the run stays as
it was.
-/

namespace TimedText

namespace Session

/-- Calls that are the same but for the place and the segments of a subtitle. -/
def Call.SameTimesAndText (one other : Call) : Prop :=
  other.answer.map (Except.map (Option.map Subtitle.timesAndText)) =
      one.answer.map (Except.map (Option.map Subtitle.timesAndText)) ∧
    other.after.tally = one.after.tally ∧
    other.after.converter = one.after.converter

/-- Sessions that differ in nothing but their settings show subtitles of the same times and text. -/
theorem Alike.sameTimesAndText
    {first second : Session}
    (alike : first.Alike second)
    (requests : List Request) :
    List.Forall₂ Call.SameTimesAndText (first.calls requests) (second.calls requests) := by
  have matching : List.Forall₂ (Request.Matches fun _ _ => True) requests requests :=
    List.forall₂_same.2 fun request _ => request.matches_self fun _ _ => trivial
  refine (calls_match matching alike trivial).imp ?_
  rintro one other ⟨-, answer, -, after, -⟩
  exact ⟨answer.timesAndText_eq, after.tally_eq, after.converter_eq⟩

end Session

namespace CommandLine

namespace Run

/-- However many deliveries there are, they change no more of a session than its settings. -/
theorem alike_foldl_deliver (run : Run) (deliveries : List Settings.Delivery) :
    run.session.Alike (deliveries.foldl deliver run).session := by
  induction deliveries generalizing run with
  | nil => exact ⟨run.session.settings, rfl⟩
  | cons delivery rest hypothesis =>
      rcases hypothesis (run.deliver delivery) with ⟨settings, after⟩
      exact ⟨settings, after⟩

/-- A change of files changes no more of a session than its settings. -/
theorem alike_filesChanged (run : Run) (files : FileTree) (account : List Log.Record) :
    run.session.Alike (run.filesChanged files account).session := by
  unfold filesChanged
  split
  next => exact ⟨run.session.settings, rfl⟩
  next =>
    dsimp only
    exact alike_foldl_deliver (Run.noteAll { run.withFiles files with store := _ } _) _

/-- A change of files that brings no valid settings leaves all as it was, but for the log. -/
theorem filesChanged_of_invalid
    (run : Run)
    (files : FileTree)
    (account : List Log.Record)
    (invalid :
      ∀ path,
        run.store.path = some path →
          ∃ cause, Settings.reread files run.environment path = .error cause) :
    ∃ records, run.filesChanged files account = (run.withFiles files).noteAll records := by
  have unmoved : run.store.reload files run.environment = (run.store, []) := by
    unfold Settings.Store.reload
    split
    next => rfl
    next path known =>
      rcases invalid path known with ⟨cause, failed⟩
      rw [failed]
  unfold filesChanged
  split
  next => exact ⟨[], rfl⟩
  next watch _ =>
    have unnoticed (event : Settings.Modification) :
        run.store.notice files run.environment watch.name event = (run.store, []) := by
      unfold Settings.Store.notice
      split
      next => exact unmoved
      next => rfl
    dsimp only
    rw [unnoticed]
    exact ⟨_, rfl⟩

end Run

/--
Two open sessions that differ in nothing but their settings, and agree on the place and the styling,
answer the same requests alike for good, even where each is given settings of its own, as long as
these agree on the place and the styling.  A change of files that brings no valid settings leaves a
run and its session as they were, and is told in the log at most.  Settings that are taken, whatever
they say, change the place and the segments of later subtitles and nothing else.
-/
theorem calls_depend_on_display_alone
    (first second : Session)
    (requests others : List Session.Request)
    (alike : first.Alike second)
    (display : first.settings.SameDisplay second.settings)
    (matching :
      List.Forall₂ (Session.Request.Matches DecoderSettings.SameDisplay) requests others) :
    List.Forall₂ Session.Call.SameOutcome (first.calls requests) (second.calls others) ∧
      (∀ (run : Run) (files : FileTree) (account : List Log.Record),
        ((∀ path,
            run.store.path = some path →
              ∃ cause, Settings.reread files run.environment path = .error cause) →
          ∃ records, run.filesChanged files account = (run.withFiles files).noteAll records) ∧
        ∀ later,
          List.Forall₂ Session.Call.SameTimesAndText
            (run.session.calls later) ((run.filesChanged files account).session.calls later)) ∧
      ∀ (session : Session) (settings : Settings) (later : List Session.Request),
        List.Forall₂ Session.Call.SameTimesAndText
          (session.calls later) ((session.configure settings.decoder).1.calls later) := by
  refine ⟨alike.sameOutcome display matching, ?_, ?_⟩
  · intro run files account
    constructor
    · exact run.filesChanged_of_invalid files account
    · exact (run.alike_filesChanged files account).sameTimesAndText
  · intro session settings
    have changed : session.Alike (session.configure settings.decoder).1 :=
      ⟨settings.decoder, rfl⟩
    exact changed.sameTimesAndText

/-- A styled packet, new settings, the packet again, one that does not fit, and one after closing. -/
def swapping (settings : Settings) : List Session.Request :=
  [ .decode { data := [0x61, 0x3C, 0x62, 0x3E, 0x62], start := some 5 },
    .configure settings.decoder,
    .decode { data := [0x61, 0x3C, 0x62, 0x3E, 0x62], start := some 6 },
    .decode { data := [0xED, 0x95, 0x9C], start := some 7 },
    .close,
    .decode { data := [0x61], start := some 8 } ]

/-- Settings for plain text at the left. -/
def unstyledLeft : Settings :=
  { decoder := { align := .left, formatted := false } }

/-- Settings for plain text at the left that say all else in another way. -/
def unstyledLeftElsewhere : Settings :=
  { system := { logLevel := .error, logDir := "logs", sessionId := "one" },
    decoder :=
      { encoding := "UTF-8", localeEncoding := "EUC-KR", detectUtf8 := false, align := .left,
        formatted := false } }

theorem calls_depend_on_display_alone_behind_swap :
    List.Forall₂ Session.Call.SameOutcome
        (Session.letters.calls (swapping unstyledLeft))
        ({ Session.letters with settings := { encoding := "UTF-8", detectUtf8 := false } }.calls
          (swapping unstyledLeftElsewhere)) ∧
      (Session.letters.calls (swapping unstyledLeft)).map Session.Call.answer =
        [ some
            (.ok
              (some
                { start := 5, stop := 5, ephemeral := true, align := .place .bottom .center,
                  segments := [⟨"a", {}⟩, ⟨"b", { flags := StyleFlag.bold.bits }⟩] })),
          none,
          some
            (.ok
              (some
                { start := 6, stop := 6, ephemeral := true, align := .place .bottom .left,
                  segments := [⟨"ab", {}⟩] })),
          some (.ok none),
          none,
          some (.error .closed) ] := by
  have alike :
      Session.letters.Alike
        { Session.letters with settings := { encoding := "UTF-8", detectUtf8 := false } } :=
    ⟨{ encoding := "UTF-8", detectUtf8 := false }, rfl⟩
  have matching :
      List.Forall₂ (Session.Request.Matches DecoderSettings.SameDisplay)
        (swapping unstyledLeft) (swapping unstyledLeftElsewhere) :=
    .cons (.decode _)
      (.cons (.configure unstyledLeft unstyledLeftElsewhere ⟨rfl, rfl⟩)
        (.cons (.decode _) (.cons (.decode _) (.cons .close (.cons (.decode _) .nil)))))
  refine ⟨(calls_depend_on_display_alone _ _ _ _ alike ⟨rfl, rfl⟩ matching).1, ?_⟩
  decide +kernel

end CommandLine

end TimedText
