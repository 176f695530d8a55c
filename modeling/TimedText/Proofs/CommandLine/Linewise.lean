import TimedText.Proofs.CommandLine.ExitCode
import TimedText.Proofs.CommandLine.Lines
import TimedText.Proofs.CommandLine.Overriding
import TimedText.Proofs.Converter.Steady
import TimedText.Proofs.Markup.Lexeme

/-!
# Files line by line

A file that is read line by line is cut at its line feeds before its bytes are read.  Where a line
feed is the byte 0A and nothing else is, that is the same as to cut the text of the file: in UTF-8,
in ASCII, in ISO 8859-1 and in the code pages each line becomes one subtitle, which shows the line.

Under UTF-16 it is not the same.  A line feed takes two bytes there, and one of them is left over
where the file is cut.  So several lines never come out line by line.  A single one does as long as
no byte of it is taken for the end of a line.
-/

namespace TimedText

open Encoding (ByteOrder)
open Encoding.Wide (encode)

/-! ## One packet -/

namespace Session

variable {session : Session} {packet : Packet}

/-- A packet that is read as a text without markup is shown as the text stands. -/
theorem decode_of_plain
    {start : Int}
    (proper : packet.IsProper start)
    (content : Markup.PlainText)
    (read : (session.converter.convert packet.data).result = .ok content.chars) :
    (session.decode packet).result =
      .ok
        (some
          (.timed start packet.length session.settings.defaultAlign
            [{ text := String.ofList content.chars }])) := by
  have parsed := Markup.parse_of_plain session.lookup session.settings.defaultAlign content
  rw [session.decode_of_isProper packet start proper, convertAndShow, read]
  dsimp only
  rw [present, parsed]
  dsimp only
  rw [styled_singleton]

/-- Apart from line breaks, what is shown of a packet stands in the text that was read of it. -/
theorem sublist_of_decode
    {subtitle : Subtitle}
    (shown : (session.decode packet).result = .ok (some subtitle)) :
    ∃ text,
      (session.converter.convert packet.data).result = .ok text ∧
        (subtitle.text.toList.filter (· != '\n')).Sublist text := by
  rcases shown_of_decode session packet subtitle shown with
    ⟨start, text, outcome, read, parsed, rfl⟩
  refine ⟨text, read, ?_⟩
  have same :
      (Subtitle.timed start packet.length outcome.align
        (styled session.settings outcome)).text.toList =
        outcome.segments.flatMap (·.text.toList) := by
    unfold styled Subtitle.text Subtitle.timed
    split <;>
      simp [Markup.Outcome.text, Segment.joinedText, String.toList_join, List.flatMap_map]
  rw [same]
  exact Markup.sublist_of_parse parsed

end Session

namespace CommandLine

/-- A number that is not larger than one that can be written can be written. -/
theorem isTooLong_of_le
    {number bound : Int}
    (positive : 0 ≤ number)
    (within : number ≤ bound)
    (short : Text.isTooLong bound = false) :
    Text.isTooLong number = false := by
  unfold Text.isTooLong at short ⊢
  rw [decide_eq_false_iff_not] at short ⊢
  omega

/-- The times of a packet can be written if the end of the longest span at its place can. -/
theorem isTooLong_span
    {duration : Int}
    {index : Nat}
    (short : Text.isTooLong ((index + 2) * max (shownFor duration) 1) = false) :
    Text.isTooLong ((index + 1) * max (shownFor duration) 1) = false ∧
      Text.isTooLong ((index + 1) * max (shownFor duration) 1 + shownFor duration) = false := by
  have wide : 0 ≤ shownFor duration ∧ shownFor duration ≤ max (shownFor duration) 1 := by
    unfold shownFor
    omega
  have positive : 0 ≤ (index + 1 : Int) * max (shownFor duration) 1 := by
    positivity
  have bound :
      (index + 2 : Int) * max (shownFor duration) 1 =
        (index + 1) * max (shownFor duration) 1 + max (shownFor duration) 1 := by
    ring
  rw [bound] at short
  exact ⟨isTooLong_of_le positive (by omega) short, isTooLong_of_le (by omega) (by omega) short⟩

/-! ## Packets on their own -/

namespace Run

/-- A run that shows records and keeps none, with a converter that packets leave as it is. -/
structure ReadsWith (run : Run) (converter : Converter) : Prop where
  json : run.options.output = .json
  unkept : run.options.exportTo = none
  converter_eq : run.session.converter = converter
  steady : converter.IsSteady

variable {run : Run} {converter : Converter}

/-- A packet changes neither how a run shows subtitles nor how it reads packets. -/
theorem ReadsWith.packet
    (reads : run.ReadsWith converter)
    {after : Run}
    {data : List UInt8}
    (taken : run.packet data = (after, none)) :
    after.ReadsWith converter := by
  have asked := options_packet taken
  have session : after.session = (Take.step ⟨run, data⟩).after := by
    have left : (run.packet data).1.session = (Take.step ⟨run, data⟩).after := by rw [packet_eq]
    rwa [taken] at left
  refine ⟨asked ▸ reads.json, asked ▸ reads.unkept, ?_, reads.steady⟩
  rw [session]
  rcases run.session.converter_decode (Take.packet ⟨run, data⟩) with same | ⟨-, same⟩
  · exact same.trans reads.converter_eq
  · rw [reads.converter_eq] at same
    exact same.trans (reads.steady _)

/-- A packet that is read as a text without markup is shown as the text stands. -/
theorem ReadsWith.exists_shown
    (reads : run.ReadsWith converter)
    {data : List UInt8}
    (filled : data ≠ [])
    (content : Markup.PlainText)
    (read : (converter.convert data).result = .ok content.chars)
    (short : Text.isTooLong ((run.count + 2) * max (shownFor run.options.duration) 1) = false) :
    ∃ after subtitle,
      run.packet data = (after, none) ∧
        Take.shown? ⟨run, data⟩ = some subtitle ∧ subtitle.text.toList = content.chars := by
  rcases positive_packetAt run.options.duration run.count data with ⟨start, timed, positive⟩
  have proper : (Take.packet ⟨run, data⟩).IsProper start := ⟨rfl, rfl, timed, positive, filled⟩
  let subtitle : Subtitle :=
    .timed start (shownFor run.options.duration) run.session.settings.defaultAlign
      [{ text := String.ofList content.chars }]
  have made : (Take.step ⟨run, data⟩).result = .ok (some subtitle) := by
    rw [← reads.converter_eq] at read
    exact Session.decode_of_plain proper content read
  have brief : run.options.output.isTooLong subtitle = false := by
    have times := isTooLong_span short
    rw [Option.some_inj.1 timed] at times
    rw [reads.json, Form.isTooLong, Bool.or_eq_false_iff]
    exact times
  have shown : Take.shown? ⟨run, data⟩ = some subtitle := by
    rw [Take.shown?, made]
    exact if_neg (Bool.eq_false_iff.1 brief)
  have presented :
      run.packet data = ({ run.taking data with shown := run.shown ++ [subtitle] }, none) := by
    rw [packet_eq_taking, made]
    dsimp only
    have asked : (run.taking data).options = run.options := rfl
    rw [present, asked, if_neg (Bool.eq_false_iff.1 brief), keep]
    dsimp only
    rw [reads.unkept]
    rfl
  refine ⟨_, subtitle, presented, shown, ?_⟩
  simp [subtitle, Subtitle.text, Subtitle.timed, Segment.joinedText]

/-- What is shown of a packet stands in the text that is read of it, apart from line breaks. -/
theorem ReadsWith.sublist_of_shown?
    (reads : run.ReadsWith converter)
    {data : List UInt8}
    {subtitle : Subtitle}
    (shown : Take.shown? ⟨run, data⟩ = some subtitle) :
    ∃ text,
      (converter.convert data).result = .ok text ∧
        (subtitle.text.toList.filter (· != '\n')).Sublist text := by
  rw [← reads.converter_eq]
  exact Session.sublist_of_decode (Take.decoded_of_shown? _ subtitle shown)

/-! ## Packets in a row -/

/-- Nothing stops a run over packets, none of them is lost, and these texts are shown of them. -/
structure Shows (run : Run) (packets : List (List UInt8)) (texts : List (List Char)) : Prop where
  unstopped : (run.packets packets).2 = none
  unlost : ∀ take ∈ run.takes (packets.map .packet), ¬ take.IsLost
  texts_eq :
    ((run.takes (packets.map .packet)).filterMap Take.shown?).map (·.text.toList) = texts

theorem shows_nil : run.Shows [] [] :=
  ⟨rfl, List.forall_mem_nil _, rfl⟩

/-- Texts are shown of packets if one is shown of the first and the others of the rest. -/
theorem shows_cons_iff
    {data : List UInt8}
    (filled : data ≠ [])
    (rest : List (List UInt8))
    (texts : List (List Char)) :
    run.Shows (data :: rest) texts ↔
      ∃ after subtitle others,
        run.packet data = (after, none) ∧
          Take.shown? ⟨run, data⟩ = some subtitle ∧
          after.Shows rest others ∧
          texts = subtitle.text.toList :: others := by
  constructor
  · rintro ⟨unstopped, unlost, rfl⟩
    rw [List.map_cons, takes] at unlost ⊢
    rw [packets_cons] at unstopped
    rcases taken : run.packet data with ⟨after, none | stop⟩
    · rw [taken] at unstopped unlost
      have kept := unlost _ List.mem_cons_self
      rw [Take.IsLost, not_and] at kept
      rcases Option.ne_none_iff_exists'.1 (kept filled) with ⟨subtitle, shown⟩
      refine ⟨after, subtitle, _, rfl, shown, ⟨unstopped, ?_, rfl⟩, ?_⟩
      · exact fun take member => unlost take (List.mem_cons_of_mem _ member)
      · rw [List.filterMap_cons, shown]
        rfl
    · rw [taken] at unstopped
      cases unstopped
  · rintro ⟨after, subtitle, others, taken, shown, ⟨unstopped, unlost, rfl⟩, rfl⟩
    constructor
    · rw [packets_cons, taken]
      exact unstopped
    · rw [List.map_cons, takes, taken, List.forall_mem_cons]
      refine ⟨?_, unlost⟩
      rintro ⟨-, nothing⟩
      rw [shown] at nothing
      cases nothing
    · rw [List.map_cons, takes, taken, List.filterMap_cons, shown]
      rfl

/-- Packets that are read as texts without markup are shown as these texts. -/
theorem ReadsWith.shows_of_plain
    (reads : run.ReadsWith converter)
    {packets : List (List UInt8)}
    {lines : List (List Char)}
    (read :
      List.Forall₂ (fun data line => data ≠ [] ∧ (converter.convert data).result = .ok line)
        packets lines)
    (plain : ∀ line ∈ lines, ∀ char ∈ line, char ≠ '<' ∧ char ≠ '{' ∧ char ≠ '\x00')
    (short :
      Text.isTooLong ((run.count + lines.length + 1 : Nat) * max (shownFor run.options.duration) 1) =
        false) :
    run.Shows packets lines := by
  induction read generalizing run with
  | nil => exact shows_nil
  | @cons data line packets lines here others hypothesis =>
      rcases here with ⟨filled, read⟩
      rw [List.forall_mem_cons] at plain
      have first : Text.isTooLong ((run.count + 2) * max (shownFor run.options.duration) 1) = false := by
        refine isTooLong_of_le (by positivity) ?_ short
        refine Int.mul_le_mul_of_nonneg_right ?_ (by omega)
        rw [List.length_cons]
        omega
      rcases reads.exists_shown filled ⟨line, plain.1⟩ read first with
        ⟨after, subtitle, taken, shown, text⟩
      have asked := options_packet taken
      have counted : after.count = run.count + 1 := by
        have counts : (run.packet data).1.count = run.count + 1 := by rw [packet_eq]
        rwa [taken] at counts
      rw [List.length_cons] at short
      rw [shows_cons_iff filled]
      refine ⟨after, subtitle, lines, taken, shown, hypothesis (reads.packet taken) plain.2 ?_, ?_⟩
      · rw [asked, counted, Nat.add_assoc run.count, Nat.add_comm 1]
        exact short
      · rw [text]

/-- The texts that are shown of packets stand in those that are read, apart from line breaks. -/
theorem ReadsWith.texts_of_shows
    (reads : run.ReadsWith converter)
    {packets : List (List UInt8)}
    (filled : ∀ data ∈ packets, data ≠ [])
    {lines : List (List Char)}
    (shows : run.Shows packets lines) :
    List.Forall₂
      (fun data line =>
        ∃ text,
          (converter.convert data).result = .ok text ∧ (line.filter (· != '\n')).Sublist text)
      packets lines := by
  induction packets generalizing run lines with
  | nil =>
      rw [← shows.texts_eq]
      exact .nil
  | cons data rest hypothesis =>
      rw [List.forall_mem_cons] at filled
      rcases (shows_cons_iff filled.1 rest lines).1 shows with
        ⟨after, subtitle, others, taken, shown, behind, rfl⟩
      exact .cons (reads.sublist_of_shown? shown) (hypothesis (reads.packet taken) filled.2 behind)

end Run

/-! ## Whole files -/

/--
A report on a run that ends with zero and has put out one record for each line, in their order, with
the line for its text.
-/
structure Report.LineByLine (report : Report) (lines : List (List Char)) : Prop where
  exit : report.exit = .ok 0
  output : report.output = Subtitle.recordLines report.shown
  texts : report.shown.map (·.text.toList) = lines

/--
A line that can come out as it stands: it is not empty, and has neither ends of lines nor NUL
characters nor starts of markup.
-/
structure IsLine (line : List Char) : Prop where
  filled : line ≠ []
  plain :
    ∀ char ∈ line, char ≠ '\r' ∧ char ≠ '\n' ∧ char ≠ '\x00' ∧ char ≠ '<' ∧ char ≠ '{'

/-- Such a line is written character by character as a piece. -/
theorem IsLine.isPiece
    {Writes : List UInt8 → List Char → Prop}
    (charwise : Encoding.IsCharwise Writes)
    {line : List Char}
    (isLine : IsLine line)
    {block : List UInt8}
    (written : Writes block line) :
    IsPiece block where
  filled := by
    rintro rfl
    exact isLine.filled (charwise.filled written)
  whole ends := (isLine.plain '\n' (charwise.basic written _ ends (by decide))).2.1 rfl
  bare ends :=
    (isLine.plain '\r' (charwise.basic written _ (List.mem_of_getLast? ends) (by decide))).1 rfl

/-- A run that is yet to read a file line by line, and the content of the file. -/
structure Run.Awaits (run : Run) (content : List UInt8) : Prop where
  unshown : run.shown = []
  unread : run.count = 0
  unfailed : run.session.tally.failures = 0
  takes : ∀ input, run.readAll input = run.packets (pieces content)

section Awaiting

variable {run : Run} {content : List UInt8} {converter : Converter}
variable (awaits : run.Awaits content) (reads : run.ReadsWith converter)

include awaits reads

/-- A file comes out line by line exactly if its pieces are shown as the lines. -/
theorem lineByLine_iff (input : List UInt8) (lines : List (List Char)) :
    (run.conclude input).LineByLine lines ↔ run.Shows (pieces content) lines := by
  have shown := run.shown_follow ((pieces content).map .packet)
  rw [awaits.unshown, List.nil_append] at shown
  rw [Run.conclude, awaits.takes]
  rcases followed : run.packets (pieces content) with ⟨after, none | stop⟩
  · have code := Run.exitCode_of_follow awaits.unfailed followed
    have asked : after.options = run.options := Run.options_follow followed
    change (run.packets (pieces content)).1.shown = _ at shown
    rw [followed] at shown
    constructor
    · rintro ⟨exit, -, texts⟩
      have zero : after.exitCode = 0 := Except.ok.inj exit
      refine ⟨congrArg Prod.snd followed, fun take member lost => ?_, ?_⟩
      · rw [code, if_pos ⟨take, member, lost⟩] at zero
        cases zero
      · rw [← shown]
        exact texts
    · rintro ⟨-, unlost, texts⟩
      refine ⟨?_, ?_, ?_⟩
      · have none : ¬ ∃ take ∈ run.takes ((pieces content).map .packet), take.IsLost := by
          rintro ⟨take, member, lost⟩
          exact unlost take member lost
        show Except.ok after.exitCode = _
        rw [code, if_neg none]
      · show after.shown.flatMap after.options.output.shown = _
        rw [asked, reads.json]
        rfl
      · rw [← texts, ← shown]
        rfl
  · constructor
    · rintro ⟨exit, -, -⟩
      cases exit
    · rintro ⟨unstopped, -, -⟩
      rw [followed] at unstopped
      cases unstopped

variable {lines : List (List Char)} (each : ∀ line ∈ lines, IsLine line)

include each

/--
If lines come out under UTF-16, the pieces of their file hold the written forms of the lines, and are
as long as a text in UTF-16 can be.
-/
theorem cut_of_lineByLine
    (name : String)
    (order : ByteOrder)
    (opened : converter = .decoding name (Encoding.wide .two (some order)) false)
    {input : List UInt8}
    (outcome : (run.conclude input).LineByLine lines) :
    List.Forall₂ (fun piece block => block.Sublist piece ∧ Even piece.length)
      (pieces content) (lines.map (encode .two order)) := by
  subst opened
  have texts :=
    reads.texts_of_shows (fun piece member => (isPiece_of_mem_pieces member).filled)
      ((lineByLine_iff awaits reads input lines).1 outcome)
  have filtered : lines.map (·.filter (· != '\n')) = lines := by
    conv_rhs => rw [← List.map_id lines]
    refine List.map_congr_left fun line member => ?_
    rw [id, List.filter_eq_self]
    exact fun char among => bne_iff_ne.2 ((each line member).plain char among).2.1
  rw [← filtered, List.map_map, List.forall₂_map_right_iff]
  refine texts.imp fun piece line => ?_
  rintro ⟨text, read, holds⟩
  rw [← (Converter.result_wide_eq_ok_iff name order piece text).1 read]
  exact ⟨holds.flatMap _, Encoding.Wide.even_length_encode order text⟩

variable
  (short :
    Text.isTooLong ((lines.length + 1 : Nat) * max (shownFor run.options.duration) 1) = false)

include short

/-- A file whose pieces are read as lines comes out line by line. -/
theorem lineByLine_of_pieces
    (read :
      List.Forall₂ (fun piece line => (converter.convert piece).result = .ok line)
        (pieces content) lines)
    (input : List UInt8) :
    (run.conclude input).LineByLine lines := by
  rw [lineByLine_iff awaits reads]
  refine reads.shows_of_plain ?_ ?_ ?_
  · rw [List.forall₂_and_left]
    exact ⟨fun piece member => (isPiece_of_mem_pieces member).filled, read⟩
  · intro line member char among
    rcases (each line member).plain char among with ⟨-, -, nul, tag, block⟩
    exact ⟨tag, block, nul⟩
  · rwa [awaits.unread, Nat.zero_add]

variable (filled : lines ≠ [])

include filled

/-- A text that is written character by character comes out line by line. -/
theorem lineByLine_of_charwise
    {Writes : List UInt8 → List Char → Prop}
    (charwise : Encoding.IsCharwise Writes)
    (back : converter.Reads Writes)
    (written : Writes content (['\n'].intercalate lines))
    (input : List UInt8) :
    (run.conclude input).LineByLine lines := by
  rcases charwise.exists_blocks filled written with ⟨blocks, rfl, spelled⟩
  have paired : List.Forall₂ (fun block line => IsLine line ∧ Writes block line) blocks lines :=
    ((List.forall₂_and_left _ _).2 ⟨each, spelled.flip⟩).flip
  have read :
      List.Forall₂
        (fun block line => IsPiece block ∧ (converter.convert block).result = .ok line)
        blocks lines := by
    refine paired.imp fun block line => ?_
    rintro ⟨isLine, written⟩
    refine ⟨isLine.isPiece charwise written, back block line written fun nul => ?_⟩
    exact (isLine.plain _ nul).2.2.1 rfl
  rw [List.forall₂_and_left] at read
  refine lineByLine_of_pieces awaits reads each short ?_ input
  change List.Forall₂ _ (pieces ([lineFeed].intercalate blocks)) lines
  rw [pieces_intercalate read.1]
  exact read.2

/-- Under UTF-16 a text comes out line by line if it is one line and its bytes are one piece. -/
theorem lineByLine_wide_iff
    (name : String)
    (order : ByteOrder)
    (opened : converter = .decoding name (Encoding.wide .two (some order)) false)
    (written : content = encode .two order (['\n'].intercalate lines))
    (input : List UInt8) :
    (run.conclude input).LineByLine lines ↔
      lines.length = 1 ∧ lineFeed ∉ content ∧ content.getLast? ≠ some carriageReturn := by
  subst opened
  constructor
  · intro outcome
    have cut := cut_of_lineByLine awaits reads each name order rfl outcome
    have feed : encode .two order ['\n'] = order.bytes 2 0x0A := by
      cases order <;> rfl
    have even : ∀ block ∈ lines.map (encode .two order), Even block.length := by
      rw [List.forall_mem_map]
      exact fun line _ => Encoding.Wide.even_length_encode order line
    rw [Encoding.Wide.encode_intercalate, feed] at written
    rw [written] at cut
    rcases isPiece_of_cut order (by simpa using filled) even cut with ⟨block, single, isPiece⟩
    rw [written, single, List.intercalate_singleton]
    refine ⟨?_, isPiece.whole, isPiece.bare⟩
    rw [← List.length_map (encode .two order), single, List.length_singleton]
  · rintro ⟨one, whole, bare⟩
    rcases List.length_eq_one_iff.1 one with ⟨line, rfl⟩
    rw [List.intercalate_singleton] at written
    have some : content ≠ [] := by
      intro nothing
      refine (each line List.mem_cons_self).filled ?_
      exact Encoding.Wide.encode_injective .two order (written.symm.trans nothing)
    have read := (Converter.result_wide_eq_ok_iff name order content line).2 written.symm
    refine lineByLine_of_pieces awaits reads each short ?_ input
    rw [pieces_of_isPiece ⟨some, whole, bare⟩]
    exact .cons read .nil

end Awaiting

/-! ## Files under a declared encoding -/

/-- Options that ask for the records of a file, line by line and under a declared encoding. -/
structure Options.AsksForLines (options : Options) (path : Path) (name : String) : Prop where
  decodes : options.listEncodings = false
  subtitles : options.codec = .subt
  declared : Charset.declared? options.encoding = some name
  file : options.files = [path]
  byLine : options.lines = true
  json : options.output = .json
  unkept : options.exportTo = none

/--
A run that gets as far as its packets: its settings are loaded, its journal is set up, and the watch
that it is asked for can be had.
-/
structure Options.Starts (options : Options) (surroundings : Surroundings) : Prop where
  settled :
    ∃ loaded journal,
      (options.load surroundings).1 = .ok loaded ∧
        Journal.setUp { files := surroundings.files } loaded.system none
          surroundings.freshIdentity surroundings.clock = .ok journal
  watches : ∀ watch ∈ options.watch?, surroundings.watcher watch = .ok ()

section Asking

variable {options : Options} {surroundings : Surroundings} {path : Path} {name : String}
variable (asks : options.AsksForLines path name)

include asks

/-- The session of such a run has the converter that is opened for the declared name. -/
theorem Options.AsksForLines.open?_eq
    {catalogue : Encoding.Catalogue}
    {converter : Converter}
    {refusal : Option Charset.Refusal}
    (opened :
      Charset.converter { name, source := .declared, detect := false } catalogue =
        .ok (converter, refusal))
    (settings : DecoderSettings)
    (lookup : Color.Lookup)
    (platform : String) :
    Session.open? settings options.codec options.encoding lookup platform catalogue =
      .ok
        ({ codec := options.codec, settings, converter, lookup },
          refusal.toList.map Notice.refused) := by
  have free : options.codec.isUtf8 = false := by
    rw [asks.subtitles]
    rfl
  rw [Session.open?, free, Charset.choose_of_declared _ _ _ name asks.declared, opened]

/-- Such a run begins, if it starts and something is opened for the declared name. -/
theorem Options.AsksForLines.exists_begun
    (starts : options.Starts surroundings)
    {converter : Converter}
    {refusal : Option Charset.Refusal}
    (opened :
      Charset.converter { name, source := .declared, detect := false } surroundings.catalogue =
        .ok (converter, refusal)) :
    ∃ run : Run,
      prepare options surroundings = run.ready surroundings.watcher ∧
        run.options = options ∧
        run.store.path = options.config ∧
        run.store.watch = none ∧
        run.session.converter = converter := by
  rcases starts.settled with ⟨loaded, journal, loading, up⟩
  rcases loads : options.load surroundings with ⟨result, store⟩
  rw [loads] at loading
  subst loading
  have stored := store_of_load loads
  subst stored
  have normal := isNormal_of_load options surroundings loaded _ loads
  have listing : ¬ options.listEncodings = true := by
    rw [asks.decodes]
    exact Bool.false_ne_true
  rw [prepare, if_neg listing, loads]
  dsimp only
  rw [applyTo_of_isNormal options loaded normal]
  unfold begin Logbook.begin?
  dsimp only
  rw [up]
  dsimp only [Except.map]
  rw [asks.open?_eq opened]
  exact ⟨_, rfl, rfl, rfl, rfl, rfl⟩

/-- Such a run gets ready, if it starts and something is opened for the declared name. -/
theorem Options.AsksForLines.exists_ready
    (starts : options.Starts surroundings)
    {converter : Converter}
    {refusal : Option Charset.Refusal}
    (opened :
      Charset.converter { name, source := .declared, detect := false } surroundings.catalogue =
        .ok (converter, refusal)) :
    ∃ ready,
      prepare options surroundings = .ok ready ∧ ready.session.converter = converter := by
  rcases asks.exists_begun starts opened with ⟨run, begins, rfl, known, free, rfl⟩
  have watches := run.watching_of_watched surroundings.watcher known free
  have unkept (after : Run) (same : after.options = run.options) : after.exporting = (after, none) := by
    rw [Run.exporting, same, asks.unkept]
  rw [begins, Run.ready]
  generalize run.watched surroundings.watcher = outcome at watches ⊢
  cases watches with
  | failed records watch reason asked fails =>
      cases (starts.watches watch asked).symm.trans fails
  | unasked records nothing =>
      dsimp only
      rw [unkept (run.noteAll records) rfl]
      exact ⟨_, rfl, rfl⟩
  | started records watch asked runs =>
      dsimp only
      rw [unkept (Run.noteAll { run with store := _ } records) rfl]
      exact ⟨_, rfl, rfl⟩

/-- Such a run, with a converter that packets leave as it is, is ready to read the file. -/
theorem Options.AsksForLines.exists_awaiting
    (starts : options.Starts surroundings)
    {content : List UInt8}
    (held : surroundings.files.read path = .ok content)
    (apart : ∀ target ∈ options.outputs surroundings, path.place ≠ target.place)
    {converter : Converter}
    {refusal : Option Charset.Refusal}
    (opened :
      Charset.converter { name, source := .declared, detect := false } surroundings.catalogue =
        .ok (converter, refusal))
    (steady : converter.IsSteady) :
    ∃ ready,
      prepare options surroundings = .ok ready ∧
        ready.options = options ∧ ready.Awaits content ∧ ready.ReadsWith converter := by
  rcases asks.exists_ready starts opened with ⟨ready, prepared, converts⟩
  rcases fresh_of_prepare options surroundings ready prepared with ⟨rfl, unread, unshown⟩
  refine ⟨ready, prepared, rfl, ⟨unshown, unread, failures_of_prepare prepared, ?_⟩, ?_⟩
  · intro input
    have found := read_of_prepare prepared apart held
    rw [Run.readAll, asks.file, if_neg (by simp), Run.readFiles, found]
    dsimp only
    rw [asks.byLine, filePackets_eq_pieces]
    rcases ready.packets (pieces content) with ⟨after, none | stop⟩ <;> rfl
  · exact ⟨asks.json, asks.unkept, converts, steady⟩

end Asking

/--
A file that holds lines joined by line feeds is read line by line, under an encoding that is declared.
In UTF-8, and under every encoding of single bytes, it comes out line by line: the run ends with zero,
and puts out one record for each line, in their order.  Under UTF-16 in a fixed byte order it does so
exactly if there is a single line, no byte of which is a line feed, and the last no carriage return.
-/
theorem lines_come_out_unless_wide
    (texts : List String)
    (options : Options)
    (surroundings : Surroundings)
    (path : Path)
    (name : String)
    (content : List UInt8)
    (lines : List (List Char))
    (asked : Options.read texts = .ok options)
    (asks : options.AsksForLines path name)
    (starts : options.Starts surroundings)
    (held : surroundings.files.read path = .ok content)
    (apart : ∀ target ∈ options.outputs surroundings, path.place ≠ target.place)
    (filled : lines ≠ [])
    (each : ∀ line ∈ lines, IsLine line)
    (short :
      Text.isTooLong ((lines.length + 1 : Nat) * max (shownFor options.duration) 1) = false) :
    let joined := ['\n'].intercalate lines
    let report := run texts surroundings
    (Encoding.isUtf8Name name = true ∨ surroundings.catalogue name = .ok Encoding.utf8.scheme →
        content = Encoding.Utf8.encode joined → report.LineByLine lines) ∧
      (∀ (encoding : Encoding) table,
        Encoding.isUtf8Name name = false →
          surroundings.catalogue name = .ok encoding.scheme →
            encoding.table? = some table →
              List.Forall₂ (Encoding.Stands table) content joined → report.LineByLine lines) ∧
      ∀ order,
        Encoding.isUtf8Name name = false →
          surroundings.catalogue name = .ok (Encoding.wide .two (some order)).scheme →
            content = Encoding.Wide.encode .two order joined →
              (report.LineByLine lines ↔
                lines.length = 1 ∧
                  lineFeed ∉ content ∧ content.getLast? ≠ some carriageReturn) := by
  intro joined report
  let charset : Charset := { name, source := .declared, detect := false }
  -- A text that is written character by character comes out through any converter that reads it.
  have comesOut {Writes : List UInt8 → List Char → Prop} {converter : Converter}
      (charwise : Encoding.IsCharwise Writes) (back : converter.Reads Writes)
      (steady : converter.IsSteady) (written : Writes content joined)
      (opened : charset.converter surroundings.catalogue = .ok (converter, none)) :
      report.LineByLine lines := by
    rcases asks.exists_awaiting starts held apart opened steady with
      ⟨ready, prepared, rfl, awaits, reads⟩
    rw [show report = _ from run_eq_conclude asked prepared]
    exact lineByLine_of_charwise awaits reads each short filled charwise back written _
  refine ⟨?_, ?_, ?_⟩
  · intro named written
    have charwise := Encoding.isCharwise_utf8
    rcases charset.converter_of_utf8 surroundings.catalogue named with opened | opened
    · exact comesOut charwise Converter.reads_direct Converter.isSteady_direct written opened
    · have steady := Converter.isSteady_decoding name .utf8 rfl
      exact comesOut charwise (Converter.reads_utf8 name) steady written opened
  · intro encoding table decoded named tabled written
    have charwise := Encoding.isCharwise_table tabled
    rcases Encoding.reader?_of_table? tabled with ⟨reader, read, -⟩
    have steady := Converter.isSteady_decoding name encoding (read ▸ rfl)
    have opened := charset.converter_of_found decoded named
    exact comesOut charwise (Converter.reads_table name tabled) steady written opened
  · intro order decoded named written
    have opened := charset.converter_of_found decoded named
    have steady := Converter.isSteady_decoding name (Encoding.wide .two (some order)) rfl
    rcases asks.exists_awaiting starts held apart opened steady with
      ⟨ready, prepared, rfl, awaits, reads⟩
    rw [show report = _ from run_eq_conclude asked prepared]
    exact lineByLine_wide_iff awaits reads each short filled name order rfl written _

/-- A letter and a Hangul syllable on two lines, in UTF-8. -/
def letterAndSyllable : Surroundings :=
  { files := ⟨[(["a.txt"], .file (Encoding.Utf8.encode ['A', '\n', '한']))]⟩ }

theorem lines_come_out_unless_wide_of_letterAndSyllable :
    letterAndSyllable.files.read (.ofString "a.txt") =
        .ok (Encoding.Utf8.encode ['A', '\n', '한']) ∧
      (run ["--lines", "--encoding", "UTF-8", "a.txt"] letterAndSyllable).LineByLine
        [['A'], ['한']] := by
  let options : Options := { files := [.ofString "a.txt"], encoding := some "UTF-8", lines := true }
  have asks : options.AsksForLines (.ofString "a.txt") "UTF-8" :=
    ⟨rfl, rfl, by decide +kernel, rfl, rfl, rfl, rfl⟩
  have loading : (options.load letterAndSyllable).1 = .ok {} := by
    decide +kernel
  have setUp :
      (Journal.setUp { files := letterAndSyllable.files } {} none "").toOption.isSome = true := by
    decide +kernel
  have starts : options.Starts letterAndSyllable := by
    cases up : Journal.setUp { files := letterAndSyllable.files } {} none "" with
    | error fault =>
        rw [up] at setUp
        cases setUp
    | ok journal => exact ⟨⟨{}, journal, loading, up⟩, nofun⟩
  have each : ∀ line ∈ [['A'], ['한']], IsLine line := by
    intro line member
    rcases List.mem_pair.1 member with rfl | rfl <;> exact ⟨by simp, by simp⟩
  have held :
      letterAndSyllable.files.read (.ofString "a.txt") =
        .ok (Encoding.Utf8.encode ['A', '\n', '한']) := by
    decide +kernel
  have outcome :=
    lines_come_out_unless_wide ["--lines", "--encoding", "UTF-8", "a.txt"] options
      letterAndSyllable (.ofString "a.txt") "UTF-8" _ [['A'], ['한']] (by decide +kernel) asks
      starts held (by decide +kernel) (by decide) each (by decide +kernel)
  exact ⟨held, outcome.1 (.inl (by decide +kernel)) rfl⟩

/-- Two letters on two lines, in UTF-16 with the low byte first. -/
def wideLetters : Surroundings :=
  { files := ⟨[(["a.txt"], .file (Encoding.Wide.encode .two .little ['A', '\n', 'B']))]⟩ }

/-- The second line begins with half a line feed, and is lost. -/
theorem second_wide_line_is_lost :
    let report := run ["--lines", "--encoding", "UTF-16LE", "a.txt"] wideLetters
    report.exit = .ok 1 ∧
      report.shown.map Subtitle.text = ["A"] ∧ ¬ report.LineByLine [['A'], ['B']] := by
  intro report
  have code : report.exit = .ok 1 := by
    decide +kernel
  refine ⟨code, by decide +kernel, fun outcome => ?_⟩
  cases code.symm.trans outcome.exit

end CommandLine

end TimedText
