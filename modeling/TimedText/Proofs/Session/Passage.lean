import TimedText.Proofs.Converter.Run
import TimedText.Proofs.Markup.Rendering
import TimedText.Proofs.Session.Exit

/-!
# UTF-8 passes through a session

A session that takes its packets for UTF-8, or still detects it, makes of a text written in UTF-8
what the reading of marked-up text makes of it, and nothing else.  The encoding that was chosen does
not matter, and the converter stays as it was.

Two rules end a packet early, and they have to agree: the converter looks at the bytes before the
first zero byte, unless its encoding is wide, and the markup ends at the first NUL character.  They
do, as no other character has a zero byte in its written form.
-/

namespace TimedText

/-! ## The end of a packet and the end of a text -/

/-- The bytes before the first zero byte are those of the text before its first NUL character. -/
theorem Converter.untilZero_encode (text : List Char) :
    untilZero (Encoding.Utf8.encode text) = Encoding.Utf8.encode (Markup.untilNul text) := by
  induction text with
  | nil => rfl
  | cons first rest hypothesis =>
      rw [Encoding.Utf8.encode, List.flatMap_cons, ← Encoding.Utf8.encode, Markup.untilNul,
        List.takeWhile_cons]
      by_cases nul : first = '\x00'
      · rw [nul]
        rfl
      · have kept : ∀ byte ∈ Encoding.Utf8.encodeChar first, (byte != 0) = true := by
          intro byte member
          rw [bne_iff_ne]
          rintro rfl
          have nonzero : first.toNat ≠ 0 := fun zero => nul (Char.toNat_inj.1 zero)
          have written := Encoding.Utf8.sequence_encodeChar first
          exact Encoding.Utf8.zero_notMem_of_sequence _ _ written nonzero member
        rw [untilZero, List.takeWhile_append_of_pos kept, ← untilZero, hypothesis,
          if_pos (bne_iff_ne.2 nul)]
        rfl

namespace Markup

@[simp]
theorem untilNul_untilNul (text : List Char) : untilNul (untilNul text) = untilNul text := by
  refine untilNul_of_notMem _ fun member => ?_
  simpa using List.mem_takeWhile_imp member

/-- What stands behind the first NUL character is not read. -/
theorem parse_untilNul (lookup : Color.Lookup) (align : Alignment) (text : List Char) :
    parse lookup align (untilNul text) = parse lookup align text := by
  rw [parse, parse, untilNul_untilNul]

/-! ## Texts without markup -/

theorem marks_of_literals (lookup : Color.Lookup) (chars : List Char) :
    marks lookup (chars.map Piece.literal) = .ok (chars.map Mark.visible) := by
  induction chars with
  | nil => rfl
  | cons first rest hypothesis => rw [List.map_cons, marks, hypothesis]; rfl

/-- A text without markup and NUL characters is one segment in the plain style, as it stands. -/
theorem parse_of_plain (lookup : Color.Lookup) (align : Alignment) (content : PlainText) :
    parse lookup align content.chars = .ok ⟨[{ text := String.ofList content.chars }], align⟩ := by
  have whole : untilNul content.chars = content.chars :=
    untilNul_of_notMem _ fun member => (content.plain _ member).2.2 rfl
  have pieces : Piece.split content.chars = content.chars.map Piece.literal := by
    have apart := Piece.split_of_plain content []
    rw [List.append_nil] at apart
    rw [apart, Piece.split, List.append_nil]
  have unplaced : alignment align (content.chars.map Piece.literal) = align := by
    have none : (content.chars.map Piece.literal).findSome? Piece.key? = none := by
      simp [Piece.key?]
    rw [alignment, none]
    rfl
  have realised :
      List.Forall₂ (Realises lookup) (content.chars.map Mark.visible)
        (content.chars.map Moment.shown) := by
    rw [List.forall₂_map_left_iff, List.forall₂_map_right_iff, List.forall₂_same]
    exact fun char _ => .visible
  have joined := segmentsFrom_of_shown lookup content.chars _ realised .empty [] []
  rw [List.append_nil, List.append_nil, segmentsFrom, List.reverse_reverse] at joined
  rw [parse, whole, pieces, marks_of_literals, unplaced]
  dsimp only
  rw [segments, joined]
  rfl

end Markup

/-! ## Converters -/

namespace Converter

/-- A converter that takes a packet for UTF-8 as long as the packet is UTF-8. -/
def TrustsUtf8 (converter : Converter) : Prop :=
  converter.isDirect = true ∨ converter.detecting = true

/-- In convert mode it is detection that makes a converter trust UTF-8. -/
theorem TrustsUtf8.detecting
    {converter : Converter}
    (trusting : converter.TrustsUtf8)
    (scheme : Encoding.Scheme)
    (state : scheme.decoder.State)
    (channel : converter.channel = .decoding scheme state) :
    converter.detecting = true := by
  rcases trusting with direct | detecting
  · rw [isDirect, channel] at direct
    cases direct
  · exact detecting

/--
A text written in UTF-8 passes a converter that trusts UTF-8, in full or up to its first NUL
character, and the converter stays as it was.
-/
theorem convert_encode
    (converter : Converter)
    (unclosed : converter.closed = false)
    (trusting : converter.TrustsUtf8)
    (text : List Char) :
    ∃ taken,
      Markup.untilNul taken = Markup.untilNul text ∧
        converter.convert (Encoding.Utf8.encode text) =
          { result := .ok taken, after := converter } := by
  have relevant :
      ∃ taken,
        Markup.untilNul taken = Markup.untilNul text ∧
          converter.relevant (Encoding.Utf8.encode text) = Encoding.Utf8.encode taken := by
    unfold Converter.relevant
    split
    next => exact ⟨text, rfl, rfl⟩
    next => exact ⟨_, Markup.untilNul_untilNul text, untilZero_encode text⟩
  rcases relevant with ⟨taken, same, written⟩
  refine ⟨taken, same, ?_⟩
  have way := way_convertWithin expansionLimit converter (Encoding.Utf8.encode text)
  rw [convert]
  generalize converter.convertWithin expansionLimit (Encoding.Utf8.encode text) = step at way ⊢
  cases way with
  | closed shut =>
      rw [unclosed] at shut
      cases shut
  | direct opened channel =>
      have read : readDirect (Encoding.Utf8.encode taken) = (taken, none) := by
        rw [readDirect, (Encoding.Utf8.decode?_eq_ok_iff _ taken).2 rfl]
      rw [written, read]
  | passed scheme state passing opened channel detected =>
      rw [trusting.detecting scheme state channel, written, detected?_eq_some_iff] at detected
      rw [Encoding.Utf8.encode_injective detected]
  | decoded scheme state opened channel foreign =>
      rw [trusting.detecting scheme state channel, written, detected?_eq_none_iff] at foreign
      exact (foreign ⟨taken, rfl⟩).elim

end Converter

/-! ## Sessions -/

namespace Session

/-- What comes of a text does not depend on what stands behind its first NUL character. -/
theorem present_congr
    (session : Session)
    (packet : Packet)
    (start : Int)
    (left right : List Char)
    (same : Markup.untilNul left = Markup.untilNul right) :
    session.present packet start left = session.present packet start right := by
  have parsed :
      Markup.parse session.lookup session.settings.defaultAlign left =
        Markup.parse session.lookup session.settings.defaultAlign right := by
    rw [← Markup.parse_untilNul, same, Markup.parse_untilNul]
  rw [present, present, parsed, same]

/-- A text is presented without a look at the converter. -/
theorem converter_present
    (session : Session)
    (packet : Packet)
    (start : Int)
    (text : List Char) :
    (session.present packet start text).after.converter = session.converter := by
  unfold present
  split <;> rfl

/-- A packet that holds a text in UTF-8 is presented as that text. -/
theorem decode_encode
    (session : Session)
    (packet : Packet)
    (start : Int)
    (text : List Char)
    (unclosed : session.converter.closed = false)
    (trusting : session.converter.TrustsUtf8)
    (proper : packet.IsProper start)
    (written : packet.data = Encoding.Utf8.encode text) :
    session.decode packet = session.present packet start text := by
  rcases session.converter.convert_encode unclosed trusting text with ⟨taken, same, passes⟩
  rw [decode_of_isProper session packet start proper, convertAndShow, written, passes]
  exact session.present_congr packet start taken text same

/-- A single plain segment is shown as it is, with styling or without. -/
theorem styled_singleton (settings : DecoderSettings) (align : Alignment) (text : String) :
    styled settings ⟨[{ text }], align⟩ = [{ text }] := by
  have joined : (⟨[{ text }], align⟩ : Markup.Outcome).text = text := by
    simp [Markup.Outcome.text, Segment.joinedText, String.join]
  unfold styled
  split
  next => rfl
  next => rw [joined]

/--
While a session is open and trusts UTF-8, it makes of a packet with a text in UTF-8 what the
reading of marked-up text makes of the text: a subtitle with the place and the segments that were
read, all in one plain segment if styling is off; a dropped packet where memory ran out; or an error
where a number was too long.  The converter stays as it was.  A text without markup comes back as it
stands, in one plain segment.
-/
theorem decode_is_parse
    (session : Session)
    (packet : Packet)
    (start : Int)
    (text : List Char)
    (unclosed : session.converter.closed = false)
    (trusting : session.converter.isDirect = true ∨ session.converter.detecting = true)
    (continuous : packet.discontinuity = false)
    (intact : packet.corrupted = false)
    (timed : packet.start = some start)
    (positive : 0 < start)
    (filled : text ≠ [])
    (written : packet.data = Encoding.Utf8.encode text) :
    let align := Alignment.place .bottom session.settings.align
    let parsed := Markup.parse session.lookup align text
    let step := session.decode packet
    let shown := fun (place : Alignment) (segments : List Segment) =>
      { start, stop := start + packet.length, ephemeral := decide (packet.length = 0),
        align := place, segments : Subtitle }
    (∀ outcome, parsed = .ok outcome →
        step.notices = [] ∧
          step.result =
            .ok
              (some
                (shown outcome.align
                  (if session.settings.formatted then outcome.segments
                  else [{ text := Segment.joinedText outcome.segments }])))) ∧
      (parsed = .error .outOfMemory →
        step.notices = [.unparsed (Markup.untilNul text).length] ∧ step.result = .ok none) ∧
      (parsed = .error .numeralTooLong →
        step.notices = [] ∧ step.result = .error .numeralTooLong) ∧
      step.after.converter = session.converter ∧
      ((∀ char ∈ text, char ≠ '<' ∧ char ≠ '{' ∧ char ≠ '\x00') →
        step.result = .ok (some (shown align [{ text := String.ofList text }]))) := by
  intro align parsed step shown
  have nonempty : packet.data ≠ [] := by
    rw [written]
    exact fun empty => filled (Encoding.Utf8.encode_injective empty)
  have proper : packet.IsProper start := ⟨continuous, intact, timed, positive, nonempty⟩
  have presented : step = session.present packet start text :=
    session.decode_encode packet start text unclosed trusting proper written
  have placed : Markup.parse session.lookup session.settings.defaultAlign text = parsed := rfl
  refine ⟨?_, ?_, ?_, ?_, ?_⟩
  · intro outcome read
    rw [presented, present, placed, read]
    exact ⟨rfl, rfl⟩
  · intro failed
    rw [presented, present, placed, failed]
    exact ⟨rfl, rfl⟩
  · intro failed
    rw [presented, present, placed, failed]
    exact ⟨rfl, rfl⟩
  · rw [presented]
    exact session.converter_present packet start text
  · intro plain
    have read : parsed = .ok _ := Markup.parse_of_plain session.lookup align ⟨text, plain⟩
    rw [presented, present, placed, read]
    dsimp only
    rw [styled_singleton]
    rfl

/-- Under UTF-16 with detection, a bold letter and what stands behind a NUL character. -/
theorem decode_is_parse_under_utf16 :
    ∃ session,
      open? { encoding := "UTF-16LE", align := .left } .subt none Color.byName "UTF-8" =
          .ok (session, []) ∧
        (session.decode
            { data := Encoding.Utf8.encode ['가', '<', 'b', '>', 'c', '\x00', 'd'],
              start := some 1000000 }).result =
          .ok
            (some
              { start := 1000000, stop := 1000000, ephemeral := true,
                align := .place .bottom .left,
                segments := [{ text := "가" }, { text := "c", style := { flags := 1 } }] }) := by
  let session : Session :=
    { codec := .subt, settings := { encoding := "UTF-16LE", align := .left },
      converter := .decoding "UTF-16LE" (Encoding.wide .two (some .little)) true, lookup := Color.byName }
  refine ⟨session, rfl, ?_⟩
  rcases
    decode_is_parse session
      { data := Encoding.Utf8.encode ['가', '<', 'b', '>', 'c', '\x00', 'd'],
        start := some 1000000 }
      1000000 ['가', '<', 'b', '>', 'c', '\x00', 'd'] rfl (.inr rfl) rfl rfl rfl (by decide)
      (by simp) rfl with
    ⟨shows, -⟩
  refine (shows ⟨[{ text := "가" }, { text := "c", style := { flags := 1 } }], _⟩ ?_).2
  cbv

end Session

end TimedText
