import TimedText.Proofs.Converter.Utf8
import TimedText.Proofs.Markup.FontTag
import TimedText.Proofs.Session.Mismatch
import TimedText.Proofs.Session.Passage
import TimedText.Proofs.Session.Rejection

/-!
# Malformed markup is read

There is no wrong markup.  Whatever is written, the text is cut into pieces, each piece becomes
marks, and the marks become segments, at least one.  Tags that nothing closes, closings that close
nothing, quotes without an end, names without a value and colours that nobody knows are all read in
some way.

One thing stops the reading: an attribute that asks for a number, with more digits than a number may
have.  A text without such an attribute is legible.  A session shows every legible text that comes
out of its converter, and answers an illegible one with an error.
-/

namespace TimedText

namespace Markup

/-! ## Legible texts -/

/-- An attribute that asks for no number, or for one that does not have too many digits. -/
def Attribute.IsReadable (written : Attribute) : Prop :=
  ∀ field,
    written.field? = some field →
      field.isNumber = true → (leadingDigits written.value).length ≤ Text.digitLimit

/-- A piece in which every attribute can be read. -/
def Piece.IsLegible (piece : Piece) : Prop :=
  ∀ attributes, piece = openFont attributes → ∀ written ∈ attributes, written.IsReadable

/-- A text in whose pieces, up to its first NUL character, every attribute can be read. -/
def IsLegible (text : List Char) : Prop :=
  ∀ piece ∈ Piece.split (untilNul text), piece.IsLegible

section

variable (colors : String → Color)

/-! ## Attributes -/

/-- An attribute with too long a number sets nothing. -/
theorem Attribute.setting?_of_not_isReadable
    (written : Attribute)
    (unreadable : ¬ written.IsReadable) :
    setting? (fun name => some (colors name)) written = .error .numeralTooLong := by
  simp only [IsReadable, not_forall, exists_prop, not_le] at unreadable
  rcases unreadable with ⟨field, named, isNumber, many⟩
  have unread : Text.leadingInteger written.value = none := if_neg (not_le.2 many)
  simp only [setting?]
  rw [FontField.word_of_ofWord? _ field named]
  cases field with
  | face | family => cases isNumber
  | color | outlineColor | shadowColor | backColor => cases isNumber
  | size | outlineLevel | shadowLevel | alpha =>
      simp [FontField.word, nameSetting?, numberSetting?, unread]

theorem Attribute.settings_of_not_isReadable
    (attributes : List Attribute)
    (written : Attribute)
    (member : written ∈ attributes)
    (unreadable : ¬ written.IsReadable) :
    settings (fun name => some (colors name)) attributes = .error .numeralTooLong := by
  -- An attribute before this one may stop the reading already, and then in the same way.
  induction attributes with
  | nil => cases member
  | cons first rest hypothesis =>
      by_cases readable : first.IsReadable
      · rcases exists_setting colors first readable with ⟨one, read⟩
        rcases List.mem_cons.1 member with rfl | later
        · exact (unreadable readable).elim
        · rw [settings, read, hypothesis later]
      · rw [settings, setting?_of_not_isReadable colors first readable]

/-! ## Pieces -/

theorem Piece.exists_marks
    (piece : Piece)
    (legible : piece.IsLegible) :
    ∃ here, piece.marks (fun name => some (colors name)) = .ok here := by
  cases piece with
  | openFont attributes =>
      rcases Attribute.exists_settings colors attributes (legible attributes rfl) with
        ⟨changes, read⟩
      exact ⟨_, by rw [Piece.marks, read]⟩
  | literal | lineBreak | openFlag | close | block => exact ⟨_, rfl⟩

theorem Piece.marks_of_not_isLegible
    (piece : Piece)
    (illegible : ¬ piece.IsLegible) :
    piece.marks (fun name => some (colors name)) = .error .numeralTooLong := by
  simp only [IsLegible, not_forall, exists_prop] at illegible
  rcases illegible with ⟨attributes, rfl, written, member, unreadable⟩
  rw [Piece.marks,
    Attribute.settings_of_not_isReadable colors attributes written member unreadable]

theorem marks_of_not_isLegible
    (pieces : List Piece)
    (piece : Piece)
    (member : piece ∈ pieces)
    (illegible : ¬ piece.IsLegible) :
    marks (fun name => some (colors name)) pieces = .error .numeralTooLong := by
  induction pieces with
  | nil => cases member
  | cons first rest hypothesis =>
      by_cases legible : first.IsLegible
      · rcases first.exists_marks colors legible with ⟨one, read⟩
        rcases List.mem_cons.1 member with rfl | later
        · exact (illegible legible).elim
        · rw [marks, read, hypothesis later]
      · rw [marks, first.marks_of_not_isLegible colors legible]

/-! ## Texts -/

/-- A legible text has segments, one at the least. -/
theorem parse_of_isLegible
    (align : Alignment)
    (text : List Char)
    (legible : IsLegible text) :
    ∃ outcome,
      parse (fun name => some (colors name)) align text = .ok outcome ∧
        outcome.segments ≠ [] := by
  have readable (piece : Piece) (member : piece ∈ Piece.split (untilNul text)) :=
    piece.exists_marks colors (legible piece member)
  rcases exists_marks _ _ readable with ⟨all, read⟩
  exact ⟨⟨segments all, _⟩, by rw [parse, read], segmentsFrom_ne_nil .empty [] all⟩

theorem parse_of_not_isLegible
    (align : Alignment)
    (text : List Char)
    (illegible : ¬ IsLegible text) :
    parse (fun name => some (colors name)) align text = .error .numeralTooLong := by
  simp only [IsLegible, not_forall, exists_prop] at illegible
  rcases illegible with ⟨piece, member, illegible⟩
  rw [parse, marks_of_not_isLegible colors _ piece member illegible]

end

/-! ## A number of zeros -/

/-- A font tag that asks for a size of so many zeros, and one more. -/
def zeroSized (count : Nat) : List Char :=
  ['<', 'f', 'o', 'n', 't', ' '] ++
    (['s', 'i', 'z', 'e', '='] ++ ('0' :: List.replicate count '0' ++ ['>']))

/-- The attribute of this tag. -/
def zeroSize (count : Nat) : Attribute :=
  ⟨['s', 'i', 'z', 'e'], '0' :: List.replicate count '0'⟩

theorem nul_notMem_zeroSized (count : Nat) : '\x00' ∉ zeroSized count := by
  simp [zeroSized, List.mem_replicate]

/-- The zeros are read as one value. -/
theorem scan_zeroSized (count : Nat) :
    Attribute.scan
        (' ' :: (['s', 'i', 'z', 'e', '='] ++ ('0' :: List.replicate count '0' ++ ['>']))) =
      ([zeroSize count], []) := by
  have visible :
      Text.trimStart ('0' :: List.replicate count '0' ++ ['>']) =
        '0' :: List.replicate count '0' ++ ['>'] :=
    Attribute.trimStart_cons _ _ rfl
  have bare :
      Attribute.scanValue ('0' :: List.replicate count '0' ++ ['>']) =
        ('0' :: List.replicate count '0', ['>']) := by
    refine Attribute.scanValue_of_bare '0' _ ['>'] rfl ?_ ?_
    · intro char member
      rw [← List.replicate_succ] at member
      rw [List.eq_of_mem_replicate member]
      rfl
    · intro char head
      cases head
      rfl
  generalize '0' :: List.replicate count '0' ++ ['>'] = text at bare visible ⊢
  have one :
      Attribute.scanOne ('s' :: (['i', 'z', 'e', '='] ++ text)) =
        (some (zeroSize count), ['>']) :=
    Attribute.scanOne_of_written ['s', 'i', 'z', 'e'] [] [] text _ ['>'] (by decide)
      (by simp [Attribute.isNameChar, Text.isBlank]) (by simp) (by simp) visible bare
  have scanned :=
    Attribute.scan_of_scanOne [' '] 's' (['i', 'z', 'e', '='] ++ text)
      (List.forall_mem_singleton.2 rfl) rfl (by decide) _ ['>'] one
  rwa [show Attribute.scan ['>'] = ([], []) from Attribute.scan_of_bracket [] [] (by simp)]
    at scanned

/-- The tag is one piece, with one attribute. -/
theorem split_zeroSized (count : Nat) :
    Piece.split (untilNul (zeroSized count)) = [.openFont [zeroSize count]] := by
  have scanned := scan_zeroSized count
  rw [untilNul_of_notMem _ (nul_notMem_zeroSized count), zeroSized]
  generalize ['s', 'i', 'z', 'e', '='] ++ ('0' :: List.replicate count '0' ++ ['>']) = text
    at scanned ⊢
  have found :
      Piece.fontTag? ('f' :: 'o' :: 'n' :: 't' :: ' ' :: text) =
        some (.openFont [zeroSize count], []) := by
    simp [Piece.fontTag?, Piece.dropWord?, Text.isBlank, scanned]
  have tag :
      Piece.tag? ('f' :: 'o' :: 'n' :: 't' :: ' ' :: text) =
        some (.openFont [zeroSize count], []) := by
    rw [Piece.tag?_of_head 'f' _ (by decide), found]
    rfl
  exact (Piece.split_of_tag? _ [] _ tag).trans (by rw [Piece.split])

theorem leadingDigits_zeros (count : Nat) :
    leadingDigits ('0' :: List.replicate count '0') = List.replicate (count + 1) '0' := by
  have digit : Text.isDigit '0' = true := by decide
  rw [leadingDigits, Attribute.trimStart_cons _ _ rfl]
  show ('0' :: List.replicate count '0').takeWhile Text.isDigit = _
  rw [← List.replicate_succ, List.takeWhile_replicate, if_pos digit]

theorem not_isLegible_zeroSized (count : Nat) (many : Text.digitLimit ≤ count) :
    ¬ IsLegible (zeroSized count) := by
  intro legible
  rw [IsLegible, split_zeroSized] at legible
  have few :=
    legible _ List.mem_cons_self _ rfl _ List.mem_cons_self .size rfl rfl
  rw [zeroSize, leadingDigits_zeros, List.length_replicate] at few
  omega

end Markup

/-! ## Sessions -/

namespace Session

/-- No request changes the colours of a session. -/
theorem lookup_afterAll (session : Session) (requests : List Request) :
    (session.afterAll requests).lookup = session.lookup := by
  refine afterAll_of_call (fun after => after.lookup = session.lookup) ?_ session rfl requests
  intro before request same
  cases request with
  | decode packet => exact (settings_decode before packet).2.trans same
  | configure settings => exact same
  | close => exact same

/-- A legible text that comes out of the converter is shown. -/
theorem result_decode_of_isLegible
    (session : Session)
    (packet : Packet)
    (start : Int)
    (text : List Char)
    (known : session.lookup = Color.byName)
    (proper : packet.IsProper start)
    (read : (session.converter.convert packet.data).result = .ok text)
    (legible : Markup.IsLegible text) :
    ∃ subtitle, (session.decode packet).result = .ok (some subtitle) := by
  rcases Markup.parse_of_isLegible Color.ofName session.settings.defaultAlign text legible with
    ⟨outcome, found, -⟩
  have parsed :
      Markup.parse session.lookup session.settings.defaultAlign text = .ok outcome := by
    rw [known]
    exact found
  rw [decode_of_isProper session packet start proper, convertAndShow]
  simp only [read, present, parsed]
  exact ⟨_, rfl⟩

theorem result_decode_of_not_isLegible
    (session : Session)
    (packet : Packet)
    (start : Int)
    (text : List Char)
    (known : session.lookup = Color.byName)
    (proper : packet.IsProper start)
    (read : (session.converter.convert packet.data).result = .ok text)
    (illegible : ¬ Markup.IsLegible text) :
    (session.decode packet).result = .error .numeralTooLong := by
  have failed :
      Markup.parse session.lookup session.settings.defaultAlign text = .error .numeralTooLong := by
    rw [known]
    exact Markup.parse_of_not_isLegible Color.ofName session.settings.defaultAlign text illegible
  rw [decode_of_isProper session packet start proper, convertAndShow]
  simp only [read, present, failed]

/--
With the built-in colours, every legible text is read, wherever subtitles are placed, and has one
segment at the least; every other text stops the reading with a number that is too long.  So at any
time in a session, a packet whose bytes convert is answered: with nothing if it fails a check, with
a subtitle if its text is legible, and with an error only if the text is not.
-/
theorem legible_texts_are_read
    (settings : DecoderSettings)
    (codec : Codec)
    (declaration : Option String)
    (platform : String)
    (catalogue : Encoding.Catalogue)
    (session : Session)
    (notices : List Notice)
    (opened :
      open? settings codec declaration Color.byName platform catalogue = .ok (session, notices))
    (requests : List Request) :
    (∀ (align : Alignment) (text : List Char),
        (Markup.IsLegible text →
            ∃ outcome,
              Markup.parse Color.byName align text = .ok outcome ∧ outcome.segments ≠ []) ∧
          (¬ Markup.IsLegible text →
            Markup.parse Color.byName align text = .error .numeralTooLong)) ∧
      (∀ (packet : Packet) (text : List Char),
        let before := session.afterAll requests
        (before.converter.convert packet.data).result = .ok text →
          (packet.isProper = false → (before.decode packet).result = .ok none) ∧
            (packet.isProper = true →
              Markup.IsLegible text →
                ∃ subtitle, (before.decode packet).result = .ok (some subtitle)) ∧
            (packet.isProper = true →
              ¬ Markup.IsLegible text →
                (before.decode packet).result = .error .numeralTooLong)) := by
  constructor
  · intro align text
    exact
      ⟨Markup.parse_of_isLegible Color.ofName align text,
        Markup.parse_of_not_isLegible Color.ofName align text⟩
  · intro packet text before read
    have known : before.lookup = Color.byName := by
      rcases open?_eq_ok opened with ⟨converter, refusal, -, rfl⟩
      exact lookup_afterAll _ requests
    refine ⟨?_, ?_, ?_⟩
    · intro improper
      have rejected : (Request.decode packet).isRejected = true := by
        rw [Request.isRejected, improper]
        rfl
      exact Option.some_inj.1 (call_of_isRejected before (.decode packet) rejected).1
    · intro accepted
      rcases packet.isProper_iff.1 accepted with ⟨start, proper⟩
      exact result_decode_of_isLegible before packet start text known proper read
    · intro accepted
      rcases packet.isProper_iff.1 accepted with ⟨start, proper⟩
      exact result_decode_of_not_isLegible before packet start text known proper read

/-- A quote that nothing closes, around a number and a closing of nothing. -/
theorem legible_texts_are_read_behind_open_quote :
    let text :=
      ['<', 'b', '>', '<', 'f', 'o', 'n', 't', ' ', 's', 'i', 'z', 'e', '=', '"', '9', '<', '/',
        'u', '>', '{']
    let session : Session :=
      { codec := .subt, settings := {}, converter := .direct, lookup := Color.byName }
    let packet := packetOf (Encoding.Utf8.encode text)
    open? {} .subt (some "UTF-8") Color.byName "UTF-8" = .ok (session, []) ∧
      Markup.IsLegible text ∧
        (session.converter.convert packet.data).result = .ok text ∧
          ∃ subtitle, (session.decode packet).result = .ok (some subtitle) := by
  intro text session packet
  have opened : open? {} .subt (some "UTF-8") Color.byName "UTF-8" = .ok (session, []) := by
    rfl
  have pieces :
      Markup.Piece.split (Markup.untilNul text) =
        [.openFlag .bold, .openFont [⟨['s', 'i', 'z', 'e'], ['9', '<', '/', 'u']⟩],
          .literal '{'] := by
    cbv
  have legible : Markup.IsLegible text := by
    rw [Markup.IsLegible, pieces, List.forall_mem_cons, List.forall_mem_cons,
      List.forall_mem_singleton]
    refine ⟨by simp [Markup.Piece.IsLegible], ?_, by simp [Markup.Piece.IsLegible]⟩
    intro attributes same written member field named isNumber
    cases same
    rw [List.mem_singleton.1 member]
    decide +kernel
  have read : (session.converter.convert packet.data).result = .ok text := by
    cbv
  have ways :=
    (legible_texts_are_read {} .subt (some "UTF-8") "UTF-8" Encoding.catalogue session [] opened
      []).2 packet text read
  exact ⟨opened, legible, read, ways.2.1 rfl legible⟩

/-- A size of too many zeros stops the reading, and with it the session. -/
theorem stopped_by_zeros
    (session : Session)
    (direct : session.converter = .direct)
    (known : session.lookup = Color.byName)
    (count : Nat)
    (many : Text.digitLimit ≤ count) :
    let packet := packetOf (Encoding.Utf8.encode (Markup.zeroSized count))
    (session.converter.convert packet.data).result = .ok (Markup.zeroSized count) ∧
      (session.decode packet).result = .error .numeralTooLong := by
  intro packet
  have illegible := Markup.not_isLegible_zeroSized count many
  have written : Encoding.Utf8.encode (Markup.zeroSized count) = Converter.untilZero packet.data := by
    show _ = Converter.untilZero (Encoding.Utf8.encode (Markup.zeroSized count))
    rw [Converter.untilZero_encode,
      Markup.untilNul_of_notMem _ (Markup.nul_notMem_zeroSized count)]
  have read :
      (session.converter.convert packet.data).result = .ok (Markup.zeroSized count) := by
    rw [direct]
    exact (Converter.direct_passes Converter.expansionLimit packet.data _ written).1
  have proper : packet.IsProper 1 := packetOf_isProper _ (List.cons_ne_nil _ _)
  exact ⟨read, result_decode_of_not_isLegible session packet 1 _ known proper read illegible⟩

/-- A font tag with a size of 4301 zeros is no markup that is read, in a session or out of it. -/
theorem long_number_stops_session :
    let text := Markup.zeroSized Text.digitLimit
    let session : Session :=
      { codec := .subt, settings := {}, converter := .direct, lookup := Color.byName }
    let packet := packetOf (Encoding.Utf8.encode text)
    Markup.parse Color.byName (Alignment.place .bottom .center) text = .error .numeralTooLong ∧
      open? {} .subt (some "UTF-8") Color.byName "UTF-8" = .ok (session, []) ∧
        (session.converter.convert packet.data).result = .ok text ∧
          (session.decode packet).result = .error .numeralTooLong :=
  ⟨Markup.parse_of_not_isLegible Color.ofName _ _
      (Markup.not_isLegible_zeroSized Text.digitLimit (Nat.le_refl _)),
    rfl, stopped_by_zeros _ rfl rfl Text.digitLimit (Nat.le_refl _)⟩

end Session

end TimedText
