import TimedText.Proofs.Markup.FontTag

/-!
# Well-nested markup is read back

Written well-nested markup is split into just the tags that were written and the characters of the
texts between them, whatever follows it.  In particular nothing inside a quoted value is taken for
markup.  Reading then shows the stretches that the walk finds: the stack of styles holds the nodes
that are open, and what was open before a node is open again after it.
-/

namespace TimedText.Markup

/-! ## The pieces of a forest -/

/-- What a known attribute is read as. -/
def QuotedAttribute.written (quoted : QuotedAttribute) : Attribute :=
  ⟨quoted.name.letters, quoted.value⟩

theorem QuotedAttribute.field?_written (quoted : QuotedAttribute) :
    quoted.written.field? = some quoted.field := by
  rw [Attribute.field?, written, quoted.name.spelled, String.ofList_toList]
  cases quoted.field <;> rfl

/-- A known attribute is written with one space in front of it and none inside. -/
def QuotedAttribute.shape (quoted : QuotedAttribute) : WrittenAttribute where
  before := ⟨[' '], List.forall_mem_singleton.2 rfl⟩
  parted := List.cons_ne_nil ' ' []
  name := quoted.name.letters
  filled := quoted.name.ne_nil (by cases quoted.field <;> decide)
  named := by
    intro char member
    have inside := quoted.isNameChar_name char member
    simp only [Attribute.isNameChar, Bool.not_eq_true', Bool.or_eq_false_iff, beq_eq_false_iff_ne]
      at inside
    refine ⟨inside.1.1, inside.1.2, inside.2, ?_⟩
    rintro rfl
    exact quoted.nul_notMem_name member
  left := ⟨[], List.forall_mem_nil _⟩
  right := ⟨[], List.forall_mem_nil _⟩
  value := .quoted quoted.quote quoted.quotes quoted.value quoted.unquoted quoted.unterminated
  readable := by
    intro field named
    cases quoted.field?_written.symm.trans named
    exact quoted.readable

theorem QuotedAttribute.written_shape (quoted : QuotedAttribute) :
    quoted.shape.written = quoted.written :=
  rfl

theorem QuotedAttribute.render_shape (quoted : QuotedAttribute) :
    quoted.shape.render = quoted.render :=
  rfl

/-- What an opening tag opens. -/
def OpeningTag.opening : OpeningTag → Opening
  | flag switch _ => .flag switch
  | font _ first others => .font ((first :: others).map QuotedAttribute.written)

def OpeningTag.piece : OpeningTag → Piece
  | flag switch _ => .openFlag switch
  | font _ first others => .openFont ((first :: others).map QuotedAttribute.written)

/-- The pieces that well-nested markup was written with. -/
def Forest.pieces : Forest → List Piece
  | nil => []
  | text content rest => content.chars.map .literal ++ rest.pieces
  | lineBreak _ rest => .lineBreak :: rest.pieces
  | node opening inner _ rest => opening.piece :: (inner.pieces ++ .close :: rest.pieces)

namespace Piece

theorem split_of_literal (char : Char) (rest : List Char) (tag : char ≠ '<') (block : char ≠ '{') :
    split (char :: rest) = literal char :: split rest := by
  rw [split, next, if_neg tag, if_neg block]

theorem split_of_plain (content : PlainText) (rest : List Char) :
    split (content.chars ++ rest) = content.chars.map literal ++ split rest := by
  rcases content with ⟨chars, plain⟩
  induction chars with
  | nil => rfl
  | cons first others hypothesis =>
      rcases List.forall_mem_cons.1 plain with ⟨⟨tag, block, -⟩, plainOthers⟩
      rw [List.cons_append, split_of_literal first _ tag block, hypothesis plainOthers]
      rfl

theorem split_of_lineBreak (name : Spelling ['b', 'r', '/']) (rest : List Char) :
    split ('<' :: (name.letters ++ '>' :: rest)) = lineBreak :: split rest := by
  have folded : (name.letters ++ ['>']).map Char.toLower = ['b', 'r', '/', '>'] := by
    rw [List.map_append, name.folded (by decide)]
    rfl
  have dropped := dropWord?_of_spelled _ (name.letters ++ ['>']) rest folded
  rw [List.append_assoc, List.singleton_append] at dropped
  refine split_of_tag? _ rest lineBreak ?_
  simp [tag?, breakTag?, dropped]

theorem split_of_flag (switch : StyleFlag) (name : Spelling [tagLetter switch]) (rest : List Char) :
    split ('<' :: (name.letters ++ '>' :: rest)) = openFlag switch :: split rest := by
  have folded := name.folded (by cases switch <;> decide)
  rcases List.map_eq_singleton_iff.1 folded with ⟨letter, spelled, small⟩
  refine split_of_tag? _ rest (openFlag switch) ?_
  rw [spelled, List.singleton_append]
  cases switch <;>
    simp [tag?, breakTag?, flagTag?, flagTags, dropWord?, tagLetter, small] at small ⊢

theorem split_of_font
    (name : Spelling ['f', 'o', 'n', 't'])
    (first : QuotedAttribute)
    (others : List QuotedAttribute)
    (rest : List Char) :
    split
        ('<' ::
          (name.letters ++ ((first :: others).flatMap QuotedAttribute.render ++ '>' :: rest))) =
      openFont ((first :: others).map QuotedAttribute.written) :: split rest := by
  have one :=
    split_of_fontTag
      { name, first := first.shape, others := others.map QuotedAttribute.shape,
        after := ⟨[], List.forall_mem_nil _⟩ }
      rest
  simpa [FontTag.render, FontTag.attributes, List.flatMap_map, Function.comp_def,
    QuotedAttribute.render_shape, QuotedAttribute.written_shape] using one

theorem split_of_closing (closing : ClosingTag) (rest : List Char) :
    split ('<' :: '/' :: (closing.name ++ '>' :: rest)) = close :: split rest := by
  have folded := (lower_mem_closableNames_iff closing.name).1 closing.closable
  have first : '>' ∉ closing.name := by
    have names : ∀ word ∈ closableNames, '>' ∉ word := by
      decide
    intro member
    exact names _ closing.closable (Text.mem_lower_of_mem closing.name '>' rfl member)
  have divided := Attribute.splitAtFirst?_append '>' closing.name rest first
  refine split_of_tag? _ rest close ?_
  rw [tag?_of_head '/' _ (by decide)]
  simp [fontTag?, dropWord?, closeTag?, divided, folded]

end Piece

/-- What is written down is split into its tags and characters, whatever follows it. -/
theorem Forest.split_render (forest : Forest) (rest : List Char) :
    Piece.split (forest.render ++ rest) = forest.pieces ++ Piece.split rest := by
  induction forest generalizing rest with
  | nil => rfl
  | text content others hypothesis =>
      rw [render, pieces, List.append_assoc, Piece.split_of_plain, hypothesis, List.append_assoc]
  | lineBreak name others hypothesis =>
      rw [render, pieces, List.cons_append, List.append_assoc, List.cons_append,
        Piece.split_of_lineBreak, hypothesis, List.cons_append]
  | node opening inner closing others innerHypothesis hypothesis =>
      have opens (text : List Char) :
          Piece.split (opening.render ++ text) = opening.piece :: Piece.split text := by
        cases opening with
        | flag switch name =>
            rw [OpeningTag.render, List.cons_append, List.append_assoc, List.singleton_append]
            exact Piece.split_of_flag switch name text
        | font name first more =>
            rw [OpeningTag.render, List.cons_append, List.append_assoc, List.append_assoc,
              List.singleton_append]
            exact Piece.split_of_font name first more text
      have closes (text : List Char) :
          Piece.split (closing.render ++ text) = .close :: Piece.split text := by
        rw [ClosingTag.render, List.cons_append, List.cons_append, List.append_assoc,
          List.singleton_append]
        exact Piece.split_of_closing closing text
      simp only [render, pieces, List.append_assoc, List.cons_append, opens, closes,
        innerHypothesis, hypothesis]

/-! ## What the pieces do -/

theorem timeline_cons (piece : Piece) (rest : List Piece) :
    timeline (piece :: rest) = piece.moments ++ timeline rest :=
  List.flatMap_cons

theorem timeline_append (left right : List Piece) :
    timeline (left ++ right) = timeline left ++ timeline right :=
  List.flatMap_append

theorem timeline_literals (chars : List Char) :
    timeline (chars.map Piece.literal) = chars.map Moment.shown := by
  induction chars with
  | nil => rfl
  | cons first rest hypothesis =>
      rw [List.map_cons, timeline_cons, hypothesis]
      rfl

theorem OpeningTag.moments_piece (opening : OpeningTag) :
    opening.piece.moments = [.event (.opening opening.opening)] := by
  cases opening <;> rfl

theorem OpeningTag.applyTo?_opening (lookup : Color.Lookup) (style : Style) (tag : OpeningTag) :
    tag.opening.applyTo? lookup style = tag.applyTo? lookup style := by
  cases tag with
  | flag switch name => rfl
  | font name first others =>
      have one (quoted : QuotedAttribute) (before : Style) :
          quoted.written.applyTo? lookup before = quoted.applyTo? lookup before := by
        rw [Attribute.applyTo?, quoted.field?_written]
        rfl
      simp only [opening, Opening.applyTo?, applyTo?, List.foldlM_map, one]

theorem styleInside?_opening (lookup : Color.Lookup) (stretch : Stretch) :
    styleInside? lookup (stretch.enclosing.map OpeningTag.opening) = stretch.style? lookup := by
  simp only [styleInside?, Stretch.style?, List.foldlM_map, OpeningTag.applyTo?_opening]

/-! ## Everything can be read -/

section

variable (colors : String → Color)

/-- What known attributes set can be read if every colour has a value. -/
theorem exists_settings (attributes : List QuotedAttribute) :
    ∃ settings,
      Attribute.settings (fun name => some (colors name))
          (attributes.map QuotedAttribute.written) =
        .ok settings := by
  refine Attribute.exists_settings colors _ ?_
  intro written member
  rcases List.mem_map.1 member with ⟨quoted, -, rfl⟩
  exact quoted.shape.readable

/-- The pieces of well-nested markup have marks, and none of them places the subtitle. -/
theorem Forest.marks_of_mem_pieces (forest : Forest) :
    ∀ piece ∈ forest.pieces,
      piece.key? = none ∧ ∃ marks, piece.marks (fun name => some (colors name)) = .ok marks := by
  induction forest with
  | nil => simp [pieces]
  | text content rest hypothesis =>
      rw [pieces, List.forall_mem_append, List.forall_mem_map]
      exact ⟨fun char _ => ⟨rfl, _, rfl⟩, hypothesis⟩
  | lineBreak name rest hypothesis =>
      rw [pieces, List.forall_mem_cons]
      exact ⟨⟨rfl, _, rfl⟩, hypothesis⟩
  | node opening inner closing rest innerHypothesis hypothesis =>
      rw [pieces, List.forall_mem_cons, List.forall_mem_append, List.forall_mem_cons]
      refine ⟨?_, innerHypothesis, ⟨rfl, _, rfl⟩, hypothesis⟩
      cases opening with
      | flag switch name => exact ⟨rfl, _, rfl⟩
      | font name first others =>
          rcases exists_settings colors (first :: others) with ⟨settings, read⟩
          exact ⟨rfl, _, by rw [OpeningTag.piece, Piece.marks, read]⟩

theorem exists_marks
    (pieces : List Piece)
    (each : ∀ piece ∈ pieces, ∃ marks, piece.marks (fun name => some (colors name)) = .ok marks) :
    ∃ written, marks (fun name => some (colors name)) pieces = .ok written := by
  induction pieces with
  | nil => exact ⟨[], rfl⟩
  | cons first rest hypothesis =>
      rcases List.forall_mem_cons.1 each with ⟨⟨here, firstRead⟩, restEach⟩
      rcases hypothesis restEach with ⟨others, restRead⟩
      exact ⟨here ++ others, by rw [marks, firstRead, restRead]⟩

end

/-! ## Segments and stretches -/

/-- A segment shows the text of a stretch in its style. -/
structure Shows (lookup : Color.Lookup) (segment : Segment) (stretch : Stretch) : Prop where
  text_eq : segment.text.toList = stretch.text
  style_eq : stretch.style? lookup = some segment.style

theorem exists_append_of_realises
    (lookup : Color.Lookup)
    (marks : List Mark)
    (first second : List Moment)
    (realised : List.Forall₂ (Realises lookup) marks (first ++ second)) :
    ∃ left right,
      marks = left ++ right ∧
        List.Forall₂ (Realises lookup) left first ∧ List.Forall₂ (Realises lookup) right second :=
  ⟨marks.take first.length, marks.drop first.length, (List.take_append_drop _ _).symm,
    List.forall₂_take_append marks first second realised,
    List.forall₂_drop_append marks first second realised⟩

/-- Characters that are shown join the segment that is being written. -/
theorem segmentsFrom_of_shown
    (lookup : Color.Lookup)
    (chars : List Char)
    (marks : List Mark)
    (realised : List.Forall₂ (Realises lookup) marks (chars.map Moment.shown))
    (stack : Style.Stack)
    (written : List Char)
    (later : List Mark) :
    segmentsFrom stack written (marks ++ later) =
      segmentsFrom stack (chars.reverse ++ written) later := by
  induction chars generalizing marks written with
  | nil =>
      rw [List.map_nil, List.forall₂_nil_right_iff] at realised
      rw [realised]
      rfl
  | cons first rest hypothesis =>
      rw [List.map_cons, List.forall₂_cons_right_iff] at realised
      rcases realised with ⟨mark, others, one, restRealised, rfl⟩
      cases one
      rw [List.cons_append, segmentsFrom, hypothesis others restRealised]
      simp

theorem shows_current
    (lookup : Color.Lookup)
    (enclosing : List OpeningTag)
    (stack : Style.Stack)
    (holds : Holds lookup (enclosing.map OpeningTag.opening) stack)
    (text : List Char) :
    Shows lookup ⟨String.ofList text, stack.current⟩ { text, enclosing } := by
  refine ⟨String.toList_ofList, ?_⟩
  rw [← styleInside?_opening]
  exact holds.current_eq

/--
Marks read as stretches on a stack: whatever was written before them, they finish all stretches but
the last, which goes on with what comes later, and they leave the stack as it was.
-/
def Reads
    (lookup : Color.Lookup)
    (stack : Style.Stack)
    (marks : List Mark)
    (stretches : List Stretch) :
    Prop :=
  ∀ (written : List Char) (later : List Mark),
    ∃ segments text,
      segmentsFrom stack written (marks ++ later) =
          segments ++ segmentsFrom stack text.reverse later ∧
        List.Forall₂ (Shows lookup) (segments ++ [⟨String.ofList text, stack.current⟩])
          (prepend written.reverse stretches)

theorem reads_nil
    (lookup : Color.Lookup)
    (enclosing : List OpeningTag)
    (stack : Style.Stack)
    (holds : Holds lookup (enclosing.map OpeningTag.opening) stack) :
    Reads lookup stack [] [{ text := [], enclosing }] := by
  intro written later
  refine ⟨[], written.reverse, by simp, ?_⟩
  have shows := shows_current lookup enclosing stack holds written.reverse
  simpa [prepend] using shows

theorem Reads.shown
    {lookup : Color.Lookup}
    {stack : Style.Stack}
    {others : List Mark}
    {stretches : List Stretch}
    (reads : Reads lookup stack others stretches)
    (chars : List Char)
    (marks : List Mark)
    (realised : List.Forall₂ (Realises lookup) marks (chars.map Moment.shown)) :
    Reads lookup stack (marks ++ others) (prepend chars stretches) := by
  intro written later
  rcases reads (chars.reverse ++ written) later with ⟨segments, text, parts, shows⟩
  refine ⟨segments, text, ?_, ?_⟩
  · rw [List.append_assoc, segmentsFrom_of_shown lookup chars marks realised, parts]
  · simpa using shows

/-- An opening and a closing finish the stretch before them and the last one between them. -/
theorem Reads.node
    {lookup : Color.Lookup}
    {stack : Style.Stack}
    {change : Style.Change}
    {inner rest : List Mark}
    {innerStretches restStretches : List Stretch}
    (innerReads : Reads lookup (stack.push change) inner innerStretches)
    (restReads : Reads lookup stack rest restStretches)
    (enclosing : List OpeningTag)
    (holds : Holds lookup (enclosing.map OpeningTag.opening) stack) :
    Reads lookup stack (.opening change :: (inner ++ .closing :: rest))
      ({ text := [], enclosing } :: (innerStretches ++ restStretches)) := by
  intro written later
  rcases innerReads [] (.closing :: (rest ++ later)) with ⟨left, last, innerParts, innerShows⟩
  rcases restReads [] later with ⟨right, text, restParts, restShows⟩
  rw [List.reverse_nil, prepend_nil] at innerShows restShows
  have before := shows_current lookup enclosing stack holds written.reverse
  refine
    ⟨⟨String.ofList written.reverse, stack.current⟩ ::
        (left ++ ⟨String.ofList last, (stack.push change).current⟩ :: right), text, ?_, ?_⟩
  · simp only [List.cons_append, List.append_assoc, segmentsFrom, innerParts,
      Style.Stack.pop_push, restParts, List.reverse_reverse]
  · have shows := List.Forall₂.cons before (List.rel_append innerShows restShows)
    simpa [prepend] using shows

/-- Well-nested markup reads as its stretches, on a stack that holds the tags around it. -/
theorem reads_forest
    (lookup : Color.Lookup)
    (forest : Forest)
    (marks : List Mark)
    (realised : List.Forall₂ (Realises lookup) marks (timeline forest.pieces))
    (enclosing : List OpeningTag)
    (stack : Style.Stack)
    (holds : Holds lookup (enclosing.map OpeningTag.opening) stack) :
    Reads lookup stack marks (forest.stretches enclosing) := by
  -- Inside a node the stack holds one tag more, so the induction is over all stacks.
  induction forest generalizing marks enclosing stack with
  | nil =>
      cases realised
      exact reads_nil lookup enclosing stack holds
  | text content rest hypothesis =>
      rw [Forest.pieces, timeline_append, timeline_literals] at realised
      rcases exists_append_of_realises lookup marks _ _ realised with
        ⟨left, right, rfl, shown, restRealised⟩
      exact (hypothesis right restRealised enclosing stack holds).shown content.chars left shown
  | lineBreak name rest hypothesis =>
      rw [Forest.pieces, timeline_cons] at realised
      rcases exists_append_of_realises lookup marks _ _ realised with
        ⟨left, right, rfl, shown, restRealised⟩
      exact (hypothesis right restRealised enclosing stack holds).shown ['\n'] left shown
  | node opening inner closing rest innerHypothesis hypothesis =>
      rw [Forest.pieces, timeline_cons, timeline_append, timeline_cons, opening.moments_piece,
        List.singleton_append, List.forall₂_cons_right_iff] at realised
      rcases realised with ⟨first, others, opened, othersRealised, rfl⟩
      rcases exists_append_of_realises lookup others _ _ othersRealised with
        ⟨left, right, rfl, innerRealised, closed⟩
      rcases List.forall₂_cons_right_iff.1 closed with ⟨last, later, closes, restRealised, rfl⟩
      cases closes
      cases opened with
      | @opening change range same =>
          have inside := holds.push opening.opening change same
          rw [← List.map_singleton, ← List.map_append] at inside
          exact
            (innerHypothesis left innerRealised _ _ inside).node
              (hypothesis later restRealised enclosing stack holds) enclosing holds

/-! ## Reading what was written -/

/--
Written well-nested markup is read as the segments that the walk finds: one for each stretch, in
order, with its text and with the plain style changed by the tags around it from the outside in.
The place is the given one, and the last segment is in the plain style.
-/
theorem parse_render
    (colors : String → Color)
    (align : Alignment)
    (forest : Forest) :
    ∃ outcome,
      parse (fun name => some (colors name)) align forest.render = .ok outcome ∧
        outcome.align = align ∧
        List.Forall₂ (Shows fun name => some (colors name)) outcome.segments
          (forest.stretches []) ∧
        outcome.segments.getLast?.map (·.style) = some Style.plain := by
  let lookup : Color.Lookup := fun name => some (colors name)
  have whole := untilNul_of_notMem forest.render forest.nul_notMem_render
  have pieces : Piece.split (untilNul forest.render) = forest.pieces := by
    have split := forest.split_render []
    rwa [List.append_nil, Piece.split, List.append_nil, ← whole] at split
  have each := forest.marks_of_mem_pieces colors
  rcases exists_marks colors forest.pieces fun piece member => (each piece member).2 with
    ⟨written, read⟩
  have realised := marks_realise lookup forest.pieces written read
  have unplaced : forest.pieces.findSome? Piece.key? = none :=
    List.findSome?_eq_none_iff.2 fun piece member => (each piece member).1
  rcases reads_forest lookup forest written realised [] .empty .empty [] [] with
    ⟨finished, text, parts, shows⟩
  have shown : segments written = finished ++ [⟨String.ofList text, Style.plain⟩] := by
    rw [List.append_nil] at parts
    rw [segments, parts, segmentsFrom, List.reverse_reverse]
    rfl
  refine ⟨⟨segments written, align⟩, ?_, rfl, ?_, ?_⟩
  · show parse lookup align forest.render = _
    rw [parse, pieces, read, alignment, unplaced]
    rfl
  · rw [shown]
    rwa [List.reverse_nil, prepend_nil] at shows
  · rw [shown, List.getLast?_concat]
    rfl

/-- A value with brackets in it, and nodes that are closed by other names. -/
example :
    let face : QuotedAttribute :=
      { field := .face, name := ⟨"Face".toList, rfl⟩, quote := '\'', quotes := rfl,
        value := "<i>".toList, unquoted := by decide, unterminated := by decide,
        readable := fun impossible => by cases impossible }
    let forest : Forest :=
      .node (.font ⟨"font".toList, rfl⟩ face [])
        (.node (.flag .bold ⟨"B".toList, rfl⟩) (.text ⟨"x".toList, by simp⟩ .nil)
          ⟨"I".toList, by decide⟩ .nil)
        ⟨"s".toList, by decide⟩ (.lineBreak ⟨"br/".toList, rfl⟩ .nil)
    forest.render = "<font Face='<i>'><B>x</I></s><br/>".toList ∧
      (forest.stretches []).map (fun stretch => (stretch.text, stretch.style? Color.byName)) =
        [ ([], some {}), ([], some { fontName := "<i>" }),
          (['x'], some { fontName := "<i>", flags := 1 }), ([], some { fontName := "<i>" }),
          (['\n'], some {}) ] :=
  ⟨rfl, rfl⟩

end TimedText.Markup
