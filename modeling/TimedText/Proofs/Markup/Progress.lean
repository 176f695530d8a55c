import TimedText.Proofs.Markup.Lexeme

/-!
# Reading gets on

Text is read by loops that keep a position in it.  One goes over the pieces of a text and makes
segments of them, and one goes over the attributes of a font tag.  Each goes round as long as its
position stands inside the text, and a round either leaves the loop or goes on from another
position.

A loop in which every round goes forward ends after at most as many rounds as there are characters
left.  Both loops are of this kind.  The main statement is that they end with what reading the text
yields, that every piece ends behind the position where it starts, and that no position lies beyond
the end of the text.
-/

namespace TimedText.Markup

/-! ## Loops over positions -/

/--
A loop that goes round while its position stands inside a text of the given size.  A round leaves
the loop with a result or yields the next state; outside the text the loop gives its answer.
-/
structure Loop (State Result : Type) where
  size : Nat
  position : State → Nat
  round : (state : State) → position state < size → Result ⊕ State
  answer : State → Result

namespace Loop

variable {State Result : Type} {loop : Loop State Result}

/-- A loop that is begun in a state ends with a result after a number of rounds. -/
inductive Ends (loop : Loop State Result) : State → Nat → Result → Prop where
  | outside
      (behind : loop.size ≤ loop.position state) :
      loop.Ends state 0 (loop.answer state)
  | leaves
      (inside : loop.position state < loop.size)
      (left : loop.round state inside = .inl result) :
      loop.Ends state 1 result
  | goesOn
      (inside : loop.position state < loop.size)
      (went : loop.round state inside = .inr next)
      (later : loop.Ends next rounds result) :
      loop.Ends state (rounds + 1) result

theorem Ends.unique
    {state : State}
    {rounds others : Nat}
    {result other : Result}
    (ends : loop.Ends state rounds result)
    (otherEnds : loop.Ends state others other) :
    rounds = others ∧ result = other := by
  induction ends generalizing others with
  | outside behind =>
      cases otherEnds with
      | outside => exact ⟨rfl, rfl⟩
      | leaves inside => exact absurd behind (Nat.not_le_of_lt inside)
      | goesOn inside => exact absurd behind (Nat.not_le_of_lt inside)
  | leaves inside left =>
      cases otherEnds with
      | outside behind => exact absurd behind (Nat.not_le_of_lt inside)
      | leaves _ otherLeft =>
          rw [left] at otherLeft
          cases otherLeft
          exact ⟨rfl, rfl⟩
      | goesOn _ went =>
          rw [left] at went
          cases went
  | goesOn inside went later hypothesis =>
      cases otherEnds with
      | outside behind => exact absurd behind (Nat.not_le_of_lt inside)
      | leaves _ left =>
          rw [went] at left
          cases left
      | goesOn _ otherWent otherLater =>
          rw [went] at otherWent
          cases otherWent
          rcases hypothesis otherLater with ⟨rfl, rfl⟩
          exact ⟨rfl, rfl⟩

/--
A loop computes a function of its states if it answers the function's value or leaves with it, and a
round that goes on goes forward to a state with the same value.
-/
structure Computes (loop : Loop State Result) (value : State → Result) : Prop where
  outside : ∀ state, loop.size ≤ loop.position state → loop.answer state = value state
  inside :
    ∀ (state : State) (inside : loop.position state < loop.size),
      loop.round state inside = .inl (value state) ∨
        ∃ next,
          loop.round state inside = .inr next ∧
            loop.position state < loop.position next ∧ value next = value state

theorem Computes.exists_ends
    {value : State → Result}
    (computes : loop.Computes value)
    (state : State) :
    ∃ rounds ≤ loop.size - loop.position state, loop.Ends state rounds (value state) := by
  -- The number of characters left falls with every round that goes on.
  induction left : loop.size - loop.position state using Nat.strongRecOn generalizing state with
  | ind count hypothesis =>
      by_cases inside : loop.position state < loop.size
      · rcases computes.inside state inside with leaves | ⟨next, went, further, same⟩
        · exact ⟨1, by omega, .leaves inside leaves⟩
        · rcases hypothesis (loop.size - loop.position next) (by omega) next rfl with
            ⟨rounds, few, ends⟩
          exact ⟨rounds + 1, by omega, .goesOn inside went (same ▸ ends)⟩
      · have behind := Nat.le_of_not_lt inside
        exact ⟨0, Nat.zero_le _, computes.outside state behind ▸ .outside behind⟩

/-- A loop that computes a function ends in one way, with the function's value. -/
theorem Computes.ends_iff
    {value : State → Result}
    (computes : loop.Computes value)
    (state : State) :
    ∃ rounds ≤ loop.size - loop.position state,
      ∀ count result, loop.Ends state count result ↔ count = rounds ∧ result = value state := by
  rcases computes.exists_ends state with ⟨rounds, few, ends⟩
  refine ⟨rounds, few, ?_⟩
  intro count result
  constructor
  · intro otherEnds
    exact otherEnds.unique ends
  · rintro ⟨rfl, rfl⟩
    exact ends

end Loop

/-! ## Positions -/

/-- The position in a text at which what is left of it starts. -/
def positionOf (text left : List Char) : Nat :=
  text.length - left.length

/-- What is left of a text behind a position starts there or later, and inside the text. -/
theorem positionOf_bounds
    {text left : List Char}
    {position : Nat}
    (inside : position ≤ text.length)
    (suffix : left <:+ text.drop position) :
    position ≤ positionOf text left ∧ positionOf text left ≤ text.length ∧
      text.drop (positionOf text left) = left := by
  have shorter := suffix.length_le
  rw [List.length_drop] at shorter
  have whole := List.suffix_iff_eq_drop.1 (suffix.trans (List.drop_suffix position text))
  refine ⟨?_, Nat.sub_le _ _, whole.symm⟩
  unfold positionOf
  omega

/-- What a reader makes of a text from a position on, and the position where it leaves off. -/
def readAt
    {Content : Type}
    (reader : List Char → Content × List Char)
    (text : List Char)
    (position : Nat) :
    Content × Nat :=
  let read := reader (text.drop position)
  (read.1, positionOf text read.2)

/-! ## Attributes -/

namespace Attribute

/-- The loop over the attributes of a font tag, with the attributes found so far. -/
def loop (text : List Char) : Loop (List Attribute × Nat) (List Attribute × Nat) where
  size := text.length
  position := Prod.snd
  round state _ :=
    match Text.trimStart (text.drop state.2) with
    | [] => .inl (state.1, text.length)
    | first :: rest =>
        if first = '>' then
          .inl (state.1, positionOf text rest)
        else
          let one := scanOne (first :: rest)
          .inr (state.1 ++ one.1.toList, positionOf text one.2)
  answer state := (state.1, text.length)

/-- One round of the scan, told by what stands behind white space. -/
theorem scan_eq (text : List Char) :
    scan text =
      match Text.trimStart text with
      | [] => ([], [])
      | first :: rest =>
          if first = '>' then
            ([], rest)
          else
            let one := scanOne (first :: rest)
            (one.1.toList ++ (scan one.2).1, (scan one.2).2) := by
  rw [scan]
  split
  next equal => rw [equal]
  next first rest equal => simp only [equal, dite_eq_ite]

/-- The loop adds to the attributes found before those that the scan finds from its position on. -/
theorem loop_computes (text : List Char) :
    (loop text).Computes fun state =>
      (state.1 ++ (readAt scan text state.2).1, (readAt scan text state.2).2) where
  outside state behind := by
    have empty : text.drop state.2 = [] := List.drop_eq_nil_of_le behind
    simp [loop, readAt, empty, scan_eq [], Text.trimStart, positionOf]
  inside state inside := by
    have found := scan_eq (text.drop state.2)
    have trimmed := trimStart_suffix (text.drop state.2)
    cases equal : Text.trimStart (text.drop state.2) with
    | nil =>
        rw [equal] at found
        left
        simp [loop, equal, readAt, found, positionOf]
    | cons first rest =>
        rw [equal] at trimmed
        by_cases bracket : first = '>'
        · simp only [equal, if_pos bracket] at found
          left
          simp [loop, equal, bracket, readAt, found]
        · right
          have visible := Text.head_trimStart _ first rest equal
          have shorter := length_scanOne_lt first rest visible bracket
          have suffix := (scanOne_suffix (first :: rest)).trans trimmed
          have bound := trimmed.length_le
          rw [List.length_drop] at bound
          rcases read : scanOne (first :: rest) with ⟨one, left⟩
          simp only [read] at shorter suffix
          simp only [equal, if_neg bracket, read] at found
          have whole := (positionOf_bounds (Nat.le_of_lt inside) suffix).2.2
          refine ⟨(state.1 ++ one.toList, positionOf text left), ?_, ?_, ?_⟩
          · simp only [loop, equal, if_neg bracket, read]
          · show state.2 < positionOf text left
            unfold positionOf
            omega
          · simp only [readAt, whole, found, List.append_assoc]

/-- A scan of attributes leaves off at the end of the text or right behind a closing bracket. -/
theorem readAt_scan_bounds
    (text : List Char)
    (position : Nat)
    (inside : position ≤ text.length) :
    let stop := (readAt scan text position).2
    position ≤ stop ∧ stop ≤ text.length ∧
      text.drop stop = (scan (text.drop position)).2 ∧
      (stop = text.length ∨
        ∃ bracket, position ≤ bracket ∧ text[bracket]? = some '>' ∧ stop = bracket + 1) := by
  rcases scan_extent (text.drop position) with ⟨taken, parts, ending⟩
  rcases positionOf_bounds inside ⟨taken, parts.symm⟩ with ⟨later, bound, whole⟩
  refine ⟨later, bound, whole, ?_⟩
  rcases ending with done | ⟨inner, rfl⟩
  · left
    simp [readAt, positionOf, done]
  · right
    refine ⟨position + inner.length, Nat.le_add_right _ _, ?_, ?_⟩
    · rw [← List.getElem?_drop, parts, List.append_assoc]
      simp
    · have lengths := congrArg List.length parts
      simp only [List.length_drop, List.length_append, List.length_singleton] at lengths
      simp only [readAt, positionOf]
      omega

end Attribute

/-! ## Pieces -/

/-- The piece that starts at a position, and the position behind it. -/
def Piece.nextAt (text : List Char) (position : Nat) (inside : position < text.length) :
    Piece × Nat :=
  let one := next text[position] (text.drop (position + 1))
  (one.1, positionOf text one.2)

theorem Piece.nextAt_bounds
    (text : List Char)
    (position : Nat)
    (inside : position < text.length) :
    position < (nextAt text position inside).2 ∧
      (nextAt text position inside).2 ≤ text.length ∧
        text.drop (nextAt text position inside).2 =
          (next text[position] (text.drop (position + 1))).2 := by
  rcases leads_next text[position] (text.drop (position + 1)) with ⟨lexeme, parts, -, -⟩
  rw [← List.drop_eq_getElem_cons inside] at parts
  rcases positionOf_bounds (Nat.le_of_lt inside) ⟨lexeme.written, parts.symm⟩ with ⟨-, bound, whole⟩
  have shorter := length_next_le text[position] (text.drop (position + 1))
  rw [List.length_drop] at shorter
  refine ⟨?_, bound, whole⟩
  simp only [nextAt, positionOf]
  omega

theorem Piece.split_drop
    (text : List Char)
    (position : Nat)
    (inside : position < text.length) :
    split (text.drop position) =
      (nextAt text position inside).1 :: split (text.drop (nextAt text position inside).2) := by
  rw [(nextAt_bounds text position inside).2.2, List.drop_eq_getElem_cons inside, split]
  rfl

/-- Only a font tag can fail to be read, and it fails as its attributes do. -/
theorem Piece.openFont_of_marks_error
    {lookup : Color.Lookup}
    {piece : Piece}
    {failure : Failure}
    (failed : piece.marks lookup = .error failure) :
    ∃ attributes,
      piece = .openFont attributes ∧ Attribute.settings lookup attributes = .error failure := by
  cases piece with
  | openFont attributes =>
      refine ⟨attributes, rfl, ?_⟩
      rw [marks] at failed
      split at failed
      next => cases failed
      next other unread =>
        cases failed
        exact unread
  | literal | lineBreak | openFlag | close | block => cases failed

/-! ## Reading under way -/

/--
What has been made of a text up to a position: the finished segments, what is written of the segment
begun, last character first, the open styles, and the place if a block has named one.
-/
structure Reading where
  position : Nat := 0
  finished : List Segment := []
  written : List Char := []
  stack : Style.Stack := .empty
  place : Option Alignment := none

namespace Reading

/-- The segment begun, as it stands. -/
def segment (reading : Reading) : Segment :=
  ⟨String.ofList reading.written.reverse, reading.stack.current⟩

/-- The reading after the segment begun is finished and the next one is begun inside other styles. -/
def startSegment (reading : Reading) (stack : Style.Stack) : Reading :=
  { reading with finished := reading.finished ++ [reading.segment], written := [], stack }

/-- The reading after a mark. -/
def take (reading : Reading) : Mark → Reading
  | .visible char => { reading with written := char :: reading.written }
  | .opening change => reading.startSegment (reading.stack.push change)
  | .closing => reading.startSegment reading.stack.pop

/-- The loop over the pieces of a text. -/
def loop (lookup : Color.Lookup) (align : Alignment) (text : List Char) :
    Loop Reading (Except Failure Outcome) where
  size := text.length
  position := position
  round reading inside :=
    let one := Piece.nextAt text reading.position inside
    match one.1.marks lookup with
    | .error failure => .inl (.error failure)
    | .ok here =>
        .inr { here.foldl take reading with
          position := one.2
          place := reading.place.or one.1.key? }
  answer reading := .ok ⟨reading.finished ++ [reading.segment], reading.place.getD align⟩

/-! ### What is still to be read -/

/-- All segments, if these marks follow. -/
def segmentsWith (reading : Reading) (marks : List Mark) : List Segment :=
  reading.finished ++ segmentsFrom reading.stack reading.written marks

theorem segmentsWith_cons (reading : Reading) (mark : Mark) (marks : List Mark) :
    reading.segmentsWith (mark :: marks) = (reading.take mark).segmentsWith marks := by
  cases mark with
  | visible char => rfl
  | opening change => simp [segmentsWith, segmentsFrom, take, startSegment, segment]
  | closing => simp [segmentsWith, segmentsFrom, take, startSegment, segment]

theorem segmentsWith_append (reading : Reading) (here later : List Mark) :
    reading.segmentsWith (here ++ later) = (here.foldl take reading).segmentsWith later := by
  induction here generalizing reading with
  | nil => rfl
  | cons mark rest hypothesis =>
      rw [List.cons_append, segmentsWith_cons, hypothesis, List.foldl_cons]

/-- What reading comes to that goes on over the given pieces. -/
def outcomeWith
    (reading : Reading)
    (lookup : Color.Lookup)
    (align : Alignment)
    (pieces : List Piece) :
    Except Failure Outcome :=
  (marks lookup pieces).map fun marks =>
    ⟨reading.segmentsWith marks, (reading.place.or (pieces.findSome? Piece.key?)).getD align⟩

variable {lookup : Color.Lookup} {align : Alignment} {text : List Char}

theorem outcomeWith_cons_of_error
    (reading : Reading)
    (piece : Piece)
    (pieces : List Piece)
    (failure : Failure)
    (failed : piece.marks lookup = .error failure) :
    reading.outcomeWith lookup align (piece :: pieces) = .error failure := by
  rw [outcomeWith, marks, failed]
  rfl

/-- A piece that can be read is read before the pieces behind it. -/
theorem outcomeWith_cons_of_ok
    (reading : Reading)
    (piece : Piece)
    (pieces : List Piece)
    (position : Nat)
    (here : List Mark)
    (read : piece.marks lookup = .ok here) :
    reading.outcomeWith lookup align (piece :: pieces) =
      outcomeWith
        { here.foldl take reading with position, place := reading.place.or piece.key? }
        lookup align pieces := by
  have place :
      reading.place.or ((piece :: pieces).findSome? Piece.key?) =
        (reading.place.or piece.key?).or (pieces.findSome? Piece.key?) := by
    rw [List.findSome?_cons, Option.or_assoc]
    cases piece.key? <;> rfl
  rw [outcomeWith, outcomeWith, marks, read, place]
  cases marks lookup pieces with
  | error failure => rfl
  | ok later =>
      simp only [Except.map, segmentsWith_append]
      rfl

/-- What reading comes to from its position in a text on. -/
def outcomeIn
    (lookup : Color.Lookup)
    (align : Alignment)
    (text : List Char)
    (reading : Reading) :
    Except Failure Outcome :=
  reading.outcomeWith lookup align (Piece.split (text.drop reading.position))

/--
A round goes on from the position behind the piece that it reads and leaves open what was open
before.  It fails only if the piece cannot be read.
-/
theorem round_loop
    (reading : Reading)
    (inside : reading.position < text.length) :
    (∃ failure,
      (Piece.nextAt text reading.position inside).1.marks lookup = .error failure ∧
        (loop lookup align text).round reading inside = .inl (.error failure) ∧
        outcomeIn lookup align text reading = .error failure) ∨
      ∃ next,
        (loop lookup align text).round reading inside = .inr next ∧
          next.position = (Piece.nextAt text reading.position inside).2 ∧
          outcomeIn lookup align text next = outcomeIn lookup align text reading := by
  simp only [loop, outcomeIn, Piece.split_drop text reading.position inside]
  cases read : (Piece.nextAt text reading.position inside).1.marks lookup with
  | error failure =>
      exact .inl ⟨failure, rfl, rfl, outcomeWith_cons_of_error reading _ _ failure read⟩
  | ok here => exact .inr ⟨_, rfl, rfl, (outcomeWith_cons_of_ok reading _ _ _ here read).symm⟩

theorem loop_computes : (loop lookup align text).Computes (outcomeIn lookup align text) where
  outside reading behind := by
    have empty : text.drop reading.position = [] := List.drop_eq_nil_of_le behind
    rw [outcomeIn, empty, Piece.split]
    simp [loop, outcomeWith, marks, Except.map, segmentsWith, segmentsFrom, segment]
  inside reading inside := by
    rcases round_loop reading inside with ⟨failure, -, left, same⟩ | ⟨next, went, position, same⟩
    · exact .inl (same ▸ left)
    · have further := (Piece.nextAt_bounds text reading.position inside).1
      exact .inr ⟨next, went, lt_of_lt_of_eq further position.symm, same⟩

end Reading

theorem parse_eq_outcomeIn (lookup : Color.Lookup) (align : Alignment) (text : List Char) :
    parse lookup align text = Reading.outcomeIn lookup align (untilNul text) {} := by
  have whole : (untilNul text).drop (Reading.position {}) = untilNul text := List.drop_zero
  rw [Reading.outcomeIn, whole, Reading.outcomeWith, parse]
  cases marks lookup (Piece.split (untilNul text)) with
  | error failure => rfl
  | ok written => rfl

/-! ## Both loops -/

/--
Reading gets on and stays inside the text.  Each piece ends behind the position where it starts, and
a round of the loop over the pieces goes on from there; it fails only at a font tag with an attribute
that cannot be read.  So the loop ends with what reading the text yields, an outcome or a failure,
after no more rounds than the text has characters.  The loop over attributes ends with what their
scan finds, after no more rounds than characters are left, and leaves off at the end of the text or
right behind a closing bracket.  A value ends where it starts or later.
-/
theorem reading_gets_on
    (lookup : Color.Lookup)
    (align : Alignment)
    (text : List Char) :
    (∀ (reading : Reading) (inside : reading.position < text.length),
      let one := Piece.nextAt text reading.position inside
      reading.position < one.2 ∧ one.2 ≤ text.length ∧
        text.drop one.2 =
          (Piece.next text[reading.position] (text.drop (reading.position + 1))).2 ∧
        ((∃ next,
            (Reading.loop lookup align text).round reading inside = .inr next ∧
              next.position = one.2) ∨
          ∃ attributes failure,
            one.1 = .openFont attributes ∧
              Attribute.settings lookup attributes = .error failure ∧
              (Reading.loop lookup align text).round reading inside = .inl (.error failure))) ∧
    (∃ rounds ≤ (untilNul text).length, ∀ count result,
      (Reading.loop lookup align (untilNul text)).Ends {} count result ↔
        count = rounds ∧ result = parse lookup align text) ∧
    (∀ position ≤ text.length,
      (∃ rounds ≤ text.length - position, ∀ count result,
        (Attribute.loop text).Ends ([], position) count result ↔
          count = rounds ∧ result = readAt Attribute.scan text position) ∧
      let stop := (readAt Attribute.scan text position).2
      position ≤ stop ∧ stop ≤ text.length ∧
        text.drop stop = (Attribute.scan (text.drop position)).2 ∧
        (stop = text.length ∨
          ∃ bracket, position ≤ bracket ∧ text[bracket]? = some '>' ∧ stop = bracket + 1)) ∧
    ∀ position ≤ text.length,
      let stop := (readAt Attribute.scanValue text position).2
      position ≤ stop ∧ stop ≤ text.length ∧
        text.drop stop = (Attribute.scanValue (text.drop position)).2 := by
  refine ⟨?_, ?_, ?_, ?_⟩
  · intro reading inside
    rcases Piece.nextAt_bounds text reading.position inside with ⟨further, bound, left⟩
    refine ⟨further, bound, left, ?_⟩
    rcases reading.round_loop inside with ⟨failure, unread, failed, -⟩ | ⟨next, went, position, -⟩
    · rcases Piece.openFont_of_marks_error unread with ⟨attributes, tag, unset⟩
      exact .inr ⟨attributes, failure, tag, unset, failed⟩
    · exact .inl ⟨next, went, position⟩
  · rw [parse_eq_outcomeIn]
    exact Reading.loop_computes.ends_iff {}
  · intro position inside
    constructor
    · exact (Attribute.loop_computes text).ends_iff ([], position)
    · exact Attribute.readAt_scan_bounds text position inside
  · intro position inside
    exact positionOf_bounds inside (Attribute.scanValue_suffix (text.drop position))

/-- A value without a name, a name without a value, and a quote that nothing closes. -/
theorem reading_gets_on_through_oddTag :
    (∃ rounds ≤ 17,
      (Reading.loop Color.byName ⟨8⟩ "<font =\"\" b c=\">z".toList).Ends {} rounds
        (.ok ⟨[⟨"", {}⟩, ⟨"z", {}⟩], ⟨8⟩⟩)) ∧
    (∃ rounds ≤ 12,
      (Attribute.loop "<font =\"\" b c=\">z".toList).Ends ([], 5) rounds ([⟨['c'], []⟩], 16)) ∧
    14 ≤ (readAt Attribute.scanValue "<font =\"\" b c=\">z".toList 14).2 ∧
    (readAt Attribute.scanValue "<font =\"\" b c=\">z".toList 14).2 = 15 := by
  rcases reading_gets_on Color.byName ⟨8⟩ "<font =\"\" b c=\">z".toList with
    ⟨-, ⟨rounds, few, ends⟩, attributes, values⟩
  rcases attributes 5 (by decide) with ⟨⟨others, short, scanned⟩, -⟩
  have read :
      parse Color.byName ⟨8⟩ "<font =\"\" b c=\">z".toList =
        .ok ⟨[⟨"", {}⟩, ⟨"z", {}⟩], ⟨8⟩⟩ := by
    cbv
  have found :
      readAt Attribute.scan "<font =\"\" b c=\">z".toList 5 = ([⟨['c'], []⟩], 16) := by
    cbv
  refine ⟨⟨rounds, few, (ends _ _).2 ⟨rfl, read.symm⟩⟩, ⟨others, short, ?_⟩, ?_, ?_⟩
  · exact (scanned _ _).2 ⟨rfl, found.symm⟩
  · exact (values 14 (by decide)).1
  · cbv

end TimedText.Markup
