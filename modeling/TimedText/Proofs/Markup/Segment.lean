import Mathlib
import TimedText.Proofs.Markup.Timeline

/-!
# Segments follow the open ranges

The events of a text are its openings and closings, in order.  A closing ends the range that was
opened last among those that are still open, whatever its tag is called, and ends nothing if none is
open.  So the ranges open after some events are a list, to which openings add at the end and from
which closings take the last.

The main statement is that a text with n events has n + 1 segments, that each holds what is shown
between two events, and that its style is the plain one changed by the ranges open there and by no
others.  The stack of styles that reading keeps is related to the list of open ranges: its entries
are the styles reached after each of them.
-/

namespace TimedText.Markup

/-! ## Open ranges -/

/-- The ranges open after an event, those opened first standing first. -/
def stepRanges (ranges : List Opening) : Event → List Opening
  | .opening range => ranges ++ [range]
  | .closing => ranges.dropLast

/-- The ranges open after events, from given ones on. -/
def openRangesFrom (ranges : List Opening) (events : List Event) : List Opening :=
  events.foldl stepRanges ranges

/-- The ranges open after events. -/
def openRanges (events : List Event) : List Opening :=
  openRangesFrom [] events

/-- The style in which text stands inside ranges, if their attributes can be read. -/
def styleInside? (lookup : Color.Lookup) (ranges : List Opening) : Option Style :=
  ranges.foldlM (Opening.applyTo? lookup) Style.plain

/-- The texts shown before, between and after the events of a timeline. -/
def textsBetween (moments : List Moment) : List (List Char) :=
  (moments.splitOnP Moment.isEvent).map (·.filterMap Moment.char?)

/-! ## What openings change -/

/-- Setting a field leaves the switches and all other fields alone. -/
theorem FontField.set?_frame
    (lookup : Color.Lookup)
    (style after : Style)
    (text : List Char)
    (field : FontField)
    (set : field.set? lookup style text = some after) :
    after.flags = style.flags ∧
      ∀ other : FontField, other ≠ field → other.value after = other.value style := by
  cases field with
  | face | family =>
      cases set
      refine ⟨rfl, ?_⟩
      intro other different
      cases other <;> first | rfl | exact (different rfl).elim
  | size | outlineLevel | shadowLevel | alpha | color | outlineColor | shadowColor | backColor =>
      rcases Option.map_eq_some_iff.1 set with ⟨number, -, rfl⟩
      refine ⟨rfl, ?_⟩
      intro other different
      cases other <;> first | rfl | exact (different rfl).elim

/-- An attribute leaves the switches alone, and all fields but the one that it names. -/
theorem Attribute.applyTo?_frame
    (lookup : Color.Lookup)
    (written : Attribute)
    (style after : Style)
    (applied : written.applyTo? lookup style = some after) :
    after.flags = style.flags ∧
      ∀ field : FontField, written.field? ≠ some field → field.value after = field.value style := by
  unfold applyTo? at applied
  split at applied
  next named found =>
    rcases FontField.set?_frame lookup style after written.value named applied with ⟨flags, frame⟩
    refine ⟨flags, ?_⟩
    intro field different
    apply frame field
    rintro rfl
    exact different found
  next =>
    cases applied
    exact ⟨rfl, fun field different => rfl⟩

/-- A font tag leaves the switches alone, and all fields that none of its attributes names. -/
theorem Opening.applyTo?_font_frame
    (lookup : Color.Lookup)
    (attributes : List Attribute)
    (style after : Style)
    (applied : (Opening.font attributes).applyTo? lookup style = some after) :
    after.flags = style.flags ∧
      ∀ field : FontField,
        (∀ written ∈ attributes, written.field? ≠ some field) →
          field.value after = field.value style := by
  simp only [Opening.applyTo?] at applied
  induction attributes generalizing style with
  | nil =>
      cases applied
      exact ⟨rfl, fun field unnamed => rfl⟩
  | cons first rest hypothesis =>
      rw [List.foldlM_cons] at applied
      rcases Option.bind_eq_some_iff.1 applied with ⟨middle, firstApplied, restApplied⟩
      rcases first.applyTo?_frame lookup style middle firstApplied with ⟨firstFlags, firstFrame⟩
      rcases hypothesis middle restApplied with ⟨restFlags, restFrame⟩
      refine ⟨restFlags.trans firstFlags, ?_⟩
      intro field unnamed
      have later := restFrame field fun written member =>
        unnamed written (List.mem_cons_of_mem first member)
      exact later.trans (firstFrame field (unnamed first List.mem_cons_self))

/-! ## The stack of styles -/

/-- A stack holds the styles that are reached after each of the open ranges, innermost first. -/
inductive Holds (lookup : Color.Lookup) : List Opening → Style.Stack → Prop where
  | empty : Holds lookup [] .empty
  | opened
      (holds : Holds lookup ranges stack)
      (inside : range.applyTo? lookup stack.current = some style) :
      Holds lookup (ranges ++ [range]) ⟨style :: stack.entries⟩

/-- The current style of a stack is the style inside the ranges that are open. -/
theorem Holds.current_eq
    {lookup : Color.Lookup}
    {ranges : List Opening}
    {stack : Style.Stack}
    (holds : Holds lookup ranges stack) :
    styleInside? lookup ranges = some stack.current := by
  induction holds with
  | empty => rfl
  | @opened ranges stack style range holds inside hypothesis =>
      have top : Style.Stack.current ⟨style :: stack.entries⟩ = style := rfl
      rw [styleInside?] at hypothesis ⊢
      rw [List.foldlM_append, hypothesis, top]
      simpa using inside

theorem Holds.pop
    {lookup : Color.Lookup}
    {ranges : List Opening}
    {stack : Style.Stack}
    (holds : Holds lookup ranges stack) :
    Holds lookup ranges.dropLast stack.pop := by
  cases holds with
  | empty => exact .empty
  | opened holds inside =>
      rw [List.dropLast_concat]
      exact holds

theorem Holds.push
    {lookup : Color.Lookup}
    {ranges : List Opening}
    {stack : Style.Stack}
    (holds : Holds lookup ranges stack)
    (range : Opening)
    (change : Style.Change)
    (same : ∀ style, range.applyTo? lookup style = some (Style.apply style change)) :
    Holds lookup (ranges ++ [range]) (stack.push change) :=
  .opened holds (same stack.current)

/-! ## Segments -/

theorem length_segmentsFrom
    (lookup : Color.Lookup)
    (marks : List Mark)
    (moments : List Moment)
    (realised : List.Forall₂ (Realises lookup) marks moments)
    (stack : Style.Stack)
    (written : List Char) :
    (segmentsFrom stack written marks).length = (moments.filterMap Moment.event?).length + 1 := by
  induction realised generalizing stack written with
  | nil => rfl
  | cons one others hypothesis =>
      cases one with
      | visible => simp [segmentsFrom, hypothesis, Moment.event?, List.filterMap_cons]
      | opening same => simp [segmentsFrom, hypothesis, Moment.event?]
      | closing => simp [segmentsFrom, hypothesis, Moment.event?]

/-- The texts of segments are those between the events, after what was written before. -/
theorem texts_segmentsFrom
    (lookup : Color.Lookup)
    (marks : List Mark)
    (moments : List Moment)
    (realised : List.Forall₂ (Realises lookup) marks moments)
    (stack : Style.Stack)
    (written : List Char) :
    (segmentsFrom stack written marks).map (·.text.toList) =
      (List.splitOnPPrepend Moment.isEvent moments (written.map Moment.shown)).map
        (·.filterMap Moment.char?) := by
  have characters : ∀ text : List Char,
      (text.map Moment.shown).filterMap Moment.char? = text := by
    intro text
    simp [List.filterMap_map, Function.comp_def, Moment.char?]
  induction realised generalizing stack written with
  | nil =>
      simp [segmentsFrom, ← List.map_reverse, characters]
  | cons one others hypothesis =>
      cases one with
      | visible =>
          rw [segmentsFrom, List.splitOnPPrepend_cons_neg rfl, hypothesis]
          rfl
      | opening same =>
          rw [segmentsFrom, List.splitOnPPrepend_cons_pos rfl, List.map_cons, hypothesis]
          simp [← List.map_reverse, characters]
      | closing =>
          rw [segmentsFrom, List.splitOnPPrepend_cons_pos rfl, List.map_cons, hypothesis]
          simp [← List.map_reverse, characters]

/-- The style of each segment is the one inside the ranges open after the events before it. -/
theorem style_segmentsFrom
    (lookup : Color.Lookup)
    (marks : List Mark)
    (moments : List Moment)
    (realised : List.Forall₂ (Realises lookup) marks moments)
    (ranges : List Opening)
    (stack : Style.Stack)
    (holds : Holds lookup ranges stack)
    (written : List Char)
    (index : Nat)
    (segment : Segment)
    (found : (segmentsFrom stack written marks)[index]? = some segment) :
    styleInside? lookup
        (openRangesFrom ranges ((moments.filterMap Moment.event?).take index)) =
      some segment.style := by
  induction realised generalizing ranges stack written index with
  | nil =>
      cases index with
      | zero =>
          cases found
          exact holds.current_eq
      | succ index => cases found
  | cons one others hypothesis =>
      cases one with
      | visible => exact hypothesis ranges stack holds _ index found
      | @opening change range same =>
          cases index with
          | zero =>
              cases found
              exact holds.current_eq
          | succ index =>
              exact hypothesis (ranges ++ [range]) _ (holds.push range change same) [] index found
      | closing =>
          cases index with
          | zero =>
              cases found
              exact holds.current_eq
          | succ index => exact hypothesis ranges.dropLast _ holds.pop [] index found

/--
A text with n events has n + 1 segments.  Their texts are what is shown between the events, and the
style of each is the plain style changed, in order, by the ranges that are open after the events
before it.  A flag is added to the switches that are on; a font tag leaves the switches alone, and
the fields that none of its attributes names.
-/
theorem parse_follows_ranges
    (lookup : Color.Lookup)
    (align : Alignment)
    (text : List Char)
    (outcome : Outcome)
    (read : parse lookup align text = .ok outcome) :
    let pieces := Piece.split (untilNul text)
    let events := pieces.flatMap Piece.events
    outcome.segments.length = events.length + 1 ∧
      outcome.segments.map (·.text.toList) = textsBetween (timeline pieces) ∧
      (∀ (index : Nat) (segment : Segment),
        outcome.segments[index]? = some segment →
          styleInside? lookup (openRanges (events.take index)) = some segment.style) ∧
      (∀ (switch : StyleFlag) (style : Style),
        (Opening.flag switch).applyTo? lookup style =
          some { style with flags := style.flags ||| switch.bits }) ∧
      ∀ (attributes : List Attribute) (style after : Style),
        (Opening.font attributes).applyTo? lookup style = some after →
          after.flags = style.flags ∧
            ∀ field : FontField,
              (∀ written ∈ attributes, written.field? ≠ some field) →
                field.value after = field.value style := by
  intro pieces events
  rcases parse_eq_ok lookup align text outcome read with ⟨marks, realised, segments⟩
  have sameEvents : (timeline pieces).filterMap Moment.event? = events := events_timeline pieces
  rw [segments, ← sameEvents]
  refine ⟨?_, ?_, ?_, ?_, ?_⟩
  · exact length_segmentsFrom lookup marks _ realised .empty []
  · exact texts_segmentsFrom lookup marks _ realised .empty []
  · intro index segment found
    exact style_segmentsFrom lookup marks _ realised [] .empty .empty [] index segment found
  · intro switch style
    rfl
  · exact Opening.applyTo?_font_frame lookup

/-- A block opens two ranges, three closings end them with one to spare, and a font tag follows. -/
theorem parse_follows_ranges_of_stray_closing :
    ∃ outcome,
      parse Color.byName ⟨8⟩
          "\x7bY:ibx\x7da</b>c</U>d</font>e<font Size=9>f".toList = .ok outcome ∧
        outcome.segments.length = 7 ∧
          textsBetween
              (timeline
                (Piece.split "\x7bY:ibx\x7da</b>c</U>d</font>e<font Size=9>f".toList)) =
            [[], [], ['a'], ['c'], ['d'], ['e'], ['f']] ∧
          styleInside? Color.byName
              (openRanges
                (((Piece.split
                    "\x7bY:ibx\x7da</b>c</U>d</font>e<font Size=9>f".toList).flatMap
                      Piece.events).take 3)) =
            some { flags := 2 } := by
  have read :
      parse Color.byName ⟨8⟩ "\x7bY:ibx\x7da</b>c</U>d</font>e<font Size=9>f".toList =
        .ok
          ⟨[⟨"", {}⟩, ⟨"", { flags := 2 }⟩, ⟨"a", { flags := 3 }⟩, ⟨"c", { flags := 2 }⟩,
              ⟨"d", {}⟩, ⟨"e", {}⟩, ⟨"f", { fontSize := 9 }⟩],
            ⟨8⟩⟩ := by
    cbv
  rcases parse_follows_ranges _ _ _ _ read with ⟨-, texts, styles, -, -⟩
  exact ⟨_, read, rfl, texts.symm, styles 3 _ rfl⟩

end TimedText.Markup
