import TimedText.Proofs.Markup.Segment

/-!
# Where the fields of a style come from

A field of a style is set by font tags only.  The attribute that settles it is the last one of the
tag that names the field, and the field then holds what the lookup or the number says that this
attribute stands for.

So what a field holds in a segment can be traced back to the text: it is what the plain style holds,
or what the settling attribute of some font tag of the text stands for.  Each font tag that names the
field leaves its mark in this way, in the segment that it opens.
-/

namespace TimedText.Markup

/-! ## Settling attributes -/

/-- What a text makes of a field, if it can be read: itself, the number at its start, or a colour. -/
def FontField.content? (lookup : Color.Lookup) (text : List Char) :
    FontField → Option (Option String ⊕ Int)
  | face | family => some (.inl (some (String.ofList text)))
  | size | outlineLevel | shadowLevel | alpha => (Text.leadingInteger text).map .inr
  | color | outlineColor | shadowColor | backColor => (lookup (String.ofList text)).map .inr

/-- An attribute settles a field of a tag if it is the last one that names the field. -/
def Attribute.Settles (field : FontField) (written : Attribute) (attributes : List Attribute) :
    Prop :=
  ∃ before after,
    attributes = before ++ written :: after ∧
      written.field? = some field ∧
      ∀ later ∈ after, later.field? ≠ some field

/-- A field that an attribute of a tag names is settled by one of them. -/
theorem Attribute.exists_settles
    (field : FontField)
    (attributes : List Attribute) :
    (∃ written : Attribute, written.Settles field attributes) ∨
      ∀ written ∈ attributes, written.field? ≠ some field := by
  induction attributes with
  | nil => exact .inr (List.forall_mem_nil _)
  | cons first rest hypothesis =>
      rcases hypothesis with ⟨written, before, after, rfl, named, last⟩ | unnamed
      · exact .inl ⟨written, first :: before, after, rfl, named, last⟩
      · by_cases named : first.field? = some field
        · exact .inl ⟨first, [], rest, rfl, named, unnamed⟩
        · exact .inr (List.forall_mem_cons.2 ⟨named, unnamed⟩)

variable {lookup : Color.Lookup}

theorem FontField.content?_of_set?
    {style after : Style}
    {text : List Char}
    {field : FontField}
    (set : field.set? lookup style text = some after) :
    field.content? lookup text = some (field.value after) := by
  cases field with
  | face | family =>
      cases set
      rfl
  | size | outlineLevel | shadowLevel | alpha | color | outlineColor | shadowColor | backColor =>
      rcases Option.map_eq_some_iff.1 set with ⟨number, read, rfl⟩
      exact Option.map_eq_some_iff.2 ⟨number, read, rfl⟩

/-- Inside a font tag, a field holds what the attribute that settles it stands for. -/
theorem Opening.content?_of_settles
    {attributes : List Attribute}
    {outside inside : Style}
    {field : FontField}
    {written : Attribute}
    (applied : (Opening.font attributes).applyTo? lookup outside = some inside)
    (settles : written.Settles field attributes) :
    field.content? lookup written.value = some (field.value inside) := by
  rcases settles with ⟨before, after, rfl, named, last⟩
  rw [Opening.applyTo?, List.foldlM_append] at applied
  rcases Option.bind_eq_some_iff.1 applied with ⟨outer, -, others⟩
  rw [List.foldlM_cons] at others
  rcases Option.bind_eq_some_iff.1 others with ⟨middle, set, rest⟩
  rw [Attribute.applyTo?, named] at set
  rw [(Opening.applyTo?_font_frame lookup after middle inside rest).2 field last]
  exact FontField.content?_of_set? set

/-! ## Open ranges -/

/-- A field holds what it holds outside, or what an attribute of the opening tag settles. -/
theorem Opening.origin_of_applyTo?
    {opening : Opening}
    {outside inside : Style}
    (applied : opening.applyTo? lookup outside = some inside)
    (field : FontField) :
    field.value inside = field.value outside ∨
      ∃ (attributes : List Attribute) (written : Attribute),
        opening = .font attributes ∧
          written.Settles field attributes ∧
          field.content? lookup written.value = some (field.value inside) := by
  cases opening with
  | flag switch =>
      cases applied
      left
      cases field <;> rfl
  | font attributes =>
      rcases Attribute.exists_settles field attributes with ⟨written, settles⟩ | unnamed
      · exact .inr ⟨attributes, written, rfl, settles, content?_of_settles applied settles⟩
      · exact .inl ((applyTo?_font_frame lookup attributes outside inside applied).2 field unnamed)

/-- Inside open ranges, a field is plain, or it is settled by the tag of one of them. -/
theorem origin_of_styleInside?
    {ranges : List Opening}
    {style : Style}
    (inside : styleInside? lookup ranges = some style)
    (field : FontField) :
    field.value style = field.value Style.plain ∨
      ∃ (attributes : List Attribute) (written : Attribute),
        .font attributes ∈ ranges ∧
          written.Settles field attributes ∧
          field.content? lookup written.value = some (field.value style) := by
  induction ranges using List.reverseRecOn generalizing style with
  | nil =>
      cases inside
      exact .inl rfl
  | append_singleton outer opening hypothesis =>
      rw [styleInside?, List.foldlM_append] at inside
      rcases Option.bind_eq_some_iff.1 inside with ⟨outside, reached, applied⟩
      rcases Option.bind_eq_some_iff.1 applied with ⟨last, opens, same⟩
      cases same
      rcases opening.origin_of_applyTo? opens field with kept | ⟨attributes, written, rfl, settled⟩
      · rcases hypothesis reached with plain | ⟨attributes, written, member, settled⟩
        · exact .inl (kept.trans plain)
        · rw [← kept] at settled
          exact .inr ⟨attributes, written, List.mem_append_left _ member, settled⟩
      · exact .inr ⟨attributes, written, by simp, settled⟩

/-- The ranges that are open were opened. -/
theorem mem_of_mem_openRangesFrom
    {opening : Opening}
    {ranges : List Opening}
    {events : List Event}
    (member : opening ∈ openRangesFrom ranges events) :
    opening ∈ ranges ∨ .opening opening ∈ events := by
  induction events generalizing ranges with
  | nil => exact .inl member
  | cons event rest hypothesis =>
      rcases hypothesis member with before | later
      · cases event with
        | opening first =>
            rcases List.mem_append.1 before with outer | here
            · exact .inl outer
            · rw [List.mem_singleton.1 here]
              exact .inr List.mem_cons_self
        | closing => exact .inl (List.mem_of_mem_dropLast before)
      · exact .inr (List.mem_cons_of_mem event later)

/-! ## Segments of a text -/

/-- The events of pieces open a font tag exactly if it is one of the pieces. -/
theorem opening_font_mem_events_iff (attributes : List Attribute) (pieces : List Piece) :
    .opening (.font attributes) ∈ pieces.flatMap Piece.events ↔ .openFont attributes ∈ pieces := by
  rw [List.mem_flatMap]
  constructor
  · rintro ⟨piece, member, event⟩
    cases piece with
    | literal | lineBreak | openFlag | close => simp [Piece.events] at event
    | openFont others =>
        simp only [Piece.events, List.mem_singleton, Event.opening.injEq, Opening.font.injEq] at event
        rwa [event]
    | block body =>
        rw [Piece.events_block, List.mem_map] at event
        rcases event with ⟨flag, -, different⟩
        cases different
  · intro member
    exact ⟨_, member, List.mem_singleton.2 rfl⟩

variable {align : Alignment} {text : List Char} {outcome : Outcome}

/--
There is a segment for each number of events, with what is shown after them, in the style inside the
ranges that are open after them.
-/
theorem segments_of_parse (read : parse lookup align text = .ok outcome) :
    let pieces := Piece.split (untilNul text)
    let events := pieces.flatMap Piece.events
    outcome.segments.length = events.length + 1 ∧
      outcome.segments.map (·.text.toList) = textsBetween (timeline pieces) ∧
      ∀ (index : Nat) (segment : Segment),
        outcome.segments[index]? = some segment →
          styleInside? lookup (openRanges (events.take index)) = some segment.style := by
  rcases parse_eq_ok lookup align text outcome read with ⟨marks, realised, segments⟩
  intro pieces events
  have same : (timeline pieces).filterMap Moment.event? = events := events_timeline pieces
  rw [segments, ← same]
  refine ⟨length_segmentsFrom lookup marks _ realised .empty [],
    texts_segmentsFrom lookup marks _ realised .empty [], ?_⟩
  intro index segment found
  exact style_segmentsFrom lookup marks _ realised [] .empty .empty [] index segment found

/--
What a field holds in a segment is what the plain style holds, or what the settling attribute of a
font tag of the text stands for.
-/
theorem origin_of_parse
    (read : parse lookup align text = .ok outcome)
    {segment : Segment}
    (member : segment ∈ outcome.segments)
    (field : FontField) :
    field.value segment.style = field.value Style.plain ∨
      ∃ (attributes : List Attribute) (written : Attribute),
        .openFont attributes ∈ Piece.split (untilNul text) ∧
          written.Settles field attributes ∧
          field.content? lookup written.value = some (field.value segment.style) := by
  rcases List.mem_iff_getElem?.1 member with ⟨index, found⟩
  rcases origin_of_styleInside? ((segments_of_parse read).2.2 index segment found) field with
    plain | ⟨attributes, written, opened, settled⟩
  · exact .inl plain
  · refine .inr ⟨attributes, written, ?_, settled⟩
    rw [← opening_font_mem_events_iff]
    rcases mem_of_mem_openRangesFrom opened with impossible | event
    · cases impossible
    · exact List.mem_of_mem_take event

/-- A font tag opens a segment in which each field that it names holds what settles it. -/
theorem exists_segment_of_settles
    (read : parse lookup align text = .ok outcome)
    {attributes : List Attribute}
    (tag : .openFont attributes ∈ Piece.split (untilNul text))
    {field : FontField}
    {written : Attribute}
    (settles : written.Settles field attributes) :
    ∃ segment ∈ outcome.segments,
      field.content? lookup written.value = some (field.value segment.style) := by
  rcases segments_of_parse read with ⟨count, -, styles⟩
  rw [← opening_font_mem_events_iff] at tag
  rcases List.mem_iff_getElem.1 tag with ⟨index, inside, event⟩
  have counted : index + 1 < outcome.segments.length := by omega
  refine ⟨outcome.segments[index + 1], List.getElem_mem counted, ?_⟩
  have style := styles (index + 1) _ (List.getElem?_eq_getElem counted)
  -- The tag is the last of the events before the segment, so its range is the innermost.
  rw [← List.take_append_getElem inside, event, openRanges, openRangesFrom, List.foldl_append,
    List.foldl_cons, List.foldl_nil, stepRanges, styleInside?, List.foldlM_append] at style
  rcases Option.bind_eq_some_iff.1 style with ⟨outside, -, applied⟩
  rcases Option.bind_eq_some_iff.1 applied with ⟨last, opens, same⟩
  cases same
  exact Opening.content?_of_settles opens settles

end TimedText.Markup
