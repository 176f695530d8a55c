import TimedText.Proofs.Session.Legibility
import TimedText.Proofs.Session.Placement

/-!
# What the colour lookup can change

How names become colours is left to a lookup.  Reading calls it and stores its answers, but never
looks at them.  So a lookup that always answers decides over the colours of a text and over nothing
else: where the text is cut, what stands in its segments, where it is placed and whether it can be
read at all are the same under every such lookup.

A lookup that gives up makes the reading as a whole give up.  This happens at the first attribute
that names a colour, if no number before it stops the reading; otherwise the lookup is not missed.
-/

namespace TimedText

/-- A style with the plain colours in place of its own. -/
def Style.uncolored (style : Style) : Style :=
  { style with
    fontColor := plain.fontColor
    outlineColor := plain.outlineColor
    shadowColor := plain.shadowColor
    backgroundColor := plain.backgroundColor }

def Segment.uncolored (segment : Segment) : Segment :=
  { segment with style := segment.style.uncolored }

namespace Markup

/-- An outcome with the plain colours in all its segments. -/
def Outcome.uncolored (outcome : Outcome) : Outcome :=
  { outcome with segments := outcome.segments.map Segment.uncolored }

def FontField.isColor : FontField → Bool
  | color | outlineColor | shadowColor | backColor => true
  | face | family | size | outlineLevel | shadowLevel | alpha => false

/-- An attribute that names a colour. -/
def Attribute.NamesColor (written : Attribute) : Prop :=
  ∃ field, written.field? = some field ∧ field.isColor = true

/-- One of the attributes names a colour, and each one before it can be read. -/
def AsksForColor (attributes : List Attribute) : Prop :=
  ∃ before written after,
    attributes = before ++ written :: after ∧
      written.NamesColor ∧
      ∀ earlier ∈ before, earlier.IsReadable

def Piece.attributes : Piece → List Attribute
  | openFont attributes => attributes
  | _ => []

/-- The attributes of all font tags of a text, in their order. -/
def attributesOf (text : List Char) : List Attribute :=
  (Piece.split (untilNul text)).flatMap Piece.attributes

/-! ## Two lookups that answer -/

section

variable (one other : String → Color)

/-- What two runs of successful steps keep, side by side. -/
theorem related_of_foldlM
    {State Step : Type}
    {one? other? : State → Step → Option State}
    {Related : State → State → Prop}
    (kept : ∀ step left right leftAfter rightAfter,
      Related left right →
        one? left step = some leftAfter →
          other? right step = some rightAfter → Related leftAfter rightAfter)
    {steps : List Step}
    {left right leftAfter rightAfter : State}
    (start : Related left right)
    (leftDone : steps.foldlM one? left = some leftAfter)
    (rightDone : steps.foldlM other? right = some rightAfter) :
    Related leftAfter rightAfter := by
  induction steps generalizing left right with
  | nil =>
      cases leftDone
      cases rightDone
      exact start
  | cons step rest hypothesis =>
      rw [List.foldlM_cons] at leftDone rightDone
      rcases Option.bind_eq_some_iff.1 leftDone with ⟨leftNext, leftStep, leftRest⟩
      rcases Option.bind_eq_some_iff.1 rightDone with ⟨rightNext, rightStep, rightRest⟩
      exact hypothesis (kept step _ _ _ _ start leftStep rightStep) leftRest rightRest

/-- Styles that differ in their colours only. -/
def SameButColors (left right : Style) : Prop :=
  left.uncolored = right.uncolored

theorem FontField.sameButColors_of_set?
    {left right leftAfter rightAfter : Style}
    {text : List Char}
    {field : FontField}
    (same : SameButColors left right)
    (leftSet : field.set? (fun name => some (one name)) left text = some leftAfter)
    (rightSet : field.set? (fun name => some (other name)) right text = some rightAfter) :
    SameButColors leftAfter rightAfter := by
  simp only [SameButColors, Style.uncolored, Style.mk.injEq] at same ⊢
  cases field with
  | face | family | color | outlineColor | shadowColor | backColor =>
      cases leftSet
      cases rightSet
      simp [same]
  | size | outlineLevel | shadowLevel | alpha =>
      rcases Option.map_eq_some_iff.1 leftSet with ⟨number, read, rfl⟩
      rcases Option.map_eq_some_iff.1 rightSet with ⟨again, readAgain, rfl⟩
      rw [read] at readAgain
      cases readAgain
      simp [same]

theorem Attribute.sameButColors_of_applyTo?
    (written : Attribute)
    (left right leftAfter rightAfter : Style)
    (same : SameButColors left right)
    (leftApplied : written.applyTo? (fun name => some (one name)) left = some leftAfter)
    (rightApplied : written.applyTo? (fun name => some (other name)) right = some rightAfter) :
    SameButColors leftAfter rightAfter := by
  unfold applyTo? at leftApplied rightApplied
  cases named : written.field? with
  | none =>
      rw [named] at leftApplied rightApplied
      cases leftApplied
      cases rightApplied
      exact same
  | some field =>
      rw [named] at leftApplied rightApplied
      exact field.sameButColors_of_set? one other same leftApplied rightApplied

theorem Opening.sameButColors_of_applyTo?
    (opening : Opening)
    (left right leftAfter rightAfter : Style)
    (same : SameButColors left right)
    (leftApplied : opening.applyTo? (fun name => some (one name)) left = some leftAfter)
    (rightApplied : opening.applyTo? (fun name => some (other name)) right = some rightAfter) :
    SameButColors leftAfter rightAfter := by
  cases opening with
  | flag switch =>
      cases leftApplied
      cases rightApplied
      simp only [SameButColors, Style.uncolored, Style.mk.injEq] at same ⊢
      simp [same]
  | font attributes =>
      exact
        related_of_foldlM (Attribute.sameButColors_of_applyTo? one other) same leftApplied
          rightApplied

/-- Inside the same ranges, two lookups that answer lead to styles that differ in colours only. -/
theorem sameButColors_of_styleInside?
    {ranges : List Opening}
    {left right : Style}
    (leftInside : styleInside? (fun name => some (one name)) ranges = some left)
    (rightInside : styleInside? (fun name => some (other name)) ranges = some right) :
    SameButColors left right :=
  related_of_foldlM (Opening.sameButColors_of_applyTo? one other) rfl leftInside rightInside

variable {align : Alignment} {text : List Char}

/-- Two outcomes of a text have the same segments, up to their colours, and the same place. -/
theorem uncolored_of_parse
    {left right : Outcome}
    (leftRead : parse (fun name => some (one name)) align text = .ok left)
    (rightRead : parse (fun name => some (other name)) align text = .ok right) :
    left.uncolored = right.uncolored := by
  rcases segments_of_parse leftRead with ⟨leftCount, leftTexts, leftStyles⟩
  rcases segments_of_parse rightRead with ⟨rightCount, rightTexts, rightStyles⟩
  have count := leftCount.trans rightCount.symm
  have texts := leftTexts.trans rightTexts.symm
  have place :=
    (align_of_parse _ align text left leftRead).trans
      (align_of_parse _ align text right rightRead).symm
  have segments : left.segments.map Segment.uncolored = right.segments.map Segment.uncolored := by
    refine List.ext_getElem (by simp [count]) ?_
    intro index inLeft inRight
    rw [List.length_map] at inLeft inRight
    have style :=
      sameButColors_of_styleInside? one other
        (leftStyles index _ (List.getElem?_eq_getElem inLeft))
        (rightStyles index _ (List.getElem?_eq_getElem inRight))
    have text := congrArg (·[index]?) texts
    simp only [List.getElem?_map, List.getElem?_eq_getElem, inLeft, inRight, Option.map_some,
      Option.some_inj, String.toList_inj] at text
    rw [List.getElem_map, List.getElem_map, Segment.uncolored, Segment.uncolored, text, style]
  rw [Outcome.uncolored, Outcome.uncolored, segments, place]

variable (align text)

/-- Under two lookups that answer, a text fails in the same way or is read the same. -/
theorem map_uncolored_parse :
    (parse (fun name => some (one name)) align text).map Outcome.uncolored =
      (parse (fun name => some (other name)) align text).map Outcome.uncolored := by
  by_cases legible : IsLegible text
  · rcases parse_of_isLegible one align text legible with ⟨left, leftRead, -⟩
    rcases parse_of_isLegible other align text legible with ⟨right, rightRead, -⟩
    rw [leftRead, rightRead]
    exact congrArg Except.ok (uncolored_of_parse one other leftRead rightRead)
  · rw [parse_of_not_isLegible one align text legible,
      parse_of_not_isLegible other align text legible]

end

/-! ## A lookup that gives up -/

theorem not_asksForColor_nil : ¬ AsksForColor [] := by
  rintro ⟨before, written, after, parts, -⟩
  cases before <;> cases parts

theorem asksForColor_cons_iff (first : Attribute) (rest : List Attribute) :
    AsksForColor (first :: rest) ↔
      first.NamesColor ∨ first.IsReadable ∧ AsksForColor rest := by
  constructor
  · rintro ⟨before, written, after, parts, names, readable⟩
    cases before with
    | nil =>
        cases parts
        exact .inl names
    | cons other before =>
        cases parts
        rcases List.forall_mem_cons.1 readable with ⟨here, later⟩
        exact .inr ⟨here, before, written, after, rfl, names, later⟩
  · rintro (names | ⟨readable, before, written, after, rfl, names, earlier⟩)
    · exact ⟨[], first, rest, rfl, names, List.forall_mem_nil _⟩
    · exact
        ⟨first :: before, written, after, rfl, names, List.forall_mem_cons.2 ⟨readable, earlier⟩⟩

theorem asksForColor_append_iff (left right : List Attribute) :
    AsksForColor (left ++ right) ↔
      AsksForColor left ∨ (∀ written ∈ left, written.IsReadable) ∧ AsksForColor right := by
  induction left with
  | nil => simp [not_asksForColor_nil]
  | cons first rest hypothesis =>
      rw [List.cons_append, asksForColor_cons_iff, asksForColor_cons_iff, hypothesis,
        List.forall_mem_cons]
      tauto

section

variable (colors : String → Color)

/-- An attribute makes a lookup give up exactly if it names a colour. -/
theorem Attribute.setting?_exhausted (written : Attribute) :
    (written.NamesColor ∧ setting? Color.exhausted written = .error .outOfMemory) ∨
      (¬ written.NamesColor ∧
        setting? Color.exhausted written = setting? (fun name => some (colors name)) written) := by
  simp only [NamesColor, field?, setting?]
  generalize String.ofList (Text.lower written.name) = name
  cases found : FontField.ofWord? name with
  | none =>
      rcases unknown_settings name (FontField.ne_word_of_ofWord?_eq_none name found) with
        ⟨noName, noNumber, noColor⟩
      simp [noName, noNumber, noColor]
  | some field =>
      rw [FontField.word_of_ofWord? name field found]
      cases field with
      | face | family | size | outlineLevel | shadowLevel | alpha =>
          right
          simp [FontField.isColor, FontField.word, nameSetting?, numberSetting?]
      | color | outlineColor | shadowColor | backColor =>
          left
          exact ⟨⟨_, rfl, rfl⟩, rfl⟩

theorem Attribute.settings_exhausted (attributes : List Attribute) :
    (AsksForColor attributes ∧ settings Color.exhausted attributes = .error .outOfMemory) ∨
      (¬ AsksForColor attributes ∧
        settings Color.exhausted attributes =
          settings (fun name => some (colors name)) attributes) := by
  induction attributes with
  | nil => exact .inr ⟨not_asksForColor_nil, rfl⟩
  | cons first rest hypothesis =>
      rw [asksForColor_cons_iff]
      rcases first.setting?_exhausted colors with ⟨names, failed⟩ | ⟨unnamed, same⟩
      · exact .inl ⟨.inl names, by rw [settings, failed]⟩
      · by_cases readable : first.IsReadable
        · rcases exists_setting colors first readable with ⟨one, read⟩
          rcases hypothesis with ⟨asks, failed⟩ | ⟨quiet, agreed⟩
          · exact .inl ⟨.inr ⟨readable, asks⟩, by rw [settings, same, read, failed]⟩
          · exact .inr ⟨by tauto, by rw [settings, settings, same, agreed]⟩
        · have unread := setting?_of_not_isReadable colors first readable
          exact .inr ⟨by tauto, by rw [settings, settings, same, unread]⟩

theorem Piece.marks_exhausted (piece : Piece) :
    (AsksForColor piece.attributes ∧ piece.marks Color.exhausted = .error .outOfMemory) ∨
      (¬ AsksForColor piece.attributes ∧
        piece.marks Color.exhausted = piece.marks fun name => some (colors name)) := by
  cases piece with
  | openFont attributes =>
      rcases Attribute.settings_exhausted colors attributes with ⟨asks, failed⟩ | ⟨quiet, agreed⟩
      · exact .inl ⟨asks, by rw [marks, failed]⟩
      · exact .inr ⟨quiet, by rw [marks, marks, agreed]⟩
  | literal | lineBreak | openFlag | close | block => exact .inr ⟨not_asksForColor_nil, rfl⟩

/-- The attributes of a piece can be read exactly if the piece is legible. -/
theorem Piece.isLegible_iff (piece : Piece) :
    piece.IsLegible ↔ ∀ written ∈ piece.attributes, written.IsReadable := by
  cases piece with
  | openFont attributes => simp [IsLegible, Piece.attributes]
  | literal | lineBreak | openFlag | close | block => simp [IsLegible, Piece.attributes]

theorem marks_exhausted (pieces : List Piece) :
    (AsksForColor (pieces.flatMap Piece.attributes) ∧
        marks Color.exhausted pieces = .error .outOfMemory) ∨
      (¬ AsksForColor (pieces.flatMap Piece.attributes) ∧
        marks Color.exhausted pieces = marks (fun name => some (colors name)) pieces) := by
  induction pieces with
  | nil => exact .inr ⟨not_asksForColor_nil, rfl⟩
  | cons first rest hypothesis =>
      rw [List.flatMap_cons, asksForColor_append_iff, ← first.isLegible_iff]
      rcases first.marks_exhausted colors with ⟨asks, failed⟩ | ⟨quiet, same⟩
      · exact .inl ⟨.inl asks, by rw [marks, failed]⟩
      · by_cases legible : first.IsLegible
        · rcases first.exists_marks colors legible with ⟨one, read⟩
          rcases hypothesis with ⟨asks, failed⟩ | ⟨calm, agreed⟩
          · exact .inl ⟨.inr ⟨legible, asks⟩, by rw [marks, same, read, failed]⟩
          · exact .inr ⟨by tauto, by rw [marks, marks, same, agreed]⟩
        · have unread := first.marks_of_not_isLegible colors legible
          exact .inr ⟨by tauto, by rw [marks, marks, same, unread]⟩

variable (align : Alignment) (text : List Char)

theorem parse_exhausted :
    (AsksForColor (attributesOf text) ∧
        parse Color.exhausted align text = .error .outOfMemory) ∨
      (¬ AsksForColor (attributesOf text) ∧
        parse Color.exhausted align text = parse (fun name => some (colors name)) align text) := by
  rcases marks_exhausted colors (Piece.split (untilNul text)) with
    ⟨asks, failed⟩ | ⟨quiet, agreed⟩
  · exact .inl ⟨asks, by rw [parse, failed]⟩
  · exact .inr ⟨quiet, by rw [parse, parse, agreed]⟩

/-- A lookup that answers never makes the reading give up. -/
theorem parse_ne_outOfMemory :
    parse (fun name => some (colors name)) align text ≠ .error .outOfMemory := by
  by_cases legible : IsLegible text
  · rcases parse_of_isLegible colors align text legible with ⟨outcome, read, -⟩
    rw [read]
    exact nofun
  · rw [parse_of_not_isLegible colors align text legible]
    exact nofun

end

/-! ## All lookups -/

/--
Under two lookups that always answer, a text is read with the same place and the same segments, up
to their four colours, or fails in the same way.  A colour that is not plain is what the lookup
answers to the value of the attribute that settles it, in some font tag of the text.

A lookup that gives up makes the reading give up exactly if an attribute of the text's font tags
names a colour and each attribute before it can be read.  Otherwise it is as good as the lookup of
the web names.
-/
theorem lookup_decides_over_colors
    (one other : String → Color)
    (align : Alignment)
    (text : List Char) :
    (parse (fun name => some (one name)) align text).map Outcome.uncolored =
        (parse (fun name => some (other name)) align text).map Outcome.uncolored ∧
      (∀ outcome,
        parse (fun name => some (one name)) align text = .ok outcome →
          ∀ segment ∈ outcome.segments, ∀ field : FontField,
            field.isColor = true →
              field.value segment.style ≠ field.value Style.plain →
                ∃ (attributes : List Attribute) (written : Attribute),
                  .openFont attributes ∈ Piece.split (untilNul text) ∧
                    written.Settles field attributes ∧
                    field.value segment.style = .inr (one (String.ofList written.value))) ∧
      (parse Color.exhausted align text = .error .outOfMemory ↔
        AsksForColor (attributesOf text)) ∧
      (¬ AsksForColor (attributesOf text) →
        parse Color.exhausted align text = parse Color.byName align text) := by
  have exhausted := parse_exhausted Color.ofName align text
  have answered := parse_ne_outOfMemory Color.ofName align text
  refine ⟨map_uncolored_parse one other align text, ?_, ?_, ?_⟩
  · intro outcome read segment member field color different
    rcases origin_of_parse read member field with
      plain | ⟨attributes, written, tag, settles, stands⟩
    · exact (different plain).elim
    · refine ⟨attributes, written, tag, settles, ?_⟩
      cases field with
      | color | outlineColor | shadowColor | backColor => exact (Option.some_inj.1 stands).symm
      | face | family | size | outlineLevel | shadowLevel | alpha => cases color
  · constructor
    · intro failed
      rcases exhausted with ⟨asks, -⟩ | ⟨-, agreed⟩
      · exact asks
      · exact (answered (agreed.symm.trans failed)).elim
    · intro asks
      rcases exhausted with ⟨-, failed⟩ | ⟨quiet, -⟩
      · exact failed
      · exact (quiet asks).elim
  · intro quiet
    rcases exhausted with ⟨asks, -⟩ | ⟨-, agreed⟩
    · exact (quiet asks).elim
    · exact agreed

/-- The second tag's colour replaces the first one's, and the lookup that gives up ends it all. -/
theorem lookup_decides_over_colors_of_nested :
    ∃ outcome,
      parse (fun name => some name.length) ⟨8⟩ "<font color=a>b<font Color=cd>e".toList =
          .ok outcome ∧
        (∃ segment ∈ outcome.segments,
          segment.style.fontColor = 2 ∧
            ∃ (attributes : List Attribute) (written : Attribute),
              .openFont attributes ∈
                  Piece.split (untilNul "<font color=a>b<font Color=cd>e".toList) ∧
                written.Settles .color attributes ∧
                (2 : Int) = (String.ofList written.value).length) ∧
        parse Color.exhausted ⟨8⟩ "<font color=a>b<font Color=cd>e".toList =
          .error .outOfMemory := by
  have read :
      parse (fun name => some name.length) ⟨8⟩ "<font color=a>b<font Color=cd>e".toList =
        .ok ⟨[⟨"", {}⟩, ⟨"b", { fontColor := 1 }⟩, ⟨"e", { fontColor := 2 }⟩], ⟨8⟩⟩ := by
    cbv
  have pieces :
      attributesOf "<font color=a>b<font Color=cd>e".toList =
        [⟨"color".toList, "a".toList⟩, ⟨"Color".toList, "cd".toList⟩] := by
    cbv
  rcases lookup_decides_over_colors (fun name => name.length) Color.ofName ⟨8⟩
      "<font color=a>b<font Color=cd>e".toList with ⟨-, settled, failed, -⟩
  refine ⟨_, read, ⟨⟨"e", { fontColor := 2 }⟩, by simp, rfl, ?_⟩, failed.2 ?_⟩
  · rcases settled _ read ⟨"e", { fontColor := 2 }⟩ (by simp) .color rfl (by decide) with
      ⟨attributes, written, tag, settles, answer⟩
    exact ⟨attributes, written, tag, settles, Sum.inr_injective answer⟩
  · rw [pieces]
    exact ⟨[], _, _, rfl, ⟨.color, by decide, rfl⟩, List.forall_mem_nil _⟩

end Markup

end TimedText
