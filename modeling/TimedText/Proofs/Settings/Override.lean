import TimedText.Proofs.Settings.Relevance
import TimedText.Proofs.Settings.Sharing
import TimedText.Proofs.Settings.Variable

/-!
# Settings that an environment puts over those of a file

An environment changes the settings that its variables stand for, and nothing else: as long as no
section that it changes stands in another place too, and no section is the whole file.  Then the
order of variables with different names does not matter, and variables for settings that there are
not do not matter at all.

A section with an anchor may stand in several places of a file.  It is one mapping wherever it
stands, so that a variable for the one section changes the other too.
-/

namespace TimedText

namespace Environment

/-! ## One variable -/

/-- A section with one setting changed. -/
def revised (field : String) (value : Value) : (before : Option Value) → Value
  | none => .mapping [(.name field, value)]
  | some (.mapping inner) => .mapping (Entries.put inner field value)
  | some (.shared anchor inner) => .shared anchor (Entries.put inner field value)
  | some other => other

theorem revised_of_foreign
    (field : String)
    (value old : Value)
    (noMapping : Settings.fields? (some old) = none) :
    revised field value (some old) = old := by
  cases old with
  | mapping | shared => cases noMapping
  | null | bool | int | real | text | garbledText | bytes | date | moment | list | set | loop => rfl

/-- A changed section has the setting put into its entries. -/
theorem fields?_revised (field : String) (value : Value) (before : Option Value) :
    Settings.fields? (some (revised field value before)) =
      (Settings.fields? before).map fun inner => inner.put field value := by
  cases before with
  | none => rfl
  | some old =>
      cases Settings.form old with
      | mapping inner => rfl
      | shared anchor inner => rfl
      | foreign _ noMapping => rw [revised_of_foreign field value old noMapping, noMapping]; rfl

/-- A changed section is shared only if it was so before. -/
theorem eq_shared_of_revised
    (field : String)
    (value : Value)
    (before : Option Value)
    (anchor : String)
    (inner : Entries)
    (same : revised field value before = .shared anchor inner) :
    ∃ old, before = some (.shared anchor old) := by
  cases before with
  | none => cases same
  | some old =>
      cases Settings.form old with
      | mapping => cases same
      | shared name inner =>
          cases same
          exact ⟨inner, rfl⟩
      | foreign _ noMapping =>
          rw [revised_of_foreign field value old noMapping] at same
          rw [same] at noMapping
          cases noMapping

/-- A changed section is a loop only if it was so before. -/
theorem eq_loop_of_revised
    (field : String)
    (value : Value)
    (before : Option Value)
    (anchor : String)
    (same : revised field value before = .loop anchor) :
    before = some (.loop anchor) := by
  cases before with
  | none => cases same
  | some old =>
      cases Settings.form old with
      | mapping | shared => cases same
      | foreign _ noMapping => rw [← same, revised_of_foreign field value old noMapping]

/-- A change of a section that stands in one place is a change of one entry. -/
theorem change_eq_put
    (entries : Entries)
    (place : Place)
    (value : Value)
    (unlooped : ∀ anchor, entries.get? place.part ≠ some (.loop anchor))
    (alone : entries.Alone place.part) :
    change entries place value =
      entries.put place.part (revised place.field value (entries.get? place.part)) := by
  unfold change
  cases found : entries.get? place.part with
  | none => rfl
  | some before =>
      cases before with
      | mapping inner => rfl
      | shared anchor inner =>
          exact Entries.renewEntries_eq_put _ _ anchor inner _ found (alone anchor inner found)
      | loop anchor => exact (unlooped anchor found).elim
      | null | bool | int | real | text | garbledText | bytes | date | moment | list | set =>
          exact (Entries.put_of_get? entries _ _ found).symm

/-- The value of a variable is no mapping. -/
theorem mentions_setting (field text anchor : String) :
    (setting field text).mentions anchor = false := by
  unfold setting
  split
  next => rfl
  next =>
    split
    next => rfl
    next => rfl
    next => split <;> rfl

/-- A section with one setting changed brings no other mappings than before. -/
theorem mentions_revised
    (anchor field : String)
    (value : Value)
    (before : Option Value)
    (free : ∀ old, before = some old → old.mentions anchor = false)
    (plain : value.mentions anchor = false) :
    (revised field value before).mentions anchor = false := by
  cases before with
  | none => simp [revised, Value.mentions, Value.mentionsIn, plain]
  | some old =>
      have without := free old rfl
      cases Settings.form old with
      | mapping inner =>
          rw [Value.mentions] at without
          rw [revised, Value.mentions, Value.mentionsIn_put anchor inner field value without plain]
      | shared name inner =>
          rw [Value.mentions, Bool.or_eq_false_iff] at without
          rw [revised, Value.mentions, without.1,
            Value.mentionsIn_put anchor inner field value without.2 plain, Bool.false_or]
      | foreign _ noMapping => rwa [revised_of_foreign field value old noMapping]

/-- A change of one setting leaves sections that stand in one place there. -/
theorem alone_put_revised
    (entries : Entries)
    (part other field : String)
    (value : Value)
    (plain : ∀ anchor, value.mentions anchor = false)
    (alone : entries.Alone other) :
    (entries.put part (revised field value (entries.get? part))).Alone other := by
  intro anchor inner found
  rw [Entries.get?_put] at found
  by_cases same : other = part
  · subst same
    rw [if_pos rfl, Option.some_inj] at found
    rcases eq_shared_of_revised field value _ anchor inner found with ⟨old, before⟩
    rw [Entries.besides_put_self entries other _ _ before]
    exact alone anchor old before
  · rw [if_neg same] at found
    rw [Entries.besides_put_of_ne entries part other _ (Ne.symm same)]
    have free := alone anchor inner found
    refine Value.mentionsIn_put anchor _ part _ free (mentions_revised _ _ _ _ ?_ (plain anchor))
    intro old before
    rw [← Entries.get?_besides_of_ne entries part other (Ne.symm same)] at before
    exact Entries.mentions_of_get? anchor _ part old before free

/-! ## Entries whose sections stand apart -/

/-- No section is the whole file, and each section that is addressed stands in one place only. -/
structure Apart (environment : Environment) (entries : Entries) : Prop where
  unlooped : ∀ part anchor, entries.get? part ≠ some (.loop anchor)
  alone :
    ∀ entry ∈ environment.entries,
      ∀ place, place? entry.1 = some place → entries.Alone place.part

variable (entry : String × String) (rest : List (String × String)) (entries : Entries)

/-- One variable puts one section anew. -/
theorem overrideOne_eq_put
    (apart : Apart ⟨entry :: rest⟩ entries)
    (place : Place)
    (found : place? entry.1 = some place) :
    overrideOne entries entry =
      entries.put place.part
        (revised place.field (setting place.field entry.2) (entries.get? place.part)) := by
  rw [overrideOne, found]
  exact change_eq_put entries place _ (apart.unlooped place.part)
    (apart.alone entry List.mem_cons_self place found)

/-- After one variable the sections still stand apart. -/
theorem apart_overrideOne (apart : Apart ⟨entry :: rest⟩ entries) :
    Apart ⟨rest⟩ (overrideOne entries entry) := by
  have later : Apart ⟨rest⟩ entries :=
    ⟨apart.unlooped, fun other member => apart.alone other (List.mem_cons_of_mem entry member)⟩
  cases found : place? entry.1 with
  | none => rwa [overrideOne, found]
  | some place =>
      rw [overrideOne_eq_put entry rest entries apart place found]
      refine ⟨fun part anchor => ?_, fun other member target again => ?_⟩
      · rw [Entries.get?_put]
        split
        next =>
          intro looped
          exact apart.unlooped place.part anchor
            (eq_loop_of_revised _ _ _ anchor (Option.some_inj.1 looped))
        next => exact apart.unlooped part anchor
      · exact alone_put_revised entries place.part target.part place.field _
          (mentions_setting _ _) (later.alone other member target again)

/-! ## All variables -/

/-- The settings of a section that variables stand for, with their values, in order. -/
def fieldsOf (list : List (String × String)) (part : String) : List (String × Value) :=
  list.filterMap fun entry =>
    (place? entry.1).bind fun place =>
      if place.part = part then some (place.field, setting place.field entry.2) else none

/-- A section with several settings changed, one after the other. -/
def revisedAll (fields : List (String × Value)) (before : Option Value) : Option Value :=
  fields.foldl (fun before field => some (revised field.1 field.2 before)) before

/-- A section after all variables has the settings changed that they stand for. -/
theorem get?_override
    (environment : Environment)
    (apart : environment.Apart entries)
    (part : String) :
    (environment.override entries).get? part =
      revisedAll (fieldsOf environment.entries part) (entries.get? part) := by
  obtain ⟨list⟩ := environment
  rw [override]
  dsimp only
  induction list generalizing entries with
  | nil => rfl
  | cons entry rest hypothesis =>
      rw [List.foldl_cons, hypothesis _ (apart_overrideOne entry rest entries apart), fieldsOf,
        fieldsOf, List.filterMap_cons]
      cases found : place? entry.1 with
      | none => rw [overrideOne, found]; rfl
      | some place =>
          rw [overrideOne_eq_put entry rest entries apart place found, Entries.get?_put]
          by_cases same : place.part = part
          · subst same
            simp [revisedAll]
          · simp [same, Ne.symm same]

/-- Keys that are no text are left alone. -/
theorem unnamed_override (environment : Environment) (apart : environment.Apart entries) :
    (environment.override entries).unnamed = entries.unnamed := by
  obtain ⟨list⟩ := environment
  rw [override]
  dsimp only
  induction list generalizing entries with
  | nil => rfl
  | cons entry rest hypothesis =>
      rw [List.foldl_cons, hypothesis _ (apart_overrideOne entry rest entries apart)]
      cases found : place? entry.1 with
      | none => rw [overrideOne, found]
      | some place =>
          rw [overrideOne_eq_put entry rest entries apart place found, Entries.unnamed_put]

/-- The last value that variables give to a setting of a section is the one that it is given. -/
theorem last?_fieldsOf (environment : Environment) (place : Place) :
    Entries.last? (fieldsOf environment.entries place.part) place.field =
      environment.given? place := by
  obtain ⟨list⟩ := environment
  have same :
      (fieldsOf list place.part).filter (fun field => field.1 = place.field) =
        (list.filter fun entry => place? entry.1 = some place).map fun entry =>
          (place.field, setting place.field entry.2) := by
    induction list with
    | nil => rfl
    | cons entry rest hypothesis =>
        rw [fieldsOf] at hypothesis ⊢
        rw [List.filterMap_cons, List.filter_cons]
        cases found : place? entry.1 with
        | none => simpa using hypothesis
        | some other =>
            obtain ⟨part, field⟩ := place
            obtain ⟨otherPart, otherField⟩ := other
            by_cases samePart : otherPart = part
            · by_cases sameField : otherField = field
              · simpa [samePart, sameField] using hypothesis
              · simpa [samePart, sameField] using hypothesis
            · simpa [samePart] using hypothesis
  rw [Entries.last?, same, given?, standingFor, List.getLast?_map, Option.map_map]
  rfl

/-! ## What becomes of a section -/

/-- The entries of a section with all settings changed that an environment gives. -/
structure Overlays (environment : Environment) (part : String) (before after : Entries) : Prop where
  named : ∀ field, after.get? field = (environment.given? ⟨part, field⟩).or (before.get? field)
  unnamed : after.unnamed = before.unnamed

/--
What an environment makes of a section: a section that is not there comes up with the settings that
are given, a mapping gets them, and anything else stays.
-/
inductive Revises (environment : Environment) (part : String) :
    (before after : Option Value) → Prop where
  | absent
      (nothing : ∀ field, environment.given? ⟨part, field⟩ = none) :
      Revises environment part none none
  | created
      (after : Entries)
      (something : ∃ field, (environment.given? ⟨part, field⟩).isSome = true)
      (overlays : environment.Overlays part [] after) :
      Revises environment part none (some (.mapping after))
  | changed
      (before after : Entries)
      (overlays : environment.Overlays part before after) :
      Revises environment part (some (.mapping before)) (some (.mapping after))
  | shared
      (anchor : String)
      (before after : Entries)
      (overlays : environment.Overlays part before after) :
      Revises environment part (some (.shared anchor before)) (some (.shared anchor after))
  | foreign
      (value : Value)
      (noMapping : Settings.fields? (some value) = none) :
      Revises environment part (some value) (some value)

theorem overlays_putAll (environment : Environment) (part : String) :
    environment.Overlays part entries (entries.putAll (fieldsOf environment.entries part)) where
  named field := by rw [Entries.get?_putAll, last?_fieldsOf environment ⟨part, field⟩]
  unnamed := Entries.unnamed_putAll entries _

section RevisedAll

variable (fields : List (String × Value))

theorem revisedAll_mapping (inner : Entries) :
    revisedAll fields (some (.mapping inner)) = some (.mapping (inner.putAll fields)) := by
  induction fields generalizing inner with
  | nil => rfl
  | cons field rest hypothesis => exact hypothesis (inner.put field.1 field.2)

theorem revisedAll_shared (anchor : String) (inner : Entries) :
    revisedAll fields (some (.shared anchor inner)) =
      some (.shared anchor (inner.putAll fields)) := by
  induction fields generalizing inner with
  | nil => rfl
  | cons field rest hypothesis => exact hypothesis (inner.put field.1 field.2)

theorem revisedAll_foreign (value : Value) (noMapping : Settings.fields? (some value) = none) :
    revisedAll fields (some value) = some value := by
  induction fields with
  | nil => rfl
  | cons field rest hypothesis =>
      rw [revisedAll, List.foldl_cons, revised_of_foreign _ _ value noMapping]
      exact hypothesis

end RevisedAll

/-- What an environment makes of each section. -/
theorem revises_override
    (environment : Environment)
    (apart : environment.Apart entries)
    (part : String) :
    environment.Revises part (entries.get? part) ((environment.override entries).get? part) := by
  rw [get?_override entries environment apart part]
  have overlays (before : Entries) := overlays_putAll before environment part
  have given (field : String) :
      Entries.last? (fieldsOf environment.entries part) field =
        environment.given? ⟨part, field⟩ :=
    last?_fieldsOf environment ⟨part, field⟩
  generalize entries.get? part = before, fieldsOf environment.entries part = fields
    at overlays given ⊢
  cases before with
  | none =>
      cases fields with
      | nil => exact .absent fun field => (given field).symm
      | cons first rest =>
          have whole :
              revisedAll (first :: rest) none =
                some (.mapping (Entries.putAll [] (first :: rest))) :=
            revisedAll_mapping rest [(.name first.1, first.2)]
          rw [whole]
          refine .created _ ⟨first.1, ?_⟩ (overlays [])
          rw [← given first.1, Entries.last?_cons, if_pos rfl]
          cases Entries.last? rest first.1 <;> rfl
  | some value =>
      cases Settings.form value with
      | mapping inner =>
          rw [revisedAll_mapping]
          exact .changed inner _ (overlays inner)
      | shared anchor inner =>
          rw [revisedAll_shared]
          exact .shared anchor inner _ (overlays inner)
      | foreign _ noMapping =>
          rw [revisedAll_foreign fields value noMapping]
          exact .foreign value noMapping

/-! ## Environments that give the same -/

/-- Two values that are equal, or mappings that give the same value to each name. -/
inductive SameSection : (one other : Value) → Prop where
  | equal (value : Value) : SameSection value value
  | mapping
      (one other : Entries)
      (named : one.get? = other.get?)
      (unnamed : one.unnamed = other.unnamed) :
      SameSection (.mapping one) (.mapping other)
  | shared
      (anchor : String)
      (one other : Entries)
      (named : one.get? = other.get?)
      (unnamed : one.unnamed = other.unnamed) :
      SameSection (.shared anchor one) (.shared anchor other)

theorem named_of_overlays
    (environment other : Environment)
    (same : environment.given? = other.given?)
    (part : String)
    (before after otherAfter : Entries)
    (overlays : environment.Overlays part before after)
    (otherOverlays : other.Overlays part before otherAfter) :
    after.get? = otherAfter.get? := by
  funext field
  rw [overlays.named, otherOverlays.named, same]

/-- What becomes of a section is settled by the values that are given. -/
theorem sameSection_of_revises
    (environment other : Environment)
    (same : environment.given? = other.given?)
    (part : String)
    (before after otherAfter : Option Value)
    (revises : environment.Revises part before after)
    (otherRevises : other.Revises part before otherAfter) :
    Option.Rel SameSection after otherAfter := by
  cases revises with
  | absent nothing =>
      cases otherRevises with
      | absent => exact .none
      | created _ something =>
          rcases something with ⟨field, something⟩
          rw [← same, nothing field] at something
          cases something
  | created after something overlays =>
      cases otherRevises with
      | absent nothing =>
          rcases something with ⟨field, something⟩
          rw [same, nothing field] at something
          cases something
      | created otherAfter _ otherOverlays =>
          have named := named_of_overlays environment other same part _ _ _ overlays otherOverlays
          exact .some (.mapping _ _ named (overlays.unnamed.trans otherOverlays.unnamed.symm))
  | changed before after overlays =>
      cases otherRevises with
      | changed _ otherAfter otherOverlays =>
          have named := named_of_overlays environment other same part _ _ _ overlays otherOverlays
          exact .some (.mapping _ _ named (overlays.unnamed.trans otherOverlays.unnamed.symm))
      | foreign _ noMapping => cases noMapping
  | shared anchor before after overlays =>
      cases otherRevises with
      | shared _ _ otherAfter otherOverlays =>
          have named := named_of_overlays environment other same part _ _ _ overlays otherOverlays
          exact .some (.shared _ _ _ named (overlays.unnamed.trans otherOverlays.unnamed.symm))
      | foreign _ noMapping => cases noMapping
  | foreign value noMapping =>
      cases otherRevises with
      | changed | shared => cases noMapping
      | foreign => exact .some (.equal value)

/-- After all variables no section is the whole file. -/
theorem unlooped_override
    (environment : Environment)
    (apart : environment.Apart entries)
    (part anchor : String) :
    (environment.override entries).get? part ≠ some (.loop anchor) := by
  intro looped
  have revises := revises_override entries environment apart part
  rw [looped] at revises
  generalize before : entries.get? part = old at revises
  cases revises with
  | foreign => exact apart.unlooped part anchor before

theorem fields?_revisedAll (fields : List (String × Value)) (before : Option Value) :
    Settings.fields? (revisedAll fields before) =
      (Settings.fields? before).map fun inner => inner.putAll fields := by
  induction fields generalizing before with
  | nil => exact Option.map_id'.symm
  | cons field rest hypothesis =>
      rw [revisedAll, List.foldl_cons]
      refine (hypothesis _).trans ?_
      rw [fields?_revised, Option.map_map]
      rfl

/-- Environments that give the same values to all settings that there are come to the same. -/
theorem validate_override_congr
    (environment other : Environment)
    (apart : environment.Apart entries)
    (otherApart : other.Apart entries)
    (same : ∀ part field,
      Settings.isKnown part field = true →
        environment.given? ⟨part, field⟩ = other.given? ⟨part, field⟩) :
    Settings.validate (environment.override entries) =
      Settings.validate (other.override entries) := by
  refine Settings.validate_congr _ _ (unlooped_override entries environment apart)
    (unlooped_override entries other otherApart) fun part => ?_
  rw [get?_override entries environment apart, get?_override entries other otherApart,
    fields?_revisedAll, fields?_revisedAll]
  cases Settings.fields? (entries.get? part) with
  | none => exact .none
  | some inner =>
      refine .some fun field known => ?_
      rw [(overlays_putAll inner environment part).named, (overlays_putAll inner other part).named,
        same part field known]

theorem ofEntries_congr
    (environment other : Environment)
    (same :
      Settings.validate (environment.override entries) =
        Settings.validate (other.override entries)) :
    Settings.ofEntries environment entries = Settings.ofEntries other entries := by
  rw [Settings.ofEntries, Settings.ofEntries, same]

/-- The environment with just the variables for settings that there are. -/
def known (environment : Environment) : Environment where
  entries :=
    environment.entries.filter fun entry =>
      (place? entry.1).any fun place => Settings.isKnown place.part place.field

theorem given?_known
    (environment : Environment)
    (place : Place)
    (isKnown : Settings.isKnown place.part place.field = true) :
    environment.known.given? place = environment.given? place := by
  have same : environment.known.standingFor place = environment.standingFor place := by
    rw [standingFor, known, List.filter_filter, standingFor]
    refine List.filter_congr fun entry member => ?_
    by_cases found : place? entry.1 = some place
    · simp [found, isKnown]
    · simp [found]
  rw [given?, same, given?]

/-! ## All that an environment does -/

/--
An environment changes the settings that its variables stand for, each to the value of the last one,
and nothing else: a section that is not there comes up if there is something for it, a mapping keeps
its other settings, and any other value stays.  The order of variables whose names differ in small
letters does not matter.  Variables for settings that there are not do not matter at all.
-/
theorem override_changes_addressed_settings
    (environment : Environment)
    (entries : Entries)
    (apart : environment.Apart entries) :
    (∀ part,
      environment.Revises part (entries.get? part)
        ((environment.override entries).get? part)) ∧
      (environment.override entries).unnamed = entries.unnamed ∧
      (∀ other : Environment,
        environment.entries.Perm other.entries →
          (environment.entries.map fun entry => Text.lowered entry.1).Nodup →
            (∀ part,
              Option.Rel SameSection ((environment.override entries).get? part)
                ((other.override entries).get? part)) ∧
              (other.override entries).unnamed = entries.unnamed ∧
              Settings.ofEntries other entries = Settings.ofEntries environment entries) ∧
      Settings.ofEntries environment.known entries = Settings.ofEntries environment entries := by
  have unnamed := unnamed_override entries
  have revises := revises_override entries
  have within (other : Environment)
      (fewer : ∀ entry ∈ other.entries, entry ∈ environment.entries) : other.Apart entries :=
    ⟨apart.unlooped, fun entry member => apart.alone entry (fewer entry member)⟩
  refine ⟨revises environment apart, unnamed environment apart, fun other reordered distinct => ?_,
    ?_⟩
  · have otherApart := within other fun _ => reordered.mem_iff.2
    have same := given?_eq_of_perm environment other reordered distinct
    refine ⟨fun part => ?_, unnamed other otherApart, ?_⟩
    · exact sameSection_of_revises environment other same part _ _ _
        (revises environment apart part) (revises other otherApart part)
    · refine ofEntries_congr entries other environment
        (validate_override_congr entries other environment otherApart apart ?_)
      intro part field _
      rw [same]
  · have knownApart := within environment.known fun _ member => List.mem_of_mem_filter member
    refine ofEntries_congr entries environment.known environment
      (validate_override_congr entries environment.known environment knownApart apart ?_)
    intro part field isKnown
    exact given?_known environment ⟨part, field⟩ isKnown

/-- A decoder section with an anchor, which stands beside a section that is nothing. -/
def anchoredDecoder : Entries :=
  [(.name "decoder", .shared "d" [(.name "align", .int 1)]), (.name "base", .null)]

/-- Two spellings of the alignment, a setting that there is not, and a section of nothing. -/
def severalAlignments : Environment where
  entries :=
    [ ("SUBSDEC_DECODER_ALIGN", "0"), ("SUBSDEC_decoder_align", "2"),
      ("SUBSDEC_SYSTEM_COLOUR", "red"), ("SUBSDEC_BASE_ALIGN", "1") ]

/-- The later alignment counts, the section of nothing stays, and the colour makes no difference. -/
theorem override_changes_addressed_settings_of_anchoredDecoder :
    severalAlignments.Apart anchoredDecoder ∧
      severalAlignments.Revises "decoder" (some (.shared "d" [(.name "align", .int 1)]))
        ((severalAlignments.override anchoredDecoder).get? "decoder") ∧
      severalAlignments.Revises "base" (some .null)
        ((severalAlignments.override anchoredDecoder).get? "base") ∧
      Settings.ofEntries severalAlignments anchoredDecoder =
        .ok { decoder := { align := .right } } := by
  have sections (name : String) (value : Value) (found : anchoredDecoder.get? name = some value) :
      (name = "decoder" ∧ value = .shared "d" [(.name "align", .int 1)]) ∨ value = .null := by
    by_cases decoder : name = "decoder"
    · subst decoder
      exact .inl ⟨rfl, (Option.some_inj.1 found).symm⟩
    · by_cases base : name = "base"
      · subst base
        exact .inr (Option.some_inj.1 found).symm
      · rw [anchoredDecoder, Entries.get?_cons_of_ne _ _ _ _ (by simpa using Ne.symm decoder),
          Entries.get?_cons_of_ne _ _ _ _ (by simpa using Ne.symm base)] at found
        cases found
  have apart : severalAlignments.Apart anchoredDecoder := by
    refine ⟨fun part anchor looped => ?_, fun _ _ place _ anchor inner shared => ?_⟩
    · rcases sections part _ looped with ⟨-, other⟩ | other <;> cases other
    · rcases sections place.part _ shared with ⟨decoder, same⟩ | other
      · cases same
        rw [decoder]
        rfl
      · cases other
  rcases override_changes_addressed_settings severalAlignments anchoredDecoder apart with
    ⟨revises, -, -, known⟩
  refine ⟨apart, revises "decoder", revises "base", ?_⟩
  rw [← known]
  decide +kernel

/-- A variable for one section changes another one which is the same mapping. -/
theorem shared_section_is_changed_too :
    let bytes := Encoding.Utf8.encode "base: &b\n  align: 1\ndecoder: *b\n".toList
    let environment : Environment := ⟨[("SUBSDEC_BASE_ALIGN", "2")]⟩
    (environment.given? ⟨"decoder", "align"⟩).isSome = false ∧
      Settings.ofBytes {} bytes = .ok { decoder := { align := .left } } ∧
      Settings.ofBytes environment bytes = .ok { decoder := { align := .right } } := by
  decide +kernel

end Environment

end TimedText
