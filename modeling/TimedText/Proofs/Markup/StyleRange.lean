import Mathlib
import TimedText.Proofs.Markup.Segment

/-!
# Styles within range

Not every style can be asked for by markup.  Its openings turn on switches that have names, and set
colours to what the lookup finds for them.  So if the lookup finds colours of twenty-four bits only,
as the one of the web names does, every segment of a text has such colours and no switch without a
name.  Numbers and font names are not limited in this way.

The main statement follows the ranges that are open around a segment: the plain style is within
range, and no opening leads out of it.
-/

namespace TimedText

namespace Color

/-- A colour of twenty-four bits. -/
def IsProper (color : Color) : Prop :=
  0 ≤ color ∧ color ≤ 0xFFFFFF

instance (color : Color) : Decidable color.IsProper :=
  inferInstanceAs (Decidable (0 ≤ color ∧ color ≤ 0xFFFFFF))

/-- A lookup that finds colours of twenty-four bits only. -/
def Lookup.IsProper (lookup : Lookup) : Prop :=
  ∀ name color, lookup name = some color → Color.IsProper color

theorem isProper_of_mem_named
    (entry : String × Color)
    (listed : entry ∈ named) :
    entry.2.IsProper := by
  have each := List.all_eq_true.1 named_in_range entry listed
  rw [Bool.and_eq_true, decide_eq_true_eq, decide_eq_true_eq] at each
  exact each

theorem isProper_ofName (name : String) : (ofName name).IsProper := by
  unfold ofName
  generalize Text.lowered (Text.trimmed name) = key
  cases found : named.lookup key with
  | none => exact ⟨le_refl 0, by decide⟩
  | some color =>
      rcases List.lookup_eq_some_iff.1 found with ⟨before, after, listed, -⟩
      have member : (key, color) ∈ named := by
        rw [listed]
        exact List.mem_append_right before List.mem_cons_self
      exact isProper_of_mem_named (key, color) member

/-- The lookup of the web names finds colours of twenty-four bits. -/
theorem isProper_byName : Lookup.IsProper byName := by
  intro name color found
  have same : ofName name = color := Option.some_inj.1 found
  exact same ▸ isProper_ofName name

end Color

namespace Style

/-- The bits of the switches that have names. -/
def namedFlags : StyleFlags := 0x63

/-- A style whose switches have names and whose colours have twenty-four bits. -/
structure InRange (style : Style) : Prop where
  flags : style.flags &&& namedFlags = style.flags
  fontColor : style.fontColor.IsProper
  outlineColor : style.outlineColor.IsProper
  shadowColor : style.shadowColor.IsProper
  backgroundColor : style.backgroundColor.IsProper

theorem inRange_plain : plain.InRange := by
  constructor <;> decide

end Style

namespace Markup

/-- What every successful step keeps holds after a row of successful steps. -/
theorem holds_of_foldlM
    {State Step : Type}
    (step? : State → Step → Option State)
    (Holds : State → Prop)
    (kept : ∀ state one after, step? state one = some after → Holds state → Holds after)
    (steps : List Step)
    (state after : State)
    (start : Holds state)
    (done : steps.foldlM step? state = some after) :
    Holds after := by
  induction steps generalizing state with
  | nil =>
      cases done
      exact start
  | cons one rest hypothesis =>
      rw [List.foldlM_cons] at done
      rcases Option.bind_eq_some_iff.1 done with ⟨middle, first, others⟩
      exact hypothesis middle (kept state one middle first start) others

variable {lookup : Color.Lookup}

/-- A field that is set by a text stays within range. -/
theorem FontField.inRange_of_set?
    (proper : lookup.IsProper)
    (field : FontField)
    (text : List Char)
    (style after : Style)
    (set : field.set? lookup style text = some after)
    (range : style.InRange) :
    after.InRange := by
  cases field with
  | face | family =>
      cases set
      exact { range with }
  | size | outlineLevel | shadowLevel | alpha =>
      rcases Option.map_eq_some_iff.1 set with ⟨number, -, rfl⟩
      exact { range with }
  | color =>
      rcases Option.map_eq_some_iff.1 set with ⟨color, found, rfl⟩
      exact { range with fontColor := proper _ color found }
  | outlineColor =>
      rcases Option.map_eq_some_iff.1 set with ⟨color, found, rfl⟩
      exact { range with outlineColor := proper _ color found }
  | shadowColor =>
      rcases Option.map_eq_some_iff.1 set with ⟨color, found, rfl⟩
      exact { range with shadowColor := proper _ color found }
  | backColor =>
      rcases Option.map_eq_some_iff.1 set with ⟨color, found, rfl⟩
      exact { range with backgroundColor := proper _ color found }

theorem Attribute.inRange_of_applyTo?
    (proper : lookup.IsProper)
    (style : Style)
    (written : Attribute)
    (after : Style)
    (applied : written.applyTo? lookup style = some after)
    (range : style.InRange) :
    after.InRange := by
  unfold applyTo? at applied
  split at applied
  next field named => exact field.inRange_of_set? proper written.value style after applied range
  next =>
    cases applied
    exact range

/-- The style inside a range that opens within range is within range. -/
theorem Opening.inRange_of_applyTo?
    (proper : lookup.IsProper)
    (style : Style)
    (opening : Opening)
    (after : Style)
    (applied : opening.applyTo? lookup style = some after)
    (range : style.InRange) :
    after.InRange := by
  cases opening with
  | flag switch =>
      cases applied
      have named : switch.bits &&& Style.namedFlags = switch.bits := by
        cases switch <;> decide
      exact { range with flags := by rw [Nat.and_or_distrib_right, range.flags, named] }
  | font attributes =>
      exact
        holds_of_foldlM (Attribute.applyTo? lookup) Style.InRange
          (Attribute.inRange_of_applyTo? proper) attributes style after range applied

theorem inRange_of_styleInside?
    (proper : lookup.IsProper)
    (ranges : List Opening)
    (style : Style)
    (inside : styleInside? lookup ranges = some style) :
    style.InRange :=
  holds_of_foldlM (Opening.applyTo? lookup) Style.InRange (Opening.inRange_of_applyTo? proper)
    ranges Style.plain style Style.inRange_plain inside

/-- Every segment of a text has a style within range, if the lookup finds proper colours. -/
theorem inRange_of_parse
    (proper : lookup.IsProper)
    (align : Alignment)
    (text : List Char)
    (outcome : Outcome)
    (read : parse lookup align text = .ok outcome)
    (segment : Segment)
    (member : segment ∈ outcome.segments) :
    segment.style.InRange := by
  rcases parse_eq_ok lookup align text outcome read with ⟨marks, realised, segments⟩
  rcases List.mem_iff_getElem?.1 member with ⟨index, found⟩
  rw [segments] at found
  exact
    inRange_of_styleInside? proper _ _
      (style_segmentsFrom lookup marks _ realised [] .empty .empty [] index segment found)

end Markup

end TimedText
