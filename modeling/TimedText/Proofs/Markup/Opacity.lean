import TimedText.Proofs.Markup.Origin
import TimedText.Proofs.Markup.StyleRange

/-!
# How opaque a text can be

The opacity of a style is meant to be a byte.  No tag but a font tag sets it, and a font tag sets it
to the number that stands in its last attribute of that name, whatever that number is.  So among all
that a style must keep to, the opacity is what a text can get wrong: the switches have names and the
colours have twenty-four bits, always, but the opacity is a byte in every segment exactly if the
number in each of those attributes is one.
-/

namespace TimedText

namespace Style

/-- A style whose opacity is a byte. -/
def HasOpacity (style : Style) : Prop :=
  0 ≤ style.fontAlpha ∧ style.fontAlpha ≤ 0xFF

instance (style : Style) : Decidable style.HasOpacity :=
  inferInstanceAs (Decidable (0 ≤ style.fontAlpha ∧ style.fontAlpha ≤ 0xFF))

end Style

namespace Markup

variable {lookup : Color.Lookup} {align : Alignment} {text : List Char} {outcome : Outcome}

/-- An attribute with the number of a byte at the start of its value. -/
def Attribute.IsByte (written : Attribute) : Prop :=
  ∀ number, Text.leadingInteger written.value = some number → 0 ≤ number ∧ number ≤ 0xFF

theorem Attribute.isByte_iff_hasOpacity
    {written : Attribute}
    {style : Style}
    (stands :
      FontField.alpha.content? lookup written.value = some (FontField.alpha.value style)) :
    written.IsByte ↔ style.HasOpacity := by
  rcases Option.map_eq_some_iff.1 stands with ⟨number, read, same⟩
  rw [IsByte, Style.HasOpacity, ← Sum.inr_injective same]
  constructor
  · intro each
    exact each number read
  · intro range other again
    rwa [← Option.some_inj.1 (read.symm.trans again)]

/-- The opacity is a byte in all segments if it is one wherever a font tag of the text sets it. -/
theorem hasOpacity_iff
    (read : parse lookup align text = .ok outcome) :
    (∀ segment ∈ outcome.segments, segment.style.HasOpacity) ↔
      ∀ attributes,
        .openFont attributes ∈ Piece.split (untilNul text) →
          ∀ written, Attribute.Settles .alpha written attributes → written.IsByte := by
  constructor
  · intro opacity attributes tag written settles
    rcases exists_segment_of_settles read tag settles with ⟨segment, member, stands⟩
    exact (Attribute.isByte_iff_hasOpacity stands).2 (opacity segment member)
  · intro bytes segment member
    rcases origin_of_parse read member .alpha with
      plain | ⟨attributes, written, tag, settles, stands⟩
    · rw [Style.HasOpacity, Sum.inr_injective plain]
      decide
    · exact (Attribute.isByte_iff_hasOpacity stands).1 (bytes attributes tag written settles)

/--
With the colours of the web, every segment of a text has named switches only and four colours of
twenty-four bits.  Its opacity is a byte in every segment exactly if each font tag of the text that
names the opacity has the number of a byte in its last attribute that does.
-/
theorem range_of_styles
    (align : Alignment)
    (text : List Char)
    (outcome : Outcome)
    (read : parse Color.byName align text = .ok outcome) :
    (∀ segment ∈ outcome.segments, segment.style.InRange) ∧
      ((∀ segment ∈ outcome.segments, segment.style.HasOpacity) ↔
        ∀ attributes,
          .openFont attributes ∈ Piece.split (untilNul text) →
            ∀ written, Attribute.Settles .alpha written attributes → written.IsByte) :=
  ⟨inRange_of_parse Color.isProper_byName align text outcome read, hasOpacity_iff read⟩

/-- Numbers that are no bytes do no harm where a later attribute of their tag replaces them. -/
theorem range_of_styles_of_replaced :
    ∃ outcome,
      parse Color.byName ⟨8⟩ "<font alpha=900 ALPHA=-1 alpha='7up'>a</i>b".toList = .ok outcome ∧
        outcome.segments.length = 3 ∧
          (∀ segment ∈ outcome.segments, segment.style.InRange) ∧
            ∀ attributes,
              .openFont attributes ∈
                  Piece.split (untilNul "<font alpha=900 ALPHA=-1 alpha='7up'>a</i>b".toList) →
                ∀ written, Attribute.Settles .alpha written attributes → written.IsByte := by
  have read :
      parse Color.byName ⟨8⟩ "<font alpha=900 ALPHA=-1 alpha='7up'>a</i>b".toList =
        .ok ⟨[⟨"", {}⟩, ⟨"a", { fontAlpha := 7 }⟩, ⟨"b", {}⟩], ⟨8⟩⟩ := by
    cbv
  rcases range_of_styles _ _ _ read with ⟨range, opacity⟩
  exact ⟨_, read, rfl, range, opacity.1 (by decide)⟩

/-- An opacity of 256 is taken as it is written. -/
theorem range_of_styles_exceeded :
    ∃ outcome,
      parse Color.byName ⟨8⟩ "<font alpha=256>a".toList = .ok outcome ∧
        ∃ segment ∈ outcome.segments,
          segment.style.fontAlpha = 256 ∧ ¬ segment.style.HasOpacity := by
  have read :
      parse Color.byName ⟨8⟩ "<font alpha=256>a".toList =
        .ok ⟨[⟨"", {}⟩, ⟨"a", { fontAlpha := 256 }⟩], ⟨8⟩⟩ := by
    cbv
  exact ⟨_, read, _, List.mem_cons_of_mem _ List.mem_cons_self, rfl, by decide⟩

end Markup

end TimedText
