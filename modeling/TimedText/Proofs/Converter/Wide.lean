import TimedText.Markup
import TimedText.Proofs.Charset.Choice
import TimedText.Proofs.Converter.Detection
import TimedText.Proofs.Encoding.Wide

/-!
# Texts in UTF-16 and UTF-32 come through

Packets in an encoding of the UTF-16 or UTF-32 family do not end at a zero byte.  So under a fixed
byte order each packet that is the written form of a text yields that text, from the first to the
last character, and leaves the converter as it was opened.

Detection of UTF-8 is the exception.  It looks at packets of these encodings as at all others, and
the bytes of many short texts happen to be UTF-8, for instance those of all texts in basic Latin.
While detection is on such packets pass as UTF-8, with zero bytes between the letters.  From the
first packet on that is not UTF-8, every text comes through again.
-/

namespace TimedText.Converter

open Encoding (ByteOrder UnitWidth)
open Encoding.Wide (encode)

/-! ## Without detection -/

/-- A packet that is the written form of a text yields it and leaves nothing in the decoder. -/
theorem convert_wide
    (name : String)
    (width : UnitWidth)
    (order : ByteOrder)
    (text : List Char) :
    (decoding name (Encoding.wide width (some order)) false).convertWithin expansionLimit
        (encode width order text) =
      { result := .ok text, after := decoding name (Encoding.wide width (some order)) false } := by
  have whole :
      (decoding name (Encoding.wide width (some order)) false).relevant (encode width order text) =
        encode width order text :=
    rfl
  have decoded :
      (Encoding.decoder (.wide width (some order))).decode
          (Encoding.decoder (.wide width (some order))).initial (encode width order text) =
        (.ok text, (Encoding.decoder (.wide width (some order))).initial) := by
    show
      Encoding.Decoder.settle []
          ((Encoding.Wide.read width order).decodeAll 0 ([] ++ encode width order text)) =
        (.ok text, [])
    rw [List.nil_append, Encoding.Wide.decodeAll_encode]
    rfl
  have nothing :
      (Encoding.decoder (.wide width (some order))).pending
          (Encoding.decoder (.wide width (some order))).initial = [] :=
    rfl
  have within :
      ¬ expansionLimit * (encode width order text).length < (Encoding.Utf8.size text : Int) := by
    have growth := Encoding.Wide.size_le width order text
    rw [expansionLimit]
    omega
  rw [decoding_false] at whole ⊢
  rw [convertWithin_holding, whole]
  dsimp only
  rw [transform, decoded]
  dsimp only
  rw [if_neg (not_not.2 nothing), if_neg within]

theorem run_wide
    (name : String)
    (width : UnitWidth)
    (order : ByteOrder)
    (texts : List (List Char)) :
    (decoding name (Encoding.wide width (some order)) false).run expansionLimit
        (texts.map (encode width order)) =
      texts.map fun text =>
        { result := .ok text, after := decoding name (Encoding.wide width (some order)) false } := by
  induction texts with
  | nil => rfl
  | cons text others hypothesis =>
      rw [List.map_cons, run_cons, convert_wide, hypothesis, List.map_cons]

/-! ## With detection -/

/-- From the first packet on that is not UTF-8, a run over written texts yields the texts. -/
theorem step_wide_of_firstForeign_le
    (name : String)
    (width : UnitWidth)
    (order : ByteOrder)
    (detecting : Bool)
    (texts : List (List Char))
    (index : Nat)
    (text : List Char)
    (found : texts[index]? = some text)
    (behind :
      detecting = true →
        (decoding name (Encoding.wide width (some order)) true).firstForeign
            (texts.map (encode width order)) ≤ index) :
    ((decoding name (Encoding.wide width (some order)) detecting).run expansionLimit
        (texts.map (encode width order)))[index]? =
      some { result := .ok text, after := decoding name (Encoding.wide width (some order)) false } := by
  cases detecting with
  | false => rw [run_wide, List.getElem?_map, found, Option.map_some]
  | true =>
      -- The rest of the run is a run without detection over the packets that are left.
      have alike :=
        drop_firstForeign_run expansionLimit name (Encoding.wide width (some order))
          (texts.map (encode width order))
      rw [← Nat.add_sub_cancel' (behind rfl), ← List.getElem?_drop, alike, ← List.map_drop,
        run_wide, List.getElem?_map, List.getElem?_drop, Nat.add_sub_cancel' (behind rfl), found,
        Option.map_some]

/--
A converter is opened for each encoding of the family whose byte order is fixed, declared or
configured.  In a run over the written forms of texts without NUL characters, each packet yields its
text, which the parser does not cut.  The exception are the packets before the first that is not
UTF-8, if the encoding is configured and detection asked for: each of them yields the text that has
its bytes for its written form in UTF-8.
-/
theorem run_reads_wide_texts
    (preferences : Preferences)
    (platform : String)
    (declaration : Option String)
    (name : String)
    (width : UnitWidth)
    (order : ByteOrder)
    (texts : List (List Char))
    (named : Encoding.ofName name = .ok (.wide width (some order)))
    (chosen :
      Charset.declared? declaration = some name ∨
        Charset.declared? declaration = none ∧ Text.trimmed preferences.configured = name)
    (unterminated : ∀ text ∈ texts, '\x00' ∉ text) :
    ∃ converter,
      (Charset.choose preferences platform declaration false).converter = .ok (converter, none) ∧
        (∀ (index : Nat) (text : List Char),
          texts[index]? = some text →
            (Charset.declared? declaration = none → preferences.detect = true →
                converter.firstForeign (texts.map (encode width order)) ≤ index) →
              ∃ step,
                (converter.run expansionLimit (texts.map (encode width order)))[index]? =
                    some step ∧
                  step.result = .ok text ∧ Markup.untilNul text = text) ∧
        ∀ (index : Nat) (text : List Char),
          texts[index]? = some text →
            Charset.declared? declaration = none →
              preferences.detect = true →
                index < converter.firstForeign (texts.map (encode width order)) →
                  ∃ step passed,
                    (converter.run expansionLimit (texts.map (encode width order)))[index]? =
                        some step ∧
                      step.result = .ok passed ∧
                      Encoding.Utf8.encode passed = encode width order text := by
  have whole : ∀ (index : Nat) (text : List Char),
      texts[index]? = some text → Markup.untilNul text = text := by
    intro index text found
    exact Markup.untilNul_of_notMem text (unterminated text (List.mem_of_getElem? found))
  rcases Charset.converter_of_chosen preferences platform declaration name _ named (by simp) chosen
    with ⟨detecting, opened, detects⟩
  refine ⟨_, opened, ?_, ?_⟩
  · intro index text found behind
    refine ⟨_, step_wide_of_firstForeign_le name width order detecting texts index text found ?_,
      rfl, whole index text found⟩
    intro on
    have bound := behind (detects.1 on).1 (detects.1 on).2
    rwa [on] at bound
  · intro index text found undeclared wanted before
    have on : detecting = true := detects.2 ⟨undeclared, wanted⟩
    subst on
    have packet : (texts.map (encode width order))[index]? = some (encode width order text) := by
      rw [List.getElem?_map, found, Option.map_some]
    rcases step_before_firstForeign expansionLimit name _ _ index before _ packet with
      ⟨passed, written, step⟩
    exact ⟨_, passed, step, rfl, written⟩

/-- A text in basic Latin passes as UTF-8, the next text does not, and detection is over. -/
theorem run_reads_wide_texts_behind_latin :
    ∃ converter,
      (Charset.choose { configured := "UTF-16LE" } "UTF-8" none false).converter =
          .ok (converter, none) ∧
        (∃ step,
          (converter.run expansionLimit
                (["A".toList, "한".toList, "A".toList].map (encode .two .little)))[2]? =
              some step ∧
            step.result = .ok ['A'] ∧ Markup.untilNul ['A'] = ['A']) ∧
        ∃ step passed,
          (converter.run expansionLimit
                (["A".toList, "한".toList, "A".toList].map (encode .two .little)))[0]? =
              some step ∧
            step.result = .ok passed ∧ Encoding.Utf8.encode passed = [0x41, 0x00] := by
  rcases
    run_reads_wide_texts { configured := "UTF-16LE" } "UTF-8" none "UTF-16LE" .two .little
      ["A".toList, "한".toList, "A".toList] rfl (Or.inr ⟨rfl, rfl⟩) (by decide) with
    ⟨converter, opened, reads, passes⟩
  have decodes : converter = decoding "UTF-16LE" (Encoding.wide .two (some .little)) true := by
    have known :
        (Charset.choose { configured := "UTF-16LE" } "UTF-8" none false).converter =
          .ok (decoding "UTF-16LE" (Encoding.wide .two (some .little)) true, none) :=
      rfl
    rw [known] at opened
    cases opened
    rfl
  have turn :
      converter.firstForeign
          (["A".toList, "한".toList, "A".toList].map (encode .two .little)) = 1 := by
    rw [decodes]
    cbv
  refine ⟨converter, opened, ?_, ?_⟩
  · exact reads 2 ['A'] rfl fun _ _ => by omega
  · exact passes 0 ['A'] rfl rfl rfl (by omega)

/-- Two letters under a configured encoding pass as four characters, of which one is shown. -/
theorem configured_wide_text_passes_as_utf8 :
    ∃ converter,
      (Charset.choose { configured := "UTF-16LE" } "UTF-8" none false).converter =
          .ok (converter, none) ∧
        (converter.convert (encode .two .little ['A', 'B'])).result =
          .ok ['A', '\x00', 'B', '\x00'] ∧
        (converter.convert (encode .two .little ['A', 'B'])).result ≠ .ok ['A', 'B'] ∧
        Markup.untilNul ['A', '\x00', 'B', '\x00'] = ['A'] := by
  have passes :
      ((decoding "UTF-16LE" (Encoding.wide .two (some .little)) true).convert
          (encode .two .little ['A', 'B'])).result =
        .ok ['A', '\x00', 'B', '\x00'] := by
    cbv
  refine ⟨decoding "UTF-16LE" (Encoding.wide .two (some .little)) true, rfl, passes, ?_, rfl⟩
  rw [passes]
  decide

end TimedText.Converter
