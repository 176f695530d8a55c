import TimedText.Proofs.Converter.Run

/-!
# Detection is switched off once

A converter that detects UTF-8 lets packets pass as long as they are UTF-8.  They do not touch the
decoder, so the first packet that is not UTF-8 finds it as it was opened, and finds all of its own
bytes still unread.  From this packet on the run is that of a converter opened without detection,
and nothing that a packet can do switches detection on again.
-/

namespace TimedText.Converter

open Encoding.Utf8 (IsValid encode)

/-- The index of the first packet that is not UTF-8, or the number of packets if all are. -/
def firstForeign (converter : Converter) (packets : List (List UInt8)) : Nat :=
  packets.findIdx fun packet => ¬ IsValid (converter.relevant packet)

/-! ## Before the first packet that is not UTF-8 -/

theorem firstForeign_cons_of_isValid
    (converter : Converter)
    (packet : List UInt8)
    (rest : List (List UInt8))
    (valid : IsValid (converter.relevant packet)) :
    converter.firstForeign (packet :: rest) = converter.firstForeign rest + 1 := by
  simp [firstForeign, List.findIdx_cons, valid]

theorem firstForeign_cons_of_not_isValid
    (converter : Converter)
    (packet : List UInt8)
    (rest : List (List UInt8))
    (invalid : ¬ IsValid (converter.relevant packet)) :
    converter.firstForeign (packet :: rest) = 0 := by
  simp [firstForeign, List.findIdx_cons, invalid]

/-- Packets before the first that is not UTF-8 pass, and leave the converter as it was opened. -/
theorem step_before_firstForeign
    (factor : Int)
    (name : String)
    (scheme : Encoding.Scheme)
    (packets : List (List UInt8))
    (index : Nat)
    (before : index < (decoding name scheme true).firstForeign packets)
    (packet : List UInt8)
    (found : packets[index]? = some packet) :
    ∃ text,
      encode text = (decoding name scheme true).relevant packet ∧
        ((decoding name scheme true).run factor packets)[index]? =
          some { result := .ok text, after := decoding name scheme true } := by
  induction packets generalizing index with
  | nil => cases found
  | cons first rest hypothesis =>
      by_cases valid : IsValid ((decoding name scheme true).relevant first)
      · rw [firstForeign_cons_of_isValid _ _ _ valid] at before
        rcases valid with ⟨text, written⟩
        rw [run_cons, convertWithin_of_encode factor name scheme first text written]
        cases index with
        | zero =>
            cases found
            exact ⟨text, written, rfl⟩
        | succ index => exact hypothesis index (Nat.lt_of_succ_lt_succ before) found
      · rw [firstForeign_cons_of_not_isValid _ _ _ valid] at before
        exact (Nat.not_lt_zero _ before).elim

/-! ## From the first packet that is not UTF-8 on -/

/-- From the first packet that is not UTF-8 on, detection might as well not have been on. -/
theorem drop_firstForeign_run
    (factor : Int)
    (name : String)
    (scheme : Encoding.Scheme)
    (packets : List (List UInt8)) :
    ((decoding name scheme true).run factor packets).drop
        ((decoding name scheme true).firstForeign packets) =
      (decoding name scheme false).run factor
        (packets.drop ((decoding name scheme true).firstForeign packets)) := by
  induction packets with
  | nil => rfl
  | cons first rest hypothesis =>
      by_cases valid : IsValid ((decoding name scheme true).relevant first)
      · rw [firstForeign_cons_of_isValid _ _ _ valid]
        rcases valid with ⟨text, written⟩
        rw [run_cons, convertWithin_of_encode factor name scheme first text written,
          List.drop_succ_cons, List.drop_succ_cons]
        exact hypothesis
      · rw [firstForeign_cons_of_not_isValid _ _ _ valid, List.drop_zero, List.drop_zero,
          run_cons, run_cons, convertWithin_of_not_isValid factor name scheme first valid]

/-- No packet switches detection on. -/
theorem detecting_convertWithin
    (factor : Int)
    (converter : Converter)
    (packet : List UInt8)
    (off : converter.detecting = false) :
    (converter.convertWithin factor packet).after.detecting = false := by
  unfold convertWithin
  split
  next => exact off
  next =>
    dsimp only
    split
    next => exact off
    next =>
      split
      next => exact off
      next => rfl

theorem detecting_of_run
    (factor : Int)
    (converter : Converter)
    (packets : List (List UInt8))
    (off : converter.detecting = false)
    (index : Nat)
    (step : Step)
    (found : (converter.run factor packets)[index]? = some step) :
    step.after.detecting = false := by
  rcases
    step_of_run factor (fun converter => converter.detecting = false)
      (detecting_convertWithin factor) converter off packets index step found with
    ⟨before, packet, still, _, rfl⟩
  exact detecting_convertWithin factor before packet still

/-! ## The whole run -/

/--
A run with detection falls into two parts, whatever the decoder is.  Each packet before the first
that is not UTF-8 yields the text that it is the written form of, and leaves detection on.  From that
packet on, every packet leaves detection off, and the steps are those of a converter opened without
detection that is given these packets alone.
-/
theorem run_switches_once
    (factor : Int)
    (name : String)
    (scheme : Encoding.Scheme)
    (packets : List (List UInt8)) :
    let converter := decoding name scheme true
    let fresh := decoding name scheme false
    (∀ index packet,
        packets[index]? = some packet →
          index < converter.firstForeign packets →
            ∃ step text,
              (converter.run factor packets)[index]? = some step ∧
                step.result = .ok text ∧
                encode text = converter.relevant packet ∧
                step.after.detecting = true) ∧
      (∀ index packet,
        packets[index]? = some packet →
          converter.firstForeign packets ≤ index →
            ∃ step,
              (converter.run factor packets)[index]? = some step ∧
                step.after.detecting = false) ∧
      (converter.run factor packets).drop (converter.firstForeign packets) =
        fresh.run factor (packets.drop (converter.firstForeign packets)) := by
  intro converter fresh
  have alike : _ = fresh.run factor _ := drop_firstForeign_run factor name scheme packets
  refine ⟨?_, ?_, alike⟩
  · intro index packet present before
    rcases step_before_firstForeign factor name scheme packets index before packet present with
      ⟨text, written, step⟩
    exact ⟨_, text, step, rfl, written, rfl⟩
  · intro index packet present behind
    rcases exists_step factor converter packets index packet present with ⟨step, made⟩
    refine ⟨step, made, ?_⟩
    -- The step is also one of the run without detection, which starts later.
    rw [← Nat.add_sub_cancel' behind, ← List.getElem?_drop, alike] at made
    exact detecting_of_run factor fresh _ rfl _ step made

/-- The packet with a byte order mark ends detection, and the decoder still learns the order. -/
theorem run_switches_once_at_mark :
    ∃ converter fresh,
      open? "utf-16" true = .ok converter ∧
        open? "utf-16" false = .ok fresh ∧
        (converter.run expansionLimit [[0x41], [0xFF, 0xFE, 0x41, 0x00], [0x42, 0x00]]).drop 1 =
          fresh.run expansionLimit [[0xFF, 0xFE, 0x41, 0x00], [0x42, 0x00]] ∧
        (converter.run expansionLimit [[0x41], [0xFF, 0xFE, 0x41, 0x00], [0x42, 0x00]]).map
            (·.result) =
          [.ok ['A'], .ok ['A'], .ok ['B']] := by
  let utf16 : Encoding := .wide .two none
  have first :
      (decoding "utf-16" utf16 true).firstForeign
        [[0x41], [0xFF, 0xFE, 0x41, 0x00], [0x42, 0x00]] = 1 := by
    cbv
  rcases
    run_switches_once expansionLimit "utf-16" utf16
      [[0x41], [0xFF, 0xFE, 0x41, 0x00], [0x42, 0x00]] with
    ⟨-, -, alike⟩
  rw [first] at alike
  exact ⟨decoding "utf-16" utf16 true, decoding "utf-16" utf16 false, rfl, rfl, alike, by cbv⟩

end TimedText.Converter
