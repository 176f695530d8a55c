import TimedText.Proofs.Converter.Obstacle
import TimedText.Proofs.Converter.Recovery

/-!
# What packets have to do with each other

A decoder that carries nothing but undecoded bytes from one packet to the next does not carry
anything at all: a packet that leaves bytes behind fails, and a failure resets the decoder.  So
under such an encoding every packet finds the converter as it was opened, whatever came before it,
and a run is the list of what its packets yield one by one.

Other decoders learn something from a packet that the next ones are read by, such as a byte order,
the place of a signature, or character sets, and a failure makes them forget it.  So a packet that
fails is dropped without a trace exactly if nothing can be told from what was learned before it: the
packets that follow it come out as they would in a converter that has just been opened.  Of the
encodings that are defined here those are the ones without such a state; under each of the others
there are runs in which a failed packet changes what comes of a packet after it.
-/

namespace TimedText

/-! ## Decoders that carry only bytes -/

/-- A decoder that carries nothing but undecoded bytes: those that wait tell its whole state. -/
def Encoding.Decoder.CarriesOnlyBytes (decoder : Encoding.Decoder) : Prop :=
  Function.Injective decoder.pending

namespace Encoding

/-- The decoders that carry only bytes are those of readers, and the one that decodes nothing. -/
theorem carriesOnlyBytes_decoder_iff (encoding : Encoding) :
    encoding.decoder.CarriesOnlyBytes ↔
      encoding.reader?.isSome = true ∨ encoding = .undefined := by
  cases encoding with
  | utf8Signed =>
      refine ⟨fun onlyBytes => ?_, by simp [reader?]⟩
      cases @onlyBytes ({} : Utf8.SignedState) { looking := false } rfl
  | wide width order =>
      cases order with
      | none =>
          refine ⟨fun onlyBytes => ?_, by simp [reader?]⟩
          cases @onlyBytes ({} : Wide.MarkedState) { order := some .little } rfl
      | some order => exact ⟨fun _ => Or.inl rfl, fun _ => Function.injective_id⟩
  | escape variant =>
      refine ⟨fun onlyBytes => ?_, by simp [reader?]⟩
      cases @onlyBytes (({}, []) : EscapeCodes.State × List UInt8) ({ shifted := true }, []) rfl
  | undefined => exact ⟨fun _ => Or.inr rfl, fun _ _ _ _ => rfl⟩
  | _ => exact ⟨fun _ => Or.inl rfl, fun _ => Function.injective_id⟩

end Encoding

namespace Converter

open Encoding (Scheme)

/-! ## Packets that leave nothing behind -/

section Packetwise

variable
  (factor : Int)
  (name : String)
  (scheme : Scheme)
  (orderly : scheme.decoder.IsOrderly)
  (onlyBytes : scheme.decoder.CarriesOnlyBytes)

include orderly onlyBytes

/-- A packet leaves the converter as it was opened. -/
theorem after_of_carriesOnlyBytes (packet : List UInt8) :
    ((decoding name scheme false).convertWithin factor packet).after =
      decoding name scheme false := by
  have nothing :=
    pending_transform factor orderly orderly.fresh ((decoding name scheme false).relevant packet)
  have unchanged := onlyBytes (nothing.trans orderly.fresh.symm)
  rw [decoding_false, convertWithin_holding]
  rw [decoding_false] at unchanged
  dsimp only
  rw [unchanged]

/-- A run is the list of the steps that its packets take on their own. -/
theorem run_of_carriesOnlyBytes (packets : List (List UInt8)) :
    (decoding name scheme false).run factor packets =
      packets.map ((decoding name scheme false).convertWithin factor) := by
  induction packets with
  | nil => rfl
  | cons packet rest hypothesis =>
      rw [run_cons, after_of_carriesOnlyBytes factor name scheme orderly onlyBytes packet,
        hypothesis, List.map_cons]

end Packetwise

/--
Whatever the decoder is, if it carries only bytes and holds none at its start, after a reset or
behind an obstacle, a packet takes the step that it takes in a converter that has just been opened,
whatever packets were given before it and whatever came of them.  So a run is the list of the steps
of its packets, in any order of the packets.
-/
theorem run_is_packetwise
    (factor : Int)
    (name : String)
    (scheme : Scheme)
    (orderly : scheme.decoder.IsOrderly)
    (onlyBytes : scheme.decoder.CarriesOnlyBytes) :
    let converter := decoding name scheme false
    (∀ (earlier : List (List UInt8)) (packet : List UInt8) (later : List (List UInt8)),
        (converter.run factor (earlier ++ packet :: later))[earlier.length]? =
          some (converter.convertWithin factor packet)) ∧
      ∀ packets : List (List UInt8),
        converter.run factor packets = packets.map (converter.convertWithin factor) := by
  have packetwise := run_of_carriesOnlyBytes factor name scheme orderly onlyBytes
  refine ⟨?_, packetwise⟩
  intro earlier packet later
  rw [packetwise, List.getElem?_map, List.getElem?_append_right (Nat.le_refl _), Nat.sub_self]
  rfl

/-- Two bytes of three fail, and do not join the packets after them. -/
theorem run_is_packetwise_behind_part_of_character :
    ∃ converter,
      open? "utf_8" false = .ok converter ∧
        (converter.run expansionLimit [[0xEA, 0xB0], [0x80], [0xEA, 0xB0, 0x80]])[2]? =
          some (converter.convertWithin expansionLimit [0xEA, 0xB0, 0x80]) ∧
        (converter.run expansionLimit [[0xEA, 0xB0], [0x80], [0xEA, 0xB0, 0x80]]).map (·.result) =
          [ .error (.failed (.incomplete 2)),
            .error (.failed (.invalid 0 .startByte)),
            .ok ['가'] ] := by
  have onlyBytes : Encoding.utf8.decoder.CarriesOnlyBytes :=
    (Encoding.carriesOnlyBytes_decoder_iff .utf8).2 (.inl rfl)
  rcases
    run_is_packetwise expansionLimit "utf_8" Encoding.utf8 Encoding.utf8.isOrderly_decoder
      onlyBytes with
    ⟨alone, -⟩
  exact ⟨_, rfl, alone [[0xEA, 0xB0], [0x80]] [0xEA, 0xB0, 0x80] [], by cbv⟩

/-! ## Failed packets taken away -/

/-- What comes of the packets of a run. -/
def results
    (converter : Converter)
    (packets : List (List UInt8)) :
    List (Except Error (List Char)) :=
  (converter.run expansionLimit packets).map (·.result)

/-- A converter whose failed packets can be taken away: what comes of the others is the same. -/
def FailsInIsolation (converter : Converter) : Prop :=
  ∀ (packets : List (List UInt8)) (index : Nat) (failure : Failure),
    (converter.results packets)[index]? = some (.error (.failed failure)) →
      converter.results (packets.eraseIdx index) = (converter.results packets).eraseIdx index

/-- Behind packets, a run goes on from the converter that they left. -/
theorem results_append
    (converter : Converter)
    (earlier : List (List UInt8))
    (later : List (List UInt8)) :
    converter.results (earlier ++ later) =
      converter.results earlier ++ (converter.afterAll earlier).results later := by
  induction earlier generalizing converter with
  | nil => rfl
  | cons packet rest hypothesis =>
      exact congrArg _ (hypothesis (converter.convert packet).after)

theorem length_results (converter : Converter) (packets : List (List UInt8)) :
    (converter.results packets).length = packets.length := by
  rw [results, List.length_map, length_run]

/-- What comes of a packet in a run. -/
theorem getElem?_results
    (converter : Converter)
    (earlier : List (List UInt8))
    (packet : List UInt8)
    (later : List (List UInt8)) :
    (converter.results (earlier ++ packet :: later))[earlier.length]? =
      some ((converter.afterAll earlier).convert packet).result := by
  rw [results_append, ← length_results converter earlier,
    List.getElem?_append_right (Nat.le_refl _), Nat.sub_self]
  rfl

/-- A run without one of its packets. -/
theorem eraseIdx_append_cons {α : Type} (earlier : List α) (packet : α) (later : List α) :
    (earlier ++ packet :: later).eraseIdx earlier.length = earlier ++ later := by
  rw [List.eraseIdx_append_of_length_le (Nat.le_refl _), Nat.sub_self, List.eraseIdx_zero,
    List.tail_cons]

/--
A failed packet can be taken away exactly if the packets after it come out of the converter that it
left as they come out of the one that it met.
-/
theorem failsInIsolation_iff_after (converter : Converter) :
    converter.FailsInIsolation ↔
      ∀ (earlier : List (List UInt8)) (packet : List UInt8) (failure : Failure),
        ((converter.afterAll earlier).convert packet).result = .error (.failed failure) →
          ∀ later,
            (converter.afterAll earlier).results later =
              ((converter.afterAll earlier).convert packet).after.results later := by
  have whole (earlier : List (List UInt8)) (packet : List UInt8) (later : List (List UInt8)) :
      (converter.results (earlier ++ packet :: later)).eraseIdx earlier.length =
        converter.results earlier ++
          ((converter.afterAll earlier).convert packet).after.results later := by
    rw [results_append, ← length_results converter earlier]
    exact eraseIdx_append_cons _ _ _
  constructor
  · intro isolated earlier packet failure failed later
    have met := (getElem?_results converter earlier packet later).trans (congrArg some failed)
    have same := isolated _ earlier.length failure met
    rw [eraseIdx_append_cons, whole, results_append] at same
    exact List.append_cancel_left same
  · intro alike packets index failure failed
    have inside : index < packets.length := by
      rw [← length_results converter]
      exact (List.getElem?_eq_some_iff.1 failed).1
    obtain ⟨earlier, packet, later, rfl, rfl⟩ :
        ∃ earlier packet later,
          packets = earlier ++ packet :: later ∧ index = earlier.length :=
      ⟨packets.take index, packets[index], packets.drop (index + 1),
        by rw [List.getElem_cons_drop, List.take_append_drop],
        by rw [List.length_take, Nat.min_eq_left inside.le]⟩
    rw [getElem?_results, Option.some_inj] at failed
    rw [eraseIdx_append_cons, whole, results_append, alike earlier packet failure failed later]

/-- Without detection packets leave a converter that holds a state of the same decoder. -/
theorem exists_afterAll_decoding
    (name : String)
    (scheme : Scheme)
    (packets : List (List UInt8)) :
    ∃ state, (decoding name scheme false).afterAll packets = holding name scheme state := by
  apply afterAll_of_convert (fun converter => ∃ state, converter = holding name scheme state)
  · rintro _ packet ⟨state, rfl⟩
    exact ⟨_, rfl⟩
  · exact ⟨scheme.decoder.initial, decoding_false name scheme⟩

/-- Where a reset gives up all that was learned, a failure leaves the converter as it was opened. -/
theorem failsInIsolation_iff_of_resetsToInitial
    (name : String)
    (scheme : Scheme)
    (resets : scheme.decoder.ResetsToInitial) :
    (decoding name scheme false).FailsInIsolation ↔
      ∀ (earlier : List (List UInt8)) (packet : List UInt8) (failure : Failure),
        (((decoding name scheme false).afterAll earlier).convert packet).result =
            .error (.failed failure) →
          ∀ later,
            ((decoding name scheme false).afterAll earlier).results later =
              (decoding name scheme false).results later := by
  rw [failsInIsolation_iff_after]
  refine forall_congr' fun earlier => forall_congr' fun packet => forall_congr' fun failure =>
    forall_congr' fun failed => ?_
  rcases exists_afterAll_decoding name scheme earlier with ⟨state, left⟩
  rw [left] at failed ⊢
  rw [convert,
    Reached.after_of_failed expansionLimit name scheme _ packet failure resets (.settled state)
      failed]

/-- Where a decoder carries only bytes, nothing is ever learned that could be forgotten. -/
theorem failsInIsolation_of_carriesOnlyBytes
    (name : String)
    (scheme : Scheme)
    (orderly : scheme.decoder.IsOrderly)
    (onlyBytes : scheme.decoder.CarriesOnlyBytes) :
    (decoding name scheme false).FailsInIsolation := by
  intro packets index failure _
  rw [results, results, run_of_carriesOnlyBytes expansionLimit name scheme orderly onlyBytes,
    run_of_carriesOnlyBytes expansionLimit name scheme orderly onlyBytes, List.eraseIdx_map,
    List.eraseIdx_map]

/--
Three packets that give a decoder away which learns from packets.  It learns from the first, the
second fails, and the third is read by what was learned.
-/
def tellTale : Encoding → List (List UInt8)
  | .utf8Signed => [[0x41], [0xFF], [0xEF, 0xBB, 0xBF]]
  | .wide .two _ => [[0xFF, 0xFE, 0x41, 0x00], [0x42], [0x43, 0x00]]
  | .wide .four _ => [[0xFF, 0xFE, 0x00, 0x00], [0x42], [0x43, 0x00, 0x00, 0x00]]
  | .escape .korean => [[0x1B, 0x24, 0x29, 0x43, 0x0E], [0xFF], [0x30]]
  | .escape _ => [[0x1B, 0x24, 0x42], [0xFF], [0x30]]
  | _ => []

/-- Where characters take two bytes, one byte waits for the second, and its packet fails. -/
theorem transform_of_half
    (variant : Encoding.EscapeVariant)
    (state : Encoding.EscapeCodes.State)
    (steady : state.passing = false)
    (double : state.current.grid?.isSome = true) :
    (transform expansionLimit (Encoding.EscapeCodes.decoder variant) (state, []) [0x30]).1 =
      .error (.failed (.incomplete 1)) := by
  rcases Option.isSome_iff_exists.1 double with ⟨grid, found⟩
  have waits : Encoding.EscapeCodes.step variant state 0x30 [] = .incomplete := by
    simp [Encoding.EscapeCodes.step, steady, Encoding.EscapeCodes.escapeByte,
      Encoding.EscapeCodes.readFrom, found]
  have decoded :
      Encoding.EscapeCodes.decodeAll variant state 0 [0x30] = (.ok ([], [0x30]), state) := by
    rw [Encoding.EscapeCodes.decodeAll, waits]
  simp [transform, Encoding.EscapeCodes.decoder, decoded, Encoding.EscapeCodes.waitingLimit]

/-- A switching decoder learns a set of two-byte characters from the first of the packets. -/
theorem learned_of_tellTale (name : String) (variant : Encoding.EscapeVariant) :
    ∃ (first : List UInt8) (state : (Encoding.escape variant).decoder.State),
      tellTale (.escape variant) = [first, [0xFF], [0x30]] ∧
        ((decoding name (Encoding.escape variant) false).convertWithin expansionLimit first).after =
          holding name (Encoding.escape variant) state ∧
        (transform expansionLimit (Encoding.escape variant).decoder state [0x30]).1 =
          .error (.failed (.incomplete 1)) := by
  let japanese : Encoding.EscapeCodes.State := { main := .jisX0208 }
  let korean : Encoding.EscapeCodes.State := { alternate := .ksX1001, shifted := true }
  cases variant with
  | japanese => exact ⟨_, (japanese, []), rfl, by cbv, transform_of_half _ japanese rfl rfl⟩
  | japanese2 => exact ⟨_, (japanese, []), rfl, by cbv, transform_of_half _ japanese rfl rfl⟩
  | korean => exact ⟨_, (korean, []), rfl, by cbv, transform_of_half _ korean rfl rfl⟩

/-- The failed packet makes a switching decoder forget the set that the third is read by. -/
theorem tellTale_differs_of_escape (name : String) (variant : Encoding.EscapeVariant) :
    ∃ failure,
      ((decoding name (Encoding.escape variant) false).results (tellTale (.escape variant)))[1]? =
          some (.error (.failed failure)) ∧
        ((decoding name (Encoding.escape variant) false).results
            ((tellTale (.escape variant)).eraseIdx 1))[1]? ≠
          ((decoding name (Encoding.escape variant) false).results (tellTale (.escape variant)))[2]? := by
  have forgotten :
      ((decoding name (Encoding.escape variant) false).results (tellTale (.escape variant)))[2]? =
        some (.ok ['0']) := by
    cases variant <;> cbv
  refine ⟨.invalid 0 .multibyteSequence, by cases variant <;> cbv, ?_⟩
  rcases learned_of_tellTale name variant with ⟨first, state, packets, learned, waits⟩
  have second :
      ((decoding name (Encoding.escape variant) false).results [first, [0x30]])[1]? =
        some (.error (.failed (.incomplete 1))) := by
    rw [results, run_cons, learned, run_cons, convertWithin_holding]
    exact congrArg some waits
  rw [forgotten, packets]
  intro same
  rw [show [first, [0xFF], [0x30]].eraseIdx 1 = [first, [0x30]] from rfl, second] at same
  cases same

/-- The second of the packets fails, and without it something else comes of the third. -/
theorem tellTale_differs
    (name : String)
    (encoding : Encoding)
    (learns : ¬ encoding.decoder.CarriesOnlyBytes) :
    ∃ failure,
      ((decoding name encoding false).results (tellTale encoding))[1]? =
          some (.error (.failed failure)) ∧
        ((decoding name encoding false).results ((tellTale encoding).eraseIdx 1))[1]? ≠
          ((decoding name encoding false).results (tellTale encoding))[2]? := by
  rw [Encoding.carriesOnlyBytes_decoder_iff] at learns
  cases encoding with
  | utf8Signed => exact ⟨.invalid 0 .startByte, by cbv, by cbv; rintro ⟨⟩⟩
  | wide width order =>
      cases order with
      | some order => exact (learns (.inl rfl)).elim
      | none => cases width <;> exact ⟨.incomplete 1, by cbv, by cbv; rintro ⟨⟩⟩
  | escape variant => exact tellTale_differs_of_escape name variant
  | undefined => exact (learns (.inr rfl)).elim
  | _ => exact (learns (.inl rfl)).elim

/--
Whatever the decoder is, if a reset takes it back to where it started, failed packets can be taken
away from all runs exactly if a packet fails only where nothing can be told from what was learned
before it: any packets come out there as they do of the converter as it was opened.  It is enough
that the decoder carries only bytes, and for the encodings that are defined here it is necessary.
-/
theorem failsInIsolation_iff (name : String) :
    (∀ scheme : Scheme,
        scheme.decoder.ResetsToInitial →
          ((decoding name scheme false).FailsInIsolation ↔
            ∀ (earlier : List (List UInt8)) (packet : List UInt8) (failure : Failure),
              (((decoding name scheme false).afterAll earlier).convert packet).result =
                  .error (.failed failure) →
                ∀ later,
                  ((decoding name scheme false).afterAll earlier).results later =
                    (decoding name scheme false).results later)) ∧
      (∀ scheme : Scheme,
        scheme.decoder.IsOrderly →
          scheme.decoder.CarriesOnlyBytes → (decoding name scheme false).FailsInIsolation) ∧
      ∀ encoding : Encoding,
        (decoding name encoding false).FailsInIsolation ↔ encoding.decoder.CarriesOnlyBytes := by
  refine
    ⟨failsInIsolation_iff_of_resetsToInitial name, failsInIsolation_of_carriesOnlyBytes name, ?_⟩
  intro encoding
  constructor
  · intro isolated
    by_contra learns
    rcases tellTale_differs name encoding learns with ⟨failure, failed, differs⟩
    rw [isolated _ 1 failure failed] at differs
    exact differs (List.getElem?_eraseIdx_of_ge (Nat.le_refl 1))
  · exact failsInIsolation_of_carriesOnlyBytes name encoding encoding.isOrderly_decoder

/-- Half a unit can be taken away in a fixed byte order, but not where a mark tells the order. -/
theorem failsInIsolation_of_fixed_order :
    (∃ converter, open? "UTF-16LE" false = .ok converter ∧ converter.FailsInIsolation) ∧
      ∃ converter, open? "UTF-16" false = .ok converter ∧ ¬ converter.FailsInIsolation := by
  have fixed : (Encoding.wide .two (some .little)).decoder.CarriesOnlyBytes :=
    (Encoding.carriesOnlyBytes_decoder_iff _).2 (.inl rfl)
  have marked : ¬ (Encoding.wide .two none).decoder.CarriesOnlyBytes := by
    simp [Encoding.carriesOnlyBytes_decoder_iff, Encoding.reader?]
  rcases failsInIsolation_iff "UTF-16LE" with ⟨-, isolated, -⟩
  rcases failsInIsolation_iff "UTF-16" with ⟨-, -, exactly⟩
  refine ⟨⟨_, rfl, ?_⟩, ⟨_, rfl, ?_⟩⟩
  · exact isolated _ (Encoding.isOrderly_decoder (.wide .two (some .little))) fixed
  · exact fun isolated => marked ((exactly (.wide .two none)).1 isolated)

/-- Half a unit makes the decoder forget the byte order, and the packet after it is stopped. -/
theorem failed_packet_forgets_byte_order :
    ∃ converter,
      open? "UTF-16" false = .ok converter ∧
        converter.results [[0xFF, 0xFE, 0x41, 0x00], [0x42], [0x43, 0x00]] =
          [.ok ['A'], .error (.failed (.incomplete 1)), .error (.blocked .unknownOrder)] ∧
        converter.results [[0xFF, 0xFE, 0x41, 0x00], [0x43, 0x00]] = [.ok ['A'], .ok ['C']] ∧
        ¬ converter.FailsInIsolation := by
  have whole :
      (decoding "UTF-16" (Encoding.wide .two none) false).results
          [[0xFF, 0xFE, 0x41, 0x00], [0x42], [0x43, 0x00]] =
        [.ok ['A'], .error (.failed (.incomplete 1)), .error (.blocked .unknownOrder)] := by
    cbv
  have without :
      (decoding "UTF-16" (Encoding.wide .two none) false).results
          [[0xFF, 0xFE, 0x41, 0x00], [0x43, 0x00]] =
        [.ok ['A'], .ok ['C']] := by
    cbv
  refine ⟨_, rfl, whole, without, fun isolated => ?_⟩
  have same :=
    isolated [[0xFF, 0xFE, 0x41, 0x00], [0x42], [0x43, 0x00]] 1 (.incomplete 1) (by rw [whole]; rfl)
  rw [whole] at same
  cases without.symm.trans same

end Converter

end TimedText
