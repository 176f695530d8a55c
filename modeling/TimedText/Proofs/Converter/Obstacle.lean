import TimedText.Proofs.Converter.Run

/-!
# Obstacles

A packet that does not fit its encoding fails.  Some decoders, though, can meet an obstacle: they
stop without having found the bytes legal or illegal, and such a packet yields neither a text nor a
failure.  A converter is safe from this if no run of packets takes its decoder to a state in which
one is met, so in any case if the decoder meets none in any state.

Of the encodings that are defined here there are three kinds with obstacles: those that learn the byte
order from a mark, those that switch character sets, and the one that decodes nothing.  No other
decoder meets an obstacle in any state, and each of these does so soon after it is opened.
-/

namespace TimedText

/-- A decoder that meets no obstacle in any state: it finds all bytes legal or illegal. -/
def Encoding.Decoder.NeverBlocks (decoder : Encoding.Decoder) : Prop :=
  ∀ state packet obstacle, (decoder.decode state packet).1 ≠ .error (.blocked obstacle)

namespace Encoding

/-- An encoding whose decoder can meet an obstacle. -/
def hasObstacles : Encoding → Bool
  | wide _ none => true
  | escape _ => true
  | undefined => true
  | _ => false

/-! ## Decoders without obstacles -/

/-- A reader finds characters, waiting bytes and illegal bytes, and nothing else. -/
theorem Reader.decodeAll_ne_blocked
    (reader : Reader)
    (position : Nat)
    (bytes : List UInt8)
    (obstacle : Obstacle) :
    reader.decodeAll position bytes ≠ .error (.blocked obstacle) := by
  induction position, bytes using Reader.decodeAll.induct reader with
  | case1 position => simp [decodeAll]
  | case2 position first rest text further read others waiting decoded hypothesis =>
      simp [decodeAll, read, decoded]
  | case3 position first rest text further read fault decoded hypothesis =>
      simpa [decodeAll, read, decoded] using hypothesis
  | case4 position first rest read => simp [decodeAll, read]
  | case5 position first rest reason further read => simp [decodeAll, read]

@[simp]
theorem Decoder.settle_eq_error_iff
    {State : Type}
    (before : State)
    (answer : Except Fault (List Char × State))
    (fault : Fault) :
    (settle before answer).1 = .error fault ↔ answer = .error fault := by
  cases answer <;> simp [settle]

theorem Decoder.ofReader_ne_blocked
    (reader : Reader)
    (state : List UInt8)
    (packet : List UInt8)
    (obstacle : Obstacle) :
    ((Decoder.ofReader reader).decode state packet).1 ≠ .error (.blocked obstacle) := by
  intro blocked
  have stopped := (settle_eq_error_iff state _ _).1 blocked
  exact reader.decodeAll_ne_blocked 0 (state ++ packet) obstacle stopped

theorem Utf8.decodeUnsigned_ne_blocked (bytes : List UInt8) (obstacle : Obstacle) :
    decodeUnsigned bytes ≠ .error (.blocked obstacle) := by
  have decodes := Reader.decodeAll_ne_blocked (read false) 0 bytes obstacle
  unfold decodeUnsigned
  cases outcome : Reader.decodeAll (read false) 0 bytes with
  | ok answer => simp [Except.map]
  | error fault => simpa [Except.map, outcome] using decodes

theorem Utf8.signedDecoder_ne_blocked
    (state : SignedState)
    (packet : List UInt8)
    (obstacle : Obstacle) :
    (signedDecoder.decode state packet).1 ≠ .error (.blocked obstacle) := by
  intro blocked
  have stopped := (Decoder.settle_eq_error_iff state _ _).1 blocked
  split at stopped
  · split at stopped
    · exact decodeUnsigned_ne_blocked _ obstacle stopped
    · split at stopped
      · cases stopped
      · exact decodeUnsigned_ne_blocked _ obstacle stopped
  · exact decodeUnsigned_ne_blocked _ obstacle stopped

/-- A decoder without obstacles meets none, whatever state it is in. -/
theorem neverBlocks_decoder
    (encoding : Encoding)
    (free : encoding.hasObstacles = false) :
    encoding.decoder.NeverBlocks := by
  intro state packet obstacle
  cases encoding with
  | utf8Signed => exact Utf8.signedDecoder_ne_blocked state packet obstacle
  | wide width order =>
      cases order with
      | none => cases free
      | some order => exact Decoder.ofReader_ne_blocked _ state packet obstacle
  | escape variant => cases free
  | undefined => cases free
  | _ => exact Decoder.ofReader_ne_blocked _ state packet obstacle

end Encoding

namespace Converter

open Encoding (Scheme)

/-! ## One packet -/

theorem flaw_of_failed
    (converter : Converter)
    (packet : List UInt8)
    (failure : Failure)
    (failed : (converter.convert packet).result = .error (.failed failure)) :
    (converter.convert packet).flaw = none := by
  have way := way_convertWithin expansionLimit converter packet
  rw [convert] at failed ⊢
  generalize converter.convertWithin expansionLimit packet = step at way failed ⊢
  cases way with
  | direct => cases failed
  | closed | passed | decoded => rfl

theorem name_convert (converter : Converter) (packet : List UInt8) :
    (converter.convert packet).after.name = converter.name := by
  have way := way_convertWithin expansionLimit converter packet
  rw [convert]
  generalize converter.convertWithin expansionLimit packet = step at way
  cases way <;> rfl

/-- An open converter makes a text or a failure of a packet, or it is stopped by an obstacle. -/
theorem convert_yields_or_fails
    (converter : Converter)
    (opened : converter.closed = false)
    (packet : List UInt8) :
    (∃ text, (converter.convert packet).result = .ok text) ∨
      (∃ failure, (converter.convert packet).result = .error (.failed failure)) ∨
      ∃ obstacle, (converter.convert packet).result = .error (.blocked obstacle) := by
  have way := way_convertWithin expansionLimit converter packet
  rw [convert]
  generalize converter.convertWithin expansionLimit packet = step at way
  cases way with
  | closed shut =>
      rw [opened] at shut
      cases shut
  | direct => exact .inl ⟨_, rfl⟩
  | passed scheme state text => exact .inl ⟨text, rfl⟩
  | decoded scheme state _ channel foreign =>
      have outcome :=
        outcome_transform expansionLimit scheme.decoder state (converter.relevant packet)
      generalize
        transform expansionLimit scheme.decoder state (converter.relevant packet) = answer
        at outcome
      cases outcome with
      | text taken => exact .inl ⟨taken, rfl⟩
      | invalid | incomplete | exhausted => exact .inr (.inl ⟨_, rfl⟩)
      | blocked obstacle => exact .inr (.inr ⟨obstacle, rfl⟩)

/-! ## Packets in a row -/

/-- The converter after packets. -/
def afterAll (converter : Converter) (packets : List (List UInt8)) : Converter :=
  packets.foldl (fun converter packet => (converter.convert packet).after) converter

/-- What packets leave to a converter is there after any number of them. -/
theorem afterAll_of_convert
    (Holds : Converter → Prop)
    (kept : ∀ converter packet, Holds converter → Holds (converter.convert packet).after)
    (converter : Converter)
    (start : Holds converter)
    (packets : List (List UInt8)) :
    Holds (converter.afterAll packets) := by
  induction packets generalizing converter with
  | nil => exact start
  | cons packet rest hypothesis => exact hypothesis _ (kept converter packet start)

/-- A converter that no packets take to one that an obstacle stops. -/
def IsUnobstructed (converter : Converter) : Prop :=
  ∀ (packets : List (List UInt8)) (packet : List UInt8) (obstacle : Encoding.Obstacle),
    [] ∉ packets →
      ((converter.afterAll packets).convert packet).result ≠ .error (.blocked obstacle)

/-- A decoder of a converter, if it has one, meets no obstacle in any state. -/
def HasSafeDecoder (converter : Converter) : Prop :=
  ∀ scheme state, converter.channel = .decoding scheme state → scheme.decoder.NeverBlocks

theorem HasSafeDecoder.convert
    (converter : Converter)
    (packet : List UInt8)
    (safe : converter.HasSafeDecoder) :
    (converter.convert packet).after.HasSafeDecoder := by
  have way := way_convertWithin expansionLimit converter packet
  rw [Converter.convert]
  generalize converter.convertWithin expansionLimit packet = step at way
  cases way with
  | closed | direct | passed => exact safe
  | decoded scheme state opened channel foreign =>
      intro other later same
      cases same
      exact safe scheme state channel

/-- No obstacle stops a converter whose decoder meets none. -/
theorem isUnobstructed_of_hasSafeDecoder
    (converter : Converter)
    (safe : converter.HasSafeDecoder) :
    converter.IsUnobstructed := by
  intro packets packet obstacle _ stopped
  have still := afterAll_of_convert HasSafeDecoder HasSafeDecoder.convert converter safe packets
  generalize converter.afterAll packets = before at still stopped
  have way := way_convertWithin expansionLimit before packet
  rw [Converter.convert] at stopped
  generalize before.convertWithin expansionLimit packet = step at way stopped
  cases way with
  | closed | direct | passed => cases stopped
  | decoded scheme state opened channel foreign =>
      have outcome := outcome_transform expansionLimit scheme.decoder state (before.relevant packet)
      generalize
        transform expansionLimit scheme.decoder state (before.relevant packet) = answer
        at outcome stopped
      cases outcome with
      | blocked met after decoded =>
          exact still scheme state channel state _ met (congrArg Prod.fst decoded)
      | invalid | incomplete | exhausted | text => cases stopped

theorem isUnobstructed_of_neverBlocks
    (name : String)
    (scheme : Scheme)
    (detecting : Bool)
    (never : scheme.decoder.NeverBlocks) :
    (decoding name scheme detecting).IsUnobstructed := by
  refine isUnobstructed_of_hasSafeDecoder _ ?_
  intro other state same
  cases same
  exact never

/-! ## Packets that are stopped -/

/-- The bytes that stop a decoder with obstacles: a unit, a switch without an end, or any at all. -/
def stumblingBlock : Encoding → List UInt8
  | .wide _ _ => [0, 0, 0, 0]
  | .escape _ => [0x1B, 0x24, 0x20, 0x20, 0x20, 0x20, 0x20, 0x20, 0x20, 0x20]
  | _ => [0xFF]

/--
A byte that is not UTF-8 ends detection and leaves a decoder with obstacles where it started; the
next packet can stop it.
-/
theorem exists_blocked
    (name : String)
    (encoding : Encoding)
    (detecting : Bool)
    (obstructed : encoding.hasObstacles = true) :
    ∃ obstacle,
      (((decoding name encoding detecting).convert [0xFF]).after.convert
          (stumblingBlock encoding)).result = .error (.blocked obstacle) := by
  cases encoding with
  | wide width order =>
      cases order with
      | some order => cases obstructed
      | none =>
          refine ⟨.unknownOrder, ?_⟩
          cases width <;> cases detecting <;> cbv
  | escape variant =>
      refine ⟨.backlog, ?_⟩
      cases variant <;> cases detecting <;> cbv
  | undefined =>
      refine ⟨.noEncoding, ?_⟩
      cases detecting <;> cbv
  | _ => cases obstructed

/-- A converter for an encoding is stopped by no obstacle exactly if the encoding has none. -/
theorem isUnobstructed_decoding_iff (name : String) (encoding : Encoding) (detecting : Bool) :
    (decoding name encoding detecting).IsUnobstructed ↔ encoding.hasObstacles = false := by
  constructor
  · intro unobstructed
    rw [← Bool.not_eq_true]
    intro obstructed
    rcases exists_blocked name encoding detecting obstructed with ⟨obstacle, stopped⟩
    exact unobstructed [[0xFF]] (stumblingBlock encoding) obstacle (by simp) stopped
  · intro free
    exact isUnobstructed_of_neverBlocks name encoding detecting (encoding.neverBlocks_decoder free)

end Converter

end TimedText
