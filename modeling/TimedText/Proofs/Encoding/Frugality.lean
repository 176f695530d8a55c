import TimedText.Encoding
import TimedText.Proofs.Encoding.Utf8

/-!
# No more characters than bytes

Every byte that is read gives at most one character, under all encodings.  A sequence of several
bytes mostly stands for one character, and marks, signatures and escape sequences stand for none.
Where two bytes stand for a letter and its accent they make two characters, which is just as many.

A decoder may hold bytes back and read them with the next packet, so what it makes of a packet is
counted against both.  None holds any at its start or after a reset, and an obstacle adds none to
those that it holds.
-/

namespace TimedText.Encoding

/-! ## Readers -/

/-- Characters that are not more than the bytes that they take, of which so many are there. -/
def Read.IsFrugal (available : Nat) : Read → Prop
  | .chars text further => further ≤ available ∧ text.length ≤ further + 1
  | .incomplete => True
  | .illegal _ _ => True

@[simp]
theorem Read.isFrugal_char (available : Nat) (char : Char) (further : Nat) :
    (Read.chars [char] further).IsFrugal available ↔ further ≤ available := by
  constructor
  · intro frugal
    exact frugal.1
  · intro enough
    exact ⟨enough, Nat.succ_le_succ (Nat.zero_le further)⟩

@[simp]
theorem Read.isFrugal_incomplete (available : Nat) : Read.incomplete.IsFrugal available :=
  trivial

@[simp]
theorem Read.isFrugal_illegal (available : Nat) (reason : Reason) (further : Nat) :
    (Read.illegal reason further).IsFrugal available :=
  trivial

/-- A reader that makes at most one character of each byte. -/
def Reader.IsFrugal (reader : Reader) : Prop :=
  ∀ first rest, (reader first rest).IsFrugal rest.length

/-- The characters of bytes, and the bytes at the end that wait, are no more than the bytes. -/
theorem Reader.IsFrugal.length_decodeAll
    {reader : Reader}
    (frugal : reader.IsFrugal)
    {position : Nat}
    {bytes waiting : List UInt8}
    {text : List Char}
    (decoded : reader.decodeAll position bytes = .ok (text, waiting)) :
    text.length + waiting.length ≤ bytes.length := by
  induction position, bytes using Reader.decodeAll.induct reader generalizing text waiting with
  | case1 position =>
      rw [Reader.decodeAll] at decoded
      cases decoded
      exact Nat.le_refl 0
  | case2 position first rest taken further found others kept remaining hypothesis =>
      rw [Reader.decodeAll, found] at decoded
      simp only [remaining] at decoded
      cases decoded
      have here := frugal first rest
      rw [found] at here
      rcases here with ⟨enough, few⟩
      have behind := hypothesis remaining
      rw [List.length_drop] at behind
      rw [List.length_append, List.length_cons]
      omega
  | case3 position first rest taken further found fault remaining hypothesis =>
      rw [Reader.decodeAll, found] at decoded
      simp only [remaining] at decoded
      cases decoded
  | case4 position first rest found =>
      rw [Reader.decodeAll, found] at decoded
      cases decoded
      exact Nat.le_of_eq (Nat.zero_add _)
  | case5 position first rest reason further found =>
      rw [Reader.decodeAll, found] at decoded
      cases decoded

/-! ## Single bytes -/

theorem isFrugal_readAscii : Reader.IsFrugal readAscii := by
  intro first rest
  unfold readAscii
  split <;> simp

theorem isFrugal_readLatin1 : Reader.IsFrugal readLatin1 := by
  intro first rest
  simp [readLatin1]

theorem CodePage.isFrugal_read (page : CodePage) : Reader.IsFrugal page.read := by
  intro first rest
  unfold read
  split <;> simp

/-! ## Unicode -/

theorem Utf8.isFrugal_read (final : Bool) : Reader.IsFrugal (read final) := by
  intro first rest
  cases taken : read final first rest with
  | chars text further =>
      rcases continues_of_read final first rest text further taken with
        ⟨tail, more, code, rfl, rfl, _, rfl⟩
      simp
  | incomplete => trivial
  | illegal => trivial

theorem Wide.isFrugal_readUtf16 (order : ByteOrder) : Reader.IsFrugal (readUtf16 order) := by
  intro first rest
  unfold readUtf16
  split
  · trivial
  · dsimp only
    split
    · split
      · split <;> simp
      · trivial
    · split <;> simp

theorem Wide.isFrugal_readUtf32 (order : ByteOrder) : Reader.IsFrugal (readUtf32 order) := by
  intro first rest
  unfold readUtf32
  split
  · dsimp only
    split
    · trivial
    · split <;> simp
  · trivial

theorem Wide.isFrugal_read (width : UnitWidth) (order : ByteOrder) :
    Reader.IsFrugal (read width order) := by
  cases width with
  | two => exact isFrugal_readUtf16 order
  | four => exact isFrugal_readUtf32 order

/-! ## Korean -/

theorem Korean.isFrugal_readEucKr : Reader.IsFrugal readEucKr := by
  intro first rest
  unfold readEucKr
  split
  · simp
  · split
    · trivial
    · split
      · unfold readComposed
        split
        · split
          · split <;> simp
          · trivial
        · trivial
      · split <;> simp

theorem Korean.isFrugal_readCp949 : Reader.IsFrugal readCp949 := by
  intro first rest
  unfold readCp949
  split
  · simp
  · split
    · trivial
    · split <;> simp

/-! ## Japanese -/

theorem Japanese.isFrugal_readCell
    {available further : Nat}
    (enough : further ≤ available)
    (char? : Option Char) :
    (readCell further char?).IsFrugal available := by
  cases char? with
  | none => trivial
  | some char => exact (Read.isFrugal_char available char further).2 enough

theorem Japanese.isFrugal_readEucJp : Reader.IsFrugal readEucJp := by
  intro first rest
  unfold readEucJp
  split
  · simp
  · split
    · split
      · exact isFrugal_readCell (by simp) _
      · trivial
    · split
      · trivial
      · split
        · exact isFrugal_readCell (by simp) _
        · exact isFrugal_readCell (by simp) _

theorem Japanese.isFrugal_readShiftJis : Reader.IsFrugal readShiftJis := by
  intro first rest
  unfold readShiftJis
  split
  · simp
  · split
    · simp
    · split
      · split
        · trivial
        · exact isFrugal_readCell (by simp) _
      · trivial

theorem Japanese.isFrugal_readCp932 : Reader.IsFrugal readCp932 := by
  intro first rest
  unfold readCp932
  split
  · simp
  · split
    · simp
    · split
      · simp
      · split
        · trivial
        · split
          · trivial
          · split
            · simp
            · exact isFrugal_readCell (by simp) _

/-! ## Chinese -/

theorem Chinese.isFrugal_readCell {available : Nat} (enough : 1 ≤ available) (char? : Option Char) :
    (readCell char?).IsFrugal available := by
  cases char? with
  | none => trivial
  | some char => exact (Read.isFrugal_char available char 1).2 enough

theorem Chinese.isFrugal_readPairs (char? : UInt8 → UInt8 → Option Char) :
    Reader.IsFrugal (readPairs char?) := by
  intro first rest
  unfold readPairs
  split
  · simp
  · split
    · trivial
    · exact isFrugal_readCell (by simp) _

theorem Chinese.isFrugal_readGb18030 : Reader.IsFrugal readGb18030 := by
  intro first rest
  unfold readGb18030
  split
  · simp
  · split
    · trivial
    · split
      · split
        · split <;> simp
        · trivial
      · exact isFrugal_readCell (by simp) _

/-- The two bytes of a letter with a mark make two characters. -/
theorem Chinese.length_of_marked?
    {first second : UInt8}
    {text : List Char}
    (found : marked? first second = some text) :
    text.length = 2 := by
  unfold marked? at found
  split_ifs at found <;> cases found <;> rfl

theorem Chinese.isFrugal_readBig5Hkscs : Reader.IsFrugal readBig5Hkscs := by
  intro first rest
  unfold readBig5Hkscs
  split
  · split
    next text found =>
      rw [Read.IsFrugal, length_of_marked? found]
      simp
    next => exact isFrugal_readPairs _ first _
  · exact isFrugal_readPairs _ first []

/-- The readers of all encodings that have one make at most one character of each byte. -/
theorem isFrugal_reader
    {encoding : Encoding}
    {reader : Reader}
    (read : encoding.reader? = some reader) :
    reader.IsFrugal := by
  cases encoding with
  | ascii =>
      cases read
      exact isFrugal_readAscii
  | latin1 =>
      cases read
      exact isFrugal_readLatin1
  | page codePage =>
      cases read
      exact codePage.isFrugal_read
  | utf8 =>
      cases read
      exact Utf8.isFrugal_read false
  | wide width order =>
      cases order with
      | none => cases read
      | some order =>
          cases read
          exact Wide.isFrugal_read width order
  | eucKr =>
      cases read
      exact Korean.isFrugal_readEucKr
  | cp949 =>
      cases read
      exact Korean.isFrugal_readCp949
  | eucJp =>
      cases read
      exact Japanese.isFrugal_readEucJp
  | shiftJis =>
      cases read
      exact Japanese.isFrugal_readShiftJis
  | cp932 =>
      cases read
      exact Japanese.isFrugal_readCp932
  | gb18030 =>
      cases read
      exact Chinese.isFrugal_readGb18030
  | big5Hkscs =>
      cases read
      exact Chinese.isFrugal_readBig5Hkscs
  | gb2312 | gbk | big5 =>
      cases read
      exact Chinese.isFrugal_readPairs _
  | utf8Signed | escape | undefined => cases read

/-! ## Escape sequences -/

namespace EscapeCodes

/-- The end of a sequence is found among its bytes. -/
theorem lt_of_findEnd
    {revisions : Bool}
    {index further : Nat}
    {bytes : List UInt8}
    (found : findEnd revisions index bytes = .found further) :
    further < index + bytes.length := by
  induction index, bytes using findEnd.induct revisions with
  | case1 index early =>
      rw [findEnd, if_pos early] at found
      cases found
  | case2 index late =>
      rw [findEnd, if_neg late] at found
      cases found
  | case3 index byte rest late =>
      rw [findEnd, if_pos late] at found
      cases found
  | case4 index byte rest early final =>
      rw [findEnd, if_neg early, if_pos final] at found
      cases found
      rw [List.length_cons]
      omega
  | case5 index byte rest early inner revision hypothesis =>
      rw [findEnd, if_neg early, if_neg inner, if_pos revision] at found
      have inside := hypothesis found
      -- The search does not end behind the bytes, so two of them are left to be passed over.
      rcases rest with _ | ⟨second, _ | ⟨third, others⟩⟩
      · simp at revision
      · rw [List.drop_of_length_le (by simp), findEnd] at found
        split at found <;> cases found
      · simp only [List.drop_succ_cons, List.drop_zero, List.length_cons] at inside ⊢
        omega
  | case6 index byte rest early inner plain hypothesis =>
      rw [findEnd, if_neg early, if_neg inner, if_neg plain] at found
      have inside := hypothesis found
      rw [List.length_cons]
      omega

/-- Characters that are not more than the bytes that they take, of which so many are there. -/
def Step.IsFrugal (available : Nat) : Step → Prop
  | .read text _ further => further ≤ available ∧ text.length ≤ further + 1
  | .incomplete => True
  | .illegal => True
  | .unusable => True

@[simp]
theorem Step.isFrugal_char (available : Nat) (char : Char) (state : State) (further : Nat) :
    (Step.read [char] state further).IsFrugal available ↔ further ≤ available := by
  constructor
  · intro frugal
    exact frugal.1
  · intro enough
    exact ⟨enough, Nat.succ_le_succ (Nat.zero_le further)⟩

@[simp]
theorem Step.isFrugal_nothing (available : Nat) (state : State) (further : Nat) :
    (Step.read [] state further).IsFrugal available ↔ further ≤ available := by
  constructor
  · intro frugal
    exact frugal.1
  · intro enough
    exact ⟨enough, Nat.zero_le _⟩

theorem isFrugal_switch (variant : EscapeVariant) (state : State) (rest : List UInt8) :
    (switch variant state rest).IsFrugal rest.length := by
  unfold switch
  split
  next => trivial
  next => trivial
  next further found =>
    have inside := lt_of_findEnd found
    split
    · trivial
    · split
      · rw [Step.isFrugal_nothing]
        omega
      · trivial

theorem isFrugal_supplementary
    {available : Nat}
    (enough : 2 ≤ available)
    (state : State)
    (byte : UInt8) :
    (supplementary state byte).IsFrugal available := by
  have each (char : Char) : (Step.read [char] state 2).IsFrugal available :=
    (Step.isFrugal_char available char state 2).2 enough
  unfold supplementary
  dsimp only
  -- The outer split is over the sets, the inner one over whether the byte stands for a character.
  split
  · split
    · exact each _
    · trivial
  · split
    · exact each _
    · trivial
  · split
    · exact each _
    · trivial
  · trivial

theorem isFrugal_readFrom
    (set : CharacterSet)
    (state : State)
    (first : UInt8)
    (rest : List UInt8) :
    (readFrom set state first rest).IsFrugal rest.length := by
  unfold readFrom
  split
  · split
    · simp
    · trivial
  · split
    · trivial
    · split
      · simp
      · trivial

theorem isFrugal_readEscape (variant : EscapeVariant) (state : State) (rest : List UInt8) :
    (readEscape variant state rest).IsFrugal rest.length := by
  unfold readEscape
  split
  · trivial
  · split
    · exact isFrugal_switch variant state _
    · split
      · split
        · trivial
        · exact isFrugal_supplementary (by simp) state _
      · simp

theorem isFrugal_step
    (variant : EscapeVariant)
    (state : State)
    (first : UInt8)
    (rest : List UInt8) :
    (step variant state first rest).IsFrugal rest.length := by
  unfold step
  split_ifs
  · simp
  · exact isFrugal_readEscape variant state rest
  · simp
  · simp
  · simp
  · simp
  · trivial
  · exact isFrugal_readFrom _ state first rest

/-- The characters of bytes, and the bytes at the end that wait, are no more than the bytes. -/
theorem length_decodeAll
    {variant : EscapeVariant}
    {state after : State}
    {position : Nat}
    {bytes waiting : List UInt8}
    {text : List Char}
    (decoded : decodeAll variant state position bytes = (.ok (text, waiting), after)) :
    text.length + waiting.length ≤ bytes.length := by
  induction state, position, bytes using decodeAll.induct variant generalizing text waiting with
  | case1 state position =>
      rw [decodeAll] at decoded
      cases decoded
      exact Nat.le_refl 0
  | case2 state position first rest taken next further found others kept last remaining hypothesis =>
      rw [decodeAll, found] at decoded
      simp only [remaining] at decoded
      cases decoded
      have here := isFrugal_step variant state first rest
      rw [found] at here
      rcases here with ⟨enough, few⟩
      have behind := hypothesis remaining
      rw [List.length_drop] at behind
      rw [List.length_append, List.length_cons]
      omega
  | case3 state position first rest taken next further found fault last remaining hypothesis =>
      rw [decodeAll, found] at decoded
      simp only [remaining] at decoded
      cases decoded
  | case4 state position first rest found =>
      rw [decodeAll, found] at decoded
      cases decoded
      exact Nat.le_of_eq (Nat.zero_add _)
  | case5 state position first rest found =>
      rw [decodeAll, found] at decoded
      cases decoded
  | case6 state position first rest found =>
      rw [decodeAll, found] at decoded
      cases decoded

end EscapeCodes

/-! ## Decoders -/

/--
A decoder that makes at most one character of each byte that it takes: of those that it has held back
and those of the packet, less those that it holds back now.
-/
def Decoder.IsFrugal (decoder : Decoder) : Prop :=
  ∀ {state packet text after},
    decoder.decode state packet = (.ok text, after) →
      text.length + (decoder.pending after).length ≤ (decoder.pending state).length + packet.length

/-- A decoder that holds no bytes at its start or after a reset, and no more behind an obstacle. -/
structure Decoder.IsOrderly (decoder : Decoder) : Prop where
  fresh : decoder.pending decoder.initial = []
  cleared : ∀ state, decoder.pending (decoder.reset state) = []
  stopped :
    ∀ {state packet obstacle after},
      decoder.decode state packet = (.error (.blocked obstacle), after) →
        decoder.pending after = decoder.pending state

/-- A decoder that settles what it reads keeps its state if it is stopped. -/
theorem Decoder.eq_of_settle_error
    {State : Type}
    {before after : State}
    {answer : Except Fault (List Char × State)}
    {fault : Fault}
    (settled : settle before answer = (.error fault, after)) :
    after = before := by
  cases answer with
  | ok read => cases settled
  | error found =>
      cases settled
      rfl

theorem Decoder.eq_ok_of_settle
    {State : Type}
    {before after : State}
    {answer : Except Fault (List Char × State)}
    {text : List Char}
    (settled : settle before answer = (.ok text, after)) :
    answer = .ok (text, after) := by
  cases answer with
  | ok read =>
      cases settled
      rfl
  | error found => cases settled

theorem Decoder.isFrugal_ofReader {reader : Reader} (frugal : reader.IsFrugal) :
    (ofReader reader).IsFrugal := by
  intro state packet text after decoded
  have counted := frugal.length_decodeAll (eq_ok_of_settle decoded)
  exact counted.trans (Nat.le_of_eq List.length_append)

theorem Decoder.isOrderly_ofReader (reader : Reader) : (ofReader reader).IsOrderly where
  fresh := rfl
  cleared _ := rfl
  stopped blocked := eq_of_settle_error blocked

theorem Decoder.isFrugal_none : Decoder.none.IsFrugal := by
  intro state packet text after decoded
  cases decoded

theorem Decoder.isOrderly_none : Decoder.none.IsOrderly where
  fresh := rfl
  cleared _ := rfl
  stopped _ := rfl

theorem Utf8.length_decodeUnsigned
    {bytes : List UInt8}
    {text : List Char}
    {after : SignedState}
    (decoded : decodeUnsigned bytes = .ok (text, after)) :
    text.length + after.waiting.length ≤ bytes.length := by
  unfold decodeUnsigned at decoded
  cases read : Reader.decodeAll (read false) 0 bytes with
  | error fault =>
      rw [read] at decoded
      cases decoded
  | ok answer =>
      rw [read] at decoded
      cases decoded
      exact (isFrugal_read false).length_decodeAll read

/-- A signature gives no character, and a part of one waits as a whole. -/
theorem Utf8.isFrugal_signedDecoder : signedDecoder.IsFrugal := by
  intro state packet text after decoded
  have read := Decoder.eq_ok_of_settle decoded
  change text.length + after.waiting.length ≤ state.waiting.length + packet.length
  rw [← List.length_append]
  generalize state.waiting ++ packet = bytes at read ⊢
  split at read
  · split at read
    · have counted := length_decodeUnsigned read
      rw [List.length_drop] at counted
      omega
    · split at read
      · cases read
        exact Nat.le_of_eq (Nat.zero_add _)
      · exact length_decodeUnsigned read
  · exact length_decodeUnsigned read

theorem Utf8.isOrderly_signedDecoder : signedDecoder.IsOrderly where
  fresh := rfl
  cleared _ := rfl
  stopped blocked := congrArg SignedState.waiting (Decoder.eq_of_settle_error blocked)

theorem Wide.length_decodeIn
    {width : UnitWidth}
    {order : ByteOrder}
    {position : Nat}
    {bytes : List UInt8}
    {text : List Char}
    {after : MarkedState}
    (decoded : decodeIn width order position bytes = .ok (text, after)) :
    text.length + after.waiting.length ≤ bytes.length := by
  unfold decodeIn at decoded
  cases read : (Wide.read width order).decodeAll position bytes with
  | error fault =>
      rw [read] at decoded
      cases decoded
  | ok answer =>
      rw [read] at decoded
      cases decoded
      exact (isFrugal_read width order).length_decodeAll read

/-- A mark gives no character, and bytes that are too few to tell wait as a whole. -/
theorem Wide.isFrugal_markedDecoder (width : UnitWidth) : (markedDecoder width).IsFrugal := by
  intro state packet text after decoded
  have read := Decoder.eq_ok_of_settle decoded
  change text.length + after.waiting.length ≤ state.waiting.length + packet.length
  rw [← List.length_append]
  generalize state.waiting ++ packet = bytes at read ⊢
  split at read
  · exact length_decodeIn read
  · split at read
    · have counted := length_decodeIn read
      rw [List.length_drop] at counted
      omega
    · unfold decodeUnmarked at read
      split at read
      · cases read
      · split at read
        · cases read
        · cases read
          exact Nat.le_of_eq (Nat.zero_add _)

theorem Wide.isOrderly_markedDecoder (width : UnitWidth) : (markedDecoder width).IsOrderly where
  fresh := rfl
  cleared _ := rfl
  stopped blocked := congrArg MarkedState.waiting (Decoder.eq_of_settle_error blocked)

/-- A packet is decoded to its end, or it leaves the bytes that were held before it. -/
theorem EscapeCodes.decode_cases
    (variant : EscapeVariant)
    (state : State × List UInt8)
    (packet : List UInt8) :
    (∃ text waiting after,
        decodeAll variant state.1 0 (state.2 ++ packet) = (.ok (text, waiting), after) ∧
          (decoder variant).decode state packet = (.ok text, (after, waiting))) ∨
      ∃ fault after, (decoder variant).decode state packet = (.error fault, (after, state.2)) := by
  unfold decoder
  dsimp only
  split
  next text waiting after read =>
    split
    · exact .inl ⟨text, waiting, after, read, rfl⟩
    · exact .inr ⟨_, after, rfl⟩
  next fault after read => exact .inr ⟨fault, after, rfl⟩

theorem EscapeCodes.isFrugal_decoder (variant : EscapeVariant) : (decoder variant).IsFrugal := by
  intro state packet text last decoded
  rcases decode_cases variant state packet with
    ⟨taken, waiting, after, read, whole⟩ | ⟨fault, after, failed⟩
  · rw [whole] at decoded
    cases decoded
    have counted := length_decodeAll read
    rwa [List.length_append] at counted
  · rw [failed] at decoded
    cases decoded

theorem EscapeCodes.isOrderly_decoder (variant : EscapeVariant) : (decoder variant).IsOrderly where
  fresh := rfl
  cleared _ := rfl
  stopped := by
    intro state packet obstacle last blocked
    rcases decode_cases variant state packet with
      ⟨text, waiting, after, _, decoded⟩ | ⟨fault, after, failed⟩
    · rw [decoded] at blocked
      cases blocked
    · rw [failed] at blocked
      cases blocked
      rfl

/-- The decoders of all encodings make at most one character of each byte. -/
theorem isFrugal_decoder (encoding : Encoding) : encoding.decoder.IsFrugal := by
  unfold decoder
  split
  next reader read => exact Decoder.isFrugal_ofReader (isFrugal_reader read)
  next =>
    split
    · exact Utf8.isFrugal_signedDecoder
    · exact Wide.isFrugal_markedDecoder _
    · exact EscapeCodes.isFrugal_decoder _
    · exact Decoder.isFrugal_none

theorem isOrderly_decoder (encoding : Encoding) : encoding.decoder.IsOrderly := by
  unfold decoder
  split
  next reader read => exact Decoder.isOrderly_ofReader reader
  next =>
    split
    · exact Utf8.isOrderly_signedDecoder
    · exact Wide.isOrderly_markedDecoder _
    · exact EscapeCodes.isOrderly_decoder _
    · exact Decoder.isOrderly_none

end TimedText.Encoding
