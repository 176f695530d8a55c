import Mathlib
import TimedText.Proofs.Markup.Lexeme
import TimedText.Proofs.Session.Exit

/-!
# Places of subtitles

A text asks for a place by a block that holds `\an` and a digit from 1 to 9, and nothing else.  Such
a block counts where it is a lexeme of the text, and not where its characters stand inside a font
tag or inside another block.  The first one gives the place.  Blocks that look alike but name no key
are passed over, and so is every other lexeme.

A place that a key names has one part from top to bottom and one from left to right, and so has the
place that settings ask for.  No subtitle that a session shows is at the top and at the bottom, or
at the left and at the right.
-/

namespace TimedText

/-! ## The nine places -/

/-- A place that is one of the nine. -/
def Alignment.IsPlace (align : Alignment) : Prop :=
  ∃ vertical horizontal, align = .place vertical horizontal

/-- A place with all of the given bits. -/
def Alignment.Has (align : Alignment) (bits : Nat) : Prop :=
  align.bits &&& bits = bits

instance (align : Alignment) (bits : Nat) : Decidable (align.Has bits) :=
  inferInstanceAs (Decidable (align.bits &&& bits = bits))

/-- One of the nine places is not on two opposite sides. -/
theorem Alignment.IsPlace.not_opposite {align : Alignment} (placed : align.IsPlace) :
    ¬ (align.Has Vertical.top.bits ∧ align.Has Vertical.bottom.bits) ∧
      ¬ (align.Has Horizontal.left.bits ∧ align.Has Horizontal.right.bits) := by
  rcases placed with ⟨vertical, horizontal, rfl⟩
  cases vertical <;> cases horizontal <;> decide

namespace Markup

/-! ## Blocks that ask for a place -/

/-- The place of the first block that names a key, if there is one. -/
def place? (text : List Char) : Option Alignment :=
  (Piece.split (untilNul text)).findSome? Piece.key?

theorem align_of_parse
    (lookup : Color.Lookup)
    (align : Alignment)
    (text : List Char)
    (outcome : Outcome)
    (read : parse lookup align text = .ok outcome) :
    outcome.align = (place? text).getD align := by
  unfold parse at read
  dsimp only at read
  split at read
  next =>
    cases read
    rfl
  next => cases read

/-- A block names a key exactly if it holds `\an` and a digit from 1 to 9. -/
theorem Piece.key?_eq_some_iff (piece : Piece) (align : Alignment) :
    piece.key? = some align ↔
      ∃ digit,
        piece = .block ['\\', 'a', 'n', digit] ∧ '1' ≤ digit ∧ digit ≤ '9' ∧
          align = .ofKeyIndex (digit.toNat - 49) := by
  constructor
  · intro key
    unfold key? at key
    split at key
    next digit =>
      split at key
      next known =>
        cases key
        exact ⟨digit, rfl, known.1, known.2, rfl⟩
      next => cases key
    next => cases key
  · rintro ⟨digit, rfl, low, high, rfl⟩
    exact if_pos ⟨low, high⟩

theorem Piece.isPlace_of_key?
    (piece : Piece)
    (align : Alignment)
    (key : piece.key? = some align) :
    align.IsPlace := by
  rcases (piece.key?_eq_some_iff align).1 key with ⟨digit, -, -, -, rfl⟩
  exact ⟨_, _, rfl⟩

/-- A text is shown in one of the nine places if the caller asks for one of them. -/
theorem isPlace_of_parse
    (lookup : Color.Lookup)
    (align : Alignment)
    (text : List Char)
    (outcome : Outcome)
    (read : parse lookup align text = .ok outcome)
    (placed : align.IsPlace) :
    outcome.align.IsPlace := by
  rw [align_of_parse lookup align text outcome read, place?]
  cases found : (Piece.split (untilNul text)).findSome? Piece.key? with
  | none => exact placed
  | some chosen =>
      rcases List.exists_of_findSome?_eq_some found with ⟨piece, -, key⟩
      exact piece.isPlace_of_key? chosen key

/-! ## Lexemes that ask for a place -/

/-- A lexeme asks for the place of a key if it is a block that holds `\an` and the key alone. -/
inductive Lexeme.AsksFor : Lexeme → Alignment → Prop where
  | key
      (low : '1' ≤ digit)
      (high : digit ≤ '9')
      (place : Alignment.ofKey? (digit.toNat - 48) = some align) :
      AsksFor ⟨.block, ['{', '\\', 'a', 'n', digit, '}']⟩ align

/-- A key has the place that its digit has among the keys counted from zero. -/
theorem ofKey?_digit (digit : Char) (low : '1' ≤ digit) (high : digit ≤ '9') :
    Alignment.ofKey? (digit.toNat - 48) = some (.ofKeyIndex (digit.toNat - 49)) := by
  have above : 49 ≤ digit.toNat := UInt32.le_iff_toNat_le.1 low
  have below : digit.toNat ≤ 57 := UInt32.le_iff_toNat_le.1 high
  rw [Alignment.ofKey?, if_pos (by omega)]
  congr 2
  omega

/-- A block holds what stands up to the first closing brace. -/
theorem Piece.eq_block_of_block?
    {text rest : List Char}
    {piece : Piece}
    (found : block? text = some (piece, rest)) :
    ∃ body, piece = .block body ∧ text = body ++ '}' :: rest := by
  unfold block? at found
  split at found
  next body after divided =>
    split at found
    next =>
      cases found
      exact ⟨body, rfl, ((Attribute.splitAtFirst?_eq_some_iff '}' text body rest).1 divided).1⟩
    next => cases found
  next => cases found

/-- No shape but that of blocks finds a block. -/
theorem Shape.eq_block_of_attempt
    {shape : Shape}
    {text body rest : List Char}
    (found : shape.attempt text = some (.block body, rest)) :
    shape = .block ∧ text = '{' :: (body ++ '}' :: rest) := by
  unfold attempt at found
  split at found
  next => simp [Piece.breakTag?] at found
  next =>
    rcases List.exists_of_findSome?_eq_some found with ⟨entry, -, matched⟩
    simp at matched
  next =>
    unfold Piece.fontTag? at found
    split at found
    next => split at found <;> simp at found
    next => cases found
  next =>
    unfold Piece.closeTag? at found
    split at found
    next =>
      split at found
      next => split at found <;> simp at found
      next => cases found
    next => cases found
  next tail =>
    rcases Piece.eq_block_of_block? found with ⟨inner, same, rfl⟩
    cases same
    exact ⟨rfl, rfl⟩
  next => cases found
  next => cases found

/-- The lexemes that are read as a block are those that hold its body between braces. -/
theorem Lexeme.ReadAs.eq_block_iff
    {lexeme : Lexeme}
    {piece : Piece}
    (read : lexeme.ReadAs piece)
    (body : List Char) :
    piece = .block body ↔ lexeme = ⟨.block, '{' :: (body ++ ['}'])⟩ := by
  rcases lexeme with ⟨shape, written⟩
  rcases read with ⟨rest, found⟩
  constructor
  · rintro rfl
    rcases Shape.eq_block_of_attempt found with ⟨rfl, parts⟩
    have whole : written ++ rest = '{' :: (body ++ ['}']) ++ rest := by
      simpa using parts
    rw [List.append_cancel_right whole]
  · intro same
    cases same
    rw [List.cons_append, List.append_assoc] at found
    rcases Piece.eq_block_of_block? found with ⟨inner, rfl, parts⟩
    rw [List.append_cancel_right parts]

/-- A lexeme asks for a place exactly if the piece that it is read as names a key. -/
theorem Lexeme.ReadAs.asksFor_iff
    {lexeme : Lexeme}
    {piece : Piece}
    (read : lexeme.ReadAs piece)
    (align : Alignment) :
    lexeme.AsksFor align ↔ piece.key? = some align := by
  rw [piece.key?_eq_some_iff]
  constructor
  · intro asks
    cases asks with
    | @key digit _ low high place =>
        refine ⟨digit, (read.eq_block_iff _).2 rfl, low, high, ?_⟩
        rw [ofKey?_digit digit low high] at place
        exact (Option.some_inj.1 place).symm
  · rintro ⟨digit, block, low, high, rfl⟩
    rw [(read.eq_block_iff _).1 block]
    exact .key low high (ofKey?_digit digit low high)

/--
The first key among pieces is what the first lexeme asks for that asks for a place, if there is one.
-/
theorem first_asking
    {lexemes : List Lexeme}
    {pieces : List Piece}
    (read : List.Forall₂ Lexeme.ReadAs lexemes pieces) :
    (∃ before lexeme after place,
      lexemes = before ++ lexeme :: after ∧ lexeme.AsksFor place ∧
        (∀ earlier ∈ before, ∀ other, ¬ earlier.AsksFor other) ∧
          pieces.findSome? Piece.key? = some place) ∨
      (∀ lexeme ∈ lexemes, ∀ place, ¬ lexeme.AsksFor place) ∧
        pieces.findSome? Piece.key? = none := by
  induction read with
  | nil => exact .inr ⟨by simp, rfl⟩
  | @cons lexeme piece lexemes pieces one others hypothesis =>
      rw [List.findSome?_cons]
      cases key : piece.key? with
      | some place =>
          exact .inl ⟨[], lexeme, lexemes, place, rfl, (one.asksFor_iff place).2 key, by simp, rfl⟩
      | none =>
          have quiet : ∀ place, ¬ lexeme.AsksFor place := by
            intro place asks
            rw [one.asksFor_iff, key] at asks
            cases asks
          rcases hypothesis with
            ⟨before, asking, after, place, rfl, asks, first, found⟩ | ⟨none, found⟩
          · exact
              .inl ⟨lexeme :: before, asking, after, place, rfl, asks,
                List.forall_mem_cons.2 ⟨quiet, first⟩, found⟩
          · exact .inr ⟨List.forall_mem_cons.2 ⟨quiet, none⟩, found⟩

end Markup

namespace Session

open Markup

theorem isPlace_of_decode
    (session : Session)
    (packet : Packet)
    (subtitle : Subtitle)
    (shown : (session.decode packet).result = .ok (some subtitle)) :
    subtitle.align.IsPlace := by
  rcases session.shown_of_decode packet subtitle shown with ⟨start, text, outcome, -, parsed, rfl⟩
  exact isPlace_of_parse _ _ text outcome parsed ⟨_, _, rfl⟩

/--
The place of a text is that of its first lexeme that asks for one, and the given place if none does.
So whatever its settings, a session shows no subtitle at the top and at the bottom, and none at the
left and at the right.
-/
theorem place_of_first_key
    (lookup : Color.Lookup)
    (align : Alignment)
    (text : List Char)
    (outcome : Outcome)
    (read : parse lookup align text = .ok outcome) :
    (∃ lexemes,
      (∀ others, Splits (untilNul text) others ↔ others = lexemes) ∧
        ((∃ before lexeme after,
            lexemes = before ++ lexeme :: after ∧ lexeme.AsksFor outcome.align ∧
              ∀ earlier ∈ before, ∀ place, ¬ earlier.AsksFor place) ∨
          (∀ lexeme ∈ lexemes, ∀ place, ¬ lexeme.AsksFor place) ∧ outcome.align = align)) ∧
      ∀ (session : Session) (packet : Packet) (subtitle : Subtitle),
        (session.decode packet).result = .ok (some subtitle) →
          ¬ (subtitle.align.Has Vertical.top.bits ∧ subtitle.align.Has Vertical.bottom.bits) ∧
            ¬ (subtitle.align.Has Horizontal.left.bits ∧
              subtitle.align.Has Horizontal.right.bits) := by
  refine ⟨?_, fun session packet subtitle shown =>
    (session.isPlace_of_decode packet subtitle shown).not_opposite⟩
  rcases exists_splits_read (untilNul text) with ⟨lexemes, splits, reads⟩
  refine ⟨lexemes, fun others => ⟨fun other => other.unique splits, fun same => same ▸ splits⟩, ?_⟩
  rw [align_of_parse lookup align text outcome read, place?]
  rcases first_asking reads with ⟨before, lexeme, after, place, parts, asks, first, found⟩ | quiet
  · rw [found]
    exact .inl ⟨before, lexeme, after, parts, asks, first⟩
  · rw [quiet.2]
    exact .inr ⟨quiet.1, rfl⟩

/-- A key in a quoted value, one in a block that goes on and one out of range are passed over. -/
theorem place_of_first_key_behind_others :
    let written :=
      "<font a='\x7b\\an1\x7d'>\x7bc:\x7b\\an2\x7d\x7b\\an0\x7d\x7b\\an7\x7d\x7b\\an3\x7d".toList
    let session : Session :=
      { codec := .subt, settings := {}, converter := .direct, lookup := Color.byName }
    ∃ outcome lexemes before lexeme after subtitle,
      parse Color.byName (.place .bottom .center) written = .ok outcome ∧
        Splits written lexemes ∧ lexemes = before ++ lexeme :: after ∧
          lexeme.AsksFor (.place .top .left) ∧ outcome.align = .place .top .left ∧
            (session.decode
                { data := Encoding.Utf8.encode "\x7b\\an7\x7dx".toList,
                  start := some 1000000 }).result = .ok (some subtitle) ∧
              ¬ (subtitle.align.Has Vertical.top.bits ∧
                subtitle.align.Has Vertical.bottom.bits) := by
  have read :
      parse Color.byName (.place .bottom .center)
          "<font a='\x7b\\an1\x7d'>\x7bc:\x7b\\an2\x7d\x7b\\an0\x7d\x7b\\an7\x7d\x7b\\an3\x7d".toList =
        .ok ⟨[{ text := "" }, { text := "" }], .place .top .left⟩ := by
    cbv
  have shown :
      (Session.decode
          { codec := .subt, settings := {}, converter := .direct, lookup := Color.byName }
          { data := Encoding.Utf8.encode "\x7b\\an7\x7dx".toList,
            start := some 1000000 }).result =
        .ok (some (.timed 1000000 0 (.place .top .left) [{ text := "x" }])) := by
    cbv
  rcases place_of_first_key _ _ _ _ read with ⟨⟨lexemes, only, found⟩, sides⟩
  rcases found with ⟨before, lexeme, after, parts, asks, -⟩ | ⟨-, unchanged⟩
  · refine ⟨_, lexemes, before, lexeme, after, _, read, ?_, parts, asks, rfl, shown, ?_⟩
    · exact (only lexemes).2 rfl
    · exact (sides _ _ _ shown).1
  · exact absurd unchanged (by decide)

end Session

end TimedText
