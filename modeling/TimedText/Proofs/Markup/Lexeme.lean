import TimedText.Proofs.Markup.Attribute
import TimedText.Proofs.Markup.Timeline
import TimedText.Proofs.Text.LetterCase

/-!
# Text is kept

A splitting of marked-up text is described here without reference to how it is found.  A lexeme is a
part of the text as it is written, and it has one of six shapes.  Five of them are kinds of markup;
a lexeme of the last shape is a single character.  At each place the lexeme has the first shape, in
a fixed order, that fits there.

Every text has exactly one such splitting.  Its lexemes make up the text, and reading the text shows
what its lexemes show: the characters that are no markup, and a line feed for each line break.
-/

namespace TimedText.Markup

/-! ## Shapes of lexemes -/

/-- The shapes that a part of marked-up text can have, in the order in which they are tried. -/
inductive Shape where
  | lineBreak
  | flagTag
  | fontTag
  | closingTag
  | block
  | character
deriving DecidableEq, Repr

namespace Shape

/-- The place of a shape in the order. -/
def rank : Shape → Nat
  | lineBreak => 0
  | flagTag => 1
  | fontTag => 2
  | closingTag => 3
  | block => 4
  | character => 5

theorem rank_injective : Function.Injective rank := by
  intro left right equal
  cases left <;> cases right <;> first | rfl | cases equal

end Shape

/--
`Fits shape written rest` says that a text starts with a part of a shape, that the part is written
as `written`, and that `rest` follows it.  Words of tags are written in any letter case.
-/
inductive Fits : (shape : Shape) → (written rest : List Char) → Prop where
  | lineBreak
      (word : Text.lower written = ['<', 'b', 'r', '/', '>']) :
      Fits .lineBreak written rest
  | flagTag
      (word : Text.lower written = ['<', letter, '>'])
      (known : letter ∈ ['b', 'i', 'u', 's']) :
      Fits .flagTag written rest
  | fontTag
      (word : Text.lower name = ['<', 'f', 'o', 'n', 't'])
      (blank : Text.isBlank space = true)
      (scanned : (Attribute.scan (space :: body ++ rest)).2 = rest)
      (ending : rest = [] ∨ ∃ inner, space :: body = inner ++ ['>']) :
      Fits .fontTag (name ++ space :: body) rest
  | closingTag
      (first : '>' ∉ name)
      (known : Text.lower name ∈ Piece.closableNames) :
      Fits .closingTag ('<' :: '/' :: name ++ ['>']) rest
  | block
      (first : '}' ∉ body)
      (command : (∃ codes, body = '\\' :: codes) ∨ ∃ letter codes, body = letter :: ':' :: codes) :
      Fits .block ('{' :: body ++ ['}']) rest
  | character :
      Fits .character [char] rest

/-- A part of a text as it is written, with its shape. -/
structure Lexeme where
  shape : Shape
  written : List Char
deriving DecidableEq, Repr

/-- The characters that a lexeme puts on the screen. -/
def Lexeme.shown (lexeme : Lexeme) : List Char :=
  match lexeme.shape with
  | .lineBreak => ['\n']
  | .character => lexeme.written
  | _ => []

/-- A lexeme fits at the start of a text, and none of a shape that comes before its own does. -/
structure Leads (lexeme : Lexeme) (rest : List Char) : Prop where
  fits : Fits lexeme.shape lexeme.written rest
  earliest :
    ∀ (shape : Shape) (written after : List Char),
      shape.rank < lexeme.shape.rank →
        written ++ after = lexeme.written ++ rest →
          ¬ Fits shape written after

/-- The splittings of a text into lexemes, each of which leads what is left of the text. -/
inductive Splits : List Char → List Lexeme → Prop where
  | nil : Splits [] []
  | cons
      (leads : Leads lexeme rest)
      (others : Splits rest lexemes) :
      Splits (lexeme.written ++ rest) (lexeme :: lexemes)

/-- The lexemes of a splitting follow one another without gap or overlap. -/
theorem Splits.written_eq
    {text : List Char}
    {lexemes : List Lexeme}
    (splits : Splits text lexemes) :
    lexemes.flatMap (·.written) = text := by
  induction splits with
  | nil => rfl
  | cons leads others hypothesis => rw [List.flatMap_cons, hypothesis]

/-! ## Words of tags -/

/-- A word is found at the start of a text exactly if the text starts with a spelling of it. -/
theorem Piece.dropWord?_eq_some_iff
    (word text rest : List Char) :
    Piece.dropWord? word text = some rest ↔
      ∃ written, text = written ++ rest ∧ written.map Char.toLower = word := by
  induction word generalizing text with
  | nil => simp [Piece.dropWord?]
  | cons letter word hypothesis =>
      cases text with
      | nil =>
          simp only [Piece.dropWord?]
          constructor
          · intro impossible
            cases impossible
          · rintro ⟨written, parts, spelled⟩
            rcases List.append_eq_nil_iff.1 parts.symm with ⟨rfl, -⟩
            cases spelled
      | cons char text =>
          simp only [Piece.dropWord?]
          split
          case isTrue same =>
              rw [hypothesis text]
              constructor
              · rintro ⟨written, rfl, spelled⟩
                exact ⟨char :: written, rfl, by simp [same, spelled]⟩
              · rintro ⟨written, parts, spelled⟩
                rcases List.map_eq_cons_iff.1 spelled with ⟨first, others, rfl, -, inner⟩
                rw [List.cons_append, List.cons.injEq] at parts
                exact ⟨others, parts.2, inner⟩
          case isFalse different =>
              constructor
              · intro impossible
                cases impossible
              · rintro ⟨written, parts, spelled⟩
                rcases List.map_eq_cons_iff.1 spelled with ⟨first, others, rfl, head, -⟩
                rw [List.cons_append, List.cons.injEq] at parts
                rw [parts.1] at different
                exact (different head).elim

theorem Piece.dropWord?_of_spelled
    (word written rest : List Char)
    (spelled : written.map Char.toLower = word) :
    Piece.dropWord? word (written ++ rest) = some rest :=
  (Piece.dropWord?_eq_some_iff word (written ++ rest) rest).2 ⟨written, rfl, spelled⟩

/-- A word of a tag is spelled with the bracket itself and a spelling of the letters after it. -/
theorem lower_eq_bracket_cons_iff
    (written word : List Char)
    (plain : Text.IsPlainWord ('<' :: word)) :
    Text.lower written = '<' :: word ↔
      ∃ letters, written = '<' :: letters ∧ letters.map Char.toLower = word := by
  rw [Text.lower_eq_iff written ('<' :: word) plain]
  constructor
  · intro spelled
    rcases List.map_eq_cons_iff.1 spelled with ⟨first, letters, rfl, head, inner⟩
    rw [(Text.toLower_eq_bracket_iff first).1 head]
    exact ⟨letters, rfl, inner⟩
  · rintro ⟨letters, rfl, inner⟩
    rw [List.map_cons, inner]
    rfl

/-- The names of closing tags are told apart alike by lower-case forms and by folding. -/
theorem lower_mem_closableNames_iff (name : List Char) :
    Text.lower name ∈ Piece.closableNames ↔ name.map Char.toLower ∈ Piece.closableNames := by
  have plain : ∀ word ∈ Piece.closableNames, Text.IsPlainWord word := by
    decide
  constructor
  · intro known
    have folded := (Text.lower_eq_iff name _ (plain _ known)).1 rfl
    rwa [folded]
  · intro known
    have lowered := (Text.lower_eq_iff name _ (plain _ known)).2 rfl
    rwa [lowered]

theorem isPlainWord_flagTag
    (letter : Char)
    (known : letter ∈ ['b', 'i', 'u', 's']) :
    Text.IsPlainWord ['<', letter, '>'] := by
  simp only [List.mem_cons, List.not_mem_nil, or_false] at known
  rcases known with rfl | rfl | rfl | rfl <;> decide

/-! ## Trying one shape -/

/-- What is found at the start of a text if one shape alone is tried. -/
def Shape.attempt : Shape → List Char → Option (Piece × List Char)
  | .lineBreak, '<' :: rest => Piece.breakTag? rest
  | .flagTag, '<' :: rest => Piece.flagTag? rest
  | .fontTag, '<' :: rest => Piece.fontTag? rest
  | .closingTag, '<' :: rest => Piece.closeTag? rest
  | .block, '{' :: rest => Piece.block? rest
  | .character, char :: rest => some (.literal char, rest)
  | _, _ => none

/-- A flag tag is a letter and a closing bracket after the opening one. -/
theorem flagTag?_eq_some
    (text rest : List Char)
    (piece : Piece)
    (found : Piece.flagTag? text = some (piece, rest)) :
    ∃ letter ∈ ['b', 'i', 'u', 's'],
      ∃ written, text = written ++ rest ∧ written.map Char.toLower = [letter, '>'] ∧
        piece.shown = [] := by
  rcases List.exists_of_findSome?_eq_some found with ⟨⟨word, flag⟩, member, matched⟩
  rcases Option.map_eq_some_iff.1 matched with ⟨after, dropped, same⟩
  rw [Prod.mk.injEq] at same
  rcases same with ⟨rfl, rfl⟩
  rcases (Piece.dropWord?_eq_some_iff word text after).1 dropped with ⟨written, parts, spelled⟩
  simp only [Piece.flagTags, List.mem_cons, Prod.mk.injEq, List.not_mem_nil, or_false] at member
  rcases member with ⟨rfl, -⟩ | ⟨rfl, -⟩ | ⟨rfl, -⟩ | ⟨rfl, -⟩
  · exact ⟨'b', by simp, written, parts, spelled, rfl⟩
  · exact ⟨'i', by simp, written, parts, spelled, rfl⟩
  · exact ⟨'u', by simp, written, parts, spelled, rfl⟩
  · exact ⟨'s', by simp, written, parts, spelled, rfl⟩

theorem flagTag?_of_spelled
    (letter : Char)
    (written rest : List Char)
    (known : letter ∈ ['b', 'i', 'u', 's'])
    (spelled : written.map Char.toLower = [letter, '>']) :
    ∃ piece, Piece.flagTag? (written ++ rest) = some (piece, rest) := by
  have listed : ∃ flag, ([letter, '>'], flag) ∈ Piece.flagTags := by
    simp only [List.mem_cons, List.not_mem_nil, or_false] at known
    rcases known with rfl | rfl | rfl | rfl
    · exact ⟨.bold, by decide⟩
    · exact ⟨.italic, by decide⟩
    · exact ⟨.underline, by decide⟩
    · exact ⟨.strikeout, by decide⟩
  rcases listed with ⟨flag, member⟩
  have dropped := Piece.dropWord?_of_spelled _ written rest spelled
  cases found : Piece.flagTag? (written ++ rest) with
  | none =>
      have failed := List.findSome?_eq_none_iff.1 found _ member
      simp [dropped] at failed
  | some pair =>
      rcases pair with ⟨piece, after⟩
      rcases flagTag?_eq_some _ _ _ found with ⟨other, -, taken, parts, alike, -⟩
      -- Both readings take two characters, so they leave the same text.
      have lengths : written.length = taken.length := by
        have left := congrArg List.length spelled
        have right := congrArg List.length alike
        rw [List.length_map] at left right
        rw [left, right]
        rfl
      rcases List.append_inj parts lengths with ⟨-, same⟩
      exact ⟨piece, by rw [same]⟩

/-- A body of a block is told by its first two characters. -/
theorem isBlockBody_iff (body : List Char) :
    Piece.isBlockBody body = true ↔
      (∃ codes, body = '\\' :: codes) ∨ ∃ letter codes, body = letter :: ':' :: codes := by
  constructor
  · intro command
    unfold Piece.isBlockBody at command
    split at command
    · exact Or.inl ⟨_, rfl⟩
    · exact Or.inr ⟨_, _, rfl⟩
    · cases command
  · rintro (⟨codes, rfl⟩ | ⟨letter, codes, rfl⟩)
    · rfl
    · unfold Piece.isBlockBody
      split
      · rfl
      · rfl
      · next plain => exact (plain letter codes rfl).elim

/-- A shape that fits at the start of a text is found there, and leaves the rest of the text. -/
theorem Fits.attempted
    {shape : Shape}
    {written rest : List Char}
    (fits : Fits shape written rest) :
    ∃ piece, shape.attempt (written ++ rest) = some (piece, rest) := by
  cases fits with
  | lineBreak word =>
      rcases (lower_eq_bracket_cons_iff _ _ (by decide)).1 word with ⟨letters, rfl, spelled⟩
      have dropped := Piece.dropWord?_of_spelled _ letters rest spelled
      exact ⟨.lineBreak, by simp [Shape.attempt, Piece.breakTag?, dropped]⟩
  | @flagTag written letter rest word known =>
      have plain := isPlainWord_flagTag letter known
      rcases (lower_eq_bracket_cons_iff _ _ plain).1 word with ⟨letters, rfl, spelled⟩
      exact flagTag?_of_spelled letter letters rest known spelled
  | @fontTag name space body rest word blank scanned ending =>
      rcases (lower_eq_bracket_cons_iff _ _ (by decide)).1 word with ⟨letters, rfl, spelled⟩
      have dropped := Piece.dropWord?_of_spelled _ letters (space :: (body ++ rest)) spelled
      rw [List.cons_append] at scanned
      refine ⟨.openFont (Attribute.scan (space :: (body ++ rest))).1, ?_⟩
      simp [Shape.attempt, Piece.fontTag?, dropped, blank, scanned]
  | @closingTag name rest first known =>
      have divided := Attribute.splitAtFirst?_append '>' name rest first
      have folded := (lower_mem_closableNames_iff name).1 known
      exact ⟨.close, by simp [Shape.attempt, Piece.closeTag?, divided, folded]⟩
  | @block body rest first command =>
      have divided := Attribute.splitAtFirst?_append '}' body rest first
      have isBody := (isBlockBody_iff body).2 command
      exact ⟨.block body, by simp [Shape.attempt, Piece.block?, divided, isBody]⟩
  | character => exact ⟨.literal _, rfl⟩

/-- A font tag is found where its word is spelled, and extends over its attributes. -/
theorem fits_of_fontTag?
    (tail rest : List Char)
    (piece : Piece)
    (found : Piece.fontTag? tail = some (piece, rest)) :
    ∃ written, '<' :: tail = written ++ rest ∧ Fits .fontTag written rest ∧ piece.shown = [] := by
  unfold Piece.fontTag? at found
  split at found
  next space inner dropped =>
    split at found
    case isTrue blank =>
        simp only [Option.some.injEq, Prod.mk.injEq] at found
        rcases found with ⟨rfl, scanned⟩
        rcases (Piece.dropWord?_eq_some_iff _ _ _).1 dropped with ⟨letters, rfl, spelled⟩
        have word := (lower_eq_bracket_cons_iff _ _ (by decide)).2 ⟨letters, rfl, spelled⟩
        rcases Attribute.scan_extent (space :: inner) with ⟨taken, parts, ending⟩
        rw [scanned] at parts ending
        cases taken with
        | nil =>
            rcases ending with done | ⟨inner, closed⟩
            · rw [done] at parts
              cases parts
            · cases inner <;> cases closed
        | cons first body =>
            rw [List.cons_append, List.cons.injEq] at parts
            rcases parts with ⟨rfl, rfl⟩
            refine ⟨'<' :: letters ++ space :: body, ?_, ?_, rfl⟩
            · simp
            · exact .fontTag word blank scanned ending
    case isFalse =>
        cases found
  next => cases found

/-- A closing tag is a name that can be closed, between a slash and the first closing bracket. -/
theorem fits_of_closeTag?
    (tail rest : List Char)
    (piece : Piece)
    (found : Piece.closeTag? tail = some (piece, rest)) :
    ∃ written,
      '<' :: tail = written ++ rest ∧ Fits .closingTag written rest ∧ piece.shown = [] := by
  unfold Piece.closeTag? at found
  split at found
  next inner =>
    split at found
    next name after divided =>
      split at found
      case isTrue folded =>
          simp only [Option.some.injEq, Prod.mk.injEq] at found
          rcases found with ⟨rfl, rfl⟩
          rcases (Attribute.splitAtFirst?_eq_some_iff '>' _ _ _).1 divided with ⟨rfl, first⟩
          have known := (lower_mem_closableNames_iff name).2 folded
          exact ⟨'<' :: '/' :: name ++ ['>'], by simp, .closingTag first known, rfl⟩
      case isFalse =>
          cases found
    next => cases found
  next => cases found

/-- A block is a body that is a command, between a brace and the first closing brace. -/
theorem fits_of_block?
    (tail rest : List Char)
    (piece : Piece)
    (found : Piece.block? tail = some (piece, rest)) :
    ∃ written, '{' :: tail = written ++ rest ∧ Fits .block written rest ∧ piece.shown = [] := by
  unfold Piece.block? at found
  split at found
  next body after divided =>
    split at found
    case isTrue isBody =>
        simp only [Option.some.injEq, Prod.mk.injEq] at found
        rcases found with ⟨rfl, rfl⟩
        rcases (Attribute.splitAtFirst?_eq_some_iff '}' _ _ _).1 divided with ⟨rfl, first⟩
        have command := (isBlockBody_iff body).1 isBody
        exact ⟨'{' :: body ++ ['}'], by simp, .block first command, rfl⟩
    case isFalse =>
        cases found
  next => cases found

/-- What is found at the start of a text has the shape that was tried, and shows what that shows. -/
theorem Shape.fits_of_attempt
    (shape : Shape)
    (text rest : List Char)
    (piece : Piece)
    (found : shape.attempt text = some (piece, rest)) :
    ∃ written,
      text = written ++ rest ∧ Fits shape written rest ∧
        piece.shown = Lexeme.shown ⟨shape, written⟩ := by
  unfold Shape.attempt at found
  split at found
  next tail =>
    rcases Option.map_eq_some_iff.1 found with ⟨after, dropped, same⟩
    rw [Prod.mk.injEq] at same
    rcases same with ⟨rfl, rfl⟩
    rcases (Piece.dropWord?_eq_some_iff _ _ _).1 dropped with ⟨letters, rfl, spelled⟩
    have word := (lower_eq_bracket_cons_iff _ _ (by decide)).2 ⟨letters, rfl, spelled⟩
    exact ⟨'<' :: letters, rfl, .lineBreak word, rfl⟩
  next tail =>
    rcases flagTag?_eq_some _ _ _ found with ⟨letter, known, letters, rfl, spelled, shown⟩
    have plain := isPlainWord_flagTag letter known
    have word := (lower_eq_bracket_cons_iff _ _ plain).2 ⟨letters, rfl, spelled⟩
    exact ⟨'<' :: letters, rfl, .flagTag word known, shown⟩
  next tail => exact fits_of_fontTag? tail rest piece found
  next tail => exact fits_of_closeTag? tail rest piece found
  next tail => exact fits_of_block? tail rest piece found
  next char tail =>
    simp only [Option.some.injEq, Prod.mk.injEq] at found
    rcases found with ⟨rfl, rfl⟩
    exact ⟨[char], rfl, .character, rfl⟩
  next => cases found

/-! ## The first shape that fits -/

/-- The shapes in the order in which they are tried. -/
def Shape.all : List Shape :=
  [lineBreak, flagTag, fontTag, closingTag, block, character]

theorem Shape.rank_sorted : Shape.all.Pairwise fun left right => left.rank < right.rank := by
  decide

theorem Shape.mem_all (shape : Shape) : shape ∈ Shape.all := by
  cases shape <;> decide

/-- The piece that starts a text is found by trying the shapes in their order. -/
theorem next_eq_findSome?
    (first : Char)
    (rest : List Char) :
    Shape.all.findSome? (·.attempt (first :: rest)) = some (Piece.next first rest) := by
  by_cases tag : first = '<'
  · subst tag
    simp only [Shape.all, List.findSome?_cons, Shape.attempt, Piece.next, Piece.tag?, if_true]
    cases Piece.breakTag? rest with
    | some found => rfl
    | none =>
        cases Piece.flagTag? rest with
        | some found => rfl
        | none =>
            cases Piece.fontTag? rest with
            | some found => rfl
            | none =>
                cases Piece.closeTag? rest with
                | some found => rfl
                | none => rfl
  · by_cases brace : first = '{'
    · subst brace
      simp only [Shape.all, List.findSome?_cons, Shape.attempt, Piece.next, if_true, if_neg tag]
      cases Piece.block? rest with
      | some found => rfl
      | none => rfl
    · simp [Shape.all, Shape.attempt, Piece.next, tag, brace]

/-- A lexeme is read as a piece if its shape, tried where the lexeme stands, finds just the two. -/
def Lexeme.ReadAs (lexeme : Lexeme) (piece : Piece) : Prop :=
  ∃ rest, lexeme.shape.attempt (lexeme.written ++ rest) = some (piece, rest)

/-- Reading takes a lexeme off the start of a text and yields the piece that it is read as. -/
theorem leads_next
    (first : Char)
    (rest : List Char) :
    ∃ lexeme,
      first :: rest = lexeme.written ++ (Piece.next first rest).2 ∧
        Leads lexeme (Piece.next first rest).2 ∧ lexeme.ReadAs (Piece.next first rest).1 := by
  rcases List.findSome?_eq_some_iff.1 (next_eq_findSome? first rest) with
    ⟨before, shape, after, order, found, failed⟩
  rcases shape.fits_of_attempt _ _ _ found with ⟨written, parts, fits, -⟩
  refine ⟨⟨shape, written⟩, parts, ⟨fits, ?_⟩, ⟨(Piece.next first rest).2, parts ▸ found⟩⟩
  intro other taken left lower same otherFits
  -- A shape of lower rank was tried before, and without success.
  have tried : other ∈ before := by
    have member := Shape.mem_all other
    have sorted := Shape.rank_sorted
    rw [order] at member sorted
    have above := (List.pairwise_cons.1 (List.pairwise_append.1 sorted).2.1).1
    rcases List.mem_append.1 member with inside | outside
    · exact inside
    · rcases List.mem_cons.1 outside with rfl | later
      · exact absurd lower (Nat.lt_irrefl _)
      · exact absurd lower (Nat.lt_asymm (above other later))
  rcases otherFits.attempted with ⟨piece, attempted⟩
  rw [same.trans parts.symm, failed other tried] at attempted
  cases attempted

theorem Leads.unique
    {left right : Lexeme}
    {leftRest rightRest : List Char}
    (leftLeads : Leads left leftRest)
    (rightLeads : Leads right rightRest)
    (same : left.written ++ leftRest = right.written ++ rightRest) :
    left = right ∧ leftRest = rightRest := by
  have shapes : left.shape = right.shape := by
    apply Shape.rank_injective
    rcases Nat.lt_trichotomy left.shape.rank right.shape.rank with below | equal | above
    · exact (rightLeads.earliest _ _ _ below same leftLeads.fits).elim
    · exact equal
    · exact (leftLeads.earliest _ _ _ above same.symm rightLeads.fits).elim
  rcases leftLeads.fits.attempted with ⟨leftPiece, leftFound⟩
  rcases rightLeads.fits.attempted with ⟨rightPiece, rightFound⟩
  rw [same, shapes, rightFound] at leftFound
  simp only [Option.some.injEq, Prod.mk.injEq] at leftFound
  rcases leftFound with ⟨-, rests⟩
  rw [← rests] at same
  have written := List.append_cancel_right same
  refine ⟨?_, rests.symm⟩
  cases left
  cases right
  cases shapes
  cases written
  rfl

theorem Fits.written_ne_nil
    {shape : Shape}
    {written rest : List Char}
    (fits : Fits shape written rest) :
    written ≠ [] := by
  cases fits with
  | lineBreak word =>
      rintro rfl
      cases word
  | flagTag word known =>
      rintro rfl
      cases word
  | fontTag word blank scanned ending => simp
  | closingTag first known => simp
  | block first command => simp
  | character => simp

theorem splits_nil_iff (text : List Char) : Splits text [] ↔ text = [] := by
  constructor
  · intro splits
    cases splits
    rfl
  · rintro rfl
    exact .nil

theorem splits_cons_iff
    (text : List Char)
    (lexeme : Lexeme)
    (lexemes : List Lexeme) :
    Splits text (lexeme :: lexemes) ↔
      ∃ rest, text = lexeme.written ++ rest ∧ Leads lexeme rest ∧ Splits rest lexemes := by
  constructor
  · intro splits
    cases splits with
    | cons leads others => exact ⟨_, rfl, leads, others⟩
  · rintro ⟨rest, rfl, leads, others⟩
    exact .cons leads others

theorem Splits.unique
    {text : List Char}
    {left right : List Lexeme}
    (leftSplits : Splits text left)
    (rightSplits : Splits text right) :
    left = right := by
  induction leftSplits generalizing right with
  | nil =>
      cases right with
      | nil => rfl
      | cons lexeme lexemes =>
          rcases (splits_cons_iff _ _ _).1 rightSplits with ⟨rest, parts, leads, -⟩
          exact (leads.fits.written_ne_nil (List.append_eq_nil_iff.1 parts.symm).1).elim
  | cons leads others hypothesis =>
      cases right with
      | nil =>
          have empty := (splits_nil_iff _).1 rightSplits
          exact (leads.fits.written_ne_nil (List.append_eq_nil_iff.1 empty).1).elim
      | cons lexeme lexemes =>
          rcases (splits_cons_iff _ _ _).1 rightSplits with ⟨rest, parts, otherLeads, otherSplits⟩
          rcases leads.unique otherLeads parts with ⟨rfl, rfl⟩
          rw [hypothesis otherSplits]

/-- A text has a splitting, whose lexemes are read as the pieces of the text. -/
theorem exists_splits_read (text : List Char) :
    ∃ lexemes, Splits text lexemes ∧ List.Forall₂ Lexeme.ReadAs lexemes (Piece.split text) := by
  fun_induction Piece.split text with
  | case1 => exact ⟨[], .nil, .nil⟩
  | case2 first rest one hypothesis =>
      rcases hypothesis with ⟨lexemes, splits, others⟩
      rcases leads_next first rest with ⟨lexeme, parts, leads, read⟩
      refine ⟨lexeme :: lexemes, ?_, .cons read others⟩
      rw [parts]
      exact .cons leads splits

/-- A lexeme shows what the piece shows that it is read as. -/
theorem Lexeme.ReadAs.shown_eq
    {lexeme : Lexeme}
    {piece : Piece}
    (read : lexeme.ReadAs piece) :
    lexeme.shown = piece.shown := by
  rcases read with ⟨rest, found⟩
  rcases lexeme.shape.fits_of_attempt _ _ _ found with ⟨written, parts, -, shown⟩
  rw [shown, ← List.append_cancel_right parts]

/-- A text has a splitting, whose lexemes show what the pieces of the text show. -/
theorem exists_splits (text : List Char) :
    ∃ lexemes,
      Splits text lexemes ∧ lexemes.map Lexeme.shown = (Piece.split text).map Piece.shown := by
  rcases exists_splits_read text with ⟨lexemes, splits, read⟩
  refine ⟨lexemes, splits, ?_⟩
  rw [← List.forall₂_eq_eq_eq, List.forall₂_map_left_iff, List.forall₂_map_right_iff]
  exact read.imp fun lexeme piece one => one.shown_eq

/-! ## Reading keeps the text -/

/-- Segments hold the characters written before and those of the moments that follow. -/
theorem text_segmentsFrom
    (lookup : Color.Lookup)
    (marks : List Mark)
    (moments : List Moment)
    (realised : List.Forall₂ (Realises lookup) marks moments)
    (stack : Style.Stack)
    (written : List Char) :
    (segmentsFrom stack written marks).flatMap (·.text.toList) =
      written.reverse ++ moments.filterMap Moment.char? := by
  induction realised generalizing stack written with
  | nil => simp [segmentsFrom]
  | cons one others hypothesis =>
      cases one with
      | visible => simp [segmentsFrom, hypothesis, Moment.char?]
      | opening same => simp [segmentsFrom, hypothesis, Moment.char?, List.filterMap_cons]
      | closing => simp [segmentsFrom, hypothesis, Moment.char?, List.filterMap_cons]

section Read

variable {lookup : Color.Lookup} {align : Alignment} {text : List Char} {outcome : Outcome}

/-- Segments show together what the lexemes of their text show. -/
theorem exists_splits_of_parse (read : parse lookup align text = .ok outcome) :
    ∃ lexemes,
      Splits (untilNul text) lexemes ∧
        outcome.segments.flatMap (·.text.toList) = lexemes.flatMap Lexeme.shown := by
  rcases parse_eq_ok lookup align text outcome read with ⟨marks, realised, segments⟩
  rcases exists_splits (untilNul text) with ⟨lexemes, splits, shown⟩
  refine ⟨lexemes, splits, ?_⟩
  calc
    outcome.segments.flatMap (·.text.toList)
        = (timeline (Piece.split (untilNul text))).filterMap Moment.char? := by
          rw [segments]
          exact text_segmentsFrom lookup marks _ realised .empty []
    _ = (Piece.split (untilNul text)).flatMap Piece.shown := chars_timeline _
    _ = ((Piece.split (untilNul text)).map Piece.shown).flatten := by
          rw [List.flatMap_def]
    _ = lexemes.flatMap Lexeme.shown := by
          rw [← shown, List.flatMap_def]

/-- Apart from line breaks, what is shown of a text stands in the text, in the same order. -/
theorem sublist_of_parse (read : parse lookup align text = .ok outcome) :
    ((outcome.segments.flatMap (·.text.toList)).filter (· != '\n')).Sublist text := by
  rcases exists_splits_of_parse read with ⟨lexemes, splits, shown⟩
  have each (lexeme : Lexeme) : (lexeme.shown.filter (· != '\n')).Sublist lexeme.written := by
    unfold Lexeme.shown
    split
    next => exact List.nil_sublist _
    next => exact List.filter_sublist
    next => exact List.nil_sublist _
  have written : (lexemes.flatMap (·.written)).Sublist text := by
    rw [splits.written_eq]
    exact List.takeWhile_sublist _
  rw [shown]
  refine List.Sublist.trans ?_ written
  clear shown splits written
  induction lexemes with
  | nil => exact List.nil_sublist _
  | cons lexeme rest hypothesis =>
      rw [List.flatMap_cons, List.flatMap_cons, List.filter_append]
      exact (each lexeme).append hypothesis

end Read

/--
Text that can be read has exactly one splitting into lexemes.  Together the lexemes are the text up
to its first NUL, and together the segments show what the lexemes show.
-/
theorem parse_keeps_text
    (lookup : Color.Lookup)
    (align : Alignment)
    (text : List Char)
    (outcome : Outcome)
    (read : parse lookup align text = .ok outcome) :
    ∃ lexemes,
      (∀ others, Splits (untilNul text) others ↔ others = lexemes) ∧
        lexemes.flatMap (·.written) = untilNul text ∧
          outcome.segments.flatMap (·.text.toList) = lexemes.flatMap Lexeme.shown := by
  rcases exists_splits_of_parse read with ⟨lexemes, splits, shown⟩
  refine ⟨lexemes, ?_, splits.written_eq, shown⟩
  intro others
  constructor
  · intro otherSplits
    exact otherSplits.unique splits
  · rintro rfl
    exact splits

/-- A text with tags, a stray closing tag, a block, a line break and characters after a NUL. -/
theorem parse_keeps_text_of_tags :
    ∃ outcome lexemes,
      parse Color.byName ⟨8⟩
          "<B>x</i>y<br/>\x7b\\an7\x7d<font COLOR=red >z</fonT><\x00!".toList = .ok outcome ∧
        Splits "<B>x</i>y<br/>\x7b\\an7\x7d<font COLOR=red >z</fonT><".toList lexemes ∧
          lexemes.flatMap Lexeme.shown = "xy\nz<".toList := by
  have read :
      parse Color.byName ⟨8⟩
          "<B>x</i>y<br/>\x7b\\an7\x7d<font COLOR=red >z</fonT><\x00!".toList =
        .ok
          ⟨[⟨"", {}⟩, ⟨"x", { flags := 1 }⟩, ⟨"y\n", {}⟩, ⟨"z", { fontColor := 0xFF0000 }⟩,
              ⟨"<", {}⟩],
            ⟨5⟩⟩ := by
    cbv
  rcases parse_keeps_text _ _ _ _ read with ⟨lexemes, splits, -, shown⟩
  refine ⟨_, lexemes, read, ?_, ?_⟩
  · exact (splits lexemes).2 rfl
  · rw [← shown]
    rfl

end TimedText.Markup
