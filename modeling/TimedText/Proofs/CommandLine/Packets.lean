import Mathlib
import TimedText.CommandLine.Packets
import TimedText.Proofs.Encoding.Wide

/-!
# Lines as packets

A stream is read line by line with the ends of lines on them, a file is taken apart at its line
feeds.  Both come to the same packets: the pieces between line feeds without the carriage returns at
their ends, as far as something is left of them.
-/

namespace TimedText.CommandLine

open Encoding (ByteOrder)

/-- The pieces between line feeds, without the carriage returns at their ends and empty ones. -/
def pieces (input : List UInt8) : List (List UInt8) :=
  ((input.splitOn lineFeed).map (List.rdropWhile (· == carriageReturn))).filter (!·.isEmpty)

theorem splitLines_eq_splitOn (input : List UInt8) :
    splitLines input = input.splitOn lineFeed := by
  induction input with
  | nil => rfl
  | cons byte rest hypothesis =>
      rw [splitLines, List.splitOn_cons_eq_if_modifyHead, hypothesis]
      by_cases ends : byte = lineFeed
      · simp [ends]
      · rw [if_neg ends, if_neg (by simpa using ends)]
        cases parted : rest.splitOn lineFeed with
        | nil => exact absurd parted (List.splitOn_ne_nil _ _)
        | cons first others => rfl

/-- A file that is read line by line comes to its pieces. -/
theorem filePackets_eq_pieces (content : List UInt8) : filePackets true content = pieces content := by
  rw [filePackets, if_pos rfl, splitLines_eq_splitOn]
  rfl

/-- Bytes that are a piece: there are some, none is a line feed, the last is no carriage return. -/
structure IsPiece (bytes : List UInt8) : Prop where
  filled : bytes ≠ []
  whole : lineFeed ∉ bytes
  bare : bytes.getLast? ≠ some carriageReturn

theorem rdropWhile_eq_self_iff (bytes : List UInt8) :
    bytes.rdropWhile (· == carriageReturn) = bytes ↔ bytes.getLast? ≠ some carriageReturn := by
  rw [List.rdropWhile_eq_self_iff]
  cases bytes using List.reverseRecOn with
  | nil => simp
  | append_singleton others last _ => simp

/-- Bytes without line feeds come to one piece at most. -/
theorem pieces_of_notMem (bytes : List UInt8) (whole : lineFeed ∉ bytes) :
    pieces bytes = [bytes.rdropWhile (· == carriageReturn)].filter (!·.isEmpty) := by
  rw [pieces, List.splitOn_eq_singleton whole]
  rfl

theorem pieces_of_isPiece {bytes : List UInt8} (piece : IsPiece bytes) : pieces bytes = [bytes] := by
  rw [pieces_of_notMem bytes piece.whole, (rdropWhile_eq_self_iff bytes).2 piece.bare]
  simp [piece.filled]

/-- A line feed parts the pieces before it from those behind it. -/
theorem pieces_append (front back : List UInt8) :
    pieces (front ++ lineFeed :: back) = pieces front ++ pieces back := by
  rw [pieces, List.splitOn_append_cons_self, List.map_append, List.filter_append]
  rfl

/-- Pieces that are joined by line feeds are found again. -/
theorem pieces_intercalate
    {blocks : List (List UInt8)}
    (each : ∀ block ∈ blocks, IsPiece block) :
    pieces ([lineFeed].intercalate blocks) = blocks := by
  induction blocks with
  | nil => rfl
  | cons block rest hypothesis =>
      have here := pieces_of_isPiece (each block List.mem_cons_self)
      cases rest with
      | nil => rw [List.intercalate_singleton, here]
      | cons next others =>
          have behind := hypothesis fun other member => each other (List.mem_cons_of_mem _ member)
          rw [List.intercalate_cons_cons, List.append_assoc, List.singleton_append, pieces_append,
            here, behind]
          rfl

/-! ## Inputs line by line -/

/-- An input is a piece without line feeds, or such a piece with a line feed before another input. -/
theorem by_lines
    {Holds : List UInt8 → Prop}
    (last : ∀ piece, lineFeed ∉ piece → Holds piece)
    (line : ∀ piece rest, lineFeed ∉ piece → Holds rest → Holds (piece ++ lineFeed :: rest))
    (input : List UInt8) :
    Holds input := by
  induction length : input.length using Nat.strong_induction_on generalizing input with
  | _ size hypothesis =>
      by_cases ends : lineFeed ∈ input
      -- The piece up to the first line feed; what follows it is shorter than the input.
      · rcases List.eq_append_cons_of_mem ends with ⟨piece, rest, rfl, whole⟩
        refine line piece rest whole (hypothesis rest.length ?_ rest rfl)
        rw [← length, List.length_append, List.length_cons]
        omega
      · exact last input ends

theorem linesWithEnds_of_notMem (piece : List UInt8) (whole : lineFeed ∉ piece) :
    linesWithEnds piece = if piece.isEmpty then [] else [piece] := by
  induction piece with
  | nil => rfl
  | cons byte rest hypothesis =>
      rw [List.mem_cons, not_or] at whole
      rw [linesWithEnds, if_neg (Ne.symm whole.1), hypothesis whole.2]
      cases rest <;> rfl

theorem linesWithEnds_append (piece rest : List UInt8) (whole : lineFeed ∉ piece) :
    linesWithEnds (piece ++ lineFeed :: rest) = (piece ++ [lineFeed]) :: linesWithEnds rest := by
  induction piece with
  | nil => rw [List.nil_append, linesWithEnds, if_pos rfl, List.nil_append]
  | cons byte others hypothesis =>
      rw [List.mem_cons, not_or] at whole
      rw [List.cons_append, linesWithEnds, if_neg (Ne.symm whole.1), hypothesis whole.2]
      rfl

/-- The ends of a line are dropped from a piece as the carriage returns at its end are. -/
theorem dropEnd_of_notMem (piece : List UInt8) (whole : lineFeed ∉ piece) :
    dropEnd (fun byte => byte == lineFeed || byte == carriageReturn) piece =
      piece.rdropWhile (· == carriageReturn) := by
  change piece.rdropWhile _ = _
  induction piece using List.reverseRecOn with
  | nil => rfl
  | append_singleton others byte hypothesis =>
      rw [List.mem_append, List.mem_singleton, not_or] at whole
      have other : (byte == lineFeed) = false := beq_false_of_ne (Ne.symm whole.2)
      rw [List.rdropWhile_concat, List.rdropWhile_concat, other, Bool.false_or,
        hypothesis whole.1]

theorem dropEnd_append (piece : List UInt8) (whole : lineFeed ∉ piece) :
    dropEnd (fun byte => byte == lineFeed || byte == carriageReturn) (piece ++ [lineFeed]) =
      piece.rdropWhile (· == carriageReturn) := by
  rw [← dropEnd_of_notMem piece whole]
  exact List.rdropWhile_concat_pos _ _ _ rfl

/-- A stream comes to its pieces. -/
theorem streamPackets_eq_pieces (input : List UInt8) : streamPackets input = pieces input := by
  induction input using by_lines with
  | last piece whole =>
      rw [streamPackets, pieces, linesWithEnds_of_notMem piece whole, List.splitOn_eq_singleton whole]
      cases piece with
      | nil => rfl
      | cons byte rest => simp [dropEnd_of_notMem _ whole]
  | line piece rest whole hypothesis =>
      rw [streamPackets, pieces] at hypothesis ⊢
      rw [linesWithEnds_append piece rest whole,
        List.splitOn_append_cons_self_of_not_mem whole, List.map_cons, List.map_cons,
        dropEnd_append piece whole, List.filter_cons, List.filter_cons, hypothesis]

/-- What an input comes to are pieces. -/
theorem isPiece_of_mem_pieces {input piece : List UInt8} (member : piece ∈ pieces input) :
    IsPiece piece := by
  have single (bytes : List UInt8) (whole : lineFeed ∉ bytes) (among : piece ∈ pieces bytes) :
      IsPiece piece := by
    rw [pieces_of_notMem bytes whole, List.mem_filter, List.mem_singleton] at among
    rcases among with ⟨rfl, filled⟩
    refine ⟨by simpa using filled, fun ends => whole ?_, ?_⟩
    · exact (List.rdropWhile_prefix _ _).subset ends
    · rw [← rdropWhile_eq_self_iff, List.rdropWhile_idempotent]
  induction input using by_lines with
  | last bytes whole => exact single bytes whole member
  | line bytes rest whole hypothesis =>
      rw [pieces_append, List.mem_append] at member
      rcases member with here | later
      · exact single bytes whole here
      · exact hypothesis later

/-! ## Pieces with line feeds of two bytes -/

/-- Bytes that are cut to a piece which still holds all of them are a piece themselves. -/
theorem isPiece_of_sublist
    {block piece : List UInt8}
    (member : piece ∈ pieces block)
    (holds : block.Sublist piece) :
    IsPiece block := by
  have cut := isPiece_of_mem_pieces member
  have whole : lineFeed ∉ block := fun ends => cut.whole (holds.subset ends)
  rw [pieces_of_notMem block whole, List.mem_filter, List.mem_singleton] at member
  rcases member with ⟨rfl, -⟩
  rwa [← holds.antisymm (List.rdropWhile_prefix _ _).sublist] at cut

/-- A zero byte before a line feed is left at the end of the piece before it. -/
theorem piece_before_feed
    {first rest piece : List UInt8}
    {others : List (List UInt8)}
    (parted : pieces (first ++ 0 :: lineFeed :: rest) = piece :: others)
    (holds : first.Sublist piece) :
    piece = first ++ [0] := by
  have cut := isPiece_of_mem_pieces (parted ▸ List.mem_cons_self)
  have whole : lineFeed ∉ first := fun ends => cut.whole (holds.subset ends)
  have front : IsPiece (first ++ [0]) := by
    refine ⟨by simp, ?_, by simp [carriageReturn]⟩
    rw [List.mem_append, not_or]
    exact ⟨whole, by decide⟩
  rw [← List.singleton_append, ← List.append_assoc, pieces_append, pieces_of_isPiece front] at parted
  injection parted with same
  exact same.symm

/-- A zero byte behind a line feed is left at the start of the piece behind it. -/
theorem piece_behind_feed
    {front last piece : List UInt8}
    {others : List (List UInt8)}
    (parted : pieces (front ++ lineFeed :: 0 :: last) = others ++ [piece])
    (holds : last.Sublist piece) :
    piece = (0 :: last).rdropWhile (· == carriageReturn) := by
  have cut := isPiece_of_mem_pieces (parted ▸ List.mem_append_right _ List.mem_cons_self)
  have whole : lineFeed ∉ (0 :: last : List UInt8) := by
    rw [List.mem_cons, not_or]
    exact ⟨by decide, fun ends => cut.whole (holds.subset ends)⟩
  have filled : ((0 :: last : List UInt8).rdropWhile (· == carriageReturn)).isEmpty = false := by
    rw [Bool.eq_false_iff, Ne, List.isEmpty_iff, List.rdropWhile_eq_nil_iff]
    exact fun all => absurd (all 0 List.mem_cons_self) (by decide)
  rw [pieces_append, pieces_of_notMem _ whole, List.filter_cons, filled] at parted
  exact (List.concat_inj.1 (by simpa using parted)).2.symm

/-- The zero byte is not what is dropped. -/
theorem rdropWhile_cons_ne (last : List UInt8) :
    (0 :: last).rdropWhile (· == carriageReturn) ≠ last := by
  intro same
  have parts := @List.rdropWhile_append_rtakeWhile _ (· == carriageReturn) (0 :: last)
  have zeros := congrArg (List.count 0) parts
  have none : (0 : UInt8) ∉ (0 :: last).rtakeWhile (· == carriageReturn) := fun zero =>
    absurd (List.mem_rtakeWhile_imp zero) (by decide)
  rw [same, List.count_append, List.count_eq_zero.2 none, List.count_cons_self] at zeros
  omega

/-- The last of several blocks stands behind a separator. -/
theorem exists_last_of_intercalate
    (separator first next : List UInt8)
    (others : List (List UInt8)) :
    ∃ init front last,
      first :: next :: others = init ++ [last] ∧
        separator.intercalate (first :: next :: others) = front ++ separator ++ last := by
  induction others generalizing first next with
  | nil => exact ⟨[first], first, next, rfl, by simp [List.intercalate_cons_cons]⟩
  | cons third rest hypothesis =>
      rcases hypothesis next third with ⟨init, front, last, parts, joined⟩
      refine ⟨first :: init, first ++ separator ++ front, last, by rw [parts]; rfl, ?_⟩
      rw [List.intercalate_cons_cons, joined]
      simp only [List.append_assoc]

/--
Bytes of even lengths that are joined by a line feed and a zero byte are not cut apart at these: one
of the pieces next to the zero byte has it in it, and so is too long by one.
-/
theorem isPiece_of_cut
    (order : ByteOrder)
    {blocks : List (List UInt8)}
    (filled : blocks ≠ [])
    (even : ∀ block ∈ blocks, Even block.length)
    (cut :
      List.Forall₂ (fun piece block => block.Sublist piece ∧ Even piece.length)
        (pieces ((order.bytes 2 0x0A).intercalate blocks)) blocks) :
    ∃ block, blocks = [block] ∧ IsPiece block := by
  cases blocks with
  | nil => exact (filled rfl).elim
  | cons first rest =>
    cases rest with
    | nil =>
        rw [List.intercalate_singleton] at cut
        rcases List.forall₂_cons_right_iff.1 cut with ⟨piece, others, ⟨holds, -⟩, nothing, parts⟩
        exact ⟨first, rfl, isPiece_of_sublist (parts ▸ List.mem_cons_self) holds⟩
    | cons next others =>
        exfalso
        cases order with
        | big =>
            have feed : ByteOrder.big.bytes 2 0x0A = [0, lineFeed] := rfl
            rw [feed, List.intercalate_cons_cons, List.append_assoc] at cut
            rcases List.forall₂_cons_right_iff.1 cut with ⟨piece, _, ⟨holds, fits⟩, _, parted⟩
            rw [piece_before_feed parted holds, List.length_append] at fits
            exact Nat.not_even_iff_odd.2 ((even first List.mem_cons_self).add_one) fits
        | little =>
            have feed : ByteOrder.little.bytes 2 0x0A = [lineFeed, 0] := rfl
            rcases exists_last_of_intercalate [lineFeed, 0] first next others with
              ⟨init, front, last, parts, joined⟩
            rw [feed, joined, parts, ← List.forall₂_reverse_iff, List.reverse_append] at cut
            rcases List.forall₂_cons_right_iff.1 cut with ⟨piece, _, ⟨holds, fits⟩, _, parted⟩
            rw [List.reverse_eq_cons_iff, List.append_assoc, List.cons_append, List.singleton_append]
              at parted
            have spare : Even last.length := even last (parts ▸ by simp)
            have same := piece_behind_feed parted holds
            have short := same ▸ (List.rdropWhile_prefix _ _).length_le
            have long := holds.length_le
            rw [List.length_cons] at short
            rw [Nat.even_iff] at spare fits
            have length : last.length = piece.length := by
              omega
            rw [holds.eq_of_length length] at same
            exact rdropWhile_cons_ne _ same.symm

end TimedText.CommandLine
