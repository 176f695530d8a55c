import TimedText.Markup.Attribute
import TimedText.Proofs.Text.Numeral

/-!
# The extent of a font tag

The scan of the attributes of a font tag takes a part off the start of the text and leaves the rest
as it is.  What it takes ends with `>`, unless it takes the whole text.

An attribute is read as it is written, with white space around its parts: a quoted value whatever it
holds beside its quote character, and a bare one up to the next white space or bracket.
-/

namespace TimedText.Markup.Attribute

/-! ## Splitting at a mark -/

/-- A text is split at a mark exactly where the mark stands first. -/
theorem splitAtFirst?_eq_some_iff
    (mark : Char)
    (text before after : List Char) :
    splitAtFirst? mark text = some (before, after) ↔
      text = before ++ mark :: after ∧ mark ∉ before := by
  induction text generalizing before with
  | nil => simp [splitAtFirst?]
  | cons first rest hypothesis =>
      by_cases same : first = mark
      · subst same
        cases before with
        | nil => simp [splitAtFirst?, eq_comm]
        | cons other inner =>
            simp only [splitAtFirst?, if_true, Option.some.injEq, Prod.mk.injEq]
            constructor
            · rintro ⟨impossible, -⟩
              cases impossible
            · rintro ⟨equal, absent⟩
              rw [List.cons_append, List.cons.injEq] at equal
              exact absurd (by simp [equal.1]) absent
      · cases before with
        | nil =>
            simp only [splitAtFirst?, if_neg same, Option.map_eq_some_iff, Prod.mk.injEq,
              List.nil_append, List.cons.injEq]
            constructor
            · rintro ⟨pair, -, impossible, -⟩
              cases impossible
            · rintro ⟨⟨equal, -⟩, -⟩
              exact (same equal).elim
        | cons other inner =>
            have step := hypothesis inner
            simp only [splitAtFirst?, if_neg same, Option.map_eq_some_iff, Prod.exists,
              Prod.mk.injEq, List.cons_append, List.cons.injEq, List.mem_cons, not_or]
            constructor
            · rintro ⟨found, left, equal, ⟨rfl, rfl⟩, rfl⟩
              rcases step.1 equal with ⟨parts, absent⟩
              exact ⟨⟨rfl, parts⟩, fun equal => same equal.symm, absent⟩
            · rintro ⟨⟨rfl, parts⟩, -, absent⟩
              exact ⟨inner, after, step.2 ⟨parts, absent⟩, ⟨rfl, rfl⟩, rfl⟩

theorem splitAtFirst?_append
    (mark : Char)
    (before after : List Char)
    (absent : mark ∉ before) :
    splitAtFirst? mark (before ++ mark :: after) = some (before, after) :=
  (splitAtFirst?_eq_some_iff mark _ before after).2 ⟨rfl, absent⟩

/-! ## What the scan leaves -/

/-- A value is taken off the start of the text. -/
theorem scanValue_suffix (text : List Char) : (scanValue text).2 <:+ text := by
  cases text with
  | nil => exact List.suffix_rfl
  | cons first rest =>
      simp only [scanValue]
      split
      · split
        next value after found =>
          rcases (splitAtFirst?_eq_some_iff first rest value after).1 found with ⟨parts, -⟩
          exact ⟨first :: (value ++ [first]), by simp [parts]⟩
        next => exact (List.dropWhile_suffix _).trans (List.suffix_cons first rest)
      · exact List.dropWhile_suffix _

theorem trimStart_suffix (text : List Char) : Text.trimStart text <:+ text :=
  List.dropWhile_suffix _

/-- An attribute is taken off the start of the text. -/
theorem scanOne_suffix (text : List Char) : (scanOne text).2 <:+ text := by
  have named := (trimStart_suffix (text.dropWhile isNameChar)).trans (List.dropWhile_suffix _)
  unfold scanOne
  dsimp only
  split
  next rest equal =>
    rw [equal] at named
    have value := (scanValue_suffix (Text.trimStart rest)).trans (trimStart_suffix rest)
    exact (value.trans (List.suffix_cons '=' rest)).trans named
  next => exact named

/-- The attributes are taken off the start of the text, up to a closing bracket or to its end. -/
theorem scan_extent (text : List Char) :
    ∃ taken,
      text = taken ++ (scan text).2
        ∧ ((scan text).2 = [] ∨ ∃ inner, taken = inner ++ ['>']) := by
  fun_induction scan text with
  | case1 text equal => exact ⟨text, by simp, Or.inl rfl⟩
  | case2 text rest equal =>
      rcases trimStart_suffix text with ⟨blanks, parts⟩
      rw [equal] at parts
      exact ⟨blanks ++ ['>'], by simp [← parts], Or.inr ⟨blanks, rfl⟩⟩
  | case3 text first rest equal closing one others hypothesis =>
      rcases trimStart_suffix text with ⟨blanks, parts⟩
      rcases scanOne_suffix (first :: rest) with ⟨written, whole⟩
      rcases hypothesis with ⟨taken, more, ending⟩
      rw [equal, ← whole] at parts
      refine ⟨blanks ++ written ++ taken, ?_, ?_⟩
      · rw [← parts, List.append_assoc, List.append_assoc, ← more]
      · rcases ending with done | ⟨inner, closed⟩
        · exact Or.inl done
        · exact Or.inr ⟨blanks ++ written ++ inner, by rw [closed, List.append_assoc _ inner]⟩

/-! ## One step of the scan -/

/-- White space at the start of a text is trimmed off, whatever follows it. -/
theorem trimStart_append
    (blanks rest : List Char)
    (blank : ∀ char ∈ blanks, Text.isBlank char = true) :
    Text.trimStart (blanks ++ rest) = Text.trimStart rest :=
  List.dropWhile_append_of_pos blank

theorem trimStart_cons
    (first : Char)
    (rest : List Char)
    (visible : Text.isBlank first = false) :
    Text.trimStart (first :: rest) = first :: rest :=
  List.dropWhile_cons_of_neg (by simp [visible])

/-- The list of attributes ends with the bracket that comes first behind white space. -/
theorem scan_of_bracket
    (blanks rest : List Char)
    (blank : ∀ char ∈ blanks, Text.isBlank char = true) :
    scan (blanks ++ '>' :: rest) = ([], rest) := by
  have start : Text.trimStart (blanks ++ '>' :: rest) = '>' :: rest := by
    rw [trimStart_append blanks _ blank]
    rfl
  rw [scan]
  split
  next equal =>
    rw [start] at equal
    cases equal
  next first others equal =>
    rw [start] at equal
    cases equal
    rfl

/-- An attribute that is read where no bracket stands is the first of the list. -/
theorem scan_of_scanOne
    (blanks : List Char)
    (first : Char)
    (rest : List Char)
    (blank : ∀ char ∈ blanks, Text.isBlank char = true)
    (visible : Text.isBlank first = false)
    (inside : first ≠ '>')
    (one : Attribute)
    (after : List Char)
    (read : scanOne (first :: rest) = (some one, after)) :
    scan (blanks ++ first :: rest) = (one :: (scan after).1, (scan after).2) := by
  have start : Text.trimStart (blanks ++ first :: rest) = first :: rest := by
    rw [trimStart_append blanks _ blank, trimStart_cons first rest visible]
  rw [scan]
  split
  next equal =>
    rw [start] at equal
    cases equal
  next head others equal =>
    rw [start] at equal
    cases equal
    rw [dif_neg inside]
    simp only [read, Option.toList_some, List.singleton_append]

/-! ## Values and attributes as they are written -/

/-- A quoted value reaches up to the next of its quote characters. -/
theorem scanValue_of_quoted
    (quote : Char)
    (value rest : List Char)
    (quotes : isQuote quote = true)
    (unquoted : quote ∉ value) :
    scanValue (quote :: (value ++ quote :: rest)) = (value, rest) := by
  simp [scanValue, quotes, splitAtFirst?_append quote value rest unquoted]

/-- A bare value reaches up to white space or a bracket. -/
theorem scanValue_of_bare
    (first : Char)
    (others rest : List Char)
    (bare : isQuote first = false)
    (kept : ∀ char ∈ first :: others, isValueChar char = true)
    (ending : ∀ char, rest.head? = some char → isValueChar char = false) :
    scanValue (first :: others ++ rest) = (first :: others, rest) := by
  have takes := Text.takeWhile_append_of_ends kept ending
  have leaves := Text.dropWhile_append_of_ends kept ending
  rw [List.cons_append] at takes leaves ⊢
  rw [scanValue, if_neg (by simp [bare]), takes, leaves]

theorem isBlank_of_isQuote (quote : Char) (quotes : isQuote quote = true) :
    Text.isBlank quote = false := by
  simp only [isQuote, Bool.or_eq_true, beq_iff_eq] at quotes
  rcases quotes with rfl | rfl <;> rfl

/-- A name and a value with an equals sign between them are read as one attribute. -/
theorem scanOne_of_written
    (name left right : List Char)
    (text value rest : List Char)
    (filled : name ≠ [])
    (named : ∀ char ∈ name, isNameChar char = true)
    (leftBlank : ∀ char ∈ left, Text.isBlank char = true)
    (rightBlank : ∀ char ∈ right, Text.isBlank char = true)
    (visible : Text.trimStart text = text)
    (read : scanValue text = (value, rest)) :
    scanOne (name ++ (left ++ '=' :: (right ++ text))) = (some ⟨name, value⟩, rest) := by
  have ends :
      ∀ char, (left ++ '=' :: (right ++ text)).head? = some char → isNameChar char = false := by
    intro char head
    cases left with
    | nil =>
        cases head
        rfl
    | cons first others =>
        have blank := leftBlank first List.mem_cons_self
        cases head
        simp [isNameChar, blank]
  have taken := Text.takeWhile_append_of_ends named ends
  have dropped := Text.dropWhile_append_of_ends named ends
  have equals : Text.trimStart ('=' :: (right ++ text)) = '=' :: (right ++ text) :=
    rfl
  have present : ¬ name.isEmpty = true := by
    simpa using filled
  rw [scanOne, taken, dropped, trimStart_append _ _ leftBlank, equals]
  simp only [trimStart_append right text rightBlank, visible, read, if_neg present]

end TimedText.Markup.Attribute
