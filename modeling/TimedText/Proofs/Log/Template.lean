import Mathlib.Data.List.Infix
import TimedText.Log.Template

/-!
# Templates that are filled in

Filling in a template is a relation between the template and a text: what is no percent sign stands
for itself, and a directive for what it shows.

A directive that begins before a closing square bracket, with nothing behind the bracket in which
the name of a field could end, does not reach beyond it.  If no field holds a percent sign, a
directive that can be filled in leaves fewer percent signs than it takes, so that a text with such
signs before the bracket is never filled in with itself.
-/

namespace TimedText.Log.Template

/-! ## Where a directive ends -/

section

variable
    {after : List Char}
    (closed : ∀ depth, key? depth after = none)
    (bracket : ∀ char, after.head? = some char → char = ']')

include closed in
/-- The name of a field ends before a text in which it cannot end. -/
theorem key?_append
    (depth : Nat)
    (inner key rest : List Char)
    (read : key? depth (inner ++ after) = some (key, rest)) :
    ∃ others, rest = others ++ after ∧ others <:+ inner := by
  induction inner generalizing depth key with
  | nil =>
      rw [List.nil_append, closed depth] at read
      cases read
  | cons first inner hypothesis =>
      have later
          (deeper : Nat)
          (inside : List Char)
          (found : key? deeper (inner ++ after) = some (inside, rest)) :
          ∃ others, rest = others ++ after ∧ others <:+ first :: inner := by
        rcases hypothesis deeper inside found with ⟨others, parts, suffix⟩
        exact ⟨others, parts, suffix.trans (List.suffix_cons first inner)⟩
      rw [List.cons_append] at read
      by_cases close : first = ')'
      · subst close
        cases depth with
        | zero =>
            cases read
            exact ⟨inner, rfl, List.suffix_cons ')' inner⟩
        | succ depth =>
            rw [key?, Option.map_eq_some_iff] at read
            rcases read with ⟨⟨inside, rest⟩, found, same⟩
            cases same
            exact later depth inside found
      · by_cases opens : first = '('
        · subst opens
          rw [key?, Option.map_eq_some_iff] at read
          rcases read with ⟨⟨inside, rest⟩, found, same⟩
          cases same
          exact later (depth + 1) inside found
        · rw [key?, Option.map_eq_some_iff] at read
          · rcases read with ⟨⟨inside, rest⟩, found, same⟩
            cases same
            exact later depth inside found
          · exact opens
          · exact fun _ => close
          · exact fun _ _ => close

include closed bracket in
theorem readKey?_append
    (inner : List Char)
    (key : Option String)
    (rest : List Char)
    (read : readKey? (inner ++ after) = some (key, rest)) :
    ∃ others, rest = others ++ after ∧ others <:+ inner := by
  cases inner with
  | nil =>
      have whole : readKey? after = some (none, after) := by
        cases after with
        | nil => rfl
        | cons first others =>
            rw [bracket first rfl]
            rfl
      rw [List.nil_append, whole] at read
      cases read
      exact ⟨[], rfl, List.suffix_rfl⟩
  | cons first inner =>
      by_cases opens : first = '('
      · subst opens
        rw [List.cons_append, readKey?, Option.map_eq_some_iff] at read
        rcases read with ⟨⟨inside, rest⟩, found, same⟩
        cases same
        rcases key?_append closed 0 inner inside _ found with ⟨others, parts, suffix⟩
        exact ⟨others, parts, suffix.trans (List.suffix_cons '(' inner)⟩
      · rw [List.cons_append, readKey?, Option.some_inj] at read
        · cases read
          exact ⟨first :: inner, rfl, List.suffix_rfl⟩
        · exact fun _ same => opens (List.cons.inj same).1

include bracket in
theorem dropWhile_append
    (test : Char → Bool)
    (stops : test ']' = false)
    (inner : List Char) :
    (inner ++ after).dropWhile test = inner.dropWhile test ++ after := by
  have kept : after.dropWhile test = after := by
    cases after with
    | nil => rfl
    | cons first others =>
        rw [bracket first rfl]
        exact List.dropWhile_cons_of_neg (by simp [stops])
  rw [List.dropWhile_append]
  split
  next empty => rw [kept, List.isEmpty_iff.1 empty, List.nil_append]
  next => rfl

include bracket in
theorem readLimit_append (inner : List Char) :
    ∃ others, (readLimit (inner ++ after)).2 = others ++ after ∧ others <:+ inner := by
  cases inner with
  | nil =>
      refine ⟨[], ?_, List.suffix_rfl⟩
      cases after with
      | nil => rfl
      | cons first others =>
          rw [bracket first rfl]
          rfl
  | cons first inner =>
      by_cases stop : first = '.'
      · subst stop
        refine ⟨inner.dropWhile Char.isDigit, dropWhile_append bracket _ rfl inner, ?_⟩
        exact (List.dropWhile_suffix _).trans (List.suffix_cons '.' inner)
      · refine ⟨first :: inner, ?_, List.suffix_rfl⟩
        rw [List.cons_append, readLimit]
        exact fun _ same => stop (List.cons.inj same).1

include bracket in
/-- The letter of a directive comes before the bracket, or it is the bracket. -/
theorem readLetter?_append
    (inner : List Char)
    (letter : Char)
    (rest : List Char)
    (read : readLetter? (inner ++ after) = some (letter, rest)) :
    after.head? = some letter ∨ ∃ others, rest = others ++ after ∧ letter :: others <:+ inner := by
  cases inner with
  | nil =>
      left
      cases after with
      | nil => cases read
      | cons first others =>
          cases bracket first rfl
          cases read
          rfl
  | cons first inner =>
      unfold readLetter? at read
      rw [List.cons_append] at read
      dsimp only at read
      split at read
      next =>
        cases inner with
        | nil =>
            left
            cases after with
            | nil => cases read
            | cons second others =>
                cases read
                rfl
        | cons second inner =>
            cases read
            exact Or.inr ⟨inner, rfl, List.suffix_cons first _⟩
      next =>
        cases read
        exact Or.inr ⟨inner, rfl, List.suffix_rfl⟩

include closed bracket in
/-- A directive ends before the bracket, or the bracket is its letter. -/
theorem read?_append
    (inner : List Char)
    (directive : Directive)
    (rest : List Char)
    (read : read? (inner ++ after) = some (directive, rest)) :
    after.head? = some directive.letter ∨
      ∃ others, rest = others ++ after ∧ directive.letter :: others <:+ inner := by
  unfold read? at read
  rcases Option.bind_eq_some_iff.1 read with ⟨⟨key, keyed⟩, found, rest⟩
  rcases readKey?_append closed bracket inner key keyed found with ⟨first, rfl, inFirst⟩
  dsimp only at rest
  rw [dropWhile_append bracket isFlag rfl, dropWhile_append bracket Char.isDigit rfl] at rest
  rcases readLimit_append bracket ((first.dropWhile isFlag).dropWhile Char.isDigit) with
    ⟨second, parts, inSecond⟩
  rw [parts] at rest
  rcases Option.map_eq_some_iff.1 rest with ⟨⟨letter, rest⟩, lettered, same⟩
  cases same
  refine (readLetter?_append bracket second letter _ lettered).imp id ?_
  rintro ⟨others, rfl, inThird⟩
  have dropped : (first.dropWhile isFlag).dropWhile Char.isDigit <:+ first :=
    (List.dropWhile_suffix Char.isDigit).trans (List.dropWhile_suffix isFlag)
  exact ⟨others, rfl, inThird.trans (inSecond.trans (dropped.trans inFirst))⟩

end

/-- The bracket is no letter that a directive can have. -/
theorem shown?_of_bracket
    (field? : String → Option String)
    (directive : Directive)
    (bracket : directive.letter = ']') :
    directive.shown? field? = none := by
  unfold Directive.shown?
  rw [bracket]
  cases directive.key with
  | none => rfl
  | some key =>
      dsimp only
      cases field? key <;> rfl

/-- Reading a directive gets on. -/
theorem length_read?_lt
    (text rest : List Char)
    (directive : Directive)
    (read : read? text = some (directive, rest)) :
    rest.length < text.length := by
  have closed : ∀ depth, key? depth [] = none := by
    intro depth
    rw [key?]
  rw [← List.append_nil text] at read
  rcases read?_append closed (by simp) text directive rest read with impossible | found
  · cases impossible
  · rcases found with ⟨others, rfl, suffix⟩
    rw [List.append_nil]
    exact suffix.length_le

/-! ## Filling in -/

/-- What a template says when its directives are filled in one after the other. -/
inductive Fills (field? : String → Option String) : (template text : List Char) → Prop where
  | nil : Fills field? [] []
  | plain
      (other : char ≠ '%')
      (rest : Fills field? template text) :
      Fills field? (char :: template) (char :: text)
  | directive
      (read : read? written = some (directive, template))
      (shows : directive.shown? field? = some shown)
      (rest : Fills field? template text) :
      Fills field? ('%' :: written) (shown ++ text)

theorem fills_of_filledWithin?
    (field? : String → Option String)
    (fuel : Nat)
    (template text : List Char)
    (filled : filledWithin? field? fuel template = some text) :
    Fills field? template text := by
  fun_induction filledWithin? field? fuel template generalizing text with
  | case1 =>
      cases filled
      exact .nil
  | case2 | case3 | case5 => cases filled
  | case4 fuel written directive rest read shown others restFilled shows hypothesis =>
      cases filled
      exact .directive read shows (hypothesis others restFilled)
  | case6 fuel char rest other hypothesis =>
      rcases Option.map_eq_some_iff.1 filled with ⟨others, restFilled, rfl⟩
      exact .plain other (hypothesis others restFilled)

theorem Fills.filledWithin?_eq
    {field? : String → Option String}
    {template text : List Char}
    (fills : Fills field? template text)
    (fuel : Nat)
    (enough : template.length ≤ fuel) :
    filledWithin? field? fuel template = some text := by
  induction fills generalizing fuel with
  | nil => rw [filledWithin?]
  | @plain char template text other rest hypothesis =>
      cases fuel with
      | zero => cases enough
      | succ fuel =>
          have fitting := hypothesis fuel (Nat.le_of_succ_le_succ enough)
          rw [filledWithin?, fitting]
          · rfl
          · exact other
  | @directive written directive template shown text read shows rest hypothesis =>
      cases fuel with
      | zero => cases enough
      | succ fuel =>
          have shorter := length_read?_lt written template directive read
          have fitting := hypothesis fuel (by rw [List.length_cons] at enough; omega)
          rw [filledWithin?, read]
          simp only [shows, fitting]

/-- A template is filled in without regard to the number of steps that are allowed for it. -/
theorem filled?_eq_some_iff
    (field? : String → Option String)
    (template text : List Char) :
    filled? field? template = some text ↔ Fills field? template text :=
  ⟨fills_of_filledWithin? field? _ template text, fun fills => fills.filledWithin?_eq _ le_rfl⟩

theorem Fills.append
    {field? : String → Option String}
    {template text : List Char}
    (fills : Fills field? template text)
    (before : List Char)
    (unmarked : '%' ∉ before) :
    Fills field? (before ++ template) (before ++ text) := by
  induction before with
  | nil => exact fills
  | cons first others hypothesis =>
      rw [List.mem_cons, not_or] at unmarked
      exact .plain (Ne.symm unmarked.1) (hypothesis unmarked.2)

/-! ## Percent signs -/

theorem notMem_justified
    (left : Bool)
    (width : Nat)
    (text : List Char)
    (unmarked : '%' ∉ text) :
    '%' ∉ justified left width text := by
  unfold justified
  dsimp only
  split <;> simp [unmarked]

section

variable
    {field? : String → Option String}
    (unmarked : ∀ name value, field? name = some value → '%' ∉ value.toList)

include unmarked in
/-- A directive shows a percent sign only where its letter is one. -/
theorem count_shown?_le
    (directive : Directive)
    (shown : List Char)
    (shows : directive.shown? field? = some shown) :
    shown.count '%' ≤ [directive.letter].count '%' := by
  unfold Directive.shown? at shows
  split at shows
  next =>
    split at shows
    next sign =>
      cases shows
      rw [sign]
    next => cases shows
  next key _ =>
    split at shows
    next => cases shows
    next value found =>
      split at shows
      next sign =>
        cases shows
        rw [sign]
      next =>
        split at shows
        next =>
          cases shows
          have cut : '%' ∉ value.toList.take (directive.limit.getD value.toList.length) :=
            fun member => unmarked key value found (List.mem_of_mem_take member)
          rw [List.count_eq_zero.2 (notMem_justified directive.left directive.width _ cut)]
          exact Nat.zero_le _
        next => cases shows

variable
    {tail : List Char}
    (closed : ∀ depth, key? depth (']' :: tail) = none)

include unmarked closed in
/--
What stands before the bracket is filled in on its own, and leaves fewer percent signs if it has
any.
-/
theorem Fills.before_bracket
    {inner text : List Char}
    (fills : Fills field? (inner ++ ']' :: tail) text) :
    ∃ start behind,
      text = start ++ ']' :: behind ∧
        Fills field? tail behind ∧
          start.count '%' ≤ inner.count '%' ∧
            ('%' ∈ inner → start.count '%' < inner.count '%') := by
  have bracket : ∀ char, (']' :: tail).head? = some char → char = ']' := by
    rintro char ⟨⟩
    rfl
  generalize whole : inner ++ ']' :: tail = template at fills
  induction fills generalizing inner with
  | nil =>
      have ends := congrArg List.length whole
      simp at ends
  | @plain char template text other rest hypothesis =>
      cases inner with
      | nil =>
          cases whole
          exact ⟨[], text, rfl, rest, le_rfl, fun impossible => by cases impossible⟩
      | cons first inner =>
          cases whole
          rcases hypothesis rfl with ⟨start, behind, rfl, filled, fewer, strict⟩
          have same (chars : List Char) : (char :: chars).count '%' = chars.count '%' :=
            List.count_cons_of_ne other
          refine ⟨char :: start, behind, rfl, filled, ?_, ?_⟩
          · rwa [same, same]
          · intro member
            rcases List.mem_cons.1 member with rfl | inside
            · exact (other rfl).elim
            · rw [same, same]
              exact strict inside
  | @directive written directive template shown text read shows rest hypothesis =>
      cases inner with
      | nil => cases whole
      | cons first inner =>
          cases whole
          rcases read?_append closed bracket inner directive template read with last | found
          · rw [shown?_of_bracket field? directive (bracket _ last)] at shows
            cases shows
          · rcases found with ⟨others, rfl, suffix⟩
            rcases hypothesis rfl with ⟨start, behind, rfl, filled, fewer, -⟩
            have consumed := suffix.sublist.count_le '%'
            rw [← List.singleton_append, List.count_append] at consumed
            have left := count_shown?_le unmarked directive shown shows
            have less : (shown ++ start).count '%' < ('%' :: inner).count '%' := by
              rw [List.count_append, List.count_cons_self]
              omega
            exact ⟨shown ++ start, behind, (List.append_assoc _ _ _).symm, filled, less.le,
              fun _ => less⟩

end

end TimedText.Log.Template
