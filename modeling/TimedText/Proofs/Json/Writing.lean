import TimedText.Json
import TimedText.Proofs.Text.Numeral

/-!
# The form of written JSON

A written value is one line: its strings hold quotes, backslashes and controls as escapes only, and
nothing around them breaks the line.  What is said of every value is said by its parts, the items of
an array and the members of an object.
-/

namespace TimedText.Json

/-! ## Values by their parts -/

/-- What passes from items to arrays and from values of members to objects holds of every value. -/
@[elab_as_elim]
theorem by_parts
    {motive : Json → Prop}
    (null : motive null)
    (bool : ∀ value, motive (bool value))
    (int : ∀ value, motive (int value))
    (real : ∀ digits exponent, motive (real digits exponent))
    (str : ∀ value, motive (str value))
    (arr : ∀ items, (∀ item ∈ items, motive item) → motive (arr items))
    (obj : ∀ members, (∀ member ∈ members, motive member.2) → motive (obj members)) :
    ∀ value, motive value
  | .null => null
  | .bool value => bool value
  | .int value => int value
  | .real digits exponent => real digits exponent
  | .str value => str value
  | .arr items => arr items fun item _ => by_parts null bool int real str arr obj item
  | .obj members =>
      obj members fun member _ => by_parts null bool int real str arr obj member.2
termination_by value => value
decreasing_by
  · decreasing_tactic
  · next inside =>
      have smaller := List.sizeOf_lt_of_mem inside
      have parts : sizeOf member = 1 + sizeOf member.1 + sizeOf member.2 :=
        Prod.mk.sizeOf_spec member.1 member.2
      rw [Json.obj.sizeOf_spec]
      omega

/-! ## Escapes -/

/-- The characters whose escapes have a letter or a sign of their own. -/
def named : List Char := ['"', '\\', '\n', '\r', '\t', '\x08', '\x0c']

theorem escape_of_notMem_named (ascii : Bool) (char : Char) (unnamed : char ∉ named) :
    escape ascii char =
      if char.toNat < 0x20 ∨ (ascii = true ∧ 0x7E < char.toNat) then
        escapeCode char.toNat
      else
        [char] := by
  simp only [named, List.mem_cons, List.not_mem_nil, or_false, not_or] at unnamed
  rcases unnamed with ⟨quote, backslash, newline, carriage, tab, back, feed⟩
  rw [escape, if_neg quote, if_neg backslash, if_neg newline, if_neg carriage, if_neg tab,
    if_neg back, if_neg feed]

/-! ## Lines -/

/-- A text has no control character below the space, so no end of line either. -/
def OneLine (text : List Char) : Prop :=
  ∀ char ∈ text, 0x20 ≤ char.toNat

instance (text : List Char) : Decidable (OneLine text) :=
  List.decidableBAll (fun char : Char => 0x20 ≤ char.toNat) text

theorem OneLine.append {first second : List Char} (left : OneLine first) (right : OneLine second) :
    OneLine (first ++ second) :=
  List.forall_mem_append.2 ⟨left, right⟩

theorem OneLine.cons
    {char : Char}
    {text : List Char}
    (head : 0x20 ≤ char.toNat)
    (tail : OneLine text) :
    OneLine (char :: text) :=
  List.forall_mem_cons.2 ⟨head, tail⟩

theorem escapeDigit_visible (digit : Nat) (small : digit < 16) :
    0x20 ≤ (escapeDigit digit).toNat := by
  have each : ∀ digit < 16, 0x20 ≤ (escapeDigit digit).toNat := by decide
  exact each digit small

theorem oneLine_escapeUnit (unit : Nat) (small : unit < 0x10000) : OneLine (escapeUnit unit) := by
  have start : OneLine ['\\', 'u'] := by decide
  have first := escapeDigit_visible (unit / 4096) (by omega)
  have second := escapeDigit_visible (unit / 256 % 16) (by omega)
  have third := escapeDigit_visible (unit / 16 % 16) (by omega)
  have fourth := escapeDigit_visible (unit % 16) (by omega)
  exact start.append (.cons first (.cons second (.cons third (.cons fourth (by decide)))))

theorem oneLine_escapeCode (char : Char) : OneLine (escapeCode char.toNat) := by
  have valid : char.toNat < 0xD800 ∨ (0xDFFF < char.toNat ∧ char.toNat < 0x110000) := char.valid
  unfold escapeCode
  split
  next small => exact oneLine_escapeUnit char.toNat small
  next large =>
    exact (oneLine_escapeUnit _ (by omega)).append (oneLine_escapeUnit _ (by omega))

theorem oneLine_escape (ascii : Bool) (char : Char) : OneLine (escape ascii char) := by
  by_cases special : char ∈ named
  · simp only [named, List.mem_cons, List.not_mem_nil, or_false] at special
    rcases special with rfl | rfl | rfl | rfl | rfl | rfl | rfl <;> cases ascii <;> decide
  rw [escape_of_notMem_named ascii char special]
  split
  next escaped => exact oneLine_escapeCode char
  next visible => exact List.forall_mem_singleton.2 (by omega)

theorem oneLine_quoted (ascii : Bool) (text : List Char) : OneLine (quoted ascii text) := by
  have inner : OneLine (text.flatMap (escape ascii)) := by
    intro char inside
    rcases List.mem_flatMap.1 inside with ⟨origin, _, written⟩
    exact oneLine_escape ascii origin char written
  exact .append (.cons (by decide) inner) (by decide)

theorem oneLine_decimal (value : Nat) : OneLine (Text.decimal value) := by
  intro char inside
  have digit := Text.isDigit_of_mem_decimal value char inside
  simp only [Char.isDigit, Bool.and_eq_true, decide_eq_true_eq] at digit
  exact Nat.le_trans (by decide) digit.1

theorem oneLine_signedDecimal (value : Int) : OneLine (Text.signedDecimal value) := by
  rw [Text.signedDecimal_eq]
  split
  next => exact .cons (by decide) (oneLine_decimal value.natAbs)
  next => exact oneLine_decimal value.natAbs

theorem oneLine_renderItems
    (ascii : Bool)
    (items : List Json)
    (every : ∀ item ∈ items, OneLine (item.render ascii)) :
    OneLine (renderItems ascii items) := by
  induction items with
  | nil => exact List.forall_mem_nil _
  | cons first others hypothesis =>
      rcases List.forall_mem_cons.1 every with ⟨head, tail⟩
      cases others with
      | nil =>
          rw [renderItems]
          exact head
      | cons second others =>
          rw [renderItems]
          exact .append head (.cons (by decide) (.cons (by decide) (hypothesis tail)))

theorem oneLine_renderMembers
    (ascii : Bool)
    (members : List (String × Json))
    (every : ∀ member ∈ members, OneLine (member.2.render ascii)) :
    OneLine (renderMembers ascii members) := by
  induction members with
  | nil => exact List.forall_mem_nil _
  | cons first others hypothesis =>
      rcases first with ⟨name, value⟩
      rcases List.forall_mem_cons.1 every with ⟨head, tail⟩
      have member : OneLine (quoted ascii name.toList ++ ':' :: ' ' :: value.render ascii) :=
        .append (oneLine_quoted ascii name.toList) (.cons (by decide) (.cons (by decide) head))
      cases others with
      | nil =>
          rw [renderMembers]
          exact member
      | cons second others =>
          rw [renderMembers]
          exact .append member (.cons (by decide) (.cons (by decide) (hypothesis tail)))

/-- A written value is one line. -/
theorem oneLine_render (ascii : Bool) (value : Json) : OneLine (value.render ascii) := by
  induction value using by_parts with
  | null => cases ascii <;> decide
  | bool value => cases ascii <;> cases value <;> decide
  | int value => exact oneLine_signedDecimal value
  | real digits exponent =>
      exact (oneLine_signedDecimal digits).append
        (.cons (by decide) (oneLine_signedDecimal exponent))
  | str value => exact oneLine_quoted ascii value.toList
  | arr items every =>
      exact .append (.cons (by decide) (oneLine_renderItems ascii items every)) (by decide)
  | obj members every =>
      exact .append (.cons (by decide) (oneLine_renderMembers ascii members every)) (by decide)

end TimedText.Json
