import Mathlib
import TimedText.Style.Stack

/-!
# Runs over a style stack

A stack is asked for one thing after the other.  What it holds then is told by the changes that are
still open: those of the pushes that succeeded and have not been taken off.  There is one style for
each of them, made from the style below it, which keeps what the change does not name.

Pushes count up and pops count down.  Where no pop goes below the start of a run, what was there at
the start is still there at the bottom, whatever it is; what lies on top of it is as high as the run
has counted.  So a run that is balanced leaves the stack as it found it.
-/

namespace TimedText.Style

/-! ## One change -/

/-- An attribute that is set is there. -/
theorem mem_attributes_apply_self (style : Style) (setting : Attribute) :
    setting ∈ (setting.apply style).attributes := by
  cases setting <;> simp [Attribute.apply, attributes]

/-- Setting an attribute keeps those of other names. -/
theorem mem_attributes_apply
    (style : Style)
    (setting kept : Attribute)
    (among : kept ∈ style.attributes)
    (other : setting.name ≠ kept.name) :
    kept ∈ (setting.apply style).attributes := by
  have each : ∀ kept ∈ style.attributes,
      setting.name ≠ kept.name → kept ∈ (setting.apply style).attributes := by
    cases setting <;> simp [Attribute.apply, attributes, Attribute.name]
  exact each kept among other

theorem mem_attributes_foldl
    (settings : List Attribute)
    (style : Style)
    (kept : Attribute)
    (among : kept ∈ style.attributes)
    (others : ∀ setting ∈ settings, setting.name ≠ kept.name) :
    kept ∈ (settings.foldl Attribute.apply style).attributes := by
  induction settings generalizing style with
  | nil => exact among
  | cons first rest hypothesis =>
      rw [List.forall_mem_cons] at others
      rw [List.foldl_cons]
      apply hypothesis
      · exact mem_attributes_apply style first kept among others.1
      · exact others.2

/--
A style comes from another one by a change: it has the switches of both, the attributes that the
change does not name are kept, and of those that it names the last setting is there.
-/
structure ComesFrom (change : Change) (below above : Style) : Prop where
  flags :
    ∀ position,
      above.flags.testBit position =
        (below.flags.testBit position || change.flags.testBit position)
  kept :
    ∀ setting ∈ below.attributes,
      (∀ named ∈ change.attributes, named.name ≠ setting.name) → setting ∈ above.attributes
  settled :
    ∀ front setting back,
      change.attributes = front ++ setting :: back →
        (∀ later ∈ back, later.name ≠ setting.name) → setting ∈ above.attributes

theorem comesFrom_apply (style : Style) (change : Change) :
    ComesFrom change style (style.apply change) := by
  constructor
  · intro position
    rw [flags_apply, Nat.testBit_or]
  · intro setting among unnamed
    exact mem_attributes_foldl change.attributes _ setting among unnamed
  · intro front setting back split last
    rw [apply, split, List.foldl_append, List.foldl_cons]
    exact mem_attributes_foldl back _ setting (mem_attributes_apply_self _ setting) last

namespace Stack

/-! ## Requests and runs -/

theorem mapM_setting?_known (settings : List Attribute) :
    (settings.map Argument.known).mapM Argument.setting? = some settings := by
  induction settings with
  | nil => rfl
  | cons first rest hypothesis =>
      rw [List.map_cons, List.mapM_cons, hypothesis]
      rfl

theorem mapM_setting?_strange
    (arguments : List Argument)
    (name : String)
    (foreign : name ∉ attributeNames)
    (among : .strange name foreign ∈ arguments) :
    arguments.mapM Argument.setting? = none := by
  induction arguments with
  | nil => cases among
  | cons first rest hypothesis =>
      rw [List.mapM_cons]
      cases first with
      | strange other unknown => rfl
      | known setting =>
          have later := (List.mem_cons.1 among).resolve_left (by simp)
          rw [hypothesis later]
          rfl

/-- Arguments are attributes, or one of them has a name that no attribute has. -/
theorem known_or_strange (arguments : List Argument) :
    (∃ settings : List Attribute, arguments = settings.map .known) ∨
      ∃ name foreign, Argument.strange name foreign ∈ arguments := by
  induction arguments with
  | nil => exact .inl ⟨[], rfl⟩
  | cons first rest hypothesis =>
      cases first with
      | strange name foreign => exact .inr ⟨name, foreign, List.mem_cons_self⟩
      | known setting =>
          rcases hypothesis with ⟨settings, rfl⟩ | ⟨name, foreign, among⟩
          · exact .inl ⟨setting :: settings, rfl⟩
          · exact .inr ⟨name, foreign, List.mem_cons_of_mem _ among⟩

/-- A push stores a style that comes from the current one, or has a strange argument and fails. -/
theorem request_push (stack : Stack) (flags : StyleFlags) (arguments : List Argument) :
    (∃ settings style,
        arguments = settings.map .known ∧ ComesFrom ⟨flags, settings⟩ stack.current style ∧
          stack.request (.push flags arguments) = (⟨style :: stack.entries⟩, some style)) ∨
      (∃ name foreign, .strange name foreign ∈ arguments) ∧
        stack.request (.push flags arguments) = (stack, none) := by
  rcases known_or_strange arguments with ⟨settings, rfl⟩ | ⟨name, foreign, among⟩
  · refine .inl ⟨settings, _, rfl, comesFrom_apply stack.current ⟨flags, settings⟩, ?_⟩
    rw [request, changeOf?, mapM_setting?_known]
    rfl
  · refine .inr ⟨⟨name, foreign, among⟩, ?_⟩
    rw [request, changeOf?, mapM_setting?_strange arguments name foreign among]
    rfl

/-- The stack after requests. -/
def follow (stack : Stack) (requests : List Request) : Stack :=
  requests.foldl (fun before request => (before.request request).1) stack

/-- The stack after requests and one more. -/
theorem follow_append_singleton (stack : Stack) (requests : List Request) (last : Request) :
    stack.follow (requests ++ [last]) = ((stack.follow requests).request last).1 := by
  rw [follow, List.foldl_append]
  rfl

/-! ## What a stack holds -/

/-- The changes that are open after a request: a push opens its change, a pop closes the last one. -/
def openAfter (changes : List Change) : Request → List Change
  | .push flags arguments => (changeOf? flags arguments).toList ++ changes
  | .pop => changes.tail
  | .current => changes

/-- The changes that requests leave open, innermost first. -/
def opened (requests : List Request) : List Change :=
  requests.foldl openAfter []

/-- Styles that changes made, each one from the style below it. -/
inductive Grown : List Change → List Style → Prop where
  | nil : Grown [] []
  | cons
      (change : Change)
      (changes : List Change)
      (style : Style)
      (styles : List Style)
      (below : Grown changes styles)
      (comes : ComesFrom change (styles.headD plain) style) :
      Grown (change :: changes) (style :: styles)

theorem Grown.length_eq
    {changes : List Change}
    {styles : List Style}
    (grown : Grown changes styles) :
    styles.length = changes.length := by
  induction grown with
  | nil => rfl
  | cons change changes style styles below comes hypothesis =>
      rw [List.length_cons, List.length_cons, hypothesis]

/-- A request keeps the styles on a stack those of the open changes. -/
theorem Grown.request
    {changes : List Change}
    (stack : Stack)
    (grown : Grown changes stack.entries)
    (request : Request) :
    Grown (openAfter changes request) (stack.request request).1.entries := by
  cases request with
  | push flags arguments =>
      rw [openAfter, Stack.request]
      cases changeOf? flags arguments with
      | none => exact grown
      | some change =>
          exact .cons change changes _ stack.entries grown (comesFrom_apply stack.current change)
  | pop =>
      cases stack with
      | mk entries =>
          cases grown with
          | nil => exact .nil
          | cons change changes style styles below comes => exact below
  | current => exact grown

theorem grown_follow (requests : List Request) :
    Grown (opened requests) (empty.follow requests).entries := by
  induction requests using List.reverseRecOn with
  | nil => exact .nil
  | append_singleton front last hypothesis =>
      rw [follow_append_singleton, opened, List.foldl_append]
      exact hypothesis.request _ last

/-! ## Balanced requests -/

/-- What a request counts: a push that succeeds counts up, a pop counts down. -/
def Request.height : Request → Int
  | .push flags arguments => if (changeOf? flags arguments).isSome then 1 else 0
  | .pop => -1
  | .current => 0

/-- What requests count together. -/
def height (requests : List Request) : Int :=
  (requests.map Request.height).sum

/-- Requests that count down to their start again and never below it on the way. -/
structure Balanced (requests : List Request) : Prop where
  above : ∀ front, front <+: requests → 0 ≤ height front
  level : height requests = 0

/-- Requests that never count below their start add to what is there as much as they count. -/
theorem follow_of_above
    (base : List Style)
    (requests : List Request)
    (above : ∀ front, front <+: requests → 0 ≤ height front) :
    ∃ top : List Style,
      (Stack.mk base).follow requests = ⟨top ++ base⟩ ∧ top.length = height requests := by
  induction requests using List.reverseRecOn with
  | nil => exact ⟨[], rfl, rfl⟩
  | append_singleton front last hypothesis =>
      rcases hypothesis fun piece before => above piece (before.trans (List.prefix_append _ _)) with
        ⟨top, reached, counted⟩
      have start := above _ (List.prefix_refl _)
      have count : height (front ++ [last]) = height front + last.height := by
        simp [height]
      rw [count] at start
      rw [follow_append_singleton, reached, count, ← counted]
      cases last with
      | push flags arguments =>
          rw [Stack.request, Request.height]
          cases changeOf? flags arguments with
          | none => exact ⟨top, rfl, by simp⟩
          | some change => exact ⟨_ :: top, rfl, by simp⟩
      | pop =>
          cases top with
          | nil =>
              -- Then nothing is counted, and the pop would count below the start.
              rw [← counted] at start
              exact absurd start (by decide)
          | cons style rest => exact ⟨rest, rfl, by simp [Request.height]⟩
      | current => exact ⟨top, rfl, by simp [Request.height]⟩

/-- Balanced requests leave a stack as it was, whatever is on it. -/
theorem follow_of_balanced
    (stack : Stack)
    (requests : List Request)
    (balanced : Balanced requests) :
    stack.follow requests = stack := by
  rcases follow_of_above stack.entries requests balanced.above with ⟨top, reached, counted⟩
  rw [balanced.level, Int.natCast_eq_zero, List.length_eq_zero_iff] at counted
  rw [counted, List.nil_append] at reached
  exact reached

/-- Requests that count nothing together can still leave a trace, if they count below their start. -/
example :
    height [.pop, .push StyleFlag.bold.bits []] = 0 ∧
      empty.follow [.pop, .push StyleFlag.bold.bits []] ≠ empty := by
  decide

theorem request_pop_of_depth (stack : Stack) (bare : stack.depth = 0) :
    stack.request .pop = (stack, some plain) := by
  cases stack with
  | mk entries =>
      cases List.length_eq_zero_iff.1 bare
      rfl

/--
A stack gives back what it took.  However it is used, it holds one style for each change that is
open, which keeps the switches of the style below and all attributes that the change does not name.
A push with a strange argument changes nothing.  Balanced requests leave any stack and its current
style as they were, and a pop finds the plain style where nothing is left.
-/
theorem stack_gives_back_what_it_took :
    (∀ requests,
        (empty.follow requests).depth = (empty.follow requests).entries.length ∧
          (empty.follow requests).entries.length = (opened requests).length ∧
            Grown (opened requests) (empty.follow requests).entries) ∧
      (∀ (stack : Stack) (flags : StyleFlags) (arguments : List Argument),
        (∃ settings style,
            arguments = settings.map .known ∧ ComesFrom ⟨flags, settings⟩ stack.current style ∧
              stack.request (.push flags arguments) = (⟨style :: stack.entries⟩, some style)) ∨
          (∃ name foreign, .strange name foreign ∈ arguments) ∧
            stack.request (.push flags arguments) = (stack, none)) ∧
      (∀ (stack : Stack) (requests : List Request),
        Balanced requests →
          stack.follow requests = stack ∧ (stack.follow requests).current = stack.current) ∧
      (∀ stack : Stack, stack.depth = 0 → stack.request .pop = (stack, some plain)) := by
  refine ⟨?_, request_push, ?_, request_pop_of_depth⟩
  · intro requests
    have grown := grown_follow requests
    exact ⟨rfl, grown.length_eq, grown⟩
  · intro stack requests balanced
    have same := follow_of_balanced stack requests balanced
    exact ⟨same, congrArg current same⟩

end Stack

end TimedText.Style
