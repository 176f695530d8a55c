import TimedText.Style

/-!
# Style stacks

The styles of the markup that is open, innermost first.  Opening markup pushes the current style
with a change; closing markup drops the innermost style, and does nothing when none is open.  The
current style is the innermost one, or the plain style.

A push can be asked for with values under the names of attributes.  A name that no attribute has
makes the push fail, and a failed push leaves the stack as it was.
-/

namespace TimedText.Style

/-- The styles of the open markup, innermost first. -/
structure Stack where
  entries : List Style := []
deriving DecidableEq, Repr

namespace Stack

/-- The stack with no markup open. -/
def empty : Stack := {}

/-- The number of open pieces of markup. -/
def depth (stack : Stack) : Nat :=
  stack.entries.length

/-- The style in force. -/
def current (stack : Stack) : Style :=
  stack.entries.headD plain

/-- The stack after markup opens with a change of style. -/
def push (stack : Stack) (change : Change) : Stack :=
  ⟨stack.current.apply change :: stack.entries⟩

/-- The stack after the innermost markup closes. -/
def pop (stack : Stack) : Stack :=
  ⟨stack.entries.tail⟩

/-- What stands under a name: an attribute with its value, or anything if no attribute has the name. -/
inductive Argument where
  | known (setting : Attribute)
  | strange (name : String) (foreign : name ∉ attributeNames)
deriving DecidableEq, Repr

/-- The attribute that an argument sets. -/
def Argument.setting? : Argument → Option Attribute
  | .known setting => some setting
  | .strange _ _ => none

/-- The change that switches and arguments make, if none of the arguments is strange. -/
def changeOf? (flags : StyleFlags) (arguments : List Argument) : Option Change :=
  (arguments.mapM Argument.setting?).map fun attributes => { flags, attributes }

/-- What can be asked of a stack. -/
inductive Request where
  | push (flags : StyleFlags) (arguments : List Argument)
  | pop
  | current
deriving DecidableEq, Repr

/-- The stack after a request, and the style that it answers; a failed push answers none. -/
def request (stack : Stack) : Request → Stack × Option Style
  | .push flags arguments =>
      match changeOf? flags arguments with
      | some change => (stack.push change, some (stack.push change).current)
      | none => (stack, none)
  | .pop => (stack.pop, some stack.pop.current)
  | .current => (stack, some stack.current)

@[simp]
theorem current_push (stack : Stack) (change : Change) :
    (stack.push change).current = stack.current.apply change := rfl

@[simp]
theorem pop_push (stack : Stack) (change : Change) :
    (stack.push change).pop = stack := rfl

@[simp]
theorem depth_push (stack : Stack) (change : Change) :
    (stack.push change).depth = stack.depth + 1 := rfl

end Stack

end TimedText.Style
