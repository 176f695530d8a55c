import TimedText.Settings

/-!
# Settings by dotted keys

A key names a section, or a section and a setting with a full stop between them.  It is followed
name by name, and each name leads from what the names before it have led to.  A setting is no end
of the way: whatever it is has parts of its own, and a section has some beside its settings.  They
may be values again or other things, which have parts too.

Which parts there are is not a matter of the settings.  So a look-up is given them, and here are
those that are values for sure: the parts of a whole number.
-/

namespace TimedText.Settings

/-- The parts of a text between full stops. -/
def splitKey : List Char → List (List Char)
  | [] => [[]]
  | '.' :: rest => [] :: splitKey rest
  | char :: rest =>
      match splitKey rest with
      | first :: others => (char :: first) :: others
      | [] => [[char]]

/-- The names of a key. -/
def keyNames (key : String) : List String :=
  (splitKey key.toList).map String.ofList

/-- What names lead to: a section or a setting or another value, or a thing that is no value. -/
inductive Found (Thing : Type) where
  | value (value : Value)
  | thing (thing : Thing)
deriving Repr

/-- The value that was found. -/
def Found.value? {Thing : Type} : Found Thing → Option Value
  | .value found => some found
  | .thing _ => none

/-- The parts of values, beside the settings in them, and of things that are no values. -/
structure Parts where
  Thing : Type
  ofValue : Value → String → Option (Found Thing)
  ofThing : Thing → String → Option (Found Thing)

/-- The section or setting of a name in a value. -/
def own? (value : Value) (name : String) : Option Value :=
  match value with
  | .mapping entries => Entries.get? entries name
  | _ => none

namespace Parts

/-- What a name leads to.  Settings hide parts of the same name. -/
def step? (parts : Parts) (found : Found parts.Thing) (name : String) :
    Option (Found parts.Thing) :=
  match found with
  | .value value =>
      match own? value name with
      | some inner => some (.value inner)
      | none => parts.ofValue value name
  | .thing thing => parts.ofThing thing name

/-- What names lead to, one after the other. -/
def follow? (parts : Parts) (found : Found parts.Thing) (names : List String) :
    Option (Found parts.Thing) :=
  names.foldlM parts.step? found

/-- What a dotted key leads to. -/
def lookUp? (parts : Parts) (settings : Settings) (key : String) : Option (Found parts.Thing) :=
  parts.follow? (.value (.mapping settings.entries)) (keyNames key)

/-- What a dotted key leads to, or a default if it leads nowhere. -/
def get (parts : Parts) (settings : Settings) (key : String) (default : Found parts.Thing) :
    Found parts.Thing :=
  (parts.lookUp? settings key).getD default

/-- A part of a whole number: it is real, and a quotient by one. -/
def ofNumber (number : Int) (name : String) : Option (Found Empty) :=
  if name = "real" ∨ name = "numerator" then some (.value (.int number))
  else if name = "imag" then some (.value (.int 0))
  else if name = "denominator" then some (.value (.int 1))
  else none

/-- The parts of whole numbers; a switch counts as zero or one. -/
def numbers : Parts where
  Thing := Empty
  ofValue value name :=
    match value with
    | .int number => ofNumber number name
    | .bool switch => ofNumber (if switch then 1 else 0) name
    | _ => none
  ofThing thing _ := thing.elim

end Parts

/-- The value that a dotted key names, among settings and the parts of numbers. -/
def find? (settings : Settings) (key : String) : Option Value :=
  (Parts.numbers.lookUp? settings key).bind Found.value?

end TimedText.Settings
