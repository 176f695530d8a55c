import TimedText.Binary64
import TimedText.Encoding.Utf8

/-!
# Values of a settings file

A settings file holds a tree: names lead to values, which may hold names and values again.  A file
can also hold other things, which no setting accepts: lists, points in time, sets, and entries
whose key is no text.  They are kept as far as it matters that they are there.  A text with an
escape that stands for no character is such a thing too.

A mapping with an anchor is shared, and so is one inside of it: wherever it stands it is one and the
same mapping, and what is changed in one place is changed in all of them.  Inside itself it stands as
a loop.
-/

namespace TimedText

/-- A key of a mapping; only those that are texts can name a setting. -/
inductive Key where
  | name (name : String)
  | other
deriving DecidableEq, Repr

/-- A value in a settings file. -/
inductive Value where
  | null
  | bool (value : Bool)
  | int (value : Int)
  | real (value : Binary64)
  | text (value : String)
  | garbledText
  | bytes (value : List UInt8)
  | date
  | moment
  | list (items : List Value)
  | set
  | mapping (entries : List (Key × Value))
  | shared (anchor : String) (entries : List (Key × Value))
  | loop (anchor : String)
deriving Repr, Inhabited

/-- The entries of a mapping in their order. -/
abbrev Entries := List (Key × Value)

namespace Entries

/-- The value of a name. -/
def get? (entries : Entries) (name : String) : Option Value :=
  entries.lookup (.name name)

/-- The entries with a name set to a value: in place if the name is there, at the end if not. -/
def put (entries : Entries) (name : String) (value : Value) : Entries :=
  match entries with
  | [] => [(.name name, value)]
  | (key, old) :: rest =>
      if key = .name name then (key, value) :: rest else (key, old) :: put rest name value

/-- A mapping in which every key is a text. -/
def allNamed (entries : Entries) : Bool :=
  entries.all fun entry => entry.1 != .other

@[simp]
theorem get?_nil (name : String) : get? [] name = none := rfl

/-- A look-up goes past an entry with another key. -/
theorem get?_cons_of_ne
    (key : Key)
    (value : Value)
    (rest : Entries)
    (name : String)
    (different : key ≠ .name name) :
    get? ((key, value) :: rest) name = get? rest name := by
  have missed : (Key.name name == key) = false := by
    simpa using fun equal => different equal.symm
  simp [get?, List.lookup_cons, missed]

/-- A look-up ends at an entry with its key. -/
theorem get?_cons_self (value : Value) (rest : Entries) (name : String) :
    get? ((.name name, value) :: rest) name = some value := by
  simp [get?]

/-- Putting a value under a name changes what is found there and nowhere else. -/
theorem get?_put (entries : Entries) (name other : String) (value : Value) :
    (put entries name value).get? other =
      if other = name then some value else entries.get? other := by
  induction entries with
  | nil =>
      by_cases same : other = name
      · simp [put, get?_cons_self, same]
      · have different : Key.name name ≠ .name other := by simpa using fun equal => same equal.symm
        simp [put, get?_cons_of_ne, different, same]
  | cons first rest hypothesis =>
      obtain ⟨key, old⟩ := first
      by_cases here : key = .name name
      · subst here
        by_cases same : other = name
        · simp [put, get?_cons_self, same]
        · have different : Key.name name ≠ .name other := by
            simpa using fun equal => same equal.symm
          simp [put, get?_cons_of_ne, different, same]
      · by_cases there : key = .name other
        · subst there
          have different : other ≠ name := fun equal => here (by rw [equal])
          simp [put, here, get?_cons_self, different]
        · simpa [put, here, get?_cons_of_ne, there] using hypothesis

end Entries

namespace Value

/-- The word for what a value is, where the whole file is that value. -/
def kindName : Value → String
  | null => "NoneType"
  | bool _ => "bool"
  | int _ => "int"
  | real _ => "float"
  | text _ => "str"
  | garbledText => "str"
  | bytes _ => "bytes"
  | date => "datetime.date"
  | moment => "datetime.datetime"
  | list _ => "list"
  | set => "set"
  | mapping _ => "dict"
  | shared _ _ => "dict"
  | loop _ => "dict"

/-! ## Shared mappings -/

mutual

/-- The value with new entries for the mapping of an anchor, wherever that stands in it. -/
def renew (anchor : String) (new : List (Key × Value)) : Value → Value
  | .list items => .list (renewItems anchor new items)
  | .mapping entries => .mapping (renewEntries anchor new entries)
  | .shared name entries =>
      .shared name (if name = anchor then new else renewEntries anchor new entries)
  | value => value

/-- The values with new entries for the mapping of an anchor. -/
def renewItems (anchor : String) (new : List (Key × Value)) : List Value → List Value
  | [] => []
  | item :: rest => renew anchor new item :: renewItems anchor new rest

/-- The entries with new entries for the mapping of an anchor in their values. -/
def renewEntries (anchor : String) (new : List (Key × Value)) :
    List (Key × Value) → List (Key × Value)
  | [] => []
  | (key, value) :: rest => (key, renew anchor new value) :: renewEntries anchor new rest

end

end Value

end TimedText
