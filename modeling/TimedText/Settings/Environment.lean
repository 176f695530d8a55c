import TimedText.Text.LetterCase
import TimedText.Text.Numeral
import TimedText.Value

/-!
# Settings from the environment

Variables of the environment stand in for settings of a file.  The name of such a variable starts
with a fixed word; the rest of it, in small letters, is the name of a section, an underscore, and
the name of a setting.  A later variable wins over an earlier one for the same setting.

A section that the file gives as something other than a mapping is left alone.  A section that is a
shared mapping is changed wherever it stands, also as another section or as all of the file.
-/

namespace TimedText

/-- The variables of an environment in their order, each name only once. -/
structure Environment where
  entries : List (String × String) := []
deriving DecidableEq, Repr

namespace Environment

/-- The variables with one set to a value: in place if it is there, at the end if not. -/
def putIn (name value : String) : List (String × String) → List (String × String)
  | [] => [(name, value)]
  | (other, old) :: rest =>
      if other = name then (name, value) :: rest else (other, old) :: putIn name value rest

/-- The environment with one variable set to a value. -/
def put (environment : Environment) (name value : String) : Environment :=
  ⟨putIn name value environment.entries⟩

/-- The environment of variables that are set one after the other. -/
def ofList (list : List (String × String)) : Environment :=
  list.foldl (fun environment entry => environment.put entry.1 entry.2) {}

/-! ## Places of settings -/

/-- The beginning of the names of variables that stand for settings. -/
def stem : List Char := "SUBSDEC_".toList

/-- A setting by its section and its name. -/
structure Place where
  part : String
  field : String
deriving DecidableEq, Repr

/-- The section and the setting in a name: what stands before and after its first underscore. -/
def splitPlace? (text : List Char) : Option Place :=
  match text.dropWhile (· != '_') with
  | [] => none
  | _ :: field =>
      some
        { part := String.ofList (text.takeWhile (· != '_')),
          field := String.ofList field }

/-- The setting that a variable of the given name stands for. -/
def place? (name : String) : Option Place :=
  if stem.isPrefixOf name.toList then
    splitPlace? (Text.lower (name.toList.drop stem.length))
  else
    none

/-! ## Values of settings -/

/-- The end of the names of settings that name an encoding. -/
def encodingStem : List Char := "encoding".toList

/--
The value of a setting that a variable gives: a text for an encoding, otherwise a switch or a number
where the text is the word for one, and a text in all other cases.
-/
def setting (field value : String) : Value :=
  if encodingStem.isSuffixOf field.toList then
    .text value
  else
    match Text.lowered value with
    | "true" => .bool true
    | "false" => .bool false
    | _ =>
        match Text.integer? value.toList with
        | some number => .int number
        | none => .text value

/-- The entries with a setting changed, unless its section is something other than a mapping. -/
def change (entries : Entries) (place : Place) (value : Value) : Entries :=
  match entries.get? place.part with
  | none => entries.put place.part (.mapping [(.name place.field, value)])
  | some (.mapping inner) => entries.put place.part (.mapping (Entries.put inner place.field value))
  | some (.shared anchor inner) =>
      Value.renewEntries anchor (Entries.put inner place.field value) entries
  | some (.loop _) => entries.put place.field value
  | some _ => entries

/-- The entries after one variable. -/
def overrideOne (entries : Entries) (entry : String × String) : Entries :=
  match place? entry.1 with
  | some place => change entries place (setting place.field entry.2)
  | none => entries

/-- The entries after all variables of an environment. -/
def override (environment : Environment) (entries : Entries) : Entries :=
  environment.entries.foldl overrideOne entries

end Environment

end TimedText
