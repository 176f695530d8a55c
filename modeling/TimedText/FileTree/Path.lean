/-!
# Paths

A path leads through directories by their names.  Empty names and single full stops in a written
path mean nothing and are left out; two full stops stay and lead upwards.  A path without names is
the directory where it starts.
-/

namespace TimedText

/-- A path: the slashes that it starts with, and its names. -/
structure Path where
  root : String := ""
  parts : List String
deriving DecidableEq, Repr

namespace Path

/-- The names in a text, parted at slashes. -/
def splitNames : List Char → List (List Char)
  | [] => [[]]
  | '/' :: rest => [] :: splitNames rest
  | char :: rest =>
      match splitNames rest with
      | first :: others => (char :: first) :: others
      | [] => [[char]]

/-- The slashes that count at the start of a path: one or two, more counting as one. -/
def rootOf (text : List Char) : String :=
  match text with
  | '/' :: '/' :: '/' :: _ => "/"
  | '/' :: '/' :: _ => "//"
  | '/' :: _ => "/"
  | _ => ""

/-- The path that a text stands for. -/
def ofString (text : String) : Path :=
  { root := rootOf text.toList,
    parts :=
      ((splitNames text.toList).map String.ofList).filter fun part => part != "" && part != "." }

/-- The text of a path. -/
def text (path : Path) : String :=
  match path.parts with
  | [] => if path.root.isEmpty then "." else path.root
  | parts => path.root ++ String.intercalate "/" parts

/-- The last name of a path, empty if there is none. -/
def name (path : Path) : String :=
  path.parts.getLastD ""

/-- The path without its last name. -/
def parent (path : Path) : Path :=
  { path with parts := path.parts.dropLast }

/-- The path of a name in the directory that a path leads to. -/
def child (path : Path) (name : String) : Path :=
  { path with parts := path.parts ++ [name] }

end Path

end TimedText
