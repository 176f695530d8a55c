import TimedText.FileTree.Path
import TimedText.Text.Numeral

/-!
# Files

A tree of directories with files, held as the list of all places below the top.  A program is
assumed to run at the top: relative and absolute paths both start there, and above the top there is
nothing but the top.  So a file has one place, which several paths can name.  Links, permissions and
devices are left out: whatever is there can be read, and be written if it is a file.

Every operation takes a path and can fail: on a way that is not there, on a file where a directory
is needed, or on a directory where a file is.
-/

namespace TimedText

/-- What stands at a place. -/
inductive Node where
  | file (content : List UInt8)
  | directory
deriving DecidableEq, Repr

/-- A tree of directories and files: what stands at the places below the top. -/
structure FileTree where
  nodes : List (List String × Node) := []
deriving DecidableEq, Repr

namespace FileTree

/-! ## Faults -/

/-- Why an operation on files fails. -/
inductive Fault where
  | missing
  | alreadyThere
  | notDirectory
  | isDirectory
  | nameTooLong
  | holdsNul
deriving DecidableEq, Repr

namespace Fault

/-- The number and the words of a fault. -/
def summary : Fault → String
  | missing => "[Errno 2] No such file or directory"
  | alreadyThere => "[Errno 17] File exists"
  | notDirectory => "[Errno 20] Not a directory"
  | isDirectory => "[Errno 21] Is a directory"
  | nameTooLong => "[Errno 36] File name too long"
  | holdsNul => "embedded null byte"

/-- A character inside a quoted path. -/
def escapeChar (quote char : Char) : List Char :=
  if char = quote ∨ char = '\\' then ['\\', char]
  else if char = '\n' then ['\\', 'n']
  else if char = '\r' then ['\\', 'r']
  else if char = '\t' then ['\\', 't']
  else if char.toNat < 0x20 ∨ char.toNat = 0x7F then
    '\\' :: 'x' :: (Text.hexadecimal 2 char.toNat).map Char.toLower
  else [char]

/-- A path in quotes, double ones where only single quotes occur in it. -/
def quoted (text : String) : String :=
  let chars := text.toList
  let quote := if chars.contains '\'' && !chars.contains '"' then '"' else '\''
  String.ofList (quote :: chars.flatMap (escapeChar quote) ++ [quote])

/-- The report on a fault at a path. -/
def message (path : Path) (fault : Fault) : String :=
  fault.summary ++ ": " ++ quoted path.text

end Fault

/-! ## Places -/

/-- What stands at a place, if anything does. -/
def node? (tree : FileTree) (place : List String) : Option Node :=
  if place.isEmpty then some .directory else tree.nodes.lookup place

/-- The tree with something set at a place. -/
def set (tree : FileTree) (place : List String) (node : Node) : FileTree :=
  ⟨(place, node) :: tree.nodes.filter fun entry => entry.1 != place⟩

/-- The most bytes that a name may have. -/
def nameLimit : Nat := 255

/-- The place that one name leads to from a directory, and what stands there. -/
def next
    (tree : FileTree)
    (place : List String)
    (part : String) :
    Except Fault (List String × Option Node) :=
  if part = ".." then .ok (place.dropLast, some .directory)
  else if nameLimit < part.utf8ByteSize then .error .nameTooLong
  else .ok (place ++ [part], tree.node? (place ++ [part]))

/-- The place that names lead to from a directory, and what stands there. -/
def walk
    (tree : FileTree)
    (place : List String) :
    List String → Except Fault (List String × Option Node)
  | [] => .ok (place, some .directory)
  | [part] => tree.next place part
  | part :: following :: rest =>
      match tree.next place part with
      | .error fault => .error fault
      | .ok (_, none) => .error .missing
      | .ok (_, some (.file _)) => .error .notDirectory
      | .ok (here, some .directory) => walk tree here (following :: rest)

/-- The place at the end of a path, and what stands there. -/
def locate (tree : FileTree) (path : Path) : Except Fault (List String × Option Node) :=
  if path.parts.any fun part => part.toList.contains '\x00' then .error .holdsNul
  else tree.walk [] path.parts

/-! ## Looking -/

/-- Something stands at the end of a path. -/
def has (tree : FileTree) (path : Path) : Bool :=
  match tree.locate path with
  | .ok (_, some _) => true
  | _ => false

/-- A directory stands at the end of a path. -/
def hasDirectory (tree : FileTree) (path : Path) : Bool :=
  match tree.locate path with
  | .ok (_, some .directory) => true
  | _ => false

/-- The content of a file. -/
def read (tree : FileTree) (path : Path) : Except Fault (List UInt8) :=
  match tree.locate path with
  | .error fault => .error fault
  | .ok (_, none) => .error .missing
  | .ok (_, some .directory) => .error .isDirectory
  | .ok (_, some (.file content)) => .ok content

/-! ## Changing -/

/-- The tree with a file whose content comes from what it held, nothing if it is new. -/
def update
    (tree : FileTree)
    (path : Path)
    (change : List UInt8 → List UInt8) :
    Except Fault FileTree :=
  match tree.locate path with
  | .error fault => .error fault
  | .ok (_, some .directory) => .error .isDirectory
  | .ok (place, some (.file content)) => .ok (tree.set place (.file (change content)))
  | .ok (place, none) => .ok (tree.set place (.file (change [])))

/-- The tree with a file that holds the given content. -/
def write (tree : FileTree) (path : Path) (content : List UInt8) : Except Fault FileTree :=
  tree.update path fun _ => content

/-- The tree with a file that holds further content at its end. -/
def append (tree : FileTree) (path : Path) (content : List UInt8) : Except Fault FileTree :=
  tree.update path (· ++ content)

/-- The tree with a new directory in a directory that is there. -/
def makeDirectory (tree : FileTree) (path : Path) : Except Fault FileTree :=
  match tree.locate path with
  | .error fault => .error fault
  | .ok (_, some _) => .error .alreadyThere
  | .ok (place, none) => .ok (tree.set place .directory)

/-- The tree with a directory, which may be there already, in a directory that is there. -/
def ensureLast (tree : FileTree) (path : Path) : Except Fault FileTree :=
  match tree.makeDirectory path with
  | .ok changed => .ok changed
  | .error fault => if tree.hasDirectory path then .ok tree else .error fault

/-- The tree with a directory and all directories on the way to it, last name first. -/
def ensureReversed (tree : FileTree) (root : String) : List String → Except Fault FileTree
  | [] => .ok tree
  | last :: before =>
      let path : Path := { root, parts := (last :: before).reverse }
      match tree.makeDirectory path with
      | .error .missing =>
          match ensureReversed tree root before with
          | .ok changed => changed.ensureLast path
          | .error fault => .error fault
      | _ => tree.ensureLast path

/-- The tree with a directory and all directories on the way to it. -/
def ensureDirectory (tree : FileTree) (path : Path) : Except Fault FileTree :=
  tree.ensureReversed path.root path.parts.reverse

/-- The tree without what stood at the end of a path. -/
def remove (tree : FileTree) (path : Path) : FileTree :=
  match tree.locate path with
  | .ok (place, some _) => ⟨tree.nodes.filter fun entry => entry.1 != place⟩
  | _ => tree

end FileTree

end TimedText
