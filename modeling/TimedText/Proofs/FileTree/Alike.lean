import TimedText.Proofs.FileTree.Kept
import TimedText.Subtitle.RecordFile

/-!
# Trees that differ in one file

Two trees are alike away from a place if they hold the same at every other place, and at this one the
same or a file each.  Every path leads to the same place in both.  So whatever is read at another
place is the same, and whatever is written or made anywhere fails in both or leaves them alike.
-/

namespace TimedText

namespace FileTree

/-- The same is found twice, or a file each time. -/
inductive SameKind : (first second : Option Node) → Prop where
  | same (found : Option Node) : SameKind found found
  | files (first second : List UInt8) : SameKind (some (.file first)) (some (.file second))

/-- Two trees differ at most in the content of a file at a place. -/
structure Alike (place : List String) (first second : FileTree) : Prop where
  here : SameKind (first.node? place) (second.node? place)
  others : ∀ other, other ≠ place → first.node? other = second.node? other

namespace Alike

variable {place : List String} {first second third : FileTree}

theorem refl (place : List String) (tree : FileTree) : Alike place tree tree where
  here := .same _
  others := fun _ _ => rfl

theorem symm (alike : Alike place first second) : Alike place second first where
  here := by
    have here := alike.here
    generalize first.node? place = left, second.node? place = right at here ⊢
    cases here with
    | same => exact .same _
    | files one other => exact .files other one
  others := fun other apart => (alike.others other apart).symm

theorem trans (left : Alike place first second) (right : Alike place second third) :
    Alike place first third where
  here := by
    have here := left.here
    have there := right.here
    generalize
      first.node? place = one, second.node? place = two, third.node? place = three
        at here there ⊢
    cases here with
    | same => exact there
    | files one two =>
        cases there with
        | same => exact .files one two
        | files _ three => exact .files one three
  others := fun other apart => (left.others other apart).trans (right.others other apart)

end Alike

/-! ## Where paths lead -/

/-- Two ways lead to the same end, or to a file each at a place. -/
inductive SameEnd (place : List String) :
    (first second : Except Fault (List String × Option Node)) → Prop where
  | same (reached : Except Fault (List String × Option Node)) : SameEnd place reached reached
  | files (first second : List UInt8) :
      SameEnd place (.ok (place, some (.file first))) (.ok (place, some (.file second)))

variable {place : List String} {first second : FileTree}

theorem Alike.next (alike : Alike place first second) (start : List String) (part : String) :
    SameEnd place (first.next start part) (second.next start part) := by
  unfold FileTree.next
  split
  next => exact .same _
  next =>
    split
    next => exact .same _
    next =>
      by_cases here : start ++ [part] = place
      · have kind := alike.here
        rw [here]
        generalize first.node? place = left, second.node? place = right at kind ⊢
        cases kind with
        | same => exact .same _
        | files one other => exact .files one other
      · rw [alike.others _ here]
        exact .same _

theorem Alike.walk (alike : Alike place first second) (start names : List String) :
    SameEnd place (first.walk start names) (second.walk start names) := by
  fun_induction FileTree.walk first start names with
  | case1 start => exact .same _
  | case2 start part => exact alike.next start part
  | case3 start part following rest fault fails =>
      have step := alike.next start part
      rw [fails] at step
      rw [FileTree.walk]
      generalize second.next start part = reached at step ⊢
      cases step
      exact .same _
  | case4 start part following rest here missing =>
      have step := alike.next start part
      rw [missing] at step
      rw [FileTree.walk]
      generalize second.next start part = reached at step ⊢
      cases step
      exact .same _
  | case5 start part following rest here content file =>
      -- There is a file in the other tree, too, though it may hold something else.
      have step := alike.next start part
      rw [file] at step
      rw [FileTree.walk]
      generalize second.next start part = reached at step ⊢
      cases step <;> exact .same _
  | case6 start part following rest here through hypothesis =>
      have step := alike.next start part
      rw [through] at step
      rw [FileTree.walk]
      generalize second.next start part = reached at step ⊢
      cases step
      exact hypothesis

theorem Alike.locate (alike : Alike place first second) (path : Path) :
    SameEnd place (first.locate path) (second.locate path) := by
  unfold FileTree.locate
  split
  next => exact .same _
  next => exact alike.walk [] path.parts

/-- A path to another place leads to the same in both trees. -/
theorem Alike.locate_other
    {path : Path}
    (alike : Alike place first second)
    (apart : path.place ≠ place) :
    first.locate path = second.locate path := by
  have ends := alike.locate path
  cases left : first.locate path with
  | error fault =>
      rw [left] at ends
      generalize second.locate path = reached at ends ⊢
      cases ends
      rfl
  | ok reached =>
      rw [left] at ends
      generalize second.locate path = other at ends ⊢
      cases ends with
      | same => rfl
      | files => exact (apart (place_of_locate left).symm).elim

/-- Another file is read alike. -/
theorem Alike.read_other
    {path : Path}
    (alike : Alike place first second)
    (apart : path.place ≠ place) :
    first.read path = second.read path := by
  unfold FileTree.read
  rw [alike.locate_other apart]

theorem Alike.hasDirectory (alike : Alike place first second) (path : Path) :
    first.hasDirectory path = second.hasDirectory path := by
  have ends := alike.locate path
  unfold FileTree.hasDirectory
  generalize first.locate path = left, second.locate path = right at ends ⊢
  cases ends <;> rfl

/-! ## Changes -/

/-- A change comes to the same twice: to the same fault, or to trees that are alike. -/
inductive Agree (place : List String) : (left right : Except Fault FileTree) → Prop where
  | changed (left right : FileTree) (alike : Alike place left right) :
      Agree place (.ok left) (.ok right)
  | failed (fault : Fault) : Agree place (.error fault) (.error fault)

theorem node?_set (tree : FileTree) (place other : List String) (node : Node) :
    (tree.set place node).node? other =
      if other = [] then some .directory else if other = place then some node
      else tree.node? other := by
  split
  next top =>
    subst top
    rfl
  next below =>
    split
    next same =>
      subst same
      exact node?_set_self tree other node below
    next apart => exact node?_set_other tree place other node apart

theorem Alike.set (alike : Alike place first second) (target : List String) (node : Node) :
    Alike place (first.set target node) (second.set target node) where
  here := by
    rw [node?_set, node?_set]
    split
    next => exact .same _
    next =>
      split
      next => exact .same _
      next => exact alike.here
  others := by
    intro other apart
    rw [node?_set, node?_set, alike.others other apart]

/-- Two files at the place leave alike trees alike. -/
theorem Alike.set_files (alike : Alike place first second) (one other : List UInt8) :
    Alike place (first.set place (.file one)) (second.set place (.file other)) where
  here := by
    rw [node?_set, node?_set, if_pos rfl, if_pos rfl]
    split
    next => exact .same _
    next => exact .files one other
  others := by
    intro target apart
    rw [node?_set, node?_set, if_neg apart, if_neg apart, alike.others target apart]

/-- A change of any file fails in both trees in the same way, or leaves them alike. -/
theorem Alike.update
    (alike : Alike place first second)
    (path : Path)
    (change : List UInt8 → List UInt8) :
    Agree place (first.update path change) (second.update path change) := by
  have ends := alike.locate path
  unfold FileTree.update
  generalize first.locate path = left, second.locate path = right at ends ⊢
  cases ends with
  | same =>
      rcases left with fault | ⟨here, _ | _ | _⟩
      · exact .failed fault
      · exact .changed _ _ (alike.set here _)
      · exact .changed _ _ (alike.set here _)
      · exact .failed .isDirectory
  | files one other => exact .changed _ _ (alike.set_files (change one) (change other))

/-- A change of the file at the place leaves a tree like itself. -/
theorem alike_of_update
    {tree after : FileTree}
    {path : Path}
    {change : List UInt8 → List UInt8}
    {content : List UInt8}
    (held : tree.read path = .ok content)
    (changed : tree.update path change = .ok after) :
    Alike path.place tree after := by
  have leads := (read_eq_ok_iff tree path content).1 held
  rw [FileTree.update, leads] at changed
  cases changed
  have file : tree.node? path.place = some (.file content) := node?_of_locate (by simp) leads
  constructor
  · rw [node?_set, file]
    split
    next top =>
      rw [top] at file
      cases file
    next =>
      rw [if_pos rfl]
      exact .files content (change content)
  · intro other apart
    exact (node?_set_other tree path.place other _ apart).symm

theorem Alike.makeDirectory (alike : Alike place first second) (path : Path) :
    Agree place (first.makeDirectory path) (second.makeDirectory path) := by
  have ends := alike.locate path
  unfold FileTree.makeDirectory
  generalize first.locate path = left, second.locate path = right at ends ⊢
  cases ends with
  | same =>
      rcases left with fault | ⟨here, _ | _⟩
      · exact .failed fault
      · exact .changed _ _ (alike.set here .directory)
      · exact .failed .alreadyThere
  | files => exact .failed .alreadyThere

theorem Alike.ensureLast (alike : Alike place first second) (path : Path) :
    Agree place (first.ensureLast path) (second.ensureLast path) := by
  have made := alike.makeDirectory path
  unfold FileTree.ensureLast
  rw [alike.hasDirectory path]
  generalize first.makeDirectory path = left, second.makeDirectory path = right at made ⊢
  cases made with
  | changed _ _ changed => exact .changed _ _ changed
  | failed fault =>
      dsimp only
      split
      next => exact .changed _ _ alike
      next => exact .failed fault

theorem Alike.ensureReversed
    (alike : Alike place first second)
    (root : String)
    (names : List String) :
    Agree place (first.ensureReversed root names) (second.ensureReversed root names) := by
  induction names with
  | nil => exact .changed _ _ alike
  | cons last before hypothesis =>
      have made := alike.makeDirectory { root, parts := (last :: before).reverse }
      rw [FileTree.ensureReversed, FileTree.ensureReversed]
      generalize
        first.makeDirectory { root, parts := (last :: before).reverse } = left,
        second.makeDirectory { root, parts := (last :: before).reverse } = right at made ⊢
      cases made with
      | changed _ _ changed => exact alike.ensureLast _
      | failed fault =>
          cases fault with
          | missing =>
              dsimp only
              generalize
                first.ensureReversed root before = left,
                second.ensureReversed root before = right at hypothesis ⊢
              cases hypothesis with
              | changed _ _ changed => exact changed.ensureLast _
              | failed fault => exact .failed fault
          | alreadyThere | notDirectory | isDirectory | nameTooLong | holdsNul =>
              exact alike.ensureLast _

theorem Alike.ensureDirectory (alike : Alike place first second) (path : Path) :
    Agree place (first.ensureDirectory path) (second.ensureDirectory path) :=
  alike.ensureReversed path.root path.parts.reverse

end FileTree

/-! ## Files of records -/

namespace RecordFile

variable {place : List String} {first second : FileTree}

/-- Records are added to a file in the same way. -/
theorem agree_extend
    (alike : first.Alike place second)
    (path : Path)
    (subtitles : List Subtitle) :
    FileTree.Agree place (extend first path subtitles) (extend second path subtitles) := by
  have made := alike.ensureDirectory path.parent
  unfold extend
  generalize
    first.ensureDirectory path.parent = left, second.ensureDirectory path.parent = right at made ⊢
  cases made with
  | changed _ _ ready => exact ready.update path _
  | failed fault => exact .failed fault

theorem agree_save
    (alike : first.Alike place second)
    (path : Path)
    (subtitles : List Subtitle) :
    FileTree.Agree place (save first path subtitles) (save second path subtitles) := by
  have made := alike.ensureDirectory path.parent
  unfold save
  generalize
    first.ensureDirectory path.parent = left, second.ensureDirectory path.parent = right at made ⊢
  cases made with
  | changed _ _ ready => exact ready.update path _
  | failed fault => exact .failed fault

end RecordFile

end TimedText
