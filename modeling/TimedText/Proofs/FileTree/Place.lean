import Mathlib
import TimedText.FileTree

/-!
# Files after a change

A file that is set where no directory stands is found where its path led before, and every way that
was there is there still: ways lead through directories only, and no directory is lost.  A second
change of a file takes the place of the first, and the directories on the way to a file that is
there are left as they are.
-/

namespace TimedText.FileTree

/-! ## Places -/

theorem node?_set_self (tree : FileTree) (place : List String) (node : Node) (below : place ≠ []) :
    (tree.set place node).node? place = some node := by
  rw [node?, if_neg (mt List.isEmpty_iff.1 below), set, List.lookup_cons_self]

theorem lookup_filter_of_ne
    (nodes : List (List String × Node))
    (place other : List String)
    (apart : other ≠ place) :
    (nodes.filter fun entry => entry.1 != place).lookup other = nodes.lookup other := by
  induction nodes with
  | nil => rfl
  | cons entry nodes hypothesis =>
      rcases entry with ⟨name, node⟩
      by_cases removed : name = place
      · subst removed
        rw [List.filter_cons_of_neg (by simp), hypothesis, List.lookup_cons, beq_false_of_ne apart]
      · rw [List.filter_cons_of_pos (by simpa using removed), List.lookup_cons, List.lookup_cons,
          hypothesis]

theorem node?_set_other
    (tree : FileTree)
    (place other : List String)
    (node : Node)
    (apart : other ≠ place) :
    (tree.set place node).node? other = tree.node? other := by
  unfold node? set
  rw [List.lookup_cons, beq_false_of_ne apart]
  split
  next => rfl
  next => exact lookup_filter_of_ne tree.nodes place other apart

/-- What is set at a place takes the place of what was set there before. -/
theorem set_set (tree : FileTree) (place : List String) (first second : Node) :
    (tree.set place first).set place second = tree.set place second := by
  simp [set, List.filter_cons_of_neg]

/-! ## Ways -/

/-- One name leads upwards to a directory, or down to what the tree holds there. -/
theorem next_cases
    {tree : FileTree}
    {start here : List String}
    {part : String}
    {found : Option Node}
    (leads : tree.next start part = .ok (here, found)) :
    part = ".." ∧ here = start.dropLast ∧ found = some .directory ∨
      part ≠ ".." ∧ part.utf8ByteSize ≤ nameLimit ∧ here = start ++ [part] ∧
        found = tree.node? here := by
  unfold next at leads
  split at leads
  next upwards =>
    cases leads
    exact .inl ⟨upwards, rfl, rfl⟩
  next down =>
    split at leads
    next => cases leads
    next fits =>
      cases leads
      exact .inr ⟨down, Nat.le_of_not_lt fits, rfl, rfl⟩

theorem next_down
    (tree : FileTree)
    (start : List String)
    (part : String)
    (down : part ≠ "..")
    (fits : part.utf8ByteSize ≤ nameLimit) :
    tree.next start part = .ok (start ++ [part], tree.node? (start ++ [part])) := by
  rw [next, if_neg down, if_neg (Nat.not_lt_of_le fits)]

/-- The way through a directory is the same after a change where no directory stands. -/
theorem next_set_directory
    {tree : FileTree}
    {start here : List String}
    {part : String}
    (place : List String)
    (node : Node)
    (free : tree.node? place ≠ some .directory)
    (leads : tree.next start part = .ok (here, some .directory)) :
    (tree.set place node).next start part = .ok (here, some .directory) := by
  rcases next_cases leads with ⟨rfl, rfl, _⟩ | ⟨down, fits, rfl, found⟩
  · rfl
  · have apart : start ++ [part] ≠ place := by
      rintro rfl
      exact free found.symm
    rw [next_down _ start part down fits, node?_set_other tree place _ node apart, found]

theorem next_set_self
    {tree : FileTree}
    {start place : List String}
    {part : String}
    {found : Option Node}
    (node : Node)
    (free : found ≠ some .directory)
    (leads : tree.next start part = .ok (place, found)) :
    (tree.set place node).next start part = .ok (place, some node) := by
  rcases next_cases leads with ⟨_, _, upwards⟩ | ⟨down, fits, rfl, _⟩
  · exact absurd upwards free
  · rw [next_down _ start part down fits, node?_set_self _ _ node (by simp)]

/-- What stands at the end of a way, a directory apart, is what the tree holds at its place. -/
theorem node?_of_walk
    {tree : FileTree}
    {start names place : List String}
    {found : Option Node}
    (free : found ≠ some .directory)
    (leads : tree.walk start names = .ok (place, found)) :
    tree.node? place = found := by
  fun_induction walk tree start names with
  | case1 start =>
      cases leads
      exact absurd rfl free
  | case2 start part =>
      rcases next_cases leads with ⟨_, _, upwards⟩ | ⟨_, _, _, down⟩
      · exact absurd upwards free
      · exact down.symm
  | case3 | case4 | case5 => cases leads
  | case6 start part following rest here through hypothesis => exact hypothesis leads

/-- The way to a place leads to what is set there, a directory apart that stood there before. -/
theorem walk_set
    {tree : FileTree}
    {start names place : List String}
    {found : Option Node}
    (node : Node)
    (free : found ≠ some .directory)
    (leads : tree.walk start names = .ok (place, found)) :
    (tree.set place node).walk start names = .ok (place, some node) := by
  have held := node?_of_walk free leads
  fun_induction walk tree start names with
  | case1 start =>
      cases leads
      exact absurd rfl free
  | case2 start part =>
      rw [walk]
      exact next_set_self node free leads
  | case3 | case4 | case5 => cases leads
  | case6 start part following rest here through hypothesis =>
      -- No directory stands at the place, so the way there does not go through it.
      rw [walk, next_set_directory place node (held ▸ free) through]
      exact hypothesis leads

/-- The way to a name leads through a directory. -/
theorem walk_of_walk_append
    {tree : FileTree}
    {start names : List String}
    {last : String}
    {reached : List String × Option Node}
    (leads : tree.walk start (names ++ [last]) = .ok reached) :
    ∃ here, tree.walk start names = .ok (here, some .directory) := by
  fun_induction walk tree start names with
  | case1 start => exact ⟨start, rfl⟩
  | case2 start part =>
      rw [List.singleton_append, walk] at leads
      split at leads
      next => cases leads
      next => cases leads
      next => cases leads
      next here through => exact ⟨here, through⟩
  | case3 | case4 | case5 =>
      next fails =>
        rw [List.cons_append, List.cons_append, walk, fails] at leads
        cases leads
  | case6 start part following rest here through hypothesis =>
      rw [List.cons_append, List.cons_append, walk, through] at leads
      exact hypothesis leads

/-! ## Paths -/

theorem locate_eq_ok_iff (tree : FileTree) (path : Path) (reached : List String × Option Node) :
    tree.locate path = .ok reached ↔
      path.parts.any (fun part => part.toList.contains '\x00') = false ∧
        tree.walk [] path.parts = .ok reached := by
  unfold locate
  split
  next nul =>
    rw [nul]
    constructor
    · intro leads
      cases leads
    · intro leads
      cases leads.1
  next clean => exact (and_iff_right (Bool.eq_false_iff.2 clean)).symm

theorem locate_set
    {tree : FileTree}
    {path : Path}
    {place : List String}
    {found : Option Node}
    (node : Node)
    (free : found ≠ some .directory)
    (leads : tree.locate path = .ok (place, found)) :
    (tree.set place node).locate path = .ok (place, some node) := by
  rw [locate_eq_ok_iff] at leads ⊢
  exact ⟨leads.1, walk_set node free leads.2⟩

/-- A path to something other than a directory leads through the directory of its parent. -/
theorem locate_parent
    {tree : FileTree}
    {path : Path}
    {place : List String}
    {found : Option Node}
    (free : found ≠ some .directory)
    (leads : tree.locate path = .ok (place, found)) :
    ∃ here, tree.locate path.parent = .ok (here, some .directory) := by
  rw [locate_eq_ok_iff] at leads
  rcases leads with ⟨clean, leads⟩
  rcases List.eq_nil_or_concat' path.parts with none | ⟨names, last, parts⟩
  · rw [none] at leads
    cases leads
    exact absurd rfl free
  · rw [parts] at clean leads
    rcases walk_of_walk_append leads with ⟨here, through⟩
    refine ⟨here, (locate_eq_ok_iff _ _ _).2 ?_⟩
    rw [Path.parent, parts, List.dropLast_concat]
    rw [List.any_append, Bool.or_eq_false_iff] at clean
    exact ⟨clean.1, through⟩

/-- A directory that is there need not be made. -/
theorem ensureDirectory_of_locate
    {tree : FileTree}
    {path : Path}
    {here : List String}
    (leads : tree.locate path = .ok (here, some .directory)) :
    tree.ensureDirectory path = .ok tree := by
  have there : tree.makeDirectory path = .error .alreadyThere := by
    rw [makeDirectory, leads]
  have directory : tree.hasDirectory path = true := by
    rw [hasDirectory, leads]
  unfold ensureDirectory
  cases names : path.parts.reverse with
  | nil => rfl
  | cons last before =>
      have whole : ({ root := path.root, parts := (last :: before).reverse } : Path) = path := by
        rw [← names, List.reverse_reverse]
      rw [ensureReversed]
      simp only [whole, there, ensureLast, directory, if_true]

/-! ## Changes -/

/-- A file is changed where its path leads, and begun there if nothing stands there yet. -/
theorem place_of_update
    {tree after : FileTree}
    {path : Path}
    {change : List UInt8 → List UInt8}
    (changed : tree.update path change = .ok after) :
    ∃ place, ∃ held : Option (List UInt8),
      tree.locate path = .ok (place, held.map .file) ∧
        after = tree.set place (.file (change (held.getD []))) := by
  unfold update at changed
  split at changed
  next => cases changed
  next => cases changed
  next place content leads =>
    cases changed
    exact ⟨place, some content, leads, rfl⟩
  next place leads =>
    cases changed
    exact ⟨place, none, leads, rfl⟩

theorem map_file_ne_directory (held : Option (List UInt8)) :
    held.map Node.file ≠ some .directory := by
  cases held <;> simp

/-- What is written to a file is read from it. -/
theorem read_of_write
    {tree after : FileTree}
    {path : Path}
    {content : List UInt8}
    (written : tree.write path content = .ok after) :
    after.read path = .ok content := by
  rcases place_of_update written with ⟨place, held, leads, rfl⟩
  rw [read, locate_set _ (map_file_ne_directory held) leads]

/-- A file that has been changed is there. -/
theorem exists_read_of_update
    {tree after : FileTree}
    {path : Path}
    {change : List UInt8 → List UInt8}
    (changed : tree.update path change = .ok after) :
    ∃ content, after.read path = .ok content := by
  rcases place_of_update changed with ⟨place, held, leads, rfl⟩
  exact ⟨_, by rw [read, locate_set _ (map_file_ne_directory held) leads]⟩

/-- Whether a file can be changed does not depend on the change. -/
theorem update_of_fault
    {tree : FileTree}
    {path : Path}
    {first : List UInt8 → List UInt8}
    {fault : Fault}
    (second : List UInt8 → List UInt8)
    (failed : tree.update path first = .error fault) :
    tree.update path second = .error fault := by
  unfold update at failed ⊢
  split at failed
  next => exact failed
  next => exact failed
  next => cases failed
  next => cases failed

/-- Two changes of a file one after the other are one change. -/
theorem update_of_update
    {tree after : FileTree}
    {path : Path}
    {first : List UInt8 → List UInt8}
    (second : List UInt8 → List UInt8)
    (changed : tree.update path first = .ok after) :
    after.update path second = tree.update path fun held => second (first held) := by
  rcases place_of_update changed with ⟨place, held, leads, rfl⟩
  rw [update, locate_set _ (map_file_ne_directory held) leads, update, leads]
  cases held with
  | none => simp only [set_set, Option.getD_none, Option.map_none]
  | some content => simp only [set_set, Option.getD_some, Option.map_some]

/-- The directories on the way to a changed file are there. -/
theorem ensureDirectory_of_update
    {tree after : FileTree}
    {path : Path}
    {change : List UInt8 → List UInt8}
    (changed : tree.update path change = .ok after) :
    after.ensureDirectory path.parent = .ok after := by
  rcases place_of_update changed with ⟨place, held, leads, rfl⟩
  have file := locate_set (.file (change (held.getD []))) (map_file_ne_directory held) leads
  rcases locate_parent (by simp) file with ⟨here, through⟩
  exact ensureDirectory_of_locate through

end TimedText.FileTree
