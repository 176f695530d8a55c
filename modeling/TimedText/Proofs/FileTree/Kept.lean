import TimedText.Proofs.FileTree.Place

/-!
# Files that a change leaves alone

A path leads to the place that its names spell, if it leads anywhere.  A file is read as before
after a change at another place: a change sets a file, or a directory where nothing stood, so no way
is lost.
-/

namespace TimedText

/-! ## The place that a path spells -/

/-- The place that one name spells from a place. -/
def Path.climb (place : List String) (part : String) : List String :=
  if part = ".." then place.dropLast else place ++ [part]

/-- The place that the names of a path spell from the top. -/
def Path.place (path : Path) : List String :=
  path.parts.foldl climb []

namespace FileTree

theorem climb_of_next
    {tree : FileTree}
    {start here : List String}
    {part : String}
    {found : Option Node}
    (leads : tree.next start part = .ok (here, found)) :
    here = Path.climb start part := by
  rcases next_cases leads with ⟨rfl, rfl, _⟩ | ⟨down, _, rfl, _⟩
  · rfl
  · rw [Path.climb, if_neg down]

theorem climb_of_walk
    {tree : FileTree}
    {start names here : List String}
    {found : Option Node}
    (leads : tree.walk start names = .ok (here, found)) :
    here = names.foldl Path.climb start := by
  fun_induction walk tree start names with
  | case1 start =>
      cases leads
      rfl
  | case2 start part => exact climb_of_next leads
  | case3 | case4 | case5 => cases leads
  | case6 start part following rest through there hypothesis =>
      rw [hypothesis leads, climb_of_next there]
      rfl

theorem place_of_locate
    {tree : FileTree}
    {path : Path}
    {place : List String}
    {found : Option Node}
    (leads : tree.locate path = .ok (place, found)) :
    place = path.place :=
  climb_of_walk ((locate_eq_ok_iff tree path _).1 leads).2

/-! ## Files at other places -/

theorem walk_set_other
    {tree : FileTree}
    {start names place here : List String}
    {content : List UInt8}
    (node : Node)
    (free : tree.node? place ≠ some .directory)
    (apart : here ≠ place)
    (leads : tree.walk start names = .ok (here, some (.file content))) :
    (tree.set place node).walk start names = .ok (here, some (.file content)) := by
  fun_induction walk tree start names with
  | case1 start => cases leads
  | case2 start part =>
      rcases next_cases leads with ⟨_, _, upwards⟩ | ⟨down, fits, rfl, held⟩
      · cases upwards
      · rw [walk, next_down _ start part down fits, node?_set_other tree place _ node apart, held]
  | case3 | case4 | case5 => cases leads
  | case6 start part following rest through there hypothesis =>
      -- The way goes through a directory, and none stood at the place that is set.
      rw [walk, next_set_directory place node free there]
      exact hypothesis leads

theorem read_eq_ok_iff (tree : FileTree) (path : Path) (content : List UInt8) :
    tree.read path = .ok content ↔ tree.locate path = .ok (path.place, some (.file content)) := by
  unfold read
  constructor
  · intro held
    split at held
    next => cases held
    next => cases held
    next => cases held
    next place _ leads =>
      cases held
      rw [leads, place_of_locate leads]
  · intro leads
    rw [leads]

theorem node?_of_locate
    {tree : FileTree}
    {path : Path}
    {place : List String}
    {found : Option Node}
    (free : found ≠ some .directory)
    (leads : tree.locate path = .ok (place, found)) :
    tree.node? place = found :=
  node?_of_walk free ((locate_eq_ok_iff tree path _).1 leads).2

/-- A file is read as before after something is set at another place where no directory stands. -/
theorem read_set_other
    {tree : FileTree}
    {path : Path}
    {place : List String}
    {content : List UInt8}
    (node : Node)
    (free : tree.node? place ≠ some .directory)
    (apart : path.place ≠ place)
    (held : tree.read path = .ok content) :
    (tree.set place node).read path = .ok content := by
  rw [read_eq_ok_iff, locate_eq_ok_iff] at held ⊢
  exact ⟨held.1, walk_set_other node free apart held.2⟩

/-- A file is read as before after a change of another file. -/
theorem read_of_update_other
    {tree after : FileTree}
    {path other : Path}
    {change : List UInt8 → List UInt8}
    {content : List UInt8}
    (apart : path.place ≠ other.place)
    (changed : tree.update other change = .ok after)
    (held : tree.read path = .ok content) :
    after.read path = .ok content := by
  rcases place_of_update changed with ⟨place, old, leads, rfl⟩
  have free : tree.node? place ≠ some .directory := by
    rw [node?_of_locate (map_file_ne_directory old) leads]
    exact map_file_ne_directory old
  rw [← place_of_locate leads] at apart
  exact read_set_other _ free apart held

/-- A file that is changed holds what the change makes of its content. -/
theorem read_of_update
    {tree after : FileTree}
    {path : Path}
    {change : List UInt8 → List UInt8}
    {content : List UInt8}
    (changed : tree.update path change = .ok after)
    (held : tree.read path = .ok content) :
    after.read path = .ok (change content) := by
  have leads := (read_eq_ok_iff tree path content).1 held
  rw [update, leads] at changed
  cases changed
  exact (read_eq_ok_iff _ _ _).2 (locate_set _ (by simp) leads)

/-- A file that can be read can be appended to. -/
theorem exists_append
    {tree : FileTree}
    {path : Path}
    {content : List UInt8}
    (held : tree.read path = .ok content)
    (more : List UInt8) :
    ∃ after, tree.append path more = .ok after := by
  have leads := (read_eq_ok_iff tree path content).1 held
  exact ⟨_, by rw [append, update, leads]⟩

/-! ## New directories -/

/-- A file is read as before after a directory is made: nothing stood at the place of that. -/
theorem read_of_makeDirectory
    {tree after : FileTree}
    {path other : Path}
    {content : List UInt8}
    (made : tree.makeDirectory other = .ok after)
    (held : tree.read path = .ok content) :
    after.read path = .ok content := by
  unfold makeDirectory at made
  split at made
  next => cases made
  next => cases made
  next place leads =>
    cases made
    have nothing : tree.node? place = none := node?_of_locate (by simp) leads
    have file : tree.node? path.place = some (.file content) :=
      node?_of_locate (by simp) ((read_eq_ok_iff tree path content).1 held)
    refine read_set_other .directory (by simp [nothing]) ?_ held
    rintro rfl
    rw [nothing] at file
    cases file

theorem read_of_ensureLast
    {tree after : FileTree}
    {path other : Path}
    {content : List UInt8}
    (ensured : tree.ensureLast other = .ok after)
    (held : tree.read path = .ok content) :
    after.read path = .ok content := by
  unfold ensureLast at ensured
  split at ensured
  next changed made =>
    cases ensured
    exact read_of_makeDirectory made held
  next =>
    split at ensured
    next =>
      cases ensured
      exact held
    next => cases ensured

theorem read_of_ensureReversed
    {tree after : FileTree}
    {path : Path}
    {root : String}
    {names : List String}
    {content : List UInt8}
    (ensured : tree.ensureReversed root names = .ok after)
    (held : tree.read path = .ok content) :
    after.read path = .ok content := by
  induction names generalizing after with
  | nil =>
      cases ensured
      exact held
  | cons last before hypothesis =>
      rw [ensureReversed] at ensured
      split at ensured
      next =>
        split at ensured
        next changed first => exact read_of_ensureLast ensured (hypothesis first)
        next => cases ensured
      next => exact read_of_ensureLast ensured held

/-- A file is read as before after directories are made. -/
theorem read_of_ensureDirectory
    {tree after : FileTree}
    {path other : Path}
    {content : List UInt8}
    (ensured : tree.ensureDirectory other = .ok after)
    (held : tree.read path = .ok content) :
    after.read path = .ok content :=
  read_of_ensureReversed ensured held

end FileTree

end TimedText
