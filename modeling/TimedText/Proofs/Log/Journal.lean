import TimedText.Log.Journal
import TimedText.Proofs.FileTree.Alike

/-!
# Journals

A journal that has been set up with a directory that can be used writes to the console and to one
file.  Records add the same to both: one entry for each record that is serious enough, in their
order, as far as an entry can be made of it.  Nothing else of the journal changes, and no other
file.
-/

namespace TimedText

open Log (Level Record)

namespace Journal

/-! ## Other files -/

/-- All files that a journal writes to are at one place. -/
def LogsTo (place : List String) (journal : Journal) : Prop :=
  ∀ target, .file target ∈ journal.outlets → target.place = place

@[simp]
theorem outlets_writeTo (entry : List Char) (journal : Journal) (outlet : Outlet) :
    (writeTo entry journal outlet).outlets = journal.outlets := by
  cases outlet with
  | console => rfl
  | file target =>
      unfold writeTo
      dsimp only
      split <;> rfl

theorem alike_writeTo
    {place : List String}
    (entry : List Char)
    (journal : Journal)
    (outlet : Outlet)
    (only : ∀ target, outlet = .file target → target.place = place) :
    journal.files.Alike place (writeTo entry journal outlet).files := by
  cases outlet with
  | console => exact .refl place journal.files
  | file target =>
      unfold writeTo
      dsimp only
      split
      next content files held appended =>
        exact only target rfl ▸ FileTree.alike_of_update held appended
      next => exact .refl place journal.files

theorem alike_foldl_writeTo
    {place : List String}
    (entry : List Char)
    (outlets : List Outlet)
    (only : ∀ target, .file target ∈ outlets → target.place = place)
    (journal : Journal) :
    (outlets.foldl (writeTo entry) journal).outlets = journal.outlets ∧
      journal.files.Alike place (outlets.foldl (writeTo entry) journal).files := by
  induction outlets generalizing journal with
  | nil => exact ⟨rfl, .refl place journal.files⟩
  | cons outlet rest hypothesis =>
      have first : journal.files.Alike place (writeTo entry journal outlet).files :=
        alike_writeTo entry journal outlet fun target same => only target (by simp [same])
      rcases hypothesis (fun target member => only target (List.mem_cons_of_mem _ member))
          (writeTo entry journal outlet) with ⟨kept, others⟩
      rw [outlets_writeTo] at kept
      exact ⟨kept, first.trans others⟩

/-- A record changes nothing in the files but the content of one that the journal writes to. -/
theorem alike_take
    {place : List String}
    {journal : Journal}
    (only : journal.LogsTo place)
    (record : Log.Record) :
    (journal.take record).outlets = journal.outlets ∧
      journal.files.Alike place (journal.take record).files := by
  unfold take
  split
  next =>
    split
    next entry _ => exact alike_foldl_writeTo entry journal.outlets only journal
    next => exact ⟨rfl, .refl place journal.files⟩
  next => exact ⟨rfl, .refl place journal.files⟩

/-- A journal that writes to the console alone leaves the files as they are. -/
theorem take_of_console
    {journal : Journal}
    (alone : journal.outlets = [.console])
    (record : Log.Record) :
    (journal.take record).outlets = [.console] ∧ (journal.take record).files = journal.files := by
  unfold take
  rw [alone]
  split
  next => split <;> exact ⟨alone, rfl⟩
  next => exact ⟨alone, rfl⟩

/-- The ways in which a journal is set up: with the file of its settings, or without any. -/
theorem setUp_cases
    {journal up : Journal}
    {settings : SystemSettings}
    {given : Option String}
    {fresh : String}
    {clock : Nat → Log.Moment}
    (ready : journal.setUp settings given fresh clock = .ok up) :
    up.LogsTo (filePath settings).place ∧
      ((∃ files,
          openFile journal.files settings = .ok files ∧
            files.Alike (filePath settings).place up.files) ∨
        (∃ fault, openFile journal.files settings = .error fault) ∧ up.files = journal.files) := by
  unfold setUp at ready
  dsimp only at ready
  split at ready
  next files opened =>
    cases ready
    generalize begun settings (identity settings given fresh) (clock 0) = first
    let bare : Journal :=
      { journal with
        session := identity settings given fresh,
        level := settings.logLevel,
        format := settings.logFormat,
        outlets := [.console, .file (filePath settings)],
        files }
    have only : bare.LogsTo (filePath settings).place := by
      intro target member
      simp only [bare, List.mem_cons, reduceCtorEq, Outlet.file.injEq, List.not_mem_nil, false_or,
        or_false] at member
      rw [member]
    rcases alike_take only first with ⟨outlets, alike⟩
    exact ⟨fun target member => only target (outlets ▸ member), .inl ⟨files, opened, alike⟩⟩
  next => cases ready
  next path fault _ opened =>
    cases ready
    let bare : Journal :=
      { journal with
        session := identity settings given fresh,
        level := settings.logLevel,
        format := settings.logFormat,
        outlets := [.console] }
    have alone : bare.outlets = [.console] := rfl
    rcases take_of_console alone (unopened path fault (clock 0)) with
      ⟨outlets, kept⟩
    rcases take_of_console outlets (begun settings (identity settings given fresh) (clock 1)) with
      ⟨others, unchanged⟩
    refine ⟨?_, .inr ⟨⟨_, opened⟩, unchanged.trans kept⟩⟩
    intro target member
    rw [others] at member
    simp at member

/-- Only a name that no file can have keeps a journal from being set up. -/
theorem setUp_eq_error_iff
    (journal : Journal)
    (settings : SystemSettings)
    (given : Option String)
    (fresh : String)
    (clock : Nat → Log.Moment)
    (fault : FileTree.Fault) :
    journal.setUp settings given fresh clock = .error fault ↔
      fault = .holdsNul ∧ ∃ path, openFile journal.files settings = .error (path, .holdsNul) := by
  unfold setUp
  dsimp only
  split
  next files opened => simp [opened]
  next path opened => simp [opened, eq_comm]
  next path other free opened =>
    have apart : other ≠ .holdsNul := free
    simp [opened, apart]

theorem read_of_openFile
    {files opened : FileTree}
    {settings : SystemSettings}
    {path : Path}
    {content : List UInt8}
    (usable : openFile files settings = .ok opened)
    (apart : path.place ≠ (filePath settings).place)
    (held : files.read path = .ok content) :
    opened.read path = .ok content := by
  unfold openFile at usable
  split at usable
  next => cases usable
  next made ensured =>
    split at usable
    next => cases usable
    next appended =>
      cases usable
      exact FileTree.read_of_update_other apart appended
        (FileTree.read_of_ensureDirectory ensured held)

/-- A journal that is set up leaves every file alone but the one in the directory of its settings. -/
theorem read_of_setUp
    {journal up : Journal}
    {settings : SystemSettings}
    {given : Option String}
    {fresh : String}
    {clock : Nat → Log.Moment}
    {path : Path}
    {content : List UInt8}
    (ready : journal.setUp settings given fresh clock = .ok up)
    (apart : path.place ≠ (filePath settings).place)
    (held : journal.files.read path = .ok content) :
    up.files.read path = .ok content := by
  rcases setUp_cases ready with ⟨_, ⟨files, opened, alike⟩ | ⟨_, kept⟩⟩
  · rw [← alike.read_other apart]
    exact read_of_openFile opened apart held
  · rw [kept]
    exact held

/-! ## The console and the file -/

/-- A journal writes to the console and to a file that is there. -/
structure Keeps (path : Path) (journal : Journal) : Prop where
  outlets_eq : journal.outlets = [.console, .file path]
  held : ∃ content, journal.files.read path = .ok content

/-- What is due for a record: its entry, if it is serious enough and an entry can be made of it. -/
def due? (journal : Journal) (record : Record) : Option (List Char) :=
  if journal.level.number ≤ record.level.number then journal.entry? record else none

/-- What is due for records are the entries of those that are serious enough. -/
theorem filterMap_due? (journal : Journal) (records : List Record) :
    records.filterMap journal.due? =
      (records.filter fun record => journal.level.number ≤ record.level.number).filterMap
        journal.entry? := by
  rw [List.filterMap_filter]
  simp only [decide_eq_true_eq]
  rfl

/-- Entries have been added to the console and to the file, and nothing else has changed. -/
structure Adds (path : Path) (entries : List (List Char)) (before after : Journal) : Prop where
  session_eq : after.session = before.session
  level_eq : after.level = before.level
  format_eq : after.format = before.format
  outlets_eq : after.outlets = before.outlets
  console_eq : after.console = before.console ++ entries.flatten
  read_eq :
    ∀ content,
      before.files.read path = .ok content →
        after.files.read path = .ok (content ++ entries.flatMap Encoding.Utf8.encode)
  others_eq :
    ∀ other content,
      other.place ≠ path.place →
        before.files.read other = .ok content → after.files.read other = .ok content

theorem Adds.nil (path : Path) (journal : Journal) : Adds path [] journal journal where
  session_eq := rfl
  level_eq := rfl
  format_eq := rfl
  outlets_eq := rfl
  console_eq := (List.append_nil _).symm
  read_eq := fun content held => by simpa using held
  others_eq := fun other content apart held => held

theorem Adds.trans
    {path : Path}
    {first second : List (List Char)}
    {before middle after : Journal}
    (left : Adds path first before middle)
    (right : Adds path second middle after) :
    Adds path (first ++ second) before after where
  session_eq := right.session_eq.trans left.session_eq
  level_eq := right.level_eq.trans left.level_eq
  format_eq := right.format_eq.trans left.format_eq
  outlets_eq := right.outlets_eq.trans left.outlets_eq
  console_eq := by
    rw [right.console_eq, left.console_eq, List.append_assoc, List.flatten_append]
  read_eq := by
    intro content held
    rw [right.read_eq _ (left.read_eq content held), List.append_assoc, List.flatMap_append]
  others_eq := by
    intro other content apart held
    exact right.others_eq other content apart (left.others_eq other content apart held)

theorem Adds.keeps
    {path : Path}
    {entries : List (List Char)}
    {before after : Journal}
    (adds : Adds path entries before after)
    (keeps : Keeps path before) :
    Keeps path after := by
  rcases keeps.held with ⟨content, held⟩
  exact ⟨adds.outlets_eq.trans keeps.outlets_eq, _, adds.read_eq content held⟩

/-- What is due for a record is the same when entries have been added. -/
theorem Adds.due?_eq
    {path : Path}
    {entries : List (List Char)}
    {before after : Journal}
    (adds : Adds path entries before after) :
    after.due? = before.due? := by
  funext record
  simp only [due?, entry?, adds.session_eq, adds.level_eq, adds.format_eq]

/-- An entry is written to the console and to the file. -/
theorem adds_writeTo
    {path : Path}
    {journal : Journal}
    (keeps : Keeps path journal)
    (entry : List Char) :
    Adds path [entry] journal (journal.outlets.foldl (writeTo entry) journal) := by
  rcases keeps with ⟨outlets, content, held⟩
  rcases FileTree.exists_append held (Encoding.Utf8.encode entry) with ⟨files, appended⟩
  have written :
      journal.outlets.foldl (writeTo entry) journal =
        { journal with console := journal.console ++ entry, files } := by
    rw [outlets, List.foldl_cons, List.foldl_cons, List.foldl_nil, writeTo, writeTo]
    simp only [held, appended, outlets]
  have changed : journal.files.update path (· ++ Encoding.Utf8.encode entry) = .ok files :=
    appended
  rw [written]
  refine ⟨rfl, rfl, rfl, rfl, by rw [List.flatten_singleton], ?_, ?_⟩
  · intro before same
    have reads := FileTree.read_of_update changed same
    rwa [List.flatMap_singleton]
  · intro other kept apart same
    exact FileTree.read_of_update_other apart changed same

/-- A record adds what is due for it. -/
theorem adds_take
    {path : Path}
    {journal : Journal}
    (keeps : Keeps path journal)
    (record : Record) :
    Adds path (journal.due? record).toList journal (journal.take record) := by
  unfold take due?
  split
  next =>
    split
    next entry made =>
      rw [made]
      exact adds_writeTo keeps entry
    next unmade =>
      rw [unmade]
      exact .nil path journal
  next => exact .nil path journal

/-- Records add what is due for each of them, in their order. -/
theorem adds_takes
    {path : Path}
    {journal : Journal}
    (keeps : Keeps path journal)
    (records : List Record) :
    Adds path (records.filterMap journal.due?) journal (records.foldl take journal) := by
  induction records generalizing journal with
  | nil => exact .nil path journal
  | cons first rest hypothesis =>
      have one := adds_take keeps first
      have others := hypothesis (one.keeps keeps)
      rw [one.due?_eq] at others
      have both := one.trans others
      cases due : journal.due? first with
      | none =>
          rw [due] at both
          rwa [List.filterMap_cons_none due]
      | some entry =>
          rw [due] at both
          rwa [List.filterMap_cons_some due]

/-! ## Setting up -/

theorem exists_openFile
    {files : FileTree}
    {settings : SystemSettings}
    (usable : (openFile files settings).isOk = true) :
    ∃ opened, openFile files settings = .ok opened := by
  cases outcome : openFile files settings with
  | ok opened => exact ⟨opened, rfl⟩
  | error fault =>
      rw [outcome] at usable
      cases usable

theorem exists_read_of_openFile
    {files opened : FileTree}
    {settings : SystemSettings}
    (usable : openFile files settings = .ok opened) :
    ∃ content, opened.read (filePath settings) = .ok content := by
  unfold openFile at usable
  split at usable
  next => cases usable
  next =>
    split at usable
    next => cases usable
    next appended =>
      cases usable
      exact FileTree.exists_read_of_update appended

/-- A directory that can be used makes a journal that writes to the console and to its file. -/
theorem setUp_of_openFile
    {journal : Journal}
    {settings : SystemSettings}
    {files : FileTree}
    (usable : openFile journal.files settings = .ok files)
    (given : Option String)
    (fresh : String)
    (clock : Nat → Log.Moment) :
    ∃ up,
      journal.setUp settings given fresh clock = .ok up ∧
        Keeps (filePath settings) up ∧
          up.session = identity settings given fresh ∧
            up.level = settings.logLevel ∧ up.format = settings.logFormat := by
  let bare : Journal :=
    { journal with
      session := identity settings given fresh,
      level := settings.logLevel,
      format := settings.logFormat,
      outlets := [.console, .file (filePath settings)],
      files }
  have keeps : Keeps (filePath settings) bare := ⟨rfl, exists_read_of_openFile usable⟩
  have begins := adds_take keeps (begun settings (identity settings given fresh) (clock 0))
  refine ⟨_, ?_, begins.keeps keeps, begins.session_eq, begins.level_eq, begins.format_eq⟩
  unfold setUp
  simp only [usable]
  rfl

end Journal

end TimedText
