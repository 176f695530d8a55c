import TimedText.Log.Logbook
import TimedText.Proofs.Log.Journal

/-!
# Logbooks

Noting records changes the content of one file at most, the one that the journal writes to.  So two
logbooks that start over the same files stay alike away from this file, whatever is noted in them
and whatever their clocks show.
-/

namespace TimedText

open Log (Moment Record)

namespace Logbook

/-- All files that a logbook writes to are at one place. -/
def LogsTo (place : List String) (logbook : Logbook) : Prop :=
  logbook.journal.LogsTo place

@[simp]
theorem files_withFiles (logbook : Logbook) (files : FileTree) :
    (logbook.withFiles files).files = files :=
  rfl

theorem LogsTo.withFiles
    {place : List String}
    {logbook : Logbook}
    (only : logbook.LogsTo place)
    (files : FileTree) :
    (logbook.withFiles files).LogsTo place :=
  only

/-- Noting records leaves the files like themselves away from the log. -/
theorem LogsTo.noteAll
    {place : List String}
    {logbook : Logbook}
    (only : logbook.LogsTo place)
    (records : List Record) :
    (logbook.noteAll records).LogsTo place ∧
      logbook.files.Alike place (logbook.noteAll records).files := by
  induction records generalizing logbook with
  | nil => exact ⟨only, .refl place logbook.files⟩
  | cons first rest hypothesis =>
      rcases Journal.alike_take only { first with moment := logbook.clock logbook.count } with
        ⟨outlets, alike⟩
      have noted : (logbook.note first).LogsTo place := fun target member =>
        only target (outlets ▸ member)
      rcases hypothesis noted with ⟨others, later⟩
      exact ⟨others, alike.trans later⟩

/-- A file that is not the log is read as before after records are noted. -/
theorem read_noteAll
    {place : List String}
    {logbook : Logbook}
    {path : Path}
    (only : logbook.LogsTo place)
    (apart : path.place ≠ place)
    (records : List Record) :
    (logbook.noteAll records).files.read path = logbook.files.read path :=
  ((only.noteAll records).2.read_other apart).symm

/-- The journal of a logbook that has begun has been set up over the files. -/
theorem setUp_of_begin?
    {files : FileTree}
    {clock : Nat → Moment}
    {settings : SystemSettings}
    {fresh : String}
    {logbook : Logbook}
    (begun : begin? files clock settings fresh = .ok logbook) :
    ({ files } : Journal).setUp settings none fresh clock = .ok logbook.journal := by
  unfold begin? at begun
  cases up : ({ files } : Journal).setUp settings none fresh clock with
  | error fault =>
      rw [up] at begun
      cases begun
  | ok journal =>
      rw [up] at begun
      cases begun
      rfl

/-- Two logbooks begin alike over the same files, with the same fault if they cannot. -/
inductive BeginAlike (place : List String) : (first second : Except FileTree.Fault Logbook) → Prop
    where
  | begun
      (first second : Logbook)
      (left : first.LogsTo place)
      (right : second.LogsTo place)
      (alike : first.files.Alike place second.files) :
      BeginAlike place (.ok first) (.ok second)
  | failed (fault : FileTree.Fault) : BeginAlike place (.error fault) (.error fault)

theorem begin?_alike
    (files : FileTree)
    (settings : SystemSettings)
    (clock other : Nat → Moment)
    (fresh another : String) :
    BeginAlike (Journal.filePath settings).place (begin? files clock settings fresh)
      (begin? files other settings another) := by
  have faults := Journal.setUp_eq_error_iff { files } settings none
  unfold begin?
  cases left : ({ files } : Journal).setUp settings none fresh clock with
  | error fault =>
      rw [(faults another other fault).2 ((faults fresh clock fault).1 left)]
      exact .failed fault
  | ok first =>
      cases right : ({ files } : Journal).setUp settings none another other with
      | error fault =>
          rw [(faults fresh clock fault).2 ((faults another other fault).1 right)] at left
          cases left
      | ok second =>
          rcases Journal.setUp_cases left with ⟨only, one⟩
          rcases Journal.setUp_cases right with ⟨alone, two⟩
          refine .begun _ _ only alone ?_
          rcases one with ⟨opened, open1, alike⟩ | ⟨⟨fault, failed⟩, kept⟩
          · rcases two with ⟨again, open2, same⟩ | ⟨⟨fault, failed⟩, _⟩
            · cases open1.symm.trans open2
              exact alike.symm.trans same
            · cases open1.symm.trans failed
          · rcases two with ⟨again, open2, _⟩ | ⟨_, unchanged⟩
            · cases failed.symm.trans open2
            · show first.files.Alike _ second.files
              rw [kept, unchanged]
              exact .refl _ files

end Logbook

end TimedText
