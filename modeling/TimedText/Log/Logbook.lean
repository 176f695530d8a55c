import TimedText.Log.Journal

/-!
# Logbooks

A logbook is a journal at work: each record that is noted gets the moment that the clock shows, and
goes to the journal.  The clock is asked once for each record.
-/

namespace TimedText

open Log (Moment Record)

/-- A journal, the clock, and how often the clock has been asked. -/
structure Logbook where
  journal : Journal := {}
  clock : Nat → Moment := fun _ => {}
  count : Nat := 0

namespace Logbook

/-- The files that the journal writes to, among others. -/
def files (logbook : Logbook) : FileTree :=
  logbook.journal.files

/-- The logbook where the files have been changed by others. -/
def withFiles (logbook : Logbook) (files : FileTree) : Logbook :=
  { logbook with journal := { logbook.journal with files } }

/-- The logbook after a record is noted. -/
def note (logbook : Logbook) (record : Record) : Logbook :=
  { logbook with
    journal := logbook.journal.take { record with moment := logbook.clock logbook.count },
    count := logbook.count + 1 }

/-- The logbook after records are noted. -/
def noteAll (logbook : Logbook) (records : List Record) : Logbook :=
  records.foldl note logbook

theorem noteAll_append (logbook : Logbook) (first second : List Record) :
    logbook.noteAll (first ++ second) = (logbook.noteAll first).noteAll second :=
  List.foldl_append

/-- A logbook over some files whose journal is set up; two moments may be needed for that. -/
def begin?
    (files : FileTree)
    (clock : Nat → Moment)
    (settings : SystemSettings)
    (fresh : String) :
    Except FileTree.Fault Logbook :=
  (({ files } : Journal).setUp settings none fresh clock).map fun journal =>
    { journal, clock, count := 2 }

end Logbook

end TimedText
