import TimedText.Proofs.Encoding.Utf8
import TimedText.Proofs.FileTree.Place
import TimedText.Proofs.Json.Reading
import TimedText.Subtitle.RecordFile

/-!
# What a file of records holds

Subtitles are written to a file again and again: a save begins the file anew, and an extension adds
to it.  After a run of writings that starts with a save, the file holds one line for each subtitle
since the last save, and each line is read back as the record of its subtitle.  The whole run leaves
the same files as one save of these subtitles.
-/

namespace TimedText.RecordFile

open Encoding

/-! ## Runs of writings -/

/-- One writing of subtitles to a file. -/
inductive Write where
  | save (subtitles : List Subtitle)
  | extend (subtitles : List Subtitle)
deriving DecidableEq, Repr

namespace Write

/-- The files after a writing. -/
def apply (tree : FileTree) (path : Path) : Write → Except FileTree.Fault FileTree
  | save subtitles => RecordFile.save tree path subtitles
  | extend subtitles => RecordFile.extend tree path subtitles

/-- The subtitles in a file after a writing. -/
def keep (before : List Subtitle) : Write → List Subtitle
  | save subtitles => subtitles
  | extend subtitles => before ++ subtitles

end Write

/-- The files after writings one after the other, up to the first that fails. -/
def run
    (tree : FileTree)
    (path : Path)
    (writes : List Write) :
    Except FileTree.Fault FileTree :=
  writes.foldlM (fun tree write => write.apply tree path) tree

/-- The subtitles written since the last save. -/
def written (writes : List Write) : List Subtitle :=
  writes.foldl Write.keep []

/-! ## A run as one save -/

theorem content_append (first second : List Subtitle) :
    content (first ++ second) = content first ++ content second := by
  simp only [content, Subtitle.recordLines, Utf8.encode, List.flatMap_append]

/-- A writing after a save leaves the files that a save of all its subtitles leaves. -/
theorem apply_of_save
    {tree after : FileTree}
    {path : Path}
    {first : List Subtitle}
    (write : Write)
    (saved : save tree path first = .ok after) :
    write.apply after path = save tree path (write.keep first) := by
  unfold save at saved
  split at saved
  next => cases saved
  next ready there =>
    have here := FileTree.ensureDirectory_of_update saved
    cases write with
    | save subtitles =>
        rw [Write.apply, Write.keep, save, here, save, there]
        exact FileTree.update_of_update (fun _ => content subtitles) saved
    | extend subtitles =>
        rw [Write.apply, Write.keep, extend, here, save, there, content_append]
        exact FileTree.update_of_update (· ++ content subtitles) saved

/-- Whether a save fails does not depend on what is saved. -/
theorem save_of_fault
    {tree : FileTree}
    {path : Path}
    {first : List Subtitle}
    {fault : FileTree.Fault}
    (second : List Subtitle)
    (failed : save tree path first = .error fault) :
    save tree path second = .error fault := by
  unfold save at failed ⊢
  split at failed
  next => exact failed
  next => exact FileTree.update_of_fault _ failed

theorem run_cons (tree : FileTree) (path : Path) (write : Write) (more : List Write) :
    run tree path (write :: more) = (write.apply tree path).bind (run · path more) := by
  rw [run, List.foldlM_cons]
  rfl

/-- A run that starts with a save leaves the files that one save of all its subtitles leaves. -/
theorem run_eq_save (tree : FileTree) (path : Path) (first : List Subtitle) (more : List Write) :
    run tree path (.save first :: more) = save tree path (more.foldl Write.keep first) := by
  induction more generalizing first with
  | nil =>
      rw [run_cons, Write.apply, List.foldl_nil]
      cases save tree path first <;> rfl
  | cons write more hypothesis =>
      rw [List.foldl_cons, ← hypothesis, run_cons, run_cons, Write.apply, Write.apply]
      cases saved : save tree path first with
      | error fault =>
          rw [save_of_fault (write.keep first) saved]
          rfl
      | ok after =>
          rw [← apply_of_save write saved, Except.bind, run_cons]

/-- What is saved is the content of its file. -/
theorem read_of_save
    {tree after : FileTree}
    {path : Path}
    {subtitles : List Subtitle}
    (saved : save tree path subtitles = .ok after) :
    after.read path = .ok (content subtitles) := by
  unfold save at saved
  split at saved
  next => cases saved
  next => exact FileTree.read_of_write saved

/-! ## Lines of records -/

theorem recordLines_eq (subtitles : List Subtitle) :
    Subtitle.recordLines subtitles =
      (subtitles.map fun subtitle => subtitle.record.render false).flatMap
        fun line => line ++ ['\n'] := by
  rw [Subtitle.recordLines, List.flatMap_map]
  rfl

/-- The bytes of a save are UTF-8 for its lines, and each line is read as its record. -/
theorem lines_of_content (subtitles : List Subtitle) :
    ∃ lines : List (List Char),
      Utf8.decode? (content subtitles) = .ok (lines.flatMap fun line => line ++ ['\n']) ∧
        (∀ line ∈ lines, '\n' ∉ line) ∧
        lines.map Json.parse? = subtitles.map fun subtitle => some subtitle.record := by
  refine ⟨subtitles.map fun subtitle => subtitle.record.render false, ?_, ?_, ?_⟩
  · rw [Utf8.decode?_eq_ok_iff, ← recordLines_eq]
    rfl
  · intro line inside newline
    rcases List.mem_map.1 inside with ⟨subtitle, _, rfl⟩
    exact absurd (Json.oneLine_render false subtitle.record '\n' newline) (by decide)
  · rw [List.map_map]
    exact List.map_congr_left fun subtitle _ => Json.parse?_render false subtitle.record

/--
After a run of writings that starts with a save, the file holds one line for each subtitle since the
last save, in their order, and each line is read as the record of its subtitle.  The files are those
that one save of these subtitles leaves.
-/
theorem run_holds_records
    (tree after : FileTree)
    (path : Path)
    (first : List Subtitle)
    (more : List Write)
    (ran : run tree path (.save first :: more) = .ok after) :
    save tree path (written (.save first :: more)) = .ok after ∧
      ∃ bytes, after.read path = .ok bytes ∧
        ∃ lines : List (List Char),
          Utf8.decode? bytes = .ok (lines.flatMap fun line => line ++ ['\n']) ∧
            (∀ line ∈ lines, '\n' ∉ line) ∧
            lines.map Json.parse? =
              (written (.save first :: more)).map fun subtitle => some subtitle.record := by
  have whole : save tree path (written (.save first :: more)) = .ok after :=
    (run_eq_save tree path first more).symm.trans ran
  exact ⟨whole, content _, read_of_save whole, lines_of_content _⟩

/-- A subtitle with quotes, a backslash, controls, a line separator and an astral character. -/
def quotation : Subtitle :=
  .timed (-1) 0 (.place .top .left)
    [⟨"say \"a\\b\"\n\x00\u2028\x7f", {}⟩, ⟨"😀", { fontName := some "\"" }⟩]

/-- A subtitle at a time that no machine word holds. -/
def farOff : Subtitle :=
  .timed (10 ^ 30) (-7) (.place .bottom .center) [⟨"자막", { flags := 3, fontSize := -12 }⟩]

/-- A save and an extension of it, at a path whose directory is made on the way. -/
theorem run_holds_records_of_extension :
    ∃ after,
      run {} (.ofString "out/subs.jsonl") [.save [quotation], .extend [farOff, quotation]] =
          .ok after ∧
        save {} (.ofString "out/subs.jsonl") [quotation, farOff, quotation] = .ok after ∧
        ∃ bytes, after.read (.ofString "out/subs.jsonl") = .ok bytes ∧
          ∃ lines : List (List Char),
            Utf8.decode? bytes = .ok (lines.flatMap fun line => line ++ ['\n']) ∧
              (∀ line ∈ lines, '\n' ∉ line) ∧
              lines.map Json.parse? =
                [some quotation.record, some farOff.record, some quotation.record] := by
  have ran :
      run {} (.ofString "out/subs.jsonl") [.save [quotation], .extend [farOff, quotation]] =
        .ok ⟨[(["out", "subs.jsonl"],
                .file (content [quotation] ++ content [farOff, quotation])),
              (["out"], .directory)]⟩ :=
    rfl
  exact ⟨_, ran, run_holds_records {} _ _ [quotation] [.extend [farOff, quotation]] ran⟩

end TimedText.RecordFile
