import TimedText.Encoding.Utf8
import TimedText.FileTree
import TimedText.Subtitle.Record

/-!
# Files of records

Subtitles are saved to a file, one record a line, and further ones are added at its end.  The
directories on the way to the file are made where they are missing.
-/

namespace TimedText.RecordFile

/-- The bytes of the records of subtitles. -/
def content (subtitles : List Subtitle) : List UInt8 :=
  Encoding.Utf8.encode (Subtitle.recordLines subtitles)

/-- The files after subtitles are saved, in place of what the file held. -/
def save
    (tree : FileTree)
    (path : Path)
    (subtitles : List Subtitle) :
    Except FileTree.Fault FileTree :=
  match tree.ensureDirectory path.parent with
  | .error fault => .error fault
  | .ok ready => ready.write path (content subtitles)

/-- The files after subtitles are added at the end of a file. -/
def extend
    (tree : FileTree)
    (path : Path)
    (subtitles : List Subtitle) :
    Except FileTree.Fault FileTree :=
  match tree.ensureDirectory path.parent with
  | .error fault => .error fault
  | .ok ready => ready.append path (content subtitles)

end TimedText.RecordFile
