/-!
# Formats of log output

A log is written as plain lines or as one JSON object a line.
-/

namespace TimedText.Log

/-- The form in which records are written. -/
inductive Format where
  | text
  | json
deriving DecidableEq, Repr

namespace Format

/-- The word for a format. -/
def name : Format → String
  | text => "text"
  | json => "json"

/-- The format of a word. -/
def ofName? (name : String) : Option Format :=
  if name = "json" then some json
  else if name = "text" then some text
  else none

/-- The word for a format names it. -/
theorem ofName?_name (format : Format) : ofName? format.name = some format := by
  cases format <;> decide

end Format

end TimedText.Log
