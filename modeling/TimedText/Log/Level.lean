/-!
# Levels of log records

How serious a record is.  The five levels are ordered by their numbers.
-/

namespace TimedText.Log

/-- How serious a record is. -/
inductive Level where
  | debug
  | info
  | warning
  | error
  | critical
deriving DecidableEq, Repr

namespace Level

/-- The number of a level; a more serious one has a greater number. -/
def number : Level → Nat
  | debug => 10
  | info => 20
  | warning => 30
  | error => 40
  | critical => 50

/-- The word for a level. -/
def name : Level → String
  | debug => "DEBUG"
  | info => "INFO"
  | warning => "WARNING"
  | error => "ERROR"
  | critical => "CRITICAL"

/-- The levels from the least serious to the most serious. -/
def all : List Level := [debug, info, warning, error, critical]

/-- The level of a word. -/
def ofName? (name : String) : Option Level :=
  all.find? fun level => level.name == name

/-- The word for a level names it. -/
theorem ofName?_name (level : Level) : ofName? level.name = some level := by
  cases level <;> decide

end Level

end TimedText.Log
