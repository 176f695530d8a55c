import TimedText.Json
import TimedText.Log.Level
import TimedText.Log.Moment
import TimedText.Log.Template

/-!
# Log records

A record is what one call of a logger has to say: the name of the logger, a level, a message, the
moment of the call, and further fields.  It is written as a line of text or as a JSON object.

A line of text starts with the moment and then with the first characters of the identity of the
session.  These are part of the template of the line, so that percent signs in them are directives.

A further field is anything that has a name of its own.  Its value need not have a JSON form, and a
record that would show such a value cannot be written as an object.
-/

namespace TimedText.Log

/-! ## Further fields -/

/-- The value of a further field: its text and its JSON form, as far as it has them. -/
structure Extra where
  text? : Option String
  json? : Option Json
deriving Repr

namespace Extra

/-- A text as the value of a field. -/
def ofText (value : String) : Extra :=
  { text? := some value, json? := some (.str value) }

/-- A whole number as the value of a field; one of too many digits can be written in no form. -/
def ofInt (value : Int) : Extra :=
  if Text.isTooLong value then { text? := none, json? := none }
  else { text? := some (Text.written value), json? := some (.int value) }

/-- A JSON value as the value of a field; of other values than texts and numbers no text is known. -/
def ofJson : Json → Extra
  | .str value => .ofText value
  | .int value => .ofInt value
  | value => { text? := none, json? := some value }

end Extra

namespace Record

/-- The names of what every record has by itself; no further field can have one of them. -/
def reserved : List String :=
  [ "name", "msg", "message", "args", "levelname", "levelno", "asctime", "created", "msecs",
    "relativeCreated", "pathname", "filename", "module", "lineno", "funcName", "exc_info",
    "exc_text", "stack_info", "thread", "threadName", "process", "processName", "getMessage" ]

theorem admits_nil : ∀ extra ∈ ([] : List (String × Extra)), extra.1 ∉ reserved :=
  List.forall_mem_nil _

end Record

/-- A record of a log. -/
structure Record where
  name : String
  level : Level
  message : String
  moment : Moment := {}
  extras : List (String × Extra) := []
  admitted : ∀ extra ∈ extras, extra.1 ∉ Record.reserved := by exact Record.admits_nil
deriving Repr

namespace Record

/-- The name of the logger without a name of its own. -/
def rootName : String := "root"

/-- The record of a logger, whose name may be missing, if all further fields can be admitted. -/
def ofLogger?
    (name : String)
    (level : Level)
    (message : String)
    (extras : List (String × Extra)) :
    Option Record :=
  if admitted : ∀ extra ∈ extras, extra.1 ∉ reserved then
    some { name := if name.isEmpty then rootName else name, level, message, extras, admitted }
  else
    none

/-! ## Lines of text -/

/-- The text of a field of a record; no message here has arguments of its own. -/
def field? (record : Record) (name : String) : Option String :=
  if name = "name" then some record.name
  else if name = "levelname" then some record.level.name
  else if name = "levelno" then some (Text.written record.level.number)
  else if name = "message" ∨ name = "msg" then some record.message
  else if name = "asctime" then some (String.ofList (record.moment.text ' '))
  else if name = "args" then some "()"
  else (record.extras.lookup name).bind Extra.text?

/-- The number of characters of an identity that a line shows. -/
def identityLength : Nat := 8

/-- What a line shows of the identity of a session: its first characters, or a word for none. -/
def shownIdentity (session : String) : List Char :=
  if session.isEmpty then "no-sid".toList else session.toList.take identityLength

/-- The template of what a line shows behind the moment. -/
def template (session : String) : List Char :=
  '[' :: shownIdentity session ++ "] %(levelname)-8s %(name)s: %(message)s".toList

/-- The line of a record, if the template for the session can be filled in. -/
def line? (session : String) (record : Record) : Option (List Char) :=
  (Template.filled? record.field? (template session)).map (record.moment.text ' ' ++ ' ' :: ·)

/-! ## JSON -/

/-- The members of an object with one set to a value: in place if it is there, at the end if not. -/
def putMember (name : String) (value : Json) : List (String × Json) → List (String × Json)
  | [] => [(name, value)]
  | (other, old) :: rest =>
      if other = name then (name, value) :: rest else (other, old) :: putMember name value rest

/-- The names of the members that belong to the session and the record. -/
def ownNames : List String := ["session_id", "module", "level"]

/-- The further fields that are shown: those whose names start with an underscore are not. -/
def shownExtras (record : Record) : List (String × Extra) :=
  record.extras.filter fun extra => extra.1.toList.head? != some '_'

/--
Membership in the records that can be written as objects: every shown field has a JSON form, unless
another value takes its place.
-/
def isWritable (record : Record) : Bool :=
  record.shownExtras.all fun extra => ownNames.contains extra.1 || extra.2.json?.isSome

/-- The members of the further fields that are shown. -/
def shownMembers (record : Record) : List (String × Json) :=
  record.shownExtras.map fun extra => (extra.1, extra.2.json?.getD .null)

/-- The fields of a record for a session; its identity, its logger and its level win over others. -/
def members (session : String) (record : Record) : List (String × Json) :=
  let own :=
    [ ("asctime", .str (String.ofList (record.moment.text 'T'))),
      ("levelname", .str record.level.name),
      ("name", .str record.name),
      ("message", .str record.message) ]
  let all := record.shownMembers.foldl (fun members extra => putMember extra.1 extra.2 members) own
  putMember "level" (.str record.level.name)
    (putMember "module" (.str record.name) (putMember "session_id" (.str session) all))

/-- The JSON object of a record. -/
def json (session : String) (record : Record) : Json :=
  .obj (record.members session)

end Record

end TimedText.Log
