import TimedText.Proofs.Json.Reading
import TimedText.Proofs.Log.Journal

/-!
# Records as objects

In the JSON form a record is one object on a line of its own.  No name is given twice in the object,
and the names of the session, the logger and the level belong to the record: a further field of such
a name is not shown.

A journal that is set up for this form tells of each later record that can be written as an object
once on the console and once in its file, however often it has been set up before, and in whatever
way.  Of other records it tells nowhere.
-/

namespace TimedText

open Log (Extra Level Moment Record)

namespace Log.Record

/-! ## Members of an object -/

/-- A line tells of a record: it holds one object, with all that the record has to say. -/
inductive Tells (session : String) (record : Record) : List Char → Prop where
  | object
      (unbroken : '\n' ∉ text)
      (read : Json.parse? text = some (.obj shown))
      (once : (shown.map Prod.fst).Nodup)
      (moment : shown.lookup "asctime" = some (.str (String.ofList (record.moment.text 'T'))))
      (identity : shown.lookup "session_id" = some (.str session))
      (logger : shown.lookup "module" = some (.str record.name))
      (level : shown.lookup "level" = some (.str record.level.name))
      (message : shown.lookup "message" = some (.str record.message))
      (further :
        ∀ before extra after,
          record.shownExtras = before ++ extra :: after →
            (∀ later ∈ after, later.1 ≠ extra.1) →
              extra.1 ∉ ownNames → shown.lookup extra.1 = extra.2.json?) :
      Tells session record (text ++ ['\n'])

end Log.Record

namespace Journal

/-! ## Journals that are set up again and again -/

/-- What a journal is set up with. -/
structure SetUp where
  settings : SystemSettings
  given : Option String
  fresh : String
  clock : Nat → Moment

/--
A journal after it is set up, or after this has failed: then it has no outlets, and the identity and
the level are new all the same.
-/
def after (journal : Journal) (request : SetUp) : Journal :=
  match journal.setUp request.settings request.given request.fresh request.clock with
  | .ok up => up
  | .error _ =>
      { journal with
        session := identity request.settings request.given request.fresh,
        level := request.settings.logLevel,
        outlets := [] }

end Journal

end TimedText
