import TimedText.Settings.Lookup
import TimedText.Settings.Source

/-!
# The store of active settings

A store holds the settings that are in force and the path of the file that they came from.  It can
watch that file: when the file changes its settings are read again, and subscribers are told about
the settings before and after.  Whatever cannot be read leaves the store as it was.

A subscriber may be registered several times, and is then told several times.  One that fails does
not keep the others from being told.
-/

namespace TimedText.Settings

/--
Someone who wants to be told about new settings; a broken one fails when it is told.  The failure is
one that can be set down; what ends a program or interrupts it is not meant.
-/
structure Subscriber where
  name : String
  broken : Bool := false
deriving DecidableEq, Repr

/-- One telling of a subscriber: the settings before and after. -/
structure Delivery where
  subscriber : Subscriber
  old : Settings
  new : Settings
deriving DecidableEq, Repr

/-- A subscriber that is told takes it, or fails if it is broken. -/
def Subscriber.hear (subscriber : Subscriber) (_old _new : Settings) : Except Subscriber Unit :=
  if subscriber.broken then .error subscriber else .ok ()

/--
Subscribers are told one after the other.  One that fails is set down by its number, and the next
one is told all the same.
-/
def tellFrom (old new : Settings) : (number : Nat) → List Subscriber → List Delivery × List Nat
  | _, [] => ([], [])
  | number, subscriber :: rest =>
      let (told, failed) := tellFrom old new (number + 1) rest
      match subscriber.hear old new with
      | .ok () => ({ subscriber, old, new } :: told, failed)
      | .error _ => ({ subscriber, old, new } :: told, number :: failed)

/-- A watch over one name in a directory. -/
structure Watch where
  name : String
  directory : Path
deriving DecidableEq, Repr

namespace Watch

/-- The watch over the end of a path. -/
def ofPath (path : Path) : Watch :=
  { name := path.name, directory := path.parent }

end Watch

/-- Who starts watches: a watch is running then, or there is a reason why it cannot. -/
abbrev Watcher := Watch → Except String Unit

/-- The event that something at a path has been modified. -/
structure Modification where
  path : Path
  isDirectory : Bool := false
deriving DecidableEq, Repr

/-- A modification of a file of the given name, wherever it is. -/
def Modification.concerns (event : Modification) (name : String) : Bool :=
  !event.isDirectory && event.path.name == name

/--
The settings in force, the path of their file, who is to be told, and the watch if there is one.
-/
structure Store where
  active : Option Settings := none
  path : Option Path := none
  subscribers : List Subscriber := []
  watch : Option Watch := none
deriving DecidableEq, Repr

namespace Store

/-- The report on a look-up before anything is loaded. -/
def notLoadedMessage : String :=
  "설정이 아직 로드되지 않았습니다. load()를 먼저 호출하세요."

/-! ## Loading -/

/-- The store after the settings of a file are loaded, or why they are not. -/
def load
    (store : Store)
    (tree : FileTree)
    (environment : Environment)
    (path : Path) :
    Except LoadError Settings × Store :=
  match Settings.load tree environment path with
  | .ok settings => (.ok settings, { store with active := some settings, path := some path })
  | .error cause => (.error cause, store)

/-- The store after the settings of the environment alone are loaded, or why they are not. -/
def loadDefaults
    (store : Store)
    (environment : Environment) :
    Except LoadError Settings × Store :=
  match ofEnvironment environment with
  | .ok settings => (.ok settings, { store with active := some settings })
  | .error cause => (.error cause, store)

/-- The value of a dotted key; nothing at all before settings are loaded. -/
def find? (store : Store) (key : String) : Option (Option Value) :=
  store.active.map fun settings => settings.find? key

/-! ## Subscribers -/

/-- The store with one more registration. -/
def subscribe (store : Store) (subscriber : Subscriber) : Store :=
  { store with subscribers := store.subscribers ++ [subscriber] }

/-- The store without the earliest registration of a name. -/
def unsubscribe (store : Store) (name : String) : Store :=
  { store with subscribers := store.subscribers.eraseP fun subscriber => subscriber.name == name }

/-- What all registrations are told, in their order. -/
def deliveries (store : Store) (old new : Settings) : List Delivery :=
  (tellFrom old new 1 store.subscribers).1

/-! ## Changes of the file -/

/-- The store after the file is read again, and who is told. -/
def reload
    (store : Store)
    (tree : FileTree)
    (environment : Environment) :
    Store × List Delivery :=
  match store.path with
  | none => (store, [])
  | some path =>
      match reread tree environment path with
      | .error _ => (store, [])
      | .ok new =>
          ( { store with active := some new },
            match store.active with
            | some old => store.deliveries old new
            | none => [] )

/-- The store after an event that the watch over a name sees, and who is told. -/
def notice
    (store : Store)
    (tree : FileTree)
    (environment : Environment)
    (name : String)
    (event : Modification) :
    Store × List Delivery :=
  if event.concerns name then store.reload tree environment else (store, [])

/-! ## Watching -/

/-- The path that is to be watched: the given one unless it is empty, else that of the settings. -/
def pathToWatch (store : Store) (given : Option String) : Option Path :=
  match given with
  | some text => if text.isEmpty then store.path else some (Path.ofString text)
  | none => store.path

/--
The store with a watch, and the watch if it is a new one; or the reason why the watcher cannot watch.
Then the store has no watch, but the path that it was given.
-/
def startWatch
    (store : Store)
    (given : Option String)
    (watcher : Watcher := fun _ => .ok ()) :
    Store × Except String (Option Watch) :=
  match store.pathToWatch given, store.watch with
  | some path, none =>
      let ready := { store with path := if given.isSome then some path else store.path }
      match watcher (Watch.ofPath path) with
      | .ok () => ({ ready with watch := some (Watch.ofPath path) }, .ok (some (Watch.ofPath path)))
      | .error reason => (ready, .error reason)
  | _, _ => (store, .ok none)

/-- The store without a watch. -/
def stopWatch (store : Store) : Store :=
  { store with watch := none }

end Store

end TimedText.Settings
