import Mathlib
import TimedText.Settings.Store

/-!
# Runs of a store

A store is asked to load settings, to read its file again, to look up a key, to check entries, and to
register, remove or watch.  Each request is made on an occasion of its own, with the files, the
environment and the watcher that are there at that time.  A call is one such request with the store that it finds,
what it answers, who is told about new settings, and the store that it leaves.

Some requests attempt to bring new settings into force.  What they attempt is said here without
looking at what the store makes of it.
-/

namespace TimedText.Settings

/-- A cause that is a fault of the files and no load error: who awaits load errors misses it. -/
def LoadError.escapes : LoadError → Bool
  | inaccessible _ => true
  | _ => false

namespace Store

/-! ## Calls -/

/-- What a store can be asked for. -/
inductive Request where
  | load (path : Path)
  | loadDefaults
  | reload
  | notice (name : String) (event : Modification)
  | find (key : String)
  | check (entries : Entries)
  | subscribe (subscriber : Subscriber)
  | unsubscribe (name : String)
  | startWatch (given : Option String)
  | stopWatch

/-- A request that loads settings for the one who makes it. -/
def Request.isLoad : Request → Bool
  | load _ => true
  | loadDefaults => true
  | _ => false

/-- A request with the files, the environment and the watcher of its time. -/
structure Occasion where
  files : FileTree := {}
  environment : Environment := {}
  watcher : Watcher := fun _ => .ok ()
  request : Request

/-- What a request answers. -/
inductive Answer where
  | nothing
  | loaded (result : Except LoadError Settings)
  | reloaded (uncaught : Option LoadError)
  | found (value : Option (Option Value))
  | checked (result : Except (List Complaint) Settings)
  | watched (result : Except String (Option Watch))

/-- A request with its answer, those who are told about new settings, and the stores around it. -/
structure Call where
  before : Store
  occasion : Occasion
  answer : Answer := .nothing
  told : List Delivery := []
  after : Store

/-- What an occasion attempts to bring into force, if it attempts anything. -/
def attempt? (store : Store) (occasion : Occasion) : Option (Except LoadError Settings) :=
  let reading := store.path.map (reread occasion.files occasion.environment)
  match occasion.request with
  | .load path => some (Settings.load occasion.files occasion.environment path)
  | .loadDefaults => some (ofEnvironment occasion.environment)
  | .reload => reading
  | .notice name event => if event.concerns name then reading else none
  | _ => none

/-- What gets past a reading of the file that awaits load errors only. -/
def uncaught? (store : Store) (occasion : Occasion) : Option LoadError :=
  match store.attempt? occasion with
  | some (.error cause) => if cause.escapes then some cause else none
  | _ => none

/-- The call that an occasion makes. -/
def call (store : Store) (occasion : Occasion) : Call :=
  let blank : Call := { before := store, occasion, after := store }
  match occasion.request with
  | .load path =>
      let (result, after) := store.load occasion.files occasion.environment path
      { blank with answer := .loaded result, after }
  | .loadDefaults =>
      let (result, after) := store.loadDefaults occasion.environment
      { blank with answer := .loaded result, after }
  | .reload =>
      let (after, told) := store.reload occasion.files occasion.environment
      { blank with answer := .reloaded (store.uncaught? occasion), told, after }
  | .notice name event =>
      let (after, told) := store.notice occasion.files occasion.environment name event
      { blank with answer := .reloaded (store.uncaught? occasion), told, after }
  | .find key => { blank with answer := .found (store.find? key) }
  | .check entries => { blank with answer := .checked (validate entries) }
  | .subscribe subscriber => { blank with after := store.subscribe subscriber }
  | .unsubscribe name => { blank with after := store.unsubscribe name }
  | .startWatch given =>
      let (after, result) := store.startWatch given occasion.watcher
      { blank with answer := .watched result, after }
  | .stopWatch => { blank with after := store.stopWatch }

namespace Call

/-- What the one who makes the request gets to know as an error. -/
def raised (call : Call) : Option LoadError :=
  match call.answer with
  | .loaded (.error cause) => some cause
  | .reloaded uncaught => uncaught
  | _ => none

/-- The settings that a call brings into force. -/
def loaded? (call : Call) : Option Settings :=
  (call.before.attempt? call.occasion).bind Except.toOption

end Call

@[simp]
theorem before_call (store : Store) (occasion : Occasion) :
    (store.call occasion).before = store := by
  unfold call
  cases occasion.request <;> rfl

@[simp]
theorem occasion_call (store : Store) (occasion : Occasion) :
    (store.call occasion).occasion = occasion := by
  unfold call
  cases occasion.request <;> rfl

/-! ## What a call does to the store -/

/-- The path of the file that an occasion loads with success. -/
def Occasion.loads? (occasion : Occasion) : Option Path :=
  match occasion.request with
  | .load path =>
      (Settings.load occasion.files occasion.environment path).toOption.map fun _ => path
  | _ => none

/-- A request that neither registers or removes anyone nor stops the watch. -/
def Request.isCalm : Request → Bool
  | subscribe _ => false
  | unsubscribe _ => false
  | stopWatch => false
  | _ => true

/-- What a call can make of a store; except for the cases named, only the settings change. -/
inductive Change (store : Store) (occasion : Occasion) : (after : Store) → Prop where
  | loaded
      (path : Path)
      (settings : Settings)
      (request : occasion.request = .load path)
      (loads : occasion.loads? = some path) :
      Change store occasion { store with active := some settings, path := some path }
  | subscribed
      (subscriber : Subscriber)
      (request : occasion.request = .subscribe subscriber) :
      Change store occasion (store.subscribe subscriber)
  | unsubscribed
      (name : String)
      (request : occasion.request = .unsubscribe name) :
      Change store occasion (store.unsubscribe name)
  | started
      (given : Option String)
      (path : Path)
      (request : occasion.request = .startWatch given)
      (target : store.pathToWatch given = some path)
      (free : store.watch = none)
      (runs : occasion.watcher (Watch.ofPath path) = .ok ()) :
      Change store occasion { store with path := some path, watch := some (Watch.ofPath path) }
  | unwatched
      (given : Option String)
      (path : Path)
      (reason : String)
      (request : occasion.request = .startWatch given)
      (target : store.pathToWatch given = some path)
      (free : store.watch = none)
      (fails : occasion.watcher (Watch.ofPath path) = .error reason) :
      Change store occasion { store with path := some path }
  | stopped
      (request : occasion.request = .stopWatch) :
      Change store occasion store.stopWatch
  | settled
      (active : Option Settings)
      (calm : occasion.request.isCalm = true)
      (noLoad : occasion.loads? = none) :
      Change store occasion { store with active }

/-- A reading of the file again changes the settings in force at most. -/
theorem reload_eq (store : Store) (files : FileTree) (environment : Environment) :
    ∃ active, (store.reload files environment).1 = { store with active } := by
  unfold reload
  split
  next => exact ⟨store.active, rfl⟩
  next path known =>
    cases reread files environment path with
    | error cause => exact ⟨store.active, rfl⟩
    | ok settings => exact ⟨some settings, rfl⟩

/-- The path to watch is the one that a start leaves in the store. -/
theorem path_of_pathToWatch
    (store : Store)
    (given : Option String)
    (path : Path)
    (target : store.pathToWatch given = some path) :
    (if given.isSome then some path else store.path) = some path := by
  cases given with
  | some text => rfl
  | none => exact target

/-- A start without a path watches the file of the store; with a path it makes that the file. -/
theorem change_startWatch
    (store : Store)
    (occasion : Occasion)
    (given : Option String)
    (request : occasion.request = .startWatch given) :
    Change store occasion (store.startWatch given occasion.watcher).1 := by
  unfold startWatch
  split
  next path target free =>
    rw [path_of_pathToWatch store given path target]
    dsimp only
    cases answer : occasion.watcher (Watch.ofPath path) with
    | ok _ => exact .started given path request target free answer
    | error reason => exact .unwatched given path reason request target free answer
  next =>
    exact .settled store.active (by rw [request]; rfl) (by rw [Occasion.loads?, request])

/-- What a call makes of a store. -/
theorem change_call (store : Store) (occasion : Occasion) :
    Change store occasion (store.call occasion).after := by
  have reloaded
      (calm : occasion.request.isCalm = true)
      (noLoad : occasion.loads? = none) :
      Change store occasion (store.reload occasion.files occasion.environment).1 := by
    rcases reload_eq store occasion.files occasion.environment with ⟨active, same⟩
    rw [same]
    exact .settled active calm noLoad
  unfold call
  cases request : occasion.request with
  | load path =>
      dsimp only [Store.load]
      cases result : Settings.load occasion.files occasion.environment path with
      | ok settings =>
          refine .loaded path settings request ?_
          rw [Occasion.loads?, request]
          simp only [result, Except.toOption, Option.map_some]
      | error cause =>
          refine .settled store.active (by rw [request]; rfl) ?_
          rw [Occasion.loads?, request]
          simp only [result, Except.toOption, Option.map_none]
  | loadDefaults =>
      have settled (active : Option Settings) : Change store occasion { store with active } :=
        .settled active (by rw [request]; rfl) (by rw [Occasion.loads?, request])
      dsimp only [Store.loadDefaults]
      cases ofEnvironment occasion.environment with
      | ok settings => exact settled (some settings)
      | error cause => exact settled store.active
  | reload => exact reloaded (by rw [request]; rfl) (by rw [Occasion.loads?, request])
  | notice name event =>
      dsimp only [Store.notice]
      split
      next => exact reloaded (by rw [request]; rfl) (by rw [Occasion.loads?, request])
      next =>
        exact .settled store.active (by rw [request]; rfl) (by rw [Occasion.loads?, request])
  | subscribe subscriber => exact .subscribed subscriber request
  | unsubscribe name => exact .unsubscribed name request
  | startWatch given => exact change_startWatch store occasion given request
  | stopWatch => exact .stopped request
  | find | check =>
      exact .settled store.active (by rw [request]; rfl) (by rw [Occasion.loads?, request])

/-! ## Calls in a row -/

/-- The calls that occasions make, one after the other. -/
def calls (store : Store) : List Occasion → List Call
  | [] => []
  | occasion :: rest => store.call occasion :: calls (store.call occasion).after rest

/-- The store after occasions. -/
def afterAll (store : Store) (occasions : List Occasion) : Store :=
  occasions.foldl (fun store occasion => (store.call occasion).after) store

@[simp]
theorem calls_cons (store : Store) (occasion : Occasion) (rest : List Occasion) :
    store.calls (occasion :: rest) =
      store.call occasion :: (store.call occasion).after.calls rest :=
  rfl

@[simp]
theorem afterAll_cons (store : Store) (occasion : Occasion) (rest : List Occasion) :
    store.afterAll (occasion :: rest) = (store.call occasion).after.afterAll rest :=
  rfl

/-- Each call of a run is made in the store that the occasions before it left. -/
theorem getElem?_calls
    (store : Store)
    (occasions : List Occasion)
    (index : Nat) :
    (store.calls occasions)[index]? =
      occasions[index]?.map (store.afterAll (occasions.take index)).call := by
  induction occasions generalizing store index with
  | nil => rfl
  | cons occasion rest hypothesis =>
      cases index with
      | zero => rfl
      | succ index => exact hypothesis (store.call occasion).after index

/-- Each call of a run is the one that its occasion makes in the store that it finds. -/
theorem eq_call_of_mem_calls
    (store : Store)
    (occasions : List Occasion)
    (one : Call)
    (member : one ∈ store.calls occasions) :
    one = one.before.call one.occasion := by
  induction occasions generalizing store with
  | nil => cases member
  | cons occasion rest hypothesis =>
      rcases List.mem_cons.1 member with rfl | later
      · rw [before_call, occasion_call]
      · exact hypothesis _ later

end Store

end TimedText.Settings
