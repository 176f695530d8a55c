import TimedText.Proofs.Settings.Run

/-!
# Attempts to bring settings into force

An attempt fails for many causes: the file is missing or cannot be read, it is not the text of a
mapping, a key is no text, a setting is not valid.  A call whose attempt fails leaves the whole
store as it is and tells no one.  A call whose attempt succeeds puts the new settings into force,
and all other calls leave the settings in force alone.  So these are always the settings of the last
success of the run.

Only those who load settings themselves get to know the cause of a failure.  A reading of the file
again awaits load errors, and no other fault can come up there.
-/

namespace TimedText.Settings

/-! ## What comes of a source -/

/-- A file spells entries: they are what its text stands for. -/
def Spells (files : FileTree) (path : Path) (entries : Entries) : Prop :=
  ∃ bytes value,
    files.read path = .ok bytes ∧ Yaml.read? bytes = some value ∧ entriesOf value = .ok entries

/--
What comes of a source: settings that validation makes of its entries with the environment over
them, or a load error.
-/
inductive Outcome (environment : Environment) (source : Entries → Prop) :
    (result : Except LoadError Settings) → Prop where
  | valid
      (entries : Entries)
      (settings : Settings)
      (given : source entries)
      (checked : validate (environment.override entries) = .ok settings) :
      Outcome environment source (.ok settings)
  | failed
      (cause : LoadError)
      (caught : cause.escapes = false) :
      Outcome environment source (.error cause)

theorem Outcome.imp
    {environment : Environment}
    {source other : Entries → Prop}
    {result : Except LoadError Settings}
    (outcome : Outcome environment source result)
    (weaker : ∀ entries, source entries → other entries) :
    Outcome environment other result := by
  cases outcome with
  | valid entries settings given checked =>
      exact .valid entries settings (weaker entries given) checked
  | failed cause caught => exact .failed cause caught

theorem outcome_ofEntries
    (environment : Environment)
    (source : Entries → Prop)
    (entries : Entries)
    (given : source entries) :
    Outcome environment source (ofEntries environment entries) := by
  unfold ofEntries
  split
  next =>
    cases checked : validate (environment.override entries) with
    | ok settings => exact .valid entries settings given checked
    | error complaints => exact .failed (.invalid complaints) rfl
  next => exact .failed .unreadable rfl

/-- A file that is read again fails with load errors only. -/
theorem outcome_reread (files : FileTree) (environment : Environment) (path : Path) :
    Outcome environment (Spells files path) (reread files environment path) := by
  unfold reread
  split
  next bytes content =>
    unfold ofBytes
    split
    next => exact .failed .unreadable rfl
    next value spelled =>
      have given (entries : Entries) (same : entriesOf value = .ok entries) :
          Outcome environment (Spells files path) (ofEntries environment entries) :=
        outcome_ofEntries _ _ entries ⟨bytes, value, content, spelled, same⟩
      cases value with
      | null => exact given [] rfl
      | mapping entries | shared _ entries => exact given entries rfl
      | bool | int | real | text | garbledText | bytes | date | moment | list | set | loop =>
          exact .failed (.notMapping _) rfl
  next => exact .failed .unreadable rfl

/-- A file that is loaded is read in the same way as later. -/
theorem reread_of_load
    (files : FileTree)
    (environment : Environment)
    (path : Path)
    (settings : Settings)
    (loaded : load files environment path = .ok settings) :
    reread files environment path = .ok settings := by
  unfold load at loaded
  split at loaded
  next => cases loaded
  next => cases loaded
  next => cases loaded
  next => exact loaded

namespace Store

/-! ## Where attempts come from -/

/-- Entries that an occasion may bring: those that its file spells, or none at all. -/
def Brings (store : Store) (occasion : Occasion) (entries : Entries) : Prop :=
  match occasion.request with
  | .load path => Spells occasion.files path entries
  | .loadDefaults => entries = []
  | _ => ∃ path, store.path = some path ∧ Spells occasion.files path entries

/-- Reading the remembered file again comes to what the file spells. -/
theorem outcome_of_reading
    (store : Store)
    (occasion : Occasion)
    (result : Except LoadError Settings)
    (read : store.path.map (reread occasion.files occasion.environment) = some result) :
    Outcome occasion.environment
      (fun entries => ∃ path, store.path = some path ∧ Spells occasion.files path entries)
      result := by
  rcases Option.map_eq_some_iff.1 read with ⟨path, known, rfl⟩
  exact (outcome_reread _ _ path).imp fun entries spelled => ⟨path, known, spelled⟩

/-- An attempt loads a file, which may be out of reach, or comes to the entries that it brings. -/
theorem outcome_of_attempt
    (store : Store)
    (occasion : Occasion)
    (result : Except LoadError Settings)
    (attempted : store.attempt? occasion = some result) :
    (∃ path, occasion.request = .load path ∧
        result = Settings.load occasion.files occasion.environment path) ∨
      Outcome occasion.environment (store.Brings occasion) result := by
  unfold attempt? at attempted
  unfold Brings
  dsimp only at attempted
  split at attempted
  next path request => exact .inl ⟨path, request, (Option.some_inj.1 attempted).symm⟩
  next request =>
    rw [request, ← Option.some_inj.1 attempted]
    exact .inr (outcome_ofEntries _ _ [] rfl)
  next request =>
    rw [request]
    exact .inr (outcome_of_reading store occasion result attempted)
  next name event request =>
    split at attempted
    next =>
      rw [request]
      exact .inr (outcome_of_reading store occasion result attempted)
    next => cases attempted
  next => cases attempted

/-- What an attempt brings into force is what validation makes of the entries that it brings. -/
theorem validated_of_attempt
    (store : Store)
    (occasion : Occasion)
    (settings : Settings)
    (attempted : store.attempt? occasion = some (.ok settings)) :
    ∃ entries,
      store.Brings occasion entries ∧
        validate (occasion.environment.override entries) = .ok settings := by
  have source : Outcome occasion.environment (store.Brings occasion) (.ok settings) := by
    rcases outcome_of_attempt store occasion _ attempted with ⟨path, request, loaded⟩ | outcome
    -- A file that is loaded can be out of reach, but it has been read here.
    · unfold Brings
      rw [request, ← reread_of_load _ _ path settings loaded.symm]
      exact outcome_reread _ _ path
    · exact outcome
  cases source with
  | valid entries _ given checked => exact ⟨entries, given, checked⟩

/-- No fault gets past a reading of the file again. -/
theorem uncaught?_eq_none
    (store : Store)
    (occasion : Occasion)
    (apart : occasion.request.isLoad = false) :
    store.uncaught? occasion = none := by
  unfold uncaught?
  split
  next cause attempted =>
    rcases outcome_of_attempt store occasion _ attempted with ⟨path, request, -⟩ | outcome
    · simp [request, Request.isLoad] at apart
    · cases outcome with
      | failed _ caught => simp [caught]
  next => rfl

/-! ## One call -/

/-- What a request makes of its attempt: the store that it leaves, and who is told. -/
inductive Effect (store : Store) :
    (attempt : Option (Except LoadError Settings)) →
    (after : Store) →
    (told : List Delivery) →
    Prop where
  | failed (cause : LoadError) : Effect store (some (.error cause)) store []
  | succeeded
      (settings : Settings)
      (after : Store)
      (told : List Delivery)
      (inForce : after.active = some settings) :
      Effect store (some (.ok settings)) after told
  | apart
      (after : Store)
      (inForce : after.active = store.active) :
      Effect store none after []

/-- The effect of reading the file again. -/
theorem effect_reload
    (store : Store)
    (files : FileTree)
    (environment : Environment) :
    Effect store (store.path.map (reread files environment))
      (store.reload files environment).1 (store.reload files environment).2 := by
  unfold reload
  cases store.path with
  | none => exact .apart store rfl
  | some path =>
      dsimp only [Option.map_some]
      cases reread files environment path with
      | error cause => exact .failed cause
      | ok settings => exact .succeeded settings _ _ rfl

/-- The effect of a call. -/
theorem effect_call (store : Store) (occasion : Occasion) :
    Effect store (store.attempt? occasion)
      (store.call occasion).after (store.call occasion).told := by
  unfold attempt? call
  dsimp only
  cases occasion.request with
  | load path =>
      dsimp only [Store.load]
      cases Settings.load occasion.files occasion.environment path with
      | error cause => exact .failed cause
      | ok settings => exact .succeeded settings _ _ rfl
  | loadDefaults =>
      dsimp only [Store.loadDefaults]
      cases ofEnvironment occasion.environment with
      | error cause => exact .failed cause
      | ok settings => exact .succeeded settings _ _ rfl
  | reload => exact effect_reload store occasion.files occasion.environment
  | notice name event =>
      dsimp only [Store.notice]
      split
      next => exact effect_reload store occasion.files occasion.environment
      next => exact .apart store rfl
  | startWatch given =>
      dsimp only [Store.startWatch]
      split
      next path _ _ => cases occasion.watcher (Watch.ofPath path) <;> exact .apart _ rfl
      next => exact .apart _ rfl
  | find | check | subscribe | unsubscribe | stopWatch => exact .apart _ rfl

/-- Who makes a request gets to know a failure of it just if the request loads settings. -/
theorem raised_call_eq_some (store : Store) (occasion : Occasion) (cause : LoadError) :
    (store.call occasion).raised = some cause ↔
      occasion.request.isLoad = true ∧ store.attempt? occasion = some (.error cause) := by
  have uncaught := uncaught?_eq_none store occasion
  unfold attempt? call Call.raised
  cases request : occasion.request with
  | load path =>
      dsimp only [Store.load]
      cases Settings.load occasion.files occasion.environment path <;> simp [Request.isLoad]
  | loadDefaults =>
      dsimp only [Store.loadDefaults]
      cases ofEnvironment occasion.environment <;> simp [Request.isLoad]
  | reload =>
      simp [uncaught (by rw [request]; rfl), Request.isLoad]
  | notice name event =>
      simp [uncaught (by rw [request]; rfl), Request.isLoad]
  | find | check | subscribe | unsubscribe | startWatch | stopWatch => simp [Request.isLoad]

/-! ## Calls in a row -/

/-- The settings in force after a call: those that it brings, or those before. -/
theorem active_call (store : Store) (occasion : Occasion) :
    (store.call occasion).after.active = (store.call occasion).loaded?.or store.active := by
  have effect := effect_call store occasion
  unfold Call.loaded?
  rw [before_call, occasion_call]
  generalize
    store.attempt? occasion = attempt,
    (store.call occasion).after = after,
    (store.call occasion).told = told at effect ⊢
  cases effect with
  | failed cause => rfl
  | succeeded settings _ _ inForce => exact inForce
  | apart _ inForce => exact inForce

/-- The settings in force after a run are those that its last success brings. -/
theorem active_afterAll (store : Store) (occasions : List Occasion) :
    (store.afterAll occasions).active =
      ((store.calls occasions).filterMap Call.loaded?).getLast?.or store.active := by
  induction occasions generalizing store with
  | nil => rfl
  | cons occasion rest hypothesis =>
      rw [afterAll_cons, calls_cons, hypothesis, active_call, List.filterMap_cons]
      cases (store.call occasion).loaded? with
      | none => rfl
      | some settings => simp [List.getLast?_cons]

/-! ## The whole of a run -/

/--
A failure changes nothing.  In a run of a new store, a call whose attempt fails leaves the store as
it is and tells no one, and only who asked for a load gets to know the cause.  The settings in force
are those of the last success: what validation made of the entries of its file, or of none, with the
environment of its time over them.  Before the first success, and only then, there are none.
-/
theorem failures_change_nothing (occasions : List Occasion) :
    (∀ call ∈ ({} : Store).calls occasions,
      (∀ cause,
        call.before.attempt? call.occasion = some (.error cause) →
          call.after = call.before ∧ call.told = []) ∧
      (∀ cause,
        call.raised = some cause ↔
          call.occasion.request.isLoad = true ∧
            call.before.attempt? call.occasion = some (.error cause)) ∧
      (∀ settings,
        call.loaded? = some settings →
          ∃ entries,
            call.before.Brings call.occasion entries ∧
              validate (call.occasion.environment.override entries) = .ok settings)) ∧
    (({} : Store).afterAll occasions).active =
      ((({} : Store).calls occasions).filterMap Call.loaded?).getLast? ∧
    ((({} : Store).afterAll occasions).active = none ↔
      ∀ call ∈ ({} : Store).calls occasions, call.loaded? = none) := by
  have last :
      (({} : Store).afterAll occasions).active =
        ((({} : Store).calls occasions).filterMap Call.loaded?).getLast? := by
    rw [active_afterAll, Option.or_none]
  refine ⟨fun call member => ?_, last, ?_⟩
  · have made := eq_call_of_mem_calls _ occasions call member
    refine ⟨fun cause failed => ?_, fun cause => ?_, fun settings loaded => ?_⟩
    · have effect := effect_call call.before call.occasion
      rw [failed, ← made] at effect
      generalize call.after = after, call.told = told at effect
      cases effect with
      | failed => exact ⟨rfl, rfl⟩
    · have raised := raised_call_eq_some call.before call.occasion cause
      rwa [← made] at raised
    · rcases Option.bind_eq_some_iff.1 loaded with ⟨result, attempted, success⟩
      cases result with
      | error cause => cases success
      | ok _ =>
          cases success
          exact validated_of_attempt call.before call.occasion settings attempted
  · rw [last, List.getLast?_eq_none_iff, List.filterMap_eq_nil_iff]

/-- A run whose file is missing at first, then empty, and garbled when it is read again. -/
def garbledLater : List Occasion :=
  let path := Path.ofString "settings.yaml"
  let before : FileTree := ⟨[(["settings.yaml"], .file [])]⟩
  let garbled : FileTree := ⟨[(["settings.yaml"], .file [0xFF])]⟩
  [ { request := .load path },
    { files := before, request := .load path },
    { request := .subscribe { name := "viewer" } },
    { request := .startWatch none },
    { files := garbled, request := .notice "settings.yaml" { path } } ]

/-- The garbled file leaves the viewer and the settings of the empty file alone. -/
theorem failures_change_nothing_of_garbled_file :
    ∃ call ∈ ({} : Store).calls garbledLater,
      call.before.subscribers = [{ name := "viewer" }] ∧
        call.before.active = some {} ∧
        call.before.attempt? call.occasion = some (.error .unreadable) ∧
        call.after = call.before ∧
        call.told = [] := by
  have last :
      ∃ call ∈ ({} : Store).calls garbledLater,
        call.before.subscribers = [{ name := "viewer" }] ∧
          call.before.active = some {} ∧
          call.before.attempt? call.occasion = some (.error .unreadable) := by
    refine ⟨_, List.getLast_mem (l := ({} : Store).calls garbledLater) (by decide +kernel), ?_⟩
    decide +kernel
  rcases last with ⟨call, member, viewer, inForce, failed⟩
  have unchanged := (failures_change_nothing garbledLater).1 call member
  exact ⟨call, member, viewer, inForce, failed, unchanged.1 _ failed⟩

end Store

end TimedText.Settings
