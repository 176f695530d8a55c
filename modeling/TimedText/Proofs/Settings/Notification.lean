import TimedText.Proofs.Settings.Attempt

/-!
# Telling subscribers about new settings

A reading of the file again that succeeds while there are settings tells every registration, once
and in order, about the settings before and after.  Who fails is set down; the others are told all
the same, and the new settings stay in force.  Nothing else tells anyone.

Who is registered depends on the requests alone: each registration goes to the end, and a removal
takes the earliest registration of its name.
-/

namespace TimedText.Settings

/-! ## The telling of a row of subscribers -/

/-- Everyone is told, whoever fails. -/
theorem told_tellFrom (old new : Settings) (number : Nat) (subscribers : List Subscriber) :
    (tellFrom old new number subscribers).1 =
      subscribers.map fun subscriber => { subscriber, old, new } := by
  induction subscribers generalizing number with
  | nil => rfl
  | cons subscriber rest hypothesis =>
      rw [tellFrom, List.map_cons, ← hypothesis (number + 1)]
      cases subscriber.hear old new with
      | ok _ => rfl
      | error _ => rfl

namespace Store

/-! ## Who is registered -/

/-- The registrations that a request makes of those before it. -/
def Request.register (registrations : List Subscriber) : Request → List Subscriber
  | .subscribe subscriber => registrations ++ [subscriber]
  | .unsubscribe name => registrations.eraseP fun subscriber => subscriber.name == name
  | _ => registrations

/-- The registrations that occasions leave behind in a new store. -/
def registered (occasions : List Occasion) : List Subscriber :=
  occasions.foldl (fun registrations occasion => occasion.request.register registrations) []

/-- What becomes of registrations on a request. -/
inductive Registers : Request → (before after : List Subscriber) → Prop where
  | added
      (subscriber : Subscriber)
      (registrations : List Subscriber) :
      Registers (.subscribe subscriber) registrations (registrations ++ [subscriber])
  | removed
      (subscriber : Subscriber)
      (earlier later : List Subscriber)
      (earliest : ∀ other ∈ earlier, other.name ≠ subscriber.name) :
      Registers (.unsubscribe subscriber.name) (earlier ++ subscriber :: later) (earlier ++ later)
  | absent
      (name : String)
      (registrations : List Subscriber)
      (unknown : ∀ other ∈ registrations, other.name ≠ name) :
      Registers (.unsubscribe name) registrations registrations
  | apart
      (request : Request)
      (registrations : List Subscriber)
      (noRegistration : ∀ subscriber, request ≠ .subscribe subscriber)
      (noRemoval : ∀ name, request ≠ .unsubscribe name) :
      Registers request registrations registrations

/-- A registration is put at the end, a removal takes the earliest of its name if there is one. -/
theorem registers_register (request : Request) (registrations : List Subscriber) :
    Registers request registrations (request.register registrations) := by
  cases request with
  | subscribe subscriber => exact .added subscriber registrations
  | unsubscribe name =>
      by_cases known : ∃ subscriber ∈ registrations, subscriber.name = name
      · rcases known with ⟨known, member, named⟩
        rcases List.exists_of_eraseP (p := fun subscriber => subscriber.name == name) member
            (beq_iff_eq.2 named) with
          ⟨subscriber, earlier, later, earliest, same, before, after⟩
        rw [Request.register, after, before, ← beq_iff_eq.1 same]
        refine .removed subscriber earlier later fun other present equal => ?_
        exact earliest other present (beq_iff_eq.2 (equal.trans (beq_iff_eq.1 same)))
      · have unknown : ∀ other ∈ registrations, other.name ≠ name :=
          fun other member named => known ⟨other, member, named⟩
        rw [Request.register, List.eraseP_of_forall_not (by simpa using unknown)]
        exact .absent name registrations unknown
  | load | loadDefaults | reload | notice | find | check | startWatch | stopWatch =>
      exact .apart _ registrations (by simp) (by simp)

theorem register_of_isCalm
    (request : Request)
    (registrations : List Subscriber)
    (calm : request.isCalm = true) :
    request.register registrations = registrations := by
  cases request with
  | subscribe | unsubscribe | stopWatch => cases calm
  | load | loadDefaults | reload | notice | find | check | startWatch => rfl

/-- The registrations after a call are what its request makes of those before. -/
theorem subscribers_call (store : Store) (occasion : Occasion) :
    (store.call occasion).after.subscribers = occasion.request.register store.subscribers := by
  have change := change_call store occasion
  generalize (store.call occasion).after = after at change ⊢
  cases change with
  | loaded path settings request => rw [request]; rfl
  | subscribed subscriber request => rw [request]; rfl
  | unsubscribed name request => rw [request]; rfl
  | started given path request => rw [request]; rfl
  | unwatched given path reason request => rw [request]; rfl
  | stopped request => rw [request]; rfl
  | settled active calm => exact (register_of_isCalm _ _ calm).symm

/-- The registrations after a run are what its requests make of those before. -/
theorem subscribers_afterAll (store : Store) (occasions : List Occasion) :
    (store.afterAll occasions).subscribers =
      occasions.foldl (fun registrations occasion => occasion.request.register registrations)
        store.subscribers := by
  induction occasions generalizing store with
  | nil => rfl
  | cons occasion rest hypothesis =>
      rw [afterAll_cons, hypothesis, subscribers_call, List.foldl_cons]

/-! ## Who is told -/

/-- Whom an attempt to read the file again tells, and about what. -/
inductive Tells (store : Store) :
    (attempt : Option (Except LoadError Settings)) → (told : List Delivery) → Prop where
  | all
      (old new : Settings)
      (inForce : store.active = some old) :
      Tells store (some (.ok new))
        (store.subscribers.map fun subscriber => { subscriber, old, new })
  | first
      (new : Settings)
      (nothing : store.active = none) :
      Tells store (some (.ok new)) []
  | failed (cause : LoadError) : Tells store (some (.error cause)) []
  | apart : Tells store none []

theorem tells_reload (store : Store) (files : FileTree) (environment : Environment) :
    Tells store (store.path.map (reread files environment))
      (store.reload files environment).2 := by
  unfold reload
  cases store.path with
  | none => exact .apart
  | some path =>
      dsimp only [Option.map_some]
      cases reread files environment path with
      | error cause => exact .failed cause
      | ok new =>
          cases inForce : store.active with
          | none => exact .first new inForce
          | some old =>
              have told := Tells.all old new inForce
              rwa [← told_tellFrom old new 1] at told

/-- Whom a request that does not load settings tells. -/
theorem tells_call
    (store : Store)
    (occasion : Occasion)
    (noLoad : occasion.request.isLoad = false) :
    Tells store (store.attempt? occasion) (store.call occasion).told := by
  unfold attempt? call
  dsimp only
  cases request : occasion.request with
  | load | loadDefaults => rw [request] at noLoad; cases noLoad
  | reload => exact tells_reload store occasion.files occasion.environment
  | notice name event =>
      dsimp only [Store.notice]
      split
      next => exact tells_reload store occasion.files occasion.environment
      next => exact .apart
  | find | check | subscribe | unsubscribe | startWatch | stopWatch => exact .apart

/-- A request that loads settings tells no one. -/
theorem told_call_of_isLoad
    (store : Store)
    (occasion : Occasion)
    (load : occasion.request.isLoad = true) :
    (store.call occasion).told = [] := by
  unfold call
  cases request : occasion.request with
  | load | loadDefaults => rfl
  | reload | notice | find | check | subscribe | unsubscribe | startWatch | stopWatch =>
      simp [request, Request.isLoad] at load

/-! ## The whole of a run -/

/--
A reading of the file again that succeeds while there are settings tells all who are registered at
that time, once for each registration and in their order, whoever of them fails: about the settings
before and about the new ones, which are in force afterwards.  Who is registered is what the
requests before say: a registration goes to the end, a removal takes the earliest of its name.
Loads, failures, and a first success without settings before it tell no one.
-/
theorem reloads_tell_all_registrations (occasions : List Occasion) :
    (({} : Store).afterAll occasions).subscribers = registered occasions ∧
      ∀ index call,
        (({} : Store).calls occasions)[index]? = some call →
          call.before.subscribers = registered (occasions.take index) ∧
            Registers call.occasion.request call.before.subscribers call.after.subscribers ∧
            (∀ old new,
              call.occasion.request.isLoad = false →
                call.before.active = some old →
                call.loaded? = some new →
                  call.told =
                      call.before.subscribers.map (fun subscriber => { subscriber, old, new }) ∧
                    call.after.active = some new) ∧
            (call.occasion.request.isLoad = true ∨
                call.loaded? = none ∨
                call.before.active = none →
              call.told = []) := by
  refine ⟨subscribers_afterAll {} occasions, fun index call found => ?_⟩
  rw [getElem?_calls] at found
  rcases Option.map_eq_some_iff.1 found with ⟨occasion, -, rfl⟩
  generalize reached : ({} : Store).afterAll (occasions.take index) = store
  have active := active_call store occasion
  unfold Call.loaded? at active ⊢
  rw [before_call, occasion_call] at active ⊢
  refine ⟨?_, ?_, fun old new noLoad inForce success => ?_, fun quiet => ?_⟩
  · rw [← reached]
    exact subscribers_afterAll {} (occasions.take index)
  · rw [subscribers_call]
    exact registers_register occasion.request store.subscribers
  · rw [success] at active
    refine ⟨?_, active⟩
    have tells := tells_call store occasion noLoad
    generalize store.attempt? occasion = attempt, (store.call occasion).told = told
      at tells success ⊢
    cases tells with
    | all _ _ other =>
        cases success
        cases inForce.symm.trans other
        rfl
    | first _ nothing => rw [nothing] at inForce; cases inForce
    | failed cause => cases success
    | apart => cases success
  · cases load : occasion.request.isLoad with
    | true => exact told_call_of_isLoad store occasion load
    | false =>
        have tells := tells_call store occasion load
        generalize store.attempt? occasion = attempt, (store.call occasion).told = told
          at tells quiet ⊢
        cases tells with
        | all old new inForce => simp [load, inForce, Except.toOption] at quiet
        | first | failed | apart => rfl

/-- Three registrations are left when the file is read again, and the first of them fails. -/
def failingClock : List Occasion :=
  let path := Path.ofString "settings.yaml"
  let files : FileTree := ⟨[(["settings.yaml"], .file [])]⟩
  let environment : Environment := ⟨[("SUBSDEC_DECODER_ALIGN", "2")]⟩
  [ { files, request := .load path },
    { request := .subscribe { name := "viewer" } },
    { request := .subscribe { name := "clock", broken := true } },
    { request := .subscribe { name := "viewer" } },
    { request := .subscribe { name := "viewer" } },
    { request := .unsubscribe "viewer" },
    { files, environment, request := .reload } ]

/-- The clock and the two registrations of the viewer that are left are told. -/
theorem reloads_tell_all_registrations_of_failingClock :
    ∃ call,
      (({} : Store).calls failingClock)[6]? = some call ∧
        call.told =
          [ { subscriber := { name := "clock", broken := true },
              old := {},
              new := { decoder := { align := .right } } },
            { subscriber := { name := "viewer" },
              old := {},
              new := { decoder := { align := .right } } },
            { subscriber := { name := "viewer" },
              old := {},
              new := { decoder := { align := .right } } } ] ∧
        call.after.active = some { decoder := { align := .right } } := by
  rcases reloads_tell_all_registrations failingClock with ⟨-, each⟩
  have found :
      (({} : Store).calls failingClock)[6]? =
        some
          ((({} : Store).afterAll (failingClock.take 6)).call
            { files := ⟨[(["settings.yaml"], .file [])]⟩,
              environment := ⟨[("SUBSDEC_DECODER_ALIGN", "2")]⟩,
              request := .reload }) := by
    rw [getElem?_calls]
    rfl
  rcases each 6 _ found with ⟨registrations, -, told, -⟩
  rcases told {} { decoder := { align := .right } } rfl (by decide +kernel) (by decide +kernel) with
    ⟨all, inForce⟩
  refine ⟨_, found, ?_, inForce⟩
  rw [all, registrations]
  decide +kernel

end Store

end TimedText.Settings
