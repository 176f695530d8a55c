import TimedText.Proofs.Settings.Attempt

/-!
# The file that a watch reads again

A watch keeps the name of the file that it was started for, and the store keeps the path of the file
that it reads again.  Starting a watch makes the two agree.  From then on only a load can part them:
it puts its own path into the store and leaves the watch as it is.  So an event of the watched file
makes the store read that file up to the first load of another one, and from then on the file that
was loaded last.
-/

namespace TimedText.Settings

namespace Store

/-! ## What a call does to the watch and the path -/

/--
An occasion starts a watch for a path: there is none yet, the path is what it asks for, and the
watcher can watch it.
-/
structure Starts (store : Store) (occasion : Occasion) (path : Path) : Prop where
  asked : ∃ given, occasion.request = .startWatch given ∧ store.pathToWatch given = some path
  free : store.watch = none
  runs : occasion.watcher (Watch.ofPath path) = .ok ()

/-- A watch that starts is over its path, and the store reads that path. -/
theorem aim_of_starts
    (store : Store)
    (occasion : Occasion)
    (path : Path)
    (starts : store.Starts occasion path) :
    (store.call occasion).after.watch = some (Watch.ofPath path) ∧
      (store.call occasion).after.path = some path := by
  rcases starts.asked with ⟨given, request, target⟩
  simp only [call, request, startWatch, target, starts.free, starts.runs]
  exact ⟨trivial, path_of_pathToWatch store given path target⟩

/-- A call that does not stop the watch leaves it, and only a load moves the path meanwhile. -/
theorem aim_call
    (store : Store)
    (occasion : Occasion)
    (watch : Watch)
    (watched : store.watch = some watch)
    (noStop : occasion.request ≠ .stopWatch) :
    (store.call occasion).after.watch = some watch ∧
      (store.call occasion).after.path = occasion.loads?.or store.path := by
  have change := change_call store occasion
  generalize (store.call occasion).after = after at change ⊢
  cases change with
  | loaded path settings _ loads => exact ⟨watched, by rw [loads]; rfl⟩
  | subscribed subscriber request => exact ⟨watched, by rw [Occasion.loads?, request]; rfl⟩
  | unsubscribed name request => exact ⟨watched, by rw [Occasion.loads?, request]; rfl⟩
  | started given path _ _ free => rw [free] at watched; cases watched
  | unwatched given path _ _ _ free => rw [free] at watched; cases watched
  | stopped request => exact (noStop request).elim
  | settled active _ noLoad => exact ⟨watched, by rw [noLoad]; rfl⟩

/-- A watch after a call was started by the call, or was there before and was not stopped. -/
theorem starts_or_watched
    (store : Store)
    (occasion : Occasion)
    (watched : (store.call occasion).after.watch.isSome = true) :
    (∃ path, store.Starts occasion path) ∨
      store.watch.isSome = true ∧ occasion.request ≠ .stopWatch := by
  have change := change_call store occasion
  generalize (store.call occasion).after = after at change watched
  cases change with
  | loaded path settings request => exact .inr ⟨watched, by simp [request]⟩
  | subscribed subscriber request => exact .inr ⟨watched, by simp [request]⟩
  | unsubscribed name request => exact .inr ⟨watched, by simp [request]⟩
  | started given path request target free runs =>
      exact .inl ⟨path, ⟨given, request, target⟩, free, runs⟩
  | unwatched given path _ _ _ free => rw [free] at watched; cases watched
  | stopped request => cases watched
  | settled active calm =>
      refine .inr ⟨watched, fun stop => ?_⟩
      rw [stop] at calm
      cases calm

/-! ## The watch in force -/

/-- The path of the last file that occasions load with success. -/
def lastLoaded? (occasions : List Occasion) : Option Path :=
  (occasions.filterMap Occasion.loads?).getLast?

theorem lastLoaded?_append_singleton (occasions : List Occasion) (occasion : Occasion) :
    lastLoaded? (occasions ++ [occasion]) = occasion.loads?.or (lastLoaded? occasions) := by
  rw [lastLoaded?, List.filterMap_append, List.getLast?_append, lastLoaded?]
  cases loads : occasion.loads? <;> simp [loads]

theorem afterAll_append_singleton
    (store : Store)
    (occasions : List Occasion)
    (occasion : Occasion) :
    store.afterAll (occasions ++ [occasion]) =
      ((store.afterAll occasions).call occasion).after := by
  simp [afterAll]

/--
A watch over a path is in force after a run of a new store: one of the occasions started it, and
none of those since has stopped it.
-/
inductive Watching :
    (occasions : List Occasion) → (path : Path) → (since : List Occasion) → Prop where
  | began
      (earlier : List Occasion)
      (start : Occasion)
      (path : Path)
      (starts : (({} : Store).afterAll earlier).Starts start path) :
      Watching (earlier ++ [start]) path []
  | continued
      (occasions : List Occasion)
      (path : Path)
      (since : List Occasion)
      (occasion : Occasion)
      (watching : Watching occasions path since)
      (noStop : occasion.request ≠ .stopWatch) :
      Watching (occasions ++ [occasion]) path (since ++ [occasion])

/-- The watch is over the path it began with, and the store reads what was loaded since, or that. -/
theorem aim_of_watching
    (occasions : List Occasion)
    (path : Path)
    (since : List Occasion)
    (watching : Watching occasions path since) :
    (({} : Store).afterAll occasions).watch = some (Watch.ofPath path) ∧
      (({} : Store).afterAll occasions).path = some ((lastLoaded? since).getD path) := by
  induction watching with
  | began earlier start path starts =>
      rw [afterAll_append_singleton]
      exact aim_of_starts _ start path starts
  | continued occasions path since occasion watching noStop hypothesis =>
      rcases aim_call _ occasion _ hypothesis.1 noStop with ⟨onWatch, onPath⟩
      rw [afterAll_append_singleton, lastLoaded?_append_singleton]
      refine ⟨onWatch, ?_⟩
      rw [onPath, hypothesis.2]
      cases occasion.loads? <;> rfl

/-- There is a watch just if one was started and has not been stopped since. -/
theorem watch_isSome_iff (occasions : List Occasion) :
    (({} : Store).afterAll occasions).watch.isSome = true ↔
      ∃ path since, Watching occasions path since := by
  constructor
  · induction occasions using List.reverseRecOn with
    | nil => intro watched; cases watched
    | append_singleton earlier occasion hypothesis =>
        intro watched
        rw [afterAll_append_singleton] at watched
        rcases starts_or_watched _ occasion watched with ⟨path, starts⟩ | ⟨before, noStop⟩
        · exact ⟨path, [], .began earlier occasion path starts⟩
        · rcases hypothesis before with ⟨path, since, watching⟩
          exact ⟨path, _, .continued earlier path since occasion watching noStop⟩
  · rintro ⟨path, since, watching⟩
    rw [(aim_of_watching occasions path since watching).1]
    rfl

/-! ## Events of the watched file -/

/-- The occasion of an event that the watch over a path sees: the file itself is modified. -/
def modification (files : FileTree) (environment : Environment) (path : Path) : Occasion :=
  { files, environment, request := .notice (Watch.ofPath path).name { path } }

/-- What an event of a watched file brings into force. -/
theorem active_modification
    (store : Store)
    (files : FileTree)
    (environment : Environment)
    (path target : Path)
    (known : store.path = some target) :
    (store.call (modification files environment path)).after.active =
      (reread files environment target).toOption.or store.active := by
  rw [active_call]
  unfold Call.loaded?
  rw [before_call, occasion_call]
  simp [modification, attempt?, Modification.concerns, Watch.ofPath, known]

/--
An event of the watched file makes the store read a file again: the one that was loaded last since
the watch began, or the watched file itself if none was loaded.  What that file holds is in force
afterwards, and nothing changes if it holds nothing valid.  So the watched file is the one that is
read again just as long as no other file has been loaded since the watch began.
-/
theorem watched_file_is_read_again (occasions : List Occasion) :
    let store := ({} : Store).afterAll occasions
    (store.watch.isSome = true ↔ ∃ path since, Watching occasions path since) ∧
      ∀ path since,
        Watching occasions path since →
          store.watch = some (Watch.ofPath path) ∧
            ∀ files environment,
              let after := (store.call (modification files environment path)).after
              after.active =
                  (reread files environment ((lastLoaded? since).getD path)).toOption.or
                    store.active ∧
                ((∀ occasion ∈ since, ∀ other, occasion.loads? = some other → other = path) →
                  ∀ settings,
                    reread files environment path = .ok settings →
                      after.active = some settings) := by
  intro store
  refine ⟨watch_isSome_iff occasions, fun path since watching => ?_⟩
  rcases aim_of_watching occasions path since watching with ⟨onWatch, onPath⟩
  refine ⟨onWatch, fun files environment => ?_⟩
  have inForce := active_modification store files environment path _ onPath
  refine ⟨inForce, fun noOther settings valid => ?_⟩
  have same : (lastLoaded? since).getD path = path := by
    cases last : lastLoaded? since with
    | none => rfl
    | some other =>
        rcases List.mem_filterMap.1 (List.mem_of_getLast? last) with ⟨occasion, member, loads⟩
        exact noOther occasion member other loads
  rw [inForce, same, valid]
  rfl

/-- Two files, each with a place of its own for subtitles. -/
def leftAndRight : FileTree :=
  ⟨[ (["left.yaml"], .file (Encoding.Utf8.encode "decoder: {align: 1}".toList)),
     (["right.yaml"], .file (Encoding.Utf8.encode "decoder: {align: 2}".toList)) ]⟩

/-- The left file is watched from the beginning, and settings of no file are loaded in between. -/
theorem watched_file_is_read_again_of_left :
    let left := Path.ofString "left.yaml"
    let occasions : List Occasion :=
      [{ request := .startWatch (some "left.yaml") }, { request := .loadDefaults }]
    let store := ({} : Store).afterAll occasions
    store.watch = some (Watch.ofPath left) ∧
      store.active = some {} ∧
      (store.call (modification leftAndRight {} left)).after.active =
        some { decoder := { align := .left } } := by
  intro left occasions store
  have watching : Watching occasions left [{ request := .loadDefaults }] := by
    refine .continued [{ request := .startWatch (some "left.yaml") }] left [] _ ?_
      Request.noConfusion
    exact .began [] _ left ⟨⟨_, rfl, rfl⟩, rfl, rfl⟩
  rcases (watched_file_is_read_again occasions).2 left _ watching with ⟨onWatch, events⟩
  refine ⟨onWatch, by decide +kernel, (events leftAndRight {}).2 ?_ _ (by decide +kernel)⟩
  intro occasion member other loads
  rw [List.mem_singleton.1 member] at loads
  cases loads

/-- After the right file has been loaded, an event of the watched left file reads the right one. -/
theorem other_file_is_read_again_of_right :
    let left := Path.ofString "left.yaml"
    let right := Path.ofString "right.yaml"
    let occasions : List Occasion :=
      [ { files := leftAndRight, request := .load left },
        { request := .startWatch none },
        { files := leftAndRight, request := .load right } ]
    let store := ({} : Store).afterAll occasions
    store.watch = some (Watch.ofPath left) ∧
      reread leftAndRight {} left = .ok { decoder := { align := .left } } ∧
      (store.call (modification leftAndRight {} left)).after.active =
        some { decoder := { align := .right } } := by
  decide +kernel

end Store

end TimedText.Settings
