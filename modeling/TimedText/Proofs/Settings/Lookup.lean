import Mathlib
import TimedText.Settings.Lookup

/-!
# What dotted keys lead to

The settings have places: they themselves, their two sections, and the nine settings in these.  The
names on the way to a place, with full stops between them, are a key of it, and the key is looked up
there whatever parts values have.

Every other key leaves the places somewhere: it has a first name that is not the name of anything in
the place reached so far.  From there on it is up to the parts of values.  So all other keys lead
nowhere exactly if no place has a part beside what is set in it.  A whole number has such parts.
-/

namespace TimedText.Settings

/-! ## Keys and their names -/

/-- Names as one key, with full stops between them. -/
def dotted (names : List String) : String :=
  ".".intercalate names

theorem splitKey_eq_splitOn (key : List Char) : splitKey key = key.splitOn '.' := by
  fun_induction splitKey key with
  | case1 => rfl
  | case2 rest hypothesis => rw [List.splitOn_cons_eq_if_modifyHead, ← hypothesis, if_pos (by rfl)]
  | case3 char rest other first others parted hypothesis =>
      rw [List.splitOn_cons_eq_if_modifyHead, ← hypothesis, parted, if_neg (by simpa using other)]
      rfl
  | case4 char rest other parted hypothesis =>
      exact absurd (hypothesis.symm.trans parted) (List.splitOn_ne_nil _ _)

theorem keyNames_ne_nil (key : String) : keyNames key ≠ [] := by
  rw [keyNames, splitKey_eq_splitOn, ne_eq, List.map_eq_nil_iff]
  exact List.splitOn_ne_nil _ _

/-- No part of a key has a full stop in it. -/
theorem notMem_of_mem_splitKey (key : List Char) : ∀ part ∈ splitKey key, '.' ∉ part := by
  fun_induction splitKey key with
  | case1 => simp
  | case2 rest hypothesis =>
      rw [List.forall_mem_cons]
      exact ⟨List.not_mem_nil, hypothesis⟩
  | case3 char rest other first others parted hypothesis =>
      rw [parted, List.forall_mem_cons] at hypothesis
      rw [List.forall_mem_cons, List.mem_cons, not_or]
      exact ⟨⟨fun same => other same.symm, hypothesis.1⟩, hypothesis.2⟩
  | case4 char rest other parted hypothesis => simpa using fun same => other same.symm

theorem notMem_of_mem_keyNames
    (key name : String)
    (among : name ∈ keyNames key) :
    '.' ∉ name.toList := by
  rcases List.mem_map.1 among with ⟨part, member, rfl⟩
  rw [String.toList_ofList]
  exact notMem_of_mem_splitKey _ part member

/-- A key is its names with full stops between them. -/
theorem dotted_keyNames (key : String) : dotted (keyNames key) = key := by
  apply String.toList_inj.1
  rw [dotted, String.toList_intercalate, keyNames, List.map_map, splitKey_eq_splitOn]
  simp only [Function.comp_def, String.toList_ofList, List.map_id']
  exact List.intercalate_splitOn '.'

/-- Names without full stops are the names of their key. -/
theorem keyNames_dotted
    (names : List String)
    (nonempty : names ≠ [])
    (whole : ∀ name ∈ names, '.' ∉ name.toList) :
    keyNames (dotted names) = names := by
  have parted : (names.map String.toList) = splitKey (dotted names).toList := by
    rw [splitKey_eq_splitOn, dotted, String.toList_intercalate]
    symm
    apply List.splitOn_intercalate '.'
    · intro part member
      rcases List.mem_map.1 member with ⟨name, among, rfl⟩
      exact whole name among
    · simpa using nonempty
  rw [keyNames, ← parted, List.map_map]
  simp [Function.comp_def]

/-! ## Places in settings -/

/-- The places in settings: what is there under which names. -/
def places (settings : Settings) : List (List String × Value) :=
  [ ([], .mapping settings.entries),
    (["system"], .mapping settings.system.entries),
    (["system", "log_level"], .text settings.system.logLevel.name),
    (["system", "log_format"], .text settings.system.logFormat.name),
    (["system", "log_dir"], .text settings.system.logDir),
    (["system", "session_id"], .text settings.system.sessionId),
    (["decoder"], .mapping settings.decoder.entries),
    (["decoder", "encoding"], .text settings.decoder.encoding),
    (["decoder", "locale_encoding"], .text settings.decoder.localeEncoding),
    (["decoder", "autodetect_utf8"], .bool settings.decoder.detectUtf8),
    (["decoder", "align"], .int settings.decoder.align.bits),
    (["decoder", "formatted"], .bool settings.decoder.formatted) ]

/-- A key names a section or a setting, which has this value. -/
def Names (settings : Settings) (key : String) (value : Value) : Prop :=
  ∃ path, path ≠ [] ∧ (path, value) ∈ settings.places ∧ key = dotted path

/-- The names on the way to a place have no full stops. -/
theorem notMem_of_mem_places
    (settings : Settings)
    (path : List String)
    (value : Value)
    (place : (path, value) ∈ settings.places) :
    ∀ name ∈ path, '.' ∉ name.toList := by
  have each : ∀ place ∈ settings.places, ∀ name ∈ place.1, '.' ∉ name.toList := by
    simp [places]
  exact each _ place

theorem mem_of_get?
    (entries : Entries)
    (name : String)
    (value : Value)
    (found : entries.get? name = some value) :
    (.name name, value) ∈ entries := by
  rcases List.lookup_eq_some_iff.1 found with ⟨front, back, rfl, -⟩
  exact List.mem_append_right _ List.mem_cons_self

/-- What is found in a place is a place. -/
theorem mem_places_of_own?
    (settings : Settings)
    (path : List String)
    (value inner : Value)
    (name : String)
    (place : (path, value) ∈ settings.places)
    (found : own? value name = some inner) :
    (path ++ [name], inner) ∈ settings.places := by
  cases value with
  | mapping entries =>
      have sections : path = [] ∧ entries = settings.entries ∨
          path = ["system"] ∧ entries = settings.system.entries ∨
          path = ["decoder"] ∧ entries = settings.decoder.entries := by
        simpa [places] using place
      have each : ∀ entry ∈ entries, ∀ name,
          entry.1 = .name name → (path ++ [name], entry.2) ∈ settings.places := by
        rcases sections with ⟨rfl, rfl⟩ | ⟨rfl, rfl⟩ | ⟨rfl, rfl⟩
        · simp [Settings.entries, places]
        · simp [SystemSettings.entries, places]
        · simp [DecoderSettings.entries, places]
      exact each _ (mem_of_get? entries name inner found) name rfl
  | _ => cases found

/--
A key departs from a place: its first names are the way there, and the next one is not the name of
anything in it.
-/
structure Departs
    (settings : Settings)
    (key : String)
    (path : List String)
    (value : Value)
    (name : String)
    (rest : List String) :
    Prop where
  place : (path, value) ∈ settings.places
  foreign : own? value name = none
  names : keyNames key = path ++ name :: rest

/-- Names are the way to a place, or some of them are until one is foreign there. -/
theorem mem_places_or_departs (settings : Settings) (names : List String) :
    (∃ value, (names, value) ∈ settings.places) ∨
      ∃ path value name rest,
        (path, value) ∈ settings.places ∧ own? value name = none ∧
          names = path ++ name :: rest := by
  induction names using List.reverseRecOn with
  | nil => exact .inl ⟨_, List.mem_cons_self⟩
  | append_singleton front last hypothesis =>
      rcases hypothesis with ⟨value, place⟩ | ⟨path, value, name, rest, place, foreign, rfl⟩
      · cases found : own? value last with
        | some inner =>
            exact .inl ⟨inner, mem_places_of_own? settings front value inner last place found⟩
        | none => exact .inr ⟨front, value, last, [], place, found, rfl⟩
      · refine .inr ⟨path, value, name, rest ++ [last], place, foreign, ?_⟩
        rw [List.append_assoc, List.cons_append]

namespace Parts

variable (parts : Parts) (settings : Settings)

/-- A way to a place leads there. -/
theorem follow?_of_mem_places
    (path : List String)
    (value : Value)
    (place : (path, value) ∈ settings.places) :
    parts.follow? (.value (.mapping settings.entries)) path = some (.value value) := by
  have each : ∀ place ∈ settings.places,
      parts.follow? (.value (.mapping settings.entries)) place.1 = some (.value place.2) := by
    unfold places
    simp only [List.forall_mem_cons]
    refine ⟨rfl, rfl, rfl, rfl, rfl, rfl, rfl, rfl, rfl, rfl, rfl, rfl, List.forall_mem_nil _⟩
  exact each _ place

theorem lookUp?_of_names
    (key : String)
    (value : Value)
    (names : settings.Names key value) :
    parts.lookUp? settings key = some (.value value) := by
  rcases names with ⟨path, nonempty, place, rfl⟩
  rw [lookUp?, keyNames_dotted path nonempty (notMem_of_mem_places settings path value place)]
  exact parts.follow?_of_mem_places settings path value place

/-- From a place on a foreign name leads to a part, and the names behind it lead on from there. -/
theorem lookUp?_of_departs
    (key : String)
    (path : List String)
    (value : Value)
    (name : String)
    (rest : List String)
    (departs : settings.Departs key path value name rest) :
    parts.lookUp? settings key = (parts.ofValue value name).bind (parts.follow? · rest) := by
  have reached := parts.follow?_of_mem_places settings path value departs.place
  have led : parts.step? (.value value) name = parts.ofValue value name := by
    rw [step?, departs.foreign]
  rw [lookUp?, departs.names, follow?, List.foldlM_append]
  change (parts.follow? _ path).bind _ = _
  rw [reached, Option.bind_some, List.foldlM_cons, led]
  rfl

end Parts

/-- Values without parts. -/
def Parts.bare : Parts where
  Thing := Empty
  ofValue _ _ := none
  ofThing thing _ := thing.elim

/-- The keys that name nothing are those that depart from a place. -/
theorem not_names_iff_departs (settings : Settings) (key : String) :
    (¬ ∃ value, settings.Names key value) ↔
      ∃ path value name rest, settings.Departs key path value name rest := by
  constructor
  · intro nameless
    rcases mem_places_or_departs settings (keyNames key) with
      ⟨value, place⟩ | ⟨path, value, name, rest, place, foreign, names⟩
    · exact absurd
        ⟨value, keyNames key, keyNames_ne_nil key, place, (dotted_keyNames key).symm⟩ nameless
    · exact ⟨path, value, name, rest, place, foreign, names⟩
  -- Without parts a key that departs leads nowhere, while one that names something is found.
  · rintro ⟨path, value, name, rest, departs⟩ ⟨other, names⟩
    have found := Parts.bare.lookUp?_of_names settings key other names
    rw [Parts.bare.lookUp?_of_departs settings key path value name rest departs] at found
    cases found

/-! ## What is found -/

theorem Parts.get_of_names
    (parts : Parts)
    (settings : Settings)
    (key : String)
    (value : Value)
    (default : Found parts.Thing)
    (names : settings.Names key value) :
    parts.get settings key default = .value value := by
  rw [get, parts.lookUp?_of_names settings key value names, Option.getD_some]

theorem Parts.get_of_departs
    (parts : Parts)
    (settings : Settings)
    (key : String)
    (path : List String)
    (value : Value)
    (name : String)
    (rest : List String)
    (default : Found parts.Thing)
    (departs : settings.Departs key path value name rest) :
    parts.get settings key default =
      ((parts.ofValue value name).bind (parts.follow? · rest)).getD default := by
  rw [get, parts.lookUp?_of_departs settings key path value name rest departs]

/-- A name that is foreign in a place makes a key that departs from there. -/
theorem departs_of_place
    (settings : Settings)
    (path : List String)
    (value : Value)
    (name : String)
    (place : (path, value) ∈ settings.places)
    (whole : '.' ∉ name.toList)
    (foreign : own? value name = none) :
    settings.Departs (dotted (path ++ [name])) path value name [] := by
  refine ⟨place, foreign, keyNames_dotted _ (by simp) ?_⟩
  intro part among
  rcases List.mem_append.1 among with before | last
  · exact notMem_of_mem_places settings path value place part before
  · rwa [List.mem_singleton.1 last]

/-- Only nothing gives every default back. -/
theorem eq_none_of_getD
    {Thing : Type}
    (found : Option (Found Thing))
    (given : ∀ default, found.getD default = default) :
    found = none := by
  cases found with
  | none => rfl
  | some part =>
      have twice : (Found.value .null : Found Thing) = .value .date :=
        (given (.value .null)).symm.trans (given (.value .date))
      cases twice

/--
Keys that name sections and settings find these, whatever parts values have.  All other keys depart
from a place, and what they find is up to the parts of what is there.  They all give the default
back exactly if no place has parts beside what is set in it.
-/
theorem get_finds_settings_unless_parts (parts : Parts) (settings : Settings) :
    (∀ key value default,
        settings.Names key value → parts.get settings key default = .value value) ∧
      (∀ key,
        (¬ ∃ value, settings.Names key value) ↔
          ∃ path value name rest, settings.Departs key path value name rest) ∧
      (∀ key path value name rest default,
        settings.Departs key path value name rest →
          parts.get settings key default =
            ((parts.ofValue value name).bind (parts.follow? · rest)).getD default) ∧
      ((∀ key default,
          (¬ ∃ value, settings.Names key value) → parts.get settings key default = default) ↔
        ∀ path value name,
          (path, value) ∈ settings.places → '.' ∉ name.toList → own? value name = none →
            parts.ofValue value name = none) := by
  refine ⟨parts.get_of_names settings, not_names_iff_departs settings,
    parts.get_of_departs settings, ?_, ?_⟩
  · intro kept path value name place whole foreign
    have departs := departs_of_place settings path value name place whole foreign
    have nameless := (not_names_iff_departs settings _).2 ⟨path, value, name, [], departs⟩
    have nowhere := eq_none_of_getD _ fun default => kept _ default nameless
    rw [parts.lookUp?_of_departs settings _ path value name [] departs] at nowhere
    simpa [Parts.follow?] using nowhere
  · intro partless key default nameless
    rcases (not_names_iff_departs settings key).1 nameless with ⟨path, value, name, rest, departs⟩
    have among : name ∈ keyNames key := by
      rw [departs.names]
      exact List.mem_append_right _ List.mem_cons_self
    have whole := notMem_of_mem_keyNames key name among
    rw [parts.get_of_departs settings key path value name rest default departs,
      partless path value name departs.place whole departs.foreign]
    rfl

/-- The alignment of subtitles is a whole number, and its real part is found. -/
theorem real_part_of_align_is_found :
    (¬ ∃ value, Names {} "decoder.align.real" value) ∧
      Parts.numbers.get {} "decoder.align.real" (.value (.text "fb")) = .value (.int 0) := by
  constructor
  · have place : (["decoder", "align"], .int 0) ∈ places {} :=
      List.mem_of_getElem? (show (places {})[10]? = _ from rfl)
    have departs := departs_of_place {} ["decoder", "align"] (.int 0) "real" place (by decide) rfl
    exact (not_names_iff_departs _ _).2 ⟨["decoder", "align"], .int 0, "real", [], departs⟩
  · rfl

end TimedText.Settings
