import Mathlib
import TimedText.Value

/-!
# Changes of entries

Putting a value under a name changes that entry and no other.  A change of a shared mapping goes
wherever that mapping stands.  So it is a change of one entry if the mapping stands there only.
-/

namespace TimedText

namespace Value

/-! ## Where a shared mapping stands -/

mutual

/-- The mapping of an anchor stands somewhere in a value. -/
def mentions (anchor : String) : Value → Bool
  | .list items => mentionsAmong anchor items
  | .mapping entries => mentionsIn anchor entries
  | .shared name entries => name == anchor || mentionsIn anchor entries
  | _ => false

/-- The mapping of an anchor stands somewhere in the values of a list. -/
def mentionsAmong (anchor : String) : List Value → Bool
  | [] => false
  | item :: rest => mentions anchor item || mentionsAmong anchor rest

/-- The mapping of an anchor stands somewhere in the values of entries. -/
def mentionsIn (anchor : String) : List (Key × Value) → Bool
  | [] => false
  | (_, value) :: rest => mentions anchor value || mentionsIn anchor rest

end

mutual

/-- A value without the mapping of an anchor stays when that mapping changes. -/
theorem renew_of_not_mentions
    (anchor : String)
    (new : Entries)
    (value : Value)
    (free : value.mentions anchor = false) :
    value.renew anchor new = value := by
  cases value with
  | list items =>
      rw [mentions] at free
      rw [renew, renewItems_of_not_mentions anchor new items free]
  | mapping entries =>
      rw [mentions] at free
      rw [renew, renewEntries_of_not_mentions anchor new entries free]
  | shared name entries =>
      rw [mentions, Bool.or_eq_false_iff, beq_eq_false_iff_ne] at free
      rw [renew, if_neg free.1, renewEntries_of_not_mentions anchor new entries free.2]
  | null | bool | int | real | text | garbledText | bytes | date | moment | set | loop => rfl

theorem renewItems_of_not_mentions
    (anchor : String)
    (new : Entries)
    (items : List Value)
    (free : mentionsAmong anchor items = false) :
    renewItems anchor new items = items := by
  cases items with
  | nil => rfl
  | cons item rest =>
      rw [mentionsAmong, Bool.or_eq_false_iff] at free
      rw [renewItems, renew_of_not_mentions anchor new item free.1,
        renewItems_of_not_mentions anchor new rest free.2]

theorem renewEntries_of_not_mentions
    (anchor : String)
    (new : Entries)
    (entries : List (Key × Value))
    (free : mentionsIn anchor entries = false) :
    renewEntries anchor new entries = entries := by
  cases entries with
  | nil => rfl
  | cons first rest =>
      obtain ⟨key, value⟩ := first
      rw [mentionsIn, Bool.or_eq_false_iff] at free
      rw [renewEntries, renew_of_not_mentions anchor new value free.1,
        renewEntries_of_not_mentions anchor new rest free.2]

end

/-- A value that is put into entries brings no other mappings than its own. -/
theorem mentionsIn_put
    (anchor : String)
    (entries : Entries)
    (name : String)
    (value : Value)
    (free : mentionsIn anchor entries = false)
    (without : value.mentions anchor = false) :
    mentionsIn anchor (entries.put name value) = false := by
  induction entries with
  | nil => simp [Entries.put, mentionsIn, without]
  | cons first rest hypothesis =>
      obtain ⟨key, old⟩ := first
      rw [mentionsIn, Bool.or_eq_false_iff] at free
      rw [Entries.put]
      split
      next => simp [mentionsIn, without, free.2]
      next => simp [mentionsIn, free.1, hypothesis free.2]

end Value

namespace Entries

/-! ## One entry and the others -/

/-- The entries without the one of a name. -/
def besides (entries : Entries) (name : String) : Entries :=
  entries.eraseP fun entry => entry.1 = .name name

theorem besides_cons_self (value : Value) (rest : Entries) (name : String) :
    besides ((.name name, value) :: rest) name = rest := by
  simp [besides]

theorem besides_cons_of_ne
    (key : Key)
    (value : Value)
    (rest : Entries)
    (name : String)
    (different : key ≠ .name name) :
    besides ((key, value) :: rest) name = (key, value) :: besides rest name := by
  simp [besides, different]

/-- Putting the value of a name again changes nothing. -/
theorem put_of_get?
    (entries : Entries)
    (name : String)
    (value : Value)
    (found : entries.get? name = some value) :
    entries.put name value = entries := by
  induction entries with
  | nil => cases found
  | cons first rest hypothesis =>
      obtain ⟨key, old⟩ := first
      by_cases here : key = .name name
      · subst here
        rw [get?_cons_self] at found
        cases found
        simp [put]
      · rw [get?_cons_of_ne key old rest name here] at found
        simp [put, here, hypothesis found]

/-- Where the mapping of an anchor is only one section, its change is a change of that section. -/
theorem renewEntries_eq_put
    (entries : Entries)
    (name anchor : String)
    (inner new : Entries)
    (found : entries.get? name = some (.shared anchor inner))
    (alone : Value.mentionsIn anchor (entries.besides name) = false) :
    Value.renewEntries anchor new entries = entries.put name (.shared anchor new) := by
  induction entries with
  | nil => cases found
  | cons first rest hypothesis =>
      obtain ⟨key, old⟩ := first
      by_cases here : key = .name name
      · subst here
        rw [get?_cons_self] at found
        cases found
        rw [besides_cons_self] at alone
        rw [Value.renewEntries, Value.renew, if_pos rfl,
          Value.renewEntries_of_not_mentions anchor new rest alone, put, if_pos rfl]
      · rw [get?_cons_of_ne key old rest name here] at found
        rw [besides_cons_of_ne key old rest name here, Value.mentionsIn,
          Bool.or_eq_false_iff] at alone
        rw [Value.renewEntries, Value.renew_of_not_mentions anchor new old alone.1,
          hypothesis found alone.2, put, if_neg here]

/-- The other entries are the same whatever is put under a name that is there. -/
theorem besides_put_self
    (entries : Entries)
    (name : String)
    (old value : Value)
    (found : entries.get? name = some old) :
    (entries.put name value).besides name = entries.besides name := by
  induction entries with
  | nil => cases found
  | cons first rest hypothesis =>
      obtain ⟨key, first⟩ := first
      by_cases here : key = .name name
      · subst here
        rw [put, if_pos rfl, besides_cons_self, besides_cons_self]
      · rw [get?_cons_of_ne key first rest name here] at found
        rw [put, if_neg here, besides_cons_of_ne key first _ name here,
          besides_cons_of_ne key first rest name here, hypothesis found]

/-- The other entries after a value is put under another name. -/
theorem besides_put_of_ne
    (entries : Entries)
    (name other : String)
    (value : Value)
    (different : name ≠ other) :
    (entries.put name value).besides other = (entries.besides other).put name value := by
  induction entries with
  | nil => simp [put, besides, different]
  | cons first rest hypothesis =>
      obtain ⟨key, old⟩ := first
      by_cases here : key = .name name
      · subst here
        have apart : Key.name name ≠ .name other := by simpa using different
        rw [put, if_pos rfl, besides_cons_of_ne _ _ _ _ apart, besides_cons_of_ne _ _ _ _ apart,
          put, if_pos rfl]
      · by_cases there : key = .name other
        · subst there
          rw [put, if_neg here, besides_cons_self, besides_cons_self]
        · rw [put, if_neg here, besides_cons_of_ne _ _ _ _ there, besides_cons_of_ne _ _ _ _ there,
            hypothesis, put, if_neg here]

/-- What is found under a name is there without an entry of another name too. -/
theorem get?_besides_of_ne
    (entries : Entries)
    (name other : String)
    (different : name ≠ other) :
    (entries.besides other).get? name = entries.get? name := by
  induction entries with
  | nil => rfl
  | cons first rest hypothesis =>
      obtain ⟨key, value⟩ := first
      by_cases there : key = .name other
      · subst there
        have apart : Key.name other ≠ .name name := by simpa using different.symm
        rw [besides_cons_self, get?_cons_of_ne _ _ _ _ apart]
      · rw [besides_cons_of_ne _ _ _ _ there]
        by_cases here : key = .name name
        · subst here
          rw [get?_cons_self, get?_cons_self]
        · rw [get?_cons_of_ne _ _ _ _ here, get?_cons_of_ne _ _ _ _ here, hypothesis]

theorem mentions_of_get?
    (anchor : String)
    (entries : Entries)
    (name : String)
    (value : Value)
    (found : entries.get? name = some value)
    (free : Value.mentionsIn anchor entries = false) :
    value.mentions anchor = false := by
  induction entries with
  | nil => cases found
  | cons first rest hypothesis =>
      obtain ⟨key, old⟩ := first
      rw [Value.mentionsIn, Bool.or_eq_false_iff] at free
      by_cases here : key = .name name
      · subst here
        rw [get?_cons_self] at found
        cases found
        exact free.1
      · rw [get?_cons_of_ne key old rest name here] at found
        exact hypothesis found free.2

/-- The mapping of a name, if it is shared, stands in none of the other entries. -/
def Alone (entries : Entries) (name : String) : Prop :=
  ∀ anchor inner,
    entries.get? name = some (.shared anchor inner) →
      Value.mentionsIn anchor (entries.besides name) = false

/-- The entries whose key is no text. -/
def unnamed (entries : Entries) : Entries :=
  entries.filter fun entry => entry.1 = .other

@[simp]
theorem unnamed_put (entries : Entries) (name : String) (value : Value) :
    (entries.put name value).unnamed = entries.unnamed := by
  unfold unnamed
  induction entries with
  | nil => rfl
  | cons first rest hypothesis =>
      obtain ⟨key, old⟩ := first
      rw [put]
      split
      next here =>
        subst here
        rfl
      next => simp only [List.filter_cons, hypothesis]

/-! ## Several changes -/

/-- The entries with several names set to values, one after the other. -/
def putAll (entries : Entries) (fields : List (String × Value)) : Entries :=
  fields.foldl (fun entries field => entries.put field.1 field.2) entries

/-- The last value of a name. -/
def last? (fields : List (String × Value)) (name : String) : Option Value :=
  ((fields.filter fun field => field.1 = name).getLast?).map Prod.snd

theorem last?_cons (field : String × Value) (rest : List (String × Value)) (name : String) :
    last? (field :: rest) name =
      (last? rest name).or (if field.1 = name then some field.2 else none) := by
  unfold last?
  by_cases here : field.1 = name
  · simp only [List.filter_cons, here, decide_true, if_true, List.getLast?_cons]
    cases (rest.filter fun field => field.1 = name).getLast? <;> rfl
  · simp [here]

/-- The last value that is put under a name is found there. -/
theorem get?_putAll (entries : Entries) (fields : List (String × Value)) (name : String) :
    (entries.putAll fields).get? name = (last? fields name).or (entries.get? name) := by
  induction fields generalizing entries with
  | nil => rfl
  | cons field rest hypothesis =>
      rw [putAll, List.foldl_cons, ← putAll, hypothesis, get?_put, last?_cons, Option.or_assoc]
      by_cases here : name = field.1
      · simp [here]
      · simp [here, Ne.symm here]

theorem unnamed_putAll (entries : Entries) (fields : List (String × Value)) :
    (entries.putAll fields).unnamed = entries.unnamed := by
  induction fields generalizing entries with
  | nil => rfl
  | cons field rest hypothesis =>
      rw [putAll, List.foldl_cons, ← putAll, hypothesis, unnamed_put]

end Entries

end TimedText
