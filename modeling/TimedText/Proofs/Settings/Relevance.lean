import Mathlib
import TimedText.Settings.Validation

/-!
# What validation looks at

Validation looks at the settings that there are, and at nothing else: sections and settings of other
names do not matter, nor does the order of entries.  A section that is not given is as good as one
that holds nothing.
-/

namespace TimedText

namespace Settings

/-- The entries of a section: none if it is not given, and nothing at all if it is no mapping. -/
def fields? : (part : Option Value) → Option Entries
  | none => some []
  | some (.mapping inner) => some inner
  | some (.shared _ inner) => some inner
  | some _ => none

/-- A value is a mapping, a shared mapping, or none. -/
inductive Form : Value → Prop where
  | mapping (inner : Entries) : Form (.mapping inner)
  | shared (anchor : String) (inner : Entries) : Form (.shared anchor inner)
  | foreign (value : Value) (noMapping : fields? (some value) = none) : Form value

theorem form (value : Value) : Form value := by
  cases value with
  | mapping inner => exact .mapping inner
  | shared anchor inner => exact .shared anchor inner
  | null | bool | int | real | text | garbledText | bytes | date | moment | list | set | loop =>
      exact .foreign _ rfl

/-- There is a setting of the given section and name. -/
def isKnown (part field : String) : Bool :=
  match fields? (({} : Settings).entries.get? part) with
  | some inner => (Entries.get? inner field).isSome
  | none => false

/-- Entries that give the same values to all settings that there are. -/
def Alike (one other : Entries) : Prop :=
  ∀ part,
    Option.Rel
      (fun inner otherInner =>
        ∀ field,
          isKnown part field = true → Entries.get? inner field = Entries.get? otherInner field)
      (fields? (one.get? part))
      (fields? (other.get? part))

/-- A section is checked by its entries, if it is none that stands for the whole file. -/
theorem checkSection_eq
    {α : Type}
    (name : String)
    (entries : Entries)
    (default : α)
    (rule : Entries → Checked α)
    (unlooped : ∀ anchor, entries.get? name ≠ some (.loop anchor))
    (empty : rule [] = ([], default)) :
    checkSection name entries default rule =
      match fields? (entries.get? name) with
      | some inner => rule inner
      | none => ([{ path := name, problem := .kind }], default) := by
  unfold checkSection
  cases found : entries.get? name with
  | none => exact empty.symm
  | some value =>
      -- A loop has no entries of its own, so the forms of values do not tell it apart.
      cases value with
      | loop anchor => exact (unlooped anchor found).elim
      | mapping | shared => rfl
      | null | bool | int | real | text | garbledText | bytes | date | moment | list | set => rfl

theorem checkSystem_congr
    (one other : Entries)
    (same : ∀ field, isKnown "system" field = true → one.get? field = other.get? field) :
    checkSystem one = checkSystem other := by
  simp only [checkSystem, check, same "log_level" (by decide), same "log_format" (by decide),
    same "log_dir" (by decide), same "session_id" (by decide)]

theorem checkDecoder_congr
    (one other : Entries)
    (same : ∀ field, isKnown "decoder" field = true → one.get? field = other.get? field) :
    checkDecoder one = checkDecoder other := by
  simp only [checkDecoder, check, same "encoding" (by decide), same "locale_encoding" (by decide),
    same "autodetect_utf8" (by decide), same "align" (by decide), same "formatted" (by decide)]

/-- A section comes to the same if its settings do. -/
theorem checkSection_congr
    {α : Type}
    (name : String)
    (one other : Entries)
    (default : α)
    (rule : Entries → Checked α)
    (unlooped : ∀ anchor, one.get? name ≠ some (.loop anchor))
    (otherUnlooped : ∀ anchor, other.get? name ≠ some (.loop anchor))
    (empty : rule [] = ([], default))
    (congr : ∀ inner otherInner : Entries,
      (∀ field, isKnown name field = true → inner.get? field = otherInner.get? field) →
        rule inner = rule otherInner)
    (alike : Alike one other) :
    checkSection name one default rule = checkSection name other default rule := by
  rw [checkSection_eq name one default rule unlooped empty,
    checkSection_eq name other default rule otherUnlooped empty]
  have related := alike name
  generalize fields? (one.get? name) = inner, fields? (other.get? name) = otherInner at related ⊢
  cases related with
  | none => rfl
  | some same => exact congr _ _ same

/-- Entries that give the same values to all settings come to the same settings and complaints. -/
theorem validate_congr
    (one other : Entries)
    (unlooped : ∀ part anchor, one.get? part ≠ some (.loop anchor))
    (otherUnlooped : ∀ part anchor, other.get? part ≠ some (.loop anchor))
    (alike : Alike one other) :
    validate one = validate other := by
  have system :
      checkSection "system" one {} checkSystem = checkSection "system" other {} checkSystem :=
    checkSection_congr "system" one other {} checkSystem (unlooped _) (otherUnlooped _) rfl
      checkSystem_congr alike
  have decoder :
      checkSection "decoder" one {} checkDecoder = checkSection "decoder" other {} checkDecoder :=
    checkSection_congr "decoder" one other {} checkDecoder (unlooped _) (otherUnlooped _) rfl
      checkDecoder_congr alike
  rw [validate, validate, system, decoder]

end Settings

end TimedText
