import Mathlib
import TimedText.Proofs.Text.LetterCase
import TimedText.Settings.Source

/-!
# Variables and the settings they stand for

A variable stands for a setting if its name is the fixed word, the section, an underscore and the
setting, in any letter case.  So all variables that stand for one setting have the same name in
small letters, and the last of them gives its value.  Where these names are all different, the order
of the variables does not matter.
-/

namespace TimedText

namespace Environment

/-! ## Places in names -/

/-- A section and a setting are what stands before and after the first underscore. -/
theorem splitPlace?_eq_some_iff (text : List Char) (place : Place) :
    splitPlace? text = some place ↔
      text = place.part.toList ++ '_' :: place.field.toList ∧ '_' ∉ place.part.toList := by
  constructor
  · intro split
    unfold splitPlace? at split
    cases after : text.dropWhile (· != '_') with
    | nil => simp [after] at split
    | cons char field =>
        rw [after] at split
        have underscore : char = '_' := by
          have head := List.head?_dropWhile_not (· != '_') text
          simpa [after] using head
        subst underscore
        rw [← Option.some_inj.1 split, String.toList_ofList, String.toList_ofList, ← after]
        refine ⟨List.takeWhile_append_dropWhile.symm, fun member => ?_⟩
        simpa using List.mem_takeWhile_imp member
  · rintro ⟨rfl, plain⟩
    have passes : ∀ char ∈ place.part.toList, (char != '_') = true := by
      intro char member
      exact bne_iff_ne.2 fun underscore => plain (underscore ▸ member)
    rw [splitPlace?, List.dropWhile_append_of_pos passes, List.takeWhile_append_of_pos passes]
    simp

/-- Names of a setting: the fixed word, the section, an underscore and the setting, in any case. -/
theorem place?_eq_some_iff (name : String) (place : Place) :
    place? name = some place ↔
      ∃ rest,
        name.toList = stem ++ rest ∧
          Text.lower rest = place.part.toList ++ '_' :: place.field.toList ∧
          '_' ∉ place.part.toList := by
  unfold place?
  constructor
  · intro found
    split at found
    next begins =>
      rcases List.isPrefixOf_iff_prefix.1 begins with ⟨rest, whole⟩
      rw [← whole, List.drop_left, splitPlace?_eq_some_iff] at found
      exact ⟨rest, whole.symm, found⟩
    next => cases found
  · rintro ⟨rest, whole, found⟩
    rw [if_pos (List.isPrefixOf_iff_prefix.2 ⟨rest, whole.symm⟩), whole, List.drop_left,
      splitPlace?_eq_some_iff]
    exact found

/-- Names of one setting are the same in small letters. -/
theorem lowered_of_place?
    (name : String)
    (place : Place)
    (found : place? name = some place) :
    Text.lowered name =
      String.ofList
        (stem.flatMap Text.lowerChar ++ (place.part.toList ++ '_' :: place.field.toList)) := by
  rcases (place?_eq_some_iff name place).1 found with ⟨rest, whole, lowered, -⟩
  -- No word goes on across the underscore at the end of the fixed word.
  have parts : Text.isBoundary '_' = true := by
    decide +kernel
  have behind := Text.lower_append "SUBSDEC".toList '_' rest parts (by decide)
  rw [Text.lowered, whole, ← lowered]
  exact congrArg String.ofList behind

/-! ## The value that an environment gives -/

/-- The variables that stand for a setting, in their order. -/
def standingFor (environment : Environment) (place : Place) : List (String × String) :=
  environment.entries.filter fun entry => place? entry.1 = some place

/-- The value that an environment gives to a setting: that of the last variable standing for it. -/
def given? (environment : Environment) (place : Place) : Option Value :=
  (environment.standingFor place).getLast?.map fun entry => setting place.field entry.2

/-! ## The order of variables -/

/-- The last element of a list of equal elements is any of them. -/
theorem getLast?_eq_some_iff_of_forall_eq
    {α : Type}
    (list : List α)
    (same : ∀ one ∈ list, ∀ other ∈ list, one = other)
    (last : α) :
    list.getLast? = some last ↔ last ∈ list := by
  refine ⟨List.mem_of_getLast?, fun member => ?_⟩
  rw [List.getLast?_eq_some_getLast (List.ne_nil_of_mem member),
    same _ (List.getLast_mem _) _ member]

/-- Where names differ in small letters, the order of variables does not matter. -/
theorem given?_eq_of_perm
    (one other : Environment)
    (reordered : one.entries.Perm other.entries)
    (distinct : (one.entries.map fun entry => Text.lowered entry.1).Nodup) :
    one.given? = other.given? := by
  funext place
  have single (environment : Environment)
      (member : ∀ entry ∈ environment.entries, entry ∈ one.entries) :
      ∀ first ∈ environment.standingFor place, ∀ second ∈ environment.standingFor place,
        first = second := by
    intro first here second there
    rcases List.mem_filter.1 here with ⟨here, found⟩
    rcases List.mem_filter.1 there with ⟨there, again⟩
    refine List.inj_on_of_nodup_map distinct (member first here) (member second there) ?_
    rw [lowered_of_place? first.1 place (of_decide_eq_true found),
      lowered_of_place? second.1 place (of_decide_eq_true again)]
  have last : (one.standingFor place).getLast? = (other.standingFor place).getLast? := by
    ext entry
    rw [getLast?_eq_some_iff_of_forall_eq _ (single one fun _ member => member),
      getLast?_eq_some_iff_of_forall_eq _ (single other fun _ => reordered.mem_iff.2)]
    exact (reordered.filter _).mem_iff
  rw [given?, given?, last]

end Environment

end TimedText
