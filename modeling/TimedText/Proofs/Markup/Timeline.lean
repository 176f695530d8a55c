import Mathlib.Data.List.Forall2
import TimedText.Markup

/-!
# Timelines

What marked-up text does, as a row of moments: characters that are shown, openings and closings.
The timeline of a row of pieces needs no colours and no numbers to be read; an opening keeps the
switch or the attributes that it was written with.

Which style an opening leads to is said here field by field.  A switch is added to those that are
on.  A font tag sets, for each of its attributes in turn, the field that the attribute names, and
does so only if the number or the colour can be read.  Reading text yields marks, and the main
statement is that these realise the timeline, moment by moment.
-/

namespace TimedText.Markup

/-! ## Fields that a font tag can set -/

/-- The fields of a style that a font tag can set. -/
inductive FontField where
  | face
  | family
  | size
  | outlineLevel
  | shadowLevel
  | alpha
  | color
  | outlineColor
  | shadowColor
  | backColor
deriving DecidableEq, Repr

namespace FontField

/-- The name of the attribute that sets a field. -/
def word : FontField → String
  | face => "face"
  | family => "family"
  | size => "size"
  | outlineLevel => "outline-level"
  | shadowLevel => "shadow-level"
  | alpha => "alpha"
  | color => "color"
  | outlineColor => "outline-color"
  | shadowColor => "shadow-color"
  | backColor => "back-color"

def all : List FontField :=
  [face, family, size, outlineLevel, shadowLevel, alpha, color, outlineColor, shadowColor,
    backColor]

/-- The field that an attribute of the given name sets. -/
def ofWord? (name : String) : Option FontField :=
  all.find? fun field => field.word == name

/-- What a field of a style holds: a name or a number. -/
def value (style : Style) : FontField → Option String ⊕ Int
  | face => .inl style.fontName
  | family => .inl style.monoFontName
  | size => .inr style.fontSize
  | outlineLevel => .inr style.outlineWidth
  | shadowLevel => .inr style.shadowWidth
  | alpha => .inr style.fontAlpha
  | color => .inr style.fontColor
  | outlineColor => .inr style.outlineColor
  | shadowColor => .inr style.shadowColor
  | backColor => .inr style.backgroundColor

/-- The style with a field set to what a text stands for, if that can be read. -/
def set? (lookup : Color.Lookup) (style : Style) (text : List Char) : FontField → Option Style
  | face => some { style with fontName := some (String.ofList text) }
  | family => some { style with monoFontName := some (String.ofList text) }
  | size => (Text.leadingInteger text).map fun number => { style with fontSize := number }
  | outlineLevel =>
      (Text.leadingInteger text).map fun number => { style with outlineWidth := number }
  | shadowLevel =>
      (Text.leadingInteger text).map fun number => { style with shadowWidth := number }
  | alpha => (Text.leadingInteger text).map fun number => { style with fontAlpha := number }
  | color => (lookup (String.ofList text)).map fun color => { style with fontColor := color }
  | outlineColor =>
      (lookup (String.ofList text)).map fun color => { style with outlineColor := color }
  | shadowColor =>
      (lookup (String.ofList text)).map fun color => { style with shadowColor := color }
  | backColor =>
      (lookup (String.ofList text)).map fun color => { style with backgroundColor := color }

theorem mem_all (field : FontField) : field ∈ all := by
  cases field <;> decide

theorem word_of_ofWord?
    (name : String)
    (field : FontField)
    (found : ofWord? name = some field) :
    name = field.word := by
  have equal := List.find?_some found
  exact (beq_iff_eq.1 equal).symm

theorem ne_word_of_ofWord?_eq_none
    (name : String)
    (unknown : ofWord? name = none)
    (field : FontField) :
    name ≠ field.word := by
  rintro rfl
  have different := List.find?_eq_none.1 unknown field field.mem_all
  simp at different

end FontField

/-- The field that a written attribute names, its name compared in lower case. -/
def Attribute.field? (written : Attribute) : Option FontField :=
  FontField.ofWord? (String.ofList (Text.lower written.name))

/-- The style after an attribute, if its value can be read. -/
def Attribute.applyTo? (lookup : Color.Lookup) (style : Style) (written : Attribute) :
    Option Style :=
  match written.field? with
  | some field => field.set? lookup style written.value
  | none => some style

/-! ## Moments -/

/-- What opens a range of text in a style of its own, as written. -/
inductive Opening where
  | flag (flag : StyleFlag)
  | font (attributes : List Attribute)
deriving DecidableEq, Repr

/-- The style inside a range that opens in a style, if the attributes can be read. -/
def Opening.applyTo? (lookup : Color.Lookup) (style : Style) : Opening → Option Style
  | .flag switch => some { style with flags := style.flags ||| switch.bits }
  | .font attributes => attributes.foldlM (Attribute.applyTo? lookup) style

/-- A change of the ranges that are open. -/
inductive Event where
  | opening (opening : Opening)
  | closing
deriving DecidableEq, Repr

/-- A character that is shown, or an event. -/
inductive Moment where
  | shown (char : Char)
  | event (event : Event)
deriving DecidableEq, Repr

namespace Moment

def isEvent : Moment → Bool
  | shown _ => false
  | event _ => true

def event? : Moment → Option Event
  | shown _ => none
  | event change => some change

def char? : Moment → Option Char
  | shown char => some char
  | event _ => none

end Moment

/-- The letters of a style block that count: the longest row of style letters after the colon. -/
def blockLetters : List Char → List Char
  | 'Y' :: ':' :: letters => letters.takeWhile (['i', 'b', 'u'].contains ·)
  | 'y' :: ':' :: letters => letters.takeWhile (['i', 'b', 'u'].contains ·)
  | _ => []

def Piece.events : Piece → List Event
  | literal _ => []
  | lineBreak => []
  | openFlag flag => [.opening (.flag flag)]
  | openFont attributes => [.opening (.font attributes)]
  | close => [.closing]
  | block body => (blockLetters body).filterMap fun letter =>
      (styleCode? letter).map fun flag => .opening (.flag flag)

/-- What a piece does: no piece both shows characters and has events. -/
def Piece.moments (piece : Piece) : List Moment :=
  piece.shown.map .shown ++ piece.events.map .event

/-- What a row of pieces does. -/
def timeline (pieces : List Piece) : List Moment :=
  pieces.flatMap Piece.moments

theorem events_timeline (pieces : List Piece) :
    (timeline pieces).filterMap Moment.event? = pieces.flatMap Piece.events := by
  induction pieces with
  | nil => rfl
  | cons piece rest hypothesis =>
      have characters : (piece.shown.map Moment.shown).filterMap Moment.event? = [] := by
        simp [List.filterMap_map, Function.comp_def, Moment.event?]
      have events : (piece.events.map Moment.event).filterMap Moment.event? = piece.events := by
        simp [List.filterMap_map, Function.comp_def, Moment.event?]
      simp only [timeline, List.flatMap_cons, List.filterMap_append, Piece.moments] at hypothesis ⊢
      rw [hypothesis, characters, events, List.nil_append]

theorem chars_timeline (pieces : List Piece) :
    (timeline pieces).filterMap Moment.char? = pieces.flatMap Piece.shown := by
  induction pieces with
  | nil => rfl
  | cons piece rest hypothesis =>
      have characters : (piece.shown.map Moment.shown).filterMap Moment.char? = piece.shown := by
        simp [List.filterMap_map, Function.comp_def, Moment.char?]
      have events : (piece.events.map Moment.event).filterMap Moment.char? = [] := by
        simp [List.filterMap_map, Function.comp_def, Moment.char?]
      simp only [timeline, List.flatMap_cons, List.filterMap_append, Piece.moments] at hypothesis ⊢
      rw [hypothesis, characters, events, List.append_nil]

/-! ## Marks realise moments -/

/-- A mark does what a moment says, under a colour lookup. -/
inductive Realises (lookup : Color.Lookup) : Mark → Moment → Prop where
  | visible :
      Realises lookup (.visible char) (.shown char)
  | opening
      (same : ∀ style, opening.applyTo? lookup style = some (Style.apply style change)) :
      Realises lookup (.opening change) (.event (.opening opening))
  | closing :
      Realises lookup .closing (.event .closing)

/-- An attribute whose name no field has sets nothing. -/
theorem Attribute.unknown_settings
    (name : String)
    (unknown : ∀ field : FontField, name ≠ field.word) :
    nameSetting? name = none ∧ numberSetting? name = none ∧ colorSetting? name = none := by
  refine ⟨?_, ?_, ?_⟩
  · unfold nameSetting?
    split
    · exact (unknown .face rfl).elim
    · exact (unknown .family rfl).elim
    · rfl
  · unfold numberSetting?
    split
    · exact (unknown .size rfl).elim
    · exact (unknown .outlineLevel rfl).elim
    · exact (unknown .shadowLevel rfl).elim
    · exact (unknown .alpha rfl).elim
    · rfl
  · unfold colorSetting?
    split
    · exact (unknown .color rfl).elim
    · exact (unknown .outlineColor rfl).elim
    · exact (unknown .shadowColor rfl).elim
    · exact (unknown .backColor rfl).elim
    · rfl

/-- An attribute that can be read sets the field that it names. -/
theorem Attribute.applyTo?_of_setting?
    (lookup : Color.Lookup)
    (written : Attribute)
    (setting : Option Style.Attribute)
    (read : setting? lookup written = .ok setting)
    (style : Style) :
    written.applyTo? lookup style = some (setting.toList.foldl Style.Attribute.apply style) := by
  unfold setting? at read
  unfold applyTo? field?
  generalize String.ofList (Text.lower written.name) = name at read ⊢
  cases found : FontField.ofWord? name with
  | none =>
      have unknown := FontField.ne_word_of_ofWord?_eq_none name found
      rcases unknown_settings name unknown with ⟨noName, noNumber, noColor⟩
      simp only [noName, noNumber, noColor, Except.ok.injEq] at read
      subst read
      rfl
  | some field =>
      have named := FontField.word_of_ofWord? name field found
      subst named
      cases field with
      | face | family =>
          cases read
          rfl
      | size | outlineLevel | shadowLevel | alpha =>
          simp only [FontField.word, nameSetting?, numberSetting?] at read
          cases number : Text.leadingInteger written.value with
          | none =>
              rw [number] at read
              cases read
          | some value =>
              rw [number] at read
              cases read
              simp only [FontField.set?, number]
              rfl
      | color | outlineColor | shadowColor | backColor =>
          simp only [FontField.word, nameSetting?, numberSetting?, colorSetting?] at read
          cases color : lookup (String.ofList written.value) with
          | none =>
              rw [color] at read
              cases read
          | some value =>
              rw [color] at read
              cases read
              simp only [FontField.set?, color]
              rfl

/-- Attributes that can be read set what they name, one after the other. -/
theorem Attribute.foldlM_of_settings
    (lookup : Color.Lookup)
    (attributes : List Attribute)
    (changes : List Style.Attribute)
    (read : settings lookup attributes = .ok changes)
    (style : Style) :
    attributes.foldlM (applyTo? lookup) style =
      some (changes.foldl Style.Attribute.apply style) := by
  induction attributes generalizing changes style with
  | nil =>
      cases read
      rfl
  | cons first rest hypothesis =>
      unfold settings at read
      split at read
      next => cases read
      next one firstRead =>
        split at read
        next => cases read
        next others restRead =>
          cases read
          rw [List.foldlM_cons, applyTo?_of_setting? lookup first one firstRead style,
            List.foldl_append]
          exact hypothesis others restRead _

theorem Piece.blockFlags_eq (body : List Char) :
    blockFlags body = (blockLetters body).filterMap styleCode? := by
  have codes : ∀ letters : List Char,
      styleCodes letters =
        (letters.takeWhile (['i', 'b', 'u'].contains ·)).filterMap styleCode? := by
    intro letters
    induction letters with
    | nil => rfl
    | cons letter rest hypothesis =>
        unfold styleCodes
        by_cases counts : letter ∈ ['i', 'b', 'u']
        · have kept : (['i', 'b', 'u'].contains letter) = true := by
            simpa using counts
          simp only [List.mem_cons, List.not_mem_nil, or_false] at counts
          rw [List.takeWhile_cons, if_pos kept, List.filterMap_cons, hypothesis]
          rcases counts with rfl | rfl | rfl <;> rfl
        · have dropped : ¬ (['i', 'b', 'u'].contains letter) = true := by
            simpa using counts
          have unknown : styleCode? letter = none := by
            unfold styleCode?
            split <;> simp_all
          rw [List.takeWhile_cons, if_neg dropped, unknown]
          rfl
  cases body with
  | nil => rfl
  | cons first rest =>
      cases rest with
      | nil => simp [blockFlags, blockLetters]
      | cons second letters =>
          by_cases colon : second = ':'
          · subst colon
            by_cases capital : first = 'Y'
            · subst capital
              exact codes letters
            · by_cases small : first = 'y'
              · subst small
                exact codes letters
              · simp [blockFlags, blockLetters, capital, small]
          · simp [blockFlags, blockLetters, colon]

/-- A style block opens a range for each of its switches. -/
theorem Piece.events_block (body : List Char) :
    (block body).events = (blockFlags body).map fun flag => .opening (.flag flag) := by
  rw [Piece.events, Piece.blockFlags_eq, List.map_filterMap]

/-- The marks of a piece realise what it does. -/
theorem Piece.marks_realise
    (lookup : Color.Lookup)
    (piece : Piece)
    (marks : List Mark)
    (read : piece.marks lookup = .ok marks) :
    List.Forall₂ (Realises lookup) marks piece.moments := by
  cases piece with
  | literal char =>
      cases read
      exact .cons .visible .nil
  | lineBreak =>
      cases read
      exact .cons .visible .nil
  | openFlag flag =>
      cases read
      exact .cons (.opening fun style => rfl) .nil
  | openFont attributes =>
      simp only [Piece.marks] at read
      split at read
      next changes settings =>
        cases read
        refine .cons (.opening fun style => ?_) .nil
        have applied := Attribute.foldlM_of_settings lookup attributes changes settings style
        simpa [Opening.applyTo?, Style.apply] using applied
      next => cases read
  | close =>
      cases read
      exact .cons .closing .nil
  | block body =>
      cases read
      have quiet : (block body).shown = [] := rfl
      rw [Piece.moments, quiet, Piece.events_block, List.map_map, List.map_nil, List.nil_append,
        List.forall₂_map_left_iff, List.forall₂_map_right_iff, List.forall₂_same]
      intro flag member
      exact .opening fun style => rfl

theorem marks_realise
    (lookup : Color.Lookup)
    (pieces : List Piece)
    (written : List Mark)
    (read : marks lookup pieces = .ok written) :
    List.Forall₂ (Realises lookup) written (timeline pieces) := by
  induction pieces generalizing written with
  | nil =>
      cases read
      exact .nil
  | cons first rest hypothesis =>
      unfold marks at read
      split at read
      next => cases read
      next here firstRead =>
        split at read
        next => cases read
        next others restRead =>
          cases read
          rw [timeline, List.flatMap_cons]
          exact List.rel_append (Piece.marks_realise lookup first here firstRead)
            (hypothesis others restRead)

/-- What a text is read as: the segments of marks that realise its timeline. -/
theorem parse_eq_ok
    (lookup : Color.Lookup)
    (align : Alignment)
    (text : List Char)
    (outcome : Outcome)
    (read : parse lookup align text = .ok outcome) :
    ∃ written,
      List.Forall₂ (Realises lookup) written (timeline (Piece.split (untilNul text))) ∧
        outcome.segments = segments written := by
  unfold parse at read
  dsimp only at read
  split at read
  next written marksRead =>
    cases read
    exact ⟨written, marks_realise lookup _ written marksRead, rfl⟩
  next => cases read

end TimedText.Markup
