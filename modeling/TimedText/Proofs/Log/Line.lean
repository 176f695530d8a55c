import TimedText.Proofs.Log.Journal
import TimedText.Proofs.Log.Template
import TimedText.Proofs.Text.Numeral

/-!
# Records as lines

In the text form the line of a record shows the moment, the start of the identity of the session in
brackets, and then the level, the logger and the message.  The start of the identity is put into the template of
the line as it is, so that a percent sign in it begins a directive.

A journal that is set up for this form writes the lines that are due, each once on the console and
once in its file, exactly if the start of the identity holds no percent sign.
-/

namespace TimedText

open Log (Level Moment Record)

namespace Log.Record

/-! ## Lines -/

/-- What a line shows behind the identity of the session. -/
def body (record : Record) : List Char :=
  let level := record.level.name.toList
  ' ' :: (level ++ List.replicate (8 - level.length) ' ' ++
    ' ' :: (record.name.toList ++ ':' :: ' ' :: record.message.toList))

/-- What is due behind the moment in the line of a record. -/
def dueText (session : String) (record : Record) : List Char :=
  '[' :: (session.toList.take 8 ++ ']' :: record.body)

/-- The line that is due for a record. -/
def dueLine (session : String) (record : Record) : List Char :=
  record.moment.text ' ' ++ ' ' :: record.dueText session

/-- The part of a template behind the identity of the session. -/
def bodyTemplate : List Char := " %(levelname)-8s %(name)s: %(message)s".toList

theorem template_eq (session : String) (named : session ≠ "") :
    template session = '[' :: (session.toList.take 8 ++ ']' :: bodyTemplate) := by
  have filled : ¬ session.isEmpty = true := by
    simpa using named
  rw [template, shownIdentity, if_neg filled]
  rfl

/-- The name of a field cannot end behind the identity of the session. -/
theorem key?_bodyTemplate (depth : Nat) : Template.key? depth (']' :: bodyTemplate) = none := by
  cases depth <;> rfl

/-- Behind the identity of the session a line shows the level, the logger and the message. -/
theorem fills_bodyTemplate (record : Record) :
    Template.Fills record.field? bodyTemplate record.body := by
  have level (rest : List Char) :
      Template.read? ("(levelname)-8s".toList ++ rest) =
        some ({ key := some "levelname", left := true, width := 8, letter := 's' }, rest) := rfl
  have name (rest : List Char) :
      Template.read? ("(name)s".toList ++ rest) =
        some ({ key := some "name", letter := 's' }, rest) := rfl
  have message :
      Template.read? "(message)s".toList =
        some ({ key := some "message", letter := 's' }, []) := rfl
  have shownLevel :
      Template.Directive.shown? record.field?
          { key := some "levelname", left := true, width := 8, letter := 's' } =
        some (record.level.name.toList ++
          List.replicate (8 - record.level.name.toList.length) ' ') := by
    simp [Template.Directive.shown?, field?, Template.justified]
  have shownName :
      Template.Directive.shown? record.field? { key := some "name", letter := 's' } =
        some record.name.toList := by
    simp [Template.Directive.shown?, field?, Template.justified]
  have shownMessage :
      Template.Directive.shown? record.field? { key := some "message", letter := 's' } =
        some record.message.toList := by
    simp [Template.Directive.shown?, field?, Template.justified]
  have last := Template.Fills.directive message shownMessage .nil
  have middle := Template.Fills.directive (name _) shownName (last.append [':', ' '] (by decide))
  have first := Template.Fills.directive (level _) shownLevel (middle.append [' '] (by decide))
  have parts :
      bodyTemplate =
        [' '] ++ '%' :: ("(levelname)-8s".toList ++
          ([' '] ++ '%' :: ("(name)s".toList ++
            ([':', ' '] ++ '%' :: "(message)s".toList)))) := rfl
  have said :
      record.body =
        [' '] ++
          (record.level.name.toList ++ List.replicate (8 - record.level.name.toList.length) ' ' ++
            ([' '] ++ (record.name.toList ++ ([':', ' '] ++ (record.message.toList ++ []))))) := by
    simp [body]
  rw [parts, said]
  exact first.append [' '] (by decide)

/-- A record whose line holds no percent sign behind the identity of the session. -/
def plainest : Record :=
  { name := rootName, level := .critical, message := "" }

theorem unmarked_moment (moment : Moment) : '%' ∉ moment.text ' ' := by
  have digits (width value : Nat) : '%' ∉ Text.padded width value := by
    intro inside
    cases Text.isDigit_of_mem_padded width value '%' inside
  simp [Moment.text, digits]

theorem unmarked_plainest (name value : String) (found : plainest.field? name = some value) :
    '%' ∉ value.toList := by
  have number : '%' ∉ (Text.written plainest.level.number).toList := by
    rw [Text.written, String.toList_ofList]
    intro member
    cases Text.isDigit_of_mem_decimal 50 '%' member
  have moment : '%' ∉ (String.ofList (plainest.moment.text ' ')).toList := by
    rw [String.toList_ofList]
    exact unmarked_moment plainest.moment
  unfold field? at found
  repeat' split at found
  all_goals cases found
  all_goals first | exact number | exact moment | decide

/-- The line of the record is the one that is due only where no percent sign stands in it. -/
theorem unmarked_of_line?_plainest
    (session : String)
    (named : session ≠ "")
    (line : plainest.line? session = some (plainest.dueLine session)) :
    '%' ∉ session.toList.take 8 := by
  intro marked
  rw [line?, dueLine, Option.map_eq_some_iff] at line
  rcases line with ⟨shown, filled, same⟩
  obtain rfl := (List.cons.inj (List.append_cancel_left same)).2
  rw [template_eq session named, Template.filled?_eq_some_iff, ← List.cons_append] at filled
  rcases filled.before_bracket unmarked_plainest key?_bodyTemplate with
    ⟨start, behind, parts, filled, -, strict⟩
  have same : behind = plainest.body := by
    have first := (Template.filled?_eq_some_iff _ _ _).2 filled
    have second := (Template.filled?_eq_some_iff _ _ _).2 plainest.fills_bodyTemplate
    exact Option.some_inj.1 (first.symm.trans second)
  rw [same, dueText, ← List.cons_append] at parts
  rw [← List.append_cancel_right parts] at strict
  exact Nat.lt_irrefl _ (strict (List.mem_cons_of_mem '[' marked))

/-- Where the identity that is shown has no percent sign, every line is the one that is due. -/
theorem line?_of_unmarked
    (session : String)
    (named : session ≠ "")
    (unmarked : '%' ∉ session.toList.take 8)
    (record : Record) :
    record.line? session = some (record.dueLine session) := by
  have fills := record.fills_bodyTemplate.append ('[' :: session.toList.take 8 ++ [']']) (by
    simp [unmarked])
  have filled : Template.filled? record.field? (template session) = some (record.dueText session) := by
    rw [template_eq session named, Template.filled?_eq_some_iff]
    simpa [dueText] using fills
  rw [line?, filled]
  rfl

end Log.Record

namespace Journal

/-- The lines that are due for the records that are serious enough. -/
def dueLines (session : String) (level : Level) (records : List Record) : List (List Char) :=
  (records.filter fun record => level.number ≤ record.level.number).map fun record =>
    record.dueLine session ++ ['\n']

theorem filterMap_due?_text
    {journal : Journal}
    (form : journal.format = .text)
    (named : journal.session ≠ "")
    (unmarked : '%' ∉ journal.session.toList.take 8)
    (records : List Record) :
    records.filterMap journal.due? = dueLines journal.session journal.level records := by
  have entry (record : Record) :
      journal.entry? record = some (record.dueLine journal.session ++ ['\n']) := by
    unfold entry?
    rw [form, Record.line?_of_unmarked journal.session named unmarked record]
    rfl
  rw [filterMap_due?, funext entry, List.filterMap_eq_map']
  rfl

/--
A journal that is set up for lines of text, with a directory that can be used, writes to the console
and to one file.  To both of them the records that follow add the lines that are due, in order, for
those at or above the level of the settings, and nothing else, whatever the records are: this holds
exactly if no percent sign stands among the first eight characters of the identity of the session.
-/
theorem adds_dueLines_iff
    (journal : Journal)
    (settings : SystemSettings)
    (given : Option String)
    (fresh : String)
    (clock : Nat → Moment)
    (files : FileTree)
    (form : settings.logFormat = .text)
    (named : identity settings given fresh ≠ "")
    (usable : openFile journal.files settings = .ok files) :
    ∃ up,
      journal.setUp settings given fresh clock = .ok up ∧
        Keeps (filePath settings) up ∧
          ((∀ records : List Record,
              Adds (filePath settings)
                (dueLines (identity settings given fresh) settings.logLevel records) up
                (records.foldl take up)) ↔
            '%' ∉ (identity settings given fresh).toList.take 8) := by
  rcases setUp_of_openFile usable given fresh clock with ⟨up, ready, keeps, session, level, format⟩
  rw [← session] at named
  refine ⟨up, ready, keeps, ?_⟩
  rw [← session, ← level]
  have textual := format.trans form
  constructor
  · intro every
    have serious : up.level.number ≤ Record.plainest.level.number := by
      cases up.level <;> decide
    have due := every [.plainest]
    have taken := adds_takes keeps [.plainest]
    have same := List.append_cancel_left (due.console_eq.symm.trans taken.console_eq)
    rw [filterMap_due?, dueLines, List.filter_cons_of_pos (by simpa using serious)] at same
    refine Record.unmarked_of_line?_plainest up.session named ?_
    cases line : Record.plainest.line? up.session with
    | none => simp [textual, entry?, line] at same
    | some text => simpa [textual, entry?, line] using same.symm
  · intro unmarked records
    rw [← filterMap_due?_text textual named unmarked records]
    exact adds_takes keeps records

/-- Of a long identity the first eight characters are shown. -/
theorem adds_dueLines_of_long_identity :
    let settings : SystemSettings := { logDir := "logs", sessionId := "abcdefghijkl" }
    let noon : Moment := { year := 2024, month := 5, day := 6, hour := 12 }
    let record : Record := { name := "m", level := .info, message := "100%", moment := noon }
    let quiet : Record := { name := "m", level := .debug, message := "x" }
    ∃ up,
      ({} : Journal).setUp settings none "" = .ok up ∧
        Adds (filePath settings) ["2024-05-06 12:00:00 [abcdefgh] INFO     m: 100%\n".toList] up
          ([record, quiet].foldl take up) := by
  intro settings noon record quiet
  have usable : (openFile ({} : Journal).files settings).isOk = true := by
    decide +kernel
  rcases exists_openFile usable with ⟨files, opened⟩
  rcases adds_dueLines_iff {} settings none "" (fun _ => {}) files rfl (by decide) opened with
    ⟨up, ready, keeps, condition⟩
  have lines : dueLines "abcdefghijkl" .info [record, quiet] =
      ["2024-05-06 12:00:00 [abcdefgh] INFO     m: 100%\n".toList] := by
    decide +kernel
  exact ⟨up, ready, lines ▸ condition.2 (by decide) [record, quiet]⟩

/-- Two percent signs in the identity of the session are shown as one. -/
theorem doubled_percent_sign_is_halved :
    let settings : SystemSettings := { logDir := "logs", sessionId := "50%%" }
    let record : Record := { name := "m", level := .info, message := "x" }
    ∃ up,
      ({} : Journal).setUp settings none "" = .ok up ∧
        (up.take record).console =
            up.console ++ "1970-01-01 00:00:00 [50%] INFO     m: x\n".toList ∧
          ¬ Adds (filePath settings) (dueLines "50%%" .info [record]) up (up.take record) := by
  intro settings record
  have usable : (openFile ({} : Journal).files settings).isOk = true := by
    decide +kernel
  rcases exists_openFile usable with ⟨files, opened⟩
  have line : record.line? "50%%" =
      some "1970-01-01 00:00:00 [50%] INFO     m: x".toList := by
    decide +kernel
  rcases setUp_of_openFile opened none "" (fun _ => {}) with ⟨up, ready, keeps, session, level, format⟩
  have identity : up.session = "50%%" := session
  have due : up.due? record = some "1970-01-01 00:00:00 [50%] INFO     m: x\n".toList := by
    rw [due?, entry?, format, level, identity, line]
    rfl
  have shown := (adds_take keeps record).console_eq
  rw [due] at shown
  refine ⟨up, ready, shown, ?_⟩
  intro adds
  have same := List.append_cancel_left (adds.console_eq.symm.trans shown)
  revert same
  decide +kernel

end Journal

end TimedText
