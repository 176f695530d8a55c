import TimedText.Proofs.Session.Exit
import TimedText.Proofs.Text.Numeral

/-!
# Reading timestamps

A timestamp is four numbers with marks between them: hours in at least two digits, minutes and
seconds below sixty in two, and thousandths in three.  These four numbers are read back from it, so
it tells its time to the thousandth of a second, and times before zero are told as zero.

From this follow the order of timestamps, and that the caption of a decoded subtitle does not end
before it begins.  How long a number may be is no matter of this module: the hours take as many
digits as they need.
-/

namespace TimedText

namespace Timestamp

/-! ## The form of a timestamp -/

/-- A text is a timestamp, and it shows these four numbers. -/
inductive Shows : (text : List Char) → (stamp : Timestamp) → Prop where
  | parts
      (hours minutes seconds thousandths : List Char)
      (digits : ∀ char ∈ hours ++ minutes ++ seconds ++ thousandths, char.isDigit = true)
      (hoursWidth : 2 ≤ hours.length)
      (minutesWidth : minutes.length = 2)
      (secondsWidth : seconds.length = 2)
      (thousandthsWidth : thousandths.length = 3)
      (minutesBound : Text.numeralValue minutes < 60)
      (secondsBound : Text.numeralValue seconds < 60)
      (thousandthsBound : Text.numeralValue thousandths < 1000) :
      Shows
        (hours ++ ':' :: (minutes ++ ':' :: (seconds ++ '.' :: thousandths)))
        { hours := Text.numeralValue hours,
          minutes := Text.numeralValue minutes,
          seconds := Text.numeralValue seconds,
          thousandths := Text.numeralValue thousandths }

/-- The parts of a timestamp are never out of their bounds. -/
theorem bounds_ofThousandths (count : Nat) :
    (ofThousandths count).minutes < 60 ∧
      (ofThousandths count).seconds < 60 ∧
      (ofThousandths count).thousandths < 1000 := by
  refine ⟨?_, ?_, ?_⟩
  · exact Nat.mod_lt _ (by decide)
  · exact Nat.mod_lt _ (by decide)
  · exact Nat.mod_lt _ (by decide)

/-- A time is written as a timestamp that shows it. -/
theorem shows_render (micros : Int) : Shows (ofMicros micros).render (ofMicros micros) := by
  rcases bounds_ofThousandths (elapsed micros) with ⟨minutes, seconds, thousandths⟩
  change (ofMicros micros).minutes < 60 at minutes
  change (ofMicros micros).seconds < 60 at seconds
  change (ofMicros micros).thousandths < 1000 at thousandths
  generalize ofMicros micros = stamp at minutes seconds thousandths ⊢
  have shows :=
    Shows.parts (Text.padded 2 stamp.hours) (Text.padded 2 stamp.minutes)
      (Text.padded 2 stamp.seconds) (Text.padded 3 stamp.thousandths)
  simp only [Text.numeralValue_padded, List.forall_mem_append] at shows
  have written :
      stamp.render =
        Text.padded 2 stamp.hours ++ ':' :: (Text.padded 2 stamp.minutes ++
          ':' :: (Text.padded 2 stamp.seconds ++ '.' :: Text.padded 3 stamp.thousandths)) := by
    simp only [render, List.append_assoc, List.cons_append]
  rw [written]
  apply shows
  · exact ⟨⟨⟨Text.isDigit_of_mem_padded _ _, Text.isDigit_of_mem_padded _ _⟩,
      Text.isDigit_of_mem_padded _ _⟩, Text.isDigit_of_mem_padded _ _⟩
  · rw [Text.length_padded]
    exact le_max_left 2 _
  · exact Text.length_padded_of_lt 2 _ (by decide) (minutes.trans (by decide))
  · exact Text.length_padded_of_lt 2 _ (by decide) (seconds.trans (by decide))
  · exact Text.length_padded_of_lt 3 _ (by decide) thousandths
  · exact minutes
  · exact seconds
  · exact thousandths

/-! ## Reading back -/

/-- The timestamp that a text is, found by the marks between its parts. -/
def read? (text : List Char) : Option Timestamp :=
  match text.splitOn ':' with
  | [hours, minutes, rest] =>
      match rest.splitOn '.' with
      | [seconds, thousandths] =>
          some
            { hours := Text.numeralValue hours,
              minutes := Text.numeralValue minutes,
              seconds := Text.numeralValue seconds,
              thousandths := Text.numeralValue thousandths }
      | _ => none
  | _ => none

/-- The part in front of a mark is split off, if the mark is not in it. -/
theorem splitOn_append_cons
    (part rest : List Char)
    (mark : Char)
    (whole : mark ∉ part) :
    (part ++ mark :: rest).splitOn mark = part :: rest.splitOn mark := by
  rw [List.splitOn_append_cons_self, List.splitOn_eq_singleton whole]
  rfl

/-- What a text shows is read from it. -/
theorem read?_of_shows
    {text : List Char}
    {stamp : Timestamp}
    (shows : Shows text stamp) :
    read? text = some stamp := by
  cases shows with
  | parts hours minutes seconds thousandths digits =>
      have whole (mark : Char) (foreign : mark.isDigit = false) :
          mark ∉ hours ++ minutes ++ seconds ++ thousandths := by
        intro member
        rw [digits mark member] at foreign
        cases foreign
      have colon := whole ':' rfl
      have stop := whole '.' rfl
      simp only [List.mem_append, not_or] at colon stop
      rcases colon with ⟨⟨⟨inHours, inMinutes⟩, inSeconds⟩, inThousandths⟩
      have behind : ':' ∉ seconds ++ '.' :: thousandths := by
        simp [inSeconds, inThousandths]
      unfold read?
      rw [splitOn_append_cons hours _ ':' inHours, splitOn_append_cons minutes _ ':' inMinutes,
        List.splitOn_eq_singleton behind]
      dsimp only
      rw [splitOn_append_cons seconds _ '.' stop.1.2, List.splitOn_eq_singleton stop.2]

/-- A time is read back from its timestamp. -/
theorem read?_render (micros : Int) : read? (ofMicros micros).render = some (ofMicros micros) :=
  read?_of_shows (shows_render micros)

/-! ## Times -/

/-- A timestamp tells the thousandths that have passed since zero. -/
theorem total_ofMicros (micros : Int) : ((ofMicros micros).total : Int) = max 0 micros / 1000 := by
  rw [ofMicros, total_ofThousandths, elapsed]
  omega

/-- A later time has no smaller timestamp. -/
theorem total_ofMicros_le
    {earlier later : Int}
    (order : earlier ≤ later) :
    (ofMicros earlier).total ≤ (ofMicros later).total := by
  apply Int.ofNat_le.1
  rw [total_ofMicros, total_ofMicros]
  apply Int.ediv_le_ediv (by decide)
  exact max_le_max_left 0 order

/-- Times that have the same total have the same timestamp. -/
theorem ofMicros_eq_iff (left right : Int) :
    ofMicros left = ofMicros right ↔ (ofMicros left).total = (ofMicros right).total := by
  constructor
  · intro same
    rw [same]
  · intro same
    rw [ofMicros, ofMicros, total_ofThousandths, total_ofThousandths] at same
    rw [ofMicros, ofMicros, same]

/-- Two times have the same written form exactly if they agree to the thousandth. -/
theorem render_eq_iff (left right : Int) :
    (ofMicros left).render = (ofMicros right).render ↔ max 0 left / 1000 = max 0 right / 1000 := by
  rw [← total_ofMicros, ← total_ofMicros, Int.ofNat_inj, ← ofMicros_eq_iff]
  constructor
  · intro same
    apply Option.some_inj.1
    rw [← read?_render, same, read?_render]
  · intro same
    rw [same]

end Timestamp

/-! ## Captions -/

/--
A caption begins with two texts between brackets: the timestamp of the start, and behind an arrow
that of the stop, or dots where the subtitle has no length.
-/
structure Subtitle.Begins (subtitle : Subtitle) (first last : List Char) : Prop where
  written : ∃ rest, subtitle.caption.toList = '[' :: (first ++ " --> ".toList ++ last ++ ']' :: rest)
  start : first = (Timestamp.ofMicros subtitle.start).render
  lasting : subtitle.ephemeral = true → last = "...".toList
  stop : subtitle.ephemeral = false → last = (Timestamp.ofMicros subtitle.stop).render

theorem Subtitle.exists_begins (subtitle : Subtitle) :
    ∃ first last, subtitle.Begins first last := by
  refine
    ⟨(Timestamp.ofMicros subtitle.start).render,
      if subtitle.ephemeral then "...".toList else (Timestamp.ofMicros subtitle.stop).render, ?_⟩
  constructor
  · refine ⟨" (".toList ++ (subtitle.placeName ++ ")\n" ++ subtitle.text).toList, ?_⟩
    rw [caption, span]
    simp [String.toList_append]
  · rfl
  · intro lasting
    exact if_pos lasting
  · intro ends
    rw [ends]
    rfl

/-- A decoded subtitle of a packet without a negative length does not stop before it starts. -/
theorem Session.start_le_stop_of_decode
    {session : Session}
    {packet : Packet}
    {subtitle : Subtitle}
    (natural : 0 ≤ packet.length)
    (shown : (session.decode packet).result = .ok (some subtitle)) :
    subtitle.start ≤ subtitle.stop := by
  rcases shown_of_decode session packet subtitle shown with ⟨start, text, outcome, _, _, rfl⟩
  exact Int.le_add_of_nonneg_right natural

/-! ## Exactness and order -/

/--
The timestamp of a time shows hours, minutes, seconds and thousandths that are read back from it and
add up to the time, cut off below the thousandth and at zero.  So times have the same timestamp
exactly if they agree so far, and a later one never reads as an earlier one.  The caption of a
decoded subtitle whose packet has no negative length shows its start and stop in that order.
-/
theorem Timestamp.timestamps_are_exact :
    (∀ micros : Int,
        Shows (ofMicros micros).render (ofMicros micros) ∧
          ∃ stamp,
            read? (ofMicros micros).render = some stamp ∧
              (stamp.total : Int) = max 0 micros / 1000) ∧
      (∀ left right : Int,
        (ofMicros left).render = (ofMicros right).render ↔
          max 0 left / 1000 = max 0 right / 1000) ∧
      (∀ (earlier later : Int) (first last : Timestamp),
        earlier ≤ later →
          read? (ofMicros earlier).render = some first →
            read? (ofMicros later).render = some last →
              first.total ≤ last.total) ∧
      ∀ (session : Session) (packet : Packet) (subtitle : Subtitle),
        0 ≤ packet.length →
          (session.decode packet).result = .ok (some subtitle) →
            ∃ first last start,
              subtitle.Begins first last ∧
                read? first = some start ∧
                (subtitle.ephemeral = false →
                  ∃ stop, read? last = some stop ∧ start.total ≤ stop.total) := by
  refine ⟨?_, render_eq_iff, ?_, ?_⟩
  · intro micros
    exact ⟨shows_render micros, ofMicros micros, read?_render micros, total_ofMicros micros⟩
  · intro earlier later first last order readFirst readLast
    rw [read?_render, Option.some_inj] at readFirst readLast
    rw [← readFirst, ← readLast]
    exact total_ofMicros_le order
  · intro session packet subtitle natural shown
    rcases subtitle.exists_begins with ⟨first, last, begins⟩
    refine ⟨first, last, ofMicros subtitle.start, begins, ?_, ?_⟩
    · rw [begins.start]
      exact read?_render subtitle.start
    · intro ends
      refine ⟨ofMicros subtitle.stop, ?_, ?_⟩
      · rw [begins.stop ends]
        exact read?_render subtitle.stop
      · exact total_ofMicros_le (Session.start_le_stop_of_decode natural shown)

/-- A microsecond carries through all parts, and the hours need a third digit. -/
theorem Timestamp.timestamps_are_exact_across_carries :
    let session : Session :=
      { codec := .subt, settings := {}, converter := .direct, lookup := Color.byName }
    let packet : Packet := { data := [0x61], start := some 359999999999, length := 1 }
    let subtitle : Subtitle :=
      .timed 359999999999 1 (.place .bottom .center) [{ text := "a" }]
    (session.decode packet).result = .ok (some subtitle) ∧
      subtitle.caption = "[99:59:59.999 --> 100:00:00.000] (bottom-center)\na" ∧
      (∃ first last : Timestamp,
        read? "99:59:59.999".toList = some first ∧
          read? "100:00:00.000".toList = some last ∧ first.total ≤ last.total) ∧
      ∃ first last start,
        subtitle.Begins first last ∧
          read? first = some start ∧
          (subtitle.ephemeral = false → ∃ stop, read? last = some stop ∧ start.total ≤ stop.total) := by
  intro session packet subtitle
  have shown : (session.decode packet).result = .ok (some subtitle) := by cbv
  have earlier : (ofMicros 359999999999).render = "99:59:59.999".toList := by cbv
  have later : (ofMicros 360000000000).render = "100:00:00.000".toList := by cbv
  rcases timestamps_are_exact with ⟨-, -, ordered, captioned⟩
  refine ⟨shown, by cbv, ?_, ?_⟩
  · refine ⟨⟨99, 59, 59, 999⟩, ⟨100, 0, 0, 0⟩, ?_, ?_, ?_⟩
    · rw [← earlier]
      exact read?_render _
    · rw [← later]
      exact read?_render _
    · apply ordered 359999999999 360000000000 _ _ (by decide)
      · exact read?_render _
      · exact read?_render _
  · exact captioned session packet subtitle (by decide) shown

end TimedText
