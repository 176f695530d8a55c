import TimedText.Proofs.Charset.Choice
import TimedText.Session

/-!
# What a name opens

The name that is chosen for a session is any string at all: it may have been written by hand, or
taken from a container.  If it spells UTF-8, packets are taken as they are; if it is the name of an
encoding, they are decoded; and if it is neither, they are taken for UTF-8 and the name is reported.
Nothing is opened for a name that cannot be looked up.  Of the names that are written here those are
the ones that hold a NUL character; a name of this kind can spell neither UTF-8 nor the name of an
encoding.
-/

namespace TimedText

/-! ## Names that hold a NUL character -/

namespace Text

theorem mem_trimStart
    (text : List Char)
    (char : Char)
    (visible : isBlank char = false)
    (member : char ∈ text) :
    char ∈ trimStart text := by
  rw [← List.takeWhile_append_dropWhile (p := isBlank) (l := text), List.mem_append] at member
  rcases member with front | kept
  · rw [List.mem_takeWhile_imp front] at visible
    cases visible
  · exact kept

/-- Trimming takes away nothing but white space. -/
theorem mem_trim
    (text : List Char)
    (char : Char)
    (visible : isBlank char = false)
    (member : char ∈ text) :
    char ∈ trim text := by
  rw [trim, trimEnd, List.mem_reverse]
  refine mem_trimStart _ char visible ?_
  rw [List.mem_reverse]
  exact mem_trimStart text char visible member

end Text

namespace Encoding

/-- A name that calls for UTF-8, in any letter case and with any white space around it. -/
def SpellsUtf8 (name : String) : Prop :=
  Text.lowered (Text.trimmed name) = "utf-8" ∨ Text.lowered (Text.trimmed name) = "utf8"

instance (name : String) : Decidable (SpellsUtf8 name) :=
  inferInstanceAs (Decidable (_ ∨ _))

theorem isUtf8Name_iff (name : String) : isUtf8Name name = true ↔ SpellsUtf8 name := by
  rw [isUtf8Name, Bool.or_eq_true, beq_iff_eq, beq_iff_eq, SpellsUtf8]

/-- A NUL character is neither white space nor does it have a letter case. -/
theorem nul_mem_lowered_trimmed
    (name : String)
    (holds : '\x00' ∈ name.toList) :
    '\x00' ∈ (Text.lowered (Text.trimmed name)).toList := by
  rw [Text.lowered, Text.trimmed, String.toList_ofList, String.toList_ofList]
  exact Text.mem_lower_of_mem _ _ rfl (Text.mem_trim _ _ rfl holds)

theorem nul_notMem_of_spellsUtf8
    (name : String)
    (spells : SpellsUtf8 name) :
    '\x00' ∉ name.toList := by
  intro holds
  have kept := nul_mem_lowered_trimmed name holds
  rcases spells with spelled | spelled
  · rw [spelled] at kept
    revert kept
    decide
  · rw [spelled] at kept
    revert kept
    decide

/-- A catalogue that refuses to look up exactly the names that hold a NUL character. -/
def Catalogue.ShunsNul (catalogue : Catalogue) : Prop :=
  ∀ name, '\x00' ∈ name.toList ↔ ∃ fault, catalogue name = .error fault ∧ fault.isFatal = true

theorem shunsNul_catalogue : catalogue.ShunsNul := by
  intro name
  simp only [catalogue_eq_error_iff]
  unfold ofName
  split
  next holds =>
    refine ⟨fun _ => ⟨.holdsNul, rfl, rfl⟩, fun _ => ?_⟩
    simpa using holds
  next clean =>
    have absent : '\x00' ∉ name.toList := by simpa using clean
    split <;> simp [absent, NameFault.isFatal]

end Encoding

namespace Charset

open Encoding (Catalogue Scheme SpellsUtf8)

/-! ## Converters -/

/-- A converter is opened for every choice whose name spells UTF-8 or can be looked up. -/
theorem exists_converter_iff (charset : Charset) (catalogue : Catalogue) :
    (∃ opened, charset.converter catalogue = .ok opened) ↔
      SpellsUtf8 charset.name ∨
        ∀ fault, catalogue charset.name = .error fault → fault.isFatal = false := by
  have same := Converter.open?_eq_error_iff charset.name charset.detect catalogue
  simp only [← same]
  unfold converter
  split
  next spells => simp [(Encoding.isUtf8Name_iff _).1 spells]
  next unspelled =>
    have other := mt (Encoding.isUtf8Name_iff charset.name).2 unspelled
    split
    next made => simp [made]
    next fault refused =>
      split
      next fatal => simp [other, refused, fatal]
      next harmless => simpa [other, refused] using harmless

/-- Where NUL characters alone prevent that a name is looked up, they alone prevent the opening. -/
theorem exists_converter_iff_of_shunsNul
    (charset : Charset)
    (catalogue : Catalogue)
    (shuns : catalogue.ShunsNul) :
    (∃ opened, charset.converter catalogue = .ok opened) ↔ '\x00' ∉ charset.name.toList := by
  rw [exists_converter_iff, shuns charset.name]
  constructor
  · rintro (spells | harmless) ⟨fault, refused, fatal⟩
    · have holds := (shuns charset.name).2 ⟨fault, refused, fatal⟩
      exact Encoding.nul_notMem_of_spellsUtf8 _ spells holds
    · rw [harmless fault refused] at fatal
      cases fatal
  · intro clean
    right
    intro fault refused
    by_contra fatal
    exact clean ⟨fault, refused, by simpa using fatal⟩

/-- What is reported of a name that could not be opened. -/
def reports (refusal : Option Refusal) : List Notice :=
  refusal.toList.map .refused

/--
The three ways to open a choice: as its name spells UTF-8, as the catalogue knows an encoding by it,
or as it knows none, which is reported once, as an error, with the name and what is wrong with it.
-/
inductive Opens
    (charset : Charset)
    (catalogue : Catalogue) :
    (converter : Converter) → (notices : List Notice) → Prop where
  | direct
      (spells : SpellsUtf8 charset.name) :
      Opens charset catalogue .direct []
  | decoding
      (scheme : Scheme)
      (other : ¬ SpellsUtf8 charset.name)
      (named : catalogue charset.name = .ok scheme) :
      Opens charset catalogue (.decoding charset.name scheme charset.detect) []
  | fallback
      (fault : Encoding.NameFault)
      (notice : Notice)
      (other : ¬ SpellsUtf8 charset.name)
      (unnamed : catalogue charset.name = .error fault)
      (level : notice.level = .error)
      (message :
        notice.message =
          charset.name ++ "에서 변환할 수 없습니다: " ++ fault.message charset.name) :
      Opens charset catalogue .direct [notice]

theorem opens_of_converter
    (charset : Charset)
    (catalogue : Catalogue)
    (converter : Converter)
    (refusal : Option Refusal)
    (opened : charset.converter catalogue = .ok (converter, refusal)) :
    Opens charset catalogue converter (reports refusal) := by
  unfold Charset.converter at opened
  split at opened
  next spells =>
    cases opened
    exact .direct ((Encoding.isUtf8Name_iff _).1 spells)
  next unspelled =>
    have other := mt (Encoding.isUtf8Name_iff charset.name).2 unspelled
    split at opened
    next made =>
      cases opened
      rcases (Converter.open?_eq_ok_iff _ _ _ _).1 made with ⟨scheme, named, rfl⟩
      exact .decoding scheme other named
    next fault unmade =>
      split at opened
      next => cases opened
      next =>
        cases opened
        have unnamed := (Converter.open?_eq_error_iff _ _ _ _).1 unmade
        exact .fallback fault (.refused { name := charset.name, fault }) other unnamed rfl rfl

/-! ## Sessions -/

/--
Whatever is declared, configured and reported by the platform, and whatever catalogue the names of
encodings are looked up in, a converter is opened for the choice exactly if its name spells UTF-8 or
can be looked up, and then a session with it.  Where NUL characters alone prevent that a name is
looked up, as in the registry, a converter is opened exactly if the name holds none.  The converter
takes packets for UTF-8 without a report if the name spells UTF-8, decodes them under the name if
this is the name of an encoding, and else takes them for UTF-8 and has one error to report, which
tells the name.
-/
theorem opens_unless_name_holds_nul
    (settings : DecoderSettings)
    (platform : String)
    (declaration : Option String)
    (codec : Codec)
    (lookup : Color.Lookup)
    (catalogue : Catalogue) :
    let charset := choose settings.preferences platform declaration codec.isUtf8
    ((∃ opened, charset.converter catalogue = .ok opened) ↔
        SpellsUtf8 charset.name ∨
          ∀ fault, catalogue charset.name = .error fault → fault.isFatal = false) ∧
      (catalogue.ShunsNul →
        ((∃ opened, charset.converter catalogue = .ok opened) ↔
          '\x00' ∉ charset.name.toList)) ∧
      Encoding.catalogue.ShunsNul ∧
      ∀ converter refusal,
        charset.converter catalogue = .ok (converter, refusal) →
          Opens charset catalogue converter (reports refusal) ∧
            Session.open? settings codec declaration lookup platform catalogue =
              .ok ({ codec, settings, converter, lookup }, reports refusal) := by
  dsimp only
  refine
    ⟨exists_converter_iff _ catalogue, exists_converter_iff_of_shunsNul _ catalogue,
      Encoding.shunsNul_catalogue, ?_⟩
  intro converter refusal opened
  refine ⟨opens_of_converter _ catalogue converter refusal opened, ?_⟩
  simp only [Session.open?, opened, reports]

/-- A name that nothing is known by is reported, and packets are taken for UTF-8. -/
theorem opens_unless_name_holds_nul_under_unknown_name :
    ∃ session notice,
      Session.open? {} .subt (some "Windows-874") Color.byName "UTF-8" =
          .ok (session, [notice]) ∧
        session.converter = .direct ∧ notice.level = .error ∧
          notice.message = "Windows-874에서 변환할 수 없습니다: unknown encoding: Windows-874" := by
  rcases
    opens_unless_name_holds_nul {} "UTF-8" (some "Windows-874") .subt Color.byName
      Encoding.catalogue with
    ⟨-, openable, shuns, ways⟩
  rcases (openable shuns).2 (by decide +kernel) with ⟨⟨converter, refusal⟩, opened⟩
  rcases ways converter refusal opened with ⟨opens, opening⟩
  have unknown : Encoding.catalogue "Windows-874" = .error .unknown := by
    rfl
  generalize reports refusal = notices at opens opening
  cases opens with
  | direct spells => exact absurd spells (by decide +kernel)
  | decoding scheme other named => cases unknown.symm.trans named
  | fallback fault notice other unnamed level message =>
      cases unknown.symm.trans unnamed
      exact ⟨_, notice, opening, rfl, level, message⟩

/-- A declared name that holds a NUL character stops the session before its first packet. -/
theorem nul_in_declared_name_is_fatal :
    (choose {} "UTF-8" (some "a\x00b") false).converter = .error .holdsNul ∧
      (Session.open? {} .subt (some "a\x00b") Color.byName "UTF-8").map (·.2) =
        .error .holdsNul := by
  have refused :
      (choose {} "UTF-8" (some "a\x00b") false).converter = .error .holdsNul := by
    rfl
  exact ⟨refused, by rw [Session.open?]; rfl⟩

end Charset

end TimedText
