import TimedText.Converter

/-!
# Choosing the encoding of a session

A session takes its encoding from the first of these that gives one: the kind of its stream, the
encoding declared with the stream, the configured encoding, and the encoding of the locale.
Detection of UTF-8 can be on only where nothing but configuration or locale speaks for the
encoding.

Opening the chosen encoding never fails for want of a known name: the session then takes its packets
for UTF-8 and reports the name.  Only a name that cannot be looked up is refused.
-/

namespace TimedText

open Encoding (Catalogue NameFault)

/-- What a session is told about the encoding of its packets. -/
structure Preferences where
  configured : String := ""
  fallback : String := "CP1252"
  detect : Bool := true
deriving DecidableEq, Repr

/-- Where the encoding of a session comes from. -/
inductive CharsetSource where
  | codec
  | declared
  | configured
  | fallback
deriving DecidableEq, Repr

namespace CharsetSource

/-- The word for a source. -/
def name : CharsetSource → String
  | codec => "codec"
  | declared => "declared"
  | configured => "configured"
  | fallback => "locale"

end CharsetSource

/-- The choice of an encoding: its name, its source, and whether UTF-8 is to be detected. -/
structure Charset where
  name : String
  source : CharsetSource
  detect : Bool
deriving DecidableEq, Repr

namespace Charset

/-- The configured name that stands for the encoding of the platform. -/
def systemName : String := "system"

/-- The encoding of the locale where none is set. -/
def defaultFallback : String := "CP1252"

/-- The encoding that a declaration names, unless it is blank. -/
def declared? (declaration : Option String) : Option String :=
  declaration.bind fun name =>
    let trimmed := Text.trimmed name
    if trimmed.isEmpty then none else some trimmed

/-- The encoding that configuration and locale give on a platform. -/
def preferred (preferences : Preferences) (platform : String) : Charset :=
  let configured := Text.trimmed preferences.configured
  if configured.isEmpty then
    { name := if preferences.fallback.isEmpty then defaultFallback else preferences.fallback,
      source := .fallback,
      detect := preferences.detect }
  else
    { name := if Text.lowered configured = systemName then platform else configured,
      source := .configured,
      detect := preferences.detect }

/-- The choice for a session on a platform; `always` is set for streams that are always UTF-8. -/
def choose
    (preferences : Preferences)
    (platform : String)
    (declaration : Option String)
    (always : Bool) :
    Charset :=
  if always then
    { name := Converter.directName, source := .codec, detect := false }
  else
    match declared? declaration with
    | some name => { name, source := .declared, detect := false }
    | none => preferred preferences platform

/-- A choice that needs no decoder. -/
def isUtf8 (charset : Charset) : Bool :=
  Encoding.isUtf8Name charset.name

/-- A name that could not be opened. -/
structure Refusal where
  name : String
  fault : NameFault
deriving DecidableEq, Repr

/-- The report on a name that could not be opened. -/
def Refusal.message (refusal : Refusal) : String :=
  refusal.name ++ "에서 변환할 수 없습니다: " ++ refusal.fault.message refusal.name

/--
The converter for a choice, and the name to report if it could not be opened.  A name that cannot be
looked up opens nothing.
-/
def converter
    (charset : Charset)
    (catalogue : Catalogue := Encoding.catalogue) :
    Except NameFault (Converter × Option Refusal) :=
  if charset.isUtf8 then
    .ok (.direct, none)
  else
    match Converter.open? charset.name charset.detect catalogue with
    | .ok converter => .ok (converter, none)
    | .error fault =>
        if fault.isFatal then .error fault
        else .ok (.direct, some { name := charset.name, fault })

end Charset

end TimedText
