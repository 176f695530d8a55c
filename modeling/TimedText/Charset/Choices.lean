/-!
# Encodings to choose from

The names of encodings that are offered, each with a description.  The empty name stands for the
encoding of the locale.  Names are offered whether or not they can be opened.
-/

namespace TimedText.Charset

/-- A name that can be configured, and what to tell about it. -/
structure Choice where
  name : String
  label : String
deriving DecidableEq, Repr

/-- The names that are offered. -/
def choices : List Choice :=
  [ ⟨"", "Default (Windows-1252)"⟩,
    ⟨"system", "System codeset"⟩,
    ⟨"UTF-8", "Universal (UTF-8)"⟩,
    ⟨"UTF-16", "Universal (UTF-16)"⟩,
    ⟨"UTF-16BE", "Universal (big endian UTF-16)"⟩,
    ⟨"UTF-16LE", "Universal (little endian UTF-16)"⟩,
    ⟨"GB18030", "Universal, Chinese (GB18030)"⟩,
    ⟨"ISO-8859-15", "Western European (Latin-9)"⟩,
    ⟨"Windows-1252", "Western European (Windows-1252)"⟩,
    ⟨"IBM850", "Western European (IBM 00850)"⟩,
    ⟨"ISO-8859-2", "Eastern European (Latin-2)"⟩,
    ⟨"Windows-1250", "Eastern European (Windows-1250)"⟩,
    ⟨"ISO-8859-3", "Esperanto (Latin-3)"⟩,
    ⟨"ISO-8859-10", "Nordic (Latin-6)"⟩,
    ⟨"Windows-1251", "Cyrillic (Windows-1251)"⟩,
    ⟨"KOI8-R", "Russian (KOI8-R)"⟩,
    ⟨"KOI8-U", "Ukrainian (KOI8-U)"⟩,
    ⟨"ISO-8859-6", "Arabic (ISO 8859-6)"⟩,
    ⟨"Windows-1256", "Arabic (Windows-1256)"⟩,
    ⟨"ISO-8859-7", "Greek (ISO 8859-7)"⟩,
    ⟨"Windows-1253", "Greek (Windows-1253)"⟩,
    ⟨"ISO-8859-8", "Hebrew (ISO 8859-8)"⟩,
    ⟨"Windows-1255", "Hebrew (Windows-1255)"⟩,
    ⟨"ISO-8859-9", "Turkish (ISO 8859-9)"⟩,
    ⟨"Windows-1254", "Turkish (Windows-1254)"⟩,
    ⟨"ISO-8859-11", "Thai (TIS 620-2533/ISO 8859-11)"⟩,
    ⟨"Windows-874", "Thai (Windows-874)"⟩,
    ⟨"ISO-8859-13", "Baltic (Latin-7)"⟩,
    ⟨"Windows-1257", "Baltic (Windows-1257)"⟩,
    ⟨"ISO-8859-14", "Celtic (Latin-8)"⟩,
    ⟨"ISO-8859-16", "South-Eastern European (Latin-10)"⟩,
    ⟨"ISO-2022-CN-EXT", "Simplified Chinese (ISO-2022-CN-EXT)"⟩,
    ⟨"EUC-CN", "Simplified Chinese Unix (EUC-CN)"⟩,
    ⟨"ISO-2022-JP-2", "Japanese (7-bits JIS/ISO-2022-JP-2)"⟩,
    ⟨"EUC-JP", "Japanese Unix (EUC-JP)"⟩,
    ⟨"Shift_JIS", "Japanese (Shift JIS)"⟩,
    ⟨"CP949", "Korean (EUC-KR/CP949)"⟩,
    ⟨"ISO-2022-KR", "Korean (ISO-2022-KR)"⟩,
    ⟨"Big5", "Traditional Chinese (Big5)"⟩,
    ⟨"ISO-2022-TW", "Traditional Chinese Unix (EUC-TW)"⟩,
    ⟨"Big5-HKSCS", "Hong-Kong Supplementary (HKSCS)"⟩,
    ⟨"VISCII", "Vietnamese (VISCII)"⟩,
    ⟨"Windows-1258", "Vietnamese (Windows-1258)"⟩ ]

/-- The width of the column of names. -/
def nameWidth : Nat := 16

/-- The line of a choice: its name, filled up with spaces, and its description. -/
def Choice.line (choice : Choice) : List Char :=
  let name := (if choice.name.isEmpty then "(default)" else choice.name).toList
  name ++ List.replicate (nameWidth - name.length) ' ' ++ ' ' :: choice.label.toList ++ ['\n']

/-- The lines of all choices. -/
def listing : List Char :=
  choices.flatMap Choice.line

end TimedText.Charset
