import TimedText.Encoding
import TimedText.Text.Blank
import TimedText.Text.LetterCase

/-!
# Names of encodings

Encodings go by many names.  A name is looked up in a plain form: letters and digits in lower case,
with one underscore for every run of other characters between them.  A full stop counts as a letter.
If the name is not found so, a full stop counts as an underscore, but not in the proper name of an
encoding, only in its other names.

A name may also belong to a transformation of bytes that yields no text, and one that holds a NUL
character is not looked up at all.

Where names are looked up is a catalogue.  The one here is the registry, which knows the encodings
that are defined in this library; any other catalogue can stand in its place.
-/

namespace TimedText.Encoding

/-- What a name stands for. -/
inductive Named where
  | encoding (encoding : Encoding)
  | transformation
deriving DecidableEq, Repr

/--
Why no encoding can be had for a name: the name is looked up and no encoding is found, or the name
cannot be looked up in the first place.
-/
inductive NameFault where
  | unknown
  | notText
  | holdsNul
  | unfit (reason : String)
deriving DecidableEq, Repr

namespace NameFault

/-- The report on a name. -/
def message (name : String) : NameFault → String
  | unknown => "unknown encoding: " ++ name
  | notText => "'" ++ name ++ "'은(는) 텍스트 인코딩이 아닙니다"
  | holdsNul => "embedded null character"
  | unfit reason => reason

/-- A name that cannot be looked up. -/
def isFatal : NameFault → Bool
  | unknown => false
  | notText => false
  | holdsNul => true
  | unfit _ => true

end NameFault

/-- Where names of encodings are looked up. -/
abbrev Catalogue := String → Except NameFault Scheme

/-- A character that stands for itself in a plain name. -/
def isNameChar (char : Char) : Bool :=
  char.isAlphanum || char == '.'

/--
The plain form of a name.  `started` tells whether a character was written already, and `gap`
whether an underscore is due before the next one.
-/
def plainNameFrom (started gap : Bool) : List Char → List Char
  | [] => []
  | char :: rest =>
      if isNameChar char then
        if started && gap then '_' :: char.toLower :: plainNameFrom true false rest
        else char.toLower :: plainNameFrom true false rest
      else
        plainNameFrom started true rest

/-- The plain form of a name. -/
def plainName (name : String) : String :=
  String.ofList (plainNameFrom false false name.toList)

/-- The plain form of a name with underscores for full stops. -/
def undottedName (name : String) : String :=
  String.ofList ((plainNameFrom false false name.toList).map fun char =>
    if char = '.' then '_' else char)

/-- The plain names, grouped by what they stand for; the proper name of an encoding comes first. -/
def registry : List (Named × List String) :=
  [ (.encoding .ascii,
      ["ascii", "646", "ansi_x3.4_1968", "ansi_x3_4_1968", "ansi_x3.4_1986", "cp367", "csascii",
        "ibm367", "iso646_us", "iso_646.irv_1991", "iso_ir_6", "us", "us_ascii"]),
    (.encoding .latin1,
      ["latin_1", "8859", "cp819", "csisolatin1", "ibm819", "iso8859", "iso8859_1", "iso_8859_1",
        "iso_8859_1_1987", "iso_ir_100", "l1", "latin", "latin1"]),
    (.encoding (.page .windows1250), ["cp1250", "1250", "windows_1250"]),
    (.encoding (.page .windows1251), ["cp1251", "1251", "windows_1251"]),
    (.encoding (.page .windows1252), ["cp1252", "1252", "windows_1252"]),
    (.encoding (.page .windows1253), ["cp1253", "1253", "windows_1253"]),
    (.encoding (.page .windows1254), ["cp1254", "1254", "windows_1254"]),
    (.encoding (.page .windows1255), ["cp1255", "1255", "windows_1255"]),
    (.encoding (.page .windows1256), ["cp1256", "1256", "windows_1256"]),
    (.encoding (.page .windows1257), ["cp1257", "1257", "windows_1257"]),
    (.encoding (.page .windows1258), ["cp1258", "1258", "windows_1258"]),
    (.encoding (.page .ibm850), ["cp850", "850", "cspc850multilingual", "ibm850"]),
    (.encoding (.page .iso8859Part2),
      ["iso8859_2", "csisolatin2", "iso_8859_2", "iso_8859_2_1987", "iso_ir_101", "l2", "latin2"]),
    (.encoding (.page .iso8859Part3),
      ["iso8859_3", "csisolatin3", "iso_8859_3", "iso_8859_3_1988", "iso_ir_109", "l3", "latin3"]),
    (.encoding (.page .iso8859Part5),
      ["iso8859_5", "csisolatincyrillic", "cyrillic", "iso_8859_5", "iso_8859_5_1988",
        "iso_ir_144"]),
    (.encoding (.page .iso8859Part6),
      ["iso8859_6", "arabic", "asmo_708", "csisolatinarabic", "ecma_114", "iso_8859_6",
        "iso_8859_6_1987", "iso_ir_127"]),
    (.encoding (.page .iso8859Part7),
      ["iso8859_7", "csisolatingreek", "ecma_118", "elot_928", "greek", "greek8", "iso_8859_7",
        "iso_8859_7_1987", "iso_ir_126"]),
    (.encoding (.page .iso8859Part8),
      ["iso8859_8", "csisolatinhebrew", "hebrew", "iso_8859_8", "iso_8859_8_1988", "iso_ir_138"]),
    (.encoding (.page .iso8859Part9),
      ["iso8859_9", "csisolatin5", "iso_8859_9", "iso_8859_9_1989", "iso_ir_148", "l5", "latin5"]),
    (.encoding (.page .iso8859Part10),
      ["iso8859_10", "csisolatin6", "iso_8859_10", "iso_8859_10_1992", "iso_ir_157", "l6",
        "latin6"]),
    (.encoding (.page .iso8859Part11),
      ["iso8859_11", "thai", "iso_8859_11", "iso_8859_11_2001"]),
    (.encoding (.page .iso8859Part13), ["iso8859_13", "iso_8859_13", "l7", "latin7"]),
    (.encoding (.page .iso8859Part14),
      ["iso8859_14", "iso_8859_14", "iso_8859_14_1998", "iso_celtic", "iso_ir_199", "l8",
        "latin8"]),
    (.encoding (.page .iso8859Part15), ["iso8859_15", "iso_8859_15", "l9", "latin9"]),
    (.encoding (.page .iso8859Part16),
      ["iso8859_16", "iso_8859_16", "iso_8859_16_2001", "iso_ir_226", "l10", "latin10"]),
    (.encoding (.page .koi8R), ["koi8_r", "cskoi8r"]),
    (.encoding (.page .koi8U), ["koi8_u"]),
    (.encoding .utf8,
      ["utf_8", "u8", "utf", "utf8", "utf8_ucs2", "utf8_ucs4", "cp65001"]),
    (.encoding .utf8Signed, ["utf_8_sig"]),
    (.encoding (.wide .two none), ["utf_16", "u16", "utf16"]),
    (.encoding (.wide .two (some .big)), ["utf_16_be", "unicodebigunmarked", "utf_16be"]),
    (.encoding (.wide .two (some .little)), ["utf_16_le", "unicodelittleunmarked", "utf_16le"]),
    (.encoding (.wide .four none), ["utf_32", "u32", "utf32"]),
    (.encoding (.wide .four (some .big)), ["utf_32_be", "utf_32be"]),
    (.encoding (.wide .four (some .little)), ["utf_32_le", "utf_32le"]),
    (.encoding .eucKr,
      ["euc_kr", "euckr", "korean", "ksc5601", "ks_c_5601", "ks_c_5601_1987", "ksx1001",
        "ks_x_1001", "x_mac_korean"]),
    (.encoding .cp949, ["cp949", "949", "ms949", "uhc"]),
    (.encoding .eucJp, ["euc_jp", "eucjp", "ujis", "u_jis"]),
    (.encoding .shiftJis,
      ["shift_jis", "csshiftjis", "shiftjis", "sjis", "s_jis", "x_mac_japanese"]),
    (.encoding .cp932, ["cp932", "932", "ms932", "mskanji", "ms_kanji"]),
    (.encoding .gb2312,
      ["gb2312", "chinese", "csiso58gb231280", "euc_cn", "euccn", "eucgb2312_cn", "gb2312_1980",
        "gb2312_80", "iso_ir_58", "x_mac_simp_chinese"]),
    (.encoding .gbk, ["gbk", "936", "cp936", "ms936"]),
    (.encoding .gb18030, ["gb18030", "gb18030_2000"]),
    (.encoding .big5, ["big5", "big5_tw", "csbig5", "x_mac_trad_chinese"]),
    (.encoding .big5Hkscs, ["big5hkscs", "big5_hkscs", "hkscs"]),
    (.encoding (.escape .japanese), ["iso2022_jp", "csiso2022jp", "iso2022jp", "iso_2022_jp"]),
    (.encoding (.escape .japanese2), ["iso2022_jp_2", "iso2022jp_2", "iso_2022_jp_2"]),
    (.encoding (.escape .korean), ["iso2022_kr", "csiso2022kr", "iso2022kr", "iso_2022_kr"]),
    (.encoding .undefined, ["undefined"]),
    (.transformation, ["base64_codec", "base64", "base_64"]),
    (.transformation, ["bz2_codec", "bz2"]),
    (.transformation, ["hex_codec", "hex"]),
    (.transformation, ["quopri_codec", "quopri", "quoted_printable", "quotedprintable"]),
    (.transformation, ["rot_13", "rot13"]),
    (.transformation, ["uu_codec", "uu"]),
    (.transformation, ["zlib_codec", "zip", "zlib"]) ]

/-- What a name stands for, if it is found. -/
def registered? (name : String) : Option Named :=
  let plain := plainName name
  let undotted := undottedName name
  (registry.find? fun (_, names) => names.contains plain || names.tail.contains undotted).map (·.1)

/-- The encoding of a name. -/
def ofName (name : String) : Except NameFault Encoding :=
  if name.toList.contains '\x00' then
    .error .holdsNul
  else
    match registered? name with
    | some (.encoding encoding) => .ok encoding
    | some .transformation => .error .notText
    | none => .error .unknown

/-- The catalogue of the names that are registered. -/
def catalogue : Catalogue :=
  fun name => (ofName name).map scheme

/-- The names that call for UTF-8 without a decoder: letter case and white space do not matter. -/
def isUtf8Name (name : String) : Bool :=
  let plain := Text.lowered (Text.trimmed name)
  plain == "utf-8" || plain == "utf8"

end TimedText.Encoding
