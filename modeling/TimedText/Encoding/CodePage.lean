import TimedText.Encoding.Reader

/-!
# Code pages

The encodings in which every byte is a character.  The lower half is ASCII in all of them; a code
page is its upper half, the characters of the bytes 80 to FF in rows of sixteen.  U+FFFD stands
for a byte that is no character.
-/

namespace TimedText.Encoding

/-- The code pages. -/
inductive CodePage where
  | windows1250
  | windows1251
  | windows1252
  | windows1253
  | windows1254
  | windows1255
  | windows1256
  | windows1257
  | windows1258
  | iso8859Part2
  | iso8859Part3
  | iso8859Part5
  | iso8859Part6
  | iso8859Part7
  | iso8859Part8
  | iso8859Part9
  | iso8859Part10
  | iso8859Part11
  | iso8859Part13
  | iso8859Part14
  | iso8859Part15
  | iso8859Part16
  | koi8R
  | koi8U
  | ibm850
deriving DecidableEq, Repr

namespace CodePage

/-- The control characters U+0080 to U+008F. -/
def lowControls : String :=
  "\u0080\u0081\u0082\u0083\u0084\u0085\u0086\u0087"
    ++ "\u0088\u0089\u008a\u008b\u008c\u008d\u008e\u008f"

/-- The control characters U+0090 to U+009F. -/
def highControls : String :=
  "\u0090\u0091\u0092\u0093\u0094\u0095\u0096\u0097"
    ++ "\u0098\u0099\u009a\u009b\u009c\u009d\u009e\u009f"

/-- The upper half of a code page. -/
def upperRows : CodePage → List String
  | windows1250 =>
      [ "€�‚�„…†‡�‰Š‹ŚŤŽŹ",
        "�‘’“”•–—�™š›śťžź",
        "\u00a0ˇ˘Ł¤Ą¦§¨©Ş«¬\u00ad®Ż",
        "°±˛ł´µ¶·¸ąş»Ľ˝ľż",
        "ŔÁÂĂÄĹĆÇČÉĘËĚÍÎĎ",
        "ĐŃŇÓÔŐÖ×ŘŮÚŰÜÝŢß",
        "ŕáâăäĺćçčéęëěíîď",
        "đńňóôőö÷řůúűüýţ˙" ]
  | windows1251 =>
      [ "ЂЃ‚ѓ„…†‡€‰Љ‹ЊЌЋЏ",
        "ђ‘’“”•–—�™љ›њќћџ",
        "\u00a0ЎўЈ¤Ґ¦§Ё©Є«¬\u00ad®Ї",
        "°±Ііґµ¶·ё№є»јЅѕї",
        "АБВГДЕЖЗИЙКЛМНОП",
        "РСТУФХЦЧШЩЪЫЬЭЮЯ",
        "абвгдежзийклмноп",
        "рстуфхцчшщъыьэюя" ]
  | windows1252 =>
      [ "€�‚ƒ„…†‡ˆ‰Š‹Œ�Ž�",
        "�‘’“”•–—˜™š›œ�žŸ",
        "\u00a0¡¢£¤¥¦§¨©ª«¬\u00ad®¯",
        "°±²³´µ¶·¸¹º»¼½¾¿",
        "ÀÁÂÃÄÅÆÇÈÉÊËÌÍÎÏ",
        "ÐÑÒÓÔÕÖ×ØÙÚÛÜÝÞß",
        "àáâãäåæçèéêëìíîï",
        "ðñòóôõö÷øùúûüýþÿ" ]
  | windows1253 =>
      [ "€�‚ƒ„…†‡�‰�‹����",
        "�‘’“”•–—�™�›����",
        "\u00a0΅Ά£¤¥¦§¨©�«¬\u00ad®―",
        "°±²³΄µ¶·ΈΉΊ»Ό½ΎΏ",
        "ΐΑΒΓΔΕΖΗΘΙΚΛΜΝΞΟ",
        "ΠΡ�ΣΤΥΦΧΨΩΪΫάέήί",
        "ΰαβγδεζηθικλμνξο",
        "πρςστυφχψωϊϋόύώ�" ]
  | windows1254 =>
      [ "€�‚ƒ„…†‡ˆ‰Š‹Œ���",
        "�‘’“”•–—˜™š›œ��Ÿ",
        "\u00a0¡¢£¤¥¦§¨©ª«¬\u00ad®¯",
        "°±²³´µ¶·¸¹º»¼½¾¿",
        "ÀÁÂÃÄÅÆÇÈÉÊËÌÍÎÏ",
        "ĞÑÒÓÔÕÖ×ØÙÚÛÜİŞß",
        "àáâãäåæçèéêëìíîï",
        "ğñòóôõö÷øùúûüışÿ" ]
  | windows1255 =>
      [ "€�‚ƒ„…†‡ˆ‰�‹����",
        "�‘’“”•–—˜™�›����",
        "\u00a0¡¢£₪¥¦§¨©×«¬\u00ad®¯",
        "°±²³´µ¶·¸¹÷»¼½¾¿",
        "\u05b0\u05b1\u05b2\u05b3\u05b4\u05b5\u05b6\u05b7"
          ++ "\u05b8\u05b9�\u05bb\u05bc\u05bd\u05be\u05bf",
        "\u05c0\u05c1\u05c2\u05c3\u05f0\u05f1\u05f2\u05f3\u05f4�������",
        "\u05d0\u05d1\u05d2\u05d3\u05d4\u05d5\u05d6\u05d7"
          ++ "\u05d8\u05d9\u05da\u05db\u05dc\u05dd\u05de\u05df",
        "\u05e0\u05e1\u05e2\u05e3\u05e4\u05e5\u05e6\u05e7\u05e8\u05e9\u05ea��\u200e\u200f�" ]
  | windows1256 =>
      [ "€\u067e‚ƒ„…†‡ˆ‰\u0679‹Œ\u0686\u0698\u0688",
        "\u06af‘’“”•–—\u06a9™\u0691›œ\u200c\u200d\u06ba",
        "\u00a0\u060c¢£¤¥¦§¨©\u06be«¬\u00ad®¯",
        "°±²³´µ¶·¸¹\u061b»¼½¾\u061f",
        "\u06c1\u0621\u0622\u0623\u0624\u0625\u0626\u0627"
          ++ "\u0628\u0629\u062a\u062b\u062c\u062d\u062e\u062f",
        "\u0630\u0631\u0632\u0633\u0634\u0635\u0636×"
          ++ "\u0637\u0638\u0639\u063a\u0640\u0641\u0642\u0643",
        "à\u0644â\u0645\u0646\u0647\u0648çèéêë\u0649\u064aîï",
        "\u064b\u064c\u064d\u064eô\u064f\u0650÷\u0651ù\u0652ûü\u200e\u200f\u06d2" ]
  | windows1257 =>
      [ "€�‚�„…†‡�‰�‹�¨ˇ¸",
        "�‘’“”•–—�™�›�¯˛�",
        "\u00a0�¢£¤�¦§Ø©Ŗ«¬\u00ad®Æ",
        "°±²³´µ¶·ø¹ŗ»¼½¾æ",
        "ĄĮĀĆÄÅĘĒČÉŹĖĢĶĪĻ",
        "ŠŃŅÓŌÕÖ×ŲŁŚŪÜŻŽß",
        "ąįāćäåęēčéźėģķīļ",
        "šńņóōõö÷ųłśūüżž˙" ]
  | windows1258 =>
      [ "€�‚ƒ„…†‡ˆ‰�‹Œ���",
        "�‘’“”•–—˜™�›œ��Ÿ",
        "\u00a0¡¢£¤¥¦§¨©ª«¬\u00ad®¯",
        "°±²³´µ¶·¸¹º»¼½¾¿",
        "ÀÁÂĂÄÅÆÇÈÉÊË\u0300ÍÎÏ",
        "ĐÑ\u0309ÓÔƠÖ×ØÙÚÛÜƯ\u0303ß",
        "àáâăäåæçèéêë\u0301íîï",
        "đñ\u0323óôơö÷øùúûüư₫ÿ" ]
  | iso8859Part2 =>
      [ lowControls,
        highControls,
        "\u00a0Ą˘Ł¤ĽŚ§¨ŠŞŤŹ\u00adŽŻ",
        "°ą˛ł´ľśˇ¸šşťź˝žż",
        "ŔÁÂĂÄĹĆÇČÉĘËĚÍÎĎ",
        "ĐŃŇÓÔŐÖ×ŘŮÚŰÜÝŢß",
        "ŕáâăäĺćçčéęëěíîď",
        "đńňóôőö÷řůúűüýţ˙" ]
  | iso8859Part3 =>
      [ lowControls,
        highControls,
        "\u00a0Ħ˘£¤�Ĥ§¨İŞĞĴ\u00ad�Ż",
        "°ħ²³´µĥ·¸ışğĵ½�ż",
        "ÀÁÂ�ÄĊĈÇÈÉÊËÌÍÎÏ",
        "�ÑÒÓÔĠÖ×ĜÙÚÛÜŬŜß",
        "àáâ�äċĉçèéêëìíîï",
        "�ñòóôġö÷ĝùúûüŭŝ˙" ]
  | iso8859Part5 =>
      [ lowControls,
        highControls,
        "\u00a0ЁЂЃЄЅІЇЈЉЊЋЌ\u00adЎЏ",
        "АБВГДЕЖЗИЙКЛМНОП",
        "РСТУФХЦЧШЩЪЫЬЭЮЯ",
        "абвгдежзийклмноп",
        "рстуфхцчшщъыьэюя",
        "№ёђѓєѕіїјљњћќ§ўџ" ]
  | iso8859Part6 =>
      [ lowControls,
        highControls,
        "\u00a0���¤�������\u060c\u00ad��",
        "�����������\u061b���\u061f",
        "�\u0621\u0622\u0623\u0624\u0625\u0626\u0627"
          ++ "\u0628\u0629\u062a\u062b\u062c\u062d\u062e\u062f",
        "\u0630\u0631\u0632\u0633\u0634\u0635\u0636\u0637\u0638\u0639\u063a�����",
        "\u0640\u0641\u0642\u0643\u0644\u0645\u0646\u0647"
          ++ "\u0648\u0649\u064a\u064b\u064c\u064d\u064e\u064f",
        "\u0650\u0651\u0652�������������" ]
  | iso8859Part7 =>
      [ lowControls,
        highControls,
        "\u00a0‘’£€₯¦§¨©ͺ«¬\u00ad�―",
        "°±²³΄΅Ά·ΈΉΊ»Ό½ΎΏ",
        "ΐΑΒΓΔΕΖΗΘΙΚΛΜΝΞΟ",
        "ΠΡ�ΣΤΥΦΧΨΩΪΫάέήί",
        "ΰαβγδεζηθικλμνξο",
        "πρςστυφχψωϊϋόύώ�" ]
  | iso8859Part8 =>
      [ lowControls,
        highControls,
        "\u00a0�¢£¤¥¦§¨©×«¬\u00ad®¯",
        "°±²³´µ¶·¸¹÷»¼½¾�",
        "����������������",
        "���������������‗",
        "\u05d0\u05d1\u05d2\u05d3\u05d4\u05d5\u05d6\u05d7"
          ++ "\u05d8\u05d9\u05da\u05db\u05dc\u05dd\u05de\u05df",
        "\u05e0\u05e1\u05e2\u05e3\u05e4\u05e5\u05e6\u05e7\u05e8\u05e9\u05ea��\u200e\u200f�" ]
  | iso8859Part9 =>
      [ lowControls,
        highControls,
        "\u00a0¡¢£¤¥¦§¨©ª«¬\u00ad®¯",
        "°±²³´µ¶·¸¹º»¼½¾¿",
        "ÀÁÂÃÄÅÆÇÈÉÊËÌÍÎÏ",
        "ĞÑÒÓÔÕÖ×ØÙÚÛÜİŞß",
        "àáâãäåæçèéêëìíîï",
        "ğñòóôõö÷øùúûüışÿ" ]
  | iso8859Part10 =>
      [ lowControls,
        highControls,
        "\u00a0ĄĒĢĪĨĶ§ĻĐŠŦŽ\u00adŪŊ",
        "°ąēģīĩķ·ļđšŧž―ūŋ",
        "ĀÁÂÃÄÅÆĮČÉĘËĖÍÎÏ",
        "ÐŅŌÓÔÕÖŨØŲÚÛÜÝÞß",
        "āáâãäåæįčéęëėíîï",
        "ðņōóôõöũøųúûüýþĸ" ]
  | iso8859Part11 =>
      [ lowControls,
        highControls,
        "\u00a0กขฃคฅฆงจฉชซฌญฎฏ",
        "ฐฑฒณดตถทธนบปผฝพฟ",
        "ภมยรฤลฦวศษสหฬอฮฯ",
        "ะ\u0e31าำ\u0e34\u0e35\u0e36\u0e37\u0e38\u0e39\u0e3a����฿",
        "เแโใไๅๆ\u0e47\u0e48\u0e49\u0e4a\u0e4b\u0e4c\u0e4d\u0e4e๏",
        "๐๑๒๓๔๕๖๗๘๙๚๛����" ]
  | iso8859Part13 =>
      [ lowControls,
        highControls,
        "\u00a0”¢£¤„¦§Ø©Ŗ«¬\u00ad®Æ",
        "°±²³“µ¶·ø¹ŗ»¼½¾æ",
        "ĄĮĀĆÄÅĘĒČÉŹĖĢĶĪĻ",
        "ŠŃŅÓŌÕÖ×ŲŁŚŪÜŻŽß",
        "ąįāćäåęēčéźėģķīļ",
        "šńņóōõö÷ųłśūüżž’" ]
  | iso8859Part14 =>
      [ lowControls,
        highControls,
        "\u00a0Ḃḃ£ĊċḊ§Ẁ©ẂḋỲ\u00ad®Ÿ",
        "ḞḟĠġṀṁ¶ṖẁṗẃṠỳẄẅṡ",
        "ÀÁÂÃÄÅÆÇÈÉÊËÌÍÎÏ",
        "ŴÑÒÓÔÕÖṪØÙÚÛÜÝŶß",
        "àáâãäåæçèéêëìíîï",
        "ŵñòóôõöṫøùúûüýŷÿ" ]
  | iso8859Part15 =>
      [ lowControls,
        highControls,
        "\u00a0¡¢£€¥Š§š©ª«¬\u00ad®¯",
        "°±²³Žµ¶·ž¹º»ŒœŸ¿",
        "ÀÁÂÃÄÅÆÇÈÉÊËÌÍÎÏ",
        "ÐÑÒÓÔÕÖ×ØÙÚÛÜÝÞß",
        "àáâãäåæçèéêëìíîï",
        "ðñòóôõö÷øùúûüýþÿ" ]
  | iso8859Part16 =>
      [ lowControls,
        highControls,
        "\u00a0ĄąŁ€„Š§š©Ș«Ź\u00adźŻ",
        "°±ČłŽ”¶·žčș»ŒœŸż",
        "ÀÁÂĂÄĆÆÇÈÉÊËÌÍÎÏ",
        "ĐŃÒÓÔŐÖŚŰÙÚÛÜĘȚß",
        "àáâăäćæçèéêëìíîï",
        "đńòóôőöśűùúûüęțÿ" ]
  | koi8R =>
      [ "─│┌┐└┘├┤┬┴┼▀▄█▌▐",
        "░▒▓⌠■∙√≈≤≥\u00a0⌡°²·÷",
        "═║╒ё╓╔╕╖╗╘╙╚╛╜╝╞",
        "╟╠╡Ё╢╣╤╥╦╧╨╩╪╫╬©",
        "юабцдефгхийклмно",
        "пярстужвьызшэщчъ",
        "ЮАБЦДЕФГХИЙКЛМНО",
        "ПЯРСТУЖВЬЫЗШЭЩЧЪ" ]
  | koi8U =>
      [ "─│┌┐└┘├┤┬┴┼▀▄█▌▐",
        "░▒▓⌠■∙√≈≤≥\u00a0⌡°²·÷",
        "═║╒ёє╔ії╗╘╙╚╛ґ╝╞",
        "╟╠╡ЁЄ╣ІЇ╦╧╨╩╪Ґ╬©",
        "юабцдефгхийклмно",
        "пярстужвьызшэщчъ",
        "ЮАБЦДЕФГХИЙКЛМНО",
        "ПЯРСТУЖВЬЫЗШЭЩЧЪ" ]
  | ibm850 =>
      [ "ÇüéâäàåçêëèïîìÄÅ",
        "ÉæÆôöòûùÿÖÜø£Ø×ƒ",
        "áíóúñÑªº¿®¬½¼¡«»",
        "░▒▓│┤ÁÂÀ©╣║╗╝¢¥┐",
        "└┴┬├─┼ãÃ╚╔╩╦╠═╬¤",
        "ðÐÊËÈıÍÎÏ┘┌█▄¦Ì▀",
        "ÓßÔÒõÕµþÞÚÛÙýÝ¯´",
        "\u00ad±‗¾¶§÷¸°¨·¹³²■\u00a0" ]

/-- The upper half of a code page as one row. -/
def upperHalf (page : CodePage) : List Char :=
  page.upperRows.flatMap String.toList

/-- The character of a byte. -/
def char? (page : CodePage) (byte : UInt8) : Option Char :=
  if byte < 0x80 then
    some (Char.ofNat byte.toNat)
  else
    match page.upperHalf[byte.toNat - 0x80]? with
    | some '\uFFFD' => none
    | other => other

/-- The reader of a code page. -/
def read (page : CodePage) : Reader := fun first _ =>
  match page.char? first with
  | some char => .chars [char] 0
  | none => .illegal .undefinedByte 0

end CodePage

/-- The reader of ASCII. -/
def readAscii : Reader := fun first _ =>
  if first < 0x80 then .chars [Char.ofNat first.toNat] 0 else .illegal .beyondAscii 0

/-- The reader of ISO 8859-1, in which every byte is the character of its number. -/
def readLatin1 : Reader := fun first _ =>
  .chars [Char.ofNat first.toNat] 0

end TimedText.Encoding
