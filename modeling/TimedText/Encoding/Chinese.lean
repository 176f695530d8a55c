import TimedText.Encoding.Reader
import TimedText.Encoding.Grid.Gb2312
import TimedText.Encoding.Grid.Big5
import TimedText.Encoding.Grid.Hkscs

/-!
# Chinese encodings

GB 2312 and the encodings that extend it, and Big5 with its Hong Kong form.

GBK keeps the two-byte codes of GB 2312.  It gives the hanzi that GB 2312 lacks, in the order of
their code points, to the two-byte codes on its two free levels, and some symbols to places of
their own.  GB 18030 adds further symbols, private places for every two-byte code left over, and
four-byte codes: first for all characters of the basic plane without a two-byte code, in order,
then for those beyond it.
-/

namespace TimedText.Encoding.Chinese

/-- The outcome for a two-byte character that may be missing. -/
def readCell : Option Char → Read
  | some char => .chars [char] 1
  | none => .illegal .multibyteSequence 0

/-- The reader of two-byte codes beside ASCII. -/
def readPairs (char? : UInt8 → UInt8 → Option Char) : Reader := fun first rest =>
  if first < 0x80 then
    .chars [Char.ofNat first.toNat] 0
  else
    match rest with
    | [] => .incomplete
    | second :: _ => readCell (char? first second)

/-! ## GB 2312 -/

/-- A character of GB 2312 from its two bytes. -/
def gbChar? (first second : UInt8) : Option Char :=
  gb2312Grid.cellFrom? 0xA1 first.toNat second.toNat

/-- The reader of GB 2312. -/
def readGb2312 : Reader := readPairs gbChar?

/-! ## GBK -/

/-- Symbols that GBK adds, by first byte and first of their second bytes. -/
def gbkSymbols : List (Nat × Nat × String) :=
  [ (0xA2, 0xA1, "ⅰⅱⅲⅳⅴⅵⅶⅷⅸⅹ"),
    (0xA6, 0xE0, "︵︶︹︺︿﹀︽︾﹁﹂﹃﹄"),
    (0xA6, 0xEE, "︻︼︷︸︱"),
    (0xA6, 0xF4, "︳︴"),
    (0xA8, 0x40, "ˊˋ˙–―‥‵℅℉↖↗↘↙∕∟∣≒≦≧⊿═║╒╓╔╕╖╗╘╙╚╛╜╝╞╟╠╡╢╣╤╥╦╧╨╩╪╫╬╭╮╯╰╱╲╳▁▂▃▄▅▆▇"),
    (0xA8, 0x80, "█▉▊▋▌▍▎▏▓▔▕▼▽◢◣◤◥☉⊕〒〝〞"),
    (0xA8, 0xBB, "ɑ"),
    (0xA8, 0xBD, "ńň"),
    (0xA8, 0xC0, "ɡ"),
    (0xA9, 0x40, "〡〢〣〤〥〦〧〨〩㊣㎎㎏㎜㎝㎞㎡㏄㏎㏑㏒㏕︰￢￤"),
    (0xA9, 0x59, "℡㈱"),
    (0xA9, 0x5C, "‐"),
    (0xA9, 0x60, "ー゛゜ヽヾ〆ゝゞ﹉﹊﹋﹌﹍﹎﹏﹐﹑﹒﹔﹕﹖﹗﹙﹚﹛﹜﹝﹞﹟﹠﹡"),
    (0xA9, 0x80, "﹢﹣﹤﹥﹦﹨﹩﹪﹫"),
    (0xA9, 0x96, "〇"),
    (0xFD, 0x9C, "郎凉秊裏隣"),
    (0xFE, 0x40, "兀嗀﨎﨏﨑﨓﨔礼﨟蘒﨡﨣﨤﨧﨨﨩") ]

/-- Symbols that GB 18030 adds to those of GBK. -/
def gb18030Symbols : List (Nat × Nat × String) :=
  [ (0xA2, 0xE3, "€"),
    (0xA8, 0xBF, "ǹ"),
    (0xA9, 0x89, "〾⿰⿱⿲⿳⿴⿵⿶⿷⿸⿹⿺⿻"),
    (0xFE, 0x50, "⺁"),
    (0xFE, 0x54, "⺄㑳㑇⺈⺋"),
    (0xFE, 0x5A, "㖞㘚㘎⺌⺗㥮㤘"),
    (0xFE, 0x62, "㧏㧟㩳㧐"),
    (0xFE, 0x68, "㭎㱮㳠⺧"),
    (0xFE, 0x6E, "⺪䁖䅟⺮䌷⺳⺶⺷"),
    (0xFE, 0x77, "䎱䎬⺻䏝䓖䙡䙌"),
    (0xFE, 0x80, "䜣䜩䝼䞍⻊䥇䥺䥽䦂䦃䦅䦆䦟䦛䦷䦶"),
    (0xFE, 0x92, "䲣䲟䲠䲡䱷䲢䴓䴔䴕䴖䴗䴘䴙䶮") ]

/-- A symbol of a list from its two bytes. -/
def symbol? (runs : List (Nat × Nat × String)) (first second : UInt8) : Option Char :=
  runs.findSome? fun (lead, start, symbols) =>
    if first.toNat = lead ∧ start ≤ second.toNat then symbols.toList[second.toNat - start]?
    else none

/-- The hanzi of GB 2312, by their code points, as a table of the whole block. -/
def gb2312Hanzi : Array Bool :=
  gb2312Rows.foldl
    (fun marks row =>
      row.toList.foldl
        (fun marks char =>
          if 0x4E00 ≤ char.toNat then marks.setIfInBounds (char.toNat - 0x4E00) true else marks)
        marks)
    (Array.replicate 0x51A6 false)

/-- The hanzi that GB 2312 lacks, in the order of their code points. -/
def furtherHanzi : Array Char :=
  ((List.range 0x51A6).filterMap fun index =>
    if gb2312Hanzi[index]? == some false then some (Char.ofNat (0x4E00 + index)) else none).toArray

/-- The place of a second byte, in a row without the byte 7F. -/
def secondPlace? (last second : Nat) : Option Nat :=
  if 0x40 ≤ second ∧ second ≤ 0x7E then some (second - 0x40)
  else if 0x80 ≤ second ∧ second ≤ last then some (second - 0x41)
  else none

/-- A hanzi on a level that GBK adds, from its two bytes. -/
def furtherHanzi? (first second : UInt8) : Option Char :=
  if 0x81 ≤ first ∧ first ≤ 0xA0 then
    (secondPlace? 0xFE second.toNat).bind fun place =>
      furtherHanzi[(first.toNat - 0x81) * 190 + place]?
  else if 0xAA ≤ first ∧ first ≤ 0xFE then
    (secondPlace? 0xA0 second.toNat).bind fun place =>
      furtherHanzi[32 * 190 + (first.toNat - 0xAA) * 96 + place]?
  else
    none

/-- A character of GB 2312 as GBK reads it: two symbols differ. -/
def unified : Char → Char
  | '・' => '·'
  | '―' => '—'
  | char => char

/-- A character of GBK from its two bytes. -/
def gbkChar? (first second : UInt8) : Option Char :=
  (gbChar? first second).map unified
    <|> furtherHanzi? first second
    <|> symbol? gbkSymbols first second

/-- The reader of GBK. -/
def readGbk : Reader := readPairs gbkChar?

/-! ## GB 18030 -/

/-- Private characters in single places: first byte, first second byte, code point and count. -/
def privateRuns : List (Nat × Nat × Nat × Nat) :=
  [ (0xA2, 0xAB, 0xE766, 6), (0xA2, 0xE4, 0xE76D, 1), (0xA2, 0xEF, 0xE76E, 2),
    (0xA2, 0xFD, 0xE770, 2), (0xA4, 0xF4, 0xE772, 11), (0xA5, 0xF7, 0xE77D, 8),
    (0xA6, 0xB9, 0xE785, 8), (0xA6, 0xD9, 0xE78D, 7), (0xA6, 0xEC, 0xE794, 2),
    (0xA6, 0xF3, 0xE796, 1), (0xA6, 0xF6, 0xE797, 9), (0xA7, 0xC2, 0xE7A0, 15),
    (0xA7, 0xF2, 0xE7AF, 13), (0xA8, 0x96, 0xE7BC, 11), (0xA8, 0xBC, 0xE7C7, 1),
    (0xA8, 0xC1, 0xE7C9, 4), (0xA8, 0xEA, 0xE7CD, 21), (0xA9, 0x58, 0xE7E2, 1),
    (0xA9, 0x5B, 0xE7E3, 1), (0xA9, 0x5D, 0xE7E4, 3), (0xA9, 0x97, 0xE7F4, 13),
    (0xA9, 0xF0, 0xE801, 15), (0xD7, 0xFA, 0xE810, 5), (0xFE, 0x51, 0xE816, 3),
    (0xFE, 0x59, 0xE81E, 1), (0xFE, 0x61, 0xE826, 1), (0xFE, 0x66, 0xE82B, 2),
    (0xFE, 0x6C, 0xE831, 2), (0xFE, 0x76, 0xE83B, 1), (0xFE, 0x7E, 0xE843, 1),
    (0xFE, 0x90, 0xE854, 2), (0xFE, 0xA0, 0xE864, 1) ]

/-- A private character from its two bytes: three regular regions and single places. -/
def private? (first second : UInt8) : Option Char :=
  let lead := first.toNat
  let trail := second.toNat
  if 0xAA ≤ lead ∧ lead ≤ 0xAF ∧ 0xA1 ≤ trail ∧ trail ≤ 0xFE then
    some (Char.ofNat (0xE000 + (lead - 0xAA) * 94 + (trail - 0xA1)))
  else if 0xF8 ≤ lead ∧ lead ≤ 0xFE ∧ 0xA1 ≤ trail ∧ trail ≤ 0xFE then
    some (Char.ofNat (0xE234 + (lead - 0xF8) * 94 + (trail - 0xA1)))
  else if 0xA1 ≤ lead ∧ lead ≤ 0xA7 ∧ trail ≤ 0xA0 then
    (secondPlace? 0xA0 trail).map fun place =>
      Char.ofNat (0xE4C6 + (lead - 0xA1) * 96 + place)
  else
    privateRuns.findSome? fun (runLead, start, code, count) =>
      if lead = runLead ∧ start ≤ trail ∧ trail < start + count then
        some (Char.ofNat (code + (trail - start)))
      else
        none

/-- A two-byte character of GB 18030. -/
def gb18030Pair? (first second : UInt8) : Option Char :=
  gbkChar? first second
    <|> symbol? gb18030Symbols first second
    <|> private? first second

/-- All two-byte codes. -/
def pairs : List (UInt8 × UInt8) :=
  (List.range' 0x81 126).flatMap fun first =>
    (List.range' 0x40 191).map fun second => (UInt8.ofNat first, UInt8.ofNat second)

/-- The characters of the basic plane that have a two-byte code, as a table of the plane. -/
def pairedCodes : Array Bool :=
  pairs.foldl
    (fun marks (first, second) =>
      match gb18030Pair? first second with
      | some char => marks.setIfInBounds char.toNat true
      | none => marks)
    (Array.replicate 0x10000 false)

/-- The characters of the basic plane without a two-byte code, in order. -/
def unpairedCodes (_ : Unit) : Array Char :=
  let marks := pairedCodes
  ((List.range' 0x80 0xFF80).filterMap fun code =>
    if marks[code]? == some true || (0xD800 ≤ code && code < 0xE000) then none
    else some (Char.ofNat code)).toArray

/-- The number of a four-byte code among all of them. -/
def fourNumber (first second third fourth : UInt8) : Nat :=
  (((first.toNat - 0x81) * 10 + (second.toNat - 0x30)) * 126 + (third.toNat - 0x81)) * 10
    + (fourth.toNat - 0x30)

/-- A four-byte character of GB 18030. -/
def gb18030Four? (first second third fourth : UInt8) : Option Char :=
  if 0x81 ≤ first ∧ first ≤ 0xFE ∧ 0x81 ≤ third ∧ third ≤ 0xFE ∧ 0x30 ≤ fourth ∧ fourth ≤ 0x39 then
    let number := fourNumber first second third fourth
    if first < 0x85 then
      (unpairedCodes ())[number]?
    else if 0x90 ≤ first then
      let code := 0x10000 + (number - 189000)
      if code ≤ 0x10FFFF then some (Char.ofNat code) else none
    else
      none
  else
    none

/-- The reader of GB 18030. -/
def readGb18030 : Reader := fun first rest =>
  if first < 0x80 then
    .chars [Char.ofNat first.toNat] 0
  else
    match rest with
    | [] => .incomplete
    | second :: rest =>
        if 0x30 ≤ second ∧ second ≤ 0x39 then
          match rest with
          | third :: fourth :: _ =>
              match gb18030Four? first second third fourth with
              | some char => .chars [char] 3
              | none => .illegal .multibyteSequence 0
          | _ => .incomplete
        else
          readCell (gb18030Pair? first second)

/-! ## Big5 -/

/-- The place of a second byte of Big5. -/
def big5Place? (second : Nat) : Option Nat :=
  if 0x40 ≤ second ∧ second ≤ 0x7E then some (second - 0x40)
  else if 0xA1 ≤ second ∧ second ≤ 0xFE then some (second - 0xA1 + 63)
  else none

/-- A character of Big5 from its two bytes. -/
def big5Char? (first second : UInt8) : Option Char :=
  if 0xA1 ≤ first then
    (big5Place? second.toNat).bind fun place => big5Grid.cell? (first.toNat - 0xA1) place
  else
    none

/-- The reader of Big5. -/
def readBig5 : Reader := readPairs big5Char?

/-- A character that Hong Kong adds, from its two bytes. -/
def hkscsChar? (first second : UInt8) : Option Char :=
  if 0x81 ≤ first then
    (big5Place? second.toNat).bind fun place => hkscsGrid.cell? (first.toNat - 0x81) place
  else
    none

/-- The codes that Hong Kong fills by itself: the end of one row and the two after it. -/
def isHongKongOwn (first second : UInt8) : Bool :=
  (first == 0xC6 && second ≥ 0xA1) || first == 0xC7 || first == 0xC8

/-- The two-byte codes that stand for a letter with a mark. -/
def marked? (first second : UInt8) : Option (List Char) :=
  if first = 0x88 then
    if second = 0x62 then some ['Ê', '\u0304']
    else if second = 0x64 then some ['Ê', '\u030C']
    else if second = 0xA3 then some ['ê', '\u0304']
    else if second = 0xA5 then some ['ê', '\u030C']
    else none
  else
    none

/-- The reader of Big5 in its Hong Kong form. -/
def readBig5Hkscs : Reader := fun first rest =>
  match rest with
  | second :: _ =>
      match marked? first second with
      | some text => .chars text 1
      | none =>
          readPairs
            (fun first second =>
              hkscsChar? first second
                <|> if isHongKongOwn first second then none else big5Char? first second)
            first rest
  | [] => readPairs big5Char? first []

end TimedText.Encoding.Chinese
