import FragmentWeaver.Text.Encoding
import FragmentWeaver.Text.Named
import FragmentWeaver.Text.Quoted

/-!
# The text of a source

A source is a run of bytes. A comment that stands alone on one of its first two lines can declare how
the source is coded; it is coded in UTF-8 when nothing is declared. A mark at the start says UTF-8 as
well, and nothing else can be declared behind it. Bytes that are no text do no harm in comments as
long as nothing is declared.
-/

namespace FragmentWeaver.Script

/-- May the byte stand before a comment? -/
def isMarginByte (b : UInt8) : Bool :=
  b = 0x20 || b = 0x09 || b = 0x0c

/-- May the byte stand in the name of an encoding? -/
def isCodingByte (b : UInt8) : Bool :=
  let c := Char.ofNat b.toNat
  c.isAlphanum || c = '-' || c = '_' || c = '.'

/-- The name that is declared at the start of some bytes; `reach` is how many places there are at
    which a declaration can start. -/
def codingAt? : Nat → List UInt8 → Option (List UInt8)
  | 0, _ => none
  | _ + 1, [] => none
  | reach + 1, b :: rest =>
      let declared :=
        if "coding".toUTF8.data.toList.isPrefixOf (b :: rest) then
          match rest.drop 5 with
          | 0x3a :: after | 0x3d :: after =>
              (after.dropWhile fun b => b = 0x20 || b = 0x09).takeWhile isCodingByte
          | _ => []
        else []
      if declared.isEmpty then codingAt? reach rest else some declared

/-- The name that a line declares; it holds a comment and nothing else. -/
def codingIn? (line : List UInt8) : Option (List UInt8) :=
  let reach := line.length - 6
  let margin := (line.take reach).takeWhile isMarginByte
  match line.drop margin.length with
  | 0x23 :: comment => codingAt? (reach - margin.length) (0x23 :: comment)
  | _ => none

/-- Does a line hold nothing but a comment, so that the next one may declare something? -/
def isBareLine (line : List UInt8) : Bool :=
  match line.dropWhile isMarginByte with
  | [] => true
  | b :: _ => b = 0x23 || b = 0x0d

/-- The first line of a source, and the second one with its end. -/
def firstLines (bytes : List UInt8) : List UInt8 × List UInt8 :=
  let isInside (b : UInt8) : Bool := b != 0x0a
  let first := bytes.takeWhile isInside
  let rest := bytes.drop (first.length + 1)
  (first, rest.takeWhile isInside ++ [0x0a])

/-- The encoding that a source declares. -/
def declaredCoding? (bytes : List UInt8) : Option String :=
  let (first, second) := firstLines bytes
  let name? := (codingIn? first).or (if isBareLine first then codingIn? second else none)
  name?.map fun name => String.ofList (name.map fun b => Char.ofNat b.toNat)

/-- A declared name with hyphens and small letters, as far as its first letters go. -/
def codingStart (name : String) : String :=
  String.ofList ((name.toList.take 12).map fun c => if c = '_' then '-' else c.toLower)

/-- Is UTF-8 declared? -/
def isUtf8Coding (name : String) : Bool :=
  let start := codingStart name
  start = "utf-8" || "utf-8-".isPrefixOf start

/-- Is one byte for each of the first 256 characters declared? -/
def isLatinCoding (name : String) : Bool :=
  let start := codingStart name
  ["latin-1", "iso-8859-1", "iso-latin-1"].any fun n => start = n || (n ++ "-").isPrefixOf start

/-- Encodings that agree with ASCII and have further characters of several bytes. -/
def widerCodings : List String := [
  "big5 big5_tw csbig5 x_mac_trad_chinese big5hkscs big5_hkscs hkscs cp932 932 ms932 ms_kanji",
  "mskanji cp949 949 ms949 uhc cp950 950 ms950 euc_jis_2004 euc_jis2004 eucjis2004 jisx0213",
  "euc_jisx0213 eucjisx0213 euc_jp eucjp u_jis ujis euc_kr euckr korean ks_c_5601 ks_c_5601_1987",
  "ks_x_1001 ksc5601 ksx1001 x_mac_korean gb18030 gb18030_2000 gb2312 chinese csiso58gb231280",
  "euc_cn euccn eucgb2312_cn gb2312_1980 gb2312_80 iso_ir_58 x_mac_simp_chinese gbk 936 cp936",
  "ms936 idna iso2022_jp csiso2022jp iso2022jp iso_2022_jp iso2022_jp_1 iso2022jp_1 iso_2022_jp_1",
  "iso2022_jp_2 iso2022jp_2 iso_2022_jp_2 iso2022_jp_2004 iso2022jp_2004 iso_2022_jp_2004",
  "iso2022_jp_3 iso2022jp_3 iso_2022_jp_3 iso2022_jp_ext iso2022jp_ext iso_2022_jp_ext iso2022_kr",
  "csiso2022kr iso2022kr iso_2022_kr johab cp1361 ms1361 shift_jis csshiftjis s_jis shiftjis sjis",
  "x_mac_japanese"]

/-- Encodings of that kind in which two signs of ASCII stand for others. -/
def yenCodings : List String := [
  "shift_jis_2004", "s_jis_2004", "shiftjis2004", "sjis_2004", "shift_jisx0213", "s_jisx0213",
  "shiftjisx0213", "sjisx0213"]

/-- Encodings in which a sign of ASCII opens a stretch of other characters. -/
def shiftedCodings : List (Char × List String) := [
  ('~', ["hz", "hz_gb", "hz_gb_2312", "hzgb"]),
  ('+', ["utf_7", "utf7", "u7", "unicode_1_1_utf_7"])]

/-- The text of bytes in an encoding that is not plain: escapes may stand in it, or it has further
    characters of several bytes, which no source is written in. -/
def specialText? (name : String) (bytes : List UInt8) : Option String :=
  let plain := Text.Encoding.plainName name
  let latin := bytes.map fun b => Char.ofNat b.toNat
  let ascii (fits : Char → Bool) (cs : List Char) : Option String :=
    if latin.all fun c => c.toNat < 128 && fits c then some (String.ofList cs) else none
  if plain = "charmap" then some (String.ofList latin)
  else if plain = "unicode_escape" then (Text.unescape true latin).bind Text.ofPoints?
  else if yenCodings.contains plain then
    ascii (fun _ => true) (latin.map fun c => if c = '\\' then '¥' else if c = '~' then '‾' else c)
  else if widerCodings.any fun line => (line.splitOn " ").contains plain then
    ascii (fun _ => true) latin
  else
    match shiftedCodings.find? fun (_, names) => names.contains plain with
    | some (sign, _) => ascii (· ≠ sign) latin
    | none => none

/-- The text of bytes in a declared encoding. -/
def textIn? (name : String) (bytes : List UInt8) : Option String :=
  let found? := if isLatinCoding name then some .latin else Text.Encoding.ofName? name
  match found? with
  | some e => (e.decode bytes).toOption
  | none => specialText? name bytes

/-- What stands for bytes that are no text. -/
def strayMark : Char := '\x00'

/-- The text of bytes in UTF-8; what stands for no character is marked. -/
def markedText : Nat → List UInt8 → List Char
  | 0, _ => []
  | fuel + 1, bytes =>
      match Text.decode bytes with
      | .ok s => s.toList
      | .error f =>
          let before := (Text.decode (bytes.take f.start)).toOption.getD ""
          before.toList ++ strayMark :: markedText fuel (bytes.drop (f.start + f.length))

/-- The text of a source, if there is one. -/
def sourceText? (bytes : List UInt8) : Option String :=
  if bytes.contains 0 then none
  else
    let (isMarked, bytes) := match bytes with
      | 0xef :: 0xbb :: 0xbf :: rest => (true, rest)
      | bytes => (false, bytes)
    match declaredCoding? bytes with
    | some name =>
        if isUtf8Coding name then some (String.ofList (markedText bytes.length bytes))
        else if isMarked then none
        else textIn? name bytes
    | none => some (String.ofList (markedText (bytes.length + 1) bytes))

end FragmentWeaver.Script
