import FragmentWeaver.Text.Names.Historic
import FragmentWeaver.Text.Names.Scripts
import FragmentWeaver.Text.Names.Signs

/-!
# Names of characters

The names that the standard gives to characters. A row holds the names of characters that follow
each other: the first code point, the words that the names start with, and how the name of each
character goes on, with a bar or the end of a line between. A small letter stands for words: `a` to
`d` for the next words of the name before, one to four of them, and `e` to `z` for words that are
frequent. An empty place belongs to a code point without a name. A number or a letter behind dots,
as in `A..Z` or `001..026`, ends what counts up to it.
-/

namespace FragmentWeaver.Text

/-- How many small letters stand for words of the name before. -/
def takenLetters : Nat := 4

/-- The words that the further small letters stand for. -/
def commonWords : List String := [
  "LETTER", "CAPITAL", "SMALL", "WITH", "SIGN", "RIGHT", "RIGHTWARDS", "DOUBLE", "ABOVE", "LEFT",
  "ARROW", "THREE", "LEFTWARDS", "ISOLATED", "FINAL", "BELOW", "MARK", "VERTICAL", "BLACK", "ONE",
  "TWO", "DOWNWARDS"]

/-- The short names of the variation selectors. -/
def selectorNames : List (Nat × String × String) := [
  (0xfe00, "VS", "1..16"), (0xe0100, "VS", "17..256")]

/-- The rows of names. -/
def nameRows : List (Nat × String × String) :=
  europeanNames ++ easternNames ++ furtherScriptNames ++ signNames ++ asianNames ++ formNames ++
    historicNames ++ notationNames ++ pictureNames ++ selectorNames

/-- The other names of characters, with bars between: those of the characters without a form, the
    corrections and the short forms. -/
def furtherNames : List (Nat × String) := [
  (0x0, "NULL|NUL"), (0x1, "START OF HEADING|SOH"), (0x2, "START OF TEXT|STX"),
  (0x3, "END OF TEXT|ETX"), (0x4, "END OF TRANSMISSION|EOT"), (0x5, "ENQUIRY|ENQ"),
  (0x6, "ACKNOWLEDGE|ACK"), (0x7, "ALERT|BEL"), (0x8, "BACKSPACE|BS"),
  (0x9, "CHARACTER TABULATION|HORIZONTAL TABULATION|HT|TAB"),
  (0xa, "LINE FEED|NEW LINE|END OF LINE|LF|NL|EOL"),
  (0xb, "LINE TABULATION|VERTICAL TABULATION|VT"), (0xc, "FORM FEED|FF"),
  (0xd, "CARRIAGE RETURN|CR"), (0xe, "SHIFT OUT|LOCKING-SHIFT ONE|SO"),
  (0xf, "SHIFT IN|LOCKING-SHIFT ZERO|SI"), (0x10, "DATA LINK ESCAPE|DLE"),
  (0x11, "DEVICE CONTROL ONE|DC1"), (0x12, "DEVICE CONTROL TWO|DC2"),
  (0x13, "DEVICE CONTROL THREE|DC3"), (0x14, "DEVICE CONTROL FOUR|DC4"),
  (0x15, "NEGATIVE ACKNOWLEDGE|NAK"), (0x16, "SYNCHRONOUS IDLE|SYN"),
  (0x17, "END OF TRANSMISSION BLOCK|ETB"), (0x18, "CANCEL|CAN"), (0x19, "END OF MEDIUM|EOM"),
  (0x1a, "SUBSTITUTE|SUB"), (0x1b, "ESCAPE|ESC"),
  (0x1c, "INFORMATION SEPARATOR FOUR|FILE SEPARATOR|FS"),
  (0x1d, "INFORMATION SEPARATOR THREE|GROUP SEPARATOR|GS"),
  (0x1e, "INFORMATION SEPARATOR TWO|RECORD SEPARATOR|RS"),
  (0x1f, "INFORMATION SEPARATOR ONE|UNIT SEPARATOR|US"), (0x20, "SP"), (0x7f, "DELETE|DEL"),
  (0x80, "PADDING CHARACTER|PAD"), (0x81, "HIGH OCTET PRESET|HOP"),
  (0x82, "BREAK PERMITTED HERE|BPH"), (0x83, "NO BREAK HERE|NBH"), (0x84, "INDEX|IND"),
  (0x85, "NEXT LINE|NEL"), (0x86, "START OF SELECTED AREA|SSA"), (0x87, "END OF SELECTED AREA|ESA"),
  (0x88, "CHARACTER TABULATION SET|HORIZONTAL TABULATION SET|HTS"),
  (0x89, "CHARACTER TABULATION WITH JUSTIFICATION|HORIZONTAL TABULATION WITH JUSTIFICATION|HTJ"),
  (0x8a, "LINE TABULATION SET|VERTICAL TABULATION SET|VTS"),
  (0x8b, "PARTIAL LINE FORWARD|PARTIAL LINE DOWN|PLD"),
  (0x8c, "PARTIAL LINE BACKWARD|PARTIAL LINE UP|PLU"), (0x8d, "REVERSE LINE FEED|REVERSE INDEX|RI"),
  (0x8e, "SINGLE SHIFT TWO|SINGLE-SHIFT-2|SS2"), (0x8f, "SINGLE SHIFT THREE|SINGLE-SHIFT-3|SS3"),
  (0x90, "DEVICE CONTROL STRING|DCS"), (0x91, "PRIVATE USE ONE|PRIVATE USE-1|PU1"),
  (0x92, "PRIVATE USE TWO|PRIVATE USE-2|PU2"), (0x93, "SET TRANSMIT STATE|STS"),
  (0x94, "CANCEL CHARACTER|CCH"), (0x95, "MESSAGE WAITING|MW"),
  (0x96, "START OF GUARDED AREA|START OF PROTECTED AREA|SPA"),
  (0x97, "END OF GUARDED AREA|END OF PROTECTED AREA|EPA"), (0x98, "START OF STRING|SOS"),
  (0x99, "SINGLE GRAPHIC CHARACTER INTRODUCER|SGC"), (0x9a, "SINGLE CHARACTER INTRODUCER|SCI"),
  (0x9b, "CONTROL SEQUENCE INTRODUCER|CSI"), (0x9c, "STRING TERMINATOR|ST"),
  (0x9d, "OPERATING SYSTEM COMMAND|OSC"), (0x9e, "PRIVACY MESSAGE|PM"),
  (0x9f, "APPLICATION PROGRAM COMMAND|APC"), (0xa0, "NBSP"), (0xad, "SHY"),
  (0x1a2, "LATIN CAPITAL LETTER GHA"), (0x1a3, "LATIN SMALL LETTER GHA"), (0x34f, "CGJ"),
  (0x61c, "ALM"), (0x709, "SYRIAC SUBLINEAR COLON SKEWED LEFT"), (0xcde, "KANNADA LETTER LLLA"),
  (0xe9d, "LAO LETTER FO FON"), (0xe9f, "LAO LETTER FO FAY"), (0xea3, "LAO LETTER RO"),
  (0xea5, "LAO LETTER LO"), (0xfd0, "TIBETAN MARK BKA- SHOG GI MGO RGYAN"),
  (0x11ec, "HANGUL JONGSEONG YESIEUNG-KIYEOK"), (0x11ed, "HANGUL JONGSEONG YESIEUNG-SSANGKIYEOK"),
  (0x11ee, "HANGUL JONGSEONG SSANGYESIEUNG"), (0x11ef, "HANGUL JONGSEONG YESIEUNG-KHIEUKH"),
  (0x180b, "FVS1"), (0x180c, "FVS2"), (0x180d, "FVS3"), (0x180e, "MVS"), (0x180f, "FVS4"),
  (0x200b, "ZWSP"), (0x200c, "ZWNJ"), (0x200d, "ZWJ"), (0x200e, "LRM"), (0x200f, "RLM"),
  (0x202a, "LRE"), (0x202b, "RLE"), (0x202c, "PDF"), (0x202d, "LRO"), (0x202e, "RLO"),
  (0x202f, "NNBSP"), (0x205f, "MMSP"), (0x2060, "WJ"), (0x2066, "LRI"), (0x2067, "RLI"),
  (0x2068, "FSI"), (0x2069, "PDI"), (0x2118, "WEIERSTRASS ELLIPTIC FUNCTION"),
  (0x2448, "MICR ON US SYMBOL"), (0x2449, "MICR DASH SYMBOL"),
  (0x2b7a, "LEFTWARDS TRIANGLE-HEADED ARROW WITH DOUBLE VERTICAL STROKE"),
  (0x2b7c, "RIGHTWARDS TRIANGLE-HEADED ARROW WITH DOUBLE VERTICAL STROKE"),
  (0xa015, "YI SYLLABLE ITERATION MARK"), (0xaa6e, "MYANMAR LETTER KHAMTI LLA"),
  (0xfe18, "PRESENTATION FORM FOR VERTICAL RIGHT WHITE LENTICULAR BRACKET"),
  (0xfeff, "BYTE ORDER MARK|BOM|ZWNBSP"), (0x122d4, "CUNEIFORM SIGN NU11 TENU"),
  (0x122d5, "CUNEIFORM SIGN NU11 OVER NU11 BUR OVER BUR"),
  (0x16e56, "MEDEFAIDRIN CAPITAL LETTER H"), (0x16e57, "MEDEFAIDRIN CAPITAL LETTER NG"),
  (0x16e76, "MEDEFAIDRIN SMALL LETTER H"), (0x16e77, "MEDEFAIDRIN SMALL LETTER NG"),
  (0x1b001, "HENTAIGANA LETTER E-1"),
  (0x1d0c5, "BYZANTINE MUSICAL SYMBOL FTHORA SKLIRON CHROMA VASIS")]

end FragmentWeaver.Text
