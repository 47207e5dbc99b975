import FragmentWeaver.Text.Named
import FragmentWeaver.Text.Printable

/-!
# Quoted text

The written form of a text as a literal, and reading it back. A literal stands in apostrophes, or in
double quotes when the text holds an apostrophe and no double quote. The mark itself, the backslash
and every character without a visible form are escaped.
-/

namespace FragmentWeaver.Text

/-- The quote character a text is written in. -/
def quoteMark (cs : List Char) : Char :=
  if cs.contains '\'' && !cs.contains '"' then '"' else '\''

/-- The digit with a value below sixteen. -/
def hexDigit (n : Nat) : Char :=
  if n < 10 then Char.ofNat (48 + n) else Char.ofNat (87 + n)

/-- A number in a fixed count of hexadecimal digits. -/
def hexDigits : Nat → Nat → List Char
  | 0, _ => []
  | width + 1, n => hexDigits width (n / 16) ++ [hexDigit (n % 16)]

/-- The shortest numeric escape that has room for a code point. -/
def numericEscape (n : Nat) : List Char :=
  if n < 0x100 then '\\' :: 'x' :: hexDigits 2 n
  else if n < 0x10000 then '\\' :: 'u' :: hexDigits 4 n
  else '\\' :: 'U' :: hexDigits 8 n

/-- How one character of a text is written between the given marks. -/
def escapeChar (mark c : Char) : List Char :=
  if c = mark || c = '\\' then ['\\', c]
  else if c = '\n' then ['\\', 'n']
  else if c = '\r' then ['\\', 'r']
  else if c = '\t' then ['\\', 't']
  else if isPrintable c then [c]
  else numericEscape c.toNat

/-- The literal of a text, as a list of characters. -/
def quoteChars (cs : List Char) : List Char :=
  let mark := quoteMark cs
  mark :: cs.flatMap (escapeChar mark) ++ [mark]

/-- The literal of a text. -/
def quote (s : String) : String :=
  String.ofList (quoteChars s.toList)

/-- How one byte is written between the given marks. -/
def escapeByte (mark : Char) (b : UInt8) : List Char :=
  let c := Char.ofNat b.toNat
  if c = mark || c = '\\' then ['\\', c]
  else if c = '\n' then ['\\', 'n']
  else if c = '\r' then ['\\', 'r']
  else if c = '\t' then ['\\', 't']
  else if 32 ≤ b && b < 127 then [c]
  else '\\' :: 'x' :: hexDigits 2 b.toNat

/-- The literal of a run of bytes: a `b` before the quoted bytes. -/
def quoteBytes (bytes : List UInt8) : String :=
  let mark := quoteMark (bytes.map fun b => Char.ofNat b.toNat)
  String.ofList ('b' :: mark :: bytes.flatMap (escapeByte mark) ++ [mark])

/-- The value of a hexadecimal digit. -/
def hexValue? (c : Char) : Option Nat :=
  let n := c.toNat
  if 48 ≤ n && n ≤ 57 then some (n - 48)
  else if 97 ≤ n && n ≤ 102 then some (n - 87)
  else if 65 ≤ n && n ≤ 70 then some (n - 55)
  else none

/-- Bytes from pairs of hexadecimal digits; what is no digit counts as zero. -/
def bytesOfHex : List Char → List UInt8
  | a :: b :: rest =>
      UInt8.ofNat (16 * (hexValue? a).getD 0 + (hexValue? b).getD 0) :: bytesOfHex rest
  | _ => []

/-- Bytes as pairs of hexadecimal digits. -/
def hexOfBytes (bs : List UInt8) : String :=
  String.ofList (bs.flatMap fun b => hexDigits 2 b.toNat)

/-- The value of a run of hexadecimal digits. -/
def hexNumber? (cs : List Char) : Option Nat :=
  cs.foldlM (fun n c => (hexValue? c).map (16 * n + ·)) 0

/-- The character with a code point; a code point that is no character is replaced. -/
def charOf (n : Nat) : Char :=
  if n < 0xd800 || (0xdfff < n && n < 0x110000) then Char.ofNat n else '\ufffd'

/-- The character that a backslash and a letter stand for. -/
def letterEscape? : Char → Option Char
  | '\\' => some '\\'
  | '\'' => some '\''
  | '"' => some '"'
  | 'a' => some '\x07'
  | 'b' => some '\x08'
  | 'f' => some '\x0c'
  | 'n' => some '\n'
  | 'r' => some '\r'
  | 't' => some '\t'
  | 'v' => some '\x0b'
  | _ => none

/-- The value of an octal digit. -/
def octalValue? (c : Char) : Option Nat :=
  if 48 ≤ c.toNat && c.toNat ≤ 55 then some (c.toNat - 48) else none

/-- The code point of the backslash. -/
def backslash : Nat := '\\'.toNat

/-- The code points that the inside of a literal stands for. A backslash before a line end joins two lines, one before any
    other character without a meaning stays; numeric escapes need all their digits. The escapes by
    `u`, `U` and `N` are known in texts only, not in runs of bytes. While a name is read, `naming`
    holds what has been read of it, the last character first. -/
def unescapeFrom (wide : Bool) : Option (List Char) → List Char → Option (List Nat)
  | some _, [] => none
  | some naming, '\x7d' :: rest => do
      let c ← charNamed? (String.ofList naming.reverse)
      return c.toNat :: (← unescapeFrom wide none rest)
  | some naming, c :: rest => unescapeFrom wide (some (c :: naming)) rest
  | none, [] => some []
  | none, '\\' :: '\n' :: rest => unescapeFrom wide none rest
  | none, '\\' :: 'x' :: a :: b :: rest => do
      let n ← hexNumber? [a, b]
      return n :: (← unescapeFrom wide none rest)
  | none, '\\' :: 'x' :: _ => none
  | none, '\\' :: 'u' :: a :: b :: c :: d :: rest =>
      if wide then do
        let n ← hexNumber? [a, b, c, d]
        return n :: (← unescapeFrom wide none rest)
      else (unescapeFrom wide none (a :: b :: c :: d :: rest)).map (backslash :: 'u'.toNat :: ·)
  | none, '\\' :: 'U' :: a :: b :: c :: d :: e :: f :: g :: h :: rest =>
      if wide then do
        let n ← hexNumber? [a, b, c, d, e, f, g, h]
        if n < 0x110000 then return n :: (← unescapeFrom wide none rest) else none
      else
        (unescapeFrom wide none (a :: b :: c :: d :: e :: f :: g :: h :: rest)).map
          (backslash :: 'U'.toNat :: ·)
  | none, '\\' :: 'N' :: '\x7b' :: rest =>
      if wide then unescapeFrom wide (some []) rest
      else (unescapeFrom wide none ('\x7b' :: rest)).map (backslash :: 'N'.toNat :: ·)
  | none, '\\' :: c :: rest =>
      match letterEscape? c with
      | some e => (unescapeFrom wide none rest).map (e.toNat :: ·)
      | none =>
          match octalValue? c with
          | some n =>
              match rest with
              | [] => some [n]
              | d :: rest =>
                  match octalValue? d with
                  | none => (unescapeFrom wide none (d :: rest)).map (n :: ·)
                  | some m =>
                      let n := 8 * n + m
                      match rest with
                      | [] => some [n]
                      | e :: rest =>
                          match octalValue? e with
                          | none => (unescapeFrom wide none (e :: rest)).map (n :: ·)
                          | some k => (unescapeFrom wide none rest).map ((8 * n + k) :: ·)
          | none =>
              if wide && (c = 'u' || c = 'U' || c = 'N') then none
              else (unescapeFrom wide none rest).map (backslash :: c.toNat :: ·)
  | none, c :: rest => (unescapeFrom wide none rest).map (c.toNat :: ·)

/-- The code points that the inside of a literal stands for. -/
def unescape (wide : Bool) (cs : List Char) : Option (List Nat) :=
  unescapeFrom wide none cs

/-! ## Code points that are no characters

A text can be written with halves of surrogate pairs in it, which stand for no character. Such a
text is a list of code points; one without halves is a text like any other. -/

/-- Is the code point half of a surrogate pair? -/
def isHalf (n : Nat) : Bool := 0xd800 ≤ n && n < 0xe000

/-- The code points of a text. -/
def pointsOf (s : String) : List Nat :=
  s.toList.map Char.toNat

/-- The text of some code points, if each of them is a character. -/
def ofPoints? (ps : List Nat) : Option String :=
  if ps.any isHalf then none else some (String.ofList (ps.map charOf))

/-- The literal of some code points, where halves are escaped. -/
def quotePoints (ps : List Nat) : String :=
  let mark := quoteMark (ps.map charOf)
  let one (n : Nat) : List Char := if isHalf n then numericEscape n else escapeChar mark (charOf n)
  String.ofList (mark :: ps.flatMap one ++ [mark])

/-- Some code points as a message tells them: halves are escaped, all else stands for itself. -/
def tellPoints (ps : List Nat) : String :=
  String.ofList (ps.flatMap fun n => if isHalf n then numericEscape n else [charOf n])

end FragmentWeaver.Text
