/-!
# Classes of characters

White space and decimal digits are written down here; other properties are kept as tables of ranges.
Trimming is defined on character lists and carried to `String` at the end.
-/

namespace FragmentWeaver.Text

/-- White space: the Unicode separators together with the ASCII controls `\t` to `\r` and
    `\x1c` to `\x1f`. -/
def isBlank (c : Char) : Bool :=
  let n := c.toNat
  (9 ≤ n && n ≤ 13) || (28 ≤ n && n ≤ 32) || n == 0x85 || n == 0xa0 || n == 0x1680 ||
    (0x2000 ≤ n && n ≤ 0x200a) || n == 0x2028 || n == 0x2029 || n == 0x202f || n == 0x205f ||
    n == 0x3000

/-- Drop from both ends the characters of a class. -/
def trimBy (p : Char → Bool) (cs : List Char) : List Char :=
  ((cs.dropWhile p).reverse.dropWhile p).reverse

/-- Drop white space from both ends. -/
def strip (s : String) : String :=
  String.ofList (trimBy isBlank s.toList)

/-- No character other than white space occurs. -/
def allBlank (cs : List Char) : Bool :=
  cs.all isBlank

theorem allBlank_nil : allBlank [] = true := rfl

theorem trimBy_nil (p : Char → Bool) : trimBy p [] = [] := rfl

/-! ## Decimal digits

Every script of Unicode 14 that counts in tens has its ten digits in a row, so the table holds the
code points of the zeros. -/

/-- The zeros from code point 128 on. -/
def zeros : List Nat := [
  0x660, 0x6f0, 0x7c0, 0x966, 0x9e6, 0xa66, 0xae6, 0xb66, 0xbe6, 0xc66, 0xce6, 0xd66, 0xde6,
  0xe50, 0xed0, 0xf20, 0x1040, 0x1090, 0x17e0, 0x1810, 0x1946, 0x19d0, 0x1a80, 0x1a90, 0x1b50,
  0x1bb0, 0x1c40, 0x1c50, 0xa620, 0xa8d0, 0xa900, 0xa9d0, 0xa9f0, 0xaa50, 0xabf0, 0xff10, 0x104a0,
  0x10d30, 0x11066, 0x110f0, 0x11136, 0x111d0, 0x112f0, 0x11450, 0x114d0, 0x11650, 0x116c0,
  0x11730, 0x118e0, 0x11950, 0x11c50, 0x11d50, 0x11da0, 0x16a60, 0x16ac0, 0x16b50, 0x1d7ce,
  0x1d7d8, 0x1d7e2, 0x1d7ec, 0x1d7f6, 0x1e140, 0x1e2f0, 0x1e950, 0x1fbf0]

/-- The value of a decimal digit of any script. -/
def digitValue? (c : Char) : Option Nat :=
  if c.toNat < 128 then
    if c.isDigit then some (c.toNat - 48) else none
  else (zeros.find? fun z => z ≤ c.toNat && c.toNat < z + 10).map (c.toNat - ·)

/-! ## Ranges of code points

Character properties are kept as ascending lists of closed ranges. -/

/-- Does the number lie in one of the ranges? The ranges ascend, so the search stops at the first
    one that ends at or after the number. -/
def inRanges : List (Nat × Nat) → Nat → Bool
  | [], _ => false
  | (low, high) :: ranges, n => if high < n then inRanges ranges n else low ≤ n

end FragmentWeaver.Text
