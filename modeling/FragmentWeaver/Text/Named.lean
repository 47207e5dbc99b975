import FragmentWeaver.Number.Whole
import FragmentWeaver.Text.CharacterNames
import FragmentWeaver.Text.Composed
import FragmentWeaver.Text.Split

/-!
# Characters by name

The character that a name stands for. Names are compared without regard to the case of their
letters. The ideographs are named by their code points and the Hangul syllables by their letters;
these two families are written in capital letters.
-/

namespace FragmentWeaver.Text

/-- A name in capital letters. -/
def capitals (name : String) : String :=
  String.ofList (name.toList.map Char.toUpper)

/-- Names that count up in their last number or letter: what they start with, the first and the last
    count, and the number of digits that a count has at least. Letters have no digits. -/
structure Stretch where
  stem : List Char
  first : Nat
  last : Nat
  width : Nat
  deriving DecidableEq, Repr

/-- The number that decimal digits write. -/
def decimalValue (digits : List Char) : Nat :=
  digits.foldl (fun n c => 10 * n + (c.toNat - '0'.toNat)) 0

/-- A number with at least some digits. -/
def paddedDigits (width n : Nat) : List Char :=
  let digits := Number.digitsOf n
  List.replicate (width - digits.length) '0' ++ digits

/-- The stretch of a name and those that follow it, up to the last count. -/
def Stretch.upTo (name last : String) : Stretch :=
  let backwards := name.toList.reverse
  let digits := (backwards.takeWhile Char.isDigit).reverse
  if digits.isEmpty then
    let code (s : String) := (s.toList.getLast?.map Char.toNat).getD 0
    ⟨name.toList.dropLast, code name, code last, 0⟩
  else
    let stem := (backwards.dropWhile Char.isDigit).reverse
    ⟨stem, decimalValue digits, decimalValue last.toList, digits.length⟩

/-- How many names a stretch has. -/
def Stretch.size (s : Stretch) : Nat := s.last + 1 - s.first

/-- The place of a name in a stretch. -/
def Stretch.place? (s : Stretch) (name : String) : Option Nat :=
  let rest := name.toList.drop s.stem.length
  let count? : Option Nat :=
    if s.width = 0 then
      match rest with
      | [c] => some c.toNat
      | _ => none
    else if rest.all Char.isDigit && paddedDigits s.width (decimalValue rest) == rest then
      some (decimalValue rest)
    else none
  match count? with
  | some n =>
    if s.stem.isPrefixOf name.toList && s.first ≤ n && n ≤ s.last then some (n - s.first) else none
  | none => none

/-- The pieces that a name is told with: words, and small letters. -/
def nameTokens (told : String) : List (List Char) :=
  let parted := told.toList.flatMap fun c => if c.isLower then [' ', c, ' '] else [c]
  (cutAt ' ' parted).filter (!·.isEmpty)

/-- The words that a piece stands for, after the first `n` words of a name; `before` are the words of
    the name before it. -/
def tokenWords (before : List String) (n : Nat) (token : List Char) : List String :=
  match token with
  | [c] =>
    if c.isLower then
      let place := c.toNat - 'a'.toNat
      if place < takenLetters then (before.drop n).take (place + 1)
      else commonWords[place - takenLetters]?.toList
    else [String.ofList token]
  | _ => [String.ofList token]

/-- The words of a name that is told after one with the words `before`. -/
def toldWords (before : List String) (told : String) : List String :=
  (nameTokens told).foldl (fun words token => words ++ tokenWords before words.length token) []

/-- The place of an ending among the told endings of a row, when the first of them has place `n`. -/
def placeOfEnding? (ending : String) : List String → List String → Nat → Option Nat
  | _, [], _ => none
  | before, item :: items, n =>
    match item.splitOn ".." with
    | [told, last] =>
      let words := toldWords before told
      let stretch := Stretch.upTo (join " " words) last
      match stretch.place? ending with
      | some k => some (n + k)
      | none => placeOfEnding? ending words items (n + stretch.size)
    | _ =>
      match toldWords before item with
      | [] => placeOfEnding? ending before items (n + 1)
      | words =>
        if join " " words == ending then some n else placeOfEnding? ending words items (n + 1)

/-- The code point of a listed name. -/
def listedName? (name : String) : Option Nat :=
  (nameRows.findSome? fun (first, opening, endings) =>
    if opening.isPrefixOf name then
      (placeOfEnding? (String.ofList (name.toList.drop opening.length)) []
        ((split '\n' endings).flatMap (split '|')) 0).map (first + ·)
    else none).or
  (furtherNames.findSome? fun (n, names) =>
    if (names.splitOn "|").contains name then some n else none)

/-- What follows an opening. -/
def afterOpening? (opening : String) (name : String) : Option (List Char) :=
  if opening.isPrefixOf name then some (name.toList.drop opening.length) else none

/-- The ranges of the ideographs that are named by their code points. -/
def ideographRanges : List (Nat × Nat) := [
  (0x3400, 0x4dbf), (0x4e00, 0x9fff), (0x20000, 0x2a6df), (0x2a700, 0x2b738), (0x2b740, 0x2b81d),
  (0x2b820, 0x2cea1), (0x2ceb0, 0x2ebe0), (0x30000, 0x3134a)]

/-- The value of a hexadecimal digit with a capital letter. -/
def capitalHexValue? (c : Char) : Option Nat :=
  let n := c.toNat
  if 48 ≤ n && n ≤ 57 then some (n - 48) else if 65 ≤ n && n ≤ 70 then some (n - 55) else none

/-- The ideograph that a name stands for: the code point has four or five digits. -/
def ideograph? (name : String) : Option Nat := do
  let digits ← afterOpening? "CJK UNIFIED IDEOGRAPH-" name
  let n ← digits.foldlM (fun n c => (capitalHexValue? c).map (16 * n + ·)) 0
  if (digits.length = 4 || digits.length = 5) && inRanges ideographRanges n then some n else none

/-- Further characters that are named by their code points. -/
def coded : List (String × List (Nat × Nat)) := [
  ("CJK COMPATIBILITY IDEOGRAPH-", [(0xf900, 0xfa6d), (0xfa70, 0xfad9), (0x2f800, 0x2fa1d)]),
  ("KHITAN SMALL SCRIPT CHARACTER-", [(0x18b00, 0x18cd5)]),
  ("NUSHU CHARACTER-", [(0x1b170, 0x1b2fb)])]

/-- The code point that ends a name of a coded character. -/
def codedName? (name : String) : Option Nat :=
  coded.findSome? fun (opening, ranges) => do
    let digits ← afterOpening? opening name
    let n ← digits.foldlM (fun n c => (capitalHexValue? c).map (16 * n + ·)) 0
    if digits.head? ≠ some '0' && inRanges ranges n then some n else none

/-- The names of the leading letters of Hangul. -/
def leadingNames : List String := "G|GG|N|D|DD|R|M|B|BB|S|SS||J|JJ|C|K|T|P|H".splitOn "|"

/-- The names of the middle letters of Hangul. -/
def middleNames : List String :=
  "A|AE|YA|YAE|EO|E|YEO|YE|O|WA|WAE|OE|YO|U|WEO|WE|WI|YU|EU|YI|I".splitOn "|"

/-- The names of the endings of a Hangul syllable, the first of which is none. -/
def trailingNames : List String :=
  "|G|GG|GS|N|NJ|NH|D|L|LG|LM|LB|LS|LT|LP|LH|M|B|BS|S|SS|NG|J|C|K|T|P|H".splitOn "|"

/-- The longest of some names that a text starts with: its place, and what follows it. -/
def longestName? (names : List String) (cs : List Char) : Option (Nat × List Char) :=
  let found := names.zipIdx.filter fun (n, _) => n.toList.isPrefixOf cs
  (found.foldl (fun (best : Option (String × Nat)) (n, i) =>
      match best with
      | some (m, j) => if m.length < n.length then some (n, i) else some (m, j)
      | none => some (n, i)) none).map
    fun (n, i) => (i, cs.drop n.length)

/-- The Hangul syllable that a name stands for. -/
def syllableNamed? (name : String) : Option Nat := do
  let cs ← afterOpening? "HANGUL SYLLABLE " name
  let (l, cs) ← longestName? leadingNames cs
  let (v, cs) ← longestName? middleNames cs
  let (t, cs) ← longestName? trailingNames cs
  if cs.isEmpty then some (syllableStart + (l * middleCount + v) * trailingCount + t) else none

/-- The character with a name. -/
def charNamed? (name : String) : Option Char :=
  let inCapitals := capitals name
  ((ideograph? name).or ((syllableNamed? name).or
    ((codedName? inCapitals).or (listedName? inCapitals)))).map Char.ofNat

end FragmentWeaver.Text
