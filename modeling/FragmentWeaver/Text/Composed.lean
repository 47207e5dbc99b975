import FragmentWeaver.Text.Character
import FragmentWeaver.Text.Variant

/-!
# Composed text

Two spellings of a name are one name when their composed forms are equal. In the composed form every
variant is replaced by what it stands for, the marks on a letter stand in the order of their
classes, and a letter is joined with its marks wherever there is a character for both.
-/

namespace FragmentWeaver.Text

/-- What a run of a table holds for a code point: the entry as far into the run as the code
    point. -/
def inRun? {α : Type} (entries : String → List α) (runs : List (Nat × String)) (n : Nat) :
    Option α :=
  runs.findSome? fun (first, run) => if n < first then none else (entries run)[n - first]?

/-- What a character is a variant of; itself, when it is none. -/
def plain (c : Char) : List Char :=
  match inRun? String.toList variantRuns c.toNat with
  | some d => [d]
  | none =>
      match inRun? (·.splitOn " ") expansionRuns c.toNat with
      | some s => s.toList
      | none => [c]

/-- The class of a mark; zero for what is no mark. -/
def markClass (c : Char) : Nat :=
  match markRanges.find? fun (first, last, _) => first ≤ c.toNat && c.toNat ≤ last with
  | some (_, _, k) => k
  | none => 0

/-- Where the Hangul syllables start. -/
def syllableStart : Nat := 0xac00

/-- Where the leading letters of Hangul start. -/
def leadingStart : Nat := 0x1100

/-- Where the middle letters of Hangul start. -/
def middleStart : Nat := 0x1161

/-- Just before the trailing letters of Hangul; it stands for no trailing letter. -/
def trailingStart : Nat := 0x11a7

/-- How many leading letters Hangul has. -/
def leadingCount : Nat := 19

/-- How many middle letters Hangul has. -/
def middleCount : Nat := 21

/-- How many endings a Hangul syllable can have, none among them. -/
def trailingCount : Nat := 28

/-- The two parts of a Hangul syllable: a pair of letters, or a syllable and its trailing letter. -/
def syllableParts? (c : Char) : Option (Char × Char) :=
  let i := c.toNat - syllableStart
  let pairs := i / trailingCount
  if c.toNat < syllableStart || leadingCount * middleCount ≤ pairs then none
  else if i % trailingCount = 0 then
    some (Char.ofNat (leadingStart + pairs / middleCount),
      Char.ofNat (middleStart + pairs % middleCount))
  else
    some (Char.ofNat (syllableStart + pairs * trailingCount),
      Char.ofNat (trailingStart + i % trailingCount))

/-- The Hangul syllable that two parts make. -/
def syllable? (a b : Char) : Option Char :=
  let leading := a.toNat - leadingStart
  let middle := b.toNat - middleStart
  let trailing := b.toNat - trailingStart
  if leadingStart ≤ a.toNat && leading < leadingCount && middleStart ≤ b.toNat &&
      middle < middleCount then
    some (Char.ofNat (syllableStart + (leading * middleCount + middle) * trailingCount))
  else if trailingStart < b.toNat && trailing < trailingCount then
    match syllableParts? a with
    | some (_, d) =>
        if d.toNat < trailingStart then some (Char.ofNat (a.toNat + trailing)) else none
    | none => none
  else none

/-- The two parts of a character that can also be written as two. -/
def parts? (c : Char) : Option (Char × Char) :=
  (syllableParts? c).or <| composites.findSome? fun (second, firsts, wholes) =>
    ((wholes.toList.zip firsts.toList).lookup c).map fun a => (a, Char.ofNat second)

/-- The character that two others make together. -/
def whole? (a b : Char) : Option Char :=
  (syllable? a b).or <| composites.findSome? fun (second, firsts, wholes) =>
    if second = b.toNat then (firsts.toList.zip wholes.toList).lookup a else none

/-- A character taken apart at most so many times. -/
def apart : Nat → Char → List Char
  | 0, c => [c]
  | n + 1, c =>
      match parts? c with
      | some (a, b) => apart n a ++ [b]
      | none => [c]

/-- The most marks that a character has in it. -/
def markLimit : Nat := 4

/-- Put a character after a text whose last character comes first; a mark goes before the marks of
    higher classes. -/
def placeMark (c : Char) : List Char → List Char
  | [] => [c]
  | d :: before =>
      if markClass c ≠ 0 && markClass c < markClass d then d :: placeMark c before
      else c :: d :: before

/-- Join a letter with the marks after it. Those that could not be joined, the last one first, keep
    marks of their own class and of lower ones from joining. -/
def joinMarks (letter : Char) (marks : List Char) : List Char → List Char
  | [] => letter :: marks.reverse
  | c :: cs =>
      let isFree : Bool := match marks with
        | d :: _ => markClass d < markClass c
        | [] => true
      match if isFree then whole? letter c else none with
      | some whole => joinMarks whole marks cs
      | none =>
          if markClass c = 0 then letter :: marks.reverse ++ joinMarks c [] cs
          else joinMarks letter (c :: marks) cs

/-- The composed form of a text. -/
def composed (s : String) : String :=
  if s.toList.all fun c => c.toNat < 128 then s
  else
    let cs := (s.toList.flatMap plain).flatMap (apart markLimit)
    match (cs.foldl (fun before c => placeMark c before) []).reverse with
    | [] => ""
    | c :: cs => String.ofList (joinMarks c [] cs)

end FragmentWeaver.Text
