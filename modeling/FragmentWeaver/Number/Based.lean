import FragmentWeaver.Number.Decimal

/-!
# Whole numbers to a base

A whole number may be written to any base from two to thirty-six, with single underscores between
its digits. Letters stand for the digits from ten on. A zero with a letter may say the base; base
zero means that it has to, and that ten is meant otherwise.
-/

namespace FragmentWeaver.Number

/-- The base that a letter after a zero stands for. -/
def letterBase? (c : Char) : Option Nat :=
  if c = 'x' || c = 'X' then some 16
  else if c = 'o' || c = 'O' then some 8
  else if c = 'b' || c = 'B' then some 2
  else none

/-- The value of a letter as a digit. -/
def letterDigit? (c : Char) : Option Nat :=
  if 'a' ≤ c && c ≤ 'z' then some (c.toNat - 'a'.toNat + 10)
  else if 'A' ≤ c && c ≤ 'Z' then some (c.toNat - 'A'.toNat + 10)
  else none

/-- The value of a digit to a base. -/
def digitIn? (base : Nat) (c : Char) : Option Nat :=
  ((Text.digitValue? c).or (letterDigit? c)).filter (· < base)

/-- What reading a whole number comes to. -/
inductive WholeReading where
  | number (i : Int)
  /-- There are too many digits for a base that is no power of two. -/
  | tooLong (digits : Nat)
  | malformed
  deriving DecidableEq, Repr

/-- The most digits that a whole number is read from or written with. -/
def digitMaximum : Nat := 4300

/-- Do underscores stand between digits only, each on its own? -/
def underscoresFit : List Char → Bool
  | [] => true
  | ['_'] => false
  | '_' :: '_' :: _ => false
  | _ :: rest => underscoresFit rest

/-- The base of a number and its digits, without what says the base; and whether it has to be zero,
    as there is a zero before other digits where the base is left open. -/
def baseAndDigits (base : Nat) (cs : List Char) : Nat × List Char × Bool :=
  match cs with
  | '0' :: c :: rest =>
      match letterBase? c with
      | some b =>
          if base = 0 || base = b then
            (b, match rest with
              | '_' :: rest => rest
              | rest => rest, false)
          else (base, cs, false)
      | none => if base = 0 then (10, cs, true) else (base, cs, false)
  | cs => (if base = 0 then 10 else base, cs, false)

/-- Read digits to a base up to the end of the text. -/
def readBased (base : Nat) (negative zeroOnly : Bool) (cs : List Char) : WholeReading :=
  let isDigit (c : Char) : Bool := (digitIn? base c).isSome
  let run := cs.takeWhile fun c => c = '_' || isDigit c
  let digits := run.filter isDigit
  let value := digits.foldl (fun n c => base * n + (digitIn? base c).getD 0) 0
  if run.isEmpty || run.head? = some '_' || !underscoresFit run then .malformed
  else if digitMaximum < digits.length && pow2 base.log2 ≠ base then .tooLong digits.length
  else if run.length ≠ cs.length || (zeroOnly && value ≠ 0) then .malformed
  else .number (if negative then -(value : Int) else value)

/-- Read a whole text as a whole number to a base; white space around it is allowed. -/
def readWhole (base : Nat) (s : String) : WholeReading :=
  let (negative, cs) := readSign (Text.trimBy isAround s.toList)
  let (base, digits, zeroOnly) := baseAndDigits base cs
  readBased base negative zeroOnly digits

end FragmentWeaver.Number
