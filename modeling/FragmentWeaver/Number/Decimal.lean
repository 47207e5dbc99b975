import FragmentWeaver.Number.Binary
import FragmentWeaver.Number.Whole
import FragmentWeaver.Text.Character

/-!
# Decimal texts of floating point numbers

A number is written with the fewest digits that read back as the same number, and of those with the
nearest. Reading takes digits of any script, an exponent, single underscores between digits, and the
words for infinity and the undefined number.
-/

namespace FragmentWeaver.Number

/-- The real numbers that round to one float, as two ratios over one denominator, and whether the
    ends belong to them. -/
structure Interval where
  low : Nat
  high : Nat
  den : Nat
  closed : Bool

/-- The interval of the reals that round to `mantissa · 2 ^ exponent`. Below a power of two the
    neighbour is only half as far away. -/
def Interval.around (f : Format) (mantissa : Nat) (exponent : Int) : Interval :=
  let narrow := mantissa = pow2 (f.digits - 1) && f.least < exponent
  let (num, den) := Binary.ratio 1 exponent
  { low := (if narrow then 4 * mantissa - 1 else 4 * mantissa - 2) * num
    high := (4 * mantissa + 2) * num
    den := 4 * den
    closed := mantissa % 2 = 0 }

/-- Does `digits · 10 ^ place` lie in the interval? -/
def Interval.holds (i : Interval) (digits : Nat) (place : Int) : Bool :=
  let (num, den) :=
    if 0 ≤ place then (digits * pow10 place.toNat, 1) else (digits, pow10 (-place).toNat)
  if i.closed then i.low * den ≤ num * i.den && num * i.den ≤ i.high * den
  else i.low * den < num * i.den && num * i.den < i.high * den

/-- The greatest `k` with `10 ^ k ≤ num / den`, found near the guess from the binary magnitude. -/
def decimalMagnitude (num den : Nat) : Int :=
  let guess : Int := Binary.magnitude num den * 30103 / 100000
  let fits (k : Int) : Bool :=
    if 0 ≤ k then den * pow10 k.toNat ≤ num else den ≤ num * pow10 (-k).toNat
  if fits (guess + 1) then guess + 1 else if fits guess then guess else guess - 1

/-- Of the neighbours of `num / den` on the grid of `10 ^ place`, the nearest one in the interval;
    an exact tie goes to the even one. -/
def onGrid (i : Interval) (num den : Nat) (place : Int) : Option Nat :=
  let (n, d) :=
    if 0 ≤ place then (num, den * pow10 place.toNat) else (num * pow10 (-place).toNat, den)
  let below := n / d
  let above := below + 1
  let rest := 2 * (n % d)
  match i.holds below place, i.holds above place with
  | true, true =>
      some (if rest < d then below else if d < rest then above
        else if below % 2 = 0 then below else above)
  | true, false => some below
  | false, true => some above
  | false, false => none

/-- The digits of the shortest decimal that reads back, on a grid of at least `count` digits, and
    the place of the last digit. -/
def shortestFrom (i : Interval) (num den : Nat) (top : Int) : Nat → Nat → Nat × Int
  | 0, count => (num * pow10 count / den, -(count : Int))
  | tries + 1, count =>
      let place := top - (count : Int) + 1
      match onGrid i num den place with
      | some digits => (digits, place)
      | none => shortestFrom i num den top tries (count + 1)

/-- The digits without the zeros at their end, and how many those were. -/
def withoutZeros (digits : List Char) : List Char × Nat :=
  let rest := digits.reverse.dropWhile (· = '0')
  (rest.reverse, digits.length - rest.length)

/-- A digit list and the place of the point: the value is `0.d₁d₂… · 10 ^ point`. -/
structure Decimal where
  digits : List Char
  point : Int

/-- The shortest decimal of a finite nonzero number. -/
def shortest (mantissa : Nat) (exponent : Int) : Decimal :=
  let (num, den) := Binary.ratio mantissa exponent
  let top := decimalMagnitude num den
  let (n, place) :=
    shortestFrom (Interval.around .wide mantissa exponent) num den top 17 1
  let all := digitsOf n
  let (digits, dropped) := withoutZeros all
  { digits := digits, point := place + dropped + digits.length }

/-- A decimal in the form with a point: used when the point stands near the digits. -/
def Decimal.positional (d : Decimal) : List Char :=
  if d.point ≤ 0 then
    '0' :: '.' :: List.replicate (-d.point).toNat '0' ++ d.digits
  else
    let whole := d.point.toNat
    if d.digits.length ≤ whole then
      d.digits ++ List.replicate (whole - d.digits.length) '0' ++ ['.', '0']
    else d.digits.take whole ++ '.' :: d.digits.drop whole

/-- The exponent of a decimal: a sign and at least two digits. -/
def exponentText (e : Int) : List Char :=
  let digits := digitsOf e.natAbs
  (if e < 0 then '-' else '+') :: (if digits.length < 2 then '0' :: digits else digits)

/-- A decimal with one digit before the point and an exponent. -/
def Decimal.scientific (d : Decimal) : List Char :=
  let head := match d.digits with
    | [] => ['0']
    | [c] => [c]
    | c :: rest => c :: '.' :: rest
  head ++ 'e' :: exponentText (d.point - 1)

/-- The text of a float. The form with a point serves values from `1e-4` up to below `1e16`; in it a
    whole value ends in `.0` if `pointed`. -/
def Binary.text (x : Binary) : String :=
  match x with
  | .undefined => "nan"
  | .infinite n => if n then "-inf" else "inf"
  | .finite n m e =>
      let body :=
        if m = 0 then ['0', '.', '0']
        else
          let d := shortest m e
          if -4 < d.point && d.point ≤ 16 then d.positional else d.scientific
      String.ofList (if n then '-' :: body else body)

/-- The text of one part of a complex number: as for a float, without a final `.0`. -/
def Binary.partText (x : Binary) : String :=
  let cs := x.text.toList
  match cs.reverse with
  | '0' :: '.' :: rest => String.ofList rest.reverse
  | _ => x.text

/-- The text of a complex number. A zero first part without a sign is left out, else both parts
    stand in brackets. -/
def complexText (re im : Binary) : String :=
  let signed := if im.isNegative then im.partText else "+" ++ im.partText
  match re with
  | .finite false 0 _ => im.partText ++ "j"
  | _ => "(" ++ re.partText ++ signed ++ "j)"

/-- Read digits of any script with single underscores between them: their value, how many they are,
    and the rest. -/
def readDigits (acc count : Nat) : List Char → Nat × Nat × List Char
  | [] => (acc, count, [])
  | '_' :: c :: rest =>
      if 0 < count then
        match Text.digitValue? c with
        | some d => readDigits (10 * acc + d) (count + 1) rest
        | none => (acc, count, '_' :: c :: rest)
      else (acc, count, '_' :: c :: rest)
  | c :: rest =>
      match Text.digitValue? c with
      | some d => readDigits (10 * acc + d) (count + 1) rest
      | none => (acc, count, c :: rest)

/-- An optional sign: whether it is a minus, and the rest. -/
def readSign : List Char → Bool × List Char
  | '-' :: rest => (true, rest)
  | '+' :: rest => (false, rest)
  | rest => (false, rest)

/-- `digits · 10 ^ place` as a 64 bit number. An exponent beyond every number of the format is cut
    down to one that is just beyond. -/
def ofDecimal (negative : Bool) (digits : Nat) (place : Int) : Binary :=
  if digits = 0 then Binary.zeroOf negative
  else
    let size := place + (digitsOf digits).length
    if 400 < size then .infinite negative
    else if size < -400 then Binary.zeroOf negative
    else if 0 ≤ place then Binary.ofRatio .wide negative (digits * pow10 place.toNat) 1
    else Binary.ofRatio .wide negative digits (pow10 (-place).toNat)

/-- An optional exponent: its value, or nothing when there is a mark and no digits. -/
def readExponent (cs : List Char) : Option (Int × List Char) :=
  match cs with
  | c :: rest =>
      if c = 'e' || c = 'E' then
        let (negative, rest) := readSign rest
        match readDigits 0 0 rest with
        | (_, 0, _) => none
        | (n, _, rest) => some (if negative then -(n : Int) else n, rest)
      else some (0, c :: rest)
  | [] => some (0, [])

/-- Read an unsigned number with a point or an exponent or neither, and what follows it. -/
def readNumber (negative : Bool) (cs : List Char) : Option (Binary × List Char) :=
  let (whole, wholeCount, rest) := readDigits 0 0 cs
  let (all, count, rest) :=
    match rest with
    | '.' :: rest =>
        match readDigits 0 0 rest with
        | (part, partCount, rest) => (whole * pow10 partCount + part, (wholeCount, partCount), rest)
    | rest => (whole, (wholeCount, 0), rest)
  if count.1 + count.2 = 0 then none
  else
    match readExponent rest with
    | none => none
    | some (e, rest) =>
        some (ofDecimal negative all (e - (count.2 : Int)), rest)

/-- A lower case copy of an ASCII text. -/
def lowered (cs : List Char) : List Char :=
  cs.map Char.toLower

/-- The white space that may stand around a number: all of it but the four separator characters of
    ASCII. -/
def isAround (c : Char) : Bool :=
  Text.isBlank c && !(0x1c ≤ c.toNat && c.toNat ≤ 0x1f)

/-- Read a whole text as a float; white space around it is allowed. -/
def read? (s : String) : Option Binary :=
  let (negative, cs) := readSign (Text.trimBy isAround s.toList)
  match String.ofList (lowered cs) with
  | "inf" | "infinity" => some (.infinite negative)
  | "nan" => some .undefined
  | _ =>
      match readNumber negative cs with
      | some (x, []) => some x
      | _ => none

end FragmentWeaver.Number
