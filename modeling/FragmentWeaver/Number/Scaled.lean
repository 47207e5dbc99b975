import FragmentWeaver.Number.Binary
import FragmentWeaver.Number.Whole

/-!
# Decimals of a bounded length

Numbers `± coefficient · 10 ^ exponent`. A result has at most a fixed count of digits: what is
longer is rounded once, a tie going to the even digit. Trailing zeros are kept, as they say how
exact a number is; only a quotient drops the zeros that division brought in.
-/

namespace FragmentWeaver.Number

/-- A decimal: a sign and `coefficient · 10 ^ exponent`. -/
structure Scaled where
  negative : Bool
  coefficient : Nat
  exponent : Int
  deriving DecidableEq, Repr

namespace Scaled

/-- The most digits of a result. -/
def digitLimit : Nat := 28

/-- The greatest place of the first digit of a result. -/
def topPlace : Int := 999999

/-- The least place of the last digit of a result. -/
def bottomPlace : Int := -1000026

/-- The count of digits. -/
def size (x : Scaled) : Nat :=
  (digitsOf x.coefficient).length

/-- A number with at most `digitLimit` digits and none below `bottomPlace`. -/
def rounded (x : Scaled) : Scaled :=
  let extra := max (x.size - digitLimit) (bottomPlace - x.exponent).toNat
  if extra = 0 then x
  else if x.size < extra then ⟨x.negative, 0, x.exponent + extra⟩
  else
    let c := Binary.nearest x.coefficient (pow10 extra)
    if c = pow10 digitLimit then ⟨x.negative, pow10 (digitLimit - 1), x.exponent + extra + 1⟩
    else ⟨x.negative, c, x.exponent + extra⟩

/-- A whole number. -/
def ofInt (i : Int) : Scaled :=
  ⟨i < 0, i.natAbs, 0⟩

/-- The number with the other sign; there is no negative zero among the results. -/
def neg (x : Scaled) : Scaled :=
  if x.coefficient = 0 then ⟨false, 0, x.exponent⟩
  else rounded ⟨!x.negative, x.coefficient, x.exponent⟩

/-- The number as a result. -/
def pos (x : Scaled) : Scaled :=
  if x.coefficient = 0 then ⟨false, 0, x.exponent⟩ else x.rounded

/-- The same number with a smaller exponent. -/
def lowered (x : Scaled) (exponent : Int) : Scaled :=
  ⟨x.negative, x.coefficient * pow10 (x.exponent - exponent).toNat, min x.exponent exponent⟩

/-- The coefficient with its sign. -/
def signed (x : Scaled) : Int :=
  if x.negative then -(x.coefficient : Int) else x.coefficient

/-- The sum of a number and one with an exponent that is not greater. What is too small to be seen
    beside the other number counts as the least number that still decides how the sum is rounded. -/
def addLower (x y : Scaled) : Scaled :=
  let least := x.exponent + min (-1) ((x.size : Int) - digitLimit - 2)
  let y := if (y.size : Int) + y.exponent - 1 < least then ⟨y.negative, 1, least⟩ else y
  let sum := (x.lowered y.exponent).signed + y.signed
  rounded ⟨sum < 0, sum.natAbs, min x.exponent y.exponent⟩

/-- The sum. -/
def add (x y : Scaled) : Scaled :=
  let low := min x.exponent y.exponent
  let beside (x : Scaled) : Scaled :=
    rounded (x.lowered (max low (x.exponent - (digitLimit : Int) - 1)))
  if x.coefficient = 0 && y.coefficient = 0 then ⟨x.negative && y.negative, 0, low⟩
  else if x.coefficient = 0 then beside y
  else if y.coefficient = 0 then beside x
  else if y.exponent ≤ x.exponent then addLower x y
  else addLower y x

/-- The difference. -/
def sub (x y : Scaled) : Scaled :=
  add x ⟨!y.negative, y.coefficient, y.exponent⟩

/-- The product. -/
def mul (x y : Scaled) : Scaled :=
  rounded ⟨x.negative != y.negative, x.coefficient * y.coefficient, x.exponent + y.exponent⟩

/-- A number without zeros at its end, as long as the exponent stays below a bound. -/
def trimmed (bound : Int) : Nat → Scaled → Scaled
  | 0, x => x
  | fuel + 1, x =>
      if x.exponent < bound && x.coefficient % 10 = 0 then
        trimmed bound fuel ⟨x.negative, x.coefficient / 10, x.exponent + 1⟩
      else x

/-- The quotient by a number that is not zero. -/
def div (x y : Scaled) : Scaled :=
  let negative := x.negative != y.negative
  let ideal := x.exponent - y.exponent
  if x.coefficient = 0 then ⟨negative, 0, ideal⟩
  else
    let shift : Int := (y.size : Int) - x.size + digitLimit + 1
    let num := x.coefficient * pow10 shift.toNat
    let den := y.coefficient * pow10 (-shift).toNat
    let c := num / den
    if num % den = 0 then rounded (trimmed ideal (2 * digitLimit) ⟨negative, c, ideal - shift⟩)
    else rounded ⟨negative, if c % 5 = 0 then c + 1 else c, ideal - shift⟩

end Scaled

end FragmentWeaver.Number
