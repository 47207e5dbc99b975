/-!
# Binary floating point numbers

Numbers `± mantissa · 2 ^ exponent` with a bounded mantissa and exponent, two infinities and an
undefined number. All arithmetic is exact arithmetic on ratios of natural numbers followed by one
rounding to the nearest number of the format, a tie going to the even mantissa.
-/

namespace FragmentWeaver.Number

/-- A power of two. -/
def pow2 (n : Nat) : Nat := Nat.pow 2 n

/-- A power of ten. -/
def pow10 (n : Nat) : Nat := Nat.pow 10 n

/-- The bounds of a binary format: digits of the mantissa, least and greatest exponent. -/
structure Format where
  digits : Nat
  least : Int
  greatest : Int

/-- The format of 64 bits. -/
def Format.wide : Format := ⟨53, -1074, 971⟩

/-- The format of 32 bits. -/
def Format.narrow : Format := ⟨24, -149, 104⟩

/-- A floating point number. In a number made by rounding the mantissa is below `2 ^ digits`, and it
    is at least half of that unless the exponent is the least one. -/
inductive Binary where
  | finite (negative : Bool) (mantissa : Nat) (exponent : Int)
  | infinite (negative : Bool)
  | undefined
  deriving DecidableEq, Repr, Inhabited

namespace Binary

/-- The zero of a sign. -/
def zeroOf (negative : Bool) : Binary := .finite negative 0 Format.wide.least

/-- The quotient of two natural numbers, rounded to the nearest one, a tie going to the even one. -/
def nearest (num den : Nat) : Nat :=
  let q := num / den
  let r := 2 * (num % den)
  if r < den then q else if den < r then q + 1 else q + q % 2

/-- `num / den / 2 ^ exponent`, rounded. -/
def scaled (num den : Nat) (exponent : Int) : Nat :=
  if 0 ≤ exponent then nearest num (den * pow2 exponent.toNat)
  else nearest (num * pow2 (-exponent).toNat) den

/-- The greatest `k` with `2 ^ k ≤ num / den`. -/
def magnitude (num den : Nat) : Int :=
  let guess : Int := (Nat.log2 num : Int) - (Nat.log2 den : Int)
  let fits :=
    if 0 ≤ guess then den * pow2 guess.toNat ≤ num else den ≤ num * pow2 (-guess).toNat
  if fits then guess else guess - 1

/-- The number of a format nearest to `± num / den`. -/
def ofRatio (f : Format) (negative : Bool) (num den : Nat) : Binary :=
  if num = 0 then .finite negative 0 f.least
  else
    let exponent := max f.least (magnitude num den - (f.digits : Int) + 1)
    let mantissa := scaled num den exponent
    let (mantissa, exponent) :=
      if mantissa = pow2 f.digits then (pow2 (f.digits - 1), exponent + 1) else (mantissa, exponent)
    if f.greatest < exponent then .infinite negative else .finite negative mantissa exponent

/-- The 64 bit number nearest to a signed ratio. -/
def ofSigned (num : Int) (den : Nat) : Binary :=
  ofRatio .wide (num < 0) num.natAbs den

/-- The 64 bit number nearest to a whole number, if it is not too large. -/
def ofInt? (i : Int) : Option Binary :=
  match ofSigned i 1 with
  | .finite n m e => some (.finite n m e)
  | _ => none

/-- Numerator and denominator of `mantissa · 2 ^ exponent`. -/
def ratio (mantissa : Nat) (exponent : Int) : Nat × Nat :=
  if 0 ≤ exponent then (mantissa * pow2 exponent.toNat, 1) else (mantissa, pow2 (-exponent).toNat)

/-- The same value in the narrow format, as a 64 bit number. -/
def narrowed : Binary → Binary
  | .finite n m e =>
      let (num, den) := ratio m e
      match ofRatio .narrow n num den with
      | .finite n m e =>
          let (num, den) := ratio m e
          ofRatio .wide n num den
      | other => other
  | other => other

/-- The sign bit. -/
def isNegative : Binary → Bool
  | .finite n _ _ => n
  | .infinite n => n
  | .undefined => false

/-- Is the number a zero? -/
def isZero : Binary → Bool
  | .finite _ 0 _ => true
  | _ => false

/-- The number with the other sign. -/
def neg : Binary → Binary
  | .finite n m e => .finite (!n) m e
  | .infinite n => .infinite (!n)
  | .undefined => .undefined

/-- The sum, rounded once. -/
def add : Binary → Binary → Binary
  | .undefined, _ | _, .undefined => .undefined
  | .infinite a, .infinite b => if a = b then .infinite a else .undefined
  | .infinite a, _ => .infinite a
  | _, .infinite b => .infinite b
  | .finite n m e, .finite n' m' e' =>
      let low := min e e'
      let value (n : Bool) (m : Nat) (e : Int) : Int :=
        (if n then -1 else 1) * ((m * pow2 (e - low).toNat : Nat) : Int)
      let sum := value n m e + value n' m' e'
      if sum = 0 then zeroOf (n && n')
      else
        let (num, den) := ratio sum.natAbs low
        ofRatio .wide (sum < 0) num den

/-- The difference, rounded once. -/
def sub (x y : Binary) : Binary := add x (neg y)

/-- The product, rounded once. -/
def mul : Binary → Binary → Binary
  | .undefined, _ | _, .undefined => .undefined
  | .infinite a, y => if y.isZero then .undefined else .infinite (a != y.isNegative)
  | x, .infinite b => if x.isZero then .undefined else .infinite (x.isNegative != b)
  | .finite n m e, .finite n' m' e' =>
      let (num, den) := ratio (m * m') (e + e')
      ofRatio .wide (n != n') num den

/-- The quotient, rounded once; nothing when the divisor is a zero. -/
def div? (x y : Binary) : Option Binary :=
  if y.isZero then none
  else
    match x, y with
    | .undefined, _ | _, .undefined => some .undefined
    | .infinite _, .infinite _ => some .undefined
    | .infinite a, y => some (.infinite (a != y.isNegative))
    | .finite n _ _, .infinite b => some (zeroOf (n != b))
    | .finite n m e, .finite n' m' e' =>
        let (num, den) := ratio m e
        let (num', den') := ratio m' e'
        some (ofRatio .wide (n != n') (num * den') (den * num'))

/-- The whole number a float stands for, if it is one. -/
def toInt? : Binary → Option Int
  | .finite n m e =>
      let (num, den) := ratio m e
      if num % den = 0 then some ((if n then -1 else 1) * ((num / den : Nat) : Int)) else none
  | _ => none

end Binary

end FragmentWeaver.Number
