import FragmentWeaver.Number.Scaled

/-!
# Decimals with infinities

A decimal is finite, an infinity, or undefined. An undefined one carries a sign and a payload, which
the results it takes part in keep; one that signals may not be computed with at all. Arithmetic
stops at what has no value: opposite infinities are not added, and nothing is divided by zero.
-/

namespace FragmentWeaver.Number

/-- A decimal. -/
inductive Extended where
  | finite (x : Scaled)
  | infinite (negative : Bool)
  | undefined (negative signals : Bool) (payload : Nat)
  deriving DecidableEq, Repr

/-- Why an operation on decimals has no result. -/
inductive Trap where
  /-- The operation has no value. -/
  | invalid
  /-- Zero is divided by zero. -/
  | divisionUndefined
  /-- A number is divided by zero. -/
  | divisionByZero
  /-- The result is too large. -/
  | overflow
  /-- A text is no decimal. -/
  | malformed
  deriving DecidableEq, Repr

namespace Extended

/-- A whole number. -/
def ofInt (i : Int) : Extended := .finite (.ofInt i)

/-- Does the decimal signal that it may not be computed with? -/
def signals : Extended → Bool
  | .undefined _ signals _ => signals
  | _ => false

/-- A finite result: a zero is moved into the range of places, anything else may be too large. -/
def result (x : Scaled) : Except Trap Extended :=
  if x.coefficient = 0 then
    .ok (.finite ⟨x.negative, 0, max Scaled.bottomPlace (min x.exponent Scaled.topPlace)⟩)
  else if Scaled.topPlace < x.exponent + x.size - 1 then .error .overflow
  else .ok (.finite x)

/-- The result that an undefined operand brings about, if there is one: the first one is handed on,
    with the last digits of its payload. -/
def handedOn? (xs : List Extended) : Option (Except Trap Extended) :=
  if xs.any signals then some (.error .invalid)
  else xs.findSome? fun
    | .undefined negative _ payload =>
        some (.ok (.undefined negative false (payload % pow10 Scaled.digitLimit)))
    | _ => none

/-- The decimal with the other sign, before it is rounded. -/
def flipped : Extended → Extended
  | .finite x => .finite ⟨!x.negative, x.coefficient, x.exponent⟩
  | .infinite negative => .infinite (!negative)
  | x => x

/-- The sum of two decimals, neither of them undefined. -/
def addDefined : Extended → Extended → Except Trap Extended
  | .finite x, .finite y => result (x.add y)
  | .infinite a, .infinite b => if a = b then .ok (.infinite a) else .error .invalid
  | .infinite a, _ => .ok (.infinite a)
  | _, y => .ok y

/-- The sum. -/
def add (x y : Extended) : Except Trap Extended :=
  (handedOn? [x, y]).getD (addDefined x y)

/-- The difference. -/
def sub (x y : Extended) : Except Trap Extended :=
  (handedOn? [x, y]).getD (addDefined x y.flipped)

/-- The product. -/
def mul (x y : Extended) : Except Trap Extended :=
  (handedOn? [x, y]).getD
    (match x, y with
    | .finite x, .finite y => result (x.mul y)
    | .infinite a, .infinite b => .ok (.infinite (a != b))
    | .infinite a, .finite x | .finite x, .infinite a =>
        if x.coefficient = 0 then .error .invalid else .ok (.infinite (a != x.negative))
    | _, _ => .error .invalid)

/-- The quotient. -/
def div (x y : Extended) : Except Trap Extended :=
  (handedOn? [x, y]).getD
    (match x, y with
    | .finite x, .finite y =>
        if y.coefficient ≠ 0 then result (x.div y)
        else .error (if x.coefficient = 0 then .divisionUndefined else .divisionByZero)
    | .infinite a, .finite y => .ok (.infinite (a != y.negative))
    | .finite x, .infinite b => .ok (.finite ⟨x.negative != b, 0, Scaled.bottomPlace⟩)
    | _, _ => .error .invalid)

/-- The decimal with the other sign, as a result. -/
def neg (x : Extended) : Except Trap Extended :=
  (handedOn? [x]).getD
    (match x with
    | .finite x => result x.neg
    | x => .ok x.flipped)

/-- The decimal as a result. -/
def pos (x : Extended) : Except Trap Extended :=
  (handedOn? [x]).getD
    (match x with
    | .finite x => result x.pos
    | x => .ok x)

/-- The text of a finite decimal: with a point as long as that takes at most six zeros behind it,
    else with one digit before the point and an exponent. -/
def finiteText (x : Scaled) : String :=
  let digits := digitsOf x.coefficient
  let left : Int := x.exponent + digits.length
  let body :=
    if x.exponent ≤ 0 && -6 < left then
      if x.exponent = 0 then digits
      else if left ≤ 0 then '0' :: '.' :: List.replicate (-left).toNat '0' ++ digits
      else digits.take left.toNat ++ '.' :: digits.drop left.toNat
    else
      let head := match digits with
        | c :: d :: rest => c :: '.' :: d :: rest
        | short => short
      let power := left - 1
      head ++ 'E' :: (if power < 0 then '-' else '+') :: digitsOf power.natAbs
  (if x.negative then "-" else "") ++ String.ofList body

/-- The text of a decimal. -/
def text : Extended → String
  | .finite x => finiteText x
  | .infinite negative => if negative then "-Infinity" else "Infinity"
  | .undefined negative signals payload =>
      (if negative then "-" else "") ++ (if signals then "sNaN" else "NaN") ++
        (if payload = 0 then "" else String.ofList (digitsOf payload))

/-- The exponents up to which the ratio of a decimal is written out. -/
def nearLimit : Nat := 65536

/-- The ratio that a finite decimal is, unless its exponent is far from zero. -/
def ratio? : Extended → Option Rat
  | .finite x =>
      if x.coefficient = 0 then some 0
      else if nearLimit < x.exponent.natAbs then none
      else
        let size : Rat :=
          if 0 ≤ x.exponent then (x.coefficient * pow10 x.exponent.toNat : Nat)
          else mkRat x.coefficient (pow10 (-x.exponent).toNat)
        some (if x.negative then -size else size)
  | _ => none

/-- The decimal without zeros at its end. -/
def trimmed : Extended → Extended
  | .finite x => .finite (x.trimmed (x.exponent + x.size) x.size)
  | x => x

end Extended

/-- The class of the fault that a trap is. -/
def Trap.kind : Trap → String
  | .invalid | .divisionUndefined | .malformed => "decimal.InvalidOperation"
  | .divisionByZero => "decimal.DivisionByZero"
  | .overflow => "decimal.Overflow"

/-- The wording of a trap: the list of the signals that are raised. -/
def Trap.message (t : Trap) : String :=
  let signal := match t with
    | .invalid => "InvalidOperation"
    | .divisionUndefined => "DivisionUndefined"
    | .divisionByZero => "DivisionByZero"
    | .overflow => "Overflow"
    | .malformed => "ConversionSyntax"
  "[<class 'decimal." ++ signal ++ "'>]"

end FragmentWeaver.Number
