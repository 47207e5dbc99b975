import FragmentWeaver.Fault

/-!
# Arithmetic of the fragment language

The operators on whole numbers, floats and complex numbers. Whole numbers are unbounded; a whole
number and a float meet as floats, a float and a complex number as complex numbers; the quotient of
two whole numbers is a float, rounded once.
-/

namespace FragmentWeaver.Script

open Number (Binary)

/-- A number, by the widest of the kinds that it can be without loss. -/
inductive Numeral where
  | whole (i : Int)
  | float (x : Binary)
  | complex (re im : Binary)
  deriving DecidableEq, Repr

/-- The number that a value stands for. -/
def Numeral.ofValue? : Value → Option Numeral
  | .truth b => some (.whole (if b then 1 else 0))
  | .whole i => some (.whole i)
  | .float x => some (.float x)
  | .complex re im => some (.complex re im)
  | _ => none

/-- A number as a value. -/
def Numeral.value : Numeral → Value
  | .whole i => .whole i
  | .float x => .float x
  | .complex re im => .complex re im

/-- A whole number as a float. -/
def floatOf (i : Int) : Except ScriptFault Binary :=
  match Binary.ofInt? i with
  | some x => .ok x
  | none => .error .tooLarge

/-- The zero without a sign. -/
def zero : Binary := Binary.zeroOf false

/-- Two numbers of one kind. -/
inductive Matched where
  | wholes (a b : Int)
  | floats (x y : Binary)
  | complexes (a b c d : Binary)

/-- Bring two numbers to the wider kind of the two. -/
def matched : Numeral → Numeral → Except ScriptFault Matched
  | .whole a, .whole b => .ok (.wholes a b)
  | .whole a, .float y => do return .floats (← floatOf a) y
  | .float x, .whole b => do return .floats x (← floatOf b)
  | .float x, .float y => .ok (.floats x y)
  | .complex a b, .complex c d => .ok (.complexes a b c d)
  | .complex a b, .float y => .ok (.complexes a b y zero)
  | .complex a b, .whole i => do return .complexes a b (← floatOf i) zero
  | .float x, .complex c d => .ok (.complexes x zero c d)
  | .whole i, .complex c d => do return .complexes (← floatOf i) zero c d

/-- The magnitude of a float. -/
def magnitude (x : Binary) : Binary :=
  if x.isNegative then x.neg else x

/-- Is a float at least as large as another one? Nothing is with an undefined one. -/
def atLeast (x y : Binary) : Bool :=
  match x.sub y with
  | .undefined => x = y && x ≠ .undefined
  | .finite negative m _ => !negative || m = 0
  | .infinite negative => !negative

/-- The quotient of two complex numbers, by way of the larger part of the divisor. -/
def complexQuotient (a b c d : Binary) : Option (Binary × Binary) :=
  if c.isZero && d.isZero then none
  else if atLeast (magnitude c) (magnitude d) then do
    let ratio ← d.div? c
    let den := c.add (d.mul ratio)
    return (← (a.add (b.mul ratio)).div? den, ← (b.sub (a.mul ratio)).div? den)
  else if atLeast (magnitude d) (magnitude c) then do
    let ratio ← c.div? d
    let den := (c.mul ratio).add d
    return (← ((a.mul ratio).add b).div? den, ← ((b.mul ratio).sub a).div? den)
  else some (.undefined, .undefined)

/-- The quotient of two whole numbers. A zero is negative below a negative number. -/
def wholeQuotient (a b : Int) : Except ScriptFault Numeral :=
  if b = 0 then .error (.divisionByZero "division")
  else
    match Binary.ofRatio .wide (decide (a < 0) != decide (b < 0)) a.natAbs b.natAbs with
    | .infinite _ => .error .quotientTooLarge
    | x => .ok (.float x)

/-- Whole numbers joined bit by bit; a negative one has bits without end. -/
def wholeUnion (a b : Int) : Int :=
  let flipped (i : Int) : Nat := (-i - 1).toNat
  let without (m n : Nat) : Nat := m ^^^ (m &&& n)
  match decide (a < 0), decide (b < 0) with
  | false, false => (a.toNat ||| b.toNat : Nat)
  | true, true => -((flipped a &&& flipped b : Nat) : Int) - 1
  | true, false => -((without (flipped a) b.toNat : Nat) : Int) - 1
  | false, true => -((without (flipped b) a.toNat : Nat) : Int) - 1

/-- Combine two numbers of one kind; nothing for an operator that is not for such numbers. -/
def combine (op : Operator) : Matched → Option (Except ScriptFault Numeral)
  | .wholes a b =>
      match op with
      | .add => some (.ok (.whole (a + b)))
      | .sub => some (.ok (.whole (a - b)))
      | .mul => some (.ok (.whole (a * b)))
      | .div => some (wholeQuotient a b)
      | .union => some (.ok (.whole (wholeUnion a b)))
  | .floats x y =>
      match op with
      | .add => some (.ok (.float (x.add y)))
      | .sub => some (.ok (.float (x.sub y)))
      | .mul => some (.ok (.float (x.mul y)))
      | .div =>
          some (match x.div? y with
            | some q => .ok (.float q)
            | none => .error (.divisionByZero "float division"))
      | .union => none
  | .complexes a b c d =>
      match op with
      | .add => some (.ok (.complex (a.add c) (b.add d)))
      | .sub => some (.ok (.complex (a.sub c) (b.sub d)))
      | .mul =>
          some (.ok (.complex ((a.mul c).sub (b.mul d)) ((a.mul d).add (b.mul c))))
      | .div =>
          some (match complexQuotient a b c d with
            | some (re, im) => .ok (.complex re im)
            | none => .error (.divisionByZero "complex division"))
      | .union => none

/-- A number with a sign before it. -/
def Numeral.signed (minus : Bool) : Numeral → Numeral
  | .whole i => .whole (if minus then -i else i)
  | .float x => .float (if minus then x.neg else x)
  | .complex re im => if minus then .complex re.neg im.neg else .complex re im

end FragmentWeaver.Script
