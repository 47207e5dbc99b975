import FragmentWeaver.Script.Arithmetic
import FragmentWeaver.Value.Clock

/-!
# Arithmetic on exact values

Ratios meet whole numbers exactly and floats as floats. Decimals meet whole numbers and each other.
Spans of time are added, scaled and divided; days and moments move by spans and differ by them. A
path is joined to a path or a text by the stroke.
-/

namespace FragmentWeaver.Script

open Number (Binary Extended)

/-- One side of an operator. -/
inductive Operand where
  | number (n : Numeral)
  | exact (e : Exact) (cls : ClassId)
  | text (s : String)

/-- The side that a value stands for. -/
def Operand.ofValue? (w : World) (v : Value) : Option Operand :=
  match Numeral.ofValue? (w.opened v), w.exactOf? v, w.opened v with
  | some n, _, _ => some (.number n)
  | none, some e, _ => some (.exact e (w.typeOf v))
  | none, none, .text s => some (.text s)
  | none, none, _ => none

/-- What an operator makes: a number, or an exact value of a class. -/
inductive Outcome where
  | number (n : Numeral)
  | exact (e : Exact) (cls : ClassId)

/-- An outcome as a value. -/
def Outcome.value (w : World) : Outcome → Value × World
  | .number n => (n.value, w)
  | .exact e c => w.allocate (.exact e) c

/-- The outcome of two ratios; nothing for an operator that is not for them. -/
def combineRatios (op : Operator) (p q : Rat) : Option (Except Fault Outcome) :=
  let ratio (r : Rat) : Option (Except Fault Outcome) :=
    some (.ok (.exact (.ratio r) (.standard "fractions.Fraction")))
  match op with
  | .add => ratio (p + q)
  | .sub => ratio (p - q)
  | .mul => ratio (p * q)
  | .div =>
      if q = 0 then
        some (.error (.refused ⟨"ZeroDivisionError",
          "Fraction(" ++ Number.wholeText p.num.sign ++ ", 0)"⟩))
      else ratio (p / q)
  | .union => none

/-- A ratio as a float. -/
def floatOfRatio (q : Rat) : Except Fault Numeral :=
  match World.floatOfRatio? q with
  | some x => .ok (.float x)
  | none => .error (.script .quotientTooLarge)

/-- The outcome of two numbers of the usual kinds. -/
def combineNumbers (op : Operator) (a b : Numeral) : Option (Except Fault Outcome) :=
  match matched a b with
  | .error f => some (.error (.script f))
  | .ok m => (combine op m).map fun r => (r.map .number).mapError .script

/-- A decimal as an outcome. -/
def decimalOutcome : Except Number.Trap Extended → Except Fault Outcome
  | .ok x => .ok (.exact (.decimal x) (.standard "decimal.Decimal"))
  | .error t => .error (.refused (.ofTrap t))

/-- The outcome of two decimals. -/
def combineDecimals (op : Operator) (x y : Extended) : Option (Except Fault Outcome) :=
  match op with
  | .add => some (decimalOutcome (x.add y))
  | .sub => some (decimalOutcome (x.sub y))
  | .mul => some (decimalOutcome (x.mul y))
  | .div => some (decimalOutcome (x.div y))
  | .union => none

/-- A span as an outcome. -/
def spanOutcome (micros : Int) : Except Fault Outcome :=
  ((World.spanOf micros).map fun m => .exact (.span m) (.standard "datetime.timedelta")).mapError
    .refused

/-- The ratio that a float is. -/
def ratioOfFloat : Binary → Except Fault Rat
  | .finite n m e =>
      let (num, den) := Binary.ratio m e
      .ok (mkRat (if n then -(num : Int) else num) den)
  | .infinite _ => .error (.refused (.overflow "cannot convert Infinity to integer ratio"))
  | .undefined => .error (.refused (.value "cannot convert NaN to integer ratio"))

/-- A span scaled by a number, or divided by it. -/
def scaleSpan (op : Operator) (micros : Int) (n : Numeral) : Option (Except Fault Outcome) :=
  let ratio : Option (Except Fault Rat) := match n with
    | .whole i => some (.ok i)
    | .float x => some (ratioOfFloat x)
    | .complex _ _ => none
  match op, ratio with
  | .mul, some q => some (do spanOutcome (World.roundedHalf (micros * (← q))))
  | .div, some q => some do
      let q ← q
      if q = 0 then
        throw (.refused ⟨"ZeroDivisionError", "integer division or modulo by zero"⟩)
      spanOutcome (World.roundedHalf (micros / q))
  | _, _ => none

/-- The outcome of two spans. -/
def combineSpans (op : Operator) (a b : Int) : Option (Except Fault Outcome) :=
  match op with
  | .add => some (spanOutcome (a + b))
  | .sub => some (spanOutcome (a - b))
  | .div => some (((wholeQuotient a b).map .number).mapError .script)
  | .mul | .union => none

/-- A day that is reached by counting days. -/
def dayOutcome (cls : ClassId) (day : Int) : Except Fault Outcome :=
  if 1 ≤ day && day ≤ Calendar.lastDay then .ok (.exact (.date day.toNat) cls)
  else .error (.refused (.overflow "date value out of range"))

/-- A moment that is reached by counting millionths of a second. -/
def momentOutcome (cls : ClassId) (micros : Int) : Except Fault Outcome :=
  if Calendar.day ≤ micros && micros < (Calendar.lastDay + 1) * Calendar.day then
    .ok (.exact (.moment micros.toNat) cls)
  else .error (.refused (.overflow "date value out of range"))

/-- The outcome of two exact values. -/
def combineExact (op : Operator) (x : Exact) (c : ClassId) (y : Exact) (d : ClassId) :
    Option (Except Fault Outcome) :=
  match op, x, y with
  | op, .ratio p, .ratio q => combineRatios op p q
  | op, .decimal x, .decimal y => combineDecimals op x y
  | op, .span a, .span b => combineSpans op a b
  | .add, .date day, .span m => some (dayOutcome c (day + m / Calendar.day))
  | .add, .span m, .date day => some (dayOutcome d (day + m / Calendar.day))
  | .sub, .date day, .span m => some (dayOutcome c (day - m / Calendar.day))
  | .sub, .date a, .date b => some (spanOutcome (((a : Int) - b) * Calendar.day))
  | .add, .moment a, .span m => some (momentOutcome c (a + m))
  | .add, .span m, .moment a => some (momentOutcome d (a + m))
  | .sub, .moment a, .span m => some (momentOutcome c (a - m))
  | .sub, .moment a, .moment b => some (spanOutcome ((a : Int) - b))
  | .div, .path p, .path q => some (.ok (.exact (.path (p.append q)) c))
  | _, _, _ => none

/-- The outcome of a number and an exact value, in this order. -/
def combineNumberFirst (op : Operator) (n : Numeral) (e : Exact) : Option (Except Fault Outcome) :=
  match n, e, op with
  | .whole i, .ratio q, op => combineRatios op i q
  | n, .ratio q, op =>
      match floatOfRatio q with
      | .ok y => combineNumbers op n y
      | .error f => some (.error f)
  | .whole i, .decimal x, op => combineDecimals op (.ofInt i) x
  | n, .span a, .mul => scaleSpan .mul a n
  | _, _, _ => none

/-- The outcome of an exact value and a number, in this order. -/
def combineNumberLast (op : Operator) (e : Exact) (n : Numeral) : Option (Except Fault Outcome) :=
  match e, n with
  | .ratio q, .whole i => combineRatios op q i
  | .ratio q, n =>
      match floatOfRatio q with
      | .ok x => combineNumbers op x n
      | .error f => some (.error f)
  | .decimal x, .whole i => combineDecimals op x (.ofInt i)
  | .span a, n => scaleSpan op a n
  | _, _ => none

/-- The outcome of an operator, if one of its sides is a number or an exact value and the other one
    fits it. -/
def outcome? (op : Operator) : Operand → Operand → Option (Except Fault Outcome)
  | .number a, .number b => combineNumbers op a b
  | .exact x c, .exact y d => combineExact op x c y d
  | .number n, .exact e _ => combineNumberFirst op n e
  | .exact e _, .number n => combineNumberLast op e n
  | .exact (.path p) c, .text s =>
      if op = .div then some (.ok (.exact (.path (p.append (.parse s))) c)) else none
  | .text s, .exact (.path p) c =>
      if op = .div then some (.ok (.exact (.path ((Files.Path.parse s).append p)) c)) else none
  | _, _ => none

/-- An exact value with a sign before it. -/
def signedExact? (minus : Bool) : Exact → Option (Except Fault Outcome)
  | .ratio q =>
      some (.ok (.exact (.ratio (if minus then -q else q)) (.standard "fractions.Fraction")))
  | .decimal x => some (decimalOutcome (if minus then x.neg else x.pos))
  | .span a => some (spanOutcome (if minus then -a else a))
  | _ => none

end FragmentWeaver.Script
