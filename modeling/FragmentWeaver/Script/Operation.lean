import FragmentWeaver.Script.Collection
import FragmentWeaver.Script.ExactArithmetic
import FragmentWeaver.Script.Sequence

/-!
# Operators

An operator is tried on numbers and exact values first, then on sets, dictionaries and tallies, then
on sequences. What none of them takes is refused with the classes of both sides.
-/

namespace FragmentWeaver.Script

/-- The outcome of an operator on numbers and exact values. -/
def numberOutcome? (w : World) (op : Operator) (x y : Value) : Option (Except Fault Outcome) := do
  outcome? op (← Operand.ofValue? w x) (← Operand.ofValue? w y)

/-- The union of two truth values or of two members of an enumeration. -/
def unionOutcome? (w : World) (op : Operator) (x y : Value) : Option Value :=
  match op, w.flagUnion? x y, w.opened x, w.opened y with
  | .union, some v, _, _ => some v
  | .union, none, .truth a, .truth b => some (.truth (a || b))
  | _, _, _, _ => none

/-- The value of an operator on values that are no sequences, if it is for the two sides. -/
def outcomeOf? (w : World) (op : Operator) (x y : Value) :
    Option (Except Fault (Value × World)) :=
  match unionOutcome? w op x y, numberOutcome? w op x y with
  | some v, _ => some (.ok (v, w))
  | none, some r => some (r.map (Outcome.value w))
  | none, none => collectionOutcome? w op x y

/-- The value of an operator. -/
def operate (w : World) (op : Operator) (x y : Value) : Except Fault (Value × World) :=
  match outcomeOf? w op x y, sequenceOutcome? w op x y with
  | some r, _ => r
  | none, some r => r.mapError .script
  | none, none => .error (.script (.operands op.sign (w.shownClass x) (w.shownClass y)))

/-- A value with a sign before it. A plus leaves a number as the object that it is. -/
def signed (w : World) (minus : Bool) (v : Value) : Except Fault (Value × World) :=
  match Numeral.ofValue? (w.opened v), (w.exactOf? v).bind (signedExact? minus),
      signedTally? w minus v with
  | some n, _, _ =>
      let n := n.signed minus
      if !minus && w.typeOf v = w.typeOf n.value then .ok (v, w) else .ok (n.value, w)
  | none, some r, _ => r.map (Outcome.value w)
  | none, none, some r => .ok r
  | none, none, none =>
      .error (.script (.operand (if minus then "-" else "+") (w.shownClass v)))

end FragmentWeaver.Script
