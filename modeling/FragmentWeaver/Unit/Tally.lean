import FragmentWeaver.Script.Operation
import FragmentWeaver.Unit.Allocator
import FragmentWeaver.Unit.Display

/-!
# Counting from any value

An allocator counts in whole numbers. A tally counts from a value of any kind to which one can be
added, and refuses to go on from all others. From a whole number it counts as an allocator does.
-/

namespace FragmentWeaver

/-- Why one cannot be added in place to a value that is no number. -/
def World.stuckAt (w : World) (v : Value) : Fault :=
  match Script.Sequence.ofValue? w v with
  | some (.list _) | some (.deque _ _) => .refused (.type "'int' object is not iterable")
  | some (.array _ _) => .refused (.type "can only extend array with array (not \"int\")")
  | some s =>
      match s.append w (.whole 1) with
      | .error f => .script f
      | .ok _ => .script (.operands "+=" (w.shownClass v) "int")
  | none =>
      if w.isBelow (w.typeOf v) "collections.Counter" then .script (.objectAttribute "int" "items")
      else .script (.operands "+=" (w.shownClass v) "int")

/-- The last value that was handed out. -/
structure Tally where
  last : Value
  deriving DecidableEq

namespace Tally

/-- The value after a value. -/
def after (w : World) (v : Value) : Except Fault (Value × World) :=
  match Script.numberOutcome? w .add v (.whole 1) with
  | some r => r.map (Script.Outcome.value w)
  | none => .error (w.stuckAt v)

/-- Hand out the next value. -/
def next (t : Tally) (w : World) : Except Fault ((Value × Tally) × World) := do
  let (v, w) ← after w t.last
  return ((v, ⟨v⟩), w)

/-- Hand out the unit of the next value. -/
def allocate (t : Tally) (w : World) : Except Fault ((UnitId × Tally) × World) := do
  let ((v, t), w) ← t.next w
  return ((← w.numberedUnit v, t), w)

/-- From a whole number a tally counts as an allocator does. -/
theorem next_whole (w : World) (a : Allocator) :
    next ⟨.whole a.last⟩ w = .ok ((.whole a.next.1, ⟨.whole a.next.2.last⟩), w) := rfl

end Tally

end FragmentWeaver
