import FragmentWeaver.Unit.Id

/-!
# Handing out unit numbers

An allocator remembers the last number it handed out. Every request takes the next one, so no number
is handed out twice.
-/

namespace FragmentWeaver

/-- The last number that was handed out. -/
structure Allocator where
  last : Int := 0
  deriving DecidableEq, Repr

namespace Allocator

/-- Hand out the next number. -/
def next (a : Allocator) : Int × Allocator :=
  (a.last + 1, ⟨a.last + 1⟩)

/-- Hand out the unit of the next number. -/
def allocate (a : Allocator) : UnitId × Allocator :=
  let (n, a) := a.next
  (.numbered n, a)

theorem next_last (a : Allocator) : a.next.2.last = a.last + 1 := rfl

end Allocator

end FragmentWeaver
