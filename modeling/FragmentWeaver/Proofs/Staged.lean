import FragmentWeaver.Binding.Call
import FragmentWeaver.Source.Unit
import Mathlib.Data.List.Induction

/-!
# Bindings on their way

Between the moment in which the source of a unit is made and the one in which its last field is read,
the store holds what it held before and, behind that, the bindings that have not been taken yet.
Making the source leads to such a store, and taking the first of the bindings leads from one to the
next.
-/

namespace FragmentWeaver

namespace World

variable {w : World}

theorem key_text (s : String) : w.key (.text s) = .ok [.text s] := by
  unfold key keyWithin
  rfl

theorem unitName_text (s : String) : w.unitName (.text s) = .ok s := by
  unfold unitName shown shownWithin
  rfl

end World

namespace Source

/-- Bindings as they are staged, in order. -/
def staged (rs : List BindingRecord) : Partition :=
  rs.map fun r => ([.text r.name], ⟨.text r.name, r.value⟩)

end Source

namespace Store

open Source (BindingRecord staged)

section

variable {s : Store} {unit : String} (hfresh : Assoc.find? s.units unit = none)

include hfresh

end

end Store

namespace Source

end Source

end FragmentWeaver
