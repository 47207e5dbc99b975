import FragmentWeaver.Proofs.Field
import FragmentWeaver.Proofs.Reading
import FragmentWeaver.Proofs.Staged
import FragmentWeaver.Loading.Import
import FragmentWeaver.Script.Eval
import Mathlib.Data.List.Nodup

/-!
# Handing bindings over

The source of a unit and the store meet only in texts: what is staged under the name of a unit and
the name of a binding is taken by an expression that has the two names written in it. The fields of a
unit take its bindings one after the other, each of them once, and nothing else.
-/

namespace FragmentWeaver

open Script (Importer Frame Flow Expr Literal Stmt eval call assign exec)
open Source (BindingRecord)

namespace Script

variable {importer : Importer} {depth : Nat} {f : Frame}

end Script

section Fields

variable {importer : Importer} {depth : Nat} {f : Frame} {declared : BindingRecord → Expr}
  {s t : Loom} {unit : UnitId} {cls : BindingRecord → ClassId} {I : World → Prop}

end Fields

namespace Source

variable {w : World} {unit : UnitId}

end Source

section Handed

end Handed

end FragmentWeaver
