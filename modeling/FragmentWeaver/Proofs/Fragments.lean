import FragmentWeaver.Proofs.Calls
import FragmentWeaver.Proofs.HandOff

/-!
# What a fragment reads

The fields of a unit are names of its module, and the fragment is the body of a method of a class in
that module. It reads a binding by its name, unless the call has the name for itself, the language has
fixed it, or the name belongs to the class, and as long as no later binding is kept under it.
-/

namespace FragmentWeaver

open Script (Expr Flow Frame Importer Mode Place Stmt assign call eval exec fixedName privateName)
open Source (BindingRecord)

namespace Source

/-- What a name means in a fragment. -/
inductive Meaning where
  /-- A name that cannot be bound. -/
  | fixed
  /-- The object whose method the fragment is. -/
  | receiver
  /-- The class that the fragment stands in. -/
  | owner
  | field (r : BindingRecord)
  /-- A name that no binding is kept under. -/
  | outside (key : String)
  deriving DecidableEq

/-- The value of a name, by what it means. -/
def Meaning.value? (checks : Bool) (x : Value) (c : ClassId) (values : BindingRecord → Value) :
    Meaning → Option Value
  | .fixed => some (.truth checks)
  | .receiver => some x
  | .owner => some (.cls c)
  | .field r => some (values r)
  | .outside _ => none

end Source

namespace Script

section Fields

variable {importer : Importer} {depth : Nat} {f : Frame} {declared : BindingRecord → Expr} {s : Loom}
  (hplace : f.place = .module) (hsecret : f.secret = none) (hpostponed : f.mode.postponed = true)

include hplace hsecret hpostponed

end Fields

end Script

/-- The fragment that gives back the value of a name. -/
def fragment (n : String) : List Stmt := [.give (some (.name n))]

section Reading

variable {unit : UnitId} {m : ModuleId} {mode : Mode} {c : ClassId} {t : Loom}

end Reading

section Fragment

variable {importer : Importer} {depth : Nat} {f : Frame} {declared : BindingRecord → Expr}
  {s u : Loom} {unit : UnitId} {cls : BindingRecord → ClassId} {I : World → Prop}
  {rs : List BindingRecord} {values : BindingRecord → Value}

end Fragment

section Receiver

end Receiver

end FragmentWeaver
