import FragmentWeaver.Proofs.Checking
import FragmentWeaver.Proofs.Reading
import FragmentWeaver.Script.Eval

/-!
# Calling a handle

A unit is a class with a method that is its entry point, and a handle of it is an object of the class.
Calling the handle carries out the body of the method in the module of the unit: its names are those of
the call, then those that the module keeps.
-/

namespace FragmentWeaver

open Script (Expr Flow Frame Importer Mode Stmt boundByAll call eval exec fixedName inOrder privateName)

namespace Script

section GiveBack

variable {importer : Importer} {depth : Nat} {f f' : Frame} {t u : Loom}

end GiveBack

namespace Frame

variable {f : Frame} {n : String} {v : Value} {t : Loom}

end Frame

end Script

/-- The definition of the entry point of a unit. -/
def entryStmt (resultType : Expr) (body : List Stmt) : Stmt :=
  .define "__call__" [("self", none)] [("return", resultType)] body []

section Entry

variable (importer : Importer) {unit : UnitId} {m : ModuleId} {mode : Mode}

variable {t : Loom} {h : Address} {c : ClassId} {fn : Function}

end Entry

end FragmentWeaver
