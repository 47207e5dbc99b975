import FragmentWeaver.Class.PublicName

/-!
# Declared types

A descriptor says how a bound value is declared in the source of a unit and against which class it
is checked when the unit takes it. The class is the closest ancestor that a source can name.
-/

namespace FragmentWeaver

/-- How a binding is handed over: as a boxed number that is opened, as it is, or as an array. -/
inductive DescriptorKind where
  | boxed | plain | array
  deriving DecidableEq, Repr, Inhabited

/-- The word for a way of handing over. -/
def DescriptorKind.name : DescriptorKind → String
  | .boxed => "primitive"
  | .plain => "plain"
  | .array => "array"

/-- The declared type of a binding, the class it is checked against, both as written in the source,
    and the modules these names need. -/
structure Descriptor where
  typeName : String
  castName : String
  kind : DescriptorKind := .plain
  modules : List String := []
  deriving DecidableEq, Repr, Inhabited

namespace Descriptor

/-- The descriptor that fits everything. -/
def object : Descriptor := { typeName := "object", castName := "object" }

/-- The descriptor of a class with a public name. -/
def ofName (n : PublicName) : Descriptor :=
  { typeName := n.dotted
    castName := n.dotted
    modules := match n.module with
      | some m => if m = "" then [] else [m]
      | none => [] }

end Descriptor

namespace World

/-- The first of some classes that a source can name. -/
def firstNamed (w : World) (classes : List ClassId) : Option PublicName :=
  classes.findSome? w.publicName

/-- The declared type of the instances of a class. -/
def nameType (w : World) (c : ClassId) : Descriptor :=
  match w.firstNamed (w.lineage c) with
  | some n => .ofName n
  | none => .object

/-- The declared type that several classes share: the first ancestor of the first class that a
    source can name and that all the others stand below. -/
def commonType (w : World) : List ClassId → Descriptor
  | [] => .object
  | first :: others =>
      let shared := (w.lineage first).filter fun c => others.all fun o => w.isSubclass o c
      match w.firstNamed shared with
      | some n => .ofName n
      | none => .object

end World

end FragmentWeaver
