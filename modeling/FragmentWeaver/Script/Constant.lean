import FragmentWeaver.Act
import FragmentWeaver.Value.Instance

/-!
# Constants of the standard modules

A constant that can be changed, such as a list, is an object of its own. It is made when it is first
read, and is kept by its module from then on.
-/

namespace FragmentWeaver.Script

/-- A class that an expression names: a built-in one, or one in a module. A class whose name cannot be
    written is given as the type of that name. -/
def namedClass? : Expr → Option String
  | .name n => some n
  | .attribute e n => (namedClass? e).map fun space => space ++ "." ++ n
  | .call (.name "type") [.literal (.text key)] => some key
  | _ => none

/-- A value that an expression names: a member of an enumeration, a class, or an object of which only
    the class is told, or the class and a name. -/
def namedValue? : Expr → Option Value
  | .attribute e n => do
      let space ← namedClass? e
      return (Standard.enumMember? space n).getD (.cls (.standard (space ++ "." ++ n)))
  | .call (.name "object") [.literal (.text key)] => some (Standard.objectOf key key)
  | .call f [.literal .ellipsis] => do
      let key ← namedClass? f
      return Standard.objectOf (Standard.Listing.lastCut key).2 key
  | .call (.attribute e n) [.literal (.text name)] =>
      (namedClass? (.attribute e n)).map (Standard.objectOf name)
  | e => (namedClass? e).map fun key => .cls (.standard key)

mutual

/-- The value that an expression without operations writes out. -/
def writtenValue (w : World) : Expr → Value × World
  | .list es =>
      let (xs, w) := writtenValues w es
      w.newList xs
  | .tuple es =>
      let (xs, w) := writtenValues w es
      w.newTuple xs
  | .set es =>
      let (xs, w) := writtenValues w es
      w.allocate (.items xs) (.standard "set")
  | .dict kvs =>
      let (kvs, w) := writtenEntries w kvs
      w.allocate (.entries kvs) (.standard "dict")
  | e =>
      match Standard.literal? e, namedValue? e with
      | some l, _ => (l.value, w)
      | none, some v => (v, w)
      | none, none => (.null, w)

/-- The values that some expressions write out. -/
def writtenValues (w : World) : List Expr → List Value × World
  | [] => ([], w)
  | e :: es =>
      let (x, w) := writtenValue w e
      let (xs, w) := writtenValues w es
      (x :: xs, w)

/-- The entries that some pairs of expressions write out. -/
def writtenEntries (w : World) : List (Expr × Expr) → List (Value × Value) × World
  | [] => ([], w)
  | (k, e) :: kvs =>
      let (k, w) := writtenValue w k
      let (x, w) := writtenValue w e
      let (kvs, w) := writtenEntries w kvs
      ((k, x) :: kvs, w)

end

/-- An object of a class that is told by what it is made from: a name space by its entries, a
    universally unique number and a member of an enumeration by their values. Other objects hold the
    parts that are written. -/
def madeFrom (w : World) (key : String) (e : Expr) : Value × World :=
  let cls : ClassId := .standard key
  match key, e with
  | "types.SimpleNamespace", .tuple [.dict kvs] =>
      let (kvs, w) := writtenEntries w kvs
      w.allocate (.instance (kvs.filterMap fun
        | (.text n, v) => some (n, v)
        | _ => none)) cls
  | "uuid.UUID", .tuple [.literal (.whole i)] => w.allocate (.exact (.uuid i.toNat)) cls
  | key, .tuple es =>
      let (xs, w) := writtenValues w es
      if World.exactMakers.contains key then
        match w.newInstance false cls xs with
        | .ok made => made
        | .error _ => w.allocate (.items xs) cls
      else w.allocate (.items xs) cls
  | key, e =>
      match Standard.literal? e with
      | some l => (.native (.member key l), w)
      | none => writtenValue w e

/-- The value of a constant, with its class if that is not told by how it is written. -/
def constantOf (w : World) (cls : Option String) (e : Expr) : Value × World :=
  match cls with
  | some key => madeFrom w key e
  | none => writtenValue w e

/-- Read a name of a module, if it is there. -/
def readName? (m : ModuleId) (n : String) : Act (Option Value) := do
  let r := (← Act.world).modules.getD m { name := "" }
  match r.attribute? n, r.written? n with
  | some v, _ => return v
  | none, some (cls, e) => do
      let v ← Act.withWorld fun w => constantOf w cls e
      Act.setModuleAttribute m n v
      return v
  | none, none => return none

end FragmentWeaver.Script
