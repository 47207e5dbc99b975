import FragmentWeaver.Act
import FragmentWeaver.Script.Sequence

/-!
# Classes of arrays

A class of boxes times a whole number is the class of the arrays of so many of them. There is one such
class for every class of boxes and every length.
-/

namespace FragmentWeaver.Script

/-- The classes of the classes whose objects are boxes. -/
def boxKinds : List String := [
  "_ctypes.PyCSimpleType", "_ctypes.PyCStructType", "_ctypes.UnionType", "_ctypes.PyCArrayType",
  "_ctypes.PyCPointerType", "_ctypes.PyCFuncPtrType"]

/-- Are the objects of a class boxes? -/
def isBoxClass (w : World) (c : ClassId) : Bool :=
  boxKinds.any (w.isBelow (w.classInfo c).kind)

/-- Classes of boxes that do not say what their objects hold. -/
def openBoxes : List String := [
  "_ctypes.Structure", "_ctypes.Union", "_ctypes.Array", "_ctypes._SimpleCData", "_ctypes._Pointer",
  "_ctypes.CFuncPtr"]

/-- The class of the arrays of a class of boxes that was made before. -/
def knownArrayClass? (w : World) (c : ClassId) (length : Nat) : Option ClassId :=
  (w.classes.findIdx? fun i =>
    Assoc.find? i.attributes "_type_" = some (.cls c) &&
      Assoc.find? i.attributes "_length_" = some (.whole length)).map .defined

/-- The class of the arrays of a class of boxes; `space` is the module that asks for it. -/
def arrayClass (space : String) (c : ClassId) (length : Value) : Act Value := do
  let w ← Act.world
  match (w.opened length).whole? with
  | none => Act.fail (.script (.repeatBy (w.shownClass length)))
  | some i =>
      if i < 0 then
        if Sequence.countLimit < i.natAbs then Act.fail (.script (.countTooLarge (w.shownClass length)))
        Act.fail (.refused (.value ("Array length must be >= 0, not " ++ toString i)))
      else if Sequence.countLimit < i.toNat then Act.fail (.script (.countTooLarge (w.shownClass length)))
      else if openBoxes.any fun key => c = .standard key then
        Act.fail (.refused (.type "_type_ must have storage info"))
      else
        match knownArrayClass? w c i.toNat with
        | some d => return .cls d
        | none =>
            let name := w.plainName c ++ "_Array_" ++ toString i
            match w.define? (some space) name [.standard "_ctypes.Array"]
                [("_length_", .whole i), ("_type_", .cls c)] with
            | some (d, w) => do
                Act.changeWorld fun _ => w
                return .cls d
            | none => return .null

end FragmentWeaver.Script
