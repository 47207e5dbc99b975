import FragmentWeaver.Descriptor.Basic
import FragmentWeaver.Descriptor.NestedList
import FragmentWeaver.Distinct

/-!
# The declared type of a value

Boxed numbers are declared by what they hold, typed arrays by their type code, lists by what their
leaves have in common, and everything else by the closest class that a source can name.
-/

namespace FragmentWeaver

/-- The classes of boxed values, and the classes of what they hold. -/
def boxedClasses : List (String × String) := [
  ("ctypes.c_bool", "bool"), ("ctypes.c_char", "bytes"), ("ctypes.c_wchar", "str"),
  ("ctypes.c_byte", "int"), ("ctypes.c_ubyte", "int"), ("ctypes.c_short", "int"),
  ("ctypes.c_ushort", "int"), ("ctypes.c_int", "int"), ("ctypes.c_uint", "int"),
  ("ctypes.c_long", "int"), ("ctypes.c_ulong", "int"), ("ctypes.c_float", "float"),
  ("ctypes.c_double", "float"), ("ctypes.c_longdouble", "float")]

/-- What a boxed class holds. -/
def heldClass? : ClassId → Option (String × String)
  | .standard key => boxedClasses.find? fun (boxed, _) => boxed == key
  | .defined _ => none

/-- What the items of a typed array are declared as. -/
def typecodeName (code : Char) : String :=
  if "bBhHiIlLqQ".toList.contains code then "int"
  else if "fd".toList.contains code then "float"
  else if "uw".toList.contains code then "str"
  else "object"

/-- The classes whose values are declared by the class itself, unseen. -/
def plainClasses : List String := ["bool", "int", "float", "complex", "str", "bytes"]

/-- The name of one of these classes. -/
def plainClass? : List ClassId → Option String
  | [.standard key] => if plainClasses.contains key then some key else none
  | _ => none

/-- A type name inside so many list brackets. -/
def nestedName (element : String) : Nat → String
  | 0 => element
  | depth + 1 => "list[" ++ nestedName element depth ++ "]"

namespace World

/-- The declared type of a list. -/
def listType (w : World) (v : Value) : Descriptor :=
  match w.heap.nestedList v with
  | none => { typeName := "list", castName := "list" }
  | some (depth, leaves) =>
      let classes := distinct (leaves.map w.typeOf)
      let element : Descriptor := match plainClass? classes with
        | some name => { typeName := name, castName := name }
        | none => w.commonType classes
      { typeName := nestedName element.typeName depth
        castName := "list"
        kind := .array
        modules := element.modules }

/-- The type code of an array. -/
def typecode (w : World) : Value → Char
  | .object a _ =>
      match w.heap[a]? with
      | some (.array code _) => code
      | _ => ' '
  | _ => ' '

/-- The narrowest declared type of a value. -/
def infer (w : World) (v : Value) : Descriptor :=
  if v = .null then .object
  else
    let c := w.typeOf v
    match heldClass? c with
    | some (boxed, held) =>
        { typeName := held, castName := boxed, kind := .boxed, modules := ["ctypes"] }
    | none =>
        if c = .standard "array.array" then
          { typeName := "array.array[" ++ typecodeName (w.typecode v) ++ "]"
            castName := "array.array"
            kind := .array
            modules := ["array"] }
        else if c = .list then w.listType v
        else w.nameType c

end World

end FragmentWeaver
