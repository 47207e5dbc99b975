import FragmentWeaver.Script.Term
import FragmentWeaver.Unit.Id
import FragmentWeaver.Value.Exact

/-!
# Values

What a binding, a field or a result can be. Values without parts stand for themselves; everything
else lives on a heap and is known by its address and class, so sharing and cycles are plain to see.
-/

namespace FragmentWeaver

/-- A class: one of the standard ones, by its module and name, or one that was defined later, by its
    number. -/
inductive ClassId where
  | standard (key : String)
  | defined (serial : Nat)
  deriving DecidableEq, Repr, Inhabited

/-- A module object, by its number. -/
abbrev ModuleId := Nat

/-- The place of an object on the heap. -/
abbrev Address := Nat

/-- Where something of the surroundings stands: in a module, in a class, in the file of a module, or
    nowhere that is told. -/
inductive Home where
  | untold
  | module (name : String)
  | cls (c : ClassId)
  | file (path : String)
  deriving DecidableEq, Repr, Inhabited

/-- A function or a constant of the surroundings, which is not written in the fragment language. -/
inductive Native where
  /-- Takes a staged value out of the process-wide store. -/
  | steal
  /-- Stages a value in the process-wide store. -/
  | put
  /-- Checks a value against a class. -/
  | cast
  /-- Checks a boxed number against its exact class and opens it. -/
  | unbox
  /-- Gives its argument back. -/
  | keep
  /-- The entry point that every inline unit overrides. -/
  | abstractEntry
  /-- Calls its argument. -/
  | enter
  /-- A method that every object has. -/
  | universal (name : String)
  /-- A member of an enumeration, by its class and value. -/
  | member (cls : String) (value : Script.Literal)
  /-- Any other function or constant: it can be passed on, not called. -/
  | other (name : String) (cls : ClassId) (home : Home := .untold)
  deriving DecidableEq, Repr, Inhabited

/-- A value. -/
inductive Value where
  | null
  | truth (b : Bool)
  | whole (i : Int)
  | float (x : Number.Binary)
  | complex (re im : Number.Binary)
  | text (s : String)
  /-- A text with code points in it that are no characters. -/
  | loose (points : List Nat)
  | bytes (bs : List UInt8)
  | missing
  | unit (u : UnitId)
  | cls (c : ClassId)
  | module (m : ModuleId)
  | native (f : Native)
  | moduleTable
  /-- The description that a module was made from, by its number. -/
  | spec (n : Nat)
  | object (place : Address) (cls : ClassId)
  deriving DecidableEq, Inhabited

/-- The text of some code points. -/
def Value.ofPoints (ps : List Nat) : Value :=
  match Text.ofPoints? ps with
  | some s => .text s
  | none => .loose ps

/-- Is there one object only for the value? There is for small numbers, the shortest bytes and
    everything that is no number, text or unit. -/
def Value.isShared : Value → Bool
  | .whole i => -5 ≤ i && i ≤ 256
  | .bytes bs => bs.length < 2
  | .float _ | .complex _ _ | .text _ | .loose _ | .unit _ => false
  | _ => true

/-- The value of a literal. -/
def Script.Literal.value : Literal → Value
  | .null => .null
  | .truth b => .truth b
  | .ellipsis => .native (.other "Ellipsis" (.standard "ellipsis"))
  | .whole i => .whole i
  | .float x => .float x
  | .imaginary x => .complex (.zeroOf false) x
  | .text s => .text s
  | .loose ps => .loose ps
  | .bytes bs => .bytes bs

/-- Some values as texts, if all of them are texts. -/
def Value.texts? (vs : List Value) : Option (List String) :=
  vs.mapM fun
    | .text s => some s
    | _ => none

/-- A function written in the fragment language: its code, its qualified name, the module whose
    names it reads, the values of its defaults, the class it was written in, the class its private
    names belong to, how it was compiled, and what is declared in it. -/
structure Function where
  code : Script.Code
  title : String
  globals : ModuleId
  defaults : List (String × Value) := []
  owner : Option ClassId := none
  secret : Option String := none
  mode : Script.Mode := {}
  notes : List (String × Value) := []
  deriving Inhabited

/-- A type that was given arguments in square brackets, or a union of types: what the arguments were
    given to, unless it is a union that is no form of annotations; the arguments; the name that it is
    written with; whether it makes objects when it is called; and the remarks of an annotated type. -/
structure Applied where
  origin : Option Value := none
  args : List Value
  name : Option String := none
  direct : Bool := true
  remarks : List Value := []
  deriving Inhabited

/-- What stands at an address. -/
inductive Content where
  /-- A list, tuple, set or typed array, or the arguments of an exception. -/
  | items (xs : List Value)
  /-- A dictionary in the order of its first insertions. -/
  | entries (kvs : List (Value × Value))
  /-- A boxed number or text; an empty box holds no value at all. -/
  | boxed (v : Option Value)
  /-- A plain value that is an object of its own. -/
  | plain (v : Value)
  /-- A value that is known exactly. -/
  | exact (e : Exact)
  /-- A typed array. -/
  | array (code : Char) (xs : List Value)
  | function (f : Function)
  /-- A function together with the object it was read from. -/
  | bound (receiver function : Value)
  /-- The ancestors of a class, seen from an object. -/
  | above (cls : ClassId) (receiver : Value)
  /-- A type with arguments. -/
  | applied (t : Applied)
  /-- An object with attributes of its own. -/
  | instance (attributes : List (String × Value))
  deriving Inhabited

/-- The heap: addresses count up from zero. -/
abbrev Heap := Array Content

namespace Heap

/-- Put something at a new address. -/
def alloc (h : Heap) (c : Content) : Address × Heap :=
  (h.size, h.push c)

/-- The items of a list, tuple, set or array; empty for everything else. -/
def items (h : Heap) (a : Address) : List Value :=
  match h[a]? with
  | some (.items xs) => xs
  | some (.array _ xs) => xs
  | _ => []

/-- The entries of a dictionary; empty for everything else. -/
def entries (h : Heap) (a : Address) : List (Value × Value) :=
  match h[a]? with
  | some (.entries kvs) => kvs
  | _ => []

/-- Replace what stands at an address. -/
def write (h : Heap) (a : Address) (c : Content) : Heap :=
  h.setIfInBounds a c

end Heap

end FragmentWeaver
