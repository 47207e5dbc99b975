import FragmentWeaver.Standard.Operation
import FragmentWeaver.World

/-!
# Functions of the surroundings

What a function that is not written in the fragment language knows of itself: its name, and the module
or the class that it was made in.
-/

namespace FragmentWeaver

/-- The name, the class and the place of a function of the surroundings. -/
def Native.callee? : Native → Option (String × ClassId × Home)
  | .steal => some ("steal", Standard.plainFunction, .module "codeweave.bindings")
  | .put => some ("put", Standard.plainFunction, .module "codeweave.bindings")
  | .cast => some ("cast", Standard.plainFunction, .module "codeweave.bindings")
  | .unbox => some ("unbox", Standard.plainFunction, .module "codeweave.bindings")
  | .keep => some ("final", Standard.plainFunction, .module "typing")
  | .abstractEntry => some ("__call__", Standard.plainFunction, .cls Standard.invocable)
  | .enter => some ("call", Standard.plainFunction, .cls Standard.invocable)
  | .universal n => some (n, Standard.operationFunction, .cls .object)
  | .member _ _ => none
  | .other n c home => some (n, c, home)

namespace World

/-- The name of something with the name of the class that it stands in. -/
def qualified (w : World) (n : String) : Home → String
  | .cls c => (w.classInfo c).name ++ "." ++ n
  | _ => n

/-- The module of a place. -/
def homeModule (w : World) : Home → Value
  | .module m => .text m
  | .cls c => ((w.classInfo c).space.map Value.text).getD .null
  | _ => .null

/-- The file that a place says its functions were written in. What is in no module was written as a
    text. -/
def homeFile (w : World) (home : Home) : Value :=
  match w.homeModule home with
  | .text m =>
      match Standard.origin m with
      | .frozen =>
          let told := if Text.beginsWith "importlib." m then m else Standard.listedName m
          .text ("<frozen " ++ told ++ ">")
      | _ => .text ((if Standard.isModule m then Standard.file? m else none).getD "<string>")
  | _ => .null

/-- The last part of a dotted name. -/
def plainTitle (n : String) : String := (Standard.Listing.lastCut n).2

/-- The functions that a property in a class is made from. Only the one that reads is always there. -/
def propertyKnown? (n : String) (home : Home) (name : String) : Option Value :=
  match name with
  | "fget" => some (.native (.other n Standard.plainFunction home))
  | "fset" | "fdel" | "__doc__" => some .null
  | "__isabstractmethod__" => some (.truth false)
  | _ => none

/-- What the code of a function with a name and a place knows of itself. -/
def codeKnown? (w : World) (n : String) (home : Home) (name : String) : Option Value :=
  match name with
  | "co_name" => some (.text (plainTitle n))
  | "co_qualname" => some (.text (w.qualified n home))
  | "co_filename" => some (w.homeFile home)
  | _ => none

/-- The classes of what is found in a built-in class and belongs to it. -/
def isFoundClass (c : ClassId) : Bool :=
  [Standard.methodFunction, Standard.operationFunction, .standard "getset_descriptor",
    .standard "member_descriptor"].contains c

/-- What a function with a name, a class and a place knows of itself under a name. What a built-in one
    says of itself is told by the operation of the language that it stands for, if there is one. -/
def calleeKnown? (w : World) (n : String) (c : ClassId) (home : Home) (name : String) :
    Option Value :=
  let isPlain := c = Standard.plainFunction || c = .standard "functools._lru_cache_wrapper"
  let isBuiltin := c = Standard.builtinFunction
  let isFound := isFoundClass c
  let told (f : String → Option String) : Value :=
    if c = Standard.operationFunction || n = "__new__" then ((f n).map Value.text).getD .null
    else .null
  if c = .standard "property" then propertyKnown? n home name
  else if c = .standard "code" then w.codeKnown? n home name
  else if !isPlain && !isBuiltin && !isFound then none
  else
    match name, home with
    | "__name__", _ => some (.text (plainTitle n))
    | "__qualname__", _ => some (.text (w.qualified n home))
    | "__module__", _ => if isFound then none else some (w.homeModule home)
    | "__objclass__", .cls d => if isFound then some (.cls d) else none
    | "__self__", .module m => if isBuiltin then (Standard.moduleIndex? m).map .module else none
    | "__code__", _ =>
        if c = Standard.plainFunction then some (.native (.other n (.standard "code") home))
        else none
    | "__closure__", _ | "__defaults__", _ | "__kwdefaults__", _ =>
        if c = Standard.plainFunction then some .null else none
    | "__globals__", _ =>
        if c = Standard.plainFunction then some (Standard.objectOf name "dict") else none
    | "__text_signature__", _ =>
        if isBuiltin || c = Standard.methodFunction || c = Standard.operationFunction then
          some (told Standard.operationSignature?)
        else none
    | "__doc__", _ => some (told Standard.operationText?)
    | _, _ => none

/-- What a function of the surroundings knows of itself under a name. -/
def nativeKnown? (w : World) (f : Native) (name : String) : Option Value := do
  let (n, c, home) ← f.callee?
  w.calleeKnown? n c home name

/-- What a function of the surroundings that was read from an object knows of itself: it stands in the
    class of the object, unless an operation of the language stands for it. -/
def tiedKnown? (w : World) (c : ClassId) (receiver : Value) (f : Native) (name : String) :
    Option Value := do
  let (n, _, home) ← f.callee?
  let d := match receiver with
    | .cls d => d
    | x => w.typeOf x
  if c = .standard "method-wrapper" then
    if name = "__module__" then none else w.calleeKnown? n Standard.operationFunction home name
  else
    match name with
    | "__name__" => some (.text n)
    | "__qualname__" => some (.text (w.qualified n (.cls d)))
    | "__module__" => some .null
    | "__doc__" | "__text_signature__" => w.calleeKnown? n Standard.builtinFunction home name
    | _ => none

end World

end FragmentWeaver
