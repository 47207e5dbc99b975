import FragmentWeaver.Distinct
import FragmentWeaver.World

/-!
# Types with arguments

A type that was given arguments keeps what they were given to and the arguments. Variables among the
arguments, at any depth, can be filled in later. Its written form is an expression that makes it
again.
-/

namespace FragmentWeaver

/-- What stands in the place of arguments that are left open. -/
def Value.openEnd : Value := Script.Literal.ellipsis.value

namespace World

/-- The parts of a type with arguments. -/
def applied? (w : World) (v : Value) : Option Applied :=
  match w.content? v with
  | some (.applied t) => some t
  | _ => none

/-- Does a value belong to a standard class, or to one below it? -/
def isOf (w : World) (v : Value) (key : String) : Bool :=
  (w.lineage (w.typeOf v)).contains (.standard key)

/-- Is the value a function that is written in the language? -/
def isPlainFunction (w : World) (v : Value) : Bool := w.typeOf v = Standard.plainFunction

/-- The classes of the variables that stand for types. -/
def variableClasses : List String := ["typing.TypeVar", "typing.ParamSpec", "typing.TypeVarTuple"]

/-- Does a value stand for a type that is filled in later? -/
def isVariable (w : World) (v : Value) : Bool :=
  variableClasses.any fun key => w.typeOf v = .standard key

/-- The variables in some types, each of them once, in the order of their first appearance; types with
    arguments may be nested to a given depth. -/
def typeVariablesWithin (w : World) : Nat → List Value → List Value
  | depth, vs =>
      distinct (vs.flatMap fun v =>
        if w.isVariable v then [v]
        else
          match depth, w.applied? v with
          | depth + 1, some t => w.typeVariablesWithin depth t.args
          | _, _ => [])

/-- The variables in some types. -/
def typeVariables (w : World) (vs : List Value) : List Value :=
  w.typeVariablesWithin (w.heap.size + 1) vs

/-- Can a value stand in the place of all the arguments of a function? -/
def isArguments (w : World) (v : Value) : Bool :=
  v = .openEnd ||
    ["tuple", "list", "typing.ParamSpec", "typing._ConcatenateGenericAlias"].any (w.isOf v)

/-- A class as it is written among the arguments of a type. -/
def typeName (w : World) (c : ClassId) : String :=
  if (w.classInfo c).space = some "builtins" then (w.classInfo c).name else w.fullName c

/-- The name of a function and its full name, if it is written in the language. -/
def functionName? (w : World) (v : Value) : Option (String × String) :=
  match v, w.content? v with
  | _, some (.function f) =>
      let space := match w.moduleAttribute? f.globals "__name__" with
        | some (.text s) => s ++ "."
        | _ => ""
      some (f.code.name, space ++ f.title)
  | .native (.other n _ _), _ => if w.isPlainFunction v then some (n, n) else none
  | _, _ => none

/-- The written form of an argument of a type, given how other values are written. Forms of annotations
    name a function as it is, other types with its module. -/
def argumentText {m : Type → Type} [Monad m] (w : World) (isForm : Bool)
    (write : Value → m String) (v : Value) : m String :=
  match v, w.functionName? v with
  | .cls c, _ => pure (w.typeName c)
  | _, some (name, full) => pure (if isForm then name else full)
  | v, none => if v = .openEnd then pure "..." else write v

/-- The written form of a type with arguments of a class, given how other values are written. -/
def appliedText {m : Type → Type} [Monad m] (w : World) (c : ClassId) (t : Applied)
    (write : Value → m String) : m String := do
  let isForm := (w.lineage c).contains (.standard "typing._GenericAlias")
  let text := w.argumentText isForm write
  let nothing : Value := .cls (.standard "NoneType")
  let brackets (head : String) (parts : List String) : String :=
    head ++ "[" ++ (if parts.isEmpty then "()" else Text.join ", " parts) ++ "]"
  let head ← match t.name, t.origin with
    | some n, _ => pure ("typing." ++ n)
    | none, some o => text o
    | none, none => pure ""
  let usual : m String := do return brackets head (← t.args.mapM text)
  let ofFunctions (head : String) : m String :=
    match t.args.reverse with
    | result :: rest =>
        if rest.length = 1 && rest.all w.isArguments then usual
        else do
          let inner ← rest.reverse.mapM text
          return brackets head ["[" ++ Text.join ", " inner ++ "]", ← text result]
    | [] => usual
  match c, t.args with
  | .standard "types.UnionType", args => do
      let parts ← args.mapM fun v => if v = nothing then pure "None" else text v
      return Text.join " | " parts
  | .standard "collections.abc._CallableGenericAlias", _ => ofFunctions head
  | .standard "typing._CallableGenericAlias", _ => ofFunctions "typing.Callable"
  | .standard "dataclasses.InitVar", v :: _ => do
      let told ← match v with
        | .cls c => pure (w.plainName c)
        | v => write v
      return brackets "dataclasses.InitVar" [told]
  | .standard "typing._UnpackGenericAlias", v :: _ => do return "*" ++ (← write v)
  | .standard "typing._AnnotatedAlias", _ => do
      let told ← t.origin.mapM text
      return brackets "typing.Annotated" (told.toList ++ (← t.remarks.mapM write))
  | .standard "typing._UnionGenericAlias", [x, y] =>
      if x = nothing then do return brackets "typing.Optional" [← text y]
      else if y = nothing then do return brackets "typing.Optional" [← text x]
      else usual
  | _, _ => usual

end World

end FragmentWeaver
