import FragmentWeaver.Script.Frame
import FragmentWeaver.Script.Reference
import FragmentWeaver.Standard.Forms
import FragmentWeaver.Value.Conversion
import FragmentWeaver.Value.Dictionary

/-!
# Forms of annotations

The forms of annotations are given type arguments in square brackets. Each of them says what it takes
and what it makes of it. A text among the arguments stands for something that is named later and has
to be an expression; nothing stands for its class.
-/

namespace FragmentWeaver.Script

/-- Refuse something for a reason of its type. -/
def refuseType {α : Type} (text : String) : Act α :=
  Act.fail (.refused (.type text))

/-- The text of a type argument can stand for a name that is read later, if it is an expression. -/
def checkReference (v : Value) : Act Unit := do
  match (← Act.world).opened v with
  | .text "" => Act.fail (.script (.indexOutOfRange "string"))
  | .text s =>
      if s.toList.contains '\x00' then
        Act.fail (.refused (.value "source code string cannot contain null bytes"))
      else if Reference.isExpression s then return
      else Act.fail (.script (.badReference s))
  | _ => return

/-- A name that is read later. -/
def makeReference (v : Value) : Act Value := do
  checkReference v
  Act.make (.instance [("__forward_arg__", (← Act.world).opened v)]) (.standard "typing.ForwardRef")

/-- A type argument as it is kept. -/
def typeConverted (v : Value) : Act Value := do
  match v, (← Act.world).opened v with
  | .null, _ => return .cls (.standard "NoneType")
  | _, .text _ => makeReference v
  | v, _ => return v

/-- The form of annotations with a name. -/
def formNamed (name : String) : Value :=
  Standard.objectOf name "typing._SpecialForm"

/-- A type with arguments, of a class in the module of annotations. -/
def makeForm (cls : String) (t : Applied) : Act Value :=
  Act.make (.applied t) (.standard ("typing." ++ cls))

/-- Is the value a class that only tells how many variables another class has? -/
def isMarker : Value → Bool
  | .cls (.standard key) => key = "typing.Generic" || key = "typing.Protocol"
  | _ => false

/-- The forms that say how an attribute is used. -/
def usageForms : List Value := [formNamed "ClassVar", formNamed "Final"]

/-- The form of annotations or the class that a form with arguments was made from. -/
def formOrigin? (w : World) (v : Value) : Option Value :=
  if w.isOf v "typing._GenericAlias" then (w.applied? v).bind Applied.origin else none

/-- How much of a value is told when it is no type. -/
def tellLimit : Nat := 100

/-- A type argument as it is kept, if it can be a type; what is told of a tuple starts with a sentence
    about the form. The forms that say how an attribute is used may be allowed. -/
def typeChecked (sentence : String) (v : Value) (allowsUsage : Bool) : Act Value := do
  let v ← typeConverted v
  let w ← Act.world
  let isUsage (x : Value) : Bool := usageForms.contains x
  let refused := match formOrigin? w v with
    | some o => isMarker o || (!allowsUsage && isUsage o)
    | none => false
  if refused then refuseType (w.writtenText v ++ " is not valid as type argument")
  let isComplete := match v with
    | .native (.other n (.standard "typing._SpecialForm") _) => Standard.completeForms.contains n
    | _ => false
  if isComplete || (allowsUsage && isUsage v) then return v
  if isMarker v || w.isOf v "typing._SpecialForm" then
    refuseType ("Plain " ++ w.writtenText v ++ " is not valid as type argument")
  if w.typeOf v = .standard "tuple" then
    let told := String.ofList ((w.writtenText v).toList.take tellLimit)
    refuseType (sentence ++ " Got " ++ told ++ ".")
  return v

/-- The sentence about the types that a class takes. -/
def ofGenericTypes : String := "Parameters to generic types must be types."

/-- The values in square brackets: the items of a tuple, or one. -/
def typeArguments (w : World) (key : Value) : List Value :=
  (w.tupleItems? key).getD [key]

/-- Every value once, by what it is equal to. -/
def withoutRepeats (vs : List Value) : Act (List Value) := do
  let kvs ← Act.lift ((← Act.world).entriesOf (vs.map fun v => (v, .null)))
  return kvs.map Prod.fst

/-- The alternatives of types: those of a union among them take its place. -/
def alternatives (w : World) (vs : List Value) : List Value :=
  vs.flatMap fun v =>
    if w.isOf v "typing._UnionGenericAlias" || w.isOf v "types.UnionType" then
      ((w.applied? v).map Applied.args).getD [v]
    else [v]

/-- The form of a union of types. Every type counts once, and one type is itself. -/
def makeUnion (vs : List Value) : Act Value := do
  if vs.isEmpty then refuseType "Cannot take a Union of no types."
  let vs ← vs.mapM fun v => typeChecked "Union[arg, ...]: each arg must be a type." v false
  match ← withoutRepeats (alternatives (← Act.world) vs) with
  | [v] => return v
  | vs =>
      let isOptional := vs.length = 2 && vs.contains (.cls (.standard "NoneType"))
      makeForm "_UnionGenericAlias"
        { origin := some (formNamed "Union"), args := vs
          name := if isOptional then some "Optional" else none }

/-- The form of a choice of values: those of another choice among them take its place, and every
    value of a class counts once, unless one of them is no key. -/
def makeChoice (vs : List Value) : Act Value := do
  let w ← Act.world
  let vs := vs.flatMap fun v =>
    if w.isOf v "typing._LiteralGenericAlias" then ((w.applied? v).map Applied.args).getD [v]
    else [v]
  let keys := vs.mapM fun v => (w.key v).toOption.map fun k => (k, w.typeOf v)
  let kept := match keys with
    | none => vs
    | some ks => ((ks.zip vs).foldl (fun acc (k, v) =>
        if (Assoc.find? acc k).isSome then acc else acc ++ [(k, v)]) []).map Prod.snd
  makeForm "_LiteralGenericAlias"
    { origin := some (Standard.objectOf "Literal" "typing._LiteralSpecialForm"), args := kept }

/-- An annotated type; the remarks of an annotated type come before further ones. -/
def makeAnnotated (origin : Value) (remarks : List Value) : Act Value := do
  let w ← Act.world
  match w.isOf origin "typing._AnnotatedAlias", w.applied? origin with
  | true, some t => makeForm "_AnnotatedAlias" { t with remarks := t.remarks ++ remarks }
  | _, _ =>
      makeForm "_AnnotatedAlias" { origin := some origin, args := [origin], remarks := remarks }

/-- Type arguments given to a form that takes one of them. -/
def subscribeSingle (name sentence cls : String) (key : Value) : Act Value := do
  let v ← typeChecked sentence key false
  makeForm cls { origin := some (formNamed name), args := [v] }

/-- Type arguments given to one of the forms that have rules of their own. -/
def subscribeSpecial (name : String) (key : Value) : Act Value := do
  let title := "typing." ++ name
  let args := typeArguments (← Act.world) key
  if Standard.completeForms.contains name then refuseType (title ++ " is not subscriptable")
  match name with
  | "Union" => makeUnion args
  | "Optional" => do
      let v ← typeChecked (title ++ " requires a single type.") key false
      makeUnion [v, .null]
  | "Concatenate" => do
      let isEnd (v : Value) : Act Bool := do
        return v = Value.openEnd || (← Act.world).isOf v "typing.ParamSpec"
      match args.reverse with
      | [] => refuseType "Cannot take a Concatenate of no types."
      | last :: rest => do
          if !(← isEnd last) then
            refuseType
              "The last parameter to Concatenate should be a ParamSpec variable or ellipsis."
          let first ← rest.reverse.mapM fun v =>
            typeChecked "Concatenate[arg, ...]: each arg must be a type." v false
          makeForm "_ConcatenateGenericAlias"
            { origin := some (formNamed name), args := first ++ [last] }
  | "Required" | "NotRequired" =>
      subscribeSingle name (name ++ " accepts only a single type.") "_GenericAlias" key
  | "Unpack" =>
      subscribeSingle name (title ++ " accepts only single type.") "_UnpackGenericAlias" key
  | name => subscribeSingle name (title ++ " accepts only single type.") "_GenericAlias" key

/-- The words for functions whose type arguments have another shape than they need. -/
def functionShape : String := "Callable must be used as Callable[[arg, ...], result]."

/-- Type arguments given to the form of functions: the types of the arguments, and that of the
    result. -/
def subscribeFunctions (origin : Value) (key : Value) : Act Value := do
  let w ← Act.world
  match w.tupleItems? key with
  | some [inner, result] => do
      let result ← typeChecked "Callable[args, result]: result must be a type." result false
      let inner := match inner with
        | .object a c =>
            if w.isBelow c "list" || w.isBelow c "tuple" then w.heap.items a else [inner]
        | inner => [inner]
      let inner ← inner.mapM typeConverted
      makeForm "_CallableGenericAlias"
        { origin := some origin, args := inner ++ [result], name := some "Callable" }
  | _ => refuseType functionShape

/-- Type arguments given to the form of tuples. -/
def subscribeTuple (f : Standard.ClassForm) (key : Value) : Act Value := do
  let args := typeArguments (← Act.world) key
  let isOpen := 2 ≤ args.length && args.getLast? = some Value.openEnd
  let sentence := if isOpen then "Tuple[t, ...]: t must be a type."
    else "Tuple[t0, t1, ...]: each t must be a type."
  let args ← args.zipIdx.mapM fun (v, i) =>
    if isOpen && i + 1 = args.length then pure v else typeChecked sentence v false
  makeForm "_GenericAlias"
    { origin := some (.cls (.standard f.origin)), args := args, name := some f.name
      direct := f.direct }

/-- Refuse a wrong count of type arguments for something. -/
def checkCount (title : String) (expected given : Nat) : Act Unit := do
  if expected = 0 then refuseType (title ++ " is not a generic class")
  else if given ≠ expected then
    Act.fail (.script (.typeArguments title given expected))

/-- Type arguments given to a form that stands for a class. -/
def subscribeClassForm (f : Standard.ClassForm) (key : Value) : Act Value := do
  let origin : Value := .cls (.standard f.origin)
  match f.name, f.arity with
  | "Callable", _ => subscribeFunctions origin key
  | _, none => subscribeTuple f key
  | _, some arity => do
      let args ← (typeArguments (← Act.world) key).mapM fun v => typeChecked ofGenericTypes v false
      checkCount ("typing." ++ f.name) arity args.length
      makeForm "_GenericAlias"
        { origin := some origin, args := args, name := some f.name, direct := f.direct }

/-- Type arguments given to a form of annotations. -/
def subscribeForm (name cls : String) (key : Value) : Act Value := do
  match cls, Standard.classForm? name with
  | "typing._SpecialForm", _ => subscribeSpecial name key
  | "typing._LiteralSpecialForm", _ => makeChoice (typeArguments (← Act.world) key)
  | _, some f => subscribeClassForm f key
  | cls, none => Act.fail (.script (.notSubscriptable ((← Act.world).classInfo (.standard cls)).shown))

/-- Type arguments given to the class of annotated types: the type, and remarks. -/
def subscribeAnnotated (key : Value) : Act Value := do
  match typeArguments (← Act.world) key with
  | v :: remark :: remarks => do
      let origin ← typeChecked "Annotated[t, ...]: t must be a type." v true
      makeAnnotated origin (remark :: remarks)
  | _ =>
      refuseType
        "Annotated[...] should be used with at least two arguments (a type and an annotation)."

end FragmentWeaver.Script
