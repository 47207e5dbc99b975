import FragmentWeaver.Script.Annotation

/-!
# Type arguments

Classes are given type arguments in square brackets, and so are types that have arguments already: the
new ones take the place of their variables. Types side by side make a union.
-/

namespace FragmentWeaver.Script

/-- A class with type arguments. -/
def makeGeneric (c : ClassId) (args : List Value) : Act Value :=
  Act.make (.applied { origin := some (.cls c), args := args }) (.standard "types.GenericAlias")

/-- How many variables a class was declared with. -/
def variableCount (w : World) (c : ClassId) : Nat :=
  let own (d : ClassId) : Option Nat :=
    match Assoc.find? (w.classInfo d).attributes "__parameters__",
        World.ownListing? "__parameters__" d with
    | some v, _ => some ((w.tupleItems? v).getD []).length
    | none, some e =>
        match e.written? with
        | some (_, .tuple es) => some es.length
        | _ => none
    | none, none => none
  ((w.lineage c).findSome? own).getD 0

/-- Type arguments given to a class that was declared with variables, or to the class that declares
    them. -/
def subscribeGeneric (c : ClassId) (key : Value) : Act Value := do
  let args ← (typeArguments (← Act.world) key).mapM typeConverted
  let w ← Act.world
  if isMarker (.cls c) then
    let title := w.plainName c ++ "[...]"
    if args.isEmpty then refuseType ("Parameter list to " ++ title ++ " cannot be empty")
    if !args.all w.isVariable then
      refuseType ("Parameters to " ++ title ++
        " must all be type variables or parameter specification variables.")
    if (distinct args).length ≠ args.length then
      refuseType ("Parameters to " ++ title ++ " must all be unique")
  else checkCount (w.classText c) (variableCount w c) args.length
  makeForm "_GenericAlias" { origin := some (.cls c), args := args }

/-- Type arguments given to the class of everything that can be called. -/
def subscribeCallables (c : ClassId) (key : Value) : Act Value := do
  let w ← Act.world
  let make (args : List Value) : Act Value :=
    Act.make (.applied { origin := some (.cls c), args := args })
      (.standard "collections.abc._CallableGenericAlias")
  match w.tupleItems? key with
  | some [inner, result] =>
      match inner with
      | .object a d =>
          if w.isBelow d "list" || w.isBelow d "tuple" then make (w.heap.items a ++ [result])
          else if w.isArguments inner then make [inner, result]
          else refused inner
      | inner => if w.isArguments inner then make [inner, result] else refused inner
  | _ => refuseType functionShape
where
  /-- What is no list of arguments. -/
  refused (inner : Value) : Act Value := do
    let told ← Act.lift (((← Act.world).shown inner).mapError .unwritten)
    refuseType
      ("Expected a list of types, an ellipsis, ParamSpec, or Concatenate. Got " ++ told)

/-- A member of an enumeration, by its name. -/
def memberNamed (c : ClassId) (key : Value) : Act Value := do
  let w ← Act.world
  let _ ← Act.lift ((w.key key).mapError .unhashable)
  let found := match c, w.opened key with
    | .standard cls, .text n => Standard.enumMember? cls n
    | _, _ => none
  match found with
  | some v => return v
  | none => Act.fail (.script (.keyMissing key))

/-- Type arguments given to a class as its listing says. -/
def subscribeListed (c : ClassId) (key : Value) : Act Value := do
  let w ← Act.world
  if w.isBelow (w.classInfo c).kind "enum.EnumType" then memberNamed c key
  else if c = .standard "type" then makeGeneric c (typeArguments w key)
  else
    match w.lister? c "__class_getitem__" with
    | some (.standard "typing.Generic") => subscribeGeneric c key
    | some (.standard "typing.Annotated") => subscribeAnnotated key
    | some (.standard "collections.abc.Callable") => subscribeCallables c key
    | some (.standard "dataclasses.InitVar") =>
        Act.make (.applied { args := [key] }) (.standard "dataclasses.InitVar")
    | some _ => makeGeneric c (typeArguments w key)
    | none => Act.fail (.script (.notSubscriptableClass (w.classInfo c).shown))

/-- Is the value a type of its own kind, so that a stroke joins it to another one? -/
def isPlainType (w : World) : Value → Bool
  | .cls _ => true
  | v => w.isOf v "types.GenericAlias" || w.isOf v "types.UnionType"

/-- Is the value a form of annotations, or a name or a variable that stands for a type? -/
def isFormOfType (w : World) (v : Value) : Bool :=
  ["typing._SpecialForm", "typing._BaseGenericAlias", "typing._BoundVarianceMixin",
    "typing.ForwardRef"].any (w.isOf v)

/-- A union of types. Every type counts once, and one type is itself. -/
def joinTypes (vs : List Value) : Act Value := do
  let vs := vs.map fun v => if v = .null then .cls (.standard "NoneType") else v
  let w ← Act.world
  let vs := vs.flatMap fun v =>
    if w.isOf v "types.UnionType" then ((w.applied? v).map Applied.args).getD [v] else [v]
  let isNew (seen : List Value) (v : Value) : Bool :=
    !seen.any fun x => x = v || w.sameKey x v
  match vs.foldl (fun seen v => if isNew seen v then seen ++ [v] else seen) [] with
  | [v] => return v
  | vs => Act.make (.applied { args := vs }) (.standard "types.UnionType")

/-- The union of two types, if they are types. -/
def uniteTypes? (x y : Value) : Act (Option Value) := do
  let w ← Act.world
  let fits (v : Value) : Bool := isPlainType w v || v = .null
  if isFormOfType w x then some <$> makeUnion [x, y]
  else if fits x && fits y && !(x = .null && y = .null) then some <$> joinTypes [x, y]
  else if isFormOfType w y then some <$> makeUnion [x, y]
  else return none

/-- The type that takes the place of a variable. -/
def replacement (v : Value) : Act Value := do
  let v ← typeChecked ofGenericTypes v false
  let w ← Act.world
  if formOrigin? w v = some (formNamed "Unpack") then
    refuseType (w.writtenText v ++ " is not valid as type argument")
  return v

/-- A type like another one, with other arguments. -/
def withArguments (c : ClassId) (t : Applied) (args : List Value) : Act Value :=
  match c, args with
  | .standard "types.UnionType", args => joinTypes args
  | .standard "typing._UnionGenericAlias", args => makeUnion args
  | .standard "typing._AnnotatedAlias", [v] => makeAnnotated v t.remarks
  | c, args => Act.make (.applied { t with args := args }) c

/-- Type arguments given to a type with arguments, which may be nested to a given depth: they take the
    place of its variables. -/
def fillIn : Nat → Value → Value → Act Value
  | 0, _, _ => Act.fail (.script .tooDeep)
  | depth + 1, v, key => do
      let w ← Act.world
      match v, w.applied? v with
      | .object _ c, some t => do
          let isForm := w.isOf v "typing._GenericAlias"
          let title := w.writtenText v
          if isForm && t.origin.any isMarker then
            refuseType ("Cannot subscript already-subscripted " ++ title)
          let free := w.typeVariables t.args
          let given := typeArguments w key
          let given ← if isForm && !free.isEmpty then given.mapM typeConverted else pure given
          checkCount title free.length given.length
          let given := free.zip given
          let args ← t.args.mapM fun a => do
            let w ← Act.world
            match Assoc.find? given a, w.typeVariables (((w.applied? a).map Applied.args).getD []) with
            | some x, _ => replacement x
            | none, [] => return a
            | none, inner => do
                let key ← Act.withWorld fun w =>
                  w.newTuple (inner.map fun x => (Assoc.find? given x).getD x)
                fillIn depth a key
          withArguments c t args
      | v, _ => Act.fail (.script (.notSubscriptable (w.shownClass v)))

/-- Type arguments given to a type with arguments. -/
def subscribeApplied (v key : Value) : Act Value := do
  fillIn ((← Act.world).heap.size + 1) v key

end FragmentWeaver.Script
