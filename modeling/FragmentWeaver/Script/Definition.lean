import FragmentWeaver.Script.Special

/-!
# Class definitions

A class is made from its bases and the names of its body. A base may stand for other bases, as a type
with arguments does for what its arguments were given to. The class of a class is the lowest of the
classes of its bases, and a base that is no class is asked to make something else of the body. Classes
above the new one, and values in its body that want to know their names, are told of it.
-/

namespace FragmentWeaver.Script

/-- Is the value a form of annotations that stands for a class, with arguments or without? -/
def isClassForm (w : World) (v : Value) : Bool := w.isOf v "typing._BaseGenericAlias"

/-- The class that says by its arguments which variables another class is declared with. -/
def variableDeclarer : Value := .cls (.standard "typing.Generic")

/-- Does a value stand for a class below the one that declares variables? -/
def declaresVariables (w : World) : Value → Bool
  | .cls c => (w.lineage c).contains (.standard "typing.Generic")
  | v => isClassForm w v

/-- The bases that a form with a name stands for: its class, and the class that declares variables
    unless a later base declares them. -/
def namedBases (w : World) (origin : Value) (all rest : List Value) : List Value :=
  (if all.contains origin then [] else [origin]) ++
    (if rest.any (declaresVariables w) then [] else [variableDeclarer])

/-- The bases that one of several bases stands for, given those after it. -/
def basesFor (again : Caller) (all : List Value) (v : Value) (rest : List Value) :
    Act (List Value) := do
  let w ← Act.world
  let refused : Act (List Value) := refuseType ("Cannot subclass " ++ w.writtenText v)
  match v, w.applied? v with
  | .cls _, _ => return [v]
  | .native (.other n _ _), _ =>
      if w.isOf v "typing._SpecialForm" then refused
      else
        match isClassForm w v, Standard.classForm? n with
        | true, some f => return namedBases w (.cls (.standard f.origin)) all rest
        | _, _ => return [v]
  | v, some t =>
      match t.origin, isClassForm w v with
      | none, _ => return [v]
      | some o, false => return [o]
      | some o, true =>
          if w.isOf o "typing._SpecialForm" then refused
          else if t.name.isSome then return namedBases w o all rest
          else if o = variableDeclarer &&
              (all.contains (.cls (.standard "typing.Protocol")) ||
                rest.any fun b => isClassForm w b && b ≠ v) then return []
          else return [o]
  | v, none =>
      match special? w v "__mro_entries__" with
      | none => return [v]
      | some f => do
          let told ← Act.withWorld fun w => w.newTuple all
          let given ← askSpecial again v f [told]
          match (← Act.world).tupleItems? given with
          | some bs => return bs
          | none => refuseType "__mro_entries__ must return a tuple"

/-- What is said when the classes of some bases have nothing in common. -/
def kindConflict : String :=
  "metaclass conflict: the metaclass of a derived class must be a (non-strict) subclass of the " ++
    "metaclasses of all its bases"

/-- What a class is going to be made from: its bases as they were written, the bases they stand for,
    and the class of what is made. -/
structure ClassPlan where
  written : List Value
  bases : List Value
  kind : ClassId

/-- What a class with some bases is going to be made from. -/
def planClass (again : Caller) (written : List Value) : Act ClassPlan := do
  let bases ← written.zipIdx.flatMapM fun (v, i) =>
    basesFor again written v (written.drop (i + 1))
  let w ← Act.world
  let kind ← bases.foldlM (fun low b => do
    let k := w.typeOf b
    if (w.lineage low).contains k then return low
    else if (w.lineage k).contains low then return k
    else refuseType kindConflict) (match bases with
      | b :: _ => w.typeOf b
      | [] => .standard "type")
  return { written := written, bases := bases, kind := kind }

/-- Classes that nothing can be derived from. -/
def sealedClasses : List String := [
  "bool", "NoneType", "function", "builtin_function_or_method", "method", "generator", "range",
  "slice", "memoryview", "ellipsis", "NotImplementedType", "types.UnionType"]

/-- The names of the only attributes that the objects of a class have a place for, if its body says
    so. -/
def slotsOf (name : String) (body : List (String × Value)) : Act (Option (List String)) := do
  let w ← Act.world
  match Assoc.find? body "__slots__" with
  | none => return none
  | some v => do
      let items ← match w.opened v with
        | .text s => pure [.text s]
        | _ => Act.lift ((w.runThrough v).mapError .refused)
      let names ← items.mapM fun x => do
        match w.opened x with
        | .text n =>
            if Text.isIdentifier n then return privateName (some name) n
            else refuseType "__slots__ must be identifiers"
        | _ => refuseType ("__slots__ items must be strings, not '" ++ w.shownClass x ++ "'")
      let places := ["__dict__", "__weakref__"]
      for place in places do
        if 1 < names.count place then
          refuseType (place ++ " slot disallowed: " ++
            if place = "__dict__" then "we already got one"
            else "either we already got one, or __itemsize__ != 0")
      match names.find? fun n =>
          !("__qualname__" :: places).contains n && (Assoc.find? body n).isSome with
      | some n =>
          Act.fail (.refused (.value (Text.quote n ++ " in __slots__ conflicts with class variable")))
      | none => return some names

/-- A function under a name that is always read together with a class, wrapped accordingly. -/
def wrappedMethod (n : String) (v : Value) : Act Value := do
  let wrapping : Option String := match n with
    | "__new__" => some "staticmethod"
    | "__init_subclass__" | "__class_getitem__" => some "classmethod"
    | _ => none
  match wrapping, isFunction (← Act.world) v with
  | some key, true => Act.make (.items [v]) (.standard key)
  | _, _ => return v

/-- The attributes that a class gets from its body: what the body says of the class as such is left
    out, and a class that compares its objects does not make keys of them unless it says how. -/
def attributesOf (body : List (String × Value)) : Act (List (String × Value)) := do
  let w ← Act.world
  if let some v := Assoc.find? body "__classcell__" then
    refuseType ("__classcell__ must be a nonlocal cell, not " ++
      w.classText (w.typeOf v))
  let kept := body.filter fun (n, v) =>
    n ≠ "__qualname__" && !(n = "__module__" && (v matches .text _))
  let attributes ← kept.mapM fun (n, v) => do return (n, ← wrappedMethod n v)
  let names := attributes.map Prod.fst
  return attributes ++
    if names.contains "__eq__" && !names.contains "__hash__" then [("__hash__", .null)] else []

/-- The qualified name of a class. -/
def titleOf (name : String) (body : List (String × Value)) : Act String := do
  let w ← Act.world
  match Assoc.find? body "__qualname__" with
  | none => return name
  | some v =>
      match w.opened v with
      | .text s => return s
      | _ => refuseType ("type __qualname__ must be a str, not " ++ w.shownClass v)

/-- Tell the values in the body of a class their names, if they want to know them. -/
def tellNames (again : Caller) (c : ClassId) (name : String) (body : List (String × Value)) :
    Act Unit :=
  body.forM fun (n, v) => do
    let w ← Act.world
    match special? w v "__set_name__" with
    | none => pure ()
    | some f => do
        try
          let _ ← askSpecial again v f [.cls c, .text n]
        catch _ =>
          Act.fail (.thrown (.standard "RuntimeError") [.text ("Error calling __set_name__ on '" ++
            w.shownClass v ++ "' instance " ++ Text.quote n ++ " in " ++ Text.quote name)])

/-- The variables that a class is declared with: those in its bases, or those that a base lists. -/
def declaredVariables (w : World) (p : ClassPlan) : Act (List Value) := do
  if p.written.contains variableDeclarer then refuseType "Cannot inherit from plain Generic"
  let forms := p.written.filter fun v => (w.applied? v).isSome
  let used := w.typeVariables forms
  match p.written.filter fun v => formOrigin? w v = some variableDeclarer with
  | [] => return used
  | [v] => do
      let listed := w.typeVariables [v]
      let told (vs : List Value) : String := Text.join ", " (vs.map w.writtenText)
      match used.filter fun x => !listed.contains x with
      | [] => return listed
      | missing =>
          refuseType ("Some type variables (" ++ told missing ++ ") are not listed in Generic[" ++
            told listed ++ "]")
  | _ => refuseType "Cannot inherit from Generic[...] multiple times."

/-- Tell the classes above a new class of it. -/
def tellAncestors (again : Caller) (p : ClassPlan) (c : ClassId) : Act Unit := do
  let w ← Act.world
  let above := (w.lineage c).drop 1
  if above.contains (.standard "typing._Final") then
    refuseType "Cannot subclass special typing classes"
  match above.findSome? fun d => Assoc.find? (w.classInfo d).attributes "__init_subclass__" with
  | some v =>
      match wrapping? w v with
      | some (.ofClass f) =>
          let _ ← again f [.cls c]
      | some (.plain f) =>
          let _ ← again f []
      | _ =>
          let _ ← again v []
  | none => pure ()
  if above.contains (.standard "typing.Generic") then do
    let declared ← Act.withWorld fun w => w.newTuple []
    let found ← declaredVariables w p
    let declared ← if found.isEmpty then pure declared
      else Act.withWorld fun w => w.newTuple found
    Act.changeWorld fun w => w.setClassAttribute c "__parameters__" declared

/-- Tell the functions in the body of a class where they belong. -/
def tellFunctions (c : ClassId) (name : String) (body : List (String × Value)) : Act Unit :=
  Act.changeWorld fun w => body.foldl (fun w (_, v) =>
    match v with
    | .object a _ =>
        match w.heap[a]? with
        | some (.function fn) =>
            if fn.owner = none && Text.beginsWith (name ++ ".") fn.title then
              { w with heap := w.heap.write a (.function { fn with owner := some c }) }
            else w
        | _ => w
    | _ => w) w

/-- Make a class from its body. -/
def makeClass (again : Caller) (p : ClassPlan) (space name : String)
    (body : List (String × Value)) : Act Value := do
  let w ← Act.world
  let bases := p.bases.filterMap fun
    | .cls c => some c
    | _ => none
  let isSealed : ClassId → Bool
    | .standard key => sealedClasses.contains key
    | .defined _ => false
  match bases.find? isSealed with
  | some c => Act.fail (.script (.notABase (w.classInfo c).shown))
  | none => pure ()
  let plain := World.lastPart name
  let slots ← slotsOf plain body
  let title ← titleOf name body
  let space := match Assoc.find? body "__module__" with
    | some (.text s) => some s
    | some _ => none
    | none => some space
  let origins ← if p.bases = p.written then pure []
    else do
      let told ← Act.withWorld fun w => w.newTuple p.written
      pure [("__orig_bases__", told)]
  let attributes ← attributesOf (body ++ origins)
  match bases.find? fun c => 1 < bases.count c with
  | some c => Act.fail (.script (.repeatedBase (w.plainName c)))
  | none => pure ()
  let bases := if bases.isEmpty then [ClassId.object] else bases
  match (← Act.world).defineAs? space title plain bases attributes slots with
  | none => Act.fail (.script (.basesConflict (bases.map w.plainName)))
  | some (c, w) => do
      Act.changeWorld fun _ => w
      tellFunctions c name body
      tellNames again c plain attributes
      tellAncestors again p c
      return .cls c

/-- Make what a class definition makes: a class, unless a base that is no class makes something else of
    the body. -/
def define (again : Caller) (p : ClassPlan) (space name : String) (body : List (String × Value)) :
    Act Value := do
  let w ← Act.world
  if w.isBelow p.kind "type" then makeClass again p space name body
  else do
    let bases ← Act.withWorld fun w => w.newTuple p.bases
    let names ← Act.make (.entries (body.map fun (n, v) => (.text n, v))) (.standard "dict")
    again (.cls p.kind) [.text (World.lastPart name), bases, names]

end FragmentWeaver.Script
