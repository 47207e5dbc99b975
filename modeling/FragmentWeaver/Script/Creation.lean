import FragmentWeaver.Binding.Call
import FragmentWeaver.Script.Special

/-!
# Calls of classes and of the surroundings

An instance of a class is made by what the class has for that, and is then set up by what its own class
has for that; a class that was defined may have methods for both. The functions of the surroundings that
a unit can call are carried out here as well.
-/

namespace FragmentWeaver.Script

/-- Make a module object from a name. -/
def makeModule (name : Value) : Act Value := do
  let w ← Act.world
  match w.opened name with
  | .text n => do
      return .module (← Act.newModule n)
  | _ =>
      Act.fail (.refused (.type ("module() argument 1 must be str, not " ++
        if name = .null then "None" else w.shownClass name)))

/-- A new instance of a class; a bare one is not set up. -/
def newInstance (bare : Bool) (c : ClassId) (args : List Value) : Act Value := do
  let (v, w) ← Act.lift ((← Act.world).newInstance bare c args)
  Act.changeWorld fun _ => w
  return v

/-- What makes the objects of a class: the first standard class above it that keeps more in them than
    attributes. -/
def makerOf? (w : World) (c : ClassId) : Option ClassId :=
  (w.lineage c).find? fun
    | .standard key =>
        World.plainMakers.contains key || World.containerMakers.contains key ||
          World.exactMakers.contains key || key = "BaseException" || key = "type"
    | .defined _ => false

/-- A bare instance, as one of the classes above its class makes it. -/
def makeBare (maker : ClassId) (args : List Value) : Act Value := do
  let w ← Act.world
  let shown (c : ClassId) : String := (w.classInfo c).shown
  let title := shown maker ++ ".__new__"
  match args with
  | [] => refuseType (title ++ "(): not enough arguments")
  | .cls c :: args =>
      if !(w.lineage c).contains maker then
        refuseType (title ++ "(" ++ shown c ++ "): " ++ shown c ++ " is not a subtype of " ++
          shown maker)
      else
        match makerOf? w c, decide (maker = .object) with
        | some d, true =>
            refuseType (title ++ "(" ++ shown c ++ ") is not safe, use " ++ shown d ++ ".__new__()")
        | some _, false => newInstance true c args
        | none, _ =>
            let isOwn (n : String) : Bool := (w.classAttribute? c n).isSome
            if maker = .object && !args.isEmpty && isOwn "__new__" then
              refuseType (title ++
                "() takes exactly one argument (the type to instantiate)")
            else newInstance true c (if maker = .object && isOwn "__init__" then [] else args)
  | x :: _ => refuseType (title ++ "(X): X is not a type object (" ++ w.shownClass x ++ ")")

/-- Set an instance of a standard class up again with other arguments: it takes over what a new one
    holds. -/
def setUp (again : Caller) (x : Value) (args : List Value) : Act Value := do
  match x, makerOf? (← Act.world) ((← Act.world).typeOf x) with
  | .object a _, some maker => do
      let other ← newInstance false maker (← askedArguments again maker args)
      Act.changeWorld fun w =>
        match w.content? other with
        | some content => { w with heap := w.heap.write a content }
        | none => w
      return .null
  | _, _ => Act.fail (.script (.unsupported "__init__"))

/-- Call a function that a class lists. -/
def callListed (again : Caller) (name : String) (args : List Value) : Act Value := do
  let w ← Act.world
  match name, args with
  | "__new__", .cls maker :: args => makeBare maker args
  | name, x :: args =>
      let isKnown := (Assoc.find? Standard.universalMethods name).isSome
      if isKnown && isBlank w x then callUniversal name x args
      else if name = "__init__" then setUp again x args
      else Act.fail (.script (.unsupported name))
  | name, [] => Act.fail (.script (.unsupported name))

/-- Call a function of the surroundings; `again` calls a value. -/
def callNative (again : Caller) (fn : Native) (args : List Value) :
    Act Value := do
  let arity (title : String) (names : List String) : Act Value :=
    if names.length < args.length then
      Act.fail (.script (.tooMany title names.length names.length args.length))
    else Act.fail (.script (.missingArguments title (names.drop args.length)))
  match fn, args with
  | .keep, [x] => do
      if let .cls c := x then
        Act.changeWorld fun w => w.setClassAttribute c "__final__" (.truth true)
      return x
  | .keep, _ => arity "final" ["f"]
  | .steal, [unit, name] => do
      Act.steal (← Act.lift ((← Act.world).unitName unit)) name
  | .steal, _ => arity "steal" ["unit", "name"]
  | .put, [unit, name, value] => do
      if name ≠ .null then
        Act.put (← Act.lift ((← Act.world).unitName unit)) name value
      return .null
  | .put, _ => arity "put" ["unit", "name", "value"]
  | .cast, [.cls c, v] => do Act.lift ((← Act.world).cast c v)
  | .cast, [_, _] => Act.fail (.script (.unsupported "a check needs a class"))
  | .cast, _ => arity "cast" ["cls", "value"]
  | .unbox, [.cls c, v] => do Act.lift ((← Act.world).unbox c v)
  | .unbox, [_, _] => Act.fail (.script (.unsupported "a check needs a class"))
  | .unbox, _ => arity "unbox" ["wrapper", "value"]
  | .abstractEntry, [_] => Act.fail (.thrown (.standard "NotImplementedError") [])
  | .abstractEntry, _ => arity "Invocable.__call__" ["self"]
  | .enter, [x] => again x []
  | .enter, _ => arity "Invocable.call" ["self"]
  | .universal name, receiver :: args => callUniversal name receiver args
  | .universal name, [] =>
      Act.fail (.refused (.type ("unbound method object." ++ name ++ "() needs an argument")))
  | .other name _ _, args => callListed again name args
  | .member name _, _ => Act.fail (.script (.unsupported name))

/-- Set an instance up by what its class has for that. -/
def completed (again : Caller) (x : Value) (args : List Value) : Act Value := do
  match (← Act.world).classAttribute? ((← Act.world).typeOf x) "__init__" with
  | none => return x
  | some f => do
      let r ← askSpecial again x f args
      if r = .null then return x
      else Act.fail (.script (.initResult ((← Act.world).shownClass r)))

/-- Make an instance of a class. -/
def instantiate (again : Caller) (c : ClassId) (args : List Value) : Act Value := do
  let w ← Act.world
  match c, args with
  | .standard "type", [x] => return .cls (w.typeOf x)
  | .standard "module", name :: _ => makeModule name
  | .standard "typing.ForwardRef", [x] =>
      if w.opened x matches .text _ then makeReference x
      else refuseType ("Forward reference must be a string -- got " ++ w.writtenText x)
  | .standard "super", [.cls d, x] =>
      if (seenFrom w d x).1 ≠ d && !(w.lineage (seenFrom w d x).1).contains d then
        newInstance false c args
      else Act.make (.above d x) c
  | c, args =>
      match w.classAttribute? c "__new__", w.classAttribute? c "__init__" with
      | some _, _ => do
          let x ← again (← readFound again (.cls c) "__new__") (.cls c :: args)
          let w ← Act.world
          if (w.lineage (w.typeOf x)).contains c then completed again x args else return x
      | none, some _ => do
          completed again (← newInstance true c (← askedArguments again c args)) args
      | none, none => do newInstance false c (← askedArguments again c args)

/-- Call a type with arguments, or a form of annotations that stands for a class. -/
def callType (again : Caller) (v : Value) (name : Option String) (origin : Option Value)
    (direct : Bool) (args : List Value) : Act Value := do
  let w ← Act.world
  match origin with
  | none => Act.fail (.script (.notCallable (w.shownClass v)))
  | some o =>
      if w.isOf o "typing._SpecialForm" then refuseType ("Cannot instantiate " ++ w.writtenText o)
      else if !direct then
        refuseType ("Type " ++ name.getD "None" ++ " cannot be instantiated; use " ++
          (match o with
            | .cls c => w.plainName c
            | o => w.writtenText o) ++ "() instead")
      else do
        let x ← again o args
        try setHooked again x "__orig_class__" v
        catch f => if f.isOrdinary (← Act.world) then pure () else Act.fail f
        return x

end FragmentWeaver.Script
