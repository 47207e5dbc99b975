import FragmentWeaver.Binding.Check
import FragmentWeaver.Script.Arithmetic
import FragmentWeaver.Script.Frame
import FragmentWeaver.Script.Code
import FragmentWeaver.Script.Listed
import FragmentWeaver.Script.TypeArguments
import FragmentWeaver.Value.Instance

/-!
# Objects of the fragment language

Reading and setting attributes and items. A function that is found in the class of an object is read
together with the object.
-/

namespace FragmentWeaver.Script

/-- Is the value a function together with the object that it was read from? -/
def isMethod (w : World) (v : Value) : Bool := w.typeOf v = .standard "method"

/-- Is the value a function, so that it is bound to the object it is read from? -/
def isFunction (w : World) : Value → Bool
  | .native (.other _ _ _) => false
  | .native _ => true
  | .object a _ =>
      match w.heap[a]? with
      | some (.function _) => true
      | _ => false
  | _ => false

/-- How a function in a class was wrapped: what is read from the class is the function itself, the
    function bound to the class, or what the function makes of the object. -/
inductive Wrapping where
  | plain (f : Value)
  | ofClass (f : Value)
  | computed (f : Value)

/-- The wrapping of a value, if it is a wrapped function. -/
def wrapping? (w : World) (v : Value) : Option Wrapping :=
  match v, w.content? v with
  | .object _ c, some (.items (f :: _)) =>
      if w.isBelow c "staticmethod" then some (.plain f)
      else if w.isBelow c "classmethod" then some (.ofClass f)
      else if w.isBelow c "property" && f ≠ .null then some (.computed f)
      else none
  | _, _ => none

/-- A function together with the object it was read from, or with the class of the object; anything
    else as it is. -/
def bindTo (receiver v : Value) : Act Value := do
  let w ← Act.world
  match wrapping? w v with
  | some (.plain f) => return f
  | some (.ofClass f) => Act.make (.bound (.cls (w.typeOf receiver)) f) (.standard "method")
  | _ => if isFunction w v then Act.make (.bound receiver v) (.standard "method") else return v

/-- Calls a value. -/
abbrev Caller := Value → List Value → Act Value

/-- The method that the class of an object was given under a name that an operation of the language asks
    for. -/
def special? (w : World) (v : Value) (name : String) : Option Value :=
  match v with
  | .object _ (.defined serial) => w.classAttribute? (.defined serial) name
  | _ => none

/-- Call such a method. -/
def askSpecial (again : Caller) (v f : Value) (args : List Value) : Act Value := do
  again (← bindTo v f) args

/-- What a function knows of itself. -/
def functionKnown? (w : World) (fn : Function) (n : String) : Option (Act Value) :=
  match n with
  | "__name__" => some (pure (.text fn.code.name))
  | "__qualname__" => some (pure (.text fn.title))
  | "__module__" => some (pure ((w.moduleAttribute? fn.globals "__name__").getD .null))
  | "__doc__" =>
      match fn.code.body.head? with
      | some (.expr (.literal (.text s))) => some (pure (.text s))
      | _ => some (pure .null)
  | "__code__" => some (codeOf fn (boundByAll fn.code.body))
  | "__closure__" | "__kwdefaults__" => some (pure .null)
  | "__defaults__" =>
      some (if fn.defaults.isEmpty then pure .null
        else Act.withWorld fun w => w.newTuple (fn.defaults.map Prod.snd))
  | "__annotations__" =>
      some (Act.make (.entries (fn.notes.map fun (p, v) => (.text p, v))) (.standard "dict"))
  | "__dict__" => some (Act.make (.entries []) (.standard "dict"))
  | "__globals__" => some (namesOf fn.globals)
  | "__builtins__" => some builtinTable
  | _ => none

/-- What a method or a function knows of itself. -/
def calledKnown? (w : World) (v : Value) (n : String) : Option (Act Value) :=
  match w.content? v with
  | some (.function fn) => functionKnown? w fn n
  | some (.bound receiver f) =>
      match n, f with
      | "__self__", _ => some (pure receiver)
      | "__func__", f => if isMethod w v then some (pure f) else none
      | n, .native f =>
          if isMethod w v then none else (w.tiedKnown? (w.typeOf v) receiver f n).map (kept n)
      | _, _ => none
  | _ => none

/-- Does an object hold nothing but attributes, so that it has the methods that every object has and
    no others of that name? -/
def isBlank (w : World) (v : Value) : Bool :=
  match w.content? v with
  | some (.instance _) => true
  | _ => false

/-- A method that every object has, together with the object, unless its class has another one. What makes
    objects belongs to the class above all and not to the object. -/
def universal? (w : World) (v : Value) (n : String) : Option (Act Value) :=
  let isOwn := n ≠ "__new__" && isBlank w v && w.lister? (w.typeOf v) n = some .object
  match isOwn, Assoc.find? Standard.universalMethods n with
  | true, some operation =>
      some (Act.make (.bound v (.native (.universal n)))
        (if operation then .standard "method-wrapper" else Standard.builtinFunction))
  | _, _ => none

/-- What every object knows of itself beside its methods: its class, and its own attributes if it has
    a place for them. -/
def known? (w : World) (v : Value) (n : String) : Option (Act Value) :=
  let c := w.typeOf v
  match n, w.content? v with
  | "__class__", _ => some (pure (.cls c))
  | "__doc__", some (.instance _) => some (textOfClass w c)
  | "__dict__", some (.instance attributes) =>
      if w.isOpenFor c n then
        some (Act.make (.entries (attributes.map fun (k, x) => (.text k, x))) (.standard "dict"))
      else none
  | _, _ => none

/-- What is said when a module has no such name. -/
def missingInModule (r : ModuleRecord) (n : String) : ScriptFault :=
  let own? := match r.attribute? "__name__" with
    | some (.text s) => some s
    | some _ => none
    | none => some r.name
  match own? with
  | none => .moduleAttribute none n
  | some own =>
      if r.starting then .startingAttribute own n
      else if r.underway.contains n then .startingModule n own
      else .moduleAttribute (some own) n

/-- The attribute of an object that is found in its class. -/
def inClass? (w : World) (v : Value) (n : String) : Option Value :=
  w.classAttribute? (w.typeOf v) n

/-- What is found of a name, or a fault. -/
def orFail (fault : ScriptFault) : Option Value → Act Value
  | some v => return v
  | none => Act.fail (.script fault)

/-- The class whose ancestors are seen from above, and whether the class itself is looked at and none of
    its objects. -/
def seenFrom (w : World) (owner : ClassId) : Value → ClassId × Bool
  | .cls d => if (w.lineage d).contains owner then (d, true) else (w.typeOf (.cls d), false)
  | v => (w.typeOf v, false)

/-- What a view from above knows of itself. -/
def aboveKnown? (w : World) (owner : ClassId) (receiver : Value) (n : String) : Option Value :=
  match n with
  | "__thisclass__" => some (.cls owner)
  | "__self__" => some receiver
  | "__self_class__" => some (.cls (seenFrom w owner receiver).1)
  | "__class__" => some (.cls (.standard "super"))
  | _ => none

/-- Read an attribute of an object, or of a class, that was seen from above. -/
def readAbove (owner : ClassId) (receiver : Value) (n : String) : Act Value := do
  let w ← Act.world
  let (start, isClass) := seenFrom w owner receiver
  let rest := (w.lineage start).dropWhile (· ≠ owner) |>.drop 1
  let own := rest.findSome? fun d => Assoc.find? (w.classInfo d).attributes n
  let missing : ScriptFault := .objectAttribute "super" n
  match own, isClass with
  | some x, false => bindTo receiver x
  | some x, true =>
      match wrapping? w x with
      | some (.plain f) => return f
      | some (.ofClass f) => Act.make (.bound receiver f) (.standard "method")
      | _ => return x
  | none, false =>
      match universal? w receiver n with
      | some r => r
      | none => do
          let listed ← match World.firstListing? n rest with
            | some (d, e) => listedOfObject? receiver n d e
            | none => pure none
          orFail missing ((aboveKnown? w owner receiver n).or listed)
  | none, true => do
      let listed ← match World.firstListing? n rest with
        | some (d, e) => listedOfClass? start n d e
        | none => pure none
      orFail missing ((aboveKnown? w owner receiver n).or listed)

/-- What every class tells of itself, whatever its body says. -/
def toldByClass : List String := ["__mro__", "__bases__", "__base__", "__dict__"]

/-- Read an attribute of a class. -/
def readOfClass (c : ClassId) (n : String) : Act Value := do
  let w ← Act.world
  let info := w.classInfo c
  match n, w.classAttribute? c n with
  | "__name__", _ => return .text (w.plainName c)
  | "__class__", _ => return .cls info.kind
  | "__doc__", _ => textOfClass w c
  | "__text_signature__", _ => signatureOfClass c
  | n, some x =>
      if toldByClass.contains n then orFail (missingInClass w c n) (← readListedOfClass? c n)
      else
        match wrapping? w x with
        | some (.plain f) => return f
        | some (.ofClass f) => Act.make (.bound (.cls c) f) (.standard "method")
        | _ => return x
  | "__qualname__", none => return .text info.name
  | "__module__", none =>
      return match info.space with
        | some m => .text m
        | none => .null
  | n, none =>
      match (w.lineage c).find? (w.namesSlot n), toldByClass.contains n with
      | some d, false => return .native (.other n (.standard "member_descriptor") (.cls d))
      | _, _ =>
        match n, c with
        | "__annotations__", .defined _ => do
            let table ← Act.make (.entries []) (.standard "dict")
            Act.changeWorld fun w => w.setClassAttribute c n table
            return table
        | n, c => do orFail (missingInClass w c n) (← readListedOfClass? c n)

/-- Read an attribute of a value by what the value and its class have. -/
def readOwn (v : Value) (n : String) : Act Value := do
  let w ← Act.world
  let missing : ScriptFault := .objectAttribute (w.shownClass v) n
  match v with
  | .module m =>
      match ← readModuleName? m n, n with
      | some x, _ => return x
      | none, "__class__" => return .cls (.standard "module")
      | none, n => do
          orFail (missingInModule (w.modules.getD m { name := "" }) n) (← readListed? v n)
  | .cls c => readOfClass c n
  | .object a _ =>
      match w.heap[a]? with
      | some (.above owner receiver) => readAbove owner receiver n
      | content =>
          let own := match content with
            | some (.instance attributes) => Assoc.find? attributes n
            | _ => none
          match own, inClass? w v n, n with
          | some x, _, _ => return x
          | none, some x, _ => bindTo v x
          | none, none, "value" => Act.lift (w.held v)
          | none, none, n =>
              match (calledKnown? w v n).or ((known? w v n).or (universal? w v n)) with
              | some r => r
              | none => do orFail missing (← readListed? v n)
  | v =>
      match inClass? w v n, n with
      | some x, _ => bindTo v x
      | none, "__class__" => return .cls (w.typeOf v)
      | none, n => do orFail missing (← readListed? v n)

/-- The attributes that a class with type arguments has by itself; it has the others by its class. -/
def ownOfGeneric : List String := [
  "__class__", "__origin__", "__args__", "__unpacked__", "__parameters__",
  "__typing_unpacked_tuple_args__", "__mro_entries__", "__reduce_ex__", "__reduce__", "__copy__",
  "__deepcopy__"]

/-- What a form of annotations with or without arguments stands for, if it stands for something. -/
def standsFor? (w : World) (v : Value) : Option Value :=
  match v, w.applied? v with
  | _, some t => t.origin
  | .native (.other n _ _), none =>
      if w.isOf v "typing._BaseGenericAlias" then
        (Standard.classForm? n).map fun f => .cls (.standard f.origin)
      else none
  | _, none => none

/-- The name of a form of annotations. -/
def formName (w : World) (v : Value) : String :=
  match v, w.applied? v with
  | .native (.other n _ _), _ => n
  | v, some t =>
      if w.isOf v "typing._AnnotatedAlias" then "Annotated"
      else t.name.getD (match t.origin with
        | some (.cls c) => w.plainName c
        | some (.native (.other n _ _)) => n
        | _ => "")
  | _, none => ""

/-- The names that a form of annotations with arguments keeps. -/
def formNames : List String := [
  "_inst", "_name", "__origin__", "__slots__", "__args__", "__parameters__", "_paramspec_tvars",
  "__module__", "__metadata__"]

/-- What a form of annotations with arguments keeps, by names. -/
def formTable (v : Value) : Act Value := do
  let entries ← formNames.filterMapM fun n => do
    return (← partOf? v n).map fun x => (Value.text n, x)
  Act.make (.entries entries) (.standard "dict")

/-- Does a name start and end with two underscores? -/
def isReserved (n : String) : Bool :=
  4 < n.length && Text.beginsWith "__" n && "__".toList.isSuffixOf n.toList

/-- The function that a method was made from. -/
def methodSource? (w : World) (v : Value) : Option Value :=
  match w.content? v with
  | some (.bound _ f) => if isMethod w v then some f else none
  | _ => none

/-- Is the value a form of annotations? -/
def isForm (w : World) (v : Value) : Bool :=
  w.isOf v "typing._SpecialForm" || w.isOf v "typing._BaseGenericAlias"

/-- Read an attribute of something that hands no question on. -/
def readLast (v : Value) (n : String) : Act Value := do
  let w ← Act.world
  if isForm w v then do
    try readOwn v n
    catch f =>
      if !f.isMissingAttribute w then Act.fail f
      else if n = "__name__" || n = "__qualname__" then return .text (formName w v)
      else Act.fail (.script (.noSuchName n))
  else readOwn v n

/-- Read an attribute, where types may stand for others to a given depth. A class with type arguments
    hands most questions on to its class; a form of annotations and a method hand on those that they
    have no answer to. -/
def readThrough : Nat → Value → String → Act Value
  | 0, v, n => readLast v n
  | depth + 1, v, n => do
      let w ← Act.world
      match (standsFor? w v).or (methodSource? w v) with
      | none => readLast v n
      | some o =>
          if w.isOf v "types.GenericAlias" then
            if ownOfGeneric.contains n then readOwn v n else readThrough depth o n
          else if isForm w v && n = "__dict__" && (w.applied? v).isSome then formTable v
          else if isForm w v then do
            try readOwn v n
            catch f =>
              if !f.isMissingAttribute w then Act.fail f
              else if n = "__name__" || n = "__qualname__" then return .text (formName w v)
              else if isReserved n then Act.fail (.script (.noSuchName n))
              else readThrough depth o n
          else if isMethod w v then do
            try readOwn v n
            catch f => if f.isMissingAttribute w then readThrough depth o n else Act.fail f
          else readOwn v n

/-- Read an attribute. -/
def readAttribute (v : Value) (n : String) : Act Value := do
  readThrough ((← Act.world).heap.size + 1) v n

/-- What a module or the class of an object says should be asked for attributes that are not there. What
    the surroundings give in this way is listed with their other names. -/
def attributeHook? (w : World) (v : Value) : Option Value :=
  match v with
  | .module m =>
      match w.moduleAttribute? m "__getattr__" with
      | some (.native (.other _ _ _)) => none
      | hook? => hook?
  | .object _ c => w.classAttribute? c "__getattr__"
  | _ => none

/-- Does an object hold an attribute itself? -/
def holds (w : World) (v : Value) (n : String) : Bool :=
  match w.content? v with
  | some (.instance attributes) => (Assoc.find? attributes n).isSome
  | _ => false

/-- Does an object in a class decide what becomes of an attribute that is set or dropped? -/
def isGuard (w : World) (x : Value) : Bool :=
  (special? w x "__set__").isSome || (special? w x "__delete__").isSome

/-- Read an attribute. What the class of an object has under its name may make the value: a property, or
    an object with a method for it. -/
def readFound (again : Caller) (v : Value) (n : String) : Act Value := do
  let w ← Act.world
  match v with
  | .object _ c =>
      match special? w v "__getattribute__", inClass? w v n with
      | some f, _ => askSpecial again v f [.text n]
      | none, some x =>
          match wrapping? w x, special? w x "__get__" with
          | some (.computed f), _ => again f [v]
          | _, some g =>
              if holds w v n && !isGuard w x then readAttribute v n
              else askSpecial again x g [v, .cls c]
          | _, none => readAttribute v n
      | none, none => readAttribute v n
  | .cls c =>
      match w.classAttribute? c n with
      | some x =>
          match special? w x "__get__" with
          | some g => askSpecial again x g [.null, v]
          | none => readAttribute v n
      | none => readAttribute v n
  | v => readAttribute v n

/-- Read an attribute; one that is not there may be given by a hook. -/
def readHooked (again : Caller) (v : Value) (n : String) : Act Value := do
  try readFound again v n
  catch f => do
    let w ← Act.world
    match f.isMissingAttribute w, attributeHook? w v with
    | true, some hook =>
        if isFunction w hook && !(v matches .module _) then again hook [v, .text n]
        else again hook [.text n]
    | _, _ => Act.fail f

end FragmentWeaver.Script
