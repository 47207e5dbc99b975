import FragmentWeaver.Script.Object

/-!
# Setting and dropping attributes

An attribute of an object is kept by the object, if its class leaves a place for it. Modules keep their
names, and classes that were defined keep theirs; what a class tells of itself takes values of a
certain kind only. A class may also decide itself what becomes of the attributes of its objects.
-/

namespace FragmentWeaver.Script

/-- Do the objects of a class have a place for an attribute? -/
def hasPlaceFor (w : World) (c : ClassId) (n : String) : Bool :=
  w.isOpenFor c "__dict__" || w.isSlot c n

/-- Refuse to change an attribute. -/
def refuseChange {α : Type} (words : String) : Act α :=
  Act.fail (.thrown (.standard "AttributeError") [.text words])

/-- Refuse to give a value to an attribute, or to drop it, that an object has by its class only. -/
def refuseListed {α : Type} (v : Value) (n : String) : Act α := do
  let w ← Act.world
  let shown := w.shownClass v
  match w.classEntry? (w.typeOf v) n with
  | some (d, .field) =>
      refuseChange ("attribute '" ++ n ++ "' of '" ++ (w.classInfo d).shown ++
        "' objects is not writable")
  | some (_, .slot) => refuseChange "readonly attribute"
  | some _ => refuseChange ("'" ++ shown ++ "' object attribute '" ++ n ++ "' is read-only")
  | none => Act.fail (.script (.objectAttribute shown n))

/-- What a class tells of itself that cannot be set. -/
def fixedParts : List String := [
  "__mro__", "__base__", "__basicsize__", "__itemsize__", "__flags__", "__dictoffset__",
  "__weakrefoffset__"]

/-- Refuse a class for a value, and every other value as well. -/
def refuseClass {α : Type} (v : Value) : Act α := do
  match v with
  | .cls _ =>
      refuseType "__class__ assignment only supported for mutable types or ModuleType subclasses"
  | v =>
      refuseType ("__class__ must be set to a class, not '" ++ (← Act.world).shownClass v ++
        "' object")

/-- Set what a class that was defined tells of itself, or one of its attributes. -/
def setOfClass (c : ClassId) (n : String) (x : Value) : Act Unit := do
  let w ← Act.world
  let shown := (w.classInfo c).shown
  let isName := n = "__name__" || n = "__qualname__"
  match n, w.opened x with
  | "__name__", .text s =>
      if s.toList.contains '\x00' then
        Act.fail (.refused (.value "type name must not contain null characters"))
      else Act.changeWorld fun w => w.changeClass c fun i => { i with shown := s }
  | "__qualname__", .text s =>
      Act.changeWorld fun w => w.changeClass c fun i => { i with name := s }
  | "__module__", .text s =>
      Act.changeWorld fun w =>
        (w.dropClassAttribute c n).changeClass c fun i => { i with space := some s }
  | "__class__", _ => refuseClass x
  | "__bases__", _ =>
      match w.tupleItems? x with
      | some [] => refuseType ("can only assign non-empty tuple to " ++ shown ++ ".__bases__, not ()")
      | some _ => Act.fail (.script (.unsupported n))
      | none =>
          refuseType ("can only assign tuple to " ++ shown ++ ".__bases__, not " ++ w.shownClass x)
  | n, _ =>
      if isName then
        refuseType ("can only assign string to " ++ shown ++ "." ++ n ++ ", not '" ++
          w.shownClass x ++ "'")
      else if fixedParts.contains n then refuseChange "readonly attribute"
      else if n = "__dict__" || n = "__text_signature__" then
        refuseChange ("attribute '" ++ n ++ "' of 'type' objects is not writable")
      else Act.changeWorld fun w => w.setClassAttribute c n x

/-- Set an attribute of an object that has attributes of its own. -/
def setOfInstance (v : Value) (a : Address) (attributes : List (String × Value)) (n : String)
    (x : Value) : Act Unit := do
  let w ← Act.world
  let c := w.typeOf v
  let write (attributes : List (String × Value)) : Act Unit :=
    Act.changeWorld fun w => { w with heap := w.heap.write a (.instance attributes) }
  let isPlain := (inClass? w v n).isNone
  match isPlain, n with
  | true, "__class__" => refuseClass x
  | true, "__dict__" =>
      if !w.isOpenFor c n then Act.fail (.script (.objectAttribute (w.shownClass v) n))
      else
        match w.content? x with
        | some (.entries kvs) =>
            write (kvs.filterMap fun
              | (.text k, x) => some (k, x)
              | _ => none)
        | _ =>
            refuseType ("__dict__ must be set to a dictionary, not a '" ++ w.shownClass x ++ "'")
  | true, "__weakref__" =>
      if w.isOpenFor c n then
        refuseChange ("attribute '__weakref__' of '" ++ w.shownClass v ++
          "' objects is not writable")
      else Act.fail (.script (.objectAttribute (w.shownClass v) n))
  | _, n =>
      if hasPlaceFor w c n then write (Assoc.put attributes n x)
      else if (inClass? w v n).isSome then
        refuseChange ("'" ++ w.shownClass v ++ "' object attribute '" ++ n ++ "' is read-only")
      else refuseListed v n

/-- Set an attribute. -/
def setAttribute (v : Value) (n : String) (x : Value) : Act Unit := do
  let w ← Act.world
  match v with
  | .module m =>
      match n with
      | "__dict__" => refuseChange "readonly attribute"
      | "__class__" => refuseClass x
      | n => Act.setModuleAttribute m n x
  | .cls (.defined serial) => setOfClass (.defined serial) n x
  | .cls (.standard key) =>
      Act.fail (.script (.fixedClass n (w.classInfo (.standard key)).shown))
  | .object a c =>
      match (inClass? w v n).bind (wrapping? w), w.heap[a]?, c with
      | some (.computed _), _, _ =>
          refuseChange ("property '" ++ n ++ "' of '" ++ w.shownClass v ++
            "' object has no setter")
      | _, some (.instance attributes), .defined _ => setOfInstance v a attributes n x
      | _, _, _ => if n = "__class__" then refuseClass x else refuseListed v n
  | v => if n = "__class__" then refuseClass x else refuseListed v n

/-- Drop an attribute that an object, a class or a module holds itself. -/
def dropAttribute (v : Value) (n : String) : Act Unit := do
  let w ← Act.world
  let missing : Act Unit := Act.fail (.script (.objectAttribute (w.shownClass v) n))
  match v with
  | .module m =>
      if ((w.modules[m]?).bind (·.attribute? n)).isSome then
        Act.dropModuleAttribute m n
      else missing
  | .cls (.standard key) =>
      Act.fail (.script (.fixedClass n (w.classInfo (.standard key)).shown))
  | .cls c =>
      if (Assoc.find? (w.classInfo c).attributes n).isSome then
        Act.changeWorld fun w => w.dropClassAttribute c n
      else Act.fail (.script (.classAttribute (w.classInfo c).shown n))
  | v =>
      match v, w.content? v with
      | .object a (.defined _), some (.instance attributes) =>
          if (Assoc.find? attributes n).isSome then
            Act.changeWorld fun w =>
              { w with heap := w.heap.write a (.instance (Assoc.erase attributes n)) }
          else if w.isSlot (w.typeOf v) n then Act.fail (.script (.noSuchName n))
          else missing
      | _, _ => missing

/-- The functions of a property: those that read, set and drop its value. -/
def propertyPart? (w : World) (x : Value) (place : Nat) : Option Value :=
  match x, w.content? x with
  | .object _ c, some (.items fs) =>
      if w.isBelow c "property" then fs[place]?.filter (· ≠ .null) else none
  | _, _ => none

/-- Set an attribute. The class of an object may have a method for that, or a guard under the name. -/
def setHooked (again : Caller) (v : Value) (n : String) (x : Value) : Act Unit := do
  let w ← Act.world
  match special? w v "__setattr__", (inClass? w v n).filter fun _ => v matches .object _ _ with
  | some f, _ =>
      let _ ← askSpecial again v f [.text n, x]
  | none, some d =>
      match propertyPart? w d 1, special? w d "__set__" with
      | some f, _ =>
          let _ ← again f [v, x]
      | none, some f =>
          let _ ← askSpecial again d f [v, x]
      | none, none =>
          if isGuard w d then Act.fail (.script (.noSuchName "__set__")) else setAttribute v n x
  | none, none => setAttribute v n x

/-- Drop an attribute. The class of an object may have a method for that, or a guard under the name. -/
def dropHooked (again : Caller) (v : Value) (n : String) : Act Unit := do
  let w ← Act.world
  match special? w v "__delattr__", (inClass? w v n).filter fun _ => v matches .object _ _ with
  | some f, _ =>
      let _ ← askSpecial again v f [.text n]
  | none, some d =>
      match propertyPart? w d 2, special? w d "__delete__", wrapping? w d with
      | some f, _, _ =>
          let _ ← again f [v]
      | none, some f, _ =>
          let _ ← askSpecial again d f [v]
      | none, none, some (.computed _) =>
          refuseChange ("property '" ++ n ++ "' of '" ++ w.shownClass v ++ "' object has no deleter")
      | none, none, _ =>
          if isGuard w d then Act.fail (.script (.noSuchName "__delete__")) else dropAttribute v n
  | none, none => dropAttribute v n

end FragmentWeaver.Script
