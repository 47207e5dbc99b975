import FragmentWeaver.Script.ArrayType
import FragmentWeaver.Script.Item
import FragmentWeaver.Script.Operation
import FragmentWeaver.Script.Universal

/-!
# Methods that operations ask for

A class can say what the operations of the language make of its objects: it has a method under the name
of the operation. A method of the right side of an operator is asked when the left side leaves the
outcome open, and before it when its class stands below that of the left side. Objects that stand for
a whole number, that can be run through, or that count as true are asked for that as well.
-/

namespace FragmentWeaver.Script

/-- The names of the methods for an operator, of its left side and of its right side. -/
def methodNames : Operator → String × String
  | .add => ("__add__", "__radd__")
  | .sub => ("__sub__", "__rsub__")
  | .mul => ("__mul__", "__rmul__")
  | .div => ("__truediv__", "__rtruediv__")
  | .union => ("__or__", "__ror__")

/-- What the method of an object makes of another value, unless there is none or it leaves that
    open. -/
def asked? (again : Caller) (v : Value) (name : String) (other : Value) : Act (Option Value) := do
  match special? (← Act.world) v name with
  | none => return none
  | some f => do
      let r ← askSpecial again v f [other]
      return if r = undecided then none else some r

/-- An object that stands for a whole number as that number, anything else as it is. -/
def asIndex (again : Caller) (v : Value) : Act Value := do
  let w ← Act.world
  match (w.opened v).whole?, special? w v "__index__" with
  | none, some f => do
      let r ← askSpecial again v f []
      let w ← Act.world
      match (w.opened r).whole? with
      | some i => return .whole i
      | none =>
          Act.fail (.script (.refused ("__index__ returned non-int (type " ++ w.shownClass r ++ ")")))
  | _, _ => return v

/-- An object that stands for a whole number as that number, unless the number is too large to count
    with. -/
def asCount (again : Caller) (tooLarge : String → ScriptFault) (v : Value) : Act Value := do
  let r ← asIndex again v
  match r.whole? with
  | some i =>
      if r ≠ v && Sequence.countLimit < i.natAbs then
        Act.fail (.script (tooLarge ((← Act.world).shownClass v)))
      else return r
  | none => return r

/-- The value of an operator on values that are not asked for it; `space` is the module that asks. -/
def operatePlainly (again : Caller) (space : String) (op : Operator) (x y : Value) :
    Act Value := do
  let w ← Act.world
  let usual (x y : Value) : Act Value := do
    let (v, w) ← Act.lift (operate (← Act.world) op x y)
    Act.changeWorld fun _ => w
    return v
  match op, x, y with
  | .union, x, y => do
      match ← uniteTypes? x y with
      | some v => return v
      | none => usual x y
  | .mul, .cls c, y =>
      if isBoxClass w c then do arrayClass space c (← asIndex again y) else usual x y
  | .mul, x, .cls c =>
      if (Sequence.ofValue? w x).isNone && isBoxClass w c then do
        arrayClass space c (← asIndex again x)
      else usual x y
  | .mul, x, y =>
      if (Sequence.ofValue? w x).isSome then do usual x (← asCount again .countTooLarge y)
      else if (Sequence.ofValue? w y).isSome then do usual (← asCount again .countTooLarge x) y
      else usual x y
  | _, x, y => usual x y

/-- The value of an operator; `space` is the module that asks for it. -/
def operateOn (again : Caller) (space : String) (op : Operator) (x y : Value) : Act Value := do
  let w ← Act.world
  let (left, right) := methodNames op
  let takes (v : Value) : Bool := (special? w v left).isSome || (special? w v right).isSome
  let isSame := w.typeOf x = w.typeOf y
  let isBelow := !isSame && (w.lineage (w.typeOf y)).contains (w.typeOf x)
  let isNew := !takes x || special? w y right ≠ special? w x right
  let rightFirst := takes y && isBelow && isNew
  let ofRight : Act (Option Value) := asked? again y right x
  let ofLeft : Act (Option Value) :=
    if (special? w x left).isSome then asked? again x left y
    else
      match outcomeOf? w op x y with
      | some r => do
          let (v, w) ← Act.lift r
          Act.changeWorld fun _ => w
          return some v
      | none => return none
  let nothing : Act (Option Value) := pure none
  if !takes x && !takes y then operatePlainly again space op x y
  else do
    let steps := [if rightFirst then ofRight else nothing, ofLeft,
      if takes y && !isSame && !rightFirst then ofRight else nothing]
    match ← steps.findSomeM? id with
    | some v => return v
    | none => operatePlainly again space op x y

/-- A value with a sign before it. -/
def signedOn (again : Caller) (minus : Bool) (v : Value) : Act Value := do
  let w ← Act.world
  match special? w v (if minus then "__neg__" else "__pos__") with
  | some f => askSpecial again v f []
  | none => do
      let (v, w) ← Act.lift (signed w minus v)
      Act.changeWorld fun _ => w
      return v

/-- How many items an object says it has. -/
def sizeAsked (again : Caller) (v f : Value) : Act Nat := do
  let r ← asIndex again (← askSpecial again v f [])
  let i ← Act.lift (((← Act.world).wholeOf r).mapError .refused)
  if i < 0 then Act.fail (.refused (.value "__len__() should return >= 0"))
  else if Sequence.countLimit < i.toNat then
    Act.fail (.script (.countTooLarge ((← Act.world).shownClass r)))
  else return i.toNat

/-- Does a value count as true? -/
def countsOn (again : Caller) (v : Value) : Act Bool := do
  let w ← Act.world
  match special? w v "__bool__", special? w v "__len__" with
  | some f, _ => do
      match ← askSpecial again v f [] with
      | .truth b => return b
      | r =>
          let cls := (← Act.world).shownClass r
          Act.fail (.script (.refused ("__bool__ should return bool, returned " ++ cls)))
  | none, some f => do return (← sizeAsked again v f) ≠ 0
  | none, none => return w.counts v

/-- What a step gives, unless it says that there is nothing more by a fault of one of some classes. -/
def unlessOver (ends : List String) (step : Act Value) : Act (Option Value) := do
  try
    return some (← step)
  catch f => do
    let w ← Act.world
    if ends.any (w.isBelow f.cls) then return none else Act.fail f

/-- Values one after the other until there are no more of them, at most so many; the step is told how
    many there were before. -/
def collect (step : Nat → Act (Option Value)) : Nat → Nat → Act (List Value)
  | 0, _ => return []
  | left + 1, sofar => do
      match ← step sofar with
      | none => return []
      | some x => return x :: (← collect step left (sofar + 1))

/-- The items of an object that its class lets run through, at most so many: one that gives something
    with a next item, or one whose items stand at indices. Nothing for other values. -/
def itemsAsked? (again : Caller) (most : Nat) (v : Value) : Act (Option (List Value)) := do
  let w ← Act.world
  match special? w v "__iter__", special? w v "__getitem__", w.runThrough? v with
  | some .null, _, _ =>
      Act.fail (.script (.refused ("'" ++ w.shownClass v ++ "' object is not iterable")))
  | some f, _, _ => do
      let it ← askSpecial again v f []
      let w ← Act.world
      match special? w it "__next__" with
      | some next =>
          some <$> collect (fun _ => unlessOver ["StopIteration"] (askSpecial again it next []))
            most 0
      | none =>
          if (w.lineage (w.typeOf it)).any fun c => (w.classInfo c).methods.contains "__next__" then
            return w.runThrough? it
          else
            Act.fail (.script (.refused
              ("iter() returned non-iterator of type '" ++ w.shownClass it ++ "'")))
  | none, some f, none =>
      some <$> collect (fun (i : Nat) => unlessOver ["IndexError", "StopIteration"]
        (askSpecial again v f [.whole i])) most 0
  | none, _, _ => return none

/-- The items of a value that is taken apart into a count of targets. -/
def takeApart (again : Caller) (v : Value) (expected : Nat) : Act (List Value) := do
  match ← itemsAsked? again (expected + 1) v with
  | some xs => exactly expected xs
  | none =>
      let w ← Act.world
      match w.runThrough? v with
      | some xs => exactly expected xs
      | none => Act.fail (.script (.notIterable (w.shownClass v)))

/-- A class with type arguments, as the class itself says. -/
def subscribeAsked (again : Caller) (c : ClassId) (f key : Value) : Act Value := do
  let w ← Act.world
  match f, wrapping? w f with
  | .null, _ => Act.fail (.script (.notSubscriptableClass (w.classInfo c).shown))
  | _, some (.plain g) => again g [key]
  | _, some (.ofClass g) => again g [.cls c, key]
  | f, _ => if isFunction w f then again f [.cls c, key] else again f [key]

/-- An object that stands for a whole number as that number, where it is the index of an item. -/
def asPlace (again : Caller) (v key : Value) : Act Value := do
  match indexed? (← Act.world) v with
  | none => return key
  | some s =>
      if s.beyond = .indexOutOfRange "range object" then asIndex again key
      else asCount again .indexTooLarge key

/-- Read an item. -/
def readItemOn (again : Caller) (v key : Value) : Act Value := do
  let w ← Act.world
  match special? w v "__getitem__", v with
  | some f, _ => askSpecial again v f [key]
  | none, .cls c =>
      match w.classAttribute? c "__class_getitem__" with
      | some f => subscribeAsked again c f key
      | none => readItem v key
  | none, v => do
      let key ← asPlace again v key
      match special? w v "__missing__", dictionaries w v with
      | some f, [kvs] => do
          match ← entry? kvs key with
          | some x => return x
          | none => askSpecial again v f [key]
      | _, _ => readItem v key

/-- Set an item. -/
def setItemOn (again : Caller) (v key x : Value) : Act Unit := do
  let w ← Act.world
  match special? w v "__setitem__" with
  | some f =>
      let _ ← askSpecial again v f [key, x]
  | none => do
      let key ← asPlace again v key
      setItem v key x

/-- Drop an item. -/
def dropItemOn (again : Caller) (v key : Value) : Act Unit := do
  let w ← Act.world
  match special? w v "__delitem__" with
  | some f =>
      let _ ← askSpecial again v f [key]
  | none => do
      let key ← asPlace again v key
      dropItem v key

/-- Ask the keys of a dictionary or a set for a number each, if their classes want to be asked. -/
def askKeys (again : Caller) (keys : List Value) : Act Unit :=
  keys.forM fun k => do
    match special? (← Act.world) k "__hash__" with
    | some .null | none => pure ()
    | some f => do
        let r ← askSpecial again k f []
        if ((← Act.world).opened r).whole?.isNone then
          Act.fail (.script (.refused "__hash__ method should return an integer"))

/-- The first of some methods that an object has, and what it gives. -/
def askFirst? (again : Caller) (v : Value) (names : List String) :
    Act (Option (String × Value)) := do
  let w ← Act.world
  match names.findSome? fun n => (special? w v n).map fun f => (n, f) with
  | some (n, f) => return some (n, ← askSpecial again v f [])
  | none => return none

/-- Refuse what a method gave, by the class that it should be of. -/
def refuseGiven {α : Type} (method kind : String) (r : Value) : Act α := do
  let cls := (← Act.world).shownClass r
  Act.fail (.script (.refused (method ++ " returned non-" ++ kind ++ " (type " ++ cls ++ ")")))

/-- How many items an object is run through for at most when a container is made of them. -/
def runLimit : Nat := 65536

/-- Classes whose objects are made of what their argument is run through for. -/
def runThroughMakers : List String :=
  ["tuple", "frozenset", "set", "list", "dict", "collections.deque"]

/-- An argument of a standard class as a value that the class knows: an object that says what it is as
    a number, a text or a sequence is asked for that. -/
def askedArgument (again : Caller) (key : String) (v : Value) : Act Value := do
  let w ← Act.world
  match key with
  | "str" => do
      match ← askFirst? again v ["__str__", "__repr__"] with
      | some (_, r) =>
          if ((← Act.world).opened r) matches .text _ then return r
          else refuseGiven "__str__" "string" r
      | none => return v
  | "int" => do
      match ← askFirst? again v ["__int__", "__index__", "__trunc__"] with
      | some (n, r) =>
          if ((← Act.world).opened r).whole?.isSome then return r else refuseGiven n "int" r
      | none => return v
  | "float" | "complex" => do
      let first := if key = "complex" then ["__complex__", "__float__"] else ["__float__"]
      match ← askFirst? again v first with
      | some ("__complex__", r) =>
          if ((← Act.world).opened r) matches .complex _ _ then return r
          else refuseGiven "__complex__" "complex" r
      | some (n, r) =>
          if ((← Act.world).opened r) matches .float _ then return r
          else refuseGiven (w.shownClass v ++ "." ++ n) "float" r
      | none => asIndex again v
  | "bool" => do return .truth (← countsOn again v)
  | "bytes" => do
      match ← askFirst? again v ["__bytes__"] with
      | some (n, r) =>
          if ((← Act.world).opened r) matches .bytes _ then return r else refuseGiven n "bytes" r
      | none => sequence (← length v)
  | "bytearray" => do sequence (← length v)
  | key => if runThroughMakers.contains key then sequence v else return v
where
  /-- An object as the count of bytes that it stands for, if it stands for one. -/
  length (v : Value) : Act Value := do
    try asCount again .countTooLarge v
    catch f => if f.cls = .standard "TypeError" then return v else Act.fail f
  /-- The items of an object that can be run through. -/
  sequence (v : Value) : Act Value := do
    match ← itemsAsked? again runLimit v with
    | some xs => Act.withWorld fun w => w.newList xs
    | none => return v

/-- The arguments of a class that has a standard class above it, as that class knows them. -/
def askedArguments (again : Caller) (c : ClassId) (args : List Value) : Act (List Value) := do
  let w ← Act.world
  let maker := (w.lineage c).findSome? fun
    | .standard key =>
        if World.plainMakers.contains key || World.containerMakers.contains key ||
            World.exactMakers.contains key then some key else none
    | .defined _ => none
  let isAsked (v : Value) : Bool := match v with
    | .object _ (.defined _) => true
    | _ => false
  match maker, args with
  | some key, v :: rest =>
      if key = "range" then (v :: rest).mapM (asIndex again)
      else if isAsked v then return (← askedArgument again key v) :: rest
      else return v :: rest
  | _, args => return args

end FragmentWeaver.Script
