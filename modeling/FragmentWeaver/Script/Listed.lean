import FragmentWeaver.Script.Code
import FragmentWeaver.Value.Part

/-!
# Listed attributes

What the listing of a class says of a name, as it is read from an object of that class and as it is
read from the class itself. A function is read together with the object or the class that it is given
when it is called.
-/

namespace FragmentWeaver.Script

/-- A function that a class lists, together with what it was read from. It may have been made in another
    place. -/
def tied (receiver : Value) (n : String) (lister f cls : ClassId) (made : Option String) :
    Act (Option Value) :=
  some <$> Act.make (.bound receiver (Standard.functionOf (.cls lister) n f made)) cls

/-- What a name that a class lists stands for if it is the same wherever it is read. -/
def listedValue? (n : String) (lister : ClassId) (e : Standard.Entry) : Act (Option Value) :=
  match e.value? (.cls lister) n, e.written? with
  | some v, _ => return some v
  | none, some (cls, source) => some <$> Act.withWorld fun w => constantOf w cls source
  | none, none => return none

/-- What a listed function stands for if it is read together with something in the same way from an
    object and from its class `c`. -/
def listedTied? (c : ClassId) (n : String) (lister : ClassId) :
    Standard.Entry → Option (Act (Option Value))
  | .builtIn _ =>
      some (tied (.cls lister) n lister Standard.builtinFunction Standard.builtinFunction none)
  | .classFunction made =>
      some (tied (.cls c) n lister Standard.plainFunction (.standard "method") made)
  | .classBuiltIn =>
      some (tied (.cls c) n lister Standard.builtinFunction Standard.builtinFunction none)
  | _ => none

/-- What a listed name stands for that is read from an object, with the class that lists it. Values that
    are worked out for each object are not told here. -/
def listedOfObject? (receiver : Value) (n : String) (lister : ClassId) (e : Standard.Entry) :
    Act (Option Value) := do
  match e, listedTied? ((← Act.world).typeOf receiver) n lister e with
  | _, some found => found
  | .function made, none =>
      tied receiver n lister Standard.plainFunction (.standard "method") made
  | .operation, none =>
      tied receiver n lister Standard.operationFunction (.standard "method-wrapper") none
  | .method, none =>
      tied receiver n lister Standard.methodFunction Standard.builtinFunction none
  | .toldMethod, none =>
      tied receiver n lister Standard.methodFunction (.standard "builtin_method") none
  | e, none => listedValue? n lister e

/-- What a listed name stands for that is read from a class, with the class that lists it. -/
def listedOfClass? (c : ClassId) (n : String) (lister : ClassId) (e : Standard.Entry) :
    Act (Option Value) := do
  let w ← Act.world
  let place (cls : ClassId) : Option Value := some (.native (.other n cls (.cls lister)))
  match e, listedTied? c n lister e with
  | _, some found => found
  | .operation, none => return place Standard.operationFunction
  | .method, none | .toldMethod, none => return place Standard.methodFunction
  | .property, none =>
      if w.isBelow c "enum.Enum" then Act.fail (.script (.noSuchName n))
      else return place (.standard "property")
  | .field, none => return place (.standard "getset_descriptor")
  | .slot, none => return place (.standard "member_descriptor")
  | e, none => listedValue? n lister e

/-- The module that the instances of a class give as theirs: that of the first class above them that
    tells it to them. -/
def toldModule? (w : World) (c : ClassId) : Option Value :=
  (w.lineage c).findSome? fun a =>
    let told := match a with
      | .defined _ => true
      | .standard key =>
          let lines := Standard.classLines key
          !lines.isEmpty && !Standard.Listing.marks lines "sealed"
    if told then
      some (match (w.classInfo a).space with
        | some m => .text m
        | none => .null)
    else none

/-- How a part of a function or a constant of the surroundings is listed. -/
def listedPart? (n : String) : Value → Option Expr
  | .native (.member cls value) => do
      let thing ← Standard.memberName? cls value
      Standard.expression? (← Standard.Listing.partOf? thing n (Standard.classLines cls))
  | .native f => do
      let (thing, _, home) ← f.callee?
      Standard.expression? (← Standard.partSource? home thing n)
  | _ => none

/-- What functions and classes that are there from the start say about how they are used. It is not
    kept. -/
def unkeptNames : List String :=
  ["__doc__", "__text_signature__", "__defaults__", "__kwdefaults__", "__annotations__",
    "__closure__"]

/-- What a function that is there from the start gives for a name. Nothing is given only where it is
    known that there is nothing. -/
def kept (n : String) (x : Value) : Act Value :=
  if x = .null && unkeptNames.contains n then Act.fail (.script (.unsupported n)) else return x

/-- What a class says of itself: the text that it was given, or nothing. -/
def textOfClass (w : World) (c : ClassId) : Act Value :=
  match c with
  | .defined _ => return (Assoc.find? (w.classInfo c).attributes "__doc__").getD .null
  | .standard key =>
      if Standard.Listing.marks (Standard.classLines key) "silent" then return .null
      else kept "__doc__" .null

/-- How a class is called, if that is told. -/
def signatureOfClass : ClassId → Act Value
  | .defined _ => return .null
  | .standard _ => kept "__text_signature__" .null

/-- A part of a value, put on the heap if it has to be. -/
def partOf? (v : Value) (n : String) : Act (Option Value) := do
  let w ← Act.world
  match listedPart? n v, w.part? v n with
  | some e, _ => some <$> Act.withWorld fun w => constantOf w none e
  | none, some (x, w) => do
      Act.changeWorld fun _ => w
      match v with
      | .native _ => some <$> kept n x
      | _ => return some x
  | none, none =>
      if n = builtinsName && w.typeOf v = Standard.plainFunction then some <$> builtinTable
      else return none

/-- What a class that can ask its descendants for methods keeps of that: which ones are missing, and what
    it knows of the classes registered with it. -/
def askedMethods? (c : ClassId) (n : String) : Act (Option Value) := do
  let w ← Act.world
  if w.isBelow (w.classInfo c).kind "abc.ABCMeta" then
    match n with
    | "_abc_impl" => return some (Standard.objectOf n "_abc._abc_data")
    | "__abstractmethods__" =>
        some <$> Act.make (.items ((w.abstractMethods c).map .text)) (.standard "frozenset")
    | _ => return none
  else return none

/-- What an object has of a name by its class: a part, a place that its class gives it, or what the
    class lists. -/
def readListed? (v : Value) (n : String) : Act (Option Value) := do
  match ← partOf? v n with
  | some x => return some x
  | none => do
      let w ← Act.world
      let c := w.typeOf v
      match n, w.classEntry? c n with
      | "__module__", _ => return toldModule? w c
      | "__doc__", none => some <$> textOfClass w c
      | "__dict__", none =>
          if w.isOpenFor c n then some <$> Act.make (.entries []) (.standard "dict")
          else return none
      | "__weakref__", none => return if w.isOpenFor c n then some .null else none
      | n, some (d, e) => listedOfObject? v n d e
      | n, none => askedMethods? c n

/-- What a class has of a name by what every class tells of itself, by the listings of its ancestors,
    or by that of its own class. -/
def readListedOfClass? (c : ClassId) (n : String) : Act (Option Value) := do
  match ← partOf? (.cls c) n with
  | some x => return some x
  | none => do
      let w ← Act.world
      match n, w.classEntry? c n with
      | n, some (d, e) => listedOfClass? c n d e
      | "__weakref__", none =>
          return (w.opener? c n).map fun d =>
            .native (.other n (.standard "getset_descriptor") (.cls d))
      | n, none => do
          match ← askedMethods? c n with
          | some x => return some x
          | none => readListed? (.cls c) n

/-- What is said when a class has no such name. An enumeration tells nothing but the name. -/
def missingInClass (w : World) (c : ClassId) (n : String) : ScriptFault :=
  let info := w.classInfo c
  if w.isBelow info.kind "enum.EnumType" then .noSuchName n
  else if n = "__abstractmethods__" && !w.isBelow info.kind "abc.ABCMeta" then .noSuchName n
  else .classAttribute info.shown n

end FragmentWeaver.Script
