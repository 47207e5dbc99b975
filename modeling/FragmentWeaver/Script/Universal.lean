import FragmentWeaver.Script.Assignment

/-!
# Methods of every object

What an object can be asked that has no methods of its own for it: whether it compares to another
one, what it looks like, which attributes it has. Such a question is mostly left open.
-/

namespace FragmentWeaver.Script

/-- The value that leaves a question open. -/
def undecided : Value := .native (.other "NotImplemented" (.standard "NotImplementedType"))

/-- Refuse a count of arguments that an operation of the language does not have. -/
def checkOperands (expected : Nat) (args : List Value) : Act Unit :=
  if args.length = expected then pure ()
  else
    Act.fail (.refused (.type ((if expected = 2 then " expected 2 arguments, got "
      else if expected = 1 then "expected 1 argument, got "
      else "expected 0 arguments, got ") ++ toString args.length)))

/-- Refuse a count of arguments that a method of a class does not have. -/
def checkArguments (cls name : String) (expected : Nat) (args : List Value) : Act Unit :=
  if args.length = expected then pure ()
  else
    Act.fail (.refused (.type (cls ++ "." ++ name ++ "() takes " ++
      (if expected = 0 then "no arguments" else "exactly one argument") ++
      " (" ++ toString args.length ++ " given)")))

/-- The name of an attribute. -/
def attributeName (v : Value) : Act String := do
  let w ← Act.world
  match w.opened v with
  | .text n => return n
  | _ =>
      Act.fail (.refused (.type ("attribute name must be string, not '" ++ w.shownClass v ++ "'")))

/-- The names of the attributes of an object of a class that stands right below the class above all,
    or of its ancestors: its own, those of its classes, and those of every object. -/
def attributeNames (w : World) (v : Value) : List String :=
  let own := match w.content? v with
    | some (.instance attributes) => attributes.map Prod.fst
    | _ => []
  let isFinal (n : String) : Bool := n = "__final__"
  let ofClass (c : ClassId) : List String :=
    let names := (w.classInfo c).attributes.map Prod.fst
    "__module__" :: names.filter (!isFinal ·) ++ ["__dict__", "__weakref__", "__doc__"] ++
      names.filter isFinal
  let classes := (w.lineage (w.typeOf v)).filter (· ≠ .object)
  distinct (own ++ classes.flatMap ofClass ++ Standard.universalMethods.map Prod.fst ++
    ["__class__"])

/-- What an object and the way it is made anew are taken apart into. -/
def takenApart (v : Value) (level : Int) : Act Value := do
  let c : Value := .cls ((← Act.world).typeOf v)
  let maker (name : String) : Value := .native (.other name Standard.plainFunction)
  if 2 ≤ level then do
    let args ← Act.withWorld fun w => w.newTuple [c]
    Act.withWorld fun w => w.newTuple [maker "__newobj__", args, .null, .null, .null]
  else do
    let args ← Act.withWorld fun w => w.newTuple [c, .cls .object, .null]
    Act.withWorld fun w => w.newTuple [maker "_reconstructor", args]

/-- Call a method that every object has. -/
def callUniversal (name : String) (v : Value) (args : List Value) : Act Value := do
  let w ← Act.world
  let cls := w.shownClass v
  match name with
  | "__eq__" | "__ne__" | "__lt__" | "__le__" | "__gt__" | "__ge__" => do
      checkOperands 1 args
      if args = [v] && (name = "__eq__" || name = "__ne__") then return .truth (name = "__eq__")
      return undecided
  | "__hash__" => do
      checkOperands 0 args
      return .whole (match v with
        | .object a _ => a
        | _ => 0)
  | "__repr__" => do
      checkOperands 0 args
      .text <$> Act.lift ((w.written v).mapError .unwritten)
  | "__str__" => do
      checkOperands 0 args
      .text <$> Act.lift ((w.shown v).mapError .unwritten)
  | "__getattribute__" => do
      checkOperands 1 args
      readAttribute v (← attributeName (args.headD .null))
  | "__setattr__" => do
      checkOperands 2 args
      setAttribute v (← attributeName (args.headD .null)) (args.getD 1 .null)
      return .null
  | "__delattr__" => do
      checkOperands 1 args
      dropAttribute v (← attributeName (args.headD .null))
      return .null
  | "__init__" =>
      if args.isEmpty then return .null
      else
        let own := if (w.classAttribute? (w.typeOf v) "__init__").isSome then "object" else cls
        refuseType (own ++ ".__init__() takes exactly one argument (the instance to initialize)")
  | "__subclasshook__" => return undecided
  | "__format__" => do
      checkArguments cls name 1 args
      match w.opened (args.headD .null) with
      | .text "" => .text <$> Act.lift ((w.shown v).mapError .unwritten)
      | .text _ =>
          Act.fail (.refused (.type ("unsupported format string passed to " ++ cls ++
            ".__format__")))
      | .null => Act.fail (.refused (.type "__format__() argument must be str, not None"))
      | x =>
          Act.fail (.refused (.type ("__format__() argument must be str, not " ++ w.shownClass x)))
  | "__reduce_ex__" => do
      checkArguments cls name 1 args
      takenApart v (← Act.lift ((w.wholeOf (args.headD .null)).mapError .refused))
  | name => do
      checkArguments cls name 0 args
      match name with
      | "__reduce__" => takenApart v 0
      | "__sizeof__" => return .whole 24
      | "__dir__" => Act.withWorld fun w => w.newList ((attributeNames w v).map .text)
      | _ => return .null

end FragmentWeaver.Script
