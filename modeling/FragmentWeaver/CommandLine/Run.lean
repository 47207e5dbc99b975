import FragmentWeaver.CommandLine.Basic
import FragmentWeaver.Document.Basic
import FragmentWeaver.Weaver

/-!
# Carrying out a command line

A command line ends with a status: zero when the unit was woven and the call, if there is one, gave
a value; one when the unit did not compile, was not loaded or has no such method, when the call
failed, or when a value does not fit. What went well or wrong is printed.
-/

namespace FragmentWeaver.CommandLine

/-- The lines about a unit that did not compile. What is said about single sources is not set in. -/
def failureLines (r : WovenUnit) : List String :=
  ["✗ " ++ r.unit.qualifiedName ++ " did not compile"] ++
    (Text.lines r.compilation.report).map ("    " ++ ·) ++
    r.compilation.rejected.map fun (file, why) => Compilation.rejectionLine file why

/-- Print lines. -/
def printAll (lines : List String) : Run Unit :=
  lines.forM Run.print

/-- Call a value for a unit and print what it gives. An ordinary fault of the call is printed
    too. -/
def invoke (unit : UnitId) (target : Value) (arguments : List Value) : Run Nat := do
  let outcome ← tryCatch (Except.ok <$> Script.callValue Loading.importModule target arguments)
    fun f => pure (Except.error f)
  match outcome with
  | .ok v => do
      Run.print ("→ " ++ (← Script.writtenForm Loading.importModule v))
      return 0
  | .error f => do
      let w ← Run.world
      if f.isOrdinary w then
        Run.print ("✗ " ++ unit.qualifiedName ++ " raised " ++ f.kind w ++ ": " ++ f.message w)
        return 1
      else Run.fail f

/-- An attribute of a value that can be called, if there is one. -/
def method? (v : Value) (name : String) : Run (Option Value) := do
  try
    let m ← Script.attributeOf Loading.importModule v name
    return if (← Run.world).isCallable m then some m else none
  catch f => if f.isMissingAttribute (← Run.world) then return none else Run.fail f

/-- The names of a class and its ancestors that do not start with an underscore, in order. -/
def publicNames (w : World) (c : ClassId) : List String :=
  let listed : ClassId → List String
    | .standard key => Standard.Listing.namesOf (Standard.classLines key)
    | .defined _ => []
  let names := (w.lineage c).flatMap fun d =>
    let i := w.classInfo d
    i.attributes.map Prod.fst ++ i.slots.getD [] ++ listed d
  Text.sorted ((distinct names).filter fun n => !Text.beginsWith "_" n)

/-- The line about a unit whose methods are not called. -/
def methodsLine (unit : UnitId) (names : List String) : String :=
  "✓ " ++ unit.qualifiedName ++ ": " ++
    (if names.isEmpty then "(no public methods)" else Text.join ", " names)

/-- What is given to an option as a value; nothing is an empty list. -/
def givenValue : Given → Run Value
  | .text s => return .text s
  | .nothing => Run.withWorld fun w => w.newList []

/-- The weaver for a command line. -/
def weaverFor (r : Request) : Run Weaver := do
  if r.stagingDirectory = some .nothing then
    Run.fail (.refused (.type "expected str, bytes or os.PathLike object, not list"))
  return { root := r.stagingDirectory.map fun g => .parse g.toText
           toolchain := Interpreter.toolchain { limit := r.timeout } }

/-- A file read as text. -/
def fileText (path : Files.Path) : Run String := do
  let s ← get
  Run.lift (s.files.read s.around.cwd path)

/-- The bindings of a command line: of several values for one name the last one counts. -/
def bindingValues (bindings : List (Option (String × Document))) :
    Run (List (Value × Value)) := do
  if let some i := bindings.findIdx? Option.isNone then
    Run.fail (.refused (.value ("dictionary update sequence element #" ++ toString i ++
      " has length 0; 2 is required")))
  let kvs ← Document.entryValues bindings.reduceOption
  return (Assoc.putAll [] kvs).map fun (k, v) => (.text k, v)

/-- Go on with a woven unit, or report that it did not compile. -/
def withHandle (r : WovenUnit) (next : Run Nat) : Run Nat := do
  if r.succeeded then next
  else
    printAll (failureLines r)
    return 1

/-- Weave a fragment and call it once. -/
def runInline (w : Weaver) (r : Request) (fragment : String)
    (bindings : List (Option (String × Document))) (resultType : Option Given) : Run Nat := do
  let bindings ← bindingValues bindings
  let resultType ← match resultType with
    | some t => givenValue t
    | none => pure .null
  let imports ← r.imports.mapM givenValue
  let woven ← w.weaveInline (some fragment) bindings resultType imports
    { showSource := r.showSource }
  withHandle woven (invoke woven.unit woven.handle [])

/-- Weave the methods in a file, and call one of them or list them. -/
def runMethod (w : Weaver) (r : Request) (file : String) (call : Option Given)
    (arguments : List Given) (name : Option Given) : Run Nat := do
  let methods ← fileText (.parse file)
  let imports ← r.imports.mapM givenValue
  let woven ← w.weaveMethod (some methods) imports ((name.map Given.toText).getD "")
    { showSource := r.showSource }
  withHandle woven do
    let call := (call.map Given.toText).getD ""
    if call = "" then
      let w ← Run.world
      Run.print (methodsLine woven.unit (publicNames w (w.typeOf woven.handle)))
      return 0
    else
      match ← method? woven.handle call with
      | none => do
          Run.print ("✗ " ++ woven.unit.qualifiedName ++ " has no method " ++ Text.quote call)
          return 1
      | some m => do
          if arguments.contains .nothing then
            Run.fail (.refused (.type
              "the JSON object must be str, bytes or bytearray, not list"))
          let documents := arguments.map fun g => Document.ofArgument g.toText
          invoke woven.unit m (← Document.itemValues documents)

/-- Carry out a task. -/
def runTask (w : Weaver) (r : Request) : Run Nat :=
  match r.task with
  | .inline fragment bindings resultType => runInline w r fragment bindings resultType
  | .method file call arguments name => runMethod w r file call arguments name

/-- Carry out a command line; its status. -/
def run (r : Request) : Run Nat := do
  let w ← weaverFor r
  try runTask w r
  catch f => do
    let w ← Run.world
    match f with
    | .unloaded _ _ cause => do
        Run.print ("✗ " ++ f.message w ++ ": " ++ (cause.written w).toOption.getD "")
        return 1
    | f => do
        if f.isValueFault w then
          Run.print ("✗ " ++ f.message w)
          return 1
        else Run.fail f

end FragmentWeaver.CommandLine
