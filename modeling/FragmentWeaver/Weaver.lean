import FragmentWeaver.Loading.Unit
import FragmentWeaver.SearchPath
import FragmentWeaver.Source.Unit
import FragmentWeaver.Staging.Stage
import FragmentWeaver.Toolchain.Interpreter

/-!
# Weavers

A weaver turns fragments into loaded units: it makes the source of a unit, stages and compiles it,
and loads what was compiled. Bindings that a request staged and its unit never took are dropped
before the request ends, however it ends.
-/

namespace FragmentWeaver

/-- What a weaver works with. -/
structure Weaver where
  /-- The staging root; the standard one when none is named. -/
  root : Option Files.Path := none
  toolchain : Toolchain := Interpreter.toolchain {}
  host : Host := .console
  /-- The number of the allocator that names units. -/
  allocator : Nat := 0
  /-- The search path for the toolchain; the standard one when none is named. -/
  searchPath : Option String := none

/-- What became of a request. Without a handle the unit did not compile. -/
structure WovenUnit where
  unit : UnitId
  source : String
  compilation : Compilation
  handle : Value := .null
  deriving DecidableEq

/-- Did the request lead to a handle? -/
def WovenUnit.succeeded (r : WovenUnit) : Bool := r.handle ≠ .null

/-- What is wanted beside the source of a unit. -/
structure WeaveOptions where
  /-- Is the source shown to the host? -/
  showSource : Bool := false
  /-- The sources of helpers by their names. -/
  helpers : List (String × String) := []
  deriving Inhabited

namespace Weaver

/-- What is reported when bindings of a unit were left over. -/
def unclaimedRecord (unit : UnitId) (count : Nat) : LogRecord :=
  ⟨.warning, "codeweave.runtime.weaver",
    "Unit " ++ unit.qualifiedName ++ " left " ++ toString count ++ " binding(s) unclaimed"⟩

/-- Drop the bindings that a unit has not taken, and report it. -/
def dropUnclaimed (unit : UnitId) : Run Unit := do
  let dropped ← Run.discard unit
  if dropped ≠ 0 then Run.report [unclaimedRecord unit dropped]

/-- Delete the compiled files that an earlier unit of the same name left behind. -/
def purge (root : Files.Path) (unit : UnitId) : Run (List Files.Path) := do
  let s ← get
  let (r, files, log) := Staging.purge s.files s.around.cwd root unit
  set { s with files := files, log := s.log ++ log }
  Run.lift r

/-- The search path for compiling a unit: the directory that its namespace starts from comes
    first. -/
def searchPathFor (w : Weaver) (source : Files.Path) (unit : UnitId) : Run String := do
  let s ← get
  let rest ← match w.searchPath with
    | some path => pure path
    | none => Run.lift (SearchPath.standard s.files s.around [])
  return SearchPath.append (← Run.lift (Staging.sourceRoot s.around.cwd source unit)).text rest

/-- The staging root. -/
def stagingRoot (w : Weaver) : Run Files.Path :=
  return w.root.getD (Staging.standardRoot (← get).around)

/-- Stage, compile and load a source as a unit. -/
def build (w : Weaver) (root : Files.Path) (unit : UnitId) (source : String)
    (helpers : List (String × String)) : Run WovenUnit := do
  let path ← Run.withFiles fun t around => Staging.stage t around.cwd root unit source helpers
  let _ ← purge root unit
  let searchPath ← w.searchPathFor path unit
  let compiled ← w.toolchain.compile path searchPath (Staging.directory root unit)
  if compiled.success then
    let loaded ← Loading.loadUnit (some w.host) root unit
    return ⟨unit, source, compiled, loaded.handle⟩
  else
    Run.report [⟨.error, "codeweave.runtime.weaver", compiled.diagnostics⟩]
    return ⟨unit, source, compiled, .null⟩

/-- Stage, compile and load a source as a unit, and drop the bindings that the unit has not
    taken. -/
def generate (w : Weaver) (unit : UnitId) (source : String) (helpers : List (String × String)) :
    Run WovenUnit := do
  let root ← w.stagingRoot
  andFinally (w.build root unit source helpers) (dropUnclaimed unit)

/-- Make the source of a unit and stage its bindings. -/
def synthesize (unit : UnitId) (r : Source.Request) : Run Source.GeneratedUnit := do
  let s ← get
  let (result, store, log) := Source.synthesize s.world s.store unit r
  set { s with store := store, log := s.log ++ log }
  Run.lift result

/-- Make the source of a unit, show it if that is wanted, and carry on with it. -/
def weave (w : Weaver) (unit : UnitId) (r : Source.Request) (options : WeaveOptions) :
    Run WovenUnit := do
  let generated ← synthesize unit r
  if options.showSource then w.host.shown unit generated.filename generated.source
  w.generate unit generated.source options.helpers

/-- Weave a fragment as the body of a unit that takes no arguments. -/
def weaveInline (w : Weaver) (fragment : Option String) (bindings : List (Value × Value))
    (resultType : Value) (imports : List Value) (options : WeaveOptions) : Run WovenUnit := do
  let unit ← Run.nextUnit w.allocator
  let request : Source.Request :=
    { fragment := fragment, bindings := bindings, resultType := resultType, imports := imports
      kind := .inline }
  andFinally (w.weave unit request options) (Run.discard unit)

/-- Weave definitions of methods, under a fixed name if one is given. -/
def weaveMethod (w : Weaver) (methods : Option String) (imports : List Value)
    (name : String) (options : WeaveOptions) : Run WovenUnit := do
  let unit ←
    if name = "" then Run.nextUnit w.allocator
    else Run.lift ((UnitId.parse name).mapError .unitName)
  w.weave unit { fragment := methods, imports := imports, kind := .method } options

end Weaver

end FragmentWeaver
