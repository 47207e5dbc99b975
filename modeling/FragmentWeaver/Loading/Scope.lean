import FragmentWeaver.Files.Glob
import FragmentWeaver.Loading.Import

/-!
# Loading in a context

A context is opened, loads modules, and is closed again. Closing it takes every module that was made
from one of its descriptions out of the module table; a module that something else put there stays.
Objects made by such modules stay usable.
-/

namespace FragmentWeaver.Loading

/-- A new context; its number. -/
def newContext (root : Files.Path) (space : String) : Run Nat :=
  modifyGet fun s =>
    (s.contexts.size, { s with contexts := s.contexts.push { root := root, space := space } })

/-- What is known of a context. -/
def contextOf (c : Nat) : Run Context := return (← get).contexts.getD c default

/-- Change what is known of a context. -/
def changeContext (c : Nat) (f : Context → Context) : Run Unit :=
  modify fun s => { s with contexts := s.contexts.modify c f }

/-- Let imports ask a context, before all others. -/
def openContext (c : Nat) : Run Unit := do
  let context ← contextOf c
  if context.closed then Run.fail (.closedContext context.space)
  modify fun s =>
    if s.asked.contains (.context c) then s else { s with asked := .context c :: s.asked }

/-- The module in the table under a name, if it was made from a description of the context. -/
def owned? (w : World) (context : Context) (name : String) : Option ModuleId := do
  let m ← w.imported? name
  let n ← w.specOf? m
  if (context.givenFor name).contains n then some m else none

/-- Take the modules of a context out of the table. -/
def dropOwned (w : World) (context : Context) : World :=
  context.given.foldl
    (fun w (name, _) => if (owned? w context name).isSome then w.leave name else w) w

/-- Close a context; closing it again does nothing. -/
def closeContext (c : Nat) : Run Unit :=
  modify fun s =>
    match s.contexts[c]? with
    | none => s
    | some context =>
        if context.closed then s
        else { s with
          asked := s.asked.filter (· ≠ .context c)
          world := dropOwned s.world context
          contexts := s.contexts.modify c fun context =>
            { context with closed := true, given := [] } }

/-- Ask a context for the description of a module. -/
def describe (c : Nat) (name : String) : Run (Option ModuleSpec) :=
  Run.of fun s => s.describe c name

/-- Take a name out of the table if it stands for a certain module. -/
def leaveIf (name : String) (m : ModuleId) : Run Unit :=
  Run.changeWorld fun w => if w.imported? name = some m then w.leave name else w

/-- Make the module of a description, whatever stands in the table under its name, and run its body;
    the table holds it while the body is run, and keeps it when that goes well. -/
def enterLoaded (spec : ModuleSpec) : Run ModuleId := do
  let m ← modifyGet fun s => s.enterNew spec false
  try runBody importModule m spec.source
  catch f => do
    leaveIf spec.name m
    Run.note (.failed spec.name m)
    Run.fail f
  Run.note (.completed spec.name m)
  return m

/-- Note in a context that a name was loaded. -/
def noteLoaded (c : Nat) (name : String) : Run Unit :=
  changeContext c fun context => { context with loaded := context.loaded ++ [name] }

/-- The module of a compiled file. Its body is run unless the context has the module already. -/
def load (c : Nat) (name : String) : Run ModuleId := do
  match owned? (← Run.world) (← contextOf c) name with
  | some m => return m
  | none =>
      match ← describe c name with
      | some ⟨number, name, .artifact file⟩ => do
          let m ← enterLoaded ⟨number, name, .artifact file⟩
          noteLoaded c name
          return m
      | _ => Run.fail (.import (.noArtifact name (← contextOf c).directory.text))

/-- The names of the modules of a unit's helpers, in the order of their compiled files. -/
def helperNames (context : Context) (files : Files.Tree) (cwd : List String) (unit : UnitId) :
    Except Fault (List String) := do
  let found ← files.glob cwd context.directory
    (Staging.helperPattern unit.name Staging.artifactSuffix)
  return found.map fun p => context.space ++ "." ++ p.stem

/-- The names of the modules of a unit's helpers. -/
def helperModules (c : Nat) (unit : UnitId) : Run (List String) := do
  let s ← get
  Run.lift (helperNames (← contextOf c) s.files s.around.cwd unit)

end FragmentWeaver.Loading
