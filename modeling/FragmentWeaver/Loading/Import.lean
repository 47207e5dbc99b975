import FragmentWeaver.Loading.Entry
import FragmentWeaver.Script.Eval

/-!
# Importing modules

A module is imported once: what stands in the module table under its name is taken as it is. A
module that is not there is looked for after the module that its name starts with; the open contexts
are asked for a description of it, the last opened one first. It stands in the table while its body
is run, and is taken out again when that fails.
-/

namespace FragmentWeaver.Loading

open Script (Importer)

/-- Run the body of a module. -/
def runBody (importer : Importer) (m : ModuleId) : ModuleSource → Act Unit
  | .package => return ()
  | .artifact file => do
      let s ← Act.state
      match ← Act.lift (s.files.contents s.around.cwd file) with
      | .artifact a => Script.execModule importer m a
      | _ => Act.fail (.import .unreadable)

/-- The module of a name that is not in the table: it is made and its body is run. The module is what
    the table holds then. -/
def importNew (importer : Importer) (name : String) : Act ModuleId := do
  entering name fun spec m =>
    andFinally (runBody importer m spec.source)
      (Act.changeModule m fun r => { r with starting := false })
  Act.found name

/-- Import a module that lies in another one, and bind it there. -/
def importMember (importer : Importer) (parent simple name : String) : Act ModuleId := do
  let w ← Act.world
  match w.imported? parent with
  | none => Act.fail (.import (.removed parent))
  | some p =>
      if !(w.modules.getD p { name := parent }).isPackage then
        Act.fail (.import (.notPackage name parent))
      Act.changeModule p fun r => { r with underway := r.underway ++ [simple] }
      let m ← andFinally (importNew importer name)
        (Act.changeModule p fun r => { r with underway := r.underway.dropLast })
      match (← Act.world).imported? parent with
      | none => Act.fail (.import (.removed parent))
      | some p =>
          Act.setModuleAttribute p simple (.module m)
          return m

/-- Bind a module that was there from the start in the one it lies in, unless that has such a name. -/
def bindStandard (name : String) (m : ModuleId) : Act Unit := do
  let (parent, simple) := UnitId.partsOf name
  match (← Act.world).imported? parent with
  | some p =>
      if ((← Act.world).moduleAttribute? p simple).isNone then
        Act.setModuleAttribute p simple (.module m)
  | none => return

/-- A standard module that is imported brings others along, and it is bound in the module it lies in,
    as that one is. -/
def settleStandard (name : String) : Act Unit := do
  for path in Context.openings (Text.split '.' name) do
    let part := Text.join "." path
    if Standard.isModule part then
      if let some m := (← Act.world).imported? part then
        if 1 < path.length then bindStandard part m
        bringAlong part

/-- The module in the table under a name, imported if need be. Imports are nested at most so
    deep. -/
def importWithin : Nat → Importer
  | 0, _ => Act.fail (.script .tooDeep)
  | depth + 1, name => do
      match (← Act.world).imported? name with
      | some _ => do
          let m ← Act.found name
          settleStandard name
          return m
      | none =>
          let (parent, simple) := UnitId.partsOf name
          if parent = "" then importNew (importWithin depth) name
          else
            if ((← Act.world).imported? parent).isNone then
              let _ ← importWithin depth parent
            -- Importing the parent may have brought the module along.
            match (← Act.world).imported? name with
            | some _ => Act.found name
            | none => importMember (importWithin depth) parent simple name

/-- How deep imports can be nested. -/
def importDepth : Nat := 150

/-- The module in the table under a name, imported if need be. -/
def importModule : Importer := fun name =>
  if name = "" then Act.fail (.import .emptyName) else importWithin importDepth name

end FragmentWeaver.Loading
