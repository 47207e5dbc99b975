import FragmentWeaver.Script.Special

/-!
# Imports of the fragment language

What the import statements bind: modules, names of modules, or all the names that a module gives away.
A module that a name stands for is imported when it is asked for. How a module is imported is a
parameter.
-/

namespace FragmentWeaver.Script

/-- How a module is imported: the module in the table under a dotted name, loaded if need be. -/
abbrev Importer := String → Act ModuleId

/-- What a statement imports from a module: a name of the module, or failing that a module that was
    imported from it. -/
def importedName (again : Caller) (m : ModuleId) (n : String) :
    Act Value := do
  try readHooked again (.module m) n
  catch f => do
    let w ← Act.world
    if f.isMissingAttribute w then
      let r := w.modules.getD m { name := "" }
      match w.imported? (r.ownName ++ "." ++ n) with
      | some sub => return .module sub
      | none => Act.fail (.import (.noName n r.ownName r.shownFile? r.starting))
    else Act.fail f

/-- Import from a package the modules that a statement names and the package does not hold. A module
    that is not there is no fault yet. -/
def importMembers (again : Caller) (importer : Importer) (m : ModuleId)
    (names : List String) : Act Unit := do
  names.forM fun n => do
    let w ← Act.world
    let r := w.modules.getD m { name := "" }
    if r.isPackage then
      try
        let _ ← readHooked again (.module m) n
      catch f => do
        if f.isMissingAttribute (← Act.world) then bring (r.ownName ++ "." ++ n)
        else Act.fail f
where
  /-- Import a module, if it is there. -/
  bring (full : String) : Act Unit := do
    try
      let _ ← importer full
    catch
      | .import (.noModule missing) =>
          if missing = full then pure () else Act.fail (.import (.noModule missing))
      | f => Act.fail f

/-- The names that a module gives to whoever imports all of it: those that it lists, or else those
    that do not start with an underscore. Listed names may be modules that a package does not hold
    yet. -/
def openNames (again : Caller) (importer : Importer) (m : ModuleId) :
    Act (List String) := do
  match ← declared? with
  | some v =>
      let w ← Act.world
      let r := w.modules.getD m { name := "" }
      match (if w.isBelow (w.typeOf v) "dict" || w.isBelow (w.typeOf v) "set" then none
        else w.runThrough? v) with
      | some xs =>
          let names ← xs.mapM fun x =>
            match w.opened x with
            | .text n => pure n
            | _ => Act.fail (.refused (.type ("Item in " ++ r.ownName ++
                ".__all__ must be str, not " ++ w.shownClass x)))
          importMembers again importer m names
          return names
      | none =>
          Act.fail (.refused (.type ("'" ++ w.shownClass v ++
            "' object does not support indexing")))
  | none =>
      let r := (← Act.world).modules.getD m { name := "" }
      return r.names.filter fun n => !Text.beginsWith "_" n
where
  /-- What the module lists, if it lists anything. -/
  declared? : Act (Option Value) := do
    try
      return some (← readHooked again (.module m) "__all__")
    catch f => do
      if f.isMissingAttribute (← Act.world) then return none else Act.fail f

/-- The name of the package that a module says it lies in. -/
def ownPackage (r : ModuleRecord) : Act String :=
  match r.attribute? "__package__" with
  | some (.text s) => return s
  | some .null | none => return ModuleRecord.packageOf r.name r.isPackage
  | some _ => Act.fail (.import .badPackage)

/-- The full name of the module that a relative import means. -/
def absoluteName (f : Frame) (level : Nat) (path : List String) : Act String := do
  if level = 0 then return Text.join "." path
  let w ← Act.world
  let package ← ownPackage (w.modules.getD f.globals { name := "" })
  if package = "" then Act.fail (.import .noParent)
  let parts := Text.split '.' package
  if parts.length < level then Act.fail (.import .beyondTop)
  return Text.join "." (parts.take (parts.length + 1 - level) ++ path)

/-- Carry out an import of modules. -/
def importItem (again : Caller) (importer : Importer) (f : Frame)
    (i : ImportItem) : Act Frame := do
  let m ← importer (Text.join "." i.path)
  match i.as?, i.path with
  | some n, _ :: rest => do
      let top ← importer (i.path.headD "")
      let v ← rest.foldlM (fun v part => do
        match v with
        | .module m => importedName again m part
        | v => readHooked again v part) (.module top)
      f.bind n v
  | _, [n] => f.bind n (.module m)
  | _, path => do
      let top ← importer (path.headD "")
      f.bind (path.headD "") (.module top)

end FragmentWeaver.Script
