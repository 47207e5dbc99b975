import FragmentWeaver.World

/-!
# Descriptions of modules

What the description that a module was made from says of it, and what the loader of a module knows. A
description is told anew every time, so its lists are new ones.
-/

namespace FragmentWeaver

/-- What the description of a module says: its name and loader, where it comes from, the compiled file,
    what its loader keeps about it, where its modules are looked for, whether it has a file of its own,
    and whether its body is being run, if that was ever noted. -/
structure Description where
  name : String
  loader : Value
  origin : Option String
  cached : Option String
  state : Option (List (String × Value)) := none
  places : Option (List Value) := none
  located : Bool
  starting : Option Bool := none

/-- A text that may be missing. -/
def Value.ofText? (s : Option String) : Value := (s.map Value.text).getD .null

namespace World

/-- The modules whose descriptions do not note that they are being run. -/
def firstModules : List String := ["sys", "builtins", "_frozen_importlib"]

/-- The description of a standard module. -/
def standardDescription (table : String) : Description :=
  let table := Standard.listedName table
  let isFrozen := Standard.origin table = .frozen
  { name := Standard.ownName table
    loader := (Standard.placeMember? table "__loader__").getD .null
    origin := match Standard.origin table with
      | .builtIn => some "built-in"
      | .frozen => some "frozen"
      | _ => Standard.file? table
    cached := Standard.cached? table
    state := if isFrozen then
        some [("filename", if table = "_frozen_importlib" then .null
            else .ofText? (Standard.file? table)), ("origname", .text (Standard.ownName table))]
      else none
    places := if Standard.isPackage table then some [.text (Standard.stemOf table)] else none
    located := !isFrozen && Standard.origin table ≠ .builtIn
    starting := if firstModules.contains table then none else some false }

/-- The description of a module that was made from one. -/
def recordDescription (r : ModuleRecord) : Description where
  name := r.name
  loader := r.loader
  origin := r.file
  cached := r.file
  places := if r.package then some [] else none
  located := r.file.isSome
  starting := if r.starting then some true else none

/-- The description that a value stands for. -/
def description? (w : World) : Value → Option Description
  | .spec n => (w.modules.find? fun r => r.spec = some n).map recordDescription
  | .native (.other table c _) =>
      if c = .standard Standard.specClass then some (standardDescription table) else none
  | _ => none

/-- A list that may be missing. -/
def newListOf? (w : World) : Option (List Value) → Value × World
  | some vs => w.newList vs
  | none => (.null, w)

/-- What a description holds, in order. -/
def descriptionEntries (w : World) (d : Description) : List (String × Value) × World :=
  let (state, w) := match d.state with
    | some parts => w.allocate (.instance parts) (.standard "types.SimpleNamespace")
    | none => (.null, w)
  let (places, w) := w.newListOf? d.places
  let (underway, w) := w.newList []
  ([("name", .text d.name), ("loader", d.loader), ("origin", .ofText? d.origin),
    ("loader_state", state), ("submodule_search_locations", places),
    ("_uninitialized_submodules", underway), ("_set_fileattr", .truth d.located),
    ("_cached", .ofText? d.cached)] ++
    (d.starting.map fun b => ("_initializing", Value.truth b)).toList, w)

/-- What a description says under a name. -/
def descriptionPart? (w : World) (d : Description) (name : String) : Option (Value × World) :=
  let (parts, w') := w.descriptionEntries d
  match name with
  | "cached" => some (.ofText? d.cached, w)
  | "has_location" => some (.truth d.located, w)
  | "parent" => some (.text (ModuleRecord.packageOf d.name d.places.isSome), w)
  | "__dict__" =>
      some (w'.allocate (.entries (parts.map fun (n, v) => (.text n, v))) (.standard "dict"))
  | name => (Assoc.find? parts name).map fun v => (v, w')

/-- What a loader with a file knows, in order. -/
def loaderParts : Native → List (String × Value)
  | .other name _ (.file path) => [("name", .text name), ("path", .text path)]
  | _ => []

end World

end FragmentWeaver
