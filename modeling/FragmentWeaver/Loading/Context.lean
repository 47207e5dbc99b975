import FragmentWeaver.Files.Tree
import FragmentWeaver.Staging.Layout

/-!
# Loading contexts

The scope in which the modules of one request are loaded. A context serves the packages of its
namespace and the compiled files in one directory; it remembers the number of every description it
gave out, by which it knows its own modules again. A closed context serves nothing.
-/

namespace FragmentWeaver

/-- Where a module comes from: a package is empty, every other module is a compiled file. -/
inductive ModuleSource where
  | package
  | artifact (file : Files.Path)
  deriving DecidableEq, Repr

/-- The description that a module is made from. -/
structure ModuleSpec where
  number : Nat
  name : String
  source : ModuleSource
  deriving DecidableEq, Repr

/-- What imports ask for the description of a module: a loading context, or something else that was
    there before and knows none of the modules that are served here. -/
inductive Finder where
  | context (c : Nat)
  | foreign (n : Nat)
  deriving DecidableEq, Repr

/-- The loading context that is asked. -/
def Finder.context? : Finder → Option Nat
  | .context c => some c
  | .foreign _ => none

/-- A loading context. -/
structure Context where
  root : Files.Path
  space : String
  /-- The descriptions that were given out, by the names they were asked for. -/
  given : List (String × List Nat) := []
  /-- The names that were loaded, in order. -/
  loaded : List String := []
  closed : Bool := false
  deriving Inhabited

namespace Context

/-- The names of a namespace and of everything above it. -/
def openings (parts : List String) : List (List String) :=
  (List.range parts.length).map fun i => parts.take (i + 1)

/-- The packages that a context serves. -/
def packages (c : Context) : List String :=
  (openings (Text.split '.' c.space)).map (Text.join ".")

/-- The directory of the compiled files. -/
def directory (c : Context) : Files.Path :=
  c.root.joinAll (Text.split '.' c.space)

/-- The descriptions that were given out for a name. -/
def givenFor (c : Context) (name : String) : List Nat :=
  (Assoc.find? c.given name).getD []

/-- Remember a description. -/
def give (c : Context) (name : String) (spec : Nat) : Context :=
  { c with given := Assoc.put c.given name (c.givenFor name ++ [spec]) }

/-- Where the module of a name comes from, if the context serves it. -/
def source? (c : Context) (files : Files.Tree) (cwd : List String) (name : String) :
    Except Fault (Option ModuleSource) :=
  if c.closed then .ok none
  else if c.packages.contains name then .ok (some .package)
  else
    let (parent, simple) := UnitId.partsOf name
    if parent ≠ c.space then .ok none
    else do
      let file := c.directory.join (simple ++ Staging.artifactSuffix)
      match ← files.probe cwd file with
      | some (.file _) => return some (.artifact file)
      | _ => return none

end Context

end FragmentWeaver
