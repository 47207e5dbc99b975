import FragmentWeaver.Fault
import FragmentWeaver.Files.Path
import FragmentWeaver.Surroundings
import FragmentWeaver.Unit.Id

/-!
# Where the files of a unit stand

Below the staging root every part of a namespace is a directory. A unit has a source of its own name
there, and beside it the sources of its helpers, whose names start with that of the unit and two
underscores. The compiled files have the same stems.
-/

namespace FragmentWeaver.Staging

/-- What stands between the name of a unit and that of a helper. -/
def helperMark : String := "__"

/-- The suffix of sources. -/
def sourceSuffix : String := ".py"

/-- The suffix of compiled files. -/
def artifactSuffix : String := ".pyc"

/-- The staging root when a request names none: the directory a user set, or else the one for
    temporary files. -/
def standardRoot (around : Surroundings) : Files.Path :=
  let chosen := around.stagingDirectory.getD ""
  .parse (if chosen = "" then around.temporary else chosen)

/-- The directory of a unit. -/
def directory (root : Files.Path) (u : UnitId) : Files.Path :=
  root.joinAll (Text.split '.' u.space)

/-- The source of a unit. -/
def sourcePath (root : Files.Path) (u : UnitId) : Files.Path :=
  (directory root u).join (u.name ++ sourceSuffix)

/-- The source of a helper of a unit. -/
def helperPath (root : Files.Path) (u : UnitId) (helper : String) : Files.Path :=
  (directory root u).join (u.name ++ helperMark ++ helper ++ sourceSuffix)

/-- The compiled file of a unit in a directory. -/
def artifactPath (directory : Files.Path) (u : UnitId) : Files.Path :=
  directory.join (u.name ++ artifactSuffix)

/-- The compiled file that belongs to a source. -/
def artifactFor (directory source : Files.Path) : Files.Path :=
  directory.join (source.stem ++ artifactSuffix)

/-- The pattern of the helpers of a name, with a suffix. -/
def helperPattern (name suffix : String) : String :=
  name ++ helperMark ++ "*" ++ suffix

/-- The directory that the namespace of a unit starts from, found from the source of the unit, which
    has to be a path that there can be. -/
def sourceRoot (cwd : List String) (source : Files.Path) (u : UnitId) :
    Except Fault Files.Path :=
  if source.isUnusable then .error .nullCharacter
  else
    .ok ((Text.split '.' u.space).foldl (fun d _ => d.parent)
      (Files.Path.ofRoot (source.resolve cwd)).parent)

end FragmentWeaver.Staging
