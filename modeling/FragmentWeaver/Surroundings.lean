import FragmentWeaver.Assoc

/-!
# Surroundings

What a run finds around it and does not change.
-/

namespace FragmentWeaver

/-- The directory a run works in, the one for temporary files, the interpreter, the directories that
    modules are imported from, and the settings that a user made, by their names. -/
structure Surroundings where
  cwd : List String := []
  temporary : String := "/tmp"
  interpreter : String := "python"
  importPath : List String := []
  environment : List (String × String) := []
  deriving Inhabited

namespace Surroundings

/-- A setting that the user made. -/
def setting? (around : Surroundings) (name : String) : Option String :=
  Assoc.find? around.environment name

/-- The directory to stage units in that the user chose. -/
def stagingDirectory (around : Surroundings) : Option String :=
  around.setting? "CODEWEAVE_STAGING_DIR"

/-- More directories to search, with colons between them. -/
def searchDirectories (around : Surroundings) : String :=
  (around.setting? "CODEWEAVE_PATH").getD ""

end Surroundings

end FragmentWeaver
