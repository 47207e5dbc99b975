import FragmentWeaver.Files.Path
import FragmentWeaver.Script.Token
import FragmentWeaver.Fault

/-!
# Outcomes of compiling

What a toolchain says about the sources of a unit: whether all of them were compiled, why not, and
which compiled files there are.
-/

namespace FragmentWeaver

/-- Why one source is not compiled: it keeps no rule of the language, or its files are in the
    way. -/
inductive Rejection where
  | source (f : Script.SourceFault)
  | file (c : FileCause)
  deriving DecidableEq, Repr

/-- The word for a rejection. -/
def Rejection.name : Rejection → String
  | .source f => f.name
  | .file c => c.kind

/-- The outcome of compiling a unit. -/
structure Compilation where
  success : Bool
  report : String := ""
  /-- The sources that were rejected, by the names of their files. -/
  rejected : List (String × Rejection) := []
  artifacts : List Files.Path := []
  deriving DecidableEq, Repr, Inhabited

namespace Compilation

/-- The line about a rejected source. -/
def rejectionLine (file : String) (r : Rejection) : String :=
  file ++ ": " ++ r.name

/-- All that is said about the sources. -/
def diagnostics (c : Compilation) : String :=
  Text.join "\n" (c.report :: c.rejected.map fun (file, r) => rejectionLine file r)

/-- The opening of every failure. -/
def failureTitle (source : Files.Path) : String :=
  "Could not compile " ++ source.text ++ ":"

/-- Nothing was compiled, for a reason outside the sources. -/
def failed (source : Files.Path) (reason : String) : Compilation :=
  { success := false, report := failureTitle source ++ "\n" ++ reason }

/-- Some sources were rejected. -/
def refused (source : Files.Path) (rejected : List (String × Rejection)) : Compilation :=
  { success := false, report := failureTitle source, rejected := rejected }

end Compilation

end FragmentWeaver
