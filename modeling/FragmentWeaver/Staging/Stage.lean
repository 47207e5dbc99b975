import FragmentWeaver.Files.Glob
import FragmentWeaver.Log
import FragmentWeaver.Staging.Layout

/-!
# Staging units

A unit is staged by writing its source and those of its helpers; sources of helpers that an earlier
unit of the same name left behind are deleted first. Compiled files of an earlier unit are deleted
too, as far as they can be. What was done before a step failed stays done.
-/

namespace FragmentWeaver.Staging

open Files (Path Tree)

/-- Delete files one after the other; one that is not there is fine. -/
def deleteAll (t : Tree) (cwd : List String) : List Path → Except Fault Unit × Tree
  | [] => (.ok (), t)
  | p :: rest =>
      match t.delete cwd p with
      | .ok t => deleteAll t cwd rest
      | .error (.file ⟨.notFound, _⟩) => deleteAll t cwd rest
      | .error f => (.error f, t)

/-- Write files one after the other. -/
def writeAll (t : Tree) (cwd : List String) : List (Path × String) → Except Fault Unit × Tree
  | [] => (.ok (), t)
  | (p, text) :: rest =>
      match t.write cwd p (.text text) with
      | .ok t => writeAll t cwd rest
      | .error f => (.error f, t)

/-- The sources of a unit and its helpers by their paths. -/
def sources (root : Path) (u : UnitId) (source : String) (helpers : List (String × String)) :
    List (Path × String) :=
  (sourcePath root u, source) :: helpers.map fun (name, text) => (helperPath root u name, text)

/-- Stage a unit; the path of its source. -/
def stage (t : Tree) (cwd : List String) (root : Path) (u : UnitId) (source : String)
    (helpers : List (String × String)) : Except Fault Path × Tree :=
  match t.makeDirectory cwd (directory root u) with
  | (.error f, t) => (.error f, t)
  | (.ok (), t) =>
      match t.glob cwd (directory root u) (helperPattern u.name sourceSuffix) with
      | .error f => (.error f, t)
      | .ok stale =>
          match deleteAll t cwd stale with
          | (.error f, t) => (.error f, t)
          | (.ok (), t) =>
              let (r, t) := writeAll t cwd (sources root u source helpers)
              (r.map fun _ => sourcePath root u, t)

/-- The compiled files of a unit in a directory: its own one, then those of its helpers in order. -/
def artifacts (t : Tree) (cwd : List String) (u : UnitId) (directory : Path) :
    Except Fault (List Path) := do
  let helpers ← t.glob cwd directory (helperPattern u.name artifactSuffix)
  let own := artifactPath directory u
  return (if (← t.probe cwd own).isSome then [own] else []) ++ helpers

/-- What is reported when a compiled file cannot be deleted. -/
def staleRecord (p : Path) (f : FileFault) : LogRecord :=
  ⟨.warning, "codeweave.runtime.compiler",
    "Failed to delete stale artifact " ++ p.text ++ ": " ++ f.message⟩

/-- Delete the files that can be deleted; which ones they were, and reports about the others. -/
def deleteStale (t : Tree) (cwd : List String) :
    List Path → Except Fault (List Path) × Tree × List LogRecord
  | [] => (.ok [], t, [])
  | p :: rest =>
      match t.delete cwd p with
      | .ok t =>
          let (r, t, log) := deleteStale t cwd rest
          (r.map (p :: ·), t, log)
      | .error (.file f) =>
          let (r, t, log) := deleteStale t cwd rest
          (r, t, staleRecord p f :: log)
      | .error f => (.error f, t, [])

/-- Delete the compiled files that an earlier unit of the same name left behind; which ones were
    deleted. -/
def purge (t : Tree) (cwd : List String) (root : Path) (u : UnitId) :
    Except Fault (List Path) × Tree × List LogRecord :=
  match artifacts t cwd u (directory root u) with
  | .error f => (.error f, t, [])
  | .ok stale => deleteStale t cwd stale

end FragmentWeaver.Staging
