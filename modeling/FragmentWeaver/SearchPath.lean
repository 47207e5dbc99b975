import FragmentWeaver.Distinct
import FragmentWeaver.Files.Tree
import FragmentWeaver.Surroundings

/-!
# Search paths

A search path is a text of entries with colons between them. The one that a compiler is handed
starts from the directories that modules are imported from, goes on with the directories a user
named, each followed by the archives in it, and ends with what was asked for besides. No entry is
empty and none is there twice.

Archives are files that modules can be imported from. They are known by their suffix. A search goes
through a directory in the order of its names and passes over hidden names, but not over a hidden
file or directory that it is started at.
-/

namespace FragmentWeaver.Files

/-- The suffixes of archives. -/
def archiveSuffixes : List String := [".zip", ".whl", ".egg"]

/-- Is the path that of an archive? -/
def Path.isArchive (p : Path) : Bool :=
  archiveSuffixes.contains p.suffix

/-- Is the name hidden? -/
def isHidden (name : String) : Bool :=
  Text.beginsWith "." name

namespace Tree

/-- The archives at and below a path, nested to a given depth. A path that is too long to be looked at
    is a fault. -/
def archivesWithin (t : Tree) (cwd : List String) : Nat → Path → Except Fault (List Path)
  | depth, p => do
      match ← t.probe cwd p with
      | some (.file _) => return if p.isArchive then [p] else []
      | some .directory =>
          match depth with
          | 0 => return []
          | depth + 1 =>
              List.flatten <$> ((t.list cwd p).filter fun n => !isHidden n).mapM fun n =>
                t.archivesWithin cwd depth (p.child n)
      | none => return []

/-- The archives at and below a path. -/
def archives (t : Tree) (cwd : List String) (p : Path) : Except Fault (List Path) :=
  t.archivesWithin cwd t.length p

end Tree

end FragmentWeaver.Files

namespace FragmentWeaver.SearchPath

/-- Put an entry behind a search path; an empty side adds nothing. -/
def append (path entry : String) : String :=
  if entry = "" then path else if path = "" then entry else path ++ ":" ++ entry

/-- A search path of some entries. -/
def ofEntries (entries : List String) : String :=
  entries.foldl append ""

/-- A named directory and the archives in it. -/
def withArchives (files : Files.Tree) (cwd : List String) (directory : String) :
    Except Fault (List String) := do
  return directory :: (← files.archives cwd (.parse directory)).map Files.Path.text

/-- The directories that a user named. -/
def named (around : Surroundings) : List String :=
  (Text.split ':' around.searchDirectories).filter (· ≠ "")

/-- Everything that belongs on the search path, with repetitions. -/
def sources (files : Files.Tree) (around : Surroundings) (extra : List String) :
    Except Fault (List String) := do
  let found ← (named around).mapM (withArchives files around.cwd)
  return around.importPath.filter (· ≠ "") ++ found.flatten ++ extra

/-- The search path for a compiler. -/
def standard (files : Files.Tree) (around : Surroundings) (extra : List String) :
    Except Fault String := do
  return ofEntries (distinct (← sources files around extra))

end FragmentWeaver.SearchPath
