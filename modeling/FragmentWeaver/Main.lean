import FragmentWeaver.CommandLine.Run

/-!
# The program

Reads the surroundings and the methods file, carries out the command line, prints what it has to
say, and writes the staged sources. Compiled code is kept in memory.
-/

namespace FragmentWeaver.Program

/-- The names of a path that starts at the root. -/
def namesFromRoot (path : String) : List String :=
  (Files.Path.parse path).names

/-- A tree with nothing but some directories, each with all directories above it. -/
def treeOfDirectories (paths : List (List String)) : Files.Tree :=
  paths.foldl (fun t names => (t.makeDirectory [] (Files.Path.ofRoot names)).2) []

/-- The settings that a user can make. -/
def settingNames : List String := [
  "CODEWEAVE_STAGING_DIR", "CODEWEAVE_PATH", "PYTHONWARNINGS", "PYTHONOPTIMIZE",
  "PYTHONINTMAXSTRDIGITS", "PYTHONDEVMODE"]

/-- What the run finds around it. -/
def readSurroundings : IO Surroundings := do
  let here ← IO.currentDir
  let temporary ← IO.getEnv "TMPDIR"
  let settings ← settingNames.filterMapM fun n => do
    return (← IO.getEnv n).map (n, ·)
  return { cwd := namesFromRoot here.toString
           temporary := temporary.getD "/tmp"
           interpreter := "python"
           environment := settings }

/-- The tree that a command line is carried out on: the directories of the surroundings, and the
    methods file if there is one. -/
def readTree (around : Surroundings) (task : CommandLine.Task) : IO Files.Tree := do
  let tree := treeOfDirectories [around.cwd, namesFromRoot around.temporary]
  match task with
  | .inline _ _ _ => return tree
  | .method file _ _ _ => do
      try
        let bytes ← IO.FS.readBinFile file
        let path := Files.Path.parse file
        let (_, tree) := tree.makeDirectory around.cwd path.parent
        return (tree.write around.cwd path (.bytes bytes.toList)).toOption.getD tree
      catch _ => return tree

/-- Write a text file that the run made. -/
def writeText (names : List String) (text : String) : IO Unit := do
  IO.FS.createDirAll (Files.Path.ofRoot names.dropLast).text
  IO.FS.writeFile (Files.Path.ofRoot names).text text

/-- Write the text files of a tree. -/
def writeTree (tree : Files.Tree) : IO Unit :=
  tree.forM fun (names, node) =>
    match node with
    | .file (.text s) => writeText names s
    | _ => pure ()

/-- Show what a run has to say. -/
def report (l : Loom) : IO Unit := do
  l.printed.forM IO.println
  l.log.forM fun r => IO.eprintln (r.level.name ++ " " ++ r.source ++ ": " ++ r.text)
  writeTree l.files

/-- Carry out a command line that was read. -/
def carryOut (r : CommandLine.Request) : IO UInt32 := do
  let around ← readSurroundings
  let files ← readTree around r.task
  match (CommandLine.run r).run { around := around, files := files } with
  | .ok code l => do
      report l
      return code.toUInt32
  | .error f l => do
      report l
      IO.eprintln (f.kind l.world ++ ": " ++ f.message l.world)
      return 1

end FragmentWeaver.Program

/-- Read the arguments and carry them out. -/
def main (arguments : List String) : IO UInt32 := do
  match FragmentWeaver.CommandLine.read arguments with
  | .ok r => FragmentWeaver.Program.carryOut r
  | .error e => do
      IO.eprintln e.message
      return e.code.toUInt32
