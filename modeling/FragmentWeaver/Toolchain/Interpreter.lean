import FragmentWeaver.Files.Glob
import FragmentWeaver.Loom
import FragmentWeaver.Script.Compile
import FragmentWeaver.Staging.Layout
import FragmentWeaver.Toolchain.Compilation
import FragmentWeaver.Toolchain.TimeLimit
import FragmentWeaver.Toolchain.Warnings

/-!
# Compiling in an interpreter of its own

The source of a unit is compiled together with the sources of its helpers. Every source that keeps
the rules of the language becomes a compiled file of the same stem; the others are reported, and one
of them is enough for the whole to fail.
-/

namespace FragmentWeaver

open Files (Path Tree)

/-- How an interpreter is started to compile. -/
structure Interpreter where
  /-- The program; the one that is running when none is named. -/
  program : String := ""
  /-- How much is optimised; the interpreter's own choice when nothing is said. -/
  optimize : Option Int := none
  limit : Option TimeLimit := none
  options : List String := []
  deriving DecidableEq, Repr, Inhabited

namespace Interpreter

/-- The program that is started. -/
def programIn (i : Interpreter) (around : Surroundings) : String :=
  if i.program = "" then around.interpreter else i.program

/-- How much is optimised, as a number; minus one leaves it to the interpreter. -/
def level (i : Interpreter) : Int :=
  i.optimize.getD (-1)

/-- Sources with the compiled files that belong to them. -/
def targets (sources : List Path) (directory : Path) : List (Path × Path) :=
  sources.map fun s => (s, Staging.artifactFor directory s)

/-- The command that compiles sources; `script` is what the interpreter is told to do with them. -/
def command (i : Interpreter) (around : Surroundings) (script : String) (sources : List Path)
    (directory : Path) : List String :=
  [i.programIn around] ++ i.options ++ ["-c", script, Number.wholeText i.level] ++
    (targets sources directory).flatMap fun (s, a) => [s.text, a.text]

/-- What the script finds as its arguments when a command without options is carried out: a mark that
    it was handed over as a text, and what stands behind it. -/
def scriptArguments : List String → List String
  | _ :: "-c" :: _ :: rest => "-c" :: rest
  | _ => []

/-- Every second of some texts, from the first one on. -/
def everySecond : List String → List String
  | [] => []
  | [s] => [s]
  | s :: _ :: rest => s :: everySecond rest

/-- The sources and compiled files that the script reads from its arguments. -/
def pairsRead (arguments : List String) : List (String × String) :=
  (everySecond (arguments.drop 2)).zip (everySecond (arguments.drop 3))

/-- What the options of the interpreter set. -/
def settings (i : Interpreter) : Options :=
  Options.read {} i.options

/-- Are the checks in the sources kept? -/
def keepsChecks (i : Interpreter) (around : Surroundings) : Bool :=
  if i.level = -1 then i.settings.optimization around = 0 else i.level ≤ 0

/-- Can the program be started? -/
def start (t : Tree) (around : Surroundings) (program : String) : Except FileFault Unit :=
  let fail (c : FileCause) : Except FileFault Unit := .error ⟨c, program⟩
  if program = around.interpreter then .ok ()
  else if !program.toList.contains '/' then fail .notFound
  else
    match t.stat around.cwd (.parse program) with
    | .ok _ => fail .denied
    | .error c => fail c

/-- How sources are compiled: whether their checks are kept, how many digits decimal numbers in them
    may have, and what is done with remarks about them. -/
structure Manner where
  checks : Bool
  digits : Nat
  rules : WarningRules

/-- The lines of a source. -/
def sourceLines (bytes : List UInt8) : List String :=
  match Script.sourceText? bytes with
  | some text => Text.split '\n' (String.ofList (Text.unifyLineEnds text.toList))
  | none => []

/-- Compile one source: what is shown about it, what has been shown once by then, and the tree with
    the compiled file. -/
def compileOne (t : Tree) (cwd : List String) (manner : Manner) (told : List String)
    (source target : Path) : Except Rejection ((List String × List String) × Tree) :=
  if t.isDirectory cwd target then .error (.file .exists)
  else
    match t.contents cwd source with
    | .error (.file f) => .error (.file f.cause)
    | .error _ => .error (.file .notFound)
    | .ok c =>
        match Script.compile c.asBytes source.text manner.checks manner.digits with
        | .error f => .error (.source f)
        | .ok (a, remarks) =>
            match manner.rules.shown? source (sourceLines c.asBytes) told remarks with
            | none => .error (.source .malformed)
            | some shown =>
                match t.write cwd target (.artifact a) with
                | .ok t => .ok (shown, t)
                | .error (.file f) => .error (.file f.cause)
                | .error _ => .error (.file .notFound)

/-- What became of several sources: the rejected ones, and what was shown about the others. -/
structure Yield where
  rejected : List (String × Rejection) := []
  shown : List String := []

/-- Compile sources one after the other. A rejected source does not keep the next one from being
    compiled, but files that are in the way end the run. -/
def compileAll (t : Tree) (cwd : List String) (manner : Manner) (told : List String) :
    List (Path × Path) → Yield × Tree
  | [] => ({}, t)
  | (source, target) :: rest =>
      match compileOne t cwd manner told source target with
      | .ok ((shown, told), t) =>
          let (y, t) := compileAll t cwd manner told rest
          ({ y with shown := shown ++ y.shown }, t)
      | .error (.source f) =>
          let (y, t) := compileAll t cwd manner told rest
          ({ y with rejected := (source.name, .source f) :: y.rejected }, t)
      | .error (.file c) => ({ rejected := [(source.name, .file c)] }, t)

/-- Compile sources as the options and the user say. -/
def carryOut (i : Interpreter) (t : Tree) (around : Surroundings) (source directory : Path)
    (sources : List Path) : Compilation × Tree :=
  let options := i.settings
  match options.digits around with
  | .error said => (.failed source said, t)
  | .ok digits =>
      let (rules, said) := WarningRules.read (options.allWarnings around)
      let pairs := targets sources directory
      let (y, t) := compileAll t around.cwd ⟨i.keepsChecks around, digits, rules⟩ [] pairs
      if y.rejected.isEmpty then
        ({ success := true
           report := Text.strip (Text.join "\n" (said ++ y.shown))
           artifacts := pairs.map Prod.snd }, t)
      else (.refused source y.rejected, t)

/-- What an interpreter says about a module that it is started for instead of the script. -/
def moduleRefusal? (name : String) : Option String :=
  let (parent, _) := UnitId.partsOf name
  if Text.beginsWith "." name then some "Relative module names not supported"
  else if Standard.isPackage name then
    some ("No module named " ++ name ++ ".__main__; '" ++ name ++
      "' is a package and cannot be directly executed")
  else if [.builtIn, .extension].contains (Standard.origin name) then
    some ("No code object available for " ++ name)
  else if Standard.isModule name then none
  else if parent = "" || Standard.isPackage parent then
    some ("No module named " ++ name)
  else
    some ("Error while finding module specification for '" ++ name ++ "' (ModuleNotFoundError: " ++
      (if Standard.isModule parent then
        "__path__ attribute not found on '" ++ parent ++ "' while trying to find '" ++ name ++ "')"
      else "No module named '" ++ parent ++ "')"))

/-- What an interpreter says about a file that it is started for instead of the script. -/
def fileRefusal? (t : Tree) (cwd : List String) (name : String) : Option String :=
  let place := (Path.ofRoot cwd).append (.parse name)
  match t.stat cwd place with
  | .ok .directory =>
      some ("can't find '__main__' module in " ++ Text.quote place.text)
  | .ok _ => none
  | .error c =>
      some ("can't open file " ++ Text.quote place.text ++ ": [Errno " ++ toString c.number ++
        "] " ++ c.message)

/-- Do what an interpreter is started for. Unless that is the script, nothing is compiled, and when
    nothing goes wrong nobody notices. -/
def run (i : Interpreter) (t : Tree) (around : Surroundings) (source directory : Path)
    (sources : List Path) : Compilation × Tree :=
  let program := i.programIn around
  let unnoticed : Compilation :=
    { success := true, artifacts := (targets sources directory).map Prod.snd }
  let told (said? : Option String) : Compilation :=
    match said? with
    | some said => .failed source (Text.strip (program ++ ": " ++ said))
    | none => unnoticed
  match i.settings.errand with
  | .script => i.carryOut t around source directory sources
  | .tell | .input => (unnoticed, t)
  | .misuse said => (.failed source (said ++ "\n" ++ Options.usage program), t)
  | .module name => (told (moduleRefusal? name), t)
  | .file name => (told (fileRefusal? t around.cwd name), t)
  | .command text =>
      match Script.compile text.toUTF8.data.toList "<string>" true with
      | .ok _ => (unnoticed, t)
      | .error f => (.refused source [("<string>", .source f)], t)

/-- The source of a unit and those of its helpers beside it, in order. -/
def sourcesBeside (t : Tree) (cwd : List String) (source : Path) : Except Fault (List Path) := do
  return source :: (← t.glob cwd source.parent
    (Staging.helperPattern source.stem Staging.sourceSuffix))

/-- Does the interpreter run out of time? -/
def expires (i : Interpreter) : Except Fault (Option TimeLimit) :=
  match i.limit with
  | none => .ok none
  | some l => return if ← l.expires then some l else none

/-- Compile the source of a unit and those of its helpers into a directory. -/
def compile (i : Interpreter) (t : Tree) (around : Surroundings) (source directory : Path) :
    Except Fault Compilation × Tree :=
  match sourcesBeside t around.cwd source with
  | .error f => (.error f, t)
  | .ok sources =>
      match t.makeDirectory around.cwd directory with
      | (.error (.file f), t) => (.ok (.failed source f.message), t)
      | (.error f, t) => (.error f, t)
      | (.ok (), t) =>
          match start t around (i.programIn around) with
          | .error f => (.ok (.failed source f.message), t)
          | .ok () =>
              match i.expires with
              | .error f => (.error f, t)
              | .ok (some l) =>
                  (.ok (.failed source ("timed out after " ++ l.text ++ "s")), t)
              | .ok none =>
                  let (c, t) := i.run t around source directory sources
                  (.ok c, t)

end Interpreter

/-! ## Toolchains

What compiles the source of a unit: an interpreter, or a stand-in that only keeps the calls and
always gives the same answer. -/

/-- Compiles a source, given a search path and a directory for the compiled files. -/
structure Toolchain where
  compile : Files.Path → String → Files.Path → Run Compilation

/-- Compile in an interpreter. -/
def Interpreter.toolchain (i : Interpreter) : Toolchain where
  compile source _ directory := Run.withFiles fun t around => i.compile t around source directory

/-- Keep the call and give a fixed answer. -/
def Toolchain.answering (answer : Compilation) : Toolchain where
  compile source searchPath directory := do
    modify fun s => { s with calls := s.calls ++ [⟨source.text, searchPath, directory.text⟩] }
    return answer

end FragmentWeaver
