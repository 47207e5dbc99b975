import FragmentWeaver.CommandLine.Arguments
import FragmentWeaver.Document.Reader
import FragmentWeaver.Text.Character
import FragmentWeaver.Toolchain.TimeLimit

/-!
# Command lines

A command line asks for one of two things: to weave a fragment and call it once, or to weave the
methods in a file and call one of them. What both have in common comes before or behind that.
-/

namespace FragmentWeaver.CommandLine

/-- What a command line asks for. -/
inductive Task where
  /-- A binding that was given nothing is not there. -/
  | inline (fragment : String) (bindings : List (Option (String × Document)))
      (resultType : Option Given)
  | method (file : String) (call : Option Given) (arguments : List Given) (name : Option Given)
  deriving Inhabited

/-- A command line that was read. -/
structure Request where
  stagingDirectory : Option Given := none
  timeout : Option TimeLimit := none
  verbosity : Nat := 0
  imports : List Given := []
  showSource : Bool := false
  task : Task
  deriving Inhabited

/-- The name of the program. -/
def programName : String := "codeweave"

/-- The option that asks for help. -/
def helpOption : OptionRule := ⟨["-h", "--help"], false⟩

/-- The options that every task has, behind its own ones. -/
def sharedOptions : List OptionRule := [⟨["--import"], true⟩, ⟨["--show-source"], false⟩]

/-- What the program understands before the task. -/
def mainRules : Rules where
  options := [helpOption, ⟨["--staging-dir"], true⟩, ⟨["--timeout"], true⟩,
    ⟨["-v", "--verbose"], false⟩]
  operand := "command"
  takesRest := true

/-- What is understood behind `inline`. -/
def inlineRules : Rules where
  options := [helpOption, ⟨["--bind"], true⟩, ⟨["--result-type"], true⟩] ++ sharedOptions
  operand := "fragment"
  takesRest := false

/-- What is understood behind `method`. -/
def methodRules : Rules where
  options := [helpOption, ⟨["--call"], true⟩, ⟨["--arg"], true⟩, ⟨["--name"], true⟩] ++
    sharedOptions
  operand := "file"
  takesRest := false

/-- A binding from its text: a name, an equals sign, and a document or a plain text. -/
def readBinding? (s : String) : Option (String × Document) :=
  match Text.cutFirst '=' s.toList with
  | none => none
  | some (name, value) =>
      let name := Text.strip (String.ofList name)
      if name = "" then none else some (name, Document.ofArgument (String.ofList value))

/-- Take account of an option that every task has. -/
def takeShared (r : Request) : Found → Except Exit Request
  | .option ⟨["-h", "--help"], _⟩ _ => .error .help
  | .option ⟨["--import"], _⟩ value => .ok { r with imports := r.imports ++ [value] }
  | .option ⟨["--show-source"], _⟩ _ => .ok { r with showSource := true }
  | _ => .ok r

/-- Take account of something found behind `inline`. -/
def takeInline (program : String) (r : Request) (f : Found) : Except Exit Request :=
  match r.task, f with
  | .inline _ bindings resultType, .operand words =>
      .ok { r with task := .inline (words.headD "") bindings resultType }
  | .inline fragment bindings resultType, .option ⟨["--bind"], _⟩ .nothing =>
      .ok { r with task := .inline fragment (bindings ++ [none]) resultType }
  | .inline fragment bindings resultType, .option ⟨["--bind"], _⟩ (.text value) =>
      match readBinding? value with
      | none => .error (.refused program (.badBinding "--bind" value))
      | some b => .ok { r with task := .inline fragment (bindings ++ [some b]) resultType }
  | .inline fragment bindings _, .option ⟨["--result-type"], _⟩ value =>
      .ok { r with task := .inline fragment bindings (some value) }
  | _, f => takeShared r f

/-- Take account of something found behind `method`. -/
def takeMethod (r : Request) (f : Found) : Except Exit Request :=
  match r.task, f with
  | .method _ call arguments name, .operand words =>
      .ok { r with task := .method (words.headD "") call arguments name }
  | .method file _ arguments name, .option ⟨["--call"], _⟩ value =>
      .ok { r with task := .method file (some value) arguments name }
  | .method file call arguments name, .option ⟨["--arg"], _⟩ value =>
      .ok { r with task := .method file call (arguments ++ [value]) name }
  | .method file call arguments _, .option ⟨["--name"], _⟩ value =>
      .ok { r with task := .method file call arguments (some value) }
  | _, f => takeShared r f

/-- What was read before the task, and then the task with the words that mean nothing. -/
structure Opening where
  stagingDirectory : Option Given := none
  timeout : Option TimeLimit := none
  verbosity : Nat := 0
  rest : Option (Request × List String) := none

/-- Take account of something found before the task, or of the task. -/
def takeMain (o : Opening) : Found → Except Exit Opening
  | .option ⟨["-h", "--help"], _⟩ _ => .error .help
  | .option ⟨["--staging-dir"], _⟩ value => .ok { o with stagingDirectory := some value }
  | .option ⟨["--timeout"], _⟩ .nothing => .ok { o with timeout := some .nothing }
  | .option ⟨["--timeout"], _⟩ (.text value) =>
      match Number.read? value with
      | some x => .ok { o with timeout := some (.fraction x) }
      | none => .error (.refused programName (.badNumber "--timeout" value))
  | .option _ _ => .ok { o with verbosity := o.verbosity + 1 }
  | .operand ("inline" :: words) => do
      let program := programName ++ " inline"
      let r ← inlineRules.interpret program (takeInline program)
        { task := .inline "" [] none } words
      return { o with rest := some r }
  | .operand ("method" :: words) => do
      let r ← methodRules.interpret (programName ++ " method") takeMethod
        { task := .method "" none [] none } words
      return { o with rest := some r }
  | .operand words =>
      .error (.refused programName (.badChoice "command" (words.headD "") ["inline", "method"]))

/-- Read a command line. -/
def read (words : List String) : Except Exit Request := do
  let (o, extras) ← mainRules.interpret programName takeMain {} words
  match o.rest with
  | none => .error (.refused programName (.missing [mainRules.operand]))
  | some (r, more) =>
      if (extras ++ more).isEmpty then
        return { r with
          stagingDirectory := o.stagingDirectory, timeout := o.timeout, verbosity := o.verbosity }
      else .error (.refused programName (.unrecognized (extras ++ more)))

end FragmentWeaver.CommandLine
