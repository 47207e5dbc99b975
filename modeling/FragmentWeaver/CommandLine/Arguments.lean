import FragmentWeaver.CommandLine.Usage
import FragmentWeaver.Text.Character

/-!
# Options and operands

A command line is read word by word. A word that starts with a dash is an option, unless it is a
lone dash, a negative number or a word with a space in it that no option is meant by. A long option
may be cut short as long as only one is meant, and single letters may share a dash. What follows two
dashes alone is no option. Every command has one operand; it takes one word, or that word with all
words behind it.
-/

namespace FragmentWeaver.CommandLine

/-- An option: how it is written, and whether a value belongs to it. -/
structure OptionRule where
  names : List String
  takesValue : Bool
  deriving DecidableEq, Repr

/-- How an option is named in messages. -/
def OptionRule.title (o : OptionRule) : String :=
  Text.join "/" o.names

/-- What a command understands. -/
structure Rules where
  options : List OptionRule
  operand : String
  takesRest : Bool
  deriving Repr

/-- The ways to write options. -/
def Rules.written (r : Rules) : List (String × OptionRule) :=
  r.options.flatMap fun o => o.names.map fun n => (n, o)

/-- The option that is written exactly so. -/
def Rules.option? (r : Rules) (written : String) : Option OptionRule :=
  (r.written.find? fun (n, _) => n == written).map Prod.snd

/-- What a word that looks like an option means: an option, as it is written in full, with the value
    that was attached to it; or no option that is known. -/
inductive OptionWord where
  | known (o : OptionRule) (written : String) (attached : Option (List Char))
  | unknown
  deriving DecidableEq, Repr

/-- What a word is. -/
inductive Word where
  | operand
  | separator
  | option (w : OptionWord)
  deriving DecidableEq, Repr

/-- Is the text a negative number? A line feed at its end does not count. -/
def isNegativeNumber (cs : List Char) : Bool :=
  match cs with
  | '-' :: rest =>
      let rest := if rest.getLast? = some '\n' then rest.dropLast else rest
      let isDigit (c : Char) : Bool := (Text.digitValue? c).isSome
      match Text.cutFirst '.' rest with
      | none => !rest.isEmpty && rest.all isDigit
      | some (whole, part) => whole.all isDigit && !part.isEmpty && part.all isDigit
  | _ => false

/-- The options that a word may be short for. A word with one dash may also be a letter with its
    value attached. -/
def Rules.candidates (r : Rules) (cs : List Char) : List OptionWord :=
  if "--".toList.isPrefixOf cs then
    let (opening, attached) := match Text.cutFirst '=' cs with
      | some (opening, value) => (opening, some value)
      | none => (cs, none)
    (r.written.filter fun (n, _) => opening.isPrefixOf n.toList).map fun (n, o) =>
      .known o n attached
  else
    r.written.filterMap fun (n, o) =>
      if n.toList = cs.take 2 then some (.known o n (some (cs.drop 2)))
      else if cs.isPrefixOf n.toList then some (.known o n none)
      else none

/-- How an option word is written in full. -/
def OptionWord.written : OptionWord → String
  | .known _ n _ => n
  | .unknown => ""

/-- What a word is that is not two dashes. -/
def Rules.classify (r : Rules) (word : String) : Except UsageFault Word :=
  let cs := word.toList
  if cs.head? ≠ some '-' then .ok .operand
  else
    match r.option? word with
    | some o => .ok (.option (.known o word none))
    | none =>
        if cs.length = 1 then .ok .operand
        else
          let attached := do
            let (opening, value) ← Text.cutFirst '=' cs
            let o ← r.option? (String.ofList opening)
            return OptionWord.known o (String.ofList opening) (some value)
          match attached, r.candidates cs with
          | some w, _ => .ok (.option w)
          | none, [w] => .ok (.option w)
          | none, [] =>
              if isNegativeNumber cs || cs.contains ' ' then .ok .operand
              else .ok (.option .unknown)
          | none, ws => .error (.ambiguous word (ws.map OptionWord.written))

/-- What every word is. -/
def Rules.classifyAll (r : Rules) : List String → Except UsageFault (List (String × Word))
  | [] => .ok []
  | word :: rest =>
      if word = "--" then .ok ((word, .separator) :: rest.map fun w => (w, .operand))
      else do
        let w ← r.classify word
        return (word, w) :: (← r.classifyAll rest)

/-- What is given to an option. Two dashes that are attached to it are dropped, so that it is given
    nothing. -/
inductive Given where
  | text (s : String)
  | nothing
  deriving DecidableEq, Repr, Inhabited

/-- What an attached text gives. -/
def Given.ofAttached (cs : List Char) : Given :=
  if cs = ['-', '-'] then .nothing else .text (String.ofList cs)

/-- The text that was given; empty for nothing. -/
def Given.toText : Given → String
  | .text s => s
  | .nothing => ""

/-- What was found: an option with what is given to it, or the words of the operand. -/
inductive Found where
  | option (o : OptionRule) (value : Given)
  | operand (words : List String)
  deriving DecidableEq, Repr

/-- Is it the operand? -/
def Found.isOperand : Found → Bool
  | .operand _ => true
  | .option _ _ => false

/-- Read letters that share a dash, from an option with something attached to it. -/
def Rules.readAttached (r : Rules) (o : OptionRule) (written : String) :
    List Char → Except UsageFault (List Found × Option OptionRule)
  | [] =>
      if o.takesValue then .ok ([.option o (.text "")], none)
      else .error (.ignoredValue o.title "")
  | c :: rest =>
      if o.takesValue then .ok ([.option o (.ofAttached (c :: rest))], none)
      else if "--".toList.isPrefixOf written.toList then
        .error (.ignoredValue o.title (String.ofList (c :: rest)))
      else
        let letter := String.ofList ['-', c]
        match r.option? letter with
        | none => .error (.ignoredValue o.title (String.ofList (c :: rest)))
        | some next =>
            if rest.isEmpty then .ok ([.option o .nothing], some next)
            else do
              let (found, last) ← r.readAttached next letter rest
              return (.option o .nothing :: found, last)

/-- Read an option that has nothing attached: a value has to follow it if it needs one. What it
    means, and how many words were taken. -/
def readFollowed (o : OptionRule) (rest : List (String × Word)) :
    Except UsageFault (Found × Nat) :=
  if o.takesValue then
    match rest with
    | (value, .operand) :: _ => .ok (.option o (.text value), 1)
    | _ => .error (.noValue o.title)
  else .ok (.option o .nothing, 0)

/-- Read an option. What it means, and how many words behind it were taken. -/
def Rules.readOption (r : Rules) (o : OptionRule) (written : String)
    (attached : Option (List Char)) (rest : List (String × Word)) :
    Except UsageFault (List Found × Nat) :=
  match attached with
  | none => do
      let (found, taken) ← readFollowed o rest
      return ([found], taken)
  | some cs => do
      match ← r.readAttached o written cs with
      | (found, none) => return (found, 0)
      | (found, some last) =>
          let (next, taken) ← readFollowed last rest
          return (found ++ [next], taken)

/-- How many words the operand takes from here, if it stands here. Two dashes around it belong to
    it. -/
def Rules.operandSize? (r : Rules) (words : List (String × Word)) : Option Nat :=
  let isSeparator (w : String × Word) : Bool := w.2 = .separator
  let before := words.takeWhile isSeparator
  match words.dropWhile isSeparator with
  | (_, .operand) :: rest =>
      if r.takesRest then some words.length
      else some (before.length + 1 + (rest.takeWhile isSeparator).length)
  | _ => none

/-- The words of the operand. One that takes a single word drops two dashes beside it. -/
def Rules.operandWords (r : Rules) (words : List String) : List String :=
  if r.takesRest then words else words.erase "--"

/-- What words mean, up to the first fault; and that fault, or else the words that mean nothing. The
    first argument bounds the number of words. -/
def Rules.readWithin (r : Rules) :
    Nat → Bool → List (String × Word) → List Found × Except UsageFault (List String)
  | 0, _, words => ([], .ok (words.map Prod.fst))
  | _ + 1, _, [] => ([], .ok [])
  | work + 1, done, (word, .option .unknown) :: rest =>
      let (found, out) := r.readWithin work done rest
      (found, out.map (word :: ·))
  | work + 1, done, (_, .option (.known o written attached)) :: rest =>
      match r.readOption o written attached rest with
      | .error f => ([], .error f)
      | .ok (found, taken) =>
          let (more, out) := r.readWithin work done (rest.drop taken)
          (found ++ more, out)
  | work + 1, done, (word, w) :: rest =>
      match if done then none else r.operandSize? ((word, w) :: rest) with
      | none =>
          let (found, out) := r.readWithin work done rest
          (found, out.map (word :: ·))
      | some size =>
          let words := ((word, w) :: rest).take size
          let (found, out) := r.readWithin work true (((word, w) :: rest).drop size)
          (.operand (r.operandWords (words.map Prod.fst)) :: found, out)

/-- What words mean, up to the first fault; and that fault, or else the words that mean nothing. -/
def Rules.read (r : Rules) (words : List String) : List Found × Except UsageFault (List String) :=
  match r.classifyAll words with
  | .error f => ([], .error f)
  | .ok classified => r.readWithin words.length false classified

/-- Read the words of a command: `act` takes account of each thing that is found. The outcome, and
    the words that mean nothing to the command. -/
def Rules.interpret {σ : Type} (r : Rules) (program : String) (act : σ → Found → Except Exit σ)
    (start : σ) (words : List String) : Except Exit (σ × List String) := do
  let (found, out) := r.read words
  let s ← found.foldlM act start
  match out with
  | .error f => .error (.refused program f)
  | .ok extras =>
      if found.any Found.isOperand then return (s, extras)
      else .error (.refused program (.missing [r.operand]))

end FragmentWeaver.CommandLine
