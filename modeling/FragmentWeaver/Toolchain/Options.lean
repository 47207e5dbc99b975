import FragmentWeaver.Number.Based
import FragmentWeaver.Number.Decimal
import FragmentWeaver.Surroundings
import FragmentWeaver.Text.Split

/-!
# Options of an interpreter

An interpreter reads its options one after the other, up to the first word that is none. Options say
how it works and what it is started for: as a rule the script that is given along, but an option may
name something else first, or may be refused.
-/

namespace FragmentWeaver

/-- What an interpreter is started for. -/
inductive Errand where
  /-- What it was meant for. -/
  | script
  /-- To tell something about itself. -/
  | tell
  /-- A command that was given before the script. -/
  | command (text : String)
  | module (name : String)
  | file (name : String)
  /-- What it is fed with. -/
  | input
  /-- Nothing, as an option is refused; what is said then. -/
  | misuse (said : String)
  deriving DecidableEq, Repr, Inhabited

/-- What the options of an interpreter set. -/
structure Options where
  errand : Errand := .script
  /-- How often optimising was asked for. -/
  optimized : Nat := 0
  warnings : List String := []
  features : List String := []
  /-- Are the settings of the user left aside? -/
  isolated : Bool := false
  deriving DecidableEq, Repr, Inhabited

namespace Options

/-- The switches without a value. -/
def switches : List Char := "bBdEhiIOPqRsStuvVx?".toList

/-- The switches whose value follows. -/
def valued : List Char := "cmWX".toList

/-- Options that only tell something. -/
def telling : List String := ["--help", "--version", "--help-all", "--help-env", "--help-xoptions"]

/-- The option for checking compiled files, and its values. -/
def checkOption : String × List String :=
  ("--check-hash-based-pycs", ["always", "default", "never"])

/-- Refuse an option. -/
def refuse (o : Options) (said : String) : Options :=
  { o with errand := .misuse said }

/-- Tell something, unless something was refused. -/
def tell (o : Options) : Options := { o with errand := .tell }

/-- Set the errand, unless the interpreter tells something. -/
def setErrand (o : Options) (e : Errand) : Options :=
  if o.errand = .tell then o else { o with errand := e }

/-- Set a switch. -/
def switch (o : Options) (c : Char) : Options :=
  if c = 'O' then { o with optimized := o.optimized + 1 }
  else if c = 'h' || c = '?' || c = 'V' then o.tell
  else if c = 'E' || c = 'I' then { o with isolated := true }
  else o

/-- What one word of options leads to: the next word is read, or it is the value of a switch, or
    nothing more is read. -/
inductive Step where
  | next (o : Options)
  | value (o : Options) (c : Char)
  | stop (o : Options)

/-- Set a switch with its value. -/
def set (o : Options) (c : Char) (value : String) : Step :=
  match c with
  | 'c' => .stop (o.setErrand (.command value))
  | 'm' => .stop (o.setErrand (.module value))
  | 'W' => .next { o with warnings := o.warnings ++ [value] }
  | _ => .next { o with features := o.features ++ [value] }

/-- Read the switches in a word. -/
def readSwitches (o : Options) : List Char → Step
  | [] => .next o
  | c :: cs =>
      if valued.contains c then
        if cs.isEmpty then .value o c else o.set c (String.ofList cs)
      else if switches.contains c then readSwitches (o.switch c) cs
      else if c = 'J' then .stop (o.refuse "-J is reserved for Jython")
      else .stop (o.refuse ("Unknown option: -" ++ String.singleton c))

/-- The word after which the script is given along. -/
def scriptWord : String := "-c"

/-- What an option is told that lacks its value. -/
def unknownCheck : String :=
  checkOption.1 ++ " must be one of 'default', 'always', or 'never'"

/-- Read a word. -/
def readWord (o : Options) (w : String) : Step :=
  match w.toList with
  | ['-'] => .stop (o.setErrand .input)
  | ['-', '-'] => .stop (o.setErrand (.file scriptWord))
  | '-' :: '-' :: _ =>
      if telling.contains w then .next o.tell else .stop (o.refuse ("unknown option " ++ w))
  | '-' :: cs => o.readSwitches cs
  | _ => .stop (o.setErrand (.file w))

/-- Read the words before the script. -/
def read (o : Options) : List String → Options
  | [] => o
  | [w] =>
      if w = checkOption.1 then o.refuse unknownCheck
      else
        match o.readWord w with
        | .next o | .stop o => o
        | .value o c =>
            -- The switch takes the word that was to announce the script.
            match o.set c scriptWord with
            | .stop o => o
            | .next o | .value o _ => o.setErrand (.file "<string>")
  | w :: value :: rest =>
      if w = checkOption.1 then
        if checkOption.2.contains value then read o rest else o.refuse unknownCheck
      else
        match o.readWord w with
        | .next o => read o (value :: rest)
        | .stop o => o
        | .value o c =>
            match o.set c value with
            | .next o | .value o _ => read o rest
            | .stop o => o

/-- What is said after an option was refused. -/
def usage (program : String) : String :=
  "usage: " ++ program ++ " [option] ... [-c cmd | -m mod | file | -] [arg] ...\n" ++
    "Try `python -h' for more information."

/-- The fewest digits that numbers can be held to. -/
def fewestDigits : Nat := 640

/-- The number that a setting gives, if it gives one: plain digits, with blanks and a plus sign
    before them at most. -/
def number? (s : String) : Option Nat :=
  let (negative, digits) := Number.readSign (s.toList.dropWhile Char.isWhitespace)
  let (n, _, rest) := Number.readDigits 0 0 digits
  if digits.isEmpty || !rest.isEmpty || digits.contains '_' || (negative && n ≠ 0) ||
      Number.pow2 31 ≤ n then none
  else some n

/-- The count of digits that numbers are held to, from its text; zero is no bound. -/
def digitsOf? (s : String) : Option Nat :=
  (number? s).filter fun n => n = 0 || fewestDigits ≤ n

/-- A setting of the user that counts. -/
def setting? (o : Options) (around : Surroundings) (name : String) : Option String :=
  if o.isolated then none
  else
    match around.setting? name with
    | some "" => none
    | found => found

/-- The option and the setting for the count of digits. -/
def digitsOption : String := "int_max_str_digits"

/-- The setting for the count of digits. -/
def digitsSetting : String := "PYTHONINTMAXSTRDIGITS"

/-- What is said when the count of digits cannot be set. -/
def badDigits (place : String) : String :=
  "Fatal Python error: config_init_int_max_str_digits: " ++ place ++
    ": invalid limit; must be >= 640 or 0 for unlimited.\nPython runtime state: preinitialized"

/-- How many digits a decimal number may have, or what is said. -/
def digits (o : Options) (around : Surroundings) : Except String Nat := do
  let fromSetting ← match o.setting? around digitsSetting with
    | none => pure Number.digitMaximum
    | some s =>
        match digitsOf? s with
        | some n => pure n
        | none => throw (badDigits digitsSetting)
  match o.features.find? fun f => f = digitsOption || Text.beginsWith (digitsOption ++ "=") f with
  | none => return fromSetting
  | some f =>
      match digitsOf? (String.ofList (f.toList.drop (digitsOption.length + 1))) with
      | some n => return n
      | none => throw (badDigits ("-X " ++ digitsOption))

/-- How often optimising is asked for, by options and by the user. -/
def optimization (o : Options) (around : Surroundings) : Nat :=
  match o.setting? around "PYTHONOPTIMIZE" with
  | none => o.optimized
  | some s =>
      max ((number? s).getD 1) o.optimized

/-- All that is said about warnings, the last word first in force: in the mode for developers all of
    them are shown, then comes what the user set, then what the options say. -/
def allWarnings (o : Options) (around : Surroundings) : List String :=
  let developing := o.features.contains "dev" || (o.setting? around "PYTHONDEVMODE").isSome
  (if developing then ["default"] else []) ++
    ((o.setting? around "PYTHONWARNINGS").map (Text.split ',')).getD [] ++ o.warnings

end Options

end FragmentWeaver
