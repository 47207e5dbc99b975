import FragmentWeaver.Text.Quoted
import FragmentWeaver.Text.Split

/-!
# Ends of reading a command line

Reading a command line can end early: help was asked for, or the arguments do not make a command.
-/

namespace FragmentWeaver.CommandLine

/-- Why arguments do not make a command. -/
inductive UsageFault where
  | ambiguous (word : String) (candidates : List String)
  | noValue (option : String)
  | ignoredValue (option value : String)
  | badNumber (option value : String)
  | badBinding (option value : String)
  | badChoice (operand value : String) (choices : List String)
  | missing (operands : List String)
  | unrecognized (words : List String)
  deriving DecidableEq, Repr

/-- The wording of a fault. -/
def UsageFault.message : UsageFault → String
  | .ambiguous word candidates =>
      "ambiguous option: " ++ word ++ " could match " ++ Text.join ", " candidates
  | .noValue option => "argument " ++ option ++ ": expected one argument"
  | .ignoredValue option value =>
      "argument " ++ option ++ ": ignored explicit argument " ++ Text.quote value
  | .badNumber option value =>
      "argument " ++ option ++ ": invalid float value: " ++ Text.quote value
  | .badBinding option value =>
      "argument " ++ option ++ ": binding must look like NAME=VALUE: " ++ Text.quote value
  | .badChoice operand value choices =>
      "argument " ++ operand ++ ": invalid choice: " ++ Text.quote value ++ " (choose from " ++
        Text.join ", " (choices.map Text.quote) ++ ")"
  | .missing operands =>
      "the following arguments are required: " ++ Text.join ", " operands
  | .unrecognized words => "unrecognized arguments: " ++ Text.join " " words

/-- How reading a command line ends early. -/
inductive Exit where
  | help
  | refused (program : String) (f : UsageFault)
  deriving DecidableEq, Repr

/-- The status that an early end leads to. -/
def Exit.code : Exit → Nat
  | .help => 0
  | .refused _ _ => 2

/-- The line about an early end. -/
def Exit.message : Exit → String
  | .help => ""
  | .refused program f => program ++ ": error: " ++ f.message

end FragmentWeaver.CommandLine
