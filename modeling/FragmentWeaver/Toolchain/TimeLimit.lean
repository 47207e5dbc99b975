import FragmentWeaver.Fault
import FragmentWeaver.Number.Decimal

/-!
# Time limits

How long a compiler may take, in seconds. A limit that no compiler can meet expires; one that cannot
be told to a clock is a fault; every other one is kept.
-/

namespace FragmentWeaver

/-- A count of seconds. -/
inductive TimeLimit where
  | whole (n : Int)
  | fraction (x : Number.Binary)
  /-- A limit that was given as no number at all. -/
  | nothing
  deriving DecidableEq, Repr

namespace TimeLimit

/-- The text of a limit. -/
def text : TimeLimit → String
  | .whole n => Number.wholeText n
  | .fraction x => x.text
  | .nothing => ""

/-- The limit as a floating point number, as which it is added to the time of a clock. -/
def seconds : TimeLimit → Except Fault Number.Binary
  | .whole n =>
      match Number.Binary.ofInt? n with
      | some x => .ok x
      | none => .error (.script .tooLarge)
  | .fraction x => .ok x
  | .nothing => .error (.script (.operands "+" "float" "list"))

/-- No compiler is done after a second divided by this. -/
def startShare : Nat := 100

/-- The most milliseconds that can be waited for. -/
def waitLimit : Nat := Number.pow2 31 - 1

/-- The most milliseconds that a clock can count. -/
def clockLimit : Nat := (Number.pow2 63 - 1) / Number.pow10 6

/-- The least count of milliseconds that is at least some seconds. -/
def milliseconds? (x : Number.Binary) : Option Nat :=
  match x.mul (Number.Binary.ofSigned 1000 1) with
  | .finite _ m e =>
      let (num, den) := Number.Binary.ratio m e
      some ((num + den - 1) / den)
  | _ => none

/-- Does a compiler run out of time? -/
def expires (l : TimeLimit) : Except Fault Bool := do
  match ← l.seconds with
  | .undefined => .error .undefinedTimeout
  | .infinite true => .ok true
  | .infinite false => .error .endlessTimeout
  | .finite negative m e =>
      let (num, den) := Number.Binary.ratio m e
      if negative || startShare * num ≤ den then .ok true
      else
        match milliseconds? (.finite negative m e) with
        | none => .error .endlessTimeout
        | some ms =>
            if clockLimit < ms then .error (.longTimeout true)
            else if waitLimit < ms then .error (.longTimeout false)
            else .ok false

end TimeLimit

end FragmentWeaver
