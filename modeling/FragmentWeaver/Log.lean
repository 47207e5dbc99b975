/-!
# Log records

What the library reports on the side: a level, the part of the library that speaks, and a text.
-/

namespace FragmentWeaver

/-- How serious a record is. -/
inductive LogLevel where
  | warning | error
  deriving DecidableEq, Repr

/-- The word for a level. -/
def LogLevel.name : LogLevel → String
  | .warning => "WARNING"
  | .error => "ERROR"

/-- One record. -/
structure LogRecord where
  level : LogLevel
  source : String
  text : String
  deriving DecidableEq, Repr

end FragmentWeaver
