import FragmentWeaver.Value.Boxed

/-!
# Days, times and spans from their parts

A day is given by its year, month and day of the month, a moment by a day and a time, a span by
counts of days, seconds and so on. Each part has to be a whole number within its bounds; the parts
of a span can be any numbers.
-/

namespace FragmentWeaver.World

/-- The part of a time with a name that is to lie below a bound. -/
def timePart (w : World) (name : String) (bound : Nat) (v : Value) : Except Refusal Nat := do
  let i ← w.wholeOf v
  if 0 ≤ i && i < bound then return i.toNat
  else throw (.value (name ++ " must be in 0.." ++ toString (bound - 1)))

/-- A whole number that fits 32 bits. -/
def shortWhole (w : World) (v : Value) : Except Refusal Int := do
  let i ← w.wholeOf v
  if i < -Number.pow2 63 || Number.pow2 63 ≤ i.toNat then
    throw (.overflow "Python int too large to convert to C long")
  if i < -Number.pow2 31 then throw (.overflow "signed integer is less than minimum")
  if Number.pow2 31 ≤ i.toNat then throw (.overflow "signed integer is greater than maximum")
  return i

/-- Whole numbers in a row, each read before one of them is checked. -/
def wholes (w : World) (vs : List Value) : Except Refusal (List Int) := vs.mapM w.shortWhole

/-- At most so many arguments of a kind. -/
def checkCount (most : Nat) (kind : String) (args : List Value) : Except Refusal Unit :=
  if most < args.length then
    .error (.type ("function takes at most " ++ toString most ++ " " ++ kind ++ " (" ++
      toString args.length ++ " given)"))
  else .ok ()

/-- The zone of a time, of which there is none. -/
def checkZone (w : World) : Option Value → Except Refusal Unit
  | none | some .null => .ok ()
  | some v =>
      .error (.type ("tzinfo argument must be None or of a tzinfo subclass, not type '" ++
        w.shownClass v ++ "'"))

/-- A day from its three parts. -/
def toDay (w : World) (args : List Value) : Except Refusal Nat := do
  checkCount 3 "arguments" args
  match ["year", "month", "day"][args.length]? with
  | some name =>
      let _ ← w.wholes args
      throw (.type ("function missing required argument '" ++ name ++ "' (pos " ++
        toString (args.length + 1) ++ ")"))
  | none =>
      match ← w.wholes args with
      | [year, month, day] =>
          if year < 1 || 9999 < year then
            throw (.value ("year " ++ Number.wholeText year ++ " is out of range"))
          if month < 1 || 12 < month then throw (.value "month must be in 1..12")
          let length := (Calendar.monthLengths year.toNat).getD (month.toNat - 1) 0
          if day < 1 || length < day then throw (.value "day is out of range for month")
          return Calendar.dayOf year.toNat month.toNat day.toNat
      | _ => throw (.type "three parts are needed")

/-- A time of the day from up to four parts and a zone, in millionths of a second. -/
def toTime (w : World) (args : List Value) : Except Refusal Nat := do
  checkCount 6 "arguments" args
  let _ ← w.wholes (args.take 4)
  checkCount 5 "positional arguments" args
  let part (i : Nat) (name : String) (bound : Nat) : Except Refusal Nat :=
    match args[i]? with
    | some v => w.timePart name bound v
    | none => .ok 0
  let hour ← part 0 "hour" 24
  let minute ← part 1 "minute" 60
  let second ← part 2 "second" 60
  let micros ← part 3 "microsecond" Calendar.second
  w.checkZone args[4]?
  return ((hour * 60 + minute) * 60 + second) * Calendar.second + micros

/-- A moment from a day and a time. -/
def toMoment (w : World) (args : List Value) : Except Refusal Nat := do
  checkCount 9 "arguments" args
  let _ ← w.wholes (args.take 7)
  checkCount 8 "positional arguments" args
  let day ← w.toDay (args.take 3)
  return day * Calendar.day + (← w.toTime (args.drop 3))

/-- The parts of a span: their names, and how many millionths of a second they are. -/
def spanUnits : List (String × Nat) := [
  ("days", Calendar.day), ("seconds", Calendar.second), ("microseconds", 1),
  ("milliseconds", 1000), ("minutes", 60 * Calendar.second), ("hours", 3600 * Calendar.second),
  ("weeks", 7 * Calendar.day)]

/-- A ratio rounded to a whole number, a half to the even neighbour. -/
def roundedHalf (q : Rat) : Int :=
  let size := Number.Binary.nearest q.num.natAbs q.den
  if q.num < 0 then -(size : Int) else size

/-- The most days in a span. -/
def spanLimit : Nat := 999999999

/-- A span of some millionths of a second. -/
def spanOf (micros : Int) : Except Refusal Int :=
  let days := micros / Calendar.day
  if days.natAbs ≤ spanLimit then .ok micros
  else if days < -Number.pow2 31 || Number.pow2 31 ≤ days then
    .error (.overflow "Python int too large to convert to C int")
  else .error (.overflow ("days=" ++ Number.wholeText days ++ "; must have magnitude <= " ++
    toString spanLimit))

/-- The count of millionths of a second in one part of a span. -/
def spanPart (w : World) (name : String) (size : Nat) (v : Value) : Except Refusal Rat :=
  match w.opened v with
  | .float (.finite n m e) =>
      let (num, den) := Number.Binary.ratio m e
      .ok (mkRat ((if n then -(num : Int) else num) * size) den)
  | .float (.infinite _) => .error (.overflow "cannot convert float infinity to integer")
  | .float .undefined => .error (.value "cannot convert float NaN to integer")
  | inner =>
      match inner.whole? with
      | some i => .ok (i * size)
      | none =>
          .error (.type ("unsupported type for timedelta " ++ name ++ " component: " ++
            w.shownClass v))

/-- The names of the parts of a span in the order in which they are looked at. -/
def spanOrder : List String :=
  ["microseconds", "milliseconds", "seconds", "minutes", "hours", "days", "weeks"]

/-- A span from counts of its parts. -/
def toSpan (w : World) (args : List Value) : Except Refusal Int := do
  if spanUnits.length < args.length then
    throw (.type ("__new__() takes at most 7 arguments (" ++ toString args.length ++ " given)"))
  let given := spanUnits.zip args
  let parts ← spanOrder.filterMapM fun name =>
    match given.find? fun ((n, _), _) => n = name with
    | some ((_, size), v) => do return some (← w.spanPart name size v)
    | none => pure none
  spanOf (roundedHalf (parts.foldr (· + ·) 0))

end FragmentWeaver.World
