/-!
# Days of the calendar

Days are counted from the first of January of the year one, which is day one, in the calendar of
today carried back without a break.
-/

namespace FragmentWeaver.Calendar

/-- Is a year a leap year? -/
def isLeap (year : Nat) : Bool :=
  year % 4 = 0 && (year % 100 ≠ 0 || year % 400 = 0)

/-- The lengths of the months of a year. -/
def monthLengths (year : Nat) : List Nat :=
  [31, if isLeap year then 29 else 28, 31, 30, 31, 30, 31, 31, 30, 31, 30, 31]

/-- The days before the first of January of a year. -/
def daysBefore (year : Nat) : Nat :=
  let past := year - 1
  365 * past + past / 4 - past / 100 + past / 400

/-- The number of a day. -/
def dayOf (year month day : Nat) : Nat :=
  daysBefore year + ((monthLengths year).take (month - 1)).foldr (· + ·) 0 + day

/-- The month and the day in it, from the place of a day in the year. -/
def monthOf : List Nat → Nat → Nat → Nat × Nat
  | [], month, day => (month, day)
  | length :: rest, month, day =>
      if day ≤ length then (month, day) else monthOf rest (month + 1) (day - length)

/-- Year, month and day of a numbered day. -/
def dateOf (n : Nat) : Nat × Nat × Nat :=
  let guess := (n - 1) * 400 / 146097 + 1
  let year :=
    if daysBefore (guess + 1) < n then guess + 1 else if daysBefore guess < n then guess
    else guess - 1
  (year, monthOf (monthLengths year) 1 (n - daysBefore year))

/-- The last day that there is. -/
def lastDay : Nat := dayOf 9999 12 31

/-- Millionths of a second in a second and in a day. -/
def second : Nat := 1000000

/-- See `second`. -/
def day : Nat := 86400 * second

/-- Hours, minutes, seconds and millionths of a time of the day. -/
def timeOf (micros : Nat) : Nat × Nat × Nat × Nat :=
  let seconds := micros / second
  (seconds / 3600, seconds / 60 % 60, seconds % 60, micros % second)

end FragmentWeaver.Calendar
