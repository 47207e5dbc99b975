import FragmentWeaver.Files.Path
import FragmentWeaver.Number.Decimal
import FragmentWeaver.Number.Extended
import FragmentWeaver.Text.Quoted
import FragmentWeaver.Value.Calendar

/-!
# Exact values

Values of the standard library that stand for something outside the heap: ratios, decimals, dates,
spans of time, paths and the like. Each has a written form, which names its class, and a shown form.
-/

namespace FragmentWeaver

/-- A value of the standard library that is known exactly. -/
inductive Exact where
  | ratio (q : Rat)
  | decimal (x : Number.Extended)
  /-- A span of time in millionths of a second. -/
  | span (micros : Int)
  /-- A day by its number. -/
  | date (day : Nat)
  /-- A moment in millionths of a second; day one starts at one day. -/
  | moment (micros : Nat)
  /-- A time of the day in millionths of a second. -/
  | time (micros : Nat)
  | path (p : Files.Path)
  | range (start stop step : Int)
  /-- Bytes that are kept in place. -/
  | buffer (bs : List UInt8)
  | uuid (n : Nat)
  | pattern (s : String)
  deriving DecidableEq

namespace Exact

/-- A number with zeros before it, up to a width. -/
def padded (width n : Nat) : String :=
  let digits := Number.digitsOf n
  String.ofList (List.replicate (width - digits.length) '0' ++ digits)

/-- Days, seconds of the day and millionths of the second of a span; only the days can be
    negative. -/
def spanParts (micros : Int) : Int × Nat × Nat :=
  let rest := (micros % Calendar.day).toNat
  (micros / Calendar.day, rest / Calendar.second, rest % Calendar.second)

/-- The written arguments of a span. -/
def spanArguments (micros : Int) : String :=
  let (days, seconds, millionths) := spanParts micros
  let parts :=
    (if days = 0 then [] else ["days=" ++ Number.wholeText days]) ++
    (if seconds = 0 then [] else ["seconds=" ++ toString seconds]) ++
    (if millionths = 0 then [] else ["microseconds=" ++ toString millionths])
  if parts.isEmpty then "0" else Text.join ", " parts

/-- A time of the day with two digits for hours if `wide`. -/
def clockText (wide : Bool) (micros : Nat) : String :=
  let (hours, minutes, seconds, millionths) := Calendar.timeOf micros
  (if wide then padded 2 hours else toString hours) ++ ":" ++ padded 2 minutes ++ ":" ++
    padded 2 seconds ++ (if millionths = 0 then "" else "." ++ padded 6 millionths)

/-- The shown form of a span. -/
def spanText (micros : Int) : String :=
  let (days, _, _) := spanParts micros
  let head := if days = 0 then "" else
    Number.wholeText days ++ (if days.natAbs = 1 then " day, " else " days, ")
  head ++ clockText false (micros % Calendar.day).toNat

/-- The written arguments of a time of the day: seconds and millionths only where they are
    needed. -/
def clockArguments (micros : Nat) : List Nat :=
  let (hours, minutes, seconds, millionths) := Calendar.timeOf micros
  [hours, minutes] ++ (if seconds = 0 && millionths = 0 then [] else [seconds]) ++
    (if millionths = 0 then [] else [millionths])

/-- Year, month and day as a list. -/
def dateArguments (day : Nat) : List Nat :=
  let (year, month, day) := Calendar.dateOf day
  [year, month, day]

/-- The shown form of a day. -/
def dateText (day : Nat) : String :=
  let (year, month, day) := Calendar.dateOf day
  padded 4 year ++ "-" ++ padded 2 month ++ "-" ++ padded 2 day

/-- Numbers with commas between them. -/
def numbers (ns : List Nat) : String :=
  Text.join ", " (ns.map toString)

/-- The text of a universally unique number: thirty-two digits in five groups. -/
def uuidText (n : Nat) : String :=
  let digits := Text.hexDigits 32 n
  let group (start size : Nat) := String.ofList ((digits.drop start).take size)
  Text.join "-" [group 0 8, group 8 4, group 12 4, group 16 4, group 20 12]

/-- The written form, given the plain name of the class and its name in messages; nothing for one
    that only its class can be told of. -/
def written? (plain shown : String) : Exact → Option String
  | .ratio q => some (plain ++ "(" ++ Number.wholeText q.num ++ ", " ++ toString q.den ++ ")")
  | .decimal x => some ("Decimal('" ++ x.text ++ "')")
  | .span m => some (shown ++ "(" ++ spanArguments m ++ ")")
  | .date d => some (shown ++ "(" ++ numbers (dateArguments d) ++ ")")
  | .moment m =>
      some (shown ++ "(" ++
        numbers (dateArguments (m / Calendar.day) ++ clockArguments (m % Calendar.day)) ++ ")")
  | .time m => some (shown ++ "(" ++ numbers (clockArguments m) ++ ")")
  | .path p => some (plain ++ "(" ++ Text.quote p.text ++ ")")
  | .range a b s =>
      some ("range(" ++ Number.wholeText a ++ ", " ++ Number.wholeText b ++
        (if s = 1 then "" else ", " ++ Number.wholeText s) ++ ")")
  | .buffer bs =>
      if plain = "memoryview" then none else some (plain ++ "(" ++ Text.quoteBytes bs ++ ")")
  | .uuid n => some (plain ++ "('" ++ uuidText n ++ "')")
  | .pattern s => some ("re.compile(" ++ Text.quote s ++ ")")

/-- The shown form, where it differs from the written one. -/
def shown? : Exact → Option String
  | .ratio q =>
      some (Number.wholeText q.num ++ if q.den = 1 then "" else "/" ++ toString q.den)
  | .decimal x => some x.text
  | .span m => some (spanText m)
  | .date d => some (dateText d)
  | .moment m => some (dateText (m / Calendar.day) ++ " " ++ clockText true (m % Calendar.day))
  | .time m => some (clockText true m)
  | .path p => some p.text
  | .uuid n => some (uuidText n)
  | _ => none

/-- How many numbers a range runs through. -/
def rangeLength (start stop step : Int) : Nat :=
  if 0 < step then ((stop - start + step - 1) / step).toNat
  else if step < 0 then ((start - stop - step - 1) / (-step)).toNat
  else 0

/-- Does the value count as true? -/
def counts : Exact → Bool
  | .ratio q => q ≠ 0
  | .decimal (.finite x) => x.coefficient ≠ 0
  | .span m => m ≠ 0
  | .range a b s => rangeLength a b s ≠ 0
  | .buffer bs => !bs.isEmpty
  | _ => true

/-- A value that stands for all values equal to it and of its kind: ranges are equal when they run
    through the same numbers. -/
def canonical : Exact → Exact
  | .range a b s =>
      match rangeLength a b s with
      | 0 => .range 0 0 1
      | 1 => .range a (a + 1) 1
      | n => .range a (a + n * s) s
  | e => e

/-- The number that the value amounts to, if it is one. -/
def number? : Exact → Option Rat
  | .ratio q => some q
  | .decimal x => x.ratio?
  | _ => none

/-- Is a value below another one of its kind? Nothing when there is no order. -/
def below? : Exact → Exact → Option Bool
  | .span a, .span b => some (decide (a < b))
  | .date a, .date b => some (decide (a < b))
  | .moment a, .moment b => some (decide (a < b))
  | .time a, .time b => some (decide (a < b))
  | .path p, .path q => some (!Files.Path.upTo q p)
  | .uuid a, .uuid b => some (decide (a < b))
  | _, _ => none

end Exact

end FragmentWeaver
