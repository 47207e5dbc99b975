import FragmentWeaver.Number.Based
import FragmentWeaver.Value.Memory

/-!
# Numbers from other values

A number class takes numbers of other kinds and texts. A whole number takes a float without its
fraction; a ratio and a decimal take every float exactly. What is no number is refused.
-/

namespace FragmentWeaver

open Number (Binary)

namespace Number

/-- Read the digits behind a point, if there is one: all digits so far, how many are behind the
    point, and the rest. -/
def readFraction (whole : Nat) : List Char → Nat × Nat × List Char
  | '.' :: rest =>
      let (part, count, rest) := readDigits 0 0 rest
      (whole * pow10 count + part, count, rest)
  | rest => (whole, 0, rest)

/-- Read `digits · 10 ^ place`: the digits, their place, and the rest. -/
def readScaled (cs : List Char) : Option (Nat × Int × List Char) :=
  let (whole, count, rest) := readDigits 0 0 cs
  let (digits, places, rest) := readFraction whole rest
  if count + places = 0 then none
  else
    match readExponent rest with
    | some (e, rest) => some (digits, e - (places : Int), rest)
    | none => none

/-- `digits · 10 ^ place` as a ratio. -/
def scaledRatio (digits : Nat) (place : Int) : Rat :=
  if 0 ≤ place then ((digits * pow10 place.toNat : Nat) : Rat)
  else mkRat digits (pow10 (-place).toNat)

/-- Read a whole text as a ratio: two whole numbers with a stroke between them, or a decimal
    number. -/
def readRatio? (s : String) : Option Rat :=
  let (negative, cs) := readSign (Text.trimBy Text.isBlank s.toList)
  let sized (q : Rat) : Rat := if negative then -q else q
  match readDigits 0 0 cs with
  | (num, count, '/' :: rest) =>
      match readDigits 0 0 rest with
      | (den, places, []) =>
          if count = 0 || places = 0 || den = 0 then none else some (sized (mkRat num den))
      | _ => none
  | _ =>
      match readScaled cs with
      | some (digits, place, []) => some (sized (scaledRatio digits place))
      | _ => none

/-- The words for infinities. -/
def infinityWords : List (List Char) := ["inf".toList, "infinity".toList]

/-- Read what is not finite: an infinity, or an undefined number with a payload. -/
def readSpecial? (negative : Bool) (cs : List Char) : Option Extended :=
  let small := cs.map Char.toLower
  let undefined (signals : Bool) (rest : List Char) : Option Extended :=
    match readDigits 0 0 rest with
    | (n, _, []) => some (.undefined negative signals n)
    | _ => none
  if infinityWords.contains small then some (.infinite negative)
  else match small with
    | 's' :: 'n' :: 'a' :: 'n' :: rest => undefined true rest
    | 'n' :: 'a' :: 'n' :: rest => undefined false rest
    | _ => none

/-- The greatest and the least place that a decimal is read with. -/
def placeLimits : Int × Int := (999999999999999999, -1999999999999999997)

/-- A decimal whose places are within the limits. -/
def decimalWithin (x : Scaled) : Except Trap Extended :=
  if placeLimits.1 < x.exponent + x.size - 1 || x.exponent < placeLimits.2 then .error .invalid
  else .ok (.finite x)

/-- Read a whole text as a decimal; underscores do not count. -/
def readDecimal (s : String) : Except Trap Extended :=
  let (negative, cs) := readSign ((Text.trimBy Text.isBlank s.toList).filter (· ≠ '_'))
  match readSpecial? negative cs, readScaled cs with
  | some x, _ => .ok x
  | none, some (digits, place, []) =>
      decimalWithin ⟨negative, digits, place⟩
  | none, _ => .error .malformed

/-- Read a whole text as a complex number: a real number, an imaginary one with a letter behind it,
    or both, and round brackets around it or none. -/
def readComplex? (s : String) : Option (Binary × Binary) :=
  let cs := Text.trimBy isAround s.toList
  let cs := match cs with
    | '(' :: rest =>
        if rest.getLast? = some ')' then Text.trimBy isAround rest.dropLast else cs
    | cs => cs
  let zero := Binary.zeroOf false
  let isUnit (c : Char) : Bool := c = 'j' || c = 'J'
  let signed (cs : List Char) : Option (Binary × List Char) :=
    let (negative, rest) := readSign cs
    match rest with
    | c :: _ =>
        if isUnit c then some (ofDecimal negative 1 0, rest) else readNumber negative rest
    | [] => none
  match signed cs with
  | some (re, []) => if cs.any isUnit then none else some (re, zero)
  | some (im, [c]) => if isUnit c then some (zero, im) else none
  | some (re, sign :: rest) =>
      if sign = '+' || sign = '-' then
        match signed (sign :: rest) with
        | some (im, [c]) => if isUnit c then some (re, im) else none
        | _ => none
      else none
  | none => (read? s).map fun x => (x, zero)

end Number

namespace World

/-- The written form of a value that has one. -/
def writtenText (w : World) (v : Value) : String :=
  (w.written v).toOption.getD ""

/-- A ratio without its fraction. -/
def truncated (q : Rat) : Int := q.num.tdiv q.den

/-- Bytes as the text that they spell; only ASCII stands for itself. -/
def spelled (bs : List UInt8) : String :=
  String.ofList (bs.map fun b => if b < 128 then Char.ofNat b.toNat else '\ufffd')

/-- How much of a text is shown when it is no number. -/
def shownLimit : Nat := 200

/-- Read a text with a written form as a whole number to a base. -/
def spelledWhole (base : Nat) (s written : String) : Except Refusal Int :=
  match Number.readWhole base s with
  | .number i => .ok i
  | .tooLong digits =>
      .error (.value ("Exceeds the limit (" ++ toString Number.digitMaximum ++
        " digits) for integer string conversion: value has " ++ toString digits ++
        " digits; use sys.set_int_max_str_digits() to increase the limit"))
  | .malformed =>
      .error (.value ("invalid literal for int() with base " ++ toString base ++ ": " ++
        String.ofList (written.toList.take shownLimit)))

/-- Read bytes as a whole number to a base. -/
def spelledBytes (base : Nat) (bs : List UInt8) : Except Refusal Int :=
  spelledWhole base (spelled bs) (Text.quoteBytes (bs.take shownLimit))

/-- A decimal without its fraction. -/
def wholeOfDecimal (x : Number.Extended) : Except Refusal Int :=
  match x, x.ratio? with
  | .undefined _ _ _, _ => .error (.value "cannot convert NaN to integer")
  | .infinite _, _ => .error (.overflow "cannot convert Infinity to integer")
  | .finite _, some q => .ok (truncated q)
  | .finite y, none => if y.exponent < 0 then .ok 0 else .error ⟨"MemoryError", ""⟩

/-- A decimal as a ratio. -/
def ratioOfDecimal (x : Number.Extended) : Except Refusal Rat :=
  match x, x.ratio? with
  | .undefined _ _ _, _ => .error (.value "cannot convert NaN to integer ratio")
  | .infinite _, _ => .error (.overflow "cannot convert Infinity to integer ratio")
  | .finite _, some q => .ok q
  | .finite _, none => .error ⟨"MemoryError", ""⟩

/-- A value as a whole number. -/
def toWhole (w : World) (v : Value) : Except Refusal Int :=
  match w.opened v, w.exactOf? v with
  | _, some (.ratio q) => .ok (truncated q)
  | _, some (.decimal x) => wholeOfDecimal x
  | .float .undefined, _ => .error (.value "cannot convert float NaN to integer")
  | .float (.infinite _), _ => .error (.overflow "cannot convert float infinity to integer")
  | .float (.finite n m e), _ =>
      let (num, den) := Binary.ratio m e
      .ok (if n then -((num / den : Nat) : Int) else ((num / den : Nat) : Int))
  | .text s, _ => spelledWhole 10 s (Text.quote s)
  | inner, _ =>
      match w.bytes? v, inner.whole? with
      | some bs, _ => spelledBytes 10 bs
      | none, some i => .ok i
      | none, none =>
          .error (.type ("int() argument must be a string, a bytes-like object or a real number, "
            ++ "not '" ++ w.shownClass v ++ "'"))

/-- A text as a whole number to a base. -/
def toWholeIn (w : World) (v base : Value) : Except Refusal Int := do
  let b ← w.wholeOf base
  if b ≠ 0 && (b < 2 || 36 < b) then throw (.value "int() base must be >= 2 and <= 36, or 0")
  match w.opened v, w.bytes? v with
  | .text s, _ => spelledWhole b.toNat s (Text.quote s)
  | _, some bs =>
      if w.isBelow (w.typeOf v) "memoryview" then
        throw (.type "int() can't convert non-string with explicit base")
      else spelledBytes b.toNat bs
  | _, none => throw (.type "int() can't convert non-string with explicit base")

/-- A value as a float. -/
def toFloat (w : World) (v : Value) : Except Refusal Binary :=
  let spelling (s : String) : Except Refusal Binary :=
    match Number.read? s with
    | some x => .ok x
    | none => .error (.value ("could not convert string to float: " ++ w.writtenText v))
  match w.opened v, w.bytes? v with
  | .text s, _ => spelling s
  | _, some bs => spelling (spelled bs)
  | _, none =>
      w.floatOr (.type ("float() argument must be a string or a real number, not '" ++
        w.shownClass v ++ "'")) v

/-- A number as a complex number. -/
def complexOr (w : World) (place : String) (v : Value) : Except Refusal (Binary × Binary) :=
  match w.opened v with
  | .complex re im => .ok (re, im)
  | _ => do
      let x ← w.floatOr (.type ("complex() " ++ place ++ ", not '" ++ w.shownClass v ++ "'")) v
      return (x, Binary.zeroOf false)

/-- Values as a complex number: a text, or the two parts. -/
def toComplex (w : World) (args : List Value) : Except Refusal (Binary × Binary) :=
  let first := "first argument must be a string or a number"
  match args with
  | [] => .ok (Binary.zeroOf false, Binary.zeroOf false)
  | [v] =>
      match w.opened v with
      | .text s =>
          match Number.readComplex? s with
          | some z => .ok z
          | none => .error (.value "complex() arg is a malformed string")
      | _ => w.complexOr first v
  | [v, u] =>
      match w.opened v, w.opened u with
      | .text _, _ => .error (.type "complex() can't take second arg if first is a string")
      | _, .text _ => .error (.type "complex() second arg can't be a string")
      | _, _ => do
          let (a, b) ← w.complexOr first v
          let (c, d) ← w.complexOr "second argument must be a number" u
          return (a.sub d, b.add c)
  | vs =>
      .error (.type ("complex() takes at most 2 arguments (" ++ toString vs.length ++ " given)"))

/-- The ratio that a value stands for exactly, if it is a whole number or a ratio. -/
def ratio? (w : World) (v : Value) : Option Rat :=
  match w.exactOf? v, (w.opened v).whole? with
  | some (.ratio q), _ => some q
  | _, some i => some i
  | _, none => none

/-- A value as a ratio. -/
def toRatio (w : World) (v : Value) : Except Refusal Rat :=
  match w.ratio? v, w.exactOf? v, w.opened v with
  | some q, _, _ => .ok q
  | none, some (.decimal x), _ => ratioOfDecimal x
  | none, _, .float (.finite n m e) =>
      let (num, den) := Binary.ratio m e
      .ok (mkRat (if n then -(num : Int) else num) den)
  | none, _, .float (.infinite _) =>
      .error (.overflow "cannot convert Infinity to integer ratio")
  | none, _, .float .undefined => .error (.value "cannot convert NaN to integer ratio")
  | none, _, .text s =>
      match Number.readRatio? s with
      | some q => .ok q
      | none => .error (.value ("Invalid literal for Fraction: " ++ w.writtenText v))
  | none, _, _ => .error (.type "argument should be a string or a Rational instance")

/-- The ratio of two values. -/
def quotientOf (w : World) (num den : Value) : Except Refusal Rat :=
  match w.ratio? num, w.ratio? den with
  | some p, some q =>
      if q = 0 then
        .error ⟨"ZeroDivisionError", "Fraction(" ++ Number.wholeText (p.num * q.den) ++ ", 0)"⟩
      else .ok (p / q)
  | _, _ => .error (.type "both arguments should be Rational instances")

/-- How often a number can be halved. -/
def halvings : Nat → Nat → Nat
  | 0, _ => 0
  | fuel + 1, n => if n % 2 = 0 && n ≠ 0 then halvings fuel (n / 2) + 1 else 0

/-- A float as a decimal: with a denominator `2 ^ k` it is `numerator · 5 ^ k` at the place `-k`. -/
def decimalOfFloat (negative : Bool) (m : Nat) (e : Int) : Number.Scaled :=
  let (num, den) := Binary.ratio m e
  let shared := Nat.gcd num den
  let (num, den) := (num / shared, den / shared)
  let k := halvings den.log2 den
  ⟨negative, num * Nat.pow 5 k, -(k : Int)⟩

/-- A value of a tuple or list, if the value is one. -/
def listedItems? (w : World) : Value → Option (List Value)
  | .object a c =>
      match w.layout c with
      | .tuple | .list => some (w.heap.items a)
      | _ => none
  | _ => none

/-- A whole number of a bounded width, for the parts of a decimal. -/
def decimalPart (w : World) (refusal : Refusal) (what : String) (v : Value) : Except Refusal Int :=
  match (w.opened v).whole? with
  | none => .error refusal
  | some i =>
      if -(Number.pow2 63 : Int) ≤ i && i < Number.pow2 63 then .ok i
      else .error (.overflow ("Python int too large to convert to C " ++ what))

/-- A decimal from its parts: a sign, its digits, and its exponent or the letter of a special
    one. -/
def decimalOfParts (w : World) (sign digits exponent : Value) :
    Except Refusal Number.Extended := do
  let badSign := Refusal.value "sign must be an integer with the value 0 or 1"
  let badDigits := Refusal.value "coefficient must be a tuple of digits"
  let s ← w.decimalPart badSign "long" sign
  if s ≠ 0 && s ≠ 1 then throw badSign
  let letter? ← match w.opened exponent with
    | .text t =>
        if ["F", "n", "N"].contains t then pure (some t)
        else throw (.value "string argument in the third position must be 'F', 'n' or 'N'")
    | _ => pure none
  let e ← match letter? with
    | some _ => pure 0
    | none => w.decimalPart (.value "exponent must be an integer") "ssize_t" exponent
  let some items := w.listedItems? digits | throw badDigits
  let coefficient ← items.foldlM (fun n v => do
    let d ← w.decimalPart badDigits "long" v
    if d < 0 || 9 < d then throw badDigits
    return 10 * n + d.toNat) 0
  match letter? with
  | some "F" => return .infinite (s = 1)
  | some "n" => return .undefined (s = 1) false coefficient
  | some _ => return .undefined (s = 1) true coefficient
  | none => (Number.decimalWithin ⟨s = 1, coefficient, e⟩).mapError .ofTrap

/-- A value as a decimal. -/
def toDecimal (w : World) (v : Value) : Except Refusal Number.Extended :=
  match w.exactOf? v, w.opened v, w.listedItems? v with
  | some (.decimal x), _, _ => .ok x
  | _, .float (.finite n m e), _ => .ok (.finite (decimalOfFloat n m e))
  | _, .float (.infinite n), _ => .ok (.infinite n)
  | _, .float .undefined, _ => .ok (.undefined false false 0)
  | _, .text s, _ => (Number.readDecimal s).mapError .ofTrap
  | _, _, some [sign, digits, exponent] => w.decimalOfParts sign digits exponent
  | _, _, some _ => .error (.value "argument must be a sequence of length 3")
  | _, inner, none =>
      match inner.whole? with
      | some i => .ok (.ofInt i)
      | none =>
          .error (.type ("conversion from " ++ w.shownClass v ++ " to Decimal is not supported"))

/-- The greatest count of bytes that are made from a number alone. -/
def byteLimit : Nat := 1048576

/-- A value as bytes, for a class with a name. -/
def toBytes (w : World) (maker : String) (v : Value) : Except Refusal (List UInt8) :=
  let one := if maker = "bytes" then "bytes" else "byte"
  match w.memory? v, w.opened v with
  | some bs, _ => .ok bs
  | none, .text _ => .error (.type "string argument without an encoding")
  | none, inner =>
      match inner.whole?, w.runThrough? v with
      | some i, _ =>
          if i < 0 then .error (.value "negative count")
          else if Number.pow2 63 ≤ i.toNat then
            .error (.overflow "cannot fit 'int' into an index-sized integer")
          else if byteLimit < i.toNat then .error ⟨"MemoryError", ""⟩
          else .ok (List.replicate i.toNat 0)
      | none, some xs =>
          xs.mapM fun x => do
            let i ← w.wholeOf x
            if 0 ≤ i && i < 256 then return UInt8.ofNat i.toNat
            else throw (.value (one ++ " must be in range(0, 256)"))
      | none, none =>
          .error (.type ("cannot convert '" ++ w.shownClass v ++ "' object to " ++ maker))

end World

end FragmentWeaver
