import FragmentWeaver.Distinct
import FragmentWeaver.Text.Encoding
import FragmentWeaver.Text.Sorted
import FragmentWeaver.Value.Clock
import FragmentWeaver.Value.Conversion
import FragmentWeaver.Value.Dictionary

/-!
# Instances of classes

A new instance of a class holds what its first ancestor with a rule of its own makes of the
arguments. A class can be called, or only be asked for a bare instance that nothing sets up;
containers take no arguments in the second case.
-/

namespace FragmentWeaver

/-- What is said of a count of arguments by classes that name the counts. -/
def countRefusal (maker : String) (least most given : Nat) : Refusal :=
  let bound := if least = most then toString most
    else if given < least then "at least " ++ toString least else "at most " ++ toString most
  let limit := if given < least then least else most
  .type (maker ++ " expected " ++ bound ++ (if limit = 1 then " argument" else " arguments") ++
    ", got " ++ toString given)

/-- The error numbers that have a class of their own. -/
def fileFaultClasses : List (Int × String) := [
  (1, "PermissionError"), (2, "FileNotFoundError"), (3, "ProcessLookupError"),
  (4, "InterruptedError"), (10, "ChildProcessError"), (11, "BlockingIOError"),
  (13, "PermissionError"), (17, "FileExistsError"), (20, "NotADirectoryError"),
  (21, "IsADirectoryError"), (32, "BrokenPipeError"), (103, "ConnectionAbortedError"),
  (104, "ConnectionResetError"), (108, "BrokenPipeError"), (110, "TimeoutError"),
  (111, "ConnectionRefusedError"), (114, "BlockingIOError"), (115, "BlockingIOError")]

namespace World

/-- The class of a failed file operation: a number among the arguments may say it. -/
def exceptionClass (w : World) (c : ClassId) (args : List Value) : ClassId :=
  if c = .standard "OSError" && 2 ≤ args.length && args.length ≤ 5 then
    match (args.head?.map w.opened).bind Value.whole? with
    | some n => ((Assoc.find? fileFaultClasses n).map .standard).getD c
    | none => c
  else c

/-- How many arguments the exceptions about texts take. -/
def codingArity (w : World) (c : ClassId) : Option Nat :=
  if w.isBelow c "UnicodeDecodeError" || w.isBelow c "UnicodeEncodeError" then some 5
  else if w.isBelow c "UnicodeTranslateError" then some 4
  else none

/-- The argument of an exception about texts at a place, as it has to be. -/
def codingArgument (w : World) (c : ClassId) (place : Nat) (v : Value) : Except Refusal Value :=
  let inner := w.opened v
  let text : Except Refusal Value :=
    match inner with
    | .text _ => .ok inner
    | _ => .error (.type ("argument " ++ toString (place + 1) ++ " must be str, not " ++
        if v = .null then "None" else w.shownClass v))
  let last := (w.codingArity c).getD 5
  let object := last - 4
  if place + 1 = last || place < object then text
  else if place = object then
    if w.isBelow c "UnicodeDecodeError" then .ok v else text
  else do return .whole (← w.wholeOf v)

/-- The arguments of an exception about texts, with bytes in the second place where they have to be
    there. -/
def codingArguments (w : World) (c : ClassId) (args : List Value) :
    Except Refusal (List Value) := do
  match ← args.zipIdx.mapM fun (v, i) => w.codingArgument c i v with
  | [encoding, object, first, last, why] =>
      if w.isBelow c "UnicodeDecodeError" then
        match w.memory? object with
        | some bs => return [encoding, .bytes bs, first, last, why]
        | none =>
            throw (.type ("a bytes-like object is required, not '" ++ w.shownClass object ++ "'"))
      else return [encoding, object, first, last, why]
  | args => return args

/-- The place of a malformed source, if the second one of two arguments tells it: at least four
    parts, and at most six. -/
def checkSourcePlace (w : World) (args : List Value) : Except Refusal Unit := do
  if let [_, place] := args then
    match w.runThrough? place with
    | none => throw (.type ("'" ++ w.shownClass place ++ "' object is not iterable"))
    | some parts =>
        let given := " arguments (" ++ toString parts.length ++ " given)"
        if parts.length < 4 then throw (.type ("function takes at least 4" ++ given))
        if 6 < parts.length then throw (.type ("function takes at most 6" ++ given))
        if parts.length = 5 then
          throw (.type "end_offset must be provided when end_lineno is provided")

/-- The arguments of a group of exceptions, and the class of the group. -/
def groupArguments (w : World) (c : ClassId) (args : List Value) :
    Except Refusal (ClassId × List Value) :=
  let head := "BaseExceptionGroup.__new__() "
  match args with
  | [said, members] =>
      let isSequence := w.layout (w.typeOf members) ≠ .set && w.layout (w.typeOf members) ≠ .dict
      match w.opened said, isSequence, w.runThrough? members with
      | .text _, true, some xs => do
          if xs.isEmpty then
            throw (.value "second argument (exceptions) must be a non-empty sequence")
          match xs.findIdx? fun x => !w.isBelow (w.typeOf x) "BaseException" with
          | some i =>
              throw (.value ("Item " ++ toString i ++
                " of second argument (exceptions) is not an exception"))
          | none =>
              let ordinary := xs.all fun x => w.isBelow (w.typeOf x) "Exception"
              if c = .standard "BaseExceptionGroup" && ordinary then
                return (.standard "ExceptionGroup", args)
              else if w.isBelow c "Exception" && !ordinary then
                throw (.type "Cannot nest BaseExceptions in an ExceptionGroup")
              else return (c, args)
      | .text _, _, _ => .error (.type "second argument (exceptions) must be a sequence")
      | _, _, _ =>
          .error (.type (head ++ "argument 1 must be str, not " ++
            if said = .null then "None" else w.shownClass said))
  | _ =>
      .error (.type (head ++ "takes exactly 2 arguments (" ++ toString args.length ++ " given)"))

/-- A new exception. -/
def newException (w : World) (bare : Bool) (c : ClassId) (args : List Value) :
    Except Refusal (Value × World) := do
  if w.isBelow c "BaseExceptionGroup" then
    let (c, args) ← w.groupArguments c args
    return w.allocate (.items args) c
  match bare, w.codingArity c with
  | false, some n =>
      if args.length ≠ n then
        throw (.type ("function takes exactly " ++ toString n ++ " arguments (" ++
          toString args.length ++ " given)"))
      return w.allocate (.items (← w.codingArguments c args)) c
  | false, none => do
      if w.isBelow c "SyntaxError" then w.checkSourcePlace args
      return w.allocate (.items args) (w.exceptionClass c args)
  | _, _ => return w.allocate (.items args) (w.exceptionClass c args)

/-- A plain value as an instance of a class: the value itself for the class that it belongs to. -/
def instanceOf (w : World) (c : ClassId) (v : Value) : Value × World :=
  if w.typeOf v = c then (v, w) else w.allocate (.plain v) c

/-- What is met when a value is run through, which it has to allow. -/
def runThrough (w : World) (v : Value) : Except Refusal (List Value) :=
  match w.runThrough? v with
  | some xs => .ok xs
  | none => .error (.type ("'" ++ w.shownClass v ++ "' object is not iterable"))

/-- The one argument of a class that takes at most one. -/
def single (maker : String) (args : List Value) : Except Refusal (Option Value) :=
  match args with
  | [] => .ok none
  | [v] => .ok (some v)
  | vs => .error (countRefusal maker 0 1 vs.length)

/-- The encoding that the arguments after the first one of a class name; how to deal with faults may
    be said as well. -/
def encodingOf (w : World) (maker : String) (args : List Value) : Except Refusal String := do
  if 2 < args.length then
    throw (.type (maker ++ "() takes at most 3 arguments (" ++ toString (args.length + 1) ++
      " given)"))
  let names ← (["encoding", "errors"].zip args).mapM fun (role, v) =>
    match w.opened v with
    | .text s => pure s
    | _ =>
        throw (Refusal.type (maker ++ "() argument '" ++ role ++ "' must be str, not " ++
          if v = .null then "None" else w.shownClass v))
  return names.headD ""

/-- The encoding with a name. -/
def encodingNamed (name : String) : Except Refusal Text.Encoding :=
  match Text.Encoding.ofName? name with
  | some e => .ok e
  | none => .error ⟨"LookupError", "unknown encoding: " ++ name⟩

/-- The text that bytes stand for in a named encoding. -/
def decoded (w : World) (v : Value) (args : List Value) : Except Refusal Value := do
  let name ← w.encodingOf "str" args
  match w.opened v, w.memory? v with
  | .text _, _ => throw (.type "decoding str is not supported")
  | _, some [] => return .text ""
  | _, some bs =>
      return .text (← ((← encodingNamed name).decode bs).mapError fun said =>
        ⟨"UnicodeDecodeError", said⟩)
  | _, none =>
      throw (.type ("decoding to str: need a bytes-like object, " ++
        (if v = .null then "NoneType" else w.shownClass v) ++ " found"))

/-- The bytes that stand for a text in a named encoding, for a class with a name. -/
def encoded (w : World) (maker : String) (v : Value) (args : List Value) :
    Except Refusal (List UInt8) := do
  let name ← w.encodingOf maker args
  match w.opened v with
  | .text s =>
      ((← encodingNamed name).encode s).mapError fun said => ⟨"UnicodeEncodeError", said⟩
  | _ => throw (.type "encoding without a string argument")

/-- The plain values that a class makes of its arguments. -/
def plainInstance (w : World) (key : String) (args : List Value) : Except Fault Value :=
  let one (f : Value → Except Refusal Value) (zero : Value) : Except Fault Value :=
    ((single key args).bind fun
      | some v => f v
      | none => .ok zero).mapError .refused
  match key, args with
  | "bool", _ => one (fun v => .ok (.truth (w.counts v))) (.truth false)
  | "int", [v, base] => ((w.toWholeIn v base).map .whole).mapError .refused
  | "int", _ :: _ :: _ =>
      .error (.refused (.type ("int() takes at most 2 arguments (" ++ toString args.length ++
        " given)")))
  | "int", _ => one (fun v => (w.toWhole v).map .whole) (.whole 0)
  | "float", _ => one (fun v => (w.toFloat v).map .float) (.float (Number.Binary.zeroOf false))
  | "complex", _ => ((w.toComplex args).map fun (re, im) => .complex re im).mapError .refused
  | "str", v :: encoding :: more => (w.decoded v (encoding :: more)).mapError .refused
  | "str", [.loose ps] => .ok (.loose ps)
  | "str", [v] => ((w.shown v).map .text).mapError .unwritten
  | "str", [] => .ok (.text "")
  | _, v :: encoding :: more =>
      ((w.encoded "bytes" v (encoding :: more)).map .bytes).mapError .refused
  | _, _ => one (fun v => (w.toBytes "bytes" v).map .bytes) (.bytes [])

/-- The exact values that a class makes of its arguments. -/
def exactInstance (w : World) (bare : Bool) (key : String) (args : List Value) :
    Except Refusal Exact :=
  match key, args with
  | "range", [stop] => do return .range 0 (← w.wholeOf stop) 1
  | "range", [start, stop] => do return .range (← w.wholeOf start) (← w.wholeOf stop) 1
  | "range", [start, stop, step] => do
      let a ← w.wholeOf start
      let b ← w.wholeOf stop
      let s ← w.wholeOf step
      if s = 0 then throw (.value "range() arg 3 must not be zero")
      return .range a b s
  | "range", vs => .error (countRefusal "range" 1 3 vs.length)
  | "memoryview", [] => .error (.type "memoryview() missing required argument 'object' (pos 1)")
  | "memoryview", [v] =>
      match w.memory? v with
      | some bs => .ok (.buffer bs)
      | none =>
          .error (.type ("memoryview: a bytes-like object is required, not '" ++ w.shownClass v ++
            "'"))
  | "memoryview", vs =>
      .error (.type ("memoryview() takes at most 1 argument (" ++ toString vs.length ++ " given)"))
  | "bytearray", vs =>
      match bare, vs with
      | true, _ | _, [] => .ok (.buffer [])
      | false, [v] => do return .buffer (← w.toBytes "bytearray" v)
      | false, v :: more => do return .buffer (← w.encoded "bytearray" v more)
  | "fractions.Fraction", [] => .ok (.ratio 0)
  | "fractions.Fraction", [v] => do return .ratio (← w.toRatio v)
  | "fractions.Fraction", [num, den] => do
      if den = .null then return .ratio (← w.toRatio num)
      else return .ratio (← w.quotientOf num den)
  | "fractions.Fraction", vs =>
      .error (.type ("Fraction.__new__() takes from 1 to 3 positional arguments but " ++
        toString (vs.length + 1) ++ " were given"))
  | "decimal.Decimal", [] => .ok (.decimal (.ofInt 0))
  | "decimal.Decimal", [v] => do return .decimal (← w.toDecimal v)
  | "decimal.Decimal", [_, context] =>
      if context = .null then do return .decimal (← w.toDecimal (args.headD .null))
      else .error (.type "optional argument must be a context")
  | "decimal.Decimal", vs =>
      .error (.type ("function takes at most 2 arguments (" ++ toString vs.length ++ " given)"))
  | "datetime.datetime", vs => do return .moment (← w.toMoment vs)
  | "datetime.date", vs => do return .date (← w.toDay vs)
  | "datetime.time", vs => do return .time (← w.toTime vs)
  | "datetime.timedelta", vs => do return .span (← w.toSpan vs)
  | _, vs => do
      let parts ← vs.mapM fun v =>
        match w.opened v, w.exactOf? v with
        | .text s, _ => pure (Files.Path.parse s)
        | .bytes _, _ =>
            throw (Refusal.type ("argument should be a str object or an os.PathLike object " ++
              "returning str, not " ++ w.classText (w.typeOf v)))
        | _, some (.path p) => pure p
        | _, _ =>
            throw (Refusal.type ("expected str, bytes or os.PathLike object, not " ++
              lastPart (w.shownClass v)))
      return .path (parts.foldl Files.Path.append ⟨"", []⟩)

/-- Can the value be called? -/
def isCallable (w : World) : Value → Bool
  | .cls _ => true
  | .native (.other _ c _) => Standard.isFunctionClass c || Standard.isTypeForm c
  | .native (.member _ _) => false
  | .native _ => true
  | .object a c =>
      match w.heap[a]? with
      | some (.bound _ _) | some (.function _) => true
      | some (.applied _) => !w.isBelow c "types.UnionType"
      | _ =>
          w.isBelow c "functools.partial" || w.isBelow c "staticmethod" ||
            (w.classAttribute? c "__call__").isSome
  | _ => false

/-- Is the value a number of any kind? -/
def isNumber (w : World) (v : Value) : Bool :=
  match w.opened v, w.exactOf? v with
  | .float _, _ | .complex _ _, _ => true
  | _, some (.ratio _) | _, some (.decimal _) => true
  | inner, _ => inner.whole?.isSome

/-- What a counter is written with: where it starts, and its step unless that is the whole number
    one. A counter that goes on by ones from a whole number keeps only that number. -/
def counterParts (args : List Value) : List Value :=
  let start := args.headD (.whole 0)
  let step := (args.drop 1).headD (.whole 1)
  if step.whole? = some 1 then
    match start.whole? with
    | some i => [.whole i]
    | none => [start]
  else [start, step]

/-- The entries that a dictionary takes over from a value: those of another one, or pairs. -/
def entriesFrom (w : World) (v : Value) : Except Fault (List (Value × Value)) := do
  if let some (.entries kvs) := w.content? v then return kvs
  let items ← (w.runThrough v).mapError .refused
  let head (i : Nat) : String := "dictionary update sequence element #" ++ toString i
  let pairs ← items.zipIdx.mapM fun (x, i) =>
    match w.runThrough? x with
    | some [k, y] => pure (k, y)
    | some ys =>
        throw (.refused (.value (head i ++ " has length " ++ toString ys.length ++
          "; 2 is required")))
    | none =>
        throw (.refused (.type ("cannot convert " ++ head i ++ " to a sequence")))
  w.entriesOf pairs

/-- The containers that a class makes of its arguments. -/
def containerInstance (w : World) (bare : Bool) (c : ClassId) (key : String) (args : List Value) :
    Except Fault (Value × World) := do
  let items (maker : String) : Except Fault (List Value) :=
    ((single maker args).bind fun
      | some v => w.runThrough v
      | none => .ok []).mapError .refused
  let distinctItems (maker : String) : Except Fault (List Value) := do
    let kvs ← w.entriesOf ((← items maker).map fun x => (x, .null))
    return kvs.map Prod.fst
  match key, bare with
  | "tuple", _ => return w.allocate (.items (← items key)) c
  | "frozenset", _ => return w.allocate (.items (← distinctItems key)) c
  | "set", true | "list", true | "collections.deque", true => return w.allocate (.items []) c
  | "set", false => return w.allocate (.items (← distinctItems key)) c
  | "list", false => return w.allocate (.items (← items key)) c
  | "collections.deque", false => return w.allocate (.items (← items "deque")) c
  | "dict", true => return w.allocate (.entries []) c
  | "dict", false =>
      match (single "dict" args).mapError .refused with
      | .error f => throw f
      | .ok none => return w.allocate (.entries []) c
      | .ok (some v) => return w.allocate (.entries (← w.entriesFrom v)) c
  | "slice", _ =>
      match args with
      | [stop] => return w.allocate (.items [.null, stop, .null]) c
      | [start, stop] => return w.allocate (.items [start, stop, .null]) c
      | [_, _, _] => return w.allocate (.items args) c
      | vs => throw (.refused (countRefusal "slice" 1 3 vs.length))
  | "functools.partial", _ =>
      match args with
      | [] => throw (.refused (.type "type 'partial' takes at least one argument"))
      | f :: _ =>
          if w.isCallable f then return w.allocate (.items args) c
          else throw (.refused (.type "the first argument must be callable"))
  | "itertools.count", _ =>
      if 2 < args.length then
        throw (.refused (.type ("count() takes at most 2 arguments (" ++ toString args.length ++
          " given)")))
      else if !args.all w.isNumber then throw (.refused (.type "a number is required"))
      else return w.allocate (.items (counterParts args)) c
  | "array.array", _ =>
      if 2 < args.length then
        throw (.refused (.type ("array() takes at most 2 arguments (" ++ toString args.length ++
          " given)")))
      match args with
      | [] => throw (.refused (.type "array() takes at least 1 argument (0 given)"))
      | code :: rest =>
          match w.opened code, rest with
          | .text s, rest =>
              match s.toList with
              | [k] => do
                  if let [v] := rest then
                    if (w.opened v matches .text _) && k ≠ 'u' then
                      throw (.refused (.type ("cannot use a " ++ w.shownClass v ++
                        " to initialize an array with typecode '" ++ s ++ "'")))
                  let xs ← match rest with
                    | v :: _ => (w.runThrough v).mapError .refused
                    | [] => pure []
                  (w.newArray c k xs).mapError .refused
              | _ =>
                  throw (.refused (.type "array() argument 1 must be a unicode character, not str"))
          | _, _ =>
              throw (.refused (.type ("array() argument 1 must be a unicode character, not " ++
                if code = .null then "None" else w.shownClass code)))
  | _, true => return w.allocate (.instance []) c
  | "staticmethod", false | "classmethod", false =>
      if args.length = 1 then return w.allocate (.items args) c
      else throw (.refused (countRefusal key 1 1 args.length))
  | "property", false =>
      if args.length ≤ 4 then return w.allocate (.items args) c
      else
        throw (.refused (.type ("property() takes at most 4 arguments (" ++ toString args.length ++
          " given)")))
  | "collections.ChainMap", false =>
      if args.isEmpty then
        let (inner, w) := w.allocate (.entries []) (.standard "dict")
        return w.allocate (.items [inner]) c
      else return w.allocate (.items args) c
  | "collections.UserDict", false =>
      let (inner, w) := w.allocate (.entries []) (.standard "dict")
      return w.allocate (.items [inner]) c
  | _, false =>
      let (inner, w) := w.newList []
      return w.allocate (.items [inner]) c

/-- Classes that make plain values. -/
def plainMakers : List String := ["bool", "int", "float", "complex", "str", "bytes"]

/-- Classes that make exact values. -/
def exactMakers : List String := [
  "range", "memoryview", "bytearray", "fractions.Fraction", "decimal.Decimal", "datetime.datetime",
  "datetime.date", "datetime.time", "datetime.timedelta", "pathlib.PurePath"]

/-- Classes that make containers. -/
def containerMakers : List String := [
  "tuple", "frozenset", "set", "list", "dict", "collections.deque", "slice", "functools.partial",
  "itertools.count", "staticmethod", "classmethod", "property", "array.array",
  "collections.ChainMap", "collections.UserDict", "collections.UserList"]

/-- The methods that a class inherits and has not written out. -/
def abstractMethods (w : World) (c : ClassId) : List String :=
  let names := ((w.lineage c).flatMap fun d => (w.classInfo d).abstract)
  Text.sorted ((distinct names).filter fun n =>
    match (w.lineage c).find? fun d =>
        let i := w.classInfo d
        i.abstract.contains n || i.methods.contains n || (Assoc.find? i.attributes n).isSome ||
          (ownListing? n d).isSome with
    | some d =>
        match Assoc.find? (w.classInfo d).attributes n with
        | some v => v = .native .abstractEntry
        | none => (w.classInfo d).abstract.contains n
    | none => false)

/-- Can a value be run through? -/
def isIterable (w : World) (v : Value) : Bool :=
  (w.runThrough? v).isSome ||
    (w.lineage (w.typeOf v)).any fun c => (w.classInfo c).methods.contains "__iter__"

/-- Can a value be run through from its end? -/
def isReversible (w : World) (v : Value) : Bool :=
  ((w.runThrough? v).isSome && w.layout (w.typeOf v) ≠ .set) ||
    (w.lineage (w.typeOf v)).any fun c => (w.classInfo c).methods.contains "__reversed__"

/-- Values that have to be run through. -/
def checkIterables (w : World) (vs : List Value) : Except Refusal Unit :=
  match vs.find? fun v => !w.isIterable v with
  | some v => .error (.type ("'" ++ w.shownClass v ++ "' object is not iterable"))
  | none => .ok ()

/-- The words for what a method misses, after the first of its parameters. -/
def missingText (method : String) (names : List String) : String :=
  let quoted := names.map fun n => "'" ++ n ++ "'"
  method ++ " missing " ++ toString names.length ++ " required positional argument" ++
    (if names.length = 1 then ": " else "s: ") ++
    match quoted with
    | [a, b, c] => a ++ ", " ++ b ++ ", and " ++ c
    | qs => Text.join " and " qs

/-- The words for more arguments than a method takes, itself among them. -/
def tooManyText (method : String) (most given : Nat) : String :=
  method ++ " takes " ++ toString most ++ " positional arguments but " ++ toString (given + 1) ++
    " were given"

/-- The name, the bases and the attributes of a new class. -/
def checkNewClass (w : World) (args : List Value) : Except Refusal Unit := do
  (["str", "tuple", "dict"].zip args).zipIdx.forM fun ((kind, v), i) => do
    if !w.isBelow (w.typeOf v) kind then
      throw (.type ("type.__new__() argument " ++ toString (i + 1) ++ " must be " ++ kind ++
        ", not " ++ if v = .null then "None" else w.shownClass v))

/-- The arguments of classes that look at them without keeping them. -/
def checkArguments (w : World) (bare : Bool) (c : ClassId) (args : List Value) :
    Except Refusal Unit := do
  let key := (w.lineage c).findSome? fun
    | .standard key => if Standard.checkers.contains key then some key else none
    | .defined _ => none
  match key, args with
  | some "zip", args => w.checkIterables args
  | some "map", _ :: more =>
      if more.isEmpty then throw (.type "map() must have at least two arguments.")
      else w.checkIterables more
  | some "filter", _ :: _ =>
      if args.length = 2 then w.checkIterables (args.drop 1)
      else throw (.type ("filter expected 2 arguments, got " ++ toString args.length))
  | some "enumerate", v :: more =>
      if 1 < more.length then
        throw (.type ("enumerate() takes at most 2 arguments (" ++ toString args.length ++
          " given)"))
      let _ ← more.mapM w.wholeOf
      w.checkIterables [v]
  | some "reversed", v :: more =>
      if !more.isEmpty then throw (countRefusal "reversed" 1 1 args.length)
      else if !w.isReversible v then
        throw (.type ("'" ++ w.shownClass v ++ "' object is not reversible"))
  | some "super", v :: more =>
      if !bare then
        if 1 < more.length then throw (.type ("super() expected at most 2 arguments, got " ++
          toString args.length))
        else if !(v matches .cls _) then
          throw (.type ("super() argument 1 must be a type, not " ++ w.shownClass v))
        else if more.any (· ≠ .null) then
          throw (.type "super(type, obj): obj must be an instance or subtype of type")
  | some "enum.Enum", _ :: more =>
      if more.isEmpty then throw (.type (w.classText c ++ " has no members defined"))
      else if bare then throw (.type (tooManyText "Enum.__new__()" 2 args.length))
  | some "abc.ABCMeta", _ :: _ =>
      if args.length < 3 then
        throw (.type (missingText "ABCMeta.__new__()"
          (["name", "bases", "namespace"].drop args.length)))
      else if 3 < args.length then throw (.type (tooManyText "ABCMeta.__new__()" 4 args.length))
      else w.checkNewClass args
  | some "type", _ :: _ =>
      if args.length = 3 then w.checkNewClass args
      else if bare then
        throw (.type ("type.__new__() takes exactly 3 arguments (" ++ toString args.length ++
          " given)"))
      else if args.length ≠ 1 then throw (.type "type() takes 1 or 3 arguments")
  | _, _ => pure ()

/-- The instance of a class that makes nothing of its arguments. -/
def otherInstance (w : World) (bare : Bool) (c : ClassId) (args : List Value) :
    Except Refusal (Value × World) := do
  w.checkArguments bare c args
  let needs := if bare then Standard.bareNeeds else Standard.callNeeds
  match (w.lineage c).findSome? fun
      | .standard key => (Assoc.find? needs key).map fun text => (key, text)
      | .defined _ => none with
  | some (key, text) =>
      if args.isEmpty || !Standard.takers.contains key then
        throw ⟨if key = "super" then "RuntimeError" else "TypeError", text⟩
  | none => pure ()
  let takes := (w.lineage c).any fun
    | .standard key => Standard.takers.contains key
    | d => (Assoc.find? (w.classInfo d).attributes "__init__").isSome
  if !args.isEmpty && !takes then
    throw (.type ((w.classInfo c).shown ++ "() takes no arguments"))
  match w.abstractMethods c with
  | [] => pure ()
  | names =>
      throw (.type ("Can't instantiate abstract class " ++ (w.classInfo c).shown ++
        " with abstract " ++ (if names.length = 1 then "method " else "methods ") ++
        listed names))
  return w.allocate (.instance []) c

/-- A new instance of a class; a bare one is not set up. -/
def newInstance (w : World) (bare : Bool) (c : ClassId) (args : List Value) :
    Except Fault (Value × World) :=
  match (w.lineage c).findSome? fun
      | .standard key =>
          if key = "enum.Enum" || key = "BaseException" || key = "_ctypes._SimpleCData" ||
              plainMakers.contains key || exactMakers.contains key ||
              containerMakers.contains key then
            some key
          else none
      | .defined _ => none with
  | none => (w.otherInstance bare c args).mapError .refused
  | some key =>
      if w.isBelow c "enum.Enum" then (w.otherInstance bare c args).mapError .refused
      else if key = "BaseException" then (w.newException bare c args).mapError .refused
      else if key = "_ctypes._SimpleCData" then
        match (w.boxedBase? c).getD "" with
        | "_ctypes._SimpleCData" => .error (.refused (.type "abstract class"))
        | base =>
            let inner? := if bare then none else args.head?
            match inner? with
            | some v =>
                ((w.boxValue base v).map fun x => w.allocate (.boxed (some x)) c).mapError .refused
            | none => .ok (w.allocate (.boxed (boxZero base)) c)
      else if plainMakers.contains key then
        (w.plainInstance key args).map (w.instanceOf c)
      else if exactMakers.contains key then
        ((w.exactInstance bare key args).map fun e => w.allocate (.exact e) c).mapError .refused
      else w.containerInstance bare c key args

end World

end FragmentWeaver
