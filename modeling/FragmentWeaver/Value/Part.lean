import FragmentWeaver.Standard.Forms
import FragmentWeaver.Value.Callee
import FragmentWeaver.Value.Conversion
import FragmentWeaver.Value.Description
import FragmentWeaver.Value.Order

/-!
# Parts of values

What a value of a standard class can be asked for by name: the two parts of a number, the arguments of
an exception, the names in a path, the fields of a day. A part that is a container is made anew.
-/

namespace FragmentWeaver.World

/-- A part: a value, or one that has to be put on the heap. -/
inductive Part where
  | value (v : Value)
  | tuple (vs : List Value)
  | list (vs : List Value)
  | entries (kvs : List (Value × Value))
  /-- An exact value of the class of the whole. -/
  | exact (e : Exact)

/-- A part as a value; exact parts are of the given class. -/
def Part.make (w : World) (c : ClassId) : Part → Value × World
  | .value v => (v, w)
  | .tuple vs => w.newTuple vs
  | .list vs => w.newList vs
  | .entries kvs => w.allocate (.entries kvs) (.standard "dict")
  | .exact e => w.allocate (.exact e) c

/-- A whole number as a part. -/
def Part.number (i : Int) : Part := .value (.whole i)

/-- A text as a part. -/
def Part.text (s : String) : Part := .value (.text s)

/-- The parts of a plain value. -/
def plainPart? (v : Value) (name : String) : Option Part :=
  match v, name with
  | .float x, "real" => some (.value (.float x))
  | .float _, "imag" => some (.value (.float (.zeroOf false)))
  | .complex re _, "real" => some (.value (.float re))
  | .complex _ im, "imag" => some (.value (.float im))
  | .unit u, "namespace" => some (.text u.space)
  | .unit u, "simple_name" => some (.text u.name)
  | .unit u, "qualified_name" => some (.text u.qualifiedName)
  | .unit u, "__dict__" =>
      some (.entries [(.text "namespace", .text u.space), (.text "simple_name", .text u.name)])
  | v, name =>
      match v.whole?, name with
      | some i, "real" | some i, "numerator" => some (.number i)
      | some _, "imag" => some (.number 0)
      | some _, "denominator" => some (.number 1)
      | _, _ => none

/-- The parts of a time of the day. -/
def clockPart? (micros : Nat) (name : String) : Option Part :=
  let (hours, minutes, seconds, millionths) := Calendar.timeOf micros
  match name with
  | "hour" => some (.number hours)
  | "minute" => some (.number minutes)
  | "second" => some (.number seconds)
  | "microsecond" => some (.number millionths)
  | "tzinfo" => some (.value .null)
  | "fold" => some (.number 0)
  | _ => none

/-- The parts of a day. -/
def datePart? (day : Nat) (name : String) : Option Part :=
  let (year, month, date) := Calendar.dateOf day
  match name with
  | "year" => some (.number year)
  | "month" => some (.number month)
  | "day" => some (.number date)
  | _ => none

/-- The suffixes of a file name. -/
def suffixesOf (name : String) : List String :=
  if name.toList.getLast? = some '.' then []
  else
    ((Text.split '.' (String.ofList (name.toList.dropWhile (· = '.')))).drop 1).map ("." ++ ·)

/-- The parts of a path. -/
def pathPart? (p : Files.Path) (name : String) : Option Part :=
  match name with
  | "name" => some (.text p.name)
  | "suffix" => some (.text p.suffix)
  | "suffixes" => some (.list ((suffixesOf p.name).map .text))
  | "stem" => some (.text p.stem)
  | "parent" => some (.exact (.path p.parent))
  | "parts" =>
      some (.tuple ((if p.isAbsolute then [p.anchor] else []) ++ p.names |>.map .text))
  | "parents" => some (.value (Standard.objectOf "parents" "pathlib._PathParents"))
  | "drive" => some (.text "")
  | "root" | "anchor" => some (.text p.anchor)
  | _ => none

/-- The rules that a universally unique number can follow, by the topmost bits of its ninth byte. -/
def uuidVariant (n : Nat) : String :=
  let isSet (bit : Nat) : Bool := n / Number.pow2 bit % 2 = 1
  if !isSet 63 then "reserved for NCS compatibility"
  else if !isSet 62 then "specified in RFC 4122"
  else if !isSet 61 then "reserved for Microsoft compatibility"
  else "reserved for future definition"

/-- The parts of a universally unique number: stretches of its bits. -/
def uuidPart? (n : Nat) (name : String) : Option Part :=
  let bits (low width : Nat) : Nat := n / Number.pow2 low % Number.pow2 width
  let number (i : Nat) : Option Part := some (.number i)
  let big := (Number.littleEndian 16 n).reverse
  match name with
  | "int" => number n
  | "hex" => some (.text (String.ofList (Text.hexDigits 32 n)))
  | "urn" => some (.text ("urn:uuid:" ++ Exact.uuidText n))
  | "bytes" => some (.value (.bytes big))
  | "bytes_le" =>
      let group (start count : Nat) := ((big.drop start).take count).reverse
      some (.value (.bytes (group 0 4 ++ group 4 2 ++ group 6 2 ++ big.drop 8)))
  | "time_low" => number (bits 96 32)
  | "time_mid" => number (bits 80 16)
  | "time_hi_version" => number (bits 64 16)
  | "clock_seq_hi_variant" => number (bits 56 8)
  | "clock_seq_low" => number (bits 48 8)
  | "node" => number (bits 0 48)
  | "fields" =>
      some (.tuple ([bits 96 32, bits 80 16, bits 64 16, bits 56 8, bits 48 8, bits 0 48].map
        fun (i : Nat) => .whole i))
  | "time" => number (bits 64 12 * Number.pow2 48 + bits 80 16 * Number.pow2 32 + bits 96 32)
  | "clock_seq" => number (bits 56 6 * 256 + bits 48 8)
  | "variant" => some (.text (uuidVariant n))
  | "version" =>
      if uuidVariant n = "specified in RFC 4122" then number (bits 76 4) else some (.value .null)
  | "is_safe" => (Standard.enumMember? "uuid.SafeUUID" "unknown").map .value
  | _ => none

/-- The parts of a view of bytes. -/
def viewPart? (bs : List UInt8) (name : String) : Option Part :=
  match name with
  | "obj" => some (.value (.bytes bs))
  | "nbytes" => some (.number bs.length)
  | "itemsize" | "ndim" => some (.number 1)
  | "format" => some (.text "B")
  | "readonly" | "c_contiguous" | "f_contiguous" | "contiguous" => some (.value (.truth true))
  | "shape" => some (.tuple [.whole bs.length])
  | "strides" => some (.tuple [.whole 1])
  | "suboffsets" => some (.tuple [])
  | _ => none

/-- The parts of an exact value. -/
def exactPart? (v : Value) (e : Exact) (name : String) : Option Part :=
  match e, name with
  | .ratio q, "numerator" => some (.number q.num)
  | .ratio q, "denominator" => some (.number q.den)
  | .ratio _, "real" | .decimal _, "real" => some (.value v)
  | .ratio _, "imag" => some (.number 0)
  | .decimal _, "imag" => some (.exact (.decimal (.ofInt 0)))
  | .span m, "days" => some (.number (Exact.spanParts m).1)
  | .span m, "seconds" => some (.number (Exact.spanParts m).2.1)
  | .span m, "microseconds" => some (.number (Exact.spanParts m).2.2)
  | .date d, name => datePart? d name
  | .moment m, name =>
      (datePart? (m / Calendar.day) name).or (clockPart? (m % Calendar.day) name)
  | .time m, name => clockPart? m name
  | .path p, name => pathPart? p name
  | .range start _ _, "start" => some (.number start)
  | .range _ stop _, "stop" => some (.number stop)
  | .range _ _ step, "step" => some (.number step)
  | .uuid n, name => uuidPart? n name
  | .pattern s, "pattern" => some (.text s)
  | .pattern _, "flags" => some (.number 32)
  | .pattern _, "groups" => some (.number 0)
  | .pattern _, "groupindex" => some (.entries [])
  | _, _ => none

/-- The argument at a place, if there is one. -/
def argument (args : List Value) (place : Nat) : Part := .value (args.getD place .null)

/-- The parts of a failed file operation. A file that is named is not among its arguments. -/
def fileFaultPart? (args : List Value) (name : String) : Option Part :=
  let isTold := 2 ≤ args.length && args.length ≤ 5
  let told (place : Nat) : Option Part := some (argument (if isTold then args else []) place)
  match name with
  | "args" =>
      some (.tuple (if isTold && args.getD 2 .null ≠ .null then args.take 2 else args))
  | "errno" => told 0
  | "strerror" => told 1
  | "filename" => told 2
  | "filename2" => told 4
  | _ => none

/-- The parts of a malformed source: what is said, and where it is. -/
def sourceFaultPart? (w : World) (args : List Value) (name : String) : Option Part :=
  let place := match args with
    | [_, place] => (w.tupleItems? place).getD []
    | _ => []
  match name with
  | "msg" => some (argument args 0)
  | "filename" => some (argument place 0)
  | "lineno" => some (argument place 1)
  | "offset" => some (argument place 2)
  | "text" => some (argument place 3)
  | "end_lineno" => some (argument place 4)
  | "end_offset" => some (argument place 5)
  | "print_file_and_line" => some (.value .null)
  | _ => none

/-- The names of the arguments of a failure to code a text, in order. -/
def codingPartNames (w : World) (c : ClassId) : List String :=
  if w.isBelow c "UnicodeTranslateError" then ["object", "start", "end", "reason"]
  else ["encoding", "object", "start", "end", "reason"]

/-- The parts of an exception. -/
def exceptionPart? (w : World) (c : ClassId) (args : List Value) (name : String) : Option Part :=
  let own : Option Part :=
    if w.isBelow c "OSError" then fileFaultPart? args name
    else if w.isBelow c "SyntaxError" then w.sourceFaultPart? args name
    else if w.isBelow c "UnicodeError" then
      let names := w.codingPartNames c
      if names.contains name && names.length = args.length then
        some (argument args (names.idxOf name))
      else none
    else if w.isBelow c "SystemExit" && name = "code" then
      match args with
      | [] => some (.value .null)
      | [v] => some (.value v)
      | vs => some (.tuple vs)
    else if w.isBelow c "ImportError" then
      match name, args with
      | "msg", [v] => some (.value v)
      | "msg", _ | "name", _ | "path", _ => some (.value .null)
      | _, _ => none
    else if w.isBelow c "NameError" && name = "name" then some (.value .null)
    else if w.isBelow c "AttributeError" && (name = "name" || name = "obj") then
      some (.value .null)
    else if w.isBelow c "BaseExceptionGroup" then
      match name, args with
      | "message", v :: _ => some (.value v)
      | "exceptions", [_, vs] => (w.runThrough? vs).map .tuple
      | _, _ => none
    else none
  match own, name with
  | some p, _ => some p
  | none, "args" => some (.tuple args)
  | none, "__cause__" | none, "__context__" | none, "__traceback__" => some (.value .null)
  | none, "__suppress_context__" => some (.value (.truth false))
  | none, "__dict__" => some (.entries [])
  | none, _ => none

/-- The names of the parts of classes that hold them in order. -/
def partNames : List (String × List String) := [
  ("slice", ["start", "stop", "step"]), ("property", ["fget", "fset", "fdel"]),
  ("collections.UserDict", ["data"]), ("collections.UserList", ["data"])]

/-- What every new object of a class has under a name. -/
def freshParts : List (String × List (String × Value)) := [
  ("_io.BytesIO", [("closed", .truth false)]),
  ("_io.StringIO", [("closed", .truth false), ("encoding", .null), ("errors", .null),
    ("newlines", .null), ("line_buffering", .truth false)]),
  ("random.Random", [("gauss_next", .null)]),
  ("collections.defaultdict", [("default_factory", .null)]),
  ("property", [("__isabstractmethod__", .truth false)]),
  ("typing.ForwardRef", [("__forward_code__", Standard.objectOf "__forward_code__" "code"),
    ("__forward_evaluated__", .truth false), ("__forward_value__", .null),
    ("__forward_is_argument__", .truth true), ("__forward_is_class__", .truth false),
    ("__forward_module__", .null)]),
  ("typing.TypeVar", [("__bound__", .null), ("__covariant__", .truth false),
    ("__contravariant__", .truth false)]),
  ("dict_keys", [("mapping", Standard.objectOf "mapping" "mappingproxy")]),
  ("generator", [("gi_running", .truth false), ("gi_suspended", .truth false),
    ("gi_yieldfrom", .null), ("gi_code", Standard.objectOf "gi_code" "code"),
    ("gi_frame", Standard.objectOf "gi_frame" "frame")])]

/-- What a new object of a class has under a name. -/
def freshPart? (w : World) (c : ClassId) (name : String) : Option Part :=
  freshParts.findSome? fun (key, parts) =>
    if w.isBelow c key then (Assoc.find? parts name).map .value else none

/-- The names of the places in the tuples of a class, as its listing tells them. -/
def fieldNames : ClassId → List String
  | .standard key =>
      let lines := Standard.classLines key
      Standard.Listing.words lines "slots" ++
        (Standard.Listing.words lines "objects").filterMap fun word =>
          let (name, value) := Standard.Listing.nameOf word
          if value = some "_collections._tuplegetter" then some name else none
  | .defined _ => []

/-- The parts of an object that holds other values. -/
def itemsPart? (w : World) (c : ClassId) (items : List Value) (name : String) : Option Part :=
  if w.layout c = .exception then w.exceptionPart? c items name
  else if w.isBelow c "functools.partial" then
    match name with
    | "func" => some (argument items 0)
    | "args" => some (.tuple (items.drop 1))
    | "keywords" => some (.entries [])
    | _ => none
  else if w.isBelow c "collections.ChainMap" then
    if name = "maps" then some (.list items) else none
  else if w.isBelow c "collections.deque" then
    if name = "maxlen" then some (.value .null) else none
  else
    match partNames.find? fun (key, _) => w.isBelow c key with
    | some (_, names) =>
        if names.contains name then some (argument items (names.idxOf name)) else none
    | none =>
        if w.layout c = .tuple then
          let names := ((w.lineage c).map fieldNames).find? (!·.isEmpty) |>.getD []
          if names.contains name then items[names.idxOf name]?.map .value else none
        else none

/-- The bases that a class was made from: those of its ancestors that are not ancestors of others that
    come before them. -/
def basesOf (w : World) : List ClassId → List ClassId
  | [] => []
  | c :: rest =>
      c :: (w.basesOf rest).filter fun d => !(w.lineage c).contains d

/-- The tables that an enumeration keeps of its members. -/
def enumerationPart? (w : World) (cls name : String) : Option Part :=
  match name with
  | "__members__" => some (.value (Standard.objectOf name "mappingproxy"))
  | "_member_names_" => some (.list ((w.ownMemberNames cls).map .text))
  | "_member_map_" => some (.entries ((membersOf cls).map fun (n, v) => (.text n, v)))
  | "_value2member_map_" => some (.entries (membersByValue cls))
  | _ => none

/-- The parts of a class. -/
def classPart? (w : World) (c : ClassId) (name : String) : Option Part :=
  let above := (w.classInfo c).above
  match name with
  | "__mro__" => some (.tuple ((w.lineage c).map .cls))
  | "__bases__" => some (.tuple ((w.basesOf above).map .cls))
  | "__base__" => some (.value (match (w.basesOf above).head? with
      | some b => .cls b
      | none => .null))
  | "__dict__" => some (.value (Standard.objectOf "__dict__" "mappingproxy"))
  | name =>
      if !w.isBelow (w.classInfo c).kind "enum.EnumType" then none
      else
        match c with
        | .standard cls => w.enumerationPart? cls name
        | .defined _ =>
            if name = "__members__" then some (.value (Standard.objectOf name "mappingproxy"))
            else none

/-- What a form of annotations with arguments keeps beside them. -/
def formEntries (w : World) (t : Applied) : List (String × Value) :=
  let space : List (String × Value) := match t.name, t.origin with
    | none, some (.cls c) =>
        [("__module__", ((w.classInfo c).space.map Value.text).getD .null)]
    | none, _ => [("__module__", .text "typing")]
    | some _, _ => []
  [("_inst", .truth t.direct), ("_name", (t.name.map Value.text).getD .null), ("__slots__", .null),
   ("_paramspec_tvars", .truth false)] ++ space

/-- The parts of a type with arguments. -/
def appliedPart? (w : World) (c : ClassId) (t : Applied) (name : String) : Option Part :=
  let isForm := w.isBelow c "typing._GenericAlias"
  match name with
  | "type" => if w.isBelow c "dataclasses.InitVar" then t.args.head?.map .value else none
  | "__origin__" => t.origin.map .value
  | "__args__" => some (.tuple t.args)
  | "__parameters__" => some (.tuple (w.typeVariables t.args))
  | "__unpacked__" =>
      if w.isBelow c "types.GenericAlias" then some (.value (.truth false)) else none
  | "__metadata__" =>
      if w.isBelow c "typing._AnnotatedAlias" then some (.tuple t.remarks) else none
  | "__module__" =>
      if w.isBelow c "types.UnionType" then some (.text "types")
      else if isForm then (Assoc.find? (w.formEntries t) name).map .value
      else none
  | name => if isForm then (Assoc.find? (w.formEntries t) name).map .value else none

/-- The parts of a form of annotations without arguments. -/
def formPart? (f : Standard.ClassForm) (name : String) : Option Part :=
  match name with
  | "__origin__" => some (.value (.cls (.standard f.origin)))
  | "_inst" => some (.value (.truth f.direct))
  | "_nparams" => some (.number (f.arity.elim (-1) Int.ofNat))
  | "__slots__" => some (.value .null)
  | _ => none

/-- The parts of a function or a constant of the surroundings. -/
def nativePart? (w : World) (f : Native) (name : String) : Option Part :=
  match f, name with
  | .member _ value, "value" | .member _ value, "_value_" => some (.value value.value)
  | .member cls value, "name" | .member cls value, "_name_" =>
      some (match w.memberNames cls value with
        | [] => .value .null
        | names => .text (Text.join "|" names))
  | .other n c _, name =>
      if c = .standard "typing.TypeVar" then
        if name = "__name__" then some (.text n)
        else if name = "__covariant__" then
          some (.value (.truth (Text.beginsWith "+" (variableText n))))
        else if name = "__contravariant__" then
          some (.value (.truth (Text.beginsWith "-" (variableText n))))
        else if name = "__constraints__" then
          some (.tuple (if n = "AnyStr" then [.cls (.standard "bytes"), .cls (.standard "str")]
            else []))
        else none
      else if Standard.isTypeForm c && (name = "_name") then some (.text n)
      else if Standard.isTypeForm c then (Standard.classForm? n).bind (formPart? · name)
      else none
  | _, _ => none

/-- The parts of a function of the surroundings: what it knows of itself, and what is kept with it. -/
def calleePart? (w : World) (f : Native) (name : String) : Option Part :=
  let loaded := loaderParts f
  match (w.nativeKnown? f name).or (Assoc.find? loaded name) with
  | some v => some (.value v)
  | none =>
      if name = "__dict__" && !loaded.isEmpty then
        some (.entries (loaded.map fun (n, v) => (.text n, v)))
      else if w.typeOf (.native f) = Standard.plainFunction &&
          (name = "__annotations__" || name = "__dict__") then some (.entries [])
      else none

/-- A part of a value, with its name. -/
def part? (w : World) (v : Value) (name : String) : Option (Value × World) :=
  let c := w.typeOf v
  let found : Option Part :=
    match v, w.content? v with
    | .cls c, _ => w.classPart? c name
    | .native f, _ =>
        (w.calleePart? f name).or ((w.nativePart? f name).or (plainPart? (w.opened v) name))
    | _, some (.exact (.buffer bs)) =>
        if w.isBelow c "memoryview" then viewPart? bs name else none
    | _, some (.exact e) => exactPart? v e name
    | _, some (.array code _) =>
        match name with
        | "typecode" => some (.text (String.singleton code))
        | "itemsize" => some (.number (itemSize code))
        | _ => none
    | _, some (.items items) => w.itemsPart? c items name
    | _, some (.applied t) => w.appliedPart? c t name
    | _, _ => plainPart? (w.opened v) name
  match w.description? v with
  | some d => w.descriptionPart? d name
  | none => (found.or (w.freshPart? c name)).map (Part.make w c)

end FragmentWeaver.World
