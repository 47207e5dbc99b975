import FragmentWeaver.Number.Decimal
import FragmentWeaver.Text.Coding
import FragmentWeaver.Value.Applied
import FragmentWeaver.Value.Enumeration

/-!
# The written form of values

Every value has a written form, which for plain values and containers is also what a source would
say, and a shown form, which differs from it for texts, units and exceptions. A container that
stands inside itself is cut short. Whole numbers beyond a fixed count of digits have no written
form, nor do objects that were made without being set up.
-/

namespace FragmentWeaver

/-- The most digits a whole number is written with. -/
def digitLimit : Nat := 4300

/-- Why a value has no written form. -/
inductive Unwritten where
  /-- A whole number in it is too long. -/
  | tooManyDigits
  /-- An object in it was never set up: its class, and the name of the attribute it lacks. -/
  | bareObject (cls name : String)
  /-- A wrapper that was never set up to wrap anything. -/
  | emptyWrapper
  deriving DecidableEq, Repr

/-- The text of a whole number that is not too long. -/
def wholeText? (i : Int) : Except Unwritten String :=
  let text := Number.wholeText i
  if digitLimit < text.length - (if i < 0 then 1 else 0) then .error .tooManyDigits else .ok text

/-- The written form of a truth value. -/
def truthText (b : Bool) : String := if b then "True" else "False"

/-- Written forms side by side. -/
def listed (parts : List String) : String := Text.join ", " parts

/-- The kinds of objects that hold other values. -/
inductive Layout where
  | list | tuple | set | dict | deque | array | boxed | exception | other
  deriving DecidableEq

namespace World

/-- Does a class stand below the standard class with the key? -/
def isBelow (w : World) (c : ClassId) (key : String) : Bool :=
  (w.lineage c).contains (.standard key)

/-- The kinds that the standard classes give to the classes below them. -/
def layoutOf? : ClassId → Option Layout
  | .standard "list" => some .list
  | .standard "tuple" => some .tuple
  | .standard "set" | .standard "frozenset" => some .set
  | .standard "dict" => some .dict
  | .standard "collections.deque" => some .deque
  | .standard "array.array" => some .array
  | .standard "BaseException" => some .exception
  | .standard "_ctypes._SimpleCData" => some .boxed
  | _ => none

/-- The kind of the objects of a class. -/
def layout (w : World) (c : ClassId) : Layout :=
  ((w.lineage c).findSome? layoutOf?).getD .other

/-- The written form of a class. -/
def classText (w : World) (c : ClassId) : String :=
  let i := w.classInfo c
  let isEnum := (w.lineage i.kind).contains (.standard "enum.EnumType")
  let word :=
    if !isEnum then "class"
    else if (w.lineage c).contains (.standard "enum.Flag") then "flag"
    else "enum"
  match i.space with
  | some m =>
      if c = .standard "typing.Any" then i.shown
      else if isEnum then "<" ++ word ++ " '" ++ lastPart i.name ++ "'>"
      else if m = "builtins" then "<class '" ++ i.shown ++ "'>"
      else "<class '" ++ m ++ "." ++ i.name ++ "'>"
  | none => "<" ++ word ++ " '" ++ i.shown ++ "'>"

/-- The name a module gives itself. -/
def moduleName (w : World) (m : ModuleId) : String :=
  match w.modules[m]? with
  | some r => r.ownName
  | none => ""

/-- The written form of a module: where it comes from, if that is known. -/
def moduleText (w : World) (m : ModuleId) : String :=
  let r := w.modules.getD m { name := "" }
  let place :=
    match r.file with
    | some file => " from " ++ Text.quote file
    | none =>
        match r.standard, r.standard.map Standard.origin with
        | _, some .builtIn => " (built-in)"
        | _, some .frozen => " (frozen)"
        | some table, _ => ((Standard.file? table).map fun f => " from " ++ Text.quote f).getD ""
        | none, _ => ""
  "<module " ++ Text.quote r.name ++ place ++ ">"

/-- The written form of a variable that stands for types: a sign before its name tells which of them
    can be used for each other. -/
def variableText (name : String) : String :=
  let ends (mark : String) : Bool := mark.toList.isSuffixOf name.toList
  (if ends "_co" then "+" else if ends "_contra" then "-" else "~") ++ name

/-- The written form of a function or a constant of the surroundings. -/
def nativeText (w : World) : Native → String
  | .steal => "<function steal>"
  | .put => "<function put>"
  | .cast => "<function cast>"
  | .unbox => "<function unbox>"
  | .keep => "<function final>"
  | .abstractEntry => "<function Invocable.__call__>"
  | .enter => "<function Invocable.call>"
  | .universal name => "<slot wrapper '" ++ name ++ "' of 'object' objects>"
  | .member cls value => w.memberWritten cls value
  | .other name cls _ =>
      if cls = .standard "builtin_function_or_method" then "<built-in function " ++ name ++ ">"
      else if cls = .standard "typing.TypeVar" then variableText name
      else if Standard.isTypeForm cls then "typing." ++ name
      else name

/-- The written form of a value without parts. -/
def plainText (w : World) : Value → Except Unwritten String
  | .null => .ok "None"
  | .truth b => .ok (truthText b)
  | .whole i => wholeText? i
  | .float x => .ok x.text
  | .complex re im => .ok (Number.complexText re im)
  | .text s => .ok (Text.quote s)
  | .loose ps => .ok (Text.quotePoints ps)
  | .bytes bs => .ok (Text.quoteBytes bs)
  | .missing => .ok "<missing binding>"
  | .unit u =>
      .ok ("UnitId(namespace=" ++ Text.quote u.space ++ ", simple_name=" ++ Text.quote u.name ++
        ")")
  | .cls c => .ok (w.classText c)
  | .module m => .ok (w.moduleText m)
  | .native f => .ok (w.nativeText f)
  | .moduleTable => .ok "<module table>"
  | .spec _ => .ok "<module description>"
  | .object _ _ => .ok ""

/-- An object of which only its class can be told. -/
def objectText (w : World) (c : ClassId) : String :=
  "<" ++ w.fullName c ++ " object>"

/-- The written form of an object inside itself. -/
def cutShort (w : World) (c : ClassId) : String :=
  match w.layout c with
  | .list | .deque => "[...]"
  | .tuple => "(...)"
  | .dict => if w.isBelow c "collections.OrderedDict" then "..." else "\x7b...\x7d"
  | .other => "..."
  | _ => w.plainName c ++ "(...)"

/-- The written form of a list, from the written forms of its items. -/
def listText (parts : List String) : String := "[" ++ listed parts ++ "]"

/-- The written form of a tuple, from the written forms of its items. -/
def tupleText : List String → String
  | [one] => "(" ++ one ++ ",)"
  | parts => "(" ++ listed parts ++ ")"

/-- The written form of a dictionary. -/
def dictText (w : World) (c : ClassId) (pairs : List (String × String)) : String :=
  let name := w.plainName c
  let body := "\x7b" ++ listed (pairs.map fun (k, v) => k ++ ": " ++ v) ++ "\x7d"
  if w.isBelow c "collections.OrderedDict" then
    if pairs.isEmpty then name ++ "()"
    else name ++ "(" ++ listText (pairs.map fun (k, v) => tupleText [k, v]) ++ ")"
  else if w.isBelow c "collections.Counter" then
    if pairs.isEmpty then name ++ "()" else name ++ "(" ++ body ++ ")"
  else if w.isBelow c "collections.defaultdict" then name ++ "(None, " ++ body ++ ")"
  else body

/-- The written form of an object that holds values of no kind of their own. -/
def otherText (w : World) (c : ClassId) (parts : List String) : String :=
  let name := w.plainName c
  let called (head : String) := head ++ "(" ++ listed parts ++ ")"
  if w.isBelow c "slice" then called "slice"
  else if w.isBelow c "staticmethod" || w.isBelow c "classmethod" then
    "<" ++ called (w.classInfo c).shown ++ ">"
  else if w.isBelow c "dict_keys" then name ++ "(" ++ listText parts ++ ")"
  else if w.isBelow c "functools.partial" then called (w.classInfo c).shown
  else if w.isBelow c "collections.ChainMap" || w.isBelow c "itertools.count" then called name
  else if w.isBelow c "collections.UserDict" || w.isBelow c "collections.UserList" then
    listed parts
  else w.objectText c

/-- The attribute without which the objects of a class have no written form. -/
def neededAttribute? (w : World) (c : ClassId) : Option String :=
  [("collections.ChainMap", "maps"), ("collections.UserDict", "data"),
   ("collections.UserList", "data"), ("uuid.UUID", "int"),
   ("codeweave.runtime.identity.UnitId", "namespace"),
   ("codeweave.runtime.inference.TypeDescriptor", "type_name")].findSome? fun (key, name) =>
    if w.isBelow c key then some name else none

/-- The written form of an object with attributes of its own, from their written forms. -/
def attributesText (w : World) (c : ClassId) (parts : List (String × String)) :
    Except Unwritten String :=
  if w.isBelow c "types.SimpleNamespace" then
    let head := if c = .standard "types.SimpleNamespace" then "namespace" else w.plainName c
    .ok (head ++ "(" ++ listed (parts.map fun (n, v) => n ++ "=" ++ v) ++ ")")
  else if w.isBelow c "typing.ForwardRef" then
    .ok ("ForwardRef(" ++ (Assoc.find? parts "__forward_arg__").getD "" ++ ")")
  else
    match w.neededAttribute? c with
    | some name => .error (.bareObject (w.classInfo c).shown name)
    | none =>
        if w.isBelow c "_io.TextIOWrapper" then .error .emptyWrapper else .ok (w.objectText c)

/-- The written form of an object, from the written forms of its items. -/
def itemsText (w : World) (c : ClassId) (parts : List String) : String :=
  let name := w.plainName c
  match w.layout c with
  | .list => listText parts
  | .tuple => tupleText parts
  | .set =>
      if parts.isEmpty then name ++ "()"
      else if c = .standard "set" then "\x7b" ++ listed parts ++ "\x7d"
      else name ++ "(\x7b" ++ listed parts ++ "\x7d)"
  | .deque => name ++ "(" ++ listText parts ++ ")"
  | .exception => name ++ "(" ++ listed parts ++ ")"
  | _ => w.otherText c parts

/-- The written form of a typed array, from the written forms of its items and its text, if it holds
    characters. -/
def arrayText (w : World) (c : ClassId) (code : Char) (parts : List String) (text : Option String) :
    String :=
  let head := w.plainName c ++ "('" ++ String.singleton code ++ "'"
  match parts, text with
  | [], _ => head ++ ")"
  | _, some s => head ++ ", " ++ Text.quote s ++ ")"
  | parts, none => head ++ ", " ++ listText parts ++ ")"

/-- The arguments that an exception is written with: a failed file operation keeps the paths
    apart. -/
def writtenArguments (w : World) (c : ClassId) (args : List Value) : List Value :=
  if w.isBelow c "OSError" && 3 ≤ args.length && args.length ≤ 5 && args[2]? ≠ some .null then
    args.take 2
  else args

/-- The written form of a value inside some objects, nested to a given depth. Some objects tell their
    own written forms. -/
def writtenWithin (w : World) (told : List (Address × String)) (depth : Nat)
    (inside : List Address) (v : Value) : Except Unwritten String :=
  match v, depth with
  | .object a c, depth + 1 =>
      if let some s := Assoc.find? told a then .ok s
      else if inside.contains a then .ok (w.cutShort c)
      else
        let write := w.writtenWithin told depth (a :: inside)
        match w.heap[a]? with
        | some (.items xs) => do
            return w.itemsText c (← (w.writtenArguments c xs).mapM write)
        | some (.array code xs) => do
            return w.arrayText c code (← xs.mapM write)
              (if code = 'u' then (Value.texts? xs).map (Text.join "") else none)
        | some (.entries kvs) => do
            return w.dictText c (← kvs.mapM fun (k, v) => do return (← write k, ← write v))
        | some (.plain inner) => write inner
        | some (.boxed inner) => do
            match c, inner with
            | .defined _, _ => return w.objectText c
            | _, none => return w.plainName c ++ "(<NULL>)"
            | _, some v => return w.plainName c ++ "(" ++ (← write v) ++ ")"
        | some (.exact e) =>
            return (e.written? (w.plainName c) (w.classInfo c).shown).getD (w.objectText c)
        | some (.instance attributes) => do
            w.attributesText c (← attributes.mapM fun (n, v) => do return (n, ← write v))
        | some (.applied t) => w.appliedText c t write
        | some (.above owner receiver) =>
            .ok ("<super: <class '" ++ (w.classInfo owner).shown ++ "'>, <" ++
              (w.classInfo (w.typeOf receiver)).shown ++ " object>>")
        | _ => .ok (w.objectText c)
  | .object _ c, 0 => .ok (w.cutShort c)
  | v, _ => w.plainText v

/-- The written form of a value. -/
def written (w : World) (v : Value) : Except Unwritten String :=
  w.writtenWithin [] (w.heap.size + 1) [] v

/-- The objects in a value whose classes have a method for their written forms, in the order in which
    they are written, inside some objects and nested to a given depth. -/
def tellersWithin (w : World) : Nat → List Address → Value → List Value
  | depth + 1, inside, .object a c =>
      let tellers := w.tellersWithin depth (a :: inside)
      match c, w.classAttribute? c "__repr__" with
      | .defined _, some _ => [.object a c]
      | _, _ =>
          if inside.contains a then []
          else
            match w.heap[a]? with
            | some (.items xs) => xs.flatMap tellers
            | some (.entries kvs) => kvs.flatMap fun (k, v) => tellers k ++ tellers v
            | _ => []
  | _, _, _ => []

/-- The objects in a value whose classes have a method for their written forms. -/
def tellers (w : World) (v : Value) : List Value :=
  w.tellersWithin (w.heap.size + 1) [] v

/-- The shown form of a value that is no exception. -/
def shownPlain (w : World) (v : Value) : Except Unwritten String :=
  match v with
  | .text s => .ok s
  | .loose ps => .ok (Text.tellPoints ps)
  | .unit u => .ok u.qualifiedName
  | .native (.member cls value) => .ok (w.memberShown cls value)
  | .object a _ =>
      match w.heap[a]? with
      | some (.plain (.text s)) => .ok s
      | some (.plain (.unit u)) => .ok u.qualifiedName
      | some (.exact e) =>
          match e.shown? with
          | some s => .ok s
          | none => w.written v
      | _ => w.written v
  | v => w.written v

/-- The shown form of a group of exceptions: what it says, and how many there are in it. -/
def groupText (said : String) (count : Nat) : String :=
  said ++ " (" ++ toString count ++ " sub-exception" ++ (if count = 1 then ")" else "s)")

/-- The shown form of a failed file operation with a number, given how values are shown. -/
def fileFaultText (w : World) (show? : Value → Except Unwritten String) (number said : Value)
    (paths : List Value) : Except Unwritten String := do
  let head := "[Errno " ++ (← show? number) ++ "] " ++ (← show? said)
  match paths.filter (· ≠ .null) with
  | [] => return head
  | [p] => return head ++ ": " ++ (← w.written p)
  | p :: rest => return head ++ ": " ++ (← w.written p) ++ " -> " ++ (← w.written (rest.getLastD p))

/-- The place of a malformed source, as far as it is told: the last part of the name of a file, and
    the number of a line. -/
def sourcePlaceText (w : World) (place : Value) : String :=
  let parts : List Value := match place with
    | .object a _ => w.heap.items a
    | .text s => s.toList.map fun c => .text (String.singleton c)
    | _ => []
  let file? : Option String := match parts.head? with
    | some (.text s) => some (String.ofList ((s.toList.reverse.takeWhile (· ≠ '/')).reverse))
    | _ => none
  let line? : Option String := match (parts.drop 1).head? with
    | some (.whole i) => some ("line " ++ Number.wholeText i)
    | _ => none
  match file?, line? with
  | none, none => ""
  | some one, none | none, some one => " (" ++ one ++ ")"
  | some file, some line => " (" ++ file ++ ", " ++ line ++ ")"

/-- The shown form of an exception, from its class and arguments, given how values are shown. -/
def argumentsShown (w : World) (show? : Value → Except Unwritten String) (c : ClassId)
    (args : List Value) : Except Unwritten String :=
  let usual : Except Unwritten String :=
    match args with
    | [] => .ok ""
    | [v] => if w.isBelow c "KeyError" then w.written v else show? v
    | vs => do return tupleText (← vs.mapM w.written)
  if w.isBelow c "OSError" then
    match args with
    | [number, said] => w.fileFaultText show? number said []
    | [number, said, path] | [number, said, path, _] => w.fileFaultText show? number said [path]
    | [number, said, path, _, target] => w.fileFaultText show? number said [path, target]
    | _ => usual
  else if w.isBelow c "SyntaxError" then
    match args with
    | [] => .ok "None"
    | [v, place] => do return (← show? v) ++ w.sourcePlaceText place
    | v :: _ => show? v
  else if w.isBelow c "BaseExceptionGroup" then
    match args with
    | [said, .object a _] => do
        return groupText (← show? said) (w.heap.items a).length
    | _ => usual
  else if w.isBelow c "UnicodeDecodeError" || w.isBelow c "UnicodeEncodeError" then
    match args with
    | [.text encoding, .bytes bs, .whole first, .whole last, .text why] =>
        .ok (Text.undecodableText encoding bs[first.toNat]? first.toNat last.toNat why)
    | [.text encoding, .text s, .whole first, .whole last, .text why] =>
        .ok (Text.unencodableText (some encoding) s.toList[first.toNat]? first.toNat last.toNat
          why)
    | _ => .ok ""
  else if w.isBelow c "UnicodeTranslateError" then
    match args with
    | [.text s, .whole first, .whole last, .text why] =>
        .ok (Text.unencodableText none s.toList[first.toNat]? first.toNat last.toNat why)
    | _ => .ok ""
  else usual

/-- The shown form of a value; exceptions may hold each other to a given depth. -/
def shownWithin (w : World) : Nat → Value → Except Unwritten String
  | depth, v =>
      match v, depth with
      | .object a c, depth + 1 =>
          match w.layout c, w.heap[a]? with
          | .exception, some (.items args) => w.argumentsShown (w.shownWithin depth) c args
          | _, _ => w.shownPlain v
      | v, _ => w.shownPlain v

/-- The shown form of a value. -/
def shown (w : World) (v : Value) : Except Unwritten String :=
  w.shownWithin (w.heap.size + 1) v

/-- The shown form of an exception, from its class and arguments. -/
def exceptionShown (w : World) (c : ClassId) (args : List Value) : Except Unwritten String :=
  w.argumentsShown w.shown c args

end World

end FragmentWeaver
