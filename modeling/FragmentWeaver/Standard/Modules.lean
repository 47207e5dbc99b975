import FragmentWeaver.Assoc
import FragmentWeaver.Script.Parser
import FragmentWeaver.Standard.Listing
import FragmentWeaver.Standard.Listing.Containers
import FragmentWeaver.Standard.Listing.Core
import FragmentWeaver.Standard.Listing.Development
import FragmentWeaver.Standard.Listing.Files
import FragmentWeaver.Standard.Listing.Language
import FragmentWeaver.Standard.Listing.Mail
import FragmentWeaver.Standard.Listing.Markup
import FragmentWeaver.Standard.Listing.Media
import FragmentWeaver.Standard.Listing.Network
import FragmentWeaver.Standard.Listing.Numbers
import FragmentWeaver.Standard.Listing.Processes
import FragmentWeaver.Standard.Listing.Storage
import FragmentWeaver.Standard.Listing.System
import FragmentWeaver.Standard.Listing.Terminal
import FragmentWeaver.Standard.Listing.Text
import FragmentWeaver.Standard.Listing.Weaving
import FragmentWeaver.Text.Charset
import FragmentWeaver.Value

/-!
# The standard modules

The modules that are in the module table before anything is loaded: where they come from, and what can
be read from them. What a listing says of a name is a value, unless it is a list or another thing that
can be changed; such a thing is made when it is first asked for, from the expression it is written as.
-/

namespace FragmentWeaver.Standard

/-- The listings of the modules, the built-in names first. -/
def moduleListings : List (String × List String) :=
  coreModules ++ containersModules ++ numbersModules ++ textModules ++ charsetModules ++
    filesModules ++ storageModules ++ processesModules ++ systemModules ++ networkModules ++
    mailModules ++ markupModules ++ languageModules ++ developmentModules ++ terminalModules ++
    mediaModules ++ weavingModules

/-- The listings of the classes. -/
def classListings : List (String × List String) :=
  weavingClasses ++ coreClasses ++ containersClasses ++ numbersClasses ++ textClasses ++
    charsetClasses ++ filesClasses ++ storageClasses ++ processesClasses ++ systemClasses ++
    networkClasses ++ mailClasses ++ markupClasses ++ languageClasses ++ developmentClasses ++
    terminalClasses ++ mediaClasses

/-- The names of the modules, each of which is there once. -/
def moduleNames : List String := moduleListings.map Prod.fst

/-- Further names in the module table. -/
def moduleAliases : List (String × String) := [
  ("os.path", "posixpath"), ("collections.abc", "_collections_abc"),
  ("importlib._bootstrap", "_frozen_importlib"),
  ("importlib._bootstrap_external", "_frozen_importlib_external"),
  ("xml.parsers.expat.errors", "pyexpat.errors"), ("xml.parsers.expat.model", "pyexpat.model")]

/-- The name under which the module is listed that is known under a name. -/
def listedName (table : String) : String :=
  (Assoc.find? moduleAliases table).getD table

/-- The lines about a module. -/
def moduleLines (table : String) : List String :=
  (Assoc.find? moduleListings (listedName table)).getD []

/-- The lines about a class. -/
def classLines (key : String) : List String :=
  (Assoc.find? classListings key).getD []

/-- The place of a module among all of them. -/
def moduleIndex? (table : String) : Option Nat :=
  moduleNames.findIdx? (· == listedName table)

/-- Is a module there under a name from the start? -/
def isModule (table : String) : Bool := (moduleIndex? table).isSome

/-- Can a module that is there from the start hold other modules? -/
def isPackage (table : String) : Bool := Listing.marks (moduleLines table) "package"

/-- The modules that come into the table with a standard module. None of them lies in another one. -/
def brought (table : String) : List String :=
  (Listing.words (moduleLines table) "brings").filter fun name => !name.toList.contains '.'

/-- The names that modules have for themselves where they are not those of the table. -/
def ownNames : List (String × String) := [
  ("_collections_abc", "collections.abc"), ("_frozen_importlib", "importlib._bootstrap"),
  ("_frozen_importlib_external", "importlib._bootstrap_external")]

/-- The name a standard module gives itself. -/
def ownName (table : String) : String :=
  let listed := listedName table
  (Assoc.find? ownNames listed).getD listed

/-- Modules that say that they are others, in whose place they stand. -/
def claimedNames : List (String × String) := [
  ("_io", "io"), ("_decimal", "decimal"), ("_pydecimal", "decimal")]

/-- The name that a standard module says it has. -/
def claimedName (table : String) : String :=
  (Assoc.find? claimedNames table).getD (ownName table)

/-- The modules that were made inside another one, of which no more is known. -/
def bareModules : List String := ["pyexpat.errors", "pyexpat.model"]

/-- Where a standard module comes from. -/
inductive Origin where
  /-- It is part of the interpreter. -/
  | builtIn
  /-- The interpreter keeps it compiled. -/
  | frozen
  /-- It is a file of machine code. -/
  | extension
  | source
  /-- It is a source in a place of its own. -/
  | elsewhere
  deriving DecidableEq, Repr

/-- Where a standard module comes from. -/
def origin (table : String) : Origin :=
  let lines := moduleLines table
  if Listing.marks lines "built-in" then .builtIn
  else if Listing.marks lines "frozen" then .frozen
  else if Listing.marks lines "extension" then .extension
  else if Text.beginsWith "codeweave" table then .elsewhere
  else .source

/-- The directory of the standard modules. -/
def libraryDirectory : String := "/usr/lib/python3.11"

/-- The place of a module among the files of the standard modules, without an ending. -/
def stemOf (table : String) : String :=
  libraryDirectory ++ "/" ++ Text.join "/" (Text.split '.' table)

/-- The file of a standard module. -/
def file? (table : String) : Option String :=
  match origin table with
  | .builtIn | .elsewhere => none
  | .extension =>
    some (libraryDirectory ++ "/lib-dynload/" ++ table ++ ".cpython-311-x86_64-linux-gnu.so")
  | .frozen | .source =>
    some (stemOf table ++ if isPackage table then "/__init__.py" else ".py")

/-- The class of built-in functions. -/
def builtinFunction : ClassId := .standard "builtin_function_or_method"

/-- The class of functions written in the fragment language. -/
def plainFunction : ClassId := .standard "function"

/-- The class of the methods of built-in classes. -/
def methodFunction : ClassId := .standard "method_descriptor"

/-- The class of the methods that operations of the language stand for. -/
def operationFunction : ClassId := .standard "wrapper_descriptor"

/-- Are the instances of the class functions? -/
def isFunctionClass (c : ClassId) : Bool :=
  [builtinFunction, plainFunction, methodFunction, operationFunction].contains c ||
    ["method", "builtin_method", "method-wrapper", "functools._lru_cache_wrapper"].any fun key =>
      c = .standard key

/-- An object of a standard class of which nothing else is known. -/
def objectOf (name key : String) : Value := .native (.other name (.standard key))

/-- The expression that a text is. -/
def expression? (source : String) : Option Script.Expr :=
  match Script.Parser.parse (Script.Token.ofSource 0 source) with
  | .ok [.expr e] => some e
  | _ => none

/-- The literal that an expression stands for, if it stands for one. -/
def literal? : Script.Expr → Option Script.Literal
  | .literal l => some l
  | .negate (.literal (.whole i)) => some (.whole (-i))
  | .negate (.literal (.float x)) => some (.float x.neg)
  | .name "inf" => some (.float (.infinite false))
  | .negate (.name "inf") => some (.float (.infinite true))
  | .name "nan" => some (.float .undefined)
  | .name "infj" => some (.imaginary (.infinite false))
  | .name "nanj" => some (.imaginary .undefined)
  | _ => none

/-- A member of an enumeration. -/
def enumMember? (cls name : String) : Option Value := do
  let source ← Assoc.find? (Listing.valuesOf (classLines cls)) name
  match (expression? source).bind literal? with
  | some l => return .native (.member cls l)
  | none => return objectOf ((Listing.lastCut cls).2 ++ "." ++ name) cls

/-- The name of the member of an enumeration with a value. -/
def memberName? (cls : String) (value : Script.Literal) : Option String :=
  ((Listing.valuesOf (classLines cls)).find? fun (_, source) =>
    (expression? source).bind literal? = some value).map Prod.fst

/-- A function that is listed at a place under a name. It may tell of another place: the module that it
    was made in and, if that is another one, its name there. -/
def functionOf (home : Home) (name : String) (cls : ClassId) (made : Option String) : Value :=
  match made.bind fun place => Text.cutFirst ':' place.toList with
  | none => .native (.other name cls home)
  | some (module, title) =>
    .native (.other (if title.isEmpty then name else String.ofList title) cls
      (if module.isEmpty then .untold else .module (String.ofList module)))

/-- The value of an entry that is listed at a place, unless one has to be made for it. -/
def Entry.value? (home : Home) (name : String) : Entry → Option Value
  | .function made => some (functionOf home name plainFunction made)
  | .static made => some (functionOf home name plainFunction made)
  | .builtIn made => some (functionOf home name builtinFunction made)
  | .ofClass key => some (.cls (.standard key))
  | .object key => some (objectOf name key)
  | .holder key => some (.native (.other name (.standard key) home))
  | .module m => (moduleIndex? m).map .module
  | .member cls n => enumMember? cls n
  | .number i => some (.whole i)
  | .constant none source => ((expression? source).bind literal?).map Script.Literal.value
  | .charset set "decoding_table" =>
    (Text.Charset.ofName? set).map fun s => .text (String.ofList s.table.toList)
  | _ => none

/-- A number as it is written. -/
def numeral (n : Nat) : Script.Expr := .literal (.whole n)

/-- How an entry is written for which a value has to be made, and its class if it is another one than
    that of what is written. -/
def Entry.written? : Entry → Option (Option String × Script.Expr)
  | .constant cls source => (expression? source).map fun e => (cls, e)
  | .names ns => some (none, .list (ns.map fun n => .literal (.text n)))
  | .charset set "decoding_map" => do
    let s ← Text.Charset.ofName? set
    return (none, .dict (s.decodingMap.map fun (byte, code) =>
      (numeral byte, (code.map numeral).getD (.literal .null))))
  | .charset set "encoding_map" => do
    let s ← Text.Charset.ofName? set
    return (none, .dict (s.encodingMap.map fun (code, byte) => (numeral code, numeral byte)))
  | _ => none

/-- Does a module give a name to a module that takes all its names? It gives those that it exports, or
    all that do not start with an underscore. -/
def offers (table name : String) : Bool :=
  let exported := Listing.words (moduleLines table) "exports"
  if exported.isEmpty then !Text.beginsWith "_" name else exported.contains name

/-- The module and the name in it that a name of a module stands for: a name that stands for one in
    another module, or that was taken from there with all the others, is followed so often. -/
def home : Nat → String → String → String × String
  | 0, table, name => (table, name)
  | n + 1, table, name =>
    match Listing.entry? table name (moduleLines table) with
    | some (.same module other) => home n module other
    | some _ => (table, name)
    | none =>
      match Listing.word? (moduleLines table) "takes" with
      | some m => if offers m name then home n m name else (table, name)
      | none => (table, name)

/-- The names that are listed for a module, and those that it takes from another one. -/
def namesIn : Nat → String → List String
  | 0, table => Listing.namesOf (moduleLines table)
  | n + 1, table =>
    let own := Listing.namesOf (moduleLines table)
    match Listing.word? (moduleLines table) "takes" with
    | some m => own ++ (namesIn n m).filter fun name => offers m name && !own.contains name
    | none => own

/-- How often a name is followed from module to module. -/
def followLimit : Nat := 4

/-- Members of a standard module that have a meaning of their own. -/
def ownMembers : String → List (String × Value)
  | "sys" => [("modules", .moduleTable)]
  | "typing" => [("final", .native .keep)]
  | "codeweave.bindings" =>
    [("steal", .native .steal), ("put", .native .put), ("cast", .native .cast),
      ("unbox", .native .unbox), ("MISSING", .missing)]
  | _ => []

/-- The class of the descriptions that modules are made from. -/
def specClass : String := "_frozen_importlib.ModuleSpec"

/-- The compiled file that belongs to the file of a standard module. -/
def cached? (table : String) : Option String :=
  let (space, name) := Listing.lastCut table
  let inside := libraryDirectory ++ "/" ++ Text.join "/" (Text.split '.' space)
  let directory :=
    if isPackage table then stemOf table else if space.isEmpty then libraryDirectory else inside
  let file := if isPackage table then "__init__" else name
  if origin table = .source then
    some (directory ++ "/__pycache__/" ++ file ++ ".cpython-311.pyc")
  else none

/-- The loader of a standard module with a file. -/
def loaderOf (table key : String) : Value :=
  .native (.other (ownName table) (.standard key) (((file? table).map Home.file).getD .untold))

/-- What a module knows of itself and of the place it comes from. What its text says is not listed. Its
    description is named after it. -/
def placeMember? (table : String) : String → Option Value
  | "__doc__" => some (objectOf "__doc__" "str")
  | "__spec__" => some (objectOf table specClass)
  | "__loader__" => some (match origin table with
    | .builtIn => .cls (.standard "_frozen_importlib.BuiltinImporter")
    | .frozen => .cls (.standard "_frozen_importlib.FrozenImporter")
    | .extension => loaderOf table "_frozen_importlib_external.ExtensionFileLoader"
    | _ => loaderOf table "_frozen_importlib_external.SourceFileLoader")
  | "__file__" => (file? table).map .text
  | "__cached__" => (cached? table).map .text
  | _ => none

/-- What can be read from a standard module, unless it has to be made first. -/
def member? (table name : String) : Option Value :=
  let (table, name) := home followLimit table name
  match Assoc.find? (ownMembers table) name, Listing.entry? table name (moduleLines table) with
  | some v, _ => some v
  | none, some e => e.value? (.module (ownName table)) name
  | none, none =>
    if bareModules.contains table && ["__spec__", "__loader__"].contains name then some .null
    else placeMember? table name

/-- How a member of a standard module is written that has to be made first. -/
def writtenMember? (table name : String) : Option (Option String × Script.Expr) :=
  let (table, name) := home followLimit table name
  match Listing.entry? table name (moduleLines table) with
  | some e => e.written?
  | none =>
    if name = "__path__" && isPackage table && origin table ≠ .elsewhere then
      some (none, .list [.literal (.text (stemOf table))])
    else none

/-- How a part of something is written that is listed at a place. What stands in a class of a module is
    listed with the class. -/
def partSource? (home : Home) (thing name : String) : Option String :=
  match home with
  | .module m =>
    match Listing.lastCut thing with
    | ("", _) => Listing.partOf? thing name (moduleLines m)
    | (inside, own) => Listing.partOf? own name (classLines (m ++ "." ++ inside))
  | .cls (.standard key) => Listing.partOf? thing name (classLines key)
  | _ => none

/-- What a standard class lists for a name. -/
def classEntry? (key name : String) : Option Entry := Listing.entry? key name (classLines key)

/-- The built-in names, in the order in which they are told. -/
def builtinOrder : List String := Listing.words (moduleLines "builtins") "order"

/-- The names in a standard module. -/
def memberNames (table : String) : List String :=
  (ownMembers table).map Prod.fst ++ namesIn followLimit table

/-- Is the class one of those whose instances stand for types in annotations? -/
def isTypeForm : ClassId → Bool
  | .standard key => Text.beginsWith "typing._" key
  | .defined _ => false

/-- The class of the entry points of inline units. -/
def invocable : ClassId := .standard "codeweave.runtime.unit.Invocable"

/-- The enumeration of the kinds of units. -/
def unitKind : String := "codeweave.runtime.unit.UnitKind"

/-- A kind of unit. -/
def unitKindMember (name : String) : Value := (enumMember? unitKind name).getD .null

/-- Members of a standard class that fragments can call. -/
def classMembers : String → List (String × Value)
  | "codeweave.runtime.unit.Invocable" =>
    [("__call__", .native .abstractEntry), ("call", .native .enter)]
  | _ => []

end FragmentWeaver.Standard
