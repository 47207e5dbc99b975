import FragmentWeaver.Text.Decoding
import FragmentWeaver.Value.Order

/-!
# Faults

Everything that can go wrong, by its cause. A fault has a class, so that a host can tell its kind;
the arguments that make up its written form; and a message.
-/

namespace FragmentWeaver

/-- Why a file operation fails. -/
inductive FileCause where
  | notFound | denied | exists | notDirectory | isDirectory | nameTooLong
  deriving DecidableEq, Repr

/-- The number of a cause. -/
def FileCause.number : FileCause → Nat
  | .notFound => 2
  | .denied => 13
  | .exists => 17
  | .notDirectory => 20
  | .isDirectory => 21
  | .nameTooLong => 36

/-- The wording of a cause. -/
def FileCause.message : FileCause → String
  | .notFound => "No such file or directory"
  | .denied => "Permission denied"
  | .exists => "File exists"
  | .notDirectory => "Not a directory"
  | .isDirectory => "Is a directory"
  | .nameTooLong => "File name too long"

/-- A file operation that failed, and the path it was for. -/
structure FileFault where
  cause : FileCause
  path : String
  deriving DecidableEq, Repr

/-- The wording of a failed file operation. -/
def FileFault.message (f : FileFault) : String :=
  "[Errno " ++ toString f.cause.number ++ "] " ++ f.cause.message ++ ": " ++ Text.quote f.path

/-- Why a file pattern is refused. -/
inductive PatternFault where
  /-- Two stars stand beside something else in one component. -/
  | starsInComponent
  /-- The pattern starts at the root. -/
  | absolute
  deriving DecidableEq, Repr

/-- Why an import fails. -/
inductive ImportFault where
  | noModule (name : String)
  | notPackage (name parent : String)
  | noName (name module : String) (file : Option String) (starting : Bool)
  | noArtifact (name directory : String)
  | noParent
  | beyondTop
  | emptyName
  | badPackage
  | unreadable
  | removed (name : String)
  deriving DecidableEq, Repr

/-- Why an expression or a statement of a fragment fails. -/
inductive ScriptFault where
  | undefinedName (name : String)
  | unboundName (name : String)
  | objectAttribute (cls name : String)
  | classAttribute (cls name : String)
  /-- Something is not there, of which nothing but the name is told. -/
  | noSuchName (name : String)
  | moduleAttribute (module : Option String) (name : String)
  | startingAttribute (module name : String)
  | startingModule (name module : String)
  | notCallable (cls : String)
  | notSubscriptable (cls : String)
  | operands (sign left right : String)
  | operand (sign cls : String)
  | joinTexts (kind other : String)
  | joinBytes (other kind : String)
  | joinArray (other : String)
  | mixedArrays
  | repeatBy (other : String)
  | divisionByZero (kind : String)
  | tooLarge
  | quotientTooLarge
  | countTooLarge (cls : String)
  | outOfMemory
  | tooMany (function : String) (least most given : Nat)
  | missingArguments (function : String) (names : List String)
  | notRaisable
  | nothingToRaise
  | typeArguments (cls : String) (given expected : Nat)
  | initResult (cls : String)
  | basesConflict (names : List String)
  | repeatedBase (cls : String)
  | notABase (cls : String)
  | fixedClass (name cls : String)
  | noItemAssignment (cls : String)
  | notSubscriptableClass (cls : String)
  | badIndex (kind other : String)
  | indexOutOfRange (kind : String)
  /-- An index of a view of memory is beyond it. -/
  | beyondBounds
  /-- An index is too large to be one. -/
  | indexTooLarge (cls : String)
  /-- Something is refused for a reason of its type, in words of its own. -/
  | refused (words : String)
  | tooFewValues (expected given : Nat)
  | tooManyValues (expected : Nat)
  | notIterable (cls : String)
  | badReference (text : String)
  | tooDeep
  | keyMissing (key : Value)
  | unsupported (what : String)
  deriving DecidableEq

/-- The step of loading a unit: its modules are run, then an instance is made. -/
inductive LoadPhase where
  | load | instantiate
  deriving DecidableEq, Repr

/-- The word for a step. -/
def LoadPhase.name : LoadPhase → String
  | .load => "load"
  | .instantiate => "instantiate"

/-- Anything that can go wrong. -/
inductive Fault where
  | unitName (f : UnitFault)
  | unhashable (u : Unhashable)
  | unordered (u : Unordered)
  | castMissing (cls : String)
  | unboxMissing (cls : String)
  | wrongBinding (got want : String)
  | importEntry (written : String)
  | resultType (written : String)
  | bindingName (written : String)
  | reservedName (written unit : String)
  | unwritten (u : Unwritten)
  /-- A class refuses to make an instance. -/
  | refused (r : Refusal)
  /-- A box that holds nothing is opened. -/
  | emptyBox
  | file (f : FileFault)
  | undecodable (f : Text.DecodeFault)
  | nullCharacter
  | pattern (f : PatternFault)
  | closedContext (space : String)
  | undefinedTimeout
  | endlessTimeout
  | longTimeout (beyondClock : Bool)
  | import (f : ImportFault)
  | script (f : ScriptFault)
  | thrown (cls : ClassId) (arguments : List Value)
  /-- A unit could not be loaded, for a reason of its own. -/
  | unloaded (unit : UnitId) (phase : LoadPhase) (cause : Fault)
  deriving DecidableEq

/-- The key of the class of a failed file operation. -/
def FileCause.kind : FileCause → String
  | .notFound => "FileNotFoundError"
  | .denied => "PermissionError"
  | .exists => "FileExistsError"
  | .notDirectory => "NotADirectoryError"
  | .isDirectory => "IsADirectoryError"
  | .nameTooLong => "OSError"

/-- The key of the class of a failed import. -/
def ImportFault.kind : ImportFault → String
  | .noModule _ | .notPackage _ _ | .noArtifact _ _ => "ModuleNotFoundError"
  | .noName _ _ _ _ | .noParent | .beyondTop | .unreadable => "ImportError"
  | .removed _ => "KeyError"
  | .emptyName => "ValueError"
  | .badPackage => "TypeError"

/-- The key of the class of a fault of a fragment. -/
def ScriptFault.kind : ScriptFault → String
  | .undefinedName _ => "NameError"
  | .unboundName _ => "UnboundLocalError"
  | .objectAttribute _ _ | .classAttribute _ _ | .noSuchName _ | .moduleAttribute _ _
  | .startingAttribute _ _
  | .startingModule _ _ => "AttributeError"
  | .tooFewValues _ _ | .tooManyValues _ => "ValueError"
  | .indexOutOfRange _ | .beyondBounds | .indexTooLarge _ => "IndexError"
  | .badReference _ => "SyntaxError"
  | .divisionByZero _ => "ZeroDivisionError"
  | .tooLarge | .quotientTooLarge | .countTooLarge _ => "OverflowError"
  | .outOfMemory => "MemoryError"
  | .nothingToRaise => "RuntimeError"
  | .tooDeep => "RecursionError"
  | .keyMissing _ => "KeyError"
  | .unsupported _ => "NotImplementedError"
  | .notCallable _ | .notSubscriptable _ | .operands _ _ _ | .operand _ _ | .joinTexts _ _
  | .joinBytes _ _ | .joinArray _ | .mixedArrays | .repeatBy _ | .tooMany _ _ _ _
  | .missingArguments _ _
  | .notRaisable | .typeArguments _ _ _ | .initResult _ | .basesConflict _
  | .repeatedBase _ | .notABase _ | .fixedClass _ _ | .noItemAssignment _
  | .notSubscriptableClass _ | .badIndex _ _ | .notIterable _ | .refused _ => "TypeError"

/-- The class of a fault. -/
def Fault.cls : Fault → ClassId
  | .thrown c _ => c
  | .unitName _ | .bindingName _ | .reservedName _ _
  | .unwritten .tooManyDigits | .unwritten .emptyWrapper | .emptyBox | .nullCharacter
  | .pattern .starsInComponent | .undefinedTimeout => .standard "ValueError"
  | .endlessTimeout | .longTimeout _ => .standard "OverflowError"
  | .unhashable (.ofClass _) | .unhashable .boxed | .unhashable .signaling
  | .unordered (.classes _ _) | .unordered (.momentAndDay _ _)
  | .castMissing _ | .unboxMissing _ | .wrongBinding _ _ | .importEntry _
  | .resultType _ => .standard "TypeError"
  | .unwritten (.bareObject _ _) | .unhashable (.lacking _ _) => .standard "AttributeError"
  | .unordered .undefined => .standard Number.Trap.invalid.kind
  | .refused r => .standard r.kind
  | .file f => .standard f.cause.kind
  | .undecodable _ => .standard "UnicodeDecodeError"
  | .pattern .absolute => .standard "NotImplementedError"
  | .closedContext _ => .standard "RuntimeError"
  | .import f => .standard f.kind
  | .script f => .standard f.kind
  | .unloaded _ _ _ => .standard "codeweave.runtime.loader.WeaveLoadError"

/-- Names set apart for the eye: commas, and a conjunction before the last one. -/
def enumerated : List String → String
  | [] => ""
  | [a] => a
  | [a, b] => a ++ " and " ++ b
  | names => Text.join ", " names.dropLast ++ ", and " ++ names.getLast?.getD ""

/-- A count of things, by the word for one of them. -/
def plural (count : Nat) (word : String) : String :=
  if count = 1 then word else word ++ "s"

/-- The wording of a failed import. -/
def ImportFault.message : ImportFault → String
  | .noModule name => "No module named " ++ Text.quote name
  | .notPackage name parent =>
      "No module named " ++ Text.quote name ++ "; " ++ Text.quote parent ++ " is not a package"
  | .noName name module file starting =>
      "cannot import name " ++ Text.quote name ++ " from " ++
        (if starting then "partially initialized module " else "") ++ Text.quote module ++
        (if starting then " (most likely due to a circular import)" else "") ++
        " (" ++ file.getD "unknown location" ++ ")"
  | .noArtifact name directory => "No compiled artifact for " ++ name ++ " under " ++ directory
  | .noParent => "attempted relative import with no known parent package"
  | .beyondTop => "attempted relative import beyond top-level package"
  | .emptyName => "Empty module name"
  | .badPackage => "package must be a string"
  | .unreadable => "<unreadable artifact>"
  | .removed name => Text.quote name

/-- The wording of a fault of a fragment. -/
def ScriptFault.message (w : World) : ScriptFault → String
  | .undefinedName name => "name " ++ Text.quote name ++ " is not defined"
  | .unboundName name =>
      "cannot access local variable " ++ Text.quote name ++
        " where it is not associated with a value"
  | .objectAttribute cls name => "'" ++ cls ++ "' object has no attribute '" ++ name ++ "'"
  | .classAttribute cls name => "type object '" ++ cls ++ "' has no attribute '" ++ name ++ "'"
  | .noSuchName name => name
  | .moduleAttribute (some module) name =>
      "module '" ++ module ++ "' has no attribute '" ++ name ++ "'"
  | .moduleAttribute none name => "module has no attribute '" ++ name ++ "'"
  | .startingAttribute module name =>
      "partially initialized module '" ++ module ++ "' has no attribute '" ++ name ++
        "' (most likely due to a circular import)"
  | .startingModule name module =>
      "cannot access submodule '" ++ name ++ "' of module '" ++ module ++
        "' (most likely due to a circular import)"
  | .notCallable cls => "'" ++ cls ++ "' object is not callable"
  | .notSubscriptable cls => "'" ++ cls ++ "' object is not subscriptable"
  | .operands sign left right =>
      "unsupported operand type(s) for " ++ sign ++ ": '" ++ left ++ "' and '" ++ right ++ "'"
  | .operand sign cls => "bad operand type for unary " ++ sign ++ ": '" ++ cls ++ "'"
  | .joinTexts kind other =>
      "can only concatenate " ++ kind ++ " (not \"" ++ other ++ "\") to " ++ kind
  | .joinBytes other kind => "can't concat " ++ other ++ " to " ++ kind
  | .joinArray other => "can only append array (not \"" ++ other ++ "\") to array"
  | .mixedArrays => "bad argument type for built-in operation"
  | .repeatBy other => "can't multiply sequence by non-int of type '" ++ other ++ "'"
  | .divisionByZero kind => kind ++ " by zero"
  | .tooLarge => "int too large to convert to float"
  | .quotientTooLarge => "integer division result too large for a float"
  | .countTooLarge cls | .indexTooLarge cls =>
      "cannot fit '" ++ cls ++ "' into an index-sized integer"
  | .outOfMemory => ""
  | .tooMany function least most given =>
      let range := if least = most then toString most
        else "from " ++ toString least ++ " to " ++ toString most
      function ++ "() takes " ++ range ++ " positional " ++ plural most "argument" ++
        " but " ++ toString given ++ (if given = 1 then " was" else " were") ++ " given"
  | .missingArguments function names =>
      function ++ "() missing " ++ toString names.length ++ " required positional " ++
        plural names.length "argument" ++ ": " ++
        enumerated (names.map fun n => "'" ++ n ++ "'")
  | .notRaisable => "exceptions must derive from BaseException"
  | .nothingToRaise => "No active exception to reraise"
  | .typeArguments cls given expected =>
      "Too " ++ (if given < expected then "few" else "many") ++ " arguments for " ++ cls ++
        "; actual " ++ toString given ++ ", expected " ++ toString expected
  | .basesConflict names =>
      "Cannot create a consistent method resolution\norder (MRO) for bases " ++ listed names
  | .notABase cls => "type '" ++ cls ++ "' is not an acceptable base type"
  | .initResult cls => "__init__() should return None, not '" ++ cls ++ "'"
  | .repeatedBase cls => "duplicate base class " ++ cls
  | .fixedClass name cls =>
      "cannot set '" ++ name ++ "' attribute of immutable type '" ++ cls ++ "'"
  | .noItemAssignment cls => "'" ++ cls ++ "' object does not support item assignment"
  | .notSubscriptableClass cls => "type '" ++ cls ++ "' is not subscriptable"
  | .badIndex "string" other => "string indices must be integers, not '" ++ other ++ "'"
  | .badIndex kind other => kind ++ " indices must be integers or slices, not " ++ other
  | .indexOutOfRange "" => "index out of range"
  | .indexOutOfRange kind => kind ++ " index out of range"
  | .beyondBounds => "index out of bounds on dimension 1"
  | .refused words => words
  | .tooFewValues expected given =>
      "not enough values to unpack (expected " ++ toString expected ++ ", got " ++
        toString given ++ ")"
  | .tooManyValues expected =>
      "too many values to unpack (expected " ++ toString expected ++ ")"
  | .notIterable cls => "cannot unpack non-iterable " ++ cls ++ " object"
  | .badReference text => "Forward reference must be an expression -- got " ++ Text.quote text
  | .tooDeep => "maximum recursion depth exceeded"
  | .keyMissing key => (w.written key).toOption.getD ""
  | .unsupported what => what

/-- The wording of bytes that are no text. -/
def Text.DecodeFault.message (f : Text.DecodeFault) : String :=
  Text.undecodableText "utf-8" (some f.byte) f.start (f.start + f.length) f.cause.message

/-- The wording of a fault. -/
def Fault.message (w : World) : Fault → String
  | .unitName f => f.message
  | .unhashable (.ofClass shown) => "unhashable type: '" ++ shown ++ "'"
  | .unhashable .boxed => "unhashable type"
  | .unhashable .signaling => "Cannot hash a signaling NaN value"
  | .unhashable (.lacking cls name) | .unwritten (.bareObject cls name) =>
      "'" ++ cls ++ "' object has no attribute '" ++ name ++ "'"
  | .unordered (.classes left right) =>
      "'<' not supported between instances of '" ++ left ++ "' and '" ++ right ++ "'"
  | .unordered .undefined => Number.Trap.invalid.message
  | .unordered (.momentAndDay moment day) => "can't compare " ++ moment ++ " to " ++ day
  | .castMissing cls => "Cannot cast a missing binding to " ++ cls
  | .unboxMissing cls => "Cannot unbox a missing binding as " ++ cls
  | .wrongBinding got want => "Binding of type " ++ got ++ " is not a " ++ want
  | .importEntry written => "Unsupported import entry: " ++ written
  | .resultType written => "Result type must be a class or a type name, not " ++ written
  | .bindingName written => "Binding name is not an identifier: " ++ written
  | .reservedName written unit => "Binding name " ++ written ++ " is reserved in unit " ++ unit
  | .unwritten .tooManyDigits =>
      "Exceeds the limit (" ++ toString digitLimit ++ " digits) for integer string conversion; " ++
        "use sys.set_int_max_str_digits() to increase the limit"
  | .unwritten .emptyWrapper => "I/O operation on uninitialized object"
  | .refused r => r.message
  | .emptyBox => "PyObject is NULL"
  | .file f => f.message
  | .undecodable f => f.message
  | .nullCharacter => "embedded null byte"
  | .pattern .starsInComponent => "Invalid pattern: '**' can only be an entire path component"
  | .pattern .absolute => "Non-relative patterns are unsupported"
  | .closedContext space => "Loading context for " ++ space ++ " is closed"
  | .undefinedTimeout => "cannot convert float NaN to integer"
  | .endlessTimeout => "cannot convert float infinity to integer"
  | .longTimeout beyondClock =>
      if beyondClock then "timestamp too large to convert to C _PyTime_t"
      else "timeout is too large"
  | .import f => f.message
  | .script f => f.message w
  | .thrown c arguments => (w.exceptionShown c arguments).toOption.getD ""
  | .unloaded unit phase _ => "Failed to " ++ phase.name ++ " unit " ++ unit.qualifiedName

/-- What a fault is written with, between brackets after its class. -/
def Fault.arguments (w : World) : Fault → List Value
  | .file f => [.whole f.cause.number, .text f.cause.message]
  | .undecodable f =>
      [.text "utf-8", .bytes [f.byte], .whole f.start, .whole (f.start + f.length),
       .text f.cause.message]
  | .import (.removed name) => [.text name]
  | .script (.keyMissing key) => [key]
  | .script .outOfMemory => []
  | .thrown _ arguments => arguments
  | f => [.text (f.message w)]

/-- The name of the class of a fault. -/
def Fault.kind (w : World) (f : Fault) : String :=
  w.plainName f.cls

/-- The written form of a fault. -/
def Fault.written (w : World) (f : Fault) : Except Unwritten String := do
  let parts ← (w.writtenArguments f.cls (f.arguments w)).mapM w.written
  return f.kind w ++ "(" ++ listed parts ++ ")"

/-- Is the fault that an attribute is not there? -/
def Fault.isMissingAttribute (w : World) (f : Fault) : Bool :=
  w.isSubclass f.cls (.standard "AttributeError")

/-- Does a handler for ordinary faults catch this one? -/
def Fault.isOrdinary (w : World) (f : Fault) : Bool :=
  w.isSubclass f.cls (.standard "Exception")

/-- Is the fault about a value that does not fit? -/
def Fault.isValueFault (w : World) (f : Fault) : Bool :=
  w.isSubclass f.cls (.standard "ValueError")

end FragmentWeaver
