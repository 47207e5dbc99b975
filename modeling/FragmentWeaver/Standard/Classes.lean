/-!
# The standard classes

The classes that every fragment finds: those built into the fragment language, those of its standard
modules that values can be instances of, and those of the hand-off and the unit interface. A class
is known by its module and qualified name; the built-in ones by the name alone.
-/

namespace FragmentWeaver.Standard

/-- How a class decides whether its instances can be keys. -/
inductive HashRule where
  | inherited
  | given
  | refused
  deriving DecidableEq, Repr, Inhabited

/-- One standard class: its module, its qualified name, its ancestors in the order of resolution,
    the class of the class, the abstract classes it is registered with, and its name in messages. -/
structure ClassRow where
  key : String
  space : String := "builtins"
  name : String := key
  above : List String := ["object"]
  kind : String := "type"
  registered : List String := []
  shown : String := name
  hash : HashRule := .inherited

/-- The standard classes. -/
def classRows : List ClassRow := [
  { key := "object", above := [], hash := .given },
  { key := "int", registered := ["numbers.Integral"], hash := .given },
  { key := "bool", above := ["int", "object"] },
  { key := "float", registered := ["numbers.Real"], hash := .given },
  { key := "complex", registered := ["numbers.Complex"], hash := .given },
  { key := "str", registered := ["collections.abc.Sequence"], hash := .given },
  { key := "bytes", registered := ["collections.abc.Sequence"], hash := .given },
  { key := "bytearray", registered := ["collections.abc.MutableSequence"], hash := .refused },
  { key := "list", registered := ["collections.abc.MutableSequence"], hash := .refused },
  { key := "dict", registered := ["collections.abc.MutableMapping", "collections.abc.Reversible"],
    hash := .refused },
  { key := "tuple", registered := ["collections.abc.Sequence"], hash := .given },
  { key := "set", registered := ["collections.abc.Collection"], hash := .refused },
  { key := "frozenset", registered := ["collections.abc.Collection"], hash := .given },
  { key := "range", registered := ["collections.abc.Sequence"], hash := .given },
  { key := "slice", hash := .refused },
  { key := "memoryview", registered := ["abc.ABC", "collections.abc.Sequence"], hash := .given },
  { key := "type" },
  { key := "Exception", above := ["BaseException", "object"] },
  { key := "ValueError", above := ["Exception", "BaseException", "object"] },
  { key := "KeyError", above := ["LookupError", "Exception", "BaseException", "object"] },
  { key := "OSError", above := ["Exception", "BaseException", "object"] },
  { key := "LookupError", above := ["Exception", "BaseException", "object"] },
  { key := "ArithmeticError", above := ["Exception", "BaseException", "object"] },
  { key := "ZeroDivisionError",
    above := ["ArithmeticError", "Exception", "BaseException", "object"] },
  { key := "BaseException" },
  { key := "property" },
  { key := "super" },
  { key := "zip", registered := ["collections.abc.Iterable"] },
  { key := "map", registered := ["collections.abc.Iterable"] },
  { key := "filter", registered := ["collections.abc.Iterable"] },
  { key := "enumerate", registered := ["collections.abc.Iterable"] },
  { key := "collections.OrderedDict", space := "collections", name := "OrderedDict",
    above := ["dict", "object"], shown := "collections.OrderedDict", hash := .refused },
  { key := "collections.Counter", space := "collections", name := "Counter",
    above := ["dict", "object"], hash := .refused },
  { key := "collections.defaultdict", space := "collections", name := "defaultdict",
    above := ["dict", "object"], shown := "collections.defaultdict" },
  { key := "collections.deque", space := "collections", name := "deque",
    registered := ["collections.abc.MutableSequence"], shown := "collections.deque",
    hash := .refused },
  { key := "collections.ChainMap", space := "collections", name := "ChainMap",
    above := ["collections.abc.MutableMapping", "collections.abc.Mapping", "collections.abc.Collection", "collections.abc.Sized", "collections.abc.Iterable", "collections.abc.Container", "object"],
    kind := "abc.ABCMeta" },
  { key := "collections.UserDict", space := "collections", name := "UserDict",
    above := ["collections.abc.MutableMapping", "collections.abc.Mapping", "collections.abc.Collection", "collections.abc.Sized", "collections.abc.Iterable", "collections.abc.Container", "object"],
    kind := "abc.ABCMeta" },
  { key := "collections.UserList", space := "collections", name := "UserList",
    above := ["collections.abc.MutableSequence", "collections.abc.Sequence", "collections.abc.Reversible", "collections.abc.Collection", "collections.abc.Sized", "collections.abc.Iterable", "collections.abc.Container", "object"],
    kind := "abc.ABCMeta", hash := .refused },
  { key := "ctypes.c_bool", space := "ctypes", name := "c_bool",
    above := ["_ctypes._SimpleCData", "_ctypes._CData", "object"], kind := "_ctypes.PyCSimpleType" },
  { key := "ctypes.c_char", space := "ctypes", name := "c_char",
    above := ["_ctypes._SimpleCData", "_ctypes._CData", "object"], kind := "_ctypes.PyCSimpleType" },
  { key := "ctypes.c_wchar", space := "ctypes", name := "c_wchar",
    above := ["_ctypes._SimpleCData", "_ctypes._CData", "object"], kind := "_ctypes.PyCSimpleType" },
  { key := "ctypes.c_byte", space := "ctypes", name := "c_byte",
    above := ["_ctypes._SimpleCData", "_ctypes._CData", "object"], kind := "_ctypes.PyCSimpleType" },
  { key := "ctypes.c_ubyte", space := "ctypes", name := "c_ubyte",
    above := ["_ctypes._SimpleCData", "_ctypes._CData", "object"], kind := "_ctypes.PyCSimpleType" },
  { key := "ctypes.c_short", space := "ctypes", name := "c_short",
    above := ["_ctypes._SimpleCData", "_ctypes._CData", "object"], kind := "_ctypes.PyCSimpleType" },
  { key := "ctypes.c_ushort", space := "ctypes", name := "c_ushort",
    above := ["_ctypes._SimpleCData", "_ctypes._CData", "object"], kind := "_ctypes.PyCSimpleType" },
  { key := "ctypes.c_int", space := "ctypes", name := "c_int",
    above := ["_ctypes._SimpleCData", "_ctypes._CData", "object"], kind := "_ctypes.PyCSimpleType" },
  { key := "ctypes.c_uint", space := "ctypes", name := "c_uint",
    above := ["_ctypes._SimpleCData", "_ctypes._CData", "object"], kind := "_ctypes.PyCSimpleType" },
  { key := "ctypes.c_long", space := "ctypes", name := "c_long",
    above := ["_ctypes._SimpleCData", "_ctypes._CData", "object"], kind := "_ctypes.PyCSimpleType" },
  { key := "ctypes.c_ulong", space := "ctypes", name := "c_ulong",
    above := ["_ctypes._SimpleCData", "_ctypes._CData", "object"], kind := "_ctypes.PyCSimpleType" },
  { key := "ctypes.c_float", space := "ctypes", name := "c_float",
    above := ["_ctypes._SimpleCData", "_ctypes._CData", "object"], kind := "_ctypes.PyCSimpleType" },
  { key := "ctypes.c_double", space := "ctypes", name := "c_double",
    above := ["_ctypes._SimpleCData", "_ctypes._CData", "object"], kind := "_ctypes.PyCSimpleType" },
  { key := "ctypes.c_longdouble", space := "ctypes", name := "c_longdouble",
    above := ["_ctypes._SimpleCData", "_ctypes._CData", "object"], kind := "_ctypes.PyCSimpleType" },
  { key := "ctypes.c_char_p", space := "ctypes", name := "c_char_p",
    above := ["_ctypes._SimpleCData", "_ctypes._CData", "object"], kind := "_ctypes.PyCSimpleType" },
  { key := "ctypes.c_void_p", space := "ctypes", name := "c_void_p",
    above := ["_ctypes._SimpleCData", "_ctypes._CData", "object"], kind := "_ctypes.PyCSimpleType" },
  { key := "ctypes.py_object", space := "ctypes", name := "py_object",
    above := ["_ctypes._SimpleCData", "_ctypes._CData", "object"], kind := "_ctypes.PyCSimpleType" },
  { key := "array.array", space := "array", name := "array",
    registered := ["collections.abc.MutableSequence"], shown := "array.array", hash := .refused },
  { key := "_io.BytesIO", space := "_io", name := "BytesIO",
    above := ["_io._BufferedIOBase", "_io._IOBase", "object"],
    shown := "_io.BytesIO" },
  { key := "_io.StringIO", space := "_io", name := "StringIO",
    above := ["_io._TextIOBase", "_io._IOBase", "object"],
    shown := "_io.StringIO" },
  { key := "_io.TextIOWrapper", space := "_io", name := "TextIOWrapper",
    above := ["_io._TextIOBase", "_io._IOBase", "object"],
    shown := "_io.TextIOWrapper" },
  { key := "fractions.Fraction", space := "fractions", name := "Fraction",
    above := ["numbers.Rational", "numbers.Real", "numbers.Complex", "numbers.Number", "object"],
    kind := "abc.ABCMeta", hash := .given },
  { key := "decimal.Decimal", space := "decimal", name := "Decimal",
    registered := ["numbers.Number"], shown := "decimal.Decimal", hash := .given },
  { key := "numbers.Number", space := "numbers", name := "Number", kind := "abc.ABCMeta",
    hash := .refused },
  { key := "numbers.Complex", space := "numbers", name := "Complex",
    above := ["numbers.Number", "object"], kind := "abc.ABCMeta", hash := .refused },
  { key := "numbers.Real", space := "numbers", name := "Real",
    above := ["numbers.Complex", "numbers.Number", "object"], kind := "abc.ABCMeta" },
  { key := "numbers.Rational", space := "numbers", name := "Rational",
    above := ["numbers.Real", "numbers.Complex", "numbers.Number", "object"],
    kind := "abc.ABCMeta" },
  { key := "numbers.Integral", space := "numbers", name := "Integral",
    above := ["numbers.Rational", "numbers.Real", "numbers.Complex", "numbers.Number", "object"],
    kind := "abc.ABCMeta" },
  { key := "datetime.date", space := "datetime", name := "date", shown := "datetime.date",
    hash := .given },
  { key := "datetime.datetime", space := "datetime", name := "datetime",
    above := ["datetime.date", "object"], shown := "datetime.datetime", hash := .given },
  { key := "datetime.time", space := "datetime", name := "time", shown := "datetime.time",
    hash := .given },
  { key := "datetime.timedelta", space := "datetime", name := "timedelta",
    shown := "datetime.timedelta", hash := .given },
  { key := "pathlib.PurePosixPath", space := "pathlib", name := "PurePosixPath",
    above := ["pathlib.PurePath", "object"] },
  { key := "pathlib.PosixPath", space := "pathlib", name := "PosixPath",
    above := ["pathlib.Path", "pathlib.PurePosixPath", "pathlib.PurePath", "object"] },
  { key := "functools.partial", space := "functools", name := "partial",
    shown := "functools.partial" },
  { key := "re.Pattern", space := "re", name := "Pattern", shown := "re.Pattern", hash := .given },
  { key := "_struct.Struct", space := "_struct", name := "Struct",
    shown := "_struct.Struct" },
  { key := "random.Random", space := "random", name := "Random",
    above := ["_random.Random", "object"] },
  { key := "uuid.UUID", space := "uuid", name := "UUID", hash := .given },
  { key := "types.SimpleNamespace", space := "types", name := "SimpleNamespace",
    shown := "types.SimpleNamespace", hash := .refused },
  { key := "itertools.count", space := "itertools", name := "count",
    registered := ["collections.abc.Iterable"], shown := "itertools.count" },
  { key := "enum.Enum", space := "enum", name := "Enum", kind := "enum.EnumType", hash := .given },
  { key := "enum.IntEnum", space := "enum", name := "IntEnum",
    above := ["int", "enum.ReprEnum", "enum.Enum", "object"], kind := "enum.EnumType" },
  { key := "abc.ABC", space := "abc", name := "ABC", kind := "abc.ABCMeta" },
  { key := "abc.ABCMeta", space := "abc", name := "ABCMeta", above := ["type", "object"] },
  { key := "builtin_function_or_method", hash := .given },
  { key := "function" },
  { key := "generator", registered := ["collections.abc.Iterable"] },
  { key := "ellipsis" },
  { key := "NotImplementedType" },
  { key := "dict_keys", registered := ["collections.abc.Collection", "collections.abc.Reversible"], hash := .refused },
  { key := "_thread.lock", space := "_thread", name := "lock", registered := ["abc.ABC"], shown := "_thread.lock" },
  { key := "_io._BufferedIOBase", space := "_io", name := "_BufferedIOBase",
    above := ["_io._IOBase", "object"], shown := "_io._BufferedIOBase" },
  { key := "_io._IOBase", space := "_io", name := "_IOBase",
    registered := ["abc.ABC", "collections.abc.Iterable"], shown := "_io._IOBase" },
  { key := "_io._TextIOBase", space := "_io", name := "_TextIOBase",
    above := ["_io._IOBase", "object"], shown := "_io._TextIOBase" },
  { key := "collections.abc.MutableMapping", space := "collections.abc", name := "MutableMapping",
    above := ["collections.abc.Mapping", "collections.abc.Collection", "collections.abc.Sized", "collections.abc.Iterable", "collections.abc.Container", "object"],
    kind := "abc.ABCMeta" },
  { key := "collections.abc.Mapping", space := "collections.abc", name := "Mapping",
    above := ["collections.abc.Collection", "collections.abc.Sized", "collections.abc.Iterable", "collections.abc.Container", "object"],
    kind := "abc.ABCMeta", hash := .refused },
  { key := "collections.abc.Collection", space := "collections.abc", name := "Collection",
    above := ["collections.abc.Sized", "collections.abc.Iterable", "collections.abc.Container", "object"],
    kind := "abc.ABCMeta" },
  { key := "collections.abc.Sized", space := "collections.abc", name := "Sized",
    kind := "abc.ABCMeta" },
  { key := "collections.abc.Iterable", space := "collections.abc", name := "Iterable",
    kind := "abc.ABCMeta" },
  { key := "collections.abc.Container", space := "collections.abc", name := "Container",
    kind := "abc.ABCMeta" },
  { key := "_random.Random", space := "_random", name := "Random", shown := "_random.Random" },
  { key := "pathlib.PurePath", space := "pathlib", name := "PurePath", registered := ["abc.ABC"],
    hash := .given },
  { key := "pathlib.Path", space := "pathlib", name := "Path",
    above := ["pathlib.PurePath", "object"] },
  { key := "module" },
  { key := "collections.abc.MutableSequence", space := "collections.abc", name := "MutableSequence",
    above := ["collections.abc.Sequence", "collections.abc.Reversible", "collections.abc.Collection", "collections.abc.Sized", "collections.abc.Iterable", "collections.abc.Container", "object"],
    kind := "abc.ABCMeta" },
  { key := "collections.abc.Sequence", space := "collections.abc", name := "Sequence",
    above := ["collections.abc.Reversible", "collections.abc.Collection", "collections.abc.Sized", "collections.abc.Iterable", "collections.abc.Container", "object"],
    kind := "abc.ABCMeta" },
  { key := "collections.abc.Reversible", space := "collections.abc", name := "Reversible",
    above := ["collections.abc.Iterable", "object"], kind := "abc.ABCMeta" },
  { key := "_ctypes._SimpleCData", space := "_ctypes", name := "_SimpleCData",
    above := ["_ctypes._CData", "object"], kind := "_ctypes.PyCSimpleType", shown := "_ctypes._SimpleCData" },
  { key := "_ctypes._CData", space := "_ctypes", name := "_CData",
    shown := "_ctypes._CData", hash := .given },
  { key := "_ctypes.PyCSimpleType", space := "_ctypes", name := "PyCSimpleType",
    above := ["type", "object"], shown := "_ctypes.PyCSimpleType" },
  { key := "enum.EnumType", space := "enum", name := "EnumType", above := ["type", "object"],
    registered := ["collections.abc.Collection", "collections.abc.Reversible"] },
  { key := "enum.ReprEnum", space := "enum", name := "ReprEnum", above := ["enum.Enum", "object"],
    kind := "enum.EnumType" },
  { key := "AssertionError", above := ["Exception", "BaseException", "object"] },
  { key := "AttributeError", above := ["Exception", "BaseException", "object"] },
  { key := "BaseExceptionGroup", above := ["BaseException", "object"] },
  { key := "BlockingIOError", above := ["OSError", "Exception", "BaseException", "object"] },
  { key := "BrokenPipeError",
    above := ["ConnectionError", "OSError", "Exception", "BaseException", "object"] },
  { key := "BufferError", above := ["Exception", "BaseException", "object"] },
  { key := "BytesWarning", above := ["Warning", "Exception", "BaseException", "object"] },
  { key := "ChildProcessError", above := ["OSError", "Exception", "BaseException", "object"] },
  { key := "ConnectionAbortedError",
    above := ["ConnectionError", "OSError", "Exception", "BaseException", "object"] },
  { key := "ConnectionError", above := ["OSError", "Exception", "BaseException", "object"] },
  { key := "ConnectionRefusedError",
    above := ["ConnectionError", "OSError", "Exception", "BaseException", "object"] },
  { key := "ConnectionResetError",
    above := ["ConnectionError", "OSError", "Exception", "BaseException", "object"] },
  { key := "DeprecationWarning", above := ["Warning", "Exception", "BaseException", "object"] },
  { key := "EOFError", above := ["Exception", "BaseException", "object"] },
  { key := "EncodingWarning", above := ["Warning", "Exception", "BaseException", "object"] },
  { key := "ExceptionGroup",
    above := ["BaseExceptionGroup", "Exception", "BaseException", "object"] },
  { key := "FileExistsError", above := ["OSError", "Exception", "BaseException", "object"] },
  { key := "FileNotFoundError", above := ["OSError", "Exception", "BaseException", "object"] },
  { key := "FloatingPointError",
    above := ["ArithmeticError", "Exception", "BaseException", "object"] },
  { key := "FutureWarning", above := ["Warning", "Exception", "BaseException", "object"] },
  { key := "GeneratorExit", above := ["BaseException", "object"] },
  { key := "ImportError", above := ["Exception", "BaseException", "object"] },
  { key := "ImportWarning", above := ["Warning", "Exception", "BaseException", "object"] },
  { key := "IndentationError", above := ["SyntaxError", "Exception", "BaseException", "object"] },
  { key := "IndexError", above := ["LookupError", "Exception", "BaseException", "object"] },
  { key := "InterruptedError", above := ["OSError", "Exception", "BaseException", "object"] },
  { key := "IsADirectoryError", above := ["OSError", "Exception", "BaseException", "object"] },
  { key := "KeyboardInterrupt", above := ["BaseException", "object"] },
  { key := "MemoryError", above := ["Exception", "BaseException", "object"] },
  { key := "ModuleNotFoundError", above := ["ImportError", "Exception", "BaseException", "object"] },
  { key := "NameError", above := ["Exception", "BaseException", "object"] },
  { key := "NotADirectoryError", above := ["OSError", "Exception", "BaseException", "object"] },
  { key := "NotImplementedError",
    above := ["RuntimeError", "Exception", "BaseException", "object"] },
  { key := "OverflowError", above := ["ArithmeticError", "Exception", "BaseException", "object"] },
  { key := "PendingDeprecationWarning",
    above := ["Warning", "Exception", "BaseException", "object"] },
  { key := "PermissionError", above := ["OSError", "Exception", "BaseException", "object"] },
  { key := "ProcessLookupError", above := ["OSError", "Exception", "BaseException", "object"] },
  { key := "RecursionError", above := ["RuntimeError", "Exception", "BaseException", "object"] },
  { key := "ReferenceError", above := ["Exception", "BaseException", "object"] },
  { key := "ResourceWarning", above := ["Warning", "Exception", "BaseException", "object"] },
  { key := "RuntimeError", above := ["Exception", "BaseException", "object"] },
  { key := "RuntimeWarning", above := ["Warning", "Exception", "BaseException", "object"] },
  { key := "StopAsyncIteration", above := ["Exception", "BaseException", "object"] },
  { key := "StopIteration", above := ["Exception", "BaseException", "object"] },
  { key := "SyntaxError", above := ["Exception", "BaseException", "object"] },
  { key := "SyntaxWarning", above := ["Warning", "Exception", "BaseException", "object"] },
  { key := "SystemError", above := ["Exception", "BaseException", "object"] },
  { key := "SystemExit", above := ["BaseException", "object"] },
  { key := "TabError",
    above := ["IndentationError", "SyntaxError", "Exception", "BaseException", "object"] },
  { key := "TimeoutError", above := ["OSError", "Exception", "BaseException", "object"] },
  { key := "TypeError", above := ["Exception", "BaseException", "object"] },
  { key := "UnboundLocalError", above := ["NameError", "Exception", "BaseException", "object"] },
  { key := "UnicodeDecodeError",
    above := ["UnicodeError", "ValueError", "Exception", "BaseException", "object"] },
  { key := "UnicodeEncodeError",
    above := ["UnicodeError", "ValueError", "Exception", "BaseException", "object"] },
  { key := "UnicodeError", above := ["ValueError", "Exception", "BaseException", "object"] },
  { key := "UnicodeTranslateError",
    above := ["UnicodeError", "ValueError", "Exception", "BaseException", "object"] },
  { key := "UnicodeWarning", above := ["Warning", "Exception", "BaseException", "object"] },
  { key := "UserWarning", above := ["Warning", "Exception", "BaseException", "object"] },
  { key := "Warning", above := ["Exception", "BaseException", "object"] },
  { key := "classmethod" },
  { key := "reversed", registered := ["collections.abc.Iterable"] },
  { key := "staticmethod" },
  { key := "NoneType" },
  { key := "method", hash := .given },
  { key := "method-wrapper", hash := .given },
  { key := "wrapper_descriptor" },
  { key := "getset_descriptor" },
  { key := "member_descriptor" },
  { key := "typing.Generic", space := "typing", name := "Generic" },
  { key := "typing._SpecialForm", space := "typing", name := "_SpecialForm",
    hash := .given },
  { key := "types.UnionType", space := "types", name := "UnionType", shown := "types.UnionType",
    hash := .given },
  { key := "types.GenericAlias", space := "types", name := "GenericAlias",
    registered := ["collections.abc.Iterable"], shown := "types.GenericAlias", hash := .given },
  { key := "_frozen_importlib.ModuleSpec", space := "_frozen_importlib", name := "ModuleSpec",
    hash := .refused },
  { key := "codeweave.runtime.identity.UnitId", space := "codeweave.runtime.identity",
    name := "UnitId", hash := .given },
  { key := "codeweave.runtime.inference.TypeDescriptor", space := "codeweave.runtime.inference",
    name := "TypeDescriptor", hash := .given },
  { key := "codeweave.runtime.loader.WeaveLoadError", space := "codeweave.runtime.loader",
    name := "WeaveLoadError", above := ["RuntimeError", "Exception", "BaseException", "object"] },
  { key := "codeweave.runtime.weaver.Weaver", space := "codeweave.runtime.weaver",
    name := "Weaver" },
  { key := "codeweave.bindings._Missing", space := "codeweave.bindings", name := "_Missing" },
  { key := "codeweave.runtime.unit.UnitKind", space := "codeweave.runtime.unit", name := "UnitKind",
    above := ["enum.Enum", "object"], kind := "enum.EnumType" },
  { key := "codeweave.runtime.unit.Invocable", space := "codeweave.runtime.unit",
    name := "Invocable", above := ["abc.ABC", "typing.Generic", "object"], kind := "abc.ABCMeta" }]

/-- Further names under which some of them are known. -/
def classAliases : List (String × String) := [
  ("ctypes.c_longlong", "ctypes.c_long"), ("ctypes.c_ulonglong", "ctypes.c_ulong"),
  ("ctypes.c_int8", "ctypes.c_byte"), ("ctypes.c_int16", "ctypes.c_short"),
  ("ctypes.c_int32", "ctypes.c_int"), ("ctypes.c_int64", "ctypes.c_long"),
  ("ctypes.c_uint8", "ctypes.c_ubyte"), ("ctypes.c_size_t", "ctypes.c_ulong"),
  ("ctypes.c_ssize_t", "ctypes.c_long"), ("io.BytesIO", "_io.BytesIO"),
  ("io.StringIO", "_io.StringIO"), ("io.TextIOWrapper", "_io.TextIOWrapper"),
  ("struct.Struct", "_struct.Struct"), ("codeweave.UnitId", "codeweave.runtime.identity.UnitId"),
  ("codeweave.TypeDescriptor", "codeweave.runtime.inference.TypeDescriptor"),
  ("codeweave.Weaver", "codeweave.runtime.weaver.Weaver")]

/-- The row of a class. -/
def classRow? (key : String) : Option ClassRow :=
  classRows.find? fun r => r.key == key

/-- The key of the class with a public name. -/
def keyOf? (name : String) : Option String :=
  match classAliases.find? fun (other, _) => other == name with
  | some (_, key) => some key
  | none => (classRow? name).map (·.key)

end FragmentWeaver.Standard
