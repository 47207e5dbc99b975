/-!
# Methods of the standard classes

Which of the methods that the abstract classes are about a standard class has, which ones it only
asks for, and what is said when a class is asked for an instance and needs more than it was given.
-/

namespace FragmentWeaver.Standard

/-- The methods that a class asks its descendants for. -/
def abstractMethods : List (String × List String) := [
  ("numbers.Complex", [
      "__abs__", "__add__", "__complex__", "__eq__", "__mul__", "__neg__", "__pos__", "__pow__",
      "__radd__", "__rmul__", "__rpow__", "__rtruediv__", "__truediv__", "conjugate", "imag",
      "real"]),
  ("numbers.Real", [
      "__abs__", "__add__", "__ceil__", "__eq__", "__float__", "__floor__", "__floordiv__",
      "__le__", "__lt__", "__mod__", "__mul__", "__neg__", "__pos__", "__pow__", "__radd__",
      "__rfloordiv__", "__rmod__", "__rmul__", "__round__", "__rpow__", "__rtruediv__",
      "__truediv__", "__trunc__"]),
  ("numbers.Rational", [
      "__abs__", "__add__", "__ceil__", "__eq__", "__floor__", "__floordiv__", "__le__",
      "__lt__", "__mod__", "__mul__", "__neg__", "__pos__", "__pow__", "__radd__",
      "__rfloordiv__", "__rmod__", "__rmul__", "__round__", "__rpow__", "__rtruediv__",
      "__truediv__", "__trunc__", "denominator", "numerator"]),
  ("numbers.Integral", [
      "__abs__", "__add__", "__and__", "__ceil__", "__eq__", "__floor__", "__floordiv__",
      "__int__", "__invert__", "__le__", "__lshift__", "__lt__", "__mod__", "__mul__", "__neg__",
      "__or__", "__pos__", "__pow__", "__radd__", "__rand__", "__rfloordiv__", "__rlshift__",
      "__rmod__", "__rmul__", "__ror__", "__round__", "__rpow__", "__rrshift__", "__rshift__",
      "__rtruediv__", "__rxor__", "__truediv__", "__trunc__", "__xor__"]),
  ("collections.abc.MutableMapping", [
      "__delitem__", "__getitem__", "__iter__", "__len__", "__setitem__"]),
  ("collections.abc.Mapping", ["__getitem__", "__iter__", "__len__"]),
  ("collections.abc.Collection", ["__contains__", "__iter__", "__len__"]),
  ("collections.abc.Sized", ["__len__"]),
  ("collections.abc.Iterable", ["__iter__"]),
  ("collections.abc.Container", ["__contains__"]),
  ("collections.abc.MutableSequence", [
      "__delitem__", "__getitem__", "__len__", "__setitem__", "insert"]),
  ("collections.abc.Sequence", ["__getitem__", "__len__"]),
  ("collections.abc.Reversible", ["__iter__", "__reversed__"]),
  ("codeweave.runtime.unit.Invocable", ["__call__"]),
  ("collections.abc.AsyncGenerator", ["asend", "athrow"]),
  ("collections.abc.AsyncIterable", ["__aiter__"]),
  ("collections.abc.AsyncIterator", ["__anext__"]),
  ("collections.abc.Awaitable", ["__await__"]),
  ("collections.abc.ByteString", ["__getitem__", "__len__"]),
  ("collections.abc.Callable", ["__call__"]),
  ("collections.abc.Coroutine", ["__await__", "send", "throw"]),
  ("collections.abc.Generator", ["send", "throw"]),
  ("collections.abc.Hashable", ["__hash__"]),
  ("collections.abc.Iterator", ["__next__"]),
  ("collections.abc.MutableSet", ["__contains__", "__iter__", "__len__", "add", "discard"]),
  ("collections.abc.Set", ["__contains__", "__iter__", "__len__"]),
  ("contextlib.AbstractAsyncContextManager", ["__aexit__"]),
  ("contextlib.AbstractContextManager", ["__exit__"]),
  ("email._policybase.Policy", [
      "fold", "fold_binary", "header_fetch_parse", "header_source_parse", "header_store_parse"]),
  ("importlib.abc.ExecutionLoader", ["get_filename", "get_source"]),
  ("importlib.abc.FileLoader", ["get_source"]),
  ("importlib.abc.Finder", ["find_module"]),
  ("importlib.abc.InspectLoader", ["get_source"]),
  ("importlib.abc.ResourceLoader", ["get_data"]),
  ("importlib.abc.SourceLoader", ["get_data", "get_filename"]),
  ("importlib.metadata.DistributionFinder", ["find_distributions"]),
  ("importlib.resources.abc.ResourceReader", [
      "contents", "is_resource", "open_resource", "resource_path"]),
  ("importlib.resources.abc.Traversable", [
      "is_dir", "is_file", "iterdir", "joinpath", "name", "open"]),
  ("importlib.resources.abc.TraversableResources", ["files"]),
  ("importlib.resources.simple.ResourceContainer", ["name"]),
  ("importlib.resources.simple.ResourceHandle", ["iterdir", "name"]),
  ("importlib.resources.simple.SimpleReader", ["children", "open_binary", "package", "resources"]),
  ("importlib.resources.simple.TraversableReader", [
      "children", "open_binary", "package", "resources"]),
  ("os.PathLike", ["__fspath__"]),
  ("selectors.BaseSelector", ["get_map", "register", "select", "unregister"]),
  ("selectors._BaseSelectorImpl", ["select"]),
  ("typing.SupportsAbs", ["__abs__"]),
  ("typing.SupportsBytes", ["__bytes__"]),
  ("typing.SupportsComplex", ["__complex__"]),
  ("typing.SupportsFloat", ["__float__"]),
  ("typing.SupportsIndex", ["__index__"]),
  ("typing.SupportsInt", ["__int__"]),
  ("typing.SupportsRound", ["__round__"])]

/-- The methods that every object has, in the order in which they are told, and whether they stand
    for an operation of the language; the others are functions. -/
def universalMethods : List (String × Bool) := [
  ("__new__", false), ("__repr__", true), ("__hash__", true), ("__str__", true),
  ("__getattribute__", true), ("__setattr__", true), ("__delattr__", true), ("__lt__", true),
  ("__le__", true), ("__eq__", true), ("__ne__", true), ("__gt__", true), ("__ge__", true),
  ("__init__", true), ("__reduce_ex__", false), ("__reduce__", false), ("__getstate__", false),
  ("__subclasshook__", false), ("__init_subclass__", false), ("__format__", false),
  ("__sizeof__", false), ("__dir__", false)]

/-- The methods of a class by which the abstract classes know it. -/
def knownMethods : List (String × List String) := [
  ("str", ["__len__", "__iter__", "__contains__"]),
  ("bytes", ["__len__", "__iter__", "__contains__"]),
  ("bytearray", ["__len__", "__iter__", "__contains__"]),
  ("list", ["__len__", "__iter__", "__contains__", "__reversed__"]),
  ("dict", ["__len__", "__iter__", "__contains__", "__reversed__"]),
  ("tuple", ["__len__", "__iter__", "__contains__"]),
  ("set", ["__len__", "__iter__", "__contains__"]),
  ("frozenset", ["__len__", "__iter__", "__contains__"]),
  ("range", ["__len__", "__iter__", "__contains__", "__reversed__"]),
  ("memoryview", ["__len__", "__iter__", "__enter__", "__exit__"]),
  ("zip", ["__iter__", "__next__"]),
  ("map", ["__iter__", "__next__"]),
  ("filter", ["__iter__", "__next__"]),
  ("enumerate", ["__iter__", "__next__"]),
  ("collections.OrderedDict", ["__iter__", "__reversed__"]),
  ("collections.deque", ["__len__", "__iter__", "__contains__", "__reversed__"]),
  ("collections.ChainMap", ["__len__", "__iter__", "__contains__"]),
  ("collections.UserDict", ["__len__", "__iter__", "__contains__"]),
  ("collections.UserList", ["__len__", "__contains__"]),
  ("array.array", ["__len__", "__iter__", "__contains__"]),
  ("_io.BytesIO", ["__iter__", "__next__"]),
  ("_io.StringIO", ["__next__"]),
  ("_io.TextIOWrapper", ["__next__"]),
  ("itertools.count", ["__iter__", "__next__"]),
  ("generator", ["__iter__", "__next__"]),
  ("dict_keys", ["__len__", "__iter__", "__contains__", "__reversed__"]),
  ("_io._IOBase", ["__iter__", "__next__", "__enter__", "__exit__"]),
  ("collections.abc.Mapping", ["__contains__"]),
  ("collections.abc.Sized", ["__len__"]),
  ("collections.abc.Iterable", ["__iter__"]),
  ("collections.abc.Container", ["__contains__"]),
  ("pathlib.PurePath", ["__fspath__"]),
  ("pathlib.Path", ["__enter__", "__exit__"]),
  ("collections.abc.Sequence", ["__iter__", "__contains__", "__reversed__"]),
  ("collections.abc.Reversible", ["__reversed__"]),
  ("enum.EnumType", ["__len__", "__iter__", "__contains__", "__reversed__"]),
  ("reversed", ["__iter__", "__next__"]),
  ("_thread.lock", ["__enter__", "__exit__"]),
  ("types.GenericAlias", ["__iter__"]),
  ("numbers.Real", ["__complex__", "conjugate", "imag", "real"]),
  ("numbers.Rational", ["__float__"]),
  ("numbers.Integral", ["denominator", "numerator"])]

/-- The methods of a class that its descendants do not have unless they bring them along. -/
def barredMethods : List (String × List String) := [
  ("collections.abc.Mapping", ["__reversed__"])]

/-- What is said when a bare instance of a class is asked for and no arguments are given. -/
def bareNeeds : List (String × String) := [
  ("type", "type.__new__() takes exactly 3 arguments (0 given)"),
  ("map", "map() must have at least two arguments."),
  ("filter", "filter expected 2 arguments, got 0"),
  ("enumerate", "enumerate() missing required argument 'iterable' (pos 1)"),
  ("re.Pattern", "object.__new__(re.Pattern) is not safe, use re.Pattern.__new__()"),
  ("enum.Enum", "Enum.__new__() missing 1 required positional argument: 'value'"),
  ("abc.ABCMeta",
    "ABCMeta.__new__() missing 3 required positional arguments: 'name', 'bases', and 'namespace'"),
  ("reversed", "reversed expected 1 argument, got 0"),
  ("function", "function() missing required argument 'code' (pos 1)"),
  ("typing.Any", "Any cannot be instantiated")]

/-- What is said when a class is called without arguments. -/
def callNeeds : List (String × String) := [
  ("type", "type() takes 1 or 3 arguments"),
  ("typing.Any", "Any cannot be instantiated"),
  ("map", "map() must have at least two arguments."),
  ("filter", "filter expected 2 arguments, got 0"),
  ("enumerate", "enumerate() missing required argument 'iterable'"),
  ("re.Pattern", "cannot create 're.Pattern' instances"),
  ("enum.Enum", "EnumType.__call__() missing 1 required positional argument: 'value'"),
  ("abc.ABCMeta",
    "ABCMeta.__new__() missing 3 required positional arguments: 'name', 'bases', and 'namespace'"),
  ("reversed", "reversed expected 1 argument, got 0"),
  ("super", "super(): no arguments"),
  ("function", "function() missing required argument 'code' (pos 1)"),
  ("method", "method expected 2 arguments, got 0"),
  ("module", "module() missing required argument 'name' (pos 1)"),
  ("builtin_function_or_method", "cannot create 'builtin_function_or_method' instances"),
  ("generator", "cannot create 'generator' instances"),
  ("_struct.Struct", "Struct() missing required argument 'format' (pos 1)"),
  ("_io.TextIOWrapper", "TextIOWrapper() missing required argument 'buffer' (pos 1)"),
  ("uuid.UUID", "one of the hex, bytes, bytes_le, fields, or int arguments must be given"),
  ("types.GenericAlias", "GenericAlias expected 2 arguments, got 0"),
  ("types.UnionType", "cannot create 'types.UnionType' instances"),
  ("codeweave.runtime.identity.UnitId",
    "UnitId.__init__() missing 2 required positional arguments: 'namespace' and 'simple_name'"),
  ("codeweave.runtime.inference.TypeDescriptor",
    "TypeDescriptor.__init__() missing 2 required positional arguments: 'type_name' and " ++
      "'cast_name'")]

/-- Classes that look at their arguments without keeping them. -/
def checkers : List String := [
  "zip", "map", "filter", "enumerate", "reversed", "super", "enum.Enum", "abc.ABCMeta", "type"]

/-- Classes that take arguments of any kind. -/
def takers : List String := [
  "super", "zip", "map", "filter", "enumerate", "reversed", "type", "function", "method", "module",
  "_struct.Struct", "_io.BytesIO", "_io.StringIO", "_io.TextIOWrapper", "random.Random",
  "uuid.UUID", "types.SimpleNamespace",
  "codeweave.runtime.identity.UnitId", "codeweave.runtime.inference.TypeDescriptor",
  "codeweave.runtime.weaver.Weaver"]

end FragmentWeaver.Standard
