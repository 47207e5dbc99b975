/-!
# Forms of annotations

The forms that stand for classes and take type arguments in their place: the class, how many arguments
there have to be, and whether a call of the form makes an object of the class. Other forms have rules
of their own.
-/

namespace FragmentWeaver.Standard

/-- A form of annotations that stands for a class: its name, the key of the class, how many type
    arguments it takes unless it takes any number of them, and whether it can be called. -/
structure ClassForm where
  name : String
  origin : String
  arity : Option Nat := some 1
  direct : Bool := true
  deriving DecidableEq, Repr, Inhabited

/-- The forms that stand for classes. -/
def classForms : List ClassForm := [
  { name := "Hashable", origin := "collections.abc.Hashable", arity := some 0 },
  { name := "Awaitable", origin := "collections.abc.Awaitable" },
  { name := "Coroutine", origin := "collections.abc.Coroutine", arity := some 3 },
  { name := "AsyncIterable", origin := "collections.abc.AsyncIterable" },
  { name := "AsyncIterator", origin := "collections.abc.AsyncIterator" },
  { name := "Iterable", origin := "collections.abc.Iterable" },
  { name := "Iterator", origin := "collections.abc.Iterator" },
  { name := "Reversible", origin := "collections.abc.Reversible" },
  { name := "Sized", origin := "collections.abc.Sized", arity := some 0 },
  { name := "Container", origin := "collections.abc.Container" },
  { name := "Collection", origin := "collections.abc.Collection" },
  { name := "Callable", origin := "collections.abc.Callable", arity := some 2 },
  { name := "AbstractSet", origin := "collections.abc.Set" },
  { name := "MutableSet", origin := "collections.abc.MutableSet" },
  { name := "Mapping", origin := "collections.abc.Mapping", arity := some 2 },
  { name := "MutableMapping", origin := "collections.abc.MutableMapping", arity := some 2 },
  { name := "Sequence", origin := "collections.abc.Sequence" },
  { name := "MutableSequence", origin := "collections.abc.MutableSequence" },
  { name := "ByteString", origin := "collections.abc.ByteString", arity := some 0 },
  { name := "Tuple", origin := "tuple", arity := none, direct := false },
  { name := "List", origin := "list", direct := false },
  { name := "Deque", origin := "collections.deque" },
  { name := "Set", origin := "set", direct := false },
  { name := "FrozenSet", origin := "frozenset", direct := false },
  { name := "MappingView", origin := "collections.abc.MappingView" },
  { name := "KeysView", origin := "collections.abc.KeysView" },
  { name := "ItemsView", origin := "collections.abc.ItemsView", arity := some 2 },
  { name := "ValuesView", origin := "collections.abc.ValuesView" },
  { name := "ContextManager", origin := "contextlib.AbstractContextManager" },
  { name := "AsyncContextManager", origin := "contextlib.AbstractAsyncContextManager" },
  { name := "Dict", origin := "dict", arity := some 2, direct := false },
  { name := "DefaultDict", origin := "collections.defaultdict", arity := some 2 },
  { name := "OrderedDict", origin := "collections.OrderedDict", arity := some 2 },
  { name := "Counter", origin := "collections.Counter" },
  { name := "ChainMap", origin := "collections.ChainMap", arity := some 2 },
  { name := "Generator", origin := "collections.abc.Generator", arity := some 3 },
  { name := "AsyncGenerator", origin := "collections.abc.AsyncGenerator", arity := some 2 },
  { name := "Type", origin := "type", direct := false },
  { name := "Pattern", origin := "re.Pattern" },
  { name := "Match", origin := "re.Match" }]

/-- The form with a name. -/
def classForm? (name : String) : Option ClassForm :=
  classForms.find? fun f => f.name = name

/-- The forms of annotations that stand for a type by themselves. -/
def completeForms : List String := ["LiteralString", "NoReturn", "Never", "Self", "TypeAlias"]

end FragmentWeaver.Standard
