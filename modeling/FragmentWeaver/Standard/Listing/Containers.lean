/-!
# Listing: containers, queues and iterators

What stands in the modules and classes for containers, queues and iterators.
-/

namespace FragmentWeaver.Standard

/-- The modules for containers, queues and iterators. -/
def containersModules : List (String × List String) := [
  ("_bisect", ["built-in", "builtins bisect_left bisect_right insort_left insort_right"]),
  ("_collections", ["built-in", "builtins _count_elements", "classes OrderedDict=collections.
  _deque_iterator _deque_reverse_iterator _tuplegetter defaultdict=collections.
  deque=collections."]),
  ("_collections_abc", ["frozen", "functions _check_methods _is_param_expr _type_repr
  abstractmethod=abc:", "classes ABCMeta=abc. AsyncGenerator=collections.abc.
  AsyncIterable=collections.abc. AsyncIterator=collections.abc. Awaitable=collections.abc.
  ByteString=collections.abc. Callable=collections.abc. Collection=collections.abc.
  Container=collections.abc. Coroutine=collections.abc. EllipsisType=ellipsis FunctionType=function
  Generator=collections.abc. GenericAlias=types. Hashable=collections.abc.
  ItemsView=collections.abc. Iterable=collections.abc. Iterator=collections.abc.
  KeysView=collections.abc. Mapping=collections.abc. MappingView=collections.abc.
  MutableMapping=collections.abc. MutableSequence=collections.abc. MutableSet=collections.abc.
  Reversible=collections.abc. Sequence=collections.abc. Set=collections.abc. Sized=collections.abc.
  ValuesView=collections.abc. _CallableGenericAlias=collections.abc. async_generator=
  bytearray_iterator= bytes_iterator= coroutine= dict_itemiterator= dict_items= dict_keyiterator=
  dict_keys= dict_valueiterator= dict_values= generator= list_iterator= list_reverseiterator=
  longrange_iterator= mappingproxy= range_iterator= set_iterator= str_iterator=str_ascii_iterator
  tuple_iterator= zip_iterator=zip", "modules sys=", "exports Awaitable Coroutine AsyncIterable
  AsyncIterator AsyncGenerator Hashable Iterable Iterator Generator Reversible Sized Container
  Callable Collection Set MutableSet Mapping MutableMapping MappingView KeysView ItemsView
  ValuesView Sequence MutableSequence ByteString"]),
  ("_heapq", ["built-in", "builtins _heapify_max _heappop_max _heapreplace_max heapify heappop
  heappush heappushpop heapreplace", "objects __about__=str"]),
  ("_queue", ["extension", "classes Empty SimpleQueue"]),
  ("array", ["built-in", "builtins _array_reconstructor", "classes ArrayType=array.array array",
  "constant typecodes 'bBuhHiIlLqQfd'"]),
  ("bisect", ["builtins bisect=_bisect:bisect_right bisect_left=_bisect: bisect_right=_bisect:
  insort=_bisect:insort_right insort_left=_bisect: insort_right=_bisect:"]),
  ("collections", ["package", "functions _recursive_repr=reprlib:recursive_repr namedtuple",
  "builtins _count_elements=_collections: _eq=_operator:eq _iskeyword=:frozenset.__contains__
  _proxy=_weakref:proxy", "classes ChainMap Counter OrderedDict UserDict UserList UserString _Link
  _OrderedDictItemsView _OrderedDictKeysView _OrderedDictValuesView _chain=itertools.chain
  _itemgetter=operator.itemgetter _repeat=itertools.repeat _starmap=itertools.starmap
  _tuplegetter=_collections. defaultdict deque", "modules _collections_abc= _sys=sys
  abc=_collections_abc", "exports ChainMap Counter OrderedDict UserDict UserList UserString
  defaultdict deque namedtuple"]),
  ("graphlib", ["classes CycleError GenericAlias=types. TopologicalSorter _NodeInfo",
  "numbers _NODE_DONE=-2 _NODE_OUT=-1", "constant __doc__ None", "exports TopologicalSorter
  CycleError"]),
  ("heapq", ["functions _siftdown _siftdown_max _siftup _siftup_max merge nlargest nsmallest",
  "builtins _heapify_max=_heapq: _heappop_max=_heapq: _heapreplace_max=_heapq: heapify=_heapq:
  heappop=_heapq: heappush=_heapq: heappushpop=_heapq: heapreplace=_heapq:", "exports heappush
  heappop heapify heapreplace merge nlargest nsmallest heappushpop", "same __about__=_heapq."]),
  ("itertools", ["built-in", "builtins tee", "classes _grouper _tee _tee_dataobject accumulate chain
  combinations combinations_with_replacement compress count cycle dropwhile filterfalse groupby
  islice pairwise permutations product repeat starmap takewhile zip_longest"]),
  ("queue", ["builtins heappop=_heapq: heappush=_heapq: time=time:monotonic", "classes Empty=_queue.
  Full LifoQueue PriorityQueue Queue SimpleQueue=_queue. _PySimpleQueue deque=collections.",
  "modules threading= types=", "exports Empty Full Queue PriorityQueue LifoQueue SimpleQueue"])]

/-- The classes for containers, queues and iterators. -/
def containersClasses : List (String × List String) := [
  ("_collections._deque_iterator", ["shown _collections._deque_iterator", "sealed",
  "builtins __new__", "operations __getattribute__ __iter__ __next__", "methods __length_hint__
  __reduce__", "silent"]),
  ("_collections._deque_reverse_iterator", ["shown _collections._deque_reverse_iterator", "sealed",
  "builtins __new__", "operations __getattribute__ __iter__ __next__", "methods __length_hint__
  __reduce__", "silent"]),
  ("_collections._tuplegetter", ["shown _collections._tuplegetter", "sealed", "builtins __new__",
  "operations __repr__ __get__ __set__ __delete__", "methods __reduce__", "slots __doc__"]),
  ("_queue.Empty", ["below Exception", "open __weakref__"]),
  ("_queue.SimpleQueue", ["shown _queue.SimpleQueue", "builtins __new__", "methods empty put
  put_nowait qsize", "told-methods get get_nowait", "class-builtins __class_getitem__"]),
  ("array.array", ["shown array.array", "builtins __new__", "operations __repr__ __getattribute__
  __lt__ __le__ __eq__ __ne__ __gt__ __ge__ __iter__ __len__ __getitem__ __setitem__ __delitem__
  __add__ __mul__ __rmul__ __contains__ __iadd__ __imul__", "methods append buffer_info byteswap
  __copy__ count __deepcopy__ fromlist frombytes fromunicode index insert pop remove reverse tolist
  tobytes tounicode __sizeof__", "told-methods extend fromfile __reduce_ex__ tofile",
  "fields typecode itemsize", "constant __hash__ None"]),
  ("collections.ChainMap", ["below collections.abc.MutableMapping", "kind abc.ABCMeta", "open",
  "functions __init__ __missing__ __getitem__ get __len__ __iter__ __contains__ __bool__ __repr__
  copy __copy__=collections:ChainMap.copy new_child __setitem__ __delitem__ popitem pop clear
  __ior__ __or__ __ror__", "class-functions fromkeys", "properties parents"]),
  ("collections.Counter", ["below dict", "open", "functions __init__ __missing__ total most_common
  elements update subtract copy __reduce__ __delitem__ __repr__ __eq__ __ne__ __le__ __lt__ __ge__
  __gt__ __add__ __sub__ __or__ __and__ __pos__ __neg__ _keep_positive __iadd__ __isub__ __ior__
  __iand__", "class-functions fromkeys", "constant __hash__ None"]),
  ("collections.OrderedDict", ["below dict", "shown collections.OrderedDict", "sealed",
  "open __dict__", "operations __repr__ __lt__ __le__ __eq__ __ne__ __gt__ __ge__ __iter__ __init__
  __or__ __ror__ __ior__ __setitem__ __delitem__", "methods __sizeof__ __reduce__ setdefault pop
  popitem keys values items update clear copy __reversed__ move_to_end", "class-builtins fromkeys",
  "constant __hash__ None"]),
  ("collections.UserDict", ["below collections.abc.MutableMapping", "kind abc.ABCMeta", "open",
  "functions __init__ __len__ __getitem__ __setitem__ __delitem__ __iter__ __contains__ __repr__
  __or__ __ror__ __ior__ __copy__ copy", "class-functions fromkeys", "silent"]),
  ("collections.UserList", ["below collections.abc.MutableSequence", "kind abc.ABCMeta", "open",
  "functions __init__ __repr__ __lt__ __le__ __eq__ __gt__ __ge__
  _UserList__cast=collections:UserList.__cast __contains__ __len__ __getitem__ __setitem__
  __delitem__ __add__ __radd__ __iadd__ __mul__ __rmul__=collections:UserList.__mul__ __imul__
  __copy__ append insert pop remove clear copy count index reverse sort extend",
  "constant __hash__ None"]),
  ("collections.UserString", ["below collections.abc.Sequence", "kind abc.ABCMeta", "open",
  "functions __init__ __str__ __repr__ __int__ __float__ __complex__ __hash__ __getnewargs__ __eq__
  __lt__ __le__ __gt__ __ge__ __contains__ __len__ __getitem__ __add__ __radd__ __mul__
  __rmul__=collections:UserString.__mul__ __mod__ __rmod__ capitalize casefold center count
  removeprefix removesuffix encode endswith expandtabs find format format_map index isalpha isalnum
  isascii isdecimal isdigit isidentifier islower isnumeric isprintable isspace istitle isupper join
  ljust lower lstrip partition replace rfind rindex rjust rpartition rstrip split rsplit splitlines
  startswith strip swapcase title translate upper zfill", "builtins maketrans", "silent"]),
  ("collections._Link", ["open __weakref__", "slots key next prev",
  "constant __slots__ ('prev', 'next', 'key', '__weakref__')", "silent"]),
  ("collections._OrderedDictItemsView", ["below collections.abc.ItemsView", "kind abc.ABCMeta",
  "open", "functions __reversed__", "silent"]),
  ("collections._OrderedDictKeysView", ["below collections.abc.KeysView", "kind abc.ABCMeta",
  "open", "functions __reversed__", "silent"]),
  ("collections._OrderedDictValuesView", ["below collections.abc.ValuesView", "kind abc.ABCMeta",
  "open", "functions __reversed__", "silent"]),
  ("collections.abc.AsyncGenerator", ["below collections.abc.AsyncIterator", "kind abc.ABCMeta",
  "functions __anext__ asend athrow aclose", "class-functions __subclasshook__",
  "constant __slots__ ()", "silent", "part *.__isabstractmethod__ True", "of asend athrow",
  "part *.__dict__ \x7b'__isabstractmethod__': True\x7d", "of asend athrow"]),
  ("collections.abc.AsyncIterable", ["kind abc.ABCMeta", "functions __aiter__",
  "class-functions __subclasshook__ __class_getitem__", "constant __slots__ ()", "silent",
  "part __aiter__.__isabstractmethod__ True",
  "part __aiter__.__dict__ \x7b'__isabstractmethod__': True\x7d"]),
  ("collections.abc.AsyncIterator", ["below collections.abc.AsyncIterable", "kind abc.ABCMeta",
  "functions __anext__ __aiter__", "class-functions __subclasshook__", "constant __slots__ ()",
  "silent", "part __anext__.__isabstractmethod__ True",
  "part __anext__.__dict__ \x7b'__isabstractmethod__': True\x7d"]),
  ("collections.abc.Awaitable", ["kind abc.ABCMeta", "functions __await__",
  "class-functions __subclasshook__ __class_getitem__", "constant __slots__ ()", "silent",
  "part __await__.__isabstractmethod__ True",
  "part __await__.__dict__ \x7b'__isabstractmethod__': True\x7d"]),
  ("collections.abc.ByteString", ["below collections.abc.Sequence", "kind abc.ABCMeta",
  "constant __slots__ ()"]),
  ("collections.abc.Callable", ["kind abc.ABCMeta", "functions __call__",
  "class-functions __subclasshook__ __class_getitem__", "constant __slots__ ()", "silent",
  "part __call__.__isabstractmethod__ True",
  "part __call__.__dict__ \x7b'__isabstractmethod__': True\x7d"]),
  ("collections.abc.Collection", ["above collections.abc.Sized collections.abc.Iterable
  collections.abc.Container object", "kind abc.ABCMeta", "class-functions __subclasshook__",
  "constant __slots__ ()", "silent"]),
  ("collections.abc.Container", ["kind abc.ABCMeta", "functions __contains__",
  "class-functions __subclasshook__ __class_getitem__", "constant __slots__ ()", "silent",
  "part __contains__.__isabstractmethod__ True",
  "part __contains__.__dict__ \x7b'__isabstractmethod__': True\x7d"]),
  ("collections.abc.Coroutine", ["below collections.abc.Awaitable", "kind abc.ABCMeta",
  "functions send throw close", "class-functions __subclasshook__", "constant __slots__ ()",
  "silent", "part *.__isabstractmethod__ True", "of send throw",
  "part *.__dict__ \x7b'__isabstractmethod__': True\x7d", "of send throw"]),
  ("collections.abc.Generator", ["below collections.abc.Iterator", "kind abc.ABCMeta",
  "functions __next__ send throw close", "class-functions __subclasshook__",
  "constant __slots__ ()", "silent", "part *.__isabstractmethod__ True", "of send throw",
  "part *.__dict__ \x7b'__isabstractmethod__': True\x7d", "of send throw"]),
  ("collections.abc.Hashable", ["kind abc.ABCMeta", "functions __hash__",
  "class-functions __subclasshook__", "constant __slots__ ()", "silent",
  "part __hash__.__isabstractmethod__ True",
  "part __hash__.__dict__ \x7b'__isabstractmethod__': True\x7d"]),
  ("collections.abc.ItemsView", ["above collections.abc.MappingView collections.abc.Set
  collections.abc.Collection collections.abc.Sized collections.abc.Iterable
  collections.abc.Container object", "kind abc.ABCMeta", "functions __contains__ __iter__",
  "class-functions _from_iterable", "constant __slots__ ()", "silent"]),
  ("collections.abc.Iterable", ["kind abc.ABCMeta", "functions __iter__",
  "class-functions __subclasshook__ __class_getitem__", "constant __slots__ ()", "silent",
  "part __iter__.__isabstractmethod__ True",
  "part __iter__.__dict__ \x7b'__isabstractmethod__': True\x7d"]),
  ("collections.abc.Iterator", ["below collections.abc.Iterable", "kind abc.ABCMeta",
  "functions __next__ __iter__", "class-functions __subclasshook__", "constant __slots__ ()",
  "silent", "part __next__.__isabstractmethod__ True",
  "part __next__.__dict__ \x7b'__isabstractmethod__': True\x7d"]),
  ("collections.abc.KeysView", ["above collections.abc.MappingView collections.abc.Set
  collections.abc.Collection collections.abc.Sized collections.abc.Iterable
  collections.abc.Container object", "kind abc.ABCMeta", "functions __contains__ __iter__",
  "class-functions _from_iterable", "constant __slots__ ()", "silent"]),
  ("collections.abc.Mapping", ["below collections.abc.Collection", "kind abc.ABCMeta",
  "functions __getitem__ get __contains__ keys items values __eq__", "constant __slots__ ()",
  "constant __reversed__ None", "constant __hash__ None",
  "part __getitem__.__isabstractmethod__ True",
  "part __getitem__.__dict__ \x7b'__isabstractmethod__': True\x7d"]),
  ("collections.abc.MappingView", ["below collections.abc.Sized", "kind abc.ABCMeta",
  "functions __init__ __len__ __repr__", "class-functions __class_getitem__", "slots _mapping",
  "constant __slots__ ('_mapping',)", "silent"]),
  ("collections.abc.MutableMapping", ["below collections.abc.Mapping", "kind abc.ABCMeta",
  "functions __setitem__ __delitem__ pop popitem clear update setdefault",
  "objects _MutableMapping__marker=object", "constant __slots__ ()",
  "part *.__isabstractmethod__ True", "of __setitem__ __delitem__",
  "part *.__dict__ \x7b'__isabstractmethod__': True\x7d", "of __setitem__ __delitem__"]),
  ("collections.abc.MutableSequence", ["below collections.abc.Sequence", "kind abc.ABCMeta",
  "functions __setitem__ __delitem__ insert append clear reverse extend pop remove __iadd__",
  "constant __slots__ ()", "part *.__isabstractmethod__ True", "of __setitem__ __delitem__ insert",
  "part *.__dict__ \x7b'__isabstractmethod__': True\x7d", "of __setitem__ __delitem__ insert"]),
  ("collections.abc.MutableSet", ["below collections.abc.Set", "kind abc.ABCMeta", "functions add
  discard remove pop clear __ior__ __iand__ __ixor__ __isub__", "constant __slots__ ()",
  "part *.__isabstractmethod__ True", "of add discard",
  "part *.__dict__ \x7b'__isabstractmethod__': True\x7d", "of add discard"]),
  ("collections.abc.Reversible", ["below collections.abc.Iterable", "kind abc.ABCMeta",
  "functions __reversed__", "class-functions __subclasshook__", "constant __slots__ ()", "silent",
  "part __reversed__.__isabstractmethod__ True",
  "part __reversed__.__dict__ \x7b'__isabstractmethod__': True\x7d"]),
  ("collections.abc.Sequence", ["above collections.abc.Reversible collections.abc.Collection
  collections.abc.Sized collections.abc.Iterable collections.abc.Container object",
  "kind abc.ABCMeta", "functions __getitem__ __iter__ __contains__ __reversed__ index count",
  "constant __slots__ ()", "part __getitem__.__isabstractmethod__ True",
  "part __getitem__.__dict__ \x7b'__isabstractmethod__': True\x7d"]),
  ("collections.abc.Set", ["below collections.abc.Collection", "kind abc.ABCMeta", "functions __le__
  __lt__ __gt__ __ge__ __eq__ __and__ __rand__=collections.abc:Set.__and__ isdisjoint __or__
  __ror__=collections.abc:Set.__or__ __sub__ __rsub__ __xor__ __rxor__=collections.abc:Set.__xor__
  _hash", "class-functions _from_iterable", "constant __slots__ ()", "constant __hash__ None"]),
  ("collections.abc.Sized", ["kind abc.ABCMeta", "functions __len__",
  "class-functions __subclasshook__", "constant __slots__ ()", "silent",
  "part __len__.__isabstractmethod__ True",
  "part __len__.__dict__ \x7b'__isabstractmethod__': True\x7d"]),
  ("collections.abc.ValuesView", ["above collections.abc.MappingView collections.abc.Collection
  collections.abc.Sized collections.abc.Iterable collections.abc.Container object",
  "kind abc.ABCMeta", "functions __contains__ __iter__", "constant __slots__ ()", "silent"]),
  ("collections.abc._CallableGenericAlias", ["below types.GenericAlias", "functions __repr__
  __reduce__ __getitem__", "statics __new__", "constant __slots__ ()",
  "constant __annotations__ \x7b\x7d"]),
  ("collections.defaultdict", ["below dict", "shown collections.defaultdict", "sealed",
  "operations __repr__ __getattribute__ __init__ __or__ __ror__", "methods __missing__ copy __copy__
  __reduce__", "class-builtins __class_getitem__", "slots default_factory"]),
  ("collections.deque", ["shown collections.deque", "sealed", "builtins __new__",
  "operations __repr__ __getattribute__ __lt__ __le__ __eq__ __ne__ __gt__ __ge__ __iter__ __init__
  __len__ __add__ __mul__ __rmul__ __getitem__ __setitem__ __delitem__ __contains__ __iadd__
  __imul__", "methods append appendleft clear __copy__ copy count extend extendleft index insert pop
  popleft __reduce__ remove __reversed__ reverse rotate __sizeof__",
  "class-builtins __class_getitem__", "fields maxlen", "constant __hash__ None"]),
  ("graphlib.CycleError", ["below ValueError", "open __weakref__"]),
  ("graphlib.TopologicalSorter", ["open", "functions __init__ _get_nodeinfo add prepare get_ready
  is_active __bool__ done _find_cycle static_order", "class-functions __class_getitem__"]),
  ("graphlib._NodeInfo", ["functions __init__", "slots node npredecessors successors",
  "constant __slots__ ('node', 'npredecessors', 'successors')", "silent"]),
  ("itertools._grouper", ["shown itertools._grouper", "sealed", "builtins __new__",
  "operations __getattribute__ __iter__ __next__", "methods __reduce__", "silent"]),
  ("itertools._tee", ["shown itertools._tee", "sealed", "builtins __new__", "operations __iter__
  __next__", "methods __copy__ __reduce__ __setstate__"]),
  ("itertools._tee_dataobject", ["shown itertools._tee_dataobject", "sealed", "builtins __new__",
  "operations __getattribute__", "methods __reduce__"]),
  ("itertools.accumulate", ["shown itertools.accumulate", "sealed", "builtins __new__",
  "operations __getattribute__ __iter__ __next__", "methods __reduce__ __setstate__"]),
  ("itertools.chain", ["shown itertools.chain", "sealed", "builtins __new__",
  "operations __getattribute__ __iter__ __next__", "methods __reduce__ __setstate__",
  "class-builtins from_iterable __class_getitem__"]),
  ("itertools.combinations", ["shown itertools.combinations", "sealed", "builtins __new__",
  "operations __getattribute__ __iter__ __next__", "methods __reduce__ __setstate__ __sizeof__"]),
  ("itertools.combinations_with_replacement", ["shown itertools.combinations_with_replacement",
  "sealed", "builtins __new__", "operations __getattribute__ __iter__ __next__", "methods __reduce__
  __setstate__ __sizeof__"]),
  ("itertools.compress", ["shown itertools.compress", "sealed", "builtins __new__",
  "operations __getattribute__ __iter__ __next__", "methods __reduce__"]),
  ("itertools.count", ["shown itertools.count", "sealed", "builtins __new__", "operations __repr__
  __getattribute__ __iter__ __next__", "methods __reduce__"]),
  ("itertools.cycle", ["shown itertools.cycle", "sealed", "builtins __new__",
  "operations __getattribute__ __iter__ __next__", "methods __reduce__ __setstate__"]),
  ("itertools.dropwhile", ["shown itertools.dropwhile", "sealed", "builtins __new__",
  "operations __getattribute__ __iter__ __next__", "methods __reduce__ __setstate__"]),
  ("itertools.filterfalse", ["shown itertools.filterfalse", "sealed", "builtins __new__",
  "operations __getattribute__ __iter__ __next__", "methods __reduce__"]),
  ("itertools.groupby", ["shown itertools.groupby", "sealed", "builtins __new__",
  "operations __getattribute__ __iter__ __next__", "methods __reduce__ __setstate__"]),
  ("itertools.islice", ["shown itertools.islice", "sealed", "builtins __new__",
  "operations __getattribute__ __iter__ __next__", "methods __reduce__ __setstate__"]),
  ("itertools.pairwise", ["shown itertools.pairwise", "sealed", "builtins __new__",
  "operations __getattribute__ __iter__ __next__"]),
  ("itertools.permutations", ["shown itertools.permutations", "sealed", "builtins __new__",
  "operations __getattribute__ __iter__ __next__", "methods __reduce__ __setstate__ __sizeof__"]),
  ("itertools.product", ["shown itertools.product", "sealed", "builtins __new__",
  "operations __getattribute__ __iter__ __next__", "methods __reduce__ __setstate__ __sizeof__"]),
  ("itertools.repeat", ["shown itertools.repeat", "sealed", "builtins __new__", "operations __repr__
  __getattribute__ __iter__ __next__", "methods __length_hint__ __reduce__"]),
  ("itertools.starmap", ["shown itertools.starmap", "sealed", "builtins __new__",
  "operations __getattribute__ __iter__ __next__", "methods __reduce__"]),
  ("itertools.takewhile", ["shown itertools.takewhile", "sealed", "builtins __new__",
  "operations __getattribute__ __iter__ __next__", "methods __reduce__ __setstate__"]),
  ("itertools.zip_longest", ["shown itertools.zip_longest", "sealed", "builtins __new__",
  "operations __getattribute__ __iter__ __next__", "methods __reduce__ __setstate__"]),
  ("queue.Full", ["below Exception", "open __weakref__"]),
  ("queue.LifoQueue", ["below queue.Queue", "functions _init _qsize _put _get"]),
  ("queue.PriorityQueue", ["below queue.Queue", "functions _init _qsize _put _get"]),
  ("queue.Queue", ["open", "functions __init__ task_done join qsize empty full put get put_nowait
  get_nowait _init _qsize _put _get", "class-functions __class_getitem__"]),
  ("queue._PySimpleQueue", ["open", "functions __init__ put get put_nowait get_nowait empty qsize",
  "class-functions __class_getitem__"])]

end FragmentWeaver.Standard
