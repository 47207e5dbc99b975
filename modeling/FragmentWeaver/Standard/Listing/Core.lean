/-!
# Listing: the language itself

What stands in the modules and classes for the built-in names, types, functions of functions, and
warnings.
-/

namespace FragmentWeaver.Standard

/-- The modules for the language itself. -/
def coreModules : List (String × List String) := [
  ("builtins", ["built-in", "builtins __build_class__ __import__ abs aiter all anext any ascii bin
  breakpoint callable chr compile delattr dir divmod eval exec format getattr globals hasattr hash
  hex id input isinstance issubclass iter len locals max min next oct open=io: ord pow print repr
  round setattr sorted sum vars", "classes ArithmeticError= AssertionError= AttributeError=
  BaseException= BaseExceptionGroup= BlockingIOError= BrokenPipeError= BufferError= BytesWarning=
  ChildProcessError= ConnectionAbortedError= ConnectionError= ConnectionRefusedError=
  ConnectionResetError= DeprecationWarning= EOFError= EncodingWarning= EnvironmentError=OSError
  Exception= ExceptionGroup= FileExistsError= FileNotFoundError= FloatingPointError= FutureWarning=
  GeneratorExit= IOError=OSError ImportError= ImportWarning= IndentationError= IndexError=
  InterruptedError= IsADirectoryError= KeyError= KeyboardInterrupt= LookupError= MemoryError=
  ModuleNotFoundError= NameError= NotADirectoryError= NotImplementedError= OSError= OverflowError=
  PendingDeprecationWarning= PermissionError= ProcessLookupError= RecursionError= ReferenceError=
  ResourceWarning= RuntimeError= RuntimeWarning= StopAsyncIteration= StopIteration= SyntaxError=
  SyntaxWarning= SystemError= SystemExit= TabError= TimeoutError= TypeError= UnboundLocalError=
  UnicodeDecodeError= UnicodeEncodeError= UnicodeError= UnicodeTranslateError= UnicodeWarning=
  UserWarning= ValueError= Warning= ZeroDivisionError= bool= bytearray= bytes= classmethod= complex=
  dict= enumerate= filter= float= frozenset= int= list= map= memoryview= object= property= range=
  reversed= set= slice= staticmethod= str= super= tuple= type= zip=", "objects Ellipsis=ellipsis
  NotImplemented=NotImplementedType copyright=_sitebuiltins._Printer credits=_sitebuiltins._Printer
  license=_sitebuiltins._Printer help=_sitebuiltins._Helper", "holders quit=_sitebuiltins.Quitter
  exit=_sitebuiltins.Quitter", "constant False False", "constant None None", "constant True True",
  "constant __debug__ True", "order __name__ __doc__ __package__ __loader__ __spec__ __build_class__
  __import__ abs all any ascii bin breakpoint callable chr compile delattr dir divmod eval exec
  format getattr globals hasattr hash hex id input isinstance issubclass iter aiter len locals max
  min next anext oct ord pow print repr round setattr sorted sum vars None Ellipsis NotImplemented
  False True bool memoryview bytearray bytes classmethod complex dict enumerate filter float
  frozenset property int list map object range reversed set slice staticmethod str super tuple type
  zip __debug__ BaseException BaseExceptionGroup Exception GeneratorExit KeyboardInterrupt
  SystemExit ArithmeticError AssertionError AttributeError BufferError EOFError ImportError
  LookupError MemoryError NameError OSError ReferenceError RuntimeError StopAsyncIteration
  StopIteration SyntaxError SystemError TypeError ValueError Warning FloatingPointError
  OverflowError ZeroDivisionError BytesWarning DeprecationWarning EncodingWarning FutureWarning
  ImportWarning PendingDeprecationWarning ResourceWarning RuntimeWarning SyntaxWarning
  UnicodeWarning UserWarning BlockingIOError ChildProcessError ConnectionError FileExistsError
  FileNotFoundError InterruptedError IsADirectoryError NotADirectoryError PermissionError
  ProcessLookupError TimeoutError IndentationError IndexError KeyError ModuleNotFoundError
  NotImplementedError RecursionError UnboundLocalError UnicodeError BrokenPipeError
  ConnectionAbortedError ConnectionRefusedError ConnectionResetError TabError UnicodeDecodeError
  UnicodeEncodeError UnicodeTranslateError ExceptionGroup EnvironmentError IOError open quit exit
  copyright credits license help", "part quit.eof 'Ctrl-D (i.e. EOF)'", "part quit.name 'quit'",
  "part quit.__dict__ \x7b'name': 'quit', 'eof': 'Ctrl-D (i.e. EOF)'\x7d",
  "part exit.eof 'Ctrl-D (i.e. EOF)'", "part exit.name 'exit'",
  "part exit.__dict__ \x7b'name': 'exit', 'eof': 'Ctrl-D (i.e. EOF)'\x7d"]),
  ("__future__", ["classes _Feature", "holders absolute_import=__future__._Feature
  annotations=__future__._Feature barry_as_FLUFL=__future__._Feature division=__future__._Feature
  generator_stop=__future__._Feature generators=__future__._Feature
  nested_scopes=__future__._Feature print_function=__future__._Feature
  unicode_literals=__future__._Feature with_statement=__future__._Feature",
  "numbers CO_FUTURE_ABSOLUTE_IMPORT=262144 CO_FUTURE_ANNOTATIONS=16777216
  CO_FUTURE_BARRY_AS_BDFL=4194304 CO_FUTURE_DIVISION=131072 CO_FUTURE_GENERATOR_STOP=8388608
  CO_FUTURE_PRINT_FUNCTION=1048576 CO_FUTURE_UNICODE_LITERALS=2097152
  CO_FUTURE_WITH_STATEMENT=524288 CO_GENERATOR_ALLOWED=0 CO_NESTED=16",
  "constant all_feature_names ['nested_scopes', 'generators', 'division', 'absolute_import', '",
  "|with_statement', 'print_function', 'unicode_literals', 'barry_as_FLUFL', 'generator_stop',",
  "| 'annotations']", "exports all_feature_names nested_scopes generators division absolute_import
  with_statement print_function unicode_literals barry_as_FLUFL generator_stop annotations",
  "part absolute_import.compiler_flag 262144",
  "part absolute_import.mandatory (3, 0, 0, 'alpha', 0)",
  "part absolute_import.optional (2, 5, 0, 'alpha', 1)",
  "part absolute_import.__dict__ \x7b'optional': (2, 5, 0, 'alpha', 1), 'mandatory': (3, 0, 0,",
  "| 'alpha', 0), 'compiler_flag': 262144\x7d", "part annotations.compiler_flag 16777216",
  "part annotations.mandatory None", "part annotations.optional (3, 7, 0, 'beta', 1)",
  "part annotations.__dict__ \x7b'optional': (3, 7, 0, 'beta', 1), 'mandatory': None, 'compile",
  "|r_flag': 16777216\x7d", "part barry_as_FLUFL.compiler_flag 4194304",
  "part barry_as_FLUFL.mandatory (4, 0, 0, 'alpha', 0)",
  "part barry_as_FLUFL.optional (3, 1, 0, 'alpha', 2)",
  "part barry_as_FLUFL.__dict__ \x7b'optional': (3, 1, 0, 'alpha', 2), 'mandatory': (4, 0, 0, ",
  "|'alpha', 0), 'compiler_flag': 4194304\x7d", "part division.compiler_flag 131072",
  "part division.mandatory (3, 0, 0, 'alpha', 0)", "part division.optional (2, 2, 0, 'alpha', 2)",
  "part division.__dict__ \x7b'optional': (2, 2, 0, 'alpha', 2), 'mandatory': (3, 0, 0, 'alpha",
  "|', 0), 'compiler_flag': 131072\x7d", "part generator_stop.compiler_flag 8388608",
  "part generator_stop.mandatory (3, 7, 0, 'alpha', 0)",
  "part generator_stop.optional (3, 5, 0, 'beta', 1)",
  "part generator_stop.__dict__ \x7b'optional': (3, 5, 0, 'beta', 1), 'mandatory': (3, 7, 0, '",
  "|alpha', 0), 'compiler_flag': 8388608\x7d", "part generators.compiler_flag 0",
  "part generators.mandatory (2, 3, 0, 'final', 0)",
  "part generators.optional (2, 2, 0, 'alpha', 1)",
  "part generators.__dict__ \x7b'optional': (2, 2, 0, 'alpha', 1), 'mandatory': (2, 3, 0, 'fin",
  "|al', 0), 'compiler_flag': 0\x7d", "part nested_scopes.compiler_flag 16",
  "part nested_scopes.mandatory (2, 2, 0, 'alpha', 0)",
  "part nested_scopes.optional (2, 1, 0, 'beta', 1)",
  "part nested_scopes.__dict__ \x7b'optional': (2, 1, 0, 'beta', 1), 'mandatory': (2, 2, 0, 'a",
  "|lpha', 0), 'compiler_flag': 16\x7d", "part print_function.compiler_flag 1048576",
  "part print_function.mandatory (3, 0, 0, 'alpha', 0)",
  "part print_function.optional (2, 6, 0, 'alpha', 2)",
  "part print_function.__dict__ \x7b'optional': (2, 6, 0, 'alpha', 2), 'mandatory': (3, 0, 0, ",
  "|'alpha', 0), 'compiler_flag': 1048576\x7d", "part unicode_literals.compiler_flag 2097152",
  "part unicode_literals.mandatory (3, 0, 0, 'alpha', 0)",
  "part unicode_literals.optional (2, 6, 0, 'alpha', 2)",
  "part unicode_literals.__dict__ \x7b'optional': (2, 6, 0, 'alpha', 2), 'mandatory': (3, 0, 0",
  "|, 'alpha', 0), 'compiler_flag': 2097152\x7d", "part with_statement.compiler_flag 524288",
  "part with_statement.mandatory (2, 6, 0, 'alpha', 0)",
  "part with_statement.optional (2, 5, 0, 'alpha', 1)",
  "part with_statement.__dict__ \x7b'optional': (2, 5, 0, 'alpha', 1), 'mandatory': (2, 6, 0, ",
  "|'alpha', 0), 'compiler_flag': 524288\x7d"]),
  ("_abc", ["built-in", "builtins _abc_init _abc_instancecheck _abc_register _abc_subclasscheck
  _get_dump _reset_caches _reset_registry get_cache_token"]),
  ("_contextvars", ["extension", "builtins copy_context", "classes Context ContextVar Token"]),
  ("_functools", ["built-in", "builtins cmp_to_key reduce", "classes
  _lru_cache_wrapper=functools. partial=functools."]),
  ("_operator", ["built-in", "builtins _compare_digest abs add and_ call concat contains countOf
  delitem eq floordiv ge getitem gt iadd iand iconcat ifloordiv ilshift imatmul imod imul index
  indexOf inv invert ior ipow irshift is_ is_not isub itruediv ixor le length_hint lshift lt matmul
  mod mul ne neg not_ or_ pos pow rshift setitem sub truediv truth xor",
  "classes attrgetter=operator. itemgetter=operator. methodcaller=operator."]),
  ("_py_abc", ["functions get_cache_token", "classes ABCMeta WeakSet=_weakrefset.",
  "constant __doc__ None"]),
  ("_sitebuiltins", ["frozen", "classes Quitter _Helper _Printer", "modules sys="]),
  ("_typing", ["extension", "builtins _idfunc"]),
  ("_warnings", ["built-in", "builtins _filters_mutated warn warn_explicit",
  "constant _defaultaction 'default'", "constant _onceregistry \x7b\x7d",
  "constant filters [('ignore', None, Warning, None, 0), ('default', None, DeprecationWarning,",
  "| '__main__', 0), ('ignore', None, DeprecationWarning, None, 0), ('ignore', None, PendingDe",
  "|precationWarning, None, 0), ('ignore', None, ImportWarning, None, 0), ('ignore', None, Res",
  "|ourceWarning, None, 0)]"]),
  ("_weakref", ["built-in", "builtins _remove_dead_weakref getweakrefcount getweakrefs proxy",
  "classes CallableProxyType=weakref. ProxyType=weakref. ReferenceType=weakref.
  ref=weakref.ReferenceType"]),
  ("_weakrefset", ["classes GenericAlias=types. WeakSet _IterationGuard ref=weakref.ReferenceType",
  "constant __doc__ None", "exports WeakSet"]),
  ("abc", ["frozen", "functions abstractmethod update_abstractmethods", "builtins _abc_init=_abc:
  _abc_instancecheck=_abc: _abc_register=_abc: _abc_subclasscheck=_abc: _get_dump=_abc:
  _reset_caches=_abc: _reset_registry=_abc: get_cache_token=_abc:", "classes ABC ABCMeta
  abstractclassmethod abstractproperty abstractstaticmethod"]),
  ("atexit", ["built-in", "builtins _clear _ncallbacks _run_exitfuncs register unregister"]),
  ("contextlib", ["functions asynccontextmanager contextmanager wraps=functools:",
  "classes AbstractAsyncContextManager AbstractContextManager AsyncContextDecorator AsyncExitStack
  ContextDecorator ExitStack GenericAlias=types. MethodType=method _AsyncGeneratorContextManager
  _BaseExitStack _GeneratorContextManager _GeneratorContextManagerBase _RedirectStream aclosing
  chdir closing deque=collections. nullcontext redirect_stderr redirect_stdout suppress",
  "modules _collections_abc= abc= os= sys=", "exports asynccontextmanager contextmanager closing
  nullcontext AbstractContextManager AbstractAsyncContextManager AsyncExitStack ContextDecorator
  ExitStack redirect_stdout redirect_stderr suppress aclosing chdir"]),
  ("contextvars", ["builtins copy_context=_contextvars:", "classes Context=_contextvars.
  ContextVar=_contextvars. Token=_contextvars.",
  "constant __all__ ('Context', 'ContextVar', 'Token', 'copy_context')", "constant __doc__ None"]),
  ("copy", ["functions _copy_immutable _deepcopy_atomic _deepcopy_dict _deepcopy_list
  _deepcopy_method _deepcopy_tuple _keep_alive _reconstruct copy deepcopy", "classes Error
  error=copy.Error",
  "constant _copy_dispatch \x7bNoneType: function(...), int: function(...), float: function(..",
  "|.), bool: function(...), complex: function(...), str: function(...), tuple: function(...),",
  "| bytes: function(...), frozenset: function(...), type: function(...), range: function(...)",
  "|, slice: function(...), property: function(...), builtin_function_or_method: function(...)",
  "|, ellipsis: function(...), NotImplementedType: function(...), function: function(...), wea",
  "|kref.ReferenceType: function(...), code: function(...), list: method_descriptor(...), dict",
  "|: method_descriptor(...), set: method_descriptor(...), bytearray: method_descriptor(...)",
  "|\x7d",
  "constant _deepcopy_dispatch \x7bNoneType: function(...), ellipsis: function(...), NotImplem",
  "|entedType: function(...), int: function(...), float: function(...), bool: function(...), c",
  "|omplex: function(...), bytes: function(...), str: function(...), code: function(...), type",
  "|: function(...), range: function(...), builtin_function_or_method: function(...), function",
  "|: function(...), weakref.ReferenceType: function(...), property: function(...), list: func",
  "|tion(...), tuple: function(...), dict: function(...), method: function(...)\x7d",
  "constant dispatch_table \x7bcomplex: function(...), types.UnionType: function(...), re.Patt",
  "|ern: function(...)\x7d", "exports Error copy deepcopy"]),
  ("copyreg", ["functions __newobj__ __newobj_ex__ _reconstructor _reduce_ex _slotnames
  add_extension clear_extension_cache constructor pickle pickle_complex pickle_union
  remove_extension", "classes _new_type=builtin_function_or_method", "numbers _HEAPTYPE=512",
  "constant _extension_cache \x7b\x7d", "constant _extension_registry \x7b\x7d",
  "constant _inverted_registry \x7b\x7d", "exports pickle constructor add_extension remove_extension
  clear_extension_cache", "same dispatch_table=copy."]),
  ("dataclasses", ["functions _add_slots _asdict_inner _astuple_inner _cmp_fn _create_fn
  _dataclass_getstate _dataclass_setstate _field_assign _field_init _fields_in_init_order
  _frozen_get_del_attr _get_field _get_slots _hash_add _hash_exception _hash_fn _hash_set_none
  _init_fn _init_param _is_classvar _is_dataclass_instance _is_initvar _is_kw_only _is_type
  _process_class _recursive_repr _repr_fn _set_new_attribute _set_qualname _tuple_str asdict astuple
  dataclass field fields is_dataclass make_dataclass replace", "classes Field FrozenInstanceError
  FunctionType=function GenericAlias=types. InitVar _DataclassParams _FIELD_BASE
  _HAS_DEFAULT_FACTORY_CLASS _KW_ONLY_TYPE _MISSING_TYPE",
  "objects KW_ONLY=dataclasses._KW_ONLY_TYPE MISSING=dataclasses._MISSING_TYPE
  _EMPTY_METADATA=mappingproxy _HAS_DEFAULT_FACTORY=dataclasses._HAS_DEFAULT_FACTORY_CLASS",
  "holders _FIELD=dataclasses._FIELD_BASE _FIELD_CLASSVAR=dataclasses._FIELD_BASE
  _FIELD_INITVAR=dataclasses._FIELD_BASE _MODULE_IDENTIFIER_RE=re.Pattern", "modules _thread= abc=
  builtins= copy= functools= inspect= itertools= keyword= re= sys= types=",
  "constant _FIELDS '__dataclass_fields__'", "constant _PARAMS '__dataclass_params__'",
  "constant _POST_INIT_NAME '__post_init__'", "constant __doc__ None",
  "constant _hash_action \x7b(False, False, False, False): None, (False, False, False, True): ",
  "|None, (False, False, True, False): None, (False, False, True, True): None, (False, True, F",
  "|alse, False): function(...), (False, True, False, True): None, (False, True, True, False):",
  "| function(...), (False, True, True, True): None, (True, False, False, False): function(...",
  "|), (True, False, False, True): function(...), (True, False, True, False): function(...), (",
  "|True, False, True, True): function(...), (True, True, False, False): function(...), (True,",
  "| True, False, True): function(...), (True, True, True, False): function(...), (True, True,",
  "| True, True): function(...)\x7d", "exports dataclass field Field FrozenInstanceError InitVar
  KW_ONLY MISSING fields asdict astuple make_dataclass replace is_dataclass",
  "part _FIELD.name '_FIELD'", "part _FIELD.__dict__ \x7b'name': '_FIELD'\x7d",
  "part _FIELD_CLASSVAR.name '_FIELD_CLASSVAR'",
  "part _FIELD_CLASSVAR.__dict__ \x7b'name': '_FIELD_CLASSVAR'\x7d",
  "part _FIELD_INITVAR.name '_FIELD_INITVAR'",
  "part _FIELD_INITVAR.__dict__ \x7b'name': '_FIELD_INITVAR'\x7d",
  "part _MODULE_IDENTIFIER_RE.groups 2",
  "part _MODULE_IDENTIFIER_RE.pattern '^(?:\\\\s*(\\\\w+)\\\\s*\\\\.)?\\\\s*(\\\\w+)'"]),
  ("enum", ["functions _dedent _high_bit _is_descriptor _is_dunder _is_internal_class _is_private
  _is_single_bit _is_sunder _iter_bits_lsb _make_class_unpicklable _old_convert_ _power_of_two
  _reduce_ex_by_global_name=enum:pickle_by_global_name _simple_enum _test_simple_enum bin
  global_enum global_enum_repr global_flag_repr global_str show_flag_values unique",
  "builtins _or_=_operator:or_ reduce=_functools:", "classes DynamicClassAttribute=types. Enum
  EnumCheck EnumMeta=enum.EnumType EnumType Flag FlagBoundary IntEnum IntFlag
  MappingProxyType=mappingproxy ReprEnum StrEnum _EnumDict _proto_member auto member nonmember
  property verify", "objects _auto_null=enum.", "modules bltns=builtins sys=",
  "members-of enum.FlagBoundary CONFORM EJECT KEEP STRICT",
  "members-of enum.EnumCheck CONTINUOUS NAMED_FLAGS UNIQUE", "constant __doc__ None",
  "constant _stdlib_enums (enum.IntEnum, enum.StrEnum, enum.IntFlag)", "exports EnumType EnumMeta
  Enum IntEnum StrEnum Flag IntFlag ReprEnum auto unique property verify member nonmember
  FlagBoundary STRICT CONFORM EJECT KEEP global_flag_repr global_enum_repr global_str global_enum
  EnumCheck CONTINUOUS NAMED_FLAGS UNIQUE"]),
  ("functools", ["functions _c3_merge _c3_mro _compose_mro _find_impl _ge_from_gt _ge_from_le
  _ge_from_lt _gt_from_ge _gt_from_le _gt_from_lt _le_from_ge _le_from_gt _le_from_lt _lt_from_ge
  _lt_from_gt _lt_from_le _make_key _unwrap_partial cache lru_cache namedtuple=collections:
  recursive_repr=reprlib: singledispatch total_ordering update_wrapper wraps",
  "builtins cmp_to_key=_functools: get_cache_token=_abc: reduce=_functools:",
  "classes GenericAlias=types. RLock=_thread. _CacheInfo=functools.CacheInfo _HashedSeq
  _lru_cache_wrapper cached_property partial partialmethod singledispatchmethod",
  "objects _NOT_FOUND=object _initial_missing=object",
  "constant WRAPPER_ASSIGNMENTS ('__module__', '__name__', '__qualname__', '__doc__', '__annot",
  "|ations__')", "constant WRAPPER_UPDATES ('__dict__',)",
  "constant _convert \x7b'__lt__': [('__gt__', function(...)), ('__le__', function(...)), ('__",
  "|ge__', function(...))], '__le__': [('__ge__', function(...)), ('__lt__', function(...)), (",
  "|'__gt__', function(...))], '__gt__': [('__lt__', function(...)), ('__ge__', function(...))",
  "|, ('__le__', function(...))], '__ge__': [('__le__', function(...)), ('__gt__', function(..",
  "|.)), ('__lt__', function(...))]\x7d", "exports update_wrapper wraps WRAPPER_ASSIGNMENTS
  WRAPPER_UPDATES total_ordering cache cmp_to_key lru_cache reduce partial partialmethod
  singledispatch singledispatchmethod cached_property"]),
  ("gc", ["built-in", "builtins collect disable enable freeze get_count get_debug get_freeze_count
  get_objects get_referents get_referrers get_stats get_threshold is_finalized is_tracked isenabled
  set_debug set_threshold unfreeze", "numbers DEBUG_COLLECTABLE=2 DEBUG_LEAK=38 DEBUG_SAVEALL=32
  DEBUG_STATS=1 DEBUG_UNCOLLECTABLE=4", "constant callbacks []", "constant garbage []"]),
  ("inspect", ["functions _check_class _check_instance _descriptor_get _findclass _finddoc
  _get_code_position _get_code_position_from_tb _getmembers _has_code_flag _is_type _main
  _missing_arguments _shadowed_dict _signature_bound_method _signature_from_builtin
  _signature_from_callable _signature_from_function _signature_fromstr _signature_get_partial
  _signature_get_user_defined_method _signature_is_builtin _signature_is_functionlike
  _signature_strip_non_python_syntax _static_getmro _too_many classify_class_attrs cleandoc
  currentframe findsource formatannotation formatannotationrelativeto formatargvalues
  get_annotations getabsfile getargs getargvalues getattr_static getblock getcallargs getclasstree
  getclosurevars getcomments getcoroutinelocals getcoroutinestate getdoc getfile getframeinfo
  getfullargspec getgeneratorlocals getgeneratorstate getinnerframes getlineno getmembers
  getmembers_static getmodule getmodulename getmro getouterframes getsource getsourcefile
  getsourcelines indentsize isabstract isasyncgen isasyncgenfunction isawaitable isbuiltin isclass
  iscode iscoroutine iscoroutinefunction isdatadescriptor isframe isfunction isgenerator
  isgeneratorfunction isgetsetdescriptor ismemberdescriptor ismethod ismethoddescriptor
  ismethodwrapper ismodule isroutine istraceback namedtuple=collections: signature stack trace
  unwrap walktree", "builtins iskeyword=:frozenset.__contains__", "classes ArgInfo Arguments
  Attribute BlockFinder BoundArguments ClassFoundException ClosureVars EndOfBlock FrameInfo
  FullArgSpec OrderedDict=collections. Parameter Signature Traceback _ClassFinder _FrameInfo
  _ParameterKind _Traceback _empty _void attrgetter=operator.", "objects _sentinel=object",
  "modules abc= ast= builtins= collections= dis= enum= functools= importlib= itertools= linecache=
  os= re= sys= token= tokenize= types=", "members _KEYWORD_ONLY=inspect._ParameterKind.KEYWORD_ONLY
  _POSITIONAL_ONLY=inspect._ParameterKind.POSITIONAL_ONLY
  _POSITIONAL_OR_KEYWORD=inspect._ParameterKind.POSITIONAL_OR_KEYWORD
  _VAR_KEYWORD=inspect._ParameterKind.VAR_KEYWORD
  _VAR_POSITIONAL=inspect._ParameterKind.VAR_POSITIONAL", "numbers CO_ASYNC_GENERATOR=512
  CO_COROUTINE=128 CO_GENERATOR=32 CO_ITERABLE_COROUTINE=256 CO_NESTED=16 CO_NEWLOCALS=2
  CO_NOFREE=64 CO_OPTIMIZED=1 CO_VARARGS=4 CO_VARKEYWORDS=8 TPFLAGS_IS_ABSTRACT=1048576",
  "constant CORO_CLOSED 'CORO_CLOSED'", "constant CORO_CREATED 'CORO_CREATED'",
  "constant CORO_RUNNING 'CORO_RUNNING'", "constant CORO_SUSPENDED 'CORO_SUSPENDED'",
  "constant GEN_CLOSED 'GEN_CLOSED'", "constant GEN_CREATED 'GEN_CREATED'",
  "constant GEN_RUNNING 'GEN_RUNNING'", "constant GEN_SUSPENDED 'GEN_SUSPENDED'",
  "constant _NonUserDefinedCallables (wrapper_descriptor, type('method-wrapper'), classmethod_",
  "|descriptor, builtin_function_or_method)",
  "constant __author__ ('Ka-Ping Yee <ping\\x40lfw.org>', 'Yury Selivanov <yselivanov\\x40spry",
  "|mix.com>')", "constant _filesbymodname \x7b\x7d", "constant modulesbyfile \x7b\x7d",
  "exports ArgInfo Arguments Attribute BlockFinder BoundArguments CORO_CLOSED CORO_CREATED
  CORO_RUNNING CORO_SUSPENDED CO_ASYNC_GENERATOR CO_COROUTINE CO_GENERATOR CO_ITERABLE_COROUTINE
  CO_NESTED CO_NEWLOCALS CO_NOFREE CO_OPTIMIZED CO_VARARGS CO_VARKEYWORDS ClassFoundException
  ClosureVars EndOfBlock FrameInfo FullArgSpec GEN_CLOSED GEN_CREATED GEN_RUNNING GEN_SUSPENDED
  Parameter Signature TPFLAGS_IS_ABSTRACT Traceback classify_class_attrs cleandoc currentframe
  findsource formatannotation formatannotationrelativeto formatargvalues get_annotations getabsfile
  getargs getargvalues getattr_static getblock getcallargs getclasstree getclosurevars getcomments
  getcoroutinelocals getcoroutinestate getdoc getfile getframeinfo getfullargspec getgeneratorlocals
  getgeneratorstate getinnerframes getlineno getmembers getmembers_static getmodule getmodulename
  getmro getouterframes getsource getsourcefile getsourcelines indentsize isabstract isasyncgen
  isasyncgenfunction isawaitable isbuiltin isclass iscode iscoroutine iscoroutinefunction
  isdatadescriptor isframe isfunction isgenerator isgeneratorfunction isgetsetdescriptor
  ismemberdescriptor ismethod ismethoddescriptor ismethodwrapper ismodule isroutine istraceback
  signature stack trace unwrap walktree"]),
  ("operator", ["takes _operator", "builtins __abs__=_operator:abs __add__=_operator:add
  __and__=_operator:and_ __call__=_operator:call __concat__=_operator:concat
  __contains__=_operator:contains __delitem__=_operator:delitem __eq__=_operator:eq
  __floordiv__=_operator:floordiv __ge__=_operator:ge __getitem__=_operator:getitem
  __gt__=_operator:gt __iadd__=_operator:iadd __iand__=_operator:iand __iconcat__=_operator:iconcat
  __ifloordiv__=_operator:ifloordiv __ilshift__=_operator:ilshift __imatmul__=_operator:imatmul
  __imod__=_operator:imod __imul__=_operator:imul __index__=_operator:index __inv__=_operator:inv
  __invert__=_operator:invert __ior__=_operator:ior __ipow__=_operator:ipow
  __irshift__=_operator:irshift __isub__=_operator:isub __itruediv__=_operator:itruediv
  __ixor__=_operator:ixor __le__=_operator:le __lshift__=_operator:lshift __lt__=_operator:lt
  __matmul__=_operator:matmul __mod__=_operator:mod __mul__=_operator:mul __ne__=_operator:ne
  __neg__=_operator:neg __not__=_operator:not_ __or__=_operator:or_ __pos__=_operator:pos
  __pow__=_operator:pow __rshift__=_operator:rshift __setitem__=_operator:setitem
  __sub__=_operator:sub __truediv__=_operator:truediv __xor__=_operator:xor _abs=builtins:abs",
  "exports abs add and_ attrgetter call concat contains countOf delitem eq floordiv ge getitem gt
  iadd iand iconcat ifloordiv ilshift imatmul imod imul index indexOf inv invert ior ipow irshift
  is_ is_not isub itemgetter itruediv ixor le length_hint lshift lt matmul methodcaller mod mul ne
  neg not_ or_ pos pow rshift setitem sub truediv truth xor"]),
  ("reprlib", ["functions _possibly_sorted recursive_repr", "builtins get_ident=_thread:",
  "classes Repr islice=itertools.", "objects repr=method", "holders aRepr=reprlib.Repr",
  "modules builtins=", "exports Repr repr recursive_repr", "part aRepr.fillvalue '...'",
  "part aRepr.maxarray 5", "part aRepr.maxdeque 6", "part aRepr.maxdict 4",
  "part aRepr.maxfrozenset 6", "part aRepr.maxlevel 6", "part aRepr.maxlist 6",
  "part aRepr.maxlong 40", "part aRepr.maxother 30", "part aRepr.maxset 6",
  "part aRepr.maxstring 30", "part aRepr.maxtuple 6"]),
  ("sched", ["functions namedtuple=collections:", "builtins _time=time:monotonic", "classes Event
  count=itertools. scheduler", "objects _sentinel=object", "modules heapq= threading= time=",
  "exports scheduler"]),
  ("site", ["frozen", "functions _get_path _getuserbase _init_pathinfo _script _trace abs_paths
  addpackage addsitedir addsitepackages addusersitepackages check_enableusersite enablerlcompleter
  execsitecustomize execusercustomize getsitepackages getuserbase getusersitepackages main makepath
  removeduppaths setcopyright sethelper setquit venv", "modules _sitebuiltins= builtins= io= os=
  sys=", "constant ENABLE_USER_SITE None", "constant PREFIXES ['/usr', '/usr']",
  "constant USER_BASE None", "constant USER_SITE None"]),
  ("sys", ["built-in", "builtins __breakpointhook__=sys:breakpointhook
  __displayhook__=sys:displayhook __excepthook__=sys:excepthook
  __unraisablehook__=sys:unraisablehook _clear_type_cache _current_exceptions _current_frames
  _debugmallocstats _getframe _getquickenedcount addaudithook audit breakpointhook call_tracing
  displayhook exc_info excepthook exception exit get_asyncgen_hooks
  get_coroutine_origin_tracking_depth get_int_max_str_digits getallocatedblocks getdefaultencoding
  getdlopenflags getfilesystemencodeerrors getfilesystemencoding getprofile getrecursionlimit
  getrefcount getsizeof getswitchinterval gettrace intern is_finalizing set_asyncgen_hooks
  set_coroutine_origin_tracking_depth set_int_max_str_digits setdlopenflags setprofile
  setrecursionlimit setswitchinterval settrace unraisablehook",
  "objects __stderr__=_io.TextIOWrapper __stdin__=_io.TextIOWrapper __stdout__=_io.TextIOWrapper
  stderr=_io.TextIOWrapper stdin=_io.TextIOWrapper stdlib_module_names=frozenset
  stdout=_io.TextIOWrapper", "numbers api_version=1013 hexversion=51053296
  maxsize=9223372036854775807 maxunicode=1114111", "constant _framework ''",
  "constant _stdlib_dir '/usr/lib/python3.11'", "constant _xoptions \x7b\x7d",
  "constant abiflags ''", "constant base_exec_prefix '/usr'", "constant base_prefix '/usr'",
  "constant builtin_module_names ('_abc', '_ast', '_bisect', '_blake2', '_codecs', '_collectio",
  "|ns', '_csv', '_datetime', '_elementtree', '_functools', '_heapq', '_imp', '_io', '_locale'",
  "|, '_md5', '_operator', '_pickle', '_posixsubprocess', '_random', '_sha1', '_sha256', '_sha",
  "|3', '_sha512', '_signal', '_socket', '_sre', '_stat', '_statistics', '_string', '_struct',",
  "| '_symtable', '_thread', '_tracemalloc', '_warnings', '_weakref', 'array', 'atexit', 'bina",
  "|scii', 'builtins', 'cmath', 'errno', 'faulthandler', 'fcntl', 'gc', 'grp', 'itertools', 'm",
  "|arshal', 'math', 'posix', 'pwd', 'pyexpat', 'select', 'spwd', 'sys', 'syslog', 'time', 'un",
  "|icodedata', 'xxsubtype', 'zlib')", "constant byteorder 'little'",
  "constant copyright 'C\\x6fpyright (\\x63) 2001-2023 Python Software Foundation.\\nAll Right",
  "|s Reserved.\\n\\nC\\x6fpyright (\\x63) 2000 BeOpen.com.\\nAll Rights Reserved.\\n\\nC\\x6f",
  "|pyright (\\x63) 1995-2001 Corporation for National Research Initiatives.\\nAll Rights Rese",
  "|rved.\\n\\nC\\x6fpyright (\\x63) 1991-1995 Stichting Mathematisch Centrum, Amsterdam.\\nAl",
  "|l Rights Reserved.'", "constant dont_write_bytecode False", "constant exec_prefix '/usr'",
  "constant flags=sys.flags (0, 0, 0, 0, 0, 0, 0, 0, 0, 0, 0, 1, 0, False, 0, 0, False, 4300)",
  "constant float_info=sys.float_info (1.7976931348623157e+308, 1024, 308, 2.2250738585072014e",
  "|-308, -1021, -307, 15, 53, 2.220446049250313e-16, 2, 1)", "constant float_repr_style 'short'",
  "constant hash_info=sys.hash_info (64, 2305843009213693951, 314159, 0, 1000003, 'siphash13',",
  "| 64, 128, 0)",
  "constant implementation=types.SimpleNamespace (\x7b'name': 'cpython', 'cache_tag': 'cpython",
  "|-311', 'version': object('sys.version_info'), 'hexversion': 51053296, '_multiarch': 'x86_6",
  "|4-linux-gnu'\x7d,)", "constant int_info=sys.int_info (30, 4, 4300, 640)",
  "constant meta_path [_frozen_importlib.BuiltinImporter, _frozen_importlib.FrozenImporter, _f",
  "|rozen_importlib_external.PathFinder]",
  "constant path_hooks [zipimport.zipimporter, function(...)]", "constant platform 'linux'",
  "constant platlibdir 'lib'", "constant prefix '/usr'", "constant pycache_prefix None",
  "constant thread_info=sys.thread_info ('pthread', 'semaphore', 'NPTL 2.36')",
  "constant version '3.11.2 (main, Apr 28 2025, 14:11:48) [GCC 12.2.0]'",
  "constant version_info=sys.version_info (3, 11, 2, 'final', 0)", "constant warnoptions []"]),
  ("traceback", ["functions _byte_offset_to_character_offset _display_width
  _extract_caret_anchors_from_line_segment _format_final_exc_line _get_code_position _parse_value_tb
  _safe_string _walk_tb_with_full_positions clear_frames extract_stack extract_tb format_exc
  format_exception format_exception_only format_list format_stack format_tb print_exc
  print_exception print_last print_list print_stack print_tb walk_stack walk_tb",
  "classes FrameSummary StackSummary TracebackException _Anchors _ExceptionPrintContext _Sentinel
  suppress=contextlib.", "objects _sentinel=traceback._Sentinel", "modules collections= itertools=
  linecache= sys= textwrap=", "numbers _RECURSIVE_CUTOFF=3", "constant _WIDE_CHAR_SPECIFIERS 'WF'",
  "constant _cause_message '\\nThe above exception was the direct cause of the following excep",
  "|tion:\\n\\n'",
  "constant _context_message '\\nDuring handling of the above exception, another exception occ",
  "|urred:\\n\\n'", "exports extract_stack extract_tb format_exception format_exception_only
  format_list format_stack format_tb print_exc format_exc print_exception print_last print_stack
  print_tb clear_frames FrameSummary StackSummary TracebackException walk_stack walk_tb"]),
  ("types", ["functions _calculate_meta _cell_factory coroutine new_class prepare_class
  resolve_bases", "classes AsyncGeneratorType=async_generator
  BuiltinFunctionType=builtin_function_or_method BuiltinMethodType=builtin_function_or_method
  CellType=cell ClassMethodDescriptorType=classmethod_descriptor CodeType=code
  CoroutineType=coroutine DynamicClassAttribute EllipsisType=ellipsis FrameType=frame
  FunctionType=function GeneratorType=generator GenericAlias GetSetDescriptorType=getset_descriptor
  LambdaType=function MappingProxyType=mappingproxy MemberDescriptorType=member_descriptor
  MethodDescriptorType=method_descriptor MethodType=method MethodWrapperType=method-wrapper
  ModuleType=module NoneType= NotImplementedType= SimpleNamespace TracebackType=traceback UnionType
  WrapperDescriptorType=wrapper_descriptor _GeneratorWrapper", "exports FunctionType LambdaType
  CodeType MappingProxyType SimpleNamespace CellType GeneratorType CoroutineType AsyncGeneratorType
  MethodType BuiltinFunctionType BuiltinMethodType WrapperDescriptorType MethodWrapperType
  MethodDescriptorType ClassMethodDescriptorType ModuleType TracebackType FrameType
  GetSetDescriptorType MemberDescriptorType new_class resolve_bases prepare_class
  DynamicClassAttribute coroutine GenericAlias UnionType EllipsisType NoneType
  NotImplementedType"]),
  ("typing", ["functions NamedTuple TypedDict _allow_reckless_class_checks _caller _check_generic
  _collect_parameters _compare_args_orderless _deduplicate _deduplicate_unhashable _eval_type
  _flatten_literal_params _get_protocol_attrs _is_callable_members_only _is_dunder _is_param_expr
  _is_typevar_like _is_unpacked_typevartuple _make_nmtuple _namedtuple_mro_entries
  _no_init_or_replace_init _overload_dummy _remove_dups_flatten _should_unflatten_callable_args
  _strip_annotations _tp_cache _type_check _type_convert _type_repr _unpack_args
  _value_and_type_iter abstractmethod=abc: assert_never assert_type cast clear_overloads
  dataclass_transform final get_args get_origin get_overloads get_type_hints is_typeddict
  no_type_check no_type_check_decorator overload reveal_type runtime_checkable",
  "builtins _idfunc=_typing:", "classes ABCMeta=abc. Annotated Any BinaryIO ForwardRef Generic
  GenericAlias=types. IO MethodDescriptorType=method_descriptor MethodWrapperType=method-wrapper
  NamedTupleMeta NewType ParamSpec ParamSpecArgs ParamSpecKwargs Protocol SupportsAbs SupportsBytes
  SupportsComplex SupportsFloat SupportsIndex SupportsInt SupportsRound Text=str TextIO TypeVar
  TypeVarTuple WrapperDescriptorType=wrapper_descriptor _AnnotatedAlias _AnyMeta _BaseGenericAlias
  _BoundVarianceMixin _CallableGenericAlias _CallableType _ConcatenateGenericAlias _DeprecatedType
  _Final _GenericAlias _Immutable _LiteralGenericAlias _LiteralSpecialForm
  _NamedTuple=typing.NamedTuple _NotIterable _PickleUsingNameMixin _ProtocolMeta _SpecialForm
  _SpecialGenericAlias _TupleType _TypedDict=typing.TypedDict _TypedDictMeta _TypingEllipsis
  _UnionGenericAlias _UnpackGenericAlias _alias=typing._SpecialGenericAlias defaultdict=collections.
  io re", "objects AbstractSet=typing._SpecialGenericAlias AnyStr=typing.TypeVar
  AsyncContextManager=typing._SpecialGenericAlias AsyncGenerator=typing._SpecialGenericAlias
  AsyncIterable=typing._SpecialGenericAlias AsyncIterator=typing._SpecialGenericAlias
  Awaitable=typing._SpecialGenericAlias ByteString=typing._SpecialGenericAlias CT_co=typing.TypeVar
  Callable=typing._CallableType ChainMap=typing._SpecialGenericAlias ClassVar=typing._SpecialForm
  Collection=typing._SpecialGenericAlias Concatenate=typing._SpecialForm
  Container=typing._SpecialGenericAlias ContextManager=typing._SpecialGenericAlias
  Coroutine=typing._SpecialGenericAlias Counter=typing._SpecialGenericAlias
  DefaultDict=typing._SpecialGenericAlias Deque=typing._SpecialGenericAlias
  Dict=typing._SpecialGenericAlias Final=typing._SpecialForm FrozenSet=typing._SpecialGenericAlias
  Generator=typing._SpecialGenericAlias Hashable=typing._SpecialGenericAlias
  ItemsView=typing._SpecialGenericAlias Iterable=typing._SpecialGenericAlias
  Iterator=typing._SpecialGenericAlias KT=typing.TypeVar KeysView=typing._SpecialGenericAlias
  List=typing._SpecialGenericAlias Literal=typing._LiteralSpecialForm
  LiteralString=typing._SpecialForm Mapping=typing._SpecialGenericAlias
  MappingView=typing._SpecialGenericAlias Match=typing._SpecialGenericAlias
  MutableMapping=typing._SpecialGenericAlias MutableSequence=typing._SpecialGenericAlias
  MutableSet=typing._SpecialGenericAlias Never=typing._SpecialForm NoReturn=typing._SpecialForm
  NotRequired=typing._SpecialForm Optional=typing._SpecialForm
  OrderedDict=typing._SpecialGenericAlias Pattern=typing._SpecialGenericAlias
  Required=typing._SpecialForm Reversible=typing._SpecialGenericAlias Self=typing._SpecialForm
  Sequence=typing._SpecialGenericAlias Set=typing._SpecialGenericAlias
  Sized=typing._SpecialGenericAlias T=typing.TypeVar T_co=typing.TypeVar T_contra=typing.TypeVar
  Tuple=typing._TupleType Type=typing._SpecialGenericAlias TypeAlias=typing._SpecialForm
  TypeGuard=typing._SpecialForm Union=typing._SpecialForm Unpack=typing._SpecialForm
  VT=typing.TypeVar VT_co=typing.TypeVar V_co=typing.TypeVar ValuesView=typing._SpecialGenericAlias
  _overload_registry=collections.defaultdict _prohibited=frozenset _special=frozenset",
  "modules collections= contextlib= functools= operator= stdlib_re=re sys= types= warnings=",
  "numbers _ASSERT_NEVER_REPR_MAX_LENGTH=100",
  "constant EXCLUDED_ATTRIBUTES ['__parameters__', '__orig_bases__', '__orig_class__', '_is_pr",
  "|otocol', '_is_runtime_protocol', '__final__', '__abstractmethods__', '__annotations__', '_",
  "|_dict__', '__doc__', '__init__', '__module__', '__new__', '__slots__', '__subclasshook__',",
  "| '__weakref__', '__class_getitem__', '_MutableMapping__marker']",
  "constant TYPE_CHECKING False",
  "constant _PROTO_ALLOWLIST \x7b'collections.abc': ['Callable', 'Awaitable', 'Iterable', 'Ite",
  "|rator', 'AsyncIterable', 'Hashable', 'Sized', 'Container', 'Collection', 'Reversible'], 'c",
  "|ontextlib': ['AbstractContextManager', 'AbstractAsyncContextManager']\x7d",
  "constant _SPECIAL_NAMES ['__abstractmethods__', '__annotations__', '__dict__', '__doc__', '",
  "|__init__', '__module__', '__new__', '__slots__', '__subclasshook__', '__weakref__', '__cla",
  "|ss_getitem__']",
  "constant _TYPING_INTERNALS ['__parameters__', '__orig_bases__', '__orig_class__', '_is_prot",
  "|ocol', '_is_runtime_protocol', '__final__']",
  "constant _allowed_types (function, builtin_function_or_method, method, module, wrapper_desc",
  "|riptor, type('method-wrapper'), method_descriptor)",
  "constant _cleanups [builtin_function_or_method(...), builtin_function_or_method(...), built",
  "|in_function_or_method(...), builtin_function_or_method(...), builtin_function_or_method(..",
  "|.), builtin_function_or_method(...), builtin_function_or_method(...), builtin_function_or_",
  "|method(...)]", "exports Annotated Any Callable ClassVar Concatenate Final ForwardRef Generic
  Literal Optional ParamSpec Protocol Tuple Type TypeVar TypeVarTuple Union AbstractSet ByteString
  Container ContextManager Hashable ItemsView Iterable Iterator KeysView Mapping MappingView
  MutableMapping MutableSequence MutableSet Sequence Sized ValuesView Awaitable AsyncIterator
  AsyncIterable Coroutine Collection AsyncGenerator AsyncContextManager Reversible SupportsAbs
  SupportsBytes SupportsComplex SupportsFloat SupportsIndex SupportsInt SupportsRound ChainMap
  Counter Deque Dict DefaultDict List OrderedDict Set FrozenSet NamedTuple TypedDict Generator
  BinaryIO IO Match Pattern TextIO AnyStr assert_type assert_never cast clear_overloads
  dataclass_transform final get_args get_origin get_overloads get_type_hints is_typeddict
  LiteralString Never NewType no_type_check no_type_check_decorator NoReturn NotRequired overload
  ParamSpecArgs ParamSpecKwargs Required reveal_type runtime_checkable Self Text TYPE_CHECKING
  TypeAlias TypeGuard Unpack", "part *.__mro_entries__ object('function')", "of NamedTuple
  TypedDict", "part *.__dict__ \x7b'__mro_entries__': object('function')\x7d", "of NamedTuple
  TypedDict"]),
  ("warnings", ["functions _add_filter _deprecated _formatwarning_orig=warnings:formatwarning
  _formatwarnmsg _formatwarnmsg_impl _getaction _getcategory _is_internal_frame _next_external_frame
  _processoptions _setoption _showwarning_orig=warnings:showwarning _showwarnmsg _showwarnmsg_impl
  _warn_unawaited_coroutine filterwarnings formatwarning resetwarnings showwarning simplefilter",
  "builtins _filters_mutated=_warnings: warn=_warnings: warn_explicit=_warnings:",
  "classes WarningMessage _OptionError catch_warnings", "modules sys=",
  "constant _DEPRECATED_MSG '\x7bname!r\x7d is deprecated and slated for removal in Python ",
  "|\x7bremove\x7d'", "constant _defaultaction 'default'", "constant _onceregistry \x7b\x7d",
  "constant defaultaction 'default'", "constant onceregistry \x7b\x7d", "exports warn warn_explicit
  showwarning formatwarning filterwarnings simplefilter resetwarnings catch_warnings",
  "same filters=_warnings."]),
  ("weakref", ["builtins _remove_dead_weakref=_weakref: getweakrefcount=_weakref:
  getweakrefs=_weakref: proxy=_weakref:", "classes CallableProxyType KeyedRef ProxyType
  ReferenceType WeakKeyDictionary WeakMethod WeakSet=_weakrefset. WeakValueDictionary
  _IterationGuard=_weakrefset. finalize ref=weakref.ReferenceType", "modules _collections_abc=
  itertools= sys=", "constant ProxyTypes (weakref.ProxyType, weakref.CallableProxyType)",
  "exports ref proxy getweakrefcount getweakrefs WeakKeyDictionary ReferenceType ProxyType
  CallableProxyType ProxyTypes WeakValueDictionary WeakSet WeakMethod finalize"])]

/-- The classes for the language itself. -/
def coreClasses : List (String × List String) := [
  ("ArithmeticError", ["below Exception", "sealed", "builtins __new__", "operations __init__"]),
  ("AssertionError", ["below Exception", "sealed", "builtins __new__", "operations __init__"]),
  ("AttributeError", ["below Exception", "sealed", "operations __str__ __init__", "slots name
  obj"]),
  ("BaseException", ["sealed", "open __dict__", "builtins __new__", "operations __repr__ __str__
  __getattribute__ __setattr__ __delattr__ __init__", "methods __reduce__ __setstate__
  with_traceback add_note", "fields args __traceback__ __context__ __cause__",
  "slots __suppress_context__"]),
  ("BaseExceptionGroup", ["below BaseException", "sealed", "builtins __new__", "operations __str__
  __init__", "methods derive split subgroup", "class-builtins __class_getitem__", "slots message
  exceptions"]),
  ("BlockingIOError", ["below OSError", "sealed", "operations __init__"]),
  ("BrokenPipeError", ["below ConnectionError", "sealed", "operations __init__"]),
  ("BufferError", ["below Exception", "sealed", "builtins __new__", "operations __init__"]),
  ("BytesWarning", ["below Warning", "sealed", "builtins __new__", "operations __init__"]),
  ("ChildProcessError", ["below OSError", "sealed", "operations __init__"]),
  ("ConnectionAbortedError", ["below ConnectionError", "sealed", "operations __init__"]),
  ("ConnectionError", ["below OSError", "sealed", "operations __init__"]),
  ("ConnectionRefusedError", ["below ConnectionError", "sealed", "operations __init__"]),
  ("ConnectionResetError", ["below ConnectionError", "sealed", "operations __init__"]),
  ("DeprecationWarning", ["below Warning", "sealed", "builtins __new__", "operations __init__"]),
  ("EOFError", ["below Exception", "sealed", "builtins __new__", "operations __init__"]),
  ("EncodingMap", ["sealed", "methods size", "silent"]),
  ("EncodingWarning", ["below Warning", "sealed", "builtins __new__", "operations __init__"]),
  ("Exception", ["below BaseException", "sealed", "builtins __new__", "operations __init__"]),
  ("ExceptionGroup", ["above BaseExceptionGroup Exception BaseException object", "open __weakref__",
  "silent"]),
  ("FileExistsError", ["below OSError", "sealed", "operations __init__"]),
  ("FileNotFoundError", ["below OSError", "sealed", "operations __init__"]),
  ("FloatingPointError", ["below ArithmeticError", "sealed", "builtins __new__",
  "operations __init__"]),
  ("FutureWarning", ["below Warning", "sealed", "builtins __new__", "operations __init__"]),
  ("GeneratorExit", ["below BaseException", "sealed", "builtins __new__", "operations __init__"]),
  ("ImportError", ["below Exception", "sealed", "operations __str__ __init__", "methods __reduce__",
  "slots msg name path"]),
  ("ImportWarning", ["below Warning", "sealed", "builtins __new__", "operations __init__"]),
  ("IndentationError", ["below SyntaxError", "sealed", "operations __init__"]),
  ("IndexError", ["below LookupError", "sealed", "builtins __new__", "operations __init__"]),
  ("InterruptedError", ["below OSError", "sealed", "operations __init__"]),
  ("IsADirectoryError", ["below OSError", "sealed", "operations __init__"]),
  ("KeyError", ["below LookupError", "sealed", "operations __str__ __init__"]),
  ("KeyboardInterrupt", ["below BaseException", "sealed", "builtins __new__",
  "operations __init__"]),
  ("LookupError", ["below Exception", "sealed", "builtins __new__", "operations __init__"]),
  ("MemoryError", ["below Exception", "sealed", "builtins __new__", "operations __init__"]),
  ("ModuleNotFoundError", ["below ImportError", "sealed", "operations __init__"]),
  ("NameError", ["below Exception", "sealed", "operations __str__ __init__", "slots name"]),
  ("NoneType", ["sealed", "builtins __new__", "operations __repr__ __bool__", "silent"]),
  ("NotADirectoryError", ["below OSError", "sealed", "operations __init__"]),
  ("NotImplementedError", ["below RuntimeError", "sealed", "builtins __new__",
  "operations __init__"]),
  ("NotImplementedType", ["sealed", "builtins __new__", "operations __repr__ __bool__",
  "methods __reduce__", "silent"]),
  ("OSError", ["below Exception", "sealed", "builtins __new__", "operations __str__ __init__",
  "methods __reduce__", "fields characters_written", "slots errno strerror filename filename2"]),
  ("OverflowError", ["below ArithmeticError", "sealed", "builtins __new__", "operations __init__"]),
  ("PendingDeprecationWarning", ["below Warning", "sealed", "builtins __new__",
  "operations __init__"]),
  ("PermissionError", ["below OSError", "sealed", "operations __init__"]),
  ("ProcessLookupError", ["below OSError", "sealed", "operations __init__"]),
  ("PyCapsule", ["sealed", "operations __repr__"]),
  ("RecursionError", ["below RuntimeError", "sealed", "builtins __new__", "operations __init__"]),
  ("ReferenceError", ["below Exception", "sealed", "builtins __new__", "operations __init__"]),
  ("ResourceWarning", ["below Warning", "sealed", "builtins __new__", "operations __init__"]),
  ("RuntimeError", ["below Exception", "sealed", "builtins __new__", "operations __init__"]),
  ("RuntimeWarning", ["below Warning", "sealed", "builtins __new__", "operations __init__"]),
  ("StopAsyncIteration", ["below Exception", "sealed", "builtins __new__", "operations __init__"]),
  ("StopIteration", ["below Exception", "sealed", "operations __init__", "slots value"]),
  ("SyntaxError", ["below Exception", "sealed", "operations __str__ __init__", "slots msg filename
  lineno offset text end_lineno end_offset print_file_and_line"]),
  ("SyntaxWarning", ["below Warning", "sealed", "builtins __new__", "operations __init__"]),
  ("SystemError", ["below Exception", "sealed", "builtins __new__", "operations __init__"]),
  ("SystemExit", ["below BaseException", "sealed", "operations __init__", "slots code"]),
  ("TabError", ["below IndentationError", "sealed", "operations __init__"]),
  ("TimeoutError", ["below OSError", "sealed", "operations __init__"]),
  ("TypeError", ["below Exception", "sealed", "builtins __new__", "operations __init__"]),
  ("UnboundLocalError", ["below NameError", "sealed", "operations __init__"]),
  ("UnicodeDecodeError", ["below UnicodeError", "sealed", "builtins __new__", "operations __str__
  __init__", "slots encoding object start end reason"]),
  ("UnicodeEncodeError", ["below UnicodeError", "sealed", "builtins __new__", "operations __str__
  __init__", "slots encoding object start end reason"]),
  ("UnicodeError", ["below ValueError", "sealed", "builtins __new__", "operations __init__"]),
  ("UnicodeTranslateError", ["below UnicodeError", "sealed", "builtins __new__", "operations __str__
  __init__", "slots encoding object start end reason"]),
  ("UnicodeWarning", ["below Warning", "sealed", "builtins __new__", "operations __init__"]),
  ("UserWarning", ["below Warning", "sealed", "builtins __new__", "operations __init__"]),
  ("ValueError", ["below Exception", "sealed", "builtins __new__", "operations __init__"]),
  ("Warning", ["below Exception", "sealed", "builtins __new__", "operations __init__"]),
  ("ZeroDivisionError", ["below ArithmeticError", "sealed", "builtins __new__",
  "operations __init__"]),
  ("__future__._Feature", ["open", "functions __init__ getOptionalRelease getMandatoryRelease
  __repr__", "silent"]),
  ("_abc._abc_data", ["shown _abc._abc_data", "builtins __new__"]),
  ("_contextvars.Context", ["shown _contextvars.Context", "sealed", "builtins __new__",
  "operations __getattribute__ __lt__ __le__ __eq__ __ne__ __gt__ __ge__ __iter__ __len__
  __getitem__ __contains__", "methods get items keys values copy run", "constant __hash__ None",
  "silent"]),
  ("_contextvars.ContextVar", ["shown _contextvars.ContextVar", "sealed", "builtins __new__",
  "operations __repr__ __hash__ __getattribute__", "methods get set reset",
  "class-builtins __class_getitem__", "slots name", "silent"]),
  ("_contextvars.Token", ["shown _contextvars.Token", "sealed", "builtins __new__",
  "operations __repr__ __getattribute__", "class-builtins __class_getitem__", "fields var
  old_value", "objects MISSING=Token.", "constant __hash__ None", "silent"]),
  ("_py_abc.ABCMeta", ["below type", "functions register _dump_registry _abc_registry_clear
  _abc_caches_clear __instancecheck__ __subclasscheck__", "statics __new__",
  "numbers _abc_invalidation_counter=0"]),
  ("_sitebuiltins.Quitter", ["open", "functions __init__ __repr__ __call__", "silent"]),
  ("_sitebuiltins._Helper", ["open", "functions __repr__ __call__"]),
  ("_sitebuiltins._Printer", ["open", "functions __init__
  _Printer__setup=_sitebuiltins:_Printer.__setup __repr__ __call__", "numbers MAXLINES=23"]),
  ("_weakrefset.WeakSet", ["open", "functions __init__ _commit_removals __iter__ __len__
  __contains__ __reduce__ add clear copy pop remove discard update __ior__ difference
  __sub__=_weakrefset:WeakSet.difference difference_update __isub__ intersection
  __and__=_weakrefset:WeakSet.intersection intersection_update __iand__ issubset
  __le__=_weakrefset:WeakSet.issubset __lt__ issuperset __ge__=_weakrefset:WeakSet.issuperset __gt__
  __eq__ symmetric_difference __xor__=_weakrefset:WeakSet.symmetric_difference
  symmetric_difference_update __ixor__ union __or__=_weakrefset:WeakSet.union isdisjoint __repr__",
  "class-functions __class_getitem__", "silent", "constant __hash__ None"]),
  ("_weakrefset._IterationGuard", ["open", "functions __init__ __enter__ __exit__", "silent"]),
  ("abc.ABC", ["kind abc.ABCMeta", "constant __slots__ ()"]),
  ("abc.ABCMeta", ["below type", "functions register __instancecheck__ __subclasscheck__
  _dump_registry _abc_registry_clear _abc_caches_clear", "statics __new__"]),
  ("abc.abstractclassmethod", ["below classmethod", "open __weakref__", "functions __init__",
  "constant __isabstractmethod__ True"]),
  ("abc.abstractproperty", ["below property", "open", "constant __isabstractmethod__ True"]),
  ("abc.abstractstaticmethod", ["below staticmethod", "open __weakref__", "functions __init__",
  "constant __isabstractmethod__ True"]),
  ("async_generator", ["sealed", "operations __repr__ __getattribute__ __del__ __aiter__ __anext__",
  "methods asend athrow aclose __sizeof__", "class-builtins __class_getitem__", "fields __name__
  __qualname__ ag_await ag_frame", "slots ag_running ag_code", "silent"]),
  ("bool", ["below int", "sealed", "builtins __new__", "operations __repr__ __and__ __rand__ __xor__
  __rxor__ __or__ __ror__"]),
  ("builtin_function_or_method", ["operations __repr__ __hash__ __call__ __getattribute__ __lt__
  __le__ __eq__ __ne__ __gt__ __ge__", "methods __reduce__", "fields __doc__ __name__ __qualname__
  __self__ __text_signature__"]),
  ("builtin_method", ["below builtin_function_or_method", "sealed", "silent"]),
  ("bytearray", ["sealed", "builtins __new__ maketrans", "operations __repr__ __str__
  __getattribute__ __lt__ __le__ __eq__ __ne__ __gt__ __ge__ __iter__ __init__ __mod__ __rmod__
  __len__ __getitem__ __setitem__ __delitem__ __add__ __mul__ __rmul__ __contains__ __iadd__
  __imul__", "methods __alloc__ __reduce__ __reduce_ex__ __sizeof__ append capitalize center clear
  copy count decode endswith expandtabs extend find hex index insert isalnum isalpha isascii isdigit
  islower isspace istitle isupper join ljust lower lstrip partition pop remove replace removeprefix
  removesuffix reverse rfind rindex rjust rpartition rsplit rstrip split splitlines startswith strip
  swapcase title translate upper zfill", "class-builtins fromhex", "constant __hash__ None"]),
  ("bytearray_iterator", ["sealed", "operations __getattribute__ __iter__ __next__",
  "methods __length_hint__ __reduce__ __setstate__", "silent"]),
  ("bytes", ["sealed", "builtins __new__ maketrans", "operations __repr__ __hash__ __str__
  __getattribute__ __lt__ __le__ __eq__ __ne__ __gt__ __ge__ __iter__ __mod__ __rmod__ __len__
  __getitem__ __add__ __mul__ __rmul__ __contains__", "methods __getnewargs__ __bytes__ capitalize
  center count decode endswith expandtabs find hex index isalnum isalpha isascii isdigit islower
  isspace istitle isupper join ljust lower lstrip partition replace removeprefix removesuffix rfind
  rindex rjust rpartition rsplit rstrip split splitlines startswith strip swapcase title translate
  upper zfill", "class-builtins fromhex"]),
  ("bytes_iterator", ["sealed", "operations __getattribute__ __iter__ __next__",
  "methods __length_hint__ __reduce__ __setstate__", "silent"]),
  ("cell", ["sealed", "builtins __new__", "operations __repr__ __getattribute__ __lt__ __le__ __eq__
  __ne__ __gt__ __ge__", "fields cell_contents", "constant __hash__ None"]),
  ("classmethod", ["sealed", "open __dict__", "builtins __new__", "operations __repr__ __get__
  __init__", "fields __isabstractmethod__", "slots __func__ __wrapped__"]),
  ("classmethod_descriptor", ["sealed", "operations __repr__ __call__ __getattribute__ __get__",
  "fields __doc__ __qualname__ __text_signature__", "slots __objclass__ __name__"]),
  ("code", ["sealed", "builtins __new__", "operations __repr__ __hash__ __getattribute__ __lt__
  __le__ __eq__ __ne__ __gt__ __ge__", "methods __sizeof__ co_lines co_positions replace
  _varname_from_oparg", "fields co_lnotab _co_code_adaptive co_varnames co_cellvars co_freevars
  co_code", "slots co_argcount co_posonlyargcount co_kwonlyargcount co_stacksize co_flags co_nlocals
  co_consts co_names co_filename co_name co_qualname co_firstlineno co_linetable
  co_exceptiontable"]),
  ("complex", ["sealed", "builtins __new__", "operations __repr__ __hash__ __getattribute__ __lt__
  __le__ __eq__ __ne__ __gt__ __ge__ __add__ __radd__ __sub__ __rsub__ __mul__ __rmul__ __pow__
  __rpow__ __neg__ __pos__ __abs__ __bool__ __truediv__ __rtruediv__", "methods conjugate
  __complex__ __getnewargs__ __format__", "slots real imag"]),
  ("contextlib.AbstractAsyncContextManager", ["below abc.ABC", "kind abc.ABCMeta", "open",
  "functions __aenter__ __aexit__", "class-functions __class_getitem__ __subclasshook__",
  "part __aexit__.__isabstractmethod__ True",
  "part __aexit__.__dict__ \x7b'__isabstractmethod__': True\x7d"]),
  ("contextlib.AbstractContextManager", ["below abc.ABC", "kind abc.ABCMeta", "open",
  "functions __enter__ __exit__", "class-functions __class_getitem__ __subclasshook__",
  "part __exit__.__isabstractmethod__ True",
  "part __exit__.__dict__ \x7b'__isabstractmethod__': True\x7d"]),
  ("contextlib.AsyncContextDecorator", ["open", "functions _recreate_cm __call__"]),
  ("contextlib.AsyncExitStack", ["above contextlib._BaseExitStack
  contextlib.AbstractAsyncContextManager abc.ABC object", "kind abc.ABCMeta",
  "functions enter_async_context push_async_exit push_async_callback aclose _push_async_cm_exit
  __aenter__ __aexit__", "statics _create_async_exit_wrapper _create_async_cb_wrapper"]),
  ("contextlib.ContextDecorator", ["open", "functions _recreate_cm __call__"]),
  ("contextlib.ExitStack", ["above contextlib._BaseExitStack contextlib.AbstractContextManager
  abc.ABC object", "kind abc.ABCMeta", "functions __enter__ __exit__ close"]),
  ("contextlib._AsyncGeneratorContextManager", ["above contextlib._GeneratorContextManagerBase
  contextlib.AbstractAsyncContextManager abc.ABC contextlib.AsyncContextDecorator object",
  "kind abc.ABCMeta", "functions __aenter__ __aexit__"]),
  ("contextlib._BaseExitStack", ["open", "functions __init__ pop_all push enter_context callback
  _push_cm_exit _push_exit_callback", "statics _create_exit_wrapper _create_cb_wrapper"]),
  ("contextlib._GeneratorContextManager", ["above contextlib._GeneratorContextManagerBase
  contextlib.AbstractContextManager abc.ABC contextlib.ContextDecorator object", "kind abc.ABCMeta",
  "functions __enter__ __exit__"]),
  ("contextlib._GeneratorContextManagerBase", ["open", "functions __init__ _recreate_cm"]),
  ("contextlib._RedirectStream", ["below contextlib.AbstractContextManager", "kind abc.ABCMeta",
  "functions __init__ __enter__ __exit__", "constant _stream None", "silent"]),
  ("contextlib.aclosing", ["below contextlib.AbstractAsyncContextManager", "kind abc.ABCMeta",
  "functions __init__ __aenter__ __aexit__"]),
  ("contextlib.chdir", ["below contextlib.AbstractContextManager", "kind abc.ABCMeta",
  "functions __init__ __enter__ __exit__"]),
  ("contextlib.closing", ["below contextlib.AbstractContextManager", "kind abc.ABCMeta",
  "functions __init__ __enter__ __exit__"]),
  ("contextlib.nullcontext", ["above contextlib.AbstractContextManager
  contextlib.AbstractAsyncContextManager abc.ABC object", "kind abc.ABCMeta", "functions __init__
  __enter__ __exit__ __aenter__ __aexit__"]),
  ("contextlib.redirect_stderr", ["below contextlib._RedirectStream", "kind abc.ABCMeta",
  "constant _stream 'stderr'"]),
  ("contextlib.redirect_stdout", ["below contextlib._RedirectStream", "kind abc.ABCMeta",
  "constant _stream 'stdout'"]),
  ("contextlib.suppress", ["below contextlib.AbstractContextManager", "kind abc.ABCMeta",
  "functions __init__ __enter__ __exit__"]),
  ("copy.Error", ["below Exception", "open __weakref__", "silent"]),
  ("coroutine", ["sealed", "operations __repr__ __getattribute__ __del__ __await__", "methods send
  throw close __sizeof__", "fields __name__ __qualname__ cr_await cr_running cr_frame cr_suspended",
  "slots cr_code cr_origin", "silent"]),
  ("dataclasses.Field", ["functions __init__ __repr__ __set_name__",
  "class-functions __class_getitem__", "slots _field_type compare default default_factory hash init
  kw_only metadata name repr type",
  "constant __slots__ ('name', 'type', 'default', 'default_factory', 'repr', 'hash', 'init', '",
  "|compare', 'metadata', 'kw_only', '_field_type')", "silent",
  "part __repr__.__wrapped__ object('function')",
  "part __repr__.__dict__ \x7b'__wrapped__': object('function')\x7d"]),
  ("dataclasses.FrozenInstanceError", ["below AttributeError", "open __weakref__", "silent"]),
  ("dataclasses.InitVar", ["functions __init__ __repr__", "class-functions __class_getitem__",
  "slots type", "constant __slots__ ('type',)", "silent"]),
  ("dataclasses._DataclassParams", ["functions __init__ __repr__", "slots eq frozen init order repr
  unsafe_hash", "constant __slots__ ('init', 'repr', 'eq', 'order', 'unsafe_hash', 'frozen')",
  "silent"]),
  ("dataclasses._FIELD_BASE", ["open", "functions __init__ __repr__", "silent"]),
  ("dataclasses._HAS_DEFAULT_FACTORY_CLASS", ["open", "functions __repr__", "silent"]),
  ("dataclasses._KW_ONLY_TYPE", ["open", "silent"]),
  ("dataclasses._MISSING_TYPE", ["open", "silent"]),
  ("dict", ["sealed", "builtins __new__", "operations __repr__ __getattribute__ __lt__ __le__ __eq__
  __ne__ __gt__ __ge__ __iter__ __init__ __or__ __ror__ __ior__ __len__ __setitem__ __delitem__",
  "methods __getitem__ __contains__ __sizeof__ get setdefault pop popitem keys items values update
  clear copy __reversed__", "class-builtins fromkeys __class_getitem__", "constant __hash__ None"]),
  ("dict_itemiterator", ["sealed", "operations __getattribute__ __iter__ __next__",
  "methods __length_hint__ __reduce__", "silent"]),
  ("dict_items", ["sealed", "operations __repr__ __getattribute__ __lt__ __le__ __eq__ __ne__ __gt__
  __ge__ __iter__ __sub__ __rsub__ __and__ __rand__ __xor__ __rxor__ __or__ __ror__ __len__
  __contains__", "methods isdisjoint __reversed__", "fields mapping", "silent",
  "constant __hash__ None"]),
  ("dict_keyiterator", ["sealed", "operations __getattribute__ __iter__ __next__",
  "methods __length_hint__ __reduce__", "silent"]),
  ("dict_keys", ["sealed", "operations __repr__ __getattribute__ __lt__ __le__ __eq__ __ne__ __gt__
  __ge__ __iter__ __sub__ __rsub__ __and__ __rand__ __xor__ __rxor__ __or__ __ror__ __len__
  __contains__", "methods isdisjoint __reversed__", "fields mapping", "silent",
  "constant __hash__ None"]),
  ("dict_valueiterator", ["sealed", "operations __getattribute__ __iter__ __next__",
  "methods __length_hint__ __reduce__", "silent"]),
  ("dict_values", ["sealed", "operations __repr__ __getattribute__ __iter__ __len__",
  "methods __reversed__", "fields mapping", "silent"]),
  ("ellipsis", ["sealed", "builtins __new__", "operations __repr__ __getattribute__",
  "methods __reduce__", "silent"]),
  ("enum.Enum", ["kind enum.EnumType", "open", "functions __init__ _generate_next_value_ __repr__
  __str__ __dir__ __format__ __hash__ __reduce_ex__ __deepcopy__ __copy__
  _new_member_=enum:Enum.__new__", "class-functions _missing_", "statics __new__", "properties name
  value", "classes _member_type_=object", "constant _use_args_ False",
  "constant _unhashable_values_ []", "constant _value_repr_ None"]),
  ("enum.EnumCheck", ["below enum.StrEnum", "kind enum.EnumType",
  "functions _generate_next_value_=enum:StrEnum._generate_next_value_ __new__=enum:Enum.__new__",
  "builtins _new_member_", "operations _value_repr_ __str__", "methods __format__",
  "classes _member_type_=str", "constant _use_args_ True", "constant _unhashable_values_ []",
  "value CONTINUOUS 'no skipped integer values'",
  "value NAMED_FLAGS 'multi-flag aliases may not contain unnamed flags'",
  "value UNIQUE 'one name per value'", "style plain value"]),
  ("enum.EnumType", ["below type", "functions __bool__ __call__ __contains__ __delattr__ __dir__
  __getattr__ __getitem__ __iter__ __len__ __repr__ __reversed__ __setattr__ _create_ _convert_",
  "class-functions __prepare__ _check_for_existing_members_ _get_mixins_ _find_data_repr_
  _find_data_type_ _find_new_", "statics __new__", "properties __members__"]),
  ("enum.Flag", ["below enum.Enum", "kind enum.EnumType", "functions _generate_next_value_
  __contains__ __iter__ __len__ __repr__ __str__ __bool__ _get_value __or__ __and__ __xor__
  __invert__ __rand__=enum:Flag.__and__ __ror__=enum:Flag.__or__ __rxor__=enum:Flag.__xor__
  __new__=enum:Enum.__new__", "builtins _numeric_repr_ _new_member_",
  "class-functions _iter_member_by_value_ _iter_member_=enum:Flag._iter_member_by_value_
  _iter_member_by_def_ _missing_", "classes _member_type_=object",
  "members _boundary_=enum.FlagBoundary.STRICT", "numbers _flag_mask_=0 _singles_mask_=0
  _all_bits_=0", "constant _use_args_ False", "constant _unhashable_values_ []",
  "constant _value_repr_ None", "constant _inverted_ None"]),
  ("enum.FlagBoundary", ["below enum.StrEnum", "kind enum.EnumType",
  "functions _generate_next_value_=enum:StrEnum._generate_next_value_
  _new_member_=enum:StrEnum.__new__ __new__=enum:Enum.__new__", "operations _value_repr_ __str__",
  "methods __format__", "classes _member_type_=str", "constant _use_args_ True",
  "constant _unhashable_values_ []", "value STRICT 'strict'", "value CONFORM 'conform'",
  "value EJECT 'eject'", "value KEEP 'keep'", "style plain value"]),
  ("enum.IntEnum", ["above int enum.ReprEnum enum.Enum object", "kind enum.EnumType",
  "open __dict__", "functions _generate_next_value_=enum:Enum._generate_next_value_
  __repr__=enum:Enum.__repr__ __new__=enum:Enum.__new__", "builtins _new_member_",
  "operations _value_repr_ __str__", "methods __format__", "classes _member_type_=int",
  "constant _use_args_ True", "constant _unhashable_values_ []"]),
  ("enum.IntFlag", ["above int enum.ReprEnum enum.Flag enum.Enum object", "kind enum.EnumType",
  "open __dict__", "functions _generate_next_value_=enum:Flag._generate_next_value_
  __repr__=enum:Flag.__repr__ __or__=enum:Flag.__or__ __and__=enum:Flag.__and__
  __xor__=enum:Flag.__xor__ __ror__=enum:Flag.__or__ __rand__=enum:Flag.__and__
  __rxor__=enum:Flag.__xor__ __invert__=enum:Flag.__invert__ __new__=enum:Enum.__new__",
  "builtins _new_member_", "operations _value_repr_ __str__", "methods __format__",
  "classes _member_type_=int", "members _boundary_=enum.FlagBoundary.KEEP", "numbers _flag_mask_=0
  _singles_mask_=0 _all_bits_=0", "constant _use_args_ True", "constant _unhashable_values_ []",
  "constant _inverted_ None"]),
  ("enum.ReprEnum", ["below enum.Enum", "kind enum.EnumType",
  "functions _generate_next_value_=enum:Enum._generate_next_value_ __new__=enum:Enum.__new__",
  "builtins _new_member_", "classes _member_type_=object", "constant _use_args_ False",
  "constant _unhashable_values_ []", "constant _value_repr_ None"]),
  ("enum.StrEnum", ["above str enum.ReprEnum enum.Enum object", "kind enum.EnumType", "open",
  "functions _generate_next_value_ __new__=enum:Enum.__new__ _new_member_=enum:StrEnum.__new__
  __repr__=enum:Enum.__repr__ __new_member__=enum:StrEnum.__new__", "operations _value_repr_
  __str__", "methods __format__", "classes _member_type_=str", "constant _use_args_ True",
  "constant _unhashable_values_ []"]),
  ("enum._EnumDict", ["below dict", "open", "functions __init__ __setitem__ update"]),
  ("enum._auto_null", ["open", "functions __repr__", "silent"]),
  ("enum._proto_member", ["open", "functions __init__ __set_name__"]),
  ("enum.auto", ["open", "functions __init__ __repr__"]),
  ("enum.member", ["open", "functions __init__"]),
  ("enum.nonmember", ["open", "functions __init__"]),
  ("enum.property", ["below types.DynamicClassAttribute", "functions __get__ __set__ __delete__
  __set_name__"]),
  ("enum.verify", ["open", "functions __init__ __call__"]),
  ("enumerate", ["sealed", "builtins __new__", "operations __getattribute__ __iter__ __next__",
  "methods __reduce__", "class-builtins __class_getitem__"]),
  ("filter", ["sealed", "builtins __new__", "operations __getattribute__ __iter__ __next__",
  "methods __reduce__"]),
  ("float", ["sealed", "builtins __new__", "operations __repr__ __hash__ __getattribute__ __lt__
  __le__ __eq__ __ne__ __gt__ __ge__ __add__ __radd__ __sub__ __rsub__ __mul__ __rmul__ __mod__
  __rmod__ __divmod__ __rdivmod__ __pow__ __rpow__ __neg__ __pos__ __abs__ __bool__ __int__
  __float__ __floordiv__ __rfloordiv__ __truediv__ __rtruediv__", "methods conjugate __trunc__
  __floor__ __ceil__ __round__ as_integer_ratio hex is_integer __getnewargs__ __format__",
  "class-builtins fromhex __getformat__", "fields real imag"]),
  ("frame", ["sealed", "operations __repr__ __getattribute__ __setattr__ __delattr__",
  "methods clear __sizeof__", "fields f_back f_locals f_lineno f_trace f_lasti f_globals f_builtins
  f_code", "slots f_trace_lines f_trace_opcodes", "silent"]),
  ("frozenset", ["sealed", "builtins __new__", "operations __repr__ __hash__ __getattribute__ __lt__
  __le__ __eq__ __ne__ __gt__ __ge__ __iter__ __sub__ __rsub__ __and__ __rand__ __xor__ __rxor__
  __or__ __ror__ __len__", "methods __contains__ copy difference intersection isdisjoint issubset
  issuperset __reduce__ __sizeof__ symmetric_difference union",
  "class-builtins __class_getitem__"]),
  ("function", ["open __dict__", "builtins __new__", "operations __repr__ __call__ __get__",
  "fields __code__ __defaults__ __kwdefaults__ __annotations__ __name__ __qualname__",
  "slots __closure__ __doc__ __globals__ __builtins__"]),
  ("functools.CacheInfo", ["below tuple", "functions _replace __repr__ _asdict __getnewargs__",
  "class-functions _make", "statics __new__", "objects hits=_collections._tuplegetter
  misses=_collections._tuplegetter maxsize=_collections._tuplegetter
  currsize=_collections._tuplegetter", "constant __slots__ ()",
  "constant _fields ('hits', 'misses', 'maxsize', 'currsize')", "constant _field_defaults \x7b\x7d",
  "constant __match_args__ ('hits', 'misses', 'maxsize', 'currsize')"]),
  ("functools._HashedSeq", ["below list", "functions __init__ __hash__", "slots hashvalue",
  "constant __slots__ 'hashvalue'"]),
  ("functools._lru_cache_wrapper", ["shown functools._lru_cache_wrapper", "open __dict__",
  "builtins __new__", "operations __call__ __get__", "methods cache_info cache_clear __reduce__
  __copy__ __deepcopy__"]),
  ("functools.cached_property", ["open", "functions __init__ __set_name__ __get__",
  "class-functions __class_getitem__", "silent"]),
  ("functools.partial", ["shown functools.partial", "open __dict__", "builtins __new__",
  "operations __repr__ __call__ __getattribute__ __setattr__ __delattr__", "methods __reduce__
  __setstate__", "class-builtins __class_getitem__", "slots func args keywords
  __vectorcalloffset__"]),
  ("functools.partialmethod", ["open", "functions __init__ __repr__ _make_unbound_method __get__",
  "class-functions __class_getitem__", "properties __isabstractmethod__"]),
  ("functools.singledispatchmethod", ["open", "functions __init__ register __get__",
  "properties __isabstractmethod__"]),
  ("generator", ["sealed", "operations __repr__ __getattribute__ __iter__ __next__ __del__",
  "methods send throw close __sizeof__", "fields __name__ __qualname__ gi_yieldfrom gi_running
  gi_frame gi_suspended", "slots gi_code", "silent"]),
  ("getset_descriptor", ["sealed", "operations __repr__ __getattribute__ __get__ __set__
  __delete__", "fields __doc__ __qualname__", "slots __objclass__ __name__"]),
  ("inspect.ArgInfo", ["below tuple", "functions _replace=collections:ArgInfo._replace
  __repr__=collections:ArgInfo.__repr__ _asdict=collections:ArgInfo._asdict
  __getnewargs__=collections:ArgInfo.__getnewargs__",
  "class-functions _make=collections:ArgInfo._make",
  "statics __new__=namedtuple_ArgInfo:ArgInfo.__new__", "objects args=_collections._tuplegetter
  varargs=_collections._tuplegetter keywords=_collections._tuplegetter
  locals=_collections._tuplegetter", "constant __slots__ ()",
  "constant _fields ('args', 'varargs', 'keywords', 'locals')", "constant _field_defaults \x7b\x7d",
  "constant __match_args__ ('args', 'varargs', 'keywords', 'locals')"]),
  ("inspect.Arguments", ["below tuple", "functions _replace=collections:Arguments._replace
  __repr__=collections:Arguments.__repr__ _asdict=collections:Arguments._asdict
  __getnewargs__=collections:Arguments.__getnewargs__",
  "class-functions _make=collections:Arguments._make",
  "statics __new__=namedtuple_Arguments:Arguments.__new__", "objects args=_collections._tuplegetter
  varargs=_collections._tuplegetter varkw=_collections._tuplegetter", "constant __slots__ ()",
  "constant _fields ('args', 'varargs', 'varkw')", "constant _field_defaults \x7b\x7d",
  "constant __match_args__ ('args', 'varargs', 'varkw')"]),
  ("inspect.Attribute", ["below tuple", "functions _replace=collections:Attribute._replace
  __repr__=collections:Attribute.__repr__ _asdict=collections:Attribute._asdict
  __getnewargs__=collections:Attribute.__getnewargs__",
  "class-functions _make=collections:Attribute._make",
  "statics __new__=namedtuple_Attribute:Attribute.__new__", "objects name=_collections._tuplegetter
  kind=_collections._tuplegetter defining_class=_collections._tuplegetter
  object=_collections._tuplegetter", "constant __slots__ ()",
  "constant _fields ('name', 'kind', 'defining_class', 'object')",
  "constant _field_defaults \x7b\x7d",
  "constant __match_args__ ('name', 'kind', 'defining_class', 'object')"]),
  ("inspect.BlockFinder", ["open", "functions __init__ tokeneater"]),
  ("inspect.BoundArguments", ["open __weakref__", "functions __init__ apply_defaults __eq__
  __setstate__ __getstate__ __repr__", "properties signature args kwargs", "slots _signature
  arguments", "constant __slots__ ('arguments', '_signature', '__weakref__')",
  "constant __hash__ None"]),
  ("inspect.ClassFoundException", ["below Exception", "open __weakref__", "silent"]),
  ("inspect.ClosureVars", ["below tuple", "functions _replace=collections:ClosureVars._replace
  __repr__=collections:ClosureVars.__repr__ _asdict=collections:ClosureVars._asdict
  __getnewargs__=collections:ClosureVars.__getnewargs__",
  "class-functions _make=collections:ClosureVars._make",
  "statics __new__=namedtuple_ClosureVars:ClosureVars.__new__",
  "objects nonlocals=_collections._tuplegetter globals=_collections._tuplegetter
  builtins=_collections._tuplegetter unbound=_collections._tuplegetter", "constant __slots__ ()",
  "constant _fields ('nonlocals', 'globals', 'builtins', 'unbound')",
  "constant _field_defaults \x7b\x7d",
  "constant __match_args__ ('nonlocals', 'globals', 'builtins', 'unbound')"]),
  ("inspect.EndOfBlock", ["below Exception", "open __weakref__", "silent"]),
  ("inspect.FrameInfo", ["below inspect._FrameInfo", "open __dict__", "functions __repr__",
  "statics __new__", "silent"]),
  ("inspect.FullArgSpec", ["below tuple", "functions _replace=collections:FullArgSpec._replace
  __repr__=collections:FullArgSpec.__repr__ _asdict=collections:FullArgSpec._asdict
  __getnewargs__=collections:FullArgSpec.__getnewargs__",
  "class-functions _make=collections:FullArgSpec._make",
  "statics __new__=namedtuple_FullArgSpec:FullArgSpec.__new__",
  "objects args=_collections._tuplegetter varargs=_collections._tuplegetter
  varkw=_collections._tuplegetter defaults=_collections._tuplegetter
  kwonlyargs=_collections._tuplegetter kwonlydefaults=_collections._tuplegetter
  annotations=_collections._tuplegetter", "constant __slots__ ()",
  "constant _fields ('args', 'varargs', 'varkw', 'defaults', 'kwonlyargs', 'kwonlydefaults', '",
  "|annotations')", "constant _field_defaults \x7b\x7d",
  "constant __match_args__ ('args', 'varargs', 'varkw', 'defaults', 'kwonlyargs', 'kwonlydefau",
  "|lts', 'annotations')"]),
  ("inspect.Parameter", ["functions __init__ __reduce__ __setstate__ replace __str__ __repr__
  __hash__ __eq__", "properties name default annotation kind", "slots _annotation _default _kind
  _name", "classes empty=inspect._empty",
  "members-of inspect._ParameterKind POSITIONAL_ONLY POSITIONAL_OR_KEYWORD VAR_POSITIONAL",
  "members-of inspect._ParameterKind KEYWORD_ONLY VAR_KEYWORD",
  "constant __slots__ ('_name', '_kind', '_default', '_annotation')"]),
  ("inspect.Signature", ["functions __init__ replace _hash_basis __hash__ __eq__ _bind bind
  bind_partial __reduce__ __setstate__ __repr__ __str__", "class-functions from_callable",
  "properties parameters return_annotation", "slots _parameters _return_annotation",
  "classes _parameter_cls=inspect.Parameter _bound_arguments_cls=inspect.BoundArguments
  empty=inspect._empty", "constant __slots__ ('_return_annotation', '_parameters')"]),
  ("inspect.Traceback", ["below inspect._Traceback", "open __dict__", "functions __repr__",
  "statics __new__", "silent"]),
  ("inspect._ClassFinder", ["below ast.NodeVisitor", "functions __init__ visit_FunctionDef
  visit_AsyncFunctionDef=inspect:_ClassFinder.visit_FunctionDef visit_ClassDef", "silent"]),
  ("inspect._FrameInfo", ["below tuple", "functions _replace=collections:_FrameInfo._replace
  __repr__=collections:_FrameInfo.__repr__ _asdict=collections:_FrameInfo._asdict
  __getnewargs__=collections:_FrameInfo.__getnewargs__",
  "class-functions _make=collections:_FrameInfo._make",
  "statics __new__=namedtuple__FrameInfo:_FrameInfo.__new__",
  "objects frame=_collections._tuplegetter filename=_collections._tuplegetter
  lineno=_collections._tuplegetter function=_collections._tuplegetter
  code_context=_collections._tuplegetter index=_collections._tuplegetter", "constant __slots__ ()",
  "constant _fields ('frame', 'filename', 'lineno', 'function', 'code_context', 'index')",
  "constant _field_defaults \x7b\x7d",
  "constant __match_args__ ('frame', 'filename', 'lineno', 'function', 'code_context', 'index'",
  "|)"]),
  ("inspect._ParameterKind", ["below enum.IntEnum", "kind enum.EnumType",
  "functions _generate_next_value_=enum:Enum._generate_next_value_ __new__=enum:Enum.__new__ __str__
  _new_member_=inspect:_ParameterKind.__new__ __new_member__=inspect:_ParameterKind.__new__",
  "operations _value_repr_", "methods __format__", "classes _member_type_=int",
  "constant _use_args_ True", "constant _unhashable_values_ []", "silent", "values POSITIONAL_ONLY=0
  POSITIONAL_OR_KEYWORD=1 VAR_POSITIONAL=2 KEYWORD_ONLY=3 VAR_KEYWORD=4",
  "style plain ?POSITIONAL_ONLY"]),
  ("inspect._Traceback", ["below tuple", "functions _replace=collections:_Traceback._replace
  __repr__=collections:_Traceback.__repr__ _asdict=collections:_Traceback._asdict
  __getnewargs__=collections:_Traceback.__getnewargs__",
  "class-functions _make=collections:_Traceback._make",
  "statics __new__=namedtuple__Traceback:_Traceback.__new__",
  "objects filename=_collections._tuplegetter lineno=_collections._tuplegetter
  function=_collections._tuplegetter code_context=_collections._tuplegetter
  index=_collections._tuplegetter", "constant __slots__ ()",
  "constant _fields ('filename', 'lineno', 'function', 'code_context', 'index')",
  "constant _field_defaults \x7b\x7d",
  "constant __match_args__ ('filename', 'lineno', 'function', 'code_context', 'index')"]),
  ("inspect._empty", ["open"]),
  ("inspect._void", ["open"]),
  ("int", ["sealed", "builtins __new__", "operations __repr__ __hash__ __getattribute__ __lt__
  __le__ __eq__ __ne__ __gt__ __ge__ __add__ __radd__ __sub__ __rsub__ __mul__ __rmul__ __mod__
  __rmod__ __divmod__ __rdivmod__ __pow__ __rpow__ __neg__ __pos__ __abs__ __bool__ __invert__
  __lshift__ __rlshift__ __rshift__ __rrshift__ __and__ __rand__ __xor__ __rxor__ __or__ __ror__
  __int__ __float__ __floordiv__ __rfloordiv__ __truediv__ __rtruediv__ __index__",
  "methods conjugate bit_length bit_count to_bytes as_integer_ratio __trunc__ __floor__ __ceil__
  __round__ __getnewargs__ __format__ __sizeof__", "class-builtins from_bytes", "fields real imag
  numerator denominator"]),
  ("list", ["sealed", "builtins __new__", "operations __repr__ __getattribute__ __lt__ __le__ __eq__
  __ne__ __gt__ __ge__ __iter__ __init__ __len__ __setitem__ __delitem__ __add__ __mul__ __rmul__
  __contains__ __iadd__ __imul__", "methods __getitem__ __reversed__ __sizeof__ clear copy append
  insert extend pop remove index count reverse sort", "class-builtins __class_getitem__",
  "constant __hash__ None"]),
  ("list_iterator", ["sealed", "operations __getattribute__ __iter__ __next__",
  "methods __length_hint__ __reduce__ __setstate__", "silent"]),
  ("list_reverseiterator", ["sealed", "operations __getattribute__ __iter__ __next__",
  "methods __length_hint__ __reduce__ __setstate__", "silent"]),
  ("longrange_iterator", ["sealed", "operations __getattribute__ __iter__ __next__",
  "methods __length_hint__ __reduce__ __setstate__", "silent"]),
  ("map", ["sealed", "builtins __new__", "operations __getattribute__ __iter__ __next__",
  "methods __reduce__"]),
  ("mappingproxy", ["sealed", "builtins __new__", "operations __repr__ __str__ __getattribute__
  __lt__ __le__ __eq__ __ne__ __gt__ __ge__ __iter__ __or__ __ror__ __ior__ __len__ __getitem__
  __contains__", "methods get keys values items copy __reversed__",
  "class-builtins __class_getitem__", "silent", "constant __hash__ None"]),
  ("member_descriptor", ["sealed", "operations __repr__ __getattribute__ __get__ __set__
  __delete__", "methods __reduce__", "fields __doc__ __qualname__", "slots __objclass__ __name__"]),
  ("memoryview", ["sealed", "builtins __new__", "operations __repr__ __hash__ __getattribute__
  __lt__ __le__ __eq__ __ne__ __gt__ __ge__ __iter__ __len__ __getitem__ __setitem__ __delitem__",
  "methods release tobytes hex tolist cast toreadonly __enter__ __exit__", "fields obj nbytes
  readonly itemsize format ndim shape strides suboffsets c_contiguous f_contiguous contiguous"]),
  ("method", ["sealed", "builtins __new__", "operations __repr__ __hash__ __call__ __getattribute__
  __setattr__ __delattr__ __lt__ __le__ __eq__ __ne__ __gt__ __ge__", "methods __reduce__",
  "fields __doc__", "slots __func__ __self__"]),
  ("method-wrapper", ["sealed", "operations __repr__ __hash__ __call__ __getattribute__ __lt__
  __le__ __eq__ __ne__ __gt__ __ge__", "methods __reduce__", "fields __objclass__ __name__
  __qualname__ __doc__ __text_signature__", "slots __self__"]),
  ("method_descriptor", ["sealed", "operations __repr__ __call__ __getattribute__ __get__",
  "methods __reduce__", "fields __doc__ __qualname__ __text_signature__", "slots __objclass__
  __name__"]),
  ("module", ["sealed", "open __dict__", "builtins __new__", "operations __repr__ __getattribute__
  __setattr__ __delattr__ __init__", "methods __dir__", "fields __annotations__"]),
  ("object", ["sealed", "builtins __new__", "operations __repr__ __hash__ __str__ __getattribute__
  __setattr__ __delattr__ __lt__ __le__ __eq__ __ne__ __gt__ __ge__ __init__",
  "methods __reduce_ex__ __reduce__ __getstate__ __format__ __sizeof__ __dir__",
  "class-builtins __subclasshook__ __init_subclass__", "fields __class__"]),
  ("operator.attrgetter", ["shown operator.attrgetter", "builtins __new__", "operations __repr__
  __call__ __getattribute__", "methods __reduce__", "slots __vectorcalloffset__"]),
  ("operator.itemgetter", ["shown operator.itemgetter", "builtins __new__", "operations __repr__
  __call__ __getattribute__", "methods __reduce__", "slots __vectorcalloffset__"]),
  ("operator.methodcaller", ["shown operator.methodcaller", "builtins __new__", "operations __repr__
  __call__ __getattribute__", "methods __reduce__"]),
  ("property", ["sealed", "builtins __new__", "operations __getattribute__ __get__ __set__
  __delete__ __init__", "methods getter setter deleter __set_name__", "fields __isabstractmethod__",
  "slots fget fset fdel __doc__"]),
  ("range", ["sealed", "builtins __new__", "operations __repr__ __hash__ __getattribute__ __lt__
  __le__ __eq__ __ne__ __gt__ __ge__ __iter__ __bool__ __len__ __getitem__ __contains__",
  "methods __reversed__ __reduce__ count index", "slots start stop step"]),
  ("range_iterator", ["sealed", "operations __getattribute__ __iter__ __next__",
  "methods __length_hint__ __reduce__ __setstate__", "silent"]),
  ("reprlib.Repr", ["open", "functions __init__ repr repr1 _repr_iterable repr_tuple repr_list
  repr_array repr_set repr_frozenset repr_deque repr_dict repr_str repr_int repr_instance",
  "silent"]),
  ("reversed", ["sealed", "builtins __new__", "operations __getattribute__ __iter__ __next__",
  "methods __length_hint__ __reduce__ __setstate__"]),
  ("sched.Event", ["below tuple", "functions _replace=collections:Event._replace
  __repr__=collections:Event.__repr__ _asdict=collections:Event._asdict
  __getnewargs__=collections:Event.__getnewargs__", "class-functions _make=collections:Event._make",
  "statics __new__=namedtuple_Event:Event.__new__", "objects time=_collections._tuplegetter
  priority=_collections._tuplegetter sequence=_collections._tuplegetter
  action=_collections._tuplegetter argument=_collections._tuplegetter
  kwargs=_collections._tuplegetter", "constant __slots__ ()",
  "constant _fields ('time', 'priority', 'sequence', 'action', 'argument', 'kwargs')",
  "constant _field_defaults \x7b\x7d",
  "constant __match_args__ ('time', 'priority', 'sequence', 'action', 'argument', 'kwargs')"]),
  ("sched.scheduler", ["open", "functions __init__ enterabs enter cancel empty run",
  "properties queue", "silent"]),
  ("set", ["sealed", "builtins __new__", "operations __repr__ __getattribute__ __lt__ __le__ __eq__
  __ne__ __gt__ __ge__ __iter__ __init__ __sub__ __rsub__ __and__ __rand__ __xor__ __rxor__ __or__
  __ror__ __isub__ __iand__ __ixor__ __ior__ __len__", "methods __contains__ add clear copy discard
  difference difference_update intersection intersection_update isdisjoint issubset issuperset pop
  __reduce__ remove __sizeof__ symmetric_difference symmetric_difference_update union update",
  "class-builtins __class_getitem__", "constant __hash__ None"]),
  ("set_iterator", ["sealed", "operations __getattribute__ __iter__ __next__",
  "methods __length_hint__ __reduce__", "silent"]),
  ("slice", ["sealed", "builtins __new__", "operations __repr__ __getattribute__ __lt__ __le__
  __eq__ __ne__ __gt__ __ge__", "methods indices __reduce__", "slots start stop step",
  "constant __hash__ None"]),
  ("staticmethod", ["sealed", "open __dict__", "builtins __new__", "operations __repr__ __call__
  __get__ __init__", "fields __isabstractmethod__", "slots __func__ __wrapped__"]),
  ("str", ["sealed", "builtins __new__ maketrans", "operations __repr__ __hash__ __str__
  __getattribute__ __lt__ __le__ __eq__ __ne__ __gt__ __ge__ __iter__ __mod__ __rmod__ __len__
  __getitem__ __add__ __mul__ __rmul__ __contains__", "methods encode replace split rsplit join
  capitalize casefold title center count expandtabs find partition index ljust lower lstrip rfind
  rindex rjust rstrip rpartition splitlines strip swapcase translate upper startswith endswith
  removeprefix removesuffix isascii islower isupper istitle isspace isdecimal isdigit isnumeric
  isalpha isalnum isidentifier isprintable zfill format format_map __format__ __sizeof__
  __getnewargs__"]),
  ("str_ascii_iterator", ["sealed", "operations __getattribute__ __iter__ __next__",
  "methods __length_hint__ __reduce__ __setstate__", "silent"]),
  ("super", ["sealed", "builtins __new__", "operations __repr__ __getattribute__ __get__ __init__",
  "slots __thisclass__ __self__ __self_class__"]),
  ("sys.flags", ["below tuple", "shown sys.flags", "sealed", "operations __repr__",
  "methods __reduce__", "slots debug inspect interactive optimize dont_write_bytecode no_user_site
  no_site ignore_environment verbose bytes_warning quiet hash_randomization isolated dev_mode
  utf8_mode warn_default_encoding safe_path int_max_str_digits", "numbers n_sequence_fields=18
  n_fields=18 n_unnamed_fields=0",
  "constant __match_args__ ('debug', 'inspect', 'interactive', 'optimize', 'dont_write_bytecod",
  "|e', 'no_user_site', 'no_site', 'ignore_environment', 'verbose', 'bytes_warning', 'quiet', ",
  "|'hash_randomization', 'isolated', 'dev_mode', 'utf8_mode', 'warn_default_encoding', 'safe_",
  "|path', 'int_max_str_digits')"]),
  ("sys.float_info", ["below tuple", "shown sys.float_info", "sealed", "builtins __new__",
  "operations __repr__", "methods __reduce__", "slots max max_exp max_10_exp min min_exp min_10_exp
  dig mant_dig epsilon radix rounds", "numbers n_sequence_fields=11 n_fields=11 n_unnamed_fields=0",
  "constant __match_args__ ('max', 'max_exp', 'max_10_exp', 'min', 'min_exp', 'min_10_exp', 'd",
  "|ig', 'mant_dig', 'epsilon', 'radix', 'rounds')"]),
  ("sys.hash_info", ["below tuple", "shown sys.hash_info", "sealed", "builtins __new__",
  "operations __repr__", "methods __reduce__", "slots width modulus inf nan imag algorithm hash_bits
  seed_bits cutoff", "numbers n_sequence_fields=9 n_fields=9 n_unnamed_fields=0",
  "constant __match_args__ ('width', 'modulus', 'inf', 'nan', 'imag', 'algorithm', 'hash_bits'",
  "|, 'seed_bits', 'cutoff')"]),
  ("sys.int_info", ["below tuple", "shown sys.int_info", "sealed", "builtins __new__",
  "operations __repr__", "methods __reduce__", "slots bits_per_digit sizeof_digit
  default_max_str_digits str_digits_check_threshold", "numbers n_sequence_fields=4 n_fields=4
  n_unnamed_fields=0",
  "constant __match_args__ ('bits_per_digit', 'sizeof_digit', 'default_max_str_digits', 'str_d",
  "|igits_check_threshold')"]),
  ("sys.thread_info", ["below tuple", "shown sys.thread_info", "sealed", "builtins __new__",
  "operations __repr__", "methods __reduce__", "slots name lock version",
  "numbers n_sequence_fields=3 n_fields=3 n_unnamed_fields=0",
  "constant __match_args__ ('name', 'lock', 'version')"]),
  ("sys.version_info", ["below tuple", "shown sys.version_info", "sealed", "operations __repr__",
  "methods __reduce__", "slots major minor micro releaselevel serial", "numbers n_sequence_fields=5
  n_fields=5 n_unnamed_fields=0",
  "constant __match_args__ ('major', 'minor', 'micro', 'releaselevel', 'serial')"]),
  ("traceback", ["sealed", "builtins __new__", "operations __getattribute__", "methods __dir__",
  "fields tb_next tb_lineno", "slots tb_frame tb_lasti"]),
  ("traceback.FrameSummary", ["functions __init__ __eq__ __getitem__ __iter__ __repr__ __len__",
  "properties _original_line line", "slots _line colno end_colno end_lineno filename lineno locals
  name",
  "constant __slots__ ('filename', 'lineno', 'end_lineno', 'colno', 'end_colno', 'name', '_lin",
  "|e', 'locals')", "constant __hash__ None"]),
  ("traceback.StackSummary", ["below list", "open", "functions format_frame_summary format",
  "class-functions extract _extract_from_extended_frame_gen from_list"]),
  ("traceback.TracebackException", ["open", "functions __init__ _load_lines __eq__ __str__
  format_exception_only _format_syntax_error format print", "class-functions from_exception",
  "constant __hash__ None"]),
  ("traceback._Anchors", ["below tuple", "functions _replace=collections:_Anchors._replace
  __repr__=collections:_Anchors.__repr__ _asdict=collections:_Anchors._asdict
  __getnewargs__=collections:_Anchors.__getnewargs__",
  "class-functions _make=collections:_Anchors._make",
  "statics __new__=namedtuple__Anchors:_Anchors.__new__",
  "objects left_end_offset=_collections._tuplegetter right_start_offset=_collections._tuplegetter
  primary_char=_collections._tuplegetter secondary_char=_collections._tuplegetter",
  "constant __slots__ ()",
  "constant _fields ('left_end_offset', 'right_start_offset', 'primary_char', 'secondary_char'",
  "|)", "constant _field_defaults \x7b'primary_char': '~', 'secondary_char': '^'\x7d",
  "constant __match_args__ ('left_end_offset', 'right_start_offset', 'primary_char', 'secondar",
  "|y_char')"]),
  ("traceback._ExceptionPrintContext", ["open", "functions __init__ indent emit", "silent"]),
  ("traceback._Sentinel", ["open", "functions __repr__", "silent"]),
  ("tuple", ["sealed", "builtins __new__", "operations __repr__ __hash__ __getattribute__ __lt__
  __le__ __eq__ __ne__ __gt__ __ge__ __iter__ __len__ __getitem__ __add__ __mul__ __rmul__
  __contains__", "methods __getnewargs__ index count", "class-builtins __class_getitem__"]),
  ("tuple_iterator", ["sealed", "operations __getattribute__ __iter__ __next__",
  "methods __length_hint__ __reduce__ __setstate__", "silent"]),
  ("type", ["open __dict__", "builtins __new__", "operations __repr__ __call__ __getattribute__
  __setattr__ __delattr__ __init__ __or__ __ror__", "methods mro __subclasses__ __instancecheck__
  __subclasscheck__ __dir__ __sizeof__", "class-builtins __prepare__", "fields __name__ __qualname__
  __bases__ __doc__ __text_signature__ __annotations__", "slots __basicsize__ __itemsize__ __flags__
  __weakrefoffset__ __base__ __dictoffset__ __mro__"]),
  ("types.DynamicClassAttribute", ["open", "functions __init__ __get__ __set__ __delete__ getter
  setter deleter"]),
  ("types.GenericAlias", ["shown types.GenericAlias", "sealed", "builtins __new__",
  "operations __repr__ __hash__ __call__ __getattribute__ __lt__ __le__ __eq__ __ne__ __gt__ __ge__
  __iter__ __or__ __ror__ __getitem__", "methods __mro_entries__ __instancecheck__ __subclasscheck__
  __reduce__ __dir__", "fields __parameters__ __typing_unpacked_tuple_args__", "slots __origin__
  __args__ __unpacked__"]),
  ("types.SimpleNamespace", ["shown types.SimpleNamespace", "sealed", "open __dict__",
  "builtins __new__", "operations __repr__ __getattribute__ __setattr__ __delattr__ __lt__ __le__
  __eq__ __ne__ __gt__ __ge__ __init__", "methods __reduce__", "constant __hash__ None"]),
  ("types.UnionType", ["shown types.UnionType", "sealed", "operations __repr__ __hash__
  __getattribute__ __lt__ __le__ __eq__ __ne__ __gt__ __ge__ __or__ __ror__ __getitem__",
  "fields __parameters__", "slots __args__"]),
  ("types._GeneratorWrapper", ["open", "functions __init__ send throw close __next__ __iter__
  __await__=types:_GeneratorWrapper.__iter__", "properties gi_code gi_frame gi_running gi_yieldfrom
  cr_code cr_frame cr_running cr_await", "silent", "part cr_code.fget object('function')",
  "part cr_frame.fget object('function')", "part cr_running.fget object('function')",
  "part cr_await.fget object('function')"]),
  ("typing.Annotated", ["functions _class_getitem_inner", "class-functions __class_getitem__
  __init_subclass__", "statics __new__", "constant __slots__ ()",
  "part _class_getitem_inner.__wrapped__ object('function')",
  "part _class_getitem_inner.__dict__ \x7b'__wrapped__': object('function')\x7d"]),
  ("typing.Any", ["kind typing._AnyMeta", "open", "statics __new__"]),
  ("typing.BinaryIO", ["below typing.IO", "functions write __enter__", "constant __slots__ ()",
  "constant __orig_bases__ (typing._GenericAlias(...),)", "constant __parameters__ ()",
  "part *.__isabstractmethod__ True", "of write __enter__",
  "part *.__dict__ \x7b'__isabstractmethod__': True\x7d", "of write __enter__"]),
  ("typing.ForwardRef", ["below typing._Final", "functions __init__ _evaluate __eq__ __hash__ __or__
  __ror__ __repr__", "slots __forward_arg__ __forward_code__ __forward_evaluated__
  __forward_is_argument__ __forward_is_class__ __forward_module__ __forward_value__",
  "constant __slots__ ('__forward_arg__', '__forward_code__', '__forward_evaluated__', '__forw",
  "|ard_value__', '__forward_is_argument__', '__forward_is_class__', '__forward_module__')"]),
  ("typing.Generic", ["class-functions __class_getitem__ __init_subclass__",
  "constant __slots__ ()", "constant _is_protocol False",
  "part __class_getitem__.__wrapped__ object('function')",
  "part __class_getitem__.__dict__ \x7b'__wrapped__': object('function')\x7d"]),
  ("typing.IO", ["below typing.Generic", "functions close fileno flush isatty read readable readline
  readlines seek seekable tell truncate writable write writelines __enter__ __exit__",
  "properties mode name closed", "constant __slots__ ()",
  "constant __orig_bases__ (typing._GenericAlias(...),)",
  "constant __parameters__ (typing.TypeVar('AnyStr'),)", "part *.__isabstractmethod__ True",
  "of close fileno flush isatty read readable readline readlines seek seekable tell truncate
  writable write writelines __enter__ __exit__ mode name closed",
  "part *.__dict__ \x7b'__isabstractmethod__': True\x7d", "of close fileno flush isatty read
  readable readline readlines seek seekable tell truncate writable write writelines __enter__
  __exit__"]),
  ("typing.NamedTuple", ["kind typing.NamedTupleMeta", "open", "silent"]),
  ("typing.NamedTupleMeta", ["below type", "statics __new__", "silent"]),
  ("typing.NewType", ["open", "functions __init__ __mro_entries__ __repr__ __reduce__ __or__
  __ror__", "builtins __call__"]),
  ("typing.ParamSpec", ["above typing._Final typing._Immutable typing._BoundVarianceMixin
  typing._PickleUsingNameMixin object", "open __dict__", "functions __init__ __typing_subst__
  __typing_prepare_subst__", "properties args kwargs"]),
  ("typing.ParamSpecArgs", ["above typing._Final typing._Immutable object", "open __dict__",
  "functions __init__ __repr__ __eq__", "constant __hash__ None"]),
  ("typing.ParamSpecKwargs", ["above typing._Final typing._Immutable object", "open __dict__",
  "functions __init__ __repr__ __eq__", "constant __hash__ None"]),
  ("typing.Protocol", ["below typing.Generic", "kind typing._ProtocolMeta",
  "class-functions __init_subclass__", "constant __slots__ ()", "constant _is_protocol True",
  "constant _is_runtime_protocol False", "constant __parameters__ ()"]),
  ("typing.SupportsAbs", ["below typing.Protocol", "kind typing._ProtocolMeta", "functions __abs__
  __subclasshook__=typing:Protocol.__init_subclass__.<locals>._proto_hook
  __init__=typing:_no_init_or_replace_init", "constant __slots__ ()",
  "constant __orig_bases__ (typing._GenericAlias(...),)",
  "constant __parameters__ (typing.TypeVar('T_co'),)", "constant _is_protocol True",
  "constant _is_runtime_protocol True", "part __abs__.__isabstractmethod__ True",
  "part __abs__.__dict__ \x7b'__isabstractmethod__': True\x7d"]),
  ("typing.SupportsBytes", ["below typing.Protocol", "kind typing._ProtocolMeta",
  "functions __bytes__ __subclasshook__=typing:Protocol.__init_subclass__.<locals>._proto_hook
  __init__=typing:_no_init_or_replace_init", "constant __slots__ ()", "constant __parameters__ ()",
  "constant _is_protocol True", "constant _is_runtime_protocol True",
  "part __bytes__.__isabstractmethod__ True",
  "part __bytes__.__dict__ \x7b'__isabstractmethod__': True\x7d"]),
  ("typing.SupportsComplex", ["below typing.Protocol", "kind typing._ProtocolMeta",
  "functions __complex__ __subclasshook__=typing:Protocol.__init_subclass__.<locals>._proto_hook
  __init__=typing:_no_init_or_replace_init", "constant __slots__ ()", "constant __parameters__ ()",
  "constant _is_protocol True", "constant _is_runtime_protocol True",
  "part __complex__.__isabstractmethod__ True",
  "part __complex__.__dict__ \x7b'__isabstractmethod__': True\x7d"]),
  ("typing.SupportsFloat", ["below typing.Protocol", "kind typing._ProtocolMeta",
  "functions __float__ __subclasshook__=typing:Protocol.__init_subclass__.<locals>._proto_hook
  __init__=typing:_no_init_or_replace_init", "constant __slots__ ()", "constant __parameters__ ()",
  "constant _is_protocol True", "constant _is_runtime_protocol True",
  "part __float__.__isabstractmethod__ True",
  "part __float__.__dict__ \x7b'__isabstractmethod__': True\x7d"]),
  ("typing.SupportsIndex", ["below typing.Protocol", "kind typing._ProtocolMeta",
  "functions __index__ __subclasshook__=typing:Protocol.__init_subclass__.<locals>._proto_hook
  __init__=typing:_no_init_or_replace_init", "constant __slots__ ()", "constant __parameters__ ()",
  "constant _is_protocol True", "constant _is_runtime_protocol True",
  "part __index__.__isabstractmethod__ True",
  "part __index__.__dict__ \x7b'__isabstractmethod__': True\x7d"]),
  ("typing.SupportsInt", ["below typing.Protocol", "kind typing._ProtocolMeta", "functions __int__
  __subclasshook__=typing:Protocol.__init_subclass__.<locals>._proto_hook
  __init__=typing:_no_init_or_replace_init", "constant __slots__ ()", "constant __parameters__ ()",
  "constant _is_protocol True", "constant _is_runtime_protocol True",
  "part __int__.__isabstractmethod__ True",
  "part __int__.__dict__ \x7b'__isabstractmethod__': True\x7d"]),
  ("typing.SupportsRound", ["below typing.Protocol", "kind typing._ProtocolMeta",
  "functions __round__ __subclasshook__=typing:Protocol.__init_subclass__.<locals>._proto_hook
  __init__=typing:_no_init_or_replace_init", "constant __slots__ ()",
  "constant __orig_bases__ (typing._GenericAlias(...),)",
  "constant __parameters__ (typing.TypeVar('T_co'),)", "constant _is_protocol True",
  "constant _is_runtime_protocol True", "part __round__.__isabstractmethod__ True",
  "part __round__.__dict__ \x7b'__isabstractmethod__': True\x7d"]),
  ("typing.TextIO", ["below typing.IO", "functions __enter__", "properties buffer encoding errors
  line_buffering newlines", "constant __slots__ ()",
  "constant __orig_bases__ (typing._GenericAlias(...),)", "constant __parameters__ ()",
  "part *.__isabstractmethod__ True", "of __enter__ buffer encoding errors line_buffering newlines",
  "part __enter__.__dict__ \x7b'__isabstractmethod__': True\x7d"]),
  ("typing.TypeVar", ["above typing._Final typing._Immutable typing._BoundVarianceMixin
  typing._PickleUsingNameMixin object", "open __dict__", "functions __init__ __typing_subst__"]),
  ("typing.TypeVarTuple", ["above typing._Final typing._Immutable typing._PickleUsingNameMixin
  object", "open __dict__", "functions __init__ __iter__ __repr__ __typing_subst__
  __typing_prepare_subst__"]),
  ("typing.TypedDict", ["kind typing._TypedDictMeta", "open", "silent"]),
  ("typing._AnnotatedAlias", ["above typing._NotIterable typing._GenericAlias
  typing._BaseGenericAlias typing._Final object", "open", "functions __init__ copy_with __repr__
  __reduce__ __eq__ __hash__ __getattr__"]),
  ("typing._AnyMeta", ["below type", "functions __instancecheck__ __repr__", "silent"]),
  ("typing._BaseGenericAlias", ["below typing._Final", "open __dict__", "functions __init__ __call__
  __mro_entries__ __getattr__ __setattr__ __instancecheck__ __subclasscheck__ __dir__"]),
  ("typing._BoundVarianceMixin", ["open", "functions __init__ __or__ __ror__ __repr__"]),
  ("typing._CallableGenericAlias", ["above typing._NotIterable typing._GenericAlias
  typing._BaseGenericAlias typing._Final object", "open", "functions __repr__ __reduce__",
  "silent"]),
  ("typing._CallableType", ["below typing._SpecialGenericAlias", "functions copy_with __getitem__
  __getitem_inner__", "silent", "part __getitem_inner__.__wrapped__ object('function')",
  "part __getitem_inner__.__dict__ \x7b'__wrapped__': object('function')\x7d"]),
  ("typing._ConcatenateGenericAlias", ["below typing._GenericAlias", "functions copy_with",
  "silent"]),
  ("typing._DeprecatedType", ["below type", "functions __getattribute__", "silent"]),
  ("typing._Final", ["open __weakref__", "class-functions __init_subclass__",
  "constant __slots__ ('__weakref__',)"]),
  ("typing._GenericAlias", ["below typing._BaseGenericAlias", "functions __init__ __eq__ __hash__
  __or__ __ror__ __getitem__ _determine_new_args _make_substitution copy_with __repr__ __reduce__
  __mro_entries__ __iter__", "silent", "part __getitem__.__wrapped__ object('function')",
  "part __getitem__.__dict__ \x7b'__wrapped__': object('function')\x7d"]),
  ("typing._Immutable", ["functions __copy__ __deepcopy__", "constant __slots__ ()"]),
  ("typing._LiteralGenericAlias", ["below typing._GenericAlias", "functions __eq__ __hash__",
  "silent"]),
  ("typing._LiteralSpecialForm", ["above typing._SpecialForm typing._Final typing._NotIterable
  object", "open __dict__", "functions __getitem__", "silent"]),
  ("typing._NotIterable", ["constant __slots__ ()", "constant __iter__ None"]),
  ("typing._PickleUsingNameMixin", ["open", "functions __reduce__"]),
  ("typing._ProtocolMeta", ["below abc.ABCMeta", "functions __instancecheck__", "silent"]),
  ("typing._SpecialForm", ["above typing._Final typing._NotIterable object", "functions __init__
  __getattr__ __mro_entries__ __repr__ __reduce__ __call__ __or__ __ror__ __instancecheck__
  __subclasscheck__ __getitem__", "slots __doc__ _getitem _name",
  "constant __slots__ ('_name', '__doc__', '_getitem')",
  "part __getitem__.__wrapped__ object('function')",
  "part __getitem__.__dict__ \x7b'__wrapped__': object('function')\x7d"]),
  ("typing._SpecialGenericAlias", ["above typing._NotIterable typing._BaseGenericAlias typing._Final
  object", "open", "functions __init__ __getitem__ copy_with __repr__ __subclasscheck__ __reduce__
  __or__ __ror__", "silent", "part __getitem__.__wrapped__ object('function')",
  "part __getitem__.__dict__ \x7b'__wrapped__': object('function')\x7d"]),
  ("typing._TupleType", ["below typing._SpecialGenericAlias", "functions __getitem__", "silent",
  "part __getitem__.__wrapped__ object('function')",
  "part __getitem__.__dict__ \x7b'__wrapped__': object('function')\x7d"]),
  ("typing._TypedDictMeta", ["below type", "functions __subclasscheck__
  __instancecheck__=typing:_TypedDictMeta.__subclasscheck__", "statics __new__",
  "classes __call__=dict", "silent"]),
  ("typing._TypingEllipsis", ["open"]),
  ("typing._UnionGenericAlias", ["above typing._NotIterable typing._GenericAlias
  typing._BaseGenericAlias typing._Final object", "open", "functions copy_with __eq__ __hash__
  __repr__ __instancecheck__ __subclasscheck__ __reduce__", "silent"]),
  ("typing._UnpackGenericAlias", ["below typing._GenericAlias", "functions __repr__ __getitem__",
  "properties __typing_unpacked_tuple_args__ __typing_is_unpacked_typevartuple__", "silent"]),
  ("typing.io", ["shown typing.io", "kind typing._DeprecatedType", "open", "classes IO=typing.
  TextIO=typing. BinaryIO=typing.", "constant __all__ ['IO', 'TextIO', 'BinaryIO']"]),
  ("typing.re", ["shown typing.re", "kind typing._DeprecatedType", "open",
  "objects Pattern=typing._SpecialGenericAlias Match=typing._SpecialGenericAlias",
  "constant __all__ ['Pattern', 'Match']"]),
  ("warnings.WarningMessage", ["open", "functions __init__ __str__",
  "constant _WARNING_DETAILS ('message', 'category', 'filename', 'lineno', 'file', 'line', 'so",
  "|urce')", "silent"]),
  ("warnings._OptionError", ["below Exception", "open __weakref__"]),
  ("warnings.catch_warnings", ["open", "functions __init__ __repr__ __enter__ __exit__"]),
  ("weakref.CallableProxyType", ["shown weakref.CallableProxyType", "sealed", "operations __repr__
  __call__ __str__ __getattribute__ __setattr__ __delattr__ __lt__ __le__ __eq__ __ne__ __gt__
  __ge__ __iter__ __next__ __add__ __radd__ __sub__ __rsub__ __mul__ __rmul__ __mod__ __rmod__
  __divmod__ __rdivmod__ __pow__ __rpow__ __neg__ __pos__ __abs__ __bool__ __invert__ __lshift__
  __rlshift__ __rshift__ __rrshift__ __and__ __rand__ __xor__ __rxor__ __or__ __ror__ __int__
  __float__ __iadd__ __isub__ __imul__ __imod__ __ipow__ __ilshift__ __irshift__ __iand__ __ixor__
  __ior__ __floordiv__ __rfloordiv__ __truediv__ __rtruediv__ __ifloordiv__ __itruediv__ __index__
  __matmul__ __rmatmul__ __imatmul__ __len__ __getitem__ __setitem__ __delitem__ __contains__",
  "silent", "constant __hash__ None"]),
  ("weakref.KeyedRef", ["below weakref.ReferenceType", "functions __init__", "statics __new__",
  "slots key", "constant __slots__ ('key',)"]),
  ("weakref.ProxyType", ["shown weakref.ProxyType", "sealed", "operations __repr__ __str__
  __getattribute__ __setattr__ __delattr__ __lt__ __le__ __eq__ __ne__ __gt__ __ge__ __iter__
  __next__ __add__ __radd__ __sub__ __rsub__ __mul__ __rmul__ __mod__ __rmod__ __divmod__
  __rdivmod__ __pow__ __rpow__ __neg__ __pos__ __abs__ __bool__ __invert__ __lshift__ __rlshift__
  __rshift__ __rrshift__ __and__ __rand__ __xor__ __rxor__ __or__ __ror__ __int__ __float__ __iadd__
  __isub__ __imul__ __imod__ __ipow__ __ilshift__ __irshift__ __iand__ __ixor__ __ior__ __floordiv__
  __rfloordiv__ __truediv__ __rtruediv__ __ifloordiv__ __itruediv__ __index__ __matmul__ __rmatmul__
  __imatmul__ __len__ __getitem__ __setitem__ __delitem__ __contains__", "methods __bytes__
  __reversed__", "silent", "constant __hash__ None"]),
  ("weakref.ReferenceType", ["shown weakref.ReferenceType", "sealed", "builtins __new__",
  "operations __repr__ __hash__ __call__ __lt__ __le__ __eq__ __ne__ __gt__ __ge__ __init__",
  "class-builtins __class_getitem__", "slots __callback__", "silent"]),
  ("weakref.WeakKeyDictionary", ["below collections.abc.MutableMapping", "kind abc.ABCMeta", "open",
  "functions __init__ _commit_removals _scrub_removals __delitem__ __getitem__ __len__ __repr__
  __setitem__ copy __copy__=weakref:WeakKeyDictionary.copy __deepcopy__ get __contains__ items keys
  __iter__=weakref:WeakKeyDictionary.keys values keyrefs popitem pop setdefault update __ior__
  __or__ __ror__"]),
  ("weakref.WeakMethod", ["below weakref.ReferenceType", "open __weakref__", "functions __call__
  __eq__ __ne__", "operations __hash__", "statics __new__", "slots _alive _func_ref _meth_type",
  "constant __slots__ ('_func_ref', '_meth_type', '_alive', '__weakref__')"]),
  ("weakref.WeakValueDictionary", ["below collections.abc.MutableMapping", "kind abc.ABCMeta",
  "open", "functions __init__ _commit_removals __getitem__ __delitem__ __len__ __contains__ __repr__
  __setitem__ copy __copy__=weakref:WeakValueDictionary.copy __deepcopy__ get items keys
  __iter__=weakref:WeakValueDictionary.keys itervaluerefs values popitem pop setdefault update
  valuerefs __ior__ __or__ __ror__"]),
  ("weakref.finalize", ["functions __init__ __call__ detach peek __repr__",
  "class-functions _select_for_exit _exitfunc", "properties alive atexit",
  "classes _Info=weakref.finalize.", "objects _index_iter=itertools.count", "constant __slots__ ()",
  "constant _registry \x7b\x7d", "constant _shutdown False", "constant _dirty False",
  "constant _registered_with_atexit False", "part atexit.fset object('function')"]),
  ("wrapper_descriptor", ["sealed", "operations __repr__ __call__ __getattribute__ __get__",
  "methods __reduce__", "fields __doc__ __qualname__ __text_signature__", "slots __objclass__
  __name__"]),
  ("zip", ["sealed", "builtins __new__", "operations __getattribute__ __iter__ __next__",
  "methods __reduce__ __setstate__"])]

end FragmentWeaver.Standard
