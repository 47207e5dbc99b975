/-!
# Listing: sources

What stands in the modules and classes for trees, tokens, instructions and imports.
-/

namespace FragmentWeaver.Standard

/-- The modules for sources. -/
def languageModules : List (String × List String) := [
  ("_ast", ["built-in", "classes AST=ast. Add=ast. And=ast. AnnAssign=ast. Assert=ast. Assign=ast.
  AsyncFor=ast. AsyncFunctionDef=ast. AsyncWith=ast. Attribute=ast. AugAssign=ast. Await=ast.
  BinOp=ast. BitAnd=ast. BitOr=ast. BitXor=ast. BoolOp=ast. Break=ast. Call=ast. ClassDef=ast.
  Compare=ast. Constant=ast. Continue=ast. Del=ast. Delete=ast. Dict=ast. DictComp=ast. Div=ast.
  Eq=ast. ExceptHandler=ast. Expr=ast. Expression=ast. FloorDiv=ast. For=ast. FormattedValue=ast.
  FunctionDef=ast. FunctionType=ast. GeneratorExp=ast. Global=ast. Gt=ast. GtE=ast. If=ast.
  IfExp=ast. Import=ast. ImportFrom=ast. In=ast. Interactive=ast. Invert=ast. Is=ast. IsNot=ast.
  JoinedStr=ast. LShift=ast. Lambda=ast. List=ast. ListComp=ast. Load=ast. Lt=ast. LtE=ast.
  MatMult=ast. Match=ast. MatchAs=ast. MatchClass=ast. MatchMapping=ast. MatchOr=ast.
  MatchSequence=ast. MatchSingleton=ast. MatchStar=ast. MatchValue=ast. Mod=ast. Module=ast.
  Mult=ast. Name=ast. NamedExpr=ast. Nonlocal=ast. Not=ast. NotEq=ast. NotIn=ast. Or=ast. Pass=ast.
  Pow=ast. RShift=ast. Raise=ast. Return=ast. Set=ast. SetComp=ast. Slice=ast. Starred=ast.
  Store=ast. Sub=ast. Subscript=ast. Try=ast. TryStar=ast. Tuple=ast. TypeIgnore=ast. UAdd=ast.
  USub=ast. UnaryOp=ast. While=ast. With=ast. Yield=ast. YieldFrom=ast. alias=ast. arg=ast.
  arguments=ast. boolop=ast. cmpop=ast. comprehension=ast. excepthandler=ast. expr=ast.
  expr_context=ast. keyword=ast. match_case=ast. mod=ast. operator=ast. pattern=ast. stmt=ast.
  type_ignore=ast. unaryop=ast. withitem=ast.", "numbers PyCF_ALLOW_TOP_LEVEL_AWAIT=8192
  PyCF_ONLY_AST=1024 PyCF_TYPE_COMMENTS=4096", "constant __doc__ None"]),
  ("_frozen_importlib", ["frozen", "functions __import__=_frozen_importlib:
  _builtin_from_name=_frozen_importlib: _calc___package__=_frozen_importlib:
  _call_with_frames_removed=_frozen_importlib: _exec=_frozen_importlib:
  _find_and_load=_frozen_importlib: _find_and_load_unlocked=_frozen_importlib:
  _find_spec=_frozen_importlib: _find_spec_legacy=_frozen_importlib: _gcd_import=_frozen_importlib:
  _get_module_lock=_frozen_importlib: _handle_fromlist=_frozen_importlib:
  _init_module_attrs=_frozen_importlib: _install=_frozen_importlib:
  _install_external_importers=_frozen_importlib: _load=_frozen_importlib:
  _load_backward_compatible=_frozen_importlib: _load_module_shim=_frozen_importlib:
  _load_unlocked=_frozen_importlib: _lock_unlock_module=_frozen_importlib:
  _module_repr=_frozen_importlib: _module_repr_from_spec=_frozen_importlib:
  _new_module=_frozen_importlib: _object_name=_frozen_importlib:
  _requires_builtin=_frozen_importlib: _requires_frozen=_frozen_importlib:
  _resolve_name=_frozen_importlib: _sanity_check=_frozen_importlib: _setup=_frozen_importlib:
  _spec_from_module=_frozen_importlib: _verbose_message=_frozen_importlib: _wrap=_frozen_importlib:
  module_from_spec=_frozen_importlib: spec_from_loader=_frozen_importlib:", "classes BuiltinImporter
  FrozenImporter ModuleSpec _DeadlockError _DummyModuleLock _ImportLockContext _ModuleLock
  _ModuleLockManager", "objects _NEEDS_LOADING=object",
  "modules _bootstrap_external=_frozen_importlib_external _imp= _thread= _warnings= _weakref= sys=",
  "constant _ERR_MSG 'No module named \x7b!r\x7d'", "constant _ERR_MSG_PREFIX 'No module named '",
  "constant _blocking_on \x7b\x7d", "constant _module_locks \x7b\x7d"]),
  ("_frozen_importlib_external", ["frozen", "functions _calc_mode=_frozen_importlib_external:
  _check_name=_frozen_importlib_external: _classify_pyc=_frozen_importlib_external:
  _code_to_hash_pyc=_frozen_importlib_external: _code_to_timestamp_pyc=_frozen_importlib_external:
  _compile_bytecode=_frozen_importlib_external: _find_module_shim=_frozen_importlib_external:
  _fix_up_module=_frozen_importlib_external: _get_cached=_frozen_importlib_external:
  _get_sourcefile=_frozen_importlib_external:
  _get_supported_file_loaders=_frozen_importlib_external: _install=_frozen_importlib_external:
  _make_relax_case=_frozen_importlib_external: _pack_uint32=_frozen_importlib_external:
  _path_is_mode_type=_frozen_importlib_external: _path_isabs=_frozen_importlib_external:
  _path_isdir=_frozen_importlib_external: _path_isfile=_frozen_importlib_external:
  _path_join=_frozen_importlib_external: _path_split=_frozen_importlib_external:
  _path_stat=_frozen_importlib_external:
  _relax_case=_frozen_importlib_external:_make_relax_case.<locals>._relax_case
  _set_bootstrap_module=_frozen_importlib_external: _unpack_uint16=_frozen_importlib_external:
  _unpack_uint32=_frozen_importlib_external: _validate_hash_pyc=_frozen_importlib_external:
  _validate_timestamp_pyc=_frozen_importlib_external: _write_atomic=_frozen_importlib_external:
  cache_from_source=_frozen_importlib_external: decode_source=_frozen_importlib_external:
  source_from_cache=_frozen_importlib_external:
  spec_from_file_location=_frozen_importlib_external:", "classes ExtensionFileLoader FileFinder
  FileLoader NamespaceLoader PathFinder SourceFileLoader SourceLoader SourcelessFileLoader
  WindowsRegistryFinder _LoaderBasics _NamespaceLoader=_frozen_importlib_external.NamespaceLoader
  _NamespacePath _code_type=code", "objects _POPULATE=object _pathseps_with_colon=set",
  "modules _bootstrap=_frozen_importlib _imp= _io= _os=posix _warnings= marshal= sys=",
  "numbers _RAW_MAGIC_NUMBER=168627623", "constant BYTECODE_SUFFIXES ['.pyc']",
  "constant DEBUG_BYTECODE_SUFFIXES ['.pyc']",
  "constant EXTENSION_SUFFIXES ['.cpython-311-x86_64-linux-gnu.so', '.abi3.so', '.so']",
  "constant MAGIC_NUMBER b'\\xa7\\r\\r\\n'", "constant OPTIMIZED_BYTECODE_SUFFIXES ['.pyc']",
  "constant SOURCE_SUFFIXES ['.py']",
  "constant _CASE_INSENSITIVE_PLATFORMS ('cygwin', 'darwin', 'win')",
  "constant _CASE_INSENSITIVE_PLATFORMS_BYTES_KEY ('cygwin', 'darwin')",
  "constant _CASE_INSENSITIVE_PLATFORMS_STR_KEY ('win',)", "constant _MS_WINDOWS False",
  "constant _OPT 'opt-'", "constant _PYCACHE '__pycache__'", "constant path_sep '/'",
  "constant path_sep_tuple ('/',)", "constant path_separators '/'"]),
  ("_imp", ["built-in", "builtins _fix_co_filename _frozen_module_names
  _override_frozen_modules_for_tests acquire_lock create_builtin create_dynamic exec_builtin
  exec_dynamic extension_suffixes find_frozen get_frozen_object init_frozen is_builtin is_frozen
  is_frozen_package lock_held release_lock source_hash",
  "constant check_hash_based_pycs 'default'"]),
  ("_opcode", ["extension", "builtins get_specialization_stats stack_effect"]),
  ("_symtable", ["built-in", "builtins symtable", "numbers CELL=5 DEF_ANNOT=256 DEF_BOUND=134
  DEF_FREE=32 DEF_FREE_CLASS=64 DEF_GLOBAL=1 DEF_IMPORT=128 DEF_LOCAL=2 DEF_NONLOCAL=8 DEF_PARAM=4
  FREE=4 GLOBAL_EXPLICIT=2 GLOBAL_IMPLICIT=3 LOCAL=1 SCOPE_MASK=15 SCOPE_OFF=11 TYPE_CLASS=1
  TYPE_FUNCTION=0 TYPE_MODULE=2 USE=16", "constant __doc__ None"]),
  ("_tokenize", ["extension", "classes TokenizerIter", "constant __doc__ None"]),
  ("ast", ["takes _ast", "functions _dims_getter _dims_setter _getter _new _pad_whitespace _setter
  _simple_enum=enum: _splitlines_no_ff contextmanager=contextlib: copy_location dump
  fix_missing_locations get_docstring get_source_segment increment_lineno iter_child_nodes
  iter_fields literal_eval main parse unparse walk", "classes AugLoad AugStore Bytes Ellipsis
  ExtSlice Index IntEnum=enum. NameConstant NodeTransformer NodeVisitor Num Param Str Suite _ABC
  _Precedence _Unparser auto=enum. nullcontext=contextlib. slice", "modules sys=",
  "constant _ALL_QUOTES (\"'\", '\"', '\"\"\"', \"'''\")", "constant _INFSTR '1e309'",
  "constant _MULTI_QUOTES ('\"\"\"', \"'''\")", "constant _SINGLE_QUOTES (\"'\", '\"')",
  "constant _const_node_type_names \x7bbool: 'NameConstant', NoneType: 'NameConstant', int: 'N",
  "|um', float: 'Num', complex: 'Num', str: 'Str', bytes: 'Bytes', ellipsis: 'Ellipsis'\x7d",
  "constant _const_types \x7bast.Num: (int, float, complex), ast.Str: (str,), ast.Bytes: (byte",
  "|s,), ast.NameConstant: (NoneType, bool), ast.Ellipsis: (ellipsis,)\x7d",
  "constant _const_types_not \x7bast.Num: (bool,)\x7d"]),
  ("code", ["functions compile_command=codeop: interact", "classes CommandCompiler=codeop.
  InteractiveConsole InteractiveInterpreter", "modules sys= traceback=",
  "exports InteractiveInterpreter InteractiveConsole interact compile_command"]),
  ("codeop", ["functions _compile _is_syntax_error _maybe_compile compile_command",
  "classes CommandCompiler Compile", "modules __future__= warnings=",
  "numbers PyCF_ALLOW_INCOMPLETE_INPUT=16384 PyCF_DONT_IMPLY_DEDENT=512",
  "constant _features [__future__._Feature(...), __future__._Feature(...), __future__._Feature",
  "|(...), __future__._Feature(...), __future__._Feature(...), __future__._Feature(...), __fut",
  "|ure__._Feature(...), __future__._Feature(...), __future__._Feature(...), __future__._Featu",
  "|re(...)]", "exports compile_command Compile CommandCompiler"]),
  ("compileall", ["functions _walk_dir compile_dir compile_file compile_path main",
  "classes Path=pathlib. partial=functools.", "modules filecmp= importlib= os= py_compile= struct=
  sys=", "exports compile_dir compile_file compile_path"]),
  ("dis", ["functions _deoptop _disassemble_bytes _disassemble_recursive _disassemble_str
  _find_imports _find_store_names _format_code_info _get_code_array _get_code_object _get_const_info
  _get_const_value _get_instructions_bytes _get_name_info _is_backward_jump _parse_exception_table
  _parse_varint _test _try_compile _unpack_opargs code_info dis disassemble disco=dis:disassemble
  distb findlabels findlinestarts get_instructions pretty_flags show_code",
  "builtins stack_effect=_opcode:", "classes Bytecode Instruction Positions _ExceptionTableEntry
  _Instruction _Unknown", "objects UNKNOWN=dis._Unknown", "modules collections= io= sys= types=",
  "numbers BINARY_OP=122 CACHE=0 EXTENDED_ARG=144 FORMAT_VALUE=155 HAVE_ARGUMENT=90
  JUMP_BACKWARD=140 LOAD_CONST=100 LOAD_GLOBAL=116 MAKE_FUNCTION=132 _INT_BITS=32
  _INT_OVERFLOW=2147483648 _OPARG_WIDTH=5 _OPNAME_WIDTH=20 spec_op=180",
  "constant COMPILER_FLAG_NAMES \x7b1: 'OPTIMIZED', 2: 'NEWLOCALS', 4: 'VARARGS', 8: 'VARKEYWO",
  "|RDS', 16: 'NESTED', 32: 'GENERATOR', 64: 'NOFREE', 128: 'COROUTINE', 256: 'ITERABLE_COROUT",
  "|INE', 512: 'ASYNC_GENERATOR'\x7d",
  "constant FORMAT_VALUE_CONVERTERS ((None, ''), (str, 'str'), (builtin_function_or_method(...",
  "|), 'repr'), (builtin_function_or_method(...), 'ascii'))",
  "constant MAKE_FUNCTION_FLAGS ('defaults', 'kwdefaults', 'annotations', 'closure')",
  "constant _empty_slot [3, 4, 5, 6, 7, 8, 13, 14, 16, 17, 18, 19, 20, 21, 22, 23, 24, 26, 27,",
  "| 28, 29, 34, 38, 39, 40, 41, 42, 43, 44, 45, 46, 47, 48, 55, 56, 57, 58, 59, 62, 63, 64, 6",
  "|5, 66, 67, 72, 73, 76, 77, 78, 79, 80, 81, 113, 121, 127, 141, 143, 150, 153, 154, 158, 15",
  "|9, 161, 167, 168, 169, 170, 177, 178, 179, 180, 181, 182, 183, 184, 185, 186, 187, 188, 18",
  "|9, 190, 191, 192, 193, 194, 195, 196, 197, 198, 199, 200, 201, 202, 203, 204, 205, 206, 20",
  "|7, 208, 209, 210, 211, 212, 213, 214, 215, 216, 217, 218, 219, 220, 221, 222, 223, 224, 22",
  "|5, 226, 227, 228, 229, 230, 231, 232, 233, 234, 235, 236, 237, 238, 239, 240, 241, 242, 24",
  "|3, 244, 245, 246, 247, 248, 249, 250, 251, 252, 253, 254, 255]",
  "constant _have_code (method, function, code, classmethod, staticmethod, type)",
  "constant cmp_op ('<', '<=', '==', '!=', '>', '>=')", "constant hascompare [107]",
  "constant hasconst [100, 172]", "constant hasfree [135, 136, 137, 138, 139, 148]",
  "constant hasjabs []",
  "constant hasjrel [93, 110, 111, 112, 114, 115, 123, 128, 129, 134, 140, 173, 174, 175, 176]",
  "constant haslocal [124, 125, 126]",
  "constant hasname [90, 91, 95, 96, 97, 98, 101, 106, 108, 109, 116, 160]", "constant hasnargs []",
  "constant specialized 'UNPACK_SEQUENCE_TWO_TUPLE'", "exports code_info dis disassemble distb disco
  findlinestarts findlabels show_code get_instructions Instruction Bytecode cmp_op hasconst hasname
  hasjrel hasjabs haslocal hascompare hasfree opname opmap HAVE_ARGUMENT EXTENDED_ARG hasnargs
  stack_effect", "same _cache_format=opcode. _inline_cache_entries=opcode. _nb_ops=opcode.
  _specializations=opcode. _specialized_instructions=opcode. opmap=opcode. opname=opcode.",
  "objects _all_opmap=dict _all_opname=list deoptmap=dict"]),
  ("imp", ["functions _builtin_from_name=_frozen_importlib: _exec=_frozen_importlib:
  _load=_frozen_importlib: cache_from_source find_module get_magic get_suffixes get_tag init_builtin
  load_compiled load_dynamic load_module load_package load_source new_module reload
  source_from_cache", "builtins _fix_co_filename=_imp: _frozen_module_names=_imp: acquire_lock=_imp:
  create_dynamic=_imp: get_frozen_object=_imp: init_frozen=_imp: is_builtin=_imp: is_frozen=_imp:
  is_frozen_package=_imp: lock_held=_imp: release_lock=_imp:", "classes NullImporter
  SourcelessFileLoader=_frozen_importlib_external. _HackedGetData _LoadCompiledCompatibility
  _LoadSourceCompatibility", "modules importlib= machinery=importlib. os= sys= tokenize= types=
  util=importlib. warnings=", "numbers C_BUILTIN=6 C_EXTENSION=3 IMP_HOOK=9 PKG_DIRECTORY=5
  PY_CODERESOURCE=8 PY_COMPILED=2 PY_FROZEN=7 PY_RESOURCE=4 PY_SOURCE=1 SEARCH_ERROR=0",
  "constant _ERR_MSG 'No module named \x7b!r\x7d'"]),
  ("importlib", ["package", "functions __import__=_frozen_importlib:
  _pack_uint32=_frozen_importlib_external: _unpack_uint32=_frozen_importlib_external: find_loader
  import_module invalidate_caches reload", "modules _abc _bootstrap=_frozen_importlib
  _bootstrap_external=_frozen_importlib_external _imp= abc machinery resources sys= util warnings=",
  "constant _RELOADING \x7b\x7d", "exports __import__ import_module invalidate_caches reload"]),
  ("importlib._abc", ["classes Loader", "modules _bootstrap=_frozen_importlib abc= warnings="]),
  ("importlib.abc", ["functions _register", "classes ExecutionLoader FileLoader Finder InspectLoader
  Loader=importlib._abc. MetaPathFinder PathEntryFinder ResourceLoader
  ResourceReader=importlib.resources.abc. SourceLoader Traversable=importlib.resources.abc.
  TraversableResources=importlib.resources.abc.",
  "modules _bootstrap_external=_frozen_importlib_external _frozen_importlib=
  _frozen_importlib_external= abc= machinery=importlib. warnings=", "exports Loader Finder
  MetaPathFinder PathEntryFinder ResourceLoader InspectLoader ExecutionLoader FileLoader
  SourceLoader ResourceReader Traversable TraversableResources"]),
  ("importlib.machinery", ["frozen", "functions all_suffixes",
  "classes BuiltinImporter=_frozen_importlib. ExtensionFileLoader=_frozen_importlib_external.
  FileFinder=_frozen_importlib_external. FrozenImporter=_frozen_importlib.
  ModuleSpec=_frozen_importlib. NamespaceLoader=_frozen_importlib_external.
  PathFinder=_frozen_importlib_external. SourceFileLoader=_frozen_importlib_external.
  SourcelessFileLoader=_frozen_importlib_external.
  WindowsRegistryFinder=_frozen_importlib_external.", "constant BYTECODE_SUFFIXES ['.pyc']",
  "constant DEBUG_BYTECODE_SUFFIXES ['.pyc']",
  "constant EXTENSION_SUFFIXES ['.cpython-311-x86_64-linux-gnu.so', '.abi3.so', '.so']",
  "constant OPTIMIZED_BYTECODE_SUFFIXES ['.pyc']", "constant SOURCE_SUFFIXES ['.py']"]),
  ("importlib.metadata", ["package", "functions _top_level_declared _top_level_inferred
  always_iterable=importlib.metadata._itertools: distribution distributions entry_points files
  import_module=importlib: metadata method_cache=importlib.metadata._functools:
  packages_distributions pass_none=importlib.metadata._functools: requires
  unique_everseen=importlib.metadata._itertools: version", "classes Deprecated DeprecatedList
  DeprecatedTuple Distribution DistributionFinder EntryPoint EntryPoints FastPath FileHash
  FreezableDefaultDict=importlib.metadata._collections. Lookup MetaPathFinder=importlib.abc.
  MetadataPathFinder PackageMetadata=importlib.metadata._meta. PackageNotFoundError PackagePath
  Pair=importlib.metadata._collections. PathDistribution Prepared Sectioned SelectableGroups
  SimplePath=importlib.metadata._meta. starmap=itertools. suppress=contextlib.",
  "objects List=typing._SpecialGenericAlias Mapping=typing._SpecialGenericAlias
  Optional=typing._SpecialForm Union=typing._SpecialForm", "holders _unique=functools.partial",
  "modules _adapters _collections _functools _itertools _meta _text abc= collections= csv= email=
  functools= itertools= operator= os= pathlib= posixpath= re= sys= textwrap= warnings= zipfile=",
  "constant __doc__ None", "exports Distribution DistributionFinder PackageMetadata
  PackageNotFoundError distribution distributions entry_points files metadata packages_distributions
  requires version", "part _unique.args ()",
  "part _unique.keywords \x7b'key': object('operator.attrgetter')\x7d"]),
  ("importlib.metadata._adapters", ["classes FoldedCase=importlib.metadata._text. Message",
  "modules email= re= textwrap=", "constant __doc__ None"]),
  ("importlib.metadata._collections", ["classes FreezableDefaultDict Pair", "modules collections=",
  "constant __doc__ None"]),
  ("importlib.metadata._functools", ["functions method_cache pass_none", "modules functools=
  types=", "constant __doc__ None"]),
  ("importlib.metadata._itertools", ["functions always_iterable unique_everseen",
  "classes filterfalse=itertools.", "constant __doc__ None"]),
  ("importlib.metadata._meta", ["classes Any=typing. PackageMetadata Protocol=typing. SimplePath
  TypeVar=typing.", "objects Dict=typing._SpecialGenericAlias Iterator=typing._SpecialGenericAlias
  List=typing._SpecialGenericAlias Union=typing._SpecialForm _T=typing.TypeVar",
  "constant __doc__ None"]),
  ("importlib.metadata._text", ["functions method_cache=importlib.metadata._functools:",
  "classes FoldedCase", "modules re=", "constant __doc__ None"]),
  ("importlib.readers", ["classes FileReader=importlib.resources.readers.
  MultiplexedPath=importlib.resources.readers. NamespaceReader=importlib.resources.readers.
  ZipReader=importlib.resources.readers.", "exports FileReader ZipReader MultiplexedPath
  NamespaceReader"]),
  ("importlib.resources", ["package", "functions as_file=importlib.resources._common:
  contents=importlib.resources._legacy: files=importlib.resources._common:
  is_resource=importlib.resources._legacy: open_binary=importlib.resources._legacy:
  open_text=importlib.resources._legacy: path=importlib.resources._legacy:
  read_binary=importlib.resources._legacy: read_text=importlib.resources._legacy:",
  "classes Resource=str ResourceReader=importlib.resources.abc.",
  "holders Package=typing._UnionGenericAlias", "modules _adapters _common _legacy abc",
  "exports Package Resource ResourceReader as_file contents files is_resource open_binary open_text
  path read_binary read_text", "part Package._inst True", "part Package._name None",
  "part Package._paramspec_tvars False"]),
  ("importlib.resources._adapters", ["functions _io_wrapper wrap_spec", "classes CompatibilityFiles
  SpecLoaderAdapter TextIOWrapper=_io. TraversableResourcesLoader suppress=contextlib.",
  "modules abc=importlib.resources.", "constant __doc__ None"]),
  ("importlib.resources._common", ["functions _ _tempfile as_file files from_package get_package
  get_resource_reader resolve wrap_spec=importlib.resources._adapters:",
  "classes ResourceReader=importlib.resources.abc. Traversable=importlib.resources.abc.",
  "objects Optional=typing._SpecialForm Union=typing._SpecialForm",
  "same Package=importlib.resources.", "modules contextlib= functools= importlib= os= pathlib=
  tempfile= types=", "constant __doc__ None", "part *.__wrapped__ object('function')", "of _
  _tempfile as_file", "part *.__dict__ \x7b'__wrapped__': object('function')\x7d", "of _ _tempfile",
  "part as_file.register object('function')", "part as_file.dispatch object('function')",
  "part as_file.registry object('mappingproxy')", "part as_file._clear_cache object('method')",
  "part as_file.__dict__ \x7b'register': object('function'), 'dispatch': object('function'), '",
  "|registry': object('mappingproxy'), '_clear_cache': object('method'), '__wrapped__': object",
  "|('function')\x7d"]),
  ("importlib.resources._itertools", ["functions unique_everseen", "classes TypeVar=typing.
  filterfalse=itertools.", "objects Callable=typing._CallableType
  Iterable=typing._SpecialGenericAlias Iterator=typing._SpecialGenericAlias
  Optional=typing._SpecialForm Set=typing._SpecialGenericAlias Union=typing._SpecialForm
  _T=typing.TypeVar _U=typing.TypeVar", "constant __doc__ None"]),
  ("importlib.resources._legacy", ["functions contents deprecated is_resource normalize_path
  open_binary open_text path read_binary read_text", "classes Any=typing. BinaryIO=typing.
  Resource=str TextIO=typing.", "objects ContextManager=typing._SpecialGenericAlias
  Iterable=typing._SpecialGenericAlias Union=typing._SpecialForm",
  "same Package=importlib.resources.", "modules _common=importlib.resources. functools= os= pathlib=
  types= warnings=", "constant __doc__ None", "part *.__wrapped__ object('function')", "of contents
  is_resource open_binary open_text path read_binary read_text",
  "part *.__dict__ \x7b'__wrapped__': object('function')\x7d", "of contents is_resource open_binary
  open_text path read_binary read_text"]),
  ("importlib.resources.abc", ["functions runtime_checkable=typing:", "classes Any=typing.
  BinaryIO=typing. Protocol=typing. ResourceReader Text=str Traversable TraversableResources",
  "objects Iterable=typing._SpecialGenericAlias Iterator=typing._SpecialGenericAlias
  NoReturn=typing._SpecialForm Optional=typing._SpecialForm Union=typing._SpecialForm",
  "holders StrPath=typing._UnionGenericAlias", "modules abc= io= os=", "constant __doc__ None",
  "exports ResourceReader Traversable TraversableResources", "part StrPath._inst True",
  "part StrPath._name None", "part StrPath._paramspec_tvars False"]),
  ("importlib.resources.readers", ["functions remove_duplicates
  unique_everseen=importlib.resources._itertools:", "classes FileReader MultiplexedPath
  NamespaceReader ZipReader", "modules abc=importlib.resources. collections= operator= pathlib=
  zipfile=", "constant __doc__ None"]),
  ("importlib.resources.simple", ["classes BinaryIO=typing. ResourceContainer ResourceHandle
  SimpleReader Traversable=importlib.resources.abc. TraversableReader
  TraversableResources=importlib.resources.abc.", "objects List=typing._SpecialGenericAlias",
  "modules abc= io= itertools="]),
  ("importlib.simple", ["classes ResourceContainer=importlib.resources.simple.
  ResourceHandle=importlib.resources.simple. SimpleReader=importlib.resources.simple.
  TraversableReader=importlib.resources.simple.", "exports SimpleReader ResourceHandle
  ResourceContainer TraversableReader"]),
  ("importlib.util", ["frozen", "functions _find_spec=_frozen_importlib: _find_spec_from_path
  _module_to_load _resolve_name=_frozen_importlib: cache_from_source=_frozen_importlib_external:
  contextmanager=contextlib: decode_source=_frozen_importlib_external: find_spec module_for_loader
  module_from_spec=_frozen_importlib: resolve_name set_loader set_package
  source_from_cache=_frozen_importlib_external: source_hash
  spec_from_file_location=_frozen_importlib_external: spec_from_loader=_frozen_importlib:",
  "classes LazyLoader Loader=importlib._abc. _LazyModule", "modules _imp= functools= sys= types=
  warnings=", "numbers _RAW_MAGIC_NUMBER=168627623", "constant MAGIC_NUMBER b'\\xa7\\r\\r\\n'",
  "part _module_to_load.__wrapped__ object('function')",
  "part _module_to_load.__dict__ \x7b'__wrapped__': object('function')\x7d"]),
  ("keyword", ["builtins iskeyword=:frozenset.__contains__ issoftkeyword=:frozenset.__contains__",
  "constant kwlist ['False', 'None', 'True', 'and', 'as', 'assert', 'async', 'await', 'break',",
  "| 'class', 'continue', 'def', 'del', 'elif', 'else', 'except', 'finally', 'for', 'from', 'g",
  "|lobal', 'if', 'import', 'in', 'is', 'lambda', 'nonlocal', 'not', 'or', 'pass', 'raise', 'r",
  "|eturn', 'try', 'while', 'with', 'yield']", "constant softkwlist ['_', 'case', 'match']",
  "exports iskeyword issoftkeyword kwlist softkwlist"]),
  ("modulefinder", ["functions AddPackagePath ReplacePackage _find_module test", "classes Module
  ModuleFinder", "modules dis= importlib= io= marshal= os= sys=", "numbers _C_BUILTIN=6
  _C_EXTENSION=3 _PKG_DIRECTORY=5 _PY_COMPILED=2 _PY_FROZEN=7 _PY_SOURCE=1 _SEARCH_ERROR=0",
  "constant packagePathMap \x7b\x7d", "constant replacePackageMap \x7b\x7d"]),
  ("opcode", ["builtins stack_effect=_opcode:", "numbers EXTENDED_ARG=144 HAVE_ARGUMENT=90",
  "constant _cache_format \x7b'LOAD_GLOBAL': \x7b'counter': 1, 'index': 1, 'module_keys_versio",
  "|n': 2, 'builtin_keys_version': 1\x7d, 'BINARY_OP': \x7b'counter': 1\x7d, 'UNPACK_SEQUENCE'",
  "|: \x7b'counter': 1\x7d, 'COMPARE_OP': \x7b'counter': 1, 'mask': 1\x7d, 'BINARY_SUBSCR': ",
  "|\x7b'counter': 1, 'type_version': 2, 'func_version': 1\x7d, 'LOAD_ATTR': \x7b'counter': 1,",
  "| 'version': 2, 'index': 1\x7d, 'STORE_ATTR': \x7b'counter': 1, 'version': 2, 'index': 1",
  "|\x7d, 'LOAD_METHOD': \x7b'counter': 1, 'type_version': 2, 'dict_offset': 1, 'keys_version'",
  "|: 2, 'descr': 4\x7d, 'CALL': \x7b'counter': 1, 'func_version': 2, 'min_args': 1\x7d, 'PREC",
  "|ALL': \x7b'counter': 1\x7d, 'STORE_SUBSCR': \x7b'counter': 1\x7d\x7d",
  "constant _inline_cache_entries [0, 0, 0, 0, 0, 0, 0, 0, 0, 0, 0, 0, 0, 0, 0, 0, 0, 0, 0, 0,",
  "| 0, 0, 0, 0, 0, 4, 0, 0, 0, 0, 0, 0, 0, 0, 0, 0, 0, 0, 0, 0, 0, 0, 0, 0, 0, 0, 0, 0, 0, 0,",
  "| 0, 0, 0, 0, 0, 0, 0, 0, 0, 0, 1, 0, 0, 0, 0, 0, 0, 0, 0, 0, 0, 0, 0, 0, 0, 0, 0, 0, 0, 0,",
  "| 0, 0, 0, 0, 0, 0, 0, 0, 0, 0, 0, 0, 1, 0, 0, 4, 0, 0, 0, 0, 0, 0, 0, 0, 0, 0, 4, 2, 0, 0,",
  "| 0, 0, 0, 0, 0, 0, 5, 0, 0, 0, 0, 0, 1, 0, 0, 0, 0, 0, 0, 0, 0, 0, 0, 0, 0, 0, 0, 0, 0, 0,",
  "| 0, 0, 0, 0, 0, 0, 0, 0, 0, 0, 0, 0, 0, 0, 0, 0, 0, 0, 0, 0, 10, 0, 0, 0, 0, 0, 1, 0, 0, 0",
  "|, 0, 4, 0, 0, 0, 0, 0, 0, 0, 0, 0, 0, 0, 0, 0, 0, 0, 0, 0, 0, 0, 0, 0, 0, 0, 0, 0, 0, 0, 0",
  "|, 0, 0, 0, 0, 0, 0, 0, 0, 0, 0, 0, 0, 0, 0, 0, 0, 0, 0, 0, 0, 0, 0, 0, 0, 0, 0, 0, 0, 0, 0",
  "|, 0, 0, 0, 0, 0, 0, 0, 0, 0, 0, 0, 0, 0, 0, 0, 0, 0, 0, 0, 0, 0, 0, 0, 0, 0, 0]",
  "constant _nb_ops [('NB_ADD', '+'), ('NB_AND', '&'), ('NB_FLOOR_DIVIDE', '//'), ('NB_LSHIFT'",
  "|, '<<'), ('NB_MATRIX_MULTIPLY', '@'), ('NB_MULTIPLY', '*'), ('NB_REMAINDER', '%'), ('NB_OR",
  "|', '|'), ('NB_POWER', '**'), ('NB_RSHIFT', '>>'), ('NB_SUBTRACT', '-'), ('NB_TRUE_DIVIDE',",
  "| '/'), ('NB_XOR', '^'), ('NB_INPLACE_ADD', '+='), ('NB_INPLACE_AND', '&='), ('NB_INPLACE_F",
  "|LOOR_DIVIDE', '//='), ('NB_INPLACE_LSHIFT', '<<='), ('NB_INPLACE_MATRIX_MULTIPLY', '@='), ",
  "|('NB_INPLACE_MULTIPLY', '*='), ('NB_INPLACE_REMAINDER', '%='), ('NB_INPLACE_OR', '|='), ('",
  "|NB_INPLACE_POWER', '**='), ('NB_INPLACE_RSHIFT', '>>='), ('NB_INPLACE_SUBTRACT', '-='), ('",
  "|NB_INPLACE_TRUE_DIVIDE', '/='), ('NB_INPLACE_XOR', '^=')]",
  "constant _specialization_stats ['success', 'failure', 'hit', 'deferred', 'miss', 'deopt']",
  "constant _specializations \x7b'BINARY_OP': ['BINARY_OP_ADAPTIVE', 'BINARY_OP_ADD_FLOAT', 'B",
  "|INARY_OP_ADD_INT', 'BINARY_OP_ADD_UNICODE', 'BINARY_OP_INPLACE_ADD_UNICODE', 'BINARY_OP_MU",
  "|LTIPLY_FLOAT', 'BINARY_OP_MULTIPLY_INT', 'BINARY_OP_SUBTRACT_FLOAT', 'BINARY_OP_SUBTRACT_I",
  "|NT'], 'BINARY_SUBSCR': ['BINARY_SUBSCR_ADAPTIVE', 'BINARY_SUBSCR_DICT', 'BINARY_SUBSCR_GET",
  "|ITEM', 'BINARY_SUBSCR_LIST_INT', 'BINARY_SUBSCR_TUPLE_INT'], 'CALL': ['CALL_ADAPTIVE', 'CA",
  "|LL_PY_EXACT_ARGS', 'CALL_PY_WITH_DEFAULTS'], 'COMPARE_OP': ['COMPARE_OP_ADAPTIVE', 'COMPAR",
  "|E_OP_FLOAT_JUMP', 'COMPARE_OP_INT_JUMP', 'COMPARE_OP_STR_JUMP'], 'EXTENDED_ARG': ['EXTENDE",
  "|D_ARG_QUICK'], 'JUMP_BACKWARD': ['JUMP_BACKWARD_QUICK'], 'LOAD_ATTR': ['LOAD_ATTR_ADAPTIVE",
  "|', 'LOAD_ATTR_INSTANCE_VALUE', 'LOAD_ATTR_MODULE', 'LOAD_ATTR_SLOT', 'LOAD_ATTR_WITH_HINT'",
  "|], 'LOAD_CONST': ['LOAD_CONST__LOAD_FAST'], 'LOAD_FAST': ['LOAD_FAST__LOAD_CONST', 'LOAD_F",
  "|AST__LOAD_FAST'], 'LOAD_GLOBAL': ['LOAD_GLOBAL_ADAPTIVE', 'LOAD_GLOBAL_BUILTIN', 'LOAD_GLO",
  "|BAL_MODULE'], 'LOAD_METHOD': ['LOAD_METHOD_ADAPTIVE', 'LOAD_METHOD_CLASS', 'LOAD_METHOD_MO",
  "|DULE', 'LOAD_METHOD_NO_DICT', 'LOAD_METHOD_WITH_DICT', 'LOAD_METHOD_WITH_VALUES'], 'PRECAL",
  "|L': ['PRECALL_ADAPTIVE', 'PRECALL_BOUND_METHOD', 'PRECALL_BUILTIN_CLASS', 'PRECALL_BUILTIN",
  "|_FAST_WITH_KEYWORDS', 'PRECALL_METHOD_DESCRIPTOR_FAST_WITH_KEYWORDS', 'PRECALL_NO_KW_BUILT",
  "|IN_FAST', 'PRECALL_NO_KW_BUILTIN_O', 'PRECALL_NO_KW_ISINSTANCE', 'PRECALL_NO_KW_LEN', 'PRE",
  "|CALL_NO_KW_LIST_APPEND', 'PRECALL_NO_KW_METHOD_DESCRIPTOR_FAST', 'PRECALL_NO_KW_METHOD_DES",
  "|CRIPTOR_NOARGS', 'PRECALL_NO_KW_METHOD_DESCRIPTOR_O', 'PRECALL_NO_KW_STR_1', 'PRECALL_NO_K",
  "|W_TUPLE_1', 'PRECALL_NO_KW_TYPE_1', 'PRECALL_PYFUNC'], 'RESUME': ['RESUME_QUICK'], 'STORE_",
  "|ATTR': ['STORE_ATTR_ADAPTIVE', 'STORE_ATTR_INSTANCE_VALUE', 'STORE_ATTR_SLOT', 'STORE_ATTR",
  "|_WITH_HINT'], 'STORE_FAST': ['STORE_FAST__LOAD_FAST', 'STORE_FAST__STORE_FAST'], 'STORE_SU",
  "|BSCR': ['STORE_SUBSCR_ADAPTIVE', 'STORE_SUBSCR_DICT', 'STORE_SUBSCR_LIST_INT'], 'UNPACK_SE",
  "|QUENCE': ['UNPACK_SEQUENCE_ADAPTIVE', 'UNPACK_SEQUENCE_LIST', 'UNPACK_SEQUENCE_TUPLE', 'UN",
  "|PACK_SEQUENCE_TWO_TUPLE']\x7d",
  "constant _specialized_instructions ['BINARY_OP_ADAPTIVE', 'BINARY_OP_ADD_FLOAT', 'BINARY_OP",
  "|_ADD_INT', 'BINARY_OP_ADD_UNICODE', 'BINARY_OP_INPLACE_ADD_UNICODE', 'BINARY_OP_MULTIPLY_F",
  "|LOAT', 'BINARY_OP_MULTIPLY_INT', 'BINARY_OP_SUBTRACT_FLOAT', 'BINARY_OP_SUBTRACT_INT', 'BI",
  "|NARY_SUBSCR_ADAPTIVE', 'BINARY_SUBSCR_DICT', 'BINARY_SUBSCR_GETITEM', 'BINARY_SUBSCR_LIST_",
  "|INT', 'BINARY_SUBSCR_TUPLE_INT', 'CALL_ADAPTIVE', 'CALL_PY_EXACT_ARGS', 'CALL_PY_WITH_DEFA",
  "|ULTS', 'COMPARE_OP_ADAPTIVE', 'COMPARE_OP_FLOAT_JUMP', 'COMPARE_OP_INT_JUMP', 'COMPARE_OP_",
  "|STR_JUMP', 'EXTENDED_ARG_QUICK', 'JUMP_BACKWARD_QUICK', 'LOAD_ATTR_ADAPTIVE', 'LOAD_ATTR_I",
  "|NSTANCE_VALUE', 'LOAD_ATTR_MODULE', 'LOAD_ATTR_SLOT', 'LOAD_ATTR_WITH_HINT', 'LOAD_CONST__",
  "|LOAD_FAST', 'LOAD_FAST__LOAD_CONST', 'LOAD_FAST__LOAD_FAST', 'LOAD_GLOBAL_ADAPTIVE', 'LOAD",
  "|_GLOBAL_BUILTIN', 'LOAD_GLOBAL_MODULE', 'LOAD_METHOD_ADAPTIVE', 'LOAD_METHOD_CLASS', 'LOAD",
  "|_METHOD_MODULE', 'LOAD_METHOD_NO_DICT', 'LOAD_METHOD_WITH_DICT', 'LOAD_METHOD_WITH_VALUES'",
  "|, 'PRECALL_ADAPTIVE', 'PRECALL_BOUND_METHOD', 'PRECALL_BUILTIN_CLASS', 'PRECALL_BUILTIN_FA",
  "|ST_WITH_KEYWORDS', 'PRECALL_METHOD_DESCRIPTOR_FAST_WITH_KEYWORDS', 'PRECALL_NO_KW_BUILTIN_",
  "|FAST', 'PRECALL_NO_KW_BUILTIN_O', 'PRECALL_NO_KW_ISINSTANCE', 'PRECALL_NO_KW_LEN', 'PRECAL",
  "|L_NO_KW_LIST_APPEND', 'PRECALL_NO_KW_METHOD_DESCRIPTOR_FAST', 'PRECALL_NO_KW_METHOD_DESCRI",
  "|PTOR_NOARGS', 'PRECALL_NO_KW_METHOD_DESCRIPTOR_O', 'PRECALL_NO_KW_STR_1', 'PRECALL_NO_KW_T",
  "|UPLE_1', 'PRECALL_NO_KW_TYPE_1', 'PRECALL_PYFUNC', 'RESUME_QUICK', 'STORE_ATTR_ADAPTIVE', ",
  "|'STORE_ATTR_INSTANCE_VALUE', 'STORE_ATTR_SLOT', 'STORE_ATTR_WITH_HINT', 'STORE_FAST__LOAD_",
  "|FAST', 'STORE_FAST__STORE_FAST', 'STORE_SUBSCR_ADAPTIVE', 'STORE_SUBSCR_DICT', 'STORE_SUBS",
  "|CR_LIST_INT', 'UNPACK_SEQUENCE_ADAPTIVE', 'UNPACK_SEQUENCE_LIST', 'UNPACK_SEQUENCE_TUPLE',",
  "| 'UNPACK_SEQUENCE_TWO_TUPLE']", "constant cmp_op ('<', '<=', '==', '!=', '>', '>=')",
  "constant hascompare [107]", "constant hasconst [100, 172]",
  "constant hasfree [135, 136, 137, 138, 139, 148]", "constant hasjabs []",
  "constant hasjrel [93, 110, 111, 112, 114, 115, 123, 128, 129, 134, 140, 173, 174, 175, 176]",
  "constant haslocal [124, 125, 126]",
  "constant hasname [90, 91, 95, 96, 97, 98, 101, 106, 108, 109, 116, 160]", "constant hasnargs []",
  "constant opmap \x7b'CACHE': 0, 'POP_TOP': 1, 'PUSH_NULL': 2, 'NOP': 9, 'UNARY_POSITIVE': 10",
  "|, 'UNARY_NEGATIVE': 11, 'UNARY_NOT': 12, 'UNARY_INVERT': 15, 'BINARY_SUBSCR': 25, 'GET_LEN",
  "|': 30, 'MATCH_MAPPING': 31, 'MATCH_SEQUENCE': 32, 'MATCH_KEYS': 33, 'PUSH_EXC_INFO': 35, '",
  "|CHECK_EXC_MATCH': 36, 'CHECK_EG_MATCH': 37, 'WITH_EXCEPT_START': 49, 'GET_AITER': 50, 'GET",
  "|_ANEXT': 51, 'BEFORE_ASYNC_WITH': 52, 'BEFORE_WITH': 53, 'END_ASYNC_FOR': 54, 'STORE_SUBSC",
  "|R': 60, 'DELETE_SUBSCR': 61, 'GET_ITER': 68, 'GET_YIELD_FROM_ITER': 69, 'PRINT_EXPR': 70, ",
  "|'LOAD_BUILD_CLASS': 71, 'LOAD_ASSERTION_ERROR': 74, 'RETURN_GENERATOR': 75, 'LIST_TO_TUPLE",
  "|': 82, 'RETURN_VALUE': 83, 'IMPORT_STAR': 84, 'SETUP_ANNOTATIONS': 85, 'YIELD_VALUE': 86, ",
  "|'ASYNC_GEN_WRAP': 87, 'PREP_RERAISE_STAR': 88, 'POP_EXCEPT': 89, 'STORE_NAME': 90, 'DELETE",
  "|_NAME': 91, 'UNPACK_SEQUENCE': 92, 'FOR_ITER': 93, 'UNPACK_EX': 94, 'STORE_ATTR': 95, 'DEL",
  "|ETE_ATTR': 96, 'STORE_GLOBAL': 97, 'DELETE_GLOBAL': 98, 'SWAP': 99, 'LOAD_CONST': 100, 'LO",
  "|AD_NAME': 101, 'BUILD_TUPLE': 102, 'BUILD_LIST': 103, 'BUILD_SET': 104, 'BUILD_MAP': 105, ",
  "|'LOAD_ATTR': 106, 'COMPARE_OP': 107, 'IMPORT_NAME': 108, 'IMPORT_FROM': 109, 'JUMP_FORWARD",
  "|': 110, 'JUMP_IF_FALSE_OR_POP': 111, 'JUMP_IF_TRUE_OR_POP': 112, 'POP_JUMP_FORWARD_IF_FALS",
  "|E': 114, 'POP_JUMP_FORWARD_IF_TRUE': 115, 'LOAD_GLOBAL': 116, 'IS_OP': 117, 'CONTAINS_OP':",
  "| 118, 'RERAISE': 119, 'COPY': 120, 'BINARY_OP': 122, 'SEND': 123, 'LOAD_FAST': 124, 'STORE",
  "|_FAST': 125, 'DELETE_FAST': 126, 'POP_JUMP_FORWARD_IF_NOT_NONE': 128, 'POP_JUMP_FORWARD_IF",
  "|_NONE': 129, 'RAISE_VARARGS': 130, 'GET_AWAITABLE': 131, 'MAKE_FUNCTION': 132, 'BUILD_SLIC",
  "|E': 133, 'JUMP_BACKWARD_NO_INTERRUPT': 134, 'MAKE_CELL': 135, 'LOAD_CLOSURE': 136, 'LOAD_D",
  "|EREF': 137, 'STORE_DEREF': 138, 'DELETE_DEREF': 139, 'JUMP_BACKWARD': 140, 'CALL_FUNCTION_",
  "|EX': 142, 'EXTENDED_ARG': 144, 'LIST_APPEND': 145, 'SET_ADD': 146, 'MAP_ADD': 147, 'LOAD_C",
  "|LASSDEREF': 148, 'COPY_FREE_VARS': 149, 'RESUME': 151, 'MATCH_CLASS': 152, 'FORMAT_VALUE':",
  "| 155, 'BUILD_CONST_KEY_MAP': 156, 'BUILD_STRING': 157, 'LOAD_METHOD': 160, 'LIST_EXTEND': ",
  "|162, 'SET_UPDATE': 163, 'DICT_MERGE': 164, 'DICT_UPDATE': 165, 'PRECALL': 166, 'CALL': 171",
  "|, 'KW_NAMES': 172, 'POP_JUMP_BACKWARD_IF_NOT_NONE': 173, 'POP_JUMP_BACKWARD_IF_NONE': 174,",
  "| 'POP_JUMP_BACKWARD_IF_FALSE': 175, 'POP_JUMP_BACKWARD_IF_TRUE': 176\x7d", "exports cmp_op
  hasconst hasname hasjrel hasjabs haslocal hascompare hasfree opname opmap HAVE_ARGUMENT
  EXTENDED_ARG hasnargs stack_effect", "objects opname=list"]),
  ("pkgutil", ["functions _get_spec _import_imp _iter_file_finder_modules extend_path find_loader
  get_data get_importer get_loader iter_importer_modules iter_importers iter_modules
  iter_zipimport_modules namedtuple=collections: read_code resolve_name
  simplegeneric=functools:singledispatch walk_packages", "classes ImpImporter ImpLoader ModuleInfo
  ModuleType=module zipimporter=zipimport.", "modules importlib= os= sys= warnings= zipimport=",
  "constant _NAME_PATTERN None", "exports get_importer iter_importers get_loader find_loader
  walk_packages iter_modules get_data ImpImporter ImpLoader read_code extend_path ModuleInfo",
  "part iter_importer_modules.register object('function')",
  "part iter_importer_modules.dispatch object('function')",
  "part iter_importer_modules.registry object('mappingproxy')",
  "part iter_importer_modules._clear_cache object('method')",
  "part iter_importer_modules.__wrapped__ object('function')",
  "part iter_importer_modules.__dict__ \x7b'register': object('function'), 'dispatch': object(",
  "|'function'), 'registry': object('mappingproxy'), '_clear_cache': object('method'), '__wrap",
  "|ped__': object('function')\x7d"]),
  ("py_compile", ["functions _get_default_invalidation_mode compile main", "classes PyCompileError
  PycInvalidationMode", "modules enum= importlib= os= sys= traceback=", "exports compile main
  PyCompileError PycInvalidationMode"]),
  ("pyclbr", ["functions _create_tree _main _nest_class _nest_function _readmodule readmodule
  readmodule_ex", "classes Class Function _ModuleBrowser _Object", "modules ast= importlib= sys=",
  "constant _modules \x7b\x7d", "exports readmodule readmodule_ex Class Function"]),
  ("runpy", ["frozen", "functions _get_code_from_file _get_main_module_details _get_module_details
  _run_code _run_module_as_main _run_module_code run_module run_path", "classes ModuleType=module
  _Error _ModifiedArgv0 _TempModule", "modules importlib= io= os= sys=", "exports run_module
  run_path"]),
  ("symtable", ["functions symtable", "classes Class Function Symbol SymbolTable
  SymbolTableFactory", "objects _newSymbolTable=symtable.SymbolTableFactory", "modules _symtable=
  weakref=", "numbers CELL=5 DEF_ANNOT=256 DEF_BOUND=134 DEF_GLOBAL=1 DEF_IMPORT=128 DEF_LOCAL=2
  DEF_NONLOCAL=8 DEF_PARAM=4 FREE=4 GLOBAL_EXPLICIT=2 GLOBAL_IMPLICIT=3 LOCAL=1 SCOPE_MASK=15
  SCOPE_OFF=11 USE=16", "exports symtable SymbolTable Class Function Symbol"]),
  ("tabnanny", ["functions check errprint format_witnesses main process_tokens", "classes NannyNag
  Whitespace", "modules os= sys= tokenize=", "numbers filename_only=0 verbose=0",
  "constant __version__ '6'", "exports check NannyNag process_tokens"]),
  ("token", ["functions ISEOF ISNONTERMINAL ISTERMINAL", "numbers AMPER=19 AMPEREQUAL=41 ASYNC=56
  AT=49 ATEQUAL=50 AWAIT=55 CIRCUMFLEX=32 CIRCUMFLEXEQUAL=43 COLON=11 COLONEQUAL=53 COMMA=12
  COMMENT=61 DEDENT=6 DOT=23 DOUBLESLASH=47 DOUBLESLASHEQUAL=48 DOUBLESTAR=35 DOUBLESTAREQUAL=46
  ELLIPSIS=52 ENCODING=63 ENDMARKER=0 EQEQUAL=27 EQUAL=22 ERRORTOKEN=60 GREATER=21 GREATEREQUAL=30
  INDENT=5 LBRACE=25 LEFTSHIFT=33 LEFTSHIFTEQUAL=44 LESS=20 LESSEQUAL=29 LPAR=7 LSQB=9 MINEQUAL=37
  MINUS=15 NAME=1 NEWLINE=4 NL=62 NOTEQUAL=28 NT_OFFSET=256 NUMBER=2 N_TOKENS=64 OP=54 PERCENT=24
  PERCENTEQUAL=40 PLUS=14 PLUSEQUAL=36 RARROW=51 RBRACE=26 RIGHTSHIFT=34 RIGHTSHIFTEQUAL=45 RPAR=8
  RSQB=10 SEMI=13 SLASH=17 SLASHEQUAL=39 SOFT_KEYWORD=59 STAR=16 STAREQUAL=38 STRING=3 TILDE=31
  TYPE_COMMENT=58 TYPE_IGNORE=57 VBAR=18 VBAREQUAL=42",
  "constant EXACT_TOKEN_TYPES \x7b'!=': 28, '%': 24, '%=': 40, '&': 19, '&=': 41, '(': 7, ')':",
  "| 8, '*': 16, '**': 35, '**=': 46, '*=': 38, '+': 14, '+=': 36, ',': 12, '-': 15, '-=': 37,",
  "| '->': 51, '.': 23, '...': 52, '/': 17, '//': 47, '//=': 48, '/=': 39, ':': 11, ':=': 53, ",
  "|';': 13, '<': 20, '<<': 33, '<<=': 44, '<=': 29, '=': 22, '==': 27, '>': 21, '>=': 30, '>>",
  "|': 34, '>>=': 45, '@': 49, '@=': 50, '[': 9, ']': 10, '^': 32, '^=': 43, '\x7b': 25, '|': ",
  "|18, '|=': 42, '\x7d': 26, '~': 31\x7d",
  "constant tok_name \x7b0: 'ENDMARKER', 1: 'NAME', 2: 'NUMBER', 3: 'STRING', 4: 'NEWLINE', 5:",
  "| 'INDENT', 6: 'DEDENT', 7: 'LPAR', 8: 'RPAR', 9: 'LSQB', 10: 'RSQB', 11: 'COLON', 12: 'COM",
  "|MA', 13: 'SEMI', 14: 'PLUS', 15: 'MINUS', 16: 'STAR', 17: 'SLASH', 18: 'VBAR', 19: 'AMPER'",
  "|, 20: 'LESS', 21: 'GREATER', 22: 'EQUAL', 23: 'DOT', 24: 'PERCENT', 25: 'LBRACE', 26: 'RBR",
  "|ACE', 27: 'EQEQUAL', 28: 'NOTEQUAL', 29: 'LESSEQUAL', 30: 'GREATEREQUAL', 31: 'TILDE', 32:",
  "| 'CIRCUMFLEX', 33: 'LEFTSHIFT', 34: 'RIGHTSHIFT', 35: 'DOUBLESTAR', 36: 'PLUSEQUAL', 37: '",
  "|MINEQUAL', 38: 'STAREQUAL', 39: 'SLASHEQUAL', 40: 'PERCENTEQUAL', 41: 'AMPEREQUAL', 42: 'V",
  "|BAREQUAL', 43: 'CIRCUMFLEXEQUAL', 44: 'LEFTSHIFTEQUAL', 45: 'RIGHTSHIFTEQUAL', 46: 'DOUBLE",
  "|STAREQUAL', 47: 'DOUBLESLASH', 48: 'DOUBLESLASHEQUAL', 49: 'AT', 50: 'ATEQUAL', 51: 'RARRO",
  "|W', 52: 'ELLIPSIS', 53: 'COLONEQUAL', 54: 'OP', 55: 'AWAIT', 56: 'ASYNC', 57: 'TYPE_IGNORE",
  "|', 58: 'TYPE_COMMENT', 59: 'SOFT_KEYWORD', 60: 'ERRORTOKEN', 61: 'COMMENT', 62: 'NL', 63: ",
  "|'ENCODING', 64: 'N_TOKENS', 256: 'NT_OFFSET'\x7d", "exports tok_name ISTERMINAL ISNONTERMINAL
  ISEOF ENDMARKER NAME NUMBER STRING NEWLINE INDENT DEDENT LPAR RPAR LSQB RSQB COLON COMMA SEMI PLUS
  MINUS STAR SLASH VBAR AMPER LESS GREATER EQUAL DOT PERCENT LBRACE RBRACE EQEQUAL NOTEQUAL
  LESSEQUAL GREATEREQUAL TILDE CIRCUMFLEX LEFTSHIFT RIGHTSHIFT DOUBLESTAR PLUSEQUAL MINEQUAL
  STAREQUAL SLASHEQUAL PERCENTEQUAL AMPEREQUAL VBAREQUAL CIRCUMFLEXEQUAL LEFTSHIFTEQUAL
  RIGHTSHIFTEQUAL DOUBLESTAREQUAL DOUBLESLASH DOUBLESLASHEQUAL AT ATEQUAL RARROW ELLIPSIS COLONEQUAL
  OP AWAIT ASYNC TYPE_IGNORE TYPE_COMMENT SOFT_KEYWORD ERRORTOKEN COMMENT NL ENCODING N_TOKENS
  NT_OFFSET"]),
  ("tokenize", ["takes token", "functions _all_string_prefixes _generate_tokens_from_c_tokenizer
  _get_normal_name _tokenize any detect_encoding generate_tokens group main maybe open tokenize
  untokenize", "builtins _builtin_open=io:open lookup=_codecs:", "classes StopTokenizing
  TextIOWrapper=_io. TokenError TokenInfo Untokenizer",
  "objects _compile=functools._lru_cache_wrapper single_quoted=set triple_quoted=set",
  "holders blank_re=re.Pattern cookie_re=re.Pattern", "modules _itertools=itertools collections=
  functools= re= sys=", "numbers tabsize=8", "constant BOM_UTF8 b'\\xef\\xbb\\xbf'",
  "constant Binnumber '0[bB](?:_?[01])+'", "constant Comment '#[^\\\\r\\\\n]*'",
  "constant ContStr '((|FR|Rf|rF|r|br|fR|R|u|Br|RF|rf|U|rB|B|rb|RB|b|BR|fr|bR|Rb|Fr|F|f)\\'[^",
  "|\\\\n\\'\\\\\\\\]*(?:\\\\\\\\.[^\\\\n\\'\\\\\\\\]*)*(\\'|\\\\\\\\\\\\r?\\\\n)|(|FR|Rf|rF|r",
  "||br|fR|R|u|Br|RF|rf|U|rB|B|rb|RB|b|BR|fr|bR|Rb|Fr|F|f)\"[^\\\\n\"\\\\\\\\]*(?:\\\\\\\\.[^",
  "|\\\\n\"\\\\\\\\]*)*(\"|\\\\\\\\\\\\r?\\\\n))'",
  "constant Decnumber '(?:0(?:_?0)*|[1-9](?:_?[0-9])*)'",
  "constant Double '[^\"\\\\\\\\]*(?:\\\\\\\\.[^\"\\\\\\\\]*)*\"'",
  "constant Double3 '[^\"\\\\\\\\]*(?:(?:\\\\\\\\.|\"(?!\"\"))[^\"\\\\\\\\]*)*\"\"\"'",
  "constant Expfloat '[0-9](?:_?[0-9])*[eE][-+]?[0-9](?:_?[0-9])*'",
  "constant Exponent '[eE][-+]?[0-9](?:_?[0-9])*'",
  "constant Floatnumber '(([0-9](?:_?[0-9])*\\\\.(?:[0-9](?:_?[0-9])*)?|\\\\.[0-9](?:_?[0-9])*",
  "|)([eE][-+]?[0-9](?:_?[0-9])*)?|[0-9](?:_?[0-9])*[eE][-+]?[0-9](?:_?[0-9])*)'",
  "constant Funny '(\\\\r?\\\\n|(\\\\~|\\\\\x7d|\\\\|=|\\\\||\\\\\x7b|\\\\^=|\\\\^|\\\\]|\\\\[",
  "||@=|@|>>=|>>|>=|>|==|=|<=|<<=|<<|<|;|:=|:|/=|//=|//|/|\\\\.\\\\.\\\\.|\\\\.|\\\\->|\\\\-=|",
  "|\\\\-|,|\\\\+=|\\\\+|\\\\*=|\\\\*\\\\*=|\\\\*\\\\*|\\\\*|\\\\)|\\\\(|\\\\&=|\\\\&|%=|%|!=)",
  "|)'", "constant Hexnumber '0[xX](?:_?[0-9a-fA-F])+'",
  "constant Ignore '[ \\\\f\\\\t]*(\\\\\\\\\\\\r?\\\\n[ \\\\f\\\\t]*)*(#[^\\\\r\\\\n]*)?'",
  "constant Imagnumber '([0-9](?:_?[0-9])*[jJ]|(([0-9](?:_?[0-9])*\\\\.(?:[0-9](?:_?[0-9])*)?|",
  "|\\\\.[0-9](?:_?[0-9])*)([eE][-+]?[0-9](?:_?[0-9])*)?|[0-9](?:_?[0-9])*[eE][-+]?[0-9](?:_?[",
  "|0-9])*)[jJ])'",
  "constant Intnumber '(0[xX](?:_?[0-9a-fA-F])+|0[bB](?:_?[01])+|0[oO](?:_?[0-7])+|(?:0(?:_?0)",
  "|*|[1-9](?:_?[0-9])*))'", "constant Name '\\\\w+'",
  "constant Number '(([0-9](?:_?[0-9])*[jJ]|(([0-9](?:_?[0-9])*\\\\.(?:[0-9](?:_?[0-9])*)?|\\",
  "|\\.[0-9](?:_?[0-9])*)([eE][-+]?[0-9](?:_?[0-9])*)?|[0-9](?:_?[0-9])*[eE][-+]?[0-9](?:_?[0-",
  "|9])*)[jJ])|(([0-9](?:_?[0-9])*\\\\.(?:[0-9](?:_?[0-9])*)?|\\\\.[0-9](?:_?[0-9])*)([eE][-+]",
  "|?[0-9](?:_?[0-9])*)?|[0-9](?:_?[0-9])*[eE][-+]?[0-9](?:_?[0-9])*)|(0[xX](?:_?[0-9a-fA-F])+",
  "||0[bB](?:_?[01])+|0[oO](?:_?[0-7])+|(?:0(?:_?0)*|[1-9](?:_?[0-9])*)))'",
  "constant Octnumber '0[oO](?:_?[0-7])+'",
  "constant PlainToken '((([0-9](?:_?[0-9])*[jJ]|(([0-9](?:_?[0-9])*\\\\.(?:[0-9](?:_?[0-9])*)",
  "|?|\\\\.[0-9](?:_?[0-9])*)([eE][-+]?[0-9](?:_?[0-9])*)?|[0-9](?:_?[0-9])*[eE][-+]?[0-9](?:_",
  "|?[0-9])*)[jJ])|(([0-9](?:_?[0-9])*\\\\.(?:[0-9](?:_?[0-9])*)?|\\\\.[0-9](?:_?[0-9])*)([eE]",
  "|[-+]?[0-9](?:_?[0-9])*)?|[0-9](?:_?[0-9])*[eE][-+]?[0-9](?:_?[0-9])*)|(0[xX](?:_?[0-9a-fA-",
  "|F])+|0[bB](?:_?[01])+|0[oO](?:_?[0-7])+|(?:0(?:_?0)*|[1-9](?:_?[0-9])*)))|(\\\\r?\\\\n|(\\",
  "|\\~|\\\\\x7d|\\\\|=|\\\\||\\\\\x7b|\\\\^=|\\\\^|\\\\]|\\\\[|@=|@|>>=|>>|>=|>|==|=|<=|<<=|<",
  "|<|<|;|:=|:|/=|//=|//|/|\\\\.\\\\.\\\\.|\\\\.|\\\\->|\\\\-=|\\\\-|,|\\\\+=|\\\\+|\\\\*=|\\",
  "|\\*\\\\*=|\\\\*\\\\*|\\\\*|\\\\)|\\\\(|\\\\&=|\\\\&|%=|%|!=))|((|FR|Rf|rF|r|br|fR|R|u|Br|R",
  "|F|rf|U|rB|B|rb|RB|b|BR|fr|bR|Rb|Fr|F|f)\\'[^\\\\n\\'\\\\\\\\]*(?:\\\\\\\\.[^\\\\n\\'\\\\\\",
  "|\\]*)*\\'|(|FR|Rf|rF|r|br|fR|R|u|Br|RF|rf|U|rB|B|rb|RB|b|BR|fr|bR|Rb|Fr|F|f)\"[^\\\\n\"\\",
  "|\\\\\\]*(?:\\\\\\\\.[^\\\\n\"\\\\\\\\]*)*\")|\\\\w+)'",
  "constant Pointfloat '([0-9](?:_?[0-9])*\\\\.(?:[0-9](?:_?[0-9])*)?|\\\\.[0-9](?:_?[0-9])*)(",
  "|[eE][-+]?[0-9](?:_?[0-9])*)?'",
  "constant PseudoExtras '(\\\\\\\\\\\\r?\\\\n|\\\\Z|#[^\\\\r\\\\n]*|((|FR|Rf|rF|r|br|fR|R|u|B",
  "|r|RF|rf|U|rB|B|rb|RB|b|BR|fr|bR|Rb|Fr|F|f)\\'\\'\\'|(|FR|Rf|rF|r|br|fR|R|u|Br|RF|rf|U|rB|B",
  "||rb|RB|b|BR|fr|bR|Rb|Fr|F|f)\"\"\"))'",
  "constant PseudoToken '[ \\\\f\\\\t]*((\\\\\\\\\\\\r?\\\\n|\\\\Z|#[^\\\\r\\\\n]*|((|FR|Rf|rF",
  "||r|br|fR|R|u|Br|RF|rf|U|rB|B|rb|RB|b|BR|fr|bR|Rb|Fr|F|f)\\'\\'\\'|(|FR|Rf|rF|r|br|fR|R|u|B",
  "|r|RF|rf|U|rB|B|rb|RB|b|BR|fr|bR|Rb|Fr|F|f)\"\"\"))|(([0-9](?:_?[0-9])*[jJ]|(([0-9](?:_?[0-",
  "|9])*\\\\.(?:[0-9](?:_?[0-9])*)?|\\\\.[0-9](?:_?[0-9])*)([eE][-+]?[0-9](?:_?[0-9])*)?|[0-9]",
  "|(?:_?[0-9])*[eE][-+]?[0-9](?:_?[0-9])*)[jJ])|(([0-9](?:_?[0-9])*\\\\.(?:[0-9](?:_?[0-9])*)",
  "|?|\\\\.[0-9](?:_?[0-9])*)([eE][-+]?[0-9](?:_?[0-9])*)?|[0-9](?:_?[0-9])*[eE][-+]?[0-9](?:_",
  "|?[0-9])*)|(0[xX](?:_?[0-9a-fA-F])+|0[bB](?:_?[01])+|0[oO](?:_?[0-7])+|(?:0(?:_?0)*|[1-9](?",
  "|:_?[0-9])*)))|(\\\\r?\\\\n|(\\\\~|\\\\\x7d|\\\\|=|\\\\||\\\\\x7b|\\\\^=|\\\\^|\\\\]|\\\\[|",
  "|@=|@|>>=|>>|>=|>|==|=|<=|<<=|<<|<|;|:=|:|/=|//=|//|/|\\\\.\\\\.\\\\.|\\\\.|\\\\->|\\\\-=|",
  "|\\\\-|,|\\\\+=|\\\\+|\\\\*=|\\\\*\\\\*=|\\\\*\\\\*|\\\\*|\\\\)|\\\\(|\\\\&=|\\\\&|%=|%|!=)",
  "|)|((|FR|Rf|rF|r|br|fR|R|u|Br|RF|rf|U|rB|B|rb|RB|b|BR|fr|bR|Rb|Fr|F|f)\\'[^\\\\n\\'\\\\\\\\",
  "|]*(?:\\\\\\\\.[^\\\\n\\'\\\\\\\\]*)*(\\'|\\\\\\\\\\\\r?\\\\n)|(|FR|Rf|rF|r|br|fR|R|u|Br|RF",
  "||rf|U|rB|B|rb|RB|b|BR|fr|bR|Rb|Fr|F|f)\"[^\\\\n\"\\\\\\\\]*(?:\\\\\\\\.[^\\\\n\"\\\\\\\\]*",
  "|)*(\"|\\\\\\\\\\\\r?\\\\n))|\\\\w+)'",
  "constant Single \"[^'\\\\\\\\]*(?:\\\\\\\\.[^'\\\\\\\\]*)*'\"",
  "constant Single3 \"[^'\\\\\\\\]*(?:(?:\\\\\\\\.|'(?!''))[^'\\\\\\\\]*)*'''\"",
  "constant Special '(\\\\~|\\\\\x7d|\\\\|=|\\\\||\\\\\x7b|\\\\^=|\\\\^|\\\\]|\\\\[|@=|@|>>=|>",
  "|>|>=|>|==|=|<=|<<=|<<|<|;|:=|:|/=|//=|//|/|\\\\.\\\\.\\\\.|\\\\.|\\\\->|\\\\-=|\\\\-|,|\\",
  "|\\+=|\\\\+|\\\\*=|\\\\*\\\\*=|\\\\*\\\\*|\\\\*|\\\\)|\\\\(|\\\\&=|\\\\&|%=|%|!=)'",
  "constant String '((|FR|Rf|rF|r|br|fR|R|u|Br|RF|rf|U|rB|B|rb|RB|b|BR|fr|bR|Rb|Fr|F|f)\\'[^\\",
  "|\\n\\'\\\\\\\\]*(?:\\\\\\\\.[^\\\\n\\'\\\\\\\\]*)*\\'|(|FR|Rf|rF|r|br|fR|R|u|Br|RF|rf|U|rB",
  "||B|rb|RB|b|BR|fr|bR|Rb|Fr|F|f)\"[^\\\\n\"\\\\\\\\]*(?:\\\\\\\\.[^\\\\n\"\\\\\\\\]*)*\")'",
  "constant StringPrefix '(|FR|Rf|rF|r|br|fR|R|u|Br|RF|rf|U|rB|B|rb|RB|b|BR|fr|bR|Rb|Fr|F|f)'",
  "constant Token '[ \\\\f\\\\t]*(\\\\\\\\\\\\r?\\\\n[ \\\\f\\\\t]*)*(#[^\\\\r\\\\n]*)?((([0-9",
  "|](?:_?[0-9])*[jJ]|(([0-9](?:_?[0-9])*\\\\.(?:[0-9](?:_?[0-9])*)?|\\\\.[0-9](?:_?[0-9])*)([",
  "|eE][-+]?[0-9](?:_?[0-9])*)?|[0-9](?:_?[0-9])*[eE][-+]?[0-9](?:_?[0-9])*)[jJ])|(([0-9](?:_?",
  "|[0-9])*\\\\.(?:[0-9](?:_?[0-9])*)?|\\\\.[0-9](?:_?[0-9])*)([eE][-+]?[0-9](?:_?[0-9])*)?|[0",
  "|-9](?:_?[0-9])*[eE][-+]?[0-9](?:_?[0-9])*)|(0[xX](?:_?[0-9a-fA-F])+|0[bB](?:_?[01])+|0[oO]",
  "|(?:_?[0-7])+|(?:0(?:_?0)*|[1-9](?:_?[0-9])*)))|(\\\\r?\\\\n|(\\\\~|\\\\\x7d|\\\\|=|\\\\||",
  "|\\\\\x7b|\\\\^=|\\\\^|\\\\]|\\\\[|@=|@|>>=|>>|>=|>|==|=|<=|<<=|<<|<|;|:=|:|/=|//=|//|/|\\",
  "|\\.\\\\.\\\\.|\\\\.|\\\\->|\\\\-=|\\\\-|,|\\\\+=|\\\\+|\\\\*=|\\\\*\\\\*=|\\\\*\\\\*|\\\\*",
  "||\\\\)|\\\\(|\\\\&=|\\\\&|%=|%|!=))|((|FR|Rf|rF|r|br|fR|R|u|Br|RF|rf|U|rB|B|rb|RB|b|BR|fr|",
  "|bR|Rb|Fr|F|f)\\'[^\\\\n\\'\\\\\\\\]*(?:\\\\\\\\.[^\\\\n\\'\\\\\\\\]*)*\\'|(|FR|Rf|rF|r|br|",
  "|fR|R|u|Br|RF|rf|U|rB|B|rb|RB|b|BR|fr|bR|Rb|Fr|F|f)\"[^\\\\n\"\\\\\\\\]*(?:\\\\\\\\.[^\\\\n",
  "|\"\\\\\\\\]*)*\")|\\\\w+)'",
  "constant Triple '((|FR|Rf|rF|r|br|fR|R|u|Br|RF|rf|U|rB|B|rb|RB|b|BR|fr|bR|Rb|Fr|F|f)\\'\\'",
  "|\\'|(|FR|Rf|rF|r|br|fR|R|u|Br|RF|rf|U|rB|B|rb|RB|b|BR|fr|bR|Rb|Fr|F|f)\"\"\")'",
  "constant Whitespace '[ \\\\f\\\\t]*'", "constant __author__ 'Ka-Ping Yee <ping\\x40lfw.org>'",
  "constant __credits__ 'GvR, ESR, Tim Peters, Thomas Wouters, Fred Drake, Skip Montanaro, Ray",
  "|mond Hettinger, Trent Nelson, Michael Foord'", "exports tok_name ISTERMINAL ISNONTERMINAL ISEOF
  ENDMARKER NAME NUMBER STRING NEWLINE INDENT DEDENT LPAR RPAR LSQB RSQB COLON COMMA SEMI PLUS MINUS
  STAR SLASH VBAR AMPER LESS GREATER EQUAL DOT PERCENT LBRACE RBRACE EQEQUAL NOTEQUAL LESSEQUAL
  GREATEREQUAL TILDE CIRCUMFLEX LEFTSHIFT RIGHTSHIFT DOUBLESTAR PLUSEQUAL MINEQUAL STAREQUAL
  SLASHEQUAL PERCENTEQUAL AMPEREQUAL VBAREQUAL CIRCUMFLEXEQUAL LEFTSHIFTEQUAL RIGHTSHIFTEQUAL
  DOUBLESTAREQUAL DOUBLESLASH DOUBLESLASHEQUAL AT ATEQUAL RARROW ELLIPSIS COLONEQUAL OP AWAIT ASYNC
  TYPE_IGNORE TYPE_COMMENT SOFT_KEYWORD ERRORTOKEN COMMENT NL ENCODING N_TOKENS NT_OFFSET tokenize
  generate_tokens detect_encoding untokenize TokenInfo", "same EXACT_TOKEN_TYPES=token.",
  "part blank_re.flags 256", "part blank_re.pattern b'^[ \\\\t\\\\f]*(?:[#\\\\r\\\\n]|$)'",
  "part cookie_re.flags 256", "part cookie_re.groups 1",
  "part cookie_re.pattern '^[ \\\\t\\\\f]*#.*?coding[:=][ \\\\t]*([-\\\\w.]+)'",
  "objects endpats=dict"])]

/-- The classes for sources. -/
def languageClasses : List (String × List String) := [
  ("_frozen_importlib.BuiltinImporter", ["open", "class-functions find_spec find_module get_code
  get_source is_package load_module=_frozen_importlib:_load_module_shim", "statics module_repr
  create_module exec_module", "constant _ORIGIN 'built-in'"]),
  ("_frozen_importlib.FrozenImporter", ["open", "class-functions _fix_up_module _resolve_filename
  find_spec find_module load_module get_code get_source is_package", "statics module_repr
  create_module exec_module", "constant _ORIGIN 'frozen'", "constant _SEP '/'"]),
  ("_frozen_importlib.ModuleSpec", ["open", "functions __init__ __repr__ __eq__", "properties cached
  parent has_location", "constant __hash__ None", "part cached.fset object('function')",
  "part has_location.fset object('function')"]),
  ("_frozen_importlib._DeadlockError", ["below RuntimeError", "open __weakref__", "silent"]),
  ("_frozen_importlib._DummyModuleLock", ["open", "functions __init__ acquire release __repr__"]),
  ("_frozen_importlib._ImportLockContext", ["open", "functions __enter__ __exit__"]),
  ("_frozen_importlib._ModuleLock", ["open", "functions __init__ has_deadlock acquire release
  __repr__"]),
  ("_frozen_importlib._ModuleLockManager", ["open", "functions __init__ __enter__ __exit__",
  "silent"]),
  ("_frozen_importlib_external.ExtensionFileLoader", ["above _frozen_importlib_external.FileLoader
  _frozen_importlib_external._LoaderBasics object", "functions __init__ __eq__ __hash__
  create_module exec_module is_package get_code get_source get_filename"]),
  ("_frozen_importlib_external.FileFinder", ["open", "functions __init__ invalidate_caches
  find_module=_frozen_importlib_external:_find_module_shim find_loader _get_spec find_spec
  _fill_cache __repr__", "class-functions path_hook"]),
  ("_frozen_importlib_external.FileLoader", ["open", "functions __init__ __eq__ __hash__ load_module
  get_filename get_data get_resource_reader"]),
  ("_frozen_importlib_external.NamespaceLoader", ["open", "functions __init__ is_package get_source
  get_code create_module exec_module load_module get_resource_reader", "statics module_repr",
  "silent"]),
  ("_frozen_importlib_external.PathFinder", ["open", "class-functions _path_importer_cache
  _legacy_get_spec _get_spec find_spec find_module", "statics invalidate_caches _path_hooks
  find_distributions"]),
  ("_frozen_importlib_external.SourceFileLoader", ["above _frozen_importlib_external.FileLoader
  _frozen_importlib_external.SourceLoader _frozen_importlib_external._LoaderBasics object",
  "functions path_stats _cache_bytecode set_data"]),
  ("_frozen_importlib_external.SourceLoader", ["below _frozen_importlib_external._LoaderBasics",
  "functions path_mtime path_stats _cache_bytecode set_data get_source source_to_code get_code",
  "silent"]),
  ("_frozen_importlib_external.SourcelessFileLoader", ["above _frozen_importlib_external.FileLoader
  _frozen_importlib_external._LoaderBasics object", "functions get_code get_source"]),
  ("_frozen_importlib_external.WindowsRegistryFinder", ["open", "class-functions _search_registry
  find_spec find_module", "statics _open_registry",
  "constant REGISTRY_KEY 'Software\\\\Python\\\\PythonCore\\\\\x7bsys_version\x7d\\\\Modules\\",
  "|\\\x7bfullname\x7d'",
  "constant REGISTRY_KEY_DEBUG 'Software\\\\Python\\\\PythonCore\\\\\x7bsys_version\x7d\\\\Mod",
  "|ules\\\\\x7bfullname\x7d\\\\Debug'", "constant DEBUG_BUILD False"]),
  ("_frozen_importlib_external._LoaderBasics", ["open", "functions is_package create_module
  exec_module load_module"]),
  ("_frozen_importlib_external._NamespacePath", ["open", "functions __init__ _find_parent_path_names
  _get_parent_path _recalculate __iter__ __getitem__ __setitem__ __len__ __repr__ __contains__
  append", "numbers _epoch=0"]),
  ("_tokenize.TokenizerIter", ["shown _tokenize.TokenizerIter", "builtins __new__",
  "operations __getattribute__ __iter__ __next__", "silent"]),
  ("ast.AST", ["shown ast.AST", "open __dict__", "builtins __new__", "operations __getattribute__
  __setattr__ __delattr__ __init__", "methods __reduce__", "silent", "constant _fields ()",
  "constant __match_args__ ()", "constant _attributes ()"]),
  ("ast.Add", ["below ast.operator", "constant _fields ()", "constant __match_args__ ()"]),
  ("ast.And", ["below ast.boolop", "constant _fields ()", "constant __match_args__ ()"]),
  ("ast.AnnAssign", ["below ast.stmt",
  "constant _fields ('target', 'annotation', 'value', 'simple')",
  "constant __match_args__ ('target', 'annotation', 'value', 'simple')", "constant value None"]),
  ("ast.Assert", ["below ast.stmt", "constant _fields ('test', 'msg')",
  "constant __match_args__ ('test', 'msg')", "constant msg None"]),
  ("ast.Assign", ["below ast.stmt", "constant _fields ('targets', 'value', 'type_comment')",
  "constant __match_args__ ('targets', 'value', 'type_comment')", "constant type_comment None"]),
  ("ast.AsyncFor", ["below ast.stmt",
  "constant _fields ('target', 'iter', 'body', 'orelse', 'type_comment')",
  "constant __match_args__ ('target', 'iter', 'body', 'orelse', 'type_comment')",
  "constant type_comment None"]),
  ("ast.AsyncFunctionDef", ["below ast.stmt",
  "constant _fields ('name', 'args', 'body', 'decorator_list', 'returns', 'type_comment')",
  "constant __match_args__ ('name', 'args', 'body', 'decorator_list', 'returns', 'type_comment",
  "|')", "constant returns None", "constant type_comment None"]),
  ("ast.AsyncWith", ["below ast.stmt", "constant _fields ('items', 'body', 'type_comment')",
  "constant __match_args__ ('items', 'body', 'type_comment')", "constant type_comment None"]),
  ("ast.Attribute", ["below ast.expr", "constant _fields ('value', 'attr', 'ctx')",
  "constant __match_args__ ('value', 'attr', 'ctx')"]),
  ("ast.AugAssign", ["below ast.stmt", "constant _fields ('target', 'op', 'value')",
  "constant __match_args__ ('target', 'op', 'value')"]),
  ("ast.AugLoad", ["below ast.expr_context"]),
  ("ast.AugStore", ["below ast.expr_context"]),
  ("ast.Await", ["below ast.expr", "constant _fields ('value',)",
  "constant __match_args__ ('value',)"]),
  ("ast.BinOp", ["below ast.expr", "constant _fields ('left', 'op', 'right')",
  "constant __match_args__ ('left', 'op', 'right')"]),
  ("ast.BitAnd", ["below ast.operator", "constant _fields ()", "constant __match_args__ ()"]),
  ("ast.BitOr", ["below ast.operator", "constant _fields ()", "constant __match_args__ ()"]),
  ("ast.BitXor", ["below ast.operator", "constant _fields ()", "constant __match_args__ ()"]),
  ("ast.BoolOp", ["below ast.expr", "constant _fields ('op', 'values')",
  "constant __match_args__ ('op', 'values')"]),
  ("ast.Break", ["below ast.stmt", "constant _fields ()", "constant __match_args__ ()"]),
  ("ast.Bytes", ["below ast.Constant", "kind ast._ABC", "statics __new__=ast:_new",
  "constant _fields ('s',)"]),
  ("ast.Call", ["below ast.expr", "constant _fields ('func', 'args', 'keywords')",
  "constant __match_args__ ('func', 'args', 'keywords')"]),
  ("ast.ClassDef", ["below ast.stmt",
  "constant _fields ('name', 'bases', 'keywords', 'body', 'decorator_list')",
  "constant __match_args__ ('name', 'bases', 'keywords', 'body', 'decorator_list')"]),
  ("ast.Compare", ["below ast.expr", "constant _fields ('left', 'ops', 'comparators')",
  "constant __match_args__ ('left', 'ops', 'comparators')"]),
  ("ast.Constant", ["below ast.expr", "properties n s", "constant _fields ('value', 'kind')",
  "constant __match_args__ ('value', 'kind')", "constant kind None",
  "part n.fget object('function')", "part n.fset object('function')",
  "part s.fget object('function')", "part s.fset object('function')"]),
  ("ast.Continue", ["below ast.stmt", "constant _fields ()", "constant __match_args__ ()"]),
  ("ast.Del", ["below ast.expr_context", "constant _fields ()", "constant __match_args__ ()"]),
  ("ast.Delete", ["below ast.stmt", "constant _fields ('targets',)",
  "constant __match_args__ ('targets',)"]),
  ("ast.Dict", ["below ast.expr", "constant _fields ('keys', 'values')",
  "constant __match_args__ ('keys', 'values')"]),
  ("ast.DictComp", ["below ast.expr", "constant _fields ('key', 'value', 'generators')",
  "constant __match_args__ ('key', 'value', 'generators')"]),
  ("ast.Div", ["below ast.operator", "constant _fields ()", "constant __match_args__ ()"]),
  ("ast.Ellipsis", ["below ast.Constant", "kind ast._ABC", "statics __new__",
  "constant _fields ()"]),
  ("ast.Eq", ["below ast.cmpop", "constant _fields ()", "constant __match_args__ ()"]),
  ("ast.ExceptHandler", ["below ast.excepthandler", "constant _fields ('type', 'name', 'body')",
  "constant __match_args__ ('type', 'name', 'body')", "constant type None", "constant name None"]),
  ("ast.Expr", ["below ast.stmt", "constant _fields ('value',)",
  "constant __match_args__ ('value',)"]),
  ("ast.Expression", ["below ast.mod", "constant _fields ('body',)",
  "constant __match_args__ ('body',)"]),
  ("ast.ExtSlice", ["below ast.slice", "statics __new__"]),
  ("ast.FloorDiv", ["below ast.operator", "constant _fields ()", "constant __match_args__ ()"]),
  ("ast.For", ["below ast.stmt",
  "constant _fields ('target', 'iter', 'body', 'orelse', 'type_comment')",
  "constant __match_args__ ('target', 'iter', 'body', 'orelse', 'type_comment')",
  "constant type_comment None"]),
  ("ast.FormattedValue", ["below ast.expr",
  "constant _fields ('value', 'conversion', 'format_spec')",
  "constant __match_args__ ('value', 'conversion', 'format_spec')", "constant format_spec None"]),
  ("ast.FunctionDef", ["below ast.stmt",
  "constant _fields ('name', 'args', 'body', 'decorator_list', 'returns', 'type_comment')",
  "constant __match_args__ ('name', 'args', 'body', 'decorator_list', 'returns', 'type_comment",
  "|')", "constant returns None", "constant type_comment None"]),
  ("ast.FunctionType", ["below ast.mod", "constant _fields ('argtypes', 'returns')",
  "constant __match_args__ ('argtypes', 'returns')"]),
  ("ast.GeneratorExp", ["below ast.expr", "constant _fields ('elt', 'generators')",
  "constant __match_args__ ('elt', 'generators')"]),
  ("ast.Global", ["below ast.stmt", "constant _fields ('names',)",
  "constant __match_args__ ('names',)"]),
  ("ast.Gt", ["below ast.cmpop", "constant _fields ()", "constant __match_args__ ()"]),
  ("ast.GtE", ["below ast.cmpop", "constant _fields ()", "constant __match_args__ ()"]),
  ("ast.If", ["below ast.stmt", "constant _fields ('test', 'body', 'orelse')",
  "constant __match_args__ ('test', 'body', 'orelse')"]),
  ("ast.IfExp", ["below ast.expr", "constant _fields ('test', 'body', 'orelse')",
  "constant __match_args__ ('test', 'body', 'orelse')"]),
  ("ast.Import", ["below ast.stmt", "constant _fields ('names',)",
  "constant __match_args__ ('names',)"]),
  ("ast.ImportFrom", ["below ast.stmt", "constant _fields ('module', 'names', 'level')",
  "constant __match_args__ ('module', 'names', 'level')", "constant module None",
  "constant level None"]),
  ("ast.In", ["below ast.cmpop", "constant _fields ()", "constant __match_args__ ()"]),
  ("ast.Index", ["below ast.slice", "statics __new__"]),
  ("ast.Interactive", ["below ast.mod", "constant _fields ('body',)",
  "constant __match_args__ ('body',)"]),
  ("ast.Invert", ["below ast.unaryop", "constant _fields ()", "constant __match_args__ ()"]),
  ("ast.Is", ["below ast.cmpop", "constant _fields ()", "constant __match_args__ ()"]),
  ("ast.IsNot", ["below ast.cmpop", "constant _fields ()", "constant __match_args__ ()"]),
  ("ast.JoinedStr", ["below ast.expr", "constant _fields ('values',)",
  "constant __match_args__ ('values',)"]),
  ("ast.LShift", ["below ast.operator", "constant _fields ()", "constant __match_args__ ()"]),
  ("ast.Lambda", ["below ast.expr", "constant _fields ('args', 'body')",
  "constant __match_args__ ('args', 'body')"]),
  ("ast.List", ["below ast.expr", "constant _fields ('elts', 'ctx')",
  "constant __match_args__ ('elts', 'ctx')"]),
  ("ast.ListComp", ["below ast.expr", "constant _fields ('elt', 'generators')",
  "constant __match_args__ ('elt', 'generators')"]),
  ("ast.Load", ["below ast.expr_context", "constant _fields ()", "constant __match_args__ ()"]),
  ("ast.Lt", ["below ast.cmpop", "constant _fields ()", "constant __match_args__ ()"]),
  ("ast.LtE", ["below ast.cmpop", "constant _fields ()", "constant __match_args__ ()"]),
  ("ast.MatMult", ["below ast.operator", "constant _fields ()", "constant __match_args__ ()"]),
  ("ast.Match", ["below ast.stmt", "constant _fields ('subject', 'cases')",
  "constant __match_args__ ('subject', 'cases')"]),
  ("ast.MatchAs", ["below ast.pattern", "constant _fields ('pattern', 'name')",
  "constant __match_args__ ('pattern', 'name')", "constant pattern None", "constant name None"]),
  ("ast.MatchClass", ["below ast.pattern",
  "constant _fields ('cls', 'patterns', 'kwd_attrs', 'kwd_patterns')",
  "constant __match_args__ ('cls', 'patterns', 'kwd_attrs', 'kwd_patterns')"]),
  ("ast.MatchMapping", ["below ast.pattern", "constant _fields ('keys', 'patterns', 'rest')",
  "constant __match_args__ ('keys', 'patterns', 'rest')", "constant rest None"]),
  ("ast.MatchOr", ["below ast.pattern", "constant _fields ('patterns',)",
  "constant __match_args__ ('patterns',)"]),
  ("ast.MatchSequence", ["below ast.pattern", "constant _fields ('patterns',)",
  "constant __match_args__ ('patterns',)"]),
  ("ast.MatchSingleton", ["below ast.pattern", "constant _fields ('value',)",
  "constant __match_args__ ('value',)"]),
  ("ast.MatchStar", ["below ast.pattern", "constant _fields ('name',)",
  "constant __match_args__ ('name',)", "constant name None"]),
  ("ast.MatchValue", ["below ast.pattern", "constant _fields ('value',)",
  "constant __match_args__ ('value',)"]),
  ("ast.Mod", ["below ast.operator", "constant _fields ()", "constant __match_args__ ()"]),
  ("ast.Module", ["below ast.mod", "constant _fields ('body', 'type_ignores')",
  "constant __match_args__ ('body', 'type_ignores')"]),
  ("ast.Mult", ["below ast.operator", "constant _fields ()", "constant __match_args__ ()"]),
  ("ast.Name", ["below ast.expr", "constant _fields ('id', 'ctx')",
  "constant __match_args__ ('id', 'ctx')"]),
  ("ast.NameConstant", ["below ast.Constant", "kind ast._ABC", "statics __new__=ast:_new"]),
  ("ast.NamedExpr", ["below ast.expr", "constant _fields ('target', 'value')",
  "constant __match_args__ ('target', 'value')"]),
  ("ast.NodeTransformer", ["below ast.NodeVisitor", "functions generic_visit"]),
  ("ast.NodeVisitor", ["open", "functions visit generic_visit visit_Constant"]),
  ("ast.Nonlocal", ["below ast.stmt", "constant _fields ('names',)",
  "constant __match_args__ ('names',)"]),
  ("ast.Not", ["below ast.unaryop", "constant _fields ()", "constant __match_args__ ()"]),
  ("ast.NotEq", ["below ast.cmpop", "constant _fields ()", "constant __match_args__ ()"]),
  ("ast.NotIn", ["below ast.cmpop", "constant _fields ()", "constant __match_args__ ()"]),
  ("ast.Num", ["below ast.Constant", "kind ast._ABC", "statics __new__=ast:_new",
  "constant _fields ('n',)"]),
  ("ast.Or", ["below ast.boolop", "constant _fields ()", "constant __match_args__ ()"]),
  ("ast.Param", ["below ast.expr_context"]),
  ("ast.Pass", ["below ast.stmt", "constant _fields ()", "constant __match_args__ ()"]),
  ("ast.Pow", ["below ast.operator", "constant _fields ()", "constant __match_args__ ()"]),
  ("ast.RShift", ["below ast.operator", "constant _fields ()", "constant __match_args__ ()"]),
  ("ast.Raise", ["below ast.stmt", "constant _fields ('exc', 'cause')",
  "constant __match_args__ ('exc', 'cause')", "constant exc None", "constant cause None"]),
  ("ast.Return", ["below ast.stmt", "constant _fields ('value',)",
  "constant __match_args__ ('value',)", "constant value None"]),
  ("ast.Set", ["below ast.expr", "constant _fields ('elts',)",
  "constant __match_args__ ('elts',)"]),
  ("ast.SetComp", ["below ast.expr", "constant _fields ('elt', 'generators')",
  "constant __match_args__ ('elt', 'generators')"]),
  ("ast.Slice", ["below ast.expr", "constant _fields ('lower', 'upper', 'step')",
  "constant __match_args__ ('lower', 'upper', 'step')", "constant lower None",
  "constant upper None", "constant step None"]),
  ("ast.Starred", ["below ast.expr", "constant _fields ('value', 'ctx')",
  "constant __match_args__ ('value', 'ctx')"]),
  ("ast.Store", ["below ast.expr_context", "constant _fields ()", "constant __match_args__ ()"]),
  ("ast.Str", ["below ast.Constant", "kind ast._ABC", "statics __new__=ast:_new",
  "constant _fields ('s',)"]),
  ("ast.Sub", ["below ast.operator", "constant _fields ()", "constant __match_args__ ()"]),
  ("ast.Subscript", ["below ast.expr", "constant _fields ('value', 'slice', 'ctx')",
  "constant __match_args__ ('value', 'slice', 'ctx')"]),
  ("ast.Suite", ["below ast.mod"]),
  ("ast.Try", ["below ast.stmt", "constant _fields ('body', 'handlers', 'orelse', 'finalbody')",
  "constant __match_args__ ('body', 'handlers', 'orelse', 'finalbody')"]),
  ("ast.TryStar", ["below ast.stmt", "constant _fields ('body', 'handlers', 'orelse', 'finalbody')",
  "constant __match_args__ ('body', 'handlers', 'orelse', 'finalbody')"]),
  ("ast.Tuple", ["below ast.expr", "properties dims", "constant _fields ('elts', 'ctx')",
  "constant __match_args__ ('elts', 'ctx')", "part dims.fget object('function')",
  "part dims.fset object('function')"]),
  ("ast.TypeIgnore", ["below ast.type_ignore", "constant _fields ('lineno', 'tag')",
  "constant __match_args__ ('lineno', 'tag')"]),
  ("ast.UAdd", ["below ast.unaryop", "constant _fields ()", "constant __match_args__ ()"]),
  ("ast.USub", ["below ast.unaryop", "constant _fields ()", "constant __match_args__ ()"]),
  ("ast.UnaryOp", ["below ast.expr", "constant _fields ('op', 'operand')",
  "constant __match_args__ ('op', 'operand')"]),
  ("ast.While", ["below ast.stmt", "constant _fields ('test', 'body', 'orelse')",
  "constant __match_args__ ('test', 'body', 'orelse')"]),
  ("ast.With", ["below ast.stmt", "constant _fields ('items', 'body', 'type_comment')",
  "constant __match_args__ ('items', 'body', 'type_comment')", "constant type_comment None"]),
  ("ast.Yield", ["below ast.expr", "constant _fields ('value',)",
  "constant __match_args__ ('value',)", "constant value None"]),
  ("ast.YieldFrom", ["below ast.expr", "constant _fields ('value',)",
  "constant __match_args__ ('value',)"]),
  ("ast._ABC", ["below type", "functions __init__ __instancecheck__", "silent"]),
  ("ast._Precedence", ["below enum.IntEnum", "kind enum.EnumType",
  "functions _generate_next_value_=enum:Enum._generate_next_value_ next __new__=enum:Enum.__new__",
  "builtins _new_member_", "operations _value_repr_", "methods __format__",
  "classes _member_type_=int", "constant _use_args_ True", "constant _unhashable_values_ []",
  "values NAMED_EXPR=1 TUPLE=2 YIELD=3 TEST=4 OR=5 AND=6 NOT=7 CMP=8 EXPR=9 BOR=9 BXOR=10 BAND=11
  SHIFT=12 ARITH=13 TERM=14 FACTOR=15 POWER=16 AWAIT=17 ATOM=18", "style plain value"]),
  ("ast._Unparser", ["below ast.NodeVisitor", "functions __init__ interleave items_view
  maybe_newline fill write buffered block delimit delimit_if require_parens get_precedence
  set_precedence get_raw_docstring get_type_comment traverse visit
  _write_docstring_and_traverse_body visit_Module visit_FunctionType visit_Expr visit_NamedExpr
  visit_Import visit_ImportFrom visit_Assign visit_AugAssign visit_AnnAssign visit_Return visit_Pass
  visit_Break visit_Continue visit_Delete visit_Assert visit_Global visit_Nonlocal visit_Await
  visit_Yield visit_YieldFrom visit_Raise do_visit_try visit_Try visit_TryStar visit_ExceptHandler
  visit_ClassDef visit_FunctionDef visit_AsyncFunctionDef _function_helper visit_For visit_AsyncFor
  _for_helper visit_If visit_While visit_With visit_AsyncWith _str_literal_helper
  _write_str_avoiding_backslashes visit_JoinedStr _write_fstring_inner visit_FormattedValue
  visit_Name _write_docstring _write_constant visit_Constant visit_List visit_ListComp
  visit_GeneratorExp visit_SetComp visit_DictComp visit_comprehension visit_IfExp visit_Set
  visit_Dict visit_Tuple visit_UnaryOp visit_BinOp visit_Compare visit_BoolOp visit_Attribute
  visit_Call visit_Subscript visit_Starred visit_Ellipsis visit_Slice visit_Match visit_arg
  visit_arguments visit_keyword visit_Lambda visit_alias visit_withitem visit_match_case
  visit_MatchValue visit_MatchSingleton visit_MatchSequence visit_MatchStar visit_MatchMapping
  visit_MatchClass visit_MatchAs visit_MatchOr", "objects binop_rassoc=frozenset",
  "constant unop \x7b'Invert': '~', 'Not': 'not', 'UAdd': '+', 'USub': '-'\x7d",
  "constant unop_precedence \x7b'not': ast._Precedence.NOT, '~': ast._Precedence.FACTOR, '+': ",
  "|ast._Precedence.FACTOR, '-': ast._Precedence.FACTOR\x7d",
  "constant binop \x7b'Add': '+', 'Sub': '-', 'Mult': '*', 'MatMult': '@', 'Div': '/', 'Mod': ",
  "|'%', 'LShift': '<<', 'RShift': '>>', 'BitOr': '|', 'BitXor': '^', 'BitAnd': '&', 'FloorDiv",
  "|': '//', 'Pow': '**'\x7d",
  "constant binop_precedence \x7b'+': ast._Precedence.ARITH, '-': ast._Precedence.ARITH, '*': ",
  "|ast._Precedence.TERM, '@': ast._Precedence.TERM, '/': ast._Precedence.TERM, '%': ast._Prec",
  "|edence.TERM, '<<': ast._Precedence.SHIFT, '>>': ast._Precedence.SHIFT, '|': ast._Precedenc",
  "|e.EXPR, '^': ast._Precedence.BXOR, '&': ast._Precedence.BAND, '//': ast._Precedence.TERM, ",
  "|'**': ast._Precedence.POWER\x7d",
  "constant cmpops \x7b'Eq': '==', 'NotEq': '!=', 'Lt': '<', 'LtE': '<=', 'Gt': '>', 'GtE': '>",
  "|=', 'Is': 'is', 'IsNot': 'is not', 'In': 'in', 'NotIn': 'not in'\x7d",
  "constant boolops \x7b'And': 'and', 'Or': 'or'\x7d",
  "constant boolop_precedence \x7b'and': ast._Precedence.AND, 'or': ast._Precedence.OR\x7d",
  "part *.__wrapped__ object('function')", "of buffered block delimit",
  "part *.__dict__ \x7b'__wrapped__': object('function')\x7d", "of buffered block delimit"]),
  ("ast.alias", ["below ast.AST", "open __weakref__", "constant _fields ('name', 'asname')",
  "constant __match_args__ ('name', 'asname')",
  "constant _attributes ('lineno', 'col_offset', 'end_lineno', 'end_col_offset')",
  "constant asname None", "constant end_lineno None", "constant end_col_offset None"]),
  ("ast.arg", ["below ast.AST", "open __weakref__",
  "constant _fields ('arg', 'annotation', 'type_comment')",
  "constant __match_args__ ('arg', 'annotation', 'type_comment')",
  "constant _attributes ('lineno', 'col_offset', 'end_lineno', 'end_col_offset')",
  "constant annotation None", "constant type_comment None", "constant end_lineno None",
  "constant end_col_offset None"]),
  ("ast.arguments", ["below ast.AST", "open __weakref__",
  "constant _fields ('posonlyargs', 'args', 'vararg', 'kwonlyargs', 'kw_defaults', 'kwarg', 'd",
  "|efaults')",
  "constant __match_args__ ('posonlyargs', 'args', 'vararg', 'kwonlyargs', 'kw_defaults', 'kwa",
  "|rg', 'defaults')", "constant _attributes ()", "constant vararg None", "constant kwarg None"]),
  ("ast.boolop", ["below ast.AST", "open __weakref__", "constant _fields ()",
  "constant __match_args__ ()", "constant _attributes ()"]),
  ("ast.cmpop", ["below ast.AST", "open __weakref__", "constant _fields ()",
  "constant __match_args__ ()", "constant _attributes ()"]),
  ("ast.comprehension", ["below ast.AST", "open __weakref__",
  "constant _fields ('target', 'iter', 'ifs', 'is_async')",
  "constant __match_args__ ('target', 'iter', 'ifs', 'is_async')", "constant _attributes ()"]),
  ("ast.excepthandler", ["below ast.AST", "open __weakref__", "constant _fields ()",
  "constant __match_args__ ()",
  "constant _attributes ('lineno', 'col_offset', 'end_lineno', 'end_col_offset')",
  "constant end_lineno None", "constant end_col_offset None"]),
  ("ast.expr", ["below ast.AST", "open __weakref__", "constant _fields ()",
  "constant __match_args__ ()",
  "constant _attributes ('lineno', 'col_offset', 'end_lineno', 'end_col_offset')",
  "constant end_lineno None", "constant end_col_offset None"]),
  ("ast.expr_context", ["below ast.AST", "open __weakref__", "constant _fields ()",
  "constant __match_args__ ()", "constant _attributes ()"]),
  ("ast.keyword", ["below ast.AST", "open __weakref__", "constant _fields ('arg', 'value')",
  "constant __match_args__ ('arg', 'value')",
  "constant _attributes ('lineno', 'col_offset', 'end_lineno', 'end_col_offset')",
  "constant arg None", "constant end_lineno None", "constant end_col_offset None"]),
  ("ast.match_case", ["below ast.AST", "open __weakref__",
  "constant _fields ('pattern', 'guard', 'body')",
  "constant __match_args__ ('pattern', 'guard', 'body')", "constant _attributes ()",
  "constant guard None"]),
  ("ast.mod", ["below ast.AST", "open __weakref__", "constant _fields ()",
  "constant __match_args__ ()", "constant _attributes ()"]),
  ("ast.operator", ["below ast.AST", "open __weakref__", "constant _fields ()",
  "constant __match_args__ ()", "constant _attributes ()"]),
  ("ast.pattern", ["below ast.AST", "open __weakref__", "constant _fields ()",
  "constant __match_args__ ()",
  "constant _attributes ('lineno', 'col_offset', 'end_lineno', 'end_col_offset')"]),
  ("ast.slice", ["below ast.AST", "open __weakref__"]),
  ("ast.stmt", ["below ast.AST", "open __weakref__", "constant _fields ()",
  "constant __match_args__ ()",
  "constant _attributes ('lineno', 'col_offset', 'end_lineno', 'end_col_offset')",
  "constant end_lineno None", "constant end_col_offset None"]),
  ("ast.type_ignore", ["below ast.AST", "open __weakref__", "constant _fields ()",
  "constant __match_args__ ()", "constant _attributes ()"]),
  ("ast.unaryop", ["below ast.AST", "open __weakref__", "constant _fields ()",
  "constant __match_args__ ()", "constant _attributes ()"]),
  ("ast.withitem", ["below ast.AST", "open __weakref__",
  "constant _fields ('context_expr', 'optional_vars')",
  "constant __match_args__ ('context_expr', 'optional_vars')", "constant _attributes ()",
  "constant optional_vars None"]),
  ("code.InteractiveConsole", ["below code.InteractiveInterpreter", "functions __init__ resetbuffer
  interact push raw_input"]),
  ("code.InteractiveInterpreter", ["open", "functions __init__ runsource runcode showsyntaxerror
  showtraceback write"]),
  ("codeop.CommandCompiler", ["open", "functions __init__ __call__"]),
  ("codeop.Compile", ["open", "functions __init__ __call__"]),
  ("dis.Bytecode", ["open", "functions __init__ __iter__ __repr__ info dis",
  "class-functions from_traceback"]),
  ("dis.Instruction", ["below dis._Instruction", "open __dict__", "functions _disassemble"]),
  ("dis.Positions", ["below tuple", "functions _replace=collections:Positions._replace
  __repr__=collections:Positions.__repr__ _asdict=collections:Positions._asdict
  __getnewargs__=collections:Positions.__getnewargs__",
  "class-functions _make=collections:Positions._make",
  "statics __new__=namedtuple_Positions:Positions.__new__",
  "objects lineno=_collections._tuplegetter end_lineno=_collections._tuplegetter
  col_offset=_collections._tuplegetter end_col_offset=_collections._tuplegetter",
  "constant __slots__ ()",
  "constant _fields ('lineno', 'end_lineno', 'col_offset', 'end_col_offset')",
  "constant _field_defaults \x7b'lineno': None, 'end_lineno': None, 'col_offset': None, 'end_c",
  "|ol_offset': None\x7d",
  "constant __match_args__ ('lineno', 'end_lineno', 'col_offset', 'end_col_offset')"]),
  ("dis._ExceptionTableEntry", ["below tuple",
  "functions _replace=collections:_ExceptionTableEntry._replace
  __repr__=collections:_ExceptionTableEntry.__repr__
  _asdict=collections:_ExceptionTableEntry._asdict
  __getnewargs__=collections:_ExceptionTableEntry.__getnewargs__",
  "class-functions _make=collections:_ExceptionTableEntry._make",
  "statics __new__=namedtuple__ExceptionTableEntry:_ExceptionTableEntry.__new__",
  "objects start=_collections._tuplegetter end=_collections._tuplegetter
  target=_collections._tuplegetter depth=_collections._tuplegetter lasti=_collections._tuplegetter",
  "constant __slots__ ()", "constant _fields ('start', 'end', 'target', 'depth', 'lasti')",
  "constant _field_defaults \x7b\x7d",
  "constant __match_args__ ('start', 'end', 'target', 'depth', 'lasti')"]),
  ("dis._Instruction", ["below tuple", "functions _replace=collections:_Instruction._replace
  __repr__=collections:_Instruction.__repr__ _asdict=collections:_Instruction._asdict
  __getnewargs__=collections:_Instruction.__getnewargs__",
  "class-functions _make=collections:_Instruction._make",
  "statics __new__=namedtuple__Instruction:_Instruction.__new__",
  "objects opname=_collections._tuplegetter opcode=_collections._tuplegetter
  arg=_collections._tuplegetter argval=_collections._tuplegetter argrepr=_collections._tuplegetter
  offset=_collections._tuplegetter starts_line=_collections._tuplegetter
  is_jump_target=_collections._tuplegetter positions=_collections._tuplegetter",
  "constant __slots__ ()",
  "constant _fields ('opname', 'opcode', 'arg', 'argval', 'argrepr', 'offset', 'starts_line', ",
  "|'is_jump_target', 'positions')", "constant _field_defaults \x7b'positions': None\x7d",
  "constant __match_args__ ('opname', 'opcode', 'arg', 'argval', 'argrepr', 'offset', 'starts_",
  "|line', 'is_jump_target', 'positions')"]),
  ("dis._Unknown", ["open", "functions __repr__", "silent"]),
  ("imp.NullImporter", ["open", "functions __init__ find_module"]),
  ("imp._HackedGetData", ["open", "functions __init__ get_data"]),
  ("imp._LoadCompiledCompatibility", ["above imp._HackedGetData
  _frozen_importlib_external.SourcelessFileLoader _frozen_importlib_external.FileLoader
  _frozen_importlib_external._LoaderBasics object"]),
  ("imp._LoadSourceCompatibility", ["above imp._HackedGetData
  _frozen_importlib_external.SourceFileLoader _frozen_importlib_external.FileLoader
  _frozen_importlib_external.SourceLoader _frozen_importlib_external._LoaderBasics object"]),
  ("importlib._abc.Loader", ["kind abc.ABCMeta", "open", "functions create_module load_module
  module_repr"]),
  ("importlib.abc.ExecutionLoader", ["below importlib.abc.InspectLoader", "kind abc.ABCMeta",
  "functions get_filename get_code", "part get_filename.__isabstractmethod__ True",
  "part get_filename.__dict__ \x7b'__isabstractmethod__': True\x7d"]),
  ("importlib.abc.FileLoader", ["above _frozen_importlib_external.FileLoader
  importlib.abc.ResourceLoader importlib.abc.ExecutionLoader importlib.abc.InspectLoader
  importlib._abc.Loader object", "kind abc.ABCMeta"]),
  ("importlib.abc.Finder", ["kind abc.ABCMeta", "open", "functions __init__ find_module",
  "part find_module.__isabstractmethod__ True",
  "part find_module.__dict__ \x7b'__isabstractmethod__': True\x7d"]),
  ("importlib.abc.InspectLoader", ["below importlib._abc.Loader", "kind abc.ABCMeta",
  "functions is_package get_code get_source
  exec_module=_frozen_importlib_external:_LoaderBasics.exec_module
  load_module=_frozen_importlib_external:_LoaderBasics.load_module", "statics source_to_code",
  "part get_source.__isabstractmethod__ True",
  "part get_source.__dict__ \x7b'__isabstractmethod__': True\x7d"]),
  ("importlib.abc.MetaPathFinder", ["kind abc.ABCMeta", "open", "functions find_module
  invalidate_caches"]),
  ("importlib.abc.PathEntryFinder", ["kind abc.ABCMeta", "open", "functions find_loader
  find_module=_frozen_importlib_external:_find_module_shim invalidate_caches"]),
  ("importlib.abc.ResourceLoader", ["below importlib._abc.Loader", "kind abc.ABCMeta",
  "functions get_data", "part get_data.__isabstractmethod__ True",
  "part get_data.__dict__ \x7b'__isabstractmethod__': True\x7d"]),
  ("importlib.abc.SourceLoader", ["above _frozen_importlib_external.SourceLoader
  _frozen_importlib_external._LoaderBasics importlib.abc.ResourceLoader
  importlib.abc.ExecutionLoader importlib.abc.InspectLoader importlib._abc.Loader object",
  "kind abc.ABCMeta", "functions path_mtime path_stats set_data"]),
  ("importlib.metadata.Deprecated", ["open", "functions __getitem__ get __iter__ __contains__ keys
  values", "holders _warn=functools.partial",
  "part _warn.args ('SelectableGroups dict interface is deprecated. Use select.', DeprecationW",
  "|arning)", "part _warn.keywords \x7b'stacklevel': 2\x7d"]),
  ("importlib.metadata.DeprecatedList", ["below list", "functions _wrap_deprecated_method
  __setitem__=importlib.metadata:DeprecatedList._wrap_deprecated_method.<locals>.wrapped
  __delitem__=importlib.metadata:DeprecatedList._wrap_deprecated_method.<locals>.wrapped
  append=importlib.metadata:DeprecatedList._wrap_deprecated_method.<locals>.wrapped
  reverse=importlib.metadata:DeprecatedList._wrap_deprecated_method.<locals>.wrapped
  extend=importlib.metadata:DeprecatedList._wrap_deprecated_method.<locals>.wrapped
  pop=importlib.metadata:DeprecatedList._wrap_deprecated_method.<locals>.wrapped
  remove=importlib.metadata:DeprecatedList._wrap_deprecated_method.<locals>.wrapped
  __iadd__=importlib.metadata:DeprecatedList._wrap_deprecated_method.<locals>.wrapped
  insert=importlib.metadata:DeprecatedList._wrap_deprecated_method.<locals>.wrapped
  sort=importlib.metadata:DeprecatedList._wrap_deprecated_method.<locals>.wrapped __add__ __eq__",
  "holders _warn=functools.partial", "constant __slots__ ()", "constant __hash__ None",
  "part _warn.args ('EntryPoints list interface is deprecated. Cast to list if needed.', Depre",
  "|cationWarning)", "part _warn.keywords \x7b'stacklevel': 2\x7d"]),
  ("importlib.metadata.DeprecatedTuple", ["open", "functions __getitem__",
  "holders _warn=functools.partial",
  "part _warn.args ('EntryPoint tuple interface is deprecated. Access members by name.', Depre",
  "|cationWarning)", "part _warn.keywords \x7b'stacklevel': 2\x7d"]),
  ("importlib.metadata.Distribution", ["open", "functions read_text locate_file _read_files_distinfo
  _read_files_egginfo _read_dist_info_reqs _read_egg_info_reqs", "class-functions from_name discover
  _deps_from_requires_text", "statics at _discover_resolvers _convert_egg_info_reqs_to_simple_reqs",
  "properties metadata name _normalized_name version entry_points files requires",
  "part *.__isabstractmethod__ True", "of read_text locate_file",
  "part *.__dict__ \x7b'__isabstractmethod__': True\x7d", "of read_text locate_file"]),
  ("importlib.metadata.DistributionFinder", ["below importlib.abc.MetaPathFinder",
  "kind abc.ABCMeta", "functions find_distributions",
  "classes Context=importlib.metadata.DistributionFinder.",
  "part find_distributions.__isabstractmethod__ True",
  "part find_distributions.__dict__ \x7b'__isabstractmethod__': True\x7d"]),
  ("importlib.metadata.EntryPoint", ["below importlib.metadata.DeprecatedTuple", "functions __init__
  load _for __iter__ matches _key __lt__ __eq__ __setattr__ __repr__ __hash__", "properties module
  attr extras", "holders pattern=re.Pattern",
  "constant __annotations__ \x7b'name': str, 'value': str, 'group': str, 'dist': typing._Union",
  "|GenericAlias(...)\x7d", "constant dist None", "part pattern.groupindex object('mappingproxy')",
  "part pattern.groups 5",
  "part pattern.pattern '(?P<module>[\\\\w.]+)\\\\s*(:\\\\s*(?P<attr>[\\\\w.]+)\\\\s*)?((?P<ex",
  "|tras>\\\\[.*\\\\])\\\\s*)?$'"]),
  ("importlib.metadata.EntryPoints", ["below importlib.metadata.DeprecatedList",
  "functions __getitem__ select", "class-functions _from_text_for", "statics _from_text",
  "properties names groups", "constant __slots__ ()"]),
  ("importlib.metadata.FastPath", ["open", "functions __init__ joinpath children zip_children search
  lookup=importlib.metadata._functools:method_cache.<locals>.wrapper", "properties mtime",
  "objects __new__=functools._lru_cache_wrapper"]),
  ("importlib.metadata.FileHash", ["open", "functions __init__ __repr__", "silent"]),
  ("importlib.metadata.Lookup", ["open", "functions __init__ search", "silent"]),
  ("importlib.metadata.MetadataPathFinder", ["below importlib.metadata.DistributionFinder",
  "kind abc.ABCMeta", "class-functions find_distributions _search_paths invalidate_caches",
  "silent"]),
  ("importlib.metadata.PackageNotFoundError", ["below ModuleNotFoundError", "open __weakref__",
  "functions __str__", "properties name"]),
  ("importlib.metadata.PackagePath", ["below pathlib.PurePosixPath", "open", "functions read_text
  read_binary locate"]),
  ("importlib.metadata.PathDistribution", ["below importlib.metadata.Distribution",
  "functions __init__ read_text locate_file", "statics _name_from_stem",
  "properties _normalized_name", "silent"]),
  ("importlib.metadata.Prepared", ["open", "functions __init__ __bool__", "statics normalize
  legacy_normalize", "constant normalized None", "constant legacy_normalized None"]),
  ("importlib.metadata.Sectioned", ["open", "class-functions section_pairs", "statics read valid",
  "constant _sample '[sec1]\\n# comments ignored\\na = 1\\nb = 2\\n\\n[sec2]\\na = 2\\n'"]),
  ("importlib.metadata.SelectableGroups", ["above importlib.metadata.Deprecated dict object",
  "open", "functions select", "class-functions load", "properties _all groups names"]),
  ("importlib.metadata._adapters.Message", ["below email.message.Message", "functions __init__
  __iter__ _repair_headers", "statics __new__", "properties json", "objects multiple_use_keys=set",
  "silent"]),
  ("importlib.metadata._collections.FreezableDefaultDict", ["below collections.defaultdict", "open",
  "functions __missing__ freeze"]),
  ("importlib.metadata._collections.Pair", ["below tuple", "open __dict__",
  "functions _replace=collections:Pair._replace __repr__=collections:Pair.__repr__
  _asdict=collections:Pair._asdict __getnewargs__=collections:Pair.__getnewargs__",
  "class-functions parse _make=collections:Pair._make",
  "statics __new__=namedtuple_Pair:Pair.__new__", "objects name=_collections._tuplegetter
  value=_collections._tuplegetter", "silent", "constant __slots__ ()",
  "constant _fields ('name', 'value')", "constant _field_defaults \x7b\x7d",
  "constant __match_args__ ('name', 'value')"]),
  ("importlib.metadata._meta.PackageMetadata", ["below typing.Protocol",
  "kind typing._ProtocolMeta", "open", "functions __len__ __contains__ __getitem__ __iter__ get_all
  __subclasshook__=typing:Protocol.__init_subclass__.<locals>._proto_hook
  __init__=typing:_no_init_or_replace_init", "properties json", "silent",
  "constant __parameters__ ()", "constant _is_protocol True"]),
  ("importlib.metadata._meta.SimplePath", ["below typing.Protocol", "kind typing._ProtocolMeta",
  "open", "functions joinpath __truediv__ parent read_text
  __subclasshook__=typing:Protocol.__init_subclass__.<locals>._proto_hook
  __init__=typing:_no_init_or_replace_init", "constant __parameters__ ()",
  "constant _is_protocol True"]),
  ("importlib.metadata._text.FoldedCase", ["below str", "open", "functions __lt__ __gt__ __eq__
  __ne__ __hash__ __contains__ in_ lower=importlib.metadata._functools:method_cache.<locals>.wrapper
  index split"]),
  ("importlib.resources._adapters.CompatibilityFiles", ["open", "functions __init__ _native
  __getattr__ files", "properties _reader",
  "classes SpecPath=importlib.resources._adapters.CompatibilityFiles.
  ChildPath=importlib.resources._adapters.CompatibilityFiles.
  OrphanPath=importlib.resources._adapters.CompatibilityFiles."]),
  ("importlib.resources._adapters.SpecLoaderAdapter", ["open", "functions __init__ __getattr__"]),
  ("importlib.resources._adapters.TraversableResourcesLoader", ["open", "functions __init__
  get_resource_reader"]),
  ("importlib.resources.abc.ResourceReader", ["kind abc.ABCMeta", "open", "functions open_resource
  resource_path is_resource contents", "part *.__isabstractmethod__ True", "of open_resource
  resource_path is_resource contents", "part *.__dict__ \x7b'__isabstractmethod__': True\x7d",
  "of open_resource resource_path is_resource contents"]),
  ("importlib.resources.abc.Traversable", ["below typing.Protocol", "kind typing._ProtocolMeta",
  "open", "functions iterdir read_bytes read_text is_dir is_file joinpath __truediv__ open
  __subclasshook__=typing:Protocol.__init_subclass__.<locals>._proto_hook
  __init__=typing:_no_init_or_replace_init", "objects name=abc.abstractproperty",
  "constant __parameters__ ()", "constant _is_protocol True", "constant _is_runtime_protocol True",
  "part *.__isabstractmethod__ True", "of iterdir is_dir is_file joinpath open",
  "part *.__dict__ \x7b'__isabstractmethod__': True\x7d", "of iterdir is_dir is_file
  joinpath open"]),
  ("importlib.resources.abc.TraversableResources", ["below importlib.resources.abc.ResourceReader",
  "kind abc.ABCMeta", "functions files open_resource resource_path is_resource contents",
  "part files.__isabstractmethod__ True",
  "part files.__dict__ \x7b'__isabstractmethod__': True\x7d"]),
  ("importlib.resources.readers.FileReader", ["below importlib.resources.abc.TraversableResources",
  "kind abc.ABCMeta", "functions __init__ resource_path files", "silent"]),
  ("importlib.resources.readers.MultiplexedPath", ["below importlib.resources.abc.Traversable",
  "kind typing._ProtocolMeta", "functions __init__ iterdir read_bytes read_text is_dir is_file
  joinpath __truediv__=importlib.resources.readers:MultiplexedPath.joinpath open __repr__
  __subclasshook__=typing:Protocol.__init_subclass__.<locals>._proto_hook", "properties name",
  "constant __parameters__ ()", "constant _is_protocol False"]),
  ("importlib.resources.readers.NamespaceReader", [
  "below importlib.resources.abc.TraversableResources", "kind abc.ABCMeta", "functions __init__
  resource_path files", "silent"]),
  ("importlib.resources.readers.ZipReader", ["below importlib.resources.abc.TraversableResources",
  "kind abc.ABCMeta", "functions __init__ open_resource is_resource files", "silent"]),
  ("importlib.resources.simple.ResourceContainer", ["below importlib.resources.abc.Traversable",
  "kind typing._ProtocolMeta", "functions __init__ is_dir is_file iterdir open joinpath
  __subclasshook__=typing:Protocol.__init_subclass__.<locals>._proto_hook", "statics _flatten",
  "constant __parameters__ ()", "constant _is_protocol False"]),
  ("importlib.resources.simple.ResourceHandle", ["below importlib.resources.abc.Traversable",
  "kind typing._ProtocolMeta", "functions __init__ is_file is_dir open joinpath
  __subclasshook__=typing:Protocol.__init_subclass__.<locals>._proto_hook",
  "constant __parameters__ ()", "constant _is_protocol False"]),
  ("importlib.resources.simple.SimpleReader", ["below abc.ABC", "kind abc.ABCMeta", "open",
  "functions children resources open_binary", "properties name",
  "objects package=abc.abstractproperty", "part *.__isabstractmethod__ True", "of children resources
  open_binary", "part *.__dict__ \x7b'__isabstractmethod__': True\x7d", "of children resources
  open_binary"]),
  ("importlib.resources.simple.TraversableReader", [
  "above importlib.resources.abc.TraversableResources importlib.resources.abc.ResourceReader
  importlib.resources.simple.SimpleReader abc.ABC object", "kind abc.ABCMeta", "functions files"]),
  ("importlib.util.LazyLoader", ["below importlib._abc.Loader", "kind abc.ABCMeta",
  "functions __init__ create_module exec_module", "class-functions factory",
  "statics _LazyLoader__check_eager_loader=importlib.util:LazyLoader.__check_eager_loader"]),
  ("importlib.util._LazyModule", ["below module", "functions __getattribute__ __delattr__"]),
  ("modulefinder.Module", ["open", "functions __init__ __repr__", "silent"]),
  ("modulefinder.ModuleFinder", ["open", "functions __init__ msg msgin msgout run_script load_file
  import_hook determine_parent find_head_package load_tail ensure_fromlist find_all_submodules
  import_module load_module _add_badmodule _safe_import_hook scan_opcodes scan_code load_package
  add_module find_module report any_missing any_missing_maybe replace_paths_in_code", "silent"]),
  ("pkgutil.ImpImporter", ["open", "functions __init__ find_module iter_modules"]),
  ("pkgutil.ImpLoader", ["open", "functions __init__ load_module get_data _reopen _fix_name
  is_package get_code get_source _get_delegate get_filename", "constant code None",
  "constant source None"]),
  ("pkgutil.ModuleInfo", ["below tuple", "functions _replace=collections:ModuleInfo._replace
  __repr__=collections:ModuleInfo.__repr__ _asdict=collections:ModuleInfo._asdict
  __getnewargs__=collections:ModuleInfo.__getnewargs__",
  "class-functions _make=collections:ModuleInfo._make",
  "statics __new__=namedtuple_ModuleInfo:ModuleInfo.__new__",
  "objects module_finder=_collections._tuplegetter name=_collections._tuplegetter
  ispkg=_collections._tuplegetter", "constant __slots__ ()",
  "constant _fields ('module_finder', 'name', 'ispkg')", "constant _field_defaults \x7b\x7d",
  "constant __match_args__ ('module_finder', 'name', 'ispkg')"]),
  ("py_compile.PyCompileError", ["below Exception", "open __weakref__", "functions __init__
  __str__"]),
  ("py_compile.PycInvalidationMode", ["below enum.Enum", "kind enum.EnumType",
  "functions _generate_next_value_=enum:Enum._generate_next_value_ __new__=enum:Enum.__new__",
  "builtins _new_member_", "classes _member_type_=object", "constant _use_args_ False",
  "constant _unhashable_values_ []", "constant _value_repr_ None", "silent", "values TIMESTAMP=1
  CHECKED_HASH=2 UNCHECKED_HASH=3", "style plain name"]),
  ("pyclbr.Class", ["below pyclbr._Object", "functions __init__"]),
  ("pyclbr.Function", ["below pyclbr._Object", "functions __init__"]),
  ("pyclbr._ModuleBrowser", ["below ast.NodeVisitor", "functions __init__ visit_ClassDef
  visit_FunctionDef visit_AsyncFunctionDef visit_Import visit_ImportFrom", "silent"]),
  ("pyclbr._Object", ["open", "functions __init__"]),
  ("runpy._Error", ["below Exception", "open __weakref__"]),
  ("runpy._ModifiedArgv0", ["open", "functions __init__ __enter__ __exit__", "silent"]),
  ("runpy._TempModule", ["open", "functions __init__ __enter__ __exit__"]),
  ("symtable.Class", ["below symtable.SymbolTable", "functions get_methods",
  "constant _Class__methods None", "silent"]),
  ("symtable.Function", ["below symtable.SymbolTable",
  "functions _Function__idents_matching=symtable:Function.__idents_matching get_parameters
  get_locals get_globals get_nonlocals get_frees", "constant _Function__params None",
  "constant _Function__locals None", "constant _Function__frees None",
  "constant _Function__globals None", "constant _Function__nonlocals None", "silent"]),
  ("symtable.Symbol", ["open", "functions __init__ __repr__ get_name is_referenced is_parameter
  is_global is_nonlocal is_declared_global is_local is_annotated is_free is_imported is_assigned
  is_namespace get_namespaces get_namespace", "silent"]),
  ("symtable.SymbolTable", ["open", "functions __init__ __repr__ get_type get_id get_name get_lineno
  is_optimized is_nested has_children get_identifiers lookup get_symbols
  _SymbolTable__check_children=symtable:SymbolTable.__check_children get_children", "silent"]),
  ("symtable.SymbolTableFactory", ["open", "functions __init__ new __call__", "silent"]),
  ("tabnanny.NannyNag", ["below Exception", "open __weakref__", "functions __init__ get_lineno
  get_msg get_line"]),
  ("tabnanny.Whitespace", ["open", "functions __init__ longest_run_of_spaces indent_level equal
  not_equal_witness less not_less_witness", "constant S ' '", "constant T '\\t'", "silent"]),
  ("tokenize.StopTokenizing", ["below Exception", "open __weakref__", "silent"]),
  ("tokenize.TokenError", ["below Exception", "open __weakref__", "silent"]),
  ("tokenize.TokenInfo", ["below tuple", "open __dict__", "functions __repr__
  _replace=collections:TokenInfo._replace _asdict=collections:TokenInfo._asdict
  __getnewargs__=collections:TokenInfo.__getnewargs__",
  "class-functions _make=collections:TokenInfo._make",
  "statics __new__=namedtuple_TokenInfo:TokenInfo.__new__", "properties exact_type",
  "objects type=_collections._tuplegetter string=_collections._tuplegetter
  start=_collections._tuplegetter end=_collections._tuplegetter line=_collections._tuplegetter",
  "silent", "constant __slots__ ()", "constant _fields ('type', 'string', 'start', 'end', 'line')",
  "constant _field_defaults \x7b\x7d",
  "constant __match_args__ ('type', 'string', 'start', 'end', 'line')"]),
  ("tokenize.Untokenizer", ["open", "functions __init__ add_whitespace untokenize compat",
  "silent"])]

end FragmentWeaver.Standard
