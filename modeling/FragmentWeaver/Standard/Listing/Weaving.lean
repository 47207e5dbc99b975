/-!
# Listing: weaving

What stands in the modules and classes for weaving.
-/

namespace FragmentWeaver.Standard

/-- The modules for weaving. -/
def weavingModules : List (String × List String) := [
  ("codeweave", ["package", "functions allocate_unit append_to_path clear_bindings
  default_search_path default_weaver discard discover_archives indent_block infer inline
  load_artifact main method name_type next_unit_id parse_args pending_bindings public_name
  purge_stale_artifacts render_import render_result_type source_root stage_source staging_root
  synthesize unit_artifacts unit_directory", "classes BindingRecord=codeweave.runtime.unit.
  BindingStore=codeweave.bindings. CompilationResult=codeweave.runtime.compiler.
  ConsoleHost=codeweave.runtime.host. GeneratedUnit=codeweave.runtime.unit.
  HostInterface=codeweave.runtime.host. Invocable=codeweave.runtime.unit.
  LoadedArtifact=codeweave.runtime.loader. LoadingContext=codeweave.runtime.loader.
  PythonToolchain=codeweave.runtime.compiler. TypeDescriptor=codeweave.runtime.inference.
  TypeKind=codeweave.runtime.inference. UnitId=codeweave.runtime.identity.
  UnitIdAllocator=codeweave.runtime.identity. UnitKind=codeweave.runtime.unit.
  WeaveLoadError=codeweave.runtime.loader. WeaveResult=codeweave.runtime.weaver.
  Weaver=codeweave.runtime.weaver.", "objects ALLOCATOR=codeweave.runtime.identity.UnitIdAllocator
  BINDINGS=codeweave.bindings.BindingStore OBJECT=codeweave.runtime.inference.TypeDescriptor",
  "modules _bindings=codeweave.bindings _constants=codeweave.constants _runtime=codeweave.runtime
  bindings constants runtime", "constant ARCHIVE_SUFFIXES ('.zip', '.whl', '.egg')",
  "constant ARRAY_TYPECODES \x7b'b': 'int', 'B': 'int', 'h': 'int', 'H': 'int', 'i': 'int', 'I",
  "|': 'int', 'l': 'int', 'L': 'int', 'q': 'int', 'Q': 'int', 'f': 'float', 'd': 'float', 'u':",
  "| 'str', 'w': 'str'\x7d", "constant ARTIFACT_SUFFIX '.pyc'",
  "constant DEFAULT_RESULT_TYPE 'object'",
  "constant HEADER '# Generated by codeweave for unit \x7bunit\x7d. Do not edit.'",
  "constant INVOCABLE_MODULE 'codeweave.runtime.unit'", "constant NESTED_SEPARATOR '__'",
  "constant PRIMITIVE_BUILTINS (bool, int, float, complex, str, bytes)",
  "constant PRIMITIVE_WRAPPERS \x7bctypes.c_bool: 'bool', ctypes.c_char: 'bytes', ctypes.c_wch",
  "|ar: 'str', ctypes.c_byte: 'int', ctypes.c_ubyte: 'int', ctypes.c_short: 'int', ctypes.c_us",
  "|hort: 'int', ctypes.c_int: 'int', ctypes.c_uint: 'int', ctypes.c_long: 'int', ctypes.c_ulo",
  "|ng: 'int', ctypes.c_float: 'float', ctypes.c_double: 'float', ctypes.c_longdouble: 'float'",
  "|\x7d", "constant PRIVATE_PREFIX '_cw_'", "constant SEARCH_PATH_ENV 'CODEWEAVE_PATH'",
  "constant SOURCE_BANNER '###### codeweave GENERATED CODE #####'",
  "constant SOURCE_BANNER_END '###### END #####'", "constant SOURCE_SUFFIX '.py'",
  "constant STAGING_DIR_ENV 'CODEWEAVE_STAGING_DIR'",
  "constant SUPPORT_MODULE 'codeweave.bindings'", "constant UNIT_NAMESPACE 'woven'",
  "constant UNIT_PREFIX 'gen'", "same MISSING=codeweave.bindings. cast=codeweave.bindings.
  put=codeweave.bindings. steal=codeweave.bindings. unbox=codeweave.bindings.",
  "exports UNIT_NAMESPACE UNIT_PREFIX NESTED_SEPARATOR SOURCE_SUFFIX ARTIFACT_SUFFIX
  DEFAULT_RESULT_TYPE STAGING_DIR_ENV SEARCH_PATH_ENV ARCHIVE_SUFFIXES SOURCE_BANNER
  SOURCE_BANNER_END SUPPORT_MODULE INVOCABLE_MODULE BINDINGS BindingStore MISSING cast
  clear_bindings discard pending_bindings put steal unbox ALLOCATOR UnitId UnitIdAllocator
  allocate_unit next_unit_id ARRAY_TYPECODES OBJECT PRIMITIVE_BUILTINS PRIMITIVE_WRAPPERS
  TypeDescriptor TypeKind infer name_type public_name BindingRecord GeneratedUnit Invocable UnitKind
  HEADER PRIVATE_PREFIX indent_block render_import render_result_type synthesize CompilationResult
  PythonToolchain append_to_path default_search_path discover_archives purge_stale_artifacts
  source_root stage_source staging_root unit_artifacts unit_directory LoadedArtifact LoadingContext
  WeaveLoadError load_artifact ConsoleHost HostInterface WeaveResult Weaver default_weaver inline
  method main parse_args"]),
  ("codeweave.__main__", ["functions _run main"]),
  ("codeweave.bindings", ["functions clear_bindings discard pending_bindings", "classes Any=typing.
  BindingStore _Missing", "objects BINDINGS=codeweave.bindings.BindingStore LOG=logging.Logger
  annotations=__future__._Feature", "modules logging= threading=", "exports BINDINGS BindingStore
  MISSING cast clear_bindings discard pending_bindings put steal unbox"]),
  ("codeweave.constants", ["constant ARCHIVE_SUFFIXES ('.zip', '.whl', '.egg')",
  "constant ARTIFACT_SUFFIX '.pyc'", "constant DEFAULT_RESULT_TYPE 'object'",
  "constant INVOCABLE_MODULE 'codeweave.runtime.unit'", "constant NESTED_SEPARATOR '__'",
  "constant SEARCH_PATH_ENV 'CODEWEAVE_PATH'",
  "constant SOURCE_BANNER '###### codeweave GENERATED CODE #####'",
  "constant SOURCE_BANNER_END '###### END #####'", "constant SOURCE_SUFFIX '.py'",
  "constant STAGING_DIR_ENV 'CODEWEAVE_STAGING_DIR'",
  "constant SUPPORT_MODULE 'codeweave.bindings'", "constant UNIT_NAMESPACE 'woven'",
  "constant UNIT_PREFIX 'gen'", "exports UNIT_NAMESPACE UNIT_PREFIX NESTED_SEPARATOR SOURCE_SUFFIX
  ARTIFACT_SUFFIX DEFAULT_RESULT_TYPE STAGING_DIR_ENV SEARCH_PATH_ENV ARCHIVE_SUFFIXES SOURCE_BANNER
  SOURCE_BANNER_END SUPPORT_MODULE INVOCABLE_MODULE"]),
  ("codeweave.runtime", ["package", "functions allocate_unit append_to_path default_search_path
  default_weaver discover_archives indent_block infer inline load_artifact main method name_type
  next_unit_id parse_args public_name purge_stale_artifacts render_import render_result_type
  source_root stage_source staging_root synthesize unit_artifacts unit_directory",
  "classes BindingRecord=codeweave.runtime.unit. CompilationResult=codeweave.runtime.compiler.
  ConsoleHost=codeweave.runtime.host. GeneratedUnit=codeweave.runtime.unit.
  HostInterface=codeweave.runtime.host. Invocable=codeweave.runtime.unit.
  LoadedArtifact=codeweave.runtime.loader. LoadingContext=codeweave.runtime.loader.
  PythonToolchain=codeweave.runtime.compiler. TypeDescriptor=codeweave.runtime.inference.
  TypeKind=codeweave.runtime.inference. UnitId=codeweave.runtime.identity.
  UnitIdAllocator=codeweave.runtime.identity. UnitKind=codeweave.runtime.unit.
  WeaveLoadError=codeweave.runtime.loader. WeaveResult=codeweave.runtime.weaver.
  Weaver=codeweave.runtime.weaver.", "objects ALLOCATOR=codeweave.runtime.identity.UnitIdAllocator
  OBJECT=codeweave.runtime.inference.TypeDescriptor", "modules _compiler=codeweave.runtime.compiler
  _host=codeweave.runtime.host _identity=codeweave.runtime.identity
  _inference=codeweave.runtime.inference _loader=codeweave.runtime.loader
  _synthesis=codeweave.runtime.synthesis _unit=codeweave.runtime.unit
  _weaver=codeweave.runtime.weaver cli compiler host identity inference loader synthesis unit
  weaver", "constant HEADER '# Generated by codeweave for unit \x7bunit\x7d. Do not edit.'",
  "constant PRIMITIVE_BUILTINS (bool, int, float, complex, str, bytes)",
  "constant PRIVATE_PREFIX '_cw_'", "exports ALLOCATOR UnitId UnitIdAllocator allocate_unit
  next_unit_id ARRAY_TYPECODES OBJECT PRIMITIVE_BUILTINS PRIMITIVE_WRAPPERS TypeDescriptor TypeKind
  infer name_type public_name BindingRecord GeneratedUnit Invocable UnitKind HEADER PRIVATE_PREFIX
  indent_block render_import render_result_type synthesize CompilationResult PythonToolchain
  append_to_path default_search_path discover_archives purge_stale_artifacts source_root
  stage_source staging_root unit_artifacts unit_directory LoadedArtifact LoadingContext
  WeaveLoadError load_artifact ConsoleHost HostInterface WeaveResult Weaver default_weaver inline
  method main parse_args", "same ARRAY_TYPECODES=codeweave. PRIMITIVE_WRAPPERS=codeweave."]),
  ("codeweave.runtime.cli", ["functions _invoke _parse_binding _parse_value _report_failure main
  parse_args", "classes Path=pathlib. PythonToolchain=codeweave.runtime.compiler.
  WeaveLoadError=codeweave.runtime.loader. Weaver=codeweave.runtime.weaver.",
  "objects annotations=__future__._Feature", "modules argparse= json= logging= sys=", "exports main
  parse_args"]),
  ("codeweave.runtime.compiler", ["functions append_to_path dataclass default_search_path
  discover_archives field purge_stale_artifacts source_root stage_source staging_root unit_artifacts
  unit_directory", "classes CompilationResult Path=pathlib. PythonToolchain
  UnitId=codeweave.runtime.identity.", "objects Iterable=typing._SpecialGenericAlias
  LOG=logging.Logger Mapping=typing._SpecialGenericAlias Optional=typing._SpecialForm
  annotations=__future__._Feature", "modules logging= os= subprocess= sys= tempfile=",
  "constant ARCHIVE_SUFFIXES ('.zip', '.whl', '.egg')", "constant ARTIFACT_SUFFIX '.pyc'",
  "constant NESTED_SEPARATOR '__'", "constant SEARCH_PATH_ENV 'CODEWEAVE_PATH'",
  "constant SOURCE_SUFFIX '.py'", "constant STAGING_DIR_ENV 'CODEWEAVE_STAGING_DIR'",
  "constant _DRIVER 'import py_compile\\nimport sys\\n\\noptimize = int(sys.argv[1])\\nfailed ",
  "|= False\\nfor source, target in zip(sys.argv[2::2], sys.argv[3::2]):\\n    try:\\n        ",
  "|py_compile.compile(source, cfile=target, doraise=True, optimize=optimize)\\n    except py_",
  "|compile.PyCompileError as exc:\\n        sys.stderr.write(exc.msg.rstrip() + \"\\\\n\")\\n",
  "|        failed = True\\nsys.exit(1 if failed else 0)\\n'", "exports CompilationResult
  PythonToolchain append_to_path default_search_path discover_archives purge_stale_artifacts
  source_root stage_source staging_root unit_artifacts unit_directory"]),
  ("codeweave.runtime.host", ["classes ConsoleHost HostInterface",
  "objects annotations=__future__._Feature",
  "constant SOURCE_BANNER '###### codeweave GENERATED CODE #####'",
  "constant SOURCE_BANNER_END '###### END #####'", "exports ConsoleHost HostInterface"]),
  ("codeweave.runtime.identity", ["functions allocate_unit dataclass next_unit_id", "classes UnitId
  UnitIdAllocator", "objects ALLOCATOR=codeweave.runtime.identity.UnitIdAllocator
  annotations=__future__._Feature", "modules threading=", "constant UNIT_NAMESPACE 'woven'",
  "constant UNIT_PREFIX 'gen'", "exports ALLOCATOR UnitId UnitIdAllocator allocate_unit
  next_unit_id"]),
  ("codeweave.runtime.inference", ["functions _common_type _is_private _list_array _list_shape
  _module_aliases _nest _resolve _typecoded_array dataclass infer name_type public_name",
  "classes Enum=enum. TypeDescriptor TypeKind",
  "objects OBJECT=codeweave.runtime.inference.TypeDescriptor annotations=__future__._Feature",
  "modules array= builtins= ctypes= sys=",
  "constant PRIMITIVE_BUILTINS (bool, int, float, complex, str, bytes)",
  "constant _WRAPPED_PRIMITIVES (('c_bool', 'bool'), ('c_char', 'bytes'), ('c_wchar', 'str'), ",
  "|('c_byte', 'int'), ('c_ubyte', 'int'), ('c_short', 'int'), ('c_ushort', 'int'), ('c_int', ",
  "|'int'), ('c_uint', 'int'), ('c_long', 'int'), ('c_ulong', 'int'), ('c_longlong', 'int'), (",
  "|'c_ulonglong', 'int'), ('c_float', 'float'), ('c_double', 'float'), ('c_longdouble', 'floa",
  "|t'))", "exports ARRAY_TYPECODES OBJECT PRIMITIVE_BUILTINS PRIMITIVE_WRAPPERS TypeDescriptor
  TypeKind infer name_type public_name", "same ARRAY_TYPECODES=codeweave.
  PRIMITIVE_WRAPPERS=codeweave."]),
  ("codeweave.runtime.loader", ["functions _notify dataclass field load_artifact",
  "classes Any=typing. LoadedArtifact LoadingContext Path=pathlib.
  UnitId=codeweave.runtime.identity. WeaveLoadError _ContextFinder", "objects LOG=logging.Logger
  annotations=__future__._Feature", "modules importlib= logging= sys=",
  "constant ARTIFACT_SUFFIX '.pyc'", "constant NESTED_SEPARATOR '__'",
  "constant UNIT_NAMESPACE 'woven'", "exports LoadedArtifact LoadingContext WeaveLoadError
  load_artifact"]),
  ("codeweave.runtime.synthesis", ["functions _cast_target _check_binding_name _header
  _private_alias _synthesize_inline _synthesize_method indent_block infer name_type public_name
  render_import render_result_type synthesize", "classes BindingRecord=codeweave.runtime.unit.
  GeneratedUnit=codeweave.runtime.unit. UnitId=codeweave.runtime.identity.
  UnitKind=codeweave.runtime.unit.", "objects ALLOCATOR=codeweave.runtime.identity.UnitIdAllocator
  BINDINGS=codeweave.bindings.BindingStore Iterable=typing._SpecialGenericAlias LOG=logging.Logger
  Mapping=typing._SpecialGenericAlias Optional=typing._SpecialForm annotations=__future__._Feature",
  "modules keyword= logging= textwrap= types=", "constant DEFAULT_RESULT_TYPE 'object'",
  "constant HEADER '# Generated by codeweave for unit \x7bunit\x7d. Do not edit.'",
  "constant INVOCABLE_MODULE 'codeweave.runtime.unit'", "constant PRIVATE_PREFIX '_cw_'",
  "constant SUPPORT_MODULE 'codeweave.bindings'", "exports HEADER PRIVATE_PREFIX indent_block
  render_import render_result_type synthesize"]),
  ("codeweave.runtime.unit", ["functions dataclass field", "classes Any=typing. BindingRecord
  Enum=enum. GeneratedUnit Generic=typing. Invocable TypeDescriptor=codeweave.runtime.inference.
  TypeVar=typing. UnitId=codeweave.runtime.identity. UnitKind",
  "objects Optional=typing._SpecialForm T=typing.TypeVar annotations=__future__._Feature",
  "modules abc=", "exports BindingRecord GeneratedUnit Invocable UnitKind"]),
  ("codeweave.runtime.weaver", ["functions append_to_path dataclass default_search_path
  default_weaver inline load_artifact method purge_stale_artifacts source_root stage_source
  staging_root synthesize unit_directory", "classes Any=typing.
  CompilationResult=codeweave.runtime.compiler. ConsoleHost=codeweave.runtime.host. Path=pathlib.
  PythonToolchain=codeweave.runtime.compiler. UnitId=codeweave.runtime.identity.
  UnitKind=codeweave.runtime.unit. WeaveResult Weaver",
  "objects ALLOCATOR=codeweave.runtime.identity.UnitIdAllocator
  BINDINGS=codeweave.bindings.BindingStore Iterable=typing._SpecialGenericAlias LOG=logging.Logger
  Mapping=typing._SpecialGenericAlias Optional=typing._SpecialForm _DEFAULT_LOCK=_thread.lock
  annotations=__future__._Feature", "modules logging= threading=", "constant _DEFAULT_WEAVER None",
  "exports WeaveResult Weaver default_weaver inline method"])]

/-- The classes for weaving. -/
def weavingClasses : List (String × List String) := [
  ("codeweave.bindings.BindingStore", ["open", "functions __init__ put steal discard pending clear
  __len__"]),
  ("codeweave.bindings._Missing", ["open", "functions __new__ __repr__ __bool__",
  "objects _instance=codeweave.bindings._Missing"]),
  ("codeweave.runtime.compiler.CompilationResult", ["open", "functions __bool__ __init__ __repr__
  __eq__", "constant diagnostics ''", "constant __hash__ None",
  "constant __annotations__ \x7b'success': 'bool', 'diagnostics': 'str', 'artifacts': 'list[Pa",
  "|th]'\x7d", "constant __match_args__ ('success', 'diagnostics', 'artifacts')"]),
  ("codeweave.runtime.compiler.PythonToolchain", ["open", "functions __init__ command compile"]),
  ("codeweave.runtime.host.ConsoleHost", ["open", "functions show_source"]),
  ("codeweave.runtime.host.HostInterface", ["open", "functions show_source handle_exception"]),
  ("codeweave.runtime.identity.UnitId", ["open", "functions __post_init__ __str__ __init__ __repr__
  __eq__ __setattr__ __delattr__ __hash__", "class-functions parse generated",
  "properties qualified_name",
  "constant __annotations__ \x7b'namespace': 'str', 'simple_name': 'str'\x7d",
  "constant __match_args__ ('namespace', 'simple_name')"]),
  ("codeweave.runtime.identity.UnitIdAllocator", ["open", "functions __init__ next allocate",
  "properties last"]),
  ("codeweave.runtime.inference.TypeDescriptor", ["open",
  "members kind=codeweave.runtime.inference.TypeKind.PLAIN", "functions __init__ __repr__ __eq__
  __setattr__ __delattr__ __hash__", "properties is_boxed", "constant modules ()",
  "constant __annotations__ \x7b'type_name': 'str', 'cast_name': 'str', 'kind': 'TypeKind', 'm",
  "|odules': 'tuple'\x7d",
  "constant __match_args__ ('type_name', 'cast_name', 'kind', 'modules')"]),
  ("codeweave.runtime.inference.TypeKind", ["below enum.Enum", "kind enum.EnumType",
  "value PRIMITIVE 'primitive'", "value PLAIN 'plain'", "value ARRAY 'array'", "style plain name"]),
  ("codeweave.runtime.loader.LoadedArtifact", ["open", "functions __init__ __repr__ __eq__",
  "constant __hash__ None",
  "constant __annotations__ \x7b'handle': 'Any', 'unit': 'UnitId', 'modules': 'list[str]'\x7d",
  "constant __match_args__ ('handle', 'unit', 'modules')"]),
  ("codeweave.runtime.loader.LoadingContext", ["open", "functions __init__ open __enter__ __exit__
  find_spec _owned load discover_nested close", "properties loaded"]),
  ("codeweave.runtime.loader.WeaveLoadError", ["below RuntimeError", "open __weakref__",
  "functions __init__"]),
  ("codeweave.runtime.loader._ContextFinder", ["open", "functions __init__ find_spec"]),
  ("codeweave.runtime.unit.BindingRecord", ["open", "functions __init__ __repr__ __eq__ __setattr__
  __delattr__ __hash__",
  "constant __annotations__ \x7b'unit': 'UnitId', 'name': 'str', 'value': 'Any', 'descriptor':",
  "| 'TypeDescriptor'\x7d", "constant __match_args__ ('unit', 'name', 'value', 'descriptor')"]),
  ("codeweave.runtime.unit.GeneratedUnit", ["open", "functions __repr__ __init__ __eq__",
  "properties filename", "constant result_type None", "constant __hash__ None",
  "constant __annotations__ \x7b'unit': 'UnitId', 'kind': 'UnitKind', 'source': 'str', 'fragme",
  "|nt': 'str', 'bindings': 'list[BindingRecord]', 'result_type': 'Optional[str]', 'imports': ",
  "|'list[str]'\x7d",
  "constant __match_args__ ('unit', 'kind', 'source', 'fragment', 'bindings', 'result_type', '",
  "|imports')"]),
  ("codeweave.runtime.unit.Invocable", ["open", "functions __call__ call",
  "constant __parameters__ (typing.TypeVar('T'),)", "part __call__.__isabstractmethod__ True"]),
  ("codeweave.runtime.unit.UnitKind", ["below enum.Enum", "kind enum.EnumType",
  "value INLINE 'inline'", "value METHOD 'method'", "style plain name"]),
  ("codeweave.runtime.weaver.WeaveResult", ["open", "functions __bool__ __init__ __repr__ __eq__",
  "properties diagnostics", "constant compilation None", "constant handle None",
  "constant __hash__ None",
  "constant __annotations__ \x7b'unit': 'UnitId', 'source': 'str', 'compilation': 'Optional[Co",
  "|mpilationResult]', 'handle': 'Any'\x7d",
  "constant __match_args__ ('unit', 'source', 'compilation', 'handle')"]),
  ("codeweave.runtime.weaver.Weaver", ["open", "functions __init__ _show weave_inline inline
  weave_method method generate", "properties root"])]

end FragmentWeaver.Standard
