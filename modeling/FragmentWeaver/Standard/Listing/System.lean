/-!
# Listing: the system

What stands in the modules and classes for users, limits, foreign code, arguments and logs.
-/

namespace FragmentWeaver.Standard

/-- The modules for the system. -/
def systemModules : List (String × List String) := [
  ("_aix_support", ["functions _aix_bgt _aix_bos_rte _aix_tag _aix_vrtl aix_buildtag aix_platform",
  "modules subprocess= sys= sysconfig="]),
  ("_bootsubprocess", ["functions _check_cmd check_output", "classes Popen", "modules os="]),
  ("_crypt", ["extension", "builtins crypt", "constant __doc__ None"]),
  ("_ctypes", ["extension", "builtins POINTER PyObj_FromPtr Py_DECREF Py_INCREF _unpickle addressof
  alignment buffer_info byref call_cdeclfunction call_function dlclose dlopen dlsym get_errno
  pointer resize set_errno sizeof", "classes ArgumentError=ctypes. Array CFuncPtr Structure Union
  _Pointer _SimpleCData", "numbers CTYPES_MAX_ARGCOUNT=1024 FUNCFLAG_CDECL=1 FUNCFLAG_PYTHONAPI=4
  FUNCFLAG_USE_ERRNO=8 FUNCFLAG_USE_LASTERROR=16 RTLD_GLOBAL=256 RTLD_LOCAL=0
  _cast_addr=140275398344000 _memmove_addr=140275393006208 _memset_addr=140275393008768
  _string_at_addr=140275398343904 _wstring_at_addr=140275398344304", "constant __version__ '1.1.0'",
  "constant _pointer_type_cache \x7bctypes.c_wchar: ctypes.LP_c_wchar, ctypes.c_char: ctypes.L",
  "|P_c_char, None: ctypes.c_void_p\x7d"]),
  ("_osx_support", ["functions _check_for_unavailable_sdk _default_sysroot
  _find_appropriate_compiler _find_build_tool _find_executable _get_system_version
  _get_system_version_tuple _override_all_archs _read_output _remove_original_values
  _remove_universal_flags _remove_unsupported_archs _save_modified_value _supports_arm64_builds
  _supports_universal_builds compiler_fixup customize_compiler customize_config_vars
  get_platform_osx", "modules os= re= sys=",
  "constant _COMPILER_CONFIG_VARS ('BLDSHARED', 'LDSHARED', 'CC', 'CXX')",
  "constant _INITPRE '_OSX_SUPPORT_INITIAL_'", "constant _SYSTEM_VERSION None",
  "constant _SYSTEM_VERSION_TUPLE None",
  "constant _UNIVERSAL_CONFIG_VARS ('CFLAGS', 'LDFLAGS', 'CPPFLAGS', 'BASECFLAGS', 'BLDSHARED'",
  "|, 'LDSHARED', 'CC', 'CXX', 'PY_CFLAGS', 'PY_LDFLAGS', 'PY_CPPFLAGS', 'PY_CORE_CFLAGS', 'PY",
  "|_CORE_LDFLAGS')", "constant _cache_default_sysroot None", "exports compiler_fixup
  customize_config_vars customize_compiler get_platform_osx"]),
  ("_posixshmem", ["extension", "builtins shm_open shm_unlink"]),
  ("_tracemalloc", ["built-in", "builtins _get_object_traceback _get_traces clear_traces
  get_traceback_limit get_traced_memory get_tracemalloc_memory is_tracing reset_peak start stop"]),
  ("argparse", ["functions _=gettext:gettext _copy_items _get_action_name ngettext=gettext:",
  "classes Action ArgumentDefaultsHelpFormatter ArgumentError ArgumentParser ArgumentTypeError
  BooleanOptionalAction FileType HelpFormatter MetavarTypeHelpFormatter Namespace
  RawDescriptionHelpFormatter RawTextHelpFormatter _ActionsContainer _AppendAction
  _AppendConstAction _ArgumentGroup _AttributeHolder _CountAction _ExtendAction _HelpAction
  _MutuallyExclusiveGroup _StoreAction _StoreConstAction _StoreFalseAction _StoreTrueAction
  _SubParsersAction _VersionAction", "modules _os=os _re=re _sys=sys warnings=",
  "constant ONE_OR_MORE '+'", "constant OPTIONAL '?'", "constant PARSER 'A...'",
  "constant REMAINDER '...'", "constant SUPPRESS '==SUPPRESS=='", "constant ZERO_OR_MORE '*'",
  "constant _UNRECOGNIZED_ARGS_ATTR '_unrecognized_args'", "constant __version__ '1.1'",
  "exports ArgumentParser ArgumentError ArgumentTypeError BooleanOptionalAction FileType
  HelpFormatter ArgumentDefaultsHelpFormatter RawDescriptionHelpFormatter RawTextHelpFormatter
  MetavarTypeHelpFormatter Namespace Action ONE_OR_MORE OPTIONAL PARSER REMAINDER SUPPRESS
  ZERO_OR_MORE"]),
  ("crypt", ["functions _namedtuple=collections:namedtuple crypt mksalt", "classes _Method
  _SystemRandom=random.SystemRandom", "objects _sr=random.SystemRandom", "modules _crypt=
  _string=string _sys=sys errno= warnings=",
  "constant METHOD_BLOWFISH=crypt._Method ('BLOWFISH', '2b', 22, 60)",
  "constant METHOD_CRYPT=crypt._Method ('CRYPT', None, 2, 13)",
  "constant METHOD_MD5=crypt._Method ('MD5', '1', 8, 34)",
  "constant METHOD_SHA256=crypt._Method ('SHA256', '5', 16, 63)",
  "constant METHOD_SHA512=crypt._Method ('SHA512', '6', 16, 106)",
  "constant _saltchars 'abcdefghijklmnopqrstuvwxyzABCDEFGHIJKLMNOPQRSTUVWXYZ0123456789./'",
  "constant methods [crypt._Method(...), crypt._Method(...), crypt._Method(...), crypt._Method",
  "|(...), crypt._Method(...)]"]),
  ("ctypes", ["package", "functions ARRAY CFUNCTYPE PYFUNCTYPE SetPointerType _check_size
  _reset_cache c_buffer=ctypes:create_string_buffer cast create_string_buffer create_unicode_buffer
  string_at wstring_at", "builtins POINTER=_ctypes: _calcsize=_struct:calcsize
  _dlopen=_ctypes:dlopen addressof=_ctypes: alignment=_ctypes: byref=_ctypes: get_errno=_ctypes:
  pointer=_ctypes: resize=_ctypes: set_errno=_ctypes: sizeof=_ctypes:", "classes ArgumentError
  Array=_ctypes. BigEndianStructure=ctypes._endian. BigEndianUnion=ctypes._endian. CDLL
  LibraryLoader LittleEndianStructure=_ctypes.Structure LittleEndianUnion=_ctypes.Union PyDLL
  Structure=_ctypes. Union=_ctypes. _CFuncPtr=_ctypes.CFuncPtr _Pointer=_ctypes.
  _SimpleCData=_ctypes. c_bool c_byte c_char c_char_p c_double c_float c_int c_int16=ctypes.c_short
  c_int32=ctypes.c_int c_int64=ctypes.c_long c_int8=ctypes.c_byte c_long c_longdouble
  c_longlong=ctypes.c_long c_short c_size_t=ctypes.c_ulong c_ssize_t=ctypes.c_long c_ubyte c_uint
  c_uint16=ctypes.c_ushort c_uint32=ctypes.c_uint c_uint64=ctypes.c_ulong c_uint8=ctypes.c_ubyte
  c_ulong c_ulonglong=ctypes.c_ulong c_ushort c_void_p c_voidp=ctypes.c_void_p c_wchar c_wchar_p
  py_object", "objects pythonapi=ctypes.PyDLL",
  "holders _cast=ctypes.PYFUNCTYPE.<locals>.CFunctionType
  _string_at=ctypes.PYFUNCTYPE.<locals>.CFunctionType
  _wstring_at=ctypes.PYFUNCTYPE.<locals>.CFunctionType cdll=ctypes.LibraryLoader
  memmove=ctypes.CFUNCTYPE.<locals>.CFunctionType memset=ctypes.CFUNCTYPE.<locals>.CFunctionType
  pydll=ctypes.LibraryLoader", "modules _endian _os=os _sys=sys _types=types",
  "numbers DEFAULT_MODE=0 RTLD_GLOBAL=256 RTLD_LOCAL=0 _FUNCFLAG_CDECL=1 _FUNCFLAG_PYTHONAPI=4
  _FUNCFLAG_USE_ERRNO=8 _FUNCFLAG_USE_LASTERROR=16 _cast_addr=139838131666240
  _memmove_addr=139838126328448 _memset_addr=139838126331008 _string_at_addr=139838131666144
  _wstring_at_addr=139838131666544", "constant __version__ '1.1.0'",
  "constant _c_functype_cache \x7b\x7d", "constant _ctypes_version '1.1.0'",
  "same _pointer_type_cache=_ctypes.", "part _cast._b_base_ None", "part _cast._b_needsfree_ 1",
  "part _cast._objects None",
  "part _cast.argtypes (ctypes.c_void_p, ctypes.py_object, ctypes.py_object)",
  "part _cast.errcheck None", "part _cast.restype ctypes.py_object",
  "part _string_at._argtypes_ (ctypes.c_void_p, ctypes.c_int)", "part _string_at._b_base_ None",
  "part _string_at._b_needsfree_ 1", "part _string_at._objects None",
  "part _string_at.argtypes (ctypes.c_void_p, ctypes.c_int)", "part _string_at.errcheck None",
  "part _string_at.restype ctypes.py_object",
  "part _wstring_at._argtypes_ (ctypes.c_void_p, ctypes.c_int)", "part _wstring_at._b_base_ None",
  "part _wstring_at._b_needsfree_ 1", "part _wstring_at._objects None",
  "part _wstring_at.argtypes (ctypes.c_void_p, ctypes.c_int)", "part _wstring_at.errcheck None",
  "part _wstring_at.restype ctypes.py_object", "part cdll._dlltype ctypes.CDLL",
  "part cdll.__dict__ \x7b'_dlltype': ctypes.CDLL\x7d", "part memmove._b_base_ None",
  "part memmove._b_needsfree_ 1", "part memmove._objects None",
  "part memmove.argtypes (ctypes.c_void_p, ctypes.c_void_p, ctypes.c_ulong)",
  "part memmove.errcheck None", "part memmove.restype ctypes.c_void_p",
  "part memset._argtypes_ (ctypes.c_void_p, ctypes.c_int, ctypes.c_ulong)",
  "part memset._b_base_ None", "part memset._b_needsfree_ 1", "part memset._objects None",
  "part memset.argtypes (ctypes.c_void_p, ctypes.c_int, ctypes.c_ulong)",
  "part memset.errcheck None", "part memset.restype ctypes.c_void_p",
  "part pydll._dlltype ctypes.PyDLL", "part pydll.__dict__ \x7b'_dlltype': ctypes.PyDLL\x7d"]),
  ("ctypes._aix", ["functions _last_version find_library find_shared get_ld_header
  get_ld_header_info get_ld_headers get_legacy get_libpaths get_member get_one_match get_shared
  get_version", "builtins sizeof=_ctypes:", "classes Popen=subprocess. c_void_p=ctypes.",
  "objects environ=os._Environ", "modules path=posixpath re=", "numbers AIX_ABI=64 DEVNULL=-3
  PIPE=-1 maxsize=9223372036854775807",
  "constant __author__ 'Michael Felt <aixtools\\x40felt.demon.nl>'"]),
  ("ctypes._endian", ["functions ARRAY=ctypes: CFUNCTYPE=ctypes: PYFUNCTYPE=ctypes:
  SetPointerType=ctypes: _other_endian c_buffer=ctypes:create_string_buffer cast=ctypes:
  create_string_buffer=ctypes: create_unicode_buffer=ctypes: string_at=ctypes: wstring_at=ctypes:",
  "builtins POINTER=_ctypes: addressof=_ctypes: alignment=_ctypes: byref=_ctypes: get_errno=_ctypes:
  pointer=_ctypes: resize=_ctypes: set_errno=_ctypes: sizeof=_ctypes:",
  "classes ArgumentError=ctypes. Array=_ctypes. BigEndianStructure BigEndianUnion CDLL=ctypes.
  LibraryLoader=ctypes. LittleEndianStructure=_ctypes.Structure LittleEndianUnion=_ctypes.Union
  PyDLL=ctypes. Structure=_ctypes. Union=_ctypes. _array_type=_ctypes.PyCArrayType _swapped_meta
  _swapped_struct_meta _swapped_union_meta c_bool=ctypes. c_byte=ctypes. c_char=ctypes.
  c_char_p=ctypes. c_double=ctypes. c_float=ctypes. c_int=ctypes. c_long=ctypes.
  c_longdouble=ctypes. c_longlong=ctypes.c_long c_short=ctypes. c_size_t=ctypes.c_ulong
  c_ssize_t=ctypes.c_long c_ubyte=ctypes. c_uint=ctypes. c_ulong=ctypes. c_ulonglong=ctypes.c_ulong
  c_ushort=ctypes. c_void_p=ctypes. c_voidp=ctypes.c_void_p c_wchar=ctypes. c_wchar_p=ctypes.
  py_object=ctypes.", "objects pythonapi=ctypes.PyDLL", "same cdll=ctypes. memmove=ctypes.
  memset=ctypes. pydll=ctypes.", "modules sys=", "numbers DEFAULT_MODE=0 RTLD_GLOBAL=256
  RTLD_LOCAL=0", "constant _OTHER_ENDIAN '__ctype_be__'", "constant __doc__ None"]),
  ("ctypes.macholib", ["package", "constant __version__ '1.0'"]),
  ("ctypes.macholib.dyld", ["functions _dyld_shared_cache_contains_path dyld_default_search dyld_env
  dyld_executable_path_search dyld_fallback_framework_path dyld_fallback_library_path dyld_find
  dyld_framework_path dyld_image_suffix dyld_image_suffix_search dyld_library_path
  dyld_override_search dylib_info=ctypes.macholib.dylib: framework_find
  framework_info=ctypes.macholib.framework:", "builtins tee=itertools:",
  "classes accumulate=itertools. chain=itertools. combinations=itertools.
  combinations_with_replacement=itertools. compress=itertools. count=itertools. cycle=itertools.
  dropwhile=itertools. filterfalse=itertools. groupby=itertools. islice=itertools.
  pairwise=itertools. permutations=itertools. product=itertools. repeat=itertools.
  starmap=itertools. takewhile=itertools. zip_longest=itertools.", "modules os=",
  "constant DEFAULT_FRAMEWORK_FALLBACK ['/root/Library/Frameworks', '/Library/Frameworks', '/N",
  "|etwork/Library/Frameworks', '/System/Library/Frameworks']",
  "constant DEFAULT_LIBRARY_FALLBACK ['/root/lib', '/usr/local/lib', '/lib', '/usr/lib']",
  "exports dyld_find framework_find framework_info dylib_info"]),
  ("ctypes.macholib.dylib", ["functions dylib_info", "holders DYLIB_RE=re.Pattern", "modules re=",
  "exports dylib_info", "part DYLIB_RE.flags 96", "part DYLIB_RE.groupindex object('mappingproxy')",
  "part DYLIB_RE.groups 5",
  "part DYLIB_RE.pattern '(?x)\\n(?P<location>^.*)(?:^|/)\\n(?P<name>\\n    (?P<shortname>\\\\",
  "|w+?)\\n    (?:\\\\.(?P<version>[^._]+))?\\n    (?:_(?P<suffix>[^._]+))?\\n    \\\\.dylib$",
  "|\\n)\\n'"]),
  ("ctypes.macholib.framework", ["functions framework_info",
  "holders STRICT_FRAMEWORK_RE=re.Pattern", "modules re=", "exports framework_info",
  "part STRICT_FRAMEWORK_RE.flags 96", "part STRICT_FRAMEWORK_RE.groupindex object('mappingproxy')",
  "part STRICT_FRAMEWORK_RE.groups 5",
  "part STRICT_FRAMEWORK_RE.pattern '(?x)\\n(?P<location>^.*)(?:^|/)\\n(?P<name>\\n    (?P<sho",
  "|rtname>\\\\w+).framework/\\n    (?:Versions/(?P<version>[^/]+)/)?\\n    (?P=shortname)\\n ",
  "|   (?:_(?P<suffix>[^_]+))?\\n)$\\n'"]),
  ("ctypes.util", ["functions _findLib_gcc _findLib_ld _findSoname_ldconfig _get_soname _is_elf
  find_library test", "modules os= re= shutil= subprocess= sys= tempfile=",
  "constant __doc__ None"]),
  ("ctypes.wintypes", ["functions RGB", "classes ATOM=ctypes.c_ushort BOOL=ctypes.c_long
  BOOLEAN=ctypes.c_byte BYTE=ctypes.c_byte CHAR=ctypes.c_char COLORREF=ctypes.c_ulong
  DOUBLE=ctypes.c_double DWORD=ctypes.c_ulong FILETIME FLOAT=ctypes.c_float HACCEL=ctypes.c_void_p
  HANDLE=ctypes.c_void_p HBITMAP=ctypes.c_void_p HBRUSH=ctypes.c_void_p HCOLORSPACE=ctypes.c_void_p
  HDC=ctypes.c_void_p HDESK=ctypes.c_void_p HDWP=ctypes.c_void_p HENHMETAFILE=ctypes.c_void_p
  HFONT=ctypes.c_void_p HGDIOBJ=ctypes.c_void_p HGLOBAL=ctypes.c_void_p HHOOK=ctypes.c_void_p
  HICON=ctypes.c_void_p HINSTANCE=ctypes.c_void_p HKEY=ctypes.c_void_p HKL=ctypes.c_void_p
  HLOCAL=ctypes.c_void_p HMENU=ctypes.c_void_p HMETAFILE=ctypes.c_void_p HMODULE=ctypes.c_void_p
  HMONITOR=ctypes.c_void_p HPALETTE=ctypes.c_void_p HPEN=ctypes.c_void_p HRGN=ctypes.c_void_p
  HRSRC=ctypes.c_void_p HSTR=ctypes.c_void_p HTASK=ctypes.c_void_p HWINSTA=ctypes.c_void_p
  HWND=ctypes.c_void_p INT=ctypes.c_int LANGID=ctypes.c_ushort LARGE_INTEGER=ctypes.c_long
  LCID=ctypes.c_ulong LCTYPE=ctypes.c_ulong LGRPID=ctypes.c_ulong LONG=ctypes.c_long
  LPARAM=ctypes.c_long LPBOOL=ctypes.wintypes.LP_c_long LPBYTE=ctypes.wintypes.LP_c_byte
  LPCOLESTR=ctypes.c_wchar_p LPCOLORREF=ctypes.wintypes.LP_c_ulong LPCSTR=ctypes.c_char_p
  LPCVOID=ctypes.c_void_p LPCWSTR=ctypes.c_wchar_p LPDWORD=ctypes.wintypes.LP_c_ulong
  LPFILETIME=ctypes.wintypes.LP_FILETIME LPHANDLE=ctypes.wintypes.LP_c_void_p
  LPHKL=ctypes.wintypes.LP_c_void_p LPINT=ctypes.wintypes.LP_c_int LPLONG=ctypes.wintypes.LP_c_long
  LPMSG=ctypes.wintypes.LP_MSG LPOLESTR=ctypes.c_wchar_p LPPOINT=ctypes.wintypes.LP_POINT
  LPRECT=ctypes.wintypes.LP_RECT LPRECTL=ctypes.wintypes.LP_RECT
  LPSC_HANDLE=ctypes.wintypes.LP_c_void_p LPSIZE=ctypes.wintypes.LP_SIZE
  LPSIZEL=ctypes.wintypes.LP_SIZE LPSTR=ctypes.c_char_p LPUINT=ctypes.wintypes.LP_c_uint
  LPVOID=ctypes.c_void_p LPWIN32_FIND_DATAA=ctypes.wintypes.LP_WIN32_FIND_DATAA
  LPWIN32_FIND_DATAW=ctypes.wintypes.LP_WIN32_FIND_DATAW LPWORD=ctypes.wintypes.LP_c_ushort
  LPWSTR=ctypes.c_wchar_p MSG OLESTR=ctypes.c_wchar_p PBOOL=ctypes.wintypes.LP_c_long
  PBOOLEAN=ctypes.wintypes.LP_c_byte PBYTE=ctypes.wintypes.LP_c_byte PCHAR=ctypes.LP_c_char
  PDWORD=ctypes.wintypes.LP_c_ulong PFILETIME=ctypes.wintypes.LP_FILETIME
  PFLOAT=ctypes.wintypes.LP_c_float PHANDLE=ctypes.wintypes.LP_c_void_p
  PHKEY=ctypes.wintypes.LP_c_void_p PINT=ctypes.wintypes.LP_c_int
  PLARGE_INTEGER=ctypes.wintypes.LP_c_long PLCID=ctypes.wintypes.LP_c_ulong
  PLONG=ctypes.wintypes.LP_c_long PMSG=ctypes.wintypes.LP_MSG POINT POINTL=ctypes.wintypes.POINT
  PPOINT=ctypes.wintypes.LP_POINT PPOINTL=ctypes.wintypes.LP_POINT PRECT=ctypes.wintypes.LP_RECT
  PRECTL=ctypes.wintypes.LP_RECT PSHORT=ctypes.wintypes.LP_c_short PSIZE=ctypes.wintypes.LP_SIZE
  PSIZEL=ctypes.wintypes.LP_SIZE PSMALL_RECT=ctypes.wintypes.LP__SMALL_RECT
  PUINT=ctypes.wintypes.LP_c_uint PULARGE_INTEGER=ctypes.wintypes.LP_c_ulong
  PULONG=ctypes.wintypes.LP_c_ulong PUSHORT=ctypes.wintypes.LP_c_ushort PWCHAR=ctypes.LP_c_wchar
  PWIN32_FIND_DATAA=ctypes.wintypes.LP_WIN32_FIND_DATAA
  PWIN32_FIND_DATAW=ctypes.wintypes.LP_WIN32_FIND_DATAW PWORD=ctypes.wintypes.LP_c_ushort RECT
  RECTL=ctypes.wintypes.RECT SC_HANDLE=ctypes.c_void_p SERVICE_STATUS_HANDLE=ctypes.c_void_p
  SHORT=ctypes.c_short SIZE SIZEL=ctypes.wintypes.SIZE SMALL_RECT=ctypes.wintypes._SMALL_RECT
  UINT=ctypes.c_uint ULARGE_INTEGER=ctypes.c_ulong ULONG=ctypes.c_ulong USHORT=ctypes.c_ushort
  VARIANT_BOOL WCHAR=ctypes.c_wchar WIN32_FIND_DATAA WIN32_FIND_DATAW WORD=ctypes.c_ushort
  WPARAM=ctypes.c_ulong _COORD _FILETIME=ctypes.wintypes.FILETIME _LARGE_INTEGER=ctypes.c_long
  _POINTL=ctypes.wintypes.POINT _RECTL=ctypes.wintypes.RECT _SMALL_RECT
  _ULARGE_INTEGER=ctypes.c_ulong tagMSG=ctypes.wintypes.MSG tagPOINT=ctypes.wintypes.POINT
  tagRECT=ctypes.wintypes.RECT tagSIZE=ctypes.wintypes.SIZE", "modules ctypes=",
  "numbers MAX_PATH=260", "constant __doc__ None"]),
  ("faulthandler", ["built-in", "builtins _fatal_error_c_thread _read_null _sigabrt _sigfpe _sigsegv
  _stack_overflow cancel_dump_traceback_later disable dump_traceback dump_traceback_later enable
  is_enabled register unregister"]),
  ("getopt", ["functions _=gettext:gettext do_longs do_shorts getopt gnu_getopt long_has_args
  short_has_arg", "classes GetoptError error=getopt.GetoptError", "modules os=",
  "exports GetoptError error getopt gnu_getopt"]),
  ("getpass", ["functions _raw_input fallback_getpass getpass=getpass:unix_getpass getuser
  unix_getpass win_getpass", "classes GetPassWarning", "modules contextlib= io= os= sys= termios=
  warnings=", "exports getpass getuser GetPassWarning"]),
  ("grp", ["built-in", "builtins getgrall getgrgid getgrnam", "classes struct_group"]),
  ("logging", ["package", "functions _acquireLock _addHandlerRef _after_at_fork_child_reinit_locks
  _checkLevel _is_internal_frame _register_at_fork_reinit_lock _releaseLock _removeHandlerRef
  _showwarning addLevelName basicConfig captureWarnings critical currentframe=logging:<lambda> debug
  disable error exception fatal getLevelName getLevelNamesMapping getLogRecordFactory getLogger
  getLoggerClass info log makeLogRecord setLogRecordFactory setLoggerClass shutdown warn warning",
  "classes BufferingFormatter FileHandler Filter Filterer Formatter GenericAlias=types. Handler
  LogRecord Logger LoggerAdapter Manager NullHandler PercentStyle PlaceHolder RootLogger
  StrFormatStyle StreamHandler StringTemplateStyle Template=string. _StderrHandler
  _logRecordFactory=logging.LogRecord _loggerClass=logging.Logger", "objects _lock=_thread.RLock
  _str_formatter=string.Formatter", "holders _at_fork_reinit_lock_weakset=_weakrefset.WeakSet
  _defaultFormatter=logging.Formatter _defaultLastResort=logging._StderrHandler
  _handlers=weakref.WeakValueDictionary root=logging.RootLogger",
  "same lastResort=logging._defaultLastResort", "modules atexit= collections= io= os= re= sys=
  threading= time= traceback= warnings= weakref=", "numbers CRITICAL=50 DEBUG=10 ERROR=40 FATAL=50
  INFO=20 NOTSET=0 WARN=30 WARNING=30",
  "constant BASIC_FORMAT '%(levelname)s:%(name)s:%(message)s'",
  "constant _STYLES \x7b'%': (logging.PercentStyle, '%(levelname)s:%(name)s:%(message)s'), '",
  "|\x7b': (logging.StrFormatStyle, '\x7blevelname\x7d:\x7bname\x7d:\x7bmessage\x7d'), '$': (l",
  "|ogging.StringTemplateStyle, '$\x7blevelname\x7d:$\x7bname\x7d:$\x7bmessage\x7d')\x7d",
  "constant __author__ 'Vinay Sajip <vinay_sajip@red-dove.com>'",
  "constant __date__ '07 February 2010'", "constant __status__ 'production'",
  "constant __version__ '0.5.1.2'", "constant _handlerList [weakref.ReferenceType(...)]",
  "constant _levelToName \x7b50: 'CRITICAL', 40: 'ERROR', 30: 'WARNING', 20: 'INFO', 10: 'DEBU",
  "|G', 0: 'NOTSET'\x7d",
  "constant _nameToLevel \x7b'CRITICAL': 50, 'FATAL': 50, 'ERROR': 40, 'WARN': 30, 'WARNING': ",
  "|30, 'INFO': 20, 'DEBUG': 10, 'NOTSET': 0\x7d",
  "constant _srcfile '/usr/lib/python3.11/logging/__init__.py'",
  "constant _warnings_showwarning None", "constant logMultiprocessing True",
  "constant logProcesses True", "constant logThreads True", "constant raiseExceptions True",
  "exports BASIC_FORMAT BufferingFormatter CRITICAL DEBUG ERROR FATAL FileHandler Filter Formatter
  Handler INFO LogRecord Logger LoggerAdapter NOTSET NullHandler StreamHandler WARN WARNING
  addLevelName basicConfig captureWarnings critical debug disable error exception fatal getLevelName
  getLogger getLoggerClass info log makeLogRecord setLoggerClass shutdown warn warning
  getLogRecordFactory setLogRecordFactory lastResort raiseExceptions getLevelNamesMapping",
  "part _at_fork_reinit_lock_weakset._iterating object('set')",
  "part _at_fork_reinit_lock_weakset._pending_removals []",
  "part _at_fork_reinit_lock_weakset.data object('set')",
  "part _at_fork_reinit_lock_weakset.__dict__ \x7b'data': object('set'), '_remove': object('fu",
  "|nction'), '_pending_removals': [], '_iterating': object('set')\x7d",
  "part _defaultFormatter._fmt '%(message)s'",
  "part _defaultFormatter._style object('logging.PercentStyle')",
  "part _defaultFormatter.datefmt None",
  "part _defaultFormatter.__dict__ \x7b'_style': object('logging.PercentStyle'), '_fmt': '%(me",
  "|ssage)s', 'datefmt': None\x7d", "part _defaultLastResort._name None",
  "part _defaultLastResort.filters []", "part _defaultLastResort.formatter None",
  "part _defaultLastResort.name None",
  "part _defaultLastResort.__dict__ \x7b'filters': [], '_name': None, 'level': 30, 'formatter'",
  "|: None, '_closed': False, 'lock': object('_thread.RLock')\x7d",
  "part _handlers._iterating object('set')", "part _handlers._pending_removals []",
  "part _handlers.data \x7b\x7d",
  "part _handlers.__dict__ \x7b'_remove': object('function'), '_pending_removals': [], '_itera",
  "|ting': object('set'), 'data': \x7b\x7d\x7d", "part root.name 'root'",
  "part root.propagate True",
  "part root.__dict__ \x7b'filters': [], 'name': 'root', 'level': 30, 'parent': None, 'propaga",
  "|te': True, 'handlers': [], 'disabled': False, '_cache': \x7b\x7d\x7d"]),
  ("logging.config", ["functions _clearExistingHandlers _create_formatters _handle_existing_loggers
  _install_handlers _install_loggers _resolve _strip_spaces dictConfig fileConfig listen
  stopListening valid_ident", "classes BaseConfigurator ConvertingDict ConvertingList
  ConvertingMixin ConvertingTuple DictConfigurator StreamRequestHandler=socketserver.
  ThreadingTCPServer=socketserver. dictConfigClass=logging.config.DictConfigurator",
  "holders IDENTIFIER=re.Pattern", "modules errno= io= logging= queue= re= struct= threading=
  traceback=", "numbers DEFAULT_LOGGING_CONFIG_PORT=9030 RESET_ERROR=104",
  "constant _listener None", "part IDENTIFIER.flags 34",
  "part IDENTIFIER.pattern '^[a-z_][a-z0-9_]*$'"]),
  ("logging.handlers", ["classes BaseRotatingHandler BufferingHandler DatagramHandler HTTPHandler
  MemoryHandler NTEventLogHandler QueueHandler QueueListener RotatingFileHandler SMTPHandler
  SocketHandler SysLogHandler TimedRotatingFileHandler WatchedFileHandler", "modules copy= io=
  logging= os= pickle= queue= re= socket= struct= threading= time=",
  "numbers DEFAULT_HTTP_LOGGING_PORT=9022 DEFAULT_SOAP_LOGGING_PORT=9023
  DEFAULT_TCP_LOGGING_PORT=9020 DEFAULT_UDP_LOGGING_PORT=9021 ST_DEV=2 ST_INO=1 ST_MTIME=8
  SYSLOG_TCP_PORT=514 SYSLOG_UDP_PORT=514 _MIDNIGHT=86400"]),
  ("nis", ["builtins cat get_default_domain maps match", "classes error"]),
  ("optparse", ["functions _=gettext:gettext _match_abbrev _parse_int _parse_num _repr check_builtin
  check_choice gettext=gettext: ngettext=gettext:", "classes AmbiguousOptionError BadOptionError
  HelpFormatter IndentedHelpFormatter OptParseError Option OptionConflictError OptionContainer
  OptionError OptionGroup OptionParser OptionValueError TitledHelpFormatter Values
  make_option=optparse.Option", "modules os= sys= textwrap=",
  "constant NO_DEFAULT ('NO', 'DEFAULT')", "constant SUPPRESS_HELP 'SUPPRESSHELP'",
  "constant SUPPRESS_USAGE 'SUPPRESSUSAGE'",
  "constant __copyright__ '\\nC\\x6fpyright (\\x63) 2001-2006 Gregory P. Ward.  All rights res",
  "|erved.\\nC\\x6fpyright (\\x63) 2002-2006 Python Software Foundation.  All rights reserved.",
  "|\\n\\nRedistribution and use in source and binary forms, with or without\\nmodification, a",
  "|re permitted provided that the following conditions are\\nmet:\\n\\n  * Redistributions of",
  "| source code must retain the above c\\x6fpyright\\n    notice, this list of conditions and",
  "| the following disclaimer.\\n\\n  * Redistributions in binary form must reproduce the abov",
  "|e c\\x6fpyright\\n    notice, this list of conditions and the following disclaimer in the",
  "|\\n    documentation and/or other materials provided with the distribution.\\n\\n  * Neith",
  "|er the name of the author nor the names of its\\n    contributors may be used to endorse o",
  "|r promote products derived from\\n    this software without specific prior written permiss",
  "|ion.\\n\\nTHIS SOFTWARE IS PROVIDED BY THE C\\x6fPYRIGHT HOLDERS AND CONTRIBUTORS \"AS\\nI",
  "|S\" AND ANY EXPRESS OR IMPLIED WARRANTIES, INCLUDING, BUT NOT LIMITED\\nTO, THE IMPLIED WA",
  "|RRANTIES OF MERCHANTABILITY AND FITNESS FOR A\\nPARTICULAR PURPOSE ARE DISCLAIMED. IN NO E",
  "|VENT SHALL THE AUTHOR OR\\nCONTRIBUTORS BE LIABLE FOR ANY DIRECT, INDIRECT, INCIDENTAL, SP",
  "|ECIAL,\\nEXEMPLARY, OR CONSEQUENTIAL DAMAGES (INCLUDING, BUT NOT LIMITED TO,\\nPROCUREMENT",
  "| OF SUBSTITUTE GOODS OR SERVICES; LOSS OF USE, DATA, OR\\nPROFITS; OR BUSINESS INTERRUPTIO",
  "|N) HOWEVER CAUSED AND ON ANY THEORY OF\\nLIABILITY, WHETHER IN CONTRACT, STRICT LIABILITY,",
  "| OR TORT (INCLUDING\\nNEGLIGENCE OR OTHERWISE) ARISING IN ANY WAY OUT OF THE USE OF THIS\\",
  "|nSOFTWARE, EVEN IF ADVISED OF THE POSSIBILITY OF SUCH DAMAGE.\\n'",
  "constant __version__ '1.5.3'",
  "constant _builtin_cvt \x7b'int': (function(...), 'integer'), 'long': (function(...), 'integ",
  "|er'), 'float': (float, 'floating-point'), 'complex': (complex, 'complex')\x7d", "exports Option
  make_option SUPPRESS_HELP SUPPRESS_USAGE Values OptionContainer OptionGroup OptionParser
  HelpFormatter IndentedHelpFormatter TitledHelpFormatter OptParseError OptionError
  OptionConflictError OptionValueError BadOptionError check_choice"]),
  ("platform", ["functions _comparable_version _follow_symlinks _get_machine_win32 _java_getprop
  _mac_ver_xml _node _norm_version _parse_os_release _platform _sys_version _syscmd_file _syscmd_ver
  _unknown_as_blank architecture freedesktop_os_release java_ver libc_ver mac_ver machine node
  platform processor python_branch python_build python_compiler python_implementation
  python_revision python_version python_version_tuple release system system_alias uname version
  win32_edition win32_is_iot win32_ver", "classes _Processor uname_result",
  "holders _component_re=re.Pattern _ironpython26_sys_version_parser=re.Pattern
  _ironpython_sys_version_parser=re.Pattern _libc_search=re.Pattern _os_release_line=re.Pattern
  _os_release_unescape=re.Pattern _pypy_sys_version_parser=re.Pattern _sys_version_parser=re.Pattern
  _ver_output=re.Pattern", "modules collections= functools= itertools= os= re= sys=",
  "constant _WIN32_CLIENT_RELEASES \x7b(5, 0): '2000', (5, 1): 'XP', (5, 2): '2003Server', (5,",
  "| None): 'post2003', (6, 0): 'Vista', (6, 1): '7', (6, 2): '8', (6, 3): '8.1', (6, None): '",
  "|post8.1', (10, 0): '10', (10, None): 'post10'\x7d",
  "constant _WIN32_SERVER_RELEASES \x7b(5, 2): '2003Server', (6, 0): '2008Server', (6, 1): '20",
  "|08ServerR2', (6, 2): '2012Server', (6, 3): '2012ServerR2', (6, None): 'post2012ServerR2'",
  "|\x7d",
  "constant __copyright__ '\\n    C\\x6fpyright (\\x63) 1999-2000, Marc-Andre Lemburg; mailto:",
  "|mal\\x40lemburg.com\\n    C\\x6fpyright (\\x63) 2000-2010, eGenix.com Software GmbH; mailt",
  "|o:info\\x40egenix.com\\n\\n    Permission to use, copy, modify, and distribute this softwa",
  "|re and its\\n    documentation for any purpose and without fee or royalty is hereby grante",
  "|d,\\n    provided that the above c\\x6fpyright notice appear in all copies and that\\n    ",
  "|both that c\\x6fpyright notice and this permission notice appear in\\n    supporting docum",
  "|entation or portions thereof, including modifications,\\n    that you make.\\n\\n    EGENI",
  "|X.COM SOFTWARE GMBH DISCLAIMS ALL WARRANTIES WITH REGARD TO\\n    THIS SOFTWARE, INCLUDING",
  "| ALL IMPLIED WARRANTIES OF MERCHANTABILITY AND\\n    FITNESS, IN NO EVENT SHALL THE AUTHOR",
  "| BE LIABLE FOR ANY SPECIAL,\\n    INDIRECT OR CONSEQUENTIAL DAMAGES OR ANY DAMAGES WHATSOE",
  "|VER RESULTING\\n    FROM LOSS OF USE, DATA OR PROFITS, WHETHER IN AN ACTION OF CONTRACT,\\",
  "|n    NEGLIGENCE OR OTHER TORTIOUS ACTION, ARISING OUT OF OR IN CONNECTION\\n    WITH THE U",
  "|SE OR PERFORMANCE OF THIS SOFTWARE !\\n\\n'", "constant __version__ '1.0.8'",
  "constant _default_architecture \x7b'win32': ('', 'WindowsPE'), 'win16': ('', 'Windows'), 'd",
  "|os': ('', 'MSDOS')\x7d", "constant _os_release_cache None",
  "constant _os_release_candidates ('/etc/os-release', '/usr/lib/os-release')",
  "constant _platform_cache \x7b\x7d", "constant _sys_version_cache \x7b\x7d",
  "constant _ver_stages \x7b'dev': 10, 'alpha': 20, 'a': 20, 'beta': 30, 'b': 30, 'c': 40, 'RC",
  "|': 50, 'rc': 50, 'pl': 200, 'p': 200\x7d", "part _component_re.groups 1",
  "part _component_re.pattern '([0-9]+|[._+-])'", "part _ironpython26_sys_version_parser.groups 3",
  "part _ironpython26_sys_version_parser.pattern '([\\\\d.]+)\\\\s*\\\\(IronPython\\\\s*[\\\\d",
  "|.]+\\\\s*\\\\(([\\\\d.]+)\\\\) on ([\\\\w.]+ [\\\\d.]+(?: \\\\(\\\\d+-bit\\\\))?)\\\\)'",
  "part _ironpython_sys_version_parser.flags 256", "part _ironpython_sys_version_parser.groups 3",
  "part _ironpython_sys_version_parser.pattern 'IronPython\\\\s*([\\\\d\\\\.]+)(?: \\\\(([\\\\",
  "|d\\\\.]+)\\\\))? on (.NET [\\\\d\\\\.]+)'", "part _libc_search.flags 256",
  "part _libc_search.groups 6",
  "part _libc_search.pattern b'(__libc_init)|(GLIBC_([0-9.]+))|(libc(_\\\\w+)?\\\\.so(?:\\\\.(",
  "|\\\\d[0-9.]*))?)'", "part _os_release_line.groupindex object('mappingproxy')",
  "part _os_release_line.groups 3",
  "part _os_release_line.pattern '^(?P<name>[a-zA-Z0-9_]+)=(?P<quote>[\"\\']?)(?P<value>.*)(?P",
  "|=quote)$'", "part _os_release_unescape.groups 1",
  "part _os_release_unescape.pattern '\\\\\\\\([\\\\\\\\\\\\$\\\\\"\\\\\\'`])'",
  "part _pypy_sys_version_parser.groups 4",
  "part _pypy_sys_version_parser.pattern '([\\\\w.+]+)\\\\s*\\\\(#?([^,]+),\\\\s*([\\\\w ]+),",
  "|\\\\s*([\\\\w :]+)\\\\)\\\\s*\\\\[PyPy [^\\\\]]+\\\\]?'", "part _sys_version_parser.flags 256",
  "part _sys_version_parser.groups 5",
  "part _sys_version_parser.pattern '([\\\\w.+]+)\\\\s*\\\\(#?([^,]+)(?:,\\\\s*([\\\\w ]*)(?:,",
  "|\\\\s*([\\\\w :]*))?)?\\\\)\\\\s*\\\\[([^\\\\]]+)\\\\]?'", "part _ver_output.groups 3",
  "part _ver_output.pattern '(?:([\\\\w ]+) ([\\\\w.]+) .*\\\\[.* ([\\\\d.]+)\\\\])'"]),
  ("pwd", ["built-in", "builtins getpwall getpwnam getpwuid", "classes struct_passwd"]),
  ("resource", ["extension", "builtins getpagesize getrlimit getrusage prlimit setrlimit",
  "classes error=OSError struct_rusage", "numbers RLIMIT_AS=9 RLIMIT_CORE=4 RLIMIT_CPU=0
  RLIMIT_DATA=2 RLIMIT_FSIZE=1 RLIMIT_MEMLOCK=8 RLIMIT_MSGQUEUE=12 RLIMIT_NICE=13 RLIMIT_NOFILE=7
  RLIMIT_NPROC=6 RLIMIT_OFILE=7 RLIMIT_RSS=5 RLIMIT_RTPRIO=14 RLIMIT_RTTIME=15 RLIMIT_SIGPENDING=11
  RLIMIT_STACK=3 RLIM_INFINITY=-1 RUSAGE_CHILDREN=-1 RUSAGE_SELF=0 RUSAGE_THREAD=1",
  "constant __doc__ None"]),
  ("spwd", ["built-in", "builtins getspall getspnam", "classes struct_spwd"]),
  ("sysconfig", ["functions _expand_vars _extend_dict _generate_posix_vars _get_preferred_schemes
  _get_sysconfigdata_name _getuserbase _init_non_posix _init_posix _main _parse_makefile _print_dict
  _safe_realpath _subst_vars expand_makefile_vars get_config_h_filename get_config_var
  get_config_vars get_default_scheme get_makefile_filename get_path get_path_names get_paths
  get_platform get_preferred_scheme get_python_version get_scheme_names is_python_build
  parse_config_h realpath=posixpath:", "objects _ALWAYS_STR=set", "modules os= sys=",
  "constant _BASE_EXEC_PREFIX '/usr'", "constant _BASE_PREFIX '/usr'", "constant _CONFIG_VARS None",
  "constant _EXEC_PREFIX '/usr'", "constant _HAS_USER_BASE True", "constant _PREFIX '/usr'",
  "constant _PROJECT_BASE '/usr/bin'", "constant _PYTHON_BUILD False",
  "constant _PY_VERSION '3.11.2'", "constant _PY_VERSION_SHORT '3.11'",
  "constant _PY_VERSION_SHORT_NO_DOT '311'",
  "constant _SCHEME_KEYS ('stdlib', 'platstdlib', 'purelib', 'platlib', 'include', 'scripts', ",
  "|'data')", "constant _USER_BASE None",
  "constant _findvar1_rx '\\\\$\\\\(([A-Za-z][A-Za-z0-9_]*)\\\\)'",
  "constant _findvar2_rx '\\\\$\x7b([A-Za-z][A-Za-z0-9_]*)\x7d'", "constant _sys_home None",
  "constant _variable_rx '([a-zA-Z][a-zA-Z0-9_]+)\\\\s*=\\\\s*(.*)'", "constant pardir '..'",
  "exports get_config_h_filename get_config_var get_config_vars get_makefile_filename get_path
  get_path_names get_paths get_platform get_python_version get_scheme_names parse_config_h",
  "objects _INSTALL_SCHEMES=dict"]),
  ("syslog", ["built-in", "builtins LOG_MASK LOG_UPTO closelog openlog setlogmask syslog",
  "numbers LOG_ALERT=1 LOG_AUTH=32 LOG_AUTHPRIV=80 LOG_CONS=2 LOG_CRIT=2 LOG_CRON=72 LOG_DAEMON=24
  LOG_DEBUG=7 LOG_EMERG=0 LOG_ERR=3 LOG_INFO=6 LOG_KERN=0 LOG_LOCAL0=128 LOG_LOCAL1=136
  LOG_LOCAL2=144 LOG_LOCAL3=152 LOG_LOCAL4=160 LOG_LOCAL5=168 LOG_LOCAL6=176 LOG_LOCAL7=184
  LOG_LPR=48 LOG_MAIL=16 LOG_NDELAY=8 LOG_NEWS=56 LOG_NOTICE=5 LOG_NOWAIT=16 LOG_ODELAY=4
  LOG_PERROR=32 LOG_PID=1 LOG_SYSLOG=40 LOG_USER=8 LOG_UUCP=64 LOG_WARNING=4",
  "constant __doc__ None"]),
  ("tracemalloc", ["functions _compare_grouped_stats _format_size _normalize_filename
  get_object_traceback take_snapshot total_ordering=functools:",
  "builtins _get_object_traceback=_tracemalloc: _get_traces=_tracemalloc: clear_traces=_tracemalloc:
  get_traceback_limit=_tracemalloc: get_traced_memory=_tracemalloc:
  get_tracemalloc_memory=_tracemalloc: is_tracing=_tracemalloc: reset_peak=_tracemalloc:
  start=_tracemalloc: stop=_tracemalloc:", "classes BaseFilter DomainFilter Filter Frame
  Iterable=collections.abc. Sequence=collections.abc. Snapshot Statistic StatisticDiff Trace
  Traceback _Traces", "modules fnmatch= linecache= os= pickle=", "constant __doc__ None"])]

/-- The classes for the system. -/
def systemClasses : List (String × List String) := [
  ("_bootsubprocess.Popen", ["open", "functions __init__ wait", "silent"]),
  ("_ctypes.Array", ["below _ctypes._CData", "kind _ctypes.PyCArrayType", "shown _ctypes.Array",
  "sealed", "builtins __new__", "operations __init__ __len__ __getitem__ __setitem__ __delitem__",
  "class-builtins __class_getitem__"]),
  ("_ctypes.CField", ["shown _ctypes.CField", "builtins __new__", "operations __repr__ __get__
  __set__ __delete__", "fields offset size"]),
  ("_ctypes.CFuncPtr", ["below _ctypes._CData", "kind _ctypes.PyCFuncPtrType",
  "shown _ctypes.CFuncPtr", "sealed", "builtins __new__", "operations __repr__ __call__ __bool__",
  "fields errcheck restype argtypes"]),
  ("_ctypes.PyCArrayType", ["below type", "shown _ctypes.PyCArrayType", "sealed",
  "builtins __new__", "operations __mul__ __rmul__", "methods from_param from_address from_buffer
  from_buffer_copy in_dll"]),
  ("_ctypes.PyCFuncPtrType", ["below type", "shown _ctypes.PyCFuncPtrType", "sealed",
  "builtins __new__", "operations __mul__ __rmul__", "methods from_param from_address from_buffer
  from_buffer_copy in_dll"]),
  ("_ctypes.PyCPointerType", ["below type", "shown _ctypes.PyCPointerType", "sealed",
  "builtins __new__", "operations __mul__ __rmul__", "methods from_address from_buffer
  from_buffer_copy in_dll from_param set_type"]),
  ("_ctypes.PyCSimpleType", ["below type", "shown _ctypes.PyCSimpleType", "sealed",
  "builtins __new__", "operations __mul__ __rmul__", "methods from_param from_address from_buffer
  from_buffer_copy in_dll"]),
  ("_ctypes.PyCStructType", ["below type", "shown _ctypes.PyCStructType", "sealed",
  "builtins __new__", "operations __setattr__ __delattr__ __mul__ __rmul__", "methods from_param
  from_address from_buffer from_buffer_copy in_dll"]),
  ("_ctypes.Structure", ["below _ctypes._CData", "kind _ctypes.PyCStructType",
  "shown _ctypes.Structure", "sealed", "builtins __new__", "operations __init__"]),
  ("_ctypes.Union", ["below _ctypes._CData", "kind _ctypes.UnionType", "shown _ctypes.Union",
  "sealed", "builtins __new__", "operations __init__"]),
  ("_ctypes.UnionType", ["below type", "shown _ctypes.UnionType", "sealed", "builtins __new__",
  "operations __setattr__ __delattr__ __mul__ __rmul__", "methods from_param from_address
  from_buffer from_buffer_copy in_dll"]),
  ("_ctypes._CData", ["shown _ctypes._CData", "sealed", "operations __hash__",
  "methods __ctypes_from_outparam__ __reduce__ __setstate__", "slots _b_base_ _b_needsfree_
  _objects"]),
  ("_ctypes._Pointer", ["below _ctypes._CData", "kind _ctypes.PyCPointerType",
  "shown _ctypes._Pointer", "sealed", "builtins __new__", "operations __init__ __bool__ __getitem__
  __setitem__ __delitem__", "fields contents"]),
  ("_ctypes._SimpleCData", ["below _ctypes._CData", "kind _ctypes.PyCSimpleType",
  "shown _ctypes._SimpleCData", "sealed", "builtins __new__", "operations __repr__ __init__
  __bool__", "methods __ctypes_from_outparam__", "fields value"]),
  ("argparse.Action", ["below argparse._AttributeHolder", "functions __init__ _get_kwargs
  format_usage __call__"]),
  ("argparse.ArgumentDefaultsHelpFormatter", ["below argparse.HelpFormatter",
  "functions _get_help_string"]),
  ("argparse.ArgumentError", ["below Exception", "open __weakref__", "functions __init__ __str__"]),
  ("argparse.ArgumentParser", ["above argparse._AttributeHolder argparse._ActionsContainer object",
  "functions __init__ _get_kwargs add_subparsers _add_action _get_optional_actions
  _get_positional_actions parse_args parse_known_args _parse_known_args _read_args_from_files
  convert_arg_line_to_args _match_argument _match_arguments_partial _parse_optional
  _get_option_tuples _get_nargs_pattern parse_intermixed_args parse_known_intermixed_args
  _get_values _get_value _check_value format_usage format_help _get_formatter print_usage print_help
  _print_message exit error"]),
  ("argparse.ArgumentTypeError", ["below Exception", "open __weakref__"]),
  ("argparse.BooleanOptionalAction", ["below argparse.Action", "functions __init__ __call__
  format_usage", "silent"]),
  ("argparse.FileType", ["open", "functions __init__ __call__ __repr__"]),
  ("argparse.HelpFormatter", ["open", "functions __init__ _indent _dedent _add_item start_section
  end_section add_text add_usage add_argument add_arguments format_help _join_parts _format_usage
  _format_actions_usage _format_text _format_action _format_action_invocation _metavar_formatter
  _format_args _expand_help _iter_indented_subactions _split_lines _fill_text _get_help_string
  _get_default_metavar_for_optional _get_default_metavar_for_positional",
  "classes _Section=argparse.HelpFormatter."]),
  ("argparse.MetavarTypeHelpFormatter", ["below argparse.HelpFormatter",
  "functions _get_default_metavar_for_optional _get_default_metavar_for_positional"]),
  ("argparse.Namespace", ["below argparse._AttributeHolder", "functions __init__ __eq__
  __contains__", "constant __hash__ None"]),
  ("argparse.RawDescriptionHelpFormatter", ["below argparse.HelpFormatter",
  "functions _fill_text"]),
  ("argparse.RawTextHelpFormatter", ["below argparse.RawDescriptionHelpFormatter",
  "functions _split_lines"]),
  ("argparse._ActionsContainer", ["open", "functions __init__ register _registry_get set_defaults
  get_default add_argument add_argument_group add_mutually_exclusive_group _add_action
  _remove_action _add_container_actions _get_positional_kwargs _get_optional_kwargs
  _pop_action_class _get_handler _check_conflict _handle_conflict_error _handle_conflict_resolve",
  "silent"]),
  ("argparse._AppendAction", ["below argparse.Action", "functions __init__ __call__", "silent"]),
  ("argparse._AppendConstAction", ["below argparse.Action", "functions __init__ __call__",
  "silent"]),
  ("argparse._ArgumentGroup", ["below argparse._ActionsContainer", "functions __init__ _add_action
  _remove_action add_argument_group", "silent"]),
  ("argparse._AttributeHolder", ["open", "functions __repr__ _get_kwargs _get_args"]),
  ("argparse._CountAction", ["below argparse.Action", "functions __init__ __call__", "silent"]),
  ("argparse._ExtendAction", ["below argparse._AppendAction", "functions __call__", "silent"]),
  ("argparse._HelpAction", ["below argparse.Action", "functions __init__ __call__", "silent"]),
  ("argparse._MutuallyExclusiveGroup", ["below argparse._ArgumentGroup", "functions __init__
  _add_action _remove_action add_mutually_exclusive_group", "silent"]),
  ("argparse._StoreAction", ["below argparse.Action", "functions __init__ __call__", "silent"]),
  ("argparse._StoreConstAction", ["below argparse.Action", "functions __init__ __call__",
  "silent"]),
  ("argparse._StoreFalseAction", ["below argparse._StoreConstAction", "functions __init__",
  "silent"]),
  ("argparse._StoreTrueAction", ["below argparse._StoreConstAction", "functions __init__",
  "silent"]),
  ("argparse._SubParsersAction", ["below argparse.Action", "functions __init__ add_parser
  _get_subactions __call__", "classes _ChoicesPseudoAction=argparse._SubParsersAction.", "silent"]),
  ("argparse._VersionAction", ["below argparse.Action", "functions __init__ __call__", "silent"]),
  ("crypt._Method", ["below tuple", "open __dict__", "functions __repr__
  _replace=collections:_Method._replace _asdict=collections:_Method._asdict
  __getnewargs__=collections:_Method.__getnewargs__",
  "class-functions _make=collections:_Method._make",
  "statics __new__=namedtuple__Method:_Method.__new__", "objects name=_collections._tuplegetter
  ident=_collections._tuplegetter salt_chars=_collections._tuplegetter
  total_size=_collections._tuplegetter", "constant __slots__ ()",
  "constant _fields ('name', 'ident', 'salt_chars', 'total_size')",
  "constant _field_defaults \x7b\x7d",
  "constant __match_args__ ('name', 'ident', 'salt_chars', 'total_size')"]),
  ("ctypes.ArgumentError", ["below Exception", "open __weakref__", "silent"]),
  ("ctypes.CDLL", ["open", "functions __init__ __repr__ __getattr__ __getitem__",
  "classes _func_restype_=ctypes.c_int", "numbers _func_flags_=1 _handle=0",
  "constant _name '<uninitialized>'", "constant _FuncPtr None"]),
  ("ctypes.CFUNCTYPE.<locals>.CFunctionType", ["below _ctypes.CFuncPtr",
  "kind _ctypes.PyCFuncPtrType", "space ctypes", "open", "classes _restype_=ctypes.c_void_p",
  "numbers _flags_=1", "constant _argtypes_ (ctypes.c_void_p, ctypes.c_void_p, ctypes.c_ulong)",
  "silent"]),
  ("ctypes.LP_c_char", ["below _ctypes._Pointer", "kind _ctypes.PyCPointerType", "open",
  "builtins from_param", "classes _type_=ctypes.c_char", "silent"]),
  ("ctypes.LP_c_wchar", ["below _ctypes._Pointer", "kind _ctypes.PyCPointerType", "open",
  "builtins from_param", "classes _type_=ctypes.c_wchar", "silent"]),
  ("ctypes.LibraryLoader", ["open", "functions __init__ __getattr__ __getitem__ LoadLibrary",
  "class-functions __class_getitem__", "silent"]),
  ("ctypes.PYFUNCTYPE.<locals>.CFunctionType", ["below _ctypes.CFuncPtr",
  "kind _ctypes.PyCFuncPtrType", "space ctypes", "open", "classes _restype_=ctypes.py_object",
  "numbers _flags_=5", "constant _argtypes_ (ctypes.c_void_p, ctypes.py_object, ctypes.py_object)",
  "silent"]),
  ("ctypes.PyDLL", ["below ctypes.CDLL", "numbers _func_flags_=5"]),
  ("ctypes._endian.BigEndianStructure", ["below _ctypes.Structure",
  "kind ctypes._endian._swapped_struct_meta", "constant __slots__ ()",
  "constant _swappedbytes_ None"]),
  ("ctypes._endian.BigEndianUnion", ["below _ctypes.Union",
  "kind ctypes._endian._swapped_union_meta", "constant __slots__ ()",
  "constant _swappedbytes_ None"]),
  ("ctypes._endian._swapped_meta", ["open", "functions __setattr__", "silent"]),
  ("ctypes._endian._swapped_struct_meta", ["above ctypes._endian._swapped_meta _ctypes.PyCStructType
  type object", "silent"]),
  ("ctypes._endian._swapped_union_meta", ["above ctypes._endian._swapped_meta _ctypes.UnionType type
  object", "silent"]),
  ("ctypes.c_bool", ["below _ctypes._SimpleCData", "kind _ctypes.PyCSimpleType", "open",
  "constant _type_ '?'", "silent"]),
  ("ctypes.c_byte", ["below _ctypes._SimpleCData", "kind _ctypes.PyCSimpleType", "open",
  "classes __ctype_le__=ctypes.c_byte __ctype_be__=ctypes.c_byte", "constant _type_ 'b'",
  "silent"]),
  ("ctypes.c_char", ["below _ctypes._SimpleCData", "kind _ctypes.PyCSimpleType", "open",
  "classes __ctype_le__=ctypes.c_char __ctype_be__=ctypes.c_char", "constant _type_ 'c'",
  "silent"]),
  ("ctypes.c_char_p", ["below _ctypes._SimpleCData", "kind _ctypes.PyCSimpleType", "open",
  "functions __repr__", "class-builtins from_param", "constant _type_ 'z'", "silent"]),
  ("ctypes.c_double", ["below _ctypes._SimpleCData", "kind _ctypes.PyCSimpleType", "open",
  "classes __ctype_be__=ctypes.c_double __ctype_le__=ctypes.c_double", "constant _type_ 'd'",
  "silent"]),
  ("ctypes.c_float", ["below _ctypes._SimpleCData", "kind _ctypes.PyCSimpleType", "open",
  "classes __ctype_be__=ctypes.c_float __ctype_le__=ctypes.c_float", "constant _type_ 'f'",
  "silent"]),
  ("ctypes.c_int", ["below _ctypes._SimpleCData", "kind _ctypes.PyCSimpleType", "open",
  "classes __ctype_be__=ctypes.c_int __ctype_le__=ctypes.c_int", "constant _type_ 'i'", "silent"]),
  ("ctypes.c_long", ["below _ctypes._SimpleCData", "kind _ctypes.PyCSimpleType", "open",
  "classes __ctype_be__=ctypes.c_long __ctype_le__=ctypes.c_long", "constant _type_ 'l'",
  "silent"]),
  ("ctypes.c_longdouble", ["below _ctypes._SimpleCData", "kind _ctypes.PyCSimpleType", "open",
  "constant _type_ 'g'", "silent"]),
  ("ctypes.c_short", ["below _ctypes._SimpleCData", "kind _ctypes.PyCSimpleType", "open",
  "classes __ctype_be__=ctypes.c_short __ctype_le__=ctypes.c_short", "constant _type_ 'h'",
  "silent"]),
  ("ctypes.c_ubyte", ["below _ctypes._SimpleCData", "kind _ctypes.PyCSimpleType", "open",
  "classes __ctype_le__=ctypes.c_ubyte __ctype_be__=ctypes.c_ubyte", "constant _type_ 'B'",
  "silent"]),
  ("ctypes.c_uint", ["below _ctypes._SimpleCData", "kind _ctypes.PyCSimpleType", "open",
  "classes __ctype_be__=ctypes.c_uint __ctype_le__=ctypes.c_uint", "constant _type_ 'I'",
  "silent"]),
  ("ctypes.c_ulong", ["below _ctypes._SimpleCData", "kind _ctypes.PyCSimpleType", "open",
  "classes __ctype_be__=ctypes.c_ulong __ctype_le__=ctypes.c_ulong", "constant _type_ 'L'",
  "silent"]),
  ("ctypes.c_ushort", ["below _ctypes._SimpleCData", "kind _ctypes.PyCSimpleType", "open",
  "classes __ctype_be__=ctypes.c_ushort __ctype_le__=ctypes.c_ushort", "constant _type_ 'H'",
  "silent"]),
  ("ctypes.c_void_p", ["below _ctypes._SimpleCData", "kind _ctypes.PyCSimpleType", "open",
  "class-builtins from_param", "constant _type_ 'P'", "silent"]),
  ("ctypes.c_wchar", ["below _ctypes._SimpleCData", "kind _ctypes.PyCSimpleType", "open",
  "constant _type_ 'u'", "silent"]),
  ("ctypes.c_wchar_p", ["below _ctypes._SimpleCData", "kind _ctypes.PyCSimpleType", "open",
  "functions __repr__", "class-builtins from_param", "constant _type_ 'Z'", "silent"]),
  ("ctypes.py_object", ["below _ctypes._SimpleCData", "kind _ctypes.PyCSimpleType", "open",
  "functions __repr__", "constant _type_ 'O'", "silent"]),
  ("ctypes.wintypes.FILETIME", ["below _ctypes.Structure", "kind _ctypes.PyCStructType", "open",
  "objects dwLowDateTime=_ctypes.CField dwHighDateTime=_ctypes.CField",
  "constant _fields_ [('dwLowDateTime', ctypes.c_ulong), ('dwHighDateTime', ctypes.c_ulong)]",
  "silent"]),
  ("ctypes.wintypes.LP_FILETIME", ["below _ctypes._Pointer", "kind _ctypes.PyCPointerType", "open",
  "classes _type_=ctypes.wintypes.FILETIME", "silent"]),
  ("ctypes.wintypes.LP_MSG", ["below _ctypes._Pointer", "kind _ctypes.PyCPointerType", "open",
  "classes _type_=ctypes.wintypes.MSG", "silent"]),
  ("ctypes.wintypes.LP_POINT", ["below _ctypes._Pointer", "kind _ctypes.PyCPointerType", "open",
  "classes _type_=ctypes.wintypes.POINT", "silent"]),
  ("ctypes.wintypes.LP_RECT", ["below _ctypes._Pointer", "kind _ctypes.PyCPointerType", "open",
  "classes _type_=ctypes.wintypes.RECT", "silent"]),
  ("ctypes.wintypes.LP_SIZE", ["below _ctypes._Pointer", "kind _ctypes.PyCPointerType", "open",
  "classes _type_=ctypes.wintypes.SIZE", "silent"]),
  ("ctypes.wintypes.LP_WIN32_FIND_DATAA", ["below _ctypes._Pointer", "kind _ctypes.PyCPointerType",
  "open", "classes _type_=ctypes.wintypes.WIN32_FIND_DATAA", "silent"]),
  ("ctypes.wintypes.LP_WIN32_FIND_DATAW", ["below _ctypes._Pointer", "kind _ctypes.PyCPointerType",
  "open", "classes _type_=ctypes.wintypes.WIN32_FIND_DATAW", "silent"]),
  ("ctypes.wintypes.LP__SMALL_RECT", ["below _ctypes._Pointer", "kind _ctypes.PyCPointerType",
  "open", "classes _type_=ctypes.wintypes._SMALL_RECT", "silent"]),
  ("ctypes.wintypes.LP_c_byte", ["below _ctypes._Pointer", "kind _ctypes.PyCPointerType", "open",
  "classes _type_=ctypes.c_byte", "silent"]),
  ("ctypes.wintypes.LP_c_float", ["below _ctypes._Pointer", "kind _ctypes.PyCPointerType", "open",
  "classes _type_=ctypes.c_float", "silent"]),
  ("ctypes.wintypes.LP_c_int", ["below _ctypes._Pointer", "kind _ctypes.PyCPointerType", "open",
  "classes _type_=ctypes.c_int", "silent"]),
  ("ctypes.wintypes.LP_c_long", ["below _ctypes._Pointer", "kind _ctypes.PyCPointerType", "open",
  "classes _type_=ctypes.c_long", "silent"]),
  ("ctypes.wintypes.LP_c_short", ["below _ctypes._Pointer", "kind _ctypes.PyCPointerType", "open",
  "classes _type_=ctypes.c_short", "silent"]),
  ("ctypes.wintypes.LP_c_uint", ["below _ctypes._Pointer", "kind _ctypes.PyCPointerType", "open",
  "classes _type_=ctypes.c_uint", "silent"]),
  ("ctypes.wintypes.LP_c_ulong", ["below _ctypes._Pointer", "kind _ctypes.PyCPointerType", "open",
  "classes _type_=ctypes.c_ulong", "silent"]),
  ("ctypes.wintypes.LP_c_ushort", ["below _ctypes._Pointer", "kind _ctypes.PyCPointerType", "open",
  "classes _type_=ctypes.c_ushort", "silent"]),
  ("ctypes.wintypes.LP_c_void_p", ["below _ctypes._Pointer", "kind _ctypes.PyCPointerType", "open",
  "classes _type_=ctypes.c_void_p", "silent"]),
  ("ctypes.wintypes.MSG", ["below _ctypes.Structure", "kind _ctypes.PyCStructType", "open",
  "objects hWnd=_ctypes.CField message=_ctypes.CField wParam=_ctypes.CField lParam=_ctypes.CField
  time=_ctypes.CField pt=_ctypes.CField",
  "constant _fields_ [('hWnd', ctypes.c_void_p), ('message', ctypes.c_uint), ('wParam', ctypes",
  "|.c_ulong), ('lParam', ctypes.c_long), ('time', ctypes.c_ulong), ('pt', ctypes.wintypes.POI",
  "|NT)]", "silent"]),
  ("ctypes.wintypes.POINT", ["below _ctypes.Structure", "kind _ctypes.PyCStructType", "open",
  "objects x=_ctypes.CField y=_ctypes.CField",
  "constant _fields_ [('x', ctypes.c_long), ('y', ctypes.c_long)]", "silent"]),
  ("ctypes.wintypes.RECT", ["below _ctypes.Structure", "kind _ctypes.PyCStructType", "open",
  "objects left=_ctypes.CField top=_ctypes.CField right=_ctypes.CField bottom=_ctypes.CField",
  "constant _fields_ [('left', ctypes.c_long), ('top', ctypes.c_long), ('right', ctypes.c_long",
  "|), ('bottom', ctypes.c_long)]", "silent"]),
  ("ctypes.wintypes.SIZE", ["below _ctypes.Structure", "kind _ctypes.PyCStructType", "open",
  "objects cx=_ctypes.CField cy=_ctypes.CField",
  "constant _fields_ [('cx', ctypes.c_long), ('cy', ctypes.c_long)]", "silent"]),
  ("ctypes.wintypes.VARIANT_BOOL", ["below _ctypes._SimpleCData", "kind _ctypes.PyCSimpleType",
  "open", "functions __repr__", "constant _type_ 'v'", "silent"]),
  ("ctypes.wintypes.WIN32_FIND_DATAA", ["below _ctypes.Structure", "kind _ctypes.PyCStructType",
  "open", "objects dwFileAttributes=_ctypes.CField ftCreationTime=_ctypes.CField
  ftLastAccessTime=_ctypes.CField ftLastWriteTime=_ctypes.CField nFileSizeHigh=_ctypes.CField
  nFileSizeLow=_ctypes.CField dwReserved0=_ctypes.CField dwReserved1=_ctypes.CField
  cFileName=_ctypes.CField cAlternateFileName=_ctypes.CField",
  "constant _fields_ [('dwFileAttributes', ctypes.c_ulong), ('ftCreationTime', ctypes.wintypes",
  "|.FILETIME), ('ftLastAccessTime', ctypes.wintypes.FILETIME), ('ftLastWriteTime', ctypes.win",
  "|types.FILETIME), ('nFileSizeHigh', ctypes.c_ulong), ('nFileSizeLow', ctypes.c_ulong), ('dw",
  "|Reserved0', ctypes.c_ulong), ('dwReserved1', ctypes.c_ulong), ('cFileName', ctypes.wintype",
  "|s.c_char_Array_260), ('cAlternateFileName', ctypes.wintypes.c_char_Array_14)]", "silent"]),
  ("ctypes.wintypes.WIN32_FIND_DATAW", ["below _ctypes.Structure", "kind _ctypes.PyCStructType",
  "open", "objects dwFileAttributes=_ctypes.CField ftCreationTime=_ctypes.CField
  ftLastAccessTime=_ctypes.CField ftLastWriteTime=_ctypes.CField nFileSizeHigh=_ctypes.CField
  nFileSizeLow=_ctypes.CField dwReserved0=_ctypes.CField dwReserved1=_ctypes.CField
  cFileName=_ctypes.CField cAlternateFileName=_ctypes.CField",
  "constant _fields_ [('dwFileAttributes', ctypes.c_ulong), ('ftCreationTime', ctypes.wintypes",
  "|.FILETIME), ('ftLastAccessTime', ctypes.wintypes.FILETIME), ('ftLastWriteTime', ctypes.win",
  "|types.FILETIME), ('nFileSizeHigh', ctypes.c_ulong), ('nFileSizeLow', ctypes.c_ulong), ('dw",
  "|Reserved0', ctypes.c_ulong), ('dwReserved1', ctypes.c_ulong), ('cFileName', ctypes.wintype",
  "|s.c_wchar_Array_260), ('cAlternateFileName', ctypes.wintypes.c_wchar_Array_14)]", "silent"]),
  ("ctypes.wintypes._COORD", ["below _ctypes.Structure", "kind _ctypes.PyCStructType", "open",
  "objects X=_ctypes.CField Y=_ctypes.CField",
  "constant _fields_ [('X', ctypes.c_short), ('Y', ctypes.c_short)]", "silent"]),
  ("ctypes.wintypes._SMALL_RECT", ["below _ctypes.Structure", "kind _ctypes.PyCStructType", "open",
  "objects Left=_ctypes.CField Top=_ctypes.CField Right=_ctypes.CField Bottom=_ctypes.CField",
  "constant _fields_ [('Left', ctypes.c_short), ('Top', ctypes.c_short), ('Right', ctypes.c_sh",
  "|ort), ('Bottom', ctypes.c_short)]", "silent"]),
  ("getopt.GetoptError", ["below Exception", "open __weakref__", "functions __init__ __str__",
  "constant opt ''", "constant msg ''", "silent"]),
  ("getpass.GetPassWarning", ["below UserWarning", "open __weakref__", "silent"]),
  ("grp.struct_group", ["below tuple", "shown grp.struct_group", "builtins __new__",
  "operations __repr__", "methods __reduce__", "slots gr_name gr_passwd gr_gid gr_mem",
  "numbers n_sequence_fields=4 n_fields=4 n_unnamed_fields=0",
  "constant __match_args__ ('gr_name', 'gr_passwd', 'gr_gid', 'gr_mem')"]),
  ("logging.BufferingFormatter", ["open", "functions __init__ formatHeader formatFooter format"]),
  ("logging.FileHandler", ["below logging.StreamHandler", "functions __init__ close _open emit
  __repr__"]),
  ("logging.Filter", ["open", "functions __init__ filter"]),
  ("logging.Filterer", ["open", "functions __init__ addFilter removeFilter filter"]),
  ("logging.Formatter", ["open", "functions __init__ formatTime formatException usesTime
  formatMessage formatStack format", "builtins converter",
  "constant default_time_format '%Y-%m-%d %H:%M:%S'", "constant default_msec_format '%s,%03d'"]),
  ("logging.Handler", ["below logging.Filterer", "functions __init__ get_name set_name createLock
  _at_fork_reinit acquire release setLevel format emit handle setFormatter flush close handleError
  __repr__", "properties name", "part name.fget object('function')",
  "part name.fset object('function')"]),
  ("logging.LogRecord", ["open", "functions __init__ __repr__ getMessage"]),
  ("logging.Logger", ["below logging.Filterer", "functions __init__ setLevel debug info warning warn
  error exception critical fatal log findCaller makeRecord _log handle addHandler removeHandler
  hasHandlers callHandlers getEffectiveLevel isEnabledFor getChild __repr__ __reduce__",
  "objects root=logging.RootLogger", "holders manager=logging.Manager", "part manager._disable 0",
  "part manager.disable 0", "part manager.emittedNoHandlerWarning False",
  "part manager.logRecordFactory None", "part manager.loggerClass None"]),
  ("logging.LoggerAdapter", ["open", "functions __init__ process debug info warning warn error
  exception critical log isEnabledFor setLevel getEffectiveLevel hasHandlers _log __repr__",
  "class-functions __class_getitem__", "properties manager name",
  "part manager.fset object('function')"]),
  ("logging.Manager", ["open", "functions __init__ getLogger setLoggerClass setLogRecordFactory
  _fixupParents _fixupChildren _clear_cache", "properties disable",
  "part disable.fset object('function')"]),
  ("logging.NullHandler", ["below logging.Handler", "functions handle emit createLock
  _at_fork_reinit"]),
  ("logging.PercentStyle", ["open", "functions __init__ usesTime validate _format format",
  "holders validation_pattern=re.Pattern", "constant default_format '%(message)s'",
  "constant asctime_format '%(asctime)s'", "constant asctime_search '%(asctime)'", "silent",
  "part validation_pattern.flags 34", "part validation_pattern.groups 3",
  "part validation_pattern.pattern '%\\\\(\\\\w+\\\\)[#0+ -]*(\\\\*|\\\\d+)?(\\\\.(\\\\*|\\\\d",
  "|+))?[diouxefgcrsa%]'"]),
  ("logging.PlaceHolder", ["open", "functions __init__ append"]),
  ("logging.RootLogger", ["below logging.Logger", "functions __init__ __reduce__"]),
  ("logging.StrFormatStyle", ["below logging.PercentStyle", "functions _format validate",
  "holders fmt_spec=re.Pattern field_spec=re.Pattern", "constant default_format '\x7bmessage\x7d'",
  "constant asctime_format '\x7basctime\x7d'", "constant asctime_search '\x7basctime'", "silent",
  "part fmt_spec.flags 34", "part fmt_spec.groups 4",
  "part fmt_spec.pattern '^(.?[<>=^])?[+ -]?#?0?(\\\\d+|\x7b\\\\w+\x7d)?[,_]?(\\\\.(\\\\d+|",
  "|\x7b\\\\w+\x7d))?[bcdefgnosx%]?$'", "part field_spec.groups 2",
  "part field_spec.pattern '^(\\\\d+|\\\\w+)(\\\\.\\\\w+|\\\\[[^]]+\\\\])*$'"]),
  ("logging.StreamHandler", ["below logging.Handler", "functions __init__ flush emit setStream
  __repr__", "class-functions __class_getitem__", "constant terminator '\\n'"]),
  ("logging.StringTemplateStyle", ["below logging.PercentStyle", "functions __init__ usesTime
  validate _format", "constant default_format '$\x7bmessage\x7d'",
  "constant asctime_format '$\x7basctime\x7d'", "constant asctime_search '$\x7basctime\x7d'",
  "silent"]),
  ("logging._StderrHandler", ["below logging.StreamHandler", "functions __init__",
  "properties stream"]),
  ("logging.config.BaseConfigurator", ["open", "functions __init__ resolve ext_convert cfg_convert
  convert configure_custom as_tuple", "builtins importer", "holders CONVERT_PATTERN=re.Pattern
  WORD_PATTERN=re.Pattern DOT_PATTERN=re.Pattern INDEX_PATTERN=re.Pattern DIGIT_PATTERN=re.Pattern",
  "constant value_converters \x7b'ext': 'ext_convert', 'cfg': 'cfg_convert'\x7d",
  "part CONVERT_PATTERN.groupindex object('mappingproxy')", "part CONVERT_PATTERN.groups 2",
  "part CONVERT_PATTERN.pattern '^(?P<prefix>[a-z]+):\\x2f/(?P<suffix>.*)$'",
  "part WORD_PATTERN.groups 1", "part WORD_PATTERN.pattern '^\\\\s*(\\\\w+)\\\\s*'",
  "part DOT_PATTERN.groups 1", "part DOT_PATTERN.pattern '^\\\\.\\\\s*(\\\\w+)\\\\s*'",
  "part INDEX_PATTERN.groups 1",
  "part INDEX_PATTERN.pattern '^\\\\[\\\\s*(\\\\w+)\\\\s*\\\\]\\\\s*'",
  "part DIGIT_PATTERN.pattern '^\\\\d+$'"]),
  ("logging.config.ConvertingDict", ["above dict logging.config.ConvertingMixin object", "open",
  "functions __getitem__ get pop"]),
  ("logging.config.ConvertingList", ["above list logging.config.ConvertingMixin object", "open",
  "functions __getitem__ pop"]),
  ("logging.config.ConvertingMixin", ["open", "functions convert_with_key convert"]),
  ("logging.config.ConvertingTuple", ["above tuple logging.config.ConvertingMixin object",
  "open __dict__", "functions __getitem__"]),
  ("logging.config.DictConfigurator", ["below logging.config.BaseConfigurator", "functions configure
  configure_formatter configure_filter add_filters configure_handler add_handlers
  common_logger_config configure_logger configure_root"]),
  ("logging.handlers.BaseRotatingHandler", ["below logging.FileHandler", "functions __init__ emit
  rotation_filename rotate", "constant namer None", "constant rotator None"]),
  ("logging.handlers.BufferingHandler", ["below logging.Handler", "functions __init__ shouldFlush
  emit flush close"]),
  ("logging.handlers.DatagramHandler", ["below logging.handlers.SocketHandler", "functions __init__
  makeSocket send"]),
  ("logging.handlers.HTTPHandler", ["below logging.Handler", "functions __init__ mapLogRecord
  getConnection emit"]),
  ("logging.handlers.MemoryHandler", ["below logging.handlers.BufferingHandler", "functions __init__
  shouldFlush setTarget flush close"]),
  ("logging.handlers.NTEventLogHandler", ["below logging.Handler", "functions __init__ getMessageID
  getEventCategory getEventType emit close"]),
  ("logging.handlers.QueueHandler", ["below logging.Handler", "functions __init__ enqueue prepare
  emit"]),
  ("logging.handlers.QueueListener", ["open", "functions __init__ dequeue start prepare handle
  _monitor enqueue_sentinel stop", "constant _sentinel None"]),
  ("logging.handlers.RotatingFileHandler", ["below logging.handlers.BaseRotatingHandler",
  "functions __init__ doRollover shouldRollover"]),
  ("logging.handlers.SMTPHandler", ["below logging.Handler", "functions __init__ getSubject emit"]),
  ("logging.handlers.SocketHandler", ["below logging.Handler", "functions __init__ makeSocket
  createSocket send makePickle handleError emit close"]),
  ("logging.handlers.SysLogHandler", ["below logging.Handler", "functions __init__
  _connect_unixsocket createSocket encodePriority close mapPriority emit", "numbers LOG_EMERG=0
  LOG_ALERT=1 LOG_CRIT=2 LOG_ERR=3 LOG_WARNING=4 LOG_NOTICE=5 LOG_INFO=6 LOG_DEBUG=7 LOG_KERN=0
  LOG_USER=1 LOG_MAIL=2 LOG_DAEMON=3 LOG_AUTH=4 LOG_SYSLOG=5 LOG_LPR=6 LOG_NEWS=7 LOG_UUCP=8
  LOG_CRON=9 LOG_AUTHPRIV=10 LOG_FTP=11 LOG_NTP=12 LOG_SECURITY=13 LOG_CONSOLE=14 LOG_SOLCRON=15
  LOG_LOCAL0=16 LOG_LOCAL1=17 LOG_LOCAL2=18 LOG_LOCAL3=19 LOG_LOCAL4=20 LOG_LOCAL5=21 LOG_LOCAL6=22
  LOG_LOCAL7=23",
  "constant priority_names \x7b'alert': 1, 'crit': 2, 'critical': 2, 'debug': 7, 'emerg': 0, '",
  "|err': 3, 'error': 3, 'info': 6, 'notice': 5, 'panic': 0, 'warn': 4, 'warning': 4\x7d",
  "constant facility_names \x7b'auth': 4, 'authpriv': 10, 'console': 14, 'cron': 9, 'daemon': ",
  "|3, 'ftp': 11, 'kern': 0, 'lpr': 6, 'mail': 2, 'news': 7, 'ntp': 12, 'security': 13, 'solar",
  "|is-cron': 15, 'syslog': 5, 'user': 1, 'uucp': 8, 'local0': 16, 'local1': 17, 'local2': 18,",
  "| 'local3': 19, 'local4': 20, 'local5': 21, 'local6': 22, 'local7': 23\x7d",
  "constant priority_map \x7b'DEBUG': 'debug', 'INFO': 'info', 'WARNING': 'warning', 'ERROR': ",
  "|'error', 'CRITICAL': 'critical'\x7d", "constant ident ''", "constant append_nul True"]),
  ("logging.handlers.TimedRotatingFileHandler", ["below logging.handlers.BaseRotatingHandler",
  "functions __init__ computeRollover shouldRollover getFilesToDelete doRollover"]),
  ("logging.handlers.WatchedFileHandler", ["below logging.FileHandler", "functions __init__
  _statstream reopenIfNeeded emit"]),
  ("nis.error", ["below Exception", "open"]),
  ("optparse.AmbiguousOptionError", ["below optparse.BadOptionError", "functions __init__
  __str__"]),
  ("optparse.BadOptionError", ["below optparse.OptParseError", "functions __init__ __str__"]),
  ("optparse.HelpFormatter", ["open", "functions __init__ set_parser set_short_opt_delimiter
  set_long_opt_delimiter indent dedent format_usage format_heading _format_text format_description
  format_epilog expand_default format_option store_option_strings format_option_strings",
  "constant NO_DEFAULT_VALUE 'none'"]),
  ("optparse.IndentedHelpFormatter", ["below optparse.HelpFormatter", "functions __init__
  format_usage format_heading"]),
  ("optparse.OptParseError", ["below Exception", "open __weakref__", "functions __init__ __str__",
  "silent"]),
  ("optparse.Option", ["open", "functions __init__ _check_opt_strings _set_opt_strings _set_attrs
  _check_action _check_type _check_choice _check_dest _check_const _check_nargs _check_callback
  __str__ __repr__=optparse:_repr takes_value get_opt_string check_value convert_value process
  take_action",
  "constant ATTRS ['action', 'type', 'dest', 'default', 'nargs', 'const', 'choices', 'callback",
  "|', 'callback_args', 'callback_kwargs', 'help', 'metavar']",
  "constant ACTIONS ('store', 'store_const', 'store_true', 'store_false', 'append', 'append_co",
  "|nst', 'count', 'callback', 'help', 'version')",
  "constant STORE_ACTIONS ('store', 'store_const', 'store_true', 'store_false', 'append', 'app",
  "|end_const', 'count')", "constant TYPED_ACTIONS ('store', 'append', 'callback')",
  "constant ALWAYS_TYPED_ACTIONS ('store', 'append')",
  "constant CONST_ACTIONS ('store_const', 'append_const')",
  "constant TYPES ('string', 'int', 'long', 'float', 'complex', 'choice')",
  "constant TYPE_CHECKER \x7b'int': function(...), 'long': function(...), 'float': function(..",
  "|.), 'complex': function(...), 'choice': function(...)\x7d",
  "constant CHECK_METHODS [function(...), function(...), function(...), function(...), functio",
  "|n(...), function(...), function(...)]"]),
  ("optparse.OptionConflictError", ["below optparse.OptionError"]),
  ("optparse.OptionContainer", ["open", "functions __init__ _create_option_mappings
  _share_option_mappings set_conflict_handler set_description get_description destroy
  _check_conflict add_option add_options get_option has_option remove_option format_option_help
  format_description format_help"]),
  ("optparse.OptionError", ["below optparse.OptParseError", "functions __init__ __str__"]),
  ("optparse.OptionGroup", ["below optparse.OptionContainer", "functions __init__
  _create_option_list set_title destroy format_help", "silent"]),
  ("optparse.OptionParser", ["below optparse.OptionContainer", "functions __init__ destroy
  _create_option_list _add_help_option _add_version_option _populate_option_list _init_parsing_state
  set_usage enable_interspersed_args disable_interspersed_args set_process_default_values
  set_default set_defaults _get_all_options get_default_values add_option_group get_option_group
  _get_args parse_args check_values _process_args _match_long_opt _process_long_opt
  _process_short_opts get_prog_name expand_prog_name get_description exit error get_usage
  print_usage get_version print_version format_option_help format_epilog format_help print_help",
  "constant standard_option_list []"]),
  ("optparse.OptionValueError", ["below optparse.OptParseError"]),
  ("optparse.TitledHelpFormatter", ["below optparse.HelpFormatter", "functions __init__ format_usage
  format_heading"]),
  ("optparse.Values", ["open", "functions __init__ __str__ __repr__=optparse:_repr __eq__
  _update_careful _update_loose _update read_module read_file ensure_value", "silent",
  "constant __hash__ None"]),
  ("platform._Processor", ["open", "functions get_win32 get_OpenVMS from_subprocess",
  "class-functions get", "silent"]),
  ("platform.uname_result", ["below platform.uname_result_base", "open __dict__",
  "functions __iter__ __getitem__ __len__ __reduce__", "class-functions _make",
  "objects processor=functools.cached_property",
  "constant _fields ('system', 'node', 'release', 'version', 'machine', 'processor')"]),
  ("platform.uname_result_base", ["below tuple", "functions _replace __repr__ _asdict
  __getnewargs__", "class-functions _make", "statics __new__",
  "objects system=_collections._tuplegetter node=_collections._tuplegetter
  release=_collections._tuplegetter version=_collections._tuplegetter
  machine=_collections._tuplegetter", "constant __slots__ ()",
  "constant _fields ('system', 'node', 'release', 'version', 'machine')",
  "constant _field_defaults \x7b\x7d",
  "constant __match_args__ ('system', 'node', 'release', 'version', 'machine')"]),
  ("pwd.struct_passwd", ["below tuple", "shown pwd.struct_passwd", "builtins __new__",
  "operations __repr__", "methods __reduce__", "slots pw_name pw_passwd pw_uid pw_gid pw_gecos
  pw_dir pw_shell", "numbers n_sequence_fields=7 n_fields=7 n_unnamed_fields=0",
  "constant __match_args__ ('pw_name', 'pw_passwd', 'pw_uid', 'pw_gid', 'pw_gecos', 'pw_dir', ",
  "|'pw_shell')"]),
  ("resource.struct_rusage", ["below tuple", "shown resource.struct_rusage", "builtins __new__",
  "operations __repr__", "methods __reduce__", "slots ru_utime ru_stime ru_maxrss ru_ixrss ru_idrss
  ru_isrss ru_minflt ru_majflt ru_nswap ru_inblock ru_oublock ru_msgsnd ru_msgrcv ru_nsignals
  ru_nvcsw ru_nivcsw", "numbers n_sequence_fields=16 n_fields=16 n_unnamed_fields=0",
  "constant __match_args__ ('ru_utime', 'ru_stime', 'ru_maxrss', 'ru_ixrss', 'ru_idrss', 'ru_i",
  "|srss', 'ru_minflt', 'ru_majflt', 'ru_nswap', 'ru_inblock', 'ru_oublock', 'ru_msgsnd', 'ru_",
  "|msgrcv', 'ru_nsignals', 'ru_nvcsw', 'ru_nivcsw')"]),
  ("spwd.struct_spwd", ["below tuple", "shown spwd.struct_spwd", "builtins __new__",
  "operations __repr__", "methods __reduce__", "slots sp_namp sp_pwdp sp_lstchg sp_min sp_max
  sp_warn sp_inact sp_expire sp_flag sp_nam sp_pwd", "numbers n_sequence_fields=9 n_fields=11
  n_unnamed_fields=0",
  "constant __match_args__ ('sp_namp', 'sp_pwdp', 'sp_lstchg', 'sp_min', 'sp_max', 'sp_warn', ",
  "|'sp_inact', 'sp_expire', 'sp_flag')"]),
  ("tracemalloc.BaseFilter", ["open", "functions __init__ _match", "silent"]),
  ("tracemalloc.DomainFilter", ["below tracemalloc.BaseFilter", "functions __init__ _match",
  "properties domain", "silent"]),
  ("tracemalloc.Filter", ["below tracemalloc.BaseFilter", "functions __init__ _match_frame_impl
  _match_frame _match_traceback _match", "properties filename_pattern", "silent"]),
  ("tracemalloc.Frame", ["functions __init__ __eq__ __lt__ __hash__ __str__ __repr__
  __gt__=functools:_gt_from_lt __le__=functools:_le_from_lt __ge__=functools:_ge_from_lt",
  "properties filename lineno", "slots _frame", "constant __slots__ ('_frame',)"]),
  ("tracemalloc.Snapshot", ["open", "functions __init__ dump _filter_trace filter_traces _group_by
  statistics compare_to", "statics load"]),
  ("tracemalloc.Statistic", ["functions __init__ __hash__ __eq__ __str__ __repr__ _sort_key",
  "slots count size traceback", "constant __slots__ ('traceback', 'size', 'count')"]),
  ("tracemalloc.StatisticDiff", ["functions __init__ __hash__ __eq__ __str__ __repr__ _sort_key",
  "slots count count_diff size size_diff traceback",
  "constant __slots__ ('traceback', 'size', 'size_diff', 'count', 'count_diff')"]),
  ("tracemalloc.Trace", ["functions __init__ __eq__ __hash__ __str__ __repr__", "properties domain
  size traceback", "slots _trace", "constant __slots__ ('_trace',)"]),
  ("tracemalloc.Traceback", ["below collections.abc.Sequence", "kind abc.ABCMeta",
  "functions __init__ __len__ __getitem__ __contains__ __hash__ __eq__ __lt__ __str__ __repr__
  format __gt__=functools:_gt_from_lt __le__=functools:_le_from_lt __ge__=functools:_ge_from_lt",
  "properties total_nframe", "slots _frames _total_nframe",
  "constant __slots__ ('_frames', '_total_nframe')"]),
  ("tracemalloc._Traces", ["below collections.abc.Sequence", "kind abc.ABCMeta", "open",
  "functions __init__ __len__ __getitem__ __contains__ __eq__ __repr__", "silent",
  "constant __hash__ None"])]

end FragmentWeaver.Standard
