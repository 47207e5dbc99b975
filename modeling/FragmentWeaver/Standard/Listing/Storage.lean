/-!
# Listing: stored data

What stands in the modules and classes for records, tables, archives and configurations.
-/

namespace FragmentWeaver.Standard

/-- The modules for stored data. -/
def storageModules : List (String × List String) := [
  ("_bz2", ["extension", "classes BZ2Compressor BZ2Decompressor", "constant __doc__ None"]),
  ("_compat_pickle", [
  "constant IMPORT_MAPPING \x7b'__builtin__': 'builtins', 'copy_reg': 'copyreg', 'Queue': 'que",
  "|ue', 'SocketServer': 'socketserver', 'ConfigParser': 'configparser', 'repr': 'reprlib', 't",
  "|kFileDialog': 'tkinter.filedialog', 'tkSimpleDialog': 'tkinter.simpledialog', 'tkColorChoo",
  "|ser': 'tkinter.colorchooser', 'tkCommonDialog': 'tkinter.commondialog', 'Dialog': 'tkinter",
  "|.dialog', 'Tkdnd': 'tkinter.dnd', 'tkFont': 'tkinter.font', 'tkMessageBox': 'tkinter.messa",
  "|gebox', 'ScrolledText': 'tkinter.scrolledtext', 'Tkconstants': 'tkinter.constants', 'Tix':",
  "| 'tkinter.tix', 'ttk': 'tkinter.ttk', 'Tkinter': 'tkinter', 'markupbase': '_markupbase', '",
  "|_winreg': 'winreg', 'thread': '_thread', 'dummy_thread': '_dummy_thread', 'dbhash': 'dbm.b",
  "|sd', 'dumbdbm': 'dbm.dumb', 'dbm': 'dbm.ndbm', 'gdbm': 'dbm.gnu', 'xmlrpclib': 'xmlrpc.cli",
  "|ent', 'SimpleXMLRPCServer': 'xmlrpc.server', 'httplib': 'http.client', 'htmlentitydefs': '",
  "|html.entities', 'HTMLParser': 'html.parser', 'Cookie': 'http.cookies', 'cookielib': 'http.",
  "|cookiejar', 'BaseHTTPServer': 'http.server', 'test.test_support': 'test.support', 'command",
  "|s': 'subprocess', 'urlparse': 'urllib.parse', 'robotparser': 'urllib.robotparser', 'urllib",
  "|2': 'urllib.request', 'anydbm': 'dbm', '_abcoll': 'collections.abc', 'cPickle': 'pickle', ",
  "|'_elementtree': 'xml.etree.ElementTree', 'FileDialog': 'tkinter.filedialog', 'SimpleDialog",
  "|': 'tkinter.simpledialog', 'DocXMLRPCServer': 'xmlrpc.server', 'SimpleHTTPServer': 'http.s",
  "|erver', 'CGIHTTPServer': 'http.server', 'UserDict': 'collections', 'UserList': 'collection",
  "|s', 'UserString': 'collections', 'whichdb': 'dbm', 'StringIO': 'io', 'cStringIO': 'io'\x7d",
  "constant MULTIPROCESSING_EXCEPTIONS ('AuthenticationError', 'BufferTooShort', 'ProcessError",
  "|', 'TimeoutError')",
  "constant PYTHON2_EXCEPTIONS ('ArithmeticError', 'AssertionError', 'AttributeError', 'BaseEx",
  "|ception', 'BufferError', 'BytesWarning', 'DeprecationWarning', 'EOFError', 'EnvironmentErr",
  "|or', 'Exception', 'FloatingPointError', 'FutureWarning', 'GeneratorExit', 'IOError', 'Impo",
  "|rtError', 'ImportWarning', 'IndentationError', 'IndexError', 'KeyError', 'KeyboardInterrup",
  "|t', 'LookupError', 'MemoryError', 'NameError', 'NotImplementedError', 'OSError', 'Overflow",
  "|Error', 'PendingDeprecationWarning', 'ReferenceError', 'RuntimeError', 'RuntimeWarning', '",
  "|StopIteration', 'SyntaxError', 'SyntaxWarning', 'SystemError', 'SystemExit', 'TabError', '",
  "|TypeError', 'UnboundLocalError', 'UnicodeDecodeError', 'UnicodeEncodeError', 'UnicodeError",
  "|', 'UnicodeTranslateError', 'UnicodeWarning', 'UserWarning', 'ValueError', 'Warning', 'Zer",
  "|oDivisionError')", "constant PYTHON3_IMPORTERROR_EXCEPTIONS ('ModuleNotFoundError',)",
  "constant PYTHON3_OSERROR_EXCEPTIONS ('BrokenPipeError', 'ChildProcessError', 'ConnectionAbo",
  "|rtedError', 'ConnectionError', 'ConnectionRefusedError', 'ConnectionResetError', 'FileExis",
  "|tsError', 'FileNotFoundError', 'InterruptedError', 'IsADirectoryError', 'NotADirectoryErro",
  "|r', 'PermissionError', 'ProcessLookupError', 'TimeoutError')",
  "constant REVERSE_IMPORT_MAPPING \x7b'builtins': '__builtin__', 'copyreg': 'copy_reg', 'queu",
  "|e': 'Queue', 'socketserver': 'SocketServer', 'configparser': 'ConfigParser', 'reprlib': 'r",
  "|epr', 'tkinter.filedialog': 'tkFileDialog', 'tkinter.simpledialog': 'tkSimpleDialog', 'tki",
  "|nter.colorchooser': 'tkColorChooser', 'tkinter.commondialog': 'tkCommonDialog', 'tkinter.d",
  "|ialog': 'Dialog', 'tkinter.dnd': 'Tkdnd', 'tkinter.font': 'tkFont', 'tkinter.messagebox': ",
  "|'tkMessageBox', 'tkinter.scrolledtext': 'ScrolledText', 'tkinter.constants': 'Tkconstants'",
  "|, 'tkinter.tix': 'Tix', 'tkinter.ttk': 'ttk', 'tkinter': 'Tkinter', '_markupbase': 'markup",
  "|base', 'winreg': '_winreg', '_thread': 'thread', '_dummy_thread': 'dummy_thread', 'dbm.bsd",
  "|': 'dbhash', 'dbm.dumb': 'dumbdbm', 'dbm.ndbm': 'dbm', 'dbm.gnu': 'gdbm', 'xmlrpc.client':",
  "| 'xmlrpclib', 'xmlrpc.server': 'SimpleXMLRPCServer', 'http.client': 'httplib', 'html.entit",
  "|ies': 'htmlentitydefs', 'html.parser': 'HTMLParser', 'http.cookies': 'Cookie', 'http.cooki",
  "|ejar': 'cookielib', 'http.server': 'BaseHTTPServer', 'test.support': 'test.test_support', ",
  "|'subprocess': 'commands', 'urllib.parse': 'urlparse', 'urllib.robotparser': 'robotparser',",
  "| 'urllib.request': 'urllib2', 'dbm': 'anydbm', 'collections.abc': '_abcoll', '_bz2': 'bz2'",
  "|, '_dbm': 'dbm', '_functools': 'functools', '_gdbm': 'gdbm', '_pickle': 'pickle'\x7d",
  "constant REVERSE_NAME_MAPPING \x7b('builtins', 'range'): ('__builtin__', 'xrange'), ('funct",
  "|ools', 'reduce'): ('__builtin__', 'reduce'), ('sys', 'intern'): ('__builtin__', 'intern'),",
  "| ('builtins', 'chr'): ('__builtin__', 'unichr'), ('builtins', 'str'): ('__builtin__', 'uni",
  "|code'), ('builtins', 'int'): ('__builtin__', 'long'), ('builtins', 'zip'): ('itertools', '",
  "|izip'), ('builtins', 'map'): ('itertools', 'imap'), ('builtins', 'filter'): ('itertools', ",
  "|'ifilter'), ('itertools', 'filterfalse'): ('itertools', 'ifilterfalse'), ('itertools', 'zi",
  "|p_longest'): ('itertools', 'izip_longest'), ('collections', 'UserDict'): ('UserDict', 'Ite",
  "|rableUserDict'), ('collections', 'UserList'): ('UserList', 'UserList'), ('collections', 'U",
  "|serString'): ('UserString', 'UserString'), ('dbm', 'whichdb'): ('whichdb', 'whichdb'), ('s",
  "|ocket', 'fromfd'): ('_socket', 'fromfd'), ('multiprocessing.connection', 'Connection'): ('",
  "|_multiprocessing', 'Connection'), ('multiprocessing.context', 'Process'): ('multiprocessin",
  "|g.process', 'Process'), ('multiprocessing.popen_fork', 'Popen'): ('multiprocessing.forking",
  "|', 'Popen'), ('urllib.error', 'ContentTooShortError'): ('urllib', 'ContentTooShortError'),",
  "| ('urllib.request', 'getproxies'): ('urllib', 'getproxies'), ('urllib.request', 'pathname2",
  "|url'): ('urllib', 'pathname2url'), ('urllib.parse', 'quote_plus'): ('urllib', 'quote_plus'",
  "|), ('urllib.parse', 'quote'): ('urllib', 'quote'), ('urllib.parse', 'unquote_plus'): ('url",
  "|lib', 'unquote_plus'), ('urllib.parse', 'unquote'): ('urllib', 'unquote'), ('urllib.reques",
  "|t', 'url2pathname'): ('urllib', 'url2pathname'), ('urllib.request', 'urlcleanup'): ('urlli",
  "|b', 'urlcleanup'), ('urllib.parse', 'urlencode'): ('urllib', 'urlencode'), ('urllib.reques",
  "|t', 'urlopen'): ('urllib', 'urlopen'), ('urllib.request', 'urlretrieve'): ('urllib', 'urlr",
  "|etrieve'), ('urllib.error', 'HTTPError'): ('urllib2', 'HTTPError'), ('urllib.error', 'URLE",
  "|rror'): ('urllib2', 'URLError'), ('builtins', 'ArithmeticError'): ('exceptions', 'Arithmet",
  "|icError'), ('builtins', 'AssertionError'): ('exceptions', 'AssertionError'), ('builtins', ",
  "|'AttributeError'): ('exceptions', 'AttributeError'), ('builtins', 'BaseException'): ('exce",
  "|ptions', 'BaseException'), ('builtins', 'BufferError'): ('exceptions', 'BufferError'), ('b",
  "|uiltins', 'BytesWarning'): ('exceptions', 'BytesWarning'), ('builtins', 'DeprecationWarnin",
  "|g'): ('exceptions', 'DeprecationWarning'), ('builtins', 'EOFError'): ('exceptions', 'EOFEr",
  "|ror'), ('builtins', 'EnvironmentError'): ('exceptions', 'EnvironmentError'), ('builtins', ",
  "|'Exception'): ('exceptions', 'Exception'), ('builtins', 'FloatingPointError'): ('exception",
  "|s', 'FloatingPointError'), ('builtins', 'FutureWarning'): ('exceptions', 'FutureWarning'),",
  "| ('builtins', 'GeneratorExit'): ('exceptions', 'GeneratorExit'), ('builtins', 'IOError'): ",
  "|('exceptions', 'IOError'), ('builtins', 'ImportError'): ('exceptions', 'ImportError'), ('b",
  "|uiltins', 'ImportWarning'): ('exceptions', 'ImportWarning'), ('builtins', 'IndentationErro",
  "|r'): ('exceptions', 'IndentationError'), ('builtins', 'IndexError'): ('exceptions', 'Index",
  "|Error'), ('builtins', 'KeyError'): ('exceptions', 'KeyError'), ('builtins', 'KeyboardInter",
  "|rupt'): ('exceptions', 'KeyboardInterrupt'), ('builtins', 'LookupError'): ('exceptions', '",
  "|LookupError'), ('builtins', 'MemoryError'): ('exceptions', 'MemoryError'), ('builtins', 'N",
  "|ameError'): ('exceptions', 'NameError'), ('builtins', 'NotImplementedError'): ('exceptions",
  "|', 'NotImplementedError'), ('builtins', 'OSError'): ('exceptions', 'OSError'), ('builtins'",
  "|, 'OverflowError'): ('exceptions', 'OverflowError'), ('builtins', 'PendingDeprecationWarni",
  "|ng'): ('exceptions', 'PendingDeprecationWarning'), ('builtins', 'ReferenceError'): ('excep",
  "|tions', 'ReferenceError'), ('builtins', 'RuntimeError'): ('exceptions', 'RuntimeError'), (",
  "|'builtins', 'RuntimeWarning'): ('exceptions', 'RuntimeWarning'), ('builtins', 'StopIterati",
  "|on'): ('exceptions', 'StopIteration'), ('builtins', 'SyntaxError'): ('exceptions', 'Syntax",
  "|Error'), ('builtins', 'SyntaxWarning'): ('exceptions', 'SyntaxWarning'), ('builtins', 'Sys",
  "|temError'): ('exceptions', 'SystemError'), ('builtins', 'SystemExit'): ('exceptions', 'Sys",
  "|temExit'), ('builtins', 'TabError'): ('exceptions', 'TabError'), ('builtins', 'TypeError')",
  "|: ('exceptions', 'TypeError'), ('builtins', 'UnboundLocalError'): ('exceptions', 'UnboundL",
  "|ocalError'), ('builtins', 'UnicodeDecodeError'): ('exceptions', 'UnicodeDecodeError'), ('b",
  "|uiltins', 'UnicodeEncodeError'): ('exceptions', 'UnicodeEncodeError'), ('builtins', 'Unico",
  "|deError'): ('exceptions', 'UnicodeError'), ('builtins', 'UnicodeTranslateError'): ('except",
  "|ions', 'UnicodeTranslateError'), ('builtins', 'UnicodeWarning'): ('exceptions', 'UnicodeWa",
  "|rning'), ('builtins', 'UserWarning'): ('exceptions', 'UserWarning'), ('builtins', 'ValueEr",
  "|ror'): ('exceptions', 'ValueError'), ('builtins', 'Warning'): ('exceptions', 'Warning'), (",
  "|'builtins', 'ZeroDivisionError'): ('exceptions', 'ZeroDivisionError'), ('multiprocessing.c",
  "|ontext', 'AuthenticationError'): ('multiprocessing', 'AuthenticationError'), ('multiproces",
  "|sing.context', 'BufferTooShort'): ('multiprocessing', 'BufferTooShort'), ('multiprocessing",
  "|.context', 'ProcessError'): ('multiprocessing', 'ProcessError'), ('multiprocessing.context",
  "|', 'TimeoutError'): ('multiprocessing', 'TimeoutError'), ('_functools', 'reduce'): ('__bui",
  "|ltin__', 'reduce'), ('tkinter.filedialog', 'FileDialog'): ('FileDialog', 'FileDialog'), ('",
  "|tkinter.filedialog', 'LoadFileDialog'): ('FileDialog', 'LoadFileDialog'), ('tkinter.filedi",
  "|alog', 'SaveFileDialog'): ('FileDialog', 'SaveFileDialog'), ('tkinter.simpledialog', 'Simp",
  "|leDialog'): ('SimpleDialog', 'SimpleDialog'), ('xmlrpc.server', 'ServerHTMLDoc'): ('DocXML",
  "|RPCServer', 'ServerHTMLDoc'), ('xmlrpc.server', 'XMLRPCDocGenerator'): ('DocXMLRPCServer',",
  "| 'XMLRPCDocGenerator'), ('xmlrpc.server', 'DocXMLRPCRequestHandler'): ('DocXMLRPCServer', ",
  "|'DocXMLRPCRequestHandler'), ('xmlrpc.server', 'DocXMLRPCServer'): ('DocXMLRPCServer', 'Doc",
  "|XMLRPCServer'), ('xmlrpc.server', 'DocCGIXMLRPCRequestHandler'): ('DocXMLRPCServer', 'DocC",
  "|GIXMLRPCRequestHandler'), ('http.server', 'SimpleHTTPRequestHandler'): ('SimpleHTTPServer'",
  "|, 'SimpleHTTPRequestHandler'), ('http.server', 'CGIHTTPRequestHandler'): ('CGIHTTPServer',",
  "| 'CGIHTTPRequestHandler'), ('_socket', 'socket'): ('socket', '_socketobject'), ('builtins'",
  "|, 'BrokenPipeError'): ('exceptions', 'OSError'), ('builtins', 'ChildProcessError'): ('exce",
  "|ptions', 'OSError'), ('builtins', 'ConnectionAbortedError'): ('exceptions', 'OSError'), ('",
  "|builtins', 'ConnectionError'): ('exceptions', 'OSError'), ('builtins', 'ConnectionRefusedE",
  "|rror'): ('exceptions', 'OSError'), ('builtins', 'ConnectionResetError'): ('exceptions', 'O",
  "|SError'), ('builtins', 'FileExistsError'): ('exceptions', 'OSError'), ('builtins', 'FileNo",
  "|tFoundError'): ('exceptions', 'OSError'), ('builtins', 'InterruptedError'): ('exceptions',",
  "| 'OSError'), ('builtins', 'IsADirectoryError'): ('exceptions', 'OSError'), ('builtins', 'N",
  "|otADirectoryError'): ('exceptions', 'OSError'), ('builtins', 'PermissionError'): ('excepti",
  "|ons', 'OSError'), ('builtins', 'ProcessLookupError'): ('exceptions', 'OSError'), ('builtin",
  "|s', 'TimeoutError'): ('exceptions', 'OSError'), ('builtins', 'ModuleNotFoundError'): ('exc",
  "|eptions', 'ImportError')\x7d", "constant __doc__ None", "objects NAME_MAPPING=dict"]),
  ("_compression", ["classes BaseStream DecompressReader", "modules io= sys=",
  "numbers BUFFER_SIZE=8192"]),
  ("_csv", ["built-in", "builtins field_size_limit get_dialect list_dialects reader register_dialect
  unregister_dialect writer", "classes Dialect Error Reader=_csv.reader Writer=_csv.writer",
  "numbers QUOTE_ALL=1 QUOTE_MINIMAL=0 QUOTE_NONE=3 QUOTE_NONNUMERIC=2",
  "constant __version__ '1.0'", "constant _dialects \x7b\x7d"]),
  ("_dbm", ["extension", "builtins open", "classes error", "constant __doc__ None",
  "constant library 'Berkeley DB'"]),
  ("_json", ["extension", "builtins encode_basestring encode_basestring_ascii scanstring",
  "classes make_encoder=_json.Encoder make_scanner=_json.Scanner"]),
  ("_lzma", ["extension", "builtins _decode_filter_properties _encode_filter_properties
  is_check_supported", "classes LZMACompressor LZMADecompressor LZMAError", "numbers CHECK_CRC32=1
  CHECK_CRC64=4 CHECK_ID_MAX=15 CHECK_NONE=0 CHECK_SHA256=10 CHECK_UNKNOWN=16 FILTER_ARM=7
  FILTER_ARMTHUMB=8 FILTER_DELTA=3 FILTER_IA64=6 FILTER_LZMA1=4611686018427387905 FILTER_LZMA2=33
  FILTER_POWERPC=5 FILTER_SPARC=9 FILTER_X86=4 FORMAT_ALONE=2 FORMAT_AUTO=0 FORMAT_RAW=3 FORMAT_XZ=1
  MF_BT2=18 MF_BT3=19 MF_BT4=20 MF_HC3=3 MF_HC4=4 MODE_FAST=1 MODE_NORMAL=2 PRESET_DEFAULT=6
  PRESET_EXTREME=2147483648", "constant __doc__ None"]),
  ("_pickle", ["built-in", "builtins dump dumps load loads", "classes PickleBuffer=pickle.
  PickleError Pickler PicklingError Unpickler UnpicklingError"]),
  ("_sqlite3", ["extension", "builtins adapt complete_statement connect enable_callback_tracebacks
  enable_shared_cache register_adapter register_converter", "classes Blob=sqlite3.
  Connection=sqlite3. Cursor=sqlite3. DataError=sqlite3. DatabaseError=sqlite3. Error=sqlite3.
  IntegrityError=sqlite3. InterfaceError=sqlite3. InternalError=sqlite3. NotSupportedError=sqlite3.
  OperationalError=sqlite3. PrepareProtocol=sqlite3. ProgrammingError=sqlite3. Row=sqlite3.
  Warning=sqlite3.", "numbers PARSE_COLNAMES=2 PARSE_DECLTYPES=1 SQLITE_ABORT=4
  SQLITE_ABORT_ROLLBACK=516 SQLITE_ALTER_TABLE=26 SQLITE_ANALYZE=28 SQLITE_ATTACH=24 SQLITE_AUTH=23
  SQLITE_AUTH_USER=279 SQLITE_BUSY=5 SQLITE_BUSY_RECOVERY=261 SQLITE_BUSY_SNAPSHOT=517
  SQLITE_BUSY_TIMEOUT=773 SQLITE_CANTOPEN=14 SQLITE_CANTOPEN_CONVPATH=1038
  SQLITE_CANTOPEN_DIRTYWAL=1294 SQLITE_CANTOPEN_FULLPATH=782 SQLITE_CANTOPEN_ISDIR=526
  SQLITE_CANTOPEN_NOTEMPDIR=270 SQLITE_CANTOPEN_SYMLINK=1550 SQLITE_CONSTRAINT=19
  SQLITE_CONSTRAINT_CHECK=275 SQLITE_CONSTRAINT_COMMITHOOK=531 SQLITE_CONSTRAINT_FOREIGNKEY=787
  SQLITE_CONSTRAINT_FUNCTION=1043 SQLITE_CONSTRAINT_NOTNULL=1299 SQLITE_CONSTRAINT_PINNED=2835
  SQLITE_CONSTRAINT_PRIMARYKEY=1555 SQLITE_CONSTRAINT_ROWID=2579 SQLITE_CONSTRAINT_TRIGGER=1811
  SQLITE_CONSTRAINT_UNIQUE=2067 SQLITE_CONSTRAINT_VTAB=2323 SQLITE_CORRUPT=11
  SQLITE_CORRUPT_INDEX=779 SQLITE_CORRUPT_SEQUENCE=523 SQLITE_CORRUPT_VTAB=267 SQLITE_CREATE_INDEX=1
  SQLITE_CREATE_TABLE=2 SQLITE_CREATE_TEMP_INDEX=3 SQLITE_CREATE_TEMP_TABLE=4
  SQLITE_CREATE_TEMP_TRIGGER=5 SQLITE_CREATE_TEMP_VIEW=6 SQLITE_CREATE_TRIGGER=7
  SQLITE_CREATE_VIEW=8 SQLITE_CREATE_VTABLE=29 SQLITE_DELETE=9 SQLITE_DENY=1 SQLITE_DETACH=25
  SQLITE_DONE=101 SQLITE_DROP_INDEX=10 SQLITE_DROP_TABLE=11 SQLITE_DROP_TEMP_INDEX=12
  SQLITE_DROP_TEMP_TABLE=13 SQLITE_DROP_TEMP_TRIGGER=14 SQLITE_DROP_TEMP_VIEW=15
  SQLITE_DROP_TRIGGER=16 SQLITE_DROP_VIEW=17 SQLITE_DROP_VTABLE=30 SQLITE_EMPTY=16 SQLITE_ERROR=1
  SQLITE_ERROR_MISSING_COLLSEQ=257 SQLITE_ERROR_RETRY=513 SQLITE_ERROR_SNAPSHOT=769 SQLITE_FORMAT=24
  SQLITE_FULL=13 SQLITE_FUNCTION=31 SQLITE_IGNORE=2 SQLITE_INSERT=18 SQLITE_INTERNAL=2
  SQLITE_INTERRUPT=9 SQLITE_IOERR=10 SQLITE_IOERR_ACCESS=3338 SQLITE_IOERR_AUTH=7178
  SQLITE_IOERR_BEGIN_ATOMIC=7434 SQLITE_IOERR_BLOCKED=2826 SQLITE_IOERR_CHECKRESERVEDLOCK=3594
  SQLITE_IOERR_CLOSE=4106 SQLITE_IOERR_COMMIT_ATOMIC=7690 SQLITE_IOERR_CONVPATH=6666
  SQLITE_IOERR_CORRUPTFS=8458 SQLITE_IOERR_DATA=8202 SQLITE_IOERR_DELETE=2570
  SQLITE_IOERR_DELETE_NOENT=5898 SQLITE_IOERR_DIR_CLOSE=4362 SQLITE_IOERR_DIR_FSYNC=1290
  SQLITE_IOERR_FSTAT=1802 SQLITE_IOERR_FSYNC=1034 SQLITE_IOERR_GETTEMPPATH=6410
  SQLITE_IOERR_LOCK=3850 SQLITE_IOERR_MMAP=6154 SQLITE_IOERR_NOMEM=3082 SQLITE_IOERR_RDLOCK=2314
  SQLITE_IOERR_READ=266 SQLITE_IOERR_ROLLBACK_ATOMIC=7946 SQLITE_IOERR_SEEK=5642
  SQLITE_IOERR_SHMLOCK=5130 SQLITE_IOERR_SHMMAP=5386 SQLITE_IOERR_SHMOPEN=4618
  SQLITE_IOERR_SHMSIZE=4874 SQLITE_IOERR_SHORT_READ=522 SQLITE_IOERR_TRUNCATE=1546
  SQLITE_IOERR_UNLOCK=2058 SQLITE_IOERR_VNODE=6922 SQLITE_IOERR_WRITE=778 SQLITE_LIMIT_ATTACHED=7
  SQLITE_LIMIT_COLUMN=2 SQLITE_LIMIT_COMPOUND_SELECT=4 SQLITE_LIMIT_EXPR_DEPTH=3
  SQLITE_LIMIT_FUNCTION_ARG=6 SQLITE_LIMIT_LENGTH=0 SQLITE_LIMIT_LIKE_PATTERN_LENGTH=8
  SQLITE_LIMIT_SQL_LENGTH=1 SQLITE_LIMIT_TRIGGER_DEPTH=10 SQLITE_LIMIT_VARIABLE_NUMBER=9
  SQLITE_LIMIT_VDBE_OP=5 SQLITE_LIMIT_WORKER_THREADS=11 SQLITE_LOCKED=6
  SQLITE_LOCKED_SHAREDCACHE=262 SQLITE_LOCKED_VTAB=518 SQLITE_MISMATCH=20 SQLITE_MISUSE=21
  SQLITE_NOLFS=22 SQLITE_NOMEM=7 SQLITE_NOTADB=26 SQLITE_NOTFOUND=12 SQLITE_NOTICE=27
  SQLITE_NOTICE_RECOVER_ROLLBACK=539 SQLITE_NOTICE_RECOVER_WAL=283 SQLITE_OK=0
  SQLITE_OK_LOAD_PERMANENTLY=256 SQLITE_OK_SYMLINK=512 SQLITE_PERM=3 SQLITE_PRAGMA=19
  SQLITE_PROTOCOL=15 SQLITE_RANGE=25 SQLITE_READ=20 SQLITE_READONLY=8 SQLITE_READONLY_CANTINIT=1288
  SQLITE_READONLY_CANTLOCK=520 SQLITE_READONLY_DBMOVED=1032 SQLITE_READONLY_DIRECTORY=1544
  SQLITE_READONLY_RECOVERY=264 SQLITE_READONLY_ROLLBACK=776 SQLITE_RECURSIVE=33 SQLITE_REINDEX=27
  SQLITE_ROW=100 SQLITE_SAVEPOINT=32 SQLITE_SCHEMA=17 SQLITE_SELECT=21 SQLITE_TOOBIG=18
  SQLITE_TRANSACTION=22 SQLITE_UPDATE=23 SQLITE_WARNING=28 SQLITE_WARNING_AUTOINDEX=284
  threadsafety=3", "constant __doc__ None", "constant adapters \x7b\x7d",
  "constant converters \x7b\x7d", "constant sqlite_version '3.40.1'", "constant version '2.6.0'"]),
  ("bz2", ["functions compress decompress open", "builtins _builtin_open=io:open",
  "classes BZ2Compressor=_bz2. BZ2Decompressor=_bz2. BZ2File", "modules _compression= io= os=",
  "numbers _MODE_CLOSED=0 _MODE_READ=1 _MODE_WRITE=3",
  "constant __author__ 'Nadeem Vawda <nadeem.vawda\\x40gmail.com>'", "exports BZ2File BZ2Compressor
  BZ2Decompressor open compress decompress"]),
  ("configparser", ["classes BasicInterpolation ConfigParser ConverterMapping DuplicateOptionError
  DuplicateSectionError Error ExtendedInterpolation Interpolation InterpolationDepthError
  InterpolationError InterpolationMissingOptionError InterpolationSyntaxError LegacyInterpolation
  MissingSectionHeaderError MutableMapping=collections.abc. NoOptionError NoSectionError
  ParsingError RawConfigParser SafeConfigParser SectionProxy _ChainMap=collections.ChainMap
  _default_dict=dict", "objects _UNSET=object", "modules functools= io= itertools= os= re= sys=
  warnings=", "numbers MAX_INTERPOLATION_DEPTH=10", "constant DEFAULTSECT 'DEFAULT'",
  "exports NoSectionError DuplicateOptionError DuplicateSectionError NoOptionError
  InterpolationError InterpolationDepthError InterpolationMissingOptionError
  InterpolationSyntaxError ParsingError MissingSectionHeaderError ConfigParser SafeConfigParser
  RawConfigParser Interpolation BasicInterpolation ExtendedInterpolation LegacyInterpolation
  SectionProxy ConverterMapping DEFAULTSECT MAX_INTERPOLATION_DEPTH"]),
  ("csv", ["builtins field_size_limit=_csv: get_dialect=_csv: list_dialects=_csv: reader=_csv:
  register_dialect=_csv: unregister_dialect=_csv: writer=_csv:", "classes Dialect DictReader
  DictWriter Error=_csv. Sniffer StringIO=_io. _Dialect=_csv.Dialect excel excel_tab unix_dialect",
  "modules re=", "numbers QUOTE_ALL=1 QUOTE_MINIMAL=0 QUOTE_NONE=3 QUOTE_NONNUMERIC=2",
  "constant __version__ '1.0'", "exports QUOTE_MINIMAL QUOTE_ALL QUOTE_NONNUMERIC QUOTE_NONE Error
  Dialect __doc__ excel excel_tab field_size_limit reader writer register_dialect get_dialect
  list_dialects Sniffer unregister_dialect __version__ DictReader DictWriter unix_dialect"]),
  ("dbm", ["package", "functions open whichdb", "modules io= ndbm os= struct= sys=",
  "constant _defaultmod None", "constant _modules \x7b\x7d",
  "constant _names ['dbm.gnu', 'dbm.ndbm', 'dbm.dumb']", "constant error (dbm.error, OSError)",
  "exports open whichdb error"]),
  ("dbm.dumb", ["functions open", "classes _Database error=OSError", "modules _ast=ast _io=io _os=os
  collections=", "numbers _BLOCKSIZE=512", "exports error open"]),
  ("dbm.gnu", []),
  ("dbm.ndbm", ["builtins open=_dbm:", "classes error=_dbm.", "constant library 'Berkeley DB'"]),
  ("gzip", ["functions _create_simple_gzip_header _read_exact _read_gzip_header compress decompress
  main open write32u", "classes BadGzipFile GzipFile _GzipReader _PaddedFile",
  "modules _compression= builtins= io= os= struct= sys= time= zlib=", "numbers FCOMMENT=16 FEXTRA=4
  FHCRC=2 FNAME=8 FTEXT=1 READ=1 WRITE=2 _COMPRESS_LEVEL_BEST=9 _COMPRESS_LEVEL_FAST=1
  _COMPRESS_LEVEL_TRADEOFF=6", "exports BadGzipFile GzipFile open compress decompress"]),
  ("json", ["package", "functions detect_encoding dump dumps load loads",
  "classes JSONDecodeError=json.decoder. JSONDecoder=json.decoder. JSONEncoder=json.encoder.",
  "holders _default_decoder=json.decoder.JSONDecoder _default_encoder=json.encoder.JSONEncoder",
  "modules codecs= decoder encoder scanner",
  "constant __author__ 'Bob Ippolito <bob\\x40redivi.com>'", "constant __version__ '2.0.9'",
  "exports dump dumps load loads JSONDecoder JSONDecodeError JSONEncoder",
  "part _default_decoder.memo \x7b\x7d", "part _default_decoder.object_hook None",
  "part _default_decoder.object_pairs_hook None", "part _default_decoder.parse_float float",
  "part _default_decoder.parse_int int", "part _default_decoder.strict True",
  "part _default_encoder.allow_nan True", "part _default_encoder.check_circular True",
  "part _default_encoder.ensure_ascii True", "part _default_encoder.indent None",
  "part _default_encoder.skipkeys False", "part _default_encoder.sort_keys False",
  "part _default_encoder.__dict__ \x7b'skipkeys': False, 'ensure_ascii': True, 'check_circular",
  "|': True, 'allow_nan': True, 'sort_keys': False, 'indent': None\x7d"]),
  ("json.decoder", ["functions JSONArray JSONObject _decode_uXXXX py_scanstring",
  "builtins c_scanstring=_json:scanstring scanstring=_json:", "classes JSONDecodeError JSONDecoder",
  "holders STRINGCHUNK=re.Pattern WHITESPACE=re.Pattern", "modules re= scanner=json.",
  "constant BACKSLASH \x7b'\"': '\"', '\\\\': '\\\\', '/': '/', 'b': '\\x08', 'f': '\\x0c', 'n",
  "|': '\\n', 'r': '\\r', 't': '\\t'\x7d", "constant NaN nan", "constant NegInf -inf",
  "constant PosInf inf", "constant WHITESPACE_STR ' \\t\\n\\r'",
  "constant _CONSTANTS \x7b'-Infinity': -inf, 'Infinity': inf, 'NaN': nan\x7d",
  "constant FLAGS=re.RegexFlag 88", "exports JSONDecoder JSONDecodeError",
  "part STRINGCHUNK.flags 120", "part STRINGCHUNK.groups 2",
  "part STRINGCHUNK.pattern '(.*?)([\"\\\\\\\\\\\\x00-\\\\x1f])'", "part WHITESPACE.flags 120",
  "part WHITESPACE.pattern '[ \\\\t\\\\n\\\\r]*'"]),
  ("json.encoder", ["functions _make_iterencode py_encode_basestring py_encode_basestring_ascii",
  "builtins c_encode_basestring=_json:encode_basestring
  c_encode_basestring_ascii=_json:encode_basestring_ascii encode_basestring=_json:
  encode_basestring_ascii=_json:", "classes JSONEncoder c_make_encoder=_json.Encoder",
  "holders ESCAPE=re.Pattern ESCAPE_ASCII=re.Pattern HAS_UTF8=re.Pattern", "modules re=",
  "constant ESCAPE_DCT \x7b'\\\\': '\\\\\\\\', '\"': '\\\\\"', '\\x08': '\\\\b', '\\x0c': '\\",
  "|\\f', '\\n': '\\\\n', '\\r': '\\\\r', '\\t': '\\\\t', '\\x00': '\\\\u0000', '\\x01': '\\\\",
  "|u0001', '\\x02': '\\\\u0002', '\\x03': '\\\\u0003', '\\x04': '\\\\u0004', '\\x05': '\\\\u0",
  "|005', '\\x06': '\\\\u0006', '\\x07': '\\\\u0007', '\\x0b': '\\\\u000b', '\\x0e': '\\\\u000",
  "|e', '\\x0f': '\\\\u000f', '\\x10': '\\\\u0010', '\\x11': '\\\\u0011', '\\x12': '\\\\u0012'",
  "|, '\\x13': '\\\\u0013', '\\x14': '\\\\u0014', '\\x15': '\\\\u0015', '\\x16': '\\\\u0016', ",
  "|'\\x17': '\\\\u0017', '\\x18': '\\\\u0018', '\\x19': '\\\\u0019', '\\x1a': '\\\\u001a', '",
  "|\\x1b': '\\\\u001b', '\\x1c': '\\\\u001c', '\\x1d': '\\\\u001d', '\\x1e': '\\\\u001e', '\\",
  "|x1f': '\\\\u001f'\x7d", "constant INFINITY inf",
  "part ESCAPE.pattern '[\\\\x00-\\\\x1f\\\\\\\\\"\\\\b\\\\f\\\\n\\\\r\\\\t]'",
  "part ESCAPE_ASCII.groups 1", "part ESCAPE_ASCII.pattern '([\\\\\\\\\"]|[^\\\\ -~])'",
  "part HAS_UTF8.flags 0", "part HAS_UTF8.pattern b'[\\x80-\\xff]'"]),
  ("json.scanner", ["functions py_make_scanner", "classes c_make_scanner=_json.Scanner
  make_scanner=_json.Scanner", "holders NUMBER_RE=re.Pattern", "modules re=",
  "exports make_scanner", "part NUMBER_RE.flags 120", "part NUMBER_RE.groups 3",
  "part NUMBER_RE.pattern '(-?(?:0|[1-9]\\\\d*))(\\\\.\\\\d+)?([eE][-+]?\\\\d+)?'"]),
  ("json.tool", ["functions main", "classes Path=pathlib.", "modules argparse= json= sys="]),
  ("lzma", ["takes _lzma", "functions compress decompress open",
  "builtins _decode_filter_properties=_lzma: _encode_filter_properties=_lzma:", "classes LZMAFile",
  "modules _compression= builtins= io= os=", "numbers _MODE_CLOSED=0 _MODE_READ=1 _MODE_WRITE=3",
  "exports CHECK_NONE CHECK_CRC32 CHECK_CRC64 CHECK_SHA256 CHECK_ID_MAX CHECK_UNKNOWN FILTER_LZMA1
  FILTER_LZMA2 FILTER_DELTA FILTER_X86 FILTER_IA64 FILTER_ARM FILTER_ARMTHUMB FILTER_POWERPC
  FILTER_SPARC FORMAT_AUTO FORMAT_XZ FORMAT_ALONE FORMAT_RAW MF_HC3 MF_HC4 MF_BT2 MF_BT3 MF_BT4
  MODE_FAST MODE_NORMAL PRESET_DEFAULT PRESET_EXTREME LZMACompressor LZMADecompressor LZMAFile
  LZMAError open compress decompress is_check_supported"]),
  ("marshal", ["built-in", "builtins dump dumps load loads", "numbers version=4"]),
  ("netrc", ["classes NetrcParseError _netrclex netrc", "modules os= shlex= stat=", "exports netrc
  NetrcParseError"]),
  ("pickle", ["functions _dump _dumps _getattribute _load _loads _test decode_long encode_long
  whichmodule", "builtins dump=_pickle: dumps=_pickle: load=_pickle: loads=_pickle: pack=_struct:
  unpack=_struct:", "classes FunctionType=function PickleBuffer PickleError=_pickle.
  Pickler=_pickle. PicklingError=_pickle. Unpickler=_pickle. UnpicklingError=_pickle. _Framer
  _Pickler _Stop _Unframer _Unpickler islice=itertools. partial=functools.",
  "modules _compat_pickle= codecs= io= re= sys=", "numbers DEFAULT_PROTOCOL=4 HIGHEST_PROTOCOL=5
  maxsize=9223372036854775807", "constant ADDITEMS b'\\x90'", "constant APPEND b'a'",
  "constant APPENDS b'e'", "constant BINBYTES b'B'", "constant BINBYTES8 b'\\x8e'",
  "constant BINFLOAT b'G'", "constant BINGET b'h'", "constant BININT b'J'", "constant BININT1 b'K'",
  "constant BININT2 b'M'", "constant BINPERSID b'Q'", "constant BINPUT b'q'",
  "constant BINSTRING b'T'", "constant BINUNICODE b'X'", "constant BINUNICODE8 b'\\x8d'",
  "constant BUILD b'b'", "constant BYTEARRAY8 b'\\x96'", "constant DICT b'd'", "constant DUP b'2'",
  "constant EMPTY_DICT b'\x7d'", "constant EMPTY_LIST b']'", "constant EMPTY_SET b'\\x8f'",
  "constant EMPTY_TUPLE b')'", "constant EXT1 b'\\x82'", "constant EXT2 b'\\x83'",
  "constant EXT4 b'\\x84'", "constant FALSE b'I00\\n'", "constant FLOAT b'F'",
  "constant FRAME b'\\x95'", "constant FROZENSET b'\\x91'", "constant GET b'g'",
  "constant GLOBAL b'c'", "constant INST b'i'", "constant INT b'I'", "constant LIST b'l'",
  "constant LONG b'L'", "constant LONG1 b'\\x8a'", "constant LONG4 b'\\x8b'",
  "constant LONG_BINGET b'j'", "constant LONG_BINPUT b'r'", "constant MARK b'('",
  "constant MEMOIZE b'\\x94'", "constant NEWFALSE b'\\x89'", "constant NEWOBJ b'\\x81'",
  "constant NEWOBJ_EX b'\\x92'", "constant NEWTRUE b'\\x88'", "constant NEXT_BUFFER b'\\x97'",
  "constant NONE b'N'", "constant OBJ b'o'", "constant PERSID b'P'", "constant POP b'0'",
  "constant POP_MARK b'1'", "constant PROTO b'\\x80'", "constant PUT b'p'",
  "constant PyStringMap None", "constant READONLY_BUFFER b'\\x98'", "constant REDUCE b'R'",
  "constant SETITEM b's'", "constant SETITEMS b'u'", "constant SHORT_BINBYTES b'C'",
  "constant SHORT_BINSTRING b'U'", "constant SHORT_BINUNICODE b'\\x8c'",
  "constant STACK_GLOBAL b'\\x93'", "constant STOP b'.'", "constant STRING b'S'",
  "constant TRUE b'I01\\n'", "constant TUPLE b't'", "constant TUPLE1 b'\\x85'",
  "constant TUPLE2 b'\\x86'", "constant TUPLE3 b'\\x87'", "constant UNICODE b'V'",
  "constant _HAVE_PICKLE_BUFFER True", "constant _extension_cache \x7b\x7d",
  "constant _extension_registry \x7b\x7d", "constant _inverted_registry \x7b\x7d",
  "constant _tuplesize2code [b')', b'\\x85', b'\\x86', b'\\x87']",
  "constant bytes_types (bytes, bytearray)",
  "constant compatible_formats ['1.0', '1.1', '1.2', '1.3', '2.0', '3.0', '4.0', '5.0']",
  "constant format_version '4.0'", "exports PickleError PicklingError UnpicklingError Pickler
  Unpickler dump dumps load loads PickleBuffer ADDITEMS APPEND APPENDS BINBYTES BINBYTES8 BINFLOAT
  BINGET BININT BININT1 BININT2 BINPERSID BINPUT BINSTRING BINUNICODE BINUNICODE8 BUILD BYTEARRAY8
  DEFAULT_PROTOCOL DICT DUP EMPTY_DICT EMPTY_LIST EMPTY_SET EMPTY_TUPLE EXT1 EXT2 EXT4 FALSE FLOAT
  FRAME FROZENSET GET GLOBAL HIGHEST_PROTOCOL INST INT LIST LONG LONG1 LONG4 LONG_BINGET LONG_BINPUT
  MARK MEMOIZE NEWFALSE NEWOBJ NEWOBJ_EX NEWTRUE NEXT_BUFFER NONE OBJ PERSID POP POP_MARK PROTO PUT
  READONLY_BUFFER REDUCE SETITEM SETITEMS SHORT_BINBYTES SHORT_BINSTRING SHORT_BINUNICODE
  STACK_GLOBAL STOP STRING TRUE TUPLE TUPLE1 TUPLE2 TUPLE3 UNICODE", "same dispatch_table=copy."]),
  ("pickletools", ["functions _genops _test decode_long=pickle: dis genops optimize read_bytearray8
  read_bytes1 read_bytes4 read_bytes8 read_decimalnl_long read_decimalnl_short read_float8
  read_floatnl read_int4 read_long1 read_long4 read_string1 read_string4 read_stringnl
  read_stringnl_noescape read_stringnl_noescape_pair read_uint1 read_uint2 read_uint4 read_uint8
  read_unicodestring1 read_unicodestring4 read_unicodestring8 read_unicodestringnl",
  "builtins _unpack=_struct:unpack", "classes ArgumentDescriptor OpcodeInfo StackObject _Example",
  "holders anyobject=pickletools.StackObject bytearray8=pickletools.ArgumentDescriptor
  bytes1=pickletools.ArgumentDescriptor bytes4=pickletools.ArgumentDescriptor
  bytes8=pickletools.ArgumentDescriptor decimalnl_long=pickletools.ArgumentDescriptor
  decimalnl_short=pickletools.ArgumentDescriptor float8=pickletools.ArgumentDescriptor
  floatnl=pickletools.ArgumentDescriptor int4=pickletools.ArgumentDescriptor
  long1=pickletools.ArgumentDescriptor long4=pickletools.ArgumentDescriptor
  markobject=pickletools.StackObject pybool=pickletools.StackObject pybuffer=pickletools.StackObject
  pybytearray=pickletools.StackObject pybytes=pickletools.StackObject
  pybytes_or_str=pickletools.StackObject pydict=pickletools.StackObject
  pyfloat=pickletools.StackObject pyfrozenset=pickletools.StackObject pyint=pickletools.StackObject
  pyinteger_or_bool=pickletools.StackObject pylist=pickletools.StackObject
  pynone=pickletools.StackObject pyset=pickletools.StackObject pytuple=pickletools.StackObject
  pyunicode=pickletools.StackObject stackslice=pickletools.StackObject
  string1=pickletools.ArgumentDescriptor string4=pickletools.ArgumentDescriptor
  stringnl=pickletools.ArgumentDescriptor stringnl_noescape=pickletools.ArgumentDescriptor
  stringnl_noescape_pair=pickletools.ArgumentDescriptor uint1=pickletools.ArgumentDescriptor
  uint2=pickletools.ArgumentDescriptor uint4=pickletools.ArgumentDescriptor
  uint8=pickletools.ArgumentDescriptor unicodestring1=pickletools.ArgumentDescriptor
  unicodestring4=pickletools.ArgumentDescriptor unicodestring8=pickletools.ArgumentDescriptor
  unicodestringnl=pickletools.ArgumentDescriptor", "same pylong=pickletools.pyint
  pystring=pickletools.pybytes_or_str", "modules codecs= io= pickle= re= sys=",
  "numbers TAKEN_FROM_ARGUMENT1=-2 TAKEN_FROM_ARGUMENT4=-3 TAKEN_FROM_ARGUMENT4U=-4
  TAKEN_FROM_ARGUMENT8U=-5 UP_TO_NEWLINE=-1",
  "constant _memo_test '\\n>>> import pickle\\n>>> import io\\n>>> f = io.BytesIO()\\n>>> p = ",
  "|pickle.Pickler(f, 2)\\n>>> x = [1, 2, 3]\\n>>> p.dump(x)\\n>>> p.dump(x)\\n>>> f.seek(0)\\",
  "|n0\\n>>> memo = \x7b\x7d\\n>>> dis(f, memo=memo)\\n    0: \\\\x80 PROTO      2\\n    2: ] ",
  "|   EMPTY_LIST\\n    3: q    BINPUT     0\\n    5: (    MARK\\n    6: K        BININT1    1",
  "|\\n    8: K        BININT1    2\\n   10: K        BININT1    3\\n   12: e        APPENDS  ",
  "|  (MARK at 5)\\n   13: .    STOP\\nhighest protocol among opcodes = 2\\n>>> dis(f, memo=me",
  "|mo)\\n   14: \\\\x80 PROTO      2\\n   16: h    BINGET     0\\n   18: .    STOP\\nhighest ",
  "|protocol among opcodes = 2\\n'", "constant bytes_types (bytes, bytearray)",
  "constant opcodes [pickletools.OpcodeInfo(...), pickletools.OpcodeInfo(...), pickletools.Opc",
  "|odeInfo(...), pickletools.OpcodeInfo(...), pickletools.OpcodeInfo(...), pickletools.Opcode",
  "|Info(...), pickletools.OpcodeInfo(...), pickletools.OpcodeInfo(...), pickletools.OpcodeInf",
  "|o(...), pickletools.OpcodeInfo(...), pickletools.OpcodeInfo(...), pickletools.OpcodeInfo(.",
  "|..), pickletools.OpcodeInfo(...), pickletools.OpcodeInfo(...), pickletools.OpcodeInfo(...)",
  "|, pickletools.OpcodeInfo(...), pickletools.OpcodeInfo(...), pickletools.OpcodeInfo(...), p",
  "|ickletools.OpcodeInfo(...), pickletools.OpcodeInfo(...), pickletools.OpcodeInfo(...), pick",
  "|letools.OpcodeInfo(...), pickletools.OpcodeInfo(...), pickletools.OpcodeInfo(...), picklet",
  "|ools.OpcodeInfo(...), pickletools.OpcodeInfo(...), pickletools.OpcodeInfo(...), pickletool",
  "|s.OpcodeInfo(...), pickletools.OpcodeInfo(...), pickletools.OpcodeInfo(...), pickletools.O",
  "|pcodeInfo(...), pickletools.OpcodeInfo(...), pickletools.OpcodeInfo(...), pickletools.Opco",
  "|deInfo(...), pickletools.OpcodeInfo(...), pickletools.OpcodeInfo(...), pickletools.OpcodeI",
  "|nfo(...), pickletools.OpcodeInfo(...), pickletools.OpcodeInfo(...), pickletools.OpcodeInfo",
  "|(...), pickletools.OpcodeInfo(...), pickletools.OpcodeInfo(...), pickletools.OpcodeInfo(..",
  "|.), pickletools.OpcodeInfo(...), pickletools.OpcodeInfo(...), pickletools.OpcodeInfo(...),",
  "| pickletools.OpcodeInfo(...), pickletools.OpcodeInfo(...), pickletools.OpcodeInfo(...), pi",
  "|ckletools.OpcodeInfo(...), pickletools.OpcodeInfo(...), pickletools.OpcodeInfo(...), pickl",
  "|etools.OpcodeInfo(...), pickletools.OpcodeInfo(...), pickletools.OpcodeInfo(...), pickleto",
  "|ols.OpcodeInfo(...), pickletools.OpcodeInfo(...), pickletools.OpcodeInfo(...), pickletools",
  "|.OpcodeInfo(...), pickletools.OpcodeInfo(...), pickletools.OpcodeInfo(...), pickletools.Op",
  "|codeInfo(...), pickletools.OpcodeInfo(...), pickletools.OpcodeInfo(...), pickletools.Opcod",
  "|eInfo(...), pickletools.OpcodeInfo(...), pickletools.OpcodeInfo(...), pickletools.OpcodeIn",
  "|fo(...)]", "exports dis genops optimize", "part anyobject.name 'any'",
  "part anyobject.obtype object", "part bytearray8.n -5", "part bytearray8.name 'bytearray8'",
  "part bytes1.n -2", "part bytes1.name 'bytes1'", "part bytes4.n -4", "part bytes4.name 'bytes4'",
  "part bytes8.n -5", "part bytes8.name 'bytes8'", "part decimalnl_long.n -1",
  "part decimalnl_long.name 'decimalnl_long'", "part decimalnl_short.n -1",
  "part decimalnl_short.name 'decimalnl_short'", "part float8.n 8", "part float8.name 'float8'",
  "part floatnl.n -1", "part floatnl.name 'floatnl'", "part int4.n 4", "part int4.name 'int4'",
  "part long1.n -2", "part long1.name 'long1'", "part long4.n -3", "part long4.name 'long4'",
  "part markobject.name 'mark'", "part markobject.obtype pickletools.StackObject",
  "part pybool.name 'bool'", "part pybool.obtype bool", "part pybuffer.name 'buffer'",
  "part pybuffer.obtype object", "part pybytearray.name 'bytearray'",
  "part pybytearray.obtype bytearray", "part pybytes.name 'bytes'", "part pybytes.obtype bytes",
  "part pybytes_or_str.name 'bytes_or_str'", "part pybytes_or_str.obtype (bytes, str)",
  "part pydict.name 'dict'", "part pydict.obtype dict", "part pyfloat.name 'float'",
  "part pyfloat.obtype float", "part pyfrozenset.name 'frozenset'", "part pyfrozenset.obtype set",
  "part pyint.name 'int'", "part pyint.obtype int", "part pyinteger_or_bool.name 'int_or_bool'",
  "part pyinteger_or_bool.obtype (int, bool)", "part pylist.name 'list'", "part pylist.obtype list",
  "part pynone.name 'None'", "part pynone.obtype NoneType", "part pyset.name 'set'",
  "part pyset.obtype set", "part pytuple.name 'tuple'", "part pytuple.obtype tuple",
  "part pyunicode.name 'str'", "part pyunicode.obtype str", "part stackslice.name 'stackslice'",
  "part stackslice.obtype pickletools.StackObject", "part string1.n -2",
  "part string1.name 'string1'", "part string4.n -3", "part string4.name 'string4'",
  "part stringnl.n -1", "part stringnl.name 'stringnl'", "part stringnl_noescape.n -1",
  "part stringnl_noescape.name 'stringnl_noescape'", "part stringnl_noescape_pair.n -1",
  "part stringnl_noescape_pair.name 'stringnl_noescape_pair'", "part uint1.n 1",
  "part uint1.name 'uint1'", "part uint2.n 2", "part uint2.name 'uint2'", "part uint4.n 4",
  "part uint4.name 'uint4'", "part uint8.n 8", "part uint8.name 'uint8'",
  "part unicodestring1.n -2", "part unicodestring1.name 'unicodestring1'",
  "part unicodestring4.n -4", "part unicodestring4.name 'unicodestring4'",
  "part unicodestring8.n -5", "part unicodestring8.name 'unicodestring8'",
  "part unicodestringnl.n -1", "part unicodestringnl.name 'unicodestringnl'", "objects __test__=dict
  _dis_test=str code2op=dict"]),
  ("plistlib", ["functions _count_to_size _date_from_string _date_to_string _decode_base64
  _encode_base64 _escape _is_fmt_binary _is_fmt_xml dump dumps load loads",
  "builtins ParserCreate=pyexpat:", "classes BytesIO=_io. InvalidFileException PlistFormat UID
  _BinaryPlistParser _BinaryPlistWriter _DumbXMLWriter _PlistParser _PlistWriter",
  "objects _undefined=object", "holders _controlCharPat=re.Pattern _dateParser=re.Pattern",
  "modules binascii= codecs= datetime= enum= itertools= os= re= struct=",
  "members-of plistlib.PlistFormat FMT_BINARY FMT_XML",
  "constant PLISTHEADER b'<?xml version=\"1.0\" encoding=\"UTF-8\"?>\\n<!DOCTYPE plist PUBLIC ",
  "|\"-//Apple//DTD PLIST 1.0//EN\" \"http:\\x2f/www.apple.com/DTDs/PropertyList-1.0.dtd\">\\n",
  "|'", "constant _BINARY_FORMAT \x7b1: 'B', 2: 'H', 4: 'L', 8: 'Q'\x7d",
  "constant _FORMATS \x7bplistlib.PlistFormat.FMT_XML: \x7b'detect': function(...), 'parser': ",
  "|plistlib._PlistParser, 'writer': plistlib._PlistWriter\x7d, plistlib.PlistFormat.FMT_BINAR",
  "|Y: \x7b'detect': function(...), 'parser': plistlib._BinaryPlistParser, 'writer': plistlib.",
  "|_BinaryPlistWriter\x7d\x7d", "constant _scalars (str, int, float, datetime.datetime, bytes)",
  "exports InvalidFileException FMT_XML FMT_BINARY load dump loads dumps UID",
  "part _controlCharPat.pattern '[\\\\x00\\\\x01\\\\x02\\\\x03\\\\x04\\\\x05\\\\x06\\\\x07\\\\",
  "|x08\\\\x0b\\\\x0c\\\\x0e\\\\x0f\\\\x10\\\\x11\\\\x12\\\\x13\\\\x14\\\\x15\\\\x16\\\\x17\\",
  "|\\x18\\\\x19\\\\x1a\\\\x1b\\\\x1c\\\\x1d\\\\x1e\\\\x1f]'", "part _dateParser.flags 256",
  "part _dateParser.groupindex object('mappingproxy')", "part _dateParser.groups 6",
  "part _dateParser.pattern '(?P<year>\\\\d\\\\d\\\\d\\\\d)(?:-(?P<month>\\\\d\\\\d)(?:-(?P<da",
  "|y>\\\\d\\\\d)(?:T(?P<hour>\\\\d\\\\d)(?::(?P<minute>\\\\d\\\\d)(?::(?P<second>\\\\d\\\\d))",
  "|?)?)?)?)?Z'"]),
  ("shelve", ["functions open", "classes BsdDbShelf BytesIO=_io. DbfilenameShelf Pickler=_pickle.
  Shelf Unpickler=_pickle. _ClosedDict", "modules collections=", "numbers DEFAULT_PROTOCOL=4",
  "exports Shelf BsdDbShelf DbfilenameShelf open"]),
  ("sqlite3", ["package", "takes sqlite3.dbapi2", "functions __getattr__", "modules dbapi2",
  "same OptimizedUnicode=builtins.str"]),
  ("sqlite3.dbapi2", ["takes _sqlite3", "functions DateFromTicks TimeFromTicks TimestampFromTicks
  enable_shared_cache", "classes Binary=memoryview Date=datetime.date Time=datetime.time
  Timestamp=datetime.datetime", "modules collections= datetime= time=", "constant __doc__ None",
  "constant apilevel '2.0'", "constant paramstyle 'qmark'",
  "constant sqlite_version_info (3, 40, 1)", "constant version_info (2, 6, 0)"]),
  ("sqlite3.dump", ["functions _iterdump", "constant __doc__ None"]),
  ("tarfile", ["functions _safe_print calc_chksums copyfileobj is_tarfile itn main nti nts stn",
  "builtins bltn_open=io:open", "classes CompressionError EOFHeaderError EmptyHeaderError
  ExFileObject ExtractError HeaderError InvalidHeaderError ReadError StreamError
  SubsequentHeaderError TarError TarFile TarInfo TruncatedHeaderError _FileInFile _LowLevelFile
  _Stream _StreamProxy", "objects PAX_NAME_FIELDS=set _KEEP=object open=method",
  "holders _header_length_prefix_re=re.Pattern", "modules copy= grp= io= os= pwd= re= shutil= stat=
  struct= sys= time=", "numbers BLOCKSIZE=512 DEFAULT_FORMAT=2 GNU_FORMAT=1 LENGTH_LINK=100
  LENGTH_NAME=100 LENGTH_PREFIX=155 PAX_FORMAT=2 RECORDSIZE=10240 USTAR_FORMAT=0",
  "constant AREGTYPE b'\\x00'", "constant BLKTYPE b'4'", "constant CHRTYPE b'3'",
  "constant CONTTYPE b'7'", "constant DIRTYPE b'5'", "constant ENCODING 'utf-8'",
  "constant FIFOTYPE b'6'", "constant GNUTYPE_LONGLINK b'K'", "constant GNUTYPE_LONGNAME b'L'",
  "constant GNUTYPE_SPARSE b'S'", "constant GNU_MAGIC b'ustar  \\x00'",
  "constant GNU_TYPES (b'L', b'K', b'S')", "constant LNKTYPE b'1'", "constant NUL b'\\x00'",
  "constant PAX_FIELDS ('path', 'linkpath', 'size', 'mtime', 'uid', 'gid', 'uname', 'gname')",
  "constant PAX_NUMBER_FIELDS \x7b'atime': float, 'ctime': float, 'mtime': float, 'uid': int, ",
  "|'gid': int, 'size': int\x7d", "constant POSIX_MAGIC b'ustar\\x0000'", "constant REGTYPE b'0'",
  "constant REGULAR_TYPES (b'0', b'\\x00', b'7', b'S')", "constant SOLARIS_XHDTYPE b'X'",
  "constant SUPPORTED_TYPES (b'0', b'\\x00', b'1', b'2', b'5', b'6', b'7', b'3', b'4', b'L', b",
  "|'K', b'S')", "constant SYMTYPE b'2'", "constant XGLTYPE b'g'", "constant XHDTYPE b'x'",
  "constant __author__ 'Lars Gust\\xe4bel (lars\\x40gustaebel.de)'",
  "constant __credits__ 'Gustavo Niemeyer, Niels Gust\\xe4bel, Richard Townsend.'",
  "constant symlink_exception (AttributeError, NotImplementedError, OSError)",
  "constant version '0.9.0'", "exports TarFile TarInfo is_tarfile TarError ReadError
  CompressionError StreamError ExtractError HeaderError ENCODING USTAR_FORMAT GNU_FORMAT PAX_FORMAT
  DEFAULT_FORMAT open", "part _header_length_prefix_re.flags 0",
  "part _header_length_prefix_re.groups 1",
  "part _header_length_prefix_re.pattern b'([0-9]\x7b1,20\x7d) '"]),
  ("tomllib", ["package", "functions load=tomllib._parser: loads=tomllib._parser:",
  "classes TOMLDecodeError", "modules _parser _re _types",
  "constant __all__ ('loads', 'load', 'TOMLDecodeError')", "constant __doc__ None"]),
  ("tomllib._parser", ["functions NamedTuple=typing: create_dict_rule create_list_rule
  is_unicode_scalar_value key_value_rule load loads make_safe_parse_float
  match_to_datetime=tomllib._re: match_to_localtime=tomllib._re: match_to_number=tomllib._re:
  parse_array parse_basic_str parse_basic_str_escape parse_basic_str_escape_multiline parse_hex_char
  parse_inline_table parse_key parse_key_part parse_key_value_pair parse_literal_str
  parse_multiline_str parse_one_line_basic_str parse_value skip_chars skip_comment
  skip_comments_and_array_ws skip_until suffixed_err", "classes Any=typing. BinaryIO=typing. Flags
  Iterable=collections.abc. MappingProxyType=mappingproxy NestedDict Output Pos=int
  TOMLDecodeError=tomllib.", "objects ASCII_CTRL=frozenset BARE_KEY_CHARS=frozenset
  BASIC_STR_ESCAPE_REPLACEMENTS=mappingproxy HEXDIGIT_CHARS=frozenset
  ILLEGAL_BASIC_STR_CHARS=frozenset ILLEGAL_COMMENT_CHARS=frozenset
  ILLEGAL_LITERAL_STR_CHARS=frozenset ILLEGAL_MULTILINE_BASIC_STR_CHARS=frozenset
  ILLEGAL_MULTILINE_LITERAL_STR_CHARS=frozenset KEY_INITIAL_CHARS=frozenset TOML_WS=frozenset
  TOML_WS_AND_NEWLINE=frozenset", "holders Key=typing._GenericAlias
  ParseFloat=typing._CallableGenericAlias RE_DATETIME=re.Pattern RE_LOCALTIME=re.Pattern
  RE_NUMBER=re.Pattern", "same annotations=__future__.", "modules string=", "constant __doc__ None",
  "part Key._inst False", "part Key._name 'Tuple'", "part Key._paramspec_tvars False",
  "part Key.__dict__ \x7b'_inst': False, '_name': 'Tuple', '__origin__': tuple, '__slots__': N",
  "|one, '__args__': (str, ...), '__parameters__': (), '_paramspec_tvars': False\x7d",
  "part ParseFloat._inst True", "part ParseFloat._name 'Callable'",
  "part ParseFloat._paramspec_tvars True", "part RE_DATETIME.flags 96",
  "part RE_DATETIME.groups 11",
  "part RE_DATETIME.pattern '\\n([0-9]\x7b4\x7d)-(0[1-9]|1[0-2])-(0[1-9]|[12][0-9]|3[01])  # d",
  "|ate, e.g. 1988-10-27\\n(?:\\n    [Tt ]\\n    ([01][0-9]|2[0-3]):([0-5][0-9]):([0-5][0-9])(",
  "|?:\\\\.([0-9]\x7b1,6\x7d)[0-9]*)?\\n    (?:([Zz])|([+-])([01][0-9]|2[0-3]):([0-5][0-9]))? ",
  "| # optional time offset\\n)?\\n'", "part RE_LOCALTIME.groups 4",
  "part RE_LOCALTIME.pattern '([01][0-9]|2[0-3]):([0-5][0-9]):([0-5][0-9])(?:\\\\.([0-9]\x7b1,",
  "|6\x7d)[0-9]*)?'", "part RE_NUMBER.flags 96", "part RE_NUMBER.groupindex object('mappingproxy')",
  "part RE_NUMBER.groups 1",
  "part RE_NUMBER.pattern '\\n0\\n(?:\\n    x[0-9A-Fa-f](?:_?[0-9A-Fa-f])*   # hex\\n    |\\n ",
  "|   b[01](?:_?[01])*                 # bin\\n    |\\n    o[0-7](?:_?[0-7])*               #",
  "| oct\\n)\\n|\\n[+-]?(?:0|[1-9](?:_?[0-9])*)         # dec, integer part\\n(?P<floatpart>\\",
  "|n    (?:\\\\.[0-9](?:_?[0-9])*)?         # optional fractional part\\n    (?:[eE][+-]?[0-9",
  "|](?:_?[0-9])*)?  # optional exponent part\\n)\\n'"]),
  ("tomllib._re", ["functions lru_cache=functools: match_to_datetime match_to_localtime
  match_to_number", "classes Any=typing. date=datetime. datetime=datetime. time=datetime.
  timedelta=datetime. timezone=datetime. tzinfo=datetime.",
  "objects cached_tz=functools._lru_cache_wrapper", "same ParseFloat=tomllib._parser.
  RE_DATETIME=tomllib._parser. RE_LOCALTIME=tomllib._parser. RE_NUMBER=tomllib._parser.
  annotations=__future__.", "modules re=",
  "constant _TIME_RE_STR '([01][0-9]|2[0-3]):([0-5][0-9]):([0-5][0-9])(?:\\\\.([0-9]\x7b1,6",
  "|\x7d)[0-9]*)?'", "constant __doc__ None"]),
  ("tomllib._types", ["classes Any=typing. Pos=int", "objects Callable=typing._CallableType
  Tuple=typing._TupleType", "same Key=tomllib._parser. ParseFloat=tomllib._parser.",
  "constant __doc__ None"]),
  ("xdrlib", ["functions raise_conversion_error wraps=functools:", "classes BytesIO=_io.
  ConversionError Error Packer Unpacker", "modules struct= warnings=", "exports Error Packer
  Unpacker ConversionError"]),
  ("zipapp", ["functions _copy_archive _maybe_open _write_file_prefix create_archive get_interpreter
  main", "classes ZipAppError", "modules contextlib= os= pathlib= shutil= stat= sys= zipfile=",
  "constant MAIN_TEMPLATE '# -*- coding: utf-8 -*-\\nimport \x7bmodule\x7d\\n\x7bmodule\x7d.",
  "|\x7bfn\x7d()\\n'", "constant __doc__ None", "constant shebang_encoding 'utf-8'",
  "exports ZipAppError create_archive get_interpreter",
  "part _maybe_open.__wrapped__ object('function')",
  "part _maybe_open.__dict__ \x7b'__wrapped__': object('function')\x7d"]),
  ("zipfile", ["functions _EndRecData _EndRecData64 _ZipDecrypter _ancestry _check_compression
  _check_zipfile _difference _extract_text_encoding _gen_crc _get_compressor _get_decompressor
  _parents _strip_extra is_zipfile main", "builtins _dedupe=:dict.fromkeys crc32=zlib:",
  "classes BadZipFile BadZipfile=zipfile.BadZipFile CompleteDirs FastLookup LZMACompressor
  LZMADecompressor LargeZipFile Path PyZipFile ZipExtFile ZipFile ZipInfo _SharedFile _Tellable
  _ZipWriteFile error=zipfile.BadZipFile", "holders _EXTRA_FIELD_STRUCT=_struct.Struct",
  "modules binascii= bz2= contextlib= importlib= io= itertools= lzma= os= pathlib= posixpath=
  shutil= stat= struct= sys= threading= time= zlib=", "numbers BZIP2_VERSION=46 DEFAULT_VERSION=20
  LZMA_VERSION=63 MAX_EXTRACT_VERSION=63 ZIP64_LIMIT=2147483647 ZIP64_VERSION=45 ZIP_BZIP2=12
  ZIP_DEFLATED=8 ZIP_FILECOUNT_LIMIT=65535 ZIP_LZMA=14 ZIP_MAX_COMMENT=65535 ZIP_STORED=0
  _CD64_CREATE_VERSION=2 _CD64_DIRECTORY_RECSIZE=1 _CD64_DIRECTORY_SIZE=8 _CD64_DISK_NUMBER=4
  _CD64_DISK_NUMBER_START=5 _CD64_EXTRACT_VERSION=3 _CD64_NUMBER_ENTRIES_THIS_DISK=6
  _CD64_NUMBER_ENTRIES_TOTAL=7 _CD64_OFFSET_START_CENTDIR=9 _CD64_SIGNATURE=0 _CD_COMMENT_LENGTH=14
  _CD_COMPRESSED_SIZE=10 _CD_COMPRESS_TYPE=6 _CD_CRC=9 _CD_CREATE_SYSTEM=2 _CD_CREATE_VERSION=1
  _CD_DATE=8 _CD_DISK_NUMBER_START=15 _CD_EXTERNAL_FILE_ATTRIBUTES=17 _CD_EXTRACT_SYSTEM=4
  _CD_EXTRACT_VERSION=3 _CD_EXTRA_FIELD_LENGTH=13 _CD_FILENAME_LENGTH=12 _CD_FLAG_BITS=5
  _CD_INTERNAL_FILE_ATTRIBUTES=16 _CD_LOCAL_HEADER_OFFSET=18 _CD_SIGNATURE=0 _CD_TIME=7
  _CD_UNCOMPRESSED_SIZE=11 _DD_SIGNATURE=134695760 _ECD_COMMENT=8 _ECD_COMMENT_SIZE=7
  _ECD_DISK_NUMBER=1 _ECD_DISK_START=2 _ECD_ENTRIES_THIS_DISK=3 _ECD_ENTRIES_TOTAL=4 _ECD_LOCATION=9
  _ECD_OFFSET=6 _ECD_SIGNATURE=0 _ECD_SIZE=5 _FH_COMPRESSED_SIZE=8 _FH_COMPRESSION_METHOD=4
  _FH_CRC=7 _FH_EXTRACT_SYSTEM=2 _FH_EXTRACT_VERSION=1 _FH_EXTRA_FIELD_LENGTH=11
  _FH_FILENAME_LENGTH=10 _FH_GENERAL_PURPOSE_FLAG_BITS=3 _FH_LAST_MOD_DATE=6 _FH_LAST_MOD_TIME=5
  _FH_SIGNATURE=0 _FH_UNCOMPRESSED_SIZE=9 _MASK_COMPRESSED_PATCH=32 _MASK_COMPRESS_OPTION_1=2
  _MASK_ENCRYPTED=1 _MASK_STRONG_ENCRYPTION=64 _MASK_USE_DATA_DESCRIPTOR=8 _MASK_UTF_FILENAME=2048
  sizeCentralDir=46 sizeEndCentDir=22 sizeEndCentDir64=56 sizeEndCentDir64Locator=20
  sizeFileHeader=30", "constant _crctable None",
  "constant compressor_names \x7b0: 'store', 1: 'shrink', 2: 'reduce', 3: 'reduce', 4: 'reduce",
  "|', 5: 'reduce', 6: 'implode', 7: 'tokenize', 8: 'deflate', 9: 'deflate64', 10: 'implode', ",
  "|12: 'bzip2', 14: 'lzma', 18: 'terse', 19: 'lz77', 97: 'wavpack', 98: 'ppmd'\x7d",
  "constant stringCentralDir b'PK\\x01\\x02'", "constant stringEndArchive b'PK\\x05\\x06'",
  "constant stringEndArchive64 b'PK\\x06\\x06'",
  "constant stringEndArchive64Locator b'PK\\x06\\x07'", "constant stringFileHeader b'PK\\x03\\x04'",
  "constant structCentralDir '<4s4B4HL2L5H2L'", "constant structEndArchive b'<4s4H2LH'",
  "constant structEndArchive64 '<4sQ2H2L4Q'", "constant structEndArchive64Locator '<4sLQL'",
  "constant structFileHeader '<4s2B4HL2L2H'", "exports BadZipFile BadZipfile error ZIP_STORED
  ZIP_DEFLATED ZIP_BZIP2 ZIP_LZMA is_zipfile ZipInfo ZipFile PyZipFile LargeZipFile Path",
  "part _EXTRA_FIELD_STRUCT.format '<HH'", "part _EXTRA_FIELD_STRUCT.size 4"]),
  ("zipimport", ["frozen", "functions _compile_source _eq_mtime _get_data _get_decompress_func
  _get_module_code _get_module_info _get_module_path _get_mtime_and_size_of_source _get_pyc_source
  _is_dir _normalize_line_endings _parse_dostime _read_directory _unmarshal_code
  _unpack_uint16=_frozen_importlib_external: _unpack_uint32=_frozen_importlib_external:",
  "classes ZipImportError _code_type=code _module_type=module zipimporter",
  "modules _bootstrap=_frozen_importlib _bootstrap_external=_frozen_importlib_external _imp= _io=
  _warnings= marshal= sys= time=", "numbers END_CENTRAL_DIR_SIZE=22 MAX_COMMENT_LEN=65535",
  "constant STRING_END_ARCHIVE b'PK\\x05\\x06'", "constant _importing_zlib False",
  "constant _zip_directory_cache \x7b\x7d",
  "constant _zip_searchorder (('/__init__.pyc', True, True), ('/__init__.py', False, True), ('",
  "|.pyc', True, False), ('.py', False, False))", "constant alt_path_sep ''",
  "constant cp437_table '\\x00\\x01\\x02\\x03\\x04\\x05\\x06\\x07\\x08\\t\\n\\x0b\\x0c\\r\\x0e",
  "|\\x0f\\x10\\x11\\x12\\x13\\x14\\x15\\x16\\x17\\x18\\x19\\x1a\\x1b\\x1c\\x1d\\x1e\\x1f !\"#",
  "|$%&\\'()*+,-./0123456789:;<=>?@ABCDEFGHIJKLMNOPQRSTUVWXYZ[\\\\]^_`abcdefghijklmnopqrstuvwx",
  "|yz\x7b|\x7d~\\x7f\\xc7\\xfc\\xe9\\xe2\\xe4\\xe0\\xe5\\xe7\\xea\\xeb\\xe8\\xef\\xee\\xec\\x",
  "|c4\\xc5\\xc9\\xe6\\xc6\\xf4\\xf6\\xf2\\xfb\\xf9\\xff\\xd6\\xdc\\xa2\\xa3\\xa5\\u20a7\\u019",
  "|2\\xe1\\xed\\xf3\\xfa\\xf1\\xd1\\xaa\\xba\\xbf\\u2310\\xac\\xbd\\xbc\\xa1\\xab\\xbb\\u2591",
  "|\\u2592\\u2593\\u2502\\u2524\\u2561\\u2562\\u2556\\u2555\\u2563\\u2551\\u2557\\u255d\\u255",
  "|c\\u255b\\u2510\\u2514\\u2534\\u252c\\u251c\\u2500\\u253c\\u255e\\u255f\\u255a\\u2554\\u25",
  "|69\\u2566\\u2560\\u2550\\u256c\\u2567\\u2568\\u2564\\u2565\\u2559\\u2558\\u2552\\u2553\\u2",
  "|56b\\u256a\\u2518\\u250c\\u2588\\u2584\\u258c\\u2590\\u2580\\u03b1\\xdf\\u0393\\u03c0\\u03",
  "|a3\\u03c3\\xb5\\u03c4\\u03a6\\u0398\\u03a9\\u03b4\\u221e\\u03c6\\u03b5\\u2229\\u2261\\xb1",
  "|\\u2265\\u2264\\u2320\\u2321\\xf7\\u2248\\xb0\\u2219\\xb7\\u221a\\u207f\\xb2\\u25a0\\xa0'",
  "constant path_sep '/'", "exports ZipImportError zipimporter"]),
  ("zlib", ["built-in", "builtins adler32 compress compressobj crc32 decompress decompressobj",
  "classes error", "numbers DEFLATED=8 DEF_BUF_SIZE=16384 DEF_MEM_LEVEL=8 MAX_WBITS=15
  Z_BEST_COMPRESSION=9 Z_BEST_SPEED=1 Z_BLOCK=5 Z_DEFAULT_COMPRESSION=-1 Z_DEFAULT_STRATEGY=0
  Z_FILTERED=1 Z_FINISH=4 Z_FIXED=4 Z_FULL_FLUSH=3 Z_HUFFMAN_ONLY=2 Z_NO_COMPRESSION=0 Z_NO_FLUSH=0
  Z_PARTIAL_FLUSH=1 Z_RLE=3 Z_SYNC_FLUSH=2 Z_TREES=6", "constant ZLIB_RUNTIME_VERSION '1.2.13'",
  "constant ZLIB_VERSION '1.2.13'", "constant __version__ '1.0'"])]

/-- The classes for stored data. -/
def storageClasses : List (String × List String) := [
  ("_bz2.BZ2Compressor", ["shown _bz2.BZ2Compressor", "builtins __new__", "operations __init__",
  "methods compress flush"]),
  ("_bz2.BZ2Decompressor", ["shown _bz2.BZ2Decompressor", "builtins __new__", "operations __init__",
  "methods decompress", "slots eof unused_data needs_input"]),
  ("_compression.BaseStream", ["below io.BufferedIOBase", "kind abc.ABCMeta",
  "functions _check_not_closed _check_can_read _check_can_write _check_can_seek"]),
  ("_compression.DecompressReader", ["below io.RawIOBase", "kind abc.ABCMeta", "functions readable
  __init__ close seekable readinto read readall _rewind seek tell"]),
  ("_csv.Dialect", ["shown _csv.Dialect", "builtins __new__", "methods __reduce__ __reduce_ex__",
  "fields delimiter escapechar lineterminator quotechar quoting", "slots skipinitialspace
  doublequote strict"]),
  ("_csv.Error", ["below Exception", "shown _csv.Error", "silent"]),
  ("_csv.reader", ["shown _csv.reader", "operations __iter__ __next__", "slots dialect line_num"]),
  ("_csv.writer", ["shown _csv.writer", "methods writerow writerows", "slots dialect"]),
  ("_dbm.error", ["below OSError", "open __weakref__", "silent"]),
  ("_json.Encoder", ["shown _json.Encoder", "builtins __new__", "operations __call__",
  "slots markers default encoder indent key_separator item_separator sort_keys skipkeys"]),
  ("_json.Scanner", ["shown _json.Scanner", "builtins __new__", "operations __call__", "slots strict
  object_hook object_pairs_hook parse_float parse_int parse_constant"]),
  ("_lzma.LZMACompressor", ["shown _lzma.LZMACompressor", "builtins __new__", "operations __init__",
  "methods compress flush"]),
  ("_lzma.LZMADecompressor", ["shown _lzma.LZMADecompressor", "builtins __new__",
  "operations __init__", "methods decompress", "slots check eof needs_input unused_data"]),
  ("_lzma.LZMAError", ["below Exception", "open __weakref__"]),
  ("_pickle.PickleError", ["below Exception", "open __weakref__", "silent"]),
  ("_pickle.Pickler", ["shown _pickle.Pickler", "sealed", "builtins __new__", "operations __init__",
  "methods dump clear_memo __sizeof__", "fields memo persistent_id", "slots bin fast
  dispatch_table"]),
  ("_pickle.PicklingError", ["below _pickle.PickleError", "silent"]),
  ("_pickle.Unpickler", ["shown _pickle.Unpickler", "sealed", "builtins __new__",
  "operations __init__", "methods load find_class __sizeof__", "fields memo persistent_load"]),
  ("_pickle.UnpicklingError", ["below _pickle.PickleError", "silent"]),
  ("bz2.BZ2File", ["below _compression.BaseStream", "kind abc.ABCMeta", "functions __init__ close
  fileno seekable readable writable peek read read1 readinto readline readlines write writelines
  seek tell", "properties closed"]),
  ("configparser.BasicInterpolation", ["below configparser.Interpolation", "functions before_get
  before_set _interpolate_some", "holders _KEYCRE=re.Pattern", "part _KEYCRE.groups 1",
  "part _KEYCRE.pattern '%\\\\(([^)]+)\\\\)s'"]),
  ("configparser.ConfigParser", ["below configparser.RawConfigParser", "kind abc.ABCMeta",
  "functions set add_section _read_defaults",
  "objects _DEFAULT_INTERPOLATION=configparser.BasicInterpolation"]),
  ("configparser.ConverterMapping", ["below collections.abc.MutableMapping", "kind abc.ABCMeta",
  "open", "functions __init__ __getitem__ __setitem__ __delitem__ __iter__ __len__",
  "holders GETTERCRE=re.Pattern", "part GETTERCRE.groupindex object('mappingproxy')",
  "part GETTERCRE.groups 1", "part GETTERCRE.pattern '^get(?P<name>.+)$'"]),
  ("configparser.DuplicateOptionError", ["below configparser.Error", "functions __init__"]),
  ("configparser.DuplicateSectionError", ["below configparser.Error", "functions __init__"]),
  ("configparser.Error", ["below Exception", "open __weakref__", "functions __init__ __repr__
  __str__=configparser:Error.__repr__"]),
  ("configparser.ExtendedInterpolation", ["below configparser.Interpolation", "functions before_get
  before_set _interpolate_some", "holders _KEYCRE=re.Pattern", "part _KEYCRE.groups 1",
  "part _KEYCRE.pattern '\\\\$\\\\\x7b([^\x7d]+)\\\\\x7d'"]),
  ("configparser.Interpolation", ["open", "functions before_get before_set before_read
  before_write"]),
  ("configparser.InterpolationDepthError", ["below configparser.InterpolationError",
  "functions __init__"]),
  ("configparser.InterpolationError", ["below configparser.Error", "functions __init__"]),
  ("configparser.InterpolationMissingOptionError", ["below configparser.InterpolationError",
  "functions __init__"]),
  ("configparser.InterpolationSyntaxError", ["below configparser.InterpolationError"]),
  ("configparser.LegacyInterpolation", ["below configparser.Interpolation", "functions __init__
  before_get before_set", "statics _interpolation_replace", "holders _KEYCRE=re.Pattern",
  "part _KEYCRE.groups 1", "part _KEYCRE.pattern '%\\\\(([^)]*)\\\\)s|.'"]),
  ("configparser.MissingSectionHeaderError", ["below configparser.ParsingError",
  "functions __init__"]),
  ("configparser.NoOptionError", ["below configparser.Error", "functions __init__"]),
  ("configparser.NoSectionError", ["below configparser.Error", "functions __init__"]),
  ("configparser.ParsingError", ["below configparser.Error", "functions __init__ append",
  "properties filename", "part filename.fset object('function')"]),
  ("configparser.RawConfigParser", ["below collections.abc.MutableMapping", "kind abc.ABCMeta",
  "open", "functions __init__ defaults sections add_section has_section options read read_file
  read_string read_dict readfp get _get _get_conv getint getfloat getboolean items popitem
  optionxform has_option set write _write_section remove_option remove_section __getitem__
  __setitem__ __delitem__ __contains__ __len__ __iter__ _read _join_multiline_values _read_defaults
  _handle_error _unify_values _convert_to_boolean _validate_value_types", "properties converters",
  "objects _DEFAULT_INTERPOLATION=configparser.Interpolation", "holders SECTCRE=re.Pattern
  OPTCRE=re.Pattern OPTCRE_NV=re.Pattern NONSPACECRE=re.Pattern",
  "constant _SECT_TMPL '\\n        \\\\[                                 # [\\n        (?P<hea",
  "|der>.+)                     # very permissive!\\n        \\\\]                            ",
  "|     # ]\\n        '",
  "constant _OPT_TMPL '\\n        (?P<option>.*?)                    # very permissive!\\n    ",
  "|    \\\\s*(?P<vi>\x7bdelim\x7d)\\\\s*              # any number of space/tab,\\n          ",
  "|                                 # followed by any of the\\n                              ",
  "|             # allowed delimiters,\\n                                           # followed",
  "| by any space/tab\\n        (?P<value>.*)$                     # everything up to eol\\n  ",
  "|      '",
  "constant _OPT_NV_TMPL '\\n        (?P<option>.*?)                    # very permissive!\\n ",
  "|       \\\\s*(?:                             # any number of space/tab,\\n        (?P<vi>",
  "|\x7bdelim\x7d)\\\\s*                 # optionally followed by\\n                          ",
  "|                 # any of the allowed\\n                                           # delim",
  "|iters, followed by any\\n                                           # space/tab\\n        ",
  "|(?P<value>.*))?$                   # everything up to eol\\n        '",
  "constant BOOLEAN_STATES \x7b'1': True, 'yes': True, 'true': True, 'on': True, '0': False, '",
  "|no': False, 'false': False, 'off': False\x7d", "part SECTCRE.flags 96",
  "part SECTCRE.groupindex object('mappingproxy')", "part SECTCRE.groups 1",
  "part SECTCRE.pattern '\\n        \\\\[                                 # [\\n        (?P<he",
  "|ader>.+)                     # very permissive!\\n        \\\\]                           ",
  "|      # ]\\n        '", "part OPTCRE.flags 96", "part OPTCRE.groupindex object('mappingproxy')",
  "part OPTCRE.groups 3",
  "part OPTCRE.pattern '\\n        (?P<option>.*?)                    # very permissive!\\n   ",
  "|     \\\\s*(?P<vi>=|:)\\\\s*              # any number of space/tab,\\n                   ",
  "|                        # followed by any of the\\n                                       ",
  "|    # allowed delimiters,\\n                                           # followed by any s",
  "|pace/tab\\n        (?P<value>.*)$                     # everything up to eol\\n        '",
  "part OPTCRE_NV.flags 96", "part OPTCRE_NV.groupindex object('mappingproxy')",
  "part OPTCRE_NV.groups 3",
  "part OPTCRE_NV.pattern '\\n        (?P<option>.*?)                    # very permissive!\\n",
  "|        \\\\s*(?:                             # any number of space/tab,\\n        (?P<vi>",
  "|=|:)\\\\s*                 # optionally followed by\\n                                    ",
  "|       # any of the allowed\\n                                           # delimiters, fol",
  "|lowed by any\\n                                           # space/tab\\n        (?P<value>",
  "|.*))?$                   # everything up to eol\\n        '",
  "part NONSPACECRE.pattern '\\\\S'"]),
  ("configparser.SafeConfigParser", ["below configparser.ConfigParser", "kind abc.ABCMeta",
  "functions __init__"]),
  ("configparser.SectionProxy", ["below collections.abc.MutableMapping", "kind abc.ABCMeta", "open",
  "functions __init__ __repr__ __getitem__ __setitem__ __delitem__ __contains__ __len__ __iter__
  _options get", "properties parser name"]),
  ("csv.Dialect", ["open", "functions __init__ _validate", "constant _name ''",
  "constant _valid False", "constant delimiter None", "constant quotechar None",
  "constant escapechar None", "constant doublequote None", "constant skipinitialspace None",
  "constant lineterminator None", "constant quoting None"]),
  ("csv.DictReader", ["open", "functions __init__ __iter__ __next__", "properties fieldnames",
  "silent", "part fieldnames.fset object('function')"]),
  ("csv.DictWriter", ["open", "functions __init__ writeheader _dict_to_list writerow writerows",
  "silent"]),
  ("csv.Sniffer", ["open", "functions __init__ sniff _guess_quote_and_delimiter _guess_delimiter
  has_header"]),
  ("csv.excel", ["below csv.Dialect", "numbers quoting=0", "constant delimiter ','",
  "constant quotechar '\"'", "constant doublequote True", "constant skipinitialspace False",
  "constant lineterminator '\\r\\n'"]),
  ("csv.excel_tab", ["below csv.excel", "constant delimiter '\\t'"]),
  ("csv.unix_dialect", ["below csv.Dialect", "numbers quoting=1", "constant delimiter ','",
  "constant quotechar '\"'", "constant doublequote True", "constant skipinitialspace False",
  "constant lineterminator '\\n'"]),
  ("dbm.dumb._Database", ["below collections.abc.MutableMapping", "kind abc.ABCMeta", "open",
  "functions __init__ _create _update _commit sync=dbm.dumb:_Database._commit _verify_open
  __getitem__ _addval _setval _addkey __setitem__ __delitem__ keys items __contains__ iterkeys
  __iter__=dbm.dumb:_Database.iterkeys __len__ close __del__=dbm.dumb:_Database.close _chmod
  __enter__ __exit__", "objects _os=module _io=module", "silent"]),
  ("gzip.BadGzipFile", ["below OSError", "open __weakref__"]),
  ("gzip.GzipFile", ["below _compression.BaseStream", "kind abc.ABCMeta", "functions __init__
  __repr__ _init_write _write_gzip_header write read read1 peek close flush fileno rewind readable
  writable seekable seek readline", "properties filename mtime closed", "constant myfileobj None"]),
  ("gzip._GzipReader", ["below _compression.DecompressReader", "kind abc.ABCMeta",
  "functions __init__ _init_read _read_gzip_header read _add_read_data _read_eof _rewind",
  "silent"]),
  ("gzip._PaddedFile", ["open", "functions __init__ read prepend seek seekable"]),
  ("json.decoder.JSONDecodeError", ["below ValueError", "open __weakref__", "functions __init__
  __reduce__"]),
  ("json.decoder.JSONDecoder", ["open", "functions __init__ decode raw_decode"]),
  ("json.encoder.JSONEncoder", ["open", "functions __init__ default encode iterencode",
  "constant item_separator ', '", "constant key_separator ': '"]),
  ("lzma.LZMAFile", ["below _compression.BaseStream", "kind abc.ABCMeta", "functions __init__ close
  fileno seekable readable writable peek read read1 readline write seek tell",
  "properties closed"]),
  ("netrc.NetrcParseError", ["below Exception", "open __weakref__", "functions __init__ __str__"]),
  ("netrc._netrclex", ["open", "functions __init__ _read_char get_token push_token", "silent"]),
  ("netrc.netrc", ["open", "functions __init__ _parse _security_check authenticators __repr__",
  "silent"]),
  ("pickle.PickleBuffer", ["shown pickle.PickleBuffer", "sealed", "builtins __new__", "methods raw
  release"]),
  ("pickle._Framer", ["open", "functions __init__ start_framing end_framing commit_frame write
  write_large_bytes", "numbers _FRAME_SIZE_MIN=4 _FRAME_SIZE_TARGET=65536", "silent"]),
  ("pickle._Pickler", ["open", "functions __init__ clear_memo dump memoize put get save
  persistent_id save_pers save_reduce save_none save_bool save_long save_float save_bytes
  save_bytearray save_picklebuffer save_str save_tuple save_list _batch_appends save_dict
  _batch_setitems save_set save_frozenset save_global save_type", "numbers _BATCHSIZE=1000",
  "constant dispatch \x7bNoneType: function(...), bool: function(...), int: function(...), flo",
  "|at: function(...), bytes: function(...), bytearray: function(...), pickle.PickleBuffer: fu",
  "|nction(...), str: function(...), tuple: function(...), list: function(...), dict: function",
  "|(...), set: function(...), frozenset: function(...), function: function(...), type: functi",
  "|on(...)\x7d", "silent"]),
  ("pickle._Stop", ["below Exception", "open __weakref__", "functions __init__", "silent"]),
  ("pickle._Unframer", ["open", "functions __init__ readinto read readline load_frame", "silent"]),
  ("pickle._Unpickler", ["open", "functions __init__ load pop_mark persistent_load load_proto
  load_frame load_persid load_binpersid load_none load_false load_true load_int load_binint
  load_binint1 load_binint2 load_long load_long1 load_long4 load_float load_binfloat _decode_string
  load_string load_binstring load_binbytes load_unicode load_binunicode load_binunicode8
  load_binbytes8 load_bytearray8 load_next_buffer load_readonly_buffer load_short_binstring
  load_short_binbytes load_short_binunicode load_tuple load_empty_tuple load_tuple1 load_tuple2
  load_tuple3 load_empty_list load_empty_dictionary load_empty_set load_frozenset load_list
  load_dict _instantiate load_inst load_obj load_newobj load_newobj_ex load_global load_stack_global
  load_ext1 load_ext2 load_ext4 get_extension find_class load_reduce load_pop load_pop_mark load_dup
  load_get load_binget load_long_binget load_put load_binput load_long_binput load_memoize
  load_append load_appends load_setitem load_setitems load_additems load_build load_mark load_stop",
  "constant dispatch \x7b128: function(...), 149: function(...), 80: function(...), 81: functi",
  "|on(...), 78: function(...), 137: function(...), 136: function(...), 73: function(...), 74:",
  "| function(...), 75: function(...), 77: function(...), 76: function(...), 138: function(...",
  "|), 139: function(...), 70: function(...), 71: function(...), 83: function(...), 84: functi",
  "|on(...), 66: function(...), 86: function(...), 88: function(...), 141: function(...), 142:",
  "| function(...), 150: function(...), 151: function(...), 152: function(...), 85: function(.",
  "|..), 67: function(...), 140: function(...), 116: function(...), 41: function(...), 133: fu",
  "|nction(...), 134: function(...), 135: function(...), 93: function(...), 125: function(...)",
  "|, 143: function(...), 145: function(...), 108: function(...), 100: function(...), 105: fun",
  "|ction(...), 111: function(...), 129: function(...), 146: function(...), 99: function(...),",
  "| 147: function(...), 130: function(...), 131: function(...), 132: function(...), 82: funct",
  "|ion(...), 48: function(...), 49: function(...), 50: function(...), 103: function(...), 104",
  "|: function(...), 106: function(...), 112: function(...), 113: function(...), 114: function",
  "|(...), 148: function(...), 97: function(...), 101: function(...), 115: function(...), 117:",
  "| function(...), 144: function(...), 98: function(...), 40: function(...), 46: function(...",
  "|)\x7d", "silent"]),
  ("pickletools.ArgumentDescriptor", ["functions __init__", "slots doc n name reader",
  "constant __slots__ ('name', 'n', 'reader', 'doc')", "silent"]),
  ("pickletools.OpcodeInfo", ["functions __init__", "slots arg code doc name proto stack_after
  stack_before",
  "constant __slots__ ('name', 'code', 'arg', 'stack_before', 'stack_after', 'proto', 'doc')",
  "silent"]),
  ("pickletools.StackObject", ["functions __init__ __repr__", "slots doc name obtype",
  "constant __slots__ ('name', 'obtype', 'doc')", "silent"]),
  ("pickletools._Example", ["open", "functions __init__", "silent"]),
  ("plistlib.InvalidFileException", ["below ValueError", "open __weakref__", "functions __init__",
  "silent"]),
  ("plistlib.PlistFormat", ["below enum.Enum", "kind enum.EnumType",
  "functions _generate_next_value_=enum:Enum._generate_next_value_ __new__=enum:Enum.__new__",
  "builtins _new_member_", "classes _member_type_=object", "constant _use_args_ False",
  "constant _unhashable_values_ []", "constant _value_repr_ None", "silent", "values FMT_XML=1
  FMT_BINARY=2", "style plain name"]),
  ("plistlib.UID", ["open", "functions __init__ __index__ __repr__ __reduce__ __eq__ __hash__",
  "silent"]),
  ("plistlib._BinaryPlistParser", ["open", "functions __init__ parse _get_size _read_ints _read_refs
  _read_object"]),
  ("plistlib._BinaryPlistWriter", ["open", "functions __init__ write _flatten _getrefnum _write_size
  _write_object", "silent"]),
  ("plistlib._DumbXMLWriter", ["open", "functions __init__ begin_element end_element simple_element
  writeln", "silent"]),
  ("plistlib._PlistParser", ["open", "functions __init__ parse handle_entity_decl
  handle_begin_element handle_end_element handle_data add_object get_data begin_dict end_dict
  end_key begin_array end_array end_true end_false end_integer end_real end_string end_data
  end_date", "silent"]),
  ("plistlib._PlistWriter", ["below plistlib._DumbXMLWriter", "functions __init__ write write_value
  write_bytes write_dict write_array", "silent"]),
  ("shelve.BsdDbShelf", ["below shelve.Shelf", "kind abc.ABCMeta", "functions __init__ set_location
  next previous first last"]),
  ("shelve.DbfilenameShelf", ["below shelve.Shelf", "kind abc.ABCMeta", "functions __init__"]),
  ("shelve.Shelf", ["below collections.abc.MutableMapping", "kind abc.ABCMeta", "open",
  "functions __init__ __iter__ __len__ __contains__ get __getitem__ __setitem__ __delitem__
  __enter__ __exit__ close __del__ sync"]),
  ("shelve._ClosedDict", ["below collections.abc.MutableMapping", "kind abc.ABCMeta", "open",
  "functions closed __iter__=shelve:_ClosedDict.closed __len__=shelve:_ClosedDict.closed
  __getitem__=shelve:_ClosedDict.closed __setitem__=shelve:_ClosedDict.closed
  __delitem__=shelve:_ClosedDict.closed keys=shelve:_ClosedDict.closed __repr__"]),
  ("sqlite3.Blob", ["shown sqlite3.Blob", "operations __len__ __getitem__ __setitem__ __delitem__",
  "methods close __enter__ __exit__ read seek tell write", "silent"]),
  ("sqlite3.Connection", ["shown sqlite3.Connection", "operations __call__ __init__",
  "methods backup close commit cursor enable_load_extension __enter__ executemany executescript
  execute __exit__ interrupt iterdump load_extension rollback setlimit getlimit blobopen",
  "told-methods create_aggregate create_collation create_function set_authorizer
  set_progress_handler set_trace_callback create_window_function", "fields isolation_level
  total_changes in_transaction", "slots Warning Error InterfaceError DatabaseError DataError
  OperationalError IntegrityError InternalError ProgrammingError NotSupportedError row_factory
  text_factory"]),
  ("sqlite3.Cursor", ["shown sqlite3.Cursor", "operations __iter__ __next__ __init__",
  "methods close executemany executescript execute fetchall fetchmany fetchone setinputsizes
  setoutputsize", "slots connection description arraysize lastrowid rowcount row_factory"]),
  ("sqlite3.DataError", ["below sqlite3.DatabaseError", "silent"]),
  ("sqlite3.DatabaseError", ["below sqlite3.Error", "silent"]),
  ("sqlite3.Error", ["below Exception", "open __weakref__", "silent"]),
  ("sqlite3.IntegrityError", ["below sqlite3.DatabaseError", "silent"]),
  ("sqlite3.InterfaceError", ["below sqlite3.Error", "silent"]),
  ("sqlite3.InternalError", ["below sqlite3.DatabaseError", "silent"]),
  ("sqlite3.NotSupportedError", ["below sqlite3.DatabaseError", "silent"]),
  ("sqlite3.OperationalError", ["below sqlite3.DatabaseError", "silent"]),
  ("sqlite3.PrepareProtocol", ["shown sqlite3.PrepareProtocol", "operations __init__"]),
  ("sqlite3.ProgrammingError", ["below sqlite3.DatabaseError", "silent"]),
  ("sqlite3.Row", ["shown sqlite3.Row", "builtins __new__", "operations __hash__ __lt__ __le__
  __eq__ __ne__ __gt__ __ge__ __iter__ __len__ __getitem__", "methods keys", "silent"]),
  ("sqlite3.Warning", ["below Exception", "open __weakref__", "silent"]),
  ("tarfile.CompressionError", ["below tarfile.TarError"]),
  ("tarfile.EOFHeaderError", ["below tarfile.HeaderError"]),
  ("tarfile.EmptyHeaderError", ["below tarfile.HeaderError"]),
  ("tarfile.ExFileObject", ["below _io.BufferedReader", "functions __init__", "silent"]),
  ("tarfile.ExtractError", ["below tarfile.TarError"]),
  ("tarfile.HeaderError", ["below tarfile.TarError"]),
  ("tarfile.InvalidHeaderError", ["below tarfile.HeaderError"]),
  ("tarfile.ReadError", ["below tarfile.TarError"]),
  ("tarfile.StreamError", ["below tarfile.TarError"]),
  ("tarfile.SubsequentHeaderError", ["below tarfile.HeaderError"]),
  ("tarfile.TarError", ["below Exception", "open __weakref__"]),
  ("tarfile.TarFile", ["open", "functions __init__ close getmember getmembers getnames gettarinfo
  list add addfile extractall extract _extract_one extractfile _extract_member makedir makefile
  makeunknown makefifo makedev makelink chown chmod utime next _getmember _load _check
  _find_link_target __iter__ _dbg __enter__ __exit__", "class-functions open taropen gzopen bz2open
  xzopen", "classes tarinfo=tarfile.TarInfo fileobject=tarfile.ExFileObject", "numbers debug=0
  errorlevel=1 format=2", "constant dereference False", "constant ignore_zeros False",
  "constant encoding 'utf-8'", "constant errors None",
  "constant OPEN_METH \x7b'tar': 'taropen', 'gz': 'gzopen', 'bz2': 'bz2open', 'xz': 'xzopen'",
  "|\x7d"]),
  ("tarfile.TarInfo", ["functions __init__ __repr__ get_info tobuf create_ustar_header
  create_gnu_header create_pax_header _posix_split_name _proc_member _proc_builtin _proc_gnulong
  _proc_sparse _proc_pax _proc_gnusparse_00 _proc_gnusparse_01 _proc_gnusparse_10 _apply_pax_info
  _decode_pax_field _block isreg isfile isdir issym islnk ischr isblk isfifo issparse isdev",
  "class-functions create_pax_global_header _create_gnu_long_header _create_pax_generic_header
  frombuf fromtarfile", "statics _create_header _create_payload", "properties path linkpath",
  "slots _link_target _sparse_structs chksum devmajor devminor gid gname linkname mode mtime name
  offset offset_data pax_headers size sparse tarfile type uid uname",
  "constant __slots__ \x7b'name': 'Name of the archive member.', 'mode': 'Permission bits.', '",
  "|uid': 'User ID of the user who originally stored this member.', 'gid': 'Group ID of the us",
  "|er who originally stored this member.', 'size': 'Size in bytes.', 'mtime': 'Time of last m",
  "|odification.', 'chksum': 'Header checksum.', 'type': 'File type. type is usually one of th",
  "|ese constants: REGTYPE, AREGTYPE, LNKTYPE, SYMTYPE, DIRTYPE, FIFOTYPE, CONTTYPE, CHRTYPE, ",
  "|BLKTYPE, GNUTYPE_SPARSE.', 'linkname': 'Name of the target file name, which is only presen",
  "|t in TarInfo objects of type LNKTYPE and SYMTYPE.', 'uname': 'User name.', 'gname': 'Group",
  "| name.', 'devmajor': 'Device major number.', 'devminor': 'Device minor number.', 'offset':",
  "| 'The tar header starts here.', 'offset_data': \"The file's data starts here.\", 'pax_head",
  "|ers': 'A dictionary containing key-value pairs of an associated pax extended header.', 'sp",
  "|arse': 'Sparse member information.', 'tarfile': None, '_sparse_structs': None, '_link_targ",
  "|et': None\x7d", "part path.fset object('function')", "part linkpath.fset object('function')"]),
  ("tarfile.TruncatedHeaderError", ["below tarfile.HeaderError"]),
  ("tarfile._FileInFile", ["open", "functions __init__ flush readable writable seekable tell seek
  read readinto close"]),
  ("tarfile._LowLevelFile", ["open", "functions __init__ close read write"]),
  ("tarfile._Stream", ["open", "functions __init__ __del__ _init_write_gz write
  _Stream__write=tarfile:_Stream.__write close _init_read_gz tell seek read _read
  _Stream__read=tarfile:_Stream.__read"]),
  ("tarfile._StreamProxy", ["open", "functions __init__ read getcomptype close"]),
  ("tomllib.TOMLDecodeError", ["below ValueError", "open __weakref__"]),
  ("tomllib._parser.Flags", ["open", "functions __init__ add_pending finalize_pending unset_all set
  is_", "numbers FROZEN=0 EXPLICIT_NEST=1"]),
  ("tomllib._parser.NestedDict", ["open", "functions __init__ get_or_create_nest
  append_nest_to_list", "silent"]),
  ("tomllib._parser.Output", ["below tuple", "functions _replace=collections:Output._replace
  __repr__=collections:Output.__repr__ _asdict=collections:Output._asdict
  __getnewargs__=collections:Output.__getnewargs__",
  "class-functions _make=collections:Output._make",
  "statics __new__=namedtuple_Output:Output.__new__", "objects data=_collections._tuplegetter
  flags=_collections._tuplegetter", "constant __slots__ ()", "constant _fields ('data', 'flags')",
  "constant _field_defaults \x7b\x7d", "constant __match_args__ ('data', 'flags')",
  "constant __annotations__ \x7b'data': typing.ForwardRef(...), 'flags': typing.ForwardRef(...",
  "|)\x7d", "constant __orig_bases__ (function(...),)"]),
  ("xdrlib.ConversionError", ["below xdrlib.Error", "silent"]),
  ("xdrlib.Error", ["below Exception", "open __weakref__", "functions __init__ __repr__ __str__"]),
  ("xdrlib.Packer", ["open", "functions __init__ reset get_buffer get_buf=xdrlib:Packer.get_buffer
  pack_uint pack_int pack_enum=xdrlib:Packer.pack_int pack_bool pack_uhyper
  pack_hyper=xdrlib:Packer.pack_uhyper pack_float pack_double pack_fstring
  pack_fopaque=xdrlib:Packer.pack_fstring pack_string pack_opaque=xdrlib:Packer.pack_string
  pack_bytes=xdrlib:Packer.pack_string pack_list pack_farray pack_array",
  "part *.__wrapped__ object('function')", "of pack_uint pack_int pack_float pack_double",
  "part *.__dict__ \x7b'__wrapped__': object('function')\x7d", "of pack_uint pack_int pack_float
  pack_double"]),
  ("xdrlib.Unpacker", ["open", "functions __init__ reset get_position set_position get_buffer done
  unpack_uint unpack_int unpack_enum=xdrlib:Unpacker.unpack_int unpack_bool unpack_uhyper
  unpack_hyper unpack_float unpack_double unpack_fstring
  unpack_fopaque=xdrlib:Unpacker.unpack_fstring unpack_string
  unpack_opaque=xdrlib:Unpacker.unpack_string unpack_bytes=xdrlib:Unpacker.unpack_string unpack_list
  unpack_farray unpack_array"]),
  ("zipapp.ZipAppError", ["below ValueError", "open __weakref__", "silent"]),
  ("zipfile.BadZipFile", ["below Exception", "open __weakref__", "silent"]),
  ("zipfile.CompleteDirs", ["below zipfile.ZipFile", "functions namelist _name_set resolve_dir
  getinfo", "class-functions make", "statics _implied_dirs"]),
  ("zipfile.FastLookup", ["below zipfile.CompleteDirs", "functions namelist _name_set"]),
  ("zipfile.LZMACompressor", ["open", "functions __init__ _init compress flush", "silent"]),
  ("zipfile.LZMADecompressor", ["open", "functions __init__ decompress", "silent"]),
  ("zipfile.LargeZipFile", ["below Exception", "open __weakref__"]),
  ("zipfile.Path", ["open", "functions __init__ open _base read_text read_bytes _is_child _next
  is_dir is_file exists iterdir __str__ __repr__ joinpath __truediv__=zipfile:Path.joinpath",
  "properties name suffix suffixes stem filename parent",
  "constant _Path__repr '\x7bself.__class__.__name__\x7d(\x7bself.root.filename!r\x7d, \x7bsel",
  "|f.at!r\x7d)'"]),
  ("zipfile.PyZipFile", ["below zipfile.ZipFile", "functions __init__ writepy _get_codename"]),
  ("zipfile.ZipExtFile", ["below io.BufferedIOBase", "kind abc.ABCMeta", "functions __init__
  _init_decrypter __repr__ readline peek readable read _update_crc read1 _read1 _read2 close
  seekable seek tell", "numbers MAX_N=1073741824 MIN_READ_SIZE=4096 MAX_SEEK_READ=16777216"]),
  ("zipfile.ZipFile", ["open", "functions __init__ __enter__ __exit__ __repr__ _RealGetContents
  namelist infolist printdir testzip getinfo setpassword read open _open_to_write extract extractall
  _extract_member _writecheck write writestr mkdir __del__ close _write_end_record _fpclose",
  "class-functions _sanitize_windows_name", "properties comment", "constant fp None",
  "constant _windows_illegal_name_trans_table None", "part comment.fset object('function')"]),
  ("zipfile.ZipInfo", ["functions __init__ __repr__ FileHeader _encodeFilenameFlags _decodeExtra
  is_dir", "class-functions from_file", "slots CRC _compresslevel _raw_time comment compress_size
  compress_type create_system create_version date_time external_attr extra extract_version file_size
  filename flag_bits header_offset internal_attr orig_filename reserved volume",
  "constant __slots__ ('orig_filename', 'filename', 'date_time', 'compress_type', '_compressle",
  "|vel', 'comment', 'extra', 'create_system', 'create_version', 'extract_version', 'reserved'",
  "|, 'flag_bits', 'volume', 'internal_attr', 'external_attr', 'header_offset', 'CRC', 'compre",
  "|ss_size', 'file_size', '_raw_time', '_end_offset')"]),
  ("zipfile._SharedFile", ["open", "functions __init__ tell seek read close", "silent"]),
  ("zipfile._Tellable", ["open", "functions __init__ write tell flush close", "silent"]),
  ("zipfile._ZipWriteFile", ["below io.BufferedIOBase", "kind abc.ABCMeta", "functions __init__
  writable write close", "properties _fileobj", "silent"]),
  ("zipimport.ZipImportError", ["below ImportError", "open __weakref__", "silent"]),
  ("zipimport.zipimporter", ["below _frozen_importlib_external._LoaderBasics", "functions __init__
  find_loader find_module find_spec get_code get_data get_filename get_source is_package load_module
  get_resource_reader invalidate_caches __repr__"]),
  ("zlib.error", ["below Exception", "open __weakref__", "silent"])]

end FragmentWeaver.Standard
