/-!
# Listing: development

What stands in the modules and classes for tests, measures, documentation and distribution.
-/

namespace FragmentWeaver.Standard

/-- The modules for development. -/
def developmentModules : List (String × List String) := [
  ("_lsprof", ["extension", "classes Profiler profiler_entry profiler_subentry"]),
  ("bdb", ["functions bar checkfuncname effective foo set_trace test", "classes Bdb BdbQuit
  Breakpoint Tdb", "modules fnmatch= os= sys=", "numbers CO_ASYNC_GENERATOR=512 CO_COROUTINE=128
  CO_GENERATOR=32 GENERATOR_AND_COROUTINE_FLAGS=672", "exports BdbQuit Bdb Breakpoint"]),
  ("cProfile", ["functions label main run runctx", "classes Profile", "modules _lsprof=
  _pyprofile=profile io=", "exports run runctx Profile"]),
  ("cmd", ["classes Cmd", "modules string= sys=",
  "constant IDENTCHARS 'abcdefghijklmnopqrstuvwxyzABCDEFGHIJKLMNOPQRSTUVWXYZ0123456789_'",
  "constant PROMPT '(Cmd) '", "exports Cmd"]),
  ("distutils", ["package"]),
  ("distutils.archive_util", []),
  ("distutils.bcppcompiler", []),
  ("distutils.ccompiler", []),
  ("distutils.cmd", []),
  ("distutils.command", ["package"]),
  ("distutils.command.bdist", []),
  ("distutils.command.bdist_dumb", ["brings _sysconfigdata__x86_64-linux-gnu"]),
  ("distutils.command.bdist_rpm", ["brings _sysconfigdata__x86_64-linux-gnu"]),
  ("distutils.command.build", []),
  ("distutils.command.build_clib", ["brings _sysconfigdata__x86_64-linux-gnu"]),
  ("distutils.command.build_ext", ["brings _sysconfigdata__x86_64-linux-gnu"]),
  ("distutils.command.build_py", []),
  ("distutils.command.build_scripts", ["brings _sysconfigdata__x86_64-linux-gnu"]),
  ("distutils.command.check", []),
  ("distutils.command.clean", []),
  ("distutils.command.config", ["brings _sysconfigdata__x86_64-linux-gnu"]),
  ("distutils.command.install", ["brings _sysconfigdata__x86_64-linux-gnu"]),
  ("distutils.command.install_data", []),
  ("distutils.command.install_egg_info", []),
  ("distutils.command.install_headers", []),
  ("distutils.command.install_lib", []),
  ("distutils.command.install_scripts", []),
  ("distutils.command.register", []),
  ("distutils.command.sdist", []),
  ("distutils.command.upload", []),
  ("distutils.config", []),
  ("distutils.core", []),
  ("distutils.cygwinccompiler", ["brings _sysconfigdata__x86_64-linux-gnu"]),
  ("distutils.debug", []),
  ("distutils.dep_util", []),
  ("distutils.dir_util", []),
  ("distutils.dist", []),
  ("distutils.errors", []),
  ("distutils.extension", []),
  ("distutils.fancy_getopt", []),
  ("distutils.file_util", []),
  ("distutils.filelist", []),
  ("distutils.log", []),
  ("distutils.spawn", []),
  ("distutils.sysconfig", ["brings _sysconfigdata__x86_64-linux-gnu"]),
  ("distutils.text_file", []),
  ("distutils.unixccompiler", ["brings _sysconfigdata__x86_64-linux-gnu"]),
  ("distutils.util", []),
  ("distutils.version", []),
  ("distutils.versionpredicate", []),
  ("doctest", ["functions DocFileSuite DocFileTest DocTestSuite _comment_line _ellipsis_match
  _exception_traceback _extract_future_flags _indent _load_testfile _module_relative_path
  _newline_convert _normalize_module _strip_exception_details _test debug debug_script debug_src
  namedtuple=collections: register_optionflag run_docstring_examples script_from_examples
  set_unittest_reportflags testfile testmod testsource", "classes DebugRunner DocFileCase DocTest
  DocTestCase DocTestFailure DocTestFinder DocTestParser DocTestRunner Example
  IncrementalNewlineDecoder=_io. OutputChecker SkipDocTestCase StringIO=_io. TestResults
  UnexpectedException _DocTestSuite _OutputRedirectingPdb _SpoofOut _TestClass",
  "modules __future__= difflib= inspect= linecache= os= pdb= re= sys= traceback= unittest=",
  "numbers COMPARISON_FLAGS=63 DONT_ACCEPT_BLANKLINE=2 DONT_ACCEPT_TRUE_FOR_1=1 ELLIPSIS=8
  FAIL_FAST=1024 IGNORE_EXCEPTION_DETAIL=32 NORMALIZE_WHITESPACE=4 REPORTING_FLAGS=1984
  REPORT_CDIFF=128 REPORT_NDIFF=256 REPORT_ONLY_FIRST_FAILURE=512 REPORT_UDIFF=64 SKIP=16
  _unittest_reportflags=0", "constant BLANKLINE_MARKER '<BLANKLINE>'",
  "constant ELLIPSIS_MARKER '...'",
  "constant OPTIONFLAGS_BY_NAME \x7b'DONT_ACCEPT_TRUE_FOR_1': 1, 'DONT_ACCEPT_BLANKLINE': 2, '",
  "|NORMALIZE_WHITESPACE': 4, 'ELLIPSIS': 8, 'SKIP': 16, 'IGNORE_EXCEPTION_DETAIL': 32, 'REPOR",
  "|T_UDIFF': 64, 'REPORT_CDIFF': 128, 'REPORT_NDIFF': 256, 'REPORT_ONLY_FIRST_FAILURE': 512, ",
  "|'FAIL_FAST': 1024\x7d", "constant __docformat__ 'reStructuredText en'",
  "constant __test__ \x7b'_TestClass': doctest._TestClass, 'string': '\\n                     ",
  "| Example of a string object, searched as-is.\\n                      >>> x = 1; y = 2\\n  ",
  "|                    >>> x + y, x * y\\n                      (3, 2)\\n                    ",
  "|  ', 'bool-int equivalence': '\\n                                    In 2.2, boolean expre",
  "|ssions displayed\\n                                    0 or 1.  By default, we still accep",
  "|t\\n                                    them.  This can be disabled by passing\\n         ",
  "|                           DONT_ACCEPT_TRUE_FOR_1 to the new\\n                           ",
  "|         optionflags argument.\\n                                    >>> 4 == 4\\n        ",
  "|                            1\\n                                    >>> 4 == 4\\n         ",
  "|                           True\\n                                    >>> 4 > 4\\n        ",
  "|                            0\\n                                    >>> 4 > 4\\n          ",
  "|                          False\\n                                    ', 'blank lines': \"",
  "|\\n                Blank lines can be marked with <BLANKLINE>:\\n                    >>> p",
  "|rint('foo\\\\n\\\\nbar\\\\n')\\n                    foo\\n                    <BLANKLINE>",
  "|\\n                    bar\\n                    <BLANKLINE>\\n            \", 'ellipsis':",
  "| \"\\n                If the ellipsis flag is used, then '...' can be used to\\n          ",
  "|      elide substrings in the desired output:\\n                    >>> print(list(range(1",
  "|000))) #doctest: +ELLIPSIS\\n                    [0, 1, 2, ..., 999]\\n            \", 'wh",
  "|itespace normalization': '\\n                If the whitespace normalization flag is used,",
  "| then\\n                differences in whitespace are ignored.\\n                    >>> p",
  "|rint(list(range(30))) #doctest: +NORMALIZE_WHITESPACE\\n                    [0, 1, 2, 3, 4",
  "|, 5, 6, 7, 8, 9, 10, 11, 12, 13, 14,\\n                     15, 16, 17, 18, 19, 20, 21, 22",
  "|, 23, 24, 25, 26,\\n                     27, 28, 29]\\n            '\x7d",
  "constant master None", "exports register_optionflag DONT_ACCEPT_TRUE_FOR_1 DONT_ACCEPT_BLANKLINE
  NORMALIZE_WHITESPACE ELLIPSIS SKIP IGNORE_EXCEPTION_DETAIL COMPARISON_FLAGS REPORT_UDIFF
  REPORT_CDIFF REPORT_NDIFF REPORT_ONLY_FIRST_FAILURE REPORTING_FLAGS FAIL_FAST Example DocTest
  DocTestParser DocTestFinder DocTestRunner OutputChecker DocTestFailure UnexpectedException
  DebugRunner testmod testfile run_docstring_examples DocTestSuite DocFileSuite
  set_unittest_reportflags script_from_examples testsource debug_src debug"]),
  ("ensurepip", ["package", "brings _sysconfigdata__x86_64-linux-gnu", "functions _bootstrap
  _disable_pip_configuration_settings _ensurepip_is_disabled_in_debian_for_system _find_packages
  _get_packages _main _run_pip _uninstall_helper bootstrap version",
  "classes _Package=ensurepip.Package", "modules collections= os= resources=importlib. subprocess=
  sys= sysconfig= tempfile=", "constant _PACKAGES None",
  "constant _PACKAGE_NAMES ('setuptools', 'pip')", "constant _PIP_VERSION '22.3.1'",
  "constant _PROJECTS [('setuptools', '65.5.0', 'py3'), ('pip', '22.3.1', 'py3')]",
  "constant _SETUPTOOLS_VERSION '65.5.0'", "constant _WHEEL_PKG_DIR '/usr/share/python-wheels/'",
  "constant __doc__ None", "exports version bootstrap"]),
  ("ensurepip._uninstall", ["brings _sysconfigdata__x86_64-linux-gnu", "functions _main",
  "modules argparse= ensurepip= sys="]),
  ("pdb", ["functions find_function help lasti2lineno main pm post_mortem run runcall runctx runeval
  set_trace test", "classes Pdb Restart _ModuleTarget _ScriptTarget _rstr",
  "objects Union=typing._SpecialForm", "modules bdb= cmd= code= dis= functools= glob= inspect= io=
  linecache= os= pprint= re= signal= sys= tokenize= traceback=",
  "constant TESTCMD 'import x; x.main()'",
  "constant _usage 'usage: pdb.py [-c command] ... [-m module | pyfile] [arg] ...\\n\\nDebug t",
  "|he Python program given by pyfile. Alternatively,\\nan executable module or package to deb",
  "|ug can be specified using\\nthe -m switch.\\n\\nInitial commands are read from .pdbrc file",
  "|s in your home directory\\nand in the current directory, if they exist.  Commands supplied",
  "| with\\n-c are executed after commands from .pdbrc files.\\n\\nTo let the script run until",
  "| an exception occurs, use \"-c continue\".\\nTo let the script run up to a given line X in",
  "| the debugged file, use\\n\"-c \\'until X\\'\".'", "constant line_prefix '\\n-> '", "exports run
  pm Pdb runeval runctx runcall set_trace post_mortem help"]),
  ("profile", ["functions main run runctx", "classes Profile _Utils", "modules io= marshal= sys=
  time=", "exports run runctx Profile"]),
  ("pstats", ["functions _simple_enum=enum: add_callers add_func_stats count_calls
  dataclass=dataclasses: f8 func_get_function_name func_std_string func_strip_path",
  "builtins cmp_to_key=_functools:", "classes FunctionProfile SortKey Stats StatsProfile
  StrEnum=enum. TupleComp", "objects Dict=typing._SpecialGenericAlias", "modules marshal= os= re=
  sys= time=", "exports Stats SortKey FunctionProfile StatsProfile"]),
  ("pydoc", ["brings _sysconfigdata__x86_64-linux-gnu", "functions _adjust_cli_sys_path
  _escape_stdout _findclass _finddoc _get_revised_path _getdoc _getowndoc _is_bound_method
  _split_list _start_server _url_handler allmethods apropos browse classify_class_attrs classname
  cli cram describe doc format_exception_only=traceback: getdoc getpager importfile isdata ispackage
  ispath locate pager parentname pathdirs pipepager plain plainpager render_doc replace resolve
  safeimport sort_attributes source_synopsis splitdoc stripid synopsis tempfilepager ttypager
  visiblename writedoc writedocs", "classes Doc ErrorDuringImport HTMLDoc HTMLRepr Helper
  ModuleScanner Repr=reprlib. TextDoc TextRepr _PlainTextDoc deque=collections.",
  "objects _future_feature_names=set help=pydoc.Helper html=pydoc.HTMLDoc
  plaintext=pydoc._PlainTextDoc text=pydoc.TextDoc", "holders _re_stripid=re.Pattern",
  "modules __future__= builtins= importlib= inspect= io= os= pkgutil= platform= re= sys= sysconfig=
  time= tokenize= urllib= warnings=", "constant __author__ 'Ka-Ping Yee <ping\\x40lfw.org>'",
  "constant __credits__ 'Guido van Rossum, for an excellent programming language.\\nTommy Burn",
  "|ette, the original creator of manpy.\\nPaul Prescod, for all his work on onlinehelp.\\nRic",
  "|hard Chamberlain, for the first implementation of textdoc.\\n'",
  "constant __date__ '26 February 2001'", "exports help", "part _re_stripid.flags 34",
  "part _re_stripid.groups 1", "part _re_stripid.pattern ' at 0x[0-9a-f]\x7b6,16\x7d(>+)$'"]),
  ("pydoc_data", ["package", "constant __doc__ None"]),
  ("pydoc_data.topics", ["constant __doc__ None"]),
  ("readline", ["extension", "builtins add_history append_history_file clear_history get_begidx
  get_completer get_completer_delims get_completion_type get_current_history_length get_endidx
  get_history_item get_history_length get_line_buffer insert_text parse_and_bind read_history_file
  read_init_file redisplay remove_history_item replace_history_item set_auto_history set_completer
  set_completer_delims set_completion_display_matches_hook set_history_length set_pre_input_hook
  set_startup_hook write_history_file", "numbers _READLINE_RUNTIME_VERSION=2050
  _READLINE_VERSION=2050", "constant _READLINE_LIBRARY_VERSION '8.2'"]),
  ("rlcompleter", ["functions get_class_members", "classes Completer", "modules atexit= builtins=
  inspect= keyword= re= readline=", "constant _readline_available True", "exports Completer"]),
  ("timeit", ["functions main reindent repeat timeit", "builtins _globals=builtins:globals
  default_timer=time:perf_counter", "classes Timer", "modules gc= itertools= sys= time=",
  "numbers default_number=1000000 default_repeat=5", "constant dummy_src_name '<timeit-src>'",
  "constant template '\\ndef inner(_it, _timer\x7binit\x7d):\\n    \x7bsetup\x7d\\n    _t0 = _",
  "|timer()\\n    for _i in _it:\\n        \x7bstmt\x7d\\n        pass\\n    _t1 = _timer()\\n",
  "|    return _t1 - _t0\\n'", "exports Timer timeit repeat default_timer"]),
  ("trace", ["functions _find_executable_linenos _find_lines _find_lines_from_code _find_strings
  _fullmodname _modname main", "builtins _time=time:monotonic", "classes CoverageResults Trace
  _Ignore", "modules dis= gc= inspect= linecache= os= pickle= sys= sysconfig= threading= token=
  tokenize=", "constant PRAGMA_NOCOVER '#pragma NO COVER'", "exports Trace CoverageResults"]),
  ("unittest", ["package", "functions __dir__ __getattr__ addModuleCleanup=unittest.case:
  doModuleCleanups=unittest.case: enterModuleContext=unittest.case: expectedFailure=unittest.case:
  findTestCases=unittest.loader: getTestCaseNames=unittest.loader: installHandler=unittest.signals:
  load_tests makeSuite=unittest.loader: registerResult=unittest.signals:
  removeHandler=unittest.signals: removeResult=unittest.signals: skip=unittest.case:
  skipIf=unittest.case: skipUnless=unittest.case:", "classes BaseTestSuite=unittest.suite.
  FunctionTestCase=unittest.case. SkipTest=unittest.case. TestCase=unittest.case.
  TestLoader=unittest.loader. TestProgram=unittest.main. TestResult=unittest.result.
  TestSuite=unittest.suite. TextTestResult=unittest.runner. TextTestRunner=unittest.runner.
  _TextTestResult=unittest.runner.TextTestResult main=unittest.main.TestProgram",
  "holders defaultTestLoader=unittest.loader.TestLoader", "modules case loader result runner signals
  suite util", "constant __unittest True", "exports TestResult TestCase IsolatedAsyncioTestCase
  TestSuite TextTestRunner TestLoader FunctionTestCase main defaultTestLoader SkipTest skip skipIf
  skipUnless expectedFailure TextTestResult installHandler registerResult removeResult removeHandler
  addModuleCleanup doModuleCleanups enterModuleContext getTestCaseNames makeSuite findTestCases",
  "classes IsolatedAsyncioTestCase=unittest.async_case.",
  "part defaultTestLoader._loading_packages object('set')", "part defaultTestLoader.errors []",
  "part defaultTestLoader.__dict__ \x7b'errors': [], '_loading_packages': object('set')\x7d",
  "same IsolatedAsyncioTestCase=unittest.async_case."]),
  ("unittest._log", ["classes _AssertLogsContext _BaseTestCaseContext=unittest.case.
  _CapturingHandler _LoggingWatcher", "modules collections= logging=", "constant __doc__ None"]),
  ("unittest.async_case", ["classes IsolatedAsyncioTestCase TestCase=unittest.case.",
  "modules asyncio= contextvars= inspect= warnings=", "constant __doc__ None"]),
  ("unittest.case", ["functions _addError _addSkip _common_shorten_repr=unittest.util:
  _count_diff_all_purpose=unittest.util: _count_diff_hashable=unittest.util: _enter_context _id
  _is_subtype addModuleCleanup doModuleCleanups enterModuleContext expectedFailure
  safe_repr=unittest.util: skip skipIf skipUnless strclass=unittest.util:",
  "classes FunctionTestCase SkipTest TestCase _AssertRaisesBaseContext _AssertRaisesContext
  _AssertWarnsContext _BaseTestCaseContext _OrderedChainMap _Outcome _ShouldStop _SubTest
  _UnexpectedSuccess", "objects _subtest_msg_sentinel=object", "modules collections= contextlib=
  difflib= functools= pprint= re= result=unittest. sys= traceback= types= warnings=",
  "constant DIFF_OMITTED '\\nDiff is %s characters long. Set self.maxDiff to None to see it.'",
  "constant __unittest True", "constant _module_cleanups []"]),
  ("unittest.loader", ["functions _jython_aware_splitext _makeLoader _make_failed_import_test
  _make_failed_load_tests _make_failed_test _make_skipped_test findTestCases fnmatch=fnmatch:
  fnmatchcase=fnmatch: getTestCaseNames makeSuite", "classes TestLoader _FailedTest",
  "holders VALID_MODULE_NAME=re.Pattern", "same defaultTestLoader=unittest.",
  "modules case=unittest. functools= os= re= suite=unittest. sys= traceback= types= util=unittest.
  warnings=", "constant __unittest True", "part VALID_MODULE_NAME.flags 34",
  "part VALID_MODULE_NAME.pattern '[_a-z]\\\\w*\\\\.py$'"]),
  ("unittest.main", ["functions _convert_name _convert_names _convert_select_pattern
  installHandler=unittest.signals:", "classes TestProgram main=unittest.main.TestProgram",
  "modules argparse= loader=unittest. os= runner=unittest. sys= warnings=",
  "constant MAIN_EXAMPLES 'Examples:\\n  %(prog)s test_module               - run tests from t",
  "|est_module\\n  %(prog)s module.TestClass          - run tests from module.TestClass\\n  %(",
  "|prog)s module.Class.test_method  - run specified test method\\n  %(prog)s path/to/test_fil",
  "|e.py      - run tests from test_file.py\\n'",
  "constant MODULE_EXAMPLES \"Examples:\\n  %(prog)s                           - run default s",
  "|et of tests\\n  %(prog)s MyTestSuite               - run suite 'MyTestSuite'\\n  %(prog)s ",
  "|MyTestCase.testSomething  - run MyTestCase.testSomething\\n  %(prog)s MyTestCase          ",
  "|      - run all 'test*' test methods\\n                                       in MyTestCas",
  "|e\\n\"", "constant __unittest True"]),
  ("unittest.mock", ["functions RLock=threading: _callable _check_and_set_parent _check_signature
  _check_spec_arg_typos _clear_dict _copy_func_details _delegating_property _extract_mock
  _format_call_signature _get_async_iter _get_eq _get_iter _get_method _get_ne _get_signature_object
  _get_target _instance_callable _is_async_func _is_async_obj _is_exception _is_instance_mock
  _is_list _is_magic _must_skip _patch_multiple _patch_object _patch_stopall _set_return_value
  _set_signature _setup_async_mock _setup_func _to_stream _try_iter create_autospec
  iscoroutinefunction=asyncio.coroutines: mock_open patch safe_repr=unittest.util: seal
  wraps=functools:", "classes AsyncMagicMixin AsyncMock AsyncMockMixin Base CallableMixin
  CodeType=code InvalidSpecError MagicMixin MagicMock MagicProxy MethodType=method Mock
  ModuleType=module NonCallableMagicMock NonCallableMock PropertyMock _ANY _AnyComparer
  _AsyncIterator _Call _CallList _MockIter _Sentinel _SentinelObject _SpecState _patch _patch_dict
  _safe_super=super partial=functools.", "objects ANY=unittest.mock._ANY _all_magics=set
  _all_sync_magics=set _allowed_names=set _async_magics=set _async_method_magics=set _builtins=set
  _magics=set _non_defaults=set _sync_async_magics=set _unsupported_magics=set
  sentinel=unittest.mock._Sentinel", "holders DEFAULT=unittest.mock._SentinelObject
  _MOCK_SIG=inspect.Signature _deleted=unittest.mock._SentinelObject
  _missing=unittest.mock._SentinelObject", "modules asyncio= builtins= contextlib= inspect= io=
  pkgutil= pprint= sys=", "constant FILTER_DIR True", "constant FunctionTypes (function, method)",
  "constant __all__ ('Mock', 'MagicMock', 'patch', 'sentinel', 'DEFAULT', 'ANY', 'call', 'crea",
  "|te_autospec', 'AsyncMock', 'FILTER_DIR', 'NonCallableMock', 'NonCallableMagicMock', 'mock_",
  "|open', 'PropertyMock', 'seal')", "constant __doc__ None",
  "constant _calculate_return_value \x7b'__hash__': function(...), '__str__': function(...), '",
  "|__sizeof__': function(...), '__fspath__': function(...)\x7d",
  "constant _return_values \x7b'__lt__': NotImplementedType(...), '__gt__': NotImplementedType",
  "|(...), '__le__': NotImplementedType(...), '__ge__': NotImplementedType(...), '__int__': 1,",
  "| '__contains__': False, '__len__': 0, '__exit__': False, '__complex__': 1j, '__float__': 1",
  "|.0, '__bool__': True, '__index__': 1, '__aexit__': False\x7d",
  "constant _side_effect_methods \x7b'__eq__': function(...), '__ne__': function(...), '__iter",
  "|__': function(...), '__aiter__': function(...)\x7d",
  "constant call=unittest.mock._Call ('', (), \x7b\x7d)", "constant file_spec None",
  "constant inplace 'iadd isub imul imatmul itruediv ifloordiv imod ilshift irshift iand ixor ",
  "|ior ipow'",
  "constant magic_methods 'lt le gt ge eq ne getitem setitem delitem len contains iter hash st",
  "|r sizeof enter exit divmod rdivmod neg pos abs invert complex int float index round trunc ",
  "|floor ceil bool next fspath aiter '",
  "constant numerics 'add sub mul matmul truediv floordiv mod lshift rshift and xor or pow'",
  "constant open_spec None",
  "constant right 'radd rsub rmul rmatmul rtruediv rfloordiv rmod rlshift rrshift rand rxor ro",
  "|r rpow'", "part patch.object object('function')", "part patch.dict unittest.mock._patch_dict",
  "part patch.multiple object('function')", "part patch.stopall object('function')",
  "part patch.TEST_PREFIX 'test'",
  "part patch.__dict__ \x7b'object': object('function'), 'dict': unittest.mock._patch_dict, 'm",
  "|ultiple': object('function'), 'stopall': object('function'), 'TEST_PREFIX': 'test'\x7d",
  "part DEFAULT.name 'DEFAULT'", "part DEFAULT.__dict__ \x7b'name': 'DEFAULT'\x7d",
  "part _MOCK_SIG._parameters object('mappingproxy')",
  "part _MOCK_SIG._return_annotation inspect._empty",
  "part _MOCK_SIG.parameters object('mappingproxy')",
  "part _MOCK_SIG.return_annotation inspect._empty", "part _deleted.name 'DELETED'",
  "part _deleted.__dict__ \x7b'name': 'DELETED'\x7d", "part _missing.name 'MISSING'",
  "part _missing.__dict__ \x7b'name': 'MISSING'\x7d"]),
  ("unittest.result", ["functions failfast wraps=functools:", "classes TestResult", "modules io=
  sys= traceback= util=unittest.", "constant STDERR_LINE '\\nStderr:\\n%s'",
  "constant STDOUT_LINE '\\nStdout:\\n%s'", "constant __unittest True"]),
  ("unittest.runner", ["functions registerResult=unittest.signals:", "classes TextTestResult
  TextTestRunner _SubTest=unittest.case. _WritelnDecorator", "modules result=unittest. sys= time=
  warnings=", "constant __unittest True"]),
  ("unittest.signals", ["functions installHandler registerResult removeHandler removeResult
  wraps=functools:", "classes _InterruptHandler", "holders _results=weakref.WeakKeyDictionary",
  "modules signal= weakref=", "constant __doc__ None", "constant __unittest True",
  "constant _interrupt_handler None", "part _results._dirty_len False",
  "part _results._iterating object('set')", "part _results._pending_removals []",
  "part _results.data \x7b\x7d",
  "part _results.__dict__ \x7b'data': \x7b\x7d, '_remove': object('function'), '_pending_remov",
  "|als': [], '_iterating': object('set'), '_dirty_len': False\x7d"]),
  ("unittest.suite", ["functions _call_if_exists _isnotsuite", "classes BaseTestSuite TestSuite
  _DebugResult _ErrorHolder", "modules case=unittest. sys= util=unittest.",
  "constant __unittest True"]),
  ("unittest.util", ["functions _common_shorten_repr _count_diff_all_purpose _count_diff_hashable
  _shorten commonprefix=genericpath: namedtuple=collections: safe_repr sorted_list_difference
  strclass three_way_cmp unorderable_list_difference", "classes Counter=collections.
  _Mismatch=unittest.util.Mismatch", "numbers _MAX_LENGTH=80 _MIN_BEGIN_LEN=5 _MIN_COMMON_LEN=5
  _MIN_DIFF_LEN=41 _MIN_END_LEN=5 _PLACEHOLDER_LEN=12", "constant __unittest True"]),
  ("venv", ["package", "functions create main", "classes EnvBuilder",
  "holders logger=logging.Logger", "modules logging= os= shutil= subprocess= sys= sysconfig=
  types=", "constant CORE_VENV_DEPS ('pip', 'setuptools')", "part logger.disabled False",
  "part logger.filters []", "part logger.level 0", "part logger.name 'venv'",
  "part logger.propagate True"])]

/-- The classes for development. -/
def developmentClasses : List (String × List String) := [
  ("_lsprof.Profiler", ["shown _lsprof.Profiler", "operations __init__", "methods enable disable
  clear", "told-methods getstats"]),
  ("_lsprof.profiler_entry", ["below tuple", "shown _lsprof.profiler_entry", "builtins __new__",
  "operations __repr__", "methods __reduce__", "slots code callcount reccallcount totaltime
  inlinetime calls", "numbers n_sequence_fields=6 n_fields=6 n_unnamed_fields=0", "silent",
  "constant __match_args__ ('code', 'callcount', 'reccallcount', 'totaltime', 'inlinetime', 'c",
  "|alls')"]),
  ("_lsprof.profiler_subentry", ["below tuple", "shown _lsprof.profiler_subentry",
  "builtins __new__", "operations __repr__", "methods __reduce__", "slots code callcount
  reccallcount totaltime inlinetime", "numbers n_sequence_fields=5 n_fields=5 n_unnamed_fields=0",
  "silent",
  "constant __match_args__ ('code', 'callcount', 'reccallcount', 'totaltime', 'inlinetime')"]),
  ("bdb.Bdb", ["open", "functions __init__ canonic reset trace_dispatch dispatch_line dispatch_call
  dispatch_return dispatch_exception is_skipped_module stop_here break_here do_clear break_anywhere
  user_call user_line user_return user_exception _set_stopinfo set_until set_step set_next
  set_return set_trace set_continue set_quit _add_to_breaks set_break _load_breaks _prune_breaks
  clear_break clear_bpbynumber clear_all_file_breaks clear_all_breaks get_bpbynumber get_break
  get_breaks get_file_breaks get_all_breaks get_stack format_stack_entry run runeval runctx
  runcall"]),
  ("bdb.BdbQuit", ["below Exception", "open __weakref__"]),
  ("bdb.Breakpoint", ["open", "functions __init__ deleteMe enable disable bpprint bpformat __str__",
  "statics clearBreakpoints", "numbers next=1", "constant bplist \x7b\x7d",
  "constant bpbynumber [None]"]),
  ("bdb.Tdb", ["below bdb.Bdb", "functions user_call user_line user_return user_exception",
  "silent"]),
  ("cProfile.Profile", ["below _lsprof.Profiler", "open", "functions print_stats dump_stats
  create_stats snapshot_stats run runctx runcall __enter__ __exit__"]),
  ("cmd.Cmd", ["open", "functions __init__ cmdloop precmd postcmd preloop postloop parseline onecmd
  emptyline default completedefault completenames complete get_names complete_help do_help
  print_topics columnize", "numbers use_rawinput=1", "constant prompt '(Cmd) '",
  "constant identchars 'abcdefghijklmnopqrstuvwxyzABCDEFGHIJKLMNOPQRSTUVWXYZ0123456789_'",
  "constant ruler '='", "constant lastcmd ''", "constant intro None", "constant doc_leader ''",
  "constant doc_header 'Documented commands (type help <topic>):'",
  "constant misc_header 'Miscellaneous help topics:'",
  "constant undoc_header 'Undocumented commands:'", "constant nohelp '*** No help on %s'"]),
  ("doctest.DebugRunner", ["below doctest.DocTestRunner", "functions run report_unexpected_exception
  report_failure"]),
  ("doctest.DocFileCase", ["below doctest.DocTestCase", "functions id __repr__ format_failure",
  "silent", "constant _classSetupFailed False", "constant _class_cleanups []"]),
  ("doctest.DocTest", ["open", "functions __init__ __repr__ __eq__ __hash__ __lt__"]),
  ("doctest.DocTestCase", ["below unittest.case.TestCase", "functions __init__ setUp tearDown
  runTest format_failure debug id __eq__ __hash__ __repr__ shortDescription", "operations __str__",
  "silent", "constant _classSetupFailed False", "constant _class_cleanups []"]),
  ("doctest.DocTestFailure", ["below Exception", "open __weakref__", "functions __init__ __str__"]),
  ("doctest.DocTestFinder", ["open", "functions __init__ find _from_module _is_routine _find
  _get_test _find_lineno"]),
  ("doctest.DocTestParser", ["open", "functions parse get_doctest get_examples _parse_example
  _find_options _min_indent _check_prompt_blank _check_prefix",
  "objects _IS_BLANK_OR_COMMENT=builtin_method", "holders _EXAMPLE_RE=re.Pattern
  _EXCEPTION_RE=re.Pattern _OPTION_DIRECTIVE_RE=re.Pattern _INDENT_RE=re.Pattern",
  "part _EXAMPLE_RE.flags 104", "part _EXAMPLE_RE.groupindex object('mappingproxy')",
  "part _EXAMPLE_RE.groups 3",
  "part _EXAMPLE_RE.pattern '\\n        # Source consists of a PS1 line followed by zero or mo",
  "|re PS2 lines.\\n        (?P<source>\\n            (?:^(?P<indent> [ ]*) >>>    .*)    # PS",
  "|1 line\\n            (?:\\\\n           [ ]*  \\\\.\\\\.\\\\. .*)*)  # PS2 lines\\n       ",
  "| \\\\n?\\n        # Want consists of any non-blank lines that do not start with PS1.\\n   ",
  "|     (?P<want> (?:(?![ ]*$)    # Not a blank line\\n                     (?![ ]*>>>)  # No",
  "|t a line starting with PS1\\n                     .+$\\\\n?       # But any other line\\n ",
  "|                 )*)\\n        '", "part _EXCEPTION_RE.flags 120",
  "part _EXCEPTION_RE.groupindex object('mappingproxy')", "part _EXCEPTION_RE.groups 3",
  "part _EXCEPTION_RE.pattern \"\\n        # Grab the traceback header.  Different versions of",
  "| Python have\\n        # said different things on the first traceback line.\\n        ^(?P",
  "|<hdr> Traceback\\\\ \\\\(\\n            (?: most\\\\ recent\\\\ call\\\\ last\\n          ",
  "|  |   innermost\\\\ last\\n            ) \\\\) :\\n        )\\n        \\\\s* $           ",
  "|     # toss trailing whitespace on the header.\\n        (?P<stack> .*?)      # don't blin",
  "|k: absorb stuff until...\\n        ^ (?P<msg> \\\\w+ .*)   #     a line *starts* with alph",
  "|anum.\\n        \"", "part _OPTION_DIRECTIVE_RE.flags 40", "part _OPTION_DIRECTIVE_RE.groups 1",
  "part _OPTION_DIRECTIVE_RE.pattern '#\\\\s*doctest:\\\\s*([^\\\\n\\\\\\'\"]*)$'",
  "part _INDENT_RE.flags 40", "part _INDENT_RE.groups 1",
  "part _INDENT_RE.pattern '^([ ]*)(?=\\\\S)'"]),
  ("doctest.DocTestRunner", ["open", "functions __init__ report_start report_success report_failure
  report_unexpected_exception _failure_header _DocTestRunner__run=doctest:DocTestRunner.__run
  _DocTestRunner__record_outcome=doctest:DocTestRunner.__record_outcome
  _DocTestRunner__patched_linecache_getlines=doctest:DocTestRunner.__patched_linecache_getlines run
  summarize merge", "holders _DocTestRunner__LINECACHE_FILENAME_RE=re.Pattern",
  "constant DIVIDER '**********************************************************************'",
  "part _DocTestRunner__LINECACHE_FILENAME_RE.groupindex object('mappingproxy')",
  "part _DocTestRunner__LINECACHE_FILENAME_RE.groups 2",
  "part _DocTestRunner__LINECACHE_FILENAME_RE.pattern '<doctest (?P<name>.+)\\\\[(?P<examplenu",
  "|m>\\\\d+)\\\\]>$'"]),
  ("doctest.Example", ["open", "functions __init__ __eq__ __hash__"]),
  ("doctest.OutputChecker", ["open", "functions _toAscii check_output _do_a_fancy_diff
  output_difference"]),
  ("doctest.SkipDocTestCase", ["below doctest.DocTestCase", "functions __init__ setUp test_skip
  shortDescription __str__=doctest:SkipDocTestCase.shortDescription", "silent",
  "constant _classSetupFailed False", "constant _class_cleanups []"]),
  ("doctest.TestResults", ["below tuple", "functions _replace=collections:TestResults._replace
  __repr__=collections:TestResults.__repr__ _asdict=collections:TestResults._asdict
  __getnewargs__=collections:TestResults.__getnewargs__",
  "class-functions _make=collections:TestResults._make",
  "statics __new__=namedtuple_TestResults:TestResults.__new__",
  "objects failed=_collections._tuplegetter attempted=_collections._tuplegetter",
  "constant __slots__ ()", "constant _fields ('failed', 'attempted')",
  "constant _field_defaults \x7b\x7d", "constant __match_args__ ('failed', 'attempted')"]),
  ("doctest.UnexpectedException", ["below Exception", "open __weakref__", "functions __init__
  __str__"]),
  ("doctest._DocTestSuite", ["below unittest.suite.TestSuite", "functions _removeTestAtIndex",
  "silent"]),
  ("doctest._OutputRedirectingPdb", ["below pdb.Pdb", "functions __init__ set_trace set_continue
  trace_dispatch"]),
  ("doctest._SpoofOut", ["below _io.StringIO", "functions getvalue truncate", "silent"]),
  ("doctest._TestClass", ["open", "functions __init__ square get"]),
  ("ensurepip.Package", ["below tuple", "functions _replace __repr__ _asdict __getnewargs__",
  "class-functions _make", "statics __new__", "objects version=_collections._tuplegetter
  wheel_name=_collections._tuplegetter wheel_path=_collections._tuplegetter",
  "constant __slots__ ()", "constant _fields ('version', 'wheel_name', 'wheel_path')",
  "constant _field_defaults \x7b\x7d",
  "constant __match_args__ ('version', 'wheel_name', 'wheel_path')"]),
  ("pdb.Pdb", ["above bdb.Bdb cmd.Cmd object", "functions __init__ sigint_handler reset forget setup
  user_call user_line bp_commands user_return user_exception _cmdloop preloop interaction
  displayhook default precmd onecmd handle_command_def message error _complete_location
  _complete_bpnumber _complete_expression do_commands complete_commands=pdb:Pdb._complete_bpnumber
  do_break defaultFile do_b=pdb:Pdb.do_break complete_break=pdb:Pdb._complete_location
  complete_b=pdb:Pdb._complete_location do_tbreak complete_tbreak=pdb:Pdb._complete_location
  lineinfo checkline do_enable complete_enable=pdb:Pdb._complete_bpnumber do_disable
  complete_disable=pdb:Pdb._complete_bpnumber do_condition
  complete_condition=pdb:Pdb._complete_bpnumber do_ignore complete_ignore=pdb:Pdb._complete_bpnumber
  do_clear do_cl=pdb:Pdb.do_clear complete_clear=pdb:Pdb._complete_location
  complete_cl=pdb:Pdb._complete_location do_where do_w=pdb:Pdb.do_where do_bt=pdb:Pdb.do_where
  _select_frame do_up do_u=pdb:Pdb.do_up do_down do_d=pdb:Pdb.do_down do_until
  do_unt=pdb:Pdb.do_until do_step do_s=pdb:Pdb.do_step do_next do_n=pdb:Pdb.do_next do_run
  do_restart=pdb:Pdb.do_run do_return do_r=pdb:Pdb.do_return do_continue do_c=pdb:Pdb.do_continue
  do_cont=pdb:Pdb.do_continue do_jump do_j=pdb:Pdb.do_jump do_debug
  complete_debug=pdb:Pdb._complete_expression do_quit do_q=pdb:Pdb.do_quit do_exit=pdb:Pdb.do_quit
  do_EOF do_args do_a=pdb:Pdb.do_args do_retval do_rv=pdb:Pdb.do_retval _getval _getval_except
  _error_exc _msg_val_func _safe_repr do_p do_pp complete_print=pdb:Pdb._complete_expression
  complete_p=pdb:Pdb._complete_expression complete_pp=pdb:Pdb._complete_expression do_list
  do_l=pdb:Pdb.do_list do_longlist do_ll=pdb:Pdb.do_longlist do_source
  complete_source=pdb:Pdb._complete_expression _print_lines do_whatis
  complete_whatis=pdb:Pdb._complete_expression do_display
  complete_display=pdb:Pdb._complete_expression do_undisplay complete_undisplay do_interact do_alias
  do_unalias complete_unalias print_stack_trace print_stack_entry do_help do_h=pdb:Pdb.do_help
  help_exec help_pdb lookupmodule _run _format_exc _getsourcelines",
  "constant _previous_sigint_handler None",
  "constant commands_resuming ['do_continue', 'do_step', 'do_next', 'do_return', 'do_quit', 'd",
  "|o_jump']", "silent"]),
  ("pdb.Restart", ["below Exception", "open __weakref__"]),
  ("pdb._ModuleTarget", ["below str", "open", "functions check", "properties filename code
  _spec namespace", "objects _details=functools.cached_property", "silent"]),
  ("pdb._ScriptTarget", ["below str", "open", "functions check", "statics __new__",
  "properties filename namespace code", "silent"]),
  ("pdb._rstr", ["below str", "open", "functions __repr__"]),
  ("profile.Profile", ["open", "functions __init__ trace_dispatch trace_dispatch_i
  trace_dispatch_mac trace_dispatch_l trace_dispatch_exception trace_dispatch_call
  trace_dispatch_c_call trace_dispatch_return set_cmd simulate_call simulate_cmd_complete
  print_stats dump_stats create_stats snapshot_stats run runctx runcall calibrate _calibrate_inner",
  "classes fake_code=profile.Profile. fake_frame=profile.Profile.", "numbers bias=0",
  "constant dispatch \x7b'call': function(...), 'exception': function(...), 'return': function",
  "|(...), 'c_call': function(...), 'c_exception': function(...), 'c_return': function(...)",
  "|\x7d"]),
  ("profile._Utils", ["open", "functions __init__ run runctx _show"]),
  ("pstats.FunctionProfile", ["open", "functions __init__ __repr__ __eq__ __hash__",
  "holders __dataclass_params__=dataclasses._DataclassParams",
  "constant __annotations__ \x7b'ncalls': str, 'tottime': float, 'percall_tottime': float, 'cu",
  "|mtime': float, 'percall_cumtime': float, 'file_name': str, 'line_number': int\x7d",
  "constant __dataclass_fields__ \x7b'ncalls': dataclasses.Field(...), 'tottime': dataclasses.",
  "|Field(...), 'percall_tottime': dataclasses.Field(...), 'cumtime': dataclasses.Field(...), ",
  "|'percall_cumtime': dataclasses.Field(...), 'file_name': dataclasses.Field(...), 'line_numb",
  "|er': dataclasses.Field(...)\x7d",
  "constant __match_args__ ('ncalls', 'tottime', 'percall_tottime', 'cumtime', 'percall_cumtim",
  "|e', 'file_name', 'line_number')", "part __repr__.__wrapped__ object('function')",
  "part __repr__.__dict__ \x7b'__wrapped__': object('function')\x7d",
  "part __dataclass_params__.eq True", "part __dataclass_params__.frozen False",
  "part __dataclass_params__.init True", "part __dataclass_params__.order False",
  "part __dataclass_params__.repr True", "part __dataclass_params__.unsafe_hash True"]),
  ("pstats.SortKey", ["below enum.StrEnum", "kind enum.EnumType",
  "functions __new_member__=pstats:SortKey.__new__ _new_member_=pstats:SortKey.__new__
  _generate_next_value_=enum:StrEnum._generate_next_value_ __new__=enum:Enum.__new__",
  "operations _value_repr_ __str__", "methods __format__", "classes _member_type_=str",
  "constant _use_args_ True", "constant _unhashable_values_ []", "value CALLS 'calls'",
  "value CUMULATIVE 'cumulative'", "value FILENAME 'filename'", "value LINE 'line'",
  "value NAME 'name'", "value NFL 'nfl'", "value PCALLS 'pcalls'", "value STDNAME 'stdname'",
  "value TIME 'time'", "style plain value"]),
  ("pstats.Stats", ["open", "functions __init__ init load_stats get_top_level_stats add dump_stats
  get_sort_arg_defs sort_stats reverse_order strip_dirs calc_callees eval_print_amount
  get_stats_profile get_print_list print_stats print_callees print_callers print_call_heading
  print_call_line print_title print_line",
  "constant sort_arg_dict_default \x7b'calls': (((1, -1),), 'call count'), 'ncalls': (((1, -1)",
  "|,), 'call count'), 'cumtime': (((3, -1),), 'cumulative time'), 'cumulative': (((3, -1),), ",
  "|'cumulative time'), 'filename': (((4, 1),), 'file name'), 'line': (((5, 1),), 'line number",
  "|'), 'module': (((4, 1),), 'file name'), 'name': (((6, 1),), 'function name'), 'nfl': (((6,",
  "| 1), (4, 1), (5, 1)), 'name/file/line'), 'pcalls': (((0, -1),), 'primitive call count'), '",
  "|stdname': (((7, 1),), 'standard name'), 'time': (((2, -1),), 'internal time'), 'tottime': ",
  "|(((2, -1),), 'internal time')\x7d"]),
  ("pstats.StatsProfile", ["open", "functions __init__ __repr__ __eq__ __hash__",
  "holders __dataclass_params__=dataclasses._DataclassParams",
  "constant __annotations__ \x7b'total_tt': float, 'func_profiles': typing._GenericAlias(...)",
  "|\x7d",
  "constant __dataclass_fields__ \x7b'total_tt': dataclasses.Field(...), 'func_profiles': data",
  "|classes.Field(...)\x7d", "constant __match_args__ ('total_tt', 'func_profiles')",
  "part __repr__.__wrapped__ object('function')",
  "part __repr__.__dict__ \x7b'__wrapped__': object('function')\x7d",
  "part __dataclass_params__.eq True", "part __dataclass_params__.frozen False",
  "part __dataclass_params__.init True", "part __dataclass_params__.order False",
  "part __dataclass_params__.repr True", "part __dataclass_params__.unsafe_hash True"]),
  ("pstats.TupleComp", ["open", "functions __init__ compare"]),
  ("pydoc.Doc", ["open", "functions document fail docmodule=pydoc:Doc.fail docclass=pydoc:Doc.fail
  docroutine=pydoc:Doc.fail docother=pydoc:Doc.fail docproperty=pydoc:Doc.fail
  docdata=pydoc:Doc.fail getdocloc",
  "constant PYTHONDOCS 'https:\\x2f/docs.python.org/3.11/library'", "silent"]),
  ("pydoc.ErrorDuringImport", ["below Exception", "open __weakref__", "functions __init__
  __str__"]),
  ("pydoc.HTMLDoc", ["below pydoc.Doc", "functions page heading section bigsection preformat
  multicolumn grey namelink classlink parentlink modulelink modpkglink filelink markup formattree
  docmodule docclass formatvalue docroutine docdata docproperty=pydoc:HTMLDoc.docdata docother
  index", "objects repr=method escape=method", "holders _repr_instance=pydoc.HTMLRepr",
  "part _repr_instance.fillvalue '...'", "part _repr_instance.maxarray 5",
  "part _repr_instance.maxdeque 6", "part _repr_instance.maxdict 10",
  "part _repr_instance.maxfrozenset 6", "part _repr_instance.maxlevel 6",
  "part _repr_instance.maxlist 20", "part _repr_instance.maxlong 40",
  "part _repr_instance.maxother 100", "part _repr_instance.maxset 6",
  "part _repr_instance.maxstring 100", "part _repr_instance.maxtuple 20"]),
  ("pydoc.HTMLRepr", ["below reprlib.Repr", "functions __init__ escape repr repr1 repr_string
  repr_str=pydoc:HTMLRepr.repr_string repr_instance repr_unicode=pydoc:HTMLRepr.repr_string"]),
  ("pydoc.Helper", ["open", "functions __init__ __repr__ __call__ interact getline help intro list
  listkeywords listsymbols listtopics showtopic _gettopic showsymbol listmodules", "properties input
  output", "objects _GoInteractive=object",
  "constant keywords \x7b'False': '', 'None': '', 'True': '', 'and': 'BOOLEAN', 'as': 'with', ",
  "|'assert': ('assert', ''), 'async': ('async', ''), 'await': ('await', ''), 'break': ('break",
  "|', 'while for'), 'class': ('class', 'CLASSES SPECIALMETHODS'), 'continue': ('continue', 'w",
  "|hile for'), 'def': ('function', ''), 'del': ('del', 'BASICMETHODS'), 'elif': 'if', 'else':",
  "| ('else', 'while for'), 'except': 'try', 'finally': 'try', 'for': ('for', 'break continue ",
  "|while'), 'from': 'import', 'global': ('global', 'nonlocal NAMESPACES'), 'if': ('if', 'TRUT",
  "|HVALUE'), 'import': ('import', 'MODULES'), 'in': ('in', 'SEQUENCEMETHODS'), 'is': 'COMPARI",
  "|SON', 'lambda': ('lambda', 'FUNCTIONS'), 'nonlocal': ('nonlocal', 'global NAMESPACES'), 'n",
  "|ot': 'BOOLEAN', 'or': 'BOOLEAN', 'pass': ('pass', ''), 'raise': ('raise', 'EXCEPTIONS'), '",
  "|return': ('return', 'FUNCTIONS'), 'try': ('try', 'EXCEPTIONS'), 'while': ('while', 'break ",
  "|continue if TRUTHVALUE'), 'with': ('with', 'CONTEXTMANAGERS EXCEPTIONS yield'), 'yield': (",
  "|'yield', '')\x7d",
  "constant _strprefixes [\"b'\", 'b\"', \"f'\", 'f\"', \"r'\", 'r\"', \"u'\", 'u\"']",
  "constant _symbols_inverse \x7b'STRINGS': (\"'\", \"'''\", '\"', '\"\"\"', \"b'\", 'b\"', \"",
  "|f'\", 'f\"', \"r'\", 'r\"', \"u'\", 'u\"'), 'OPERATORS': ('+', '-', '*', '**', '/', '//', ",
  "|'%', '<<', '>>', '&', '|', '^', '~', '<', '>', '<=', '>=', '==', '!=', '<>'), 'COMPARISON'",
  "|: ('<', '>', '<=', '>=', '==', '!=', '<>'), 'UNARY': ('-', '~'), 'AUGMENTEDASSIGNMENT': ('",
  "|+=', '-=', '*=', '/=', '%=', '&=', '|=', '^=', '<<=', '>>=', '**=', '//='), 'BITWISE': ('<",
  "|<', '>>', '&', '|', '^', '~'), 'COMPLEX': ('j', 'J')\x7d",
  "constant symbols \x7b'%': 'OPERATORS FORMATTING', '**': 'POWER OPERATORS', ',': 'TUPLES LIS",
  "|TS FUNCTIONS', '.': 'ATTRIBUTES FLOAT MODULES OBJECTS', '...': 'ELLIPSIS', ':': 'SLICINGS ",
  "|DICTIONARYLITERALS', '@': 'def class', '\\\\': 'STRINGS', '_': 'PRIVATENAMES', '__': 'PRIV",
  "|ATENAMES SPECIALMETHODS', '`': 'BACKQUOTES', '(': 'TUPLES FUNCTIONS CALLS', ')': 'TUPLES F",
  "|UNCTIONS CALLS', '[': 'LISTS SUBSCRIPTS SLICINGS', ']': 'LISTS SUBSCRIPTS SLICINGS', \"'\"",
  "|: 'STRINGS', \"'''\": 'STRINGS', '\"': 'STRINGS', '\"\"\"': 'STRINGS', \"b'\": 'STRINGS', ",
  "|'b\"': 'STRINGS', \"f'\": 'STRINGS', 'f\"': 'STRINGS', \"r'\": 'STRINGS', 'r\"': 'STRINGS'",
  "|, \"u'\": 'STRINGS', 'u\"': 'STRINGS', '+': 'OPERATORS', '-': 'OPERATORS UNARY', '*': 'OPE",
  "|RATORS', '/': 'OPERATORS', '//': 'OPERATORS', '<<': 'OPERATORS BITWISE', '>>': 'OPERATORS ",
  "|BITWISE', '&': 'OPERATORS BITWISE', '|': 'OPERATORS BITWISE', '^': 'OPERATORS BITWISE', '~",
  "|': 'OPERATORS UNARY BITWISE', '<': 'OPERATORS COMPARISON', '>': 'OPERATORS COMPARISON', '<",
  "|=': 'OPERATORS COMPARISON', '>=': 'OPERATORS COMPARISON', '==': 'OPERATORS COMPARISON', '!",
  "|=': 'OPERATORS COMPARISON', '<>': 'OPERATORS COMPARISON', '+=': 'AUGMENTEDASSIGNMENT', '-=",
  "|': 'AUGMENTEDASSIGNMENT', '*=': 'AUGMENTEDASSIGNMENT', '/=': 'AUGMENTEDASSIGNMENT', '%=': ",
  "|'AUGMENTEDASSIGNMENT', '&=': 'AUGMENTEDASSIGNMENT', '|=': 'AUGMENTEDASSIGNMENT', '^=': 'AU",
  "|GMENTEDASSIGNMENT', '<<=': 'AUGMENTEDASSIGNMENT', '>>=': 'AUGMENTEDASSIGNMENT', '**=': 'AU",
  "|GMENTEDASSIGNMENT', '//=': 'AUGMENTEDASSIGNMENT', 'j': 'COMPLEX', 'J': 'COMPLEX'\x7d", "silent",
  "objects topics=dict"]),
  ("pydoc.ModuleScanner", ["open", "functions run"]),
  ("pydoc.TextDoc", ["below pydoc.Doc", "functions bold indent section formattree docmodule docclass
  formatvalue docroutine docdata docproperty=pydoc:TextDoc.docdata docother", "objects repr=method",
  "holders _repr_instance=pydoc.TextRepr", "part _repr_instance.fillvalue '...'",
  "part _repr_instance.maxarray 5", "part _repr_instance.maxdeque 6",
  "part _repr_instance.maxdict 10", "part _repr_instance.maxfrozenset 6",
  "part _repr_instance.maxlevel 6", "part _repr_instance.maxlist 20",
  "part _repr_instance.maxlong 40", "part _repr_instance.maxother 100",
  "part _repr_instance.maxset 6", "part _repr_instance.maxstring 100",
  "part _repr_instance.maxtuple 20"]),
  ("pydoc.TextRepr", ["below reprlib.Repr", "functions __init__ repr1 repr_string
  repr_str=pydoc:TextRepr.repr_string repr_instance"]),
  ("pydoc._PlainTextDoc", ["below pydoc.TextDoc", "functions bold"]),
  ("rlcompleter.Completer", ["open", "functions __init__ complete _callable_postfix global_matches
  attr_matches", "silent"]),
  ("timeit.Timer", ["open", "functions __init__ print_exc timeit repeat autorange"]),
  ("trace.CoverageResults", ["open", "functions __init__ is_ignored_filename update write_results
  write_results_file", "silent"]),
  ("trace.Trace", ["open", "functions __init__ run runctx runfunc file_module_function_of
  globaltrace_trackcallers globaltrace_countfuncs globaltrace_lt localtrace_trace_and_count
  localtrace_trace localtrace_count results", "silent"]),
  ("trace._Ignore", ["open", "functions __init__ names", "silent"]),
  ("unittest._log._AssertLogsContext", ["below unittest.case._BaseTestCaseContext",
  "functions __init__ __enter__ __exit__",
  "constant LOGGING_FORMAT '%(levelname)s:%(name)s:%(message)s'"]),
  ("unittest._log._CapturingHandler", ["below logging.Handler", "functions __init__ flush emit"]),
  ("unittest._log._LoggingWatcher", ["below tuple",
  "functions _replace=collections:_LoggingWatcher._replace
  __repr__=collections:_LoggingWatcher.__repr__ _asdict=collections:_LoggingWatcher._asdict
  __getnewargs__=collections:_LoggingWatcher.__getnewargs__",
  "class-functions _make=collections:_LoggingWatcher._make",
  "statics __new__=namedtuple__LoggingWatcher:_LoggingWatcher.__new__",
  "objects records=_collections._tuplegetter output=_collections._tuplegetter",
  "constant __slots__ ()", "constant _fields ('records', 'output')",
  "constant _field_defaults \x7b\x7d", "constant __match_args__ ('records', 'output')"]),
  ("unittest.async_case.IsolatedAsyncioTestCase", ["below unittest.case.TestCase",
  "functions __init__ asyncSetUp asyncTearDown addAsyncCleanup enterAsyncContext _callSetUp
  _callTestMethod _callTearDown _callCleanup _callAsync _callMaybeAsync _setupAsyncioRunner
  _tearDownAsyncioRunner run debug __del__", "silent", "constant _classSetupFailed False",
  "constant _class_cleanups []"]),
  ("unittest.case.FunctionTestCase", ["below unittest.case.TestCase", "functions __init__ setUp
  tearDown runTest id __eq__ __hash__ __str__ __repr__ shortDescription",
  "constant _classSetupFailed False", "constant _class_cleanups []"]),
  ("unittest.case.SkipTest", ["below Exception", "open __weakref__"]),
  ("unittest.case.TestCase", ["open", "functions __init__ addTypeEqualityFunc addCleanup
  enterContext setUp tearDown countTestCases defaultTestResult shortDescription id __eq__ __hash__
  __str__ __repr__ subTest _addExpectedFailure _addUnexpectedSuccess _callSetUp _callTestMethod
  _callTearDown _callCleanup run doCleanups __call__ debug skipTest fail assertFalse assertTrue
  _formatMessage assertRaises assertWarns assertLogs assertNoLogs _getAssertEqualityFunc
  _baseAssertEqual assertEqual assertNotEqual assertAlmostEqual assertNotAlmostEqual
  assertSequenceEqual _truncateMessage assertListEqual assertTupleEqual assertSetEqual assertIn
  assertNotIn assertIs assertIsNot assertDictEqual assertDictContainsSubset assertCountEqual
  assertMultiLineEqual assertLess assertLessEqual assertGreater assertGreaterEqual assertIsNone
  assertIsNotNone assertIsInstance assertNotIsInstance assertRaisesRegex assertWarnsRegex
  assertRegex assertNotRegex _deprecate
  failUnlessEqual=unittest.case:TestCase._deprecate.<locals>.deprecated_func
  assertEquals=unittest.case:TestCase._deprecate.<locals>.deprecated_func
  failIfEqual=unittest.case:TestCase._deprecate.<locals>.deprecated_func
  assertNotEquals=unittest.case:TestCase._deprecate.<locals>.deprecated_func
  failUnlessAlmostEqual=unittest.case:TestCase._deprecate.<locals>.deprecated_func
  assertAlmostEquals=unittest.case:TestCase._deprecate.<locals>.deprecated_func
  failIfAlmostEqual=unittest.case:TestCase._deprecate.<locals>.deprecated_func
  assertNotAlmostEquals=unittest.case:TestCase._deprecate.<locals>.deprecated_func
  failUnless=unittest.case:TestCase._deprecate.<locals>.deprecated_func
  assert_=unittest.case:TestCase._deprecate.<locals>.deprecated_func
  failUnlessRaises=unittest.case:TestCase._deprecate.<locals>.deprecated_func
  failIf=unittest.case:TestCase._deprecate.<locals>.deprecated_func
  assertRaisesRegexp=unittest.case:TestCase._deprecate.<locals>.deprecated_func
  assertRegexpMatches=unittest.case:TestCase._deprecate.<locals>.deprecated_func
  assertNotRegexpMatches=unittest.case:TestCase._deprecate.<locals>.deprecated_func",
  "class-functions __init_subclass__ addClassCleanup enterClassContext setUpClass tearDownClass
  doClassCleanups", "classes failureException=AssertionError", "numbers maxDiff=640
  _diffThreshold=65536", "constant longMessage True", "part subTest.__wrapped__ object('function')",
  "part subTest.__dict__ \x7b'__wrapped__': object('function')\x7d"]),
  ("unittest.case._AssertRaisesBaseContext", ["below unittest.case._BaseTestCaseContext",
  "functions __init__ handle", "silent"]),
  ("unittest.case._AssertRaisesContext", ["below unittest.case._AssertRaisesBaseContext",
  "functions __enter__ __exit__", "class-functions __class_getitem__",
  "classes _base_type=BaseException",
  "constant _base_type_str 'an exception type or tuple of exception types'"]),
  ("unittest.case._AssertWarnsContext", ["below unittest.case._AssertRaisesBaseContext",
  "functions __enter__ __exit__", "classes _base_type=Warning",
  "constant _base_type_str 'a warning type or tuple of warning types'"]),
  ("unittest.case._BaseTestCaseContext", ["open", "functions __init__ _raiseFailure", "silent"]),
  ("unittest.case._OrderedChainMap", ["below collections.ChainMap", "kind abc.ABCMeta",
  "functions __iter__", "silent"]),
  ("unittest.case._Outcome", ["open", "functions __init__ testPartExecutor", "silent",
  "part testPartExecutor.__wrapped__ object('function')",
  "part testPartExecutor.__dict__ \x7b'__wrapped__': object('function')\x7d"]),
  ("unittest.case._ShouldStop", ["below Exception", "open __weakref__"]),
  ("unittest.case._SubTest", ["below unittest.case.TestCase", "functions __init__ runTest
  _subDescription id shortDescription __str__", "silent", "constant _classSetupFailed False",
  "constant _class_cleanups []"]),
  ("unittest.case._UnexpectedSuccess", ["below Exception", "open __weakref__"]),
  ("unittest.loader.TestLoader", ["open", "functions __init__ loadTestsFromTestCase
  loadTestsFromModule loadTestsFromName loadTestsFromNames getTestCaseNames discover
  _get_directory_containing_module _get_name_from_path _get_module_from_name _match_path _find_tests
  _find_test_path", "statics sortTestMethodsUsing=unittest.util:three_way_cmp",
  "classes suiteClass=unittest.suite.TestSuite", "constant testMethodPrefix 'test'",
  "constant testNamePatterns None", "constant _top_level_dir None"]),
  ("unittest.loader._FailedTest", ["below unittest.case.TestCase", "functions __init__ __getattr__",
  "constant _testMethodName None", "silent", "constant _classSetupFailed False",
  "constant _class_cleanups []"]),
  ("unittest.main.TestProgram", ["open", "functions __init__ usageExit _print_help parseArgs
  createTests _initArgParsers _getParentArgParser _getMainArgParser _getDiscoveryArgParser
  _do_discovery runTests", "numbers verbosity=1", "constant module None", "constant failfast None",
  "constant catchbreak None", "constant buffer None", "constant progName None",
  "constant warnings None", "constant testNamePatterns None", "constant _discovery_parser None"]),
  ("unittest.mock.AsyncMagicMixin", ["below unittest.mock.MagicMixin", "functions __init__",
  "silent"]),
  ("unittest.mock.AsyncMock", ["above unittest.mock.AsyncMockMixin unittest.mock.AsyncMagicMixin
  unittest.mock.MagicMixin unittest.mock.Mock unittest.mock.CallableMixin
  unittest.mock.NonCallableMock unittest.mock.Base object"]),
  ("unittest.mock.AsyncMockMixin", ["below unittest.mock.Base", "functions __init__
  _execute_mock_call assert_awaited assert_awaited_once assert_awaited_with assert_awaited_once_with
  assert_any_await assert_has_awaits assert_not_awaited reset_mock", "properties await_count
  await_args await_args_list", "silent", "part await_count.fget object('function')",
  "part await_count.fset object('function')", "part await_args.fget object('function')",
  "part await_args.fset object('function')", "part await_args_list.fget object('function')",
  "part await_args_list.fset object('function')"]),
  ("unittest.mock.Base", ["open", "functions __init__",
  "objects _mock_return_value=unittest.mock._SentinelObject", "constant _mock_side_effect None",
  "silent"]),
  ("unittest.mock.CallableMixin", ["below unittest.mock.Base", "functions __init__ _mock_check_sig
  __call__ _mock_call _increment_mock_call _execute_mock_call", "silent"]),
  ("unittest.mock.InvalidSpecError", ["below Exception", "open __weakref__"]),
  ("unittest.mock.MagicMixin", ["below unittest.mock.Base", "functions __init__ _mock_set_magics",
  "silent"]),
  ("unittest.mock.MagicMock", ["above unittest.mock.MagicMixin unittest.mock.Mock
  unittest.mock.CallableMixin unittest.mock.NonCallableMock unittest.mock.Base object",
  "functions mock_add_spec"]),
  ("unittest.mock.MagicProxy", ["below unittest.mock.Base", "functions __init__ create_mock
  __get__", "silent"]),
  ("unittest.mock.Mock", ["above unittest.mock.CallableMixin unittest.mock.NonCallableMock
  unittest.mock.Base object"]),
  ("unittest.mock.NonCallableMagicMock", ["above unittest.mock.MagicMixin
  unittest.mock.NonCallableMock unittest.mock.Base object", "functions mock_add_spec"]),
  ("unittest.mock.NonCallableMock", ["below unittest.mock.Base", "functions __init__ attach_mock
  mock_add_spec _mock_add_spec
  _NonCallableMock__get_return_value=unittest.mock:NonCallableMock.__get_return_value
  _NonCallableMock__set_return_value=unittest.mock:NonCallableMock.__set_return_value
  _NonCallableMock__get_side_effect=unittest.mock:NonCallableMock.__get_side_effect
  _NonCallableMock__set_side_effect=unittest.mock:NonCallableMock.__set_side_effect reset_mock
  configure_mock __getattr__ _extract_mock_name __repr__ __dir__ __setattr__ __delattr__
  _format_mock_call_signature _format_mock_failure_message _get_call_signature_from_name
  _call_matcher assert_not_called assert_called assert_called_once assert_called_with
  assert_called_once_with assert_has_calls assert_any_call _get_child_mock _calls_repr",
  "statics __new__", "properties return_value __class__ called call_count call_args call_args_list
  mock_calls side_effect", "objects _lock=_thread.RLock",
  "constant _NonCallableMock__return_value_doc 'The value to be returned when the mock is call",
  "|ed.'", "part return_value.fget object('function')", "part return_value.fset object('function')",
  "part return_value.fdel 'The value to be returned when the mock is called.'",
  "part called.fget object('function')", "part called.fset object('function')",
  "part call_count.fget object('function')", "part call_count.fset object('function')",
  "part call_args.fget object('function')", "part call_args.fset object('function')",
  "part call_args_list.fget object('function')", "part call_args_list.fset object('function')",
  "part mock_calls.fget object('function')", "part mock_calls.fset object('function')",
  "part side_effect.fget object('function')", "part side_effect.fset object('function')"]),
  ("unittest.mock.PropertyMock", ["below unittest.mock.Mock", "functions _get_child_mock __get__
  __set__"]),
  ("unittest.mock._ANY", ["open", "functions __eq__ __ne__ __repr__", "constant __hash__ None"]),
  ("unittest.mock._AnyComparer", ["below list", "open", "functions __contains__"]),
  ("unittest.mock._AsyncIterator", ["open", "functions __init__ __anext__"]),
  ("unittest.mock._Call", ["below tuple", "open __dict__", "functions __init__ __eq__ __call__
  __getattr__ __getattribute__ _get_call_arguments __repr__ call_list", "operations __ne__",
  "statics __new__", "properties args kwargs", "constant __hash__ None"]),
  ("unittest.mock._CallList", ["below list", "open", "functions __contains__ __repr__", "silent"]),
  ("unittest.mock._MockIter", ["open", "functions __init__ __next__", "silent"]),
  ("unittest.mock._Sentinel", ["open", "functions __init__ __getattr__ __reduce__"]),
  ("unittest.mock._SentinelObject", ["open", "functions __init__ __repr__ __reduce__"]),
  ("unittest.mock._SpecState", ["open", "functions __init__", "silent"]),
  ("unittest.mock._patch", ["open", "functions __init__ copy __call__ decorate_class
  decoration_helper decorate_callable decorate_async_callable get_original __enter__ __exit__ start
  stop", "constant attribute_name None", "constant _active_patches []", "silent",
  "part decoration_helper.__wrapped__ object('function')",
  "part decoration_helper.__dict__ \x7b'__wrapped__': object('function')\x7d"]),
  ("unittest.mock._patch_dict", ["open", "functions __init__ __call__ decorate_callable
  decorate_async_callable decorate_class __enter__ _patch_dict _unpatch_dict __exit__ start stop"]),
  ("unittest.result.TestResult", ["open", "functions __init__ printErrors startTest _setupStdout
  startTestRun stopTest _restoreStdout stopTestRun addError addFailure addSubTest addSuccess addSkip
  addExpectedFailure addUnexpectedSuccess wasSuccessful stop _exc_info_to_string _clean_tracebacks
  _is_relevant_tb_level _remove_unittest_tb_frames __repr__", "constant _previousTestClass None",
  "constant _testRunEntered False", "constant _moduleSetUpFailed False",
  "part *.__wrapped__ object('function')", "of addError addFailure addUnexpectedSuccess",
  "part *.__dict__ \x7b'__wrapped__': object('function')\x7d", "of addError addFailure
  addUnexpectedSuccess"]),
  ("unittest.runner.TextTestResult", ["below unittest.result.TestResult", "functions __init__
  getDescription startTest _write_status addSubTest addSuccess addError addFailure addSkip
  addExpectedFailure addUnexpectedSuccess printErrors printErrorList",
  "constant separator1 '======================================================================",
  "|'",
  "constant separator2 '----------------------------------------------------------------------",
  "|'"]),
  ("unittest.runner.TextTestRunner", ["open", "functions __init__ _makeResult run",
  "classes resultclass=unittest.runner.TextTestResult"]),
  ("unittest.runner._WritelnDecorator", ["open", "functions __init__ __getattr__ writeln"]),
  ("unittest.signals._InterruptHandler", ["open", "functions __init__ __call__", "silent"]),
  ("unittest.suite.BaseTestSuite", ["open", "functions __init__ __repr__ __eq__ __iter__
  countTestCases addTest addTests run _removeTestAtIndex __call__ debug", "constant _cleanup True",
  "constant __hash__ None"]),
  ("unittest.suite.TestSuite", ["below unittest.suite.BaseTestSuite", "functions run debug
  _handleClassSetUp _get_previous_module _handleModuleFixture _createClassOrModuleLevelException
  _addClassOrModuleLevelException _handleModuleTearDown _tearDownPreviousClass"]),
  ("unittest.suite._DebugResult", ["open", "constant _previousTestClass None",
  "constant _moduleSetUpFailed False", "constant shouldStop False"]),
  ("unittest.suite._ErrorHolder", ["open", "functions __init__ id shortDescription __repr__ __str__
  run __call__ countTestCases", "constant failureException None"]),
  ("unittest.util.Mismatch", ["below tuple", "functions _replace __repr__ _asdict __getnewargs__",
  "class-functions _make", "statics __new__", "objects actual=_collections._tuplegetter
  expected=_collections._tuplegetter value=_collections._tuplegetter", "constant __slots__ ()",
  "constant _fields ('actual', 'expected', 'value')", "constant _field_defaults \x7b\x7d",
  "constant __match_args__ ('actual', 'expected', 'value')"]),
  ("venv.EnvBuilder", ["open", "functions __init__ create clear_directory _venv_path
  ensure_directories create_configuration symlink_or_copy setup_python _call_new_python _setup_pip
  setup_scripts post_setup replace_variables install_scripts upgrade_dependencies"])]

end FragmentWeaver.Standard
