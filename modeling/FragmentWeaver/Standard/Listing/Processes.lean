/-!
# Listing: processes, threads and events

What stands in the modules and classes for processes, threads and events.
-/

namespace FragmentWeaver.Standard

/-- The modules for processes, threads and events. -/
def processesModules : List (String × List String) := [
  ("_asyncio", ["extension", "builtins _enter_task _get_event_loop _get_running_loop _leave_task
  _register_task _set_running_loop _unregister_task get_event_loop get_running_loop",
  "classes Future Task", "same _all_tasks=asyncio.tasks.", "constant _current_tasks \x7b\x7d"]),
  ("_multiprocessing", ["extension", "builtins sem_unlink", "classes SemLock",
  "constant __doc__ None", "constant flags \x7b'HAVE_SEM_OPEN': 1, 'HAVE_SEM_TIMEDWAIT': 1\x7d"]),
  ("_posixsubprocess", ["built-in", "builtins fork_exec"]),
  ("_signal", ["built-in", "builtins alarm default_int_handler getitimer getsignal pause
  pidfd_send_signal pthread_kill pthread_sigmask raise_signal set_wakeup_fd setitimer siginterrupt
  signal sigpending sigtimedwait sigwait sigwaitinfo strsignal valid_signals",
  "classes ItimerError=signal.itimer_error struct_siginfo=signal.", "numbers ITIMER_PROF=2
  ITIMER_REAL=0 ITIMER_VIRTUAL=1 NSIG=65 SIGABRT=6 SIGALRM=14 SIGBUS=7 SIGCHLD=17 SIGCLD=17
  SIGCONT=18 SIGFPE=8 SIGHUP=1 SIGILL=4 SIGINT=2 SIGIO=29 SIGIOT=6 SIGKILL=9 SIGPIPE=13 SIGPOLL=29
  SIGPROF=27 SIGPWR=30 SIGQUIT=3 SIGRTMAX=64 SIGRTMIN=34 SIGSEGV=11 SIGSTKFLT=16 SIGSTOP=19
  SIGSYS=31 SIGTERM=15 SIGTRAP=5 SIGTSTP=20 SIGTTIN=21 SIGTTOU=22 SIGURG=23 SIGUSR1=10 SIGUSR2=12
  SIGVTALRM=26 SIGWINCH=28 SIGXCPU=24 SIGXFSZ=25 SIG_BLOCK=0 SIG_DFL=0 SIG_IGN=1 SIG_SETMASK=2
  SIG_UNBLOCK=1"]),
  ("_thread", ["built-in", "builtins _count _excepthook _set_sentinel allocate allocate_lock exit
  exit_thread get_ident get_native_id interrupt_main stack_size start_new start_new_thread",
  "classes LockType=_thread.lock RLock _ExceptHookArgs _local error=RuntimeError",
  "constant TIMEOUT_MAX 9223372036.0"]),
  ("_threading_local", ["functions RLock=threading: _patch contextmanager=contextlib:
  current_thread=threading:", "classes _localimpl local ref=weakref.ReferenceType", "exports local",
  "part _patch.__wrapped__ object('function')",
  "part _patch.__dict__ \x7b'__wrapped__': object('function')\x7d"]),
  ("asynchat", ["functions _deprecated=warnings: find_prefix_at_end", "classes async_chat
  deque=collections. simple_producer", "modules asyncore=",
  "constant _DEPRECATION_MSG 'The \x7bname\x7d module is deprecated and will be removed in Pyt",
  "|hon \x7bremove\x7d. The recommended replacement is asyncio'",
  "constant __warningregistry__ \x7b'version': 1\x7d"]),
  ("asyncio", ["package", "functions all_tasks=asyncio.tasks: as_completed=asyncio.tasks:
  create_subprocess_exec=asyncio.subprocess: create_subprocess_shell=asyncio.subprocess:
  create_task=asyncio.tasks: current_task=asyncio.tasks: ensure_future=asyncio.tasks:
  gather=asyncio.tasks: get_child_watcher=asyncio.events: get_event_loop_policy=asyncio.events:
  iscoroutine=asyncio.coroutines: iscoroutinefunction=asyncio.coroutines:
  isfuture=asyncio.base_futures: new_event_loop=asyncio.events: open_connection=asyncio.streams:
  open_unix_connection=asyncio.streams: run=asyncio.runners: run_coroutine_threadsafe=asyncio.tasks:
  set_child_watcher=asyncio.events: set_event_loop=asyncio.events:
  set_event_loop_policy=asyncio.events: shield=asyncio.tasks: sleep=asyncio.tasks:
  start_server=asyncio.streams: start_unix_server=asyncio.streams: timeout=asyncio.timeouts:
  timeout_at=asyncio.timeouts: to_thread=asyncio.threads: wait=asyncio.tasks:
  wait_for=asyncio.tasks: wrap_future=asyncio.futures:", "builtins _enter_task=_asyncio:
  _get_running_loop=_asyncio: _leave_task=_asyncio: _register_task=_asyncio:
  _set_running_loop=_asyncio: _unregister_task=_asyncio: get_event_loop=_asyncio:
  get_running_loop=_asyncio:", "classes AbstractChildWatcher=asyncio.unix_events.
  AbstractEventLoop=asyncio.events. AbstractEventLoopPolicy=asyncio.events.
  AbstractServer=asyncio.events. Barrier=asyncio.locks. BaseEventLoop=asyncio.base_events.
  BaseProtocol=asyncio.protocols. BaseTransport=asyncio.transports. BoundedSemaphore=asyncio.locks.
  BrokenBarrierError=asyncio.exceptions. BufferedProtocol=asyncio.protocols.
  CancelledError=asyncio.exceptions. Condition=asyncio.locks. DatagramProtocol=asyncio.protocols.
  DatagramTransport=asyncio.transports.
  DefaultEventLoopPolicy=asyncio.unix_events._UnixDefaultEventLoopPolicy Event=asyncio.locks.
  FastChildWatcher=asyncio.unix_events. Future=_asyncio. Handle=asyncio.events.
  IncompleteReadError=asyncio.exceptions. InvalidStateError=asyncio.exceptions.
  LifoQueue=asyncio.queues. LimitOverrunError=asyncio.exceptions. Lock=asyncio.locks.
  MultiLoopChildWatcher=asyncio.unix_events. PidfdChildWatcher=asyncio.unix_events.
  PriorityQueue=asyncio.queues. Protocol=asyncio.protocols. Queue=asyncio.queues.
  QueueEmpty=asyncio.queues. QueueFull=asyncio.queues. ReadTransport=asyncio.transports.
  Runner=asyncio.runners. SafeChildWatcher=asyncio.unix_events.
  SelectorEventLoop=asyncio.unix_events._UnixSelectorEventLoop Semaphore=asyncio.locks.
  SendfileNotAvailableError=asyncio.exceptions. Server=asyncio.base_events.
  StreamReader=asyncio.streams. StreamReaderProtocol=asyncio.streams. StreamWriter=asyncio.streams.
  SubprocessProtocol=asyncio.protocols. SubprocessTransport=asyncio.transports. Task=_asyncio.
  TaskGroup=asyncio.taskgroups. ThreadedChildWatcher=asyncio.unix_events. Timeout=asyncio.timeouts.
  TimeoutError= TimerHandle=asyncio.events. Transport=asyncio.transports.
  WriteTransport=asyncio.transports.", "modules base_events base_futures base_subprocess base_tasks
  constants coroutines events exceptions format_helpers futures locks log mixins protocols queues
  runners selector_events sslproto staggered streams subprocess sys= taskgroups tasks threads
  timeouts transports trsock unix_events", "constant ALL_COMPLETED 'ALL_COMPLETED'",
  "constant FIRST_COMPLETED 'FIRST_COMPLETED'", "constant FIRST_EXCEPTION 'FIRST_EXCEPTION'",
  "constant __all__ ('BaseEventLoop', 'Server', 'iscoroutinefunction', 'iscoroutine', 'Abstrac",
  "|tEventLoopPolicy', 'AbstractEventLoop', 'AbstractServer', 'Handle', 'TimerHandle', 'get_ev",
  "|ent_loop_policy', 'set_event_loop_policy', 'get_event_loop', 'set_event_loop', 'new_event_",
  "|loop', 'get_child_watcher', 'set_child_watcher', '_set_running_loop', 'get_running_loop', ",
  "|'_get_running_loop', 'BrokenBarrierError', 'CancelledError', 'InvalidStateError', 'Timeout",
  "|Error', 'IncompleteReadError', 'LimitOverrunError', 'SendfileNotAvailableError', 'Future',",
  "| 'wrap_future', 'isfuture', 'Lock', 'Event', 'Condition', 'Semaphore', 'BoundedSemaphore',",
  "| 'Barrier', 'BaseProtocol', 'Protocol', 'DatagramProtocol', 'SubprocessProtocol', 'Buffere",
  "|dProtocol', 'Runner', 'run', 'Queue', 'PriorityQueue', 'LifoQueue', 'QueueFull', 'QueueEmp",
  "|ty', 'StreamReader', 'StreamWriter', 'StreamReaderProtocol', 'open_connection', 'start_ser",
  "|ver', 'open_unix_connection', 'start_unix_server', 'create_subprocess_exec', 'create_subpr",
  "|ocess_shell', 'Task', 'create_task', 'FIRST_COMPLETED', 'FIRST_EXCEPTION', 'ALL_COMPLETED'",
  "|, 'wait', 'wait_for', 'as_completed', 'sleep', 'gather', 'shield', 'ensure_future', 'run_c",
  "|oroutine_threadsafe', 'current_task', 'all_tasks', '_register_task', '_unregister_task', '",
  "|_enter_task', '_leave_task', 'to_thread', 'Timeout', 'timeout', 'timeout_at', 'BaseTranspo",
  "|rt', 'ReadTransport', 'WriteTransport', 'Transport', 'DatagramTransport', 'SubprocessTrans",
  "|port', 'SelectorEventLoop', 'AbstractChildWatcher', 'SafeChildWatcher', 'FastChildWatcher'",
  "|, 'PidfdChildWatcher', 'MultiLoopChildWatcher', 'ThreadedChildWatcher', 'DefaultEventLoopP",
  "|olicy')"]),
  ("asyncio.base_events", ["functions _check_ssl_socket _format_handle _format_pipe
  _interleave_addrinfos _ipaddr_info _run_until_complete_cb _set_nodelay _set_reuseport",
  "classes BaseEventLoop Server _SendfileFallbackProtocol", "holders logger=logging.Logger",
  "modules collections= concurrent= constants=asyncio. coroutines=asyncio. errno= events=asyncio.
  exceptions=asyncio. functools= futures=asyncio. heapq= itertools= os= protocols=asyncio. socket=
  ssl= sslproto=asyncio. staggered=asyncio. stat= subprocess= sys= tasks=asyncio. threading= time=
  traceback= transports=asyncio. trsock=asyncio. warnings= weakref=",
  "numbers MAXIMUM_SELECT_TIMEOUT=86400 _MIN_SCHEDULED_TIMER_HANDLES=100",
  "constant _HAS_IPv6 True", "constant _MIN_CANCELLED_TIMER_HANDLES_FRACTION 0.5",
  "constant __all__ ('BaseEventLoop', 'Server')", "part logger.disabled False",
  "part logger.filters []", "part logger.level 0", "part logger.name 'asyncio'",
  "part logger.propagate True"]),
  ("asyncio.base_futures", ["functions _format_callbacks _future_repr _future_repr_info isfuture",
  "builtins get_ident=_thread:", "modules format_helpers=asyncio. reprlib=",
  "constant _CANCELLED 'CANCELLED'", "constant _FINISHED 'FINISHED'", "constant _PENDING 'PENDING'",
  "constant __all__ ()", "constant __doc__ None"]),
  ("asyncio.base_subprocess", ["classes BaseSubprocessTransport ReadSubprocessPipeProto
  WriteSubprocessPipeProto", "same logger=asyncio.base_events.", "modules collections=
  protocols=asyncio. subprocess= transports=asyncio. warnings=", "constant __doc__ None"]),
  ("asyncio.base_tasks", ["functions _task_get_stack _task_print_stack _task_repr _task_repr_info",
  "modules base_futures=asyncio. coroutines=asyncio. linecache= reprlib= traceback=",
  "constant __doc__ None"]),
  ("asyncio.constants", ["classes _SendfileMode", "modules enum=", "numbers ACCEPT_RETRY_DELAY=1
  DEBUG_STACK_DEPTH=10 FLOW_CONTROL_HIGH_WATER_SSL_READ=256 FLOW_CONTROL_HIGH_WATER_SSL_WRITE=512
  LOG_THRESHOLD_FOR_CONNLOST_WRITES=5 SENDFILE_FALLBACK_READBUFFER_SIZE=262144",
  "constant SSL_HANDSHAKE_TIMEOUT 60.0", "constant SSL_SHUTDOWN_TIMEOUT 30.0",
  "constant __doc__ None"]),
  ("asyncio.coroutines", ["functions _format_coroutine _is_debug_mode iscoroutine
  iscoroutinefunction", "objects _is_coroutine=object _iscoroutine_typecache=set",
  "modules collections= inspect= os= sys= traceback= types=",
  "constant _COROUTINE_TYPES (coroutine, generator, collections.abc.Coroutine)",
  "constant __all__ ('iscoroutinefunction', 'iscoroutine')", "constant __doc__ None"]),
  ("asyncio.events", ["functions _init_event_loop_policy
  _py__get_event_loop=asyncio.events:_get_event_loop
  _py__get_running_loop=asyncio.events:_get_running_loop
  _py__set_running_loop=asyncio.events:_set_running_loop
  _py_get_event_loop=asyncio.events:get_event_loop
  _py_get_running_loop=asyncio.events:get_running_loop get_child_watcher get_event_loop_policy
  new_event_loop set_child_watcher set_event_loop set_event_loop_policy",
  "builtins _c__get_event_loop=_asyncio:_get_event_loop
  _c__get_running_loop=_asyncio:_get_running_loop _c__set_running_loop=_asyncio:_set_running_loop
  _c_get_event_loop=_asyncio:get_event_loop _c_get_running_loop=_asyncio:get_running_loop
  _get_event_loop=_asyncio: _get_running_loop=_asyncio: _set_running_loop=_asyncio:
  get_event_loop=_asyncio: get_running_loop=_asyncio:", "classes AbstractEventLoop
  AbstractEventLoopPolicy AbstractServer BaseDefaultEventLoopPolicy Handle TimerHandle
  _RunningLoop", "objects _lock=_thread.lock _running_loop=asyncio.events._RunningLoop",
  "modules contextvars= format_helpers=asyncio. os= socket= subprocess= sys= threading=",
  "constant __all__ ('AbstractEventLoopPolicy', 'AbstractEventLoop', 'AbstractServer', 'Handle",
  "|', 'TimerHandle', 'get_event_loop_policy', 'set_event_loop_policy', 'get_event_loop', 'set",
  "|_event_loop', 'new_event_loop', 'get_child_watcher', 'set_child_watcher', '_set_running_lo",
  "|op', 'get_running_loop', '_get_running_loop')", "constant _event_loop_policy None"]),
  ("asyncio.exceptions", ["classes BrokenBarrierError CancelledError IncompleteReadError
  InvalidStateError LimitOverrunError SendfileNotAvailableError TimeoutError=",
  "constant __all__ ('BrokenBarrierError', 'CancelledError', 'InvalidStateError', 'TimeoutErro",
  "|r', 'IncompleteReadError', 'LimitOverrunError', 'SendfileNotAvailableError')"]),
  ("asyncio.format_helpers", ["functions _format_args_and_kwargs _format_callback
  _format_callback_source _get_function_source extract_stack", "modules constants=asyncio.
  functools= inspect= reprlib= sys= traceback=", "constant __doc__ None"]),
  ("asyncio.futures", ["functions _chain_future _convert_future_exc _copy_future_state _get_loop
  _set_concurrent_future_state _set_result_unless_cancelled isfuture=asyncio.base_futures:
  wrap_future", "classes Future=_asyncio. GenericAlias=types. _CFuture=_asyncio.Future
  _PyFuture=asyncio.futures.Future", "modules _asyncio= base_futures=asyncio. concurrent=
  contextvars= events=asyncio. exceptions=asyncio. format_helpers=asyncio. logging= sys=",
  "numbers STACK_DEBUG=9", "constant _CANCELLED 'CANCELLED'", "constant _FINISHED 'FINISHED'",
  "constant _PENDING 'PENDING'", "constant __all__ ('Future', 'wrap_future', 'isfuture')"]),
  ("asyncio.locks", ["classes Barrier BoundedSemaphore Condition Event Lock Semaphore _BarrierState
  _ContextManagerMixin", "modules collections= enum= exceptions=asyncio. mixins=asyncio.
  tasks=asyncio.",
  "constant __all__ ('Lock', 'Event', 'Condition', 'Semaphore', 'BoundedSemaphore', 'Barrier')"]),
  ("asyncio.log", ["same logger=asyncio.base_events.", "modules logging="]),
  ("asyncio.mixins", ["classes _LoopBoundMixin", "objects _global_lock=_thread.lock",
  "modules events=asyncio. threading="]),
  ("asyncio.proactor_events", ["functions _set_socket_extra", "classes BaseProactorEventLoop
  _ProactorBasePipeTransport _ProactorBaseWritePipeTransport _ProactorDatagramTransport
  _ProactorDuplexPipeTransport _ProactorReadPipeTransport _ProactorSocketTransport
  _ProactorWritePipeTransport", "same logger=asyncio.base_events.", "modules base_events=asyncio.
  collections= constants=asyncio. exceptions=asyncio. futures=asyncio. io= os= protocols=asyncio.
  signal= socket= sslproto=asyncio. threading= transports=asyncio. trsock=asyncio. warnings=",
  "constant __all__ ('BaseProactorEventLoop',)"]),
  ("asyncio.protocols", ["functions _feed_data_to_buffered_proto", "classes BaseProtocol
  BufferedProtocol DatagramProtocol Protocol SubprocessProtocol",
  "constant __all__ ('BaseProtocol', 'Protocol', 'DatagramProtocol', 'SubprocessProtocol', 'Bu",
  "|fferedProtocol')"]),
  ("asyncio.queues", ["classes GenericAlias=types. LifoQueue PriorityQueue Queue QueueEmpty
  QueueFull", "modules collections= heapq= locks=asyncio. mixins=asyncio.",
  "constant __all__ ('Queue', 'PriorityQueue', 'LifoQueue', 'QueueFull', 'QueueEmpty')",
  "constant __doc__ None"]),
  ("asyncio.runners", ["functions _cancel_all_tasks run", "classes Runner _State",
  "modules contextvars= coroutines=asyncio. enum= events=asyncio. exceptions=asyncio. functools=
  signal= sys= tasks=asyncio. threading=", "constant __all__ ('Runner', 'run')",
  "constant __doc__ None"]),
  ("asyncio.selector_events", ["functions _test_selector_event", "classes BaseSelectorEventLoop
  _SelectorDatagramTransport _SelectorSocketTransport _SelectorTransport",
  "same logger=asyncio.base_events.", "modules base_events=asyncio. collections= constants=asyncio.
  errno= events=asyncio. functools= futures=asyncio. protocols=asyncio. selectors= socket= ssl=
  sslproto=asyncio. transports=asyncio. trsock=asyncio. warnings= weakref=",
  "constant __all__ ('BaseSelectorEventLoop',)"]),
  ("asyncio.sslproto", ["functions _create_transport_context add_flowcontrol_defaults",
  "classes AppProtocolState SSLProtocol SSLProtocolState _SSLProtocolTransport",
  "same logger=asyncio.base_events.", "modules collections= constants=asyncio. enum=
  exceptions=asyncio. protocols=asyncio. ssl= transports=asyncio. warnings=",
  "constant SSLAgainErrors (ssl.SSLWantReadError, ssl.SSLSyscallError)", "constant __doc__ None"]),
  ("asyncio.staggered", ["functions staggered_race", "modules contextlib= events=asyncio.
  exceptions_mod=asyncio.exceptions locks=asyncio. tasks=asyncio. typing=",
  "constant __all__ ('staggered_race',)"]),
  ("asyncio.streams", ["functions open_connection open_unix_connection sleep=asyncio.tasks:
  start_server start_unix_server", "classes FlowControlMixin StreamReader StreamReaderProtocol
  StreamWriter", "same logger=asyncio.base_events.", "modules collections= coroutines=asyncio.
  events=asyncio. exceptions=asyncio. format_helpers=asyncio. protocols=asyncio. socket= sys=
  weakref=", "numbers _DEFAULT_LIMIT=65536",
  "constant __all__ ('StreamReader', 'StreamWriter', 'StreamReaderProtocol', 'open_connection'",
  "|, 'start_server', 'open_unix_connection', 'start_unix_server')", "constant __doc__ None"]),
  ("asyncio.subprocess", ["functions create_subprocess_exec create_subprocess_shell",
  "classes Process SubprocessStreamProtocol", "same logger=asyncio.base_events.",
  "modules events=asyncio. protocols=asyncio. streams=asyncio. subprocess= tasks=asyncio.",
  "numbers DEVNULL=-3 PIPE=-1 STDOUT=-2",
  "constant __all__ ('create_subprocess_exec', 'create_subprocess_shell')",
  "constant __doc__ None"]),
  ("asyncio.taskgroups", ["classes TaskGroup", "modules events=asyncio. exceptions=asyncio.
  tasks=asyncio.", "constant __doc__ None", "exports TaskGroup"]),
  ("asyncio.tasks", ["functions __sleep0 _cancel_and_wait _ensure_future
  _py_enter_task=asyncio.tasks:_enter_task _py_leave_task=asyncio.tasks:_leave_task
  _py_register_task=asyncio.tasks:_register_task _py_unregister_task=asyncio.tasks:_unregister_task
  _release_waiter _set_task_name _wait _wrap_awaitable all_tasks as_completed create_task
  current_task ensure_future gather run_coroutine_threadsafe shield sleep wait wait_for",
  "builtins _c_enter_task=_asyncio:_enter_task _c_leave_task=_asyncio:_leave_task
  _c_register_task=_asyncio:_register_task _c_unregister_task=_asyncio:_unregister_task
  _enter_task=_asyncio: _leave_task=_asyncio: _register_task=_asyncio: _unregister_task=_asyncio:",
  "classes GenericAlias=types. Task=_asyncio. _CTask=_asyncio.Task _GatheringFuture
  _PyTask=asyncio.tasks.Task", "objects _is_coroutine=object _task_name_counter=method-wrapper",
  "holders _all_tasks=_weakrefset.WeakSet", "modules _asyncio= base_tasks=asyncio. concurrent=
  contextvars= coroutines=asyncio. events=asyncio. exceptions=asyncio. functools= futures=asyncio.
  inspect= itertools= types= warnings= weakref=", "constant ALL_COMPLETED 'ALL_COMPLETED'",
  "constant FIRST_COMPLETED 'FIRST_COMPLETED'", "constant FIRST_EXCEPTION 'FIRST_EXCEPTION'",
  "constant __all__ ('Task', 'create_task', 'FIRST_COMPLETED', 'FIRST_EXCEPTION', 'ALL_COMPLET",
  "|ED', 'wait', 'wait_for', 'as_completed', 'sleep', 'gather', 'shield', 'ensure_future', 'ru",
  "|n_coroutine_threadsafe', 'current_task', 'all_tasks', '_register_task', '_unregister_task'",
  "|, '_enter_task', '_leave_task')", "constant _current_tasks \x7b\x7d",
  "part _wrap_awaitable._is_coroutine object('object')",
  "part _wrap_awaitable.__dict__ \x7b'_is_coroutine': object('object')\x7d",
  "part _all_tasks._iterating object('set')", "part _all_tasks._pending_removals []",
  "part _all_tasks.data object('set')",
  "part _all_tasks.__dict__ \x7b'data': object('set'), '_remove': object('function'), '_pendin",
  "|g_removals': [], '_iterating': object('set')\x7d"]),
  ("asyncio.threads", ["functions to_thread", "modules contextvars= events=asyncio. functools=",
  "constant __all__ ('to_thread',)"]),
  ("asyncio.timeouts", ["functions final=typing: timeout timeout_at", "classes Timeout
  TracebackType=traceback _State", "objects Optional=typing._SpecialForm
  Type=typing._SpecialGenericAlias", "modules enum= events=asyncio. exceptions=asyncio.
  tasks=asyncio.", "constant __all__ ('Timeout', 'timeout', 'timeout_at')",
  "constant __doc__ None"]),
  ("asyncio.transports", ["classes BaseTransport DatagramTransport ReadTransport SubprocessTransport
  Transport WriteTransport _FlowControlMixin",
  "constant __all__ ('BaseTransport', 'ReadTransport', 'WriteTransport', 'Transport', 'Datagra",
  "|mTransport', 'SubprocessTransport')"]),
  ("asyncio.trsock", ["classes TransportSocket", "modules socket=", "constant __doc__ None"]),
  ("asyncio.unix_events", ["functions _sighandler_noop waitstatus_to_exitcode",
  "classes AbstractChildWatcher BaseChildWatcher
  DefaultEventLoopPolicy=asyncio.unix_events._UnixDefaultEventLoopPolicy FastChildWatcher
  MultiLoopChildWatcher PidfdChildWatcher SafeChildWatcher
  SelectorEventLoop=asyncio.unix_events._UnixSelectorEventLoop ThreadedChildWatcher
  _UnixDefaultEventLoopPolicy _UnixReadPipeTransport _UnixSelectorEventLoop _UnixSubprocessTransport
  _UnixWritePipeTransport", "same logger=asyncio.base_events.", "modules base_events=asyncio.
  base_subprocess=asyncio. constants=asyncio. coroutines=asyncio. errno= events=asyncio.
  exceptions=asyncio. futures=asyncio. io= itertools= os= selector_events=asyncio. selectors=
  signal= socket= stat= subprocess= sys= tasks=asyncio. threading= transports=asyncio. warnings=",
  "constant __all__ ('SelectorEventLoop', 'AbstractChildWatcher', 'SafeChildWatcher', 'FastChi",
  "|ldWatcher', 'PidfdChildWatcher', 'MultiLoopChildWatcher', 'ThreadedChildWatcher', 'Default",
  "|EventLoopPolicy')"]),
  ("asyncore", ["functions _exception _strerror close_all compact_traceback loop poll poll2
  poll3=asyncore:poll2 read readwrite write", "classes ExitNow dispatcher dispatcher_with_send
  file_dispatcher file_wrapper", "objects _DISCONNECTED=frozenset", "modules os= select= socket=
  sys= time= warnings=", "numbers EAGAIN=11 EALREADY=114 EBADF=9 ECONNABORTED=103 ECONNRESET=104
  EINPROGRESS=115 EINVAL=22 EISCONN=106 ENOTCONN=107 EPIPE=32 ESHUTDOWN=108 EWOULDBLOCK=11",
  "constant _reraised_exceptions (asyncore.ExitNow, KeyboardInterrupt, SystemExit)",
  "constant socket_map \x7b\x7d", "same _DEPRECATION_MSG=asynchat. errorcode=errno."]),
  ("concurrent", ["package", "constant __doc__ None"]),
  ("concurrent.futures", ["package", "functions __dir__ __getattr__
  as_completed=concurrent.futures._base: wait=concurrent.futures._base:",
  "classes BrokenExecutor=concurrent.futures._base. CancelledError=concurrent.futures._base.
  Executor=concurrent.futures._base. Future=concurrent.futures._base.
  InvalidStateError=concurrent.futures._base. TimeoutError=", "modules _base",
  "constant ALL_COMPLETED 'ALL_COMPLETED'", "constant FIRST_COMPLETED 'FIRST_COMPLETED'",
  "constant FIRST_EXCEPTION 'FIRST_EXCEPTION'",
  "constant __all__ ('FIRST_COMPLETED', 'FIRST_EXCEPTION', 'ALL_COMPLETED', 'CancelledError', ",
  "|'TimeoutError', 'BrokenExecutor', 'Future', 'Executor', 'wait', 'as_completed', 'ProcessPo",
  "|olExecutor', 'ThreadPoolExecutor')",
  "constant __author__ 'Brian Quinlan (brian\\x40sweetapp.com)'",
  "classes ProcessPoolExecutor=concurrent.futures.process.
  ThreadPoolExecutor=concurrent.futures.thread.",
  "same ProcessPoolExecutor=concurrent.futures.process.
  ThreadPoolExecutor=concurrent.futures.thread."]),
  ("concurrent.futures._base", ["functions _create_and_install_waiters _result_or_cancel
  _yield_finished_futures as_completed wait", "classes BrokenExecutor CancelledError
  DoneAndNotDoneFutures Error Executor Future InvalidStateError TimeoutError= _AcquireFutures
  _AllCompletedWaiter _AsCompletedWaiter _FirstCompletedWaiter _Waiter",
  "holders LOGGER=logging.Logger", "modules collections= logging= threading= time= types=",
  "constant ALL_COMPLETED 'ALL_COMPLETED'", "constant CANCELLED 'CANCELLED'",
  "constant CANCELLED_AND_NOTIFIED 'CANCELLED_AND_NOTIFIED'", "constant FINISHED 'FINISHED'",
  "constant FIRST_COMPLETED 'FIRST_COMPLETED'", "constant FIRST_EXCEPTION 'FIRST_EXCEPTION'",
  "constant PENDING 'PENDING'", "constant RUNNING 'RUNNING'",
  "constant _AS_COMPLETED '_AS_COMPLETED'",
  "constant _FUTURE_STATES ['PENDING', 'RUNNING', 'CANCELLED', 'CANCELLED_AND_NOTIFIED', 'FINI",
  "|SHED']",
  "constant _STATE_TO_DESCRIPTION_MAP \x7b'PENDING': 'pending', 'RUNNING': 'running', 'CANCELL",
  "|ED': 'cancelled', 'CANCELLED_AND_NOTIFIED': 'cancelled', 'FINISHED': 'finished'\x7d",
  "constant __author__ 'Brian Quinlan (brian\\x40sweetapp.com)'", "constant __doc__ None",
  "part LOGGER.disabled False", "part LOGGER.filters []", "part LOGGER.level 0",
  "part LOGGER.name 'concurrent.futures'", "part LOGGER.propagate True"]),
  ("concurrent.futures.process", ["brings __mp_main__", "functions _chain_from_iterable_of_lists
  _check_system_limits _get_chunks _process_chunk _process_worker _python_exit _rebuild_exc
  _sendback_result format_exception=traceback:", "classes BrokenProcessPool ProcessPoolExecutor
  Queue=multiprocessing.queues. _CallItem _ExceptionWithTraceback _ExecutorManagerThread
  _RemoteTraceback _ResultItem _SafeQueue _ThreadWakeup _WorkItem partial=functools.",
  "holders _threads_wakeups=weakref.WeakKeyDictionary", "modules _base=concurrent.futures.
  itertools= mp=multiprocessing multiprocessing= os= queue= sys= threading= weakref=",
  "numbers EXTRA_QUEUED_CALLS=1 _MAX_WINDOWS_WORKERS=61",
  "constant __author__ 'Brian Quinlan (brian\\x40sweetapp.com)'", "constant _global_shutdown False",
  "constant _system_limited None", "constant _system_limits_checked False",
  "part _threads_wakeups._dirty_len False", "part _threads_wakeups._iterating object('set')",
  "part _threads_wakeups._pending_removals []", "part _threads_wakeups.data \x7b\x7d",
  "part _threads_wakeups.__dict__ \x7b'data': \x7b\x7d, '_remove': object('function'), '_pendi",
  "|ng_removals': [], '_iterating': object('set'), '_dirty_len': False\x7d"]),
  ("concurrent.futures.thread", ["functions _python_exit _worker", "classes BrokenThreadPool
  ThreadPoolExecutor _WorkItem", "objects _global_shutdown_lock=_thread.lock",
  "holders _threads_queues=weakref.WeakKeyDictionary", "modules _base=concurrent.futures. itertools=
  os= queue= threading= types= weakref=",
  "constant __author__ 'Brian Quinlan (brian\\x40sweetapp.com)'", "constant _shutdown False",
  "part _threads_queues._dirty_len False", "part _threads_queues._iterating object('set')",
  "part _threads_queues._pending_removals []", "part _threads_queues.data \x7b\x7d",
  "part _threads_queues.__dict__ \x7b'data': \x7b\x7d, '_remove': object('function'), '_pendin",
  "|g_removals': [], '_iterating': object('set'), '_dirty_len': False\x7d"]),
  ("multiprocessing", ["package", "brings __mp_main__",
  "functions active_children=multiprocessing.process: current_process=multiprocessing.process:
  parent_process=multiprocessing.process:", "classes AuthenticationError=multiprocessing.context.
  BufferTooShort=multiprocessing.context. Process=multiprocessing.context.
  ProcessError=multiprocessing.context. TimeoutError=multiprocessing.context.",
  "objects Array=method Barrier=method BoundedSemaphore=method Condition=method Event=method
  JoinableQueue=method Lock=method Manager=method Pipe=method Pool=method Queue=method RLock=method
  RawArray=method RawValue=method Semaphore=method SimpleQueue=method Value=method
  allow_connection_pickling=method cpu_count=method freeze_support=method
  get_all_start_methods=method get_context=method get_logger=method get_start_method=method
  log_to_stderr=method set_executable=method set_forkserver_preload=method set_start_method=method",
  "modules context process reducer=multiprocessing.reduction reduction sys=", "numbers SUBDEBUG=5
  SUBWARNING=25", "constant __doc__ None", "exports Array AuthenticationError Barrier
  BoundedSemaphore BufferTooShort Condition Event JoinableQueue Lock Manager Pipe Pool Process
  ProcessError Queue RLock RawArray RawValue Semaphore SimpleQueue TimeoutError Value
  active_children allow_connection_pickling cpu_count current_process freeze_support
  get_all_start_methods get_context get_logger get_start_method log_to_stderr parent_process reducer
  set_executable set_forkserver_preload set_start_method"]),
  ("multiprocessing.connection", ["brings __mp_main__", "functions Client Pipe SocketClient
  XmlClient _check_timeout _init_timeout _validate_family _xml_dumps _xml_loads address_type
  answer_challenge arbitrary_address deliver_challenge rebuild_connection reduce_connection wait",
  "classes AuthenticationError=multiprocessing.context. BufferTooShort=multiprocessing.context.
  Connection ConnectionWrapper Listener SocketListener XmlListener _ConnectionBase
  _ForkingPickler=multiprocessing.reduction.ForkingPickler _WaitSelector=selectors.PollSelector",
  "objects _mmap_counter=itertools.count", "modules _multiprocessing= errno= io= itertools= os=
  reduction=multiprocessing. selectors= socket= struct= sys= tempfile= time= util=multiprocessing.",
  "numbers BUFSIZE=8192 MESSAGE_LENGTH=20", "constant CHALLENGE b'#CHALLENGE#'",
  "constant CONNECTION_TIMEOUT 20.0", "constant FAILURE b'#FAILURE#'",
  "constant WELCOME b'#WELCOME#'", "constant __doc__ None", "constant _winapi None",
  "constant default_family 'AF_UNIX'", "constant families ['AF_INET', 'AF_UNIX']", "exports Client
  Listener Pipe wait"]),
  ("multiprocessing.context", ["brings __mp_main__", "functions _force_start_method assert_spawning
  get_spawning_popen set_spawning_popen", "classes AuthenticationError BaseContext BufferTooShort
  DefaultContext ForkContext ForkProcess ForkServerContext ForkServerProcess Process ProcessError
  SpawnContext SpawnProcess TimeoutError",
  "objects _default_context=multiprocessing.context.DefaultContext _tls=_thread._local",
  "modules os= process=multiprocessing. reduction=multiprocessing. sys= threading=",
  "constant __all__ ()", "constant __doc__ None",
  "constant _concrete_contexts \x7b'fork': multiprocessing.context.ForkContext(...), 'spawn': ",
  "|multiprocessing.context.SpawnContext(...), 'forkserver': multiprocessing.context.ForkServe",
  "|rContext(...)\x7d"]),
  ("multiprocessing.dummy", ["package", "brings __mp_main__", "functions Array Manager
  Pipe=multiprocessing.dummy.connection: Pool RLock=threading: active_children
  current_process=threading:current_thread freeze_support shutdown",
  "builtins Lock=_thread:allocate_lock", "classes Barrier=threading. BoundedSemaphore=threading.
  Condition=threading. DummyProcess Event=threading. JoinableQueue=queue.Queue Namespace
  Process=multiprocessing.dummy.DummyProcess Queue=queue. Semaphore=threading. Value dict= list=",
  "modules array= connection sys= threading= weakref=", "constant __doc__ None", "exports Process
  current_process active_children freeze_support Lock RLock Semaphore BoundedSemaphore Condition
  Event Barrier Queue Manager Pipe Pool JoinableQueue"]),
  ("multiprocessing.dummy.connection", ["brings __mp_main__", "functions Client Pipe",
  "classes Connection Listener Queue=queue.", "constant __doc__ None", "constant families [None]",
  "exports Client Listener Pipe"]),
  ("multiprocessing.forkserver", ["brings __mp_main__", "functions _serve_one main read_signed
  write_signed", "classes ForkServer", "objects _forkserver=multiprocessing.forkserver.ForkServer
  connect_to_new_process=method ensure_running=method get_inherited_fds=method
  set_forkserver_preload=method", "holders SIGNED_STRUCT=_struct.Struct",
  "modules connection=multiprocessing. errno= os= process=multiprocessing.
  reduction=multiprocessing. resource_tracker=multiprocessing. selectors= signal= socket=
  spawn=multiprocessing. struct= sys= threading= util=multiprocessing. warnings=",
  "numbers MAXFDS_TO_SEND=256", "constant __doc__ None", "exports ensure_running get_inherited_fds
  connect_to_new_process set_forkserver_preload", "part SIGNED_STRUCT.format 'q'",
  "part SIGNED_STRUCT.size 8"]),
  ("multiprocessing.heap", ["brings __mp_main__",
  "functions assert_spawning=multiprocessing.context: rebuild_arena reduce_arena", "classes Arena
  BufferWrapper Heap defaultdict=collections.", "modules bisect= mmap= os=
  reduction=multiprocessing. sys= tempfile= threading= util=multiprocessing.",
  "constant __doc__ None", "exports BufferWrapper"]),
  ("multiprocessing.managers", ["brings __mp_main__", "functions Array AutoProxy MakeProxyType
  RebuildProxy all_methods convert_to_error dispatch format_exc=traceback:
  get_spawning_popen=multiprocessing.context: public_methods rebuild_as_list reduce_array",
  "builtins getpid=posix:", "classes AcquirerProxy ArrayProxy BarrierProxy BaseListProxy BaseManager
  BasePoolProxy=multiprocessing.managers.PoolProxy BaseProxy ConditionProxy DictProxy EventProxy
  IteratorProxy ListProxy Namespace NamespaceProxy PoolProxy ProcessError=multiprocessing.context.
  ProcessLocalSet RemoteError Server SharedMemoryManager SharedMemoryServer State SyncManager Token
  Value ValueProxy _SharedMemoryTracker", "objects get_context=method", "modules array=
  connection=multiprocessing. os= pool=multiprocessing. process=multiprocessing. queue=
  reduction=multiprocessing. shared_memory=multiprocessing. signal= sys= threading= time= types=
  util=multiprocessing.", "constant HAS_SHMEM True", "constant __doc__ None",
  "constant listener_client \x7b'pickle': (multiprocessing.connection.Listener, function(...))",
  "|, 'xmlrpclib': (multiprocessing.connection.XmlListener, function(...))\x7d",
  "exports BaseManager SyncManager BaseProxy Token SharedMemoryManager"]),
  ("multiprocessing.pool", ["brings __mp_main__", "functions _helper_reraises_exception mapstar
  rebuild_exc starmapstar wait=multiprocessing.connection: worker", "classes ApplyResult
  AsyncResult=multiprocessing.pool.ApplyResult ExceptionWithTraceback IMapIterator
  IMapUnorderedIterator MapResult MaybeEncodingError Pool RemoteTraceback ThreadPool
  TimeoutError=multiprocessing.context. _PoolCache", "objects get_context=method
  job_counter=itertools.count", "modules collections= itertools= os= queue= threading= time=
  traceback= types= util=multiprocessing. warnings=", "constant CLOSE 'CLOSE'",
  "constant INIT 'INIT'", "constant RUN 'RUN'", "constant TERMINATE 'TERMINATE'",
  "constant __doc__ None", "exports Pool ThreadPool"]),
  ("multiprocessing.popen_fork", ["brings __mp_main__", "classes Popen", "modules os= signal=
  util=multiprocessing.", "constant __doc__ None", "exports Popen"]),
  ("multiprocessing.popen_forkserver", ["brings __mp_main__",
  "functions set_spawning_popen=multiprocessing.context:", "classes Popen _DupFd",
  "modules forkserver=multiprocessing. io= os= popen_fork=multiprocessing.
  reduction=multiprocessing. spawn=multiprocessing. util=multiprocessing.", "constant __doc__ None",
  "exports Popen"]),
  ("multiprocessing.popen_spawn_posix", ["brings __mp_main__",
  "functions set_spawning_popen=multiprocessing.context:", "classes Popen _DupFd", "modules io= os=
  popen_fork=multiprocessing. reduction=multiprocessing. spawn=multiprocessing.
  util=multiprocessing.", "constant __doc__ None", "exports Popen"]),
  ("multiprocessing.process", ["brings __mp_main__", "functions _cleanup active_children
  current_process parent_process", "classes AuthenticationString BaseProcess WeakSet=_weakrefset.
  _ParentProcess", "objects _children=set _current_process=multiprocessing.process._MainProcess
  _process_counter=itertools.count", "holders _dangling=_weakrefset.WeakSet", "modules itertools=
  os= signal= sys= threading=", "constant __doc__ None",
  "constant _exitcode_to_name \x7b-1: '-SIGHUP', -2: '-SIGINT', -3: '-SIGQUIT', -4: '-SIGILL',",
  "| -5: '-SIGTRAP', -6: '-SIGABRT', -8: '-SIGFPE', -9: '-SIGKILL', -7: '-SIGBUS', -11: '-SIGS",
  "|EGV', -31: '-SIGSYS', -13: '-SIGPIPE', -14: '-SIGALRM', -15: '-SIGTERM', -10: '-SIGUSR1', ",
  "|-12: '-SIGUSR2', -17: '-SIGCHLD', -30: '-SIGPWR', -29: '-SIGPOLL', -23: '-SIGURG', -28: '-",
  "|SIGWINCH', -19: '-SIGSTOP', -20: '-SIGTSTP', -18: '-SIGCONT', -21: '-SIGTTIN', -22: '-SIGT",
  "|TOU', -26: '-SIGVTALRM', -27: '-SIGPROF', -24: '-SIGXCPU', -25: '-SIGXFSZ', -34: '-SIGRTMI",
  "|N', -64: '-SIGRTMAX', -16: '-SIGSTKFLT'\x7d", "constant _parent_process None",
  "exports BaseProcess current_process active_children parent_process",
  "part _dangling._iterating object('set')", "part _dangling._pending_removals []",
  "part _dangling.data object('set')",
  "part _dangling.__dict__ \x7b'data': object('set'), '_remove': object('function'), '_pending",
  "|_removals': [], '_iterating': object('set')\x7d"]),
  ("multiprocessing.queues", ["brings __mp_main__", "functions debug=multiprocessing.util:
  info=multiprocessing.util: is_exiting=multiprocessing.util:
  register_after_fork=multiprocessing.util:", "classes Empty=_queue. Finalize=multiprocessing.util.
  Full=queue. JoinableQueue Queue SimpleQueue
  _ForkingPickler=multiprocessing.reduction.ForkingPickler", "objects _sentinel=object",
  "modules _multiprocessing= collections= connection=multiprocessing. context=multiprocessing.
  errno= os= sys= threading= time= types= weakref=", "constant __doc__ None", "exports Queue
  SimpleQueue JoinableQueue"]),
  ("multiprocessing.reduction", ["brings __mp_main__", "functions DupFd _rebuild_partial
  _rebuild_socket _reduce_method _reduce_method_descriptor _reduce_partial _reduce_socket dump
  recv_handle recvfds send_handle sendfds", "classes ABCMeta=abc. AbstractReducer ForkingPickler
  _C", "objects register=method", "modules array= context=multiprocessing. copyreg= functools= io=
  os= pickle= socket= sys=", "constant ACKNOWLEDGE False", "constant HAVE_SEND_HANDLE True",
  "constant __doc__ None", "exports send_handle recv_handle ForkingPickler register dump DupFd
  sendfds recvfds"]),
  ("multiprocessing.resource_sharer", ["brings __mp_main__", "classes DupFd _ResourceSharer",
  "objects _resource_sharer=multiprocessing.resource_sharer._ResourceSharer stop=method",
  "modules os= process=multiprocessing. reduction=multiprocessing. signal= socket= sys= threading=
  util=multiprocessing.", "constant __doc__ None", "exports stop DupFd"]),
  ("multiprocessing.resource_tracker", ["brings __mp_main__", "functions main",
  "classes ResourceTracker",
  "objects _resource_tracker=multiprocessing.resource_tracker.ResourceTracker ensure_running=method
  getfd=method register=method unregister=method", "modules _multiprocessing= _posixshmem= os=
  signal= spawn=multiprocessing. sys= threading= util=multiprocessing. warnings=",
  "constant _CLEANUP_FUNCS \x7b'noop': function(...), 'semaphore': builtin_function_or_method(",
  "|...), 'shared_memory': builtin_function_or_method(...)\x7d", "constant _HAVE_SIGMASK True",
  "constant _IGNORED_SIGNALS (signal.Signals.SIGINT, signal.Signals.SIGTERM)",
  "constant __doc__ None", "exports ensure_running register unregister"]),
  ("multiprocessing.shared_memory", ["brings __mp_main__", "functions _make_filename",
  "classes ShareableList SharedMemory partial=functools.", "modules _posixshmem= errno= mmap= os=
  resource_tracker=multiprocessing. secrets= struct= types=", "numbers _O_CREX=192
  _SHM_SAFE_NAME_LENGTH=14", "constant _SHM_NAME_PREFIX '/psm_'", "constant _USE_POSIX True",
  "constant _encoding 'utf8'", "exports SharedMemory ShareableList"]),
  ("multiprocessing.sharedctypes", ["brings __mp_main__", "functions Array RawArray RawValue Value
  _new_value assert_spawning=multiprocessing.context: copy make_property rebuild_ctype reduce_ctype
  synchronized", "classes Synchronized SynchronizedArray SynchronizedBase SynchronizedString
  _ForkingPickler=multiprocessing.reduction.ForkingPickler", "objects get_context=method",
  "holders class_cache=weakref.WeakKeyDictionary", "modules ctypes= heap=multiprocessing.
  reduction=multiprocessing. weakref=", "constant __doc__ None",
  "constant prop_cache \x7b'value': property(...), 'raw': property(...)\x7d",
  "constant template '\\ndef get%s(self):\\n    self.acquire()\\n    try:\\n        return sel",
  "|f._obj.%s\\n    finally:\\n        self.release()\\ndef set%s(self, value):\\n    self.acq",
  "|uire()\\n    try:\\n        self._obj.%s = value\\n    finally:\\n        self.release()\\",
  "|n%s = property(get%s, set%s)\\n'",
  "constant typecode_to_type \x7b'c': ctypes.c_char, 'u': ctypes.c_wchar, 'b': ctypes.c_byte, ",
  "|'B': ctypes.c_ubyte, 'h': ctypes.c_short, 'H': ctypes.c_ushort, 'i': ctypes.c_int, 'I': ct",
  "|ypes.c_uint, 'l': ctypes.c_long, 'L': ctypes.c_ulong, 'q': ctypes.c_long, 'Q': ctypes.c_ul",
  "|ong, 'f': ctypes.c_float, 'd': ctypes.c_double\x7d", "exports RawValue RawArray Value Array copy
  synchronized", "part class_cache._dirty_len False", "part class_cache._iterating object('set')",
  "part class_cache._pending_removals []", "part class_cache.data \x7b\x7d",
  "part class_cache.__dict__ \x7b'data': \x7b\x7d, '_remove': object('function'), '_pending_re",
  "|movals': [], '_iterating': object('set'), '_dirty_len': False\x7d"]),
  ("multiprocessing.spawn", ["brings __mp_main__", "functions _check_not_importing_main
  _fixup_main_from_name _fixup_main_from_path _main freeze_support get_command_line get_executable
  get_preparation_data import_main_path is_forking prepare set_executable spawn_main",
  "objects get_start_method=method set_start_method=method", "modules os= process=multiprocessing.
  reduction=multiprocessing. runpy= sys= types= util=multiprocessing.", "constant WINEXE False",
  "constant WINSERVICE False", "constant __doc__ None", "constant old_main_modules []",
  "exports _main freeze_support set_executable get_executable get_preparation_data get_command_line
  import_main_path"]),
  ("multiprocessing.synchronize", ["brings __mp_main__", "builtins sem_unlink=_multiprocessing:",
  "classes Barrier BoundedSemaphore Condition Event Lock RLock SemLock Semaphore",
  "modules _multiprocessing= context=multiprocessing. process=multiprocessing. sys= tempfile=
  threading= time= util=multiprocessing.", "numbers RECURSIVE_MUTEX=0 SEMAPHORE=1
  SEM_VALUE_MAX=2147483647", "constant __doc__ None", "exports Lock RLock Semaphore BoundedSemaphore
  Condition Event"]),
  ("multiprocessing.util", ["brings __mp_main__",
  "functions _args_from_interpreter_flags=subprocess: _cleanup_tests _close_stdin _exit_function
  _flush_std_streams _platform_supports_abstract_sockets _remove_temp_dir _run_after_forkers
  _run_finalizers close_all_fds_except close_fds debug get_logger get_temp_dir info
  is_abstract_socket_namespace is_exiting log_to_stderr register_after_fork spawnv_passfds sub_debug
  sub_warning", "classes Finalize ForkAwareLocal ForkAwareThreadLock",
  "objects _afterfork_counter=itertools.count _finalizer_counter=itertools.count",
  "holders _afterfork_registry=weakref.WeakValueDictionary", "modules atexit= itertools= os=
  process=multiprocessing. sys= threading= weakref=", "numbers DEBUG=10 INFO=20 MAXFD=20000 NOTSET=0
  SUBDEBUG=5 SUBWARNING=25",
  "constant DEFAULT_LOGGING_FORMAT '[%(levelname)s/%(processName)s] %(message)s'",
  "constant LOGGER_NAME 'multiprocessing'", "constant __doc__ None", "constant _exiting False",
  "constant _finalizer_registry \x7b\x7d", "constant _log_to_stderr False", "constant _logger None",
  "constant abstract_sockets_supported True", "exports sub_debug debug info sub_warning get_logger
  log_to_stderr get_temp_dir register_after_fork is_exiting Finalize ForkAwareThreadLock
  ForkAwareLocal close_all_fds_except SUBDEBUG SUBWARNING",
  "part _afterfork_registry._iterating object('set')",
  "part _afterfork_registry._pending_removals []",
  "part _afterfork_registry.data \x7b(0, 139839570669008, object('function')): object('weakref",
  "|.KeyedRef')\x7d"]),
  ("select", ["built-in", "builtins poll select", "classes epoll error=OSError", "numbers EPOLLERR=8
  EPOLLET=2147483648 EPOLLEXCLUSIVE=268435456 EPOLLHUP=16 EPOLLIN=1 EPOLLMSG=1024
  EPOLLONESHOT=1073741824 EPOLLOUT=4 EPOLLPRI=2 EPOLLRDBAND=128 EPOLLRDHUP=8192 EPOLLRDNORM=64
  EPOLLWRBAND=512 EPOLLWRNORM=256 EPOLL_CLOEXEC=524288 PIPE_BUF=4096 POLLERR=8 POLLHUP=16 POLLIN=1
  POLLMSG=1024 POLLNVAL=32 POLLOUT=4 POLLPRI=2 POLLRDBAND=128 POLLRDHUP=8192 POLLRDNORM=64
  POLLWRBAND=512 POLLWRNORM=256"]),
  ("selectors", ["functions _can_use _fileobj_to_fd abstractmethod=abc: namedtuple=collections:",
  "classes ABCMeta=abc. BaseSelector DefaultSelector=selectors.EpollSelector EpollSelector
  Mapping=collections.abc. PollSelector SelectSelector SelectorKey _BaseSelectorImpl
  _PollLikeSelector _SelectorMapping", "modules math= select= sys=", "numbers EVENT_READ=1
  EVENT_WRITE=2"]),
  ("signal", ["functions _enum_to_int _int_to_enum getsignal pthread_sigmask signal sigpending
  sigwait valid_signals", "builtins alarm=_signal: default_int_handler=_signal: getitimer=_signal:
  pause=_signal: pidfd_send_signal pthread_kill=_signal: raise_signal=_signal:
  set_wakeup_fd=_signal: setitimer=_signal: siginterrupt=_signal: sigtimedwait=_signal:
  sigwaitinfo=_signal: strsignal=_signal:", "classes Handlers ItimerError=signal.itimer_error
  Sigmasks Signals _IntEnum=enum.IntEnum struct_siginfo", "modules _signal=",
  "members-of signal.Signals SIGABRT SIGALRM SIGBUS SIGCHLD SIGCONT SIGFPE SIGHUP SIGILL",
  "members-of signal.Signals SIGINT SIGIO SIGKILL SIGPIPE SIGPROF SIGPWR SIGQUIT SIGRTMAX",
  "members-of signal.Signals SIGRTMIN SIGSEGV SIGSTKFLT SIGSTOP SIGSYS SIGTERM SIGTRAP SIGTSTP",
  "members-of signal.Signals SIGTTIN SIGTTOU SIGURG SIGUSR1 SIGUSR2 SIGVTALRM SIGWINCH SIGXCPU",
  "members-of signal.Signals SIGXFSZ",
  "members-of signal.Sigmasks SIG_BLOCK SIG_SETMASK SIG_UNBLOCK",
  "members-of signal.Handlers SIG_DFL SIG_IGN", "members SIGCLD=signal.Signals.SIGCHLD
  SIGIOT=signal.Signals.SIGABRT SIGPOLL=signal.Signals.SIGIO", "numbers ITIMER_PROF=2 ITIMER_REAL=0
  ITIMER_VIRTUAL=1 NSIG=65", "constant __doc__ None"]),
  ("subprocess", ["functions _args_from_interpreter_flags _cleanup
  _optim_args_from_interpreter_flags _text_encoding _use_posix_spawn call check_call check_output
  getoutput getstatusoutput list2cmdline run", "builtins _WIFSTOPPED=posix:WIFSTOPPED
  _WSTOPSIG=posix:WSTOPSIG _fork_exec=_posixsubprocess:fork_exec _time=time:monotonic
  _waitpid=posix:waitpid _waitstatus_to_exitcode=posix:waitstatus_to_exitcode",
  "classes CalledProcessError CompletedProcess Popen SubprocessError TimeoutExpired
  _PopenSelector=selectors.PollSelector", "modules builtins= contextlib= errno= fcntl= io= locale=
  os= select= selectors= signal= sys= threading= time= types= warnings=", "numbers DEVNULL=-3
  PIPE=-1 STDOUT=-2 _PIPE_BUF=4096 _WNOHANG=1", "constant _USE_POSIX_SPAWN True",
  "constant _USE_VFORK True", "constant _active []", "constant _can_fork_exec True",
  "constant _mswindows False", "exports Popen PIPE STDOUT call check_call getstatusoutput getoutput
  check_output run CalledProcessError DEVNULL SubprocessError TimeoutExpired CompletedProcess"]),
  ("threading", ["functions RLock _after_fork _enumerate _maintain_shutdown_locks
  _make_invoke_excepthook _newname _register_atexit _shutdown activeCount active_count currentThread
  current_thread enumerate getprofile gettrace main_thread setprofile settrace",
  "builtins Lock=_thread:allocate_lock __excepthook__=_thread:_excepthook
  _allocate_lock=_thread:allocate_lock _set_sentinel=_thread:
  _start_new_thread=_thread:start_new_thread _time=time:monotonic excepthook=_thread:_excepthook
  get_ident=_thread: get_native_id=_thread: stack_size=_thread:", "classes Barrier BoundedSemaphore
  BrokenBarrierError Condition Event ExceptHookArgs=_thread._ExceptHookArgs Semaphore Thread
  ThreadError=RuntimeError Timer WeakSet=_weakrefset. _CRLock=_thread.RLock _DummyThread _MainThread
  _PyRLock=threading._RLock _RLock _count=itertools.count _deque=collections.deque
  _islice=itertools.islice local=_thread._local", "objects _active_limbo_lock=_thread.RLock
  _counter=method-wrapper _main_thread=threading._MainThread _shutdown_locks=set
  _shutdown_locks_lock=_thread.lock", "holders _dangling=_weakrefset.WeakSet", "modules _os=os
  _sys=sys functools=", "constant TIMEOUT_MAX 9223372036.0", "constant _HAVE_THREAD_NATIVE_ID True",
  "constant _SHUTTING_DOWN False", "constant _limbo \x7b\x7d", "constant _profile_hook None",
  "constant _threading_atexits []", "constant _trace_hook None", "exports get_ident active_count
  Condition current_thread enumerate main_thread TIMEOUT_MAX Event Lock RLock Semaphore
  BoundedSemaphore Thread Barrier BrokenBarrierError Timer ThreadError setprofile settrace local
  stack_size excepthook ExceptHookArgs gettrace getprofile get_native_id",
  "part _dangling._iterating object('set')", "part _dangling._pending_removals []",
  "part _dangling.data object('set')",
  "part _dangling.__dict__ \x7b'data': object('set'), '_remove': object('function'), '_pending",
  "|_removals': [], '_iterating': object('set')\x7d"])]

/-- The classes for processes, threads and events. -/
def processesClasses : List (String × List String) := [
  ("_asyncio.Future", ["shown _asyncio.Future", "sealed", "builtins __new__", "operations __repr__
  __iter__ __init__ __del__ __await__", "methods result exception set_result set_exception
  add_done_callback remove_done_callback cancel cancelled done get_loop _make_cancelled_error",
  "class-builtins __class_getitem__", "fields _state _asyncio_future_blocking _loop _callbacks
  _result _exception _log_traceback _source_traceback _cancel_message"]),
  ("_asyncio.Task", ["below _asyncio.Future", "shown _asyncio.Task", "sealed", "builtins __new__",
  "operations __repr__ __iter__ __init__ __del__ __await__", "methods result exception
  add_done_callback remove_done_callback cancelled done set_result set_exception cancel cancelling
  uncancel get_stack print_stack _make_cancelled_error get_name set_name get_coro",
  "class-builtins __class_getitem__", "fields _state _asyncio_future_blocking _loop _callbacks
  _result _exception _log_traceback _source_traceback _cancel_message _log_destroy_pending
  _must_cancel _coro _fut_waiter"]),
  ("_multiprocessing.SemLock", ["shown _multiprocessing.SemLock", "sealed", "builtins __new__",
  "methods acquire release __enter__ __exit__ _count _is_mine _get_value _is_zero _after_fork",
  "class-builtins _rebuild", "slots handle kind maxvalue name",
  "numbers SEM_VALUE_MAX=2147483647"]),
  ("_thread.RLock", ["shown _thread.RLock", "builtins __new__", "operations __repr__",
  "methods acquire release _is_owned _acquire_restore _release_save _recursion_count __enter__
  __exit__ _at_fork_reinit", "silent"]),
  ("_thread._ExceptHookArgs", ["below tuple", "shown _thread._ExceptHookArgs", "builtins __new__",
  "operations __repr__", "methods __reduce__", "slots exc_type exc_value exc_traceback thread",
  "numbers n_sequence_fields=4 n_fields=4 n_unnamed_fields=0",
  "constant __match_args__ ('exc_type', 'exc_value', 'exc_traceback', 'thread')"]),
  ("_thread._local", ["shown _thread._local", "builtins __new__", "operations __getattribute__
  __setattr__ __delattr__"]),
  ("_thread.lock", ["shown _thread.lock", "operations __repr__", "methods acquire_lock acquire
  release_lock release locked_lock locked __enter__ __exit__ _at_fork_reinit"]),
  ("_threading_local._localimpl", ["open __weakref__", "functions __init__ get_dict create_dict",
  "slots dicts key localargs locallock",
  "constant __slots__ ('key', 'dicts', 'localargs', 'locallock', '__weakref__')"]),
  ("_threading_local.local", ["open __dict__", "functions __getattribute__ __setattr__ __delattr__",
  "statics __new__", "slots _local__impl", "constant __slots__ ('_local__impl', '__dict__')",
  "silent"]),
  ("asynchat.async_chat", ["below asyncore.dispatcher", "functions __init__ collect_incoming_data
  _collect_incoming_data _get_data found_terminator set_terminator get_terminator handle_read
  handle_write handle_close push push_with_producer readable writable close_when_done initiate_send
  discard_buffers", "numbers ac_in_buffer_size=65536 ac_out_buffer_size=65536 use_encoding=0",
  "constant encoding 'latin-1'"]),
  ("asynchat.simple_producer", ["open", "functions __init__ more", "silent"]),
  ("asyncio.base_events.BaseEventLoop", ["below asyncio.events.AbstractEventLoop",
  "functions __init__ __repr__ create_future create_task set_task_factory get_task_factory
  _make_socket_transport _make_ssl_transport _make_datagram_transport _make_read_pipe_transport
  _make_write_pipe_transport _make_subprocess_transport _write_to_self _process_events _check_closed
  _check_default_executor _asyncgen_finalizer_hook _asyncgen_firstiter_hook shutdown_asyncgens
  shutdown_default_executor _do_shutdown _check_running run_forever run_until_complete stop close
  is_closed __del__ is_running time call_later call_at call_soon _check_callback _call_soon
  _check_thread call_soon_threadsafe run_in_executor set_default_executor _getaddrinfo_debug
  getaddrinfo getnameinfo sock_sendfile _sock_sendfile_native _sock_sendfile_fallback
  _check_sendfile_params _connect_sock create_connection _create_connection_transport sendfile
  _sendfile_native _sendfile_fallback start_tls create_datagram_endpoint _ensure_resolved
  _create_server_getaddrinfo create_server connect_accepted_socket connect_read_pipe
  connect_write_pipe _log_subprocess subprocess_shell subprocess_exec get_exception_handler
  set_exception_handler default_exception_handler call_exception_handler _add_callback
  _add_callback_signalsafe _timer_handle_cancelled _run_once _set_coroutine_origin_tracking
  get_debug set_debug", "silent"]),
  ("asyncio.base_events.Server", ["below asyncio.events.AbstractServer", "functions __init__
  __repr__ _attach _detach _wakeup _start_serving get_loop is_serving close start_serving
  serve_forever wait_closed", "properties sockets", "silent"]),
  ("asyncio.base_events._SendfileFallbackProtocol", ["below asyncio.protocols.Protocol", "open",
  "functions __init__ drain connection_made connection_lost pause_writing resume_writing
  data_received eof_received restore", "silent"]),
  ("asyncio.base_subprocess.BaseSubprocessTransport", [
  "below asyncio.transports.SubprocessTransport", "open", "functions __init__ __repr__ _start
  set_protocol get_protocol is_closing close __del__ get_pid get_returncode get_pipe_transport
  _check_proc send_signal terminate kill _connect_pipes _call _pipe_connection_lost
  _pipe_data_received _process_exited _wait _try_finish _call_connection_lost", "silent"]),
  ("asyncio.base_subprocess.ReadSubprocessPipeProto", [
  "above asyncio.base_subprocess.WriteSubprocessPipeProto asyncio.protocols.Protocol
  asyncio.protocols.BaseProtocol object", "functions data_received", "silent"]),
  ("asyncio.base_subprocess.WriteSubprocessPipeProto", ["below asyncio.protocols.BaseProtocol",
  "open", "functions __init__ connection_made __repr__ connection_lost pause_writing
  resume_writing", "silent"]),
  ("asyncio.constants._SendfileMode", ["below enum.Enum", "kind enum.EnumType",
  "functions _generate_next_value_=enum:Enum._generate_next_value_ __new__=enum:Enum.__new__",
  "builtins _new_member_", "classes _member_type_=object", "constant _use_args_ False",
  "constant _unhashable_values_ []", "constant _value_repr_ None", "silent", "values UNSUPPORTED=1
  TRY_NATIVE=2 FALLBACK=3", "style plain name"]),
  ("asyncio.events.AbstractEventLoop", ["open", "functions run_forever run_until_complete stop
  is_running is_closed close shutdown_asyncgens shutdown_default_executor _timer_handle_cancelled
  call_soon call_later call_at time create_future create_task call_soon_threadsafe run_in_executor
  set_default_executor getaddrinfo getnameinfo create_connection create_server sendfile start_tls
  create_unix_connection create_unix_server connect_accepted_socket create_datagram_endpoint
  connect_read_pipe connect_write_pipe subprocess_shell subprocess_exec add_reader remove_reader
  add_writer remove_writer sock_recv sock_recv_into sock_recvfrom sock_recvfrom_into sock_sendall
  sock_sendto sock_connect sock_accept sock_sendfile add_signal_handler remove_signal_handler
  set_task_factory get_task_factory get_exception_handler set_exception_handler
  default_exception_handler call_exception_handler get_debug set_debug"]),
  ("asyncio.events.AbstractEventLoopPolicy", ["open", "functions get_event_loop set_event_loop
  new_event_loop get_child_watcher set_child_watcher"]),
  ("asyncio.events.AbstractServer", ["open", "functions close get_loop is_serving start_serving
  serve_forever wait_closed __aenter__ __aexit__"]),
  ("asyncio.events.BaseDefaultEventLoopPolicy", ["below asyncio.events.AbstractEventLoopPolicy",
  "functions __init__ get_event_loop set_event_loop new_event_loop",
  "classes _Local=asyncio.events.BaseDefaultEventLoopPolicy.", "constant _loop_factory None"]),
  ("asyncio.events.Handle", ["open __weakref__", "functions __init__ _repr_info __repr__ cancel
  cancelled _run", "slots _args _callback _cancelled _context _loop _repr _source_traceback",
  "constant __slots__ ('_callback', '_args', '_cancelled', '_loop', '_source_traceback', '_rep",
  "|r', '__weakref__', '_context')"]),
  ("asyncio.events.TimerHandle", ["below asyncio.events.Handle", "functions __init__ _repr_info
  __hash__ __lt__ __le__ __gt__ __ge__ __eq__ cancel when", "slots _scheduled _when",
  "constant __slots__ ['_scheduled', '_when']"]),
  ("asyncio.events._RunningLoop", ["below _thread._local", "open __dict__",
  "constant loop_pid (None, None)", "silent"]),
  ("asyncio.exceptions.BrokenBarrierError", ["below RuntimeError", "open __weakref__"]),
  ("asyncio.exceptions.CancelledError", ["below BaseException", "open __weakref__"]),
  ("asyncio.exceptions.IncompleteReadError", ["below EOFError", "open __weakref__",
  "functions __init__ __reduce__"]),
  ("asyncio.exceptions.InvalidStateError", ["below Exception", "open __weakref__"]),
  ("asyncio.exceptions.LimitOverrunError", ["below Exception", "open __weakref__",
  "functions __init__ __reduce__"]),
  ("asyncio.exceptions.SendfileNotAvailableError", ["below RuntimeError", "open __weakref__"]),
  ("asyncio.futures.Future", ["open", "functions __init__ __repr__ __del__ get_loop
  _make_cancelled_error cancel _Future__schedule_callbacks cancelled done result exception
  add_done_callback remove_done_callback set_result set_exception __await__ __iter__",
  "class-functions __class_getitem__", "properties _log_traceback", "constant _state 'PENDING'",
  "constant _result None", "constant _exception None", "constant _loop None",
  "constant _source_traceback None", "constant _cancel_message None",
  "constant _cancelled_exc None", "constant _asyncio_future_blocking False",
  "constant _Future__log_traceback False"]),
  ("asyncio.locks.Barrier", ["below asyncio.mixins._LoopBoundMixin", "functions __init__ __repr__
  __aenter__ __aexit__ wait _block _release _wait _exit reset abort", "properties parties n_waiting
  broken"]),
  ("asyncio.locks.BoundedSemaphore", ["below asyncio.locks.Semaphore", "functions __init__
  release"]),
  ("asyncio.locks.Condition", ["above asyncio.locks._ContextManagerMixin
  asyncio.mixins._LoopBoundMixin object", "functions __init__ __repr__ wait wait_for notify
  notify_all"]),
  ("asyncio.locks.Event", ["below asyncio.mixins._LoopBoundMixin", "functions __init__ __repr__
  is_set set clear wait"]),
  ("asyncio.locks.Lock", ["above asyncio.locks._ContextManagerMixin asyncio.mixins._LoopBoundMixin
  object", "functions __init__ __repr__ locked acquire release _wake_up_first"]),
  ("asyncio.locks.Semaphore", ["above asyncio.locks._ContextManagerMixin
  asyncio.mixins._LoopBoundMixin object", "functions __init__ __repr__ locked acquire release
  _wake_up_next"]),
  ("asyncio.locks._BarrierState", ["below enum.Enum", "kind enum.EnumType",
  "functions _generate_next_value_=enum:Enum._generate_next_value_ __new__=enum:Enum.__new__",
  "builtins _new_member_", "classes _member_type_=object", "constant _use_args_ False",
  "constant _unhashable_values_ []", "constant _value_repr_ None", "silent",
  "value FILLING 'filling'", "value DRAINING 'draining'", "value RESETTING 'resetting'",
  "value BROKEN 'broken'", "style plain name"]),
  ("asyncio.locks._ContextManagerMixin", ["open", "functions __aenter__ __aexit__", "silent"]),
  ("asyncio.mixins._LoopBoundMixin", ["open", "functions _get_loop", "constant _loop None",
  "silent"]),
  ("asyncio.proactor_events.BaseProactorEventLoop", ["below asyncio.base_events.BaseEventLoop",
  "functions __init__ _make_socket_transport _make_ssl_transport _make_datagram_transport
  _make_duplex_pipe_transport _make_read_pipe_transport _make_write_pipe_transport close sock_recv
  sock_recv_into sock_recvfrom sock_recvfrom_into sock_sendall sock_sendto sock_connect sock_accept
  _sock_sendfile_native _sendfile_native _close_self_pipe _make_self_pipe _loop_self_reading
  _write_to_self _start_serving _process_events _stop_accept_futures _stop_serving", "silent"]),
  ("asyncio.proactor_events._ProactorBasePipeTransport", [
  "below asyncio.transports._FlowControlMixin", "open", "functions __init__ __repr__ _set_extra
  set_protocol get_protocol is_closing close __del__ _fatal_error _force_close _call_connection_lost
  get_write_buffer_size"]),
  ("asyncio.proactor_events._ProactorBaseWritePipeTransport", [
  "below asyncio.proactor_events._ProactorBasePipeTransport", "functions __init__ write
  _loop_writing can_write_eof write_eof abort _make_empty_waiter _reset_empty_waiter",
  "constant _start_tls_compatible True"]),
  ("asyncio.proactor_events._ProactorDatagramTransport", [
  "above asyncio.proactor_events._ProactorBasePipeTransport asyncio.transports._FlowControlMixin
  asyncio.transports.Transport asyncio.transports.ReadTransport asyncio.transports.WriteTransport
  asyncio.transports.DatagramTransport asyncio.transports.BaseTransport object", "functions __init__
  _set_extra get_write_buffer_size abort sendto _loop_writing _loop_reading",
  "numbers max_size=262144", "silent"]),
  ("asyncio.proactor_events._ProactorDuplexPipeTransport", [
  "above asyncio.proactor_events._ProactorReadPipeTransport
  asyncio.proactor_events._ProactorBaseWritePipeTransport
  asyncio.proactor_events._ProactorBasePipeTransport asyncio.transports._FlowControlMixin
  asyncio.transports.Transport asyncio.transports.ReadTransport asyncio.transports.WriteTransport
  asyncio.transports.BaseTransport object", "functions can_write_eof write_eof"]),
  ("asyncio.proactor_events._ProactorReadPipeTransport", [
  "below asyncio.proactor_events._ProactorBasePipeTransport", "functions __init__ is_reading
  pause_reading resume_reading _eof_received _data_received _loop_reading"]),
  ("asyncio.proactor_events._ProactorSocketTransport", [
  "above asyncio.proactor_events._ProactorReadPipeTransport
  asyncio.proactor_events._ProactorBaseWritePipeTransport
  asyncio.proactor_events._ProactorBasePipeTransport asyncio.transports._FlowControlMixin
  asyncio.transports.Transport asyncio.transports.ReadTransport asyncio.transports.WriteTransport
  asyncio.transports.BaseTransport object", "functions __init__ _set_extra can_write_eof write_eof",
  "members _sendfile_compatible=asyncio.constants._SendfileMode.TRY_NATIVE"]),
  ("asyncio.proactor_events._ProactorWritePipeTransport", [
  "below asyncio.proactor_events._ProactorBaseWritePipeTransport", "functions __init__
  _pipe_closed", "silent"]),
  ("asyncio.protocols.BaseProtocol", ["functions connection_made connection_lost pause_writing
  resume_writing", "constant __slots__ ()"]),
  ("asyncio.protocols.BufferedProtocol", ["below asyncio.protocols.BaseProtocol",
  "functions get_buffer buffer_updated eof_received", "constant __slots__ ()"]),
  ("asyncio.protocols.DatagramProtocol", ["below asyncio.protocols.BaseProtocol",
  "functions datagram_received error_received", "constant __slots__ ()"]),
  ("asyncio.protocols.Protocol", ["below asyncio.protocols.BaseProtocol", "functions data_received
  eof_received", "constant __slots__ ()"]),
  ("asyncio.protocols.SubprocessProtocol", ["below asyncio.protocols.BaseProtocol",
  "functions pipe_data_received pipe_connection_lost process_exited", "constant __slots__ ()"]),
  ("asyncio.queues.LifoQueue", ["below asyncio.queues.Queue", "functions _init _put _get"]),
  ("asyncio.queues.PriorityQueue", ["below asyncio.queues.Queue", "functions _init _put _get"]),
  ("asyncio.queues.Queue", ["below asyncio.mixins._LoopBoundMixin", "functions __init__ _init _get
  _put _wakeup_next __repr__ __str__ _format qsize empty full put put_nowait get get_nowait
  task_done join", "class-functions __class_getitem__", "properties maxsize"]),
  ("asyncio.queues.QueueEmpty", ["below Exception", "open __weakref__"]),
  ("asyncio.queues.QueueFull", ["below Exception", "open __weakref__"]),
  ("asyncio.runners.Runner", ["open", "functions __init__ __enter__ __exit__ close get_loop run
  _lazy_init _on_sigint"]),
  ("asyncio.runners._State", ["below enum.Enum", "kind enum.EnumType",
  "functions _generate_next_value_=enum:Enum._generate_next_value_ __new__=enum:Enum.__new__",
  "builtins _new_member_", "classes _member_type_=object", "constant _use_args_ False",
  "constant _unhashable_values_ []", "constant _value_repr_ None", "silent",
  "value CREATED 'created'", "value INITIALIZED 'initialized'", "value CLOSED 'closed'",
  "style plain name"]),
  ("asyncio.selector_events.BaseSelectorEventLoop", ["below asyncio.base_events.BaseEventLoop",
  "functions __init__ _make_socket_transport _make_ssl_transport _make_datagram_transport close
  _close_self_pipe _make_self_pipe _process_self_data _read_from_self _write_to_self _start_serving
  _accept_connection _accept_connection2 _ensure_fd_no_transport _add_reader _remove_reader
  _add_writer _remove_writer add_reader remove_reader add_writer remove_writer sock_recv
  _sock_read_done _sock_recv sock_recv_into _sock_recv_into sock_recvfrom _sock_recvfrom
  sock_recvfrom_into _sock_recvfrom_into sock_sendall _sock_sendall sock_sendto _sock_sendto
  sock_connect _sock_connect _sock_write_done _sock_connect_cb sock_accept _sock_accept
  _sendfile_native _process_events _stop_serving"]),
  ("asyncio.selector_events._SelectorDatagramTransport", [
  "below asyncio.selector_events._SelectorTransport", "functions __init__ get_write_buffer_size
  _read_ready sendto _sendto_ready", "classes _buffer_factory=collections.deque", "silent"]),
  ("asyncio.selector_events._SelectorSocketTransport", [
  "below asyncio.selector_events._SelectorTransport", "functions __init__ set_protocol _read_ready
  _read_ready__get_buffer _read_ready__data_received _read_ready__on_eof write _write_ready
  write_eof can_write_eof _call_connection_lost _make_empty_waiter _reset_empty_waiter",
  "members _sendfile_compatible=asyncio.constants._SendfileMode.TRY_NATIVE",
  "constant _start_tls_compatible True", "silent"]),
  ("asyncio.selector_events._SelectorTransport", ["below asyncio.transports._FlowControlMixin",
  "open", "functions __init__ __repr__ abort set_protocol get_protocol is_closing is_reading
  pause_reading resume_reading close __del__ _fatal_error _force_close _call_connection_lost
  get_write_buffer_size _add_reader", "classes _buffer_factory=bytearray",
  "numbers max_size=262144", "constant _sock None", "silent"]),
  ("asyncio.sslproto.AppProtocolState", ["below enum.Enum", "kind enum.EnumType",
  "functions _generate_next_value_=enum:Enum._generate_next_value_ __new__=enum:Enum.__new__",
  "builtins _new_member_", "classes _member_type_=object", "constant _use_args_ False",
  "constant _unhashable_values_ []", "constant _value_repr_ None", "silent",
  "value STATE_INIT 'STATE_INIT'", "value STATE_CON_MADE 'STATE_CON_MADE'",
  "value STATE_EOF 'STATE_EOF'", "value STATE_CON_LOST 'STATE_CON_LOST'", "style plain name"]),
  ("asyncio.sslproto.SSLProtocol", ["below asyncio.protocols.BufferedProtocol", "open",
  "functions __init__ _set_app_protocol _wakeup_waiter _get_app_transport connection_made
  connection_lost get_buffer buffer_updated eof_received _get_extra_info _set_state _start_handshake
  _check_handshake_timeout _do_handshake _on_handshake_complete _start_shutdown
  _check_shutdown_timeout _do_flush _do_shutdown _on_shutdown_complete _abort _write_appdata
  _do_write _process_outgoing _do_read _do_read__buffered _do_read__copied _call_eof_received
  _control_app_writing _get_write_buffer_size _set_write_buffer_limits _pause_reading
  _resume_reading _control_ssl_reading _set_read_buffer_limits _get_read_buffer_size pause_writing
  resume_writing _fatal_error", "numbers max_size=262144", "constant _handshake_start_time None",
  "constant _handshake_timeout_handle None", "constant _shutdown_timeout_handle None", "silent"]),
  ("asyncio.sslproto.SSLProtocolState", ["below enum.Enum", "kind enum.EnumType",
  "functions _generate_next_value_=enum:Enum._generate_next_value_ __new__=enum:Enum.__new__",
  "builtins _new_member_", "classes _member_type_=object", "constant _use_args_ False",
  "constant _unhashable_values_ []", "constant _value_repr_ None", "silent",
  "value UNWRAPPED 'UNWRAPPED'", "value DO_HANDSHAKE 'DO_HANDSHAKE'", "value WRAPPED 'WRAPPED'",
  "value FLUSHING 'FLUSHING'", "value SHUTDOWN 'SHUTDOWN'", "style plain name"]),
  ("asyncio.sslproto._SSLProtocolTransport", ["below asyncio.transports._FlowControlMixin", "open",
  "functions __init__ get_extra_info set_protocol get_protocol is_closing close __del__ is_reading
  pause_reading resume_reading set_write_buffer_limits get_write_buffer_limits get_write_buffer_size
  set_read_buffer_limits get_read_buffer_limits get_read_buffer_size write writelines write_eof
  can_write_eof abort _force_close _test__append_write_backlog", "properties _protocol_paused",
  "members _sendfile_compatible=asyncio.constants._SendfileMode.FALLBACK",
  "constant _start_tls_compatible True", "silent"]),
  ("asyncio.streams.FlowControlMixin", ["below asyncio.protocols.Protocol", "open",
  "functions __init__ pause_writing resume_writing connection_lost _drain_helper
  _get_close_waiter"]),
  ("asyncio.streams.StreamReader", ["open", "functions __init__ __repr__ exception set_exception
  _wakeup_waiter set_transport _maybe_resume_transport feed_eof at_eof feed_data _wait_for_data
  readline readuntil read readexactly __aiter__ __anext__", "constant _source_traceback None",
  "silent"]),
  ("asyncio.streams.StreamReaderProtocol", ["below asyncio.streams.FlowControlMixin",
  "functions __init__ _replace_writer connection_made connection_lost data_received eof_received
  _get_close_waiter __del__", "properties _stream_reader", "constant _source_traceback None"]),
  ("asyncio.streams.StreamWriter", ["open", "functions __init__ __repr__ write writelines write_eof
  can_write_eof close is_closing wait_closed get_extra_info drain start_tls",
  "properties transport"]),
  ("asyncio.subprocess.Process", ["open", "functions __init__ __repr__ wait send_signal terminate
  kill _feed_stdin _noop _read_stream communicate", "properties returncode", "silent"]),
  ("asyncio.subprocess.SubprocessStreamProtocol", ["above asyncio.streams.FlowControlMixin
  asyncio.protocols.Protocol asyncio.protocols.SubprocessProtocol asyncio.protocols.BaseProtocol
  object", "functions __init__ __repr__ connection_made pipe_data_received pipe_connection_lost
  process_exited _maybe_close_transport _get_close_waiter"]),
  ("asyncio.taskgroups.TaskGroup", ["open", "functions __init__ __repr__ __aenter__ __aexit__
  create_task _is_base_error _abort _on_task_done"]),
  ("asyncio.tasks.Task", ["below asyncio.futures.Future", "functions __init__ __del__ __repr__
  get_coro get_name set_name set_result set_exception get_stack print_stack cancel cancelling
  uncancel _Task__step _Task__wakeup", "class-functions __class_getitem__",
  "constant _log_destroy_pending True"]),
  ("asyncio.tasks._GatheringFuture", ["below _asyncio.Future", "functions __init__ cancel"]),
  ("asyncio.timeouts.Timeout", ["open", "functions __init__ when reschedule expired __repr__
  __aenter__ __aexit__ _on_timeout", "constant __final__ True"]),
  ("asyncio.timeouts._State", ["below enum.Enum", "kind enum.EnumType",
  "functions _generate_next_value_=enum:Enum._generate_next_value_ __new__=enum:Enum.__new__",
  "builtins _new_member_", "classes _member_type_=object", "constant _use_args_ False",
  "constant _unhashable_values_ []", "constant _value_repr_ None", "silent",
  "value CREATED 'created'", "value ENTERED 'active'", "value EXPIRING 'expiring'",
  "value EXPIRED 'expired'", "value EXITED 'finished'", "style plain name"]),
  ("asyncio.transports.BaseTransport", ["functions __init__ get_extra_info is_closing close
  set_protocol get_protocol", "slots _extra", "constant __slots__ ('_extra',)"]),
  ("asyncio.transports.DatagramTransport", ["below asyncio.transports.BaseTransport",
  "functions sendto abort", "constant __slots__ ()"]),
  ("asyncio.transports.ReadTransport", ["below asyncio.transports.BaseTransport",
  "functions is_reading pause_reading resume_reading", "constant __slots__ ()"]),
  ("asyncio.transports.SubprocessTransport", ["below asyncio.transports.BaseTransport",
  "functions get_pid get_returncode get_pipe_transport send_signal terminate kill",
  "constant __slots__ ()", "silent"]),
  ("asyncio.transports.Transport", ["above asyncio.transports.ReadTransport
  asyncio.transports.WriteTransport asyncio.transports.BaseTransport object",
  "constant __slots__ ()"]),
  ("asyncio.transports.WriteTransport", ["below asyncio.transports.BaseTransport",
  "functions set_write_buffer_limits get_write_buffer_size get_write_buffer_limits write writelines
  write_eof can_write_eof abort", "constant __slots__ ()"]),
  ("asyncio.transports._FlowControlMixin", ["below asyncio.transports.Transport",
  "functions __init__ _maybe_pause_protocol _maybe_resume_protocol get_write_buffer_limits
  _set_write_buffer_limits set_write_buffer_limits get_write_buffer_size", "slots _high_water _loop
  _low_water _protocol_paused",
  "constant __slots__ ('_loop', '_protocol_paused', '_high_water', '_low_water')"]),
  ("asyncio.trsock.TransportSocket", ["functions __init__ __repr__ __getstate__ fileno dup
  get_inheritable shutdown getsockopt setsockopt getpeername getsockname getsockbyname settimeout
  gettimeout setblocking", "properties family type proto", "slots _sock",
  "constant __slots__ ('_sock',)"]),
  ("asyncio.unix_events.AbstractChildWatcher", ["open", "functions add_child_handler
  remove_child_handler attach_loop close is_active __enter__ __exit__"]),
  ("asyncio.unix_events.BaseChildWatcher", ["below asyncio.unix_events.AbstractChildWatcher",
  "functions __init__ close is_active _do_waitpid _do_waitpid_all attach_loop _sig_chld",
  "silent"]),
  ("asyncio.unix_events.FastChildWatcher", ["below asyncio.unix_events.BaseChildWatcher",
  "functions __init__ close __enter__ __exit__ add_child_handler remove_child_handler
  _do_waitpid_all"]),
  ("asyncio.unix_events.MultiLoopChildWatcher", ["below asyncio.unix_events.AbstractChildWatcher",
  "functions __init__ is_active close __enter__ __exit__ add_child_handler remove_child_handler
  attach_loop _do_waitpid_all _do_waitpid _sig_chld"]),
  ("asyncio.unix_events.PidfdChildWatcher", ["below asyncio.unix_events.AbstractChildWatcher",
  "functions __init__ __enter__ __exit__ is_active close attach_loop add_child_handler _do_wait
  remove_child_handler"]),
  ("asyncio.unix_events.SafeChildWatcher", ["below asyncio.unix_events.BaseChildWatcher",
  "functions close __enter__ __exit__ add_child_handler remove_child_handler _do_waitpid_all
  _do_waitpid"]),
  ("asyncio.unix_events.ThreadedChildWatcher", ["below asyncio.unix_events.AbstractChildWatcher",
  "functions __init__ is_active close __enter__ __exit__ __del__ add_child_handler
  remove_child_handler attach_loop _do_waitpid"]),
  ("asyncio.unix_events._UnixDefaultEventLoopPolicy", [
  "below asyncio.events.BaseDefaultEventLoopPolicy", "functions __init__ _init_watcher
  set_event_loop get_child_watcher set_child_watcher",
  "classes _loop_factory=asyncio.unix_events._UnixSelectorEventLoop"]),
  ("asyncio.unix_events._UnixReadPipeTransport", ["below asyncio.transports.ReadTransport", "open",
  "functions __init__ _add_reader is_reading __repr__ _read_ready pause_reading resume_reading
  set_protocol get_protocol is_closing close __del__ _fatal_error _close _call_connection_lost",
  "numbers max_size=262144", "silent"]),
  ("asyncio.unix_events._UnixSelectorEventLoop", [
  "below asyncio.selector_events.BaseSelectorEventLoop", "functions __init__ close
  _process_self_data add_signal_handler _handle_signal remove_signal_handler _check_signal
  _make_read_pipe_transport _make_write_pipe_transport _make_subprocess_transport
  _child_watcher_callback create_unix_connection create_unix_server _sock_sendfile_native
  _sock_sendfile_native_impl _sock_sendfile_update_filepos _sock_add_cancellation_callback"]),
  ("asyncio.unix_events._UnixSubprocessTransport", [
  "below asyncio.base_subprocess.BaseSubprocessTransport", "functions _start", "silent"]),
  ("asyncio.unix_events._UnixWritePipeTransport", ["below asyncio.transports._FlowControlMixin",
  "open", "functions __init__ __repr__ get_write_buffer_size _read_ready write _write_ready
  can_write_eof write_eof set_protocol get_protocol is_closing close __del__ abort _fatal_error
  _close _call_connection_lost", "silent"]),
  ("asyncore.ExitNow", ["below Exception", "open __weakref__", "silent"]),
  ("asyncore.dispatcher", ["open", "functions __init__ __repr__ add_channel del_channel
  create_socket set_socket set_reuse_addr readable writable listen bind connect accept send recv
  close log log_info handle_read_event handle_connect_event handle_write_event handle_expt_event
  handle_error handle_expt handle_read handle_write handle_connect handle_accept handle_accepted
  handle_close", "objects ignore_log_types=frozenset", "constant debug False",
  "constant connected False", "constant accepting False", "constant connecting False",
  "constant closing False", "constant addr None", "silent"]),
  ("asyncore.dispatcher_with_send", ["below asyncore.dispatcher", "functions __init__ initiate_send
  handle_write writable send", "silent"]),
  ("asyncore.file_dispatcher", ["below asyncore.dispatcher", "functions __init__ set_file",
  "silent"]),
  ("asyncore.file_wrapper", ["open", "functions __init__ __del__ recv send getsockopt
  read=asyncore:file_wrapper.recv write=asyncore:file_wrapper.send close fileno", "silent"]),
  ("concurrent.futures._base.BrokenExecutor", ["below RuntimeError", "open __weakref__"]),
  ("concurrent.futures._base.CancelledError", ["below concurrent.futures._base.Error"]),
  ("concurrent.futures._base.DoneAndNotDoneFutures", ["below tuple",
  "functions _replace=collections:DoneAndNotDoneFutures._replace
  __repr__=collections:DoneAndNotDoneFutures.__repr__
  _asdict=collections:DoneAndNotDoneFutures._asdict
  __getnewargs__=collections:DoneAndNotDoneFutures.__getnewargs__",
  "class-functions _make=collections:DoneAndNotDoneFutures._make",
  "statics __new__=namedtuple_DoneAndNotDoneFutures:DoneAndNotDoneFutures.__new__",
  "objects done=_collections._tuplegetter not_done=_collections._tuplegetter",
  "constant __slots__ ()", "constant _fields ('done', 'not_done')",
  "constant _field_defaults \x7b\x7d", "constant __match_args__ ('done', 'not_done')"]),
  ("concurrent.futures._base.Error", ["below Exception", "open __weakref__"]),
  ("concurrent.futures._base.Executor", ["open", "functions submit map shutdown __enter__
  __exit__"]),
  ("concurrent.futures._base.Future", ["open", "functions __init__ _invoke_callbacks __repr__ cancel
  cancelled running done _Future__get_result=concurrent.futures._base:Future.__get_result
  add_done_callback result exception set_running_or_notify_cancel set_result set_exception",
  "class-functions __class_getitem__"]),
  ("concurrent.futures._base.InvalidStateError", ["below concurrent.futures._base.Error"]),
  ("concurrent.futures._base._AcquireFutures", ["open", "functions __init__ __enter__ __exit__"]),
  ("concurrent.futures._base._AllCompletedWaiter", ["below concurrent.futures._base._Waiter",
  "functions __init__ _decrement_pending_calls add_result add_exception add_cancelled"]),
  ("concurrent.futures._base._AsCompletedWaiter", ["below concurrent.futures._base._Waiter",
  "functions __init__ add_result add_exception add_cancelled"]),
  ("concurrent.futures._base._FirstCompletedWaiter", ["below concurrent.futures._base._Waiter",
  "functions add_result add_exception add_cancelled"]),
  ("concurrent.futures._base._Waiter", ["open", "functions __init__ add_result add_exception
  add_cancelled"]),
  ("concurrent.futures.process.BrokenProcessPool", [
  "below concurrent.futures._base.BrokenExecutor"]),
  ("concurrent.futures.process.ProcessPoolExecutor", ["below concurrent.futures._base.Executor",
  "functions __init__ _start_executor_manager_thread _adjust_process_count _launch_processes
  _spawn_process submit map shutdown", "silent"]),
  ("concurrent.futures.process._CallItem", ["open", "functions __init__", "silent"]),
  ("concurrent.futures.process._ExceptionWithTraceback", ["open", "functions __init__ __reduce__",
  "silent"]),
  ("concurrent.futures.process._ExecutorManagerThread", ["below threading.Thread",
  "functions __init__ run add_call_item_to_queue wait_result_broken_or_wakeup process_result_item
  is_shutting_down terminate_broken flag_executor_shutting_down shutdown_workers
  join_executor_internals get_n_children_alive"]),
  ("concurrent.futures.process._RemoteTraceback", ["below Exception", "open __weakref__",
  "functions __init__ __str__", "silent"]),
  ("concurrent.futures.process._ResultItem", ["open", "functions __init__", "silent"]),
  ("concurrent.futures.process._SafeQueue", ["below multiprocessing.queues.Queue",
  "functions __init__ _on_queue_feeder_error"]),
  ("concurrent.futures.process._ThreadWakeup", ["open", "functions __init__ close wakeup clear",
  "silent"]),
  ("concurrent.futures.process._WorkItem", ["open", "functions __init__", "silent"]),
  ("concurrent.futures.thread.BrokenThreadPool", ["below concurrent.futures._base.BrokenExecutor"]),
  ("concurrent.futures.thread.ThreadPoolExecutor", ["below concurrent.futures._base.Executor",
  "functions __init__ submit _adjust_thread_count _initializer_failed shutdown",
  "objects _counter=method-wrapper", "silent"]),
  ("concurrent.futures.thread._WorkItem", ["open", "functions __init__ run",
  "class-functions __class_getitem__", "silent"]),
  ("multiprocessing.connection.Connection", ["below multiprocessing.connection._ConnectionBase",
  "functions _close _send _recv _send_bytes _recv_bytes _poll", "builtins _write _read"]),
  ("multiprocessing.connection.ConnectionWrapper", ["open", "functions __init__ send recv",
  "silent"]),
  ("multiprocessing.connection.Listener", ["open", "functions __init__ accept close __enter__
  __exit__", "properties address last_accepted"]),
  ("multiprocessing.connection.SocketListener", ["open", "functions __init__ accept close"]),
  ("multiprocessing.connection.XmlListener", ["below multiprocessing.connection.Listener",
  "functions accept", "silent"]),
  ("multiprocessing.connection._ConnectionBase", ["open", "functions __init__ __del__ _check_closed
  _check_readable _check_writable _bad_message_length fileno close send_bytes send recv_bytes
  recv_bytes_into recv poll __enter__ __exit__", "properties closed readable writable",
  "constant _handle None", "silent"]),
  ("multiprocessing.context.AuthenticationError", ["below multiprocessing.context.ProcessError",
  "silent"]),
  ("multiprocessing.context.BaseContext", ["open", "functions cpu_count Manager Pipe Lock RLock
  Condition Semaphore BoundedSemaphore Event Barrier Queue JoinableQueue SimpleQueue Pool RawValue
  RawArray Value Array freeze_support get_logger log_to_stderr allow_connection_pickling
  set_executable set_forkserver_preload get_context get_start_method set_start_method
  _check_available", "statics current_process=multiprocessing.process:current_process
  parent_process=multiprocessing.process:parent_process
  active_children=multiprocessing.process:active_children", "properties reducer",
  "classes ProcessError=multiprocessing.context. BufferTooShort=multiprocessing.context.
  TimeoutError=multiprocessing.context. AuthenticationError=multiprocessing.context.", "silent",
  "part reducer.fset object('function')"]),
  ("multiprocessing.context.BufferTooShort", ["below multiprocessing.context.ProcessError",
  "silent"]),
  ("multiprocessing.context.DefaultContext", ["below multiprocessing.context.BaseContext",
  "functions __init__ get_context set_start_method get_start_method get_all_start_methods",
  "classes Process=multiprocessing.context.", "silent"]),
  ("multiprocessing.context.ForkContext", ["below multiprocessing.context.BaseContext",
  "classes Process=multiprocessing.context.ForkProcess", "constant _name 'fork'", "silent"]),
  ("multiprocessing.context.ForkProcess", ["below multiprocessing.process.BaseProcess",
  "statics _Popen", "constant _start_method 'fork'", "silent"]),
  ("multiprocessing.context.ForkServerContext", ["below multiprocessing.context.BaseContext",
  "functions _check_available", "classes Process=multiprocessing.context.ForkServerProcess",
  "constant _name 'forkserver'", "silent"]),
  ("multiprocessing.context.ForkServerProcess", ["below multiprocessing.process.BaseProcess",
  "statics _Popen", "constant _start_method 'forkserver'", "silent"]),
  ("multiprocessing.context.Process", ["below multiprocessing.process.BaseProcess", "statics _Popen
  _after_fork", "constant _start_method None", "silent"]),
  ("multiprocessing.context.ProcessError", ["below Exception", "open __weakref__", "silent"]),
  ("multiprocessing.context.SpawnContext", ["below multiprocessing.context.BaseContext",
  "classes Process=multiprocessing.context.SpawnProcess", "constant _name 'spawn'", "silent"]),
  ("multiprocessing.context.SpawnProcess", ["below multiprocessing.process.BaseProcess",
  "statics _Popen _after_fork", "constant _start_method 'spawn'", "silent"]),
  ("multiprocessing.context.TimeoutError", ["below multiprocessing.context.ProcessError",
  "silent"]),
  ("multiprocessing.dummy.DummyProcess", ["below threading.Thread", "functions __init__ start",
  "properties exitcode", "silent"]),
  ("multiprocessing.dummy.Namespace", ["open", "functions __init__ __repr__", "silent"]),
  ("multiprocessing.dummy.Value", ["open", "functions __init__ __repr__", "properties value",
  "silent", "part value.fset object('function')"]),
  ("multiprocessing.dummy.connection.Connection", ["open", "functions __init__ poll close __enter__
  __exit__", "silent"]),
  ("multiprocessing.dummy.connection.Listener", ["open", "functions __init__ accept close __enter__
  __exit__", "properties address", "silent"]),
  ("multiprocessing.forkserver.ForkServer", ["open", "functions __init__ _stop _stop_unlocked
  set_forkserver_preload get_inherited_fds connect_to_new_process ensure_running", "silent"]),
  ("multiprocessing.heap.Arena", ["open", "functions __init__ _choose_dir",
  "constant _dir_candidates ['/dev/shm']"]),
  ("multiprocessing.heap.BufferWrapper", ["open", "functions __init__ create_memoryview",
  "objects _heap=multiprocessing.heap.Heap", "silent"]),
  ("multiprocessing.heap.Heap", ["open", "functions __init__ _new_arena _discard_arena _malloc
  _add_free_block _absorb _remove_allocated_block _free_pending_blocks free malloc",
  "statics _roundup", "numbers _alignment=8 _DISCARD_FREE_SPACE_LARGER_THAN=4194304
  _DOUBLE_ARENA_SIZE_UNTIL=4194304", "silent"]),
  ("multiprocessing.managers.AcquirerProxy", ["below multiprocessing.managers.BaseProxy",
  "functions acquire release __enter__ __exit__", "constant _exposed_ ('acquire', 'release')",
  "silent"]),
  ("multiprocessing.managers.ArrayProxy", ["below multiprocessing.managers.BaseProxy",
  "functions __len__=:__len__ __getitem__=:__getitem__ __setitem__=:__setitem__", "silent",
  "constant _exposed_ ('__len__', '__getitem__', '__setitem__')"]),
  ("multiprocessing.managers.BarrierProxy", ["below multiprocessing.managers.BaseProxy",
  "functions wait abort reset", "properties parties n_waiting broken",
  "constant _exposed_ ('__getattribute__', 'wait', 'abort', 'reset')", "silent"]),
  ("multiprocessing.managers.BaseListProxy", ["below multiprocessing.managers.BaseProxy",
  "functions __add__=:__add__ __contains__=:__contains__ __delitem__=:__delitem__
  __getitem__=:__getitem__ __len__=:__len__ __mul__=:__mul__ __reversed__=:__reversed__
  __rmul__=:__rmul__ __setitem__=:__setitem__ append=:append count=:count extend=:extend
  index=:index insert=:insert pop=:pop remove=:remove reverse=:reverse sort=:sort
  __imul__=:__imul__", "silent",
  "constant _exposed_ ('__add__', '__contains__', '__delitem__', '__getitem__', '__len__', '__",
  "|mul__', '__reversed__', '__rmul__', '__setitem__', 'append', 'count', 'extend', 'index', '",
  "|insert', 'pop', 'remove', 'reverse', 'sort', '__imul__')"]),
  ("multiprocessing.managers.BaseManager", ["open", "functions __init__ get_server connect start
  _create join _debug_info _number_of_objects __enter__ __exit__", "class-functions _run_server
  register", "statics _finalize_manager", "properties address",
  "classes _Server=multiprocessing.managers.Server", "constant _registry \x7b\x7d"]),
  ("multiprocessing.managers.BaseProxy", ["open", "functions __init__ _connect _callmethod _getvalue
  _incref _after_fork __reduce__ __deepcopy__ __repr__ __str__", "statics _decref",
  "objects _mutex=multiprocessing.util.ForkAwareThreadLock",
  "constant _address_to_local \x7b\x7d"]),
  ("multiprocessing.managers.ConditionProxy", ["below multiprocessing.managers.AcquirerProxy",
  "functions wait notify notify_all wait_for",
  "constant _exposed_ ('acquire', 'release', 'wait', 'notify', 'notify_all')", "silent"]),
  ("multiprocessing.managers.DictProxy", ["below multiprocessing.managers.BaseProxy",
  "functions __contains__=:__contains__ __delitem__=:__delitem__ __getitem__=:__getitem__
  __iter__=:__iter__ __len__=:__len__ __setitem__=:__setitem__ clear=:clear copy=:copy get=:get
  items=:items keys=:keys pop=:pop popitem=:popitem setdefault=:setdefault update=:update
  values=:values", "silent",
  "constant _exposed_ ('__contains__', '__delitem__', '__getitem__', '__iter__', '__len__', '_",
  "|_setitem__', 'clear', 'copy', 'get', 'items', 'keys', 'pop', 'popitem', 'setdefault', 'upd",
  "|ate', 'values')", "constant _method_to_typeid_ \x7b'__iter__': 'Iterator'\x7d"]),
  ("multiprocessing.managers.EventProxy", ["below multiprocessing.managers.BaseProxy",
  "functions is_set set clear wait", "constant _exposed_ ('is_set', 'set', 'clear', 'wait')",
  "silent"]),
  ("multiprocessing.managers.IteratorProxy", ["below multiprocessing.managers.BaseProxy",
  "functions __iter__ __next__ send throw close",
  "constant _exposed_ ('__next__', 'send', 'throw', 'close')", "silent"]),
  ("multiprocessing.managers.ListProxy", ["below multiprocessing.managers.BaseListProxy",
  "functions __iadd__ __imul__", "silent"]),
  ("multiprocessing.managers.Namespace", ["open", "functions __init__ __repr__", "silent"]),
  ("multiprocessing.managers.NamespaceProxy", ["below multiprocessing.managers.BaseProxy",
  "functions __getattr__ __setattr__ __delattr__",
  "constant _exposed_ ('__getattribute__', '__setattr__', '__delattr__')", "silent"]),
  ("multiprocessing.managers.PoolProxy", ["below multiprocessing.managers.BaseProxy",
  "functions __enter__ __exit__ apply=:apply apply_async=:apply_async close=:close imap=:imap
  imap_unordered=:imap_unordered join=:join map=:map map_async=:map_async starmap=:starmap
  starmap_async=:starmap_async terminate=:terminate", "silent",
  "constant _exposed_ ('apply', 'apply_async', 'close', 'imap', 'imap_unordered', 'join', 'map",
  "|', 'map_async', 'starmap', 'starmap_async', 'terminate')",
  "constant _method_to_typeid_ \x7b'apply_async': 'AsyncResult', 'map_async': 'AsyncResult', '",
  "|starmap_async': 'AsyncResult', 'imap': 'Iterator', 'imap_unordered': 'Iterator'\x7d"]),
  ("multiprocessing.managers.ProcessLocalSet", ["below set", "open __dict__", "functions __init__
  __reduce__", "silent"]),
  ("multiprocessing.managers.RemoteError", ["below Exception", "open __weakref__",
  "functions __str__", "silent"]),
  ("multiprocessing.managers.Server", ["open", "functions __init__ serve_forever accepter
  _handle_request handle_request serve_client fallback_getvalue fallback_str fallback_repr dummy
  debug_info number_of_objects shutdown create get_methods accept_connection incref decref",
  "constant public ['shutdown', 'create', 'accept_connection', 'get_methods', 'debug_info', 'n",
  "|umber_of_objects', 'dummy', 'incref', 'decref']",
  "constant fallback_mapping \x7b'__str__': function(...), '__repr__': function(...), '#GETVAL",
  "|UE': function(...)\x7d"]),
  ("multiprocessing.managers.SharedMemoryManager", ["below multiprocessing.managers.BaseManager",
  "functions __init__ __del__ get_server SharedMemory ShareableList",
  "classes _Server=multiprocessing.managers.SharedMemoryServer"]),
  ("multiprocessing.managers.SharedMemoryServer", ["below multiprocessing.managers.Server",
  "functions __init__ create shutdown track_segment release_segment list_segments",
  "constant public ['shutdown', 'create', 'accept_connection', 'get_methods', 'debug_info', 'n",
  "|umber_of_objects', 'dummy', 'incref', 'decref', 'track_segment', 'release_segment', 'list_",
  "|segments']", "silent"]),
  ("multiprocessing.managers.State", ["slots value", "numbers INITIAL=0 STARTED=1 SHUTDOWN=2",
  "constant __slots__ ['value']", "silent"]),
  ("multiprocessing.managers.SyncManager", ["below multiprocessing.managers.BaseManager",
  "functions Queue=multiprocessing.managers:BaseManager.register.<locals>.temp
  JoinableQueue=multiprocessing.managers:BaseManager.register.<locals>.temp
  Event=multiprocessing.managers:BaseManager.register.<locals>.temp
  Lock=multiprocessing.managers:BaseManager.register.<locals>.temp
  RLock=multiprocessing.managers:BaseManager.register.<locals>.temp
  Semaphore=multiprocessing.managers:BaseManager.register.<locals>.temp
  BoundedSemaphore=multiprocessing.managers:BaseManager.register.<locals>.temp
  Condition=multiprocessing.managers:BaseManager.register.<locals>.temp
  Barrier=multiprocessing.managers:BaseManager.register.<locals>.temp
  Pool=multiprocessing.managers:BaseManager.register.<locals>.temp
  list=multiprocessing.managers:BaseManager.register.<locals>.temp
  dict=multiprocessing.managers:BaseManager.register.<locals>.temp
  Value=multiprocessing.managers:BaseManager.register.<locals>.temp
  Array=multiprocessing.managers:BaseManager.register.<locals>.temp
  Namespace=multiprocessing.managers:BaseManager.register.<locals>.temp",
  "constant _registry \x7b'Queue': (queue.Queue, None, None, function(...)), 'JoinableQueue': ",
  "|(queue.Queue, None, None, function(...)), 'Event': (threading.Event, ('is_set', 'set', 'cl",
  "|ear', 'wait'), None, multiprocessing.managers.EventProxy), 'Lock': (builtin_function_or_me",
  "|thod(...), ('acquire', 'release'), None, multiprocessing.managers.AcquirerProxy), 'RLock':",
  "| (function(...), ('acquire', 'release'), None, multiprocessing.managers.AcquirerProxy), 'S",
  "|emaphore': (threading.Semaphore, ('acquire', 'release'), None, multiprocessing.managers.Ac",
  "|quirerProxy), 'BoundedSemaphore': (threading.BoundedSemaphore, ('acquire', 'release'), Non",
  "|e, multiprocessing.managers.AcquirerProxy), 'Condition': (threading.Condition, ('acquire',",
  "| 'release', 'wait', 'notify', 'notify_all'), None, multiprocessing.managers.ConditionProxy",
  "|), 'Barrier': (threading.Barrier, ('__getattribute__', 'wait', 'abort', 'reset'), None, mu",
  "|ltiprocessing.managers.BarrierProxy), 'Pool': (multiprocessing.pool.Pool, ('apply', 'apply",
  "|_async', 'close', 'imap', 'imap_unordered', 'join', 'map', 'map_async', 'starmap', 'starma",
  "|p_async', 'terminate'), \x7b'apply_async': 'AsyncResult', 'map_async': 'AsyncResult', 'sta",
  "|rmap_async': 'AsyncResult', 'imap': 'Iterator', 'imap_unordered': 'Iterator'\x7d, multipro",
  "|cessing.managers.PoolProxy), 'list': (list, ('__add__', '__contains__', '__delitem__', '__",
  "|getitem__', '__len__', '__mul__', '__reversed__', '__rmul__', '__setitem__', 'append', 'co",
  "|unt', 'extend', 'index', 'insert', 'pop', 'remove', 'reverse', 'sort', '__imul__'), None, ",
  "|multiprocessing.managers.ListProxy), 'dict': (dict, ('__contains__', '__delitem__', '__get",
  "|item__', '__iter__', '__len__', '__setitem__', 'clear', 'copy', 'get', 'items', 'keys', 'p",
  "|op', 'popitem', 'setdefault', 'update', 'values'), \x7b'__iter__': 'Iterator'\x7d, multipr",
  "|ocessing.managers.DictProxy), 'Value': (multiprocessing.managers.Value, ('get', 'set'), No",
  "|ne, multiprocessing.managers.ValueProxy), 'Array': (function(...), ('__len__', '__getitem_",
  "|_', '__setitem__'), None, multiprocessing.managers.ArrayProxy), 'Namespace': (multiprocess",
  "|ing.managers.Namespace, ('__getattribute__', '__setattr__', '__delattr__'), None, multipro",
  "|cessing.managers.NamespaceProxy), 'Iterator': (None, ('__next__', 'send', 'throw', 'close'",
  "|), None, multiprocessing.managers.IteratorProxy), 'AsyncResult': (None, None, None, functi",
  "|on(...))\x7d"]),
  ("multiprocessing.managers.Token", ["functions __init__ __getstate__ __setstate__ __repr__",
  "slots address id typeid", "constant __slots__ ('typeid', 'address', 'id')"]),
  ("multiprocessing.managers.Value", ["open", "functions __init__ get set __repr__",
  "properties value", "silent", "part value.fget object('function')",
  "part value.fset object('function')"]),
  ("multiprocessing.managers.ValueProxy", ["below multiprocessing.managers.BaseProxy",
  "functions get set", "class-functions __class_getitem__", "properties value",
  "constant _exposed_ ('get', 'set')", "silent", "part value.fget object('function')",
  "part value.fset object('function')"]),
  ("multiprocessing.managers._SharedMemoryTracker", ["open", "functions __init__ register_segment
  destroy_segment unlink __del__ __getstate__ __setstate__"]),
  ("multiprocessing.pool.ApplyResult", ["open", "functions __init__ ready successful wait get _set",
  "class-functions __class_getitem__", "silent"]),
  ("multiprocessing.pool.ExceptionWithTraceback", ["open", "functions __init__ __reduce__",
  "silent"]),
  ("multiprocessing.pool.IMapIterator", ["open", "functions __init__ __iter__ next
  __next__=multiprocessing.pool:IMapIterator.next _set _set_length", "silent"]),
  ("multiprocessing.pool.IMapUnorderedIterator", ["below multiprocessing.pool.IMapIterator",
  "functions _set", "silent"]),
  ("multiprocessing.pool.MapResult", ["below multiprocessing.pool.ApplyResult", "functions __init__
  _set", "silent"]),
  ("multiprocessing.pool.MaybeEncodingError", ["below Exception", "open __weakref__",
  "functions __init__ __str__ __repr__"]),
  ("multiprocessing.pool.Pool", ["open", "functions __init__ __del__ __repr__ _get_sentinels
  _repopulate_pool _setup_queues _check_running apply map starmap starmap_async
  _guarded_task_generation imap imap_unordered apply_async map_async _map_async __reduce__ close
  terminate join __enter__ __exit__", "class-functions _handle_workers _terminate_pool",
  "statics Process _get_worker_sentinels _join_exited_workers _repopulate_pool_static _maintain_pool
  _wait_for_updates _handle_tasks _handle_results _get_tasks _help_stuff_finish",
  "constant _wrap_exception True"]),
  ("multiprocessing.pool.RemoteTraceback", ["below Exception", "open __weakref__",
  "functions __init__ __str__", "silent"]),
  ("multiprocessing.pool.ThreadPool", ["below multiprocessing.pool.Pool", "functions __init__
  _setup_queues _get_sentinels _wait_for_updates", "statics Process _get_worker_sentinels
  _help_stuff_finish", "constant _wrap_exception False", "silent"]),
  ("multiprocessing.pool._PoolCache", ["below dict", "open", "functions __init__ __delitem__"]),
  ("multiprocessing.popen_fork.Popen", ["open", "functions __init__ duplicate_for_child poll wait
  _send_signal terminate kill _launch close", "constant method 'fork'", "silent"]),
  ("multiprocessing.popen_forkserver.Popen", ["below multiprocessing.popen_fork.Popen",
  "functions __init__ duplicate_for_child _launch poll",
  "classes DupFd=multiprocessing.popen_forkserver._DupFd", "constant method 'forkserver'",
  "silent"]),
  ("multiprocessing.popen_forkserver._DupFd", ["open", "functions __init__ detach", "silent"]),
  ("multiprocessing.popen_spawn_posix.Popen", ["below multiprocessing.popen_fork.Popen",
  "functions __init__ duplicate_for_child _launch",
  "classes DupFd=multiprocessing.popen_spawn_posix._DupFd", "constant method 'spawn'", "silent"]),
  ("multiprocessing.popen_spawn_posix._DupFd", ["open", "functions __init__ detach", "silent"]),
  ("multiprocessing.process.AuthenticationString", ["below bytes", "open __dict__",
  "functions __reduce__", "silent"]),
  ("multiprocessing.process.BaseProcess", ["open", "functions _Popen __init__ _check_closed run
  start terminate kill join is_alive close __repr__ _bootstrap", "statics _after_fork",
  "properties name daemon authkey exitcode ident pid sentinel", "part name.fset object('function')",
  "part daemon.fset object('function')", "part authkey.fset object('function')",
  "part pid.fget object('function')"]),
  ("multiprocessing.process._MainProcess", ["below multiprocessing.process.BaseProcess",
  "functions __init__ close", "silent"]),
  ("multiprocessing.process._ParentProcess", ["below multiprocessing.process.BaseProcess",
  "functions __init__ is_alive join", "properties ident pid", "silent",
  "part pid.fget object('function')"]),
  ("multiprocessing.queues.JoinableQueue", ["below multiprocessing.queues.Queue",
  "functions __init__ __getstate__ __setstate__ put task_done join", "silent"]),
  ("multiprocessing.queues.Queue", ["open", "functions __init__ __getstate__ __setstate__
  _after_fork _reset put get qsize empty full get_nowait put_nowait close join_thread
  cancel_join_thread _start_thread", "statics _finalize_join _finalize_close _feed
  _on_queue_feeder_error", "silent"]),
  ("multiprocessing.queues.SimpleQueue", ["open", "functions __init__ close empty __getstate__
  __setstate__ get put", "class-functions __class_getitem__", "silent"]),
  ("multiprocessing.reduction.AbstractReducer", ["kind abc.ABCMeta", "open",
  "functions dump=multiprocessing.reduction:dump send_handle=multiprocessing.reduction:send_handle
  recv_handle=multiprocessing.reduction:recv_handle sendfds=multiprocessing.reduction:sendfds
  recvfds=multiprocessing.reduction:recvfds DupFd=multiprocessing.reduction:DupFd
  _reduce_method=multiprocessing.reduction:_reduce_method
  _reduce_method_descriptor=multiprocessing.reduction:_reduce_method_descriptor
  _rebuild_partial=multiprocessing.reduction:_rebuild_partial
  _reduce_socket=multiprocessing.reduction:_reduce_socket
  _rebuild_socket=multiprocessing.reduction:_rebuild_socket __init__",
  "classes ForkingPickler=multiprocessing.reduction.", "objects register=method"]),
  ("multiprocessing.reduction.ForkingPickler", ["below _pickle.Pickler", "open",
  "functions __init__", "builtins loads", "class-functions register dumps",
  "constant _extra_reducers \x7bmethod: function(...), method_descriptor: function(...), wrapp",
  "|er_descriptor: function(...), functools.partial: function(...), socket.socket: function(..",
  "|.), multiprocessing.connection.Connection: function(...), multiprocessing.heap.Arena: func",
  "|tion(...), array.array: function(...), dict_items: function(...), dict_keys: function(...)",
  "|, dict_values: function(...)\x7d",
  "constant _copyreg_dispatch_table \x7bcomplex: function(...), types.UnionType: function(...)",
  "|, re.Pattern: function(...)\x7d"]),
  ("multiprocessing.reduction._C", ["open", "functions f", "silent"]),
  ("multiprocessing.resource_sharer.DupFd", ["open", "functions __init__ detach"]),
  ("multiprocessing.resource_sharer._ResourceSharer", ["open", "functions __init__ register stop
  _afterfork _start _serve", "statics get_connection"]),
  ("multiprocessing.resource_tracker.ResourceTracker", ["open", "functions __init__
  _reentrant_call_error _stop getfd ensure_running _check_alive register unregister _send",
  "silent"]),
  ("multiprocessing.shared_memory.ShareableList", ["open", "functions __init__ _get_packing_format
  _get_back_transform _set_packing_format_and_transform __getitem__ __setitem__ __reduce__ __len__
  __repr__ count index", "class-functions __class_getitem__", "statics _extract_recreation_code",
  "properties format _format_size_metainfo _format_packing_metainfo _format_back_transform_codes
  _offset_data_start _offset_packing_formats _offset_back_transform_codes", "numbers _alignment=8",
  "constant _types_mapping \x7bint: 'q', float: 'd', bool: 'xxxxxxx?', str: '%ds', bytes: '%ds",
  "|', NoneType: 'xxxxxx?x'\x7d",
  "constant _back_transforms_mapping \x7b0: function(...), 1: function(...), 2: function(...),",
  "| 3: function(...)\x7d"]),
  ("multiprocessing.shared_memory.SharedMemory", ["open", "functions __init__ __del__ __reduce__
  __repr__ close unlink", "properties buf name size", "numbers _fd=-1 _flags=2 _mode=384",
  "constant _name None", "constant _mmap None", "constant _buf None",
  "constant _prepend_leading_slash True"]),
  ("multiprocessing.sharedctypes.Synchronized", [
  "below multiprocessing.sharedctypes.SynchronizedBase", "properties value", "silent",
  "part value.fget object('function')", "part value.fset object('function')"]),
  ("multiprocessing.sharedctypes.SynchronizedArray", [
  "below multiprocessing.sharedctypes.SynchronizedBase", "functions __len__ __getitem__ __setitem__
  __getslice__ __setslice__", "silent"]),
  ("multiprocessing.sharedctypes.SynchronizedBase", ["open", "functions __init__ __enter__ __exit__
  __reduce__ get_obj get_lock __repr__", "silent"]),
  ("multiprocessing.sharedctypes.SynchronizedString", [
  "below multiprocessing.sharedctypes.SynchronizedArray", "properties value raw", "silent",
  "part value.fget object('function')", "part value.fset object('function')",
  "part raw.fget object('function')", "part raw.fset object('function')"]),
  ("multiprocessing.synchronize.Barrier", ["below threading.Barrier", "functions __init__
  __setstate__ __getstate__", "properties _state _count", "silent",
  "part _state.fset object('function')", "part _count.fset object('function')"]),
  ("multiprocessing.synchronize.BoundedSemaphore", ["below multiprocessing.synchronize.Semaphore",
  "functions __init__ __repr__", "silent"]),
  ("multiprocessing.synchronize.Condition", ["open", "functions __init__ __getstate__ __setstate__
  __enter__ __exit__ _make_methods __repr__ wait notify notify_all wait_for", "silent"]),
  ("multiprocessing.synchronize.Event", ["open", "functions __init__ is_set set clear wait
  __repr__", "silent"]),
  ("multiprocessing.synchronize.Lock", ["below multiprocessing.synchronize.SemLock",
  "functions __init__ __repr__", "silent"]),
  ("multiprocessing.synchronize.RLock", ["below multiprocessing.synchronize.SemLock",
  "functions __init__ __repr__", "silent"]),
  ("multiprocessing.synchronize.SemLock", ["open", "functions __init__ _make_methods __enter__
  __exit__ __getstate__ __setstate__", "statics _cleanup _make_name",
  "holders _rand=tempfile._RandomNameSequence", "silent", "part _rand.rng object('random.Random')",
  "part _rand.__dict__ \x7b'_rng': object('random.Random'), '_rng_pid': 30046\x7d"]),
  ("multiprocessing.synchronize.Semaphore", ["below multiprocessing.synchronize.SemLock",
  "functions __init__ get_value __repr__", "silent"]),
  ("multiprocessing.util.Finalize", ["open", "functions __init__ __call__ cancel still_active
  __repr__"]),
  ("multiprocessing.util.ForkAwareLocal", ["below _thread._local", "open __dict__",
  "functions __init__ __reduce__", "silent"]),
  ("multiprocessing.util.ForkAwareThreadLock", ["open", "functions __init__ _at_fork_reinit
  __enter__ __exit__", "silent"]),
  ("select.epoll", ["shown select.epoll", "builtins __new__", "operations __getattribute__",
  "methods close fileno modify register unregister poll __enter__ __exit__",
  "class-builtins fromfd", "fields closed"]),
  ("selectors.BaseSelector", ["kind abc.ABCMeta", "open", "functions register unregister modify
  select close get_key get_map __enter__ __exit__", "part *.__isabstractmethod__ True", "of register
  unregister select get_map", "part *.__dict__ \x7b'__isabstractmethod__': True\x7d", "of register
  unregister select get_map"]),
  ("selectors.EpollSelector", ["below selectors._PollLikeSelector", "kind abc.ABCMeta",
  "functions fileno select close", "classes _selector_cls=select.epoll", "numbers _EVENT_READ=1
  _EVENT_WRITE=4"]),
  ("selectors.PollSelector", ["below selectors._PollLikeSelector", "kind abc.ABCMeta",
  "builtins _selector_cls", "numbers _EVENT_READ=1 _EVENT_WRITE=4"]),
  ("selectors.SelectSelector", ["below selectors._BaseSelectorImpl", "kind abc.ABCMeta",
  "functions __init__ register unregister select", "builtins _select"]),
  ("selectors.SelectorKey", ["below tuple", "functions _replace=collections:SelectorKey._replace
  __repr__=collections:SelectorKey.__repr__ _asdict=collections:SelectorKey._asdict
  __getnewargs__=collections:SelectorKey.__getnewargs__",
  "class-functions _make=collections:SelectorKey._make",
  "statics __new__=namedtuple_SelectorKey:SelectorKey.__new__",
  "objects fileobj=_collections._tuplegetter fd=_collections._tuplegetter
  events=_collections._tuplegetter data=_collections._tuplegetter", "constant __slots__ ()",
  "constant _fields ('fileobj', 'fd', 'events', 'data')", "constant _field_defaults \x7b\x7d",
  "constant __match_args__ ('fileobj', 'fd', 'events', 'data')"]),
  ("selectors._BaseSelectorImpl", ["below selectors.BaseSelector", "kind abc.ABCMeta",
  "functions __init__ _fileobj_lookup register unregister modify close get_map _key_from_fd"]),
  ("selectors._PollLikeSelector", ["below selectors._BaseSelectorImpl", "kind abc.ABCMeta",
  "functions __init__ register unregister modify select", "constant _selector_cls None",
  "constant _EVENT_READ None", "constant _EVENT_WRITE None"]),
  ("selectors._SelectorMapping", ["below collections.abc.Mapping", "kind abc.ABCMeta", "open",
  "functions __init__ __len__ __getitem__ __iter__"]),
  ("signal.Handlers", ["below enum.IntEnum", "kind enum.EnumType",
  "functions _generate_next_value_=enum:Enum._generate_next_value_ __new__=enum:Enum.__new__",
  "builtins _new_member_", "operations _value_repr_", "methods __format__",
  "classes _member_type_=int", "constant _use_args_ True", "constant _unhashable_values_ []",
  "values SIG_DFL=0 SIG_IGN=1", "style plain value"]),
  ("signal.Sigmasks", ["below enum.IntEnum", "kind enum.EnumType",
  "functions _generate_next_value_=enum:Enum._generate_next_value_ __new__=enum:Enum.__new__",
  "builtins _new_member_", "operations _value_repr_", "methods __format__",
  "classes _member_type_=int", "constant _use_args_ True", "constant _unhashable_values_ []",
  "values SIG_BLOCK=0 SIG_UNBLOCK=1 SIG_SETMASK=2", "style plain value"]),
  ("signal.Signals", ["below enum.IntEnum", "kind enum.EnumType",
  "functions _generate_next_value_=enum:Enum._generate_next_value_ __new__=enum:Enum.__new__",
  "builtins _new_member_", "operations _value_repr_", "methods __format__",
  "classes _member_type_=int", "constant _use_args_ True", "constant _unhashable_values_ []",
  "values SIGHUP=1 SIGINT=2 SIGQUIT=3 SIGILL=4 SIGTRAP=5 SIGABRT=6 SIGIOT=6 SIGBUS=7 SIGFPE=8
  SIGKILL=9 SIGUSR1=10 SIGSEGV=11 SIGUSR2=12 SIGPIPE=13 SIGALRM=14 SIGTERM=15 SIGSTKFLT=16
  SIGCHLD=17 SIGCLD=17 SIGCONT=18 SIGSTOP=19 SIGTSTP=20 SIGTTIN=21 SIGTTOU=22 SIGURG=23 SIGXCPU=24
  SIGXFSZ=25 SIGVTALRM=26 SIGPROF=27 SIGWINCH=28 SIGIO=29 SIGPOLL=29 SIGPWR=30 SIGSYS=31 SIGRTMIN=34
  SIGRTMAX=64", "style plain value"]),
  ("signal.itimer_error", ["below OSError", "open __weakref__", "silent"]),
  ("signal.struct_siginfo", ["below tuple", "shown signal.struct_siginfo", "builtins __new__",
  "operations __repr__", "methods __reduce__", "slots si_signo si_code si_errno si_pid si_uid
  si_status si_band", "numbers n_sequence_fields=7 n_fields=7 n_unnamed_fields=0",
  "constant __match_args__ ('si_signo', 'si_code', 'si_errno', 'si_pid', 'si_uid', 'si_status'",
  "|, 'si_band')"]),
  ("subprocess.CalledProcessError", ["below subprocess.SubprocessError", "functions __init__
  __str__", "properties stdout", "part stdout.fset object('function')"]),
  ("subprocess.CompletedProcess", ["open", "functions __init__ __repr__ check_returncode",
  "class-functions __class_getitem__"]),
  ("subprocess.Popen", ["open", "functions __init__ __repr__ _translate_newlines __enter__ __exit__
  __del__ _get_devnull _stdin_write communicate poll _remaining_time _check_timeout wait
  _close_pipe_fds _on_error_fd_closer _get_handles _posix_spawn _execute_child _handle_exitstatus
  _internal_poll _try_wait _wait _communicate _save_input send_signal terminate kill",
  "class-functions __class_getitem__", "properties universal_newlines",
  "constant _child_created False", "part _on_error_fd_closer.__wrapped__ object('function')",
  "part _on_error_fd_closer.__dict__ \x7b'__wrapped__': object('function')\x7d",
  "part universal_newlines.fset object('function')"]),
  ("subprocess.SubprocessError", ["below Exception", "open __weakref__", "silent"]),
  ("subprocess.TimeoutExpired", ["below subprocess.SubprocessError", "functions __init__ __str__",
  "properties stdout", "part stdout.fset object('function')"]),
  ("threading.Barrier", ["open", "functions __init__ __repr__ wait _enter _release _wait _exit reset
  abort _break", "properties parties n_waiting broken"]),
  ("threading.BoundedSemaphore", ["below threading.Semaphore", "functions __init__ __repr__
  release"]),
  ("threading.BrokenBarrierError", ["below RuntimeError", "open __weakref__", "silent"]),
  ("threading.Condition", ["open", "functions __init__ _at_fork_reinit __enter__ __exit__ __repr__
  _release_save _acquire_restore _is_owned wait wait_for notify notify_all notifyAll"]),
  ("threading.Event", ["open", "functions __init__ __repr__ _at_fork_reinit is_set isSet set clear
  wait"]),
  ("threading.Semaphore", ["open", "functions __init__ __repr__ acquire
  __enter__=threading:Semaphore.acquire release __exit__"]),
  ("threading.Thread", ["open", "functions __init__ _reset_internal_locks __repr__ start run
  _bootstrap _set_ident _set_native_id _set_tstate_lock _bootstrap_inner _stop _delete join
  _wait_for_tstate_lock is_alive isDaemon setDaemon getName setName", "properties name ident
  native_id daemon", "constant _initialized False", "part name.fset object('function')",
  "part daemon.fset object('function')"]),
  ("threading.Timer", ["below threading.Thread", "functions __init__ cancel run"]),
  ("threading._DummyThread", ["below threading.Thread", "functions __init__ _stop is_alive join",
  "silent"]),
  ("threading._MainThread", ["below threading.Thread", "functions __init__", "silent"]),
  ("threading._RLock", ["open", "functions __init__ __repr__ _at_fork_reinit acquire
  __enter__=threading:_RLock.acquire release __exit__ _acquire_restore _release_save _is_owned
  _recursion_count"])]

end FragmentWeaver.Standard
