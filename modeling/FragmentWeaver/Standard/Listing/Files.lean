/-!
# Listing: files, paths and streams

What stands in the modules and classes for files, paths and streams.
-/

namespace FragmentWeaver.Standard

/-- The modules for files, paths and streams. -/
def filesModules : List (String × List String) := [
  ("_io", ["built-in", "builtins open=io: open_code=io: text_encoding=io:",
  "classes BlockingIOError= BufferedRWPair BufferedRandom BufferedReader BufferedWriter BytesIO
  FileIO IncrementalNewlineDecoder StringIO TextIOWrapper UnsupportedOperation=io. _BufferedIOBase
  _IOBase _RawIOBase _TextIOBase", "numbers DEFAULT_BUFFER_SIZE=8192"]),
  ("_pyio", ["functions __getattr__ _open_code_with_warning text_encoding",
  "builtins Lock=_thread:allocate_lock open_code=io:", "classes BlockingIOError= BufferedIOBase
  BufferedRWPair BufferedRandom BufferedReader BufferedWriter BytesIO FileIO IOBase
  IncrementalNewlineDecoder RawIOBase StringIO TextIOBase TextIOWrapper UnsupportedOperation=io.
  _BufferedIOMixin", "objects open=staticmethod valid_seek_flags=set", "modules abc= codecs= errno=
  io= os= stat= sys=", "numbers DEFAULT_BUFFER_SIZE=8192 SEEK_CUR=1 SEEK_END=2 SEEK_SET=0",
  "constant _CHECK_ERRORS False", "constant _IOBASE_EMITS_UNRAISABLE False",
  "constant _setmode None", "exports BlockingIOError open open_code IOBase RawIOBase FileIO BytesIO
  StringIO BufferedIOBase BufferedReader BufferedWriter BufferedRWPair BufferedRandom TextIOBase
  TextIOWrapper UnsupportedOperation SEEK_SET SEEK_CUR SEEK_END DEFAULT_BUFFER_SIZE text_encoding
  IncrementalNewlineDecoder", "same OpenWrapper=_pyio.open"]),
  ("_stat", ["built-in", "builtins S_IFMT S_IMODE S_ISBLK S_ISCHR S_ISDIR S_ISDOOR S_ISFIFO S_ISLNK
  S_ISPORT S_ISREG S_ISSOCK S_ISWHT filemode", "numbers SF_APPEND=262144 SF_ARCHIVED=65536
  SF_IMMUTABLE=131072 SF_NOUNLINK=1048576 SF_SNAPSHOT=2097152 ST_ATIME=7 ST_CTIME=9 ST_DEV=2
  ST_GID=5 ST_INO=1 ST_MODE=0 ST_MTIME=8 ST_NLINK=3 ST_SIZE=6 ST_UID=4 S_ENFMT=1024 S_IEXEC=64
  S_IFBLK=24576 S_IFCHR=8192 S_IFDIR=16384 S_IFDOOR=0 S_IFIFO=4096 S_IFLNK=40960 S_IFPORT=0
  S_IFREG=32768 S_IFSOCK=49152 S_IFWHT=0 S_IREAD=256 S_IRGRP=32 S_IROTH=4 S_IRUSR=256 S_IRWXG=56
  S_IRWXO=7 S_IRWXU=448 S_ISGID=1024 S_ISUID=2048 S_ISVTX=512 S_IWGRP=16 S_IWOTH=2 S_IWRITE=128
  S_IWUSR=128 S_IXGRP=8 S_IXOTH=1 S_IXUSR=64 UF_APPEND=4 UF_COMPRESSED=32 UF_HIDDEN=32768
  UF_IMMUTABLE=2 UF_NODUMP=1 UF_NOUNLINK=16 UF_OPAQUE=8"]),
  ("errno", ["built-in", "numbers E2BIG=7 EACCES=13 EADDRINUSE=98 EADDRNOTAVAIL=99 EADV=68
  EAFNOSUPPORT=97 EAGAIN=11 EALREADY=114 EBADE=52 EBADF=9 EBADFD=77 EBADMSG=74 EBADR=53 EBADRQC=56
  EBADSLT=57 EBFONT=59 EBUSY=16 ECANCELED=125 ECHILD=10 ECHRNG=44 ECOMM=70 ECONNABORTED=103
  ECONNREFUSED=111 ECONNRESET=104 EDEADLK=35 EDEADLOCK=35 EDESTADDRREQ=89 EDOM=33 EDOTDOT=73
  EDQUOT=122 EEXIST=17 EFAULT=14 EFBIG=27 EHOSTDOWN=112 EHOSTUNREACH=113 EIDRM=43 EILSEQ=84
  EINPROGRESS=115 EINTR=4 EINVAL=22 EIO=5 EISCONN=106 EISDIR=21 EISNAM=120 EKEYEXPIRED=127
  EKEYREJECTED=129 EKEYREVOKED=128 EL2HLT=51 EL2NSYNC=45 EL3HLT=46 EL3RST=47 ELIBACC=79 ELIBBAD=80
  ELIBEXEC=83 ELIBMAX=82 ELIBSCN=81 ELNRNG=48 ELOOP=40 EMEDIUMTYPE=124 EMFILE=24 EMLINK=31
  EMSGSIZE=90 EMULTIHOP=72 ENAMETOOLONG=36 ENAVAIL=119 ENETDOWN=100 ENETRESET=102 ENETUNREACH=101
  ENFILE=23 ENOANO=55 ENOBUFS=105 ENOCSI=50 ENODATA=61 ENODEV=19 ENOENT=2 ENOEXEC=8 ENOKEY=126
  ENOLCK=37 ENOLINK=67 ENOMEDIUM=123 ENOMEM=12 ENOMSG=42 ENONET=64 ENOPKG=65 ENOPROTOOPT=92
  ENOSPC=28 ENOSR=63 ENOSTR=60 ENOSYS=38 ENOTBLK=15 ENOTCONN=107 ENOTDIR=20 ENOTEMPTY=39 ENOTNAM=118
  ENOTRECOVERABLE=131 ENOTSOCK=88 ENOTSUP=95 ENOTTY=25 ENOTUNIQ=76 ENXIO=6 EOPNOTSUPP=95
  EOVERFLOW=75 EOWNERDEAD=130 EPERM=1 EPFNOSUPPORT=96 EPIPE=32 EPROTO=71 EPROTONOSUPPORT=93
  EPROTOTYPE=91 ERANGE=34 EREMCHG=78 EREMOTE=66 EREMOTEIO=121 ERESTART=85 ERFKILL=132 EROFS=30
  ESHUTDOWN=108 ESOCKTNOSUPPORT=94 ESPIPE=29 ESRCH=3 ESRMNT=69 ESTALE=116 ESTRPIPE=86 ETIME=62
  ETIMEDOUT=110 ETOOMANYREFS=109 ETXTBSY=26 EUCLEAN=117 EUNATCH=49 EUSERS=87 EWOULDBLOCK=11 EXDEV=18
  EXFULL=54",
  "constant errorcode \x7b19: 'ENODEV', 50: 'ENOCSI', 113: 'EHOSTUNREACH', 42: 'ENOMSG', 117: ",
  "|'EUCLEAN', 45: 'EL2NSYNC', 51: 'EL2HLT', 61: 'ENODATA', 15: 'ENOTBLK', 38: 'ENOSYS', 32: '",
  "|EPIPE', 22: 'EINVAL', 75: 'EOVERFLOW', 68: 'EADV', 4: 'EINTR', 87: 'EUSERS', 39: 'ENOTEMPT",
  "|Y', 105: 'ENOBUFS', 71: 'EPROTO', 66: 'EREMOTE', 119: 'ENAVAIL', 10: 'ECHILD', 40: 'ELOOP'",
  "|, 18: 'EXDEV', 7: 'E2BIG', 3: 'ESRCH', 90: 'EMSGSIZE', 97: 'EAFNOSUPPORT', 53: 'EBADR', 11",
  "|2: 'EHOSTDOWN', 96: 'EPFNOSUPPORT', 92: 'ENOPROTOOPT', 16: 'EBUSY', 11: 'EAGAIN', 77: 'EBA",
  "|DFD', 73: 'EDOTDOT', 106: 'EISCONN', 55: 'ENOANO', 108: 'ESHUTDOWN', 44: 'ECHRNG', 80: 'EL",
  "|IBBAD', 64: 'ENONET', 52: 'EBADE', 9: 'EBADF', 72: 'EMULTIHOP', 5: 'EIO', 49: 'EUNATCH', 9",
  "|1: 'EPROTOTYPE', 28: 'ENOSPC', 8: 'ENOEXEC', 114: 'EALREADY', 100: 'ENETDOWN', 118: 'ENOTN",
  "|AM', 13: 'EACCES', 48: 'ELNRNG', 84: 'EILSEQ', 20: 'ENOTDIR', 76: 'ENOTUNIQ', 1: 'EPERM', ",
  "|33: 'EDOM', 54: 'EXFULL', 111: 'ECONNREFUSED', 21: 'EISDIR', 93: 'EPROTONOSUPPORT', 30: 'E",
  "|ROFS', 99: 'EADDRNOTAVAIL', 43: 'EIDRM', 70: 'ECOMM', 69: 'ESRMNT', 121: 'EREMOTEIO', 47: ",
  "|'EL3RST', 74: 'EBADMSG', 23: 'ENFILE', 82: 'ELIBMAX', 29: 'ESPIPE', 67: 'ENOLINK', 102: 'E",
  "|NETRESET', 110: 'ETIMEDOUT', 2: 'ENOENT', 17: 'EEXIST', 122: 'EDQUOT', 60: 'ENOSTR', 57: '",
  "|EBADSLT', 56: 'EBADRQC', 79: 'ELIBACC', 14: 'EFAULT', 27: 'EFBIG', 35: 'EDEADLOCK', 107: '",
  "|ENOTCONN', 89: 'EDESTADDRREQ', 81: 'ELIBSCN', 37: 'ENOLCK', 120: 'EISNAM', 103: 'ECONNABOR",
  "|TED', 101: 'ENETUNREACH', 116: 'ESTALE', 63: 'ENOSR', 12: 'ENOMEM', 88: 'ENOTSOCK', 86: 'E",
  "|STRPIPE', 31: 'EMLINK', 34: 'ERANGE', 83: 'ELIBEXEC', 46: 'EL3HLT', 104: 'ECONNRESET', 98:",
  "| 'EADDRINUSE', 95: 'ENOTSUP', 78: 'EREMCHG', 36: 'ENAMETOOLONG', 25: 'ENOTTY', 85: 'ERESTA",
  "|RT', 94: 'ESOCKTNOSUPPORT', 62: 'ETIME', 59: 'EBFONT', 109: 'ETOOMANYREFS', 24: 'EMFILE', ",
  "|26: 'ETXTBSY', 115: 'EINPROGRESS', 6: 'ENXIO', 65: 'ENOPKG', 123: 'ENOMEDIUM', 124: 'EMEDI",
  "|UMTYPE', 125: 'ECANCELED', 126: 'ENOKEY', 127: 'EKEYEXPIRED', 128: 'EKEYREVOKED', 129: 'EK",
  "|EYREJECTED', 130: 'EOWNERDEAD', 131: 'ENOTRECOVERABLE', 132: 'ERFKILL'\x7d"]),
  ("fcntl", ["built-in", "builtins fcntl flock ioctl lockf", "numbers DN_ACCESS=1 DN_ATTRIB=32
  DN_CREATE=4 DN_DELETE=8 DN_MODIFY=2 DN_MULTISHOT=2147483648 DN_RENAME=16 FASYNC=8192 FD_CLOEXEC=1
  F_ADD_SEALS=1033 F_DUPFD=0 F_DUPFD_CLOEXEC=1030 F_EXLCK=4 F_GETFD=1 F_GETFL=3 F_GETLEASE=1025
  F_GETLK=5 F_GETLK64=5 F_GETOWN=9 F_GETPIPE_SZ=1032 F_GETSIG=11 F_GET_SEALS=1034 F_NOTIFY=1026
  F_OFD_GETLK=36 F_OFD_SETLK=37 F_OFD_SETLKW=38 F_RDLCK=0 F_SEAL_GROW=4 F_SEAL_SEAL=1
  F_SEAL_SHRINK=2 F_SEAL_WRITE=8 F_SETFD=2 F_SETFL=4 F_SETLEASE=1024 F_SETLK=6 F_SETLK64=6
  F_SETLKW=7 F_SETLKW64=7 F_SETOWN=8 F_SETPIPE_SZ=1031 F_SETSIG=10 F_SHLCK=8 F_UNLCK=2 F_WRLCK=1
  LOCK_EX=2 LOCK_MAND=32 LOCK_NB=4 LOCK_READ=64 LOCK_RW=192 LOCK_SH=1 LOCK_UN=8 LOCK_WRITE=128"]),
  ("filecmp", ["functions _cmp _do_cmp _filter _sig clear_cache cmp cmpfiles demo",
  "classes GenericAlias=types. dircmp filterfalse=itertools.", "modules os= stat=",
  "numbers BUFSIZE=8192",
  "constant DEFAULT_IGNORES ['RCS', 'CVS', 'tags', '.git', '.hg', '.bzr', '_darcs', '__pycache",
  "|__']", "constant _cache \x7b\x7d", "exports clear_cache cmp dircmp cmpfiles DEFAULT_IGNORES"]),
  ("fileinput", ["functions _test close filelineno filename fileno hook_compressed hook_encoded
  input isfirstline isstdin lineno nextfile", "classes FileInput GenericAlias=types.", "modules io=
  os= sys=", "constant _state None", "exports input close nextfile filename lineno filelineno fileno
  isfirstline isstdin FileInput hook_compressed hook_encoded"]),
  ("fnmatch", ["functions filter fnmatch fnmatchcase translate",
  "objects _compile_pattern=functools._lru_cache_wrapper", "modules functools= os= posixpath= re=",
  "exports filter fnmatch fnmatchcase translate"]),
  ("genericpath", ["frozen", "functions _check_arg_types _splitext commonprefix exists getatime
  getctime getmtime getsize isdir isfile samefile sameopenfile samestat", "modules os= stat=",
  "exports commonprefix exists getatime getctime getmtime getsize isdir isfile samefile sameopenfile
  samestat"]),
  ("glob", ["functions _glob0 _glob1 _glob2 _iglob _isdir _ishidden _isrecursive _iterdir _join
  _lexists _listdir _rlistdir escape glob glob0 glob1 has_magic iglob",
  "holders magic_check=re.Pattern magic_check_bytes=re.Pattern", "modules contextlib= fnmatch=
  itertools= os= re= stat= sys=", "numbers _dir_open_flags=65536", "exports glob iglob escape",
  "part magic_check.groups 1", "part magic_check.pattern '([*?[])'",
  "part magic_check_bytes.flags 0", "part magic_check_bytes.groups 1",
  "part magic_check_bytes.pattern b'([*?[])'"]),
  ("io", ["frozen", "functions __getattr__", "builtins open open_code text_encoding",
  "classes BlockingIOError= BufferedIOBase BufferedRWPair=_io. BufferedRandom=_io.
  BufferedReader=_io. BufferedWriter=_io. BytesIO=_io. FileIO=_io. IOBase
  IncrementalNewlineDecoder=_io. RawIOBase StringIO=_io. TextIOBase TextIOWrapper=_io.
  UnsupportedOperation", "modules _io= abc=", "numbers DEFAULT_BUFFER_SIZE=8192 SEEK_CUR=1
  SEEK_END=2 SEEK_SET=0",
  "constant __author__ \"Guido van Rossum <guido\\x40python.org>, Mike Verdone <mike.verdone\\",
  "|x40gmail.com>, Mark Russell <mark.russell\\x40zen.co.uk>, Antoine Pitrou <solipsis\\x40pit",
  "|rou.net>, Amaury Forgeot d'Arc <amauryfa\\x40gmail.com>, Benjamin Peterson <benjamin\\x40p",
  "|ython.org>\"", "exports BlockingIOError open open_code IOBase RawIOBase FileIO BytesIO StringIO
  BufferedIOBase BufferedReader BufferedWriter BufferedRWPair BufferedRandom TextIOBase
  TextIOWrapper UnsupportedOperation SEEK_SET SEEK_CUR SEEK_END", "same OpenWrapper=io.open"]),
  ("linecache", ["functions checkcache clearcache getline getlines lazycache updatecache",
  "modules functools= os= sys= tokenize=", "constant cache \x7b\x7d", "exports getline clearcache
  checkcache lazycache"]),
  ("mmap", ["extension", "classes error=OSError mmap", "numbers ACCESS_COPY=3 ACCESS_DEFAULT=0
  ACCESS_READ=1 ACCESS_WRITE=2 ALLOCATIONGRANULARITY=4096 MADV_DODUMP=17 MADV_DOFORK=11
  MADV_DONTDUMP=16 MADV_DONTFORK=10 MADV_DONTNEED=4 MADV_FREE=8 MADV_HUGEPAGE=14 MADV_HWPOISON=100
  MADV_MERGEABLE=12 MADV_NOHUGEPAGE=15 MADV_NORMAL=0 MADV_RANDOM=1 MADV_REMOVE=9 MADV_SEQUENTIAL=2
  MADV_UNMERGEABLE=13 MADV_WILLNEED=3 MAP_ANON=32 MAP_ANONYMOUS=32 MAP_DENYWRITE=2048
  MAP_EXECUTABLE=4096 MAP_POPULATE=32768 MAP_PRIVATE=2 MAP_SHARED=1 MAP_STACK=131072 PAGESIZE=4096
  PROT_EXEC=4 PROT_READ=1 PROT_WRITE=2", "constant __doc__ None"]),
  ("ntpath", ["functions _abspath_fallback _get_bothseps abspath=ntpath:_abspath_fallback basename
  commonpath commonprefix=genericpath: dirname exists=genericpath: expanduser expandvars
  getatime=genericpath: getctime=genericpath: getmtime=genericpath: getsize=genericpath: isabs
  isdir=genericpath: isfile=genericpath: islink ismount join lexists normcase normpath
  realpath=ntpath:_abspath_fallback relpath samefile=genericpath: sameopenfile=genericpath:
  samestat=genericpath: split splitdrive splitext", "modules genericpath= os= stat= sys=",
  "constant _getvolumepathname None", "constant altsep '/'", "constant curdir '.'",
  "constant defpath '.;C:\\\\bin'", "constant devnull 'nul'", "constant extsep '.'",
  "constant pardir '..'", "constant pathsep ';'", "constant sep '\\\\'",
  "constant supports_unicode_filenames False", "exports normcase isabs join splitdrive split
  splitext basename dirname commonprefix getsize getmtime getatime getctime islink exists lexists
  isdir isfile ismount expanduser expandvars normpath abspath curdir pardir sep pathsep defpath
  altsep extsep devnull realpath supports_unicode_filenames relpath samefile sameopenfile samestat
  commonpath"]),
  ("nturl2path", ["functions pathname2url url2pathname"]),
  ("os", ["frozen", "takes posix", "functions _check_methods=collections.abc: _execvpe _exists
  _fspath _fwalk _get_exports_list _spawnvef _walk execl execle execlp execlpe execvp execvpe fdopen
  fsdecode=os:_fscodec.<locals>.fsdecode fsencode=os:_fscodec.<locals>.fsencode fwalk get_exec_path
  getenv getenvb makedirs popen removedirs renames spawnl spawnle spawnlp spawnlpe spawnv spawnve
  spawnvp spawnvpe walk", "builtins _exit=posix: copy_file_range getrandom memfd_create pidfd_open",
  "classes GenericAlias=types. Mapping=collections.abc. MutableMapping=collections.abc. PathLike
  _Environ _wrap_close", "objects environ=os._Environ environb=os._Environ supports_dir_fd=set
  supports_effective_ids=set supports_fd=set supports_follow_symlinks=set", "modules abc=
  path=posixpath st=stat sys=", "numbers GRND_NONBLOCK=1 GRND_RANDOM=2 MFD_ALLOW_SEALING=2
  MFD_CLOEXEC=1 MFD_HUGETLB=4 MFD_HUGE_16GB=2281701376 MFD_HUGE_16MB=1610612736
  MFD_HUGE_1GB=2013265920 MFD_HUGE_1MB=1342177280 MFD_HUGE_256MB=1879048192 MFD_HUGE_2GB=2080374784
  MFD_HUGE_2MB=1409286144 MFD_HUGE_32MB=1677721600 MFD_HUGE_512KB=1275068416
  MFD_HUGE_512MB=1946157056 MFD_HUGE_64KB=1073741824 MFD_HUGE_8MB=1543503872 MFD_HUGE_MASK=63
  MFD_HUGE_SHIFT=26 P_NOWAIT=1 P_NOWAITO=1 P_PIDFD=3 P_WAIT=0 RWF_APPEND=16 RWF_DSYNC=2 RWF_HIPRI=1
  RWF_NOWAIT=8 RWF_SYNC=4 SEEK_CUR=1 SEEK_END=2 SEEK_SET=0", "constant altsep None",
  "constant curdir '.'", "constant defpath '/bin:/usr/bin'", "constant devnull '/dev/null'",
  "constant extsep '.'", "constant linesep '\\n'", "constant name 'posix'", "constant pardir '..'",
  "constant pathsep ':'", "constant sep '/'", "constant supports_bytes_environ True",
  "exports altsep curdir pardir sep pathsep linesep defpath name path devnull SEEK_SET SEEK_CUR
  SEEK_END fsencode fsdecode get_exec_path fdopen extsep _exit CLD_CONTINUED CLD_DUMPED CLD_EXITED
  CLD_KILLED CLD_STOPPED CLD_TRAPPED DirEntry EFD_CLOEXEC EFD_NONBLOCK EFD_SEMAPHORE EX_CANTCREAT
  EX_CONFIG EX_DATAERR EX_IOERR EX_NOHOST EX_NOINPUT EX_NOPERM EX_NOUSER EX_OK EX_OSERR EX_OSFILE
  EX_PROTOCOL EX_SOFTWARE EX_TEMPFAIL EX_UNAVAILABLE EX_USAGE F_LOCK F_OK F_TEST F_TLOCK F_ULOCK
  GRND_NONBLOCK GRND_RANDOM MFD_ALLOW_SEALING MFD_CLOEXEC MFD_HUGETLB MFD_HUGE_16GB MFD_HUGE_16MB
  MFD_HUGE_1GB MFD_HUGE_1MB MFD_HUGE_256MB MFD_HUGE_2GB MFD_HUGE_2MB MFD_HUGE_32MB MFD_HUGE_512KB
  MFD_HUGE_512MB MFD_HUGE_64KB MFD_HUGE_8MB MFD_HUGE_MASK MFD_HUGE_SHIFT NGROUPS_MAX O_ACCMODE
  O_APPEND O_ASYNC O_CLOEXEC O_CREAT O_DIRECT O_DIRECTORY O_DSYNC O_EXCL O_FSYNC O_LARGEFILE
  O_NDELAY O_NOATIME O_NOCTTY O_NOFOLLOW O_NONBLOCK O_PATH O_RDONLY O_RDWR O_RSYNC O_SYNC O_TMPFILE
  O_TRUNC O_WRONLY POSIX_FADV_DONTNEED POSIX_FADV_NOREUSE POSIX_FADV_NORMAL POSIX_FADV_RANDOM
  POSIX_FADV_SEQUENTIAL POSIX_FADV_WILLNEED POSIX_SPAWN_CLOSE POSIX_SPAWN_DUP2 POSIX_SPAWN_OPEN
  PRIO_PGRP PRIO_PROCESS PRIO_USER P_ALL P_PGID P_PID P_PIDFD RTLD_DEEPBIND RTLD_GLOBAL RTLD_LAZY
  RTLD_LOCAL RTLD_NODELETE RTLD_NOLOAD RTLD_NOW RWF_APPEND RWF_DSYNC RWF_HIPRI RWF_NOWAIT RWF_SYNC
  R_OK SCHED_BATCH SCHED_FIFO SCHED_IDLE SCHED_OTHER SCHED_RESET_ON_FORK SCHED_RR SEEK_DATA
  SEEK_HOLE SPLICE_F_MORE SPLICE_F_MOVE SPLICE_F_NONBLOCK ST_APPEND ST_MANDLOCK ST_NOATIME ST_NODEV
  ST_NODIRATIME ST_NOEXEC ST_NOSUID ST_RDONLY ST_RELATIME ST_SYNCHRONOUS ST_WRITE TMP_MAX WCONTINUED
  WCOREDUMP WEXITED WEXITSTATUS WIFCONTINUED WIFEXITED WIFSIGNALED WIFSTOPPED WNOHANG WNOWAIT
  WSTOPPED WSTOPSIG WTERMSIG WUNTRACED W_OK XATTR_CREATE XATTR_REPLACE XATTR_SIZE_MAX X_OK abort
  access chdir chmod chown chroot close closerange confstr confstr_names copy_file_range cpu_count
  ctermid device_encoding dup dup2 environ error eventfd eventfd_read eventfd_write execv execve
  fchdir fchmod fchown fdatasync fork forkpty fpathconf fspath fstat fstatvfs fsync ftruncate
  get_blocking get_inheritable get_terminal_size getcwd getcwdb getegid geteuid getgid getgrouplist
  getgroups getloadavg getlogin getpgid getpgrp getpid getppid getpriority getrandom getresgid
  getresuid getsid getuid getxattr initgroups isatty kill killpg lchown link listdir listxattr lockf
  login_tty lseek lstat major makedev memfd_create minor mkdir mkfifo mknod nice open openpty
  pathconf pathconf_names pidfd_open pipe pipe2 posix_fadvise posix_fallocate posix_spawn
  posix_spawnp pread preadv putenv pwrite pwritev read readlink readv register_at_fork remove
  removexattr rename replace rmdir scandir sched_get_priority_max sched_get_priority_min
  sched_getaffinity sched_getparam sched_getscheduler sched_param sched_rr_get_interval
  sched_setaffinity sched_setparam sched_setscheduler sched_yield sendfile set_blocking
  set_inheritable setegid seteuid setgid setgroups setpgid setpgrp setpriority setregid setresgid
  setresuid setreuid setsid setuid setxattr splice stat stat_result statvfs statvfs_result strerror
  symlink sync sysconf sysconf_names system tcgetpgrp tcsetpgrp terminal_size times times_result
  truncate ttyname umask uname uname_result unlink unsetenv urandom utime wait wait3 wait4 waitid
  waitid_result waitpid waitstatus_to_exitcode write writev makedirs removedirs renames walk fwalk
  execl execle execlp execlpe execvp execvpe getenv supports_bytes_environ environb getenvb P_WAIT
  P_NOWAIT P_NOWAITO spawnv spawnve spawnvp spawnvpe spawnl spawnle spawnlp spawnlpe popen"]),
  ("pathlib", ["functions _ignore_error _is_wildcard_pattern
  urlquote_from_bytes=urllib.parse:quote_from_bytes", "builtins S_ISBLK=_stat: S_ISCHR=_stat:
  S_ISDIR=_stat: S_ISFIFO=_stat: S_ISLNK=_stat: S_ISREG=_stat: S_ISSOCK=_stat:", "classes Path
  PosixPath PurePath PurePosixPath PureWindowsPath Sequence=collections.abc. WindowsPath _Flavour
  _PathParents _PosixFlavour _PreciseSelector _RecursiveWildcardSelector _Selector
  _TerminatingSelector _WildcardSelector _WindowsFlavour attrgetter=operator.",
  "objects _make_selector=functools._lru_cache_wrapper _posix_flavour=pathlib._PosixFlavour
  _windows_flavour=pathlib._WindowsFlavour", "modules fnmatch= functools= io= ntpath= os= posixpath=
  re= sys= warnings=", "numbers EBADF=9 ELOOP=40 ENOENT=2 ENOTDIR=20
  _WINERROR_CANT_RESOLVE_FILENAME=1921 _WINERROR_INVALID_NAME=123 _WINERROR_NOT_READY=21",
  "constant _IGNORED_ERRNOS (2, 20, 9, 40)", "constant _IGNORED_WINERRORS (21, 123, 1921)",
  "constant __doc__ None", "exports PurePath PurePosixPath PureWindowsPath Path PosixPath
  WindowsPath"]),
  ("posix", ["built-in", "builtins WCOREDUMP WEXITSTATUS WIFCONTINUED WIFEXITED WIFSIGNALED
  WIFSTOPPED WSTOPSIG WTERMSIG _exit _path_normpath abort access chdir chmod chown chroot close
  closerange confstr copy_file_range cpu_count ctermid device_encoding dup dup2 eventfd eventfd_read
  eventfd_write execv execve fchdir fchmod fchown fdatasync fork forkpty fpathconf fspath fstat
  fstatvfs fsync ftruncate get_blocking get_inheritable get_terminal_size getcwd getcwdb getegid
  geteuid getgid getgrouplist getgroups getloadavg getlogin getpgid getpgrp getpid getppid
  getpriority getrandom getresgid getresuid getsid getuid getxattr initgroups isatty kill killpg
  lchown link listdir listxattr lockf login_tty lseek lstat major makedev memfd_create minor mkdir
  mkfifo mknod nice open openpty pathconf pidfd_open pipe pipe2 posix_fadvise posix_fallocate
  posix_spawn posix_spawnp pread preadv putenv pwrite pwritev read readlink readv register_at_fork
  remove removexattr rename replace rmdir scandir sched_get_priority_max sched_get_priority_min
  sched_getaffinity sched_getparam sched_getscheduler sched_rr_get_interval sched_setaffinity
  sched_setparam sched_setscheduler sched_yield sendfile set_blocking set_inheritable setegid
  seteuid setgid setgroups setpgid setpgrp setpriority setregid setresgid setresuid setreuid setsid
  setuid setxattr splice stat statvfs strerror symlink sync sysconf system tcgetpgrp tcsetpgrp times
  truncate ttyname umask uname unlink unsetenv urandom utime wait wait3 wait4 waitid waitpid
  waitstatus_to_exitcode write writev", "classes DirEntry error=OSError sched_param stat_result=os.
  statvfs_result=os. terminal_size=os. times_result uname_result waitid_result",
  "numbers CLD_CONTINUED=6 CLD_DUMPED=3 CLD_EXITED=1 CLD_KILLED=2 CLD_STOPPED=5 CLD_TRAPPED=4
  EFD_CLOEXEC=524288 EFD_NONBLOCK=2048 EFD_SEMAPHORE=1 EX_CANTCREAT=73 EX_CONFIG=78 EX_DATAERR=65
  EX_IOERR=74 EX_NOHOST=68 EX_NOINPUT=66 EX_NOPERM=77 EX_NOUSER=67 EX_OK=0 EX_OSERR=71 EX_OSFILE=72
  EX_PROTOCOL=76 EX_SOFTWARE=70 EX_TEMPFAIL=75 EX_UNAVAILABLE=69 EX_USAGE=64 F_LOCK=1 F_OK=0
  F_TEST=3 F_TLOCK=2 F_ULOCK=0 GRND_NONBLOCK=1 GRND_RANDOM=2 MFD_ALLOW_SEALING=2 MFD_CLOEXEC=1
  MFD_HUGETLB=4 MFD_HUGE_16GB=2281701376 MFD_HUGE_16MB=1610612736 MFD_HUGE_1GB=2013265920
  MFD_HUGE_1MB=1342177280 MFD_HUGE_256MB=1879048192 MFD_HUGE_2GB=2080374784 MFD_HUGE_2MB=1409286144
  MFD_HUGE_32MB=1677721600 MFD_HUGE_512KB=1275068416 MFD_HUGE_512MB=1946157056
  MFD_HUGE_64KB=1073741824 MFD_HUGE_8MB=1543503872 MFD_HUGE_MASK=63 MFD_HUGE_SHIFT=26
  NGROUPS_MAX=65536 O_ACCMODE=3 O_APPEND=1024 O_ASYNC=8192 O_CLOEXEC=524288 O_CREAT=64
  O_DIRECT=16384 O_DIRECTORY=65536 O_DSYNC=4096 O_EXCL=128 O_FSYNC=1052672 O_LARGEFILE=0
  O_NDELAY=2048 O_NOATIME=262144 O_NOCTTY=256 O_NOFOLLOW=131072 O_NONBLOCK=2048 O_PATH=2097152
  O_RDONLY=0 O_RDWR=2 O_RSYNC=1052672 O_SYNC=1052672 O_TMPFILE=4259840 O_TRUNC=512 O_WRONLY=1
  POSIX_FADV_DONTNEED=4 POSIX_FADV_NOREUSE=5 POSIX_FADV_NORMAL=0 POSIX_FADV_RANDOM=1
  POSIX_FADV_SEQUENTIAL=2 POSIX_FADV_WILLNEED=3 POSIX_SPAWN_CLOSE=1 POSIX_SPAWN_DUP2=2
  POSIX_SPAWN_OPEN=0 PRIO_PGRP=1 PRIO_PROCESS=0 PRIO_USER=2 P_ALL=0 P_PGID=2 P_PID=1 P_PIDFD=3
  RTLD_DEEPBIND=8 RTLD_GLOBAL=256 RTLD_LAZY=1 RTLD_LOCAL=0 RTLD_NODELETE=4096 RTLD_NOLOAD=4
  RTLD_NOW=2 RWF_APPEND=16 RWF_DSYNC=2 RWF_HIPRI=1 RWF_NOWAIT=8 RWF_SYNC=4 R_OK=4 SCHED_BATCH=3
  SCHED_FIFO=1 SCHED_IDLE=5 SCHED_OTHER=0 SCHED_RESET_ON_FORK=1073741824 SCHED_RR=2 SEEK_DATA=3
  SEEK_HOLE=4 SPLICE_F_MORE=4 SPLICE_F_MOVE=1 SPLICE_F_NONBLOCK=2 ST_APPEND=256 ST_MANDLOCK=64
  ST_NOATIME=1024 ST_NODEV=4 ST_NODIRATIME=2048 ST_NOEXEC=8 ST_NOSUID=2 ST_RDONLY=1 ST_RELATIME=4096
  ST_SYNCHRONOUS=16 ST_WRITE=128 TMP_MAX=238328 WCONTINUED=8 WEXITED=4 WNOHANG=1 WNOWAIT=16777216
  WSTOPPED=2 WUNTRACED=2 W_OK=2 XATTR_CREATE=1 XATTR_REPLACE=2 XATTR_SIZE_MAX=65536 X_OK=1",
  "constant _have_functions ['HAVE_EVENTFD', 'HAVE_FACCESSAT', 'HAVE_FCHDIR', 'HAVE_FCHMOD', '",
  "|HAVE_FCHMODAT', 'HAVE_FCHOWN', 'HAVE_FCHOWNAT', 'HAVE_FEXECVE', 'HAVE_FDOPENDIR', 'HAVE_FP",
  "|ATHCONF', 'HAVE_FSTATAT', 'HAVE_FSTATVFS', 'HAVE_FTRUNCATE', 'HAVE_FUTIMENS', 'HAVE_FUTIME",
  "|S', 'HAVE_FUTIMESAT', 'HAVE_LINKAT', 'HAVE_LCHOWN', 'HAVE_LSTAT', 'HAVE_LUTIMES', 'HAVE_ME",
  "|MFD_CREATE', 'HAVE_MKDIRAT', 'HAVE_MKFIFOAT', 'HAVE_MKNODAT', 'HAVE_OPENAT', 'HAVE_READLIN",
  "|KAT', 'HAVE_RENAMEAT', 'HAVE_SYMLINKAT', 'HAVE_UNLINKAT', 'HAVE_UTIMENSAT']",
  "constant confstr_names \x7b'CS_GNU_LIBC_VERSION': 2, 'CS_GNU_LIBPTHREAD_VERSION': 3, 'CS_LF",
  "|S64_CFLAGS': 1004, 'CS_LFS64_LDFLAGS': 1005, 'CS_LFS64_LIBS': 1006, 'CS_LFS64_LINTFLAGS': ",
  "|1007, 'CS_LFS_CFLAGS': 1000, 'CS_LFS_LDFLAGS': 1001, 'CS_LFS_LIBS': 1002, 'CS_LFS_LINTFLAG",
  "|S': 1003, 'CS_PATH': 0, 'CS_XBS5_ILP32_OFF32_CFLAGS': 1100, 'CS_XBS5_ILP32_OFF32_LDFLAGS':",
  "| 1101, 'CS_XBS5_ILP32_OFF32_LIBS': 1102, 'CS_XBS5_ILP32_OFF32_LINTFLAGS': 1103, 'CS_XBS5_I",
  "|LP32_OFFBIG_CFLAGS': 1104, 'CS_XBS5_ILP32_OFFBIG_LDFLAGS': 1105, 'CS_XBS5_ILP32_OFFBIG_LIB",
  "|S': 1106, 'CS_XBS5_ILP32_OFFBIG_LINTFLAGS': 1107, 'CS_XBS5_LP64_OFF64_CFLAGS': 1108, 'CS_X",
  "|BS5_LP64_OFF64_LDFLAGS': 1109, 'CS_XBS5_LP64_OFF64_LIBS': 1110, 'CS_XBS5_LP64_OFF64_LINTFL",
  "|AGS': 1111, 'CS_XBS5_LPBIG_OFFBIG_CFLAGS': 1112, 'CS_XBS5_LPBIG_OFFBIG_LDFLAGS': 1113, 'CS",
  "|_XBS5_LPBIG_OFFBIG_LIBS': 1114, 'CS_XBS5_LPBIG_OFFBIG_LINTFLAGS': 1115\x7d",
  "constant pathconf_names \x7b'PC_ALLOC_SIZE_MIN': 18, 'PC_ASYNC_IO': 10, 'PC_CHOWN_RESTRICTE",
  "|D': 6, 'PC_FILESIZEBITS': 13, 'PC_LINK_MAX': 0, 'PC_MAX_CANON': 1, 'PC_MAX_INPUT': 2, 'PC_",
  "|NAME_MAX': 3, 'PC_NO_TRUNC': 7, 'PC_PATH_MAX': 4, 'PC_PIPE_BUF': 5, 'PC_PRIO_IO': 11, 'PC_",
  "|REC_INCR_XFER_SIZE': 14, 'PC_REC_MAX_XFER_SIZE': 15, 'PC_REC_MIN_XFER_SIZE': 16, 'PC_REC_X",
  "|FER_ALIGN': 17, 'PC_SOCK_MAXBUF': 12, 'PC_SYMLINK_MAX': 19, 'PC_SYNC_IO': 9, 'PC_VDISABLE'",
  "|: 8\x7d", "objects sysconf_names=dict"]),
  ("posixpath", ["frozen", "functions _get_sep _joinrealpath abspath basename commonpath
  commonprefix=genericpath: dirname exists=genericpath: expanduser expandvars getatime=genericpath:
  getctime=genericpath: getmtime=genericpath: getsize=genericpath: isabs isdir=genericpath:
  isfile=genericpath: islink ismount join lexists normcase normpath realpath relpath
  samefile=genericpath: sameopenfile=genericpath: samestat=genericpath: split splitdrive splitext",
  "builtins _path_normpath=posix:", "modules genericpath= os= stat= sys=", "constant _varprog None",
  "constant _varprogb None", "constant altsep None", "constant curdir '.'",
  "constant defpath '/bin:/usr/bin'", "constant devnull '/dev/null'", "constant extsep '.'",
  "constant pardir '..'", "constant pathsep ':'", "constant sep '/'",
  "constant supports_unicode_filenames False", "exports normcase isabs join splitdrive split
  splitext basename dirname commonprefix getsize getmtime getatime getctime islink exists lexists
  isdir isfile ismount expanduser expandvars normpath abspath samefile sameopenfile samestat curdir
  pardir sep pathsep defpath altsep extsep devnull realpath supports_unicode_filenames relpath
  commonpath"]),
  ("shutil", ["functions _access_check _basename _check_unpack_options _copyfileobj_readinto
  _copytree _copyxattr _destinsrc _ensure_directory _fastcopy_fcopyfile _fastcopy_sendfile
  _find_unpack_format _get_gid _get_uid _is_immutable _islink _make_tarball _make_zipfile
  _rmtree_isdir _rmtree_islink _rmtree_safe_fd _rmtree_unsafe _samefile _stat _unpack_tarfile
  _unpack_zipfile chown copy copy2 copyfile copyfileobj copymode copystat copytree disk_usage
  get_archive_formats get_terminal_size get_unpack_formats ignore_patterns make_archive move
  register_archive_format register_unpack_format rmtree unpack_archive unregister_archive_format
  unregister_unpack_format which", "classes Error ExecError ReadError RegistryError SameFileError
  SpecialFileError _GiveupOnFastCopy _ntuple_diskusage=shutil.usage", "modules collections= errno=
  fnmatch= os= posix= stat= sys=", "numbers COPY_BUFSIZE=65536",
  "constant _ARCHIVE_FORMATS \x7b'tar': (function(...), [('compress', None)], 'uncompressed ta",
  "|r file', True), 'gztar': (function(...), [('compress', 'gzip')], \"gzip'ed tar-file\", Tru",
  "|e), 'zip': (function(...), [], 'ZIP file', True), 'bztar': (function(...), [('compress', '",
  "|bzip2')], \"bzip2'ed tar-file\", True), 'xztar': (function(...), [('compress', 'xz')], \"x",
  "|z'ed tar-file\", True)\x7d", "constant _BZ2_SUPPORTED True", "constant _HAS_FCOPYFILE False",
  "constant _LZMA_SUPPORTED True",
  "constant _UNPACK_FORMATS \x7b'tar': (['.tar'], function(...), [], 'uncompressed tar file'),",
  "| 'zip': (['.zip'], function(...), [], 'ZIP file'), 'gztar': (['.tar.gz', '.tgz'], function",
  "|(...), [], \"gzip'ed tar-file\"), 'bztar': (['.tar.bz2', '.tbz2'], function(...), [], \"bz",
  "|ip2'ed tar-file\"), 'xztar': (['.tar.xz', '.txz'], function(...), [], \"xz'ed tar-file\")",
  "|\x7d", "constant _USE_CP_SENDFILE True", "constant _WINDOWS False",
  "constant _WIN_DEFAULT_PATHEXT '.COM;.EXE;.BAT;.CMD;.VBS;.JS;.WS;.MSC'",
  "constant _ZLIB_SUPPORTED True", "constant _use_fd_functions True", "constant nt None",
  "exports copyfileobj copyfile copymode copystat copy copy2 copytree move rmtree Error
  SpecialFileError ExecError make_archive get_archive_formats register_archive_format
  unregister_archive_format get_unpack_formats register_unpack_format unregister_unpack_format
  unpack_archive ignore_patterns chown which get_terminal_size SameFileError disk_usage",
  "part rmtree.avoids_symlink_attacks True",
  "part rmtree.__dict__ \x7b'avoids_symlink_attacks': True\x7d"]),
  ("stat", ["frozen", "takes _stat", "numbers FILE_ATTRIBUTE_ARCHIVE=32
  FILE_ATTRIBUTE_COMPRESSED=2048 FILE_ATTRIBUTE_DEVICE=64 FILE_ATTRIBUTE_DIRECTORY=16
  FILE_ATTRIBUTE_ENCRYPTED=16384 FILE_ATTRIBUTE_HIDDEN=2 FILE_ATTRIBUTE_INTEGRITY_STREAM=32768
  FILE_ATTRIBUTE_NORMAL=128 FILE_ATTRIBUTE_NOT_CONTENT_INDEXED=8192
  FILE_ATTRIBUTE_NO_SCRUB_DATA=131072 FILE_ATTRIBUTE_OFFLINE=4096 FILE_ATTRIBUTE_READONLY=1
  FILE_ATTRIBUTE_REPARSE_POINT=1024 FILE_ATTRIBUTE_SPARSE_FILE=512 FILE_ATTRIBUTE_SYSTEM=4
  FILE_ATTRIBUTE_TEMPORARY=256 FILE_ATTRIBUTE_VIRTUAL=65536",
  "constant _filemode_table (((40960, 'l'), (49152, 's'), (32768, '-'), (24576, 'b'), (16384, ",
  "|'d'), (8192, 'c'), (4096, 'p')), ((256, 'r'),), ((128, 'w'),), ((2112, 's'), (2048, 'S'), ",
  "|(64, 'x')), ((32, 'r'),), ((16, 'w'),), ((1032, 's'), (1024, 'S'), (8, 'x')), ((4, 'r'),),",
  "| ((2, 'w'),), ((513, 't'), (512, 'T'), (1, 'x')))"]),
  ("tempfile", ["functions NamedTemporaryFile TemporaryFile _candidate_tempdir_list _exists
  _get_candidate_names _get_default_tempdir _gettempdir _infer_return_type _mkstemp_inner
  _sanitize_params gettempdir gettempdirb gettempprefix gettempprefixb mkdtemp mkstemp mktemp",
  "builtins _allocate_lock=_thread:allocate_lock", "classes SpooledTemporaryFile TemporaryDirectory
  _Random=random.Random _RandomNameSequence _TemporaryFileCloser _TemporaryFileWrapper",
  "objects _once_lock=_thread.lock", "modules _errno=errno _functools=functools _io=io _os=os
  _shutil=shutil _sys=sys _thread= _types=types _warnings=warnings _weakref=weakref",
  "numbers TMP_MAX=238328 _bin_openflags=131266 _text_openflags=131266",
  "constant _O_TMPFILE_WORKS True", "constant _name_sequence None", "constant tempdir None",
  "constant template 'tmp'", "exports NamedTemporaryFile TemporaryFile SpooledTemporaryFile
  TemporaryDirectory mkstemp mkdtemp mktemp TMP_MAX gettempprefix tempdir gettempdir gettempprefixb
  gettempdirb"])]

/-- The classes for files, paths and streams. -/
def filesClasses : List (String × List String) := [
  ("_io.BufferedRWPair", ["below _io._BufferedIOBase", "shown _io.BufferedRWPair", "sealed",
  "builtins __new__", "operations __init__", "methods read peek read1 readinto readinto1 write flush
  readable writable close isatty", "fields closed"]),
  ("_io.BufferedRandom", ["below _io._BufferedIOBase", "shown _io.BufferedRandom", "sealed",
  "builtins __new__", "operations __repr__ __next__ __init__", "methods close detach seekable
  readable writable fileno isatty _dealloc_warn flush seek tell truncate read read1 readinto
  readinto1 readline peek write __sizeof__", "fields closed name mode", "slots raw _finalizing"]),
  ("_io.BufferedReader", ["below _io._BufferedIOBase", "shown _io.BufferedReader", "sealed",
  "builtins __new__", "operations __repr__ __next__ __init__", "methods detach flush close seekable
  readable fileno isatty _dealloc_warn read peek read1 readinto readinto1 readline seek tell
  truncate __sizeof__", "fields closed name mode", "slots raw _finalizing"]),
  ("_io.BufferedWriter", ["below _io._BufferedIOBase", "shown _io.BufferedWriter", "sealed",
  "builtins __new__", "operations __repr__ __init__", "methods close detach seekable writable fileno
  isatty _dealloc_warn write truncate flush seek tell __sizeof__", "fields closed name mode",
  "slots raw _finalizing"]),
  ("_io.BytesIO", ["below _io._BufferedIOBase", "shown _io.BytesIO", "sealed", "builtins __new__",
  "operations __iter__ __next__ __init__", "methods readable seekable writable close flush isatty
  tell write writelines read1 readinto readline readlines read getbuffer getvalue seek truncate
  __getstate__ __setstate__ __sizeof__", "fields closed"]),
  ("_io.FileIO", ["below _io._RawIOBase", "shown _io.FileIO", "sealed", "builtins __new__",
  "operations __repr__ __getattribute__ __init__", "methods read readall readinto write seek tell
  truncate close seekable readable writable fileno isatty _dealloc_warn", "fields closed closefd
  mode", "slots _blksize _finalizing"]),
  ("_io.IncrementalNewlineDecoder", ["shown _io.IncrementalNewlineDecoder", "sealed",
  "builtins __new__", "operations __init__", "methods decode getstate setstate reset",
  "fields newlines"]),
  ("_io.StringIO", ["below _io._TextIOBase", "shown _io.StringIO", "sealed", "builtins __new__",
  "operations __next__ __init__", "methods close getvalue read readline tell truncate seek write
  seekable readable writable __getstate__ __setstate__", "fields closed newlines line_buffering"]),
  ("_io.TextIOWrapper", ["below _io._TextIOBase", "shown _io.TextIOWrapper", "sealed",
  "builtins __new__", "operations __repr__ __next__ __init__", "methods detach reconfigure write
  read readline flush close fileno seekable readable writable isatty seek tell truncate",
  "fields name closed newlines errors _CHUNK_SIZE", "slots encoding buffer line_buffering
  write_through _finalizing"]),
  ("_io._BufferedIOBase", ["below _io._IOBase", "shown _io._BufferedIOBase", "sealed",
  "methods detach read read1 readinto readinto1 write"]),
  ("_io._IOBase", ["shown _io._IOBase", "sealed", "open __dict__", "builtins __new__",
  "operations __iter__ __next__ __del__", "methods seek tell truncate flush close seekable readable
  writable _checkClosed _checkSeekable _checkReadable _checkWritable fileno isatty __enter__
  __exit__ readline readlines writelines", "fields closed"]),
  ("_io._RawIOBase", ["below _io._IOBase", "shown _io._RawIOBase", "sealed", "methods read readall
  readinto write"]),
  ("_io._TextIOBase", ["below _io._IOBase", "shown _io._TextIOBase", "sealed", "methods detach read
  readline write", "fields encoding newlines errors"]),
  ("_pyio.BufferedIOBase", ["below _pyio.IOBase", "kind abc.ABCMeta", "functions read read1 readinto
  readinto1 _readinto write detach"]),
  ("_pyio.BufferedRWPair", ["below _pyio.BufferedIOBase", "kind abc.ABCMeta", "functions __init__
  read readinto write peek read1 readinto1 readable writable flush close isatty",
  "properties closed"]),
  ("_pyio.BufferedRandom", ["above _pyio.BufferedWriter _pyio.BufferedReader _pyio._BufferedIOMixin
  _pyio.BufferedIOBase _pyio.IOBase object", "kind abc.ABCMeta", "functions __init__ seek tell
  truncate read readinto peek read1 readinto1 write"]),
  ("_pyio.BufferedReader", ["below _pyio._BufferedIOMixin", "kind abc.ABCMeta", "functions __init__
  readable _reset_read_buf read _read_unlocked peek _peek_unlocked read1 _readinto tell seek"]),
  ("_pyio.BufferedWriter", ["below _pyio._BufferedIOMixin", "kind abc.ABCMeta", "functions __init__
  writable write truncate flush _flush_unlocked tell seek close"]),
  ("_pyio.BytesIO", ["below _pyio.BufferedIOBase", "kind abc.ABCMeta", "functions __init__
  __getstate__ getvalue getbuffer close read read1 write seek tell truncate readable writable
  seekable", "constant _buffer None"]),
  ("_pyio.FileIO", ["below _pyio.RawIOBase", "kind abc.ABCMeta", "functions __init__ __del__
  __getstate__ __repr__ _checkReadable _checkWritable read readall readinto write seek tell truncate
  close seekable readable writable fileno isatty", "properties closefd mode", "numbers _fd=-1",
  "constant _created False", "constant _readable False", "constant _writable False",
  "constant _appending False", "constant _seekable None", "constant _closefd True", "silent"]),
  ("_pyio.IOBase", ["kind abc.ABCMeta", "open", "functions _unsupported seek tell truncate flush
  close __del__ seekable _checkSeekable readable _checkReadable writable _checkWritable _checkClosed
  __enter__ __exit__ fileno isatty readline __iter__ __next__ readlines writelines",
  "properties closed", "constant _IOBase__closed False"]),
  ("_pyio.IncrementalNewlineDecoder", ["below codecs.IncrementalDecoder", "functions __init__ decode
  getstate setstate reset", "properties newlines", "numbers _LF=1 _CR=2 _CRLF=4"]),
  ("_pyio.RawIOBase", ["below _pyio.IOBase", "kind abc.ABCMeta", "functions read readall readinto
  write"]),
  ("_pyio.StringIO", ["below _pyio.TextIOWrapper", "kind abc.ABCMeta", "functions __init__ getvalue
  __repr__ detach", "properties errors encoding"]),
  ("_pyio.TextIOBase", ["below _pyio.IOBase", "kind abc.ABCMeta", "functions read write truncate
  readline detach", "properties encoding newlines errors"]),
  ("_pyio.TextIOWrapper", ["below _pyio.TextIOBase", "kind abc.ABCMeta", "functions __init__
  _check_newline _configure __repr__ reconfigure seekable readable writable flush close fileno
  isatty write _get_encoder _get_decoder _set_decoded_chars _get_decoded_chars _get_locale_encoding
  _rewind_decoded_chars _read_chunk _pack_cookie _unpack_cookie tell truncate detach seek read
  __next__ readline", "properties encoding errors line_buffering write_through buffer closed name
  newlines", "numbers _CHUNK_SIZE=2048", "constant _buffer None"]),
  ("_pyio._BufferedIOMixin", ["below _pyio.BufferedIOBase", "kind abc.ABCMeta", "functions __init__
  seek tell truncate flush close detach seekable __getstate__ __repr__ fileno isatty",
  "properties raw closed name mode"]),
  ("filecmp.dircmp", ["open", "functions __init__ phase0 phase1 phase2 phase3 phase4 phase4_closure
  report report_partial_closure report_full_closure __getattr__",
  "class-functions __class_getitem__",
  "constant methodmap \x7b'subdirs': function(...), 'same_files': function(...), 'diff_files':",
  "| function(...), 'funny_files': function(...), 'common_dirs': function(...), 'common_files'",
  "|: function(...), 'common_funny': function(...), 'common': function(...), 'left_only': func",
  "|tion(...), 'right_only': function(...), 'left_list': function(...), 'right_list': function",
  "|(...)\x7d"]),
  ("fileinput.FileInput", ["open", "functions __init__ __del__ close __enter__ __exit__ __iter__
  __next__ nextfile readline _readline filename lineno filelineno fileno isfirstline isstdin",
  "class-functions __class_getitem__"]),
  ("io.BufferedIOBase", ["above _io._BufferedIOBase io.IOBase _io._IOBase object",
  "kind abc.ABCMeta"]),
  ("io.IOBase", ["below _io._IOBase", "kind abc.ABCMeta"]),
  ("io.RawIOBase", ["above _io._RawIOBase io.IOBase _io._IOBase object", "kind abc.ABCMeta"]),
  ("io.TextIOBase", ["above _io._TextIOBase io.IOBase _io._IOBase object", "kind abc.ABCMeta"]),
  ("io.UnsupportedOperation", ["above OSError ValueError Exception BaseException object",
  "open __weakref__", "silent"]),
  ("mmap.mmap", ["shown mmap.mmap", "builtins __new__", "operations __repr__ __getattribute__
  __len__ __getitem__ __setitem__ __delitem__", "methods close find rfind flush madvise move read
  read_byte readline resize seek size tell write write_byte __enter__ __exit__", "fields closed"]),
  ("os.PathLike", ["below abc.ABC", "kind abc.ABCMeta", "open", "functions __fspath__",
  "class-functions __subclasshook__ __class_getitem__", "part __fspath__.__isabstractmethod__ True",
  "part __fspath__.__dict__ \x7b'__isabstractmethod__': True\x7d"]),
  ("os._Environ", ["below collections.abc.MutableMapping", "kind abc.ABCMeta", "open",
  "functions __init__ __getitem__ __setitem__ __delitem__ __iter__ __len__ __repr__ copy setdefault
  __ior__ __or__ __ror__", "silent"]),
  ("os._wrap_close", ["open", "functions __init__ close __enter__ __exit__ __getattr__ __iter__",
  "silent"]),
  ("os.stat_result", ["below tuple", "shown os.stat_result", "builtins __new__",
  "operations __repr__", "methods __reduce__", "slots st_mode st_ino st_dev st_nlink st_uid st_gid
  st_size st_atime st_mtime st_ctime st_atime_ns st_mtime_ns st_ctime_ns st_blksize st_blocks
  st_rdev", "numbers n_sequence_fields=10 n_fields=19 n_unnamed_fields=3",
  "constant __match_args__ ('st_mode', 'st_ino', 'st_dev', 'st_nlink', 'st_uid', 'st_gid', 'st",
  "|_size')"]),
  ("os.statvfs_result", ["below tuple", "shown os.statvfs_result", "builtins __new__",
  "operations __repr__", "methods __reduce__", "slots f_bsize f_frsize f_blocks f_bfree f_bavail
  f_files f_ffree f_favail f_flag f_namemax f_fsid", "numbers n_sequence_fields=10 n_fields=11
  n_unnamed_fields=0",
  "constant __match_args__ ('f_bsize', 'f_frsize', 'f_blocks', 'f_bfree', 'f_bavail', 'f_files",
  "|', 'f_ffree', 'f_favail', 'f_flag', 'f_namemax')"]),
  ("os.terminal_size", ["below tuple", "shown os.terminal_size", "builtins __new__",
  "operations __repr__", "methods __reduce__", "slots columns lines", "numbers n_sequence_fields=2
  n_fields=2 n_unnamed_fields=0", "constant __match_args__ ('columns', 'lines')"]),
  ("pathlib.Path", ["below pathlib.PurePath", "functions _make_child_relpath __enter__ __exit__
  samefile iterdir _scandir glob rglob absolute resolve stat owner group open read_bytes read_text
  write_bytes write_text readlink touch mkdir chmod lchmod unlink rmdir lstat rename replace
  symlink_to hardlink_to link_to exists is_dir is_file is_mount is_symlink is_block_device
  is_char_device is_fifo is_socket expanduser", "class-functions cwd home", "statics __new__",
  "constant __slots__ ()"]),
  ("pathlib.PosixPath", ["above pathlib.Path pathlib.PurePosixPath pathlib.PurePath object",
  "constant __slots__ ()"]),
  ("pathlib.PurePath", ["functions __reduce__ _make_child __str__ __fspath__ as_posix __bytes__
  __repr__ as_uri __eq__ __hash__ __lt__ __le__ __gt__ __ge__ with_name with_stem with_suffix
  relative_to is_relative_to joinpath __truediv__ __rtruediv__ is_absolute is_reserved match",
  "class-functions _parse_args _from_parts _from_parsed_parts _format_parsed_parts",
  "statics __new__", "properties _cparts drive root anchor name suffix suffixes stem parts parent
  parents", "slots _cached_cparts _drv _hash _parts _pparts _root _str",
  "constant __slots__ ('_drv', '_root', '_parts', '_str', '_hash', '_pparts', '_cached_cparts'",
  "|)", "part drive.fget object('operator.attrgetter')",
  "part root.fget object('operator.attrgetter')"]),
  ("pathlib.PurePosixPath", ["below pathlib.PurePath", "objects _flavour=pathlib._PosixFlavour",
  "constant __slots__ ()"]),
  ("pathlib.PureWindowsPath", ["below pathlib.PurePath", "objects _flavour=pathlib._WindowsFlavour",
  "constant __slots__ ()"]),
  ("pathlib.WindowsPath", ["above pathlib.Path pathlib.PureWindowsPath pathlib.PurePath object",
  "functions is_mount", "constant __slots__ ()"]),
  ("pathlib._Flavour", ["open", "functions __init__ parse_parts join_parsed_parts"]),
  ("pathlib._PathParents", ["below collections.abc.Sequence", "kind abc.ABCMeta",
  "functions __init__ __len__ __getitem__ __repr__", "slots _drv _parts _pathcls _root",
  "constant __slots__ ('_pathcls', '_drv', '_root', '_parts')"]),
  ("pathlib._PosixFlavour", ["below pathlib._Flavour", "functions splitroot casefold casefold_parts
  compile_pattern is_reserved make_uri", "objects pathmod=module", "constant sep '/'",
  "constant altsep ''", "constant has_drv False", "constant is_supported True", "silent"]),
  ("pathlib._PreciseSelector", ["below pathlib._Selector", "functions __init__ _select_from",
  "silent"]),
  ("pathlib._RecursiveWildcardSelector", ["below pathlib._Selector", "functions __init__
  _iterate_directories _select_from", "silent"]),
  ("pathlib._Selector", ["open", "functions __init__ select_from"]),
  ("pathlib._TerminatingSelector", ["open", "functions _select_from", "silent"]),
  ("pathlib._WildcardSelector", ["below pathlib._Selector", "functions __init__ _select_from",
  "silent"]),
  ("pathlib._WindowsFlavour", ["below pathlib._Flavour", "functions splitroot casefold
  casefold_parts compile_pattern _split_extended_path is_reserved make_uri", "objects pathmod=module
  drive_letters=set reserved_names=set", "constant sep '\\\\'", "constant altsep '/'",
  "constant has_drv True", "constant is_supported False",
  "constant ext_namespace_prefix '\\\\\\\\?\\\\'", "silent"]),
  ("posix.DirEntry", ["shown posix.DirEntry", "operations __repr__", "methods inode __fspath__",
  "told-methods is_dir is_file is_symlink stat", "class-builtins __class_getitem__", "slots name
  path", "silent"]),
  ("posix.sched_param", ["below tuple", "shown posix.sched_param", "builtins __new__",
  "operations __repr__", "methods __reduce__", "slots sched_priority", "numbers n_sequence_fields=1
  n_fields=1 n_unnamed_fields=0", "constant __match_args__ ('sched_priority',)"]),
  ("posix.times_result", ["below tuple", "shown posix.times_result", "builtins __new__",
  "operations __repr__", "methods __reduce__", "slots user system children_user children_system
  elapsed", "numbers n_sequence_fields=5 n_fields=5 n_unnamed_fields=0",
  "constant __match_args__ ('user', 'system', 'children_user', 'children_system', 'elapsed')"]),
  ("posix.uname_result", ["below tuple", "shown posix.uname_result", "builtins __new__",
  "operations __repr__", "methods __reduce__", "slots sysname nodename release version machine",
  "numbers n_sequence_fields=5 n_fields=5 n_unnamed_fields=0",
  "constant __match_args__ ('sysname', 'nodename', 'release', 'version', 'machine')"]),
  ("posix.waitid_result", ["below tuple", "shown posix.waitid_result", "builtins __new__",
  "operations __repr__", "methods __reduce__", "slots si_pid si_uid si_signo si_status si_code",
  "numbers n_sequence_fields=5 n_fields=5 n_unnamed_fields=0",
  "constant __match_args__ ('si_pid', 'si_uid', 'si_signo', 'si_status', 'si_code')"]),
  ("shutil.Error", ["below OSError", "open __weakref__", "silent"]),
  ("shutil.ExecError", ["below OSError", "open __weakref__"]),
  ("shutil.ReadError", ["below OSError", "open __weakref__"]),
  ("shutil.RegistryError", ["below Exception", "open __weakref__"]),
  ("shutil.SameFileError", ["below shutil.Error"]),
  ("shutil.SpecialFileError", ["below OSError", "open __weakref__"]),
  ("shutil._GiveupOnFastCopy", ["below Exception", "open __weakref__"]),
  ("shutil.usage", ["below tuple", "functions _replace __repr__ _asdict __getnewargs__",
  "class-functions _make", "statics __new__", "objects total=_collections._tuplegetter
  used=_collections._tuplegetter free=_collections._tuplegetter", "constant __slots__ ()",
  "constant _fields ('total', 'used', 'free')", "constant _field_defaults \x7b\x7d",
  "constant __match_args__ ('total', 'used', 'free')"]),
  ("tempfile.SpooledTemporaryFile", ["below io.IOBase", "kind abc.ABCMeta", "functions __init__
  _check rollover __enter__ __exit__ __iter__ __del__ close fileno flush isatty readable read read1
  readinto readinto1 readline readlines seekable seek tell truncate writable write writelines
  detach", "class-functions __class_getitem__", "properties closed encoding errors mode name
  newlines", "constant _rolled False"]),
  ("tempfile.TemporaryDirectory", ["open", "functions __init__ __repr__ __enter__ __exit__ cleanup",
  "class-functions _rmtree _cleanup __class_getitem__"]),
  ("tempfile._RandomNameSequence", ["open", "functions __iter__ __next__", "properties rng",
  "constant characters 'abcdefghijklmnopqrstuvwxyz0123456789_'"]),
  ("tempfile._TemporaryFileCloser", ["open", "functions __init__ close __del__",
  "constant file None", "constant close_called False"]),
  ("tempfile._TemporaryFileWrapper", ["open", "functions __init__ __getattr__ __enter__ __exit__
  close __iter__"])]

end FragmentWeaver.Standard
