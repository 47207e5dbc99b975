/-!
# Listing: numbers, dates and times

What stands in the modules and classes for numbers, dates and times.
-/

namespace FragmentWeaver.Standard

/-- The modules for numbers, dates and times. -/
def numbersModules : List (String × List String) := [
  ("_datetime", ["built-in", "classes date=datetime. datetime=datetime. time=datetime.
  timedelta=datetime. timezone=datetime. tzinfo=datetime.", "objects UTC=datetime.timezone
  datetime_CAPI=PyCapsule", "numbers MAXYEAR=9999 MINYEAR=1"]),
  ("_decimal", ["extension", "takes decimal", "constant __libmpdec_version__ '2.5.1'",
  "constant __version__ '1.70'"]),
  ("_pydecimal", ["functions _convert_for_comparison=decimal: _convert_other=decimal:
  _dec_from_triple=decimal: _decimal_lshift_exact=decimal: _dexp=decimal: _div_nearest=decimal:
  _dlog=decimal: _dlog10=decimal: _dpower=decimal: _format_align=decimal: _format_number=decimal:
  _format_sign=decimal: _group_lengths=decimal: _iexp=decimal: _ilog=decimal:
  _insert_thousands_sep=decimal: _log10_lb=decimal: _namedtuple=collections:namedtuple
  _normalize=decimal: _parse_format_specifier=decimal: _rshift_nearest=decimal:
  _sqrt_nearest=decimal: getcontext=decimal: localcontext=decimal: setcontext=decimal:",
  "classes Clamped=decimal. Context=decimal. ConversionSyntax=decimal. Decimal=decimal.
  DecimalException=decimal. DecimalTuple=decimal. DivisionByZero=decimal.
  DivisionImpossible=decimal. DivisionUndefined=decimal. FloatOperation=decimal. Inexact=decimal.
  InvalidContext=decimal. InvalidOperation=decimal. Overflow=decimal. Rounded=decimal.
  Subnormal=decimal. Underflow=decimal. _ContextManager=decimal. _Log10Memoize=decimal.
  _WorkRep=decimal.", "objects _all_zeros=builtin_method _context_attributes=frozenset
  _exact_half=builtin_method _log10_digits=method _nbits=method_descriptor _parser=builtin_method",
  "holders BasicContext=decimal.Context DefaultContext=decimal.Context
  ExtendedContext=decimal.Context _current_context_var=_contextvars.ContextVar
  _parse_format_specifier_regex=re.Pattern", "modules _locale=locale _math=math _numbers=numbers",
  "numbers MAX_EMAX=999999999999999999 MAX_PREC=999999999999999999 MIN_EMIN=-999999999999999999
  MIN_ETINY=-1999999999999999997 _PyHASH_10INV=2075258708292324556 _PyHASH_INF=314159
  _PyHASH_MODULUS=2305843009213693951 _PyHASH_NAN=0", "constant HAVE_CONTEXTVAR True",
  "constant HAVE_THREADS True", "constant ROUND_05UP 'ROUND_05UP'",
  "constant ROUND_CEILING 'ROUND_CEILING'", "constant ROUND_DOWN 'ROUND_DOWN'",
  "constant ROUND_FLOOR 'ROUND_FLOOR'", "constant ROUND_HALF_DOWN 'ROUND_HALF_DOWN'",
  "constant ROUND_HALF_EVEN 'ROUND_HALF_EVEN'", "constant ROUND_HALF_UP 'ROUND_HALF_UP'",
  "constant ROUND_UP 'ROUND_UP'", "constant _Infinity=decimal.Decimal ('Infinity',)",
  "constant _NaN=decimal.Decimal ('NaN',)",
  "constant _NegativeInfinity=decimal.Decimal ('-Infinity',)",
  "constant _NegativeOne=decimal.Decimal (-1,)", "constant _One=decimal.Decimal (1,)",
  "constant _SignedInfinity (decimal.Decimal(...), decimal.Decimal(...))",
  "constant _Zero=decimal.Decimal (0,)", "constant __libmpdec_version__ '2.4.2'",
  "constant __version__ '1.70'", "constant __xname__ '_pydecimal'",
  "constant _condition_map \x7bdecimal.ConversionSyntax: decimal.InvalidOperation, decimal.Div",
  "|isionImpossible: decimal.InvalidOperation, decimal.DivisionUndefined: decimal.InvalidOpera",
  "|tion, decimal.InvalidContext: decimal.InvalidOperation\x7d",
  "constant _rounding_modes ('ROUND_DOWN', 'ROUND_HALF_UP', 'ROUND_HALF_EVEN', 'ROUND_CEILING'",
  "|, 'ROUND_FLOOR', 'ROUND_UP', 'ROUND_HALF_DOWN', 'ROUND_05UP')",
  "constant _signals [decimal.Clamped, decimal.DivisionByZero, decimal.Inexact, decimal.Overfl",
  "|ow, decimal.Rounded, decimal.Underflow, decimal.InvalidOperation, decimal.Subnormal, decim",
  "|al.FloatOperation]", "exports Decimal Context DecimalTuple DefaultContext BasicContext
  ExtendedContext DecimalException Clamped InvalidOperation DivisionByZero Inexact Rounded Subnormal
  Overflow Underflow FloatOperation DivisionImpossible InvalidContext ConversionSyntax
  DivisionUndefined ROUND_DOWN ROUND_HALF_UP ROUND_HALF_EVEN ROUND_CEILING ROUND_FLOOR ROUND_UP
  ROUND_HALF_DOWN ROUND_05UP setcontext getcontext localcontext MAX_PREC MAX_EMAX MIN_EMIN MIN_ETINY
  HAVE_THREADS HAVE_CONTEXTVAR", "part BasicContext.Emax 999999", "part BasicContext.Emin -999999",
  "part BasicContext._ignored_flags []", "part BasicContext.capitals 1",
  "part BasicContext.clamp 0",
  "part BasicContext.flags \x7bdecimal.Clamped: 0, decimal.DivisionByZero: 0, decimal.Inexact:",
  "| 0, decimal.Overflow: 0, decimal.Rounded: 0, decimal.Underflow: 0, decimal.InvalidOperatio",
  "|n: 0, decimal.Subnormal: 0, decimal.FloatOperation: 0\x7d", "part BasicContext.prec 9",
  "part BasicContext.rounding 'ROUND_HALF_UP'",
  "part BasicContext.traps \x7bdecimal.Clamped: 1, decimal.DivisionByZero: 1, decimal.Inexact:",
  "| 0, decimal.Overflow: 1, decimal.Rounded: 0, decimal.Underflow: 1, decimal.InvalidOperatio",
  "|n: 1, decimal.Subnormal: 0, decimal.FloatOperation: 0\x7d", "part DefaultContext.Emax 999999",
  "part DefaultContext.Emin -999999", "part DefaultContext._ignored_flags []",
  "part DefaultContext.capitals 1", "part DefaultContext.clamp 0",
  "part DefaultContext.flags \x7bdecimal.Clamped: 0, decimal.DivisionByZero: 0, decimal.Inexac",
  "|t: 0, decimal.Overflow: 0, decimal.Rounded: 0, decimal.Underflow: 0, decimal.InvalidOperat",
  "|ion: 0, decimal.Subnormal: 0, decimal.FloatOperation: 0\x7d", "part DefaultContext.prec 28",
  "part DefaultContext.rounding 'ROUND_HALF_EVEN'",
  "part DefaultContext.traps \x7bdecimal.Clamped: 0, decimal.DivisionByZero: 1, decimal.Inexac",
  "|t: 0, decimal.Overflow: 1, decimal.Rounded: 0, decimal.Underflow: 0, decimal.InvalidOperat",
  "|ion: 1, decimal.Subnormal: 0, decimal.FloatOperation: 0\x7d",
  "part ExtendedContext.Emax 999999", "part ExtendedContext.Emin -999999",
  "part ExtendedContext._ignored_flags []", "part ExtendedContext.capitals 1",
  "part ExtendedContext.clamp 0",
  "part ExtendedContext.flags \x7bdecimal.Clamped: 0, decimal.DivisionByZero: 0, decimal.Inexa",
  "|ct: 0, decimal.Overflow: 0, decimal.Rounded: 0, decimal.Underflow: 0, decimal.InvalidOpera",
  "|tion: 0, decimal.Subnormal: 0, decimal.FloatOperation: 0\x7d", "part ExtendedContext.prec 9",
  "part ExtendedContext.rounding 'ROUND_HALF_EVEN'",
  "part ExtendedContext.traps \x7bdecimal.Clamped: 0, decimal.DivisionByZero: 0, decimal.Inexa",
  "|ct: 0, decimal.Overflow: 0, decimal.Rounded: 0, decimal.Underflow: 0, decimal.InvalidOpera",
  "|tion: 0, decimal.Subnormal: 0, decimal.FloatOperation: 0\x7d",
  "part _current_context_var.name 'decimal_context'",
  "part _parse_format_specifier_regex.flags 112",
  "part _parse_format_specifier_regex.groupindex object('mappingproxy')",
  "part _parse_format_specifier_regex.groups 10",
  "part _parse_format_specifier_regex.pattern '\\\\A\\n(?:\\n   (?P<fill>.)?\\n   (?P<align>[<",
  "|>=^])\\n)?\\n(?P<sign>[-+ ])?\\n(?P<no_neg_0>z)?\\n(?P<alt>\\\\#)?\\n(?P<zeropad>0)?\\n(?P",
  "|<minimumwidth>(?!0)\\\\d+)?\\n(?P<thousands_sep>,)?\\n(?:\\\\.(?P<precision>0|(?!0)\\\\d+)",
  "|)?\\n(?P<type>[eEfFgGn%])?\\n\\\\Z\\n'"]),
  ("_random", ["built-in", "classes Random"]),
  ("_statistics", ["built-in", "builtins _normal_dist_inv_cdf"]),
  ("_strptime", ["functions _calc_julian_from_U_or_W _calc_julian_from_V _getlang _strptime
  _strptime_datetime _strptime_time re_compile=re:compile re_escape=re:escape",
  "builtins _thread_allocate_lock=_thread:allocate_lock", "classes LocaleTime TimeRE
  datetime_date=datetime.date datetime_timedelta=datetime.timedelta
  datetime_timezone=datetime.timezone", "objects _TimeRE_cache=_strptime.TimeRE
  _cache_lock=_thread.lock", "modules calendar= locale= time=",
  "members-of re.RegexFlag IGNORECASE", "numbers _CACHE_MAX_SIZE=5",
  "constant _regex_cache \x7b\x7d", "exports"]),
  ("_uuid", ["extension", "builtins generate_time_safe", "numbers has_uuid_generate_time_safe=1",
  "constant __doc__ None"]),
  ("_zoneinfo", ["extension", "brings _sysconfigdata__x86_64-linux-gnu",
  "classes ZoneInfo=zoneinfo."]),
  ("calendar", ["functions _get_default_locale _monthlen _nextmonth _prevmonth format formatstring
  isleap leapdays main monthrange setfirstweekday timegm weekday", "classes Calendar HTMLCalendar
  IllegalMonthError IllegalWeekdayError LocaleHTMLCalendar LocaleTextCalendar TextCalendar
  _localized_day _localized_month different_locale error=ValueError repeat=itertools.",
  "objects calendar=method firstweekday=method month=method monthcalendar=method prcal=method
  prmonth=method prweek=method week=method weekheader=method", "holders c=calendar.TextCalendar
  day_abbr=calendar._localized_day day_name=calendar._localized_day
  month_abbr=calendar._localized_month month_name=calendar._localized_month",
  "modules _locale=locale datetime= sys=", "numbers EPOCH=1970 FRIDAY=4 February=2 January=1
  MONDAY=0 SATURDAY=5 SUNDAY=6 THURSDAY=3 TUESDAY=1 WEDNESDAY=2 _EPOCH_ORD=719163 _colwidth=20
  _spacing=6", "constant mdays [0, 31, 28, 31, 30, 31, 30, 31, 31, 30, 31, 30, 31]",
  "exports IllegalMonthError IllegalWeekdayError setfirstweekday firstweekday isleap leapdays
  weekday monthrange monthcalendar prmonth month prcal calendar timegm month_name month_abbr
  day_name day_abbr Calendar TextCalendar HTMLCalendar LocaleTextCalendar LocaleHTMLCalendar
  weekheader MONDAY TUESDAY WEDNESDAY THURSDAY FRIDAY SATURDAY SUNDAY", "part c._firstweekday 0",
  "part c.firstweekday 0", "part c.__dict__ \x7b'_firstweekday': 0\x7d",
  "part day_abbr.format '%a'", "part day_abbr.__dict__ \x7b'format': '%a'\x7d",
  "part day_name.format '%A'", "part day_name.__dict__ \x7b'format': '%A'\x7d",
  "part month_abbr.format '%b'", "part month_abbr.__dict__ \x7b'format': '%b'\x7d",
  "part month_name.format '%B'", "part month_name.__dict__ \x7b'format': '%B'\x7d"]),
  ("cmath", ["built-in", "builtins acos acosh asin asinh atan atanh cos cosh exp isclose isfinite
  isinf isnan log log10 phase polar rect sin sinh sqrt tan tanh", "constant e 2.718281828459045",
  "constant inf inf", "constant infj infj", "constant nan nan", "constant nanj nanj",
  "constant pi 3.141592653589793", "constant tau 6.283185307179586"]),
  ("datetime", ["classes date datetime time timedelta timezone tzinfo",
  "objects UTC=datetime.timezone datetime_CAPI=PyCapsule", "modules sys=", "numbers MAXYEAR=9999
  MINYEAR=1",
  "constant __all__ ('date', 'datetime', 'time', 'timedelta', 'timezone', 'tzinfo', 'MINYEAR',",
  "| 'MAXYEAR', 'UTC')"]),
  ("decimal", ["builtins getcontext localcontext setcontext", "classes Clamped Context
  ConversionSyntax Decimal DecimalException DecimalTuple DivisionByZero DivisionImpossible
  DivisionUndefined FloatOperation Inexact InvalidContext InvalidOperation Overflow Rounded
  Subnormal Underflow", "holders BasicContext=decimal.Context DefaultContext=decimal.Context
  ExtendedContext=decimal.Context", "numbers MAX_EMAX=999999999999999999 MAX_PREC=999999999999999999
  MIN_EMIN=-999999999999999999 MIN_ETINY=-1999999999999999997", "constant HAVE_CONTEXTVAR True",
  "constant HAVE_THREADS True", "constant ROUND_05UP 'ROUND_05UP'",
  "constant ROUND_CEILING 'ROUND_CEILING'", "constant ROUND_DOWN 'ROUND_DOWN'",
  "constant ROUND_FLOOR 'ROUND_FLOOR'", "constant ROUND_HALF_DOWN 'ROUND_HALF_DOWN'",
  "constant ROUND_HALF_EVEN 'ROUND_HALF_EVEN'", "constant ROUND_HALF_UP 'ROUND_HALF_UP'",
  "constant ROUND_UP 'ROUND_UP'", "constant __libmpdec_version__ '2.5.1'",
  "constant __version__ '1.70'", "part BasicContext.Emax 999999", "part BasicContext.Emin -999999",
  "part BasicContext.capitals 1", "part BasicContext.clamp 0", "part BasicContext.prec 9",
  "part BasicContext.rounding 'ROUND_HALF_UP'", "part DefaultContext.Emax 999999",
  "part DefaultContext.Emin -999999", "part DefaultContext.capitals 1",
  "part DefaultContext.clamp 0", "part DefaultContext.prec 28",
  "part DefaultContext.rounding 'ROUND_HALF_EVEN'", "part ExtendedContext.Emax 999999",
  "part ExtendedContext.Emin -999999", "part ExtendedContext.capitals 1",
  "part ExtendedContext.clamp 0", "part ExtendedContext.prec 9",
  "part ExtendedContext.rounding 'ROUND_HALF_EVEN'"]),
  ("fractions", ["classes Decimal=decimal. Fraction", "holders _RATIONAL_FORMAT=re.Pattern",
  "modules math= numbers= operator= re= sys=", "numbers _PyHASH_INF=314159
  _PyHASH_MODULUS=2305843009213693951", "exports Fraction", "part _RATIONAL_FORMAT.flags 98",
  "part _RATIONAL_FORMAT.groupindex object('mappingproxy')", "part _RATIONAL_FORMAT.groups 9",
  "part _RATIONAL_FORMAT.pattern '\\n    \\\\A\\\\s*                                  # option",
  "|al whitespace at the start,\\n    (?P<sign>[-+]?)                        # an optional sig",
  "|n, then\\n    (?=\\\\d|\\\\.\\\\d)                            # lookahead for digit or .di",
  "|git\\n    (?P<num>\\\\d*|\\\\d+(_\\\\d+)*)                # numerator (possibly empty)\\n ",
  "|   (?:                                    # followed by\\n       (?:/(?P<denom>\\\\d+(_\\",
  "|\\d+)*))?         # an optional denominator\\n    |                                      #",
  "| or\\n       (?:\\\\.(?P<decimal>\\\\d*|\\\\d+(_\\\\d+)*))?  # an optional fractional part",
  "|\\n       (?:E(?P<exp>[-+]?\\\\d+(_\\\\d+)*))?      # and optional exponent\\n    )\\n    ",
  "|\\\\s*\\\\Z                                  # and optional whitespace to finish\\n'"]),
  ("math", ["built-in", "builtins acos acosh asin asinh atan atan2 atanh cbrt ceil comb copysign cos
  cosh degrees dist erf erfc exp exp2 expm1 fabs factorial floor fmod frexp fsum gamma gcd hypot
  isclose isfinite isinf isnan isqrt lcm ldexp lgamma log log10 log1p log2 modf nextafter perm pow
  prod radians remainder sin sinh sqrt tan tanh trunc ulp", "constant e 2.718281828459045",
  "constant inf inf", "constant nan nan", "constant pi 3.141592653589793",
  "constant tau 6.283185307179586"]),
  ("numbers", ["functions abstractmethod=abc:", "classes ABCMeta=abc. Complex Integral Number
  Rational Real", "exports Number Complex Real Rational Integral"]),
  ("random", ["functions _test _test_generator", "builtins _acos=math:acos
  _bisect=_bisect:bisect_right _ceil=math:ceil _cos=math:cos _exp=math:exp _floor=math:floor
  _index=_operator:index _isfinite=math:isfinite _log=math:log _sha512=_sha512:sha512 _sin=math:sin
  _sqrt=math:sqrt _urandom=posix:urandom _warn=_warnings:warn getrandbits=:Random.getrandbits
  random=:Random.random", "classes Random SystemRandom _Sequence=collections.abc.Sequence
  _Set=collections.abc.Set _accumulate=itertools.accumulate _repeat=itertools.repeat",
  "objects _inst=random.Random betavariate=method choice=method choices=method expovariate=method
  gammavariate=method gauss=method getstate=method lognormvariate=method normalvariate=method
  paretovariate=method randbytes=method randint=method randrange=method sample=method seed=method
  setstate=method shuffle=method triangular=method uniform=method vonmisesvariate=method
  weibullvariate=method", "modules _os=os _random=", "numbers BPF=53 _ONE=1",
  "constant LOG4 1.3862943611198906", "constant NV_MAGICCONST 1.7155277699214135",
  "constant RECIP_BPF 1.1102230246251565e-16", "constant SG_MAGICCONST 2.504077396776274",
  "constant TWOPI 6.283185307179586", "constant _e 2.718281828459045",
  "constant _pi 3.141592653589793", "exports Random SystemRandom betavariate choice choices
  expovariate gammavariate gauss getrandbits getstate lognormvariate normalvariate paretovariate
  randbytes randint random randrange sample seed setstate shuffle triangular uniform vonmisesvariate
  weibullvariate"]),
  ("secrets", ["functions randbelow token_bytes token_hex token_urlsafe",
  "builtins compare_digest=_hashlib:", "classes SystemRandom=random.",
  "objects _sysrand=random.SystemRandom choice=method randbits=method", "modules base64= binascii=",
  "numbers DEFAULT_ENTROPY=32", "exports choice randbelow randbits SystemRandom token_bytes
  token_hex token_urlsafe compare_digest"]),
  ("statistics", ["functions _coerce _convert _decimal_sqrt_of_frac _exact_ratio _fail_neg
  _float_sqrt_of_frac _integer_sqrt_of_frac_rto _isfinite _mean_stdev _ss _sum correlation
  covariance fmean geometric_mean harmonic_mean linear_regression mean median median_grouped
  median_high median_low mode multimode namedtuple=collections: pstdev pvariance quantiles stdev
  variance", "builtins _normal_dist_inv_cdf=_statistics: bisect_left=_bisect: bisect_right=_bisect:
  erf=math: exp=math: fabs=math: fsum=math: hypot=math: log=math: mul=_operator: reduce=_functools:
  sqrt=math:", "classes Counter=collections. Decimal=decimal. Fraction=fractions. LinearRegression
  NormalDist StatisticsError defaultdict=collections. groupby=itertools. repeat=itertools.",
  "modules math= numbers= random= sys=", "numbers _sqrt_bit_width=109",
  "constant _SQRT2 1.4142135623730951", "constant __annotations__ \x7b'_sqrt_bit_width': int\x7d",
  "constant tau 6.283185307179586", "exports NormalDist StatisticsError correlation covariance fmean
  geometric_mean harmonic_mean linear_regression mean median median_grouped median_high median_low
  mode multimode pstdev pvariance quantiles stdev variance"]),
  ("time", ["built-in", "builtins asctime clock_getres clock_gettime clock_gettime_ns clock_settime
  clock_settime_ns ctime get_clock_info gmtime localtime mktime monotonic monotonic_ns perf_counter
  perf_counter_ns process_time process_time_ns pthread_getcpuclockid sleep strftime strptime
  thread_time thread_time_ns time time_ns tzset", "classes struct_time", "numbers CLOCK_BOOTTIME=7
  CLOCK_MONOTONIC=1 CLOCK_MONOTONIC_RAW=4 CLOCK_PROCESS_CPUTIME_ID=2 CLOCK_REALTIME=0 CLOCK_TAI=11
  CLOCK_THREAD_CPUTIME_ID=3 _STRUCT_TM_ITEMS=11 altzone=0 daylight=0 timezone=0",
  "constant tzname ('UTC', 'UTC')"]),
  ("uuid", ["functions _arp_getnode _find_mac_near_keyword _find_mac_under_heading
  _get_command_stdout _ifconfig_getnode _ip_getnode _ipconfig_getnode _is_universal _lanscan_getnode
  _load_system_functions _netbios_getnode _netstat_getnode _parse_mac _random_getnode
  _simple_enum=enum: _unix_getnode _windll_getnode getnode uuid1 uuid3 uuid4 uuid5",
  "builtins _generate_time_safe=_uuid:generate_time_safe", "classes Enum=enum. SafeUUID UUID
  bytes_=bytes int_=int", "modules _uuid= os= platform= sys=",
  "numbers _has_uuid_generate_time_safe=1",
  "constant NAMESPACE_DNS=uuid.UUID (143098242404177361603877621312831893704,)",
  "constant NAMESPACE_OID=uuid.UUID (143098242562633686632406296499919794376,)",
  "constant NAMESPACE_URL=uuid.UUID (143098242483405524118141958906375844040,)",
  "constant NAMESPACE_X500=uuid.UUID (143098242721090011660934971687007695048,)",
  "constant RESERVED_FUTURE 'reserved for future definition'",
  "constant RESERVED_MICROSOFT 'reserved for Microsoft compatibility'",
  "constant RESERVED_NCS 'reserved for NCS compatibility'",
  "constant RFC_4122 'specified in RFC 4122'", "constant _AIX False",
  "constant _GETTERS [function(...), function(...), function(...)]", "constant _LINUX True",
  "constant _MAC_DELIM b':'", "constant _MAC_OMITS_LEADING_ZEROES False",
  "constant _OS_GETTERS [function(...), function(...)]", "constant _UuidCreate None",
  "constant __author__ 'Ka-Ping Yee <ping\\x40zesty.ca>'", "constant _last_timestamp None",
  "constant _node None", "constant _platform_system 'Linux'"]),
  ("zoneinfo", ["package", "brings _sysconfigdata__x86_64-linux-gnu", "functions __dir__ __getattr__
  available_timezones=zoneinfo._tzpath: reset_tzpath=zoneinfo._tzpath:",
  "classes InvalidTZPathWarning=zoneinfo._tzpath. ZoneInfo ZoneInfoNotFoundError=zoneinfo._common.",
  "modules _common _tzpath", "constant __doc__ None", "exports ZoneInfo reset_tzpath
  available_timezones TZPATH ZoneInfoNotFoundError InvalidTZPathWarning",
  "same TZPATH=zoneinfo._tzpath."]),
  ("zoneinfo._common", ["brings _sysconfigdata__x86_64-linux-gnu", "functions load_data
  load_tzdata", "classes ZoneInfoNotFoundError _TZifHeader", "modules struct=",
  "constant __doc__ None"]),
  ("zoneinfo._tzpath", ["brings _sysconfigdata__x86_64-linux-gnu",
  "functions _get_invalid_paths_message _parse_python_tzpath _validate_tzfile_path
  available_timezones find_tzfile reset_tzpath", "classes InvalidTZPathWarning", "modules os=
  sysconfig=",
  "constant TZPATH ('/usr/share/zoneinfo', '/usr/lib/zoneinfo', '/usr/share/lib/zoneinfo', '/e",
  "|tc/zoneinfo')", "constant __doc__ None"]),
  ("zoneinfo._zoneinfo", ["brings _sysconfigdata__x86_64-linux-gnu", "functions _parse_dst_start_end
  _parse_transition_time _parse_tz_delta _parse_tz_str _post_epoch_days_before_year",
  "classes ZoneInfo=zoneinfo. _CalendarOffset _DayOffset _TZStr _ttinfo datetime=datetime.
  timedelta=datetime. tzinfo=datetime.", "objects _load_timedelta=functools._lru_cache_wrapper",
  "holders _NO_TTINFO=zoneinfo._zoneinfo._ttinfo", "modules _common=zoneinfo. _tzpath=zoneinfo.
  bisect= calendar= collections= functools= re= weakref=", "numbers EPOCHORDINAL=719163",
  "constant EPOCH=datetime.datetime (1970, 1, 1)", "constant __doc__ None",
  "part _NO_TTINFO.dstoff None", "part _NO_TTINFO.tzname None", "part _NO_TTINFO.utcoff None"])]

/-- The classes for numbers, dates and times. -/
def numbersClasses : List (String × List String) := [
  ("_random.Random", ["shown _random.Random", "builtins __new__", "operations __init__",
  "methods random seed getstate setstate getrandbits"]),
  ("_strptime.LocaleTime", ["open", "functions __init__
  _LocaleTime__calc_weekday=_strptime:LocaleTime.__calc_weekday
  _LocaleTime__calc_month=_strptime:LocaleTime.__calc_month
  _LocaleTime__calc_am_pm=_strptime:LocaleTime.__calc_am_pm
  _LocaleTime__calc_date_time=_strptime:LocaleTime.__calc_date_time
  _LocaleTime__calc_timezone=_strptime:LocaleTime.__calc_timezone"]),
  ("_strptime.TimeRE", ["below dict", "open", "functions __init__
  _TimeRE__seqToRE=_strptime:TimeRE.__seqToRE pattern compile"]),
  ("calendar.Calendar", ["open", "functions __init__ getfirstweekday setfirstweekday iterweekdays
  itermonthdates itermonthdays itermonthdays2 itermonthdays3 itermonthdays4 monthdatescalendar
  monthdays2calendar monthdayscalendar yeardatescalendar yeardays2calendar yeardayscalendar",
  "properties firstweekday", "part firstweekday.fget object('function')",
  "part firstweekday.fset object('function')"]),
  ("calendar.HTMLCalendar", ["below calendar.Calendar", "functions formatday formatweek
  formatweekday formatweekheader formatmonthname formatmonth formatyear formatyearpage",
  "constant cssclasses ['mon', 'tue', 'wed', 'thu', 'fri', 'sat', 'sun']",
  "constant cssclasses_weekday_head ['mon', 'tue', 'wed', 'thu', 'fri', 'sat', 'sun']",
  "constant cssclass_noday 'noday'", "constant cssclass_month_head 'month'",
  "constant cssclass_month 'month'", "constant cssclass_year_head 'year'",
  "constant cssclass_year 'year'"]),
  ("calendar.IllegalMonthError", ["below ValueError", "open __weakref__", "functions __init__
  __str__", "silent"]),
  ("calendar.IllegalWeekdayError", ["below ValueError", "open __weakref__", "functions __init__
  __str__", "silent"]),
  ("calendar.LocaleHTMLCalendar", ["below calendar.HTMLCalendar", "functions __init__ formatweekday
  formatmonthname"]),
  ("calendar.LocaleTextCalendar", ["below calendar.TextCalendar", "functions __init__ formatweekday
  formatmonthname"]),
  ("calendar.TextCalendar", ["below calendar.Calendar", "functions prweek formatday formatweek
  formatweekday formatweekheader formatmonthname prmonth formatmonth formatyear pryear"]),
  ("calendar._localized_day", ["open", "functions __init__ __getitem__ __len__",
  "constant _days [builtin_function_or_method(...), builtin_function_or_method(...), builtin_f",
  "|unction_or_method(...), builtin_function_or_method(...), builtin_function_or_method(...), ",
  "|builtin_function_or_method(...), builtin_function_or_method(...)]", "silent"]),
  ("calendar._localized_month", ["open", "functions __init__ __getitem__ __len__",
  "constant _months [function(...), builtin_function_or_method(...), builtin_function_or_metho",
  "|d(...), builtin_function_or_method(...), builtin_function_or_method(...), builtin_function",
  "|_or_method(...), builtin_function_or_method(...), builtin_function_or_method(...), builtin",
  "|_function_or_method(...), builtin_function_or_method(...), builtin_function_or_method(...)",
  "|, builtin_function_or_method(...), builtin_function_or_method(...)]", "silent"]),
  ("calendar.different_locale", ["open", "functions __init__ __enter__ __exit__", "silent"]),
  ("datetime.date", ["shown datetime.date", "sealed", "builtins __new__", "operations __repr__
  __hash__ __str__ __getattribute__ __lt__ __le__ __eq__ __ne__ __gt__ __ge__ __add__ __radd__
  __sub__ __rsub__", "methods ctime strftime __format__ timetuple isocalendar isoformat isoweekday
  toordinal weekday replace __reduce__", "class-builtins fromtimestamp fromordinal fromisoformat
  fromisocalendar today", "fields year month day", "constant min=datetime.date (1, 1, 1)",
  "constant max=datetime.date (9999, 12, 31)", "constant resolution=datetime.timedelta (1,)"]),
  ("datetime.datetime", ["below datetime.date", "shown datetime.datetime", "sealed",
  "builtins __new__", "operations __repr__ __hash__ __str__ __getattribute__ __lt__ __le__ __eq__
  __ne__ __gt__ __ge__ __add__ __radd__ __sub__ __rsub__", "methods date time timetz ctime timetuple
  timestamp utctimetuple isoformat utcoffset tzname dst replace astimezone __reduce_ex__
  __reduce__", "class-builtins now utcnow fromtimestamp utcfromtimestamp strptime combine
  fromisoformat", "fields hour minute second microsecond tzinfo fold",
  "constant min=datetime.datetime (1, 1, 1)",
  "constant max=datetime.datetime (9999, 12, 31, 23, 59, 59, 999999)",
  "constant resolution=datetime.timedelta (0, 0, 1)"]),
  ("datetime.time", ["shown datetime.time", "sealed", "builtins __new__", "operations __repr__
  __hash__ __str__ __getattribute__ __lt__ __le__ __eq__ __ne__ __gt__ __ge__", "methods isoformat
  strftime __format__ utcoffset tzname dst replace __reduce_ex__ __reduce__",
  "class-builtins fromisoformat", "fields hour minute second microsecond tzinfo fold",
  "constant min=datetime.time (0,)", "constant max=datetime.time (23, 59, 59, 999999)",
  "constant resolution=datetime.timedelta (0, 0, 1)"]),
  ("datetime.timedelta", ["shown datetime.timedelta", "sealed", "builtins __new__",
  "operations __repr__ __hash__ __str__ __getattribute__ __lt__ __le__ __eq__ __ne__ __gt__ __ge__
  __add__ __radd__ __sub__ __rsub__ __mul__ __rmul__ __mod__ __rmod__ __divmod__ __rdivmod__ __neg__
  __pos__ __abs__ __bool__ __floordiv__ __rfloordiv__ __truediv__ __rtruediv__",
  "methods total_seconds __reduce__", "slots days seconds microseconds",
  "constant resolution=datetime.timedelta (0, 0, 1)",
  "constant min=datetime.timedelta (-999999999,)",
  "constant max=datetime.timedelta (999999999, 86399, 999999)"]),
  ("datetime.timezone", ["below datetime.tzinfo", "shown datetime.timezone", "sealed",
  "builtins __new__", "operations __repr__ __hash__ __str__ __lt__ __le__ __eq__ __ne__ __gt__
  __ge__", "methods tzname utcoffset dst fromutc __getinitargs__", "objects utc=datetime.timezone
  min=datetime.timezone max=datetime.timezone"]),
  ("datetime.tzinfo", ["shown datetime.tzinfo", "sealed", "builtins __new__",
  "operations __getattribute__", "methods tzname utcoffset dst fromutc __reduce__"]),
  ("decimal.Clamped", ["below decimal.DecimalException", "silent"]),
  ("decimal.Context", ["shown decimal.Context", "builtins __new__", "operations __repr__
  __getattribute__ __setattr__ __delattr__ __init__", "methods abs exp ln log10 minus next_minus
  next_plus normalize plus to_integral to_integral_exact to_integral_value sqrt add compare
  compare_signal divide divide_int divmod max max_mag min min_mag multiply next_toward quantize
  remainder remainder_near subtract power fma Etiny Etop radix is_canonical is_finite is_infinite
  is_nan is_normal is_qnan is_signed is_snan is_subnormal is_zero _apply canonical copy_abs
  copy_decimal copy_negate logb logical_invert number_class to_sci_string to_eng_string
  compare_total compare_total_mag copy_sign logical_and logical_or logical_xor rotate same_quantum
  scaleb shift clear_flags clear_traps __copy__ __reduce__ copy create_decimal
  create_decimal_from_float", "fields prec Emax Emin rounding capitals clamp"]),
  ("decimal.ConversionSyntax", ["below decimal.InvalidOperation", "silent"]),
  ("decimal.Decimal", ["shown decimal.Decimal", "builtins __new__", "operations __repr__ __hash__
  __str__ __getattribute__ __lt__ __le__ __eq__ __ne__ __gt__ __ge__ __add__ __radd__ __sub__
  __rsub__ __mul__ __rmul__ __mod__ __rmod__ __divmod__ __rdivmod__ __pow__ __rpow__ __neg__ __pos__
  __abs__ __bool__ __int__ __float__ __floordiv__ __rfloordiv__ __truediv__ __rtruediv__",
  "methods exp ln log10 next_minus next_plus normalize to_integral to_integral_exact
  to_integral_value sqrt compare compare_signal max max_mag min min_mag next_toward quantize
  remainder_near fma is_canonical is_finite is_infinite is_nan is_qnan is_snan is_signed is_zero
  is_normal is_subnormal adjusted canonical conjugate radix copy_abs copy_negate logb logical_invert
  number_class to_eng_string compare_total compare_total_mag copy_sign same_quantum logical_and
  logical_or logical_xor rotate scaleb shift as_tuple as_integer_ratio __copy__ __deepcopy__
  __format__ __reduce__ __round__ __ceil__ __floor__ __trunc__ __complex__ __sizeof__",
  "class-builtins from_float", "fields real imag"]),
  ("decimal.DecimalException", ["below ArithmeticError", "open __weakref__", "silent"]),
  ("decimal.DecimalTuple", ["below tuple", "functions _replace=collections:DecimalTuple._replace
  __repr__=collections:DecimalTuple.__repr__ _asdict=collections:DecimalTuple._asdict
  __getnewargs__=collections:DecimalTuple.__getnewargs__",
  "class-functions _make=collections:DecimalTuple._make",
  "statics __new__=namedtuple_DecimalTuple:DecimalTuple.__new__",
  "objects sign=_collections._tuplegetter digits=_collections._tuplegetter
  exponent=_collections._tuplegetter", "constant __slots__ ()",
  "constant _fields ('sign', 'digits', 'exponent')", "constant _field_defaults \x7b\x7d",
  "constant __match_args__ ('sign', 'digits', 'exponent')"]),
  ("decimal.DivisionByZero", ["above decimal.DecimalException ZeroDivisionError ArithmeticError
  Exception BaseException object", "silent"]),
  ("decimal.DivisionImpossible", ["below decimal.InvalidOperation", "silent"]),
  ("decimal.DivisionUndefined", ["above decimal.InvalidOperation decimal.DecimalException
  ZeroDivisionError ArithmeticError Exception BaseException object", "silent"]),
  ("decimal.FloatOperation", ["above decimal.DecimalException ArithmeticError TypeError Exception
  BaseException object", "silent"]),
  ("decimal.Inexact", ["below decimal.DecimalException", "silent"]),
  ("decimal.InvalidContext", ["below decimal.InvalidOperation", "silent"]),
  ("decimal.InvalidOperation", ["below decimal.DecimalException", "silent"]),
  ("decimal.Overflow", ["above decimal.Inexact decimal.Rounded decimal.DecimalException
  ArithmeticError Exception BaseException object", "silent"]),
  ("decimal.Rounded", ["below decimal.DecimalException", "silent"]),
  ("decimal.Subnormal", ["below decimal.DecimalException", "silent"]),
  ("decimal.Underflow", ["above decimal.Inexact decimal.Rounded decimal.Subnormal
  decimal.DecimalException ArithmeticError Exception BaseException object", "silent"]),
  ("decimal._ContextManager", ["open", "functions __init__ __enter__ __exit__"]),
  ("decimal._Log10Memoize", ["open", "functions __init__ getdigits"]),
  ("decimal._WorkRep", ["functions __init__ __repr__", "slots exp int sign",
  "constant __slots__ ('sign', 'int', 'exp')", "silent"]),
  ("fractions.Fraction", ["below numbers.Rational", "kind abc.ABCMeta", "functions as_integer_ratio
  limit_denominator __repr__ __str__ _operator_fallbacks _add
  __add__=fractions:Fraction._operator_fallbacks.<locals>.forward
  __radd__=fractions:Fraction._operator_fallbacks.<locals>.reverse _sub
  __sub__=fractions:Fraction._operator_fallbacks.<locals>.forward
  __rsub__=fractions:Fraction._operator_fallbacks.<locals>.reverse _mul
  __mul__=fractions:Fraction._operator_fallbacks.<locals>.forward
  __rmul__=fractions:Fraction._operator_fallbacks.<locals>.reverse _div
  __truediv__=fractions:Fraction._operator_fallbacks.<locals>.forward
  __rtruediv__=fractions:Fraction._operator_fallbacks.<locals>.reverse _floordiv
  __floordiv__=fractions:Fraction._operator_fallbacks.<locals>.forward
  __rfloordiv__=fractions:Fraction._operator_fallbacks.<locals>.reverse _divmod
  __divmod__=fractions:Fraction._operator_fallbacks.<locals>.forward
  __rdivmod__=fractions:Fraction._operator_fallbacks.<locals>.reverse _mod
  __mod__=fractions:Fraction._operator_fallbacks.<locals>.forward
  __rmod__=fractions:Fraction._operator_fallbacks.<locals>.reverse __pow__ __rpow__ __pos__ __neg__
  __abs__ __int__ __trunc__ __floor__ __ceil__ __round__ __hash__ __eq__ _richcmp __lt__ __gt__
  __le__ __ge__ __bool__ __reduce__ __copy__ __deepcopy__", "class-functions from_float
  from_decimal", "statics __new__", "properties numerator denominator", "slots _denominator
  _numerator", "constant __slots__ ('_numerator', '_denominator')"]),
  ("numbers.Complex", ["below numbers.Number", "kind abc.ABCMeta", "functions __complex__ __bool__
  __add__ __radd__ __neg__ __pos__ __sub__ __rsub__ __mul__ __rmul__ __truediv__ __rtruediv__
  __pow__ __rpow__ __abs__ conjugate __eq__", "properties real imag", "constant __slots__ ()",
  "constant __hash__ None", "part *.__isabstractmethod__ True", "of __complex__ __add__ __radd__
  __neg__ __pos__ __mul__ __rmul__ __truediv__ __rtruediv__ __pow__ __rpow__ __abs__ conjugate
  __eq__ real imag", "part *.__dict__ \x7b'__isabstractmethod__': True\x7d", "of __complex__ __add__
  __radd__ __neg__ __pos__ __mul__ __rmul__ __truediv__ __rtruediv__ __pow__ __rpow__ __abs__
  conjugate __eq__"]),
  ("numbers.Integral", ["below numbers.Rational", "kind abc.ABCMeta", "functions __int__ __index__
  __pow__ __lshift__ __rlshift__ __rshift__ __rrshift__ __and__ __rand__ __xor__ __rxor__ __or__
  __ror__ __invert__ __float__", "properties numerator denominator", "constant __slots__ ()",
  "part *.__isabstractmethod__ True", "of __int__ __pow__ __lshift__ __rlshift__ __rshift__
  __rrshift__ __and__ __rand__ __xor__ __rxor__ __or__ __ror__ __invert__",
  "part *.__dict__ \x7b'__isabstractmethod__': True\x7d", "of __int__ __pow__ __lshift__ __rlshift__
  __rshift__ __rrshift__ __and__ __rand__ __xor__ __rxor__ __or__ __ror__ __invert__"]),
  ("numbers.Number", ["kind abc.ABCMeta", "constant __slots__ ()", "constant __hash__ None"]),
  ("numbers.Rational", ["below numbers.Real", "kind abc.ABCMeta", "functions __float__",
  "properties numerator denominator", "constant __slots__ ()", "part *.__isabstractmethod__ True",
  "of numerator denominator"]),
  ("numbers.Real", ["below numbers.Complex", "kind abc.ABCMeta", "functions __float__ __trunc__
  __floor__ __ceil__ __round__ __divmod__ __rdivmod__ __floordiv__ __rfloordiv__ __mod__ __rmod__
  __lt__ __le__ __complex__ conjugate", "properties real imag", "constant __slots__ ()",
  "part *.__isabstractmethod__ True", "of __float__ __trunc__ __floor__ __ceil__ __round__
  __floordiv__ __rfloordiv__ __mod__ __rmod__ __lt__ __le__",
  "part *.__dict__ \x7b'__isabstractmethod__': True\x7d", "of __float__ __trunc__ __floor__ __ceil__
  __round__ __floordiv__ __rfloordiv__ __mod__ __rmod__ __lt__ __le__"]),
  ("random.Random", ["below _random.Random", "open", "functions __init__ seed getstate setstate
  __getstate__ __setstate__ __reduce__ _randbelow_with_getrandbits _randbelow_without_getrandbits
  _randbelow=random:Random._randbelow_with_getrandbits randbytes randrange randint choice shuffle
  sample choices uniform triangular normalvariate gauss lognormvariate expovariate vonmisesvariate
  gammavariate betavariate paretovariate weibullvariate", "class-functions __init_subclass__",
  "numbers VERSION=3"]),
  ("random.SystemRandom", ["below random.Random", "functions random getrandbits randbytes seed
  _notimplemented getstate=random:SystemRandom._notimplemented
  setstate=random:SystemRandom._notimplemented
  _randbelow=random:Random._randbelow_with_getrandbits"]),
  ("statistics.LinearRegression", ["below tuple",
  "functions _replace=collections:LinearRegression._replace
  __repr__=collections:LinearRegression.__repr__ _asdict=collections:LinearRegression._asdict
  __getnewargs__=collections:LinearRegression.__getnewargs__",
  "class-functions _make=collections:LinearRegression._make",
  "statics __new__=namedtuple_LinearRegression:LinearRegression.__new__",
  "objects slope=_collections._tuplegetter intercept=_collections._tuplegetter",
  "constant __slots__ ()", "constant _fields ('slope', 'intercept')",
  "constant _field_defaults \x7b\x7d", "constant __match_args__ ('slope', 'intercept')"]),
  ("statistics.NormalDist", ["functions __init__ samples pdf cdf inv_cdf quantiles overlap zscore
  __add__ __sub__ __mul__ __truediv__ __pos__ __neg__ __radd__=statistics:NormalDist.__add__
  __rsub__ __rmul__=statistics:NormalDist.__mul__ __eq__ __hash__ __repr__ __getstate__
  __setstate__", "class-functions from_samples", "properties mean median mode stdev variance",
  "slots _mu _sigma",
  "constant __slots__ \x7b'_mu': 'Arithmetic mean of a normal distribution', '_sigma': 'Standa",
  "|rd deviation of a normal distribution'\x7d"]),
  ("statistics.StatisticsError", ["below ValueError", "open __weakref__", "silent"]),
  ("time.struct_time", ["below tuple", "shown time.struct_time", "builtins __new__",
  "operations __repr__", "methods __reduce__", "slots tm_year tm_mon tm_mday tm_hour tm_min tm_sec
  tm_wday tm_yday tm_isdst tm_zone tm_gmtoff", "numbers n_sequence_fields=9 n_fields=11
  n_unnamed_fields=0",
  "constant __match_args__ ('tm_year', 'tm_mon', 'tm_mday', 'tm_hour', 'tm_min', 'tm_sec', 'tm",
  "|_wday', 'tm_yday', 'tm_isdst')"]),
  ("uuid.SafeUUID", ["below enum.Enum", "kind enum.EnumType",
  "functions _generate_next_value_=enum:Enum._generate_next_value_ __new__=enum:Enum.__new__",
  "builtins _new_member_", "classes _member_type_=object", "constant _use_args_ False",
  "constant _unhashable_values_ []", "constant _value_repr_ None", "values safe=0 unsafe=-1",
  "value unknown None", "style plain name"]),
  ("uuid.UUID", ["open __weakref__", "functions __init__ __getstate__ __setstate__ __eq__ __lt__
  __gt__ __le__ __ge__ __hash__ __int__ __repr__ __setattr__ __str__", "properties bytes bytes_le
  fields time_low time_mid time_hi_version clock_seq_hi_variant clock_seq_low time clock_seq node
  hex urn variant version", "slots int is_safe",
  "constant __slots__ ('int', 'is_safe', '__weakref__')"]),
  ("zoneinfo.ZoneInfo", ["below datetime.tzinfo", "shown zoneinfo.ZoneInfo", "sealed",
  "builtins __new__", "operations __repr__ __str__ __getattribute__", "methods utcoffset dst tzname
  fromutc __reduce__", "class-builtins clear_cache no_cache from_file _unpickle __init_subclass__",
  "slots key", "silent"]),
  ("zoneinfo._common.ZoneInfoNotFoundError", ["below KeyError", "open __weakref__"]),
  ("zoneinfo._common._TZifHeader", ["functions __init__", "class-functions from_file",
  "slots charcnt isstdcnt isutcnt leapcnt timecnt typecnt version",
  "constant __slots__ ['version', 'isutcnt', 'isstdcnt', 'leapcnt', 'timecnt', 'typecnt', 'cha",
  "|rcnt']", "silent"]),
  ("zoneinfo._tzpath.InvalidTZPathWarning", ["below RuntimeWarning", "open __weakref__"]),
  ("zoneinfo._zoneinfo._CalendarOffset", ["functions __init__ year_to_epoch",
  "class-functions _ymd2ord", "slots d hour m minute second w",
  "constant __slots__ ['m', 'w', 'd', 'hour', 'minute', 'second']",
  "constant _DAYS_BEFORE_MONTH (-1, 0, 31, 59, 90, 120, 151, 181, 212, 243, 273, 304, 334)",
  "silent"]),
  ("zoneinfo._zoneinfo._DayOffset", ["functions __init__ year_to_epoch", "slots d hour julian minute
  second", "constant __slots__ ['d', 'julian', 'hour', 'minute', 'second']", "silent"]),
  ("zoneinfo._zoneinfo._TZStr", ["functions __init__ transitions _get_trans_info
  _get_trans_info_fromutc", "slots dst dst_diff end get_trans_info get_trans_info_fromutc start
  std",
  "constant __slots__ ('std', 'dst', 'start', 'end', 'get_trans_info', 'get_trans_info_fromutc",
  "|', 'dst_diff')", "silent"]),
  ("zoneinfo._zoneinfo._ttinfo", ["functions __init__ __eq__ __repr__", "slots dstoff tzname
  utcoff", "constant __slots__ ['utcoff', 'dstoff', 'tzname']", "silent",
  "constant __hash__ None"])]

end FragmentWeaver.Standard
