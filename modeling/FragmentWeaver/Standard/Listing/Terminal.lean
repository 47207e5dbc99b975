/-!
# Listing: terminals

What stands in the modules and classes for terminals.
-/

namespace FragmentWeaver.Standard

/-- The modules for terminals. -/
def terminalModules : List (String × List String) := [
  ("_curses", ["extension", "builtins baudrate beep can_change_color cbreak color_content color_pair
  curs_set def_prog_mode def_shell_mode delay_output doupdate echo endwin erasechar filter flash
  flushinp get_escdelay get_tabsize getmouse getsyx getwin halfdelay has_colors
  has_extended_color_support has_ic has_il has_key init_color init_pair initscr intrflush
  is_term_resized isendwin keyname killchar longname meta mouseinterval mousemask napms newpad
  newwin nl nocbreak noecho nonl noqiflush noraw pair_content pair_number putp qiflush raw
  reset_prog_mode reset_shell_mode resetty resize_term resizeterm savetty set_escdelay set_tabsize
  setsyx setupterm start_color termattrs termname tigetflag tigetnum tigetstr tparm typeahead unctrl
  unget_wch ungetch ungetmouse update_lines_cols use_default_colors use_env", "classes error
  window", "objects _C_API=PyCapsule", "numbers ALL_MOUSE_EVENTS=268435455 A_ALTCHARSET=4194304
  A_ATTRIBUTES=4294967040 A_BLINK=524288 A_BOLD=2097152 A_CHARTEXT=255 A_COLOR=65280 A_DIM=1048576
  A_HORIZONTAL=33554432 A_INVIS=8388608 A_ITALIC=2147483648 A_LEFT=67108864 A_LOW=134217728
  A_NORMAL=0 A_PROTECT=16777216 A_REVERSE=262144 A_RIGHT=268435456 A_STANDOUT=65536 A_TOP=536870912
  A_UNDERLINE=131072 A_VERTICAL=1073741824 BUTTON1_CLICKED=4 BUTTON1_DOUBLE_CLICKED=8
  BUTTON1_PRESSED=2 BUTTON1_RELEASED=1 BUTTON1_TRIPLE_CLICKED=16 BUTTON2_CLICKED=128
  BUTTON2_DOUBLE_CLICKED=256 BUTTON2_PRESSED=64 BUTTON2_RELEASED=32 BUTTON2_TRIPLE_CLICKED=512
  BUTTON3_CLICKED=4096 BUTTON3_DOUBLE_CLICKED=8192 BUTTON3_PRESSED=2048 BUTTON3_RELEASED=1024
  BUTTON3_TRIPLE_CLICKED=16384 BUTTON4_CLICKED=131072 BUTTON4_DOUBLE_CLICKED=262144
  BUTTON4_PRESSED=65536 BUTTON4_RELEASED=32768 BUTTON4_TRIPLE_CLICKED=524288 BUTTON5_CLICKED=4194304
  BUTTON5_DOUBLE_CLICKED=8388608 BUTTON5_PRESSED=2097152 BUTTON5_RELEASED=1048576
  BUTTON5_TRIPLE_CLICKED=16777216 BUTTON_ALT=134217728 BUTTON_CTRL=33554432 BUTTON_SHIFT=67108864
  COLOR_BLACK=0 COLOR_BLUE=4 COLOR_CYAN=6 COLOR_GREEN=2 COLOR_MAGENTA=5 COLOR_RED=1 COLOR_WHITE=7
  COLOR_YELLOW=3 ERR=-1 KEY_A1=348 KEY_A3=349 KEY_B2=350 KEY_BACKSPACE=263 KEY_BEG=354 KEY_BREAK=257
  KEY_BTAB=353 KEY_C1=351 KEY_C3=352 KEY_CANCEL=355 KEY_CATAB=342 KEY_CLEAR=333 KEY_CLOSE=356
  KEY_COMMAND=357 KEY_COPY=358 KEY_CREATE=359 KEY_CTAB=341 KEY_DC=330 KEY_DL=328 KEY_DOWN=258
  KEY_EIC=332 KEY_END=360 KEY_ENTER=343 KEY_EOL=335 KEY_EOS=334 KEY_EXIT=361 KEY_F0=264 KEY_F1=265
  KEY_F10=274 KEY_F11=275 KEY_F12=276 KEY_F13=277 KEY_F14=278 KEY_F15=279 KEY_F16=280 KEY_F17=281
  KEY_F18=282 KEY_F19=283 KEY_F2=266 KEY_F20=284 KEY_F21=285 KEY_F22=286 KEY_F23=287 KEY_F24=288
  KEY_F25=289 KEY_F26=290 KEY_F27=291 KEY_F28=292 KEY_F29=293 KEY_F3=267 KEY_F30=294 KEY_F31=295
  KEY_F32=296 KEY_F33=297 KEY_F34=298 KEY_F35=299 KEY_F36=300 KEY_F37=301 KEY_F38=302 KEY_F39=303
  KEY_F4=268 KEY_F40=304 KEY_F41=305 KEY_F42=306 KEY_F43=307 KEY_F44=308 KEY_F45=309 KEY_F46=310
  KEY_F47=311 KEY_F48=312 KEY_F49=313 KEY_F5=269 KEY_F50=314 KEY_F51=315 KEY_F52=316 KEY_F53=317
  KEY_F54=318 KEY_F55=319 KEY_F56=320 KEY_F57=321 KEY_F58=322 KEY_F59=323 KEY_F6=270 KEY_F60=324
  KEY_F61=325 KEY_F62=326 KEY_F63=327 KEY_F7=271 KEY_F8=272 KEY_F9=273 KEY_FIND=362 KEY_HELP=363
  KEY_HOME=262 KEY_IC=331 KEY_IL=329 KEY_LEFT=260 KEY_LL=347 KEY_MARK=364 KEY_MAX=511
  KEY_MESSAGE=365 KEY_MIN=257 KEY_MOUSE=409 KEY_MOVE=366 KEY_NEXT=367 KEY_NPAGE=338 KEY_OPEN=368
  KEY_OPTIONS=369 KEY_PPAGE=339 KEY_PREVIOUS=370 KEY_PRINT=346 KEY_REDO=371 KEY_REFERENCE=372
  KEY_REFRESH=373 KEY_REPLACE=374 KEY_RESET=345 KEY_RESIZE=410 KEY_RESTART=375 KEY_RESUME=376
  KEY_RIGHT=261 KEY_SAVE=377 KEY_SBEG=378 KEY_SCANCEL=379 KEY_SCOMMAND=380 KEY_SCOPY=381
  KEY_SCREATE=382 KEY_SDC=383 KEY_SDL=384 KEY_SELECT=385 KEY_SEND=386 KEY_SEOL=387 KEY_SEXIT=388
  KEY_SF=336 KEY_SFIND=389 KEY_SHELP=390 KEY_SHOME=391 KEY_SIC=392 KEY_SLEFT=393 KEY_SMESSAGE=394
  KEY_SMOVE=395 KEY_SNEXT=396 KEY_SOPTIONS=397 KEY_SPREVIOUS=398 KEY_SPRINT=399 KEY_SR=337
  KEY_SREDO=400 KEY_SREPLACE=401 KEY_SRESET=344 KEY_SRIGHT=402 KEY_SRSUME=403 KEY_SSAVE=404
  KEY_SSUSPEND=405 KEY_STAB=340 KEY_SUNDO=406 KEY_SUSPEND=407 KEY_UNDO=408 KEY_UP=259 OK=0
  REPORT_MOUSE_POSITION=268435456", "constant __doc__ None", "constant __version__ b'2.2'",
  "constant ncurses_version=curses.ncurses_version (6, 4, 20221231)", "constant version b'2.2'"]),
  ("_curses_panel", ["extension", "builtins bottom_panel new_panel top_panel update_panels",
  "classes error panel", "constant __doc__ None", "constant __version__ '2.1'",
  "constant version '2.1'"]),
  ("curses", ["package", "takes _curses", "functions initscr start_color wrapper",
  "builtins has_key=:", "modules _os=os _sys=sys"]),
  ("curses.ascii", ["functions _ctoi alt ascii ctrl isalnum isalpha isascii isblank iscntrl isctrl
  isdigit isgraph islower ismeta isprint ispunct isspace isupper isxdigit unctrl", "numbers ACK=6
  BEL=7 BS=8 CAN=24 CR=13 DC1=17 DC2=18 DC3=19 DC4=20 DEL=127 DLE=16 EM=25 ENQ=5 EOT=4 ESC=27 ETB=23
  ETX=3 FF=12 FS=28 GS=29 HT=9 LF=10 NAK=21 NL=10 NUL=0 RS=30 SI=15 SO=14 SOH=1 SP=32 STX=2 SUB=26
  SYN=22 TAB=9 US=31 VT=11",
  "constant controlnames ['NUL', 'SOH', 'STX', 'ETX', 'EOT', 'ENQ', 'ACK', 'BEL', 'BS', 'HT', ",
  "|'LF', 'VT', 'FF', 'CR', 'SO', 'SI', 'DLE', 'DC1', 'DC2', 'DC3', 'DC4', 'NAK', 'SYN', 'ETB'",
  "|, 'CAN', 'EM', 'SUB', 'ESC', 'FS', 'GS', 'RS', 'US', 'SP']"]),
  ("curses.has_key", ["functions has_key", "modules _curses=", "constant __doc__ None",
  "constant _capability_names \x7b348: 'ka1', 349: 'ka3', 350: 'kb2', 263: 'kbs', 354: 'kbeg',",
  "| 353: 'kcbt', 351: 'kc1', 352: 'kc3', 355: 'kcan', 342: 'ktbc', 333: 'kclr', 356: 'kclo', ",
  "|357: 'kcmd', 358: 'kcpy', 359: 'kcrt', 341: 'kctab', 330: 'kdch1', 328: 'kdl1', 258: 'kcud",
  "|1', 332: 'krmir', 360: 'kend', 343: 'kent', 335: 'kel', 334: 'ked', 361: 'kext', 264: 'kf0",
  "|', 265: 'kf1', 274: 'kf10', 275: 'kf11', 276: 'kf12', 277: 'kf13', 278: 'kf14', 279: 'kf15",
  "|', 280: 'kf16', 281: 'kf17', 282: 'kf18', 283: 'kf19', 266: 'kf2', 284: 'kf20', 285: 'kf21",
  "|', 286: 'kf22', 287: 'kf23', 288: 'kf24', 289: 'kf25', 290: 'kf26', 291: 'kf27', 292: 'kf2",
  "|8', 293: 'kf29', 267: 'kf3', 294: 'kf30', 295: 'kf31', 296: 'kf32', 297: 'kf33', 298: 'kf3",
  "|4', 299: 'kf35', 300: 'kf36', 301: 'kf37', 302: 'kf38', 303: 'kf39', 268: 'kf4', 304: 'kf4",
  "|0', 305: 'kf41', 306: 'kf42', 307: 'kf43', 308: 'kf44', 309: 'kf45', 310: 'kf46', 311: 'kf",
  "|47', 312: 'kf48', 313: 'kf49', 269: 'kf5', 314: 'kf50', 315: 'kf51', 316: 'kf52', 317: 'kf",
  "|53', 318: 'kf54', 319: 'kf55', 320: 'kf56', 321: 'kf57', 322: 'kf58', 323: 'kf59', 270: 'k",
  "|f6', 324: 'kf60', 325: 'kf61', 326: 'kf62', 327: 'kf63', 271: 'kf7', 272: 'kf8', 273: 'kf9",
  "|', 362: 'kfnd', 363: 'khlp', 262: 'khome', 331: 'kich1', 329: 'kil1', 260: 'kcub1', 347: '",
  "|kll', 364: 'kmrk', 365: 'kmsg', 366: 'kmov', 367: 'knxt', 338: 'knp', 368: 'kopn', 369: 'k",
  "|opt', 339: 'kpp', 370: 'kprv', 346: 'kprt', 371: 'krdo', 372: 'kref', 373: 'krfr', 374: 'k",
  "|rpl', 375: 'krst', 376: 'kres', 261: 'kcuf1', 377: 'ksav', 378: 'kBEG', 379: 'kCAN', 380: ",
  "|'kCMD', 381: 'kCPY', 382: 'kCRT', 383: 'kDC', 384: 'kDL', 385: 'kslt', 386: 'kEND', 387: '",
  "|kEOL', 388: 'kEXT', 336: 'kind', 389: 'kFND', 390: 'kHLP', 391: 'kHOM', 392: 'kIC', 393: '",
  "|kLFT', 394: 'kMSG', 395: 'kMOV', 396: 'kNXT', 397: 'kOPT', 398: 'kPRV', 399: 'kPRT', 337: ",
  "|'kri', 400: 'kRDO', 401: 'kRPL', 402: 'kRIT', 403: 'kRES', 404: 'kSAV', 405: 'kSPD', 340: ",
  "|'khts', 406: 'kUND', 407: 'kspd', 408: 'kund', 259: 'kcuu1'\x7d"]),
  ("curses.panel", ["builtins bottom_panel=_curses_panel: new_panel=_curses_panel:
  top_panel=_curses_panel: update_panels=_curses_panel:", "classes error=_curses_panel.
  panel=_curses_panel.", "constant version '2.1'"]),
  ("curses.textpad", ["functions rectangle", "classes Textbox", "modules curses="]),
  ("ossaudiodev", ["extension", "builtins open openmixer", "classes OSSAudioError
  error=ossaudiodev.OSSAudioError", "numbers AFMT_AC3=1024 AFMT_A_LAW=2 AFMT_IMA_ADPCM=4
  AFMT_MPEG=512 AFMT_MU_LAW=1 AFMT_QUERY=0 AFMT_S16_BE=32 AFMT_S16_LE=16 AFMT_S16_NE=16 AFMT_S8=64
  AFMT_U16_BE=256 AFMT_U16_LE=128 AFMT_U8=8 SNDCTL_COPR_HALT=3222553351 SNDCTL_COPR_LOAD=3484435201
  SNDCTL_COPR_RCODE=3222553347 SNDCTL_COPR_RCVMSG=2409906953 SNDCTL_COPR_RDATA=3222553346
  SNDCTL_COPR_RESET=17152 SNDCTL_COPR_RUN=3222553350 SNDCTL_COPR_SENDMSG=3483648776
  SNDCTL_COPR_WCODE=1075069701 SNDCTL_COPR_WDATA=1075069700 SNDCTL_DSP_BIND_CHANNEL=3221508161
  SNDCTL_DSP_CHANNELS=3221508102 SNDCTL_DSP_GETBLKSIZE=3221508100 SNDCTL_DSP_GETCAPS=2147766287
  SNDCTL_DSP_GETCHANNELMASK=3221508160 SNDCTL_DSP_GETFMTS=2147766283 SNDCTL_DSP_GETIPTR=2148290577
  SNDCTL_DSP_GETISPACE=2148552717 SNDCTL_DSP_GETODELAY=2147766295 SNDCTL_DSP_GETOPTR=2148290578
  SNDCTL_DSP_GETOSPACE=2148552716 SNDCTL_DSP_GETSPDIF=2147766339 SNDCTL_DSP_GETTRIGGER=2147766288
  SNDCTL_DSP_MAPINBUF=2148552723 SNDCTL_DSP_MAPOUTBUF=2148552724 SNDCTL_DSP_NONBLOCK=20494
  SNDCTL_DSP_POST=20488 SNDCTL_DSP_PROFILE=1074024471 SNDCTL_DSP_RESET=20480
  SNDCTL_DSP_SAMPLESIZE=3221508101 SNDCTL_DSP_SETDUPLEX=20502 SNDCTL_DSP_SETFMT=3221508101
  SNDCTL_DSP_SETFRAGMENT=3221508106 SNDCTL_DSP_SETSPDIF=1074024514 SNDCTL_DSP_SETSYNCRO=20501
  SNDCTL_DSP_SETTRIGGER=1074024464 SNDCTL_DSP_SPEED=3221508098 SNDCTL_DSP_STEREO=3221508099
  SNDCTL_DSP_SUBDIVIDE=3221508105 SNDCTL_DSP_SYNC=20481 SNDCTL_FM_4OP_ENABLE=1074024719
  SNDCTL_FM_LOAD_INSTR=1076384007 SNDCTL_MIDI_INFO=3228848396 SNDCTL_MIDI_MPUCMD=3223416066
  SNDCTL_MIDI_MPUMODE=3221515521 SNDCTL_MIDI_PRETIME=3221515520 SNDCTL_SEQ_CTRLRATE=3221508355
  SNDCTL_SEQ_GETINCOUNT=2147766533 SNDCTL_SEQ_GETOUTCOUNT=2147766532 SNDCTL_SEQ_GETTIME=2147766547
  SNDCTL_SEQ_NRMIDIS=2147766539 SNDCTL_SEQ_NRSYNTHS=2147766538 SNDCTL_SEQ_OUTOFBAND=1074286866
  SNDCTL_SEQ_PANIC=20753 SNDCTL_SEQ_PERCMODE=1074024710 SNDCTL_SEQ_RESET=20736
  SNDCTL_SEQ_RESETSAMPLES=1074024713 SNDCTL_SEQ_SYNC=20737 SNDCTL_SEQ_TESTMIDI=1074024712
  SNDCTL_SEQ_THRESHOLD=1074024717 SNDCTL_SYNTH_CONTROL=3483652373 SNDCTL_SYNTH_ID=3230421268
  SNDCTL_SYNTH_INFO=3230421250 SNDCTL_SYNTH_MEMAVL=3221508366 SNDCTL_SYNTH_REMOVESAMPLE=3222032662
  SNDCTL_TMR_CONTINUE=21508 SNDCTL_TMR_METRONOME=1074025479 SNDCTL_TMR_SELECT=1074025480
  SNDCTL_TMR_SOURCE=3221509126 SNDCTL_TMR_START=21506 SNDCTL_TMR_STOP=21507
  SNDCTL_TMR_TEMPO=3221509125 SNDCTL_TMR_TIMEBASE=3221509121 SOUND_MIXER_ALTPCM=10
  SOUND_MIXER_BASS=1 SOUND_MIXER_CD=8 SOUND_MIXER_DIGITAL1=17 SOUND_MIXER_DIGITAL2=18
  SOUND_MIXER_DIGITAL3=19 SOUND_MIXER_IGAIN=12 SOUND_MIXER_IMIX=9 SOUND_MIXER_LINE=6
  SOUND_MIXER_LINE1=14 SOUND_MIXER_LINE2=15 SOUND_MIXER_LINE3=16 SOUND_MIXER_MIC=7
  SOUND_MIXER_MONITOR=24 SOUND_MIXER_NRDEVICES=25 SOUND_MIXER_OGAIN=13 SOUND_MIXER_PCM=4
  SOUND_MIXER_PHONEIN=20 SOUND_MIXER_PHONEOUT=21 SOUND_MIXER_RADIO=23 SOUND_MIXER_RECLEV=11
  SOUND_MIXER_SPEAKER=5 SOUND_MIXER_SYNTH=3 SOUND_MIXER_TREBLE=2 SOUND_MIXER_VIDEO=22
  SOUND_MIXER_VOLUME=0", "constant __doc__ None",
  "constant control_labels ['Vol  ', 'Bass ', 'Trebl', 'Synth', 'Pcm  ', 'Spkr ', 'Line ', 'Mi",
  "|c  ', 'CD   ', 'Mix  ', 'Pcm2 ', 'Rec  ', 'IGain', 'OGain', 'Line1', 'Line2', 'Line3', 'Di",
  "|gital1', 'Digital2', 'Digital3', 'PhoneIn', 'PhoneOut', 'Video', 'Radio', 'Monitor']",
  "constant control_names ['vol', 'bass', 'treble', 'synth', 'pcm', 'speaker', 'line', 'mic', ",
  "|'cd', 'mix', 'pcm2', 'rec', 'igain', 'ogain', 'line1', 'line2', 'line3', 'dig1', 'dig2', '",
  "|dig3', 'phin', 'phout', 'video', 'radio', 'monitor']"]),
  ("pipes", ["functions makepipeline quote=shlex:", "classes Template", "modules os= re= tempfile=
  warnings=", "constant FILEIN_FILEOUT 'ff'", "constant FILEIN_STDOUT 'f-'", "constant SINK '-.'",
  "constant SOURCE '.-'", "constant STDIN_FILEOUT '-f'", "constant STDIN_STDOUT '--'",
  "constant stepkinds ['ff', '-f', 'f-', '--', '.-', '-.']", "exports Template"]),
  ("pty", ["functions _copy _open_terminal _read fork master_open openpty setraw=tty: slave_open
  spawn", "builtins close=posix: select=select: tcgetattr=termios: tcsetattr=termios:
  waitpid=posix:", "modules os= sys= tty=", "numbers CHILD=0 STDERR_FILENO=2 STDIN_FILENO=0
  STDOUT_FILENO=1", "exports openpty fork spawn"]),
  ("termios", ["extension", "builtins tcdrain tcflow tcflush tcgetattr tcgetwinsize tcsendbreak
  tcsetattr tcsetwinsize", "classes error", "numbers B0=0 B1000000=4104 B110=3 B115200=4098
  B1152000=4105 B1200=9 B134=4 B150=5 B1500000=4106 B1800=10 B19200=14 B200=6 B2000000=4107
  B230400=4099 B2400=11 B2500000=4108 B300=7 B3000000=4109 B3500000=4110 B38400=15 B4000000=4111
  B460800=4100 B4800=12 B50=1 B500000=4101 B57600=4097 B576000=4102 B600=8 B75=2 B921600=4103
  B9600=13 BRKINT=2 BS0=0 BS1=8192 BSDLY=8192 CBAUD=4111 CBAUDEX=4096 CDSUSP=25 CEOF=4 CEOL=0 CEOT=4
  CERASE=127 CFLUSH=15 CIBAUD=269418496 CINTR=3 CKILL=21 CLNEXT=22 CLOCAL=2048 CQUIT=28 CR0=0
  CR1=512 CR2=1024 CR3=1536 CRDLY=1536 CREAD=128 CRPRNT=18 CRTSCTS=2147483648 CS5=0 CS6=16 CS7=32
  CS8=48 CSIZE=48 CSTART=17 CSTOP=19 CSTOPB=64 CSUSP=26 CWERASE=23 ECHO=8 ECHOCTL=512 ECHOE=16
  ECHOK=32 ECHOKE=2048 ECHONL=64 ECHOPRT=1024 EXTA=14 EXTB=15 FF0=0 FF1=32768 FFDLY=32768
  FIOASYNC=21586 FIOCLEX=21585 FIONBIO=21537 FIONCLEX=21584 FIONREAD=21531 FLUSHO=4096 HUPCL=1024
  ICANON=2 ICRNL=256 IEXTEN=32768 IGNBRK=1 IGNCR=128 IGNPAR=4 IMAXBEL=8192 INLCR=64 INPCK=16
  IOCSIZE_MASK=1073676288 IOCSIZE_SHIFT=16 ISIG=1 ISTRIP=32 IUCLC=512 IXANY=2048 IXOFF=4096
  IXON=1024 NCC=8 NCCS=32 NL0=0 NL1=256 NLDLY=256 NOFLSH=128 N_MOUSE=2 N_PPP=3 N_SLIP=1 N_STRIP=4
  N_TTY=0 OCRNL=8 OFDEL=128 OFILL=64 OLCUC=2 ONLCR=4 ONLRET=32 ONOCR=16 OPOST=1 PARENB=256 PARMRK=8
  PARODD=512 PENDIN=16384 TAB0=0 TAB1=2048 TAB2=4096 TAB3=6144 TABDLY=6144 TCFLSH=21515 TCGETA=21509
  TCGETS=21505 TCIFLUSH=0 TCIOFF=2 TCIOFLUSH=2 TCION=3 TCOFLUSH=1 TCOOFF=0 TCOON=1 TCSADRAIN=1
  TCSAFLUSH=2 TCSANOW=0 TCSBRK=21513 TCSBRKP=21541 TCSETA=21510 TCSETAF=21512 TCSETAW=21511
  TCSETS=21506 TCSETSF=21508 TCSETSW=21507 TCXONC=21514 TIOCCONS=21533 TIOCEXCL=21516 TIOCGETD=21540
  TIOCGICOUNT=21597 TIOCGLCKTRMIOS=21590 TIOCGPGRP=21519 TIOCGSERIAL=21534 TIOCGSOFTCAR=21529
  TIOCGWINSZ=21523 TIOCINQ=21531 TIOCLINUX=21532 TIOCMBIC=21527 TIOCMBIS=21526 TIOCMGET=21525
  TIOCMIWAIT=21596 TIOCMSET=21528 TIOCM_CAR=64 TIOCM_CD=64 TIOCM_CTS=32 TIOCM_DSR=256 TIOCM_DTR=2
  TIOCM_LE=1 TIOCM_RI=128 TIOCM_RNG=128 TIOCM_RTS=4 TIOCM_SR=16 TIOCM_ST=8 TIOCNOTTY=21538
  TIOCNXCL=21517 TIOCOUTQ=21521 TIOCPKT=21536 TIOCPKT_DATA=0 TIOCPKT_DOSTOP=32 TIOCPKT_FLUSHREAD=1
  TIOCPKT_FLUSHWRITE=2 TIOCPKT_NOSTOP=16 TIOCPKT_START=8 TIOCPKT_STOP=4 TIOCSCTTY=21518
  TIOCSERCONFIG=21587 TIOCSERGETLSR=21593 TIOCSERGETMULTI=21594 TIOCSERGSTRUCT=21592
  TIOCSERGWILD=21588 TIOCSERSETMULTI=21595 TIOCSERSWILD=21589 TIOCSER_TEMT=1 TIOCSETD=21539
  TIOCSLCKTRMIOS=21591 TIOCSPGRP=21520 TIOCSSERIAL=21535 TIOCSSOFTCAR=21530 TIOCSTI=21522
  TIOCSWINSZ=21524 TOSTOP=256 VDISCARD=13 VEOF=4 VEOL=11 VEOL2=16 VERASE=2 VINTR=0 VKILL=3 VLNEXT=15
  VMIN=6 VQUIT=1 VREPRINT=12 VSTART=8 VSTOP=9 VSUSP=10 VSWTC=7 VSWTCH=7 VT0=0 VT1=16384 VTDLY=16384
  VTIME=5 VWERASE=14 XCASE=4 XTABS=6144"]),
  ("tty", ["takes termios", "functions setcbreak setraw", "numbers CC=6 CFLAG=2 IFLAG=0 ISPEED=4
  LFLAG=3 OFLAG=1 OSPEED=5", "exports setraw setcbreak"])]

/-- The classes for terminals. -/
def terminalClasses : List (String × List String) := [
  ("_curses.error", ["below Exception", "open __weakref__", "silent"]),
  ("_curses.window", ["shown _curses.window", "sealed", "methods addch addnstr addstr attroff attron
  attrset bkgd chgat bkgdset border box clear clearok clrtobot clrtoeol cursyncup delch deleteln
  derwin echochar enclose erase getbegyx getbkgd getch getkey get_wch getmaxyx getparyx getstr getyx
  hline idcok idlok immedok inch insch insdelln insertln insnstr insstr instr is_linetouched
  is_wintouched keypad leaveok move mvderwin mvwin nodelay notimeout noutrefresh overlay overwrite
  putwin redrawln redrawwin refresh resize scroll scrollok setscrreg standend standout subpad subwin
  syncdown syncok syncup timeout touchline touchwin untouchwin vline", "fields encoding",
  "silent"]),
  ("_curses_panel.error", ["below Exception", "open __weakref__", "silent"]),
  ("_curses_panel.panel", ["shown _curses_panel.panel", "methods above below hidden window",
  "told-methods bottom hide move replace set_userptr show top userptr", "silent"]),
  ("curses.ncurses_version", ["below tuple", "shown curses.ncurses_version", "operations __repr__",
  "methods __reduce__", "slots major minor patch", "numbers n_sequence_fields=3 n_fields=3
  n_unnamed_fields=0", "constant __match_args__ ('major', 'minor', 'patch')"]),
  ("curses.textpad.Textbox", ["open", "functions __init__ _update_max_yx _end_of_line
  _insert_printable_char do_command gather edit"]),
  ("ossaudiodev.OSSAudioError", ["below Exception", "open __weakref__", "silent"]),
  ("pipes.Template", ["open", "functions __init__ __repr__ reset clone debug append prepend open
  open_r open_w copy makepipeline"]),
  ("termios.error", ["below Exception", "open __weakref__", "silent"])]

end FragmentWeaver.Standard
