/-!
# Listing: sound and pictures

What stands in the modules and classes for sound and pictures.
-/

namespace FragmentWeaver.Standard

/-- The modules for sound and pictures. -/
def mediaModules : List (String × List String) := [
  ("aifc", ["functions _read_float _read_long _read_short _read_string _read_ulong _read_ushort
  _write_float _write_long _write_short _write_string _write_ulong _write_ushort
  namedtuple=collections: open", "classes Aifc_read Aifc_write Chunk=chunk. Error _aifc_params",
  "modules builtins= struct= warnings=", "numbers _AIFC_version=2726318400",
  "constant _HUGE_VAL 1.79769313486231e+308", "constant __warningregistry__ \x7b'version': 3\x7d",
  "exports Error open"]),
  ("audioop", ["extension", "builtins add adpcm2lin alaw2lin avg avgpp bias byteswap cross
  findfactor findfit findmax getsample lin2adpcm lin2alaw lin2lin lin2ulaw max maxpp minmax mul
  ratecv reverse rms tomono tostereo ulaw2lin", "classes error", "constant __doc__ None"]),
  ("chunk", ["classes Chunk", "modules warnings="]),
  ("colorsys", ["functions _v hls_to_rgb hsv_to_rgb rgb_to_hls rgb_to_hsv rgb_to_yiq yiq_to_rgb",
  "constant ONE_SIXTH 0.16666666666666666", "constant ONE_THIRD 0.3333333333333333",
  "constant TWO_THIRD 0.6666666666666666", "exports rgb_to_yiq yiq_to_rgb rgb_to_hls hls_to_rgb
  rgb_to_hsv hsv_to_rgb"]),
  ("imghdr", ["functions test test_bmp test_exr test_gif test_jpeg test_pbm test_pgm test_png
  test_ppm test_rast test_rgb test_tiff test_webp test_xbm testall what", "classes PathLike=os.",
  "modules warnings=", "exports what", "same tests=email.mime.image._rules"]),
  ("sndhdr", ["functions get_long_be get_long_le get_short_be get_short_le namedtuple=collections:
  test test_8svx test_aifc test_au test_hcom test_sndr test_sndt test_voc test_wav testall what
  whathdr", "classes SndHeaders", "modules warnings=",
  "constant tests [function(...), function(...), function(...), function(...), function(...), ",
  "|function(...), function(...), function(...)]", "exports what whathdr"]),
  ("sunau", ["functions _read_u32 _write_u32 namedtuple=collections: open", "classes Au_read
  Au_write Error _sunau_params", "modules warnings=", "numbers AUDIO_FILE_ENCODING_ADPCM_G721=23
  AUDIO_FILE_ENCODING_ADPCM_G722=24 AUDIO_FILE_ENCODING_ADPCM_G723_3=25
  AUDIO_FILE_ENCODING_ADPCM_G723_5=26 AUDIO_FILE_ENCODING_ALAW_8=27 AUDIO_FILE_ENCODING_DOUBLE=7
  AUDIO_FILE_ENCODING_FLOAT=6 AUDIO_FILE_ENCODING_LINEAR_16=3 AUDIO_FILE_ENCODING_LINEAR_24=4
  AUDIO_FILE_ENCODING_LINEAR_32=5 AUDIO_FILE_ENCODING_LINEAR_8=2 AUDIO_FILE_ENCODING_MULAW_8=1
  AUDIO_FILE_MAGIC=779316836 AUDIO_UNKNOWN_SIZE=4294967295",
  "constant _simple_encodings [1, 2, 3, 4, 5, 27]"]),
  ("wave", ["functions _byteswap namedtuple=collections: open", "classes Error Wave_read Wave_write
  _Chunk _wave_params", "modules builtins= struct= sys=", "numbers WAVE_FORMAT_PCM=1",
  "constant _array_fmts (None, 'b', 'h', None, 'i')", "exports open Error Wave_read Wave_write"])]

/-- The classes for sound and pictures. -/
def mediaClasses : List (String × List String) := [
  ("aifc.Aifc_read", ["open", "functions initfp __init__ __enter__ __exit__ getfp rewind close tell
  getnchannels getnframes getsampwidth getframerate getcomptype getcompname getparams getmarkers
  getmark setpos readframes _alaw2lin _ulaw2lin _adpcm2lin _sowt2lin _read_comm_chunk _readmark",
  "constant _file None", "silent"]),
  ("aifc.Aifc_write", ["open", "functions __init__ initfp __del__ __enter__ __exit__ aiff aifc
  setnchannels getnchannels setsampwidth getsampwidth setframerate getframerate setnframes
  getnframes setcomptype getcomptype getcompname setparams getparams setmark getmark getmarkers tell
  writeframesraw writeframes close _lin2alaw _lin2ulaw _lin2adpcm _lin2sowt _ensure_header_written
  _init_compression _write_header _write_form_length _patchheader _writemarkers",
  "constant _file None", "silent"]),
  ("aifc.Error", ["below Exception", "open __weakref__", "silent"]),
  ("aifc._aifc_params", ["below tuple", "functions _replace=collections:_aifc_params._replace
  __repr__=collections:_aifc_params.__repr__ _asdict=collections:_aifc_params._asdict
  __getnewargs__=collections:_aifc_params.__getnewargs__",
  "class-functions _make=collections:_aifc_params._make",
  "statics __new__=namedtuple__aifc_params:_aifc_params.__new__",
  "objects nchannels=_collections._tuplegetter sampwidth=_collections._tuplegetter
  framerate=_collections._tuplegetter nframes=_collections._tuplegetter
  comptype=_collections._tuplegetter compname=_collections._tuplegetter", "constant __slots__ ()",
  "constant _fields ('nchannels', 'sampwidth', 'framerate', 'nframes', 'comptype', 'compname')",
  "constant _field_defaults \x7b\x7d",
  "constant __match_args__ ('nchannels', 'sampwidth', 'framerate', 'nframes', 'comptype', 'com",
  "|pname')"]),
  ("audioop.error", ["below Exception", "open __weakref__", "silent"]),
  ("chunk.Chunk", ["open", "functions __init__ getname getsize close isatty seek tell read skip",
  "silent"]),
  ("sndhdr.SndHeaders", ["below tuple", "functions _replace=collections:SndHeaders._replace
  __repr__=collections:SndHeaders.__repr__ _asdict=collections:SndHeaders._asdict
  __getnewargs__=collections:SndHeaders.__getnewargs__",
  "class-functions _make=collections:SndHeaders._make",
  "statics __new__=namedtuple_SndHeaders:SndHeaders.__new__",
  "objects filetype=_collections._tuplegetter framerate=_collections._tuplegetter
  nchannels=_collections._tuplegetter nframes=_collections._tuplegetter
  sampwidth=_collections._tuplegetter", "constant __slots__ ()",
  "constant _fields ('filetype', 'framerate', 'nchannels', 'nframes', 'sampwidth')",
  "constant _field_defaults \x7b\x7d",
  "constant __match_args__ ('filetype', 'framerate', 'nchannels', 'nframes', 'sampwidth')"]),
  ("sunau.Au_read", ["open", "functions __init__ __del__ __enter__ __exit__ initfp getfp
  getnchannels getsampwidth getframerate getnframes getcomptype getcompname getparams getmarkers
  getmark readframes rewind tell setpos close", "silent"]),
  ("sunau.Au_write", ["open", "functions __init__ __del__ __enter__ __exit__ initfp setnchannels
  getnchannels setsampwidth getsampwidth setframerate getframerate setnframes getnframes setcomptype
  getcomptype getcompname setparams getparams tell writeframesraw writeframes close
  _ensure_header_written _write_header _patchheader", "silent"]),
  ("sunau.Error", ["below Exception", "open __weakref__", "silent"]),
  ("sunau._sunau_params", ["below tuple", "functions _replace=collections:_sunau_params._replace
  __repr__=collections:_sunau_params.__repr__ _asdict=collections:_sunau_params._asdict
  __getnewargs__=collections:_sunau_params.__getnewargs__",
  "class-functions _make=collections:_sunau_params._make",
  "statics __new__=namedtuple__sunau_params:_sunau_params.__new__",
  "objects nchannels=_collections._tuplegetter sampwidth=_collections._tuplegetter
  framerate=_collections._tuplegetter nframes=_collections._tuplegetter
  comptype=_collections._tuplegetter compname=_collections._tuplegetter", "constant __slots__ ()",
  "constant _fields ('nchannels', 'sampwidth', 'framerate', 'nframes', 'comptype', 'compname')",
  "constant _field_defaults \x7b\x7d",
  "constant __match_args__ ('nchannels', 'sampwidth', 'framerate', 'nframes', 'comptype', 'com",
  "|pname')"]),
  ("wave.Error", ["below Exception", "open __weakref__", "silent"]),
  ("wave.Wave_read", ["open", "functions initfp __init__ __del__ __enter__ __exit__ getfp rewind
  close tell getnchannels getnframes getsampwidth getframerate getcomptype getcompname getparams
  getmarkers getmark setpos readframes _read_fmt_chunk"]),
  ("wave.Wave_write", ["open", "functions __init__ initfp __del__ __enter__ __exit__ setnchannels
  getnchannels setsampwidth getsampwidth setframerate getframerate setnframes getnframes setcomptype
  getcomptype getcompname setparams getparams setmark getmark getmarkers tell writeframesraw
  writeframes close _ensure_header_written _write_header _patchheader"]),
  ("wave._Chunk", ["open", "functions __init__ getname close seek tell read skip", "silent"]),
  ("wave._wave_params", ["below tuple", "functions _replace=collections:_wave_params._replace
  __repr__=collections:_wave_params.__repr__ _asdict=collections:_wave_params._asdict
  __getnewargs__=collections:_wave_params.__getnewargs__",
  "class-functions _make=collections:_wave_params._make",
  "statics __new__=namedtuple__wave_params:_wave_params.__new__",
  "objects nchannels=_collections._tuplegetter sampwidth=_collections._tuplegetter
  framerate=_collections._tuplegetter nframes=_collections._tuplegetter
  comptype=_collections._tuplegetter compname=_collections._tuplegetter", "constant __slots__ ()",
  "constant _fields ('nchannels', 'sampwidth', 'framerate', 'nframes', 'comptype', 'compname')",
  "constant _field_defaults \x7b\x7d",
  "constant __match_args__ ('nchannels', 'sampwidth', 'framerate', 'nframes', 'comptype', 'com",
  "|pname')"])]

end FragmentWeaver.Standard
