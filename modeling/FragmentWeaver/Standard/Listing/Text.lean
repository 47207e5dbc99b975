/-!
# Listing: texts, patterns, locales and encodings

What stands in the modules and classes for texts, patterns, locales and encodings.
-/

namespace FragmentWeaver.Standard

/-- The modules for texts, patterns, locales and encodings. -/
def textModules : List (String × List String) := [
  ("_codecs", ["built-in", "builtins ascii_decode ascii_encode charmap_build charmap_decode
  charmap_encode decode encode escape_decode escape_encode latin_1_decode latin_1_encode lookup
  lookup_error raw_unicode_escape_decode raw_unicode_escape_encode readbuffer_encode register
  register_error unicode_escape_decode unicode_escape_encode unregister utf_16_be_decode
  utf_16_be_encode utf_16_decode utf_16_encode utf_16_ex_decode utf_16_le_decode utf_16_le_encode
  utf_32_be_decode utf_32_be_encode utf_32_decode utf_32_encode utf_32_ex_decode utf_32_le_decode
  utf_32_le_encode utf_7_decode utf_7_encode utf_8_decode utf_8_encode", "constant __doc__ None"]),
  ("_codecs_cn", ["extension", "builtins getcodec", "objects __map_gb18030ext=PyCapsule
  __map_gb2312=PyCapsule __map_gbcommon=PyCapsule __map_gbkext=PyCapsule",
  "constant __doc__ None"]),
  ("_codecs_hk", ["extension", "builtins getcodec", "objects __map_big5hkscs=PyCapsule
  __map_big5hkscs_bmp=PyCapsule __map_big5hkscs_nonbmp=PyCapsule", "constant __doc__ None"]),
  ("_codecs_iso2022", ["extension", "builtins getcodec", "constant __doc__ None"]),
  ("_codecs_jp", ["extension", "builtins getcodec", "objects __map_cp932ext=PyCapsule
  __map_jisx0208=PyCapsule __map_jisx0212=PyCapsule __map_jisx0213_1_bmp=PyCapsule
  __map_jisx0213_1_emp=PyCapsule __map_jisx0213_2_bmp=PyCapsule __map_jisx0213_2_emp=PyCapsule
  __map_jisx0213_bmp=PyCapsule __map_jisx0213_emp=PyCapsule __map_jisx0213_pair=PyCapsule
  __map_jisxcommon=PyCapsule", "constant __doc__ None"]),
  ("_codecs_kr", ["extension", "builtins getcodec", "objects __map_cp949=PyCapsule
  __map_cp949ext=PyCapsule __map_ksx1001=PyCapsule", "constant __doc__ None"]),
  ("_codecs_tw", ["extension", "builtins getcodec", "objects __map_big5=PyCapsule
  __map_cp950ext=PyCapsule", "constant __doc__ None"]),
  ("_locale", ["built-in", "builtins bind_textdomain_codeset bindtextdomain dcgettext dgettext
  getencoding gettext localeconv nl_langinfo setlocale strcoll strxfrm textdomain",
  "classes Error=locale.", "numbers ABDAY_1=131072 ABDAY_2=131073 ABDAY_3=131074 ABDAY_4=131075
  ABDAY_5=131076 ABDAY_6=131077 ABDAY_7=131078 ABMON_1=131086 ABMON_10=131095 ABMON_11=131096
  ABMON_12=131097 ABMON_2=131087 ABMON_3=131088 ABMON_4=131089 ABMON_5=131090 ABMON_6=131091
  ABMON_7=131092 ABMON_8=131093 ABMON_9=131094 ALT_DIGITS=131119 AM_STR=131110 CHAR_MAX=127
  CODESET=14 CRNCYSTR=262159 DAY_1=131079 DAY_2=131080 DAY_3=131081 DAY_4=131082 DAY_5=131083
  DAY_6=131084 DAY_7=131085 D_FMT=131113 D_T_FMT=131112 ERA=131116 ERA_D_FMT=131118
  ERA_D_T_FMT=131120 ERA_T_FMT=131121 LC_ALL=6 LC_COLLATE=3 LC_CTYPE=0 LC_MESSAGES=5 LC_MONETARY=4
  LC_NUMERIC=1 LC_TIME=2 MON_1=131098 MON_10=131107 MON_11=131108 MON_12=131109 MON_2=131099
  MON_3=131100 MON_4=131101 MON_5=131102 MON_6=131103 MON_7=131104 MON_8=131105 MON_9=131106
  NOEXPR=327681 PM_STR=131111 RADIXCHAR=65536 THOUSEP=65537 T_FMT=131114 T_FMT_AMPM=131115
  YESEXPR=327680 _DATE_FMT=131180"]),
  ("_multibytecodec", ["extension", "builtins __create_codec", "classes MultibyteIncrementalDecoder
  MultibyteIncrementalEncoder MultibyteStreamReader MultibyteStreamWriter",
  "constant __doc__ None"]),
  ("_sre", ["built-in", "builtins ascii_iscased ascii_tolower compile getcodesize unicode_iscased
  unicode_tolower", "numbers CODESIZE=4 MAGIC=20220615 MAXGROUPS=1073741823 MAXREPEAT=4294967295",
  "constant __doc__ None",
  "constant copyright ' SRE 2.2.2 C\\x6fpyright (\\x63) 1997-2002 by Secret Labs AB '"]),
  ("_string", ["built-in", "builtins formatter_field_name_split formatter_parser"]),
  ("_struct", ["built-in", "builtins _clearcache calcsize iter_unpack pack pack_into unpack
  unpack_from", "classes Struct error=struct."]),
  ("codecs", ["frozen", "takes _codecs", "functions EncodedFile getdecoder getencoder
  getincrementaldecoder getincrementalencoder getreader getwriter iterdecode iterencode
  make_encoding_map make_identity_dict open", "builtins backslashreplace_errors=: ignore_errors=:
  namereplace_errors=: replace_errors=: strict_errors=: xmlcharrefreplace_errors=:",
  "classes BufferedIncrementalDecoder BufferedIncrementalEncoder Codec CodecInfo IncrementalDecoder
  IncrementalEncoder StreamReader StreamReaderWriter StreamRecoder StreamWriter", "modules builtins=
  sys=", "numbers _false=0", "constant BOM b'\\xff\\xfe'", "constant BOM32_BE b'\\xfe\\xff'",
  "constant BOM32_LE b'\\xff\\xfe'", "constant BOM64_BE b'\\x00\\x00\\xfe\\xff'",
  "constant BOM64_LE b'\\xff\\xfe\\x00\\x00'", "constant BOM_BE b'\\xfe\\xff'",
  "constant BOM_LE b'\\xff\\xfe'", "constant BOM_UTF16 b'\\xff\\xfe'",
  "constant BOM_UTF16_BE b'\\xfe\\xff'", "constant BOM_UTF16_LE b'\\xff\\xfe'",
  "constant BOM_UTF32 b'\\xff\\xfe\\x00\\x00'", "constant BOM_UTF32_BE b'\\x00\\x00\\xfe\\xff'",
  "constant BOM_UTF32_LE b'\\xff\\xfe\\x00\\x00'", "constant BOM_UTF8 b'\\xef\\xbb\\xbf'",
  "exports register lookup open EncodedFile BOM BOM_BE BOM_LE BOM32_BE BOM32_LE BOM64_BE BOM64_LE
  BOM_UTF8 BOM_UTF16 BOM_UTF16_LE BOM_UTF16_BE BOM_UTF32 BOM_UTF32_LE BOM_UTF32_BE CodecInfo Codec
  IncrementalEncoder IncrementalDecoder StreamReader StreamWriter StreamReaderWriter StreamRecoder
  getencoder getdecoder getincrementalencoder getincrementaldecoder getreader getwriter encode
  decode iterencode iterdecode strict_errors ignore_errors replace_errors xmlcharrefreplace_errors
  backslashreplace_errors namereplace_errors register_error lookup_error"]),
  ("difflib", ["functions IS_CHARACTER_JUNK IS_LINE_JUNK _calculate_ratio _check_types
  _format_range_context _format_range_unified _keep_original_ws _mdiff
  _namedtuple=collections:namedtuple _nlargest=heapq:nlargest _test context_diff diff_bytes
  get_close_matches ndiff restore unified_diff", "classes Differ GenericAlias=types. HtmlDiff Match
  SequenceMatcher",
  "constant _file_template '\\n<!DOCTYPE html PUBLIC \"-//W3C//DTD XHTML 1.0 Transitional//EN",
  "|\"\\n          \"http:\\x2f/www.w3.org/TR/xhtml1/DTD/xhtml1-transitional.dtd\">\\n\\n<html",
  "|>\\n\\n<head>\\n    <meta http-equiv=\"Content-Type\"\\n          content=\"text/html; cha",
  "|rset=%(charset)s\" />\\n    <title></title>\\n    <style type=\"text/css\">%(styles)s\\n  ",
  "|  </style>\\n</head>\\n\\n<body>\\n    %(table)s%(legend)s\\n</body>\\n\\n</html>'",
  "constant _legend '\\n    <table class=\"diff\" summary=\"Legends\">\\n        <tr> <th cols",
  "|pan=\"2\"> Legends </th> </tr>\\n        <tr> <td> <table border=\"\" summary=\"Colors\">",
  "|\\n                      <tr><th> Colors </th> </tr>\\n                      <tr><td class",
  "|=\"diff_add\">&nbsp;Added&nbsp;</td></tr>\\n                      <tr><td class=\"diff_chg",
  "|\">Changed</td> </tr>\\n                      <tr><td class=\"diff_sub\">Deleted</td> </tr",
  "|>\\n                  </table></td>\\n             <td> <table border=\"\" summary=\"Links",
  "|\">\\n                      <tr><th colspan=\"2\"> Links </th> </tr>\\n                   ",
  "|   <tr><td>(f)irst change</td> </tr>\\n                      <tr><td>(n)ext change</td> </",
  "|tr>\\n                      <tr><td>(t)op</td> </tr>\\n                  </table></td> </t",
  "|r>\\n    </table>'",
  "constant _styles '\\n        table.diff \x7bfont-family:Courier; border:medium;\x7d\\n     ",
  "|   .diff_header \x7bbackground-color:#e0e0e0\x7d\\n        td.diff_header \x7btext-align:r",
  "|ight\x7d\\n        .diff_next \x7bbackground-color:#c0c0c0\x7d\\n        .diff_add \x7bbac",
  "|kground-color:#aaffaa\x7d\\n        .diff_chg \x7bbackground-color:#ffff77\x7d\\n        .",
  "|diff_sub \x7bbackground-color:#ffaaaa\x7d'",
  "constant _table_template '\\n    <table class=\"diff\" id=\"difflib_chg_%(prefix)s_top\"\\n",
  "|           cellspacing=\"0\" cellpadding=\"0\" rules=\"groups\" >\\n        <colgroup></co",
  "|lgroup> <colgroup></colgroup> <colgroup></colgroup>\\n        <colgroup></colgroup> <colgr",
  "|oup></colgroup> <colgroup></colgroup>\\n        %(header_row)s\\n        <tbody>\\n%(data_",
  "|rows)s        </tbody>\\n    </table>'", "exports get_close_matches ndiff restore
  SequenceMatcher Differ IS_CHARACTER_JUNK IS_LINE_JUNK context_diff unified_diff diff_bytes
  HtmlDiff Match"]),
  ("encodings", ["package", "functions normalize_encoding search_function",
  "classes CodecRegistryError", "modules aliases codecs= sys= utf_8", "constant _import_tail ['*']",
  "constant _unknown '--unknown--'", "objects _aliases=dict"]),
  ("encodings.aliases", ["same aliases=encodings._aliases"]),
  ("encodings.ascii", ["functions getregentry", "classes Codec IncrementalDecoder IncrementalEncoder
  StreamConverter StreamReader StreamWriter", "modules codecs="]),
  ("encodings.base64_codec", ["functions base64_decode base64_encode getregentry", "classes Codec
  IncrementalDecoder IncrementalEncoder StreamReader StreamWriter", "modules base64= codecs="]),
  ("encodings.big5", ["functions getregentry", "classes Codec IncrementalDecoder IncrementalEncoder
  StreamReader StreamWriter", "objects codec=_multibytecodec.MultibyteCodec", "modules _codecs_tw=
  codecs= mbc=_multibytecodec", "constant __doc__ None"]),
  ("encodings.big5hkscs", ["functions getregentry", "classes Codec IncrementalDecoder
  IncrementalEncoder StreamReader StreamWriter", "objects codec=_multibytecodec.MultibyteCodec",
  "modules _codecs_hk= codecs= mbc=_multibytecodec", "constant __doc__ None"]),
  ("encodings.bz2_codec", ["functions bz2_decode bz2_encode getregentry", "classes Codec
  IncrementalDecoder IncrementalEncoder StreamReader StreamWriter", "modules bz2= codecs="]),
  ("encodings.charmap", ["functions getregentry", "classes Codec IncrementalDecoder
  IncrementalEncoder StreamReader StreamWriter", "modules codecs="]),
  ("encodings.cp932", ["functions getregentry", "classes Codec IncrementalDecoder IncrementalEncoder
  StreamReader StreamWriter", "objects codec=_multibytecodec.MultibyteCodec", "modules _codecs_jp=
  codecs= mbc=_multibytecodec", "constant __doc__ None"]),
  ("encodings.cp949", ["functions getregentry", "classes Codec IncrementalDecoder IncrementalEncoder
  StreamReader StreamWriter", "objects codec=_multibytecodec.MultibyteCodec", "modules _codecs_kr=
  codecs= mbc=_multibytecodec", "constant __doc__ None"]),
  ("encodings.cp950", ["functions getregentry", "classes Codec IncrementalDecoder IncrementalEncoder
  StreamReader StreamWriter", "objects codec=_multibytecodec.MultibyteCodec", "modules _codecs_tw=
  codecs= mbc=_multibytecodec", "constant __doc__ None"]),
  ("encodings.euc_jis_2004", ["functions getregentry", "classes Codec IncrementalDecoder
  IncrementalEncoder StreamReader StreamWriter", "objects codec=_multibytecodec.MultibyteCodec",
  "modules _codecs_jp= codecs= mbc=_multibytecodec", "constant __doc__ None"]),
  ("encodings.euc_jisx0213", ["functions getregentry", "classes Codec IncrementalDecoder
  IncrementalEncoder StreamReader StreamWriter", "objects codec=_multibytecodec.MultibyteCodec",
  "modules _codecs_jp= codecs= mbc=_multibytecodec", "constant __doc__ None"]),
  ("encodings.euc_jp", ["functions getregentry", "classes Codec IncrementalDecoder
  IncrementalEncoder StreamReader StreamWriter", "objects codec=_multibytecodec.MultibyteCodec",
  "modules _codecs_jp= codecs= mbc=_multibytecodec", "constant __doc__ None"]),
  ("encodings.euc_kr", ["functions getregentry", "classes Codec IncrementalDecoder
  IncrementalEncoder StreamReader StreamWriter", "objects codec=_multibytecodec.MultibyteCodec",
  "modules _codecs_kr= codecs= mbc=_multibytecodec", "constant __doc__ None"]),
  ("encodings.gb18030", ["functions getregentry", "classes Codec IncrementalDecoder
  IncrementalEncoder StreamReader StreamWriter", "objects codec=_multibytecodec.MultibyteCodec",
  "modules _codecs_cn= codecs= mbc=_multibytecodec", "constant __doc__ None"]),
  ("encodings.gb2312", ["functions getregentry", "classes Codec IncrementalDecoder
  IncrementalEncoder StreamReader StreamWriter", "objects codec=_multibytecodec.MultibyteCodec",
  "modules _codecs_cn= codecs= mbc=_multibytecodec", "constant __doc__ None"]),
  ("encodings.gbk", ["functions getregentry", "classes Codec IncrementalDecoder IncrementalEncoder
  StreamReader StreamWriter", "objects codec=_multibytecodec.MultibyteCodec", "modules _codecs_cn=
  codecs= mbc=_multibytecodec", "constant __doc__ None"]),
  ("encodings.hex_codec", ["functions getregentry hex_decode hex_encode", "classes Codec
  IncrementalDecoder IncrementalEncoder StreamReader StreamWriter", "modules binascii= codecs="]),
  ("encodings.hz", ["functions getregentry", "classes Codec IncrementalDecoder IncrementalEncoder
  StreamReader StreamWriter", "objects codec=_multibytecodec.MultibyteCodec", "modules _codecs_cn=
  codecs= mbc=_multibytecodec", "constant __doc__ None"]),
  ("encodings.idna", ["functions ToASCII ToUnicode getregentry nameprep", "classes Codec
  IncrementalDecoder IncrementalEncoder StreamReader StreamWriter", "holders dots=re.Pattern",
  "same unicodedata=stringprep.", "modules codecs= re= stringprep=", "constant __doc__ None",
  "constant ace_prefix b'xn--'", "constant sace_prefix 'xn--'",
  "part dots.pattern '[.\\u3002\\uff0e\\uff61]'"]),
  ("encodings.iso2022_jp", ["functions getregentry", "classes Codec IncrementalDecoder
  IncrementalEncoder StreamReader StreamWriter", "objects codec=_multibytecodec.MultibyteCodec",
  "modules _codecs_iso2022= codecs= mbc=_multibytecodec", "constant __doc__ None"]),
  ("encodings.iso2022_jp_1", ["functions getregentry", "classes Codec IncrementalDecoder
  IncrementalEncoder StreamReader StreamWriter", "objects codec=_multibytecodec.MultibyteCodec",
  "modules _codecs_iso2022= codecs= mbc=_multibytecodec", "constant __doc__ None"]),
  ("encodings.iso2022_jp_2", ["functions getregentry", "classes Codec IncrementalDecoder
  IncrementalEncoder StreamReader StreamWriter", "objects codec=_multibytecodec.MultibyteCodec",
  "modules _codecs_iso2022= codecs= mbc=_multibytecodec", "constant __doc__ None"]),
  ("encodings.iso2022_jp_2004", ["functions getregentry", "classes Codec IncrementalDecoder
  IncrementalEncoder StreamReader StreamWriter", "objects codec=_multibytecodec.MultibyteCodec",
  "modules _codecs_iso2022= codecs= mbc=_multibytecodec", "constant __doc__ None"]),
  ("encodings.iso2022_jp_3", ["functions getregentry", "classes Codec IncrementalDecoder
  IncrementalEncoder StreamReader StreamWriter", "objects codec=_multibytecodec.MultibyteCodec",
  "modules _codecs_iso2022= codecs= mbc=_multibytecodec", "constant __doc__ None"]),
  ("encodings.iso2022_jp_ext", ["functions getregentry", "classes Codec IncrementalDecoder
  IncrementalEncoder StreamReader StreamWriter", "objects codec=_multibytecodec.MultibyteCodec",
  "modules _codecs_iso2022= codecs= mbc=_multibytecodec", "constant __doc__ None"]),
  ("encodings.iso2022_kr", ["functions getregentry", "classes Codec IncrementalDecoder
  IncrementalEncoder StreamReader StreamWriter", "objects codec=_multibytecodec.MultibyteCodec",
  "modules _codecs_iso2022= codecs= mbc=_multibytecodec", "constant __doc__ None"]),
  ("encodings.johab", ["functions getregentry", "classes Codec IncrementalDecoder IncrementalEncoder
  StreamReader StreamWriter", "objects codec=_multibytecodec.MultibyteCodec", "modules _codecs_kr=
  codecs= mbc=_multibytecodec", "constant __doc__ None"]),
  ("encodings.latin_1", ["functions getregentry", "classes Codec IncrementalDecoder
  IncrementalEncoder StreamConverter StreamReader StreamWriter", "modules codecs="]),
  ("encodings.punycode", ["functions T adapt decode_generalized_number generate_generalized_integer
  generate_integers getregentry insertion_sort insertion_unsort punycode_decode punycode_encode
  segregate selective_find selective_len", "classes Codec IncrementalDecoder IncrementalEncoder
  StreamReader StreamWriter", "modules codecs=",
  "constant digits b'abcdefghijklmnopqrstuvwxyz0123456789'"]),
  ("encodings.quopri_codec", ["functions getregentry quopri_decode quopri_encode",
  "classes BytesIO=_io. Codec IncrementalDecoder IncrementalEncoder StreamReader StreamWriter",
  "modules codecs= quopri="]),
  ("encodings.raw_unicode_escape", ["functions getregentry", "classes Codec IncrementalDecoder
  IncrementalEncoder StreamReader StreamWriter", "modules codecs="]),
  ("encodings.rot_13", ["functions getregentry rot13", "classes Codec IncrementalDecoder
  IncrementalEncoder StreamReader StreamWriter", "modules codecs=",
  "constant rot13_map \x7b0: 0, 1: 1, 2: 2, 3: 3, 4: 4, 5: 5, 6: 6, 7: 7, 8: 8, 9: 9, 10: 10, ",
  "|11: 11, 12: 12, 13: 13, 14: 14, 15: 15, 16: 16, 17: 17, 18: 18, 19: 19, 20: 20, 21: 21, 22",
  "|: 22, 23: 23, 24: 24, 25: 25, 26: 26, 27: 27, 28: 28, 29: 29, 30: 30, 31: 31, 32: 32, 33: ",
  "|33, 34: 34, 35: 35, 36: 36, 37: 37, 38: 38, 39: 39, 40: 40, 41: 41, 42: 42, 43: 43, 44: 44",
  "|, 45: 45, 46: 46, 47: 47, 48: 48, 49: 49, 50: 50, 51: 51, 52: 52, 53: 53, 54: 54, 55: 55, ",
  "|56: 56, 57: 57, 58: 58, 59: 59, 60: 60, 61: 61, 62: 62, 63: 63, 64: 64, 65: 78, 66: 79, 67",
  "|: 80, 68: 81, 69: 82, 70: 83, 71: 84, 72: 85, 73: 86, 74: 87, 75: 88, 76: 89, 77: 90, 78: ",
  "|65, 79: 66, 80: 67, 81: 68, 82: 69, 83: 70, 84: 71, 85: 72, 86: 73, 87: 74, 88: 75, 89: 76",
  "|, 90: 77, 91: 91, 92: 92, 93: 93, 94: 94, 95: 95, 96: 96, 97: 110, 98: 111, 99: 112, 100: ",
  "|113, 101: 114, 102: 115, 103: 116, 104: 117, 105: 118, 106: 119, 107: 120, 108: 121, 109: ",
  "|122, 110: 97, 111: 98, 112: 99, 113: 100, 114: 101, 115: 102, 116: 103, 117: 104, 118: 105",
  "|, 119: 106, 120: 107, 121: 108, 122: 109, 123: 123, 124: 124, 125: 125, 126: 126, 127: 127",
  "|, 128: 128, 129: 129, 130: 130, 131: 131, 132: 132, 133: 133, 134: 134, 135: 135, 136: 136",
  "|, 137: 137, 138: 138, 139: 139, 140: 140, 141: 141, 142: 142, 143: 143, 144: 144, 145: 145",
  "|, 146: 146, 147: 147, 148: 148, 149: 149, 150: 150, 151: 151, 152: 152, 153: 153, 154: 154",
  "|, 155: 155, 156: 156, 157: 157, 158: 158, 159: 159, 160: 160, 161: 161, 162: 162, 163: 163",
  "|, 164: 164, 165: 165, 166: 166, 167: 167, 168: 168, 169: 169, 170: 170, 171: 171, 172: 172",
  "|, 173: 173, 174: 174, 175: 175, 176: 176, 177: 177, 178: 178, 179: 179, 180: 180, 181: 181",
  "|, 182: 182, 183: 183, 184: 184, 185: 185, 186: 186, 187: 187, 188: 188, 189: 189, 190: 190",
  "|, 191: 191, 192: 192, 193: 193, 194: 194, 195: 195, 196: 196, 197: 197, 198: 198, 199: 199",
  "|, 200: 200, 201: 201, 202: 202, 203: 203, 204: 204, 205: 205, 206: 206, 207: 207, 208: 208",
  "|, 209: 209, 210: 210, 211: 211, 212: 212, 213: 213, 214: 214, 215: 215, 216: 216, 217: 217",
  "|, 218: 218, 219: 219, 220: 220, 221: 221, 222: 222, 223: 223, 224: 224, 225: 225, 226: 226",
  "|, 227: 227, 228: 228, 229: 229, 230: 230, 231: 231, 232: 232, 233: 233, 234: 234, 235: 235",
  "|, 236: 236, 237: 237, 238: 238, 239: 239, 240: 240, 241: 241, 242: 242, 243: 243, 244: 244",
  "|, 245: 245, 246: 246, 247: 247, 248: 248, 249: 249, 250: 250, 251: 251, 252: 252, 253: 253",
  "|, 254: 254, 255: 255\x7d"]),
  ("encodings.shift_jis", ["functions getregentry", "classes Codec IncrementalDecoder
  IncrementalEncoder StreamReader StreamWriter", "objects codec=_multibytecodec.MultibyteCodec",
  "modules _codecs_jp= codecs= mbc=_multibytecodec", "constant __doc__ None"]),
  ("encodings.shift_jis_2004", ["functions getregentry", "classes Codec IncrementalDecoder
  IncrementalEncoder StreamReader StreamWriter", "objects codec=_multibytecodec.MultibyteCodec",
  "modules _codecs_jp= codecs= mbc=_multibytecodec", "constant __doc__ None"]),
  ("encodings.shift_jisx0213", ["functions getregentry", "classes Codec IncrementalDecoder
  IncrementalEncoder StreamReader StreamWriter", "objects codec=_multibytecodec.MultibyteCodec",
  "modules _codecs_jp= codecs= mbc=_multibytecodec", "constant __doc__ None"]),
  ("encodings.undefined", ["functions getregentry", "classes Codec IncrementalDecoder
  IncrementalEncoder StreamReader StreamWriter", "modules codecs="]),
  ("encodings.unicode_escape", ["functions getregentry", "classes Codec IncrementalDecoder
  IncrementalEncoder StreamReader StreamWriter", "modules codecs="]),
  ("encodings.utf_16", ["functions decode getregentry", "builtins encode=_codecs:utf_16_encode",
  "classes IncrementalDecoder IncrementalEncoder StreamReader StreamWriter", "modules codecs=
  sys="]),
  ("encodings.utf_16_be", ["functions decode getregentry",
  "builtins encode=_codecs:utf_16_be_encode", "classes IncrementalDecoder IncrementalEncoder
  StreamReader StreamWriter", "modules codecs="]),
  ("encodings.utf_16_le", ["functions decode getregentry",
  "builtins encode=_codecs:utf_16_le_encode", "classes IncrementalDecoder IncrementalEncoder
  StreamReader StreamWriter", "modules codecs="]),
  ("encodings.utf_32", ["functions decode getregentry", "builtins encode=_codecs:utf_32_encode",
  "classes IncrementalDecoder IncrementalEncoder StreamReader StreamWriter", "modules codecs=
  sys="]),
  ("encodings.utf_32_be", ["functions decode getregentry",
  "builtins encode=_codecs:utf_32_be_encode", "classes IncrementalDecoder IncrementalEncoder
  StreamReader StreamWriter", "modules codecs="]),
  ("encodings.utf_32_le", ["functions decode getregentry",
  "builtins encode=_codecs:utf_32_le_encode", "classes IncrementalDecoder IncrementalEncoder
  StreamReader StreamWriter", "modules codecs="]),
  ("encodings.utf_7", ["functions decode getregentry", "builtins encode=_codecs:utf_7_encode",
  "classes IncrementalDecoder IncrementalEncoder StreamReader StreamWriter", "modules codecs="]),
  ("encodings.utf_8", ["functions decode getregentry", "builtins encode=_codecs:utf_8_encode",
  "classes IncrementalDecoder IncrementalEncoder StreamReader StreamWriter", "modules codecs="]),
  ("encodings.utf_8_sig", ["functions decode encode getregentry", "classes IncrementalDecoder
  IncrementalEncoder StreamReader StreamWriter", "modules codecs="]),
  ("encodings.uu_codec", ["functions getregentry uu_decode uu_encode", "classes BytesIO=_io. Codec
  IncrementalDecoder IncrementalEncoder StreamReader StreamWriter", "modules binascii= codecs="]),
  ("encodings.zlib_codec", ["functions getregentry zlib_decode zlib_encode", "classes Codec
  IncrementalDecoder IncrementalEncoder StreamReader StreamWriter", "modules codecs= zlib="]),
  ("gettext", ["functions Catalog=gettext:translation _as_int _error _expand_lang _parse _tokenize
  bindtextdomain c2py dgettext dngettext dnpgettext dpgettext find gettext install ngettext
  npgettext pgettext textdomain translation", "classes GNUTranslations NullTranslations",
  "holders _token_pattern=re.Pattern", "modules operator= os= re= sys=",
  "constant _binary_ops \x7b'||': 1, '&&': 2, '==': 3, '!=': 3, '<': 4, '>': 4, '<=': 4, '>=':",
  "| 4, '+': 5, '-': 5, '*': 6, '/': 6, '%': 6\x7d",
  "constant _c2py_ops \x7b'||': 'or', '&&': 'and', '/': '//'\x7d",
  "constant _current_domain 'messages'", "constant _default_localedir '/usr/share/locale'",
  "constant _localedirs \x7b\x7d", "constant _translations \x7b\x7d", "exports NullTranslations
  GNUTranslations Catalog bindtextdomain find translation install textdomain dgettext dngettext
  gettext ngettext pgettext dpgettext npgettext dnpgettext", "part _token_pattern.flags 112",
  "part _token_pattern.groupindex object('mappingproxy')", "part _token_pattern.groups 6",
  "part _token_pattern.pattern '\\n        (?P<WHITESPACES>[ \\\\t]+)                    | # s",
  "|paces and horizontal tabs\\n        (?P<NUMBER>[0-9]+\\\\b)                       | # deci",
  "|mal integer\\n        (?P<NAME>n\\\\b)                              | # only n is allowed",
  "|\\n        (?P<PARENTHESIS>[()])                      |\\n        (?P<OPERATOR>[-*/%+?:]|[",
  "|><!]=?|==|&&|\\\\|\\\\|) | # !, *, /, %, +, -, <, >,\\n                                   ",
  "|                  # <=, >=, ==, !=, &&, ||,\\n                                            ",
  "|         # ? :\\n                                                     # unary and bitwise ",
  "|ops\\n                                                     # not allowed\\n        (?P<INV",
  "|ALID>\\\\w+|.)                           # invalid token\\n    '"]),
  ("locale", ["takes _locale", "functions _append_modifier _build_localename _format _group
  _grouping_intervals _localize _parse_localename _print_locale _replace_encoding _strcoll
  _strip_padding _strxfrm _test atof atoi currency delocalize format format_string getdefaultlocale
  getlocale getpreferredencoding localeconv=_locale: localize normalize resetlocale setlocale str",
  "builtins _localeconv=_locale:localeconv _setlocale=_locale:setlocale",
  "classes _builtin_str=str", "holders _percent_re=re.Pattern", "modules _collections_abc=
  encodings= functools= re= sys=", "constant _override_localeconv \x7b\x7d",
  "constant locale_encoding_alias \x7b'437': 'C', 'c': 'C', 'en': 'ISO8859-1', 'jis': 'JIS7', ",
  "|'jis7': 'JIS7', 'ajec': 'eucJP', 'koi8c': 'KOI8-C', 'microsoftcp1251': 'CP1251', 'microsof",
  "|tcp1255': 'CP1255', 'microsoftcp1256': 'CP1256', '88591': 'ISO8859-1', '88592': 'ISO8859-2",
  "|', '88595': 'ISO8859-5', '885915': 'ISO8859-15', 'ascii': 'ISO8859-1', 'latin_1': 'ISO8859",
  "|-1', 'iso8859_1': 'ISO8859-1', 'iso8859_10': 'ISO8859-10', 'iso8859_11': 'ISO8859-11', 'is",
  "|o8859_13': 'ISO8859-13', 'iso8859_14': 'ISO8859-14', 'iso8859_15': 'ISO8859-15', 'iso8859_",
  "|16': 'ISO8859-16', 'iso8859_2': 'ISO8859-2', 'iso8859_3': 'ISO8859-3', 'iso8859_4': 'ISO88",
  "|59-4', 'iso8859_5': 'ISO8859-5', 'iso8859_6': 'ISO8859-6', 'iso8859_7': 'ISO8859-7', 'iso8",
  "|859_8': 'ISO8859-8', 'iso8859_9': 'ISO8859-9', 'iso2022_jp': 'JIS7', 'shift_jis': 'SJIS', ",
  "|'tactis': 'TACTIS', 'euc_jp': 'eucJP', 'euc_kr': 'eucKR', 'utf_8': 'UTF-8', 'koi8_r': 'KOI",
  "|8-R', 'koi8_t': 'KOI8-T', 'koi8_u': 'KOI8-U', 'kz1048': 'RK1048', 'cp1251': 'CP1251', 'cp1",
  "|255': 'CP1255', 'cp1256': 'CP1256', 'eucjp': 'eucJP', 'euckr': 'eucKR', 'iso2022jp': 'JIS7",
  "|', 'iso88591': 'ISO8859-1', 'iso885910': 'ISO8859-10', 'iso885911': 'ISO8859-11', 'iso8859",
  "|13': 'ISO8859-13', 'iso885914': 'ISO8859-14', 'iso885915': 'ISO8859-15', 'iso885916': 'ISO",
  "|8859-16', 'iso88592': 'ISO8859-2', 'iso88593': 'ISO8859-3', 'iso88594': 'ISO8859-4', 'iso8",
  "|8595': 'ISO8859-5', 'iso88596': 'ISO8859-6', 'iso88597': 'ISO8859-7', 'iso88598': 'ISO8859",
  "|-8', 'iso88599': 'ISO8859-9', 'koi8r': 'KOI8-R', 'koi8t': 'KOI8-T', 'koi8u': 'KOI8-U', 'la",
  "|tin1': 'ISO8859-1', 'shiftjis': 'SJIS', 'utf8': 'UTF-8'\x7d", "exports getlocale
  getdefaultlocale getpreferredencoding Error setlocale resetlocale localeconv strcoll strxfrm str
  atof atoi format format_string currency normalize LC_CTYPE LC_COLLATE LC_TIME LC_MONETARY
  LC_NUMERIC LC_ALL CHAR_MAX getencoding LC_MESSAGES",
  "part _percent_re.groupindex object('mappingproxy')", "part _percent_re.groups 2",
  "part _percent_re.pattern '%(?:\\\\((?P<key>.*?)\\\\))?(?P<modifiers>[-#0-9 +*.hlL]*?)[eEfFg",
  "|GdiouxXcrs%]'", "objects locale_alias=dict windows_locale=dict"]),
  ("pprint", ["functions _perfcheck _recursion _safe_tuple _wrap_bytes_repr isreadable isrecursive
  pformat pp pprint saferepr", "classes PrettyPrinter _StringIO=_io.StringIO _safe_key",
  "objects _builtin_scalars=frozenset", "modules _collections=collections _dataclasses=dataclasses
  _sys=sys _types=types re=", "exports pprint pformat isreadable isrecursive saferepr PrettyPrinter
  pp"]),
  ("re", ["package", "functions _compile _expand _pickle _subx compile escape findall finditer
  fullmatch match purge search split sub subn template", "classes Match Pattern RegexFlag Scanner
  error", "objects _compile_repl=functools._lru_cache_wrapper", "modules _casefix _compiler
  _constants _parser copyreg= enum= functools=",
  "members-of re.RegexFlag ASCII DEBUG DOTALL IGNORECASE LOCALE MULTILINE NOFLAG TEMPLATE",
  "members-of re.RegexFlag UNICODE VERBOSE", "members A=re.RegexFlag.ASCII I=re.RegexFlag.IGNORECASE
  L=re.RegexFlag.LOCALE M=re.RegexFlag.MULTILINE S=re.RegexFlag.DOTALL T=re.RegexFlag.TEMPLATE
  U=re.RegexFlag.UNICODE X=re.RegexFlag.VERBOSE", "numbers _MAXCACHE=512",
  "constant __version__ '2.2.1'",
  "constant _special_chars_map \x7b40: '\\\\(', 41: '\\\\)', 91: '\\\\[', 93: '\\\\]', 123: '",
  "|\\\\\x7b', 125: '\\\\\x7d', 63: '\\\\?', 42: '\\\\*', 43: '\\\\+', 45: '\\\\-', 124: '\\\\",
  "||', 94: '\\\\^', 36: '\\\\$', 92: '\\\\\\\\', 46: '\\\\.', 38: '\\\\&', 126: '\\\\~', 35: ",
  "|'\\\\#', 32: '\\\\ ', 9: '\\\\\\t', 10: '\\\\\\n', 13: '\\\\\\r', 11: '\\\\\\x0b', 12: '\\",
  "|\\\\x0c'\x7d", "exports match fullmatch search sub subn split findall finditer compile purge
  template escape error Pattern Match A I L M S X U ASCII IGNORECASE LOCALE MULTILINE DOTALL VERBOSE
  UNICODE NOFLAG RegexFlag"]),
  ("re._casefix", [
  "constant _EXTRA_CASES \x7b105: (305,), 115: (383,), 181: (956,), 305: (105,), 383: (115,), ",
  "|837: (953, 8126), 912: (8147,), 944: (8163,), 946: (976,), 949: (1013,), 952: (977,), 953:",
  "| (837, 8126), 954: (1008,), 956: (181,), 960: (982,), 961: (1009,), 962: (963,), 963: (962",
  "|,), 966: (981,), 976: (946,), 977: (952,), 981: (966,), 982: (960,), 1008: (954,), 1009: (",
  "|961,), 1013: (949,), 1074: (7296,), 1076: (7297,), 1086: (7298,), 1089: (7299,), 1090: (73",
  "|00, 7301), 1098: (7302,), 1123: (7303,), 7296: (1074,), 7297: (1076,), 7298: (1086,), 7299",
  "|: (1089,), 7300: (1090, 7301), 7301: (1090, 7300), 7302: (1098,), 7303: (1123,), 7304: (42",
  "|571,), 7777: (7835,), 7835: (7777,), 8126: (837, 953), 8147: (912,), 8163: (944,), 42571: ",
  "|(7304,), 64261: (64262,), 64262: (64261,)\x7d", "constant __doc__ None"]),
  ("re._compiler", ["takes re._constants", "functions _bytes_to_codes _code _combine_flags _compile
  _compile_charset _compile_info _generate_overlap_table _get_charset_prefix _get_iscased
  _get_literal_prefix _hex_code _mk_bitmap _optimize_charset _simple compile dis isstring",
  "objects _ASSERT_CODES=set _LITERAL_CODES=set _SUCCESS_CODES=set _UNIT_CODES=set",
  "modules _parser=re. _sre=", "numbers MAXCODE=4294967295 _CODEBITS=32",
  "constant _BITS_TRANS b'01111111111111111111111111111111111111111111111111111111111111111111",
  "|111111111111111111111111111111111111111111111111111111111111111111111111111111111111111111",
  "|111111111111111111111111111111111111111111111111111111111111111111111111111111111111111111",
  "|11111111'",
  "constant _REPEATING_CODES \x7bre._constants._NamedIntConstant(...): (re._constants._NamedIn",
  "|tConstant(...), re._constants._NamedIntConstant(...), re._constants._NamedIntConstant(...)",
  "|), re._constants._NamedIntConstant(...): (re._constants._NamedIntConstant(...), re._consta",
  "|nts._NamedIntConstant(...), re._constants._NamedIntConstant(...)), re._constants._NamedInt",
  "|Constant(...): (re._constants._NamedIntConstant(...), re._constants._NamedIntConstant(...)",
  "|, re._constants._NamedIntConstant(...))\x7d", "same _EXTRA_CASES=re._casefix."]),
  ("re._constants", ["functions _makecodes", "classes _NamedIntConstant error=re.",
  "numbers MAGIC=20220615 MAXGROUPS=1073741823 SRE_FLAG_ASCII=256 SRE_FLAG_DEBUG=128
  SRE_FLAG_DOTALL=16 SRE_FLAG_IGNORECASE=2 SRE_FLAG_LOCALE=4 SRE_FLAG_MULTILINE=8
  SRE_FLAG_TEMPLATE=1 SRE_FLAG_UNICODE=32 SRE_FLAG_VERBOSE=64 SRE_INFO_CHARSET=4 SRE_INFO_LITERAL=2
  SRE_INFO_PREFIX=1", "constant ANY=re._constants._NamedIntConstant 2",
  "constant ANY_ALL=re._constants._NamedIntConstant 3",
  "constant ASSERT=re._constants._NamedIntConstant 4",
  "constant ASSERT_NOT=re._constants._NamedIntConstant 5",
  "constant AT=re._constants._NamedIntConstant 6",
  "constant ATOMIC_GROUP=re._constants._NamedIntConstant 27",
  "constant AT_BEGINNING=re._constants._NamedIntConstant 0",
  "constant AT_BEGINNING_LINE=re._constants._NamedIntConstant 1",
  "constant AT_BEGINNING_STRING=re._constants._NamedIntConstant 2",
  "constant AT_BOUNDARY=re._constants._NamedIntConstant 3",
  "constant AT_END=re._constants._NamedIntConstant 5",
  "constant AT_END_LINE=re._constants._NamedIntConstant 6",
  "constant AT_END_STRING=re._constants._NamedIntConstant 7",
  "constant AT_LOC_BOUNDARY=re._constants._NamedIntConstant 8",
  "constant AT_LOC_NON_BOUNDARY=re._constants._NamedIntConstant 9",
  "constant AT_NON_BOUNDARY=re._constants._NamedIntConstant 4",
  "constant AT_UNI_BOUNDARY=re._constants._NamedIntConstant 10",
  "constant AT_UNI_NON_BOUNDARY=re._constants._NamedIntConstant 11",
  "constant BIGCHARSET=re._constants._NamedIntConstant 10",
  "constant BRANCH=re._constants._NamedIntConstant 7",
  "constant CATEGORY=re._constants._NamedIntConstant 8",
  "constant CATEGORY_DIGIT=re._constants._NamedIntConstant 0",
  "constant CATEGORY_LINEBREAK=re._constants._NamedIntConstant 6",
  "constant CATEGORY_LOC_NOT_WORD=re._constants._NamedIntConstant 9",
  "constant CATEGORY_LOC_WORD=re._constants._NamedIntConstant 8",
  "constant CATEGORY_NOT_DIGIT=re._constants._NamedIntConstant 1",
  "constant CATEGORY_NOT_LINEBREAK=re._constants._NamedIntConstant 7",
  "constant CATEGORY_NOT_SPACE=re._constants._NamedIntConstant 3",
  "constant CATEGORY_NOT_WORD=re._constants._NamedIntConstant 5",
  "constant CATEGORY_SPACE=re._constants._NamedIntConstant 2",
  "constant CATEGORY_UNI_DIGIT=re._constants._NamedIntConstant 10",
  "constant CATEGORY_UNI_LINEBREAK=re._constants._NamedIntConstant 16",
  "constant CATEGORY_UNI_NOT_DIGIT=re._constants._NamedIntConstant 11",
  "constant CATEGORY_UNI_NOT_LINEBREAK=re._constants._NamedIntConstant 17",
  "constant CATEGORY_UNI_NOT_SPACE=re._constants._NamedIntConstant 13",
  "constant CATEGORY_UNI_NOT_WORD=re._constants._NamedIntConstant 15",
  "constant CATEGORY_UNI_SPACE=re._constants._NamedIntConstant 12",
  "constant CATEGORY_UNI_WORD=re._constants._NamedIntConstant 14",
  "constant CATEGORY_WORD=re._constants._NamedIntConstant 4",
  "constant CHARSET=re._constants._NamedIntConstant 9",
  "constant FAILURE=re._constants._NamedIntConstant 0",
  "constant GROUPREF=re._constants._NamedIntConstant 11",
  "constant GROUPREF_EXISTS=re._constants._NamedIntConstant 12",
  "constant GROUPREF_IGNORE=re._constants._NamedIntConstant 30",
  "constant GROUPREF_LOC_IGNORE=re._constants._NamedIntConstant 34",
  "constant GROUPREF_UNI_IGNORE=re._constants._NamedIntConstant 38",
  "constant IN=re._constants._NamedIntConstant 13",
  "constant INFO=re._constants._NamedIntConstant 14",
  "constant IN_IGNORE=re._constants._NamedIntConstant 31",
  "constant IN_LOC_IGNORE=re._constants._NamedIntConstant 35",
  "constant IN_UNI_IGNORE=re._constants._NamedIntConstant 39",
  "constant JUMP=re._constants._NamedIntConstant 15",
  "constant LITERAL=re._constants._NamedIntConstant 16",
  "constant LITERAL_IGNORE=re._constants._NamedIntConstant 32",
  "constant LITERAL_LOC_IGNORE=re._constants._NamedIntConstant 36",
  "constant LITERAL_UNI_IGNORE=re._constants._NamedIntConstant 40",
  "constant MARK=re._constants._NamedIntConstant 17",
  "constant MAXREPEAT=re._constants._NamedIntConstant 4294967295",
  "constant MAX_REPEAT=re._constants._NamedIntConstant 44",
  "constant MAX_UNTIL=re._constants._NamedIntConstant 18",
  "constant MIN_REPEAT=re._constants._NamedIntConstant 43",
  "constant MIN_REPEAT_ONE=re._constants._NamedIntConstant 26",
  "constant MIN_UNTIL=re._constants._NamedIntConstant 19",
  "constant NEGATE=re._constants._NamedIntConstant 21",
  "constant NOT_LITERAL=re._constants._NamedIntConstant 20",
  "constant NOT_LITERAL_IGNORE=re._constants._NamedIntConstant 33",
  "constant NOT_LITERAL_LOC_IGNORE=re._constants._NamedIntConstant 37",
  "constant NOT_LITERAL_UNI_IGNORE=re._constants._NamedIntConstant 41",
  "constant POSSESSIVE_REPEAT=re._constants._NamedIntConstant 28",
  "constant POSSESSIVE_REPEAT_ONE=re._constants._NamedIntConstant 29",
  "constant RANGE=re._constants._NamedIntConstant 22",
  "constant RANGE_UNI_IGNORE=re._constants._NamedIntConstant 42",
  "constant REPEAT=re._constants._NamedIntConstant 23",
  "constant REPEAT_ONE=re._constants._NamedIntConstant 24",
  "constant SUBPATTERN=re._constants._NamedIntConstant 25",
  "constant SUCCESS=re._constants._NamedIntConstant 1",
  "constant OPCODES [object('re._constants._NamedIntConstant'), object('re._constants._NamedIn",
  "|tConstant'), object('re._constants._NamedIntConstant'), object('re._constants._NamedIntCon",
  "|stant'), object('re._constants._NamedIntConstant'), object('re._constants._NamedIntConstan",
  "|t'), object('re._constants._NamedIntConstant'), object('re._constants._NamedIntConstant'),",
  "| object('re._constants._NamedIntConstant'), object('re._constants._NamedIntConstant'), obj",
  "|ect('re._constants._NamedIntConstant'), object('re._constants._NamedIntConstant'), object(",
  "|'re._constants._NamedIntConstant'), object('re._constants._NamedIntConstant'), object('re.",
  "|_constants._NamedIntConstant'), object('re._constants._NamedIntConstant'), object('re._con",
  "|stants._NamedIntConstant'), object('re._constants._NamedIntConstant'), object('re._constan",
  "|ts._NamedIntConstant'), object('re._constants._NamedIntConstant'), object('re._constants._",
  "|NamedIntConstant'), object('re._constants._NamedIntConstant'), object('re._constants._Name",
  "|dIntConstant'), object('re._constants._NamedIntConstant'), object('re._constants._NamedInt",
  "|Constant'), object('re._constants._NamedIntConstant'), object('re._constants._NamedIntCons",
  "|tant'), object('re._constants._NamedIntConstant'), object('re._constants._NamedIntConstant",
  "|'), object('re._constants._NamedIntConstant'), object('re._constants._NamedIntConstant'), ",
  "|object('re._constants._NamedIntConstant'), object('re._constants._NamedIntConstant'), obje",
  "|ct('re._constants._NamedIntConstant'), object('re._constants._NamedIntConstant'), object('",
  "|re._constants._NamedIntConstant'), object('re._constants._NamedIntConstant'), object('re._",
  "|constants._NamedIntConstant'), object('re._constants._NamedIntConstant'), object('re._cons",
  "|tants._NamedIntConstant'), object('re._constants._NamedIntConstant'), object('re._constant",
  "|s._NamedIntConstant'), object('re._constants._NamedIntConstant')]",
  "constant ATCODES [object('re._constants._NamedIntConstant'), object('re._constants._NamedIn",
  "|tConstant'), object('re._constants._NamedIntConstant'), object('re._constants._NamedIntCon",
  "|stant'), object('re._constants._NamedIntConstant'), object('re._constants._NamedIntConstan",
  "|t'), object('re._constants._NamedIntConstant'), object('re._constants._NamedIntConstant'),",
  "| object('re._constants._NamedIntConstant'), object('re._constants._NamedIntConstant'), obj",
  "|ect('re._constants._NamedIntConstant'), object('re._constants._NamedIntConstant')]",
  "constant CHCODES [object('re._constants._NamedIntConstant'), object('re._constants._NamedIn",
  "|tConstant'), object('re._constants._NamedIntConstant'), object('re._constants._NamedIntCon",
  "|stant'), object('re._constants._NamedIntConstant'), object('re._constants._NamedIntConstan",
  "|t'), object('re._constants._NamedIntConstant'), object('re._constants._NamedIntConstant'),",
  "| object('re._constants._NamedIntConstant'), object('re._constants._NamedIntConstant'), obj",
  "|ect('re._constants._NamedIntConstant'), object('re._constants._NamedIntConstant'), object(",
  "|'re._constants._NamedIntConstant'), object('re._constants._NamedIntConstant'), object('re.",
  "|_constants._NamedIntConstant'), object('re._constants._NamedIntConstant'), object('re._con",
  "|stants._NamedIntConstant'), object('re._constants._NamedIntConstant')]",
  "constant OP_IGNORE \x7bobject('re._constants._NamedIntConstant'): object('re._constants._Na",
  "|medIntConstant'), object('re._constants._NamedIntConstant'): object('re._constants._NamedI",
  "|ntConstant')\x7d",
  "constant OP_LOCALE_IGNORE \x7bobject('re._constants._NamedIntConstant'): object('re._consta",
  "|nts._NamedIntConstant'), object('re._constants._NamedIntConstant'): object('re._constants.",
  "|_NamedIntConstant')\x7d",
  "constant OP_UNICODE_IGNORE \x7bobject('re._constants._NamedIntConstant'): object('re._const",
  "|ants._NamedIntConstant'), object('re._constants._NamedIntConstant'): object('re._constants",
  "|._NamedIntConstant')\x7d",
  "constant AT_MULTILINE \x7bobject('re._constants._NamedIntConstant'): object('re._constants.",
  "|_NamedIntConstant'), object('re._constants._NamedIntConstant'): object('re._constants._Nam",
  "|edIntConstant')\x7d",
  "constant AT_LOCALE \x7bobject('re._constants._NamedIntConstant'): object('re._constants._Na",
  "|medIntConstant'), object('re._constants._NamedIntConstant'): object('re._constants._NamedI",
  "|ntConstant')\x7d",
  "constant AT_UNICODE \x7bobject('re._constants._NamedIntConstant'): object('re._constants._N",
  "|amedIntConstant'), object('re._constants._NamedIntConstant'): object('re._constants._Named",
  "|IntConstant')\x7d",
  "constant CH_LOCALE \x7bobject('re._constants._NamedIntConstant'): object('re._constants._Na",
  "|medIntConstant'), object('re._constants._NamedIntConstant'): object('re._constants._NamedI",
  "|ntConstant'), object('re._constants._NamedIntConstant'): object('re._constants._NamedIntCo",
  "|nstant'), object('re._constants._NamedIntConstant'): object('re._constants._NamedIntConsta",
  "|nt'), object('re._constants._NamedIntConstant'): object('re._constants._NamedIntConstant')",
  "|, object('re._constants._NamedIntConstant'): object('re._constants._NamedIntConstant'), ob",
  "|ject('re._constants._NamedIntConstant'): object('re._constants._NamedIntConstant'), object",
  "|('re._constants._NamedIntConstant'): object('re._constants._NamedIntConstant')\x7d",
  "constant CH_UNICODE \x7bobject('re._constants._NamedIntConstant'): object('re._constants._N",
  "|amedIntConstant'), object('re._constants._NamedIntConstant'): object('re._constants._Named",
  "|IntConstant'), object('re._constants._NamedIntConstant'): object('re._constants._NamedIntC",
  "|onstant'), object('re._constants._NamedIntConstant'): object('re._constants._NamedIntConst",
  "|ant'), object('re._constants._NamedIntConstant'): object('re._constants._NamedIntConstant'",
  "|), object('re._constants._NamedIntConstant'): object('re._constants._NamedIntConstant'), o",
  "|bject('re._constants._NamedIntConstant'): object('re._constants._NamedIntConstant'), objec",
  "|t('re._constants._NamedIntConstant'): object('re._constants._NamedIntConstant')\x7d"]),
  ("re._parser", ["takes re._constants", "functions _class_escape _escape _parse _parse_flags
  _parse_sub _uniq expand_template fix_flags parse parse_template", "classes State SubPattern
  Tokenizer", "objects ASCIILETTERS=frozenset DIGITS=frozenset HEXDIGITS=frozenset
  OCTDIGITS=frozenset WHITESPACE=frozenset _REPEATCODES=frozenset _UNITCODES=frozenset",
  "numbers GLOBAL_FLAGS=129 TYPE_FLAGS=292",
  "constant CATEGORIES \x7b'\\\\A': (re._constants._NamedIntConstant(...), re._constants._Name",
  "|dIntConstant(...)), '\\\\b': (re._constants._NamedIntConstant(...), re._constants._NamedIn",
  "|tConstant(...)), '\\\\B': (re._constants._NamedIntConstant(...), re._constants._NamedIntCo",
  "|nstant(...)), '\\\\d': (re._constants._NamedIntConstant(...), [(re._constants._NamedIntCon",
  "|stant(...), re._constants._NamedIntConstant(...))]), '\\\\D': (re._constants._NamedIntCons",
  "|tant(...), [(re._constants._NamedIntConstant(...), re._constants._NamedIntConstant(...))])",
  "|, '\\\\s': (re._constants._NamedIntConstant(...), [(re._constants._NamedIntConstant(...), ",
  "|re._constants._NamedIntConstant(...))]), '\\\\S': (re._constants._NamedIntConstant(...), [",
  "|(re._constants._NamedIntConstant(...), re._constants._NamedIntConstant(...))]), '\\\\w': (",
  "|re._constants._NamedIntConstant(...), [(re._constants._NamedIntConstant(...), re._constant",
  "|s._NamedIntConstant(...))]), '\\\\W': (re._constants._NamedIntConstant(...), [(re._constan",
  "|ts._NamedIntConstant(...), re._constants._NamedIntConstant(...))]), '\\\\Z': (re._constant",
  "|s._NamedIntConstant(...), re._constants._NamedIntConstant(...))\x7d",
  "constant ESCAPES \x7b'\\\\a': (re._constants._NamedIntConstant(...), 7), '\\\\b': (re._cons",
  "|tants._NamedIntConstant(...), 8), '\\\\f': (re._constants._NamedIntConstant(...), 12), '\\",
  "|\\n': (re._constants._NamedIntConstant(...), 10), '\\\\r': (re._constants._NamedIntConstan",
  "|t(...), 13), '\\\\t': (re._constants._NamedIntConstant(...), 9), '\\\\v': (re._constants._",
  "|NamedIntConstant(...), 11), '\\\\\\\\': (re._constants._NamedIntConstant(...), 92)\x7d",
  "constant FLAGS \x7b'i': 2, 'L': 4, 'm': 8, 's': 16, 'x': 64, 'a': 256, 't': 1, 'u': 32\x7d",
  "constant REPEAT_CHARS '*+?\x7b'", "constant SPECIAL_CHARS '.\\\\[\x7b()*+?^$|'"]),
  ("shlex", ["functions _print_tokens join quote split", "classes StringIO=_io. deque=collections.
  shlex", "objects _find_unsafe=builtin_method", "modules os= re= sys=", "exports shlex split quote
  join"]),
  ("sre_compile", ["takes re._compiler", "functions _bytes_to_codes=re._compiler:
  _code=re._compiler: _combine_flags=re._compiler: _compile=re._compiler:
  _compile_charset=re._compiler: _compile_info=re._compiler: _generate_overlap_table=re._compiler:
  _get_charset_prefix=re._compiler: _get_iscased=re._compiler: _get_literal_prefix=re._compiler:
  _hex_code=re._compiler: _mk_bitmap=re._compiler: _optimize_charset=re._compiler:
  _simple=re._compiler:", "objects _ASSERT_CODES=set _LITERAL_CODES=set _SUCCESS_CODES=set
  _UNIT_CODES=set", "modules _=re._compiler _parser=re. _sre= warnings=", "numbers _CODEBITS=32",
  "constant __doc__ None", "same _BITS_TRANS=re._compiler. _EXTRA_CASES=re._casefix.
  _REPEATING_CODES=re._compiler."]),
  ("sre_constants", ["takes re._constants", "functions _makecodes=re._constants:",
  "classes _NamedIntConstant=re._constants.", "modules _=re._constants warnings=",
  "constant __doc__ None"]),
  ("sre_parse", ["takes re._parser", "functions _class_escape=re._parser: _escape=re._parser:
  _parse=re._parser: _parse_flags=re._parser: _parse_sub=re._parser: _uniq=re._parser:",
  "objects _REPEATCODES=frozenset _UNITCODES=frozenset", "modules _=re._parser warnings=",
  "constant __doc__ None"]),
  ("string", ["functions capwords", "classes Formatter Template _ChainMap=collections.ChainMap",
  "modules _re=re _string=", "constant _sentinel_dict \x7b\x7d",
  "constant ascii_letters 'abcdefghijklmnopqrstuvwxyzABCDEFGHIJKLMNOPQRSTUVWXYZ'",
  "constant ascii_lowercase 'abcdefghijklmnopqrstuvwxyz'",
  "constant ascii_uppercase 'ABCDEFGHIJKLMNOPQRSTUVWXYZ'", "constant digits '0123456789'",
  "constant hexdigits '0123456789abcdefABCDEF'", "constant octdigits '01234567'",
  "constant printable '0123456789abcdefghijklmnopqrstuvwxyzABCDEFGHIJKLMNOPQRSTUVWXYZ!\"#$%&\\",
  "|'()*+,-./:;<=>?@[\\\\]^_`\x7b|\x7d~ \\t\\n\\r\\x0b\\x0c'",
  "constant punctuation '!\"#$%&\\'()*+,-./:;<=>?@[\\\\]^_`\x7b|\x7d~'",
  "constant whitespace ' \\t\\n\\r\\x0b\\x0c'", "exports ascii_letters ascii_lowercase
  ascii_uppercase capwords digits hexdigits octdigits printable punctuation whitespace Formatter
  Template"]),
  ("stringprep", ["functions in_table_a1 in_table_b1 in_table_c11 in_table_c11_c12 in_table_c12
  in_table_c21 in_table_c21_c22 in_table_c22 in_table_c3 in_table_c4 in_table_c5 in_table_c6
  in_table_c7 in_table_c8 in_table_c9 in_table_d1 in_table_d2 map_table_b2 map_table_b3",
  "objects b1_set=set c22_specials=set c6_set=set c7_set=set c8_set=set c9_set=set",
  "holders unicodedata=unicodedata.UCD", "part unicodedata.unidata_version '3.2.0'",
  "objects b3_exceptions=dict"]),
  ("struct", ["builtins _clearcache=_struct: calcsize=_struct: iter_unpack=_struct: pack=_struct:
  pack_into=_struct: unpack=_struct: unpack_from=_struct:", "classes Struct=_struct. error",
  "exports calcsize pack pack_into unpack unpack_from iter_unpack Struct error"]),
  ("textwrap", ["functions dedent fill indent shorten wrap", "classes TextWrapper",
  "holders _leading_whitespace_re=re.Pattern _whitespace_only_re=re.Pattern", "modules re=",
  "constant _whitespace '\\t\\n\\x0b\\x0c\\r '", "exports TextWrapper wrap fill dedent indent
  shorten", "part _leading_whitespace_re.flags 40", "part _leading_whitespace_re.groups 1",
  "part _leading_whitespace_re.pattern '(^[ \\t]*)(?:[^ \\t\\n])'",
  "part _whitespace_only_re.flags 40", "part _whitespace_only_re.pattern '^[ \\t]+$'"]),
  ("unicodedata", ["built-in", "builtins bidirectional category combining decimal decomposition
  digit east_asian_width is_normalized lookup mirrored name normalize numeric", "classes UCD",
  "objects _ucnhash_CAPI=PyCapsule", "same ucd_3_2_0=stringprep.unicodedata",
  "constant unidata_version '14.0.0'"])]

/-- The classes for texts, patterns, locales and encodings. -/
def textClasses : List (String × List String) := [
  ("_multibytecodec.MultibyteCodec", ["shown _multibytecodec.MultibyteCodec",
  "operations __getattribute__", "methods encode decode", "silent"]),
  ("_multibytecodec.MultibyteIncrementalDecoder", [
  "shown _multibytecodec.MultibyteIncrementalDecoder", "builtins __new__",
  "operations __getattribute__ __init__", "methods decode getstate setstate reset", "fields errors",
  "silent"]),
  ("_multibytecodec.MultibyteIncrementalEncoder", [
  "shown _multibytecodec.MultibyteIncrementalEncoder", "builtins __new__",
  "operations __getattribute__ __init__", "methods encode getstate setstate reset", "fields errors",
  "silent"]),
  ("_multibytecodec.MultibyteStreamReader", ["shown _multibytecodec.MultibyteStreamReader",
  "builtins __new__", "operations __getattribute__ __init__", "methods read readline readlines
  reset", "fields errors", "slots stream", "silent"]),
  ("_multibytecodec.MultibyteStreamWriter", ["shown _multibytecodec.MultibyteStreamWriter",
  "builtins __new__", "operations __getattribute__ __init__", "told-methods write writelines reset",
  "fields errors", "slots stream", "silent"]),
  ("_struct.Struct", ["shown _struct.Struct", "builtins __new__", "operations __getattribute__
  __setattr__ __delattr__ __init__", "methods iter_unpack pack pack_into unpack unpack_from
  __sizeof__", "fields format size"]),
  ("codecs.BufferedIncrementalDecoder", ["below codecs.IncrementalDecoder", "functions __init__
  _buffer_decode decode reset getstate setstate"]),
  ("codecs.BufferedIncrementalEncoder", ["below codecs.IncrementalEncoder", "functions __init__
  _buffer_encode encode reset getstate setstate"]),
  ("codecs.Codec", ["open", "functions encode decode"]),
  ("codecs.CodecInfo", ["below tuple", "open __dict__", "functions __repr__", "statics __new__",
  "constant _is_text_encoding True"]),
  ("codecs.IncrementalDecoder", ["open", "functions __init__ decode reset getstate setstate"]),
  ("codecs.IncrementalEncoder", ["open", "functions __init__ encode reset getstate setstate"]),
  ("codecs.StreamReader", ["below codecs.Codec", "functions __init__ decode read readline readlines
  reset seek __next__ __iter__ __getattr__ __enter__ __exit__ __reduce_ex__",
  "classes charbuffertype=str", "silent"]),
  ("codecs.StreamReaderWriter", ["open", "functions __init__ read readline readlines __next__
  __iter__ write writelines reset seek __getattr__ __enter__ __exit__ __reduce_ex__",
  "constant encoding 'unknown'"]),
  ("codecs.StreamRecoder", ["open", "functions __init__ read readline readlines __next__ __iter__
  write writelines reset seek __getattr__ __enter__ __exit__ __reduce_ex__",
  "constant data_encoding 'unknown'", "constant file_encoding 'unknown'"]),
  ("codecs.StreamWriter", ["below codecs.Codec", "functions __init__ write writelines reset seek
  __getattr__ __enter__ __exit__ __reduce_ex__", "silent"]),
  ("difflib.Differ", ["open", "functions __init__ compare _dump _plain_replace _fancy_replace
  _fancy_helper _qformat"]),
  ("difflib.HtmlDiff", ["open", "functions __init__ make_file _tab_newline_replace _split_line
  _line_wrapper _collect_lines _format_line _make_prefix _convert_flags make_table",
  "numbers _default_prefix=0",
  "constant _file_template '\\n<!DOCTYPE html PUBLIC \"-//W3C//DTD XHTML 1.0 Transitional//EN",
  "|\"\\n          \"http:\\x2f/www.w3.org/TR/xhtml1/DTD/xhtml1-transitional.dtd\">\\n\\n<html",
  "|>\\n\\n<head>\\n    <meta http-equiv=\"Content-Type\"\\n          content=\"text/html; cha",
  "|rset=%(charset)s\" />\\n    <title></title>\\n    <style type=\"text/css\">%(styles)s\\n  ",
  "|  </style>\\n</head>\\n\\n<body>\\n    %(table)s%(legend)s\\n</body>\\n\\n</html>'",
  "constant _styles '\\n        table.diff \x7bfont-family:Courier; border:medium;\x7d\\n     ",
  "|   .diff_header \x7bbackground-color:#e0e0e0\x7d\\n        td.diff_header \x7btext-align:r",
  "|ight\x7d\\n        .diff_next \x7bbackground-color:#c0c0c0\x7d\\n        .diff_add \x7bbac",
  "|kground-color:#aaffaa\x7d\\n        .diff_chg \x7bbackground-color:#ffff77\x7d\\n        .",
  "|diff_sub \x7bbackground-color:#ffaaaa\x7d'",
  "constant _table_template '\\n    <table class=\"diff\" id=\"difflib_chg_%(prefix)s_top\"\\n",
  "|           cellspacing=\"0\" cellpadding=\"0\" rules=\"groups\" >\\n        <colgroup></co",
  "|lgroup> <colgroup></colgroup> <colgroup></colgroup>\\n        <colgroup></colgroup> <colgr",
  "|oup></colgroup> <colgroup></colgroup>\\n        %(header_row)s\\n        <tbody>\\n%(data_",
  "|rows)s        </tbody>\\n    </table>'",
  "constant _legend '\\n    <table class=\"diff\" summary=\"Legends\">\\n        <tr> <th cols",
  "|pan=\"2\"> Legends </th> </tr>\\n        <tr> <td> <table border=\"\" summary=\"Colors\">",
  "|\\n                      <tr><th> Colors </th> </tr>\\n                      <tr><td class",
  "|=\"diff_add\">&nbsp;Added&nbsp;</td></tr>\\n                      <tr><td class=\"diff_chg",
  "|\">Changed</td> </tr>\\n                      <tr><td class=\"diff_sub\">Deleted</td> </tr",
  "|>\\n                  </table></td>\\n             <td> <table border=\"\" summary=\"Links",
  "|\">\\n                      <tr><th colspan=\"2\"> Links </th> </tr>\\n                   ",
  "|   <tr><td>(f)irst change</td> </tr>\\n                      <tr><td>(n)ext change</td> </",
  "|tr>\\n                      <tr><td>(t)op</td> </tr>\\n                  </table></td> </t",
  "|r>\\n    </table>'"]),
  ("difflib.Match", ["below tuple", "functions _replace=collections:Match._replace
  __repr__=collections:Match.__repr__ _asdict=collections:Match._asdict
  __getnewargs__=collections:Match.__getnewargs__", "class-functions _make=collections:Match._make",
  "statics __new__=namedtuple_Match:Match.__new__", "objects a=_collections._tuplegetter
  b=_collections._tuplegetter size=_collections._tuplegetter", "constant __slots__ ()",
  "constant _fields ('a', 'b', 'size')", "constant _field_defaults \x7b\x7d",
  "constant __match_args__ ('a', 'b', 'size')"]),
  ("difflib.SequenceMatcher", ["open", "functions __init__ set_seqs set_seq1 set_seq2
  _SequenceMatcher__chain_b=difflib:SequenceMatcher.__chain_b find_longest_match get_matching_blocks
  get_opcodes get_grouped_opcodes ratio quick_ratio real_quick_ratio",
  "class-functions __class_getitem__"]),
  ("encodings.CodecRegistryError", ["above LookupError SystemError Exception BaseException object",
  "open __weakref__", "silent"]),
  ("encodings.ascii.Codec", ["below codecs.Codec", "builtins encode decode", "silent"]),
  ("encodings.ascii.IncrementalDecoder", ["below codecs.IncrementalDecoder", "functions decode",
  "silent"]),
  ("encodings.ascii.IncrementalEncoder", ["below codecs.IncrementalEncoder", "functions encode",
  "silent"]),
  ("encodings.ascii.StreamConverter", ["above encodings.ascii.StreamWriter
  encodings.ascii.StreamReader encodings.ascii.Codec codecs.StreamWriter codecs.StreamReader
  codecs.Codec object", "builtins encode decode", "silent"]),
  ("encodings.ascii.StreamReader", ["above encodings.ascii.Codec codecs.StreamReader codecs.Codec
  object", "silent"]),
  ("encodings.ascii.StreamWriter", ["above encodings.ascii.Codec codecs.StreamWriter codecs.Codec
  object", "silent"]),
  ("encodings.base64_codec.Codec", ["below codecs.Codec", "functions encode decode", "silent"]),
  ("encodings.base64_codec.IncrementalDecoder", ["below codecs.IncrementalDecoder",
  "functions decode", "silent"]),
  ("encodings.base64_codec.IncrementalEncoder", ["below codecs.IncrementalEncoder",
  "functions encode", "silent"]),
  ("encodings.base64_codec.StreamReader", ["above encodings.base64_codec.Codec codecs.StreamReader
  codecs.Codec object", "classes charbuffertype=bytes", "silent"]),
  ("encodings.base64_codec.StreamWriter", ["above encodings.base64_codec.Codec codecs.StreamWriter
  codecs.Codec object", "classes charbuffertype=bytes", "silent"]),
  ("encodings.bz2_codec.Codec", ["below codecs.Codec", "functions encode decode", "silent"]),
  ("encodings.bz2_codec.IncrementalDecoder", ["below codecs.IncrementalDecoder", "functions __init__
  decode reset", "silent"]),
  ("encodings.bz2_codec.IncrementalEncoder", ["below codecs.IncrementalEncoder", "functions __init__
  encode reset", "silent"]),
  ("encodings.bz2_codec.StreamReader", ["above encodings.bz2_codec.Codec codecs.StreamReader
  codecs.Codec object", "classes charbuffertype=bytes", "silent"]),
  ("encodings.bz2_codec.StreamWriter", ["above encodings.bz2_codec.Codec codecs.StreamWriter
  codecs.Codec object", "classes charbuffertype=bytes", "silent"]),
  ("encodings.charmap.Codec", ["below codecs.Codec", "builtins encode decode", "silent"]),
  ("encodings.charmap.IncrementalDecoder", ["below codecs.IncrementalDecoder", "functions __init__
  decode", "silent"]),
  ("encodings.charmap.IncrementalEncoder", ["below codecs.IncrementalEncoder", "functions __init__
  encode", "silent"]),
  ("encodings.charmap.StreamReader", ["above encodings.charmap.Codec codecs.StreamReader
  codecs.Codec object", "functions __init__ decode", "silent"]),
  ("encodings.charmap.StreamWriter", ["above encodings.charmap.Codec codecs.StreamWriter
  codecs.Codec object", "functions __init__ encode", "silent"]),
  ("encodings.hex_codec.Codec", ["below codecs.Codec", "functions encode decode", "silent"]),
  ("encodings.hex_codec.IncrementalDecoder", ["below codecs.IncrementalDecoder", "functions decode",
  "silent"]),
  ("encodings.hex_codec.IncrementalEncoder", ["below codecs.IncrementalEncoder", "functions encode",
  "silent"]),
  ("encodings.hex_codec.StreamReader", ["above encodings.hex_codec.Codec codecs.StreamReader
  codecs.Codec object", "classes charbuffertype=bytes", "silent"]),
  ("encodings.hex_codec.StreamWriter", ["above encodings.hex_codec.Codec codecs.StreamWriter
  codecs.Codec object", "classes charbuffertype=bytes", "silent"]),
  ("encodings.idna.Codec", ["below codecs.Codec", "functions encode decode", "silent"]),
  ("encodings.idna.IncrementalDecoder", ["below codecs.BufferedIncrementalDecoder",
  "functions _buffer_decode", "silent"]),
  ("encodings.idna.IncrementalEncoder", ["below codecs.BufferedIncrementalEncoder",
  "functions _buffer_encode", "silent"]),
  ("encodings.idna.StreamReader", ["above encodings.idna.Codec codecs.StreamReader codecs.Codec
  object", "silent"]),
  ("encodings.idna.StreamWriter", ["above encodings.idna.Codec codecs.StreamWriter codecs.Codec
  object", "silent"]),
  ("encodings.latin_1.Codec", ["below codecs.Codec", "builtins encode decode", "silent"]),
  ("encodings.latin_1.IncrementalDecoder", ["below codecs.IncrementalDecoder", "functions decode",
  "silent"]),
  ("encodings.latin_1.IncrementalEncoder", ["below codecs.IncrementalEncoder", "functions encode",
  "silent"]),
  ("encodings.latin_1.StreamConverter", ["above encodings.latin_1.StreamWriter
  encodings.latin_1.StreamReader encodings.latin_1.Codec codecs.StreamWriter codecs.StreamReader
  codecs.Codec object", "builtins encode decode", "silent"]),
  ("encodings.latin_1.StreamReader", ["above encodings.latin_1.Codec codecs.StreamReader
  codecs.Codec object", "silent"]),
  ("encodings.latin_1.StreamWriter", ["above encodings.latin_1.Codec codecs.StreamWriter
  codecs.Codec object", "silent"]),
  ("encodings.quopri_codec.Codec", ["below codecs.Codec", "functions encode decode", "silent"]),
  ("encodings.quopri_codec.IncrementalDecoder", ["below codecs.IncrementalDecoder",
  "functions decode", "silent"]),
  ("encodings.quopri_codec.IncrementalEncoder", ["below codecs.IncrementalEncoder",
  "functions encode", "silent"]),
  ("encodings.quopri_codec.StreamReader", ["above encodings.quopri_codec.Codec codecs.StreamReader
  codecs.Codec object", "classes charbuffertype=bytes", "silent"]),
  ("encodings.quopri_codec.StreamWriter", ["above encodings.quopri_codec.Codec codecs.StreamWriter
  codecs.Codec object", "classes charbuffertype=bytes", "silent"]),
  ("encodings.raw_unicode_escape.Codec", ["below codecs.Codec", "builtins encode decode",
  "silent"]),
  ("encodings.raw_unicode_escape.IncrementalDecoder", ["below codecs.BufferedIncrementalDecoder",
  "functions _buffer_decode", "silent"]),
  ("encodings.raw_unicode_escape.IncrementalEncoder", ["below codecs.IncrementalEncoder",
  "functions encode", "silent"]),
  ("encodings.raw_unicode_escape.StreamReader", ["above encodings.raw_unicode_escape.Codec
  codecs.StreamReader codecs.Codec object", "functions decode", "silent"]),
  ("encodings.raw_unicode_escape.StreamWriter", ["above encodings.raw_unicode_escape.Codec
  codecs.StreamWriter codecs.Codec object", "silent"]),
  ("encodings.unicode_escape.Codec", ["below codecs.Codec", "builtins encode decode", "silent"]),
  ("encodings.unicode_escape.IncrementalDecoder", ["below codecs.BufferedIncrementalDecoder",
  "functions _buffer_decode", "silent"]),
  ("encodings.unicode_escape.IncrementalEncoder", ["below codecs.IncrementalEncoder",
  "functions encode", "silent"]),
  ("encodings.unicode_escape.StreamReader", ["above encodings.unicode_escape.Codec
  codecs.StreamReader codecs.Codec object", "functions decode", "silent"]),
  ("encodings.unicode_escape.StreamWriter", ["above encodings.unicode_escape.Codec
  codecs.StreamWriter codecs.Codec object", "silent"]),
  ("encodings.utf_16.IncrementalDecoder", ["below codecs.BufferedIncrementalDecoder",
  "functions __init__ _buffer_decode reset getstate setstate", "silent"]),
  ("encodings.utf_16.IncrementalEncoder", ["below codecs.IncrementalEncoder", "functions __init__
  encode reset getstate setstate", "silent"]),
  ("encodings.utf_16.StreamReader", ["below codecs.StreamReader", "functions reset decode",
  "silent"]),
  ("encodings.utf_16.StreamWriter", ["below codecs.StreamWriter", "functions __init__ reset encode",
  "silent"]),
  ("encodings.utf_16_be.IncrementalDecoder", ["below codecs.BufferedIncrementalDecoder",
  "builtins _buffer_decode", "silent"]),
  ("encodings.utf_16_be.IncrementalEncoder", ["below codecs.IncrementalEncoder", "functions encode",
  "silent"]),
  ("encodings.utf_16_be.StreamReader", ["below codecs.StreamReader", "builtins decode", "silent"]),
  ("encodings.utf_16_be.StreamWriter", ["below codecs.StreamWriter", "builtins encode", "silent"]),
  ("encodings.utf_16_le.IncrementalDecoder", ["below codecs.BufferedIncrementalDecoder",
  "builtins _buffer_decode", "silent"]),
  ("encodings.utf_16_le.IncrementalEncoder", ["below codecs.IncrementalEncoder", "functions encode",
  "silent"]),
  ("encodings.utf_16_le.StreamReader", ["below codecs.StreamReader", "builtins decode", "silent"]),
  ("encodings.utf_16_le.StreamWriter", ["below codecs.StreamWriter", "builtins encode", "silent"]),
  ("encodings.utf_32.IncrementalDecoder", ["below codecs.BufferedIncrementalDecoder",
  "functions __init__ _buffer_decode reset getstate setstate", "silent"]),
  ("encodings.utf_32.IncrementalEncoder", ["below codecs.IncrementalEncoder", "functions __init__
  encode reset getstate setstate", "silent"]),
  ("encodings.utf_32.StreamReader", ["below codecs.StreamReader", "functions reset decode",
  "silent"]),
  ("encodings.utf_32.StreamWriter", ["below codecs.StreamWriter", "functions __init__ reset encode",
  "silent"]),
  ("encodings.utf_32_be.IncrementalDecoder", ["below codecs.BufferedIncrementalDecoder",
  "builtins _buffer_decode", "silent"]),
  ("encodings.utf_32_be.IncrementalEncoder", ["below codecs.IncrementalEncoder", "functions encode",
  "silent"]),
  ("encodings.utf_32_be.StreamReader", ["below codecs.StreamReader", "builtins decode", "silent"]),
  ("encodings.utf_32_be.StreamWriter", ["below codecs.StreamWriter", "builtins encode", "silent"]),
  ("encodings.utf_32_le.IncrementalDecoder", ["below codecs.BufferedIncrementalDecoder",
  "builtins _buffer_decode", "silent"]),
  ("encodings.utf_32_le.IncrementalEncoder", ["below codecs.IncrementalEncoder", "functions encode",
  "silent"]),
  ("encodings.utf_32_le.StreamReader", ["below codecs.StreamReader", "builtins decode", "silent"]),
  ("encodings.utf_32_le.StreamWriter", ["below codecs.StreamWriter", "builtins encode", "silent"]),
  ("encodings.utf_7.IncrementalDecoder", ["below codecs.BufferedIncrementalDecoder",
  "builtins _buffer_decode", "silent"]),
  ("encodings.utf_7.IncrementalEncoder", ["below codecs.IncrementalEncoder", "functions encode",
  "silent"]),
  ("encodings.utf_7.StreamReader", ["below codecs.StreamReader", "builtins decode", "silent"]),
  ("encodings.utf_7.StreamWriter", ["below codecs.StreamWriter", "builtins encode", "silent"]),
  ("encodings.utf_8.IncrementalDecoder", ["below codecs.BufferedIncrementalDecoder",
  "builtins _buffer_decode", "silent"]),
  ("encodings.utf_8.IncrementalEncoder", ["below codecs.IncrementalEncoder", "functions encode",
  "silent"]),
  ("encodings.utf_8.StreamReader", ["below codecs.StreamReader", "builtins decode", "silent"]),
  ("encodings.utf_8.StreamWriter", ["below codecs.StreamWriter", "builtins encode", "silent"]),
  ("encodings.utf_8_sig.IncrementalDecoder", ["below codecs.BufferedIncrementalDecoder",
  "functions __init__ _buffer_decode reset getstate setstate", "silent"]),
  ("encodings.utf_8_sig.IncrementalEncoder", ["below codecs.IncrementalEncoder", "functions __init__
  encode reset getstate setstate", "silent"]),
  ("encodings.utf_8_sig.StreamReader", ["below codecs.StreamReader", "functions reset decode",
  "silent"]),
  ("encodings.utf_8_sig.StreamWriter", ["below codecs.StreamWriter", "functions reset encode",
  "silent"]),
  ("encodings.uu_codec.Codec", ["below codecs.Codec", "functions encode decode", "silent"]),
  ("encodings.uu_codec.IncrementalDecoder", ["below codecs.IncrementalDecoder", "functions decode",
  "silent"]),
  ("encodings.uu_codec.IncrementalEncoder", ["below codecs.IncrementalEncoder", "functions encode",
  "silent"]),
  ("encodings.uu_codec.StreamReader", ["above encodings.uu_codec.Codec codecs.StreamReader
  codecs.Codec object", "classes charbuffertype=bytes", "silent"]),
  ("encodings.uu_codec.StreamWriter", ["above encodings.uu_codec.Codec codecs.StreamWriter
  codecs.Codec object", "classes charbuffertype=bytes", "silent"]),
  ("encodings.zlib_codec.Codec", ["below codecs.Codec", "functions encode decode", "silent"]),
  ("encodings.zlib_codec.IncrementalDecoder", ["below codecs.IncrementalDecoder",
  "functions __init__ decode reset", "silent"]),
  ("encodings.zlib_codec.IncrementalEncoder", ["below codecs.IncrementalEncoder",
  "functions __init__ encode reset", "silent"]),
  ("encodings.zlib_codec.StreamReader", ["above encodings.zlib_codec.Codec codecs.StreamReader
  codecs.Codec object", "classes charbuffertype=bytes", "silent"]),
  ("encodings.zlib_codec.StreamWriter", ["above encodings.zlib_codec.Codec codecs.StreamWriter
  codecs.Codec object", "classes charbuffertype=bytes", "silent"]),
  ("gettext.GNUTranslations", ["below gettext.NullTranslations", "functions _get_versions _parse
  gettext ngettext pgettext npgettext", "numbers LE_MAGIC=2500072158 BE_MAGIC=3725722773",
  "constant CONTEXT '%s\\x04%s'", "constant VERSIONS (0, 1)", "silent"]),
  ("gettext.NullTranslations", ["open", "functions __init__ _parse add_fallback gettext ngettext
  pgettext npgettext info charset install", "silent"]),
  ("locale.Error", ["below Exception", "open __weakref__", "silent"]),
  ("pprint.PrettyPrinter", ["open", "functions __init__ pprint pformat isrecursive isreadable
  _format _pprint_dataclass _pprint_dict _pprint_ordered_dict _pprint_list _pprint_tuple _pprint_set
  _pprint_str _pprint_bytes _pprint_bytearray _pprint_mappingproxy _pprint_simplenamespace
  _format_dict_items _format_namespace_items _format_items _repr format _pprint_default_dict
  _pprint_counter _pprint_chain_map _pprint_deque _pprint_user_dict _pprint_user_list
  _pprint_user_string _safe_repr",
  "constant _dispatch \x7bwrapper_descriptor(...): function(...), wrapper_descriptor(...): fun",
  "|ction(...), wrapper_descriptor(...): function(...), wrapper_descriptor(...): function(...)",
  "|, wrapper_descriptor(...): function(...), wrapper_descriptor(...): function(...), wrapper_",
  "|descriptor(...): function(...), wrapper_descriptor(...): function(...), wrapper_descriptor",
  "|(...): function(...), wrapper_descriptor(...): function(...), wrapper_descriptor(...): fun",
  "|ction(...), wrapper_descriptor(...): function(...), function(...): function(...), function",
  "|(...): function(...), wrapper_descriptor(...): function(...), function(...): function(...)",
  "|, function(...): function(...), function(...): function(...)\x7d", "silent"]),
  ("pprint._safe_key", ["functions __init__ __lt__", "slots obj", "constant __slots__ ['obj']"]),
  ("re.Match", ["shown re.Match", "operations __repr__ __getitem__", "methods group start end span
  groups groupdict expand __copy__ __deepcopy__", "class-builtins __class_getitem__",
  "fields lastindex lastgroup regs", "slots string re pos endpos"]),
  ("re.Pattern", ["shown re.Pattern", "operations __repr__ __hash__ __lt__ __le__ __eq__ __ne__
  __gt__ __ge__", "methods findall split __copy__ __deepcopy__", "told-methods match fullmatch
  search sub subn finditer scanner", "class-builtins __class_getitem__", "fields groupindex",
  "slots pattern flags groups"]),
  ("re.RegexFlag", ["below enum.IntFlag", "kind enum.EnumType",
  "functions _generate_next_value_=enum:Flag._generate_next_value_ __or__=enum:Flag.__or__
  __xor__=enum:Flag.__xor__ __and__=enum:Flag.__and__ __ror__=enum:Flag.__or__
  __rxor__=enum:Flag.__xor__ __rand__=enum:Flag.__and__ __invert__=enum:Flag.__invert__
  __new__=enum:Enum.__new__ __repr__=enum:global_flag_repr", "builtins _new_member_ _numeric_repr_",
  "operations _value_repr_ __str__", "methods __format__", "classes _member_type_=int",
  "objects _iter_member_=method", "members _boundary_=enum.FlagBoundary.KEEP",
  "numbers _flag_mask_=511 _all_bits_=511 _singles_mask_=511", "constant _use_args_ True",
  "constant _unhashable_values_ []", "constant _inverted_ None", "values NOFLAG=0 ASCII=256 A=256
  IGNORECASE=2 I=2 LOCALE=4 L=4 UNICODE=32 U=32 MULTILINE=8 M=8 DOTALL=16 S=16 VERBOSE=64 X=64
  TEMPLATE=1 T=1 DEBUG=128", "style global written"]),
  ("re.Scanner", ["open", "functions __init__ scan", "silent"]),
  ("re._constants._NamedIntConstant", ["below int", "open __dict__", "functions __repr__",
  "statics __new__", "constant __reduce__ None", "silent"]),
  ("re._parser.State", ["open", "functions __init__ opengroup closegroup checkgroup
  checklookbehindgroup", "properties groups", "silent"]),
  ("re._parser.SubPattern", ["open", "functions __init__ dump __repr__ __len__ __delitem__
  __getitem__ __setitem__ insert append getwidth", "silent"]),
  ("re._parser.Tokenizer", ["open", "functions __init__ _Tokenizer__next=re._parser:Tokenizer.__next
  match get getwhile getuntil tell seek error checkgroupname", "properties pos", "silent"]),
  ("re.error", ["below Exception", "open __weakref__",
  "functions __init__=re._constants:error.__init__"]),
  ("shlex.shlex", ["open", "functions __init__ push_token push_source pop_source get_token
  read_token sourcehook error_leader __iter__ __next__", "properties punctuation_chars"]),
  ("string.Formatter", ["open", "functions format vformat _vformat get_value check_unused_args
  format_field convert_field parse get_field", "silent"]),
  ("string.Template", ["open", "functions __init__ _invalid substitute safe_substitute is_valid
  get_identifiers", "class-functions __init_subclass__", "holders pattern=re.Pattern",
  "members flags=re.RegexFlag.IGNORECASE", "constant delimiter '$'",
  "constant idpattern '(?a:[_a-z][_a-z0-9]*)'", "constant braceidpattern None",
  "part pattern.flags 98", "part pattern.groupindex object('mappingproxy')",
  "part pattern.groups 4",
  "part pattern.pattern '\\n            \\\\$(?:\\n              (?P<escaped>\\\\$)  |   # Esc",
  "|ape sequence of two delimiters\\n              (?P<named>(?a:[_a-z][_a-z0-9]*))       |   ",
  "|# delimiter and a Python identifier\\n              \x7b(?P<braced>(?a:[_a-z][_a-z0-9]*))",
  "|\x7d |   # delimiter and a braced identifier\\n              (?P<invalid>)             # O",
  "|ther ill-formed delimiter exprs\\n            )\\n            '"]),
  ("struct.error", ["below Exception", "open __weakref__", "silent"]),
  ("textwrap.TextWrapper", ["open", "functions __init__ _munge_whitespace _split
  _fix_sentence_endings _handle_long_word _wrap_chunks _split_chunks wrap fill",
  "holders wordsep_re=re.Pattern wordsep_simple_re=re.Pattern sentence_end_re=re.Pattern",
  "constant unicode_whitespace_trans \x7b9: 32, 10: 32, 11: 32, 12: 32, 13: 32, 32: 32\x7d",
  "part wordsep_re.flags 96", "part wordsep_re.groups 1",
  "part wordsep_re.pattern '\\n        ( # any whitespace\\n          [\\\\\\t\\\\\\n\\\\\\x0b",
  "|\\\\\\x0c\\\\\\r\\\\ ]+\\n        | # em-dash between words\\n          (?<=[\\\\w!\"\\\\",
  "|\\'&.,?]) -\x7b2,\x7d (?=\\\\w)\\n        | # word, possibly hyphenated\\n          [^\\\\",
  "|\\t\\\\\\n\\\\\\x0b\\\\\\x0c\\\\\\r\\\\ ]+? (?:\\n            # hyphenated word\\n        ",
  "|      -(?: (?<=[^\\\\d\\\\W]\x7b2\x7d-) | (?<=[^\\\\d\\\\W]-[^\\\\d\\\\W]-))\\n           ",
  "|   (?= [^\\\\d\\\\W] -? [^\\\\d\\\\W])\\n            | # end of word\\n              (?=[",
  "|\\\\\\t\\\\\\n\\\\\\x0b\\\\\\x0c\\\\\\r\\\\ ]|\\\\Z)\\n            | # em-dash\\n         ",
  "|     (?<=[\\\\w!\"\\\\\\'&.,?]) (?=-\x7b2,\x7d\\\\w)\\n            )\\n        )'",
  "part wordsep_simple_re.groups 1",
  "part wordsep_simple_re.pattern '([\\\\\\t\\\\\\n\\\\\\x0b\\\\\\x0c\\\\\\r\\\\ ]+)'",
  "part sentence_end_re.pattern '[a-z][\\\\.\\\\!\\\\?][\\\\\"\\\\\\']?\\\\Z'"]),
  ("unicodedata.UCD", ["shown unicodedata.UCD", "operations __getattribute__", "methods decimal
  digit numeric category bidirectional combining mirrored east_asian_width decomposition name lookup
  is_normalized normalize", "slots unidata_version", "silent"])]

/-! ### Coders of character sets -/

/-- The character sets of one byte whose modules keep a table to encode with. -/
def tabledCharsets : List String := [
  "cp037", "cp1006", "cp1026", "cp1140", "cp1250", "cp1251", "cp1252", "cp1253", "cp1254",
  "cp1255", "cp1256", "cp1257", "cp1258", "cp273", "cp424", "cp500", "cp720", "cp856", "cp874",
  "cp875", "hp_roman8", "iso8859_1", "iso8859_10", "iso8859_11", "iso8859_13", "iso8859_14",
  "iso8859_15", "iso8859_16", "iso8859_2", "iso8859_3", "iso8859_4", "iso8859_5", "iso8859_6",
  "iso8859_7", "iso8859_8", "iso8859_9", "koi8_r", "koi8_t", "koi8_u", "kz1048", "mac_croatian",
  "mac_cyrillic", "mac_farsi", "mac_greek", "mac_iceland", "mac_latin2", "mac_roman",
  "mac_romanian", "mac_turkish", "palmos", "ptcp154", "tis_620"]

/-- The character sets of one byte whose modules keep maps. -/
def mappedCharsets : List String := [
  "cp1125", "cp437", "cp737", "cp775", "cp850", "cp852", "cp855", "cp857", "cp858", "cp860",
  "cp861", "cp862", "cp863", "cp864", "cp865", "cp866", "cp869", "mac_arabic"]

/-- The character sets of several bytes. -/
def multibyteCharsets : List String := [
  "big5", "big5hkscs", "cp932", "cp949", "cp950", "euc_jis_2004", "euc_jisx0213", "euc_jp",
  "euc_kr", "gb18030", "gb2312", "gbk", "hz", "iso2022_jp", "iso2022_jp_1", "iso2022_jp_2",
  "iso2022_jp_2004", "iso2022_jp_3", "iso2022_jp_ext", "iso2022_kr", "johab", "shift_jis",
  "shift_jis_2004", "shift_jisx0213"]

/-- The module of the coder with a name. -/
def coderModule (name : String) : String := "encodings." ++ name

/-- What stands in the module of a character set of one byte: what it keeps as a charset, and more. -/
def charsetLines (kept : String) (more : List String) : List String :=
  ["charset " ++ kept, "functions getregentry",
    "classes Codec IncrementalDecoder IncrementalEncoder StreamReader StreamWriter"] ++ more ++
    ["modules codecs=codecs"]

/-- The modules of the character sets of one byte. -/
def charsetModules : List (String × List String) :=
  (tabledCharsets.map fun name => (coderModule name,
    charsetLines "decoding_table" ["objects encoding_table=EncodingMap"])) ++
  mappedCharsets.map fun name => (coderModule name,
    charsetLines "decoding_map decoding_table encoding_map" [])

/-- The classes of a coder that goes from character to character. -/
def coderClasses (name : String) : List (String × List String) :=
  let own := coderModule name
  [(own ++ ".Codec", ["below codecs.Codec", "functions encode decode", "silent"]),
    (own ++ ".IncrementalDecoder", ["below codecs.IncrementalDecoder", "functions decode", "silent"]),
    (own ++ ".IncrementalEncoder", ["below codecs.IncrementalEncoder", "functions encode", "silent"]),
    (own ++ ".StreamReader",
      ["above " ++ own ++ ".Codec codecs.StreamReader codecs.Codec object", "silent"]),
    (own ++ ".StreamWriter",
      ["above " ++ own ++ ".Codec codecs.StreamWriter codecs.Codec object", "silent"])]

/-- The classes of the coder of a character set of several bytes. -/
def multibyteClasses (name : String) : List (String × List String) :=
  let own := coderModule name
  let rest := ["open", "objects codec=_multibytecodec.MultibyteCodec", "silent"]
  let coder (part : String) := (own ++ "." ++ part,
    ("above _multibytecodec.Multibyte" ++ part ++ " codecs." ++ part ++ " object") :: rest)
  let stream (part : String) := (own ++ "." ++ part,
    ("above " ++ own ++ ".Codec _multibytecodec.Multibyte" ++ part ++ " codecs." ++ part ++
      " codecs.Codec object") :: rest)
  [(own ++ ".Codec", ["below codecs.Codec", "builtins encode decode", "silent"]),
    coder "IncrementalDecoder", coder "IncrementalEncoder", stream "StreamReader",
    stream "StreamWriter"]

/-- The classes of the coders that differ in nothing but their modules. -/
def charsetClasses : List (String × List String) :=
  (tabledCharsets ++ mappedCharsets ++ ["punycode", "rot_13", "undefined"]).flatMap coderClasses ++
    multibyteCharsets.flatMap multibyteClasses

end FragmentWeaver.Standard
