/-!
# Listing: mail

What stands in the modules and classes for mail.
-/

namespace FragmentWeaver.Standard

/-- The modules for mail. -/
def mailModules : List (String × List String) := [
  ("email", ["package", "functions message_from_binary_file message_from_bytes message_from_file
  message_from_string", "exports base64mime charset encoders errors feedparser generator header
  iterators message message_from_file message_from_binary_file message_from_string
  message_from_bytes mime parser quoprimime utils"]),
  ("email._encoded_words", ["functions decode decode_b decode_q encode encode_b encode_q len_b
  len_q", "classes _QByteMap", "objects _q_byte_map=email._encoded_words._QByteMap",
  "holders _q_byte_subber=functools.partial", "modules base64= binascii= errors=email. functools=
  re=", "constant _cte_decoders \x7b'q': function(...), 'b': function(...)\x7d",
  "constant _cte_encode_length \x7b'q': function(...), 'b': function(...)\x7d",
  "constant _cte_encoders \x7b'q': function(...), 'b': function(...)\x7d",
  "constant ascii_letters 'abcdefghijklmnopqrstuvwxyzABCDEFGHIJKLMNOPQRSTUVWXYZ'",
  "constant digits '0123456789'", "exports decode_q encode_q decode_b encode_b len_q len_b decode
  encode", "part _q_byte_subber.args (object('function'),)",
  "part _q_byte_subber.keywords \x7b\x7d"]),
  ("email._header_value_parser", ["functions _check_for_early_dl_end _find_mime_parameters
  _fold_as_ew _fold_mime_parameters _get_ptext_to_endchars _refold_parse_tree
  _steal_trailing_WSP_if_exists _validate_xtext get_addr_spec get_address get_address_list
  get_angle_addr get_atext get_atom get_attribute get_attrtext get_bare_quoted_string get_cfws
  get_comment get_display_name get_domain get_domain_literal get_dot_atom get_dot_atom_text
  get_dtext get_encoded_word get_extended_attribute get_extended_attrtext get_fws get_group
  get_group_list get_invalid_mailbox get_invalid_parameter get_local_part get_mailbox
  get_mailbox_list get_msg_id get_name_addr get_no_fold_literal get_obs_local_part get_obs_route
  get_parameter get_phrase get_qcontent get_qp_ctext get_quoted_string get_section get_token
  get_ttext get_unstructured get_value get_word parse_content_disposition_header
  parse_content_transfer_encoding_header parse_content_type_header parse_message_id
  parse_mime_parameters parse_mime_version quote_string",
  "builtins _non_printable_finder=:Pattern.findall _wsp_splitter=:Pattern.split", "classes AddrSpec
  Address AddressList AngleAddr Atom Attribute BareQuotedString CFWSList Comment ContentDisposition
  ContentTransferEncoding ContentType DisplayName Domain DomainLiteral DotAtom DotAtomText
  EWWhiteSpaceTerminal EncodedWord Group GroupList Header HeaderLabel InvalidMailbox
  InvalidMessageID InvalidParameter LocalPart MIMEVersion Mailbox MailboxList MessageID
  MimeParameters MsgID NameAddr NoFoldLiteral ObsLocalPart ObsRoute Parameter
  ParameterizedHeaderValue Phrase QuotedString Section Terminal Token TokenList
  UnstructuredTokenList Value ValueTerminal WhiteSpaceTerminal WhiteSpaceTokenList Word
  _InvalidEwError itemgetter=operator.", "objects ASPECIALS=set ATOM_ENDS=set ATTRIBUTE_ENDS=set
  CFWS_LEADER=set DOT_ATOM_ENDS=set EXTENDED_ATTRIBUTE_ENDS=set PHRASE_ENDS=set SPECIALS=set
  TOKEN_ENDS=set TSPECIALS=set WSP=set _non_atom_end_matcher=builtin_method
  _non_attribute_end_matcher=builtin_method _non_extended_attribute_end_matcher=builtin_method
  _non_token_end_matcher=builtin_method", "holders DOT=email._header_value_parser.ValueTerminal
  ListSeparator=email._header_value_parser.ValueTerminal
  RouteComponentMarker=email._header_value_parser.ValueTerminal rfc2047_matcher=re.Pattern",
  "modules _ew=email._encoded_words errors=email. re= sys= urllib= utils=email.",
  "constant hexdigits '0123456789abcdefABCDEF'", "part DOT.all_defects []", "part DOT.comments []",
  "part DOT.defects []", "part DOT.token_type 'dot'",
  "part DOT.value object('email._header_value_parser.ValueTerminal')",
  "part DOT.__dict__ \x7b'token_type': 'dot', 'defects': []\x7d",
  "part ListSeparator.all_defects []", "part ListSeparator.as_ew_allowed False",
  "part ListSeparator.comments []", "part ListSeparator.defects []",
  "part ListSeparator.syntactic_break False", "part ListSeparator.token_type 'list-separator'",
  "part ListSeparator.value object('email._header_value_parser.ValueTerminal')",
  "part ListSeparator.__dict__ \x7b'token_type': 'list-separator', 'defects': [], 'as_ew_allow",
  "|ed': False, 'syntactic_break': False\x7d", "part RouteComponentMarker.all_defects []",
  "part RouteComponentMarker.comments []", "part RouteComponentMarker.defects []",
  "part RouteComponentMarker.token_type 'route-component-marker'",
  "part RouteComponentMarker.value object('email._header_value_parser.ValueTerminal')",
  "part RouteComponentMarker.__dict__ \x7b'token_type': 'route-component-marker', 'defects': [",
  "|]\x7d", "part rfc2047_matcher.flags 104",
  "part rfc2047_matcher.pattern \"\\n   =\\\\?            # literal =?\\n   [^?]*          # c",
  "|harset\\n   \\\\?             # literal ?\\n   [qQbB]         # literal 'q' or 'b', case i",
  "|nsensitive\\n   \\\\?             # literal ?\\n  .*?             # encoded word\\n  \\\\?",
  "|=             # literal ?=\\n\""]),
  ("email._parseaddr", ["functions _parsedate_tz mktime_tz parsedate parsedate_tz quote",
  "classes AddressList AddrlistClass", "modules calendar= time=", "constant COMMASPACE ', '",
  "constant EMPTYSTRING ''", "constant SPACE ' '",
  "constant _daynames ['mon', 'tue', 'wed', 'thu', 'fri', 'sat', 'sun']",
  "constant _monthnames ['jan', 'feb', 'mar', 'apr', 'may', 'jun', 'jul', 'aug', 'sep', 'oct',",
  "| 'nov', 'dec', 'january', 'february', 'march', 'april', 'may', 'june', 'july', 'august', '",
  "|september', 'october', 'november', 'december']",
  "constant _timezones \x7b'UT': 0, 'UTC': 0, 'GMT': 0, 'Z': 0, 'AST': -400, 'ADT': -300, 'EST",
  "|': -500, 'EDT': -400, 'CST': -600, 'CDT': -500, 'MST': -700, 'MDT': -600, 'PST': -800, 'PD",
  "|T': -700\x7d", "exports mktime_tz parsedate parsedate_tz quote"]),
  ("email._policybase", ["functions _append_doc _extend_docstrings _has_surrogates=email.utils:",
  "classes Compat32 Policy _PolicyBase", "objects compat32=email._policybase.Compat32",
  "modules _charset=email.charset abc= header=email.", "exports Policy Compat32 compat32"]),
  ("email.base64mime", ["functions b64encode=base64: body_decode=email.base64mime:decode body_encode
  decode decodestring=email.base64mime:decode header_encode header_length",
  "builtins a2b_base64=binascii: b2a_base64=binascii:", "numbers MISC_LEN=7",
  "constant CRLF '\\r\\n'", "constant EMPTYSTRING ''", "constant NL '\\n'", "exports body_decode
  body_encode decode decodestring header_encode header_length"]),
  ("email.charset", ["functions _encode add_alias add_charset add_codec
  encode_7or8bit=email.encoders:", "classes Charset partial=functools.", "modules email=
  errors=email.", "numbers BASE64=2 QP=1 RFC2047_CHROME_LEN=7 SHORTEST=3",
  "constant ALIASES \x7b'latin_1': 'iso-8859-1', 'latin-1': 'iso-8859-1', 'latin_2': 'iso-8859",
  "|-2', 'latin-2': 'iso-8859-2', 'latin_3': 'iso-8859-3', 'latin-3': 'iso-8859-3', 'latin_4':",
  "| 'iso-8859-4', 'latin-4': 'iso-8859-4', 'latin_5': 'iso-8859-9', 'latin-5': 'iso-8859-9', ",
  "|'latin_6': 'iso-8859-10', 'latin-6': 'iso-8859-10', 'latin_7': 'iso-8859-13', 'latin-7': '",
  "|iso-8859-13', 'latin_8': 'iso-8859-14', 'latin-8': 'iso-8859-14', 'latin_9': 'iso-8859-15'",
  "|, 'latin-9': 'iso-8859-15', 'latin_10': 'iso-8859-16', 'latin-10': 'iso-8859-16', 'cp949':",
  "| 'ks_c_5601-1987', 'euc_jp': 'euc-jp', 'euc_kr': 'euc-kr', 'ascii': 'us-ascii'\x7d",
  "constant CHARSETS \x7b'iso-8859-1': (1, 1, None), 'iso-8859-2': (1, 1, None), 'iso-8859-3':",
  "| (1, 1, None), 'iso-8859-4': (1, 1, None), 'iso-8859-9': (1, 1, None), 'iso-8859-10': (1, ",
  "|1, None), 'iso-8859-13': (1, 1, None), 'iso-8859-14': (1, 1, None), 'iso-8859-15': (1, 1, ",
  "|None), 'iso-8859-16': (1, 1, None), 'windows-1252': (1, 1, None), 'viscii': (1, 1, None), ",
  "|'us-ascii': (None, None, None), 'big5': (2, 2, None), 'gb2312': (2, 2, None), 'euc-jp': (2",
  "|, None, 'iso-2022-jp'), 'shift_jis': (2, None, 'iso-2022-jp'), 'iso-2022-jp': (2, None, No",
  "|ne), 'koi8-r': (2, 2, None), 'utf-8': (3, 2, 'utf-8')\x7d",
  "constant CODEC_MAP \x7b'gb2312': 'eucgb2312_cn', 'big5': 'big5_tw', 'us-ascii': None\x7d",
  "constant DEFAULT_CHARSET 'us-ascii'", "constant EMPTYSTRING ''",
  "constant UNKNOWN8BIT 'unknown-8bit'", "constant __doc__ None", "exports Charset add_alias
  add_charset add_codec"]),
  ("email.contentmanager", ["functions _encode_base64 _encode_text _finalize_set _prepare_set
  get_and_fixup_unknown_message_content get_message_content get_non_text_content get_text_content
  set_bytes_content set_message_content set_text_content", "classes ContentManager",
  "holders raw_data_manager=email.contentmanager.ContentManager", "modules binascii= email=
  quoprimime=email.", "constant __doc__ None",
  "part raw_data_manager.get_handlers \x7b'text': object('function'), 'audio': object('functio",
  "|n'), 'image': object('function'), 'video': object('function'), 'application': object('func",
  "|tion'), 'message/rfc822': object('function'), 'message/external-body': object('function'),",
  "| 'message': object('function')\x7d",
  "part raw_data_manager.set_handlers \x7bstr: object('function'), email.message.Message: obje",
  "|ct('function'), bytes: object('function'), bytearray: object('function'), memoryview: obje",
  "|ct('function')\x7d"]),
  ("email.encoders", ["functions _bencode=base64:encodebytes _encodestring=quopri:encodestring
  _qencode encode_7or8bit encode_base64 encode_noop encode_quopri", "exports encode_7or8bit
  encode_base64 encode_noop encode_quopri"]),
  ("email.errors", ["classes BoundaryError CharsetError CloseBoundaryNotFoundDefect
  FirstHeaderLineIsContinuationDefect HeaderDefect HeaderMissingRequiredValue HeaderParseError
  InvalidBase64CharactersDefect InvalidBase64LengthDefect InvalidBase64PaddingDefect
  InvalidDateDefect InvalidHeaderDefect InvalidMultipartContentTransferEncodingDefect
  MalformedHeaderDefect=email.errors.MissingHeaderBodySeparatorDefect MessageDefect MessageError
  MessageParseError MisplacedEnvelopeHeaderDefect MissingHeaderBodySeparatorDefect
  MultipartConversionError MultipartInvariantViolationDefect NoBoundaryInMultipartDefect
  NonASCIILocalPartDefect NonPrintableDefect ObsoleteHeaderDefect StartBoundaryNotFoundDefect
  UndecodableBytesDefect"]),
  ("email.feedparser", ["classes BufferedSubFile BytesFeedParser FeedParser StringIO=_io.
  deque=collections.", "objects NeedMoreData=object compat32=email._policybase.Compat32",
  "holders NLCRE=re.Pattern NLCRE_bol=re.Pattern NLCRE_eol=re.Pattern headerRE=re.Pattern",
  "same NLCRE_crack=email.feedparser.NLCRE_bol", "modules errors=email. re=",
  "constant EMPTYSTRING ''", "constant NL '\\n'", "exports FeedParser BytesFeedParser",
  "part NLCRE.pattern '\\\\r\\\\n|\\\\r|\\\\n'", "part NLCRE_bol.groups 1",
  "part NLCRE_bol.pattern '(\\\\r\\\\n|\\\\r|\\\\n)'", "part NLCRE_eol.groups 1",
  "part NLCRE_eol.pattern '(\\\\r\\\\n|\\\\r|\\\\n)\\\\Z'", "part headerRE.groups 1",
  "part headerRE.pattern '^(From |[\\\\041-\\\\071\\\\073-\\\\176]*:|[\\\\t ])'"]),
  ("email.generator", ["functions _has_surrogates=email.utils: deepcopy=copy:",
  "classes BytesGenerator BytesIO=_io. DecodedGenerator Generator HeaderWriteError=email.errors.
  StringIO=_io.", "objects _make_boundary=method", "holders fcre=re.Pattern",
  "same NLCRE=email.feedparser.", "modules random= re= sys= time=", "numbers _width=19",
  "constant NL '\\n'", "constant UNDERSCORE '_'",
  "constant _FMT '[Non-text (%(type)s) part of message omitted, filename %(filename)s]'",
  "constant _fmt '%019d'", "exports Generator DecodedGenerator BytesGenerator",
  "part fcre.flags 40", "part fcre.pattern '^From '"]),
  ("email.header", ["functions _max_append=email.quoprimime: decode_header make_header",
  "classes Charset=email.charset. Header HeaderParseError=email.errors. _Accumulator
  _ValueFormatter", "holders USASCII=email.charset.Charset UTF8=email.charset.Charset
  _embedded_header=re.Pattern ecre=re.Pattern fcre=re.Pattern", "modules _charset=email.charset
  binascii= email= re=", "numbers MAXLINELEN=78", "constant BSPACE b' '", "constant EMPTYSTRING ''",
  "constant FWS ' \\t'", "constant NL '\\n'", "constant SPACE ' '", "constant SPACE8 '        '",
  "exports Header decode_header make_header", "part USASCII.body_encoding None",
  "part USASCII.header_encoding None", "part USASCII.input_charset 'us-ascii'",
  "part USASCII.input_codec None", "part USASCII.output_charset 'us-ascii'",
  "part USASCII.output_codec None",
  "part USASCII.__dict__ \x7b'input_charset': 'us-ascii', 'header_encoding': None, 'body_encod",
  "|ing': None, 'output_charset': 'us-ascii', 'input_codec': None, 'output_codec': None\x7d",
  "part UTF8.body_encoding 2", "part UTF8.header_encoding 3", "part UTF8.input_charset 'utf-8'",
  "part UTF8.input_codec 'utf-8'", "part UTF8.output_charset 'utf-8'",
  "part UTF8.output_codec 'utf-8'",
  "part UTF8.__dict__ \x7b'input_charset': 'utf-8', 'header_encoding': 3, 'body_encoding': 2, ",
  "|'output_charset': 'utf-8', 'input_codec': 'utf-8', 'output_codec': 'utf-8'\x7d",
  "part _embedded_header.pattern '\\\\n[^ \\\\t]+:'", "part ecre.flags 104",
  "part ecre.groupindex object('mappingproxy')", "part ecre.groups 3",
  "part ecre.pattern '\\n  =\\\\?                   # literal =?\\n  (?P<charset>[^?]*?)   # n",
  "|on-greedy up to the next ? is the charset\\n  \\\\?                    # literal ?\\n  (?P",
  "|<encoding>[qQbB])  # either a \"q\" or a \"b\", case insensitive\\n  \\\\?                ",
  "|    # literal ?\\n  (?P<encoded>.*?)      # non-greedy up to the next ?= is the encoded st",
  "|ring\\n  \\\\?=                   # literal ?=\\n  '",
  "part fcre.pattern '[\\\\041-\\\\176]+:$'"]),
  ("email.headerregistry", ["functions _reconstruct_header", "classes Address AddressHeader
  BaseHeader ContentDispositionHeader ContentTransferEncodingHeader ContentTypeHeader DateHeader
  Group HeaderRegistry MIMEVersionHeader MappingProxyType=mappingproxy MessageIDHeader
  ParameterizedMIMEHeader SingleAddressHeader UniqueAddressHeader UniqueDateHeader
  UniqueSingleAddressHeader UniqueUnstructuredHeader UnstructuredHeader", "modules errors=email.
  parser=email._header_value_parser utils=email.",
  "constant _default_header_map \x7b'subject': email.headerregistry.UniqueUnstructuredHeader, ",
  "|'date': email.headerregistry.UniqueDateHeader, 'resent-date': email.headerregistry.DateHea",
  "|der, 'orig-date': email.headerregistry.UniqueDateHeader, 'sender': email.headerregistry.Un",
  "|iqueSingleAddressHeader, 'resent-sender': email.headerregistry.SingleAddressHeader, 'to': ",
  "|email.headerregistry.UniqueAddressHeader, 'resent-to': email.headerregistry.AddressHeader,",
  "| 'cc': email.headerregistry.UniqueAddressHeader, 'resent-cc': email.headerregistry.Address",
  "|Header, 'bcc': email.headerregistry.UniqueAddressHeader, 'resent-bcc': email.headerregistr",
  "|y.AddressHeader, 'from': email.headerregistry.UniqueAddressHeader, 'resent-from': email.he",
  "|aderregistry.AddressHeader, 'reply-to': email.headerregistry.UniqueAddressHeader, 'mime-ve",
  "|rsion': email.headerregistry.MIMEVersionHeader, 'content-type': email.headerregistry.Conte",
  "|ntTypeHeader, 'content-disposition': email.headerregistry.ContentDispositionHeader, 'conte",
  "|nt-transfer-encoding': email.headerregistry.ContentTransferEncodingHeader, 'message-id': e",
  "|mail.headerregistry.MessageIDHeader\x7d"]),
  ("email.iterators", ["functions _structure body_line_iterator typed_subpart_iterator walk",
  "classes StringIO=_io.", "modules sys=", "exports body_line_iterator typed_subpart_iterator
  walk"]),
  ("email.message", ["functions _decode_uu _formatparam _parseparam _splitparam _unquotevalue
  decode_b=email._encoded_words:", "classes BytesIO=_io. Charset=email.charset. EmailMessage
  MIMEPart Message Policy=email._policybase. StringIO=_io.",
  "objects compat32=email._policybase.Compat32", "holders tspecials=re.Pattern",
  "modules _charset=email.charset binascii= errors=email. quopri= re= utils=email.",
  "constant SEMISPACE '; '", "exports Message EmailMessage",
  "part tspecials.pattern '[ \\\\(\\\\)<>@,;:\\\\\\\\\"/\\\\[\\\\]\\\\?=]'"]),
  ("email.mime", ["package", "constant __doc__ None"]),
  ("email.mime.application", ["classes MIMEApplication MIMENonMultipart=email.mime.nonmultipart.",
  "modules encoders=email.", "exports MIMEApplication"]),
  ("email.mime.audio", ["functions _aiff _au _wav _what rule", "classes BytesIO=_io. MIMEAudio
  MIMENonMultipart=email.mime.nonmultipart.", "modules encoders=email.",
  "constant _rules [function(...), function(...), function(...)]", "exports MIMEAudio"]),
  ("email.mime.base", ["classes MIMEBase", "modules email= message=email.", "exports MIMEBase"]),
  ("email.mime.image", ["functions _bmp _exr _gif _jpeg _pbm _pgm _png _ppm _rast _rgb _tiff _webp
  _what _xbm rule", "classes MIMEImage MIMENonMultipart=email.mime.nonmultipart.",
  "modules encoders=email.",
  "constant _rules [function(...), function(...), function(...), function(...), function(...),",
  "| function(...), function(...), function(...), function(...), function(...), function(...),",
  "| function(...), function(...)]", "exports MIMEImage"]),
  ("email.mime.message", ["classes MIMEMessage MIMENonMultipart=email.mime.nonmultipart.",
  "modules message=email.", "exports MIMEMessage"]),
  ("email.mime.multipart", ["classes MIMEBase=email.mime.base. MIMEMultipart",
  "exports MIMEMultipart"]),
  ("email.mime.nonmultipart", ["classes MIMEBase=email.mime.base. MIMENonMultipart",
  "modules errors=email.", "exports MIMENonMultipart"]),
  ("email.mime.text", ["classes Charset=email.charset. MIMENonMultipart=email.mime.nonmultipart.
  MIMEText", "exports MIMEText"]),
  ("email.parser", ["classes BytesFeedParser=email.feedparser. BytesHeaderParser BytesParser
  FeedParser=email.feedparser. HeaderParser Parser StringIO=_io. TextIOWrapper=_io.",
  "objects compat32=email._policybase.Compat32", "exports Parser HeaderParser BytesParser
  BytesHeaderParser FeedParser BytesFeedParser"]),
  ("email.policy", ["functions _extend_docstrings=email._policybase: _has_surrogates=email.utils:",
  "classes Compat32=email._policybase. EmailMessage=email.message. EmailPolicy
  HeaderRegistry=email.headerregistry. Policy=email._policybase.",
  "objects compat32=email._policybase.Compat32 default=email.policy.EmailPolicy",
  "holders HTTP=email.policy.EmailPolicy SMTP=email.policy.EmailPolicy
  SMTPUTF8=email.policy.EmailPolicy linesep_splitter=re.Pattern strict=email.policy.EmailPolicy",
  "same raw_data_manager=email.contentmanager.", "modules re= sys=", "exports Compat32 compat32
  Policy EmailPolicy default strict SMTP HTTP", "part HTTP.linesep '\\r\\n'",
  "part HTTP.max_line_length None",
  "part HTTP.__dict__ \x7b'linesep': '\\r\\n', 'max_line_length': None\x7d",
  "part SMTP.linesep '\\r\\n'", "part SMTP.__dict__ \x7b'linesep': '\\r\\n'\x7d",
  "part SMTPUTF8.linesep '\\r\\n'", "part SMTPUTF8.utf8 True",
  "part SMTPUTF8.__dict__ \x7b'linesep': '\\r\\n', 'utf8': True\x7d",
  "part linesep_splitter.pattern '\\\\n|\\\\r'", "part strict.raise_on_defect True",
  "part strict.__dict__ \x7b'raise_on_defect': True\x7d"]),
  ("email.quoprimime", ["functions _max_append _unquote_match body_check
  body_decode=email.quoprimime:decode body_encode body_length decode
  decodestring=email.quoprimime:decode header_check header_decode header_encode header_length quote
  unquote", "modules re=", "constant CRLF '\\r\\n'", "constant EMPTYSTRING ''", "constant NL '\\n'",
  "constant _QUOPRI_BODY_ENCODE_MAP ['=00', '=01', '=02', '=03', '=04', '=05', '=06', '=07', '",
  "|=08', '\\t', '\\n', '=0B', '=0C', '\\r', '=0E', '=0F', '=10', '=11', '=12', '=13', '=14', ",
  "|'=15', '=16', '=17', '=18', '=19', '=1A', '=1B', '=1C', '=1D', '=1E', '=1F', ' ', '!', '\"",
  "|', '#', '$', '%', '&', \"'\", '(', ')', '*', '+', ',', '-', '.', '/', '0', '1', '2', '3', ",
  "|'4', '5', '6', '7', '8', '9', ':', ';', '<', '=3D', '>', '?', '@', 'A', 'B', 'C', 'D', 'E'",
  "|, 'F', 'G', 'H', 'I', 'J', 'K', 'L', 'M', 'N', 'O', 'P', 'Q', 'R', 'S', 'T', 'U', 'V', 'W'",
  "|, 'X', 'Y', 'Z', '[', '\\\\', ']', '^', '_', '`', 'a', 'b', 'c', 'd', 'e', 'f', 'g', 'h', ",
  "|'i', 'j', 'k', 'l', 'm', 'n', 'o', 'p', 'q', 'r', 's', 't', 'u', 'v', 'w', 'x', 'y', 'z', ",
  "|'\x7b', '|', '\x7d', '~', '=7F', '=80', '=81', '=82', '=83', '=84', '=85', '=86', '=87', '",
  "|=88', '=89', '=8A', '=8B', '=8C', '=8D', '=8E', '=8F', '=90', '=91', '=92', '=93', '=94', ",
  "|'=95', '=96', '=97', '=98', '=99', '=9A', '=9B', '=9C', '=9D', '=9E', '=9F', '=A0', '=A1',",
  "| '=A2', '=A3', '=A4', '=A5', '=A6', '=A7', '=A8', '=A9', '=AA', '=AB', '=AC', '=AD', '=AE'",
  "|, '=AF', '=B0', '=B1', '=B2', '=B3', '=B4', '=B5', '=B6', '=B7', '=B8', '=B9', '=BA', '=BB",
  "|', '=BC', '=BD', '=BE', '=BF', '=C0', '=C1', '=C2', '=C3', '=C4', '=C5', '=C6', '=C7', '=C",
  "|8', '=C9', '=CA', '=CB', '=CC', '=CD', '=CE', '=CF', '=D0', '=D1', '=D2', '=D3', '=D4', '=",
  "|D5', '=D6', '=D7', '=D8', '=D9', '=DA', '=DB', '=DC', '=DD', '=DE', '=DF', '=E0', '=E1', '",
  "|=E2', '=E3', '=E4', '=E5', '=E6', '=E7', '=E8', '=E9', '=EA', '=EB', '=EC', '=ED', '=EE', ",
  "|'=EF', '=F0', '=F1', '=F2', '=F3', '=F4', '=F5', '=F6', '=F7', '=F8', '=F9', '=FA', '=FB',",
  "| '=FC', '=FD', '=FE', '=FF']",
  "constant _QUOPRI_BODY_MAP ['=00', '=01', '=02', '=03', '=04', '=05', '=06', '=07', '=08', '",
  "|\\t', '=0A', '=0B', '=0C', '=0D', '=0E', '=0F', '=10', '=11', '=12', '=13', '=14', '=15', ",
  "|'=16', '=17', '=18', '=19', '=1A', '=1B', '=1C', '=1D', '=1E', '=1F', ' ', '!', '\"', '#',",
  "| '$', '%', '&', \"'\", '(', ')', '*', '+', ',', '-', '.', '/', '0', '1', '2', '3', '4', '5",
  "|', '6', '7', '8', '9', ':', ';', '<', '=3D', '>', '?', '@', 'A', 'B', 'C', 'D', 'E', 'F', ",
  "|'G', 'H', 'I', 'J', 'K', 'L', 'M', 'N', 'O', 'P', 'Q', 'R', 'S', 'T', 'U', 'V', 'W', 'X', ",
  "|'Y', 'Z', '[', '\\\\', ']', '^', '_', '`', 'a', 'b', 'c', 'd', 'e', 'f', 'g', 'h', 'i', 'j",
  "|', 'k', 'l', 'm', 'n', 'o', 'p', 'q', 'r', 's', 't', 'u', 'v', 'w', 'x', 'y', 'z', '\x7b',",
  "| '|', '\x7d', '~', '=7F', '=80', '=81', '=82', '=83', '=84', '=85', '=86', '=87', '=88', '",
  "|=89', '=8A', '=8B', '=8C', '=8D', '=8E', '=8F', '=90', '=91', '=92', '=93', '=94', '=95', ",
  "|'=96', '=97', '=98', '=99', '=9A', '=9B', '=9C', '=9D', '=9E', '=9F', '=A0', '=A1', '=A2',",
  "| '=A3', '=A4', '=A5', '=A6', '=A7', '=A8', '=A9', '=AA', '=AB', '=AC', '=AD', '=AE', '=AF'",
  "|, '=B0', '=B1', '=B2', '=B3', '=B4', '=B5', '=B6', '=B7', '=B8', '=B9', '=BA', '=BB', '=BC",
  "|', '=BD', '=BE', '=BF', '=C0', '=C1', '=C2', '=C3', '=C4', '=C5', '=C6', '=C7', '=C8', '=C",
  "|9', '=CA', '=CB', '=CC', '=CD', '=CE', '=CF', '=D0', '=D1', '=D2', '=D3', '=D4', '=D5', '=",
  "|D6', '=D7', '=D8', '=D9', '=DA', '=DB', '=DC', '=DD', '=DE', '=DF', '=E0', '=E1', '=E2', '",
  "|=E3', '=E4', '=E5', '=E6', '=E7', '=E8', '=E9', '=EA', '=EB', '=EC', '=ED', '=EE', '=EF', ",
  "|'=F0', '=F1', '=F2', '=F3', '=F4', '=F5', '=F6', '=F7', '=F8', '=F9', '=FA', '=FB', '=FC',",
  "| '=FD', '=FE', '=FF']",
  "constant _QUOPRI_HEADER_MAP ['=00', '=01', '=02', '=03', '=04', '=05', '=06', '=07', '=08',",
  "| '=09', '=0A', '=0B', '=0C', '=0D', '=0E', '=0F', '=10', '=11', '=12', '=13', '=14', '=15'",
  "|, '=16', '=17', '=18', '=19', '=1A', '=1B', '=1C', '=1D', '=1E', '=1F', '_', '!', '=22', '",
  "|=23', '=24', '=25', '=26', '=27', '=28', '=29', '*', '+', '=2C', '-', '=2E', '/', '0', '1'",
  "|, '2', '3', '4', '5', '6', '7', '8', '9', '=3A', '=3B', '=3C', '=3D', '=3E', '=3F', '=40',",
  "| 'A', 'B', 'C', 'D', 'E', 'F', 'G', 'H', 'I', 'J', 'K', 'L', 'M', 'N', 'O', 'P', 'Q', 'R',",
  "| 'S', 'T', 'U', 'V', 'W', 'X', 'Y', 'Z', '=5B', '=5C', '=5D', '=5E', '=5F', '=60', 'a', 'b",
  "|', 'c', 'd', 'e', 'f', 'g', 'h', 'i', 'j', 'k', 'l', 'm', 'n', 'o', 'p', 'q', 'r', 's', 't",
  "|', 'u', 'v', 'w', 'x', 'y', 'z', '=7B', '=7C', '=7D', '=7E', '=7F', '=80', '=81', '=82', '",
  "|=83', '=84', '=85', '=86', '=87', '=88', '=89', '=8A', '=8B', '=8C', '=8D', '=8E', '=8F', ",
  "|'=90', '=91', '=92', '=93', '=94', '=95', '=96', '=97', '=98', '=99', '=9A', '=9B', '=9C',",
  "| '=9D', '=9E', '=9F', '=A0', '=A1', '=A2', '=A3', '=A4', '=A5', '=A6', '=A7', '=A8', '=A9'",
  "|, '=AA', '=AB', '=AC', '=AD', '=AE', '=AF', '=B0', '=B1', '=B2', '=B3', '=B4', '=B5', '=B6",
  "|', '=B7', '=B8', '=B9', '=BA', '=BB', '=BC', '=BD', '=BE', '=BF', '=C0', '=C1', '=C2', '=C",
  "|3', '=C4', '=C5', '=C6', '=C7', '=C8', '=C9', '=CA', '=CB', '=CC', '=CD', '=CE', '=CF', '=",
  "|D0', '=D1', '=D2', '=D3', '=D4', '=D5', '=D6', '=D7', '=D8', '=D9', '=DA', '=DB', '=DC', '",
  "|=DD', '=DE', '=DF', '=E0', '=E1', '=E2', '=E3', '=E4', '=E5', '=E6', '=E7', '=E8', '=E9', ",
  "|'=EA', '=EB', '=EC', '=ED', '=EE', '=EF', '=F0', '=F1', '=F2', '=F3', '=F4', '=F5', '=F6',",
  "| '=F7', '=F8', '=F9', '=FA', '=FB', '=FC', '=FD', '=FE', '=FF']",
  "constant _QUOPRI_MAP ['=00', '=01', '=02', '=03', '=04', '=05', '=06', '=07', '=08', '=09',",
  "| '=0A', '=0B', '=0C', '=0D', '=0E', '=0F', '=10', '=11', '=12', '=13', '=14', '=15', '=16'",
  "|, '=17', '=18', '=19', '=1A', '=1B', '=1C', '=1D', '=1E', '=1F', '=20', '=21', '=22', '=23",
  "|', '=24', '=25', '=26', '=27', '=28', '=29', '=2A', '=2B', '=2C', '=2D', '=2E', '=2F', '=3",
  "|0', '=31', '=32', '=33', '=34', '=35', '=36', '=37', '=38', '=39', '=3A', '=3B', '=3C', '=",
  "|3D', '=3E', '=3F', '=40', '=41', '=42', '=43', '=44', '=45', '=46', '=47', '=48', '=49', '",
  "|=4A', '=4B', '=4C', '=4D', '=4E', '=4F', '=50', '=51', '=52', '=53', '=54', '=55', '=56', ",
  "|'=57', '=58', '=59', '=5A', '=5B', '=5C', '=5D', '=5E', '=5F', '=60', '=61', '=62', '=63',",
  "| '=64', '=65', '=66', '=67', '=68', '=69', '=6A', '=6B', '=6C', '=6D', '=6E', '=6F', '=70'",
  "|, '=71', '=72', '=73', '=74', '=75', '=76', '=77', '=78', '=79', '=7A', '=7B', '=7C', '=7D",
  "|', '=7E', '=7F', '=80', '=81', '=82', '=83', '=84', '=85', '=86', '=87', '=88', '=89', '=8",
  "|A', '=8B', '=8C', '=8D', '=8E', '=8F', '=90', '=91', '=92', '=93', '=94', '=95', '=96', '=",
  "|97', '=98', '=99', '=9A', '=9B', '=9C', '=9D', '=9E', '=9F', '=A0', '=A1', '=A2', '=A3', '",
  "|=A4', '=A5', '=A6', '=A7', '=A8', '=A9', '=AA', '=AB', '=AC', '=AD', '=AE', '=AF', '=B0', ",
  "|'=B1', '=B2', '=B3', '=B4', '=B5', '=B6', '=B7', '=B8', '=B9', '=BA', '=BB', '=BC', '=BD',",
  "| '=BE', '=BF', '=C0', '=C1', '=C2', '=C3', '=C4', '=C5', '=C6', '=C7', '=C8', '=C9', '=CA'",
  "|, '=CB', '=CC', '=CD', '=CE', '=CF', '=D0', '=D1', '=D2', '=D3', '=D4', '=D5', '=D6', '=D7",
  "|', '=D8', '=D9', '=DA', '=DB', '=DC', '=DD', '=DE', '=DF', '=E0', '=E1', '=E2', '=E3', '=E",
  "|4', '=E5', '=E6', '=E7', '=E8', '=E9', '=EA', '=EB', '=EC', '=ED', '=EE', '=EF', '=F0', '=",
  "|F1', '=F2', '=F3', '=F4', '=F5', '=F6', '=F7', '=F8', '=F9', '=FA', '=FB', '=FC', '=FD', '",
  "|=FE', '=FF']", "constant ascii_letters 'abcdefghijklmnopqrstuvwxyzABCDEFGHIJKLMNOPQRSTUVWXYZ'",
  "constant digits '0123456789'", "constant hexdigits '0123456789abcdefABCDEF'",
  "exports body_decode body_encode body_length decode decodestring header_decode header_encode
  header_length quote unquote"]),
  ("email.utils", ["functions _check_parenthesis _format_timetuple_and_zone _has_surrogates
  _parsedate_tz=email._parseaddr: _sanitize collapse_rfc2231_value decode_params decode_rfc2231
  encode_rfc2231 format_datetime formataddr formatdate getaddresses localtime make_msgid
  mktime_tz=email._parseaddr: parseaddr parsedate=email._parseaddr: parsedate_to_datetime
  parsedate_tz=email._parseaddr: quote=email._parseaddr: unquote", "classes Charset=email.charset.
  _AddressList=email._parseaddr.AddressList", "holders escapesre=re.Pattern
  rfc2231_continuation=re.Pattern specialsre=re.Pattern", "modules datetime= os= random= re= socket=
  time= urllib=", "constant COMMASPACE ', '", "constant CRLF '\\r\\n'", "constant EMPTYSTRING ''",
  "constant TICK \"'\"", "constant UEMPTYSTRING ''", "exports collapse_rfc2231_value decode_params
  decode_rfc2231 encode_rfc2231 formataddr formatdate format_datetime getaddresses make_msgid
  mktime_tz parseaddr parsedate parsedate_tz parsedate_to_datetime unquote",
  "part escapesre.pattern '[\\\\\\\\\"]'", "part rfc2231_continuation.flags 256",
  "part rfc2231_continuation.groupindex object('mappingproxy')",
  "part rfc2231_continuation.groups 3",
  "part rfc2231_continuation.pattern '^(?P<name>\\\\w+)\\\\*((?P<num>[0-9]+)\\\\*?)?$'",
  "part specialsre.pattern '[][\\\\\\\\()<>@,:;\".]'"]),
  ("mailbox", ["functions _create_carefully _create_temporary _lock_file _sync_close _sync_flush
  _unlock_file", "classes Babyl BabylMessage Error ExternalClashError FormatError
  GenericAlias=types. MH MHMessage MMDF MMDFMessage Mailbox Maildir MaildirMessage Message
  NoSuchMailboxError NotEmptyError _PartialFile _ProxyFile _mboxMMDF _mboxMMDFMessage
  _singlefileMailbox mbox mboxMessage", "modules calendar= contextlib= copy= email= errno= fcntl=
  io= os= socket= time= warnings=", "constant linesep b'\\n'", "exports Mailbox Maildir mbox MH
  Babyl MMDF Message MaildirMessage mboxMessage MHMessage BabylMessage MMDFMessage Error
  NoSuchMailboxError NotEmptyError ExternalClashError FormatError"]),
  ("mailcap", ["functions _readmailcapfile findmatch findparam getcaps lineno_sort_key
  listmailcapfiles lookup parsefield parseline readmailcapfile show subst test",
  "classes UnsafeMailcapInput", "objects _find_unsafe=builtin_method", "modules os= re= warnings=",
  "constant _DEPRECATION_MSG 'The \x7bname\x7d module is deprecated and will be removed in Pyt",
  "|hon \x7bremove\x7d. See the mimetypes module for an alternative.'", "exports getcaps
  findmatch"]),
  ("mimetypes", ["functions _default_mime_types _main add_type guess_all_extensions guess_extension
  guess_type init read_mime_types", "classes MimeTypes", "modules os= posixpath= sys= urllib=",
  "constant _common_types_default \x7b'.rtf': 'application/rtf', '.midi': 'audio/midi', '.mid'",
  "|: 'audio/midi', '.jpg': 'image/jpg', '.pict': 'image/pict', '.pct': 'image/pict', '.pic': ",
  "|'image/pict', '.webp': 'image/webp', '.xul': 'text/xul'\x7d", "constant _db None",
  "constant _encodings_map_default \x7b'.gz': 'gzip', '.Z': 'compress', '.bz2': 'bzip2', '.xz'",
  "|: 'xz', '.br': 'br'\x7d", "constant _mimetypes_read_windows_registry None",
  "constant _suffix_map_default \x7b'.svgz': '.svg.gz', '.tgz': '.tar.gz', '.taz': '.tar.gz', ",
  "|'.tz': '.tar.gz', '.tbz2': '.tar.bz2', '.txz': '.tar.xz'\x7d", "constant _winreg None",
  "constant encodings_map \x7b'.gz': 'gzip', '.Z': 'compress', '.bz2': 'bzip2', '.xz': 'xz', '",
  "|.br': 'br'\x7d", "constant inited False",
  "constant knownfiles ['/etc/mime.types', '/etc/httpd/mime.types', '/etc/httpd/conf/mime.type",
  "|s', '/etc/apache/mime.types', '/etc/apache2/mime.types', '/usr/local/etc/httpd/conf/mime.t",
  "|ypes', '/usr/local/lib/netscape/mime.types', '/usr/local/etc/httpd/conf/mime.types', '/usr",
  "|/local/etc/mime.types']", "exports knownfiles inited MimeTypes guess_type guess_all_extensions
  guess_extension add_type init read_mime_types suffix_map encodings_map types_map common_types",
  "same common_types=mimetypes._common_types_default suffix_map=mimetypes._suffix_map_default
  types_map=mimetypes._types_map_default", "objects _types_map_default=dict"])]

/-- The classes for mail. -/
def mailClasses : List (String × List String) := [
  ("email._encoded_words._QByteMap", ["below dict", "open", "functions __missing__",
  "constant safe b'-!*+/abcdefghijklmnopqrstuvwxyzABCDEFGHIJKLMNOPQRSTUVWXYZ0123456789'",
  "silent"]),
  ("email._header_value_parser.AddrSpec", ["below email._header_value_parser.TokenList",
  "properties local_part domain value addr_spec", "constant token_type 'addr-spec'",
  "constant as_ew_allowed False", "silent"]),
  ("email._header_value_parser.Address", ["below email._header_value_parser.TokenList",
  "properties display_name mailboxes all_mailboxes", "constant token_type 'address'", "silent"]),
  ("email._header_value_parser.AddressList", ["below email._header_value_parser.TokenList",
  "properties addresses mailboxes all_mailboxes", "constant token_type 'address-list'", "silent"]),
  ("email._header_value_parser.AngleAddr", ["below email._header_value_parser.TokenList",
  "properties local_part domain route addr_spec", "constant token_type 'angle-addr'", "silent"]),
  ("email._header_value_parser.Atom", ["below email._header_value_parser.TokenList",
  "constant token_type 'atom'", "silent"]),
  ("email._header_value_parser.Attribute", ["below email._header_value_parser.TokenList",
  "properties stripped_value", "constant token_type 'attribute'", "silent"]),
  ("email._header_value_parser.BareQuotedString", ["below email._header_value_parser.QuotedString",
  "functions __str__", "properties value", "constant token_type 'bare-quoted-string'", "silent"]),
  ("email._header_value_parser.CFWSList", ["below email._header_value_parser.WhiteSpaceTokenList",
  "constant token_type 'cfws'", "silent"]),
  ("email._header_value_parser.Comment", ["below email._header_value_parser.WhiteSpaceTokenList",
  "functions __str__ quote", "properties content comments", "constant token_type 'comment'",
  "silent"]),
  ("email._header_value_parser.ContentDisposition", [
  "below email._header_value_parser.ParameterizedHeaderValue",
  "constant token_type 'content-disposition'", "constant as_ew_allowed False",
  "constant content_disposition None", "silent"]),
  ("email._header_value_parser.ContentTransferEncoding", [
  "below email._header_value_parser.TokenList", "constant token_type 'content-transfer-encoding'",
  "constant as_ew_allowed False", "constant cte '7bit'", "silent"]),
  ("email._header_value_parser.ContentType", [
  "below email._header_value_parser.ParameterizedHeaderValue", "constant token_type 'content-type'",
  "constant as_ew_allowed False", "constant maintype 'text'", "constant subtype 'plain'",
  "silent"]),
  ("email._header_value_parser.DisplayName", ["below email._header_value_parser.Phrase",
  "properties display_name value", "constant token_type 'display-name'",
  "constant ew_combine_allowed False", "silent"]),
  ("email._header_value_parser.Domain", ["below email._header_value_parser.TokenList",
  "properties domain", "constant token_type 'domain'", "constant as_ew_allowed False", "silent"]),
  ("email._header_value_parser.DomainLiteral", ["below email._header_value_parser.TokenList",
  "properties domain ip", "constant token_type 'domain-literal'", "constant as_ew_allowed False",
  "silent"]),
  ("email._header_value_parser.DotAtom", ["below email._header_value_parser.TokenList",
  "constant token_type 'dot-atom'", "silent"]),
  ("email._header_value_parser.DotAtomText", ["below email._header_value_parser.TokenList",
  "constant token_type 'dot-atom-text'", "constant as_ew_allowed True", "silent"]),
  ("email._header_value_parser.EWWhiteSpaceTerminal", [
  "below email._header_value_parser.WhiteSpaceTerminal", "functions __str__", "properties value",
  "silent"]),
  ("email._header_value_parser.EncodedWord", ["below email._header_value_parser.TokenList",
  "constant token_type 'encoded-word'", "constant cte None", "constant charset None",
  "constant lang None", "silent"]),
  ("email._header_value_parser.Group", ["below email._header_value_parser.TokenList",
  "properties mailboxes all_mailboxes display_name", "constant token_type 'group'", "silent"]),
  ("email._header_value_parser.GroupList", ["below email._header_value_parser.TokenList",
  "properties mailboxes all_mailboxes", "constant token_type 'group-list'", "silent"]),
  ("email._header_value_parser.Header", ["below email._header_value_parser.TokenList",
  "constant token_type 'header'", "silent"]),
  ("email._header_value_parser.HeaderLabel", ["below email._header_value_parser.TokenList",
  "constant token_type 'header-label'", "constant as_ew_allowed False", "silent"]),
  ("email._header_value_parser.InvalidMailbox", ["below email._header_value_parser.TokenList",
  "properties display_name local_part domain route addr_spec",
  "constant token_type 'invalid-mailbox'", "silent", "part local_part.fget object('function')",
  "part domain.fget object('function')", "part route.fget object('function')",
  "part addr_spec.fget object('function')"]),
  ("email._header_value_parser.InvalidMessageID", ["below email._header_value_parser.MessageID",
  "constant token_type 'invalid-message-id'", "silent"]),
  ("email._header_value_parser.InvalidParameter", ["below email._header_value_parser.Parameter",
  "constant token_type 'invalid-parameter'", "silent"]),
  ("email._header_value_parser.LocalPart", ["below email._header_value_parser.TokenList",
  "properties value local_part", "constant token_type 'local-part'", "constant as_ew_allowed False",
  "silent"]),
  ("email._header_value_parser.MIMEVersion", ["below email._header_value_parser.TokenList",
  "constant token_type 'mime-version'", "constant major None", "constant minor None", "silent"]),
  ("email._header_value_parser.Mailbox", ["below email._header_value_parser.TokenList",
  "properties display_name local_part domain route addr_spec", "constant token_type 'mailbox'",
  "silent"]),
  ("email._header_value_parser.MailboxList", ["below email._header_value_parser.TokenList",
  "properties mailboxes all_mailboxes", "constant token_type 'mailbox-list'", "silent"]),
  ("email._header_value_parser.MessageID", ["below email._header_value_parser.MsgID",
  "constant token_type 'message-id'", "silent"]),
  ("email._header_value_parser.MimeParameters", ["below email._header_value_parser.TokenList",
  "functions __str__", "properties params", "constant token_type 'mime-parameters'",
  "constant syntactic_break False", "silent"]),
  ("email._header_value_parser.MsgID", ["below email._header_value_parser.TokenList",
  "functions fold", "constant token_type 'msg-id'", "constant as_ew_allowed False", "silent"]),
  ("email._header_value_parser.NameAddr", ["below email._header_value_parser.TokenList",
  "properties display_name local_part domain route addr_spec", "constant token_type 'name-addr'",
  "silent"]),
  ("email._header_value_parser.NoFoldLiteral", ["below email._header_value_parser.TokenList",
  "constant token_type 'no-fold-literal'", "constant as_ew_allowed False", "silent"]),
  ("email._header_value_parser.ObsLocalPart", ["below email._header_value_parser.TokenList",
  "constant token_type 'obs-local-part'", "constant as_ew_allowed False", "silent"]),
  ("email._header_value_parser.ObsRoute", ["below email._header_value_parser.TokenList",
  "properties domains", "constant token_type 'obs-route'", "silent"]),
  ("email._header_value_parser.Parameter", ["below email._header_value_parser.TokenList",
  "properties section_number param_value", "constant token_type 'parameter'",
  "constant sectioned False", "constant extended False", "constant charset 'us-ascii'", "silent"]),
  ("email._header_value_parser.ParameterizedHeaderValue", [
  "below email._header_value_parser.TokenList", "properties params",
  "constant syntactic_break False", "silent"]),
  ("email._header_value_parser.Phrase", ["below email._header_value_parser.TokenList",
  "constant token_type 'phrase'", "silent"]),
  ("email._header_value_parser.QuotedString", ["below email._header_value_parser.TokenList",
  "properties content quoted_value stripped_value", "constant token_type 'quoted-string'",
  "silent"]),
  ("email._header_value_parser.Section", ["below email._header_value_parser.TokenList",
  "constant token_type 'section'", "constant number None", "silent"]),
  ("email._header_value_parser.Terminal", ["below str", "open", "functions __repr__ pprint _pp
  pop_trailing_ws __getnewargs__", "statics __new__", "properties all_defects comments",
  "constant as_ew_allowed True", "constant ew_combine_allowed True",
  "constant syntactic_break True", "silent"]),
  ("email._header_value_parser.Token", ["below email._header_value_parser.TokenList",
  "constant token_type 'token'", "constant encode_as_ew False", "silent"]),
  ("email._header_value_parser.TokenList", ["below list", "open", "functions __init__ __str__
  __repr__ startswith_fws fold pprint ppstr _pp", "properties value all_defects as_ew_allowed
  comments", "constant token_type None", "constant syntactic_break True",
  "constant ew_combine_allowed True", "silent"]),
  ("email._header_value_parser.UnstructuredTokenList", [
  "below email._header_value_parser.TokenList", "constant token_type 'unstructured'", "silent"]),
  ("email._header_value_parser.Value", ["below email._header_value_parser.TokenList",
  "properties stripped_value", "constant token_type 'value'", "silent"]),
  ("email._header_value_parser.ValueTerminal", ["below email._header_value_parser.Terminal",
  "functions startswith_fws", "properties value", "silent"]),
  ("email._header_value_parser.WhiteSpaceTerminal", ["below email._header_value_parser.Terminal",
  "functions startswith_fws", "properties value", "silent"]),
  ("email._header_value_parser.WhiteSpaceTokenList", ["below email._header_value_parser.TokenList",
  "properties value comments", "silent"]),
  ("email._header_value_parser.Word", ["below email._header_value_parser.TokenList",
  "constant token_type 'word'", "silent"]),
  ("email._header_value_parser._InvalidEwError", ["below email.errors.HeaderParseError"]),
  ("email._parseaddr.AddressList", ["below email._parseaddr.AddrlistClass", "functions __init__
  __len__ __add__ __iadd__ __sub__ __isub__ __getitem__"]),
  ("email._parseaddr.AddrlistClass", ["open", "functions __init__ gotonext getaddrlist getaddress
  getrouteaddr getaddrspec getdomain getdelimited getquote getcomment getdomainliteral getatom
  getphraselist"]),
  ("email._policybase.Compat32", ["below email._policybase.Policy", "kind abc.ABCMeta",
  "functions _sanitize_header header_source_parse header_store_parse header_fetch_parse fold
  fold_binary _fold", "constant mangle_from_ True"]),
  ("email._policybase.Policy", ["below email._policybase._PolicyBase", "kind abc.ABCMeta",
  "functions handle_defect register_defect header_max_count header_source_parse header_store_parse
  header_fetch_parse fold fold_binary", "numbers max_line_length=78",
  "constant raise_on_defect False", "constant linesep '\\n'", "constant cte_type '8bit'",
  "constant mangle_from_ False", "constant message_factory None",
  "part *.__isabstractmethod__ True", "of header_source_parse header_store_parse header_fetch_parse
  fold fold_binary", "part *.__dict__ \x7b'__isabstractmethod__': True\x7d", "of header_source_parse
  header_store_parse header_fetch_parse fold fold_binary"]),
  ("email._policybase._PolicyBase", ["open", "functions __init__ __repr__ clone __setattr__
  __add__"]),
  ("email.charset.Charset", ["open", "functions __init__ __repr__ __eq__ get_body_encoding
  get_output_charset header_encode header_encode_lines _get_encoder body_encode",
  "constant __hash__ None"]),
  ("email.contentmanager.ContentManager", ["open", "functions __init__ add_get_handler get_content
  add_set_handler set_content _find_set_handler", "silent"]),
  ("email.errors.BoundaryError", ["below email.errors.MessageParseError"]),
  ("email.errors.CharsetError", ["below email.errors.MessageError"]),
  ("email.errors.CloseBoundaryNotFoundDefect", ["below email.errors.MessageDefect"]),
  ("email.errors.FirstHeaderLineIsContinuationDefect", ["below email.errors.MessageDefect"]),
  ("email.errors.HeaderDefect", ["below email.errors.MessageDefect", "functions __init__"]),
  ("email.errors.HeaderMissingRequiredValue", ["below email.errors.HeaderDefect"]),
  ("email.errors.HeaderParseError", ["below email.errors.MessageParseError"]),
  ("email.errors.InvalidBase64CharactersDefect", ["below email.errors.MessageDefect"]),
  ("email.errors.InvalidBase64LengthDefect", ["below email.errors.MessageDefect"]),
  ("email.errors.InvalidBase64PaddingDefect", ["below email.errors.MessageDefect"]),
  ("email.errors.InvalidDateDefect", ["below email.errors.HeaderDefect"]),
  ("email.errors.InvalidHeaderDefect", ["below email.errors.HeaderDefect"]),
  ("email.errors.InvalidMultipartContentTransferEncodingDefect", [
  "below email.errors.MessageDefect"]),
  ("email.errors.MessageDefect", ["below ValueError", "open __weakref__", "functions __init__"]),
  ("email.errors.MessageError", ["below Exception", "open __weakref__"]),
  ("email.errors.MessageParseError", ["below email.errors.MessageError"]),
  ("email.errors.MisplacedEnvelopeHeaderDefect", ["below email.errors.MessageDefect"]),
  ("email.errors.MissingHeaderBodySeparatorDefect", ["below email.errors.MessageDefect"]),
  ("email.errors.MultipartConversionError", ["above email.errors.MessageError TypeError Exception
  BaseException object"]),
  ("email.errors.MultipartInvariantViolationDefect", ["below email.errors.MessageDefect"]),
  ("email.errors.NoBoundaryInMultipartDefect", ["below email.errors.MessageDefect"]),
  ("email.errors.NonASCIILocalPartDefect", ["below email.errors.HeaderDefect"]),
  ("email.errors.NonPrintableDefect", ["below email.errors.HeaderDefect", "functions __init__
  __str__"]),
  ("email.errors.ObsoleteHeaderDefect", ["below email.errors.HeaderDefect"]),
  ("email.errors.StartBoundaryNotFoundDefect", ["below email.errors.MessageDefect"]),
  ("email.errors.UndecodableBytesDefect", ["below email.errors.MessageDefect"]),
  ("email.feedparser.BufferedSubFile", ["open", "functions __init__ push_eof_matcher pop_eof_matcher
  close readline unreadline push pushlines __iter__ __next__"]),
  ("email.feedparser.BytesFeedParser", ["below email.feedparser.FeedParser", "functions feed"]),
  ("email.feedparser.FeedParser", ["open", "functions __init__ _set_headersonly feed _call_parse
  close _new_message _pop_message _parsegen _parse_headers"]),
  ("email.generator.BytesGenerator", ["below email.generator.Generator", "functions write
  _new_buffer _encode _write_headers _handle_text
  _writeBody=email.generator:BytesGenerator._handle_text", "class-functions _compile_re"]),
  ("email.generator.DecodedGenerator", ["below email.generator.Generator", "functions __init__
  _dispatch"]),
  ("email.generator.Generator", ["open", "functions __init__ write flatten clone _new_buffer _encode
  _write_lines _write _dispatch _write_headers _handle_text
  _writeBody=email.generator:Generator._handle_text _handle_multipart _handle_multipart_signed
  _handle_message_delivery_status _handle_message", "class-functions _make_boundary _compile_re"]),
  ("email.header.Header", ["open", "functions __init__ __str__ __eq__ append _nonctext encode
  _normalize", "silent", "constant __hash__ None"]),
  ("email.header._Accumulator", ["below list", "open", "functions __init__ push pop_from pop __len__
  __str__ reset is_onlyws part_count", "silent"]),
  ("email.header._ValueFormatter", ["open", "functions __init__ _str __str__ newline add_transition
  feed _maxlengths _ascii_split _append_chunk", "silent"]),
  ("email.headerregistry.Address", ["open", "functions __init__ __repr__ __str__ __eq__",
  "properties display_name username domain addr_spec", "silent", "constant __hash__ None"]),
  ("email.headerregistry.AddressHeader", ["open", "functions init", "class-functions parse",
  "statics value_parser", "properties groups addresses", "constant max_count None", "silent"]),
  ("email.headerregistry.BaseHeader", ["below str", "open", "functions init __reduce__ fold",
  "class-functions _reconstruct", "statics __new__", "properties name defects"]),
  ("email.headerregistry.ContentDispositionHeader", [
  "below email.headerregistry.ParameterizedMIMEHeader", "functions init",
  "statics value_parser=email._header_value_parser:parse_content_disposition_header",
  "properties content_disposition", "silent"]),
  ("email.headerregistry.ContentTransferEncodingHeader", ["open", "functions init",
  "class-functions parse",
  "statics value_parser=email._header_value_parser:parse_content_transfer_encoding_header",
  "properties cte", "numbers max_count=1", "silent"]),
  ("email.headerregistry.ContentTypeHeader", ["below email.headerregistry.ParameterizedMIMEHeader",
  "functions init", "statics value_parser=email._header_value_parser:parse_content_type_header",
  "properties maintype subtype content_type", "silent"]),
  ("email.headerregistry.DateHeader", ["open", "functions init", "class-functions parse",
  "statics value_parser=email._header_value_parser:get_unstructured", "properties datetime",
  "constant max_count None"]),
  ("email.headerregistry.Group", ["open", "functions __init__ __repr__ __str__ __eq__",
  "properties display_name addresses", "silent", "constant __hash__ None"]),
  ("email.headerregistry.HeaderRegistry", ["open", "functions __init__ map_to_type __getitem__
  __call__"]),
  ("email.headerregistry.MIMEVersionHeader", ["open", "functions init", "class-functions parse",
  "statics value_parser=email._header_value_parser:parse_mime_version", "properties major minor
  version", "numbers max_count=1", "silent"]),
  ("email.headerregistry.MessageIDHeader", ["open", "class-functions parse",
  "statics value_parser=email._header_value_parser:parse_message_id", "numbers max_count=1",
  "silent"]),
  ("email.headerregistry.ParameterizedMIMEHeader", ["open", "functions init",
  "class-functions parse", "properties params", "numbers max_count=1", "silent"]),
  ("email.headerregistry.SingleAddressHeader", ["below email.headerregistry.AddressHeader",
  "properties address", "silent"]),
  ("email.headerregistry.UniqueAddressHeader", ["below email.headerregistry.AddressHeader",
  "numbers max_count=1", "silent"]),
  ("email.headerregistry.UniqueDateHeader", ["below email.headerregistry.DateHeader",
  "numbers max_count=1", "silent"]),
  ("email.headerregistry.UniqueSingleAddressHeader", [
  "below email.headerregistry.SingleAddressHeader", "numbers max_count=1", "silent"]),
  ("email.headerregistry.UniqueUnstructuredHeader", [
  "below email.headerregistry.UnstructuredHeader", "numbers max_count=1", "silent"]),
  ("email.headerregistry.UnstructuredHeader", ["open", "class-functions parse",
  "statics value_parser=email._header_value_parser:get_unstructured", "constant max_count None",
  "silent"]),
  ("email.message.EmailMessage", ["below email.message.MIMEPart", "functions set_content",
  "silent"]),
  ("email.message.MIMEPart", ["below email.message.Message", "functions __init__ as_string __str__
  is_attachment _find_body get_body iter_attachments iter_parts get_content set_content
  _make_multipart make_related make_alternative make_mixed _add_multipart add_related
  add_alternative add_attachment clear clear_content", "objects _body_types=set", "silent"]),
  ("email.message.Message", ["open", "functions __init__ __str__ as_string __bytes__ as_bytes
  is_multipart set_unixfrom get_unixfrom attach get_payload set_payload set_charset get_charset
  __len__ __getitem__ __setitem__ __delitem__ __contains__ __iter__ keys values items get set_raw
  raw_items get_all add_header replace_header get_content_type get_content_maintype
  get_content_subtype get_default_type set_default_type _get_params_preserve get_params get_param
  set_param del_param set_type get_filename get_boundary set_boundary get_content_charset
  get_charsets get_content_disposition walk=email.iterators:walk"]),
  ("email.mime.application.MIMEApplication", ["below email.mime.nonmultipart.MIMENonMultipart",
  "functions __init__"]),
  ("email.mime.audio.MIMEAudio", ["below email.mime.nonmultipart.MIMENonMultipart",
  "functions __init__"]),
  ("email.mime.base.MIMEBase", ["below email.message.Message", "functions __init__"]),
  ("email.mime.image.MIMEImage", ["below email.mime.nonmultipart.MIMENonMultipart",
  "functions __init__"]),
  ("email.mime.message.MIMEMessage", ["below email.mime.nonmultipart.MIMENonMultipart",
  "functions __init__"]),
  ("email.mime.multipart.MIMEMultipart", ["below email.mime.base.MIMEBase", "functions __init__"]),
  ("email.mime.nonmultipart.MIMENonMultipart", ["below email.mime.base.MIMEBase",
  "functions attach"]),
  ("email.mime.text.MIMEText", ["below email.mime.nonmultipart.MIMENonMultipart",
  "functions __init__"]),
  ("email.parser.BytesHeaderParser", ["below email.parser.BytesParser", "functions parse
  parsebytes", "silent"]),
  ("email.parser.BytesParser", ["open", "functions __init__ parse parsebytes", "silent"]),
  ("email.parser.HeaderParser", ["below email.parser.Parser", "functions parse parsestr",
  "silent"]),
  ("email.parser.Parser", ["open", "functions __init__ parse parsestr", "silent"]),
  ("email.policy.EmailPolicy", ["below email._policybase.Policy", "kind abc.ABCMeta",
  "functions __init__ header_max_count header_source_parse header_store_parse header_fetch_parse
  fold fold_binary _fold", "classes message_factory=email.message.EmailMessage",
  "objects content_manager=email.contentmanager.ContentManager",
  "holders header_factory=email.headerregistry.HeaderRegistry", "constant utf8 False",
  "constant refold_source 'long'", "part header_factory.base_class email.headerregistry.BaseHeader",
  "part header_factory.default_class email.headerregistry.UnstructuredHeader",
  "part header_factory.registry \x7b'subject': email.headerregistry.UniqueUnstructuredHeader, ",
  "|'date': email.headerregistry.UniqueDateHeader, 'resent-date': email.headerregistry.DateHea",
  "|der, 'orig-date': email.headerregistry.UniqueDateHeader, 'sender': email.headerregistry.Un",
  "|iqueSingleAddressHeader, 'resent-sender': email.headerregistry.SingleAddressHeader, 'to': ",
  "|email.headerregistry.UniqueAddressHeader, 'resent-to': email.headerregistry.AddressHeader,",
  "| 'cc': email.headerregistry.UniqueAddressHeader, 'resent-cc': email.headerregistry.Address",
  "|Header, 'bcc': email.headerregistry.UniqueAddressHeader, 'resent-bcc': email.headerregistr",
  "|y.AddressHeader, 'from': email.headerregistry.UniqueAddressHeader, 'resent-from': email.he",
  "|aderregistry.AddressHeader, 'reply-to': email.headerregistry.UniqueAddressHeader, 'mime-ve",
  "|rsion': email.headerregistry.MIMEVersionHeader, 'content-type': email.headerregistry.Conte",
  "|ntTypeHeader, 'content-disposition': email.headerregistry.ContentDispositionHeader, 'conte",
  "|nt-transfer-encoding': email.headerregistry.ContentTransferEncodingHeader, 'message-id': e",
  "|mail.headerregistry.MessageIDHeader\x7d"]),
  ("mailbox.Babyl", ["below mailbox._singlefileMailbox", "functions __init__ add remove __setitem__
  get_message get_bytes get_file get_labels _generate_toc _pre_mailbox_hook _pre_message_hook
  _post_message_hook _install_message", "objects _special_labels=frozenset"]),
  ("mailbox.BabylMessage", ["below mailbox.Message", "functions __init__ get_labels set_labels
  add_label remove_label get_visible set_visible update_visible _explain_to",
  "constant _type_specific_attributes ['_labels', '_visible']"]),
  ("mailbox.Error", ["below Exception", "open __weakref__"]),
  ("mailbox.ExternalClashError", ["below mailbox.Error"]),
  ("mailbox.FormatError", ["below mailbox.Error"]),
  ("mailbox.MH", ["below mailbox.Mailbox", "functions __init__ add remove __setitem__ get_message
  get_bytes get_file iterkeys __contains__ __len__ lock unlock flush close list_folders get_folder
  add_folder remove_folder get_sequences set_sequences pack _dump_sequences"]),
  ("mailbox.MHMessage", ["below mailbox.Message", "functions __init__ get_sequences set_sequences
  add_sequence remove_sequence _explain_to", "constant _type_specific_attributes ['_sequences']"]),
  ("mailbox.MMDF", ["below mailbox._mboxMMDF", "functions __init__ _pre_message_hook
  _post_message_hook _generate_toc"]),
  ("mailbox.MMDFMessage", ["below mailbox._mboxMMDFMessage"]),
  ("mailbox.Mailbox", ["open", "functions __init__ add remove __delitem__ discard __setitem__ get
  __getitem__ get_message get_string get_bytes get_file iterkeys keys itervalues __iter__ values
  iteritems items __contains__ __len__ clear pop popitem update flush lock unlock close
  _string_to_bytes _dump_message", "class-functions __class_getitem__",
  "constant _append_newline False"]),
  ("mailbox.Maildir", ["below mailbox.Mailbox", "functions __init__ add remove discard __setitem__
  get_message get_bytes get_file iterkeys __contains__ __len__ flush lock unlock close list_folders
  get_folder add_folder remove_folder clean _create_tmp _refresh _lookup next", "numbers _count=1",
  "constant colon ':'"]),
  ("mailbox.MaildirMessage", ["below mailbox.Message", "functions __init__ get_subdir set_subdir
  get_flags set_flags add_flag remove_flag get_date set_date get_info set_info _explain_to",
  "constant _type_specific_attributes ['_subdir', '_info', '_date']"]),
  ("mailbox.Message", ["below email.message.Message", "functions __init__ _become_message
  _explain_to"]),
  ("mailbox.NoSuchMailboxError", ["below mailbox.Error"]),
  ("mailbox.NotEmptyError", ["below mailbox.Error"]),
  ("mailbox._PartialFile", ["below mailbox._ProxyFile", "functions __init__ tell seek _read
  close"]),
  ("mailbox._ProxyFile", ["open", "functions __init__ read read1 readline readlines __iter__ tell
  seek close _read __enter__ __exit__ readable writable seekable flush",
  "class-functions __class_getitem__", "properties closed"]),
  ("mailbox._mboxMMDF", ["below mailbox._singlefileMailbox", "functions get_message get_string
  get_bytes get_file _install_message", "constant _mangle_from_ True"]),
  ("mailbox._mboxMMDFMessage", ["below mailbox.Message", "functions __init__ get_from set_from
  get_flags set_flags add_flag remove_flag _explain_to",
  "constant _type_specific_attributes ['_from']"]),
  ("mailbox._singlefileMailbox", ["below mailbox.Mailbox", "functions __init__ add remove
  __setitem__ iterkeys __contains__ __len__ lock unlock flush _pre_mailbox_hook _pre_message_hook
  _post_message_hook close _lookup _append_message"]),
  ("mailbox.mbox", ["below mailbox._mboxMMDF", "functions __init__ _post_message_hook
  _generate_toc", "constant _mangle_from_ True", "constant _append_newline True"]),
  ("mailbox.mboxMessage", ["below mailbox._mboxMMDFMessage"]),
  ("mailcap.UnsafeMailcapInput", ["below Warning", "open __weakref__"]),
  ("mimetypes.MimeTypes", ["open", "functions __init__ add_type guess_type guess_all_extensions
  guess_extension read readfp read_windows_registry", "class-functions _read_windows_registry"])]

end FragmentWeaver.Standard
