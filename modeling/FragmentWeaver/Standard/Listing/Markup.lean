/-!
# Listing: markup

What stands in the modules and classes for markup.
-/

namespace FragmentWeaver.Standard

/-- The modules for markup. -/
def markupModules : List (String × List String) := [
  ("_elementtree", ["built-in", "builtins SubElement _set_factories",
  "classes Element=xml.etree.ElementTree. ParseError=xml.etree.ElementTree.
  TreeBuilder=xml.etree.ElementTree. XMLParser=xml.etree.ElementTree.", "constant __doc__ None"]),
  ("pyexpat", ["built-in", "builtins ErrorString ParserCreate",
  "classes ExpatError=xml.parsers.expat. XMLParserType=pyexpat.xmlparser
  error=xml.parsers.expat.ExpatError", "objects expat_CAPI=PyCapsule", "modules errors model",
  "numbers XML_PARAM_ENTITY_PARSING_ALWAYS=2 XML_PARAM_ENTITY_PARSING_NEVER=0
  XML_PARAM_ENTITY_PARSING_UNLESS_STANDALONE=1", "constant EXPAT_VERSION 'expat_2.5.0'",
  "constant features [('sizeof(XML_Char)', 1), ('sizeof(XML_LChar)', 1), ('XML_DTD', 0), ('XML",
  "|_CONTEXT_BYTES', 1024), ('XML_NS', 0), ('XML_BLAP_MAX_AMP', 100), ('XML_BLAP_ACT_THRES', 8",
  "|388608), ('XML_GE', 0)]", "constant native_encoding 'UTF-8'",
  "constant version_info (2, 5, 0)"]),
  ("pyexpat.errors", ["constant XML_ERROR_ABORTED 'parsing aborted'",
  "constant XML_ERROR_AMPLIFICATION_LIMIT_BREACH 'limit on input amplification factor (from DT",
  "|D and entities) breached'", "constant XML_ERROR_ASYNC_ENTITY 'asynchronous entity'",
  "constant XML_ERROR_ATTRIBUTE_EXTERNAL_ENTITY_REF 'reference to external entity in attribute",
  "|'", "constant XML_ERROR_BAD_CHAR_REF 'reference to invalid character number'",
  "constant XML_ERROR_BINARY_ENTITY_REF 'reference to binary entity'",
  "constant XML_ERROR_CANT_CHANGE_FEATURE_ONCE_PARSING 'cannot change setting once parsing has",
  "| begun'", "constant XML_ERROR_DUPLICATE_ATTRIBUTE 'duplicate attribute'",
  "constant XML_ERROR_ENTITY_DECLARED_IN_PE 'entity declared in parameter entity'",
  "constant XML_ERROR_EXTERNAL_ENTITY_HANDLING 'error in processing external entity reference'",
  "constant XML_ERROR_FEATURE_REQUIRES_XML_DTD 'requested feature requires XML_DTD support in ",
  "|Expat'", "constant XML_ERROR_FINISHED 'parsing finished'",
  "constant XML_ERROR_INCOMPLETE_PE 'incomplete markup in parameter entity'",
  "constant XML_ERROR_INCORRECT_ENCODING 'encoding specified in XML declaration is incorrect'",
  "constant XML_ERROR_INVALID_ARGUMENT 'invalid argument'",
  "constant XML_ERROR_INVALID_TOKEN 'not well-formed (invalid token)'",
  "constant XML_ERROR_JUNK_AFTER_DOC_ELEMENT 'junk after document element'",
  "constant XML_ERROR_MISPLACED_XML_PI 'XML or text declaration not at start of entity'",
  "constant XML_ERROR_NOT_STANDALONE 'document is not standalone'",
  "constant XML_ERROR_NOT_SUSPENDED 'parser not suspended'",
  "constant XML_ERROR_NO_BUFFER 'a successful prior call to function XML_GetBuffer is required",
  "|'", "constant XML_ERROR_NO_ELEMENTS 'no element found'",
  "constant XML_ERROR_NO_MEMORY 'out of memory'",
  "constant XML_ERROR_PARAM_ENTITY_REF 'illegal parameter entity reference'",
  "constant XML_ERROR_PARTIAL_CHAR 'partial character'",
  "constant XML_ERROR_PUBLICID 'illegal character(s) in public id'",
  "constant XML_ERROR_RECURSIVE_ENTITY_REF 'recursive entity reference'",
  "constant XML_ERROR_RESERVED_NAMESPACE_URI 'prefix must not be bound to one of the reserved ",
  "|namespace names'",
  "constant XML_ERROR_RESERVED_PREFIX_XML 'reserved prefix (xml) must not be undeclared or bou",
  "|nd to another namespace name'",
  "constant XML_ERROR_RESERVED_PREFIX_XMLNS 'reserved prefix (xmlns) must not be declared or u",
  "|ndeclared'", "constant XML_ERROR_SUSPENDED 'parser suspended'",
  "constant XML_ERROR_SUSPEND_PE 'cannot suspend in external parameter entity'",
  "constant XML_ERROR_SYNTAX 'syntax error'", "constant XML_ERROR_TAG_MISMATCH 'mismatched tag'",
  "constant XML_ERROR_TEXT_DECL 'text declaration not well-formed'",
  "constant XML_ERROR_UNBOUND_PREFIX 'unbound prefix'",
  "constant XML_ERROR_UNCLOSED_CDATA_SECTION 'unclosed CDATA section'",
  "constant XML_ERROR_UNCLOSED_TOKEN 'unclosed token'",
  "constant XML_ERROR_UNDECLARING_PREFIX 'must not undeclare prefix'",
  "constant XML_ERROR_UNDEFINED_ENTITY 'undefined entity'",
  "constant XML_ERROR_UNEXPECTED_STATE 'unexpected parser state - please send a bug report'",
  "constant XML_ERROR_UNKNOWN_ENCODING 'unknown encoding'",
  "constant XML_ERROR_XML_DECL 'XML declaration not well-formed'",
  "constant codes \x7b'out of memory': 1, 'syntax error': 2, 'no element found': 3, 'not well-",
  "|formed (invalid token)': 4, 'unclosed token': 5, 'partial character': 6, 'mismatched tag':",
  "| 7, 'duplicate attribute': 8, 'junk after document element': 9, 'illegal parameter entity ",
  "|reference': 10, 'undefined entity': 11, 'recursive entity reference': 12, 'asynchronous en",
  "|tity': 13, 'reference to invalid character number': 14, 'reference to binary entity': 15, ",
  "|'reference to external entity in attribute': 16, 'XML or text declaration not at start of ",
  "|entity': 17, 'unknown encoding': 18, 'encoding specified in XML declaration is incorrect':",
  "| 19, 'unclosed CDATA section': 20, 'error in processing external entity reference': 21, 'd",
  "|ocument is not standalone': 22, 'unexpected parser state - please send a bug report': 23, ",
  "|'entity declared in parameter entity': 24, 'requested feature requires XML_DTD support in ",
  "|Expat': 25, 'cannot change setting once parsing has begun': 26, 'unbound prefix': 27, 'mus",
  "|t not undeclare prefix': 28, 'incomplete markup in parameter entity': 29, 'XML declaration",
  "| not well-formed': 30, 'text declaration not well-formed': 31, 'illegal character(s) in pu",
  "|blic id': 32, 'parser suspended': 33, 'parser not suspended': 34, 'parsing aborted': 35, '",
  "|parsing finished': 36, 'cannot suspend in external parameter entity': 37, 'reserved prefix",
  "| (xml) must not be undeclared or bound to another namespace name': 38, 'reserved prefix (x",
  "|mlns) must not be declared or undeclared': 39, 'prefix must not be bound to one of the res",
  "|erved namespace names': 40, 'invalid argument': 41, 'a successful prior call to function X",
  "|ML_GetBuffer is required': 42, 'limit on input amplification factor (from DTD and entities",
  "|) breached': 43\x7d",
  "constant messages \x7b1: 'out of memory', 2: 'syntax error', 3: 'no element found', 4: 'not",
  "| well-formed (invalid token)', 5: 'unclosed token', 6: 'partial character', 7: 'mismatched",
  "| tag', 8: 'duplicate attribute', 9: 'junk after document element', 10: 'illegal parameter ",
  "|entity reference', 11: 'undefined entity', 12: 'recursive entity reference', 13: 'asynchro",
  "|nous entity', 14: 'reference to invalid character number', 15: 'reference to binary entity",
  "|', 16: 'reference to external entity in attribute', 17: 'XML or text declaration not at st",
  "|art of entity', 18: 'unknown encoding', 19: 'encoding specified in XML declaration is inco",
  "|rrect', 20: 'unclosed CDATA section', 21: 'error in processing external entity reference',",
  "| 22: 'document is not standalone', 23: 'unexpected parser state - please send a bug report",
  "|', 24: 'entity declared in parameter entity', 25: 'requested feature requires XML_DTD supp",
  "|ort in Expat', 26: 'cannot change setting once parsing has begun', 27: 'unbound prefix', 2",
  "|8: 'must not undeclare prefix', 29: 'incomplete markup in parameter entity', 30: 'XML decl",
  "|aration not well-formed', 31: 'text declaration not well-formed', 32: 'illegal character(s",
  "|) in public id', 33: 'parser suspended', 34: 'parser not suspended', 35: 'parsing aborted'",
  "|, 36: 'parsing finished', 37: 'cannot suspend in external parameter entity', 38: 'reserved",
  "| prefix (xml) must not be undeclared or bound to another namespace name', 39: 'reserved pr",
  "|efix (xmlns) must not be declared or undeclared', 40: 'prefix must not be bound to one of ",
  "|the reserved namespace names', 41: 'invalid argument', 42: 'a successful prior call to fun",
  "|ction XML_GetBuffer is required', 43: 'limit on input amplification factor (from DTD and e",
  "|ntities) breached'\x7d"]),
  ("pyexpat.model", ["numbers XML_CQUANT_NONE=0 XML_CQUANT_OPT=1 XML_CQUANT_PLUS=3 XML_CQUANT_REP=2
  XML_CTYPE_ANY=2 XML_CTYPE_CHOICE=5 XML_CTYPE_EMPTY=1 XML_CTYPE_MIXED=3 XML_CTYPE_NAME=4
  XML_CTYPE_SEQ=6"]),
  ("xml", ["package", "exports dom parsers sax etree"]),
  ("xml.dom", ["package", "functions getDOMImplementation=xml.dom.domreg:
  registerDOMImplementation=xml.dom.domreg:", "classes DOMException DomstringSizeErr
  HierarchyRequestErr IndexSizeErr InuseAttributeErr InvalidAccessErr InvalidCharacterErr
  InvalidModificationErr InvalidStateErr NamespaceErr NoDataAllowedErr NoModificationAllowedErr Node
  NotFoundErr NotSupportedErr SyntaxErr UserDataHandler ValidationErr WrongDocumentErr",
  "modules domreg", "numbers DOMSTRING_SIZE_ERR=2 HIERARCHY_REQUEST_ERR=3 INDEX_SIZE_ERR=1
  INUSE_ATTRIBUTE_ERR=10 INVALID_ACCESS_ERR=15 INVALID_CHARACTER_ERR=5 INVALID_MODIFICATION_ERR=13
  INVALID_STATE_ERR=11 NAMESPACE_ERR=14 NOT_FOUND_ERR=8 NOT_SUPPORTED_ERR=9 NO_DATA_ALLOWED_ERR=6
  NO_MODIFICATION_ALLOWED_ERR=7 SYNTAX_ERR=12 VALIDATION_ERR=16 WRONG_DOCUMENT_ERR=4",
  "constant EMPTY_NAMESPACE None", "constant EMPTY_PREFIX None",
  "constant XHTML_NAMESPACE 'http:\\x2f/www.w3.org/1999/xhtml'",
  "constant XMLNS_NAMESPACE 'http:\\x2f/www.w3.org/2000/xmlns/'",
  "constant XML_NAMESPACE 'http:\\x2f/www.w3.org/XML/1998/namespace'"]),
  ("xml.dom.NodeFilter", ["classes NodeFilter", "constant __doc__ None"]),
  ("xml.dom.domreg", ["functions _good_enough _parse_feature_string getDOMImplementation
  registerDOMImplementation", "modules sys=", "constant registered \x7b\x7d",
  "constant well_known_implementations \x7b'minidom': 'xml.dom.minidom', '4DOM': 'xml.dom.DOMI",
  "|mplementation'\x7d"]),
  ("xml.dom.expatbuilder", ["functions _append_child=xml.dom.minidom: _intern _parse_ns_name
  _set_attribute_node=xml.dom.minidom: makeBuilder parse parseFragment parseFragmentString
  parseString", "classes ElementInfo ExpatBuilder ExpatBuilderNS FilterCrutch
  FilterVisibilityController FragmentBuilder FragmentBuilderNS InternalSubsetExtractor Namespaces
  Node=xml.dom. NodeFilter=xml.dom.NodeFilter. ParseEscape Rejecter Skipper",
  "objects theDOMImplementation=xml.dom.minidom.DOMImplementation", "modules expat=xml.parsers.
  minidom=xml.dom. xmlbuilder=xml.dom.", "numbers CDATA_SECTION_NODE=4 DOCUMENT_NODE=9
  FILTER_ACCEPT=1 FILTER_INTERRUPT=4 FILTER_REJECT=2 FILTER_SKIP=3 TEXT_NODE=3",
  "constant EMPTY_NAMESPACE None", "constant EMPTY_PREFIX None",
  "constant XMLNS_NAMESPACE 'http:\\x2f/www.w3.org/2000/xmlns/'",
  "constant _ALLOWED_FILTER_RETURNS (1, 2, 3)",
  "constant _FRAGMENT_BUILDER_INTERNAL_SYSTEM_ID 'http:\\x2f/xml.python.org/entities/fragment-",
  "|builder/internal'",
  "constant _FRAGMENT_BUILDER_TEMPLATE '<!DOCTYPE wrapper\\n  %s [\\n  <!ENTITY fragment-build",
  "|er-internal\\n    SYSTEM \"http:\\x2f/xml.python.org/entities/fragment-builder/internal\">",
  "|\\n%s\\n]>\\n<wrapper %s\\n>&fragment-builder-internal;</wrapper>'",
  "constant _typeinfo_map \x7b'CDATA': xml.dom.minidom.TypeInfo(...), 'ENUM': xml.dom.minidom.",
  "|TypeInfo(...), 'ENTITY': xml.dom.minidom.TypeInfo(...), 'ENTITIES': xml.dom.minidom.TypeIn",
  "|fo(...), 'ID': xml.dom.minidom.TypeInfo(...), 'IDREF': xml.dom.minidom.TypeInfo(...), 'IDR",
  "|EFS': xml.dom.minidom.TypeInfo(...), 'NMTOKEN': xml.dom.minidom.TypeInfo(...), 'NMTOKENS':",
  "| xml.dom.minidom.TypeInfo(...)\x7d"]),
  ("xml.dom.minicompat", ["functions defproperty", "classes EmptyNodeList NodeList", "modules xml=",
  "constant StringTypes (str,)", "exports NodeList EmptyNodeList StringTypes defproperty"]),
  ("xml.dom.minidom", ["functions _append_child _clear_id_cache _clone_node _do_pulldom_parse
  _get_containing_element _get_containing_entref _get_elements_by_tagName_helper
  _get_elements_by_tagName_ns_helper _in_document _nssplit _set_attribute_node _write_data
  defproperty=xml.dom.minicompat: getDOMImplementation parse parseString", "classes Attr
  AttributeList=xml.dom.minidom.NamedNodeMap CDATASection CharacterData Childless Comment
  DOMImplementation DOMImplementationLS=xml.dom.xmlbuilder. Document DocumentFragment
  DocumentLS=xml.dom.xmlbuilder. DocumentType Element ElementInfo EmptyNodeList=xml.dom.minicompat.
  Entity Identified NamedNodeMap Node NodeList=xml.dom.minicompat. Notation ProcessingInstruction
  ReadOnlySequentialNamedNodeMap Text TypeInfo", "holders _no_type=xml.dom.minidom.TypeInfo",
  "modules domreg=xml.dom. io= xml=", "constant EMPTY_NAMESPACE None", "constant EMPTY_PREFIX None",
  "constant StringTypes (str,)", "constant XMLNS_NAMESPACE 'http:\\x2f/www.w3.org/2000/xmlns/'",
  "constant _nodeTypes_with_children (1, 5)", "part _no_type.name None",
  "part _no_type.namespace None"]),
  ("xml.dom.pulldom", ["functions parse parseString", "classes DOMEventStream ErrorHandler PullDOM
  SAX2DOM", "modules xml=", "numbers default_bufsize=16364", "constant CHARACTERS 'CHARACTERS'",
  "constant COMMENT 'COMMENT'", "constant END_DOCUMENT 'END_DOCUMENT'",
  "constant END_ELEMENT 'END_ELEMENT'", "constant IGNORABLE_WHITESPACE 'IGNORABLE_WHITESPACE'",
  "constant PROCESSING_INSTRUCTION 'PROCESSING_INSTRUCTION'",
  "constant START_DOCUMENT 'START_DOCUMENT'", "constant START_ELEMENT 'START_ELEMENT'",
  "constant __doc__ None"]),
  ("xml.dom.xmlbuilder", ["functions _name_xform", "classes DOMBuilder DOMBuilderFilter
  DOMEntityResolver DOMImplementationLS DOMInputSource DocumentLS Options", "modules copy= xml=",
  "exports DOMBuilder DOMEntityResolver DOMInputSource"]),
  ("xml.etree", ["package", "constant __doc__ None"]),
  ("xml.etree.ElementInclude", ["functions _include default_loader include urljoin=urllib.parse:",
  "classes FatalIncludeError LimitedRecursiveIncludeError", "modules ElementTree=xml.etree. copy=",
  "numbers DEFAULT_MAX_INCLUSION_DEPTH=6",
  "constant XINCLUDE '\x7bhttp:\\x2f/www.w3.org/2001/XInclude\x7d'",
  "constant XINCLUDE_FALLBACK '\x7bhttp:\\x2f/www.w3.org/2001/XInclude\x7dfallback'",
  "constant XINCLUDE_INCLUDE '\x7bhttp:\\x2f/www.w3.org/2001/XInclude\x7dinclude'",
  "constant __doc__ None"]),
  ("xml.etree.ElementPath", ["functions _is_wildcard_tag _prepare_tag find findall findtext
  get_parent_map iterfind prepare_child prepare_descendant prepare_parent prepare_predicate
  prepare_self prepare_star xpath_tokenizer", "classes _SelectorContext",
  "holders xpath_tokenizer_re=re.Pattern", "modules re=", "constant __doc__ None",
  "constant _cache \x7b\x7d",
  "constant ops \x7b'': function(...), '*': function(...), '.': function(...), '..': function(",
  "|...), '//': function(...), '[': function(...)\x7d", "part xpath_tokenizer_re.groups 2",
  "part xpath_tokenizer_re.pattern '(\\'[^\\']*\\'|\\\\\"[^\\\\\"]*\\\\\"|::|//?|\\\\.\\\\.|\\",
  "|\\(\\\\)|!=|[/.*:\\\\[\\\\]\\\\(\\\\)@=])|((?:\\\\\x7b[^\x7d]+\\\\\x7d)?[^/\\\\[\\\\]\\\\(",
  "|\\\\)@!=\\\\s]+)|\\\\s+'"]),
  ("xml.etree.ElementTree", ["functions Comment PI=xml.etree.ElementTree:ProcessingInstruction
  ProcessingInstruction XML XMLID _escape_attrib _escape_attrib_c14n _escape_attrib_html
  _escape_cdata _escape_cdata_c14n _get_writer _namespaces _raise_serialization_error
  _serialize_html _serialize_text _serialize_xml canonicalize dump
  fromstring=xml.etree.ElementTree:XML fromstringlist indent iselement iterparse parse
  register_namespace tostring tostringlist", "builtins SubElement=_elementtree:
  _set_factories=_elementtree:", "classes C14NWriterTarget Element ElementTree ParseError QName
  TreeBuilder XMLParser XMLPullParser _Element_Py=xml.etree.ElementTree.Element _ListDataStream",
  "objects HTML_EMPTY=set _looks_like_prefix_name=builtin_method", "modules ElementPath=xml.etree.
  collections= contextlib= io= re= sys= warnings= weakref=", "constant VERSION '1.3.0'",
  "constant _namespace_map \x7b'http:\\x2f/www.w3.org/XML/1998/namespace': 'xml', 'http:\\x2f/",
  "|www.w3.org/1999/xhtml': 'html', 'http:\\x2f/www.w3.org/1999/02/22-rdf-syntax-ns#': 'rdf', ",
  "|'http:\\x2f/schemas.xmlsoap.org/wsdl/': 'wsdl', 'http:\\x2f/www.w3.org/2001/XMLSchema': 'x",
  "|s', 'http:\\x2f/www.w3.org/2001/XMLSchema-instance': 'xsi', 'http:\\x2f/purl.org/dc/elemen",
  "|ts/1.1/': 'dc'\x7d",
  "constant _serialize \x7b'xml': function(...), 'html': function(...), 'text': function(...)",
  "|\x7d", "exports Comment dump Element ElementTree fromstring fromstringlist indent iselement
  iterparse parse ParseError PI ProcessingInstruction QName SubElement tostring tostringlist
  TreeBuilder VERSION XML XMLID XMLParser XMLPullParser register_namespace canonicalize
  C14NWriterTarget", "part _get_writer.__wrapped__ object('function')",
  "part _get_writer.__dict__ \x7b'__wrapped__': object('function')\x7d",
  "part register_namespace._namespace_map \x7b'http:\\x2f/www.w3.org/XML/1998/namespace': 'xml",
  "|', 'http:\\x2f/www.w3.org/1999/xhtml': 'html', 'http:\\x2f/www.w3.org/1999/02/22-rdf-synta",
  "|x-ns#': 'rdf', 'http:\\x2f/schemas.xmlsoap.org/wsdl/': 'wsdl', 'http:\\x2f/www.w3.org/2001",
  "|/XMLSchema': 'xs', 'http:\\x2f/www.w3.org/2001/XMLSchema-instance': 'xsi', 'http:\\x2f/pur",
  "|l.org/dc/elements/1.1/': 'dc'\x7d",
  "part register_namespace.__dict__ \x7b'_namespace_map': \x7b'http:\\x2f/www.w3.org/XML/1998/",
  "|namespace': 'xml', 'http:\\x2f/www.w3.org/1999/xhtml': 'html', 'http:\\x2f/www.w3.org/1999",
  "|/02/22-rdf-syntax-ns#': 'rdf', 'http:\\x2f/schemas.xmlsoap.org/wsdl/': 'wsdl', 'http:\\x2f",
  "|/www.w3.org/2001/XMLSchema': 'xs', 'http:\\x2f/www.w3.org/2001/XMLSchema-instance': 'xsi',",
  "| 'http:\\x2f/purl.org/dc/elements/1.1/': 'dc'\x7d\x7d"]),
  ("xml.etree.cElementTree", ["takes xml.etree.ElementTree", "constant __doc__ None"]),
  ("xml.parsers", ["package"]),
  ("xml.parsers.expat", ["takes pyexpat", "modules sys="]),
  ("xml.sax", ["package", "functions _create_parser make_parser parse parseString",
  "classes ContentHandler=xml.sax.handler. ErrorHandler=xml.sax.handler.
  InputSource=xml.sax.xmlreader. SAXException=xml.sax._exceptions.
  SAXNotRecognizedException=xml.sax._exceptions. SAXNotSupportedException=xml.sax._exceptions.
  SAXParseException=xml.sax._exceptions. SAXReaderNotAvailable=xml.sax._exceptions.",
  "modules _exceptions handler xmlreader", "numbers _false=0",
  "constant _key 'python.xml.sax.parser'", "constant default_parser_list ['xml.sax.expatreader']"]),
  ("xml.sax._exceptions", ["classes SAXException SAXNotRecognizedException SAXNotSupportedException
  SAXParseException SAXReaderNotAvailable"]),
  ("xml.sax.expatreader", ["functions create_parser", "builtins _mkproxy=_weakref:proxy",
  "classes AttributesImpl=xml.sax.xmlreader. AttributesNSImpl=xml.sax.xmlreader. ExpatLocator
  ExpatParser SAXException=xml.sax._exceptions. SAXNotRecognizedException=xml.sax._exceptions.
  SAXNotSupportedException=xml.sax._exceptions. SAXParseException=xml.sax._exceptions.
  SAXReaderNotAvailable=xml.sax._exceptions. _ClosedParser", "modules expat=xml.parsers.
  handler=xml.sax. saxutils=xml.sax. xmlreader=xml.sax.",
  "constant feature_external_ges 'http:\\x2f/xml.org/sax/features/external-general-entities'",
  "constant feature_external_pes 'http:\\x2f/xml.org/sax/features/external-parameter-entities'",
  "constant feature_namespace_prefixes 'http:\\x2f/xml.org/sax/features/namespace-prefixes'",
  "constant feature_namespaces 'http:\\x2f/xml.org/sax/features/namespaces'",
  "constant feature_string_interning 'http:\\x2f/xml.org/sax/features/string-interning'",
  "constant feature_validation 'http:\\x2f/xml.org/sax/features/validation'",
  "constant property_interning_dict 'http:\\x2f/www.python.org/sax/properties/interning-dict'",
  "constant property_xml_string 'http:\\x2f/xml.org/sax/properties/xml-string'",
  "constant version '0.20'"]),
  ("xml.sax.handler", ["classes ContentHandler DTDHandler EntityResolver ErrorHandler
  LexicalHandler",
  "constant all_features ['http:\\x2f/xml.org/sax/features/namespaces', 'http:\\x2f/xml.org/sa",
  "|x/features/namespace-prefixes', 'http:\\x2f/xml.org/sax/features/string-interning', 'http:",
  "|\\x2f/xml.org/sax/features/validation', 'http:\\x2f/xml.org/sax/features/external-general-",
  "|entities', 'http:\\x2f/xml.org/sax/features/external-parameter-entities']",
  "constant all_properties ['http:\\x2f/xml.org/sax/properties/lexical-handler', 'http:\\x2f/x",
  "|ml.org/sax/properties/dom-node', 'http:\\x2f/xml.org/sax/properties/declaration-handler', ",
  "|'http:\\x2f/xml.org/sax/properties/xml-string', 'http:\\x2f/www.python.org/sax/properties/",
  "|encoding', 'http:\\x2f/www.python.org/sax/properties/interning-dict']",
  "constant feature_external_ges 'http:\\x2f/xml.org/sax/features/external-general-entities'",
  "constant feature_external_pes 'http:\\x2f/xml.org/sax/features/external-parameter-entities'",
  "constant feature_namespace_prefixes 'http:\\x2f/xml.org/sax/features/namespace-prefixes'",
  "constant feature_namespaces 'http:\\x2f/xml.org/sax/features/namespaces'",
  "constant feature_string_interning 'http:\\x2f/xml.org/sax/features/string-interning'",
  "constant feature_validation 'http:\\x2f/xml.org/sax/features/validation'",
  "constant property_declaration_handler 'http:\\x2f/xml.org/sax/properties/declaration-handle",
  "|r'", "constant property_dom_node 'http:\\x2f/xml.org/sax/properties/dom-node'",
  "constant property_encoding 'http:\\x2f/www.python.org/sax/properties/encoding'",
  "constant property_interning_dict 'http:\\x2f/www.python.org/sax/properties/interning-dict'",
  "constant property_lexical_handler 'http:\\x2f/xml.org/sax/properties/lexical-handler'",
  "constant property_xml_string 'http:\\x2f/xml.org/sax/properties/xml-string'",
  "constant version '2.0beta'"]),
  ("xml.sax.saxutils", ["functions __dict_replace _gettextwriter escape prepare_input_source
  quoteattr unescape", "classes XMLFilterBase XMLGenerator", "modules codecs= handler=xml.sax. io=
  os= urllib= xmlreader=xml.sax."]),
  ("xml.sax.xmlreader", ["functions _test", "classes AttributesImpl AttributesNSImpl
  IncrementalParser InputSource Locator SAXNotRecognizedException=xml.sax._exceptions.
  SAXNotSupportedException=xml.sax._exceptions. XMLReader", "modules handler=xml.sax."])]

/-- The classes for markup. -/
def markupClasses : List (String × List String) := [
  ("pyexpat.xmlparser", ["shown pyexpat.xmlparser", "methods SetBase GetBase GetInputContext
  SetParamEntityParsing", "told-methods Parse ParseFile ExternalEntityParserCreate UseForeignDTD",
  "fields ErrorCode ErrorLineNumber ErrorColumnNumber ErrorByteIndex CurrentLineNumber
  CurrentColumnNumber CurrentByteIndex buffer_size buffer_text buffer_used namespace_prefixes
  ordered_attributes specified_attributes StartElementHandler EndElementHandler
  ProcessingInstructionHandler CharacterDataHandler UnparsedEntityDeclHandler NotationDeclHandler
  StartNamespaceDeclHandler EndNamespaceDeclHandler CommentHandler StartCdataSectionHandler
  EndCdataSectionHandler DefaultHandler DefaultHandlerExpand NotStandaloneHandler
  ExternalEntityRefHandler StartDoctypeDeclHandler EndDoctypeDeclHandler EntityDeclHandler
  XmlDeclHandler ElementDeclHandler AttlistDeclHandler SkippedEntityHandler", "slots intern"]),
  ("xml.dom.DOMException", ["below Exception", "open __weakref__", "functions __init__ _get_code"]),
  ("xml.dom.DomstringSizeErr", ["below xml.dom.DOMException", "numbers code=2", "silent"]),
  ("xml.dom.HierarchyRequestErr", ["below xml.dom.DOMException", "numbers code=3", "silent"]),
  ("xml.dom.IndexSizeErr", ["below xml.dom.DOMException", "numbers code=1", "silent"]),
  ("xml.dom.InuseAttributeErr", ["below xml.dom.DOMException", "numbers code=10", "silent"]),
  ("xml.dom.InvalidAccessErr", ["below xml.dom.DOMException", "numbers code=15", "silent"]),
  ("xml.dom.InvalidCharacterErr", ["below xml.dom.DOMException", "numbers code=5", "silent"]),
  ("xml.dom.InvalidModificationErr", ["below xml.dom.DOMException", "numbers code=13", "silent"]),
  ("xml.dom.InvalidStateErr", ["below xml.dom.DOMException", "numbers code=11", "silent"]),
  ("xml.dom.NamespaceErr", ["below xml.dom.DOMException", "numbers code=14", "silent"]),
  ("xml.dom.NoDataAllowedErr", ["below xml.dom.DOMException", "numbers code=6", "silent"]),
  ("xml.dom.NoModificationAllowedErr", ["below xml.dom.DOMException", "numbers code=7", "silent"]),
  ("xml.dom.Node", ["numbers ELEMENT_NODE=1 ATTRIBUTE_NODE=2 TEXT_NODE=3 CDATA_SECTION_NODE=4
  ENTITY_REFERENCE_NODE=5 ENTITY_NODE=6 PROCESSING_INSTRUCTION_NODE=7 COMMENT_NODE=8 DOCUMENT_NODE=9
  DOCUMENT_TYPE_NODE=10 DOCUMENT_FRAGMENT_NODE=11 NOTATION_NODE=12", "constant __slots__ ()"]),
  ("xml.dom.NodeFilter.NodeFilter", ["open", "functions acceptNode", "numbers FILTER_ACCEPT=1
  FILTER_REJECT=2 FILTER_SKIP=3 SHOW_ALL=4294967295 SHOW_ELEMENT=1 SHOW_ATTRIBUTE=2 SHOW_TEXT=4
  SHOW_CDATA_SECTION=8 SHOW_ENTITY_REFERENCE=16 SHOW_ENTITY=32 SHOW_PROCESSING_INSTRUCTION=64
  SHOW_COMMENT=128 SHOW_DOCUMENT=256 SHOW_DOCUMENT_TYPE=512 SHOW_DOCUMENT_FRAGMENT=1024
  SHOW_NOTATION=2048"]),
  ("xml.dom.NotFoundErr", ["below xml.dom.DOMException", "numbers code=8", "silent"]),
  ("xml.dom.NotSupportedErr", ["below xml.dom.DOMException", "numbers code=9", "silent"]),
  ("xml.dom.SyntaxErr", ["below xml.dom.DOMException", "numbers code=12", "silent"]),
  ("xml.dom.UserDataHandler", ["open", "numbers NODE_CLONED=1 NODE_IMPORTED=2 NODE_DELETED=3
  NODE_RENAMED=4"]),
  ("xml.dom.ValidationErr", ["below xml.dom.DOMException", "numbers code=16", "silent"]),
  ("xml.dom.WrongDocumentErr", ["below xml.dom.DOMException", "numbers code=4", "silent"]),
  ("xml.dom.expatbuilder.ElementInfo", ["functions __init__ __getstate__ __setstate__
  getAttributeType getAttributeTypeNS isElementContent isEmpty isId isIdNS", "slots _attr_info
  _model tagName", "constant __slots__ ('_attr_info', '_model', 'tagName')", "silent"]),
  ("xml.dom.expatbuilder.ExpatBuilder", ["open", "functions __init__ createParser getParser reset
  install parseFile parseString _setup_subset start_doctype_decl_handler end_doctype_decl_handler
  pi_handler character_data_handler_cdata character_data_handler entity_decl_handler
  notation_decl_handler comment_handler start_cdata_section_handler end_cdata_section_handler
  external_entity_ref_handler first_element_handler start_element_handler _finish_start_element
  end_element_handler _finish_end_element _handle_white_text_nodes element_decl_handler
  attlist_decl_handler xml_decl_handler"]),
  ("xml.dom.expatbuilder.ExpatBuilderNS", ["above xml.dom.expatbuilder.Namespaces
  xml.dom.expatbuilder.ExpatBuilder object", "functions reset"]),
  ("xml.dom.expatbuilder.FilterCrutch", ["functions __init__", "slots _builder _level _old_end
  _old_start", "constant __slots__ ('_builder', '_level', '_old_start', '_old_end')", "silent"]),
  ("xml.dom.expatbuilder.FilterVisibilityController", ["functions __init__ startContainer
  acceptNode", "slots filter", "constant __slots__ ('filter',)",
  "constant _nodetype_mask \x7b1: 1, 2: 2, 3: 4, 4: 8, 5: 16, 6: 32, 7: 64, 8: 128, 9: 256, 10",
  "|: 512, 11: 1024, 12: 2048\x7d"]),
  ("xml.dom.expatbuilder.FragmentBuilder", ["below xml.dom.expatbuilder.ExpatBuilder",
  "functions __init__ reset parseFile parseString _getDeclarations _getNSattrs
  external_entity_ref_handler"]),
  ("xml.dom.expatbuilder.FragmentBuilderNS", ["above xml.dom.expatbuilder.Namespaces
  xml.dom.expatbuilder.FragmentBuilder xml.dom.expatbuilder.ExpatBuilder object", "functions reset
  _getNSattrs"]),
  ("xml.dom.expatbuilder.InternalSubsetExtractor", ["below xml.dom.expatbuilder.ExpatBuilder",
  "functions getSubset parseFile parseString install start_doctype_decl_handler
  end_doctype_decl_handler start_element_handler", "constant subset None"]),
  ("xml.dom.expatbuilder.Namespaces", ["open", "functions _initNamespaces createParser install
  start_namespace_decl_handler start_element_handler end_element_handler"]),
  ("xml.dom.expatbuilder.ParseEscape", ["below Exception", "open __weakref__"]),
  ("xml.dom.expatbuilder.Rejecter", ["below xml.dom.expatbuilder.FilterCrutch", "functions __init__
  start_element_handler end_element_handler", "constant __slots__ ()", "silent"]),
  ("xml.dom.expatbuilder.Skipper", ["below xml.dom.expatbuilder.FilterCrutch",
  "functions start_element_handler end_element_handler", "constant __slots__ ()", "silent"]),
  ("xml.dom.minicompat.EmptyNodeList", ["below tuple", "functions __add__ __radd__ item _get_length
  _set_length", "properties length", "constant __slots__ ()", "silent",
  "part length.fget object('function')", "part length.fset object('function')"]),
  ("xml.dom.minicompat.NodeList", ["below list", "functions item _get_length _set_length
  __setstate__", "properties length", "constant __slots__ ()", "silent",
  "part length.fget object('function')", "part length.fset object('function')"]),
  ("xml.dom.minidom.Attr", ["below xml.dom.minidom.Node", "functions __init__ _get_localName
  _get_specified _get_name _set_name _get_value _set_value _get_prefix _set_prefix unlink _get_isId
  _get_schemaType", "properties nodeName name nodeValue value prefix isId localName schemaType",
  "slots _localName _name _prefix _value childNodes namespaceURI ownerDocument ownerElement",
  "numbers nodeType=2",
  "constant __slots__ ('_name', '_value', 'namespaceURI', '_prefix', 'childNodes', '_localName",
  "|', 'ownerDocument', 'ownerElement')", "constant attributes None", "constant specified False",
  "constant _is_id False", "constant _child_node_types (3, 5)", "silent",
  "part nodeName.fget object('function')", "part nodeName.fset object('function')",
  "part name.fget object('function')", "part name.fset object('function')",
  "part nodeValue.fget object('function')", "part nodeValue.fset object('function')",
  "part value.fget object('function')", "part value.fset object('function')",
  "part prefix.fget object('function')", "part prefix.fset object('function')",
  "part isId.fget object('function')", "part isId.fset object('function')",
  "part localName.fget object('function')", "part localName.fset object('function')",
  "part schemaType.fget object('function')", "part schemaType.fset object('function')"]),
  ("xml.dom.minidom.CDATASection", ["below xml.dom.minidom.Text", "functions writexml",
  "numbers nodeType=4", "constant __slots__ ()", "constant nodeName '#cdata-section'", "silent"]),
  ("xml.dom.minidom.CharacterData", ["above xml.dom.minidom.Childless xml.dom.minidom.Node
  xml.dom.Node object", "open", "functions __init__ _get_length
  __len__=xml.dom.minidom:CharacterData._get_length _get_data _set_data __repr__ substringData
  appendData insertData deleteData replaceData", "properties data nodeValue length", "slots _data
  nextSibling ownerDocument parentNode previousSibling",
  "constant __slots__ ('_data', 'ownerDocument', 'parentNode', 'previousSibling', 'nextSibling",
  "|')", "silent", "part data.fget object('function')", "part data.fset object('function')",
  "part nodeValue.fget object('function')", "part nodeValue.fset object('function')",
  "part length.fget object('function')", "part length.fset object('function')"]),
  ("xml.dom.minidom.Childless", ["functions _get_firstChild _get_lastChild appendChild hasChildNodes
  insertBefore removeChild normalize replaceChild",
  "holders childNodes=xml.dom.minicompat.EmptyNodeList", "constant __slots__ ()",
  "constant attributes None", "constant firstChild None", "constant lastChild None",
  "part childNodes.length 0"]),
  ("xml.dom.minidom.Comment", ["below xml.dom.minidom.CharacterData", "functions __init__ writexml",
  "numbers nodeType=8", "constant nodeName '#comment'", "silent"]),
  ("xml.dom.minidom.DOMImplementation", ["below xml.dom.xmlbuilder.DOMImplementationLS",
  "functions hasFeature createDocument createDocumentType getInterface _create_document",
  "constant _features [('core', '1.0'), ('core', '2.0'), ('core', None), ('xml', '1.0'), ('xml",
  "|', '2.0'), ('xml', None), ('ls-load', '3.0'), ('ls-load', None)]", "silent"]),
  ("xml.dom.minidom.Document", ["above xml.dom.minidom.Node xml.dom.Node
  xml.dom.xmlbuilder.DocumentLS object", "functions __init__ _get_elem_info _get_actualEncoding
  _get_doctype _get_documentURI _get_encoding _get_errorHandler _get_standalone
  _get_strictErrorChecking _get_version appendChild removeChild _get_documentElement unlink
  cloneNode createDocumentFragment createElement createTextNode createCDATASection createComment
  createProcessingInstruction createAttribute createElementNS createAttributeNS _create_entity
  _create_notation getElementById getElementsByTagName getElementsByTagNameNS isSupported importNode
  writexml renameNode", "properties documentElement", "slots _elem_info _id_cache _id_search_stack
  childNodes doctype", "objects implementation=xml.dom.minidom.DOMImplementation",
  "numbers nodeType=9 _magic_id_count=0",
  "constant __slots__ ('_elem_info', 'doctype', '_id_search_stack', 'childNodes', '_id_cache')",
  "constant _child_node_types (1, 7, 8, 10)", "constant nodeName '#document'",
  "constant nodeValue None", "constant attributes None", "constant parentNode None",
  "constant previousSibling None", "constant nextSibling None", "constant actualEncoding None",
  "constant encoding None", "constant standalone None", "constant version None",
  "constant strictErrorChecking False", "constant errorHandler None", "constant documentURI None",
  "silent", "part documentElement.fget object('function')",
  "part documentElement.fset object('function')"]),
  ("xml.dom.minidom.DocumentFragment", ["below xml.dom.minidom.Node", "functions __init__",
  "numbers nodeType=11", "constant nodeName '#document-fragment'", "constant nodeValue None",
  "constant attributes None", "constant parentNode None",
  "constant _child_node_types (1, 3, 4, 5, 7, 8, 12)", "silent"]),
  ("xml.dom.minidom.DocumentType", ["above xml.dom.minidom.Identified xml.dom.minidom.Childless
  xml.dom.minidom.Node xml.dom.Node object", "open", "functions __init__ _get_internalSubset
  cloneNode writexml", "numbers nodeType=10", "constant nodeValue None", "constant name None",
  "constant publicId None", "constant systemId None", "constant internalSubset None", "silent"]),
  ("xml.dom.minidom.Element", ["below xml.dom.minidom.Node", "functions __init__ _ensure_attributes
  _get_localName _get_tagName unlink getAttribute getAttributeNS setAttribute setAttributeNS
  getAttributeNode getAttributeNodeNS setAttributeNode
  setAttributeNodeNS=xml.dom.minidom:Element.setAttributeNode removeAttribute removeAttributeNS
  removeAttributeNode removeAttributeNodeNS=xml.dom.minidom:Element.removeAttributeNode hasAttribute
  hasAttributeNS getElementsByTagName getElementsByTagNameNS __repr__ writexml _get_attributes
  hasAttributes setIdAttribute setIdAttributeNS setIdAttributeNode", "properties attributes
  localName", "slots _attrs _attrsNS _localName childNodes namespaceURI nextSibling nodeName
  ownerDocument parentNode prefix previousSibling tagName",
  "objects schemaType=xml.dom.minidom.TypeInfo", "numbers nodeType=1 _magic_id_nodes=0",
  "constant __slots__ ('ownerDocument', 'parentNode', 'tagName', 'nodeName', 'prefix', 'namesp",
  "|aceURI', '_localName', 'childNodes', '_attrs', '_attrsNS', 'nextSibling', 'previousSibling",
  "|')", "constant nodeValue None", "constant _child_node_types (1, 7, 8, 3, 4, 5)", "silent",
  "part attributes.fget object('function')", "part attributes.fset object('function')",
  "part localName.fget object('function')", "part localName.fset object('function')"]),
  ("xml.dom.minidom.ElementInfo", ["functions __init__ getAttributeType getAttributeTypeNS
  isElementContent isEmpty isId isIdNS __getstate__ __setstate__", "slots tagName",
  "constant __slots__ ('tagName',)"]),
  ("xml.dom.minidom.Entity", ["above xml.dom.minidom.Identified xml.dom.minidom.Node xml.dom.Node
  object", "open", "functions __init__ _get_actualEncoding _get_encoding _get_version appendChild
  insertBefore removeChild replaceChild", "numbers nodeType=6", "constant attributes None",
  "constant nodeValue None", "constant actualEncoding None", "constant encoding None",
  "constant version None", "silent"]),
  ("xml.dom.minidom.Identified", ["functions _identified_mixin_init _get_publicId _get_systemId",
  "slots publicId systemId", "constant __slots__ ('publicId', 'systemId')"]),
  ("xml.dom.minidom.NamedNodeMap", ["functions __init__ _get_length item items itemsNS __contains__
  keys keysNS values get __len__=xml.dom.minidom:NamedNodeMap._get_length _cmp __eq__ __ge__ __gt__
  __le__ __lt__ __getitem__ __setitem__ getNamedItem getNamedItemNS removeNamedItem
  removeNamedItemNS setNamedItem setNamedItemNS __delitem__ __getstate__ __setstate__",
  "properties length", "slots _attrs _attrsNS _ownerElement",
  "constant __slots__ ('_attrs', '_attrsNS', '_ownerElement')", "constant __hash__ None",
  "part length.fget object('function')", "part length.fset object('function')"]),
  ("xml.dom.minidom.Node", ["below xml.dom.Node", "open", "functions __bool__ toxml toprettyxml
  hasChildNodes _get_childNodes _get_firstChild _get_lastChild insertBefore appendChild replaceChild
  removeChild normalize cloneNode isSupported _get_localName isSameNode getInterface getUserData
  setUserData _call_user_data_handler unlink __enter__ __exit__", "properties firstChild lastChild
  localName", "constant namespaceURI None", "constant parentNode None",
  "constant ownerDocument None", "constant nextSibling None", "constant previousSibling None",
  "constant prefix None", "silent", "part firstChild.fget object('function')",
  "part firstChild.fset object('function')", "part lastChild.fget object('function')",
  "part lastChild.fset object('function')", "part localName.fget object('function')",
  "part localName.fset object('function')"]),
  ("xml.dom.minidom.Notation", ["above xml.dom.minidom.Identified xml.dom.minidom.Childless
  xml.dom.minidom.Node xml.dom.Node object", "open", "functions __init__", "numbers nodeType=12",
  "constant nodeValue None", "silent"]),
  ("xml.dom.minidom.ProcessingInstruction", ["above xml.dom.minidom.Childless xml.dom.minidom.Node
  xml.dom.Node object", "open", "functions __init__ _get_nodeValue _set_nodeValue _get_nodeName
  _set_nodeName writexml", "properties nodeValue nodeName", "slots data target",
  "numbers nodeType=7", "constant __slots__ ('target', 'data')", "silent",
  "part nodeValue.fget object('function')", "part nodeValue.fset object('function')",
  "part nodeName.fget object('function')", "part nodeName.fset object('function')"]),
  ("xml.dom.minidom.ReadOnlySequentialNamedNodeMap", ["functions __init__ __len__ _get_length
  getNamedItem getNamedItemNS __getitem__ item removeNamedItem removeNamedItemNS setNamedItem
  setNamedItemNS __getstate__ __setstate__", "properties length", "slots _seq",
  "constant __slots__ ('_seq',)", "silent", "part length.fget object('function')",
  "part length.fset object('function')"]),
  ("xml.dom.minidom.Text", ["below xml.dom.minidom.CharacterData", "functions splitText writexml
  _get_wholeText replaceWholeText _get_isWhitespaceInElementContent",
  "properties isWhitespaceInElementContent wholeText", "numbers nodeType=3",
  "constant __slots__ ()", "constant nodeName '#text'", "constant attributes None", "silent",
  "part isWhitespaceInElementContent.fget object('function')",
  "part isWhitespaceInElementContent.fset object('function')",
  "part wholeText.fget object('function')", "part wholeText.fset object('function')"]),
  ("xml.dom.minidom.TypeInfo", ["functions __init__ __repr__ _get_name _get_namespace", "slots
  name namespace", "constant __slots__ ('namespace', 'name')", "silent"]),
  ("xml.dom.pulldom.DOMEventStream", ["open", "functions __init__ reset __next__ __iter__ expandNode
  getEvent _slurp _emit clear", "silent"]),
  ("xml.dom.pulldom.ErrorHandler", ["open", "functions warning error fatalError", "silent"]),
  ("xml.dom.pulldom.PullDOM", ["below xml.sax.handler.ContentHandler", "functions __init__ pop
  setDocumentLocator startPrefixMapping endPrefixMapping startElementNS endElementNS startElement
  endElement comment processingInstruction ignorableWhitespace characters startDocument
  buildDocument endDocument clear", "constant _locator None", "constant document None", "silent"]),
  ("xml.dom.pulldom.SAX2DOM", ["below xml.dom.pulldom.PullDOM", "functions startElementNS
  startElement processingInstruction ignorableWhitespace characters", "silent"]),
  ("xml.dom.xmlbuilder.DOMBuilder", ["open", "functions __init__ _get_entityResolver
  _set_entityResolver _get_errorHandler _set_errorHandler _get_filter _set_filter setFeature
  supportsFeature canSetFeature getFeature parseURI parse parseWithContext _parse_bytestream",
  "numbers ACTION_REPLACE=1 ACTION_APPEND_AS_CHILDREN=2 ACTION_INSERT_AFTER=3
  ACTION_INSERT_BEFORE=4", "constant entityResolver None", "constant errorHandler None",
  "constant filter None", "constant _legal_actions (1, 2, 3, 4)",
  "constant _settings \x7b('namespace_declarations', 0): [('namespace_declarations', 0)], ('na",
  "|mespace_declarations', 1): [('namespace_declarations', 1)], ('validation', 0): [('validati",
  "|on', 0)], ('external_general_entities', 0): [('external_general_entities', 0)], ('external",
  "|_general_entities', 1): [('external_general_entities', 1)], ('external_parameter_entities'",
  "|, 0): [('external_parameter_entities', 0)], ('external_parameter_entities', 1): [('externa",
  "|l_parameter_entities', 1)], ('validate_if_schema', 0): [('validate_if_schema', 0)], ('crea",
  "|te_entity_ref_nodes', 0): [('create_entity_ref_nodes', 0)], ('create_entity_ref_nodes', 1)",
  "|: [('create_entity_ref_nodes', 1)], ('entities', 0): [('create_entity_ref_nodes', 0), ('en",
  "|tities', 0)], ('entities', 1): [('entities', 1)], ('whitespace_in_element_content', 0): [(",
  "|'whitespace_in_element_content', 0)], ('whitespace_in_element_content', 1): [('whitespace_",
  "|in_element_content', 1)], ('cdata_sections', 0): [('cdata_sections', 0)], ('cdata_sections",
  "|', 1): [('cdata_sections', 1)], ('comments', 0): [('comments', 0)], ('comments', 1): [('co",
  "|mments', 1)], ('charset_overrides_xml_encoding', 0): [('charset_overrides_xml_encoding', 0",
  "|)], ('charset_overrides_xml_encoding', 1): [('charset_overrides_xml_encoding', 1)], ('info",
  "|set', 0): [], ('infoset', 1): [('namespace_declarations', 0), ('validate_if_schema', 0), (",
  "|'create_entity_ref_nodes', 0), ('entities', 0), ('cdata_sections', 0), ('datatype_normaliz",
  "|ation', 1), ('whitespace_in_element_content', 1), ('comments', 1), ('charset_overrides_xml",
  "|_encoding', 1)], ('supported_mediatypes_only', 0): [('supported_mediatypes_only', 0)], ('n",
  "|amespaces', 0): [('namespaces', 0)], ('namespaces', 1): [('namespaces', 1)]\x7d", "silent"]),
  ("xml.dom.xmlbuilder.DOMBuilderFilter", ["open", "functions _get_whatToShow acceptNode
  startContainer", "numbers FILTER_ACCEPT=1 FILTER_REJECT=2 FILTER_SKIP=3 FILTER_INTERRUPT=4
  whatToShow=4294967295"]),
  ("xml.dom.xmlbuilder.DOMEntityResolver", ["functions resolveEntity _get_opener _create_opener
  _guess_media_encoding", "slots _opener", "constant __slots__ ('_opener',)", "silent"]),
  ("xml.dom.xmlbuilder.DOMImplementationLS", ["open", "functions createDOMBuilder createDOMWriter
  createDOMInputSource", "numbers MODE_SYNCHRONOUS=1 MODE_ASYNCHRONOUS=2", "silent"]),
  ("xml.dom.xmlbuilder.DOMInputSource", ["functions __init__ _get_byteStream _set_byteStream
  _get_characterStream _set_characterStream _get_stringData _set_stringData _get_encoding
  _set_encoding _get_publicId _set_publicId _get_systemId _set_systemId _get_baseURI _set_baseURI",
  "slots baseURI byteStream characterStream encoding publicId stringData systemId",
  "constant __slots__ ('byteStream', 'characterStream', 'stringData', 'encoding', 'publicId', ",
  "|'systemId', 'baseURI')", "silent"]),
  ("xml.dom.xmlbuilder.DocumentLS", ["open", "functions _get_async _set_async abort load loadXML
  saveXML", "constant async_ False"]),
  ("xml.dom.xmlbuilder.Options", ["open", "numbers namespaces=1",
  "constant namespace_declarations True", "constant validation False",
  "constant external_parameter_entities True", "constant external_general_entities True",
  "constant external_dtd_subset True", "constant validate_if_schema False",
  "constant validate False", "constant datatype_normalization False",
  "constant create_entity_ref_nodes True", "constant entities True",
  "constant whitespace_in_element_content True", "constant cdata_sections True",
  "constant comments True", "constant charset_overrides_xml_encoding True",
  "constant infoset False", "constant supported_mediatypes_only False",
  "constant errorHandler None", "constant filter None"]),
  ("xml.etree.ElementInclude.FatalIncludeError", ["below SyntaxError", "open __weakref__",
  "silent"]),
  ("xml.etree.ElementInclude.LimitedRecursiveIncludeError", [
  "below xml.etree.ElementInclude.FatalIncludeError", "silent"]),
  ("xml.etree.ElementPath._SelectorContext", ["open", "functions __init__",
  "constant parent_map None", "silent"]),
  ("xml.etree.ElementTree.C14NWriterTarget", ["open", "functions __init__ _iter_namespaces
  _resolve_prefix_name _qname data _flush start_ns start _start end comment pi"]),
  ("xml.etree.ElementTree.Element", ["shown xml.etree.ElementTree.Element", "sealed",
  "builtins __new__", "operations __repr__ __getattribute__ __init__ __len__ __getitem__ __setitem__
  __delitem__", "methods clear get set find findtext findall append extend insert remove iter
  itertext iterfind items keys makeelement __copy__ __deepcopy__ __sizeof__ __getstate__
  __setstate__", "fields tag text tail attrib", "silent"]),
  ("xml.etree.ElementTree.ElementTree", ["open", "functions __init__ getroot _setroot parse iter
  find findtext findall iterfind write write_c14n"]),
  ("xml.etree.ElementTree.ParseError", ["below SyntaxError", "open __weakref__", "silent"]),
  ("xml.etree.ElementTree.QName", ["open", "functions __init__ __str__ __repr__ __hash__ __le__
  __lt__ __ge__ __gt__ __eq__"]),
  ("xml.etree.ElementTree.TreeBuilder", ["shown xml.etree.ElementTree.TreeBuilder", "sealed",
  "builtins __new__", "operations __init__", "methods data start end comment pi close", "silent"]),
  ("xml.etree.ElementTree.XMLParser", ["shown xml.etree.ElementTree.XMLParser", "sealed",
  "builtins __new__", "operations __init__", "methods feed close _parse_whole _setevents",
  "fields version", "slots entity target", "silent"]),
  ("xml.etree.ElementTree.XMLPullParser", ["open", "functions __init__ feed _close_and_return_root
  close read_events", "silent"]),
  ("xml.etree.ElementTree._ListDataStream", ["below io.BufferedIOBase", "kind abc.ABCMeta",
  "functions __init__ writable seekable write tell"]),
  ("xml.parsers.expat.ExpatError", ["below Exception", "open __weakref__", "silent"]),
  ("xml.sax._exceptions.SAXException", ["below Exception", "open __weakref__", "functions __init__
  getMessage getException __str__ __getitem__"]),
  ("xml.sax._exceptions.SAXNotRecognizedException", ["below xml.sax._exceptions.SAXException"]),
  ("xml.sax._exceptions.SAXNotSupportedException", ["below xml.sax._exceptions.SAXException"]),
  ("xml.sax._exceptions.SAXParseException", ["below xml.sax._exceptions.SAXException",
  "functions __init__ getColumnNumber getLineNumber getPublicId getSystemId __str__"]),
  ("xml.sax._exceptions.SAXReaderNotAvailable", [
  "below xml.sax._exceptions.SAXNotSupportedException"]),
  ("xml.sax.expatreader.ExpatLocator", ["below xml.sax.xmlreader.Locator", "functions __init__
  getColumnNumber getLineNumber getPublicId getSystemId"]),
  ("xml.sax.expatreader.ExpatParser", ["above xml.sax.xmlreader.IncrementalParser
  xml.sax.xmlreader.XMLReader xml.sax.xmlreader.Locator object", "functions __init__ parse
  prepareParser setContentHandler getFeature setFeature getProperty setProperty feed _close_source
  close _reset_cont_handler _reset_lex_handler_prop reset getColumnNumber getLineNumber getPublicId
  getSystemId start_element end_element start_element_ns end_element_ns processing_instruction
  character_data start_namespace_decl end_namespace_decl start_doctype_decl unparsed_entity_decl
  notation_decl external_entity_ref skipped_entity_handler"]),
  ("xml.sax.expatreader._ClosedParser", ["open", "silent"]),
  ("xml.sax.handler.ContentHandler", ["open", "functions __init__ setDocumentLocator startDocument
  endDocument startPrefixMapping endPrefixMapping startElement endElement startElementNS
  endElementNS characters ignorableWhitespace processingInstruction skippedEntity"]),
  ("xml.sax.handler.DTDHandler", ["open", "functions notationDecl unparsedEntityDecl"]),
  ("xml.sax.handler.EntityResolver", ["open", "functions resolveEntity"]),
  ("xml.sax.handler.ErrorHandler", ["open", "functions error fatalError warning"]),
  ("xml.sax.handler.LexicalHandler", ["open", "functions comment startDTD endDTD startCDATA
  endCDATA"]),
  ("xml.sax.saxutils.XMLFilterBase", ["below xml.sax.xmlreader.XMLReader", "functions __init__ error
  fatalError warning setDocumentLocator startDocument endDocument startPrefixMapping
  endPrefixMapping startElement endElement startElementNS endElementNS characters
  ignorableWhitespace processingInstruction skippedEntity notationDecl unparsedEntityDecl
  resolveEntity parse setLocale getFeature setFeature getProperty setProperty getParent
  setParent"]),
  ("xml.sax.saxutils.XMLGenerator", ["below xml.sax.handler.ContentHandler", "functions __init__
  _qname _finish_pending_start_element startDocument endDocument startPrefixMapping endPrefixMapping
  startElement endElement startElementNS endElementNS characters ignorableWhitespace
  processingInstruction", "silent"]),
  ("xml.sax.xmlreader.AttributesImpl", ["open", "functions __init__ getLength getType getValue
  getValueByQName getNameByQName getQNameByName getNames getQNames __len__ __getitem__ keys
  __contains__ get copy items values", "silent"]),
  ("xml.sax.xmlreader.AttributesNSImpl", ["below xml.sax.xmlreader.AttributesImpl",
  "functions __init__ getValueByQName getNameByQName getQNameByName getQNames copy", "silent"]),
  ("xml.sax.xmlreader.IncrementalParser", ["below xml.sax.xmlreader.XMLReader", "functions __init__
  parse feed prepareParser close reset"]),
  ("xml.sax.xmlreader.InputSource", ["open", "functions __init__ setPublicId getPublicId setSystemId
  getSystemId setEncoding getEncoding setByteStream getByteStream setCharacterStream
  getCharacterStream"]),
  ("xml.sax.xmlreader.Locator", ["open", "functions getColumnNumber getLineNumber getPublicId
  getSystemId"]),
  ("xml.sax.xmlreader.XMLReader", ["open", "functions __init__ parse getContentHandler
  setContentHandler getDTDHandler setDTDHandler getEntityResolver setEntityResolver getErrorHandler
  setErrorHandler setLocale getFeature setFeature getProperty setProperty"])]

end FragmentWeaver.Standard
