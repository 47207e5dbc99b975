/-!
# Listing: the network

What stands in the modules and classes for sockets, protocols, addresses and digests.
-/

namespace FragmentWeaver.Standard

/-- The modules for the network. -/
def networkModules : List (String × List String) := [
  ("_blake2", ["built-in", "classes blake2b blake2s", "numbers BLAKE2B_MAX_DIGEST_SIZE=64
  BLAKE2B_MAX_KEY_SIZE=64 BLAKE2B_PERSON_SIZE=16 BLAKE2B_SALT_SIZE=16 BLAKE2S_MAX_DIGEST_SIZE=32
  BLAKE2S_MAX_KEY_SIZE=32 BLAKE2S_PERSON_SIZE=8 BLAKE2S_SALT_SIZE=8"]),
  ("_hashlib", ["extension", "builtins compare_digest get_fips_mode hmac_digest hmac_new new
  openssl_md5 openssl_sha1 openssl_sha224 openssl_sha256 openssl_sha384 openssl_sha3_224
  openssl_sha3_256 openssl_sha3_384 openssl_sha3_512 openssl_sha512 openssl_shake_128
  openssl_shake_256 pbkdf2_hmac scrypt", "classes HASH HASHXOF HMAC UnsupportedDigestmodError",
  "objects _constructors=mappingproxy openssl_md_meth_names=frozenset"]),
  ("_markupbase", ["classes ParserBase", "objects _declname_match=builtin_method
  _declstringlit_match=builtin_method", "holders _markedsectionclose=re.Pattern
  _msmarkedsectionclose=re.Pattern", "same _commentclose=html.parser.commentclose",
  "part _markedsectionclose.pattern ']\\\\s*]\\\\s*>'",
  "part _msmarkedsectionclose.pattern ']\\\\s*>'"]),
  ("_md5", ["built-in", "builtins md5", "classes MD5Type=_md5.md5", "constant __doc__ None"]),
  ("_sha1", ["built-in", "builtins sha1", "classes SHA1Type=_sha1.sha1", "constant __doc__ None"]),
  ("_sha256", ["built-in", "builtins sha224 sha256", "classes SHA224Type=_sha256.sha224
  SHA256Type=_sha256.sha256", "constant __doc__ None"]),
  ("_sha3", ["built-in", "classes sha3_224 sha3_256 sha3_384 sha3_512 shake_128 shake_256",
  "numbers keccakopt=0", "constant __doc__ None", "constant implementation 'tiny_sha3'"]),
  ("_sha512", ["built-in", "builtins sha384 sha512", "classes SHA384Type=_sha512.sha512",
  "constant __doc__ None"]),
  ("_socket", ["built-in", "builtins CMSG_LEN CMSG_SPACE close dup getaddrinfo getdefaulttimeout
  gethostbyaddr gethostbyname gethostbyname_ex gethostname getnameinfo getprotobyname getservbyname
  getservbyport htonl htons if_indextoname if_nameindex if_nametoindex inet_aton inet_ntoa inet_ntop
  inet_pton ntohl ntohs setdefaulttimeout sethostname socketpair",
  "classes SocketType=_socket.socket error=OSError gaierror=socket. herror=socket. socket
  timeout=TimeoutError", "objects CAPI=PyCapsule", "numbers AF_ALG=38 AF_APPLETALK=5 AF_ASH=18
  AF_ATMPVC=8 AF_ATMSVC=20 AF_AX25=3 AF_BLUETOOTH=31 AF_BRIDGE=7 AF_CAN=29 AF_DECnet=12 AF_ECONET=19
  AF_INET=2 AF_INET6=10 AF_IPX=4 AF_IRDA=23 AF_KEY=15 AF_LLC=26 AF_NETBEUI=13 AF_NETLINK=16
  AF_NETROM=6 AF_PACKET=17 AF_PPPOX=24 AF_QIPCRTR=42 AF_RDS=21 AF_ROSE=11 AF_ROUTE=16 AF_SECURITY=14
  AF_SNA=22 AF_TIPC=30 AF_UNIX=1 AF_UNSPEC=0 AF_VSOCK=40 AF_WANPIPE=25 AF_X25=9 AI_ADDRCONFIG=32
  AI_ALL=16 AI_CANONNAME=2 AI_NUMERICHOST=4 AI_NUMERICSERV=1024 AI_PASSIVE=1 AI_V4MAPPED=8
  ALG_OP_DECRYPT=0 ALG_OP_ENCRYPT=1 ALG_OP_SIGN=2 ALG_OP_VERIFY=3 ALG_SET_AEAD_ASSOCLEN=4
  ALG_SET_AEAD_AUTHSIZE=5 ALG_SET_IV=2 ALG_SET_KEY=1 ALG_SET_OP=3 ALG_SET_PUBKEY=6 BTPROTO_HCI=1
  BTPROTO_L2CAP=0 BTPROTO_RFCOMM=3 BTPROTO_SCO=2 CAN_BCM=2 CAN_BCM_CAN_FD_FRAME=2048
  CAN_BCM_RX_ANNOUNCE_RESUME=256 CAN_BCM_RX_CHANGED=12 CAN_BCM_RX_CHECK_DLC=64 CAN_BCM_RX_DELETE=6
  CAN_BCM_RX_FILTER_ID=32 CAN_BCM_RX_NO_AUTOTIMER=128 CAN_BCM_RX_READ=7 CAN_BCM_RX_RTR_FRAME=1024
  CAN_BCM_RX_SETUP=5 CAN_BCM_RX_STATUS=10 CAN_BCM_RX_TIMEOUT=11 CAN_BCM_SETTIMER=1
  CAN_BCM_STARTTIMER=2 CAN_BCM_TX_ANNOUNCE=8 CAN_BCM_TX_COUNTEVT=4 CAN_BCM_TX_CP_CAN_ID=16
  CAN_BCM_TX_DELETE=2 CAN_BCM_TX_EXPIRED=9 CAN_BCM_TX_READ=3 CAN_BCM_TX_RESET_MULTI_IDX=512
  CAN_BCM_TX_SEND=4 CAN_BCM_TX_SETUP=1 CAN_BCM_TX_STATUS=8 CAN_EFF_FLAG=2147483648
  CAN_EFF_MASK=536870911 CAN_ERR_FLAG=536870912 CAN_ERR_MASK=536870911 CAN_ISOTP=6 CAN_J1939=7
  CAN_RAW=1 CAN_RAW_FD_FRAMES=5 CAN_RAW_FILTER=1 CAN_RAW_JOIN_FILTERS=6 CAN_RAW_LOOPBACK=3
  CAN_RAW_RECV_OWN_MSGS=4 CAN_RTR_FLAG=1073741824 CAN_SFF_MASK=2047 EAI_ADDRFAMILY=-9 EAI_AGAIN=-3
  EAI_BADFLAGS=-1 EAI_FAIL=-4 EAI_FAMILY=-6 EAI_MEMORY=-10 EAI_NODATA=-5 EAI_NONAME=-2
  EAI_OVERFLOW=-12 EAI_SERVICE=-8 EAI_SOCKTYPE=-7 EAI_SYSTEM=-11 HCI_DATA_DIR=1 HCI_FILTER=2
  HCI_TIME_STAMP=3 INADDR_ALLHOSTS_GROUP=3758096385 INADDR_ANY=0 INADDR_BROADCAST=4294967295
  INADDR_LOOPBACK=2130706433 INADDR_MAX_LOCAL_GROUP=3758096639 INADDR_NONE=4294967295
  INADDR_UNSPEC_GROUP=3758096384 IOCTL_VM_SOCKETS_GET_LOCAL_CID=1977 IPPORT_RESERVED=1024
  IPPORT_USERRESERVED=5000 IPPROTO_AH=51 IPPROTO_DSTOPTS=60 IPPROTO_EGP=8 IPPROTO_ESP=50
  IPPROTO_FRAGMENT=44 IPPROTO_GRE=47 IPPROTO_HOPOPTS=0 IPPROTO_ICMP=1 IPPROTO_ICMPV6=58
  IPPROTO_IDP=22 IPPROTO_IGMP=2 IPPROTO_IP=0 IPPROTO_IPIP=4 IPPROTO_IPV6=41 IPPROTO_MPTCP=262
  IPPROTO_NONE=59 IPPROTO_PIM=103 IPPROTO_PUP=12 IPPROTO_RAW=255 IPPROTO_ROUTING=43 IPPROTO_RSVP=46
  IPPROTO_SCTP=132 IPPROTO_TCP=6 IPPROTO_TP=29 IPPROTO_UDP=17 IPPROTO_UDPLITE=136 IPV6_CHECKSUM=7
  IPV6_DONTFRAG=62 IPV6_DSTOPTS=59 IPV6_HOPLIMIT=52 IPV6_HOPOPTS=54 IPV6_JOIN_GROUP=20
  IPV6_LEAVE_GROUP=21 IPV6_MULTICAST_HOPS=18 IPV6_MULTICAST_IF=17 IPV6_MULTICAST_LOOP=19
  IPV6_NEXTHOP=9 IPV6_PATHMTU=61 IPV6_PKTINFO=50 IPV6_RECVDSTOPTS=58 IPV6_RECVHOPLIMIT=51
  IPV6_RECVHOPOPTS=53 IPV6_RECVPATHMTU=60 IPV6_RECVPKTINFO=49 IPV6_RECVRTHDR=56 IPV6_RECVTCLASS=66
  IPV6_RTHDR=57 IPV6_RTHDRDSTOPTS=55 IPV6_RTHDR_TYPE_0=0 IPV6_TCLASS=67 IPV6_UNICAST_HOPS=16
  IPV6_V6ONLY=26 IP_ADD_MEMBERSHIP=35 IP_BIND_ADDRESS_NO_PORT=24 IP_DEFAULT_MULTICAST_LOOP=1
  IP_DEFAULT_MULTICAST_TTL=1 IP_DROP_MEMBERSHIP=36 IP_HDRINCL=3 IP_MAX_MEMBERSHIPS=20
  IP_MULTICAST_IF=32 IP_MULTICAST_LOOP=34 IP_MULTICAST_TTL=33 IP_OPTIONS=4 IP_RECVOPTS=6
  IP_RECVRETOPTS=7 IP_RECVTOS=13 IP_RETOPTS=7 IP_TOS=1 IP_TRANSPARENT=19 IP_TTL=2
  J1939_EE_INFO_NONE=0 J1939_EE_INFO_TX_ABORT=1 J1939_FILTER_MAX=512 J1939_IDLE_ADDR=254
  J1939_MAX_UNICAST_ADDR=253 J1939_NLA_BYTES_ACKED=1 J1939_NLA_PAD=0 J1939_NO_ADDR=255
  J1939_NO_NAME=0 J1939_NO_PGN=262144 J1939_PGN_ADDRESS_CLAIMED=60928
  J1939_PGN_ADDRESS_COMMANDED=65240 J1939_PGN_MAX=262143 J1939_PGN_PDU1_MAX=261888
  J1939_PGN_REQUEST=59904 MSG_CMSG_CLOEXEC=1073741824 MSG_CONFIRM=2048 MSG_CTRUNC=8 MSG_DONTROUTE=4
  MSG_DONTWAIT=64 MSG_EOR=128 MSG_ERRQUEUE=8192 MSG_FASTOPEN=536870912 MSG_MORE=32768
  MSG_NOSIGNAL=16384 MSG_OOB=1 MSG_PEEK=2 MSG_TRUNC=32 MSG_WAITALL=256 NETLINK_CRYPTO=21
  NETLINK_DNRTMSG=14 NETLINK_FIREWALL=3 NETLINK_IP6_FW=13 NETLINK_NFLOG=5 NETLINK_ROUTE=0
  NETLINK_USERSOCK=2 NETLINK_XFRM=6 NI_DGRAM=16 NI_MAXHOST=1025 NI_MAXSERV=32 NI_NAMEREQD=8
  NI_NOFQDN=4 NI_NUMERICHOST=1 NI_NUMERICSERV=2 PACKET_BROADCAST=1 PACKET_FASTROUTE=6 PACKET_HOST=0
  PACKET_LOOPBACK=5 PACKET_MULTICAST=2 PACKET_OTHERHOST=3 PACKET_OUTGOING=4 PF_CAN=29 PF_PACKET=17
  PF_RDS=21 SCM_CREDENTIALS=2 SCM_J1939_DEST_ADDR=1 SCM_J1939_DEST_NAME=2 SCM_J1939_ERRQUEUE=4
  SCM_J1939_PRIO=3 SCM_RIGHTS=1 SHUT_RD=0 SHUT_RDWR=2 SHUT_WR=1 SOCK_CLOEXEC=524288 SOCK_DGRAM=2
  SOCK_NONBLOCK=2048 SOCK_RAW=3 SOCK_RDM=4 SOCK_SEQPACKET=5 SOCK_STREAM=1 SOL_ALG=279
  SOL_CAN_BASE=100 SOL_CAN_RAW=101 SOL_HCI=0 SOL_IP=0 SOL_RDS=276 SOL_SOCKET=1 SOL_TCP=6
  SOL_TIPC=271 SOL_UDP=17 SOMAXCONN=4096 SO_ACCEPTCONN=30 SO_BINDTODEVICE=25 SO_BROADCAST=6
  SO_DEBUG=1 SO_DOMAIN=39 SO_DONTROUTE=5 SO_ERROR=4 SO_INCOMING_CPU=49 SO_J1939_ERRQUEUE=4
  SO_J1939_FILTER=1 SO_J1939_PROMISC=2 SO_J1939_SEND_PRIO=3 SO_KEEPALIVE=9 SO_LINGER=13 SO_MARK=36
  SO_OOBINLINE=10 SO_PASSCRED=16 SO_PASSSEC=34 SO_PEERCRED=17 SO_PEERSEC=31 SO_PRIORITY=12
  SO_PROTOCOL=38 SO_RCVBUF=8 SO_RCVLOWAT=18 SO_RCVTIMEO=20 SO_REUSEADDR=2 SO_REUSEPORT=15
  SO_SNDBUF=7 SO_SNDLOWAT=19 SO_SNDTIMEO=21 SO_TYPE=3 SO_VM_SOCKETS_BUFFER_MAX_SIZE=2
  SO_VM_SOCKETS_BUFFER_MIN_SIZE=1 SO_VM_SOCKETS_BUFFER_SIZE=0 TCP_CONGESTION=13 TCP_CORK=3
  TCP_DEFER_ACCEPT=9 TCP_FASTOPEN=23 TCP_INFO=11 TCP_KEEPCNT=6 TCP_KEEPIDLE=4 TCP_KEEPINTVL=5
  TCP_LINGER2=8 TCP_MAXSEG=2 TCP_NODELAY=1 TCP_NOTSENT_LOWAT=25 TCP_QUICKACK=12 TCP_SYNCNT=7
  TCP_USER_TIMEOUT=18 TCP_WINDOW_CLAMP=10 TIPC_ADDR_ID=3 TIPC_ADDR_NAME=2 TIPC_ADDR_NAMESEQ=1
  TIPC_CFG_SRV=0 TIPC_CLUSTER_SCOPE=2 TIPC_CONN_TIMEOUT=130 TIPC_CRITICAL_IMPORTANCE=3
  TIPC_DEST_DROPPABLE=129 TIPC_HIGH_IMPORTANCE=2 TIPC_IMPORTANCE=127 TIPC_LOW_IMPORTANCE=0
  TIPC_MEDIUM_IMPORTANCE=1 TIPC_NODE_SCOPE=3 TIPC_PUBLISHED=1 TIPC_SRC_DROPPABLE=128
  TIPC_SUBSCR_TIMEOUT=3 TIPC_SUB_CANCEL=4 TIPC_SUB_PORTS=1 TIPC_SUB_SERVICE=2 TIPC_TOP_SRV=1
  TIPC_WAIT_FOREVER=-1 TIPC_WITHDRAWN=2 TIPC_ZONE_SCOPE=1 UDPLITE_RECV_CSCOV=11
  UDPLITE_SEND_CSCOV=10 VMADDR_CID_ANY=4294967295 VMADDR_CID_HOST=2 VMADDR_PORT_ANY=4294967295
  VM_SOCKETS_INVALID_VERSION=4294967295", "constant BDADDR_ANY '00:00:00:00:00:00'",
  "constant BDADDR_LOCAL '00:00:00:FF:FF:FF'", "constant has_ipv6 True"]),
  ("_ssl", ["extension", "builtins RAND_add RAND_bytes RAND_pseudo_bytes RAND_status
  _test_decode_cert get_default_verify_paths nid2obj txt2obj", "classes Certificate MemoryBIO
  SSLCertVerificationError=ssl. SSLEOFError=ssl. SSLError=ssl. SSLSession SSLSyscallError=ssl.
  SSLWantReadError=ssl. SSLWantWriteError=ssl. SSLZeroReturnError=ssl. _SSLContext _SSLSocket",
  "numbers ALERT_DESCRIPTION_ACCESS_DENIED=49 ALERT_DESCRIPTION_BAD_CERTIFICATE=42
  ALERT_DESCRIPTION_BAD_CERTIFICATE_HASH_VALUE=114
  ALERT_DESCRIPTION_BAD_CERTIFICATE_STATUS_RESPONSE=113 ALERT_DESCRIPTION_BAD_RECORD_MAC=20
  ALERT_DESCRIPTION_CERTIFICATE_EXPIRED=45 ALERT_DESCRIPTION_CERTIFICATE_REVOKED=44
  ALERT_DESCRIPTION_CERTIFICATE_UNKNOWN=46 ALERT_DESCRIPTION_CERTIFICATE_UNOBTAINABLE=111
  ALERT_DESCRIPTION_CLOSE_NOTIFY=0 ALERT_DESCRIPTION_DECODE_ERROR=50
  ALERT_DESCRIPTION_DECOMPRESSION_FAILURE=30 ALERT_DESCRIPTION_DECRYPT_ERROR=51
  ALERT_DESCRIPTION_HANDSHAKE_FAILURE=40 ALERT_DESCRIPTION_ILLEGAL_PARAMETER=47
  ALERT_DESCRIPTION_INSUFFICIENT_SECURITY=71 ALERT_DESCRIPTION_INTERNAL_ERROR=80
  ALERT_DESCRIPTION_NO_RENEGOTIATION=100 ALERT_DESCRIPTION_PROTOCOL_VERSION=70
  ALERT_DESCRIPTION_RECORD_OVERFLOW=22 ALERT_DESCRIPTION_UNEXPECTED_MESSAGE=10
  ALERT_DESCRIPTION_UNKNOWN_CA=48 ALERT_DESCRIPTION_UNKNOWN_PSK_IDENTITY=115
  ALERT_DESCRIPTION_UNRECOGNIZED_NAME=112 ALERT_DESCRIPTION_UNSUPPORTED_CERTIFICATE=43
  ALERT_DESCRIPTION_UNSUPPORTED_EXTENSION=110 ALERT_DESCRIPTION_USER_CANCELLED=90 CERT_NONE=0
  CERT_OPTIONAL=1 CERT_REQUIRED=2 ENCODING_DER=2 ENCODING_PEM=1 HOSTFLAG_ALWAYS_CHECK_SUBJECT=1
  HOSTFLAG_MULTI_LABEL_WILDCARDS=8 HOSTFLAG_NEVER_CHECK_SUBJECT=32 HOSTFLAG_NO_PARTIAL_WILDCARDS=4
  HOSTFLAG_NO_WILDCARDS=2 HOSTFLAG_SINGLE_LABEL_SUBDOMAINS=16 OPENSSL_VERSION_NUMBER=805306640
  OP_ALL=2147483728 OP_CIPHER_SERVER_PREFERENCE=4194304 OP_ENABLE_MIDDLEBOX_COMPAT=1048576
  OP_IGNORE_UNEXPECTED_EOF=128 OP_NO_COMPRESSION=131072 OP_NO_RENEGOTIATION=1073741824 OP_NO_SSLv2=0
  OP_NO_SSLv3=33554432 OP_NO_TICKET=16384 OP_NO_TLSv1=67108864 OP_NO_TLSv1_1=268435456
  OP_NO_TLSv1_2=134217728 OP_NO_TLSv1_3=536870912 OP_SINGLE_DH_USE=0 OP_SINGLE_ECDH_USE=0
  PROTOCOL_SSLv23=2 PROTOCOL_TLS=2 PROTOCOL_TLS_CLIENT=16 PROTOCOL_TLS_SERVER=17 PROTOCOL_TLSv1=3
  PROTOCOL_TLSv1_1=4 PROTOCOL_TLSv1_2=5 PROTO_MAXIMUM_SUPPORTED=-1 PROTO_MINIMUM_SUPPORTED=-2
  PROTO_SSLv3=768 PROTO_TLSv1=769 PROTO_TLSv1_1=770 PROTO_TLSv1_2=771 PROTO_TLSv1_3=772
  SSL_ERROR_EOF=8 SSL_ERROR_INVALID_ERROR_CODE=10 SSL_ERROR_SSL=1 SSL_ERROR_SYSCALL=5
  SSL_ERROR_WANT_CONNECT=7 SSL_ERROR_WANT_READ=2 SSL_ERROR_WANT_WRITE=3 SSL_ERROR_WANT_X509_LOOKUP=4
  SSL_ERROR_ZERO_RETURN=6 VERIFY_ALLOW_PROXY_CERTS=64 VERIFY_CRL_CHECK_CHAIN=12
  VERIFY_CRL_CHECK_LEAF=4 VERIFY_DEFAULT=0 VERIFY_X509_PARTIAL_CHAIN=524288 VERIFY_X509_STRICT=32
  VERIFY_X509_TRUSTED_FIRST=32768", "constant HAS_ALPN True", "constant HAS_ECDH True",
  "constant HAS_NPN False", "constant HAS_SNI True", "constant HAS_SSLv2 False",
  "constant HAS_SSLv3 False", "constant HAS_TLS_UNIQUE True", "constant HAS_TLSv1 True",
  "constant HAS_TLSv1_1 True", "constant HAS_TLSv1_2 True", "constant HAS_TLSv1_3 True",
  "constant OPENSSL_VERSION 'OpenSSL 3.0.17 1 Jul 2025'",
  "constant OPENSSL_VERSION_INFO (3, 0, 0, 17, 0)",
  "constant _DEFAULT_CIPHERS 'ALL:!COMPLEMENTOFDEFAULT:!eNULL'",
  "constant _OPENSSL_API_VERSION (3, 0, 0, 17, 0)",
  "constant lib_codes_to_names \x7b13: 'ASN1', 51: 'ASYNC', 32: 'BIO', 3: 'BN', 7: 'BUF', 58: ",
  "|'CMP', 46: 'CMS', 41: 'COMP', 14: 'CONF', 56: 'CRMF', 15: 'CRYPTO', 50: 'CT', 5: 'DH', 10:",
  "| 'DSA', 37: 'DSO', 16: 'EC', 43: 'ECDH', 42: 'ECDSA', 38: 'ENGINE', 54: 'ESS', 6: 'EVP', 4",
  "|5: 'FIPS', 48: 'HMAC', 61: 'HTTP', 52: 'KDF', 255: 'MASK', 1: 'NONE', 8: 'OBJ', 39: 'OCSP'",
  "|, 23: 'OFFSET', 60: 'OSSL_DECODER', 59: 'OSSL_ENCODER', 44: 'OSSL_STORE', 9: 'PEM', 35: 'P",
  "|KCS12', 33: 'PKCS7', 55: 'PROP', 57: 'PROV', 36: 'RAND', 4: 'RSA', 53: 'SM2', 20: 'SSL', 2",
  "|: 'SYS', 47: 'TS', 40: 'UI', 128: 'USER', 11: 'X509', 34: 'X509V3'\x7d"]),
  ("base64", ["functions _85encode _b32decode _b32encode _bytes_from_decode_data _input_type_check
  a85decode a85encode b16decode b16encode b32decode b32encode b32hexdecode b32hexencode b64decode
  b64encode b85decode b85encode decode decodebytes encode encodebytes main standard_b64decode
  standard_b64encode test urlsafe_b64decode urlsafe_b64encode", "modules binascii= re= struct=",
  "numbers MAXBINSIZE=57 MAXLINESIZE=76", "constant _A85END b'~>'", "constant _A85START b'<~'",
  "constant _B32_DECODE_DOCSTRING '\\nDecode the \x7bencoding\x7d encoded bytes-like object or",
  "| ASCII string s.\\n\\nOptional casefold is a flag specifying whether a lowercase alphabet ",
  "|is\\nacceptable as input.  For security purposes, the default is False.\\n\x7bextra_args",
  "|\x7d\\nThe result is returned as a bytes object.  A binascii.Error is raised if\\nthe inpu",
  "|t is incorrectly padded or if there are non-alphabet\\ncharacters present in the input.\\n",
  "|'",
  "constant _B32_DECODE_MAP01_DOCSTRING '\\nRFC 3548 allows for optional mapping of the digit ",
  "|0 (zero) to the\\nletter O (oh), and for optional mapping of the digit 1 (one) to\\neither",
  "| the letter I (eye) or letter L (el).  The optional argument\\nmap01 when not None, specif",
  "|ies which letter the digit 1 should be\\nmapped to (when map01 is not None, the digit 0 is",
  "| always mapped to\\nthe letter O).  For security purposes the default is None, so that\\n0",
  "| and 1 are not allowed in the input.\\n'",
  "constant _B32_ENCODE_DOCSTRING '\\nEncode the bytes-like objects using \x7bencoding\x7d and",
  "| return a bytes object.\\n'", "constant _a85chars None", "constant _a85chars2 None",
  "constant _b32alphabet b'ABCDEFGHIJKLMNOPQRSTUVWXYZ234567'",
  "constant _b32hexalphabet b'0123456789ABCDEFGHIJKLMNOPQRSTUV'", "constant _b32rev \x7b\x7d",
  "constant _b32tab2 \x7b\x7d",
  "constant _b85alphabet b'0123456789ABCDEFGHIJKLMNOPQRSTUVWXYZabcdefghijklmnopqrstuvwxyz!#$%&",
  "|()*+-;<=>?@^_`\x7b|\x7d~'", "constant _b85chars None", "constant _b85chars2 None",
  "constant _b85dec None",
  "constant _urlsafe_decode_translation b'\\x00\\x01\\x02\\x03\\x04\\x05\\x06\\x07\\x08\\t\\n",
  "|\\x0b\\x0c\\r\\x0e\\x0f\\x10\\x11\\x12\\x13\\x14\\x15\\x16\\x17\\x18\\x19\\x1a\\x1b\\x1c\\",
  "|x1d\\x1e\\x1f !\"#$%&\\'()*+,+./0123456789:;<=>?@ABCDEFGHIJKLMNOPQRSTUVWXYZ[\\\\]^/`abcdef",
  "|ghijklmnopqrstuvwxyz\x7b|\x7d~\\x7f\\x80\\x81\\x82\\x83\\x84\\x85\\x86\\x87\\x88\\x89\\x8a",
  "|\\x8b\\x8c\\x8d\\x8e\\x8f\\x90\\x91\\x92\\x93\\x94\\x95\\x96\\x97\\x98\\x99\\x9a\\x9b\\x9c",
  "|\\x9d\\x9e\\x9f\\xa0\\xa1\\xa2\\xa3\\xa4\\xa5\\xa6\\xa7\\xa8\\xa9\\xaa\\xab\\xac\\xad\\xae",
  "|\\xaf\\xb0\\xb1\\xb2\\xb3\\xb4\\xb5\\xb6\\xb7\\xb8\\xb9\\xba\\xbb\\xbc\\xbd\\xbe\\xbf\\xc0",
  "|\\xc1\\xc2\\xc3\\xc4\\xc5\\xc6\\xc7\\xc8\\xc9\\xca\\xcb\\xcc\\xcd\\xce\\xcf\\xd0\\xd1\\xd2",
  "|\\xd3\\xd4\\xd5\\xd6\\xd7\\xd8\\xd9\\xda\\xdb\\xdc\\xdd\\xde\\xdf\\xe0\\xe1\\xe2\\xe3\\xe4",
  "|\\xe5\\xe6\\xe7\\xe8\\xe9\\xea\\xeb\\xec\\xed\\xee\\xef\\xf0\\xf1\\xf2\\xf3\\xf4\\xf5\\xf6",
  "|\\xf7\\xf8\\xf9\\xfa\\xfb\\xfc\\xfd\\xfe\\xff'",
  "constant _urlsafe_encode_translation b'\\x00\\x01\\x02\\x03\\x04\\x05\\x06\\x07\\x08\\t\\n",
  "|\\x0b\\x0c\\r\\x0e\\x0f\\x10\\x11\\x12\\x13\\x14\\x15\\x16\\x17\\x18\\x19\\x1a\\x1b\\x1c\\",
  "|x1d\\x1e\\x1f !\"#$%&\\'()*-,-._0123456789:;<=>?@ABCDEFGHIJKLMNOPQRSTUVWXYZ[\\\\]^_`abcdef",
  "|ghijklmnopqrstuvwxyz\x7b|\x7d~\\x7f\\x80\\x81\\x82\\x83\\x84\\x85\\x86\\x87\\x88\\x89\\x8a",
  "|\\x8b\\x8c\\x8d\\x8e\\x8f\\x90\\x91\\x92\\x93\\x94\\x95\\x96\\x97\\x98\\x99\\x9a\\x9b\\x9c",
  "|\\x9d\\x9e\\x9f\\xa0\\xa1\\xa2\\xa3\\xa4\\xa5\\xa6\\xa7\\xa8\\xa9\\xaa\\xab\\xac\\xad\\xae",
  "|\\xaf\\xb0\\xb1\\xb2\\xb3\\xb4\\xb5\\xb6\\xb7\\xb8\\xb9\\xba\\xbb\\xbc\\xbd\\xbe\\xbf\\xc0",
  "|\\xc1\\xc2\\xc3\\xc4\\xc5\\xc6\\xc7\\xc8\\xc9\\xca\\xcb\\xcc\\xcd\\xce\\xcf\\xd0\\xd1\\xd2",
  "|\\xd3\\xd4\\xd5\\xd6\\xd7\\xd8\\xd9\\xda\\xdb\\xdc\\xdd\\xde\\xdf\\xe0\\xe1\\xe2\\xe3\\xe4",
  "|\\xe5\\xe6\\xe7\\xe8\\xe9\\xea\\xeb\\xec\\xed\\xee\\xef\\xf0\\xf1\\xf2\\xf3\\xf4\\xf5\\xf6",
  "|\\xf7\\xf8\\xf9\\xfa\\xfb\\xfc\\xfd\\xfe\\xff'", "constant bytes_types (bytes, bytearray)",
  "exports encode decode encodebytes decodebytes b64encode b64decode b32encode b32decode
  b32hexencode b32hexdecode b16encode b16decode b85encode b85decode a85encode a85decode
  standard_b64encode standard_b64decode urlsafe_b64encode urlsafe_b64decode"]),
  ("binascii", ["built-in", "builtins a2b_base64 a2b_hex a2b_qp a2b_uu b2a_base64 b2a_hex b2a_qp
  b2a_uu crc32 crc_hqx hexlify unhexlify", "classes Error Incomplete"]),
  ("cgi", ["functions _parseparam closelog dolog initlog log nolog parse parse_header
  parse_multipart print_arguments print_directory print_environ print_environ_usage print_exception
  print_form test valid_boundary", "classes BytesIO=_io. FeedParser=email.feedparser. FieldStorage
  Mapping=collections.abc. Message=email.message. MiniFieldStorage StringIO=_io.
  TextIOWrapper=_io.", "modules html= locale= os= sys= tempfile= urllib= warnings=",
  "numbers maxlen=0", "constant __version__ '2.6'", "constant logfile ''", "constant logfp None",
  "exports MiniFieldStorage FieldStorage parse parse_multipart parse_header test print_exception
  print_environ print_form print_directory print_arguments print_environ_usage"]),
  ("cgitb", ["brings _sysconfigdata__x86_64-linux-gnu", "functions enable grey html
  html_escape=html:escape lookup reset scanvars small strong text", "classes Hook",
  "objects handler=method", "modules inspect= keyword= linecache= os= pydoc= sys= tempfile= time=
  tokenize= traceback= warnings=", "constant __UNDEF__ []"]),
  ("ftplib", ["functions ftpcp parse150 parse227 parse229 parse257 print_line test", "classes Error
  FTP FTP_TLS _SSLSocket=ssl.SSLSocket error_perm error_proto error_reply error_temp",
  "objects _GLOBAL_DEFAULT_TIMEOUT=object", "modules socket= ssl= sys=", "numbers FTP_PORT=21
  MAXLINE=8192 MSG_OOB=1", "constant B_CRLF b'\\r\\n'", "constant CRLF '\\r\\n'",
  "constant _150_re None", "constant _227_re None",
  "constant all_errors (ftplib.Error, OSError, EOFError, ssl.SSLError)", "exports FTP error_reply
  error_temp error_perm error_proto all_errors FTP_TLS"]),
  ("hashlib", ["functions __get_builtin_constructor file_digest new=hashlib:__hash_new",
  "builtins md5=_hashlib:openssl_md5 pbkdf2_hmac=_hashlib: scrypt=_hashlib:
  sha1=_hashlib:openssl_sha1 sha224=_hashlib:openssl_sha224 sha256=_hashlib:openssl_sha256
  sha384=_hashlib:openssl_sha384 sha3_224=_hashlib:openssl_sha3_224
  sha3_256=_hashlib:openssl_sha3_256 sha3_384=_hashlib:openssl_sha3_384
  sha3_512=_hashlib:openssl_sha3_512 sha512=_hashlib:openssl_sha512
  shake_128=_hashlib:openssl_shake_128 shake_256=_hashlib:openssl_shake_256",
  "classes blake2b=_blake2. blake2s=_blake2.", "objects __block_openssl_constructor=set
  algorithms_available=set algorithms_guaranteed=set", "modules _hashlib=",
  "constant __all__ ('md5', 'sha1', 'sha224', 'sha256', 'sha384', 'sha512', 'blake2b', 'blake2",
  "|s', 'sha3_224', 'sha3_256', 'sha3_384', 'sha3_512', 'shake_128', 'shake_256', 'new', 'algo",
  "|rithms_guaranteed', 'algorithms_available', 'pbkdf2_hmac', 'file_digest')",
  "constant __builtin_constructor_cache \x7b'blake2b': _blake2.blake2b, 'blake2s': _blake2.bla",
  "|ke2s\x7d"]),
  ("hmac", ["functions digest new", "builtins compare_digest=_hashlib:", "classes HMAC
  _functype=builtin_function_or_method", "modules _hashlib=hashlib _hashopenssl=_hashlib
  _warnings=warnings", "constant digest_size None",
  "constant trans_36 b'67452301>?<=:;89&\\'$%\"# !./,-*+()\\x16\\x17\\x14\\x15\\x12\\x13\\x10",
  "|\\x11\\x1e\\x1f\\x1c\\x1d\\x1a\\x1b\\x18\\x19\\x06\\x07\\x04\\x05\\x02\\x03\\x00\\x01\\x0e",
  "|\\x0f\\x0c\\r\\n\\x0b\\x08\\tvwturspq~\\x7f|\x7dz\x7bxyfgdebc`anolmjkhiVWTURSPQ^_\\\\]Z[XY",
  "|FGDEBC@ANOLMJKHI\\xb6\\xb7\\xb4\\xb5\\xb2\\xb3\\xb0\\xb1\\xbe\\xbf\\xbc\\xbd\\xba\\xbb\\xb",
  "|8\\xb9\\xa6\\xa7\\xa4\\xa5\\xa2\\xa3\\xa0\\xa1\\xae\\xaf\\xac\\xad\\xaa\\xab\\xa8\\xa9\\x9",
  "|6\\x97\\x94\\x95\\x92\\x93\\x90\\x91\\x9e\\x9f\\x9c\\x9d\\x9a\\x9b\\x98\\x99\\x86\\x87\\x8",
  "|4\\x85\\x82\\x83\\x80\\x81\\x8e\\x8f\\x8c\\x8d\\x8a\\x8b\\x88\\x89\\xf6\\xf7\\xf4\\xf5\\xf",
  "|2\\xf3\\xf0\\xf1\\xfe\\xff\\xfc\\xfd\\xfa\\xfb\\xf8\\xf9\\xe6\\xe7\\xe4\\xe5\\xe2\\xe3\\xe",
  "|0\\xe1\\xee\\xef\\xec\\xed\\xea\\xeb\\xe8\\xe9\\xd6\\xd7\\xd4\\xd5\\xd2\\xd3\\xd0\\xd1\\xd",
  "|e\\xdf\\xdc\\xdd\\xda\\xdb\\xd8\\xd9\\xc6\\xc7\\xc4\\xc5\\xc2\\xc3\\xc0\\xc1\\xce\\xcf\\xc",
  "|c\\xcd\\xca\\xcb\\xc8\\xc9'",
  "constant trans_5C b'\\\\]^_XYZ[TUVWPQRSLMNOHIJKDEFG@ABC|\x7d~\\x7fxyz\x7btuvwpqrslmnohijkde",
  "|fg`abc\\x1c\\x1d\\x1e\\x1f\\x18\\x19\\x1a\\x1b\\x14\\x15\\x16\\x17\\x10\\x11\\x12\\x13\\x0",
  "|c\\r\\x0e\\x0f\\x08\\t\\n\\x0b\\x04\\x05\\x06\\x07\\x00\\x01\\x02\\x03<=>?89:;45670123,-./",
  "|()*+$%&\\' !\"#\\xdc\\xdd\\xde\\xdf\\xd8\\xd9\\xda\\xdb\\xd4\\xd5\\xd6\\xd7\\xd0\\xd1\\xd2",
  "|\\xd3\\xcc\\xcd\\xce\\xcf\\xc8\\xc9\\xca\\xcb\\xc4\\xc5\\xc6\\xc7\\xc0\\xc1\\xc2\\xc3\\xfc",
  "|\\xfd\\xfe\\xff\\xf8\\xf9\\xfa\\xfb\\xf4\\xf5\\xf6\\xf7\\xf0\\xf1\\xf2\\xf3\\xec\\xed\\xee",
  "|\\xef\\xe8\\xe9\\xea\\xeb\\xe4\\xe5\\xe6\\xe7\\xe0\\xe1\\xe2\\xe3\\x9c\\x9d\\x9e\\x9f\\x98",
  "|\\x99\\x9a\\x9b\\x94\\x95\\x96\\x97\\x90\\x91\\x92\\x93\\x8c\\x8d\\x8e\\x8f\\x88\\x89\\x8a",
  "|\\x8b\\x84\\x85\\x86\\x87\\x80\\x81\\x82\\x83\\xbc\\xbd\\xbe\\xbf\\xb8\\xb9\\xba\\xbb\\xb4",
  "|\\xb5\\xb6\\xb7\\xb0\\xb1\\xb2\\xb3\\xac\\xad\\xae\\xaf\\xa8\\xa9\\xaa\\xab\\xa4\\xa5\\xa6",
  "|\\xa7\\xa0\\xa1\\xa2\\xa3'"]),
  ("html", ["package", "functions _replace_charref escape unescape",
  "objects _invalid_codepoints=set", "holders _charref=re.Pattern", "modules _re=re entities",
  "constant _invalid_charrefs \x7b0: '\\ufffd', 13: '\\r', 128: '\\u20ac', 129: '\\x81', 130: ",
  "|'\\u201a', 131: '\\u0192', 132: '\\u201e', 133: '\\u2026', 134: '\\u2020', 135: '\\u2021',",
  "| 136: '\\u02c6', 137: '\\u2030', 138: '\\u0160', 139: '\\u2039', 140: '\\u0152', 141: '\\x",
  "|8d', 142: '\\u017d', 143: '\\x8f', 144: '\\x90', 145: '\\u2018', 146: '\\u2019', 147: '\\u",
  "|201c', 148: '\\u201d', 149: '\\u2022', 150: '\\u2013', 151: '\\u2014', 152: '\\u02dc', 153",
  "|: '\\u2122', 154: '\\u0161', 155: '\\u203a', 156: '\\u0153', 157: '\\x9d', 158: '\\u017e',",
  "| 159: '\\u0178'\x7d", "exports escape unescape", "same _html5=html.entities.html5",
  "part _charref.groups 1",
  "part _charref.pattern '&(#[0-9]+;?|#[xX][0-9a-fA-F]+;?|[^\\\\t\\\\n\\\\f <&#;]\x7b1,32\x7d;",
  "|?)'"]),
  ("html.entities", [
  "constant name2codepoint \x7b'AElig': 198, 'Aacute': 193, 'Acirc': 194, 'Agrave': 192, 'Alph",
  "|a': 913, 'Aring': 197, 'Atilde': 195, 'Auml': 196, 'Beta': 914, 'Ccedil': 199, 'Chi': 935,",
  "| 'Dagger': 8225, 'Delta': 916, 'ETH': 208, 'Eacute': 201, 'Ecirc': 202, 'Egrave': 200, 'Ep",
  "|silon': 917, 'Eta': 919, 'Euml': 203, 'Gamma': 915, 'Iacute': 205, 'Icirc': 206, 'Igrave':",
  "| 204, 'Iota': 921, 'Iuml': 207, 'Kappa': 922, 'Lambda': 923, 'Mu': 924, 'Ntilde': 209, 'Nu",
  "|': 925, 'OElig': 338, 'Oacute': 211, 'Ocirc': 212, 'Ograve': 210, 'Omega': 937, 'Omicron':",
  "| 927, 'Oslash': 216, 'Otilde': 213, 'Ouml': 214, 'Phi': 934, 'Pi': 928, 'Prime': 8243, 'Ps",
  "|i': 936, 'Rho': 929, 'Scaron': 352, 'Sigma': 931, 'THORN': 222, 'Tau': 932, 'Theta': 920, ",
  "|'Uacute': 218, 'Ucirc': 219, 'Ugrave': 217, 'Upsilon': 933, 'Uuml': 220, 'Xi': 926, 'Yacut",
  "|e': 221, 'Yuml': 376, 'Zeta': 918, 'aacute': 225, 'acirc': 226, 'acute': 180, 'aelig': 230",
  "|, 'agrave': 224, 'alefsym': 8501, 'alpha': 945, 'amp': 38, 'and': 8743, 'ang': 8736, 'arin",
  "|g': 229, 'asymp': 8776, 'atilde': 227, 'auml': 228, 'bdquo': 8222, 'beta': 946, 'brvbar': ",
  "|166, 'bull': 8226, 'cap': 8745, 'ccedil': 231, 'cedil': 184, 'cent': 162, 'chi': 967, 'cir",
  "|c': 710, 'clubs': 9827, 'cong': 8773, 'copy': 169, 'crarr': 8629, 'cup': 8746, 'curren': 1",
  "|64, 'dArr': 8659, 'dagger': 8224, 'darr': 8595, 'deg': 176, 'delta': 948, 'diams': 9830, '",
  "|divide': 247, 'eacute': 233, 'ecirc': 234, 'egrave': 232, 'empty': 8709, 'emsp': 8195, 'en",
  "|sp': 8194, 'epsilon': 949, 'equiv': 8801, 'eta': 951, 'eth': 240, 'euml': 235, 'euro': 836",
  "|4, 'exist': 8707, 'fnof': 402, 'forall': 8704, 'frac12': 189, 'frac14': 188, 'frac34': 190",
  "|, 'frasl': 8260, 'gamma': 947, 'ge': 8805, 'gt': 62, 'hArr': 8660, 'harr': 8596, 'hearts':",
  "| 9829, 'hellip': 8230, 'iacute': 237, 'icirc': 238, 'iexcl': 161, 'igrave': 236, 'image': ",
  "|8465, 'infin': 8734, 'int': 8747, 'iota': 953, 'iquest': 191, 'isin': 8712, 'iuml': 239, '",
  "|kappa': 954, 'lArr': 8656, 'lambda': 955, 'lang': 9001, 'laquo': 171, 'larr': 8592, 'lceil",
  "|': 8968, 'ldquo': 8220, 'le': 8804, 'lfloor': 8970, 'lowast': 8727, 'loz': 9674, 'lrm': 82",
  "|06, 'lsaquo': 8249, 'lsquo': 8216, 'lt': 60, 'macr': 175, 'mdash': 8212, 'micro': 181, 'mi",
  "|ddot': 183, 'minus': 8722, 'mu': 956, 'nabla': 8711, 'nbsp': 160, 'ndash': 8211, 'ne': 880",
  "|0, 'ni': 8715, 'not': 172, 'notin': 8713, 'nsub': 8836, 'ntilde': 241, 'nu': 957, 'oacute'",
  "|: 243, 'ocirc': 244, 'oelig': 339, 'ograve': 242, 'oline': 8254, 'omega': 969, 'omicron': ",
  "|959, 'oplus': 8853, 'or': 8744, 'ordf': 170, 'ordm': 186, 'oslash': 248, 'otilde': 245, 'o",
  "|times': 8855, 'ouml': 246, 'para': 182, 'part': 8706, 'permil': 8240, 'perp': 8869, 'phi':",
  "| 966, 'pi': 960, 'piv': 982, 'plusmn': 177, 'pound': 163, 'prime': 8242, 'prod': 8719, 'pr",
  "|op': 8733, 'psi': 968, 'quot': 34, 'rArr': 8658, 'radic': 8730, 'rang': 9002, 'raquo': 187",
  "|, 'rarr': 8594, 'rceil': 8969, 'rdquo': 8221, 'real': 8476, 'reg': 174, 'rfloor': 8971, 'r",
  "|ho': 961, 'rlm': 8207, 'rsaquo': 8250, 'rsquo': 8217, 'sbquo': 8218, 'scaron': 353, 'sdot'",
  "|: 8901, 'sect': 167, 'shy': 173, 'sigma': 963, 'sigmaf': 962, 'sim': 8764, 'spades': 9824,",
  "| 'sub': 8834, 'sube': 8838, 'sum': 8721, 'sup': 8835, 'sup1': 185, 'sup2': 178, 'sup3': 17",
  "|9, 'supe': 8839, 'szlig': 223, 'tau': 964, 'there4': 8756, 'theta': 952, 'thetasym': 977, ",
  "|'thinsp': 8201, 'thorn': 254, 'tilde': 732, 'times': 215, 'trade': 8482, 'uArr': 8657, 'ua",
  "|cute': 250, 'uarr': 8593, 'ucirc': 251, 'ugrave': 249, 'uml': 168, 'upsih': 978, 'upsilon'",
  "|: 965, 'uuml': 252, 'weierp': 8472, 'xi': 958, 'yacute': 253, 'yen': 165, 'yuml': 255, 'ze",
  "|ta': 950, 'zwj': 8205, 'zwnj': 8204\x7d", "exports html5 name2codepoint codepoint2name
  entitydefs", "objects codepoint2name=dict entitydefs=dict html5=dict"]),
  ("html.parser", ["functions unescape=html:", "classes HTMLParser",
  "holders attrfind_tolerant=re.Pattern charref=re.Pattern commentclose=re.Pattern
  endendtag=re.Pattern endtagfind=re.Pattern entityref=re.Pattern incomplete=re.Pattern
  interesting_normal=re.Pattern locatestarttagend_tolerant=re.Pattern starttagopen=re.Pattern
  tagfind_tolerant=re.Pattern", "same piclose=html.parser.endendtag", "modules _markupbase= re=",
  "exports HTMLParser", "part attrfind_tolerant.groups 3",
  "part attrfind_tolerant.pattern '((?<=[\\\\\\'\"\\\\s/])[^\\\\s/>][^\\\\s/=>]*)(\\\\s*=+\\\\",
  "|s*(\\\\\\'[^\\\\\\']*\\\\\\'|\"[^\"]*\"|(?![\\\\\\'\"])[^>\\\\s]*))?(?:\\\\s|/(?!>))*'",
  "part charref.pattern '&#(?:[0-9]+|[xX][0-9a-fA-F]+)[^0-9a-fA-F]'",
  "part commentclose.pattern '--\\\\s*>'", "part endendtag.pattern '>'", "part endtagfind.groups 1",
  "part endtagfind.pattern '</\\\\s*([a-zA-Z][-.a-zA-Z0-9:_]*)\\\\s*>'", "part entityref.groups 1",
  "part entityref.pattern '&([a-zA-Z][-.a-zA-Z0-9]*)[^a-zA-Z0-9]'",
  "part incomplete.pattern '&[a-zA-Z#]'", "part interesting_normal.pattern '[&<]'",
  "part locatestarttagend_tolerant.flags 96",
  "part locatestarttagend_tolerant.pattern '\\n  <[a-zA-Z][^\\\\t\\\\n\\\\r\\\\f />\\\\x00]*  ",
  "|     # tag name\\n  (?:[\\\\s/]*                          # optional whitespace before att",
  "|ribute name\\n    (?:(?<=[\\'\"\\\\s/])[^\\\\s/>][^\\\\s/=>]*  # attribute name\\n      (?",
  "|:\\\\s*=+\\\\s*                    # value indicator\\n        (?:\\'[^\\']*\\'           ",
  "|        # LITA-enclosed value\\n          |\"[^\"]*\"                   # LIT-enclosed val",
  "|ue\\n          |(?![\\'\"])[^>\\\\s]*           # bare value\\n         )\\n        \\\\s*",
  "|                          # possibly followed by a space\\n       )?(?:\\\\s|/(?!>))*\\n  ",
  "|   )*\\n   )?\\n  \\\\s*                                # trailing whitespace\\n'",
  "part starttagopen.pattern '<[a-zA-Z]'", "part tagfind_tolerant.groups 1",
  "part tagfind_tolerant.pattern '([a-zA-Z][^\\\\t\\\\n\\\\r\\\\f />\\\\x00]*)(?:\\\\s|/(?!>))",
  "|*'"]),
  ("http", ["package", "functions _simple_enum=enum:", "classes HTTPMethod HTTPStatus IntEnum=enum.
  StrEnum=enum.", "constant __doc__ None", "exports HTTPStatus HTTPMethod"]),
  ("http.client", ["functions _encode _read_headers _strip_ipv6_iface parse_headers",
  "classes BadStatusLine CannotSendHeader CannotSendRequest HTTPConnection HTTPException HTTPMessage
  HTTPResponse HTTPSConnection ImproperConnectionState IncompleteRead InvalidURL LineTooLong
  NotConnected RemoteDisconnected ResponseNotReady UnimplementedFileMode UnknownProtocol
  UnknownTransferEncoding error=http.client.HTTPException", "objects _METHODS_EXPECTING_BODY=set
  _is_illegal_header_value=builtin_method _is_legal_header_name=builtin_method
  urlsplit=functools._lru_cache_wrapper", "holders _contains_disallowed_method_pchar_re=re.Pattern
  _contains_disallowed_url_pchar_re=re.Pattern", "modules collections= email= errno= http= io= re=
  socket= ssl= sys=",
  "members-of http.HTTPStatus ACCEPTED ALREADY_REPORTED BAD_GATEWAY BAD_REQUEST CONFLICT",
  "members-of http.HTTPStatus CONTINUE CREATED EARLY_HINTS EXPECTATION_FAILED",
  "members-of http.HTTPStatus FAILED_DEPENDENCY FORBIDDEN FOUND GATEWAY_TIMEOUT GONE",
  "members-of http.HTTPStatus HTTP_VERSION_NOT_SUPPORTED IM_A_TEAPOT IM_USED",
  "members-of http.HTTPStatus INSUFFICIENT_STORAGE INTERNAL_SERVER_ERROR LENGTH_REQUIRED",
  "members-of http.HTTPStatus LOCKED LOOP_DETECTED METHOD_NOT_ALLOWED MISDIRECTED_REQUEST",
  "members-of http.HTTPStatus MOVED_PERMANENTLY MULTIPLE_CHOICES MULTI_STATUS",
  "members-of http.HTTPStatus NETWORK_AUTHENTICATION_REQUIRED NON_AUTHORITATIVE_INFORMATION",
  "members-of http.HTTPStatus NOT_ACCEPTABLE NOT_EXTENDED NOT_FOUND NOT_IMPLEMENTED",
  "members-of http.HTTPStatus NOT_MODIFIED NO_CONTENT OK PARTIAL_CONTENT PAYMENT_REQUIRED",
  "members-of http.HTTPStatus PERMANENT_REDIRECT PRECONDITION_FAILED PRECONDITION_REQUIRED",
  "members-of http.HTTPStatus PROCESSING PROXY_AUTHENTICATION_REQUIRED",
  "members-of http.HTTPStatus REQUESTED_RANGE_NOT_SATISFIABLE REQUEST_ENTITY_TOO_LARGE",
  "members-of http.HTTPStatus REQUEST_HEADER_FIELDS_TOO_LARGE REQUEST_TIMEOUT",
  "members-of http.HTTPStatus REQUEST_URI_TOO_LONG RESET_CONTENT SEE_OTHER SERVICE_UNAVAILABLE",
  "members-of http.HTTPStatus SWITCHING_PROTOCOLS TEMPORARY_REDIRECT TOO_EARLY",
  "members-of http.HTTPStatus TOO_MANY_REQUESTS UNAUTHORIZED UNAVAILABLE_FOR_LEGAL_REASONS",
  "members-of http.HTTPStatus UNPROCESSABLE_ENTITY UNSUPPORTED_MEDIA_TYPE UPGRADE_REQUIRED",
  "members-of http.HTTPStatus USE_PROXY VARIANT_ALSO_NEGOTIATES", "numbers HTTPS_PORT=443
  HTTP_PORT=80 _MAXHEADERS=100 _MAXLINE=65536", "constant _CS_IDLE 'Idle'",
  "constant _CS_REQ_SENT 'Request-sent'", "constant _CS_REQ_STARTED 'Request-started'",
  "constant _UNKNOWN 'UNKNOWN'",
  "constant responses \x7bhttp.HTTPStatus.CONTINUE: 'Continue', http.HTTPStatus.SWITCHING_PROT",
  "|OCOLS: 'Switching Protocols', http.HTTPStatus.PROCESSING: 'Processing', http.HTTPStatus.EA",
  "|RLY_HINTS: 'Early Hints', http.HTTPStatus.OK: 'OK', http.HTTPStatus.CREATED: 'Created', ht",
  "|tp.HTTPStatus.ACCEPTED: 'Accepted', http.HTTPStatus.NON_AUTHORITATIVE_INFORMATION: 'Non-Au",
  "|thoritative Information', http.HTTPStatus.NO_CONTENT: 'No Content', http.HTTPStatus.RESET_",
  "|CONTENT: 'Reset Content', http.HTTPStatus.PARTIAL_CONTENT: 'Partial Content', http.HTTPSta",
  "|tus.MULTI_STATUS: 'Multi-Status', http.HTTPStatus.ALREADY_REPORTED: 'Already Reported', ht",
  "|tp.HTTPStatus.IM_USED: 'IM Used', http.HTTPStatus.MULTIPLE_CHOICES: 'Multiple Choices', ht",
  "|tp.HTTPStatus.MOVED_PERMANENTLY: 'Moved Permanently', http.HTTPStatus.FOUND: 'Found', http",
  "|.HTTPStatus.SEE_OTHER: 'See Other', http.HTTPStatus.NOT_MODIFIED: 'Not Modified', http.HTT",
  "|PStatus.USE_PROXY: 'Use Proxy', http.HTTPStatus.TEMPORARY_REDIRECT: 'Temporary Redirect', ",
  "|http.HTTPStatus.PERMANENT_REDIRECT: 'Permanent Redirect', http.HTTPStatus.BAD_REQUEST: 'Ba",
  "|d Request', http.HTTPStatus.UNAUTHORIZED: 'Unauthorized', http.HTTPStatus.PAYMENT_REQUIRED",
  "|: 'Payment Required', http.HTTPStatus.FORBIDDEN: 'Forbidden', http.HTTPStatus.NOT_FOUND: '",
  "|Not Found', http.HTTPStatus.METHOD_NOT_ALLOWED: 'Method Not Allowed', http.HTTPStatus.NOT_",
  "|ACCEPTABLE: 'Not Acceptable', http.HTTPStatus.PROXY_AUTHENTICATION_REQUIRED: 'Proxy Authen",
  "|tication Required', http.HTTPStatus.REQUEST_TIMEOUT: 'Request Timeout', http.HTTPStatus.CO",
  "|NFLICT: 'Conflict', http.HTTPStatus.GONE: 'Gone', http.HTTPStatus.LENGTH_REQUIRED: 'Length",
  "| Required', http.HTTPStatus.PRECONDITION_FAILED: 'Precondition Failed', http.HTTPStatus.RE",
  "|QUEST_ENTITY_TOO_LARGE: 'Request Entity Too Large', http.HTTPStatus.REQUEST_URI_TOO_LONG: ",
  "|'Request-URI Too Long', http.HTTPStatus.UNSUPPORTED_MEDIA_TYPE: 'Unsupported Media Type', ",
  "|http.HTTPStatus.REQUESTED_RANGE_NOT_SATISFIABLE: 'Requested Range Not Satisfiable', http.H",
  "|TTPStatus.EXPECTATION_FAILED: 'Expectation Failed', http.HTTPStatus.IM_A_TEAPOT: \"I'm a T",
  "|eapot\", http.HTTPStatus.MISDIRECTED_REQUEST: 'Misdirected Request', http.HTTPStatus.UNPRO",
  "|CESSABLE_ENTITY: 'Unprocessable Entity', http.HTTPStatus.LOCKED: 'Locked', http.HTTPStatus",
  "|.FAILED_DEPENDENCY: 'Failed Dependency', http.HTTPStatus.TOO_EARLY: 'Too Early', http.HTTP",
  "|Status.UPGRADE_REQUIRED: 'Upgrade Required', http.HTTPStatus.PRECONDITION_REQUIRED: 'Preco",
  "|ndition Required', http.HTTPStatus.TOO_MANY_REQUESTS: 'Too Many Requests', http.HTTPStatus",
  "|.REQUEST_HEADER_FIELDS_TOO_LARGE: 'Request Header Fields Too Large', http.HTTPStatus.UNAVA",
  "|ILABLE_FOR_LEGAL_REASONS: 'Unavailable For Legal Reasons', http.HTTPStatus.INTERNAL_SERVER",
  "|_ERROR: 'Internal Server Error', http.HTTPStatus.NOT_IMPLEMENTED: 'Not Implemented', http.",
  "|HTTPStatus.BAD_GATEWAY: 'Bad Gateway', http.HTTPStatus.SERVICE_UNAVAILABLE: 'Service Unava",
  "|ilable', http.HTTPStatus.GATEWAY_TIMEOUT: 'Gateway Timeout', http.HTTPStatus.HTTP_VERSION_",
  "|NOT_SUPPORTED: 'HTTP Version Not Supported', http.HTTPStatus.VARIANT_ALSO_NEGOTIATES: 'Var",
  "|iant Also Negotiates', http.HTTPStatus.INSUFFICIENT_STORAGE: 'Insufficient Storage', http.",
  "|HTTPStatus.LOOP_DETECTED: 'Loop Detected', http.HTTPStatus.NOT_EXTENDED: 'Not Extended', h",
  "|ttp.HTTPStatus.NETWORK_AUTHENTICATION_REQUIRED: 'Network Authentication Required'\x7d",
  "exports HTTPResponse HTTPConnection HTTPException NotConnected UnknownProtocol
  UnknownTransferEncoding UnimplementedFileMode IncompleteRead InvalidURL ImproperConnectionState
  CannotSendRequest CannotSendHeader ResponseNotReady BadStatusLine LineTooLong RemoteDisconnected
  error responses HTTPSConnection",
  "part _contains_disallowed_method_pchar_re.pattern '[\\x00-\\x1f]'",
  "part _contains_disallowed_url_pchar_re.pattern '[\\x00- \\x7f]'"]),
  ("http.cookiejar", ["functions _debug _str2time _timegm _warn_unhandled_exception deepvalues
  domain_match eff_request_host escape_path http2time is_HDN is_third_party iso2time
  join_header_words liberal_is_HDN lwp_cookie_str offset_from_tz_string parse_ns_headers reach
  request_host request_path request_port split_header_words strip_quotes time2isoz time2netscape
  timegm=calendar: unmatched uppercase_escaped_char user_domain_match", "classes Absent Cookie
  CookieJar CookiePolicy DefaultCookiePolicy FileCookieJar LWPCookieJar LoadError MozillaCookieJar",
  "holders ESCAPED_CHAR_RE=re.Pattern HEADER_ESCAPE_RE=re.Pattern HEADER_JOIN_ESCAPE_RE=re.Pattern
  HEADER_QUOTED_VALUE_RE=re.Pattern HEADER_TOKEN_RE=re.Pattern HEADER_VALUE_RE=re.Pattern
  IPV4_RE=re.Pattern ISO_DATE_RE=re.Pattern LOOSE_HTTP_DATE_RE=re.Pattern
  NETSCAPE_MAGIC_RGX=re.Pattern STRICT_DATE_RE=re.Pattern TIMEZONE_RE=re.Pattern
  WEEKDAY_RE=re.Pattern cut_port_re=re.Pattern", "modules _threading=threading copy= datetime= http=
  os= re= time= urllib=", "numbers EPOCH_YEAR=1970",
  "constant DAYS ['Mon', 'Tue', 'Wed', 'Thu', 'Fri', 'Sat', 'Sun']",
  "constant DEFAULT_HTTP_PORT '80'", "constant HTTPONLY_ATTR 'HTTPOnly'",
  "constant HTTPONLY_PREFIX '#HttpOnly_'", "constant HTTP_PATH_SAFE \"%/;:@&=+$,!~*'()\"",
  "constant MISSING_FILENAME_TEXT 'a filename was not supplied (nor was the CookieJar instance",
  "| initialised with one)'",
  "constant MONTHS ['Jan', 'Feb', 'Mar', 'Apr', 'May', 'Jun', 'Jul', 'Aug', 'Sep', 'Oct', 'Nov",
  "|', 'Dec']",
  "constant MONTHS_LOWER ['jan', 'feb', 'mar', 'apr', 'may', 'jun', 'jul', 'aug', 'sep', 'oct'",
  "|, 'nov', 'dec']",
  "constant NETSCAPE_HEADER_TEXT '# Netscape HTTP Cookie File\\n# http:\\x2f/curl.haxx.se/rfc/",
  "|cookie_spec.html\\n# This is a generated file!  Do not edit.\\n\\n'",
  "constant UTC_ZONES \x7b'GMT': None, 'UTC': None, 'UT': None, 'Z': None\x7d",
  "constant debug False", "constant logger None", "exports Cookie CookieJar CookiePolicy
  DefaultCookiePolicy FileCookieJar LWPCookieJar LoadError MozillaCookieJar",
  "part ESCAPED_CHAR_RE.groups 1", "part ESCAPED_CHAR_RE.pattern '%([0-9a-fA-F][0-9a-fA-F])'",
  "part HEADER_ESCAPE_RE.groups 1", "part HEADER_ESCAPE_RE.pattern '\\\\\\\\(.)'",
  "part HEADER_JOIN_ESCAPE_RE.groups 1", "part HEADER_JOIN_ESCAPE_RE.pattern '([\\\\\"\\\\\\\\])'",
  "part HEADER_QUOTED_VALUE_RE.groups 1",
  "part HEADER_QUOTED_VALUE_RE.pattern '^\\\\s*=\\\\s*\\\\\"([^\\\\\"\\\\\\\\]*(?:\\\\\\\\.[^",
  "|\\\\\"\\\\\\\\]*)*)\\\\\"'", "part HEADER_TOKEN_RE.groups 1",
  "part HEADER_TOKEN_RE.pattern '^\\\\s*([^=\\\\s;,]+)'", "part HEADER_VALUE_RE.groups 1",
  "part HEADER_VALUE_RE.pattern '^\\\\s*=\\\\s*([^\\\\s;,]*)'", "part IPV4_RE.flags 256",
  "part IPV4_RE.pattern '\\\\.\\\\d+$'", "part ISO_DATE_RE.flags 320", "part ISO_DATE_RE.groups 8",
  "part ISO_DATE_RE.pattern '^\\n    (\\\\d\x7b4\x7d)              # year\\n       [-\\\\/]?\\",
  "|n    (\\\\d\\\\d?)              # numerical month\\n       [-\\\\/]?\\n    (\\\\d\\\\d?)  ",
  "|            # day\\n   (?:\\n         (?:\\\\s+|[-:Tt])  # separator before clock\\n      ",
  "|(\\\\d\\\\d?):?(\\\\d\\\\d)    # hour:min\\n      (?::?(\\\\d\\\\d(?:\\\\.\\\\d*)?))?  # o",
  "|ptional seconds (and fractional)\\n   )?                    # optional clock\\n      \\\\s",
  "|*\\n   (?:\\n      ([-+]?\\\\d\\\\d?:?(:?\\\\d\\\\d)?\\n       |Z|z)             # timezon",
  "|e  (Z is \"zero meridian\", i.e. GMT)\\n      \\\\s*\\n   )?$'",
  "part LOOSE_HTTP_DATE_RE.flags 320", "part LOOSE_HTTP_DATE_RE.groups 7",
  "part LOOSE_HTTP_DATE_RE.pattern '^\\n    (\\\\d\\\\d?)            # day\\n       (?:\\\\s+|",
  "|[-\\\\/])\\n    (\\\\w+)              # month\\n        (?:\\\\s+|[-\\\\/])\\n    (\\\\d+)",
  "|              # year\\n    (?:\\n          (?:\\\\s+|:)    # separator before clock\\n    ",
  "|   (\\\\d\\\\d?):(\\\\d\\\\d)  # hour:min\\n       (?::(\\\\d\\\\d))?    # optional second",
  "|s\\n    )?                 # optional clock\\n       \\\\s*\\n    (?:\\n       ([-+]?\\\\d",
  "|\x7b2,4\x7d|(?![APap][Mm]\\\\b)[A-Za-z]+) # timezone\\n       \\\\s*\\n    )?\\n    (?:\\n",
  "|       \\\\(\\\\w+\\\\)         # ASCII representation of timezone in parens.\\n       \\",
  "|\\s*\\n    )?$'", "part NETSCAPE_MAGIC_RGX.groups 1",
  "part NETSCAPE_MAGIC_RGX.pattern '#( Netscape)? HTTP Cookie File'",
  "part STRICT_DATE_RE.flags 256", "part STRICT_DATE_RE.groups 6",
  "part STRICT_DATE_RE.pattern '^[SMTWF][a-z][a-z], (\\\\d\\\\d) ([JFMASOND][a-z][a-z]) (\\\\d",
  "|\\\\d\\\\d\\\\d) (\\\\d\\\\d):(\\\\d\\\\d):(\\\\d\\\\d) GMT$'", "part TIMEZONE_RE.flags 256",
  "part TIMEZONE_RE.groups 3", "part TIMEZONE_RE.pattern '^([-+])?(\\\\d\\\\d?):?(\\\\d\\\\d)?$'",
  "part WEEKDAY_RE.flags 258",
  "part WEEKDAY_RE.pattern '^(?:Sun|Mon|Tue|Wed|Thu|Fri|Sat)[a-z]*,?\\\\s*'",
  "part cut_port_re.flags 256", "part cut_port_re.pattern ':\\\\d+$'"]),
  ("http.cookies", ["functions _getdate _quote _unquote", "builtins _nulljoin=:str.join
  _semispacejoin=:str.join _spacejoin=:str.join", "classes BaseCookie CookieError Morsel
  SimpleCookie", "objects _is_legal_key=builtin_method", "holders _CookiePattern=re.Pattern",
  "modules re= string= types=",
  "constant _LegalChars \"abcdefghijklmnopqrstuvwxyzABCDEFGHIJKLMNOPQRSTUVWXYZ0123456789!#$%&'",
  "|*+-.^_`|~:\"",
  "constant _LegalKeyChars \"\\\\w\\\\d!#%&'~_`><@,:/\\\\$\\\\*\\\\+\\\\-\\\\.\\\\^\\\\|\\\\)",
  "|\\\\(\\\\?\\\\\x7d\\\\\x7b\\\\=\"",
  "constant _LegalValueChars \"\\\\w\\\\d!#%&'~_`><@,:/\\\\$\\\\*\\\\+\\\\-\\\\.\\\\^\\\\|\\\\",
  "|)\\\\(\\\\?\\\\\x7d\\\\\x7b\\\\=\\\\[\\\\]\"",
  "constant _UnescapedChars \"abcdefghijklmnopqrstuvwxyzABCDEFGHIJKLMNOPQRSTUVWXYZ0123456789!#",
  "|$%&'*+-.^_`|~: ()/<=>?@[]\x7b\x7d\"",
  "constant _monthname [None, 'Jan', 'Feb', 'Mar', 'Apr', 'May', 'Jun', 'Jul', 'Aug', 'Sep', '",
  "|Oct', 'Nov', 'Dec']", "constant _weekdayname ['Mon', 'Tue', 'Wed', 'Thu', 'Fri', 'Sat', 'Sun']",
  "exports CookieError BaseCookie SimpleCookie", "part _CookiePattern.flags 320",
  "part _CookiePattern.groupindex object('mappingproxy')", "part _CookiePattern.groups 4",
  "part _CookiePattern.pattern '\\n    \\\\s*                            # Optional whitespace",
  "| at start of cookie\\n    (?P<key>                       # Start of group \\'key\\'\\n    ",
  "|[\\\\w\\\\d!#%&\\'~_`><@,:/\\\\$\\\\*\\\\+\\\\-\\\\.\\\\^\\\\|\\\\)\\\\(\\\\?\\\\\x7d\\\\",
  "|\x7b\\\\=]+?   # Any word of at least one letter\\n    )                              # En",
  "|d of group \\'key\\'\\n    (                              # Optional group: there may not ",
  "|be a value.\\n    \\\\s*=\\\\s*                          # Equal Sign\\n    (?P<val>      ",
  "|                   # Start of group \\'val\\'\\n    \"(?:[^\\\\\\\\\"]|\\\\\\\\.)*\"      ",
  "|            # Any doublequoted string\\n    |                                  # or\\n    ",
  "|\\\\w\x7b3\x7d,\\\\s[\\\\w\\\\d\\\\s-]\x7b9,11\x7d\\\\s[\\\\d:]\x7b8\x7d\\\\sGMT  # Specia",
  "|l case for \"expires\" attr\\n    |                                  # or\\n    [\\\\w\\\\",
  "|d!#%&\\'~_`><@,:/\\\\$\\\\*\\\\+\\\\-\\\\.\\\\^\\\\|\\\\)\\\\(\\\\?\\\\\x7d\\\\\x7b\\\\=\\",
  "|\\[\\\\]]*      # Any word or empty string\\n    )                                # End of",
  "| group \\'val\\'\\n    )?                             # End of optional value group\\n    ",
  "|\\\\s*                            # Any number of spaces.\\n    (\\\\s+|;|$)              ",
  "|        # Ending either at space, semicolon, or EOS.\\n    '", "objects _Translator=dict"]),
  ("http.server", ["functions _get_best_family _url_collapse_path executable nobody_uid test",
  "classes BaseHTTPRequestHandler CGIHTTPRequestHandler HTTPServer HTTPStatus=http.
  SimpleHTTPRequestHandler ThreadingHTTPServer", "modules copy= datetime= email= html= http= io=
  itertools= mimetypes= os= posixpath= select= shutil= socket= socketserver= sys= time= urllib=",
  "constant DEFAULT_ERROR_CONTENT_TYPE 'text/html;charset=utf-8'",
  "constant DEFAULT_ERROR_MESSAGE '<!DOCTYPE HTML>\\n<html lang=\"en\">\\n    <head>\\n       ",
  "| <meta charset=\"utf-8\">\\n        <title>Error response</title>\\n    </head>\\n    <bod",
  "|y>\\n        <h1>Error response</h1>\\n        <p>Error code: %(code)d</p>\\n        <p>Me",
  "|ssage: %(message)s.</p>\\n        <p>Error code explanation: %(code)s - %(explain)s.</p>\\",
  "|n    </body>\\n</html>\\n'", "constant __version__ '0.6'", "constant nobody None",
  "exports HTTPServer ThreadingHTTPServer BaseHTTPRequestHandler SimpleHTTPRequestHandler
  CGIHTTPRequestHandler"]),
  ("imaplib", ["functions Int2AP Internaldate2tuple ParseFlags Time2Internaldate", "classes IMAP4
  IMAP4_SSL IMAP4_stream _Authenticator datetime=datetime. timedelta=datetime. timezone=datetime.",
  "holders Continuation=re.Pattern Flags=re.Pattern InternalDate=re.Pattern Literal=re.Pattern
  MapCRLF=re.Pattern Response_code=re.Pattern Untagged_response=re.Pattern
  Untagged_status=re.Pattern", "modules binascii= calendar= errno= random= re= socket= ssl=
  subprocess= sys= time=", "numbers DEFAULT_BUFFER_SIZE=8192 Debug=0 IMAP4_PORT=143
  IMAP4_SSL_PORT=993 _MAXLINE=1000000", "constant AllowedVersions ('IMAP4REV1', 'IMAP4')",
  "constant CRLF b'\\r\\n'",
  "constant Commands \x7b'APPEND': ('AUTH', 'SELECTED'), 'AUTHENTICATE': ('NONAUTH',), 'CAPABI",
  "|LITY': ('NONAUTH', 'AUTH', 'SELECTED', 'LOGOUT'), 'CHECK': ('SELECTED',), 'CLOSE': ('SELEC",
  "|TED',), 'COPY': ('SELECTED',), 'CREATE': ('AUTH', 'SELECTED'), 'DELETE': ('AUTH', 'SELECTE",
  "|D'), 'DELETEACL': ('AUTH', 'SELECTED'), 'ENABLE': ('AUTH',), 'EXAMINE': ('AUTH', 'SELECTED",
  "|'), 'EXPUNGE': ('SELECTED',), 'FETCH': ('SELECTED',), 'GETACL': ('AUTH', 'SELECTED'), 'GET",
  "|ANNOTATION': ('AUTH', 'SELECTED'), 'GETQUOTA': ('AUTH', 'SELECTED'), 'GETQUOTAROOT': ('AUT",
  "|H', 'SELECTED'), 'MYRIGHTS': ('AUTH', 'SELECTED'), 'LIST': ('AUTH', 'SELECTED'), 'LOGIN': ",
  "|('NONAUTH',), 'LOGOUT': ('NONAUTH', 'AUTH', 'SELECTED', 'LOGOUT'), 'LSUB': ('AUTH', 'SELEC",
  "|TED'), 'MOVE': ('SELECTED',), 'NAMESPACE': ('AUTH', 'SELECTED'), 'NOOP': ('NONAUTH', 'AUTH",
  "|', 'SELECTED', 'LOGOUT'), 'PARTIAL': ('SELECTED',), 'PROXYAUTH': ('AUTH',), 'RENAME': ('AU",
  "|TH', 'SELECTED'), 'SEARCH': ('SELECTED',), 'SELECT': ('AUTH', 'SELECTED'), 'SETACL': ('AUT",
  "|H', 'SELECTED'), 'SETANNOTATION': ('AUTH', 'SELECTED'), 'SETQUOTA': ('AUTH', 'SELECTED'), ",
  "|'SORT': ('SELECTED',), 'STARTTLS': ('NONAUTH',), 'STATUS': ('AUTH', 'SELECTED'), 'STORE': ",
  "|('SELECTED',), 'SUBSCRIBE': ('AUTH', 'SELECTED'), 'THREAD': ('SELECTED',), 'UID': ('SELECT",
  "|ED',), 'UNSUBSCRIBE': ('AUTH', 'SELECTED'), 'UNSELECT': ('SELECTED',)\x7d",
  "constant HAVE_SSL True",
  "constant Mon2num \x7bb'Jan': 1, b'Feb': 2, b'Mar': 3, b'Apr': 4, b'May': 5, b'Jun': 6, b'Ju",
  "|l': 7, b'Aug': 8, b'Sep': 9, b'Oct': 10, b'Nov': 11, b'Dec': 12\x7d",
  "constant Months ['', 'Jan', 'Feb', 'Mar', 'Apr', 'May', 'Jun', 'Jul', 'Aug', 'Sep', 'Oct', ",
  "|'Nov', 'Dec']", "constant _Literal b'.*\x7b(?P<size>\\\\d+)\x7d$'",
  "constant _Untagged_status b'\\\\* (?P<data>\\\\d+) (?P<type>[A-Z-]+)( (?P<data2>.*))?'",
  "constant __version__ '2.58'", "exports IMAP4 IMAP4_stream Internaldate2tuple Int2AP ParseFlags
  Time2Internaldate IMAP4_SSL", "part Continuation.flags 0",
  "part Continuation.groupindex object('mappingproxy')", "part Continuation.groups 2",
  "part Continuation.pattern b'\\\\+( (?P<data>.*))?'", "part Flags.flags 0",
  "part Flags.groupindex object('mappingproxy')", "part Flags.groups 1",
  "part Flags.pattern b'.*FLAGS \\\\((?P<flags>[^\\\\)]*)\\\\)'", "part InternalDate.flags 0",
  "part InternalDate.groupindex object('mappingproxy')", "part InternalDate.groups 9",
  "part InternalDate.pattern b'.*INTERNALDATE \"(?P<day>[ 0123][0-9])-(?P<mon>[A-Z][a-z][a-z])",
  "|-(?P<year>[0-9][0-9][0-9][0-9]) (?P<hour>[0-9][0-9]):(?P<min>[0-9][0-9]):(?P<sec>[0-9][0-9",
  "|]) (?P<zonen>[-+])(?P<zoneh>[0-9][0-9])(?P<zonem>[0-9][0-9])\"'", "part Literal.flags 256",
  "part Literal.groupindex object('mappingproxy')", "part Literal.groups 1",
  "part Literal.pattern b'.*\x7b(?P<size>\\\\d+)\x7d$'", "part MapCRLF.flags 0",
  "part MapCRLF.pattern b'\\\\r\\\\n|\\\\r|\\\\n'", "part Response_code.flags 0",
  "part Response_code.groupindex object('mappingproxy')", "part Response_code.groups 3",
  "part Response_code.pattern b'\\\\[(?P<type>[A-Z-]+)( (?P<data>.*))?\\\\]'",
  "part Untagged_response.flags 0", "part Untagged_response.groupindex object('mappingproxy')",
  "part Untagged_response.groups 3",
  "part Untagged_response.pattern b'\\\\* (?P<type>[A-Z-]+)( (?P<data>.*))?'",
  "part Untagged_status.flags 256", "part Untagged_status.groupindex object('mappingproxy')",
  "part Untagged_status.groups 4",
  "part Untagged_status.pattern b'\\\\* (?P<data>\\\\d+) (?P<type>[A-Z-]+)( (?P<data2>.*))?'"]),
  ("ipaddress", ["functions _collapse_addresses_internal _count_righthand_zero_bits
  _find_address_range _split_optional_netmask collapse_addresses get_mixed_type_key ip_address
  ip_interface ip_network summarize_address_range v4_int_to_packed v6_int_to_packed",
  "classes AddressValueError IPv4Address IPv4Interface IPv4Network IPv6Address IPv6Interface
  IPv6Network NetmaskValueError _BaseAddress _BaseConstants _BaseNetwork _BaseV4 _BaseV6
  _IPAddressBase _IPv4Constants _IPv6Constants", "modules functools=", "numbers IPV4LENGTH=32
  IPV6LENGTH=128", "constant __version__ '1.0'", "constant _address_fmt_re None"]),
  ("nntplib", ["functions _email_decode_header=email.header:decode_header _encrypt_on
  _parse_datetime _parse_overview _parse_overview_fmt _unparse_datetime decode_header",
  "classes ArticleInfo GroupInfo NNTP NNTPDataError NNTPError NNTPPermanentError NNTPProtocolError
  NNTPReplyError NNTPTemporaryError NNTP_SSL", "objects _GLOBAL_DEFAULT_TIMEOUT=object
  _LONGRESP=set", "modules collections= datetime= re= socket= ssl= sys= warnings=",
  "numbers NNTP_PORT=119 NNTP_SSL_PORT=563 _MAXLINE=2048", "constant _CRLF b'\\r\\n'",
  "constant _DEFAULT_OVERVIEW_FMT ['subject', 'from', 'date', 'message-id', 'references', ':by",
  "|tes', ':lines']",
  "constant _OVERVIEW_FMT_ALTERNATIVES \x7b'bytes': ':bytes', 'lines': ':lines'\x7d",
  "constant _have_ssl True", "exports NNTP NNTPError NNTPReplyError NNTPTemporaryError
  NNTPPermanentError NNTPProtocolError NNTPDataError decode_header NNTP_SSL"]),
  ("poplib", ["classes POP3 POP3_SSL error_proto", "modules errno= re= socket= ssl= sys=",
  "numbers POP3_PORT=110 POP3_SSL_PORT=995 _MAXLINE=2048", "constant CR b'\\r'",
  "constant CRLF b'\\r\\n'", "constant HAVE_SSL True", "constant LF b'\\n'", "exports POP3
  error_proto POP3_SSL"]),
  ("quopri", ["functions decode decodestring encode encodestring ishex main needsquoting quote
  unhex", "builtins a2b_qp=binascii: b2a_qp=binascii:", "numbers MAXLINESIZE=76",
  "constant EMPTYSTRING b''", "constant ESCAPE b'='", "constant HEX b'0123456789ABCDEF'",
  "exports encode decode encodestring decodestring"]),
  ("smtpd", ["functions _deprecated=warnings: get_addr_spec=email._header_value_parser:
  get_angle_addr=email._header_value_parser: parseargs usage", "builtins warn=_warnings:",
  "classes DebuggingServer Devnull Options PureProxy SMTPChannel SMTPServer",
  "objects DEBUGSTREAM=smtpd.Devnull", "modules asynchat= asyncore= collections= errno= getopt= os=
  socket= sys= time=", "numbers DATA_SIZE_DEFAULT=33554432", "constant COMMASPACE ', '",
  "constant NEWLINE '\\n'",
  "constant _DEPRECATION_MSG 'The \x7bname\x7d module is deprecated and unmaintained and will ",
  "|be removed in Python \x7bremove\x7d.  Please see aiosmtpd (https:\\x2f/aiosmtpd.readthedoc",
  "|s.io/) for the recommended replacement.'",
  "constant __version__ 'Python SMTP proxy version 0.3'",
  "constant __warningregistry__ \x7b'version': 1\x7d", "exports SMTPChannel SMTPServer
  DebuggingServer PureProxy"]),
  ("smtplib", ["functions _addr_only _fix_eols _quote_periods
  encode_base64=email.base64mime:body_encode quoteaddr quotedata", "classes LMTP SMTP
  SMTPAuthenticationError SMTPConnectError SMTPDataError SMTPException SMTPHeloError
  SMTPNotSupportedError SMTPRecipientsRefused SMTPResponseException SMTPSenderRefused
  SMTPServerDisconnected SMTP_SSL", "holders OLDSTYLE_AUTH=re.Pattern", "modules base64= copy=
  datetime= email= hmac= io= re= socket= ssl= sys=", "numbers LMTP_PORT=2003 SMTP_PORT=25
  SMTP_SSL_PORT=465 _MAXCHALLENGE=5 _MAXLINE=8192", "constant CRLF '\\r\\n'",
  "constant _have_ssl True", "constant bCRLF b'\\r\\n'", "exports SMTPException
  SMTPNotSupportedError SMTPServerDisconnected SMTPResponseException SMTPSenderRefused
  SMTPRecipientsRefused SMTPDataError SMTPConnectError SMTPHeloError SMTPAuthenticationError
  quoteaddr quotedata SMTP SMTP_SSL", "part OLDSTYLE_AUTH.flags 34", "part OLDSTYLE_AUTH.groups 1",
  "part OLDSTYLE_AUTH.pattern 'auth=(.*)'"]),
  ("socket", ["takes _socket", "functions _intenum_converter create_connection create_server fromfd
  getaddrinfo getfqdn has_dualstack_ipv6 recv_fds send_fds socketpair", "classes AddressFamily
  AddressInfo IntEnum=enum. IntFlag=enum. MsgFlag SocketIO SocketKind _GiveupOnSendfile socket",
  "objects _GLOBAL_DEFAULT_TIMEOUT=object _blocking_errnos=set", "modules _socket= array= errno= io=
  os= selectors= sys=",
  "members-of socket.AddressFamily AF_ALG AF_APPLETALK AF_ASH AF_ATMPVC AF_ATMSVC AF_AX25",
  "members-of socket.AddressFamily AF_BLUETOOTH AF_BRIDGE AF_CAN AF_ECONET AF_INET AF_INET6",
  "members-of socket.AddressFamily AF_IPX AF_IRDA AF_KEY AF_LLC AF_NETBEUI AF_NETLINK",
  "members-of socket.AddressFamily AF_NETROM AF_PACKET AF_PPPOX AF_QIPCRTR AF_RDS AF_ROSE",
  "members-of socket.AddressFamily AF_SECURITY AF_SNA AF_TIPC AF_UNIX AF_UNSPEC AF_VSOCK",
  "members-of socket.AddressFamily AF_WANPIPE AF_X25",
  "members-of socket.AddressInfo AI_ADDRCONFIG AI_ALL AI_CANONNAME AI_NUMERICHOST",
  "members-of socket.AddressInfo AI_NUMERICSERV AI_PASSIVE AI_V4MAPPED",
  "members-of socket.MsgFlag MSG_CMSG_CLOEXEC MSG_CONFIRM MSG_CTRUNC MSG_DONTROUTE",
  "members-of socket.MsgFlag MSG_DONTWAIT MSG_EOR MSG_ERRQUEUE MSG_FASTOPEN MSG_MORE",
  "members-of socket.MsgFlag MSG_NOSIGNAL MSG_OOB MSG_PEEK MSG_TRUNC MSG_WAITALL",
  "members-of socket.SocketKind SOCK_CLOEXEC SOCK_DGRAM SOCK_NONBLOCK SOCK_RAW SOCK_RDM",
  "members-of socket.SocketKind SOCK_SEQPACKET SOCK_STREAM",
  "members AF_ROUTE=socket.AddressFamily.AF_NETLINK", "numbers BTPROTO_HCI=1 BTPROTO_L2CAP=0
  BTPROTO_RFCOMM=3 BTPROTO_SCO=2 CAN_BCM_CAN_FD_FRAME=2048 CAN_J1939=7 CAN_RAW_JOIN_FILTERS=6
  EAGAIN=11 EBADF=9 EWOULDBLOCK=11 HCI_DATA_DIR=1 HCI_FILTER=2 HCI_TIME_STAMP=3
  IOCTL_VM_SOCKETS_GET_LOCAL_CID=1977 IPPROTO_MPTCP=262 IPV6_DONTFRAG=62 IPV6_PATHMTU=61
  IPV6_RECVPATHMTU=60 IP_BIND_ADDRESS_NO_PORT=24 J1939_EE_INFO_NONE=0 J1939_EE_INFO_TX_ABORT=1
  J1939_FILTER_MAX=512 J1939_IDLE_ADDR=254 J1939_MAX_UNICAST_ADDR=253 J1939_NLA_BYTES_ACKED=1
  J1939_NLA_PAD=0 J1939_NO_ADDR=255 J1939_NO_NAME=0 J1939_NO_PGN=262144
  J1939_PGN_ADDRESS_CLAIMED=60928 J1939_PGN_ADDRESS_COMMANDED=65240 J1939_PGN_MAX=262143
  J1939_PGN_PDU1_MAX=261888 J1939_PGN_REQUEST=59904 SCM_J1939_DEST_ADDR=1 SCM_J1939_DEST_NAME=2
  SCM_J1939_ERRQUEUE=4 SCM_J1939_PRIO=3 SOL_HCI=0 SOL_RDS=276 SO_INCOMING_CPU=49 SO_J1939_ERRQUEUE=4
  SO_J1939_FILTER=1 SO_J1939_PROMISC=2 SO_J1939_SEND_PRIO=3 SO_VM_SOCKETS_BUFFER_MAX_SIZE=2
  SO_VM_SOCKETS_BUFFER_MIN_SIZE=1 SO_VM_SOCKETS_BUFFER_SIZE=0 TCP_NOTSENT_LOWAT=25
  VMADDR_CID_ANY=4294967295 VMADDR_CID_HOST=2 VMADDR_PORT_ANY=4294967295
  VM_SOCKETS_INVALID_VERSION=4294967295", "constant BDADDR_ANY '00:00:00:00:00:00'",
  "constant BDADDR_LOCAL '00:00:00:FF:FF:FF'", "constant _LOCALHOST '127.0.0.1'",
  "constant _LOCALHOST_V6 '::1'", "exports fromfd getfqdn create_connection create_server
  has_dualstack_ipv6 AddressFamily SocketKind AF_ALG AF_APPLETALK AF_ASH AF_ATMPVC AF_ATMSVC AF_AX25
  AF_BLUETOOTH AF_BRIDGE AF_CAN AF_DECnet AF_ECONET AF_INET AF_INET6 AF_IPX AF_IRDA AF_KEY AF_LLC
  AF_NETBEUI AF_NETLINK AF_NETROM AF_PACKET AF_PPPOX AF_QIPCRTR AF_RDS AF_ROSE AF_ROUTE AF_SECURITY
  AF_SNA AF_TIPC AF_UNIX AF_UNSPEC AF_VSOCK AF_WANPIPE AF_X25 AI_ADDRCONFIG AI_ALL AI_CANONNAME
  AI_NUMERICHOST AI_NUMERICSERV AI_PASSIVE AI_V4MAPPED ALG_OP_DECRYPT ALG_OP_ENCRYPT ALG_OP_SIGN
  ALG_OP_VERIFY ALG_SET_AEAD_ASSOCLEN ALG_SET_AEAD_AUTHSIZE ALG_SET_IV ALG_SET_KEY ALG_SET_OP
  ALG_SET_PUBKEY BDADDR_ANY BDADDR_LOCAL BTPROTO_HCI BTPROTO_L2CAP BTPROTO_RFCOMM BTPROTO_SCO
  CAN_BCM CAN_BCM_CAN_FD_FRAME CAN_BCM_RX_ANNOUNCE_RESUME CAN_BCM_RX_CHANGED CAN_BCM_RX_CHECK_DLC
  CAN_BCM_RX_DELETE CAN_BCM_RX_FILTER_ID CAN_BCM_RX_NO_AUTOTIMER CAN_BCM_RX_READ
  CAN_BCM_RX_RTR_FRAME CAN_BCM_RX_SETUP CAN_BCM_RX_STATUS CAN_BCM_RX_TIMEOUT CAN_BCM_SETTIMER
  CAN_BCM_STARTTIMER CAN_BCM_TX_ANNOUNCE CAN_BCM_TX_COUNTEVT CAN_BCM_TX_CP_CAN_ID CAN_BCM_TX_DELETE
  CAN_BCM_TX_EXPIRED CAN_BCM_TX_READ CAN_BCM_TX_RESET_MULTI_IDX CAN_BCM_TX_SEND CAN_BCM_TX_SETUP
  CAN_BCM_TX_STATUS CAN_EFF_FLAG CAN_EFF_MASK CAN_ERR_FLAG CAN_ERR_MASK CAN_ISOTP CAN_J1939 CAN_RAW
  CAN_RAW_FD_FRAMES CAN_RAW_FILTER CAN_RAW_JOIN_FILTERS CAN_RAW_LOOPBACK CAN_RAW_RECV_OWN_MSGS
  CAN_RTR_FLAG CAN_SFF_MASK CAPI CMSG_LEN CMSG_SPACE EAI_ADDRFAMILY EAI_AGAIN EAI_BADFLAGS EAI_FAIL
  EAI_FAMILY EAI_MEMORY EAI_NODATA EAI_NONAME EAI_OVERFLOW EAI_SERVICE EAI_SOCKTYPE EAI_SYSTEM
  HCI_DATA_DIR HCI_FILTER HCI_TIME_STAMP INADDR_ALLHOSTS_GROUP INADDR_ANY INADDR_BROADCAST
  INADDR_LOOPBACK INADDR_MAX_LOCAL_GROUP INADDR_NONE INADDR_UNSPEC_GROUP
  IOCTL_VM_SOCKETS_GET_LOCAL_CID IPPORT_RESERVED IPPORT_USERRESERVED IPPROTO_AH IPPROTO_DSTOPTS
  IPPROTO_EGP IPPROTO_ESP IPPROTO_FRAGMENT IPPROTO_GRE IPPROTO_HOPOPTS IPPROTO_ICMP IPPROTO_ICMPV6
  IPPROTO_IDP IPPROTO_IGMP IPPROTO_IP IPPROTO_IPIP IPPROTO_IPV6 IPPROTO_MPTCP IPPROTO_NONE
  IPPROTO_PIM IPPROTO_PUP IPPROTO_RAW IPPROTO_ROUTING IPPROTO_RSVP IPPROTO_SCTP IPPROTO_TCP
  IPPROTO_TP IPPROTO_UDP IPPROTO_UDPLITE IPV6_CHECKSUM IPV6_DONTFRAG IPV6_DSTOPTS IPV6_HOPLIMIT
  IPV6_HOPOPTS IPV6_JOIN_GROUP IPV6_LEAVE_GROUP IPV6_MULTICAST_HOPS IPV6_MULTICAST_IF
  IPV6_MULTICAST_LOOP IPV6_NEXTHOP IPV6_PATHMTU IPV6_PKTINFO IPV6_RECVDSTOPTS IPV6_RECVHOPLIMIT
  IPV6_RECVHOPOPTS IPV6_RECVPATHMTU IPV6_RECVPKTINFO IPV6_RECVRTHDR IPV6_RECVTCLASS IPV6_RTHDR
  IPV6_RTHDRDSTOPTS IPV6_RTHDR_TYPE_0 IPV6_TCLASS IPV6_UNICAST_HOPS IPV6_V6ONLY IP_ADD_MEMBERSHIP
  IP_BIND_ADDRESS_NO_PORT IP_DEFAULT_MULTICAST_LOOP IP_DEFAULT_MULTICAST_TTL IP_DROP_MEMBERSHIP
  IP_HDRINCL IP_MAX_MEMBERSHIPS IP_MULTICAST_IF IP_MULTICAST_LOOP IP_MULTICAST_TTL IP_OPTIONS
  IP_RECVOPTS IP_RECVRETOPTS IP_RECVTOS IP_RETOPTS IP_TOS IP_TRANSPARENT IP_TTL J1939_EE_INFO_NONE
  J1939_EE_INFO_TX_ABORT J1939_FILTER_MAX J1939_IDLE_ADDR J1939_MAX_UNICAST_ADDR
  J1939_NLA_BYTES_ACKED J1939_NLA_PAD J1939_NO_ADDR J1939_NO_NAME J1939_NO_PGN
  J1939_PGN_ADDRESS_CLAIMED J1939_PGN_ADDRESS_COMMANDED J1939_PGN_MAX J1939_PGN_PDU1_MAX
  J1939_PGN_REQUEST MSG_CMSG_CLOEXEC MSG_CONFIRM MSG_CTRUNC MSG_DONTROUTE MSG_DONTWAIT MSG_EOR
  MSG_ERRQUEUE MSG_FASTOPEN MSG_MORE MSG_NOSIGNAL MSG_OOB MSG_PEEK MSG_TRUNC MSG_WAITALL
  NETLINK_CRYPTO NETLINK_DNRTMSG NETLINK_FIREWALL NETLINK_IP6_FW NETLINK_NFLOG NETLINK_ROUTE
  NETLINK_USERSOCK NETLINK_XFRM NI_DGRAM NI_MAXHOST NI_MAXSERV NI_NAMEREQD NI_NOFQDN NI_NUMERICHOST
  NI_NUMERICSERV PACKET_BROADCAST PACKET_FASTROUTE PACKET_HOST PACKET_LOOPBACK PACKET_MULTICAST
  PACKET_OTHERHOST PACKET_OUTGOING PF_CAN PF_PACKET PF_RDS SCM_CREDENTIALS SCM_J1939_DEST_ADDR
  SCM_J1939_DEST_NAME SCM_J1939_ERRQUEUE SCM_J1939_PRIO SCM_RIGHTS SHUT_RD SHUT_RDWR SHUT_WR
  SOCK_CLOEXEC SOCK_DGRAM SOCK_NONBLOCK SOCK_RAW SOCK_RDM SOCK_SEQPACKET SOCK_STREAM SOL_ALG
  SOL_CAN_BASE SOL_CAN_RAW SOL_HCI SOL_IP SOL_RDS SOL_SOCKET SOL_TCP SOL_TIPC SOL_UDP SOMAXCONN
  SO_ACCEPTCONN SO_BINDTODEVICE SO_BROADCAST SO_DEBUG SO_DOMAIN SO_DONTROUTE SO_ERROR
  SO_INCOMING_CPU SO_J1939_ERRQUEUE SO_J1939_FILTER SO_J1939_PROMISC SO_J1939_SEND_PRIO SO_KEEPALIVE
  SO_LINGER SO_MARK SO_OOBINLINE SO_PASSCRED SO_PASSSEC SO_PEERCRED SO_PEERSEC SO_PRIORITY
  SO_PROTOCOL SO_RCVBUF SO_RCVLOWAT SO_RCVTIMEO SO_REUSEADDR SO_REUSEPORT SO_SNDBUF SO_SNDLOWAT
  SO_SNDTIMEO SO_TYPE SO_VM_SOCKETS_BUFFER_MAX_SIZE SO_VM_SOCKETS_BUFFER_MIN_SIZE
  SO_VM_SOCKETS_BUFFER_SIZE SocketType TCP_CONGESTION TCP_CORK TCP_DEFER_ACCEPT TCP_FASTOPEN
  TCP_INFO TCP_KEEPCNT TCP_KEEPIDLE TCP_KEEPINTVL TCP_LINGER2 TCP_MAXSEG TCP_NODELAY
  TCP_NOTSENT_LOWAT TCP_QUICKACK TCP_SYNCNT TCP_USER_TIMEOUT TCP_WINDOW_CLAMP TIPC_ADDR_ID
  TIPC_ADDR_NAME TIPC_ADDR_NAMESEQ TIPC_CFG_SRV TIPC_CLUSTER_SCOPE TIPC_CONN_TIMEOUT
  TIPC_CRITICAL_IMPORTANCE TIPC_DEST_DROPPABLE TIPC_HIGH_IMPORTANCE TIPC_IMPORTANCE
  TIPC_LOW_IMPORTANCE TIPC_MEDIUM_IMPORTANCE TIPC_NODE_SCOPE TIPC_PUBLISHED TIPC_SRC_DROPPABLE
  TIPC_SUBSCR_TIMEOUT TIPC_SUB_CANCEL TIPC_SUB_PORTS TIPC_SUB_SERVICE TIPC_TOP_SRV TIPC_WAIT_FOREVER
  TIPC_WITHDRAWN TIPC_ZONE_SCOPE UDPLITE_RECV_CSCOV UDPLITE_SEND_CSCOV VMADDR_CID_ANY
  VMADDR_CID_HOST VMADDR_PORT_ANY VM_SOCKETS_INVALID_VERSION close dup error gaierror getaddrinfo
  getdefaulttimeout gethostbyaddr gethostbyname gethostbyname_ex gethostname getnameinfo
  getprotobyname getservbyname getservbyport has_ipv6 herror htonl htons if_indextoname if_nameindex
  if_nametoindex inet_aton inet_ntoa inet_ntop inet_pton ntohl ntohs setdefaulttimeout sethostname
  socket socketpair timeout send_fds recv_fds"]),
  ("socketserver", ["builtins time=time:monotonic", "classes BaseRequestHandler BaseServer
  BufferedIOBase=io. DatagramRequestHandler ForkingMixIn ForkingTCPServer ForkingUDPServer
  StreamRequestHandler TCPServer ThreadingMixIn ThreadingTCPServer ThreadingUDPServer
  ThreadingUnixDatagramServer ThreadingUnixStreamServer UDPServer UnixDatagramServer
  UnixStreamServer _NoThreads _ServerSelector=selectors.PollSelector _SocketWriter _Threads",
  "modules os= selectors= socket= sys= threading=", "constant __version__ '0.4'",
  "exports BaseServer TCPServer UDPServer ThreadingUDPServer ThreadingTCPServer BaseRequestHandler
  StreamRequestHandler DatagramRequestHandler ThreadingMixIn ForkingUDPServer ForkingTCPServer
  ForkingMixIn UnixStreamServer UnixDatagramServer ThreadingUnixStreamServer
  ThreadingUnixDatagramServer"]),
  ("ssl", ["functions DER_cert_to_PEM_cert PEM_cert_to_DER_cert
  _create_default_https_context=ssl:create_default_context
  _create_stdlib_context=ssl:_create_unverified_context _create_unverified_context _dnsname_match
  _inet_paton _ipaddress_match _simple_enum=enum: _sslcopydoc cert_time_to_seconds
  create_connection=socket: create_default_context get_default_verify_paths get_protocol_name
  get_server_certificate match_hostname namedtuple=collections: wrap_socket",
  "builtins RAND_add=_ssl: RAND_bytes=_ssl: RAND_pseudo_bytes=_ssl: RAND_status=_ssl:
  _nid2obj=_ssl:nid2obj _txt2obj=_ssl:txt2obj", "classes AlertDescription
  CertificateError=ssl.SSLCertVerificationError DefaultVerifyPaths MemoryBIO=_ssl. Options Purpose
  SSLCertVerificationError SSLContext SSLEOFError SSLError SSLErrorNumber SSLObject SSLSession=_ssl.
  SSLSocket SSLSyscallError SSLWantReadError SSLWantWriteError SSLZeroReturnError TLSVersion
  VerifyFlags VerifyMode _ASN1Object _Enum=enum.Enum _IntEnum=enum.IntEnum _IntFlag=enum.IntFlag
  _SSLContext=_ssl. _SSLMethod _TLSAlertType _TLSContentType _TLSMessageType socket=socket.
  socket_error=OSError", "objects _GLOBAL_DEFAULT_TIMEOUT=object", "modules _socket=socket _ssl=
  base64= errno= os= sys= warnings=",
  "members-of ssl.AlertDescription ALERT_DESCRIPTION_ACCESS_DENIED",
  "members-of ssl.AlertDescription ALERT_DESCRIPTION_BAD_CERTIFICATE",
  "members-of ssl.AlertDescription ALERT_DESCRIPTION_BAD_CERTIFICATE_HASH_VALUE",
  "members-of ssl.AlertDescription ALERT_DESCRIPTION_BAD_CERTIFICATE_STATUS_RESPONSE",
  "members-of ssl.AlertDescription ALERT_DESCRIPTION_BAD_RECORD_MAC",
  "members-of ssl.AlertDescription ALERT_DESCRIPTION_CERTIFICATE_EXPIRED",
  "members-of ssl.AlertDescription ALERT_DESCRIPTION_CERTIFICATE_REVOKED",
  "members-of ssl.AlertDescription ALERT_DESCRIPTION_CERTIFICATE_UNKNOWN",
  "members-of ssl.AlertDescription ALERT_DESCRIPTION_CERTIFICATE_UNOBTAINABLE",
  "members-of ssl.AlertDescription ALERT_DESCRIPTION_CLOSE_NOTIFY",
  "members-of ssl.AlertDescription ALERT_DESCRIPTION_DECODE_ERROR",
  "members-of ssl.AlertDescription ALERT_DESCRIPTION_DECOMPRESSION_FAILURE",
  "members-of ssl.AlertDescription ALERT_DESCRIPTION_DECRYPT_ERROR",
  "members-of ssl.AlertDescription ALERT_DESCRIPTION_HANDSHAKE_FAILURE",
  "members-of ssl.AlertDescription ALERT_DESCRIPTION_ILLEGAL_PARAMETER",
  "members-of ssl.AlertDescription ALERT_DESCRIPTION_INSUFFICIENT_SECURITY",
  "members-of ssl.AlertDescription ALERT_DESCRIPTION_INTERNAL_ERROR",
  "members-of ssl.AlertDescription ALERT_DESCRIPTION_NO_RENEGOTIATION",
  "members-of ssl.AlertDescription ALERT_DESCRIPTION_PROTOCOL_VERSION",
  "members-of ssl.AlertDescription ALERT_DESCRIPTION_RECORD_OVERFLOW",
  "members-of ssl.AlertDescription ALERT_DESCRIPTION_UNEXPECTED_MESSAGE",
  "members-of ssl.AlertDescription ALERT_DESCRIPTION_UNKNOWN_CA",
  "members-of ssl.AlertDescription ALERT_DESCRIPTION_UNKNOWN_PSK_IDENTITY",
  "members-of ssl.AlertDescription ALERT_DESCRIPTION_UNRECOGNIZED_NAME",
  "members-of ssl.AlertDescription ALERT_DESCRIPTION_UNSUPPORTED_CERTIFICATE",
  "members-of ssl.AlertDescription ALERT_DESCRIPTION_UNSUPPORTED_EXTENSION",
  "members-of ssl.AlertDescription ALERT_DESCRIPTION_USER_CANCELLED",
  "members-of ssl.VerifyMode CERT_NONE CERT_OPTIONAL CERT_REQUIRED",
  "members-of ssl.Options OP_ALL OP_CIPHER_SERVER_PREFERENCE OP_ENABLE_MIDDLEBOX_COMPAT",
  "members-of ssl.Options OP_IGNORE_UNEXPECTED_EOF OP_NO_COMPRESSION OP_NO_RENEGOTIATION",
  "members-of ssl.Options OP_NO_SSLv2 OP_NO_SSLv3 OP_NO_TICKET OP_NO_TLSv1 OP_NO_TLSv1_1",
  "members-of ssl.Options OP_NO_TLSv1_2 OP_NO_TLSv1_3",
  "members-of ssl._SSLMethod PROTOCOL_TLS PROTOCOL_TLS_CLIENT PROTOCOL_TLS_SERVER",
  "members-of ssl._SSLMethod PROTOCOL_TLSv1 PROTOCOL_TLSv1_1 PROTOCOL_TLSv1_2",
  "members-of socket.SocketKind SOCK_STREAM",
  "members-of ssl.SSLErrorNumber SSL_ERROR_EOF SSL_ERROR_INVALID_ERROR_CODE SSL_ERROR_SSL",
  "members-of ssl.SSLErrorNumber SSL_ERROR_SYSCALL SSL_ERROR_WANT_CONNECT SSL_ERROR_WANT_READ",
  "members-of ssl.SSLErrorNumber SSL_ERROR_WANT_WRITE SSL_ERROR_WANT_X509_LOOKUP",
  "members-of ssl.SSLErrorNumber SSL_ERROR_ZERO_RETURN",
  "members-of ssl.VerifyFlags VERIFY_ALLOW_PROXY_CERTS VERIFY_CRL_CHECK_CHAIN",
  "members-of ssl.VerifyFlags VERIFY_CRL_CHECK_LEAF VERIFY_DEFAULT VERIFY_X509_PARTIAL_CHAIN",
  "members-of ssl.VerifyFlags VERIFY_X509_STRICT VERIFY_X509_TRUSTED_FIRST",
  "members OP_SINGLE_DH_USE=ssl.Options.OP_NO_SSLv2 OP_SINGLE_ECDH_USE=ssl.Options.OP_NO_SSLv2
  PROTOCOL_SSLv23=ssl._SSLMethod.PROTOCOL_TLS", "numbers OPENSSL_VERSION_NUMBER=805306640
  SOL_SOCKET=1 SO_TYPE=3", "constant CHANNEL_BINDING_TYPES ['tls-unique']",
  "constant HAS_ALPN True", "constant HAS_ECDH True", "constant HAS_NEVER_CHECK_COMMON_NAME True",
  "constant HAS_NPN False", "constant HAS_SNI True", "constant HAS_SSLv2 False",
  "constant HAS_SSLv3 False", "constant HAS_TLSv1 True", "constant HAS_TLSv1_1 True",
  "constant HAS_TLSv1_2 True", "constant HAS_TLSv1_3 True",
  "constant OPENSSL_VERSION 'OpenSSL 3.0.17 1 Jul 2025'",
  "constant OPENSSL_VERSION_INFO (3, 0, 0, 17, 0)",
  "constant PEM_FOOTER '-----END CERTIFICATE-----'",
  "constant PEM_HEADER '-----BEGIN CERTIFICATE-----'",
  "constant _DEFAULT_CIPHERS 'ALL:!COMPLEMENTOFDEFAULT:!eNULL'",
  "constant _OPENSSL_API_VERSION (3, 0, 0, 17, 0)",
  "constant _PROTOCOL_NAMES \x7bssl._SSLMethod.PROTOCOL_TLS: 'PROTOCOL_TLS', ssl._SSLMethod.PR",
  "|OTOCOL_TLSv1: 'PROTOCOL_TLSv1', ssl._SSLMethod.PROTOCOL_TLSv1_1: 'PROTOCOL_TLSv1_1', ssl._",
  "|SSLMethod.PROTOCOL_TLSv1_2: 'PROTOCOL_TLSv1_2', ssl._SSLMethod.PROTOCOL_TLS_CLIENT: 'PROTO",
  "|COL_TLS_CLIENT', ssl._SSLMethod.PROTOCOL_TLS_SERVER: 'PROTOCOL_TLS_SERVER'\x7d",
  "constant _RESTRICTED_SERVER_CIPHERS '@SECLEVEL=2:ECDH+AESGCM:ECDH+CHACHA20:ECDH+AES:DHE+AES",
  "|:!aNULL:!eNULL:!aDSS:!SHA1:!AESCCM'", "constant _SSLv2_IF_EXISTS None"]),
  ("telnetlib", ["functions test", "builtins _time=time:monotonic", "classes Telnet
  _TelnetSelector=selectors.PollSelector", "modules selectors= socket= sys= warnings=",
  "numbers DEBUGLEVEL=0 TELNET_PORT=23", "constant AO b'\\xf5'", "constant AUTHENTICATION b'%'",
  "constant AYT b'\\xf6'", "constant BINARY b'\\x00'", "constant BM b'\\x13'",
  "constant BRK b'\\xf3'", "constant CHARSET b'*'", "constant COM_PORT_OPTION b','",
  "constant DET b'\\x14'", "constant DM b'\\xf2'", "constant DO b'\\xfd'", "constant DONT b'\\xfe'",
  "constant EC b'\\xf7'", "constant ECHO b'\\x01'", "constant EL b'\\xf8'", "constant ENCRYPT b'&'",
  "constant EOR b'\\x19'", "constant EXOPL b'\\xff'", "constant FORWARD_X b'1'",
  "constant GA b'\\xf9'", "constant IAC b'\\xff'", "constant IP b'\\xf4'", "constant KERMIT b'/'",
  "constant LFLOW b'!'", "constant LINEMODE b'\"'", "constant LOGOUT b'\\x12'",
  "constant NAMS b'\\x04'", "constant NAOCRD b'\\n'", "constant NAOFFD b'\\r'",
  "constant NAOHTD b'\\x0c'", "constant NAOHTS b'\\x0b'", "constant NAOL b'\\x08'",
  "constant NAOLFD b'\\x10'", "constant NAOP b'\\t'", "constant NAOVTD b'\\x0f'",
  "constant NAOVTS b'\\x0e'", "constant NAWS b'\\x1f'", "constant NEW_ENVIRON b\"'\"",
  "constant NOOPT b'\\x00'", "constant NOP b'\\xf1'", "constant OLD_ENVIRON b'$'",
  "constant OUTMRK b'\\x1b'", "constant PRAGMA_HEARTBEAT b'\\x8c'",
  "constant PRAGMA_LOGON b'\\x8a'", "constant RCP b'\\x02'", "constant RCTE b'\\x07'",
  "constant RSP b'+'", "constant SB b'\\xfa'", "constant SE b'\\xf0'", "constant SEND_URL b'0'",
  "constant SGA b'\\x03'", "constant SNDLOC b'\\x17'", "constant SSPI_LOGON b'\\x8b'",
  "constant STATUS b'\\x05'", "constant SUPDUP b'\\x15'", "constant SUPDUPOUTPUT b'\\x16'",
  "constant SUPPRESS_LOCAL_ECHO b'-'", "constant TLS b'.'", "constant TM b'\\x06'",
  "constant TN3270E b'('", "constant TSPEED b' '", "constant TTYLOC b'\\x1c'",
  "constant TTYPE b'\\x18'", "constant TUID b'\\x1a'", "constant VT3270REGIME b'\\x1d'",
  "constant WILL b'\\xfb'", "constant WONT b'\\xfc'", "constant X3PAD b'\\x1e'",
  "constant XASCII b'\\x11'", "constant XAUTH b')'", "constant XDISPLOC b'#'",
  "constant theNULL b'\\x00'", "exports Telnet"]),
  ("urllib", ["package", "modules parse", "constant __doc__ None"]),
  ("urllib.error", ["classes ContentTooShortError HTTPError URLError", "modules urllib=",
  "exports URLError HTTPError ContentTooShortError"]),
  ("urllib.parse", ["functions __getattr__ _checknetloc _coerce_args _decode_args _encode_result
  _noop _splitattr _splithost _splitnetloc _splitnport _splitparams _splitpasswd _splitport
  _splitquery _splittag _splittype _splituser _splitvalue _to_bytes clear_cache
  namedtuple=collections: parse_qs parse_qsl quote quote_from_bytes quote_plus splitattr splithost
  splitnport splitpasswd splitport splitquery splittag splittype splituser splitvalue to_bytes
  unquote unquote_plus unquote_to_bytes unwrap urldefrag urlencode urljoin urlparse urlunparse
  urlunsplit", "classes DefragResult DefragResultBytes ParseResult ParseResultBytes
  ResultBase=urllib.parse._NetlocResultMixinStr SplitResult SplitResultBytes
  _DefragResultBase=urllib.parse.DefragResult _NetlocResultMixinBase _NetlocResultMixinBytes
  _NetlocResultMixinStr _ParseResultBase=urllib.parse.ParseResult _Quoter _ResultMixinBytes
  _ResultMixinStr _SplitResultBase=urllib.parse.SplitResult", "objects _ALWAYS_SAFE=frozenset
  _byte_quoter_factory=functools._lru_cache_wrapper urlsplit=functools._lru_cache_wrapper",
  "holders _asciire=re.Pattern", "modules functools= re= sys= types= warnings=",
  "constant _ALWAYS_SAFE_BYTES b'-.0123456789ABCDEFGHIJKLMNOPQRSTUVWXYZ_abcdefghijklmnopqrstuv",
  "|wxyz~'", "constant _UNSAFE_URL_BYTES_TO_REMOVE ['\\t', '\\r', '\\n']",
  "constant _hexdig '0123456789ABCDEFabcdef'", "constant _hextobyte None",
  "constant _hostprog None", "constant _implicit_encoding 'ascii'",
  "constant _implicit_errors 'strict'", "constant _portprog None", "constant _typeprog None",
  "constant non_hierarchical ['gopher', 'hdl', 'mailto', 'news', 'telnet', 'wais', 'imap', 'sn",
  "|ews', 'sip', 'sips']",
  "constant scheme_chars 'abcdefghijklmnopqrstuvwxyzABCDEFGHIJKLMNOPQRSTUVWXYZ0123456789+-.'",
  "constant uses_fragment ['', 'ftp', 'hdl', 'http', 'gopher', 'news', 'nntp', 'wais', 'https'",
  "|, 'shttp', 'snews', 'file', 'prospero']",
  "constant uses_netloc ['', 'ftp', 'http', 'gopher', 'nntp', 'telnet', 'imap', 'wais', 'file'",
  "|, 'mms', 'https', 'shttp', 'snews', 'prospero', 'rtsp', 'rtsps', 'rtspu', 'rsync', 'svn', ",
  "|'svn+ssh', 'sftp', 'nfs', 'git', 'git+ssh', 'ws', 'wss']",
  "constant uses_params ['', 'ftp', 'hdl', 'prospero', 'http', 'imap', 'https', 'shttp', 'rtsp",
  "|', 'rtsps', 'rtspu', 'sip', 'sips', 'mms', 'sftp', 'tel']",
  "constant uses_query ['', 'http', 'wais', 'imap', 'https', 'shttp', 'mms', 'gopher', 'rtsp',",
  "| 'rtsps', 'rtspu', 'sip', 'sips']",
  "constant uses_relative ['', 'ftp', 'http', 'gopher', 'nntp', 'imap', 'wais', 'file', 'https",
  "|', 'shttp', 'mms', 'prospero', 'rtsp', 'rtsps', 'rtspu', 'sftp', 'svn', 'svn+ssh', 'ws', '",
  "|wss']", "exports urlparse urlunparse urljoin urldefrag urlsplit urlunsplit urlencode parse_qs
  parse_qsl quote quote_plus quote_from_bytes unquote unquote_plus unquote_to_bytes DefragResult
  ParseResult SplitResult DefragResultBytes ParseResultBytes SplitResultBytes",
  "part _asciire.groups 1", "part _asciire.pattern '([\\x00-\\x7f]+)'",
  "same Quoter=urllib.parse._Quoter"]),
  ("urllib.request", ["functions _parse_proxy _proxy_bypass_macosx_sysconf
  _proxy_bypass_winreg_override _safe_gethostbyname _splitattr=urllib.parse:
  _splithost=urllib.parse: _splitpasswd=urllib.parse: _splitport=urllib.parse:
  _splitquery=urllib.parse: _splittag=urllib.parse: _splittype=urllib.parse:
  _splituser=urllib.parse: _splitvalue=urllib.parse: _to_bytes=urllib.parse: build_opener ftperrors
  getproxies=urllib.request:getproxies_environment getproxies_environment install_opener localhost
  noheaders parse_http_list parse_keqv_list pathname2url
  proxy_bypass=urllib.request:proxy_bypass_environment proxy_bypass_environment quote=urllib.parse:
  request_host thishost unquote=urllib.parse: unquote_to_bytes=urllib.parse: unwrap=urllib.parse:
  url2pathname urlcleanup urljoin=urllib.parse: urlopen urlparse=urllib.parse: urlretrieve
  urlunparse=urllib.parse:", "builtins _randombytes=posix:urandom",
  "classes AbstractBasicAuthHandler AbstractDigestAuthHandler AbstractHTTPHandler BaseHandler
  CacheFTPHandler ContentTooShortError=urllib.error. DataHandler FTPHandler FancyURLopener
  FileHandler HTTPBasicAuthHandler HTTPCookieProcessor HTTPDefaultErrorHandler HTTPDigestAuthHandler
  HTTPError=urllib.error. HTTPErrorProcessor HTTPHandler HTTPPasswordMgr
  HTTPPasswordMgrWithDefaultRealm HTTPPasswordMgrWithPriorAuth HTTPRedirectHandler HTTPSHandler
  OpenerDirector ProxyBasicAuthHandler ProxyDigestAuthHandler ProxyHandler Request
  URLError=urllib.error. URLopener UnknownHandler addclosehook=urllib.response.
  addinfourl=urllib.response. ftpwrapper", "objects urlsplit=functools._lru_cache_wrapper",
  "same _cut_port_re=http.cookiejar.cut_port_re", "modules base64= bisect= contextlib= email=
  hashlib= http= io= os= posixpath= re= socket= ssl= string= sys= tempfile= time= warnings=",
  "numbers MAXFTPCACHE=10", "constant __version__ '3.11'", "constant _ftperrors None",
  "constant _have_ssl True", "constant _localhost None", "constant _noheaders None",
  "constant _opener None", "constant _thishost None", "constant _url_tempfiles []",
  "constant ftpcache \x7b\x7d", "exports Request OpenerDirector BaseHandler HTTPDefaultErrorHandler
  HTTPRedirectHandler HTTPCookieProcessor ProxyHandler HTTPPasswordMgr
  HTTPPasswordMgrWithDefaultRealm HTTPPasswordMgrWithPriorAuth AbstractBasicAuthHandler
  HTTPBasicAuthHandler ProxyBasicAuthHandler AbstractDigestAuthHandler HTTPDigestAuthHandler
  ProxyDigestAuthHandler HTTPHandler FileHandler FTPHandler CacheFTPHandler DataHandler
  UnknownHandler HTTPErrorProcessor urlopen install_opener build_opener pathname2url url2pathname
  getproxies urlretrieve urlcleanup URLopener FancyURLopener HTTPSHandler"]),
  ("urllib.response", ["classes addbase addclosehook addinfo addinfourl", "modules tempfile=",
  "exports addbase addclosehook addinfo addinfourl"]),
  ("urllib.robotparser", ["classes Entry RequestRate RobotFileParser RuleLine",
  "modules collections= urllib=", "exports RobotFileParser"]),
  ("uu", ["functions decode encode test", "classes Error", "modules binascii= os= sys= warnings=",
  "exports Error encode decode"]),
  ("webbrowser", ["functions _synthesize get main open open_new open_new_tab register
  register_X_browsers register_standard_browsers", "classes BackgroundBrowser BaseBrowser Chrome
  Chromium=webbrowser.Chrome Elinks Error Galeon GenericBrowser Grail Konqueror Mozilla Netscape
  Opera UnixBrowser", "objects _lock=_thread.RLock", "modules os= shlex= shutil= subprocess= sys=
  threading= warnings=", "constant _browsers \x7b\x7d", "constant _os_preferred_browser None",
  "constant _tryorder None", "exports Error open open_new open_new_tab get register"]),
  ("wsgiref", ["package"]),
  ("wsgiref.handlers", ["functions _needs_transcode format_date_time guess_scheme=wsgiref.util:
  is_hop_by_hop=wsgiref.util: read_environ", "builtins _is_request=:set.__contains__",
  "classes BaseCGIHandler BaseHandler CGIHandler FileWrapper=wsgiref.util. Headers=wsgiref.headers.
  IISCGIHandler SimpleHandler", "modules os= sys= time=",
  "constant _weekdayname ['Mon', 'Tue', 'Wed', 'Thu', 'Fri', 'Sat', 'Sun']", "exports BaseHandler
  SimpleHandler BaseCGIHandler CGIHandler IISCGIHandler read_environ",
  "same _monthname=http.cookies."]),
  ("wsgiref.headers", ["functions _formatparam", "classes Headers", "same tspecials=email.message.",
  "modules re="]),
  ("wsgiref.simple_server", ["functions demo_app make_server python_implementation=platform:",
  "classes BaseHTTPRequestHandler=http.server. HTTPServer=http.server. ServerHandler
  SimpleHandler=wsgiref.handlers. WSGIRequestHandler WSGIServer", "modules sys= urllib=",
  "constant __version__ '0.2'", "constant server_version 'WSGIServer/0.2'",
  "constant software_version 'WSGIServer/0.2 CPython/3.11.2'",
  "constant sys_version 'CPython/3.11.2'", "exports WSGIServer WSGIRequestHandler demo_app
  make_server"]),
  ("wsgiref.types", ["classes Any=typing. Callable=collections.abc. ErrorStream FileWrapper
  InputStream Iterable=collections.abc. Iterator=collections.abc. Protocol=typing. StartResponse
  TracebackType=traceback _Readable", "objects TypeAlias=typing._SpecialForm
  WSGIApplication=collections.abc._CallableGenericAlias WSGIEnvironment=types.GenericAlias
  _ExcInfo=types.GenericAlias _OptExcInfo=types.UnionType",
  "constant __annotations__ \x7b'_ExcInfo': typing._SpecialForm(...), '_OptExcInfo': typing._S",
  "|pecialForm(...), 'WSGIEnvironment': typing._SpecialForm(...), 'WSGIApplication': typing._S",
  "|pecialForm(...)\x7d", "exports StartResponse WSGIEnvironment WSGIApplication InputStream
  ErrorStream FileWrapper"]),
  ("wsgiref.util", ["functions application_uri guess_scheme is_hop_by_hop request_uri
  setup_testing_defaults shift_path_info", "builtins _hoppish=:set.__contains__",
  "classes FileWrapper", "modules posixpath=", "exports FileWrapper guess_scheme application_uri
  request_uri shift_path_info setup_testing_defaults"]),
  ("wsgiref.validate", ["functions assert_ check_content_type check_environ check_errors
  check_exc_info check_headers check_input check_iterator check_status check_string_type validator",
  "classes ErrorWrapper InputWrapper IteratorWrapper PartialIteratorWrapper WSGIWarning
  WriteWrapper", "holders bad_header_value_re=re.Pattern header_re=re.Pattern", "modules re= sys=
  warnings=", "exports validator", "part bad_header_value_re.pattern '[\\\\000-\\\\037]'",
  "part header_re.pattern '^[a-zA-Z][a-zA-Z0-9\\\\-_]*$'"]),
  ("xmlrpc", ["package", "constant __doc__ None"]),
  ("xmlrpc.client", ["functions _binary _datetime _datetime_type _iso8601_format _strftime dumps
  escape getparser gzip_decode gzip_encode loads", "classes Binary Boolean=bool BytesIO=_io.
  DateTime Decimal=decimal. Error ExpatParser Fault GzipDecodedResponse Marshaller MultiCall
  MultiCallIterator ProtocolError ResponseError SafeTransport Server=xmlrpc.client.ServerProxy
  ServerProxy Transport Unmarshaller _Method _MultiCallMethod boolean=bool datetime=datetime.",
  "modules base64= errno= expat=xml.parsers. gzip= http= sys= time= urllib=",
  "numbers APPLICATION_ERROR=-32500 INTERNAL_ERROR=-32603 INVALID_ENCODING_CHAR=-32702
  INVALID_METHOD_PARAMS=-32602 INVALID_XMLRPC=-32600 MAXINT=2147483647 METHOD_NOT_FOUND=-32601
  MININT=-2147483648 NOT_WELLFORMED_ERROR=-32700 PARSE_ERROR=-32700 SERVER_ERROR=-32600
  SYSTEM_ERROR=-32400 TRANSPORT_ERROR=-32300 UNSUPPORTED_ENCODING=-32701",
  "constant FastMarshaller None", "constant FastParser None", "constant FastUnmarshaller None",
  "constant WRAPPERS (xmlrpc.client.DateTime, xmlrpc.client.Binary)",
  "constant __version__ '3.11'"]),
  ("xmlrpc.server", ["brings _sysconfigdata__x86_64-linux-gnu", "functions dumps=xmlrpc.client:
  gzip_decode=xmlrpc.client: gzip_encode=xmlrpc.client: list_public_methods loads=xmlrpc.client:
  resolve_dotted_attribute signature=inspect:", "classes BaseHTTPRequestHandler=http.server.
  CGIXMLRPCRequestHandler DocCGIXMLRPCRequestHandler DocXMLRPCRequestHandler DocXMLRPCServer
  Fault=xmlrpc.client. MultiPathXMLRPCServer ServerHTMLDoc SimpleXMLRPCDispatcher
  SimpleXMLRPCRequestHandler SimpleXMLRPCServer XMLRPCDocGenerator partial=functools.",
  "modules fcntl= html= http= os= pydoc= re= socketserver= sys= traceback="])]

/-- The classes for the network. -/
def networkClasses : List (String × List String) := [
  ("_blake2.blake2b", ["shown _blake2.blake2b", "builtins __new__", "methods copy digest hexdigest
  update", "fields name block_size digest_size", "numbers SALT_SIZE=16 PERSON_SIZE=16
  MAX_KEY_SIZE=64 MAX_DIGEST_SIZE=64"]),
  ("_blake2.blake2s", ["shown _blake2.blake2s", "builtins __new__", "methods copy digest hexdigest
  update", "fields name block_size digest_size", "numbers SALT_SIZE=8 PERSON_SIZE=8 MAX_KEY_SIZE=32
  MAX_DIGEST_SIZE=32"]),
  ("_hashlib.HASH", ["shown _hashlib.HASH", "operations __repr__", "methods update digest hexdigest
  copy", "fields digest_size block_size name"]),
  ("_hashlib.HASHXOF", ["below _hashlib.HASH", "shown _hashlib.HASHXOF", "methods digest hexdigest",
  "fields digest_size"]),
  ("_hashlib.HMAC", ["shown _hashlib.HMAC", "operations __repr__", "methods update digest hexdigest
  copy", "fields digest_size block_size name"]),
  ("_hashlib.UnsupportedDigestmodError", ["below ValueError", "open __weakref__", "silent"]),
  ("_markupbase.ParserBase", ["open", "functions __init__ reset getpos updatepos parse_declaration
  parse_marked_section parse_comment _parse_doctype_subset _parse_doctype_element
  _parse_doctype_attlist _parse_doctype_notation _parse_doctype_entity _scan_name unknown_decl",
  "constant _decl_otherchars ''"]),
  ("_md5.md5", ["shown _md5.md5", "methods digest hexdigest update", "told-methods copy",
  "fields block_size name digest_size", "silent"]),
  ("_sha1.sha1", ["shown _sha1.sha1", "methods digest hexdigest update", "told-methods copy",
  "fields block_size name digest_size", "silent"]),
  ("_sha256.sha224", ["shown _sha256.sha224", "methods digest hexdigest update",
  "told-methods copy", "fields block_size name", "slots digest_size", "silent"]),
  ("_sha256.sha256", ["shown _sha256.sha256", "methods digest hexdigest update",
  "told-methods copy", "fields block_size name", "slots digest_size", "silent"]),
  ("_sha3.sha3_224", ["shown _sha3.sha3_224", "builtins __new__", "methods copy digest hexdigest
  update", "fields block_size name digest_size _capacity_bits _rate_bits _suffix"]),
  ("_sha3.sha3_256", ["shown _sha3.sha3_256", "builtins __new__", "methods copy digest hexdigest
  update", "fields block_size name digest_size _capacity_bits _rate_bits _suffix"]),
  ("_sha3.sha3_384", ["shown _sha3.sha3_384", "builtins __new__", "methods copy digest hexdigest
  update", "fields block_size name digest_size _capacity_bits _rate_bits _suffix"]),
  ("_sha3.sha3_512", ["shown _sha3.sha3_512", "builtins __new__", "methods copy digest hexdigest
  update", "fields block_size name digest_size _capacity_bits _rate_bits _suffix"]),
  ("_sha3.shake_128", ["shown _sha3.shake_128", "builtins __new__", "methods copy digest hexdigest
  update", "fields block_size name digest_size _capacity_bits _rate_bits _suffix"]),
  ("_sha3.shake_256", ["shown _sha3.shake_256", "builtins __new__", "methods copy digest hexdigest
  update", "fields block_size name digest_size _capacity_bits _rate_bits _suffix"]),
  ("_sha512.sha512", ["shown _sha512.sha512", "methods digest hexdigest update",
  "told-methods copy", "fields block_size name", "slots digest_size", "silent"]),
  ("_socket.socket", ["shown _socket.socket", "sealed", "builtins __new__", "operations __repr__
  __getattribute__ __init__ __del__", "methods _accept bind close connect connect_ex detach fileno
  getpeername getsockname getsockopt listen recv recv_into recvfrom recvfrom_into send sendall
  sendto setblocking getblocking settimeout gettimeout setsockopt shutdown recvmsg recvmsg_into
  sendmsg sendmsg_afalg", "fields timeout", "slots family type proto"]),
  ("_ssl.Certificate", ["shown _ssl.Certificate", "operations __repr__ __hash__ __lt__ __le__ __eq__
  __ne__ __gt__ __ge__", "methods public_bytes get_info", "silent"]),
  ("_ssl.MemoryBIO", ["shown _ssl.MemoryBIO", "builtins __new__", "methods read write write_eof",
  "fields pending eof", "silent"]),
  ("_ssl.SSLSession", ["shown _ssl.SSLSession", "operations __lt__ __le__ __eq__ __ne__ __gt__
  __ge__", "fields has_ticket id ticket_lifetime_hint time timeout", "silent",
  "constant __hash__ None"]),
  ("_ssl._SSLContext", ["shown _ssl._SSLContext", "builtins __new__", "methods _wrap_socket
  _wrap_bio set_ciphers _set_alpn_protocols load_cert_chain load_dh_params load_verify_locations
  session_stats set_default_verify_paths set_ecdh_curve cert_store_stats get_ca_certs get_ciphers",
  "fields check_hostname _host_flags minimum_version maximum_version keylog_filename _msg_callback
  sni_callback num_tickets options post_handshake_auth protocol verify_flags verify_mode
  security_level", "silent"]),
  ("_ssl._SSLSocket", ["shown _ssl._SSLSocket", "methods do_handshake write read pending getpeercert
  get_channel_binding cipher shared_ciphers version selected_alpn_protocol compression shutdown
  verify_client_post_handshake get_unverified_chain get_verified_chain", "fields context server_side
  server_hostname owner session session_reused", "silent"]),
  ("binascii.Error", ["below ValueError", "open __weakref__", "silent"]),
  ("binascii.Incomplete", ["below Exception", "open __weakref__", "silent"]),
  ("cgi.FieldStorage", ["open", "functions __init__ __del__ __enter__ __exit__ __repr__ __iter__
  __getattr__ __getitem__ getvalue getfirst getlist keys __contains__ __len__ __bool__
  read_urlencoded read_multi read_single read_binary read_lines _FieldStorage__write
  read_lines_to_eof read_lines_to_outerboundary skip_lines make_file", "numbers bufsize=8192",
  "constant FieldStorageClass None"]),
  ("cgi.MiniFieldStorage", ["open", "functions __init__ __repr__", "constant filename None",
  "constant list None", "constant type None", "constant file None",
  "constant type_options \x7b\x7d", "constant disposition None",
  "constant disposition_options \x7b\x7d", "constant headers \x7b\x7d"]),
  ("cgitb.Hook", ["open", "functions __init__ __call__ handle"]),
  ("ftplib.Error", ["below Exception", "open __weakref__", "silent"]),
  ("ftplib.FTP", ["open", "functions __init__ __enter__ __exit__ connect getwelcome set_debuglevel
  debug=ftplib:FTP.set_debuglevel set_pasv sanitize putline putcmd getline getmultiline getresp
  voidresp abort sendcmd voidcmd sendport sendeprt makeport makepasv ntransfercmd transfercmd login
  retrbinary retrlines storbinary storlines acct nlst dir mlsd rename delete cwd size mkd rmd pwd
  quit close", "numbers debugging=0 port=21 maxline=8192", "constant host ''", "constant sock None",
  "constant file None", "constant welcome None", "constant passiveserver True",
  "constant trust_server_pasv_ipv4_address False"]),
  ("ftplib.FTP_TLS", ["below ftplib.FTP", "functions __init__ login auth ccc prot_p prot_c
  ntransfercmd abort", "members ssl_version=ssl._SSLMethod.PROTOCOL_TLS_CLIENT"]),
  ("ftplib.error_perm", ["below ftplib.Error", "silent"]),
  ("ftplib.error_proto", ["below ftplib.Error", "silent"]),
  ("ftplib.error_reply", ["below ftplib.Error", "silent"]),
  ("ftplib.error_temp", ["below ftplib.Error", "silent"]),
  ("hmac.HMAC", ["functions __init__ _init_hmac _init_old update copy _current digest hexdigest",
  "properties name", "slots _hmac _inner _outer block_size digest_size", "numbers blocksize=64",
  "constant __slots__ ('_hmac', '_inner', '_outer', 'block_size', 'digest_size')"]),
  ("html.parser.HTMLParser", ["below _markupbase.ParserBase", "functions __init__ reset feed close
  get_starttag_text set_cdata_mode clear_cdata_mode goahead parse_html_declaration
  parse_bogus_comment parse_pi parse_starttag check_for_whole_start_tag parse_endtag
  handle_startendtag handle_starttag handle_endtag handle_charref handle_entityref handle_data
  handle_comment handle_decl handle_pi unknown_decl",
  "constant CDATA_CONTENT_ELEMENTS ('script', 'style')",
  "constant _HTMLParser__starttag_text None"]),
  ("http.HTTPMethod", ["below enum.StrEnum", "kind enum.EnumType",
  "functions __new_member__=http:HTTPMethod.__new__ _new_member_=http:HTTPMethod.__new__
  _generate_next_value_=enum:StrEnum._generate_next_value_ __new__=enum:Enum.__new__ __repr__",
  "operations _value_repr_ __str__", "methods __format__", "classes _member_type_=str",
  "constant _use_args_ True", "constant _unhashable_values_ []", "value CONNECT 'CONNECT'",
  "value DELETE 'DELETE'", "value GET 'GET'", "value HEAD 'HEAD'", "value OPTIONS 'OPTIONS'",
  "value PATCH 'PATCH'", "value POST 'POST'", "value PUT 'PUT'", "value TRACE 'TRACE'",
  "style bare value", "part CONNECT.description 'Establish a connection to the server.'",
  "part DELETE.description 'Remove the target.'", "part GET.description 'Retrieve the target.'",
  "part HEAD.description 'Same as GET, but only retrieve the status line and header section.'",
  "part OPTIONS.description 'Describe the communication options for the target.'",
  "part PATCH.description 'Apply partial modifications to a target.'",
  "part POST.description 'Perform target-specific processing with the request payload.'",
  "part PUT.description 'Replace the target with the request payload.'",
  "part TRACE.description 'Perform a message loop-back test along the path to the target.'"]),
  ("http.HTTPStatus", ["below enum.IntEnum", "kind enum.EnumType",
  "functions __new_member__=http:HTTPStatus.__new__ _new_member_=http:HTTPStatus.__new__
  _generate_next_value_=enum:Enum._generate_next_value_ __new__=enum:Enum.__new__",
  "operations _value_repr_", "methods __format__", "classes _member_type_=int",
  "constant _use_args_ True", "constant _unhashable_values_ []", "values CONTINUE=100
  SWITCHING_PROTOCOLS=101 PROCESSING=102 EARLY_HINTS=103 OK=200 CREATED=201 ACCEPTED=202
  NON_AUTHORITATIVE_INFORMATION=203 NO_CONTENT=204 RESET_CONTENT=205 PARTIAL_CONTENT=206
  MULTI_STATUS=207 ALREADY_REPORTED=208 IM_USED=226 MULTIPLE_CHOICES=300 MOVED_PERMANENTLY=301
  FOUND=302 SEE_OTHER=303 NOT_MODIFIED=304 USE_PROXY=305 TEMPORARY_REDIRECT=307
  PERMANENT_REDIRECT=308 BAD_REQUEST=400 UNAUTHORIZED=401 PAYMENT_REQUIRED=402 FORBIDDEN=403
  NOT_FOUND=404 METHOD_NOT_ALLOWED=405 NOT_ACCEPTABLE=406 PROXY_AUTHENTICATION_REQUIRED=407
  REQUEST_TIMEOUT=408 CONFLICT=409 GONE=410 LENGTH_REQUIRED=411 PRECONDITION_FAILED=412
  REQUEST_ENTITY_TOO_LARGE=413 REQUEST_URI_TOO_LONG=414 UNSUPPORTED_MEDIA_TYPE=415
  REQUESTED_RANGE_NOT_SATISFIABLE=416 EXPECTATION_FAILED=417 IM_A_TEAPOT=418 MISDIRECTED_REQUEST=421
  UNPROCESSABLE_ENTITY=422 LOCKED=423 FAILED_DEPENDENCY=424 TOO_EARLY=425 UPGRADE_REQUIRED=426
  PRECONDITION_REQUIRED=428 TOO_MANY_REQUESTS=429 REQUEST_HEADER_FIELDS_TOO_LARGE=431
  UNAVAILABLE_FOR_LEGAL_REASONS=451 INTERNAL_SERVER_ERROR=500 NOT_IMPLEMENTED=501 BAD_GATEWAY=502
  SERVICE_UNAVAILABLE=503 GATEWAY_TIMEOUT=504 HTTP_VERSION_NOT_SUPPORTED=505
  VARIANT_ALSO_NEGOTIATES=506 INSUFFICIENT_STORAGE=507 LOOP_DETECTED=508 NOT_EXTENDED=510
  NETWORK_AUTHENTICATION_REQUIRED=511", "style plain value", "part CONTINUE.phrase 'Continue'",
  "part CONTINUE.description 'Request received, please continue'",
  "part SWITCHING_PROTOCOLS.phrase 'Switching Protocols'",
  "part SWITCHING_PROTOCOLS.description 'Switching to new protocol; obey Upgrade header'",
  "part PROCESSING.phrase 'Processing'", "part PROCESSING.description ''",
  "part EARLY_HINTS.phrase 'Early Hints'", "part EARLY_HINTS.description ''", "part OK.phrase 'OK'",
  "part OK.description 'Request fulfilled, document follows'", "part CREATED.phrase 'Created'",
  "part CREATED.description 'Document created, URL follows'", "part ACCEPTED.phrase 'Accepted'",
  "part ACCEPTED.description 'Request accepted, processing continues off-line'",
  "part NON_AUTHORITATIVE_INFORMATION.phrase 'Non-Authoritative Information'",
  "part NON_AUTHORITATIVE_INFORMATION.description 'Request fulfilled from cache'",
  "part NO_CONTENT.phrase 'No Content'",
  "part NO_CONTENT.description 'Request fulfilled, nothing follows'",
  "part RESET_CONTENT.phrase 'Reset Content'",
  "part RESET_CONTENT.description 'Clear input form for further input'",
  "part PARTIAL_CONTENT.phrase 'Partial Content'",
  "part PARTIAL_CONTENT.description 'Partial content follows'",
  "part MULTI_STATUS.phrase 'Multi-Status'", "part MULTI_STATUS.description ''",
  "part ALREADY_REPORTED.phrase 'Already Reported'", "part ALREADY_REPORTED.description ''",
  "part IM_USED.phrase 'IM Used'", "part IM_USED.description ''",
  "part MULTIPLE_CHOICES.phrase 'Multiple Choices'",
  "part MULTIPLE_CHOICES.description 'Object has several resources -- see URI list'",
  "part MOVED_PERMANENTLY.phrase 'Moved Permanently'",
  "part MOVED_PERMANENTLY.description 'Object moved permanently -- see URI list'",
  "part FOUND.phrase 'Found'", "part FOUND.description 'Object moved temporarily -- see URI list'",
  "part SEE_OTHER.phrase 'See Other'",
  "part SEE_OTHER.description 'Object moved -- see Method and URL list'",
  "part NOT_MODIFIED.phrase 'Not Modified'",
  "part NOT_MODIFIED.description 'Document has not changed since given time'",
  "part USE_PROXY.phrase 'Use Proxy'",
  "part USE_PROXY.description 'You must use proxy specified in Location to access this resourc",
  "|e'", "part TEMPORARY_REDIRECT.phrase 'Temporary Redirect'",
  "part TEMPORARY_REDIRECT.description 'Object moved temporarily -- see URI list'",
  "part PERMANENT_REDIRECT.phrase 'Permanent Redirect'",
  "part PERMANENT_REDIRECT.description 'Object moved permanently -- see URI list'",
  "part BAD_REQUEST.phrase 'Bad Request'",
  "part BAD_REQUEST.description 'Bad request syntax or unsupported method'",
  "part UNAUTHORIZED.phrase 'Unauthorized'",
  "part UNAUTHORIZED.description 'No permission -- see authorization schemes'",
  "part PAYMENT_REQUIRED.phrase 'Payment Required'",
  "part PAYMENT_REQUIRED.description 'No payment -- see charging schemes'",
  "part FORBIDDEN.phrase 'Forbidden'",
  "part FORBIDDEN.description 'Request forbidden -- authorization will not help'",
  "part NOT_FOUND.phrase 'Not Found'", "part NOT_FOUND.description 'Nothing matches the given URI'",
  "part METHOD_NOT_ALLOWED.phrase 'Method Not Allowed'",
  "part METHOD_NOT_ALLOWED.description 'Specified method is invalid for this resource'",
  "part NOT_ACCEPTABLE.phrase 'Not Acceptable'",
  "part NOT_ACCEPTABLE.description 'URI not available in preferred format'",
  "part PROXY_AUTHENTICATION_REQUIRED.phrase 'Proxy Authentication Required'",
  "part PROXY_AUTHENTICATION_REQUIRED.description 'You must authenticate with this proxy befor",
  "|e proceeding'", "part REQUEST_TIMEOUT.phrase 'Request Timeout'",
  "part REQUEST_TIMEOUT.description 'Request timed out; try again later'",
  "part CONFLICT.phrase 'Conflict'", "part CONFLICT.description 'Request conflict'",
  "part GONE.phrase 'Gone'",
  "part GONE.description 'URI no longer exists and has been permanently removed'",
  "part LENGTH_REQUIRED.phrase 'Length Required'",
  "part LENGTH_REQUIRED.description 'Client must specify Content-Length'",
  "part PRECONDITION_FAILED.phrase 'Precondition Failed'",
  "part PRECONDITION_FAILED.description 'Precondition in headers is false'",
  "part REQUEST_ENTITY_TOO_LARGE.phrase 'Request Entity Too Large'",
  "part REQUEST_ENTITY_TOO_LARGE.description 'Entity is too large'",
  "part REQUEST_URI_TOO_LONG.phrase 'Request-URI Too Long'",
  "part REQUEST_URI_TOO_LONG.description 'URI is too long'",
  "part UNSUPPORTED_MEDIA_TYPE.phrase 'Unsupported Media Type'",
  "part UNSUPPORTED_MEDIA_TYPE.description 'Entity body in unsupported format'",
  "part REQUESTED_RANGE_NOT_SATISFIABLE.phrase 'Requested Range Not Satisfiable'",
  "part REQUESTED_RANGE_NOT_SATISFIABLE.description 'Cannot satisfy request range'",
  "part EXPECTATION_FAILED.phrase 'Expectation Failed'",
  "part EXPECTATION_FAILED.description 'Expect condition could not be satisfied'",
  "part IM_A_TEAPOT.phrase \"I'm a Teapot\"",
  "part IM_A_TEAPOT.description 'Server refuses to brew coffee because it is a teapot.'",
  "part MISDIRECTED_REQUEST.phrase 'Misdirected Request'",
  "part MISDIRECTED_REQUEST.description 'Server is not able to produce a response'",
  "part UNPROCESSABLE_ENTITY.phrase 'Unprocessable Entity'",
  "part UNPROCESSABLE_ENTITY.description ''", "part LOCKED.phrase 'Locked'",
  "part LOCKED.description ''", "part FAILED_DEPENDENCY.phrase 'Failed Dependency'",
  "part FAILED_DEPENDENCY.description ''", "part TOO_EARLY.phrase 'Too Early'",
  "part TOO_EARLY.description ''", "part UPGRADE_REQUIRED.phrase 'Upgrade Required'",
  "part UPGRADE_REQUIRED.description ''",
  "part PRECONDITION_REQUIRED.phrase 'Precondition Required'",
  "part PRECONDITION_REQUIRED.description 'The origin server requires the request to be condit",
  "|ional'", "part TOO_MANY_REQUESTS.phrase 'Too Many Requests'",
  "part TOO_MANY_REQUESTS.description 'The user has sent too many requests in a given amount o",
  "|f time (\"rate limiting\")'",
  "part REQUEST_HEADER_FIELDS_TOO_LARGE.phrase 'Request Header Fields Too Large'",
  "part REQUEST_HEADER_FIELDS_TOO_LARGE.description 'The server is unwilling to process the re",
  "|quest because its header fields are too large'",
  "part UNAVAILABLE_FOR_LEGAL_REASONS.phrase 'Unavailable For Legal Reasons'",
  "part UNAVAILABLE_FOR_LEGAL_REASONS.description 'The server is denying access to the resourc",
  "|e as a consequence of a legal demand'",
  "part INTERNAL_SERVER_ERROR.phrase 'Internal Server Error'",
  "part INTERNAL_SERVER_ERROR.description 'Server got itself in trouble'",
  "part NOT_IMPLEMENTED.phrase 'Not Implemented'",
  "part NOT_IMPLEMENTED.description 'Server does not support this operation'",
  "part BAD_GATEWAY.phrase 'Bad Gateway'",
  "part BAD_GATEWAY.description 'Invalid responses from another server/proxy'",
  "part SERVICE_UNAVAILABLE.phrase 'Service Unavailable'",
  "part SERVICE_UNAVAILABLE.description 'The server cannot process the request due to a high l",
  "|oad'", "part GATEWAY_TIMEOUT.phrase 'Gateway Timeout'",
  "part GATEWAY_TIMEOUT.description 'The gateway server did not receive a timely response'",
  "part HTTP_VERSION_NOT_SUPPORTED.phrase 'HTTP Version Not Supported'",
  "part HTTP_VERSION_NOT_SUPPORTED.description 'Cannot fulfill request'",
  "part VARIANT_ALSO_NEGOTIATES.phrase 'Variant Also Negotiates'",
  "part VARIANT_ALSO_NEGOTIATES.description ''",
  "part INSUFFICIENT_STORAGE.phrase 'Insufficient Storage'",
  "part INSUFFICIENT_STORAGE.description ''", "part LOOP_DETECTED.phrase 'Loop Detected'",
  "part LOOP_DETECTED.description ''", "part NOT_EXTENDED.phrase 'Not Extended'",
  "part NOT_EXTENDED.description ''",
  "part NETWORK_AUTHENTICATION_REQUIRED.phrase 'Network Authentication Required'",
  "part NETWORK_AUTHENTICATION_REQUIRED.description 'The client needs to authenticate to gain ",
  "|network access'"]),
  ("http.client.BadStatusLine", ["below http.client.HTTPException", "functions __init__",
  "silent"]),
  ("http.client.CannotSendHeader", ["below http.client.ImproperConnectionState", "silent"]),
  ("http.client.CannotSendRequest", ["below http.client.ImproperConnectionState", "silent"]),
  ("http.client.HTTPConnection", ["open", "functions __init__ set_tunnel _get_hostport
  set_debuglevel _wrap_ipv6 _tunnel connect close send _output _read_readable _send_output
  putrequest _encode_request _validate_method _validate_path _validate_host putheader endheaders
  request _send_request getresponse", "statics _is_textIO _get_content_length",
  "classes response_class=http.client.HTTPResponse", "numbers _http_vsn=11 default_port=80
  auto_open=1 debuglevel=0", "constant _http_vsn_str 'HTTP/1.1'", "silent"]),
  ("http.client.HTTPException", ["below Exception", "open __weakref__", "silent"]),
  ("http.client.HTTPMessage", ["below email.message.Message", "functions getallmatchingheaders",
  "silent"]),
  ("http.client.HTTPResponse", ["below io.BufferedIOBase", "kind abc.ABCMeta", "functions __init__
  _read_status begin _check_close _close_conn close flush readable isclosed read readinto
  _read_next_chunk_size _read_and_discard_trailer _get_chunk_left _read_chunked _readinto_chunked
  _safe_read _safe_readinto read1 peek readline _read1_chunked _peek_chunked fileno getheader
  getheaders __iter__ info geturl getcode", "silent"]),
  ("http.client.HTTPSConnection", ["below http.client.HTTPConnection", "functions __init__ connect",
  "numbers default_port=443"]),
  ("http.client.ImproperConnectionState", ["below http.client.HTTPException", "silent"]),
  ("http.client.IncompleteRead", ["below http.client.HTTPException", "functions __init__ __repr__",
  "operations __str__", "silent"]),
  ("http.client.InvalidURL", ["below http.client.HTTPException", "silent"]),
  ("http.client.LineTooLong", ["below http.client.HTTPException", "functions __init__", "silent"]),
  ("http.client.NotConnected", ["below http.client.HTTPException", "silent"]),
  ("http.client.RemoteDisconnected", ["above ConnectionResetError ConnectionError OSError
  http.client.BadStatusLine http.client.HTTPException Exception BaseException object",
  "open __weakref__", "functions __init__", "silent"]),
  ("http.client.ResponseNotReady", ["below http.client.ImproperConnectionState", "silent"]),
  ("http.client.UnimplementedFileMode", ["below http.client.HTTPException", "silent"]),
  ("http.client.UnknownProtocol", ["below http.client.HTTPException", "functions __init__",
  "silent"]),
  ("http.client.UnknownTransferEncoding", ["below http.client.HTTPException", "silent"]),
  ("http.cookiejar.Absent", ["open", "silent"]),
  ("http.cookiejar.Cookie", ["open", "functions __init__ has_nonstandard_attr get_nonstandard_attr
  set_nonstandard_attr is_expired __str__ __repr__"]),
  ("http.cookiejar.CookieJar", ["open", "functions __init__ set_policy _cookies_for_domain
  _cookies_for_request _cookie_attrs add_cookie_header _normalized_cookie_tuples
  _cookie_from_cookie_tuple _cookies_from_attrs_set _process_rfc2109_cookies make_cookies
  set_cookie_if_ok set_cookie extract_cookies clear clear_session_cookies clear_expired_cookies
  __iter__ __len__ __repr__ __str__", "objects quote_re=re.Pattern", "holders non_word_re=re.Pattern
  strict_domain_re=re.Pattern domain_re=re.Pattern dots_re=re.Pattern magic_re=re.Pattern",
  "part non_word_re.pattern '\\\\W'", "part strict_domain_re.pattern '\\\\.?[^.]*'",
  "part domain_re.pattern '[^.]*'", "part dots_re.pattern '^\\\\.+'", "part magic_re.flags 256",
  "part magic_re.groups 1", "part magic_re.pattern '^\\\\#LWP-Cookies-(\\\\d+\\\\.\\\\d+)'"]),
  ("http.cookiejar.CookiePolicy", ["open", "functions set_ok return_ok domain_return_ok
  path_return_ok"]),
  ("http.cookiejar.DefaultCookiePolicy", ["below http.cookiejar.CookiePolicy", "functions __init__
  blocked_domains set_blocked_domains is_blocked allowed_domains set_allowed_domains is_not_allowed
  set_ok set_ok_version set_ok_verifiability set_ok_name set_ok_path set_ok_domain set_ok_port
  return_ok return_ok_version return_ok_verifiability return_ok_secure return_ok_expires
  return_ok_port return_ok_domain domain_return_ok path_return_ok", "numbers DomainStrictNoDots=1
  DomainStrictNonDomain=2 DomainRFC2965Match=4 DomainLiberal=0 DomainStrict=3"]),
  ("http.cookiejar.FileCookieJar", ["below http.cookiejar.CookieJar", "functions __init__ save load
  revert"]),
  ("http.cookiejar.LWPCookieJar", ["below http.cookiejar.FileCookieJar", "functions as_lwp_str save
  _really_load"]),
  ("http.cookiejar.LoadError", ["below OSError", "open __weakref__", "silent"]),
  ("http.cookiejar.MozillaCookieJar", ["below http.cookiejar.FileCookieJar", "functions _really_load
  save"]),
  ("http.cookies.BaseCookie", ["below dict", "open", "functions value_decode value_encode __init__
  _BaseCookie__set=http.cookies:BaseCookie.__set __setitem__ output
  __str__=http.cookies:BaseCookie.output __repr__ js_output load
  _BaseCookie__parse_string=http.cookies:BaseCookie.__parse_string"]),
  ("http.cookies.CookieError", ["below Exception", "open __weakref__", "silent"]),
  ("http.cookies.Morsel", ["below dict", "open", "functions __init__ __setitem__ setdefault __eq__
  copy update isReservedKey set __getstate__ __setstate__ output __str__=http.cookies:Morsel.output
  __repr__ js_output OutputString", "operations __ne__", "class-functions __class_getitem__",
  "properties key value coded_value", "objects _flags=set",
  "constant _reserved \x7b'expires': 'expires', 'path': 'Path', 'comment': 'Comment', 'domain'",
  "|: 'Domain', 'max-age': 'Max-Age', 'secure': 'Secure', 'httponly': 'HttpOnly', 'version': '",
  "|Version', 'samesite': 'SameSite'\x7d", "constant __hash__ None"]),
  ("http.cookies.SimpleCookie", ["below http.cookies.BaseCookie", "functions value_decode
  value_encode"]),
  ("http.server.BaseHTTPRequestHandler", ["below socketserver.StreamRequestHandler",
  "functions parse_request handle_expect_100 handle_one_request handle send_error send_response
  send_response_only send_header end_headers flush_headers log_request log_error log_message
  version_string date_time_string log_date_time_string address_string",
  "classes MessageClass=http.client.HTTPMessage", "constant sys_version 'Python/3.11.2'",
  "constant server_version 'BaseHTTP/0.6'",
  "constant error_message_format '<!DOCTYPE HTML>\\n<html lang=\"en\">\\n    <head>\\n        ",
  "|<meta charset=\"utf-8\">\\n        <title>Error response</title>\\n    </head>\\n    <body",
  "|>\\n        <h1>Error response</h1>\\n        <p>Error code: %(code)d</p>\\n        <p>Mes",
  "|sage: %(message)s.</p>\\n        <p>Error code explanation: %(code)s - %(explain)s.</p>\\n",
  "|    </body>\\n</html>\\n'", "constant error_content_type 'text/html;charset=utf-8'",
  "constant default_request_version 'HTTP/0.9'",
  "constant _control_char_table \x7b0: '\\\\x00', 1: '\\\\x01', 2: '\\\\x02', 3: '\\\\x03', 4:",
  "| '\\\\x04', 5: '\\\\x05', 6: '\\\\x06', 7: '\\\\x07', 8: '\\\\x08', 9: '\\\\x09', 10: '\\",
  "|\\x0a', 11: '\\\\x0b', 12: '\\\\x0c', 13: '\\\\x0d', 14: '\\\\x0e', 15: '\\\\x0f', 16: '\\",
  "|\\x10', 17: '\\\\x11', 18: '\\\\x12', 19: '\\\\x13', 20: '\\\\x14', 21: '\\\\x15', 22: '\\",
  "|\\x16', 23: '\\\\x17', 24: '\\\\x18', 25: '\\\\x19', 26: '\\\\x1a', 27: '\\\\x1b', 28: '\\",
  "|\\x1c', 29: '\\\\x1d', 30: '\\\\x1e', 31: '\\\\x1f', 127: '\\\\x7f', 128: '\\\\x80', 129: ",
  "|'\\\\x81', 130: '\\\\x82', 131: '\\\\x83', 132: '\\\\x84', 133: '\\\\x85', 134: '\\\\x86',",
  "| 135: '\\\\x87', 136: '\\\\x88', 137: '\\\\x89', 138: '\\\\x8a', 139: '\\\\x8b', 140: '\\",
  "|\\x8c', 141: '\\\\x8d', 142: '\\\\x8e', 143: '\\\\x8f', 144: '\\\\x90', 145: '\\\\x91', 14",
  "|6: '\\\\x92', 147: '\\\\x93', 148: '\\\\x94', 149: '\\\\x95', 150: '\\\\x96', 151: '\\\\x9",
  "|7', 152: '\\\\x98', 153: '\\\\x99', 154: '\\\\x9a', 155: '\\\\x9b', 156: '\\\\x9c', 157: '",
  "|\\\\x9d', 158: '\\\\x9e', 159: '\\\\x9f', 92: '\\\\\\\\'\x7d",
  "constant weekdayname ['Mon', 'Tue', 'Wed', 'Thu', 'Fri', 'Sat', 'Sun']",
  "constant monthname [None, 'Jan', 'Feb', 'Mar', 'Apr', 'May', 'Jun', 'Jul', 'Aug', 'Sep', 'O",
  "|ct', 'Nov', 'Dec']", "constant protocol_version 'HTTP/1.0'", "objects responses=dict"]),
  ("http.server.CGIHTTPRequestHandler", ["below http.server.SimpleHTTPRequestHandler",
  "functions do_POST send_head is_cgi is_executable is_python run_cgi", "numbers rbufsize=0",
  "constant have_fork True", "constant cgi_directories ['/cgi-bin', '/htbin']"]),
  ("http.server.HTTPServer", ["below socketserver.TCPServer", "functions server_bind",
  "numbers allow_reuse_address=1", "silent"]),
  ("http.server.SimpleHTTPRequestHandler", ["below http.server.BaseHTTPRequestHandler",
  "functions __init__ do_GET do_HEAD send_head list_directory translate_path copyfile guess_type",
  "constant server_version 'SimpleHTTP/0.6'",
  "constant extensions_map \x7b'.gz': 'application/gzip', '.Z': 'application/octet-stream', '.",
  "|bz2': 'application/x-bzip2', '.xz': 'application/x-xz'\x7d",
  "constant _encodings_map_default \x7b'.gz': 'application/gzip', '.Z': 'application/octet-str",
  "|eam', '.bz2': 'application/x-bzip2', '.xz': 'application/x-xz'\x7d"]),
  ("http.server.ThreadingHTTPServer", ["above socketserver.ThreadingMixIn http.server.HTTPServer
  socketserver.TCPServer socketserver.BaseServer object", "constant daemon_threads True",
  "silent"]),
  ("imaplib.IMAP4", ["open", "functions __init__ _mode_ascii _mode_utf8 _connect __getattr__
  __enter__ __exit__ _create_socket open read readline send shutdown socket recent response append
  authenticate capability check close copy create delete deleteacl enable expunge fetch getacl
  getannotation getquota getquotaroot list login login_cram_md5 _CRAM_MD5_AUTH logout lsub
  myrights namespace noop partial proxyauth rename search select setacl setannotation setquota sort
  starttls status store subscribe thread uid unsubscribe unselect xatom _append_untagged _check_bye
  _command _command_complete _get_capabilities _get_response _get_tagged_response _get_line _match
  _new_tag _quote _simple_command _untagged_response _mesg _dump_ur _log print_log",
  "classes error=imaplib.IMAP4. abort=imaplib.IMAP4. readonly=imaplib.IMAP4."]),
  ("imaplib.IMAP4_SSL", ["below imaplib.IMAP4", "functions __init__ _create_socket open"]),
  ("imaplib.IMAP4_stream", ["below imaplib.IMAP4", "functions __init__ open read readline send
  shutdown"]),
  ("imaplib._Authenticator", ["open", "functions __init__ process encode decode"]),
  ("ipaddress.AddressValueError", ["below ValueError", "open __weakref__"]),
  ("ipaddress.IPv4Address", ["above ipaddress._BaseV4 ipaddress._BaseAddress
  ipaddress._IPAddressBase object", "open __weakref__", "functions __init__", "properties packed
  is_reserved is_private is_global is_multicast is_unspecified is_loopback is_link_local",
  "slots _ip", "classes _constants=ipaddress._IPv4Constants",
  "constant __slots__ ('_ip', '__weakref__')",
  "part is_private.fget object('functools._lru_cache_wrapper')",
  "part is_global.fget object('functools._lru_cache_wrapper')"]),
  ("ipaddress.IPv4Interface", ["below ipaddress.IPv4Address", "open __dict__", "functions __init__
  __str__ __eq__ __lt__ __hash__ __reduce__=ipaddress:_IPAddressBase.__reduce__", "properties ip
  with_prefixlen with_netmask with_hostmask", "objects hostmask=functools.cached_property",
  "silent"]),
  ("ipaddress.IPv4Network", ["above ipaddress._BaseV4 ipaddress._BaseNetwork
  ipaddress._IPAddressBase object", "open", "functions __init__", "properties is_global",
  "classes _address_class=ipaddress.IPv4Address _constants=ipaddress._IPv4Constants",
  "part is_global.fget object('functools._lru_cache_wrapper')"]),
  ("ipaddress.IPv6Address", ["above ipaddress._BaseV6 ipaddress._BaseAddress
  ipaddress._IPAddressBase object", "open __weakref__", "functions __init__ __str__ __hash__ __eq__
  __reduce__", "properties scope_id packed is_multicast is_reserved is_link_local is_site_local
  is_private is_global is_unspecified is_loopback ipv4_mapped teredo sixtofour", "slots _ip
  _scope_id", "classes _constants=ipaddress._IPv6Constants",
  "constant __slots__ ('_ip', '_scope_id', '__weakref__')",
  "part is_private.fget object('functools._lru_cache_wrapper')"]),
  ("ipaddress.IPv6Interface", ["below ipaddress.IPv6Address", "open __dict__", "functions __init__
  __str__ __eq__ __lt__ __hash__ __reduce__=ipaddress:_IPAddressBase.__reduce__", "properties ip
  with_prefixlen with_netmask with_hostmask is_unspecified is_loopback",
  "objects hostmask=functools.cached_property", "silent"]),
  ("ipaddress.IPv6Network", ["above ipaddress._BaseV6 ipaddress._BaseNetwork
  ipaddress._IPAddressBase object", "open", "functions __init__ hosts", "properties is_site_local",
  "classes _address_class=ipaddress.IPv6Address _constants=ipaddress._IPv6Constants"]),
  ("ipaddress.NetmaskValueError", ["below ValueError", "open __weakref__"]),
  ("ipaddress._BaseAddress", ["below ipaddress._IPAddressBase", "functions __int__ __eq__ __lt__
  __add__ __sub__ __repr__ __str__ __hash__ _get_address_key __reduce__ __format__
  __gt__=functools:_gt_from_lt __le__=functools:_le_from_lt __ge__=functools:_ge_from_lt",
  "constant __slots__ ()"]),
  ("ipaddress._BaseConstants", ["open", "constant _private_networks []", "silent"]),
  ("ipaddress._BaseNetwork", ["below ipaddress._IPAddressBase", "open", "functions __repr__ __str__
  hosts __iter__ __getitem__ __lt__ __eq__ __hash__ __contains__ overlaps address_exclude
  compare_networks _get_networks_key subnets supernet subnet_of supernet_of
  __gt__=functools:_gt_from_lt __le__=functools:_le_from_lt __ge__=functools:_ge_from_lt",
  "statics _is_subnet_of", "properties with_prefixlen with_netmask with_hostmask num_addresses
  _address_class prefixlen is_multicast is_reserved is_link_local is_private is_global
  is_unspecified is_loopback", "classes _constants=ipaddress._BaseConstants",
  "objects broadcast_address=functools.cached_property hostmask=functools.cached_property"]),
  ("ipaddress._BaseV4", ["functions _explode_shorthand_ip_string _reverse_pointer",
  "class-functions _make_netmask _ip_int_from_string _parse_octet _string_from_ip_int",
  "properties max_prefixlen version", "numbers _version=4 _ALL_ONES=4294967295 _max_prefixlen=32",
  "constant __slots__ ()",
  "constant _netmask_cache \x7b'16': (ipaddress.IPv4Address(...), 16), '8': (ipaddress.IPv4Add",
  "|ress(...), 8), '4': (ipaddress.IPv4Address(...), 4), '10': (ipaddress.IPv4Address(...), 10",
  "|), '12': (ipaddress.IPv4Address(...), 12), '24': (ipaddress.IPv4Address(...), 24), '31': (",
  "|ipaddress.IPv4Address(...), 31), '15': (ipaddress.IPv4Address(...), 15), '32': (ipaddress.",
  "|IPv4Address(...), 32)\x7d"]),
  ("ipaddress._BaseV6", ["functions _explode_shorthand_ip_string _reverse_pointer",
  "class-functions _make_netmask _ip_int_from_string _parse_hextet _compress_hextets
  _string_from_ip_int", "statics _split_scope_id", "properties max_prefixlen version",
  "objects _HEX_DIGITS=frozenset", "numbers _version=6 _HEXTET_COUNT=8 _max_prefixlen=128",
  "constant __slots__ ()", "constant _ALL_ONES 340282366920938463463374607431768211455",
  "constant _netmask_cache \x7b'10': (ipaddress.IPv6Address(...), 10), '8': (ipaddress.IPv6Add",
  "|ress(...), 8), '128': (ipaddress.IPv6Address(...), 128), '96': (ipaddress.IPv6Address(...)",
  "|, 96), '48': (ipaddress.IPv6Address(...), 48), '64': (ipaddress.IPv6Address(...), 64), '23",
  "|': (ipaddress.IPv6Address(...), 23), '32': (ipaddress.IPv6Address(...), 32), '16': (ipaddr",
  "|ess.IPv6Address(...), 16), '7': (ipaddress.IPv6Address(...), 7), '28': (ipaddress.IPv6Addr",
  "|ess(...), 28), '6': (ipaddress.IPv6Address(...), 6), '5': (ipaddress.IPv6Address(...), 5),",
  "| '4': (ipaddress.IPv6Address(...), 4), '3': (ipaddress.IPv6Address(...), 3), '9': (ipaddre",
  "|ss.IPv6Address(...), 9)\x7d"]),
  ("ipaddress._IPAddressBase", ["functions _check_int_address _check_packed_address __reduce__",
  "class-functions _ip_int_from_prefix _prefix_from_ip_int _report_invalid_netmask
  _prefix_from_prefix_string _prefix_from_ip_string _split_addr_prefix", "properties exploded
  compressed reverse_pointer version", "constant __slots__ ()"]),
  ("ipaddress._IPv4Constants", ["open", "holders _linklocal_network=ipaddress.IPv4Network
  _loopback_network=ipaddress.IPv4Network _multicast_network=ipaddress.IPv4Network
  _public_network=ipaddress.IPv4Network _reserved_network=ipaddress.IPv4Network
  _unspecified_address=ipaddress.IPv4Address",
  "constant _private_networks [ipaddress.IPv4Network(...), ipaddress.IPv4Network(...), ipaddre",
  "|ss.IPv4Network(...), ipaddress.IPv4Network(...), ipaddress.IPv4Network(...), ipaddress.IPv",
  "|4Network(...), ipaddress.IPv4Network(...), ipaddress.IPv4Network(...), ipaddress.IPv4Netwo",
  "|rk(...), ipaddress.IPv4Network(...), ipaddress.IPv4Network(...), ipaddress.IPv4Network(...",
  "|), ipaddress.IPv4Network(...), ipaddress.IPv4Network(...)]", "silent",
  "part _linklocal_network._prefixlen 16",
  "part _linklocal_network.broadcast_address object('ipaddress.IPv4Address')",
  "part _linklocal_network.compressed '169.254.0.0/16'",
  "part _linklocal_network.exploded '169.254.0.0/16'",
  "part _linklocal_network.hostmask object('ipaddress.IPv4Address')",
  "part _linklocal_network.is_global False", "part _linklocal_network.is_link_local True",
  "part _linklocal_network.is_loopback False", "part _linklocal_network.is_multicast False",
  "part _linklocal_network.is_private True", "part _linklocal_network.is_reserved False",
  "part _linklocal_network.is_unspecified False", "part _linklocal_network.max_prefixlen 32",
  "part _linklocal_network.netmask object('ipaddress.IPv4Address')",
  "part _linklocal_network.network_address object('ipaddress.IPv4Address')",
  "part _linklocal_network.num_addresses 65536", "part _linklocal_network.prefixlen 16",
  "part _linklocal_network.reverse_pointer '0/16.0.254.169.in-addr.arpa'",
  "part _linklocal_network.version 4",
  "part _linklocal_network.with_hostmask '169.254.0.0/0.0.255.255'",
  "part _linklocal_network.with_netmask '169.254.0.0/255.255.0.0'",
  "part _linklocal_network.with_prefixlen '169.254.0.0/16'", "part _loopback_network._prefixlen 8",
  "part _loopback_network.broadcast_address object('ipaddress.IPv4Address')",
  "part _loopback_network.compressed '127.0.0.0/8'",
  "part _loopback_network.exploded '127.0.0.0/8'",
  "part _loopback_network.hostmask object('ipaddress.IPv4Address')",
  "part _loopback_network.is_global False", "part _loopback_network.is_link_local False",
  "part _loopback_network.is_loopback True", "part _loopback_network.is_multicast False",
  "part _loopback_network.is_private True", "part _loopback_network.is_reserved False",
  "part _loopback_network.is_unspecified False", "part _loopback_network.max_prefixlen 32",
  "part _loopback_network.netmask object('ipaddress.IPv4Address')",
  "part _loopback_network.network_address object('ipaddress.IPv4Address')",
  "part _loopback_network.num_addresses 16777216", "part _loopback_network.prefixlen 8",
  "part _loopback_network.reverse_pointer '0/8.0.0.127.in-addr.arpa'",
  "part _loopback_network.version 4",
  "part _loopback_network.with_hostmask '127.0.0.0/0.255.255.255'",
  "part _loopback_network.with_netmask '127.0.0.0/255.0.0.0'",
  "part _loopback_network.with_prefixlen '127.0.0.0/8'", "part _multicast_network._prefixlen 4",
  "part _multicast_network.broadcast_address object('ipaddress.IPv4Address')",
  "part _multicast_network.compressed '224.0.0.0/4'",
  "part _multicast_network.exploded '224.0.0.0/4'",
  "part _multicast_network.hostmask object('ipaddress.IPv4Address')",
  "part _multicast_network.is_global True", "part _multicast_network.is_link_local False",
  "part _multicast_network.is_loopback False", "part _multicast_network.is_multicast True",
  "part _multicast_network.is_private False", "part _multicast_network.is_reserved False",
  "part _multicast_network.is_unspecified False", "part _multicast_network.max_prefixlen 32",
  "part _multicast_network.netmask object('ipaddress.IPv4Address')",
  "part _multicast_network.network_address object('ipaddress.IPv4Address')",
  "part _multicast_network.num_addresses 268435456", "part _multicast_network.prefixlen 4",
  "part _multicast_network.reverse_pointer '0/4.0.0.224.in-addr.arpa'",
  "part _multicast_network.version 4",
  "part _multicast_network.with_hostmask '224.0.0.0/15.255.255.255'",
  "part _multicast_network.with_netmask '224.0.0.0/240.0.0.0'",
  "part _multicast_network.with_prefixlen '224.0.0.0/4'", "part _public_network._prefixlen 10",
  "part _public_network.broadcast_address object('ipaddress.IPv4Address')",
  "part _public_network.compressed '100.64.0.0/10'",
  "part _public_network.exploded '100.64.0.0/10'",
  "part _public_network.hostmask object('ipaddress.IPv4Address')",
  "part _public_network.is_global False", "part _public_network.is_link_local False",
  "part _public_network.is_loopback False", "part _public_network.is_multicast False",
  "part _public_network.is_private False", "part _public_network.is_reserved False",
  "part _public_network.is_unspecified False", "part _public_network.max_prefixlen 32",
  "part _public_network.netmask object('ipaddress.IPv4Address')",
  "part _public_network.network_address object('ipaddress.IPv4Address')",
  "part _public_network.num_addresses 4194304", "part _public_network.prefixlen 10",
  "part _public_network.reverse_pointer '0/10.0.64.100.in-addr.arpa'",
  "part _public_network.version 4", "part _public_network.with_hostmask '100.64.0.0/0.63.255.255'",
  "part _public_network.with_netmask '100.64.0.0/255.192.0.0'",
  "part _public_network.with_prefixlen '100.64.0.0/10'", "part _reserved_network._prefixlen 4",
  "part _reserved_network.broadcast_address object('ipaddress.IPv4Address')",
  "part _reserved_network.compressed '240.0.0.0/4'",
  "part _reserved_network.exploded '240.0.0.0/4'",
  "part _reserved_network.hostmask object('ipaddress.IPv4Address')",
  "part _reserved_network.is_global False", "part _reserved_network.is_link_local False",
  "part _reserved_network.is_loopback False", "part _reserved_network.is_multicast False",
  "part _reserved_network.is_private True", "part _reserved_network.is_reserved True",
  "part _reserved_network.is_unspecified False", "part _reserved_network.max_prefixlen 32",
  "part _reserved_network.netmask object('ipaddress.IPv4Address')",
  "part _reserved_network.network_address object('ipaddress.IPv4Address')",
  "part _reserved_network.num_addresses 268435456", "part _reserved_network.prefixlen 4",
  "part _reserved_network.reverse_pointer '0/4.0.0.240.in-addr.arpa'",
  "part _reserved_network.version 4",
  "part _reserved_network.with_hostmask '240.0.0.0/15.255.255.255'",
  "part _reserved_network.with_netmask '240.0.0.0/240.0.0.0'",
  "part _reserved_network.with_prefixlen '240.0.0.0/4'", "part _unspecified_address._ip 0",
  "part _unspecified_address.compressed '0.0.0.0'", "part _unspecified_address.exploded '0.0.0.0'",
  "part _unspecified_address.is_global False", "part _unspecified_address.is_link_local False",
  "part _unspecified_address.is_loopback False", "part _unspecified_address.is_multicast False",
  "part _unspecified_address.is_private True", "part _unspecified_address.is_reserved False",
  "part _unspecified_address.is_unspecified True", "part _unspecified_address.max_prefixlen 32",
  "part _unspecified_address.packed b'\\x00\\x00\\x00\\x00'",
  "part _unspecified_address.reverse_pointer '0.0.0.0.in-addr.arpa'",
  "part _unspecified_address.version 4"]),
  ("ipaddress._IPv6Constants", ["open", "holders _linklocal_network=ipaddress.IPv6Network
  _multicast_network=ipaddress.IPv6Network _sitelocal_network=ipaddress.IPv6Network",
  "constant _private_networks [ipaddress.IPv6Network(...), ipaddress.IPv6Network(...), ipaddre",
  "|ss.IPv6Network(...), ipaddress.IPv6Network(...), ipaddress.IPv6Network(...), ipaddress.IPv",
  "|6Network(...), ipaddress.IPv6Network(...), ipaddress.IPv6Network(...), ipaddress.IPv6Netwo",
  "|rk(...), ipaddress.IPv6Network(...)]",
  "constant _reserved_networks [ipaddress.IPv6Network(...), ipaddress.IPv6Network(...), ipaddr",
  "|ess.IPv6Network(...), ipaddress.IPv6Network(...), ipaddress.IPv6Network(...), ipaddress.IP",
  "|v6Network(...), ipaddress.IPv6Network(...), ipaddress.IPv6Network(...), ipaddress.IPv6Netw",
  "|ork(...), ipaddress.IPv6Network(...), ipaddress.IPv6Network(...), ipaddress.IPv6Network(..",
  "|.), ipaddress.IPv6Network(...), ipaddress.IPv6Network(...), ipaddress.IPv6Network(...)]",
  "silent", "part _linklocal_network._prefixlen 10",
  "part _linklocal_network.broadcast_address object('ipaddress.IPv6Address')",
  "part _linklocal_network.compressed 'fe80::/10'",
  "part _linklocal_network.exploded 'fe80:0000:0000:0000:0000:0000:0000:0000/10'",
  "part _linklocal_network.hostmask object('ipaddress.IPv6Address')",
  "part _linklocal_network.is_global False", "part _linklocal_network.is_link_local True",
  "part _linklocal_network.is_loopback False", "part _linklocal_network.is_multicast False",
  "part _linklocal_network.is_private True", "part _linklocal_network.is_reserved False",
  "part _linklocal_network.is_site_local False", "part _linklocal_network.is_unspecified False",
  "part _linklocal_network.max_prefixlen 128",
  "part _linklocal_network.netmask object('ipaddress.IPv6Address')",
  "part _linklocal_network.network_address object('ipaddress.IPv6Address')",
  "part _linklocal_network.num_addresses 332306998946228968225951765070086144",
  "part _linklocal_network.prefixlen 10",
  "part _linklocal_network.reverse_pointer '0.1./.0.0.0.0.0.0.0.0.0.0.0.0.0.0.0.0.0.0.0.0.0.0.",
  "|0.0.0.0.0.0.0.8.e.f.ip6.arpa'", "part _linklocal_network.version 6",
  "part _linklocal_network.with_hostmask 'fe80::/3f:ffff:ffff:ffff:ffff:ffff:ffff:ffff'",
  "part _linklocal_network.with_netmask 'fe80::/ffc0::'",
  "part _linklocal_network.with_prefixlen 'fe80::/10'", "part _multicast_network._prefixlen 8",
  "part _multicast_network.broadcast_address object('ipaddress.IPv6Address')",
  "part _multicast_network.compressed 'ff00::/8'",
  "part _multicast_network.exploded 'ff00:0000:0000:0000:0000:0000:0000:0000/8'",
  "part _multicast_network.hostmask object('ipaddress.IPv6Address')",
  "part _multicast_network.is_global True", "part _multicast_network.is_link_local False",
  "part _multicast_network.is_loopback False", "part _multicast_network.is_multicast True",
  "part _multicast_network.is_private False", "part _multicast_network.is_reserved False",
  "part _multicast_network.is_site_local False", "part _multicast_network.is_unspecified False",
  "part _multicast_network.max_prefixlen 128",
  "part _multicast_network.netmask object('ipaddress.IPv6Address')",
  "part _multicast_network.network_address object('ipaddress.IPv6Address')",
  "part _multicast_network.num_addresses 1329227995784915872903807060280344576",
  "part _multicast_network.prefixlen 8",
  "part _multicast_network.reverse_pointer '8./.0.0.0.0.0.0.0.0.0.0.0.0.0.0.0.0.0.0.0.0.0.0.0.",
  "|0.0.0.0.0.0.0.f.f.ip6.arpa'", "part _multicast_network.version 6",
  "part _multicast_network.with_hostmask 'ff00::/ff:ffff:ffff:ffff:ffff:ffff:ffff:ffff'",
  "part _multicast_network.with_netmask 'ff00::/ff00::'",
  "part _multicast_network.with_prefixlen 'ff00::/8'", "part _sitelocal_network._prefixlen 10",
  "part _sitelocal_network.broadcast_address object('ipaddress.IPv6Address')",
  "part _sitelocal_network.compressed 'fec0::/10'",
  "part _sitelocal_network.exploded 'fec0:0000:0000:0000:0000:0000:0000:0000/10'",
  "part _sitelocal_network.hostmask object('ipaddress.IPv6Address')",
  "part _sitelocal_network.is_global True", "part _sitelocal_network.is_link_local False",
  "part _sitelocal_network.is_loopback False", "part _sitelocal_network.is_multicast False",
  "part _sitelocal_network.is_private False", "part _sitelocal_network.is_reserved False",
  "part _sitelocal_network.is_site_local True", "part _sitelocal_network.is_unspecified False",
  "part _sitelocal_network.max_prefixlen 128",
  "part _sitelocal_network.netmask object('ipaddress.IPv6Address')",
  "part _sitelocal_network.network_address object('ipaddress.IPv6Address')",
  "part _sitelocal_network.num_addresses 332306998946228968225951765070086144",
  "part _sitelocal_network.prefixlen 10",
  "part _sitelocal_network.reverse_pointer '0.1./.0.0.0.0.0.0.0.0.0.0.0.0.0.0.0.0.0.0.0.0.0.0.",
  "|0.0.0.0.0.0.0.c.e.f.ip6.arpa'", "part _sitelocal_network.version 6",
  "part _sitelocal_network.with_hostmask 'fec0::/3f:ffff:ffff:ffff:ffff:ffff:ffff:ffff'",
  "part _sitelocal_network.with_netmask 'fec0::/ffc0::'",
  "part _sitelocal_network.with_prefixlen 'fec0::/10'"]),
  ("nntplib.ArticleInfo", ["below tuple", "functions _replace=collections:ArticleInfo._replace
  __repr__=collections:ArticleInfo.__repr__ _asdict=collections:ArticleInfo._asdict
  __getnewargs__=collections:ArticleInfo.__getnewargs__",
  "class-functions _make=collections:ArticleInfo._make",
  "statics __new__=namedtuple_ArticleInfo:ArticleInfo.__new__",
  "objects number=_collections._tuplegetter message_id=_collections._tuplegetter
  lines=_collections._tuplegetter", "constant __slots__ ()",
  "constant _fields ('number', 'message_id', 'lines')", "constant _field_defaults \x7b\x7d",
  "constant __match_args__ ('number', 'message_id', 'lines')"]),
  ("nntplib.GroupInfo", ["below tuple", "functions _replace=collections:GroupInfo._replace
  __repr__=collections:GroupInfo.__repr__ _asdict=collections:GroupInfo._asdict
  __getnewargs__=collections:GroupInfo.__getnewargs__",
  "class-functions _make=collections:GroupInfo._make",
  "statics __new__=namedtuple_GroupInfo:GroupInfo.__new__", "objects group=_collections._tuplegetter
  last=_collections._tuplegetter first=_collections._tuplegetter flag=_collections._tuplegetter",
  "constant __slots__ ()", "constant _fields ('group', 'last', 'first', 'flag')",
  "constant _field_defaults \x7b\x7d",
  "constant __match_args__ ('group', 'last', 'first', 'flag')"]),
  ("nntplib.NNTP", ["open", "functions __init__ _base_init __enter__ __exit__ _create_socket
  getwelcome getcapabilities set_debuglevel debug=nntplib:NNTP.set_debuglevel _putline _putcmd
  _getline _getresp _getlongresp _shortcmd _longcmd _longcmdstring _getoverviewfmt _grouplist
  capabilities newgroups newnews list _getdescriptions description descriptions group help
  _statparse _statcmd stat next last _artcmd head body article slave xhdr xover over date _post post
  ihave _close quit login _setreadermode starttls", "constant encoding 'utf-8'",
  "constant errors 'surrogateescape'", "silent"]),
  ("nntplib.NNTPDataError", ["below nntplib.NNTPError"]),
  ("nntplib.NNTPError", ["below Exception", "open __weakref__", "functions __init__"]),
  ("nntplib.NNTPPermanentError", ["below nntplib.NNTPError"]),
  ("nntplib.NNTPProtocolError", ["below nntplib.NNTPError"]),
  ("nntplib.NNTPReplyError", ["below nntplib.NNTPError"]),
  ("nntplib.NNTPTemporaryError", ["below nntplib.NNTPError"]),
  ("nntplib.NNTP_SSL", ["below nntplib.NNTP", "functions __init__ _create_socket", "silent"]),
  ("poplib.POP3", ["open", "functions __init__ _create_socket _putline _putcmd _getline _getresp
  _getlongresp _shortcmd _longcmd getwelcome set_debuglevel user pass_ stat list retr dele noop rset
  quit close rpop apop top uidl utf8 capa stls", "holders timestamp=re.Pattern",
  "constant encoding 'UTF-8'", "part timestamp.flags 0", "part timestamp.groups 1",
  "part timestamp.pattern b'\\\\+OK.[^<]*(<.*>)'"]),
  ("poplib.POP3_SSL", ["below poplib.POP3", "functions __init__ _create_socket stls"]),
  ("poplib.error_proto", ["below Exception", "open __weakref__", "silent"]),
  ("smtpd.DebuggingServer", ["below smtpd.SMTPServer", "functions _print_message_content
  process_message", "silent"]),
  ("smtpd.Devnull", ["open", "functions write flush", "silent"]),
  ("smtpd.Options", ["open", "constant setuid True", "constant classname 'PureProxy'",
  "constant size_limit None", "constant enable_SMTPUTF8 False", "silent"]),
  ("smtpd.PureProxy", ["below smtpd.SMTPServer", "functions __init__ process_message _deliver",
  "silent"]),
  ("smtpd.SMTPChannel", ["below asynchat.async_chat", "functions __init__ _set_post_data_state
  _set_rset_state push collect_incoming_data found_terminator smtp_HELO smtp_EHLO smtp_NOOP
  smtp_QUIT _strip_command_keyword _getaddr _getparams smtp_HELP smtp_VRFY smtp_MAIL smtp_RCPT
  smtp_RSET smtp_DATA smtp_EXPN", "properties max_command_size_limit _SMTPChannel__server
  _SMTPChannel__line _SMTPChannel__state _SMTPChannel__greeting _SMTPChannel__mailfrom
  _SMTPChannel__rcpttos _SMTPChannel__data _SMTPChannel__fqdn _SMTPChannel__peer _SMTPChannel__conn
  _SMTPChannel__addr", "objects command_size_limits=collections.defaultdict", "numbers COMMAND=0
  DATA=1 command_size_limit=512", "silent", "part _SMTPChannel__server.fget object('function')",
  "part _SMTPChannel__server.fset object('function')",
  "part _SMTPChannel__line.fget object('function')",
  "part _SMTPChannel__line.fset object('function')",
  "part _SMTPChannel__state.fget object('function')",
  "part _SMTPChannel__state.fset object('function')",
  "part _SMTPChannel__greeting.fget object('function')",
  "part _SMTPChannel__greeting.fset object('function')",
  "part _SMTPChannel__mailfrom.fget object('function')",
  "part _SMTPChannel__mailfrom.fset object('function')",
  "part _SMTPChannel__rcpttos.fget object('function')",
  "part _SMTPChannel__rcpttos.fset object('function')",
  "part _SMTPChannel__data.fget object('function')",
  "part _SMTPChannel__data.fset object('function')",
  "part _SMTPChannel__fqdn.fget object('function')",
  "part _SMTPChannel__fqdn.fset object('function')",
  "part _SMTPChannel__peer.fget object('function')",
  "part _SMTPChannel__peer.fset object('function')",
  "part _SMTPChannel__conn.fget object('function')",
  "part _SMTPChannel__conn.fset object('function')",
  "part _SMTPChannel__addr.fget object('function')",
  "part _SMTPChannel__addr.fset object('function')"]),
  ("smtpd.SMTPServer", ["below asyncore.dispatcher", "functions __init__ handle_accepted
  process_message", "classes channel_class=smtpd.SMTPChannel", "silent"]),
  ("smtplib.LMTP", ["below smtplib.SMTP", "functions __init__ connect",
  "constant ehlo_msg 'lhlo'"]),
  ("smtplib.SMTP", ["open", "functions __init__ __enter__ __exit__ set_debuglevel _print_debug
  _get_socket connect send putcmd getreply docmd helo ehlo has_extn help rset _rset noop mail rcpt
  data verify vrfy=smtplib:SMTP.verify expn ehlo_or_helo_if_needed auth auth_cram_md5 auth_plain
  auth_login login starttls sendmail send_message close quit", "numbers debuglevel=0
  default_port=25", "constant sock None", "constant file None", "constant helo_resp None",
  "constant ehlo_msg 'ehlo'", "constant ehlo_resp None", "constant does_esmtp False"]),
  ("smtplib.SMTPAuthenticationError", ["below smtplib.SMTPResponseException"]),
  ("smtplib.SMTPConnectError", ["below smtplib.SMTPResponseException"]),
  ("smtplib.SMTPDataError", ["below smtplib.SMTPResponseException"]),
  ("smtplib.SMTPException", ["below OSError", "open __weakref__"]),
  ("smtplib.SMTPHeloError", ["below smtplib.SMTPResponseException"]),
  ("smtplib.SMTPNotSupportedError", ["below smtplib.SMTPException"]),
  ("smtplib.SMTPRecipientsRefused", ["below smtplib.SMTPException", "functions __init__"]),
  ("smtplib.SMTPResponseException", ["below smtplib.SMTPException", "functions __init__"]),
  ("smtplib.SMTPSenderRefused", ["below smtplib.SMTPResponseException", "functions __init__"]),
  ("smtplib.SMTPServerDisconnected", ["below smtplib.SMTPException"]),
  ("smtplib.SMTP_SSL", ["below smtplib.SMTP", "functions __init__ _get_socket",
  "numbers default_port=465"]),
  ("socket.AddressFamily", ["below enum.IntEnum", "kind enum.EnumType",
  "functions _generate_next_value_=enum:Enum._generate_next_value_ __new__=enum:Enum.__new__",
  "builtins _new_member_", "operations _value_repr_", "methods __format__",
  "classes _member_type_=int", "constant _use_args_ True", "constant _unhashable_values_ []",
  "values AF_UNSPEC=0 AF_UNIX=1 AF_INET=2 AF_AX25=3 AF_IPX=4 AF_APPLETALK=5 AF_NETROM=6 AF_BRIDGE=7
  AF_ATMPVC=8 AF_X25=9 AF_INET6=10 AF_ROSE=11 AF_NETBEUI=13 AF_SECURITY=14 AF_KEY=15 AF_NETLINK=16
  AF_ROUTE=16 AF_PACKET=17 AF_ASH=18 AF_ECONET=19 AF_ATMSVC=20 AF_RDS=21 AF_SNA=22 AF_IRDA=23
  AF_PPPOX=24 AF_WANPIPE=25 AF_LLC=26 AF_CAN=29 AF_TIPC=30 AF_BLUETOOTH=31 AF_ALG=38 AF_VSOCK=40
  AF_QIPCRTR=42", "style plain value"]),
  ("socket.AddressInfo", ["below enum.IntFlag", "kind enum.EnumType",
  "functions _generate_next_value_=enum:Flag._generate_next_value_ __or__=enum:Flag.__or__
  __xor__=enum:Flag.__xor__ __and__=enum:Flag.__and__ __ror__=enum:Flag.__or__
  __rxor__=enum:Flag.__xor__ __rand__=enum:Flag.__and__ __invert__=enum:Flag.__invert__
  __new__=enum:Enum.__new__", "builtins _new_member_", "operations _value_repr_",
  "methods __format__", "classes _member_type_=int", "members _boundary_=enum.FlagBoundary.KEEP",
  "numbers _flag_mask_=1087 _all_bits_=2047 _singles_mask_=1087", "constant _use_args_ True",
  "constant _unhashable_values_ []", "constant _inverted_ None", "values AI_PASSIVE=1 AI_CANONNAME=2
  AI_NUMERICHOST=4 AI_V4MAPPED=8 AI_ALL=16 AI_ADDRCONFIG=32 AI_NUMERICSERV=1024",
  "style plain value"]),
  ("socket.MsgFlag", ["below enum.IntFlag", "kind enum.EnumType",
  "functions _generate_next_value_=enum:Flag._generate_next_value_ __or__=enum:Flag.__or__
  __xor__=enum:Flag.__xor__ __and__=enum:Flag.__and__ __ror__=enum:Flag.__or__
  __rxor__=enum:Flag.__xor__ __rand__=enum:Flag.__and__ __invert__=enum:Flag.__invert__
  __new__=enum:Enum.__new__", "builtins _new_member_", "operations _value_repr_",
  "methods __format__", "classes _member_type_=int", "members _boundary_=enum.FlagBoundary.KEEP",
  "numbers _flag_mask_=1610672623 _all_bits_=2147483647 _singles_mask_=1610672623",
  "constant _use_args_ True", "constant _unhashable_values_ []", "constant _inverted_ None",
  "values MSG_OOB=1 MSG_PEEK=2 MSG_DONTROUTE=4 MSG_CTRUNC=8 MSG_TRUNC=32 MSG_DONTWAIT=64 MSG_EOR=128
  MSG_WAITALL=256 MSG_CONFIRM=2048 MSG_ERRQUEUE=8192 MSG_NOSIGNAL=16384 MSG_MORE=32768
  MSG_FASTOPEN=536870912 MSG_CMSG_CLOEXEC=1073741824", "style plain value"]),
  ("socket.SocketIO", ["below io.RawIOBase", "kind abc.ABCMeta", "functions __init__ readinto write
  readable writable seekable fileno close", "properties name mode"]),
  ("socket.SocketKind", ["below enum.IntEnum", "kind enum.EnumType",
  "functions _generate_next_value_=enum:Enum._generate_next_value_ __new__=enum:Enum.__new__",
  "builtins _new_member_", "operations _value_repr_", "methods __format__",
  "classes _member_type_=int", "constant _use_args_ True", "constant _unhashable_values_ []",
  "values SOCK_STREAM=1 SOCK_DGRAM=2 SOCK_RAW=3 SOCK_RDM=4 SOCK_SEQPACKET=5 SOCK_NONBLOCK=2048
  SOCK_CLOEXEC=524288", "style plain value"]),
  ("socket._GiveupOnSendfile", ["below Exception", "open __weakref__", "silent"]),
  ("socket.gaierror", ["below OSError", "open __weakref__", "silent"]),
  ("socket.herror", ["below OSError", "open __weakref__", "silent"]),
  ("socket.socket", ["below _socket.socket", "open __weakref__", "functions __init__ __enter__
  __exit__ __repr__ __getstate__ dup accept makefile _sendfile_use_sendfile _sendfile_use_send
  _check_sendfile_params sendfile _decref_socketios _real_close close detach get_inheritable
  set_inheritable", "properties family type", "slots _closed _io_refs",
  "constant __slots__ ['__weakref__', '_io_refs', '_closed']"]),
  ("socketserver.BaseRequestHandler", ["open", "functions __init__ setup handle finish"]),
  ("socketserver.BaseServer", ["open", "functions __init__ server_activate serve_forever shutdown
  service_actions handle_request _handle_request_noblock handle_timeout verify_request
  process_request server_close finish_request shutdown_request close_request handle_error __enter__
  __exit__", "constant timeout None"]),
  ("socketserver.DatagramRequestHandler", ["below socketserver.BaseRequestHandler", "functions setup
  finish"]),
  ("socketserver.ForkingMixIn", ["open", "functions collect_children handle_timeout service_actions
  process_request server_close", "numbers timeout=300 max_children=40",
  "constant active_children None", "constant block_on_close True"]),
  ("socketserver.ForkingTCPServer", ["above socketserver.ForkingMixIn socketserver.TCPServer
  socketserver.BaseServer object", "silent"]),
  ("socketserver.ForkingUDPServer", ["above socketserver.ForkingMixIn socketserver.UDPServer
  socketserver.TCPServer socketserver.BaseServer object", "silent"]),
  ("socketserver.StreamRequestHandler", ["below socketserver.BaseRequestHandler", "functions setup
  finish", "numbers rbufsize=-1 wbufsize=0", "constant timeout None",
  "constant disable_nagle_algorithm False"]),
  ("socketserver.TCPServer", ["below socketserver.BaseServer", "functions __init__ server_bind
  server_activate server_close fileno get_request shutdown_request close_request",
  "members address_family=socket.AddressFamily.AF_INET socket_type=socket.SocketKind.SOCK_STREAM",
  "numbers request_queue_size=5", "constant allow_reuse_address False",
  "constant allow_reuse_port False"]),
  ("socketserver.ThreadingMixIn", ["open", "functions process_request_thread process_request
  server_close", "objects _threads=socketserver._NoThreads", "constant daemon_threads False",
  "constant block_on_close True"]),
  ("socketserver.ThreadingTCPServer", ["above socketserver.ThreadingMixIn socketserver.TCPServer
  socketserver.BaseServer object", "silent"]),
  ("socketserver.ThreadingUDPServer", ["above socketserver.ThreadingMixIn socketserver.UDPServer
  socketserver.TCPServer socketserver.BaseServer object", "silent"]),
  ("socketserver.ThreadingUnixDatagramServer", ["above socketserver.ThreadingMixIn
  socketserver.UnixDatagramServer socketserver.UDPServer socketserver.TCPServer
  socketserver.BaseServer object", "silent"]),
  ("socketserver.ThreadingUnixStreamServer", ["above socketserver.ThreadingMixIn
  socketserver.UnixStreamServer socketserver.TCPServer socketserver.BaseServer object", "silent"]),
  ("socketserver.UDPServer", ["below socketserver.TCPServer", "functions get_request server_activate
  shutdown_request close_request", "members socket_type=socket.SocketKind.SOCK_DGRAM",
  "numbers max_packet_size=8192", "constant allow_reuse_address False",
  "constant allow_reuse_port False"]),
  ("socketserver.UnixDatagramServer", ["below socketserver.UDPServer",
  "members address_family=socket.AddressFamily.AF_UNIX", "silent"]),
  ("socketserver.UnixStreamServer", ["below socketserver.TCPServer",
  "members address_family=socket.AddressFamily.AF_UNIX", "silent"]),
  ("socketserver._NoThreads", ["open", "functions append join"]),
  ("socketserver._SocketWriter", ["below io.BufferedIOBase", "kind abc.ABCMeta", "functions __init__
  writable write fileno"]),
  ("socketserver._Threads", ["below list", "open", "functions append pop_all join reap"]),
  ("ssl.AlertDescription", ["below enum.IntEnum", "kind enum.EnumType",
  "functions _generate_next_value_=enum:Enum._generate_next_value_ __new__=enum:Enum.__new__",
  "builtins _new_member_", "operations _value_repr_", "methods __format__",
  "classes _member_type_=int", "constant _use_args_ True", "constant _unhashable_values_ []",
  "values ALERT_DESCRIPTION_CLOSE_NOTIFY=0 ALERT_DESCRIPTION_UNEXPECTED_MESSAGE=10
  ALERT_DESCRIPTION_BAD_RECORD_MAC=20 ALERT_DESCRIPTION_RECORD_OVERFLOW=22
  ALERT_DESCRIPTION_DECOMPRESSION_FAILURE=30 ALERT_DESCRIPTION_HANDSHAKE_FAILURE=40
  ALERT_DESCRIPTION_BAD_CERTIFICATE=42 ALERT_DESCRIPTION_UNSUPPORTED_CERTIFICATE=43
  ALERT_DESCRIPTION_CERTIFICATE_REVOKED=44 ALERT_DESCRIPTION_CERTIFICATE_EXPIRED=45
  ALERT_DESCRIPTION_CERTIFICATE_UNKNOWN=46 ALERT_DESCRIPTION_ILLEGAL_PARAMETER=47
  ALERT_DESCRIPTION_UNKNOWN_CA=48 ALERT_DESCRIPTION_ACCESS_DENIED=49
  ALERT_DESCRIPTION_DECODE_ERROR=50 ALERT_DESCRIPTION_DECRYPT_ERROR=51
  ALERT_DESCRIPTION_PROTOCOL_VERSION=70 ALERT_DESCRIPTION_INSUFFICIENT_SECURITY=71
  ALERT_DESCRIPTION_INTERNAL_ERROR=80 ALERT_DESCRIPTION_USER_CANCELLED=90
  ALERT_DESCRIPTION_NO_RENEGOTIATION=100 ALERT_DESCRIPTION_UNSUPPORTED_EXTENSION=110
  ALERT_DESCRIPTION_CERTIFICATE_UNOBTAINABLE=111 ALERT_DESCRIPTION_UNRECOGNIZED_NAME=112
  ALERT_DESCRIPTION_BAD_CERTIFICATE_STATUS_RESPONSE=113
  ALERT_DESCRIPTION_BAD_CERTIFICATE_HASH_VALUE=114 ALERT_DESCRIPTION_UNKNOWN_PSK_IDENTITY=115",
  "style plain value"]),
  ("ssl.DefaultVerifyPaths", ["below tuple",
  "functions _replace=collections:DefaultVerifyPaths._replace
  __repr__=collections:DefaultVerifyPaths.__repr__ _asdict=collections:DefaultVerifyPaths._asdict
  __getnewargs__=collections:DefaultVerifyPaths.__getnewargs__",
  "class-functions _make=collections:DefaultVerifyPaths._make",
  "statics __new__=namedtuple_DefaultVerifyPaths:DefaultVerifyPaths.__new__",
  "objects cafile=_collections._tuplegetter capath=_collections._tuplegetter
  openssl_cafile_env=_collections._tuplegetter openssl_cafile=_collections._tuplegetter
  openssl_capath_env=_collections._tuplegetter openssl_capath=_collections._tuplegetter",
  "constant __slots__ ()",
  "constant _fields ('cafile', 'capath', 'openssl_cafile_env', 'openssl_cafile', 'openssl_capa",
  "|th_env', 'openssl_capath')", "constant _field_defaults \x7b\x7d",
  "constant __match_args__ ('cafile', 'capath', 'openssl_cafile_env', 'openssl_cafile', 'opens",
  "|sl_capath_env', 'openssl_capath')"]),
  ("ssl.Options", ["below enum.IntFlag", "kind enum.EnumType",
  "functions _generate_next_value_=enum:Flag._generate_next_value_ __or__=enum:Flag.__or__
  __xor__=enum:Flag.__xor__ __and__=enum:Flag.__and__ __ror__=enum:Flag.__or__
  __rxor__=enum:Flag.__xor__ __rand__=enum:Flag.__and__ __invert__=enum:Flag.__invert__
  __new__=enum:Enum.__new__", "builtins _new_member_", "operations _value_repr_",
  "methods __format__", "classes _member_type_=int", "members _boundary_=enum.FlagBoundary.KEEP",
  "numbers _flag_mask_=4266803408 _all_bits_=4294967295 _singles_mask_=2119319680",
  "constant _use_args_ True", "constant _unhashable_values_ []", "constant _inverted_ None",
  "values OP_NO_SSLv2=0 OP_SINGLE_DH_USE=0 OP_SINGLE_ECDH_USE=0 OP_IGNORE_UNEXPECTED_EOF=128
  OP_NO_TICKET=16384 OP_NO_COMPRESSION=131072 OP_ENABLE_MIDDLEBOX_COMPAT=1048576
  OP_CIPHER_SERVER_PREFERENCE=4194304 OP_NO_SSLv3=33554432 OP_NO_TLSv1=67108864
  OP_NO_TLSv1_2=134217728 OP_NO_TLSv1_1=268435456 OP_NO_TLSv1_3=536870912
  OP_NO_RENEGOTIATION=1073741824 OP_ALL=2147483728", "style plain value"]),
  ("ssl.Purpose", ["above ssl._ASN1Object tuple enum.Enum object", "kind enum.EnumType",
  "open __dict__", "functions _generate_next_value_=enum:Enum._generate_next_value_
  _new_member_=ssl:_ASN1Object.__new__ _value_repr_=collections:_ASN1Object.__repr__
  __repr__=enum:Enum.__repr__ __new__=enum:Enum.__new__", "classes _member_type_=ssl._ASN1Object",
  "constant _use_args_ True", "constant _unhashable_values_ []", "value SERVER_AUTH",
  "value CLIENT_AUTH"]),
  ("ssl.SSLCertVerificationError", ["above ssl.SSLError OSError ValueError Exception BaseException
  object", "open __weakref__"]),
  ("ssl.SSLContext", ["below _ssl._SSLContext", "open", "functions _encode_hostname wrap_socket
  wrap_bio set_npn_protocols set_servername_callback set_alpn_protocols _load_windows_store_certs
  load_default_certs", "statics __new__", "properties minimum_version maximum_version options
  hostname_checks_common_name _msg_callback protocol verify_flags verify_mode",
  "classes sslsocket_class=ssl.SSLSocket sslobject_class=ssl.SSLObject",
  "constant _windows_cert_stores ('CA', 'ROOT')", "part minimum_version.fset object('function')",
  "part maximum_version.fset object('function')", "part options.fset object('function')",
  "part hostname_checks_common_name.fset object('function')",
  "part _msg_callback.fset object('function')", "part verify_flags.fset object('function')",
  "part verify_mode.fset object('function')"]),
  ("ssl.SSLEOFError", ["below ssl.SSLError", "open __weakref__"]),
  ("ssl.SSLError", ["below OSError", "shown ssl.SSLError", "operations __str__"]),
  ("ssl.SSLErrorNumber", ["below enum.IntEnum", "kind enum.EnumType",
  "functions _generate_next_value_=enum:Enum._generate_next_value_ __new__=enum:Enum.__new__",
  "builtins _new_member_", "operations _value_repr_", "methods __format__",
  "classes _member_type_=int", "constant _use_args_ True", "constant _unhashable_values_ []",
  "values SSL_ERROR_SSL=1 SSL_ERROR_WANT_READ=2 SSL_ERROR_WANT_WRITE=3 SSL_ERROR_WANT_X509_LOOKUP=4
  SSL_ERROR_SYSCALL=5 SSL_ERROR_ZERO_RETURN=6 SSL_ERROR_WANT_CONNECT=7 SSL_ERROR_EOF=8
  SSL_ERROR_INVALID_ERROR_CODE=10", "style plain value"]),
  ("ssl.SSLObject", ["open", "functions __init__ read write getpeercert selected_npn_protocol
  selected_alpn_protocol cipher shared_ciphers compression pending do_handshake unwrap
  get_channel_binding version verify_client_post_handshake", "class-functions _create",
  "properties context session session_reused server_side server_hostname",
  "part context.fset object('function')", "part session.fset object('function')"]),
  ("ssl.SSLSocket", ["below socket.socket", "open __dict__", "functions __init__ dup _checkClosed
  _check_connected read write getpeercert selected_npn_protocol selected_alpn_protocol cipher
  shared_ciphers compression send sendto sendmsg sendall sendfile recv recv_into recvfrom
  recvfrom_into recvmsg recvmsg_into pending shutdown unwrap verify_client_post_handshake
  _real_close do_handshake _real_connect connect connect_ex accept get_channel_binding version",
  "class-functions _create", "properties context session session_reused",
  "part context.fset object('function')", "part session.fset object('function')"]),
  ("ssl.SSLSyscallError", ["below ssl.SSLError", "open __weakref__"]),
  ("ssl.SSLWantReadError", ["below ssl.SSLError", "open __weakref__"]),
  ("ssl.SSLWantWriteError", ["below ssl.SSLError", "open __weakref__"]),
  ("ssl.SSLZeroReturnError", ["below ssl.SSLError", "open __weakref__"]),
  ("ssl.TLSVersion", ["below enum.IntEnum", "kind enum.EnumType",
  "functions _generate_next_value_=enum:Enum._generate_next_value_ __new__=enum:Enum.__new__",
  "builtins _new_member_", "operations _value_repr_", "methods __format__",
  "classes _member_type_=int", "constant _use_args_ True", "constant _unhashable_values_ []",
  "values MINIMUM_SUPPORTED=-2 SSLv3=768 TLSv1=769 TLSv1_1=770 TLSv1_2=771 TLSv1_3=772
  MAXIMUM_SUPPORTED=-1", "style plain value"]),
  ("ssl.VerifyFlags", ["below enum.IntFlag", "kind enum.EnumType",
  "functions _generate_next_value_=enum:Flag._generate_next_value_ __or__=enum:Flag.__or__
  __xor__=enum:Flag.__xor__ __and__=enum:Flag.__and__ __ror__=enum:Flag.__or__
  __rxor__=enum:Flag.__xor__ __rand__=enum:Flag.__and__ __invert__=enum:Flag.__invert__
  __new__=enum:Enum.__new__", "builtins _new_member_", "operations _value_repr_",
  "methods __format__", "classes _member_type_=int", "members _boundary_=enum.FlagBoundary.KEEP",
  "numbers _flag_mask_=557164 _all_bits_=1048575 _singles_mask_=557156", "constant _use_args_ True",
  "constant _unhashable_values_ []", "constant _inverted_ None", "values VERIFY_DEFAULT=0
  VERIFY_CRL_CHECK_LEAF=4 VERIFY_CRL_CHECK_CHAIN=12 VERIFY_X509_STRICT=32
  VERIFY_ALLOW_PROXY_CERTS=64 VERIFY_X509_TRUSTED_FIRST=32768 VERIFY_X509_PARTIAL_CHAIN=524288",
  "style plain value"]),
  ("ssl.VerifyMode", ["below enum.IntEnum", "kind enum.EnumType",
  "functions _generate_next_value_=enum:Enum._generate_next_value_ __new__=enum:Enum.__new__",
  "builtins _new_member_", "operations _value_repr_", "methods __format__",
  "classes _member_type_=int", "constant _use_args_ True", "constant _unhashable_values_ []",
  "values CERT_NONE=0 CERT_OPTIONAL=1 CERT_REQUIRED=2", "style plain value"]),
  ("ssl._ASN1Object", ["below tuple", "functions _replace=collections:_ASN1Object._replace
  __repr__=collections:_ASN1Object.__repr__ _asdict=collections:_ASN1Object._asdict
  __getnewargs__=collections:_ASN1Object.__getnewargs__", "class-functions fromnid fromname
  _make=collections:_ASN1Object._make", "statics __new__", "objects nid=_collections._tuplegetter
  shortname=_collections._tuplegetter longname=_collections._tuplegetter
  oid=_collections._tuplegetter", "constant __slots__ ()",
  "constant _fields ('nid', 'shortname', 'longname', 'oid')", "constant _field_defaults \x7b\x7d",
  "constant __match_args__ ('nid', 'shortname', 'longname', 'oid')"]),
  ("ssl._SSLMethod", ["below enum.IntEnum", "kind enum.EnumType",
  "functions _generate_next_value_=enum:Enum._generate_next_value_ __new__=enum:Enum.__new__",
  "builtins _new_member_", "operations _value_repr_", "methods __format__",
  "classes _member_type_=int", "members PROTOCOL_SSLv23=ssl._SSLMethod.PROTOCOL_TLS",
  "constant _use_args_ True", "constant _unhashable_values_ []", "values PROTOCOL_TLS=2
  PROTOCOL_TLSv1=3 PROTOCOL_TLSv1_1=4 PROTOCOL_TLSv1_2=5 PROTOCOL_TLS_CLIENT=16
  PROTOCOL_TLS_SERVER=17", "style plain value"]),
  ("ssl._TLSAlertType", ["below enum.IntEnum", "kind enum.EnumType",
  "functions _generate_next_value_=enum:Enum._generate_next_value_ __new__=enum:Enum.__new__",
  "builtins _new_member_", "operations _value_repr_", "methods __format__",
  "classes _member_type_=int", "constant _use_args_ True", "constant _unhashable_values_ []",
  "values CLOSE_NOTIFY=0 UNEXPECTED_MESSAGE=10 BAD_RECORD_MAC=20 DECRYPTION_FAILED=21
  RECORD_OVERFLOW=22 DECOMPRESSION_FAILURE=30 HANDSHAKE_FAILURE=40 NO_CERTIFICATE=41
  BAD_CERTIFICATE=42 UNSUPPORTED_CERTIFICATE=43 CERTIFICATE_REVOKED=44 CERTIFICATE_EXPIRED=45
  CERTIFICATE_UNKNOWN=46 ILLEGAL_PARAMETER=47 UNKNOWN_CA=48 ACCESS_DENIED=49 DECODE_ERROR=50
  DECRYPT_ERROR=51 EXPORT_RESTRICTION=60 PROTOCOL_VERSION=70 INSUFFICIENT_SECURITY=71
  INTERNAL_ERROR=80 INAPPROPRIATE_FALLBACK=86 USER_CANCELED=90 NO_RENEGOTIATION=100
  MISSING_EXTENSION=109 UNSUPPORTED_EXTENSION=110 CERTIFICATE_UNOBTAINABLE=111 UNRECOGNIZED_NAME=112
  BAD_CERTIFICATE_STATUS_RESPONSE=113 BAD_CERTIFICATE_HASH_VALUE=114 UNKNOWN_PSK_IDENTITY=115
  CERTIFICATE_REQUIRED=116 NO_APPLICATION_PROTOCOL=120", "style plain value"]),
  ("ssl._TLSContentType", ["below enum.IntEnum", "kind enum.EnumType",
  "functions _generate_next_value_=enum:Enum._generate_next_value_ __new__=enum:Enum.__new__",
  "builtins _new_member_", "operations _value_repr_", "methods __format__",
  "classes _member_type_=int", "constant _use_args_ True", "constant _unhashable_values_ []",
  "values CHANGE_CIPHER_SPEC=20 ALERT=21 HANDSHAKE=22 APPLICATION_DATA=23 HEADER=256
  INNER_CONTENT_TYPE=257", "style plain value"]),
  ("ssl._TLSMessageType", ["below enum.IntEnum", "kind enum.EnumType",
  "functions _generate_next_value_=enum:Enum._generate_next_value_ __new__=enum:Enum.__new__",
  "builtins _new_member_", "operations _value_repr_", "methods __format__",
  "classes _member_type_=int", "constant _use_args_ True", "constant _unhashable_values_ []",
  "values HELLO_REQUEST=0 CLIENT_HELLO=1 SERVER_HELLO=2 HELLO_VERIFY_REQUEST=3 NEWSESSION_TICKET=4
  END_OF_EARLY_DATA=5 HELLO_RETRY_REQUEST=6 ENCRYPTED_EXTENSIONS=8 CERTIFICATE=11
  SERVER_KEY_EXCHANGE=12 CERTIFICATE_REQUEST=13 SERVER_DONE=14 CERTIFICATE_VERIFY=15
  CLIENT_KEY_EXCHANGE=16 FINISHED=20 CERTIFICATE_URL=21 CERTIFICATE_STATUS=22 SUPPLEMENTAL_DATA=23
  KEY_UPDATE=24 NEXT_PROTO=67 MESSAGE_HASH=254 CHANGE_CIPHER_SPEC=257", "style plain value"]),
  ("telnetlib.Telnet", ["open", "functions __init__ open __del__ msg set_debuglevel close get_socket
  fileno write read_until read_all read_some read_very_eager read_eager read_lazy read_very_lazy
  read_sb_data set_option_negotiation_callback process_rawq rawq_getchar fill_rawq sock_avail
  interact mt_interact listener expect __enter__ __exit__"]),
  ("urllib.error.ContentTooShortError", ["below urllib.error.URLError", "functions __init__"]),
  ("urllib.error.HTTPError", ["above urllib.error.URLError OSError Exception BaseException
  urllib.response.addinfourl urllib.response.addinfo urllib.response.addbase
  tempfile._TemporaryFileWrapper object",
  "functions _HTTPError__super_init=urllib.response:addinfourl.__init__ __init__ __str__ __repr__",
  "properties reason headers", "part headers.fset object('function')"]),
  ("urllib.error.URLError", ["below OSError", "open __weakref__", "functions __init__ __str__",
  "silent"]),
  ("urllib.parse.DefragResult", ["above tuple urllib.parse._ResultMixinStr object",
  "functions geturl _replace=collections:DefragResult._replace
  __repr__=collections:DefragResult.__repr__ _asdict=collections:DefragResult._asdict
  __getnewargs__=collections:DefragResult.__getnewargs__",
  "class-functions _make=collections:DefragResult._make",
  "statics __new__=namedtuple_DefragResult:DefragResult.__new__",
  "classes _encoded_counterpart=urllib.parse.DefragResultBytes",
  "objects url=_collections._tuplegetter fragment=_collections._tuplegetter",
  "constant __slots__ ()", "silent", "constant _fields ('url', 'fragment')",
  "constant _field_defaults \x7b\x7d", "constant __match_args__ ('url', 'fragment')"]),
  ("urllib.parse.DefragResultBytes", ["above urllib.parse.DefragResult tuple
  urllib.parse._ResultMixinBytes object", "functions geturl",
  "classes _decoded_counterpart=urllib.parse.DefragResult", "constant __slots__ ()", "silent"]),
  ("urllib.parse.ParseResult", ["above tuple urllib.parse._NetlocResultMixinStr
  urllib.parse._NetlocResultMixinBase urllib.parse._ResultMixinStr object", "functions geturl
  _replace=collections:ParseResult._replace __repr__=collections:ParseResult.__repr__
  _asdict=collections:ParseResult._asdict __getnewargs__=collections:ParseResult.__getnewargs__",
  "class-functions _make=collections:ParseResult._make",
  "statics __new__=namedtuple_ParseResult:ParseResult.__new__",
  "classes _encoded_counterpart=urllib.parse.ParseResultBytes",
  "objects scheme=_collections._tuplegetter netloc=_collections._tuplegetter
  path=_collections._tuplegetter params=_collections._tuplegetter query=_collections._tuplegetter
  fragment=_collections._tuplegetter", "constant __slots__ ()", "silent",
  "constant _fields ('scheme', 'netloc', 'path', 'params', 'query', 'fragment')",
  "constant _field_defaults \x7b\x7d",
  "constant __match_args__ ('scheme', 'netloc', 'path', 'params', 'query', 'fragment')"]),
  ("urllib.parse.ParseResultBytes", ["above urllib.parse.ParseResult tuple
  urllib.parse._NetlocResultMixinBytes urllib.parse._NetlocResultMixinBase
  urllib.parse._ResultMixinBytes object", "functions geturl",
  "classes _decoded_counterpart=urllib.parse.ParseResult", "constant __slots__ ()", "silent"]),
  ("urllib.parse.SplitResult", ["above tuple urllib.parse._NetlocResultMixinStr
  urllib.parse._NetlocResultMixinBase urllib.parse._ResultMixinStr object", "functions geturl
  _replace=collections:SplitResult._replace __repr__=collections:SplitResult.__repr__
  _asdict=collections:SplitResult._asdict __getnewargs__=collections:SplitResult.__getnewargs__",
  "class-functions _make=collections:SplitResult._make",
  "statics __new__=namedtuple_SplitResult:SplitResult.__new__",
  "classes _encoded_counterpart=urllib.parse.SplitResultBytes",
  "objects scheme=_collections._tuplegetter netloc=_collections._tuplegetter
  path=_collections._tuplegetter query=_collections._tuplegetter
  fragment=_collections._tuplegetter", "constant __slots__ ()", "silent",
  "constant _fields ('scheme', 'netloc', 'path', 'query', 'fragment')",
  "constant _field_defaults \x7b\x7d",
  "constant __match_args__ ('scheme', 'netloc', 'path', 'query', 'fragment')"]),
  ("urllib.parse.SplitResultBytes", ["above urllib.parse.SplitResult tuple
  urllib.parse._NetlocResultMixinBytes urllib.parse._NetlocResultMixinBase
  urllib.parse._ResultMixinBytes object", "functions geturl",
  "classes _decoded_counterpart=urllib.parse.SplitResult", "constant __slots__ ()", "silent"]),
  ("urllib.parse._NetlocResultMixinBase", ["class-functions __class_getitem__", "properties username
  password hostname port", "constant __slots__ ()"]),
  ("urllib.parse._NetlocResultMixinBytes", ["above urllib.parse._NetlocResultMixinBase
  urllib.parse._ResultMixinBytes object", "properties _userinfo _hostinfo", "constant __slots__ ()",
  "silent"]),
  ("urllib.parse._NetlocResultMixinStr", ["above urllib.parse._NetlocResultMixinBase
  urllib.parse._ResultMixinStr object", "properties _userinfo _hostinfo", "constant __slots__ ()",
  "silent"]),
  ("urllib.parse._Quoter", ["below dict", "open", "functions __init__ __repr__ __missing__"]),
  ("urllib.parse._ResultMixinBytes", ["functions decode", "constant __slots__ ()"]),
  ("urllib.parse._ResultMixinStr", ["functions encode", "constant __slots__ ()"]),
  ("urllib.request.AbstractBasicAuthHandler", ["open", "functions __init__ _parse_realm
  http_error_auth_reqed retry_http_basic_auth http_request http_response
  https_request=urllib.request:AbstractBasicAuthHandler.http_request
  https_response=urllib.request:AbstractBasicAuthHandler.http_response", "holders rx=re.Pattern",
  "silent", "part rx.flags 34", "part rx.groups 3",
  "part rx.pattern '(?:^|,)[ \\t]*([^ \\t,]+)[ \\t]+realm=([\"\\']?)([^\"\\']*)\\\\2'"]),
  ("urllib.request.AbstractDigestAuthHandler", ["open", "functions __init__ reset_retry_count
  http_error_auth_reqed retry_http_digest_auth get_cnonce get_authorization get_algorithm_impls
  get_entity_digest", "silent"]),
  ("urllib.request.AbstractHTTPHandler", ["below urllib.request.BaseHandler", "functions __init__
  set_http_debuglevel _get_content_length do_request_ do_open", "silent"]),
  ("urllib.request.BaseHandler", ["open", "functions add_parent close __lt__",
  "numbers handler_order=500", "silent"]),
  ("urllib.request.CacheFTPHandler", ["below urllib.request.FTPHandler", "functions __init__
  setTimeout setMaxConns connect_ftp check_cache clear_cache", "silent"]),
  ("urllib.request.DataHandler", ["below urllib.request.BaseHandler", "functions data_open",
  "silent"]),
  ("urllib.request.FTPHandler", ["below urllib.request.BaseHandler", "functions ftp_open
  connect_ftp", "silent"]),
  ("urllib.request.FancyURLopener", ["below urllib.request.URLopener", "functions __init__
  http_error_default http_error_302 redirect_internal http_error_301 http_error_303 http_error_307
  http_error_308 http_error_401 http_error_407 retry_proxy_http_basic_auth
  retry_proxy_https_basic_auth retry_http_basic_auth retry_https_basic_auth get_user_passwd
  prompt_user_passwd"]),
  ("urllib.request.FileHandler", ["below urllib.request.BaseHandler", "functions file_open get_names
  open_local_file", "constant names None", "silent"]),
  ("urllib.request.HTTPBasicAuthHandler", ["above urllib.request.AbstractBasicAuthHandler
  urllib.request.BaseHandler object", "functions http_error_401",
  "constant auth_header 'Authorization'", "silent"]),
  ("urllib.request.HTTPCookieProcessor", ["below urllib.request.BaseHandler", "functions __init__
  http_request http_response https_request=urllib.request:HTTPCookieProcessor.http_request
  https_response=urllib.request:HTTPCookieProcessor.http_response", "silent"]),
  ("urllib.request.HTTPDefaultErrorHandler", ["below urllib.request.BaseHandler",
  "functions http_error_default", "silent"]),
  ("urllib.request.HTTPDigestAuthHandler", ["above urllib.request.BaseHandler
  urllib.request.AbstractDigestAuthHandler object", "functions http_error_401",
  "numbers handler_order=490", "constant auth_header 'Authorization'"]),
  ("urllib.request.HTTPErrorProcessor", ["below urllib.request.BaseHandler",
  "functions http_response https_response=urllib.request:HTTPErrorProcessor.http_response",
  "numbers handler_order=1000"]),
  ("urllib.request.HTTPHandler", ["below urllib.request.AbstractHTTPHandler", "functions http_open
  http_request=urllib.request:AbstractHTTPHandler.do_request_", "silent"]),
  ("urllib.request.HTTPPasswordMgr", ["open", "functions __init__ add_password find_user_password
  reduce_uri is_suburi", "silent"]),
  ("urllib.request.HTTPPasswordMgrWithDefaultRealm", ["below urllib.request.HTTPPasswordMgr",
  "functions find_user_password", "silent"]),
  ("urllib.request.HTTPPasswordMgrWithPriorAuth", [
  "below urllib.request.HTTPPasswordMgrWithDefaultRealm", "functions __init__ add_password
  update_authenticated is_authenticated", "silent"]),
  ("urllib.request.HTTPRedirectHandler", ["below urllib.request.BaseHandler",
  "functions redirect_request http_error_302
  http_error_301=urllib.request:HTTPRedirectHandler.http_error_302
  http_error_303=urllib.request:HTTPRedirectHandler.http_error_302
  http_error_307=urllib.request:HTTPRedirectHandler.http_error_302
  http_error_308=urllib.request:HTTPRedirectHandler.http_error_302", "numbers max_repeats=4
  max_redirections=10",
  "constant inf_msg 'The HTTP server returned a redirect error that would lead to an infinite ",
  "|loop.\\nThe last 30x error message was:\\n'", "silent"]),
  ("urllib.request.HTTPSHandler", ["below urllib.request.AbstractHTTPHandler", "functions __init__
  https_open https_request=urllib.request:AbstractHTTPHandler.do_request_", "silent"]),
  ("urllib.request.OpenerDirector", ["open", "functions __init__ add_handler close _call_chain open
  _open error", "silent"]),
  ("urllib.request.ProxyBasicAuthHandler", ["above urllib.request.AbstractBasicAuthHandler
  urllib.request.BaseHandler object", "functions http_error_407",
  "constant auth_header 'Proxy-authorization'", "silent"]),
  ("urllib.request.ProxyDigestAuthHandler", ["above urllib.request.BaseHandler
  urllib.request.AbstractDigestAuthHandler object", "functions http_error_407",
  "numbers handler_order=490", "constant auth_header 'Proxy-Authorization'", "silent"]),
  ("urllib.request.ProxyHandler", ["below urllib.request.BaseHandler", "functions __init__
  proxy_open", "numbers handler_order=100", "silent"]),
  ("urllib.request.Request", ["open", "functions __init__ _parse get_method get_full_url set_proxy
  has_proxy add_header add_unredirected_header has_header get_header remove_header header_items",
  "properties full_url data", "silent", "part full_url.fset object('function')",
  "part full_url.fdel object('function')", "part data.fset object('function')",
  "part data.fdel object('function')"]),
  ("urllib.request.URLopener", ["open", "functions __init__ __del__ close cleanup addheader open
  open_unknown open_unknown_proxy retrieve _open_generic_http open_http http_error
  http_error_default _https_connection open_https open_file open_local_file open_ftp open_data",
  "constant _URLopener__tempfiles None", "constant version 'Python-urllib/3.11'"]),
  ("urllib.request.UnknownHandler", ["below urllib.request.BaseHandler", "functions unknown_open",
  "silent"]),
  ("urllib.request.ftpwrapper", ["open", "functions __init__ init retrfile endtransfer close
  file_close real_close"]),
  ("urllib.response.addbase", ["below tempfile._TemporaryFileWrapper", "functions __init__ __repr__
  __enter__ __exit__"]),
  ("urllib.response.addclosehook", ["below urllib.response.addbase", "functions __init__ close"]),
  ("urllib.response.addinfo", ["below urllib.response.addbase", "functions __init__ info"]),
  ("urllib.response.addinfourl", ["below urllib.response.addinfo", "functions __init__ getcode
  geturl", "properties status"]),
  ("urllib.robotparser.Entry", ["open", "functions __init__ __str__ applies_to allowance"]),
  ("urllib.robotparser.RequestRate", ["below tuple",
  "functions _replace=collections:RequestRate._replace __repr__=collections:RequestRate.__repr__
  _asdict=collections:RequestRate._asdict __getnewargs__=collections:RequestRate.__getnewargs__",
  "class-functions _make=collections:RequestRate._make",
  "statics __new__=namedtuple_RequestRate:RequestRate.__new__",
  "objects requests=_collections._tuplegetter seconds=_collections._tuplegetter",
  "constant __slots__ ()", "constant _fields ('requests', 'seconds')",
  "constant _field_defaults \x7b\x7d", "constant __match_args__ ('requests', 'seconds')"]),
  ("urllib.robotparser.RobotFileParser", ["open", "functions __init__ mtime modified set_url read
  _add_entry parse can_fetch crawl_delay request_rate site_maps __str__"]),
  ("urllib.robotparser.RuleLine", ["open", "functions __init__ applies_to __str__"]),
  ("uu.Error", ["below Exception", "open __weakref__", "silent"]),
  ("webbrowser.BackgroundBrowser", ["below webbrowser.GenericBrowser", "functions open"]),
  ("webbrowser.BaseBrowser", ["open", "functions __init__ open open_new open_new_tab",
  "constant args ['%s']"]),
  ("webbrowser.Chrome", ["below webbrowser.UnixBrowser", "constant remote_args ['%action', '%s']",
  "constant remote_action ''", "constant remote_action_newwin '--new-window'",
  "constant remote_action_newtab ''", "constant background True"]),
  ("webbrowser.Elinks", ["below webbrowser.UnixBrowser",
  "constant remote_args ['-remote', 'openURL(%s%action)']", "constant remote_action ''",
  "constant remote_action_newwin ',new-window'", "constant remote_action_newtab ',new-tab'",
  "constant background False", "constant redirect_stdout False"]),
  ("webbrowser.Error", ["below Exception", "open __weakref__", "silent"]),
  ("webbrowser.Galeon", ["below webbrowser.UnixBrowser", "constant raise_opts ['-noraise', '']",
  "constant remote_args ['%action', '%s']", "constant remote_action '-n'",
  "constant remote_action_newwin '-w'", "constant background True"]),
  ("webbrowser.GenericBrowser", ["below webbrowser.BaseBrowser", "functions __init__ open"]),
  ("webbrowser.Grail", ["below webbrowser.BaseBrowser", "functions _find_grail_rc _remote open",
  "silent"]),
  ("webbrowser.Konqueror", ["below webbrowser.BaseBrowser", "functions open"]),
  ("webbrowser.Mozilla", ["below webbrowser.UnixBrowser", "constant remote_args ['%action', '%s']",
  "constant remote_action ''", "constant remote_action_newwin '-new-window'",
  "constant remote_action_newtab '-new-tab'", "constant background True"]),
  ("webbrowser.Netscape", ["below webbrowser.UnixBrowser",
  "constant raise_opts ['-noraise', '-raise']",
  "constant remote_args ['-remote', 'openURL(%s%action)']", "constant remote_action ''",
  "constant remote_action_newwin ',new-window'", "constant remote_action_newtab ',new-tab'",
  "constant background True"]),
  ("webbrowser.Opera", ["below webbrowser.UnixBrowser", "constant remote_args ['%action', '%s']",
  "constant remote_action ''", "constant remote_action_newwin '--new-window'",
  "constant remote_action_newtab ''", "constant background True"]),
  ("webbrowser.UnixBrowser", ["below webbrowser.BaseBrowser", "functions _invoke open",
  "constant raise_opts None", "constant background False", "constant redirect_stdout True",
  "constant remote_args ['%action', '%s']", "constant remote_action None",
  "constant remote_action_newwin None", "constant remote_action_newtab None"]),
  ("wsgiref.handlers.BaseCGIHandler", ["below wsgiref.handlers.SimpleHandler",
  "constant origin_server False"]),
  ("wsgiref.handlers.BaseHandler", ["open", "functions run setup_environ finish_response get_scheme
  set_content_length cleanup_headers start_response _convert_string_type send_preamble write
  sendfile finish_content close send_headers result_is_file client_is_modern log_exception
  handle_error error_output _write _flush get_stdin get_stderr add_cgi_vars",
  "classes wsgi_file_wrapper=wsgiref.util.FileWrapper headers_class=wsgiref.headers.Headers",
  "numbers bytes_sent=0", "constant wsgi_version (1, 0)", "constant wsgi_multithread True",
  "constant wsgi_multiprocess True", "constant wsgi_run_once False", "constant origin_server True",
  "constant http_version '1.0'", "constant server_software None", "constant traceback_limit None",
  "constant error_status '500 Internal Server Error'",
  "constant error_headers [('Content-Type', 'text/plain')]",
  "constant error_body b'A server error occurred.  Please contact the administrator.'",
  "constant status None", "constant result None", "constant headers_sent False",
  "constant headers None"]),
  ("wsgiref.handlers.CGIHandler", ["below wsgiref.handlers.BaseCGIHandler", "functions __init__",
  "constant wsgi_run_once True", "constant os_environ \x7b\x7d"]),
  ("wsgiref.handlers.IISCGIHandler", ["below wsgiref.handlers.BaseCGIHandler", "functions __init__",
  "constant wsgi_run_once True", "constant os_environ \x7b\x7d"]),
  ("wsgiref.handlers.SimpleHandler", ["below wsgiref.handlers.BaseHandler", "functions __init__
  get_stdin get_stderr add_cgi_vars _write _flush"]),
  ("wsgiref.headers.Headers", ["open", "functions __init__ _convert_string_type __len__ __setitem__
  __delitem__ __getitem__ __contains__ get_all get keys values items __repr__ __str__ __bytes__
  setdefault add_header"]),
  ("wsgiref.simple_server.ServerHandler", ["below wsgiref.handlers.SimpleHandler",
  "functions close", "constant server_software 'WSGIServer/0.2 CPython/3.11.2'", "silent"]),
  ("wsgiref.simple_server.WSGIRequestHandler", ["below http.server.BaseHTTPRequestHandler",
  "functions get_environ get_stderr handle", "constant server_version 'WSGIServer/0.2'", "silent"]),
  ("wsgiref.simple_server.WSGIServer", ["below http.server.HTTPServer", "functions server_bind
  setup_environ get_app set_app", "constant application None"]),
  ("wsgiref.types.ErrorStream", ["below typing.Protocol", "kind typing._ProtocolMeta", "open",
  "functions flush write writelines
  __subclasshook__=typing:Protocol.__init_subclass__.<locals>._proto_hook
  __init__=typing:_no_init_or_replace_init", "constant __parameters__ ()",
  "constant _is_protocol True"]),
  ("wsgiref.types.FileWrapper", ["below typing.Protocol", "kind typing._ProtocolMeta", "open",
  "functions __call__ __subclasshook__=typing:Protocol.__init_subclass__.<locals>._proto_hook
  __init__=typing:_no_init_or_replace_init", "constant __parameters__ ()",
  "constant _is_protocol True"]),
  ("wsgiref.types.InputStream", ["below typing.Protocol", "kind typing._ProtocolMeta", "open",
  "functions read readline readlines __iter__
  __subclasshook__=typing:Protocol.__init_subclass__.<locals>._proto_hook
  __init__=typing:_no_init_or_replace_init", "constant __parameters__ ()",
  "constant _is_protocol True"]),
  ("wsgiref.types.StartResponse", ["below typing.Protocol", "kind typing._ProtocolMeta", "open",
  "functions __call__ __subclasshook__=typing:Protocol.__init_subclass__.<locals>._proto_hook
  __init__=typing:_no_init_or_replace_init", "constant __parameters__ ()",
  "constant _is_protocol True"]),
  ("wsgiref.types._Readable", ["below typing.Protocol", "kind typing._ProtocolMeta", "open",
  "functions read __subclasshook__=typing:Protocol.__init_subclass__.<locals>._proto_hook
  __init__=typing:_no_init_or_replace_init", "silent", "constant __parameters__ ()",
  "constant _is_protocol True"]),
  ("wsgiref.util.FileWrapper", ["open", "functions __init__ __iter__ __next__"]),
  ("wsgiref.validate.ErrorWrapper", ["open", "functions __init__ write flush writelines close",
  "silent"]),
  ("wsgiref.validate.InputWrapper", ["open", "functions __init__ read readline readlines __iter__
  close", "silent"]),
  ("wsgiref.validate.IteratorWrapper", ["open", "functions __init__ __iter__ __next__ close
  __del__", "silent"]),
  ("wsgiref.validate.PartialIteratorWrapper", ["open", "functions __init__ __iter__", "silent"]),
  ("wsgiref.validate.WSGIWarning", ["below Warning", "open __weakref__"]),
  ("wsgiref.validate.WriteWrapper", ["open", "functions __init__ __call__", "silent"]),
  ("xmlrpc.client.Binary", ["open", "functions __init__ __str__ __eq__ decode encode",
  "constant __hash__ None"]),
  ("xmlrpc.client.DateTime", ["open", "functions __init__ make_comparable __lt__ __le__ __gt__
  __ge__ __eq__ timetuple __str__ __repr__ decode encode", "constant __hash__ None"]),
  ("xmlrpc.client.Error", ["below Exception", "open __weakref__", "operations __str__"]),
  ("xmlrpc.client.ExpatParser", ["open", "functions __init__ feed close", "silent"]),
  ("xmlrpc.client.Fault", ["below xmlrpc.client.Error", "functions __init__ __repr__"]),
  ("xmlrpc.client.GzipDecodedResponse", ["below gzip.GzipFile", "kind abc.ABCMeta",
  "functions __init__ close"]),
  ("xmlrpc.client.Marshaller", ["open", "functions __init__ dumps
  _Marshaller__dump=xmlrpc.client:Marshaller.__dump dump_nil dump_bool dump_long
  dump_int=xmlrpc.client:Marshaller.dump_long dump_double dump_unicode dump_bytes dump_array
  dump_struct dump_datetime dump_instance",
  "constant dispatch \x7bNoneType: function(...), bool: function(...), int: function(...), flo",
  "|at: function(...), str: function(...), bytes: function(...), bytearray: function(...), tup",
  "|le: function(...), list: function(...), dict: function(...), datetime.datetime: function(.",
  "|..), xmlrpc.client.DateTime: function(...), xmlrpc.client.Binary: function(...), '_arbitra",
  "|ry_instance': function(...)\x7d"]),
  ("xmlrpc.client.MultiCall", ["open", "functions __init__ __repr__ __getattr__ __call__"]),
  ("xmlrpc.client.MultiCallIterator", ["open", "functions __init__ __getitem__"]),
  ("xmlrpc.client.ProtocolError", ["below xmlrpc.client.Error", "functions __init__ __repr__"]),
  ("xmlrpc.client.ResponseError", ["below xmlrpc.client.Error"]),
  ("xmlrpc.client.SafeTransport", ["below xmlrpc.client.Transport", "functions __init__
  make_connection"]),
  ("xmlrpc.client.ServerProxy", ["open", "functions __init__
  _ServerProxy__close=xmlrpc.client:ServerProxy.__close
  _ServerProxy__request=xmlrpc.client:ServerProxy.__request __repr__ __getattr__ __call__ __enter__
  __exit__"]),
  ("xmlrpc.client.Transport", ["open", "functions __init__ request single_request getparser
  get_host_info make_connection close send_request send_headers send_content parse_response",
  "constant user_agent 'Python-xmlrpc/3.11'", "constant accept_gzip_encoding True",
  "constant encode_threshold None"]),
  ("xmlrpc.client.Unmarshaller", ["open", "functions __init__ close getmethodname xml start data end
  end_dispatch end_nil end_boolean end_int end_double end_bigdecimal end_string end_array end_struct
  end_base64 end_dateTime end_value end_params end_fault end_methodName",
  "constant dispatch \x7b'nil': function(...), 'boolean': function(...), 'i1': function(...), ",
  "|'i2': function(...), 'i4': function(...), 'i8': function(...), 'int': function(...), 'bigi",
  "|nteger': function(...), 'double': function(...), 'float': function(...), 'bigdecimal': fun",
  "|ction(...), 'string': function(...), 'name': function(...), 'array': function(...), 'struc",
  "|t': function(...), 'base64': function(...), 'dateTime.iso8601': function(...), 'value': fu",
  "|nction(...), 'params': function(...), 'fault': function(...), 'methodName': function(...)",
  "|\x7d"]),
  ("xmlrpc.client._Method", ["open", "functions __init__ __getattr__ __call__", "silent"]),
  ("xmlrpc.client._MultiCallMethod", ["open", "functions __init__ __getattr__ __call__", "silent"]),
  ("xmlrpc.server.CGIXMLRPCRequestHandler", ["below xmlrpc.server.SimpleXMLRPCDispatcher",
  "functions __init__ handle_xmlrpc handle_get handle_request"]),
  ("xmlrpc.server.DocCGIXMLRPCRequestHandler", ["above xmlrpc.server.CGIXMLRPCRequestHandler
  xmlrpc.server.SimpleXMLRPCDispatcher xmlrpc.server.XMLRPCDocGenerator object",
  "functions handle_get __init__"]),
  ("xmlrpc.server.DocXMLRPCRequestHandler", ["below xmlrpc.server.SimpleXMLRPCRequestHandler",
  "functions _get_css do_GET"]),
  ("xmlrpc.server.DocXMLRPCServer", ["above xmlrpc.server.SimpleXMLRPCServer socketserver.TCPServer
  socketserver.BaseServer xmlrpc.server.SimpleXMLRPCDispatcher xmlrpc.server.XMLRPCDocGenerator
  object", "functions __init__"]),
  ("xmlrpc.server.MultiPathXMLRPCServer", ["below xmlrpc.server.SimpleXMLRPCServer",
  "functions __init__ add_dispatcher get_dispatcher _marshaled_dispatch"]),
  ("xmlrpc.server.ServerHTMLDoc", ["below pydoc.HTMLDoc", "functions markup docroutine docserver
  page"]),
  ("xmlrpc.server.SimpleXMLRPCDispatcher", ["open", "functions __init__ register_instance
  register_function register_introspection_functions register_multicall_functions
  _marshaled_dispatch system_listMethods system_methodSignature system_methodHelp system_multicall
  _dispatch"]),
  ("xmlrpc.server.SimpleXMLRPCRequestHandler", ["below http.server.BaseHTTPRequestHandler",
  "functions accept_encodings is_rpc_path_valid do_POST decode_request_content report_404
  log_request", "holders aepattern=re.Pattern", "numbers encode_threshold=1400 wbufsize=-1",
  "constant rpc_paths ('/', '/RPC2', '/pydoc.css')", "constant disable_nagle_algorithm True",
  "part aepattern.flags 98", "part aepattern.groups 3",
  "part aepattern.pattern '\\n                            \\\\s* ([^\\\\s;]+) \\\\s*          ",
  "|  #content-coding\\n                            (;\\\\s* q \\\\s*=\\\\s* ([0-9\\\\.]+))? #",
  "|q\\n                            '"]),
  ("xmlrpc.server.SimpleXMLRPCServer", ["above socketserver.TCPServer socketserver.BaseServer
  xmlrpc.server.SimpleXMLRPCDispatcher object", "functions __init__",
  "constant allow_reuse_address True", "constant _send_traceback_header False"]),
  ("xmlrpc.server.XMLRPCDocGenerator", ["open", "functions __init__ set_server_title set_server_name
  set_server_documentation generate_html_documentation"])]

end FragmentWeaver.Standard
