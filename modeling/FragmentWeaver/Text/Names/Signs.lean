/-!
# Names of characters: signs

The names of the punctuation, the currencies, the arrows, the operators and the shapes, of the
notations of music, mathematics and signing, and of the tiles and the pictures.
-/

namespace FragmentWeaver.Text

/-- Rows of signs. -/
def signNames : List (Nat × String × String) := [
  (0x201c, "", "nlQUOTATIONu|jc|lLOW-9b|lHIGH-REVERSED-9b|DAGGER|lDAGGER|BULLET|TRIANGULAR BULLET
    xDOT LEADER|yb|HORIZONTAL ELLIPSIS|HYPHENATION POINT|LINE SEPARATOR|PARAGRAPHa
    LEFT-TO-RIGHT EMBEDDING|RIGHT-TO-LEFTa|POP DIRECTIONAL FORMATTING|LEFT-TO-RIGHT OVERRIDE
    RIGHT-TO-LEFTa|NARROW NO-BREAK SPACE|PER MILLEi|aTEN THOUSANDi|PRIME|lPRIME|TRIPLEa|REVERSEDa
    alPRIME|aTRIPLEa|CARET|SINGLE LEFT-POINTING ANGLE QUOTATIONu|aRIGHT-POINTINGc|REFERENCEu
    lEXCLAMATIONu|INTERROBANG|OVERLINE|UNDERTIE|CHARACTER TIE|CARET INSERTION POINT|ASTERISM
    HYPHEN BULLET|FRACTION SLASH|nSQUARE BRACKEThQUILL"),
  (0x2046, "", "jSQUARE BRACKEThQUILL|lQUESTIONu|QUESTION EXCLAMATIONu|EXCLAMATION QUESTIONu
    TIRONIANiET|REVERSED PILCROWi|wqBULLET|wka|LOW ASTERISK|REVERSED SEMICOLON|CLOSE UP
    yASTERISKS ALIGNED VERTICALLY|COMMERCIAL MINUSi|SWUNG DASH|INVERTED UNDERTIE|FLOWER PUNCTUATIONu
    pDOT PUNCTUATION|QUADRUPLE PRIME|FOUR DOT PUNCTUATION|FIVEb|yb|FOURau|DOTTED CROSS|TRICOLON
    vFOUR DOTS|MEDIUM MATHEMATICAL SPACE|WORD JOINER|FUNCTION APPLICATION|INVISIBLE TIMES|aSEPARATOR
    aPLUS||LEFT-TO-RIGHT ISOLATE|RIGHT-TO-LEFTa|FIRST STRONG ISOLATE|POP DIRECTIONALa
    INHIBIT SYMMETRIC SWAPPING|ACTIVATEb|INHIBIT ARABIC FORM SHAPING|ACTIVATEc|NATIONAL DIGIT SHAPES
    NOMINALb"),
  (0x2070, "SUPERSCRIPT ", "ZERO|LATINgeI|||FOUR|FIVE|SIX|SEVEN|EIGHT|NINE|PLUSi|MINUS|EQUALSi
    nPARENTHESIS|ja|LATINgeN"),
  (0x2080, "SUBSCRIPT ", "ZERO|x|y|p|FOUR|FIVE|SIX|SEVEN|EIGHT|NINE|PLUSi|MINUS|EQUALSi|nPARENTHESIS
    ja"),
  (0x2090, "LATIN SUBSCRIPT SMALL LETTER ", "A|E|O|X|SCHWA|H|K..N|P|S|T"),
  (0x20a0, "", "EURO-CURRENCYi|COLONi|CRUZEIROi|FRENCH FRANCi|LIRAi|MILLi|NAIRAi|PESETAi|RUPEEi|WONi
    NEW SHEQELi|DONGi|EUROi|KIPi|TUGRIKi|DRACHMAi|GERMAN PENNYi|PESOi|GUARANIi|AUSTRALi|HRYVNIAi
    CEDIi|LIVRE TOURNOISi|SPESMILOi|TENGEi|INDIAN RUPEEi|TURKISH LIRAi|NORDICui|MANATi|RUBLEi|LARIi
    BITCOINi|SOMi"),
  (0x20d0, "COMBINING ", "nHARPOONm|jb|LONGvLINE OVERLAY|SHORTc|ANTICLOCKWISEom|CLOCKWISEb|nb|jb
    RING OVERLAY|CLOCKWISE RING OVERLAY|ANTICLOCKWISEb|pDOTSm|FOURb|ENCLOSING CIRCLE|aSQUARE
    aDIAMOND|aCIRCLE BACKSLASH|njom|ENCLOSING SCREEN|aKEYCAP|aUPWARD POINTING TRIANGLE
    REVERSE SOLIDUS OVERLAY|lvSTROKE OVERLAY|ANNUITY SYMBOL|TRIPLE UNDERDOT|WIDE BRIDGEm|qoOVERLAY
    LONGlSOLIDUS OVERLAY|kHARPOONhBARBz|qd|not|jb|ASTERISKm"),
  (0x2100, "", "ACCOUNT OF|ADDRESSED TO THE SUBJECT|DOUBLE-STRUCKfC|DEGREE CELSIUS
    CENTRE LINE SYMBOL|CARE OF|CADA UNA|EULER CONSTANT|SCRUPLE|DEGREE FAHRENHEIT|SCRIPTgG|afH
    BLACK-LETTERb|DOUBLE-STRUCKb|PLANCK CONSTANT|bOVERyPI|SCRIPTfI|BLACK-LETTERb"),
  (0x2112, "", "SCRIPTfL|agL|L B BAR SYMBOL|DOUBLE-STRUCKfN|NUMEROi|SOUND RECORDING COPYRIGHT
    SCRIPTfP|DOUBLE-STRUCKb|bQ|SCRIPTfR|BLACK-LETTERb|DOUBLE-STRUCKb|PRESCRIPTION TAKE|RESPONSE
    SERVICEu|TELEPHONEi|TRADEui|VERSICLE|DOUBLE-STRUCKfZ|OUNCEi|OHMi|INVERTED OHMi|BLACK-LETTERfZ
    TURNED GREEKgeIOTA|KELVINi|ANGSTROMi|SCRIPTfB|BLACK-LETTERfC|ESTIMATED SYMBOL|SCRIPTgE|afE|bF
    TURNEDb|SCRIPTfM|agO|ALEF SYMBOL|BETa|GIMELa|DALETa|INFORMATION SOURCE|ROTATEDfQ|FACSIMILEi"),
  (0x213c, "DOUBLE-STRUCK ", "gPI|gGAMMA|fa|fPI|N-ARY SUMMATION"),
  (0x2141, "", "TURNED SANS-SERIFfG|cL|REVERSEDc|TURNEDbY"),
  (0x2145, "DOUBLE-STRUCK ITALIC ", "fD|gD|gE|gI|gJ"),
  (0x214a, "", "PROPERTY LINE|TURNED AMPERSAND|PERi|AKTIESELSKAB|TURNEDgF
    SYMBOL FOR SAMARITAN SOURCE"),
  (0x2150, "VULGAR FRACTION ", "xSEVENTH|xNINTH|xTENTH|xTHIRD|yTHIRDS|xFIFTH|yFIFTHS|pa|FOURa|xSIXTH
    FIVE SIXTHS|xEIGHTH|pEIGHTHS|FIVEa|SEVENa"),
  (0x215f, "", "FRACTION NUMERATORx"),
  (0x2160, "ROMAN NUMERAL ", "x|y|p|FOUR|FIVE|SIX|SEVEN|EIGHT|NINE|TEN|ELEVEN|TWELVE|FIFTY|xHUNDRED
    FIVEa|xTHOUSAND"),
  (0x2170, "SMALL ROMAN NUMERAL ", "x|y|p|FOUR|FIVE|SIX|SEVEN|EIGHT|NINE|TEN|ELEVEN|TWELVE|FIFTY
    xHUNDRED|FIVEa|xTHOUSAND"),
  (0x2180, "ROMAN NUMERAL ", "xTHOUSAND C D|FIVEa|TENa|REVERSEDxHUNDRED"),
  (0x2184, "", "LATINgeREVERSED C|ROMAN NUMERAL SIX LATE FORM|bFIFTY EARLYa|cTHOUSAND
    bxHUNDRED THOUSAND|VULGAR FRACTION ZERO THIRDS|TURNED DIGITy|bp|||||qo|UPWARDSo"),
  (0x2192, "", "ko|zo|njo|UP DOWNo|NORTH WESTo|aEASTo|SOUTHb|aWESTo|qohSTROKE|kc|qWAVEo|kb|qyHEADEDo
    UPWARDSc|kc|zc|qohTAIL|kc|qoFROM BAR|UPWARDSc|kc|zc|UP DOWNohBASE|qohHOOK|kc|qbLOOP|kc|njWAVEo
    bohSTROKE|zZIGZAGo|UPWARDSohTIPq|dk|zcq|dk|kbCORNERz|zcq|ANTICLOCKWISE TOP SEMICIRCLEo
    CLOCKWISEc|NORTH WESToTO LONG BAR|qoTO BAR OVERkoTO BAR|ANTICLOCKWISE OPEN CIRCLEo|CLOCKWISEc"),
  (0x21bc, "LEFTWARDS HARPOON WITH BARB ", "UPWARDS|z"),
  (0x21be, "UPWARDS HARPOON WITH BARB ", "k|q"),
  (0x21c0, "RIGHTWARDS HARPOON WITH BARB ", "UPWARDS|z"),
  (0x21c2, "DOWNWARDS HARPOON WITH BARB ", "k|q"),
  (0x21c4, "", "koOVERqo|UPWARDSoqOFzo|qoOVERko|qPAIRED ARROWS|UPWARDSb|kb|zb|qHARPOON OVERkHARPOON
    kbqa|qlohSTROKE|njlohSTROKE|klohSTROKE|qb|UPWARDSb|kb|zb|njlo|UP DOWNb|NORTH WESTb|aEASTb|SOUTHc
    aWESTb|qTRIPLEo|kb|qSQUIGGLEo|kb|UPWARDSohlSTROKE|zd|qDASHEDo|UPWARDSb|kb|zb|qoTO BAR|kc|qWHITEo
    UPWARDSb|kb|zb"),
  (0x21ea, "UPWARDS WHITE ", "oFROM BAR|oON PEDESTAL|chHORIZONTAL BAR|dva|lo|bON PEDESTAL"),
  (0x21f0, "", "kWHITEoFROM WALL|NORTH WESToTO CORNER|SOUTH EASTc|UP DOWN WHITEo|johgCIRCLE
    zoqOF UPWARDSo|pkARROWS|qohvSTROKE|kd|njohvSTROKE|qohlb|kod|njohlvSTROKE|qOPEN-HEADEDo|kb
    njOPEN-HEADEDo|FOR ALL|COMPLEMENT|PARTIAL DIFFERENTIAL|THERE EXISTS|aDOES NOT EXIST|EMPTY SET
    INCREMENT|NABLA|ELEMENT OF|NOT AN ELEMENT OF|gELEMENT OF|CONTAINS AS MEMBER
    DOES NOT CONTAIN AS MEMBER|gCONTAINS AS MEMBER|END OF PROOF|N-ARY PRODUCT|aCOPRODUCT"),
  (0x2211, "", "N-ARY SUMMATION|MINUSi|MINUS-OR-PLUSi|DOT PLUS|DIVISION SLASH|SET MINUS
    ASTERISK OPERATOR|RINGa|BULLETa|SQUARE ROOT|CUBEa|FOURTHa|PROPORTIONAL TO|INFINITY|jANGLE|ANGLE
    MEASURED ANGLE|SPHERICALa|DIVIDES|DOES NOT DIVIDE|PARALLEL TO|NOT PARALLEL TO|LOGICAL AND|aOR
    INTERSECTION|UNION|INTEGRAL|lINTEGRAL|TRIPLEa|CONTOURa|SURFACEa|VOLUMEa|CLOCKWISEa
    aCONTOUR INTEGRAL|ANTICLOCKWISEb|THEREFORE|BECAUSE|RATIO|PROPORTION|DOT MINUS|EXCESS
    GEOMETRIC PROPORTION"),
  (0x223b, "", "HOMOTHETIC|TILDE OPERATOR|REVERSED TILDE|INVERTED LAZY S|SINE WAVE|WREATH PRODUCT
    NOT TILDE|MINUSa|ASYMPTOTICALLY EQUAL TO|NOT ASYMPTOTICALLY EQUAL TO|APPROXIMATELY EQUAL TO
    aBUT NOT ACTUALLY EQUAL TO|NEITHER APPROXIMATELY NORc|ALMOST EQUAL TO|NOT ALMOST EQUAL TO
    ALMOST EQUAL OR EQUAL TO|TRIPLE TILDE|ALL EQUAL TO|EQUIVALENT TO|GEOMETRICALLY EQUIVALENT TO
    DIFFERENCE BETWEEN|APPROACHES THE LIMIT|GEOMETRICALLY EQUAL TO|APPROXIMATELYbOR THE IMAGE OF
    IMAGE OF OR APPROXIMATELY EQUAL TO|COLON EQUALS|EQUALS COLON|RING IN EQUAL TO|aEQUAL TO
    CORRESPONDS TO|ESTIMATES|EQUIANGULAR TO|STAR EQUALS|DELTA EQUAL TO|EQUAL TO BY DEFINITION
    MEASURED BY|QUESTIONED EQUAL TO|NOTb|IDENTICAL TO|NOT IDENTICAL TO|STRICTLY EQUIVALENTa
    LESS-THAN OR EQUAL TO"),
  (0x2265, "", "GREATER-THAN OR EQUAL TO|LESS-THAN OVERb|GREATER-THANc|LESS-THAN BUT NOT EQUAL TO
    GREATER-THANd|MUCH LESS-THAN|aGREATER-THAN|BETWEEN|NOT EQUIVALENT TO|aLESS-THAN|aGREATER-THAN
    NEITHER LESS-THAN NOR EQUAL TO|aGREATER-THANc|LESS-THAN OR EQUIVALENT TO|GREATER-THANc
    NEITHER LESS-THAN NOR EQUIVALENT TO|aGREATER-THANc|LESS-THAN OR GREATER-THAN
    GREATER-THANaLESS-THAN|NEITHER LESS-THAN NOR GREATER-THAN|aGREATER-THANaLESS-THAN|PRECEDES
    SUCCEEDS|PRECEDES OR EQUAL TO|SUCCEEDSc|PRECEDESaEQUIVALENTa|SUCCEEDSc|DOES NOT PRECEDE|bSUCCEED
    SUBSET OF|SUPERSETa|NOT A SUBSET OF|bSUPERSETa|SUBSET OF OR EQUAL TO|SUPERSETd
    NEITHER A SUBSET OF NOR EQUAL TO|bSUPERSETd|SUBSET OFhNOT EQUAL TO|SUPERSETad|MULTISET
    aMULTIPLICATION|aUNION"),
  (0x228f, "SQUARE ", "IMAGE OF|ORIGINALa|IMAGEaOR EQUAL TO|ORIGINALd|CAP|CUP"),
  (0x2295, "CIRCLED ", "PLUS|MINUS|TIMES|DIVISION SLASH|DOT OPERATOR|RINGa|ASTERISKa|EQUALS|DASH"),
  (0x229e, "", "SQUARED PLUS|aMINUS|aTIMES|aDOT OPERATOR|jTACK|na|DOWNa|UPa|ASSERTION|MODELS|TRUE
    FORCES|TRIPLEvBARjTURNSTILE|lbljTURNSTILE|DOES NOT PROVE|NOT TRUE|DOES NOT FORCE
    NEGATEDlvBARljTURNSTILE|PRECEDES UNDER RELATION|SUCCEEDSb|NORMAL SUBGROUP OF
    CONTAINS AS NORMAL SUBGROUP|NORMAL SUBGROUP OF OR EQUAL TO
    CONTAINS AS NORMAL SUBGROUP OR EQUAL TO|ORIGINAL OF|IMAGEa"),
  (0x22b8, "", "MULTIMAP|HERMITIAN CONJUGATE MATRIX|INTERCALATE|XOR|NAND|NOR|jANGLEhARC|jTRIANGLE
    N-ARY LOGICAL AND|bOR|aINTERSECTION|aUNION|DIAMOND OPERATOR|DOTa|STARa|DIVISION TIMES|BOWTIE
    nNORMAL FACTOR SEMIDIRECT PRODUCT|jd|nSEMIDIRECT PRODUCT|jb|REVERSED TILDE EQUALS
    CURLY LOGICAL OR|bAND|lSUBSET|lSUPERSET|lINTERSECTION|lUNION|PITCHFORK|EQUAL AND PARALLEL TO
    LESS-THANhDOT|GREATER-THANb|VERY MUCH LESS-THAN|bGREATER-THAN|LESS-THAN EQUAL TO OR GREATER-THAN
    GREATER-THANcLESS-THAN|EQUAL TO OR LESS-THAN|cGREATER-THAN|cPRECEDES|cSUCCEEDS
    DOES NOT PRECEDE OR EQUAL|bSUCCEEDb"),
  (0x22e2, "", "NOT SQUARE IMAGE OF OR EQUAL TO|bORIGINALd|SQUARE IMAGE OF OR NOTb|aORIGINALad
    LESS-THAN BUT NOT EQUIVALENT TO|GREATER-THANd|PRECEDESd|SUCCEEDSd|NOT NORMAL SUBGROUP OF
    DOES NOT CONTAIN AS NORMAL SUBGROUP|NOT NORMAL SUBGROUP OF OR EQUAL TO
    DOES NOT CONTAIN AS NORMAL SUBGROUP OR EQUAL|vELLIPSIS|MIDLINE HORIZONTAL ELLIPSIS
    UPjDIAGONAL ELLIPSIS|DOWNc|ELEMENT OFhLONG HORIZONTAL STROKE|cvBAR AT END OF HORIZONTAL STROKE
    gELEMENT OFhvBAR AT END OF HORIZONTAL STROKE|ELEMENT OFhDOTm|cOVERBAR|gELEMENT OFhOVERBAR
    ELEMENT OFhUNDERBAR|cyHORIZONTAL STROKES|CONTAINShLONG HORIZONTAL STROKE
    bvBAR AT END OF HORIZONTAL STROKE|gCONTAINShvBAR AT END OF HORIZONTAL STROKE|CONTAINShOVERBAR
    gCONTAINShOVERBAR|Z NOTATION BAG MEMBERSHIP|DIAMETERi|ELECTRICo|HOUSE|UP ARROWHEAD|DOWNa
    PROJECTIVE|PERSPECTIVE|WAVY LINE|nCEILING|ja|nFLOOR|ja"),
  (0x230c, "", "BOTTOMjCROP|ana|TOPja|ana|REVERSED NOTi|SQUARE LOZENGE|ARC|SEGMENT|SECTOR
    TELEPHONE RECORDER|POSITION INDICATOR|VIEWDATA SQUARE|PLACE OF INTERESTi|TURNED NOTi|WATCH
    HOURGLASS|TOPnCORNER|aja|BOTTOMna|aja|TOP HALF INTEGRAL|BOTTOMb|FROWN|SMILE
    UP ARROWHEAD BETWEENyHORIZONTAL BARS|OPTION KEY|ERASE TO THEj|X IN A RECTANGLE BOX|KEYBOARD
    LEFT-POINTING ANGLE BRACKET|RIGHT-POINTINGb|ERASE TO THEn|BENZENE RING|CYLINDRICITY
    ALL AROUND-PROFILE|SYMMETRY|TOTAL RUNOUT|DIMENSION ORIGIN|CONICAL TAPER|SLOPE|COUNTERBORE
    COUNTERSINK"),
  (0x2336, "APL FUNCTIONAL SYMBOL ", "I-BEAM|SQUISH QUAD|QUAD EQUAL|aDIVIDE|aDIAMOND|aJOT|aCIRCLE
    CIRCLE STILE|aJOT|SLASH BAR|BACKSLASHa|QUAD SLASH|aBACKSLASH|aLESS-THAN|aGREATER-THAN|qVANE|ka
    QUADqo|ako|CIRCLE BACKSLASH|DOWN TACK UNDERBAR|DELTA STILE|QUAD DOWN CARET|aDELTA|DOWN TACK JOT
    UPWARDS VANE|QUAD UPWARDSo|UP TACK OVERBAR|DEL STILE|QUAD UP CARET|aDEL|UP TACK JOT|zVANE|QUADzo
    QUOTE UNDERBAR|DELTAa|DIAMONDa|JOTa|CIRCLEa|UP SHOE JOT|QUOTE QUAD|CIRCLE STAR|QUAD COLON
    UP TACK DIAERESIS|DEL DIAERESIS|STARa|JOTa|CIRCLEa|DOWN SHOE STILE|nb|TILDE DIAERESIS
    GREATER-THANa|COMMA BAR|DEL TILDE|ZILDE|STILE TILDE|SEMICOLON UNDERBAR|QUAD NOT EQUAL|aQUESTION
    DOWN CARET TILDE|UPb|IOTA|RHO|OMEGA|ALPHA UNDERBAR|EPSILONa|IOTAa|OMEGAa|ALPHA"),
  (0x237b, "", "NOT CHECKu|jANGLEhzZIGZAGo|SHOULDERED OPEN BOX|BELL SYMBOL|vLINEhMIDDLE DOT
    INSERTION SYMBOL|CONTINUOUS UNDERLINE SYMBOL|DISCONTINUOUSb|EMPHASIS SYMBOL|COMPOSITIONa
    WHITE SQUAREhCENTREvLINE|ENTER SYMBOL|ALTERNATIVE KEY SYMBOL|HELM SYMBOL
    CIRCLED HORIZONTAL BARhNOTCH|aTRIANGLE DOWN|BROKEN CIRCLEhNORTHWESTo|UNDO SYMBOL|MONOSTABLEa
    HYSTERESISa|OPEN-CIRCUIT-OUTPUT H-TYPE SYMBOL|aL-TYPEa|PASSIVE-PULL-DOWN-OUTPUT SYMBOL
    PASSIVE-PULL-UP-OUTPUTa|DIRECT CURRENT SYMBOL FORMy|SOFTWARE-FUNCTION SYMBOL
    APL FUNCTIONAL SYMBOL QUAD|DECIMAL SEPARATOR KEY SYMBOL|PREVIOUS PAGE|NEXTa|PRINT SCREEN SYMBOL
    CLEARb"),
  (0x239b, "LEFT PARENTHESIS ", "UPPER HOOK|EXTENSION|LOWER HOOK"),
  (0x239e, "RIGHT PARENTHESIS ", "UPPER HOOK|EXTENSION|LOWER HOOK"),
  (0x23a1, "LEFT SQUARE BRACKET ", "UPPER CORNER|EXTENSION|LOWER CORNER"),
  (0x23a4, "RIGHT SQUARE BRACKET ", "UPPER CORNER|EXTENSION|LOWER CORNER"),
  (0x23a7, "LEFT CURLY BRACKET ", "UPPER HOOK|MIDDLE PIECE|LOWER HOOK"),
  (0x23aa, "", "CURLY BRACKET EXTENSION|jCURLY BRACKET UPPER HOOK|cMIDDLE PIECE|cLOWER HOOK
    INTEGRAL EXTENSION|HORIZONTAL LINE EXTENSION|UPPERnOR LOWERjCURLY BRACKET SECTION|ajbnc
    SUMMATION TOP|aBOTTOM|TOP SQUARE BRACKET|BOTTOMb|cOVER TOP SQUARE BRACKET|RADICAL SYMBOL BOTTOM
    nvBOX LINE|jc"),
  (0x23ba, "HORIZONTAL SCAN LINE-", "1|3|7|9"),
  (0x23be, "DENTISTRY SYMBOL LIGHT ", "vAND TOPj|bBOTTOMj|vhCIRCLE|DOWN AND HORIZONTALhCIRCLE|UPd
    vhTRIANGLE|DOWN AND HORIZONTALhTRIANGLE|UPd|vaWAVE|DOWNaHORIZONTALhWAVE|UPd|DOWNb|UPb|vaTOPn
    bBOTTOMn"),
  (0x23cd, "", "SQUARE FOOT|RETURN SYMBOL|EJECTa|vLINE EXTENSION"),
  (0x23d1, "METRICAL ", "BREVE|LONG OVER SHORT|SHORTaLONG|LONGaySHORTS|ySHORTS OVER LONG|bJOINED
    TRISEME|TETRASEME|PENTASEME"),
  (0x23da, "", "EARTH GROUND|FUSE|TOP PARENTHESIS|BOTTOMa|TOP CURLY BRACKET|BOTTOMb
    TOP TORTOISE SHELL BRACKET|BOTTOMc|WHITE TRAPEZIUM|BENZENE RINGhCIRCLE|STRAIGHTNESS|FLATNESS
    AC CURRENT|ELECTRICAL INTERSECTION|DECIMAL EXPONENT SYMBOL|wRIGHT-POINTINGlTRIANGLE
    wLEFT-POINTINGb|wUP-POINTINGb|wDOWN-POINTINGb|wRIGHT-POINTINGbhvBAR|wLEFT-POINTINGld
    wRIGHT-POINTING TRIANGLEhlb|ALARM CLOCK|STOPWATCH|TIMER CLOCK|HOURGLASShFLOWING SAND
    wMEDIUM LEFT-POINTING TRIANGLE|bRIGHT-POINTINGa|bUP-POINTINGa|bDOWN-POINTINGa|lvBAR
    wSQUARE FOR STOP|wCIRCLEaRECORD|POWER SYMBOL|aON-OFF SYMBOL|aONa|aSLEEPa|OBSERVER EYEa"),
  (0x2400, "SYMBOL FOR ", "NULL|START OF HEADING|bTEXT|ENDb|bTRANSMISSION|ENQUIRY|ACKNOWLEDGE|BELL
    BACKSPACE|HORIZONTAL TABULATION|LINE FEED|vTABULATION|FORM FEED|CARRIAGE RETURN|SHIFT OUT|aIN
    DATA LINK ESCAPE|DEVICE CONTROLx|by|bp|bFOUR|NEGATIVE ACKNOWLEDGE|SYNCHRONOUS IDLE
    END OF TRANSMISSION BLOCK|CANCEL|END OF MEDIUM|SUBSTITUTE|ESCAPE|FILE SEPARATOR|GROUPa|RECORDa
    UNITa|SPACE|DELETE"),
  (0x2422, "", "BLANK SYMBOL|OPEN BOX|SYMBOL FOR NEWLINE|bDELETE FORMy|bSUBSTITUTEb"),
  (0x2440, "OCR ", "HOOK|CHAIR|FORK|INVERTED FORK|BELT BUCKLE|BOW TIE|BRANCH BANK IDENTIFICATION
    AMOUNT OF CHECK|DASH|CUSTOMER ACCOUNT NUMBER|lBACKSLASH"),
  (0x2460, "CIRCLED DIGIT ", "x|y|p|FOUR|FIVE|SIX|SEVEN|EIGHT|NINE"),
  (0x2469, "CIRCLED NUMBER ", "TEN|ELEVEN|TWELVE|THIRTEEN|FOURTEEN|FIFTEEN|SIXTEEN|SEVENTEEN
    EIGHTEEN|NINETEEN|TWENTY"),
  (0x2474, "PARENTHESIZED DIGIT ", "x|y|p|FOUR|FIVE|SIX|SEVEN|EIGHT|NINE"),
  (0x247d, "PARENTHESIZED NUMBER ", "TEN|ELEVEN|TWELVE|THIRTEEN|FOURTEEN|FIFTEEN|SIXTEEN|SEVENTEEN
    EIGHTEEN|NINETEEN|TWENTY"),
  (0x2488, "DIGIT ", "xFULL STOP|yb|pb|FOURb|FIVEb|SIXb|SEVENb|EIGHTb|NINEb"),
  (0x2491, "NUMBER ", "TEN FULL STOP|ELEVENb|TWELVEb|THIRTEENb|FOURTEENb|FIFTEENb|SIXTEENb
    SEVENTEENb|EIGHTEENb|NINETEENb|TWENTYb"),
  (0x249c, "PARENTHESIZED LATIN SMALL LETTER ", "A..Z"),
  (0x24b6, "CIRCLED LATIN CAPITAL LETTER ", "A..Z"),
  (0x24d0, "CIRCLED LATIN SMALL LETTER ", "A..Z"),
  (0x24ea, "", "CIRCLED DIGIT ZERO"),
  (0x24eb, "NEGATIVE CIRCLED NUMBER ", "ELEVEN|TWELVE|THIRTEEN|FOURTEEN|FIFTEEN|SIXTEEN|SEVENTEEN
    EIGHTEEN|NINETEEN|TWENTY"),
  (0x24f5, "DOUBLE CIRCLED DIGIT ", "x|y|p|FOUR|FIVE|SIX|SEVEN|EIGHT|NINE"),
  (0x24fe, "", "lCIRCLED NUMBER TEN|NEGATIVEaDIGIT ZERO"),
  (0x2500, "BOX DRAWINGS ", "LIGHT HORIZONTAL|HEAVYa|LIGHTv|HEAVYv|LIGHT TRIPLE DASH HORIZONTAL
    HEAVYc|LIGHTbv|HEAVYc|LIGHT QUADRUPLEaHORIZONTAL|HEAVYc|LIGHTbv|HEAVYc|LIGHT DOWN ANDj
    DOWN LIGHTbHEAVY|aHEAVYbLIGHT|HEAVY DOWNb|LIGHTbn|DOWN LIGHTbHEAVY|aHEAVYbLIGHT|HEAVY DOWNb
    LIGHT UPaj|UP LIGHTbHEAVY|aHEAVYbLIGHT|HEAVY UPb|LIGHTbn|UP LIGHTbHEAVY|aHEAVYbLIGHT|HEAVY UPb
    LIGHTvaj|vLIGHTbHEAVY|UP HEAVYbDOWN LIGHT|DOWNcUPa|vcLIGHT|DOWN LIGHTbUP HEAVY|UPcDOWNa|HEAVYvb
    LIGHTbn|vLIGHTbHEAVY|UP HEAVYbDOWN LIGHT|DOWNcUPa|vcLIGHT|DOWN LIGHTbUP HEAVY|UPcDOWNa|HEAVYvb
    LIGHT DOWNaHORIZONTAL|nHEAVYajDOWN LIGHT|jbnb|DOWN LIGHTaHORIZONTAL HEAVY|aHEAVYbLIGHT
    jLIGHTanDOWN HEAVY|nbjb|HEAVY DOWNaHORIZONTAL|LIGHT UPb|nHEAVYajUP LIGHT|jbnb
    UP LIGHTaHORIZONTAL HEAVY|aHEAVYbLIGHT|jLIGHTanUP HEAVY|nbjb|HEAVY UPaHORIZONTAL|LIGHTvb
    nHEAVYajvLIGHT|jbnb|vLIGHTaHORIZONTAL HEAVY|UP HEAVYaDOWN HORIZONTAL LIGHT|DOWNbUPb
    vbHORIZONTAL LIGHT|nUP HEAVY ANDjDOWN LIGHT|jcnb|nDOWNbjUPa|jcnb
    DOWN LIGHT AND UP HORIZONTAL HEAVY|UPbDOWNb|jbnva|nbjb|HEAVYvaHORIZONTAL|LIGHTlDASHa|HEAVYc
    LIGHTbv|HEAVYc|lHORIZONTAL|lv|DOWN SINGLE ANDjl|albSINGLE|lDOWNb|DOWN SINGLEanl|albSINGLE|lDOWNb
    UP SINGLEajl|albSINGLE|lUPb|UP SINGLEanl|albSINGLE|lUPb|vSINGLEajl|vlbSINGLE|lvb|vSINGLEanl
    vlbSINGLE|lvb|DOWN SINGLEaHORIZONTALl|albSINGLE|lDOWNb|UP SINGLEbl|albSINGLE|lUPb|vSINGLEbl
    vlbSINGLE|lvb|LIGHT ARC DOWN ANDj|dn|bUPb|dj|aDIAGONAL UPPERjTO LOWERn|cnbj|bCROSS|an|aUP|aj
    aDOWN|HEAVYn|aUP|aj|aDOWN|LIGHTnAND HEAVYj|aUPbDOWN|HEAVYnaLIGHTj|aUPbDOWN"),
  (0x2580, "", "UPPER HALF BLOCK|LOWERxEIGHTH BLOCK|bQUARTERa|apEIGHTHSa|aHALF BLOCK
    aFIVE EIGHTHS BLOCK|apQUARTERSa|aSEVEN EIGHTHSa|FULL BLOCK|nSEVEN EIGHTHS BLOCK|npQUARTERSa
    nFIVE EIGHTHSa|nHALF BLOCK|npEIGHTHS BLOCK|nxQUARTERa|bEIGHTHa|jHALF BLOCK|LIGHT SHADE|MEDIUMa
    DARKa|UPPERxEIGHTH BLOCK|jc|QUADRANT LOWERn|bj"),
  (0x2598, "QUADRANT UPPER ", "n|nAND LOWERnAND LOWERj|cj|bUPPERjAND LOWERn|bdj|j|jAND LOWERn
    dAND LOWERj"),
  (0x25a0, "", "wSQUARE|WHITEa|bhROUNDED CORNERS|bCONTAININGwgSQUARE"),
  (0x25a4, "SQUARE WITH ", "HORIZONTAL FILL|va|ORTHOGONAL CROSSHATCH FILL|UPPERnTO LOWERjFILL|ajbna
    DIAGONAL CROSSHATCH FILL"),
  (0x25aa, "", "wgSQUARE|WHITEb|wRECTANGLE|WHITEa|wvRECTANGLE|WHITEb|wPARALLELOGRAM|WHITEa
    wUP-POINTING TRIANGLE|WHITEb|wagTRIANGLE|WHITEc|wRIGHT-POINTING TRIANGLE|WHITEb|wagTRIANGLE
    WHITEc|waPOINTER|WHITEb|wDOWN-POINTING TRIANGLE|WHITEb|wagTRIANGLE|WHITEc
    wLEFT-POINTING TRIANGLE|WHITEb|wagTRIANGLE|WHITEc|waPOINTER|WHITEb|wDIAMOND|WHITEa
    bCONTAININGwgDIAMOND|FISHEYE|LOZENGE|WHITE CIRCLE|DOTTEDa|CIRCLEhvFILL|BULLSEYE|wCIRCLE"),
  (0x25d0, "CIRCLE WITH ", "nHALFw|jb|LOWERb|UPPERb|ajQUADRANTw|ALL BUT UPPERnQUADRANTw"),
  (0x25d6, "", "nHALFwCIRCLE|jc|INVERSE BULLET|aWHITE CIRCLE|UPPER HALF INVERSE WHITE CIRCLE|LOWERd
    UPPERnQUADRANT CIRCULAR ARC|ajc|LOWERd|anc|UPPER HALF CIRCLE|LOWERb|wLOWERjTRIANGLE|bna|wUPPERb
    bja|WHITE BULLET|SQUAREhnHALFw|bjb|bUPPERnDIAGONAL HALFw|bLOWERjc|WHITE SQUAREhvBISECTING LINE
    aUP-POINTING TRIANGLEhDOT|UP-POINTING TRIANGLEhnHALFw|cjb|LARGE CIRCLE"),
  (0x25f0, "WHITE SQUARE WITH ", "UPPERnQUADRANT|LOWERb|aja|UPPERb"),
  (0x25f4, "WHITE CIRCLE WITH ", "UPPERnQUADRANT|LOWERb|aja|UPPERb"),
  (0x25f8, "", "UPPERnTRIANGLE|aja|LOWERna|WHITE MEDIUM SQUARE|wb|WHITEagSQUARE|wc|LOWERjTRIANGLE
    wSUNhRAYS|CLOUD|UMBRELLA|SNOWMAN|COMET|wSTAR"),
  (0x2606, "", "WHITE STAR|LIGHTNING|THUNDERSTORM|SUN|ASCENDING NODE|DESCENDINGa|CONJUNCTION
    OPPOSITION|wTELEPHONE|WHITEa|BALLOT BOX|bhCHECK|cX|SALTIRE|UMBRELLAhRAIN DROPS|HOT BEVERAGE
    WHITE SHOGI PIECE|wb|SHAMROCK|REVERSED ROTATED FLORAL HEART BULLET|wnPOINTING INDEX|wjb|WHITEnb
    aUPb|ajb|aDOWNb|SKULL AND CROSSBONES|CAUTIONi|RADIOACTIVEi|BIOHAZARDi|CADUCEUS|ANKH
    ORTHODOX CROSS|CHI RHO|CROSS OF LORRAINE|bJERUSALEM|STAR AND CRESCENT|FARSI SYMBOL|ADI SHAKTI
    HAMMER AND SICKLE|PEACE SYMBOL|YIN YANG"),
  (0x2630, "TRIGRAM FOR ", "HEAVEN|LAKE|FIRE|THUNDER|WIND|WATER|MOUNTAIN|EARTH"),
  (0x2638, "", "WHEEL OF DHARMA|WHITE FROWNING FACE|aSMILINGa|wb|WHITE SUNhRAYS|FIRST QUARTER MOON
    LASTb|MERCURY|FEMALEi|EARTH|MALEi|JUPITER|SATURN|URANUS|NEPTUNE|PLUTO|ARIES|TAURUS|GEMINI|CANCER
    LEO|VIRGO|LIBRA|SCORPIUS|SAGITTARIUS|CAPRICORN|AQUARIUS|PISCES"),
  (0x2654, "WHITE CHESS ", "KING|QUEEN|ROOK|BISHOP|KNIGHT|PAWN"),
  (0x265a, "BLACK CHESS ", "KING|QUEEN|ROOK|BISHOP|KNIGHT|PAWN"),
  (0x2660, "", "wSPADE SUIT|WHITE HEARTa|aDIAMONDa|wCLUBa|WHITE SPADEa|wHEARTa|wDIAMONDa|WHITE CLUBa
    HOT SPRINGS|QUARTER NOTE|EIGHTHa|BEAMED EIGHTH NOTES|aSIXTEENTHa|MUSIC FLATi|aNATURALi|aSHARPi
    WEST SYRIAC CROSS|EASTb|UNIVERSAL RECYCLING SYMBOL"),
  (0x2673, "RECYCLING SYMBOL FOR TYPE-", "1 PLASTICS|2a|3a|4a|5a|6a|7a"),
  (0x267a, "", "RECYCLING SYMBOL FOR GENERIC MATERIALS|wUNIVERSAL RECYCLING SYMBOL
    RECYCLED PAPER SYMBOL|PARTIALLY-RECYCLEDb|PERMANENTai|WHEELCHAIR SYMBOL|DIE FACE-1..6
    WHITE CIRCLEhDOTj|cyDOTS|wbWHITE DOTj|cyWHITE DOTS|MONOGRAM FOR YANG|bYIN|DIGRAMaGREATER YANG
    bLESSER YIN|cYANG|bGREATER YIN|WHITE FLAG|wa|HAMMER AND PICK|ANCHOR|CROSSED SWORDS
    STAFF OF AESCULAPIUS|SCALES|ALEMBIC|FLOWER|GEAR|STAFF OF HERMES|ATOM SYMBOL|FLEUR-DE-LIS
    OUTLINED WHITE STAR|pLINES CONVERGINGj|cn|WARNINGi|HIGH VOLTAGEi|DOUBLED FEMALEi|aMALEi"),
  (0x26a4, "", "INTERLOCKED FEMALE AND MALEi|MALE AND FEMALEi|ahSTROKEi|cAND MALE AND FEMALEi
    vMALEhSTROKEi|HORIZONTALd|MEDIUM WHITE CIRCLE|awa|agWHITE CIRCLE|MARRIAGE SYMBOL|DIVORCEa
    UNMARRIED PARTNERSHIP SYMBOL|COFFIN|FUNERAL URN|NEUTER|CERES|PALLAS|JUNO|VESTA|CHIRON
    wMOON LILITH|SEXTILE|SEMISEXTILE|QUINCUNX|SESQUIQUADRATE|SOCCER BALL|BASEBALL|SQUARED KEY
    WHITE DRAUGHTS MAN|bKING|waMAN|bKING|SNOWMAN WITHOUT SNOW|SUN BEHIND CLOUD|RAIN|wSNOWMAN
    THUNDER CLOUD AND RAIN|TURNED WHITE SHOGI PIECE|awb|WHITE DIAMOND IN SQUARE|CROSSING LANES
    DISABLED CAR"),
  (0x26ce, "", "OPHIUCHUS|PICK|CAR SLIDING|HELMEThWHITE CROSS|CIRCLED CROSSING LANES|CHAINS|NO ENTRY
    ALTERNATE ONE-WAYnWAY TRAFFIC|wTWO-WAYc|WHITEd|wnLANE MERGE|WHITEc|DRIVE SLOWi
    HEAVY WHITE DOWN-POINTING TRIANGLE|nCLOSED ENTRY|SQUARED SALTIRE
    FALLING DIAGONAL IN WHITE CIRCLE INwSQUARE|wTRUCK|RESTRICTEDnENTRY-1|bENTRY-2
    ASTRONOMICAL SYMBOL FOR URANUS|HEAVY CIRCLEhSTROKE ANDyDOTSm|PENTAGRAM
    RIGHT-HANDED INTERLACED PENTAGRAM|LEFT-HANDEDb|INVERTED PENTAGRAM|wCROSS ON SHIELD|SHINTO SHRINE
    CHURCH|CASTLE|HISTORIC SITE|GEAR WITHOUT HUB|ahHANDLES|MAP SYMBOL FOR LIGHTHOUSE|MOUNTAIN
    UMBRELLA ON GROUND|FOUNTAIN|FLAG IN HOLE|FERRY|SAILBOAT|SQUARE FOUR CORNERS|SKIER"),
  (0x26f8, "", "ICE SKATE|PERSONhBALL|TENT|JAPANESE BANK SYMBOL|HEADSTONE GRAVEYARDa|FUEL PUMP
    CUP ONwSQUARE|WHITE FLAGhHORIZONTAL MIDDLEwSTRIPE|wSAFETY SCISSORS|UPPER BLADEa|wSCISSORS
    LOWER BLADE SCISSORS|WHITE SCISSORS|aHEAVY CHECKu|TELEPHONE LOCATIONi|TAPE DRIVE|AIRPLANE
    ENVELOPE|RAISED FIST|aHAND|VICTORYa|WRITINGa|LOWERjPENCIL|PENCIL|UPPERjPENCIL|WHITE NIB|wa
    CHECKu|HEAVY CHECKu|MULTIPLICATION X|HEAVY MULTIPLICATION X|BALLOT X|HEAVY BALLOT X
    OUTLINED GREEK CROSS|HEAVYb|OPEN CENTREa|HEAVY OPEN CENTRE CROSS|LATIN CROSS
    SHADOWED WHITE LATIN CROSS|OUTLINED LATIN CROSS|MALTESE CROSS|STAR OF DAVID"),
  (0x2722, "", "FOUR TEARDROP-SPOKED ASTERISK|aBALLOON-SPOKEDa|HEAVY FOUR BALLOON-SPOKED ASTERISK
    FOUR CLUB-SPOKED ASTERISK|wFOUR POINTED STAR|WHITEc|SPARKLES|STRESS OUTLINED WHITE STAR
    CIRCLED WHITE STAR|OPEN CENTREwSTAR|waWHITEa|OUTLINEDwSTAR|HEAVY OUTLINEDwSTAR|PINWHEEL STAR
    SHADOWED WHITE STAR|HEAVY ASTERISK|OPEN CENTRE ASTERISK|EIGHT SPOKEDa|aPOINTEDwSTAR|bPINWHEELa
    SIXawa|EIGHTaRECTILINEARwSTAR|HEAVY EIGHT POINTED RECTILINEARwSTAR|TWELVE POINTEDwSTAR
    SIXTEENaASTERISK|TEARDROP-SPOKED ASTERISK|OPEN CENTRE TEARDROP-SPOKED ASTERISK
    HEAVY TEARDROP-SPOKED ASTERISK|SIX PETALLEDwAND WHITE FLORETTE|wFLORETTE|WHITEa
    EIGHT PETALLED OUTLINEDwFLORETTE|CIRCLED OPEN CENTRE EIGHT POINTED STAR
    HEAVY TEARDROP-SPOKED PINWHEEL ASTERISK|SNOWFLAKE|TIGHT TRIFOLIATE SNOWFLAKE|HEAVY CHEVRONa
    SPARKLE|HEAVY SPARKLE|BALLOON-SPOKED ASTERISK|EIGHT TEARDROP-SPOKED PROPELLER ASTERISK
    HEAVY EIGHT TEARDROP-SPOKED PROPELLER ASTERISK"),
  (0x274c, "", "CROSSu|SHADOWED WHITE CIRCLE|NEGATIVE SQUARED CROSSu
    LOWERjDROP-SHADOWED WHITE SQUARE|UPPERd|LOWERjSHADOWEDb|UPPERd|wQUESTIONuORNAMENT|WHITEc
    aEXCLAMATIONb|wDIAMOND MINUS WHITE X|HEAVY EXCLAMATIONuSYMBOL|LIGHTvBAR|MEDIUMb|HEAVYb
    aSINGLE TURNED COMMA QUOTATIONuORNAMENT|bCOMMA QUOTATIONuORNAMENT
    alTURNED COMMA QUOTATIONuORNAMENT|bCOMMA QUOTATIONuORNAMENT|aLOW SINGLE COMMA QUOTATIONuORNAMENT
    bld|CURVED STEM PARAGRAPHiORNAMENT|HEAVY EXCLAMATIONuORNAMENT|aHEART EXCLAMATIONuORNAMENT
    awHEART|ROTATED HEAVYwHEART BULLET|FLORAL HEART|ROTATED FLORAL HEART BULLET
    MEDIUMnPARENTHESIS ORNAMENT|ajb|aFLATTENEDnPARENTHESIS ORNAMENT|bjb
    aLEFT-POINTING ANGLE BRACKETa|aRIGHT-POINTINGc|HEAVY LEFT-POINTINGaQUOTATIONuORNAMENT
    aRIGHT-POINTINGd|aLEFT-POINTINGaBRACKET ORNAMENT|aRIGHT-POINTINGc
    LIGHTnTORTOISE SHELL BRACKET ORNAMENT|ajd|MEDIUMnCURLY BRACKET ORNAMENT|ajc"),
  (0x2776, "DINGBAT NEGATIVE CIRCLED ", "DIGITx|ay|ap|aFOUR|aFIVE|aSIX|aSEVEN|aEIGHT|aNINE
    NUMBER TEN"),
  (0x2780, "DINGBAT CIRCLED SANS-SERIF ", "DIGITx|ay|ap|aFOUR|aFIVE|aSIX|aSEVEN|aEIGHT|aNINE
    NUMBER TEN"),
  (0x278a, "DINGBAT NEGATIVE CIRCLED SANS-SERIF DIGIT ", "x|y|p|FOUR|FIVE|SIX|SEVEN|EIGHT|NINE"),
  (0x2793, "", "DINGBAT NEGATIVE CIRCLED SANS-SERIF NUMBER TEN|HEAVY WIDE-HEADEDko|aPLUSi|aMINUSi
    aDIVISIONi|aSOUTH EASTo|ako|aNORTH EASTo|DRAFTING POINTko|HEAVY ROUND-TIPPEDb|TRIANGLE-HEADEDko
    HEAVY TRIANGLE-HEADEDko|DASHEDc|HEAVY DASHED TRIANGLE-HEADEDko|wko|THREE-D TOP-LIGHTEDkARROWHEAD
    aBOTTOM-LIGHTEDb|wkARROWHEAD|HEAVYwCURVEDzANDko|cUPWARDSc|SQUATwko|HEAVY CONCAVE-POINTEDwko
    RIGHT-SHADED WHITEko|LEFT-SHADEDc|BACK-TILTED SHADOWED WHITEko|FRONT-TILTEDd
    HEAVY LOWER RIGHT-SHADOWED WHITEko|aUPPERd|NOTCHED LOWERd|CURLY LOOP
    NOTCHED UPPER RIGHT-SHADOWED WHITEko|CIRCLED HEAVY WHITEko|WHITE-FEATHEREDko"),
  (0x27b4, "BLACK-FEATHERED ", "SOUTH EASTo|ko|NORTH EASTo"),
  (0x27b7, "HEAVY BLACK-FEATHERED ", "SOUTH EASTo|ko|NORTH EASTo"),
  (0x27ba, "", "TEARDROP-BARBEDko|HEAVY TEARDROP-SHANKEDko|WEDGE-TAILEDko|HEAVY WEDGE-TAILEDko
    OPEN-OUTLINEDko|lCURLY LOOP|pDIMENSIONAL ANGLE|WHITE TRIANGLE CONTAININGgWHITE TRIANGLE
    PERPENDICULAR|OPEN SUBSET|aSUPERSET|nS-SHAPED BAG DELIMITER|jc|ORhDOT INSIDE
    REVERSE SOLIDUS PRECEDING SUBSET|SUPERSET PRECEDING SOLIDUS|vBARhHORIZONTAL STROKE
    MATHEMATICAL RISING DIAGONAL|LONG DIVISION|MATHEMATICAL FALLING DIAGONAL|SQUARED LOGICAL AND|bOR
    WHITE DIAMONDhCENTRED DOT|ANDhDOT|ELEMENT OF OPENING UPWARDS|LOWERjCORNERhDOT|UPPERnc
    nOUTER JOIN|jb|FULLb|LARGE UP TACK|aDOWNa|nANDjlTURNSTILE|cTACK|nMULTIMAP|LONGjTACK|ana
    UP TACKhCIRCLEm|LOZENGE DIVIDED BY HORIZONTAL RULE"),
  (0x27e1, "WHITE CONCAVE-SIDED ", "DIAMOND|ahqTICK|bka"),
  (0x27e4, "WHITE SQUARE WITH ", "qTICK|ka"),
  (0x27e6, "MATHEMATICAL ", "nWHITE SQUARE BRACKET|jc|nANGLE BRACKET|jb|nlANGLE BRACKET|jc
    nWHITE TORTOISE SHELL BRACKET|jd|nFLATTENED PARENTHESIS|jb"),
  (0x27f0, "", "UPWARDS QUADRUPLEo|zb|ANTICLOCKWISE GAPPED CIRCLEo|CLOCKWISEc|johCIRCLED PLUS|LONGqo
    ako|anjo|aqlo|akb|anjlo|aqoFROM BAR|akc|aqloFROM BAR|akd|bSQUIGGLEo|BRAILLE PATTERN BLANK"),
  (0x2801, "BRAILLE PATTERN DOTS-", "1|2|12|3|13|23|123|4|14|24|124|34|134|234|1234|5|15|25|125|35
    135|235|1235|45|145|245|1245|345|1345|2345|12345|6|16|26|126|36|136|236|1236|46|146|246|1246|346
    1346|2346|12346|56|156|256|1256|356|1356|2356|12356|456|1456|2456|12456|3456|13456|23456|123456
    7|17|27|127|37|137|237|1237|47|147|247|1247|347|1347|2347|12347|57|157|257|1257|357|1357|2357
    12357|457|1457|2457|12457|3457|13457|23457|123457|67|167|267|1267|367|1367|2367|12367|467|1467
    2467|12467|3467|13467|23467|123467|567|1567|2567|12567|3567|13567|23567|123567|4567|14567|24567
    124567|34567|134567|234567|1234567|8|18|28|128|38|138|238|1238|48|148|248|1248|348|1348|2348
    12348|58|158|258|1258|358|1358|2358|12358|458|1458|2458|12458|3458|13458|23458|123458|68|168|268
    1268|368|1368|2368|12368|468|1468|2468|12468|3468|13468|23468|123468|568|1568|2568|12568|3568
    13568|23568|123568|4568|14568|24568|124568|34568|134568|234568|1234568|78|178|278|1278|378|1378
    2378|12378|478|1478|2478|12478|3478|13478|23478|123478|578|1578|2578|12578|3578|13578|23578
    123578|4578|14578|24578|124578|34578|134578|234578|1234578|678|1678|2678|12678|3678|13678|23678
    123678|4678|14678|24678|124678|34678|134678|234678|1234678|5678|15678|25678|125678|35678|135678
    235678|1235678|45678|145678|245678|1245678|345678|1345678|2345678|12345678"),
  (0x2900, "RIGHTWARDS TWO-HEADED ARROW WITH ", "vSTROKE|lvSTROKE"),
  (0x2902, "", "qlohvSTROKE|kld|njlohvSTROKE|kTWO-HEADEDoFROM BAR|qlc|kd|zohHORIZONTAL STROKE
    UPWARDSd|aTRIPLEo|zb|qlDASHo|kc|qTRIPLEb|kc|kTWO-HEADED TRIPLE DASHo|kohDOTTED STEM
    UPWARDSoTO BAR|zc"),
  (0x2914, "RIGHTWARDS ARROW WITH TAIL WITH ", "vSTROKE|lvSTROKE"),
  (0x2916, "RIGHTWARDS TWO-HEADED ARROW WITH ", "TAIL|ahvSTROKE|blvSTROKE"),
  (0x2919, "", "qARROW-TAIL|ka|qlARROW-TAIL|kb|qoTOwDIAMOND|kd|qoFROM BAR TOwDIAMOND|kbd
    NORTH WEST AND SOUTH EASTo|aEASTbWESTo|aWESTohHOOK|aEASTc|SOUTHd|aWESTc|NORTHbAND NORTH EASTo
    aEASTbSOUTHb|SOUTHdWESTo|aWESTbNORTHb|RISING DIAGONAL CROSSING FALLING DIAGONAL|FALLINGbRISINGa
    SOUTH EASToCROSSING NORTH EASTo|NORTHcSOUTHb|FALLING DIAGONAL CROSSING NORTH EASTo|RISINGbSOUTHb
    NORTH EASToCROSSING NORTH WESTo|aWESTcEASTo|WAVEoPOINTING DIRECTLYj"),
  (0x2934, "ARROW POINTING RIGHTWARDS THEN CURVING ", "UPWARDS|z"),
  (0x2936, "ARROW POINTING DOWNWARDS THEN CURVING ", "q|k"),
  (0x2938, "", "RIGHT-SIDE ARC CLOCKWISEo|LEFT-SIDEaANTICLOCKWISEo|TOPc|BOTTOMc|TOPaCLOCKWISEohMINUS
    bANTICLOCKWISEbPLUS|LOWERjSEMICIRCULAR CLOCKWISEo|anaANTICLOCKWISEo|ANTICLOCKWISE CLOSED CIRCLEo
    CLOCKWISEc|komSHORTqo|qcko|SHORTkomqo|kohPLUSt|qd|koTHROUGH X|njoTHROUGHgCIRCLE
    UPWARDS TWO-HEADEDoFROMb|nBARB UPjBARB DOWN HARPOON|bDOWNbUPa|UPajDOWNana|bnbja|naUPjaUPa
    UPajDOWNaja|naDOWNjaDOWNa|UPanDOWNana|qHARPOONhBARB UP TO BAR|kbd|UPWARDScjb|zbd|qcDOWNb|kbd
    UPWARDScnb|zbd|qcUP FROMa|kbd|UPWARDScjb"),
  (0x295d, "", "zHARPOONhBARBjFROM BAR|qcDOWNb|kbd|UPWARDScnb|zbd|qcUPmqHARPOONhBARB DOWN
    UPWARDScnBESIDE UPWARDScj|kcUPmkcDOWN|zcnBESIDEzcj|qcUPmkcUP|dDOWNmdDOWN|kcUPmqcUP|dDOWNmdDOWN
    qcUPmLONG DASH|dDOWNtb|kcUPmb|dDOWNtb|UPWARDScnBESIDEzHARPOONhBARBj|zadUPWARDSd|jlohROUNDED HEAD
    EQUALSimko|TILDE OPERATORc|qomTILDE OPERATOR|kd|cALMOST EQUAL TO|LESS-THANmqo
    qoTHROUGH LESS-THAN|GREATER-THANmko|SUBSETc|qoTHROUGH SUBSET|SUPERSETmqo|nFISH TAIL|jb|UPb|DOWNb
    TRIPLEvBAR DELIMITER|Z NOTATION SPOT|bTYPE COLON|nWHITE CURLY BRACKET|jc|naPARENTHESIS|jb"),
  (0x2987, "Z NOTATION ", "nIMAGE BRACKET|jb|nBINDINGa|jb"),
  (0x298b, "", "nSQUARE BRACKEThUNDERBAR|jd|ncTICK IN TOP CORNER|jadBOTTOMa|ncd|jadTOPa|nANGLEbDOT
    jd|nARC LESS-THAN BRACKET|jaGREATER-THANa|lnARC GREATER-THAN BRACKET|ljaLESS-THANa
    nwTORTOISE SHELLa|jd|DOTTED FENCE|vZIGZAG LINE|MEASURED ANGLE OPENINGn|jaVARIANThSQUARE
    MEASUREDjANGLEhDOT|ANGLEhS INSIDE|ACUTE ANGLE|SPHERICALaOPENINGn|cUP|TURNEDa|REVERSEDa
    ANGLEhUNDERBAR|REVERSED ANGLEhUNDERBAR|OBLIQUEaOPENING UP|cDOWN"),
  (0x29a8, "MEASURED ANGLE WITH OPEN ARM ENDING IN ARROW POINTING ", "UP ANDj|bn|DOWNaj|bn|jaUP|nb
    jaDOWN|nb"),
  (0x29b0, "", "REVERSED EMPTY SET|EMPTY SEThOVERBAR|cgCIRCLEm|cjom|cnb|CIRCLEhHORIZONTAL BAR
    CIRCLEDvBAR|aPARALLEL|aREVERSE SOLIDUS|aPERPENDICULAR
    CIRCLE DIVIDED BY HORIZONTAL BAR AND TOP HALF DIVIDED BYvBAR|ahSUPERIMPOSED X
    CIRCLED ANTICLOCKWISE-ROTATED DIVISIONi|UPoTHROUGH CIRCLE|CIRCLED WHITE BULLET|aBULLET
    aLESS-THAN|aGREATER-THAN|CIRCLEhgCIRCLE TO THEj|byHORIZONTAL STROKES TO THEj"),
  (0x29c4, "SQUARED ", "RISING DIAGONAL SLASH|FALLINGb|ASTERISK|gCIRCLE|SQUARE"),
  (0x29c9, "", "yJOINED SQUARES|TRIANGLEhDOTm|bUNDERBAR|S IN TRIANGLE|TRIANGLEhSERIFS AT BOTTOM
    jTRIANGLEmnTRIANGLE|naBESIDEvBAR|vBARajTRIANGLE|BOWTIEhnHALFw|bjb|wBOWTIE|TIMEShnHALFw|bjb
    WHITE HOURGLASS|wa|nWIGGLY FENCE|jb|nlWIGGLY FENCE|jc|INCOMPLETE INFINITY|TIE OVER INFINITY
    INFINITY NEGATEDhvBAR|DOUBLE-ENDED MULTIMAP|SQUAREhCONTOURED OUTLINE|INCREASES AS
    SHUFFLE PRODUCT|EQUALSiAND SLANTED PARALLEL|adhTILDEm|IDENTICAL TOc|GLEICH STARK|THERMODYNAMIC
    DOWN-POINTING TRIANGLEhnHALFw|cjb|wDIAMONDhDOWNo|wLOZENGE|WHITE CIRCLEhDOWNo|wd"),
  (0x29ee, "ERROR-BARRED ", "WHITE SQUARE|wa|WHITE DIAMOND|wa|WHITE CIRCLE|wa"),
  (0x29f4, "", "RULE-DELAYED|REVERSE SOLIDUS OPERATOR|SOLIDUShOVERBAR
    REVERSE SOLIDUShHORIZONTAL STROKE|BIGa|aREVERSE SOLIDUS|lPLUS|TRIPLEa
    LEFT-POINTING CURVED ANGLE BRACKET|RIGHT-POINTINGc|TINY|MINY|N-ARY CIRCLED DOT OPERATOR|bPLUSa
    bTIMESa|aUNION OPERATORhDOT|dPLUS|aSQUARE INTERSECTION OPERATOR|bUNIONa|yLOGICAL ANDa|bORa
    N-ARY TIMES OPERATOR|MODULOySUM|SUMMATIONhINTEGRAL|QUADRUPLE INTEGRAL OPERATOR
    FINITE PART INTEGRAL|INTEGRALhlSTROKE|aAVERAGEhSLASH|CIRCULATION FUNCTION
    ANTICLOCKWISE INTEGRATION|LINEahRECTANGULAR PATH AROUND POLE|cSEMICIRCULARc
    bNOT INCLUDING THE POLE|INTEGRAL AROUND A POINT OPERATOR|QUATERNION INTEGRAL OPERATOR"),
  (0x2a17, "INTEGRAL WITH ", "qohHOOK|TIMESi|INTERSECTION|UNION|OVERBAR|UNDERBAR"),
  (0x2a1d, "", "JOIN|LARGEnTRIANGLE OPERATOR"),
  (0x2a1f, "Z NOTATION SCHEMA ", "COMPOSITION|PIPING|PROJECTION"),
  (0x2a22, "PLUS SIGN WITH ", "gCIRCLEm|CIRCUMFLEX ACCENTm|TILDEm|DOTt|TILDEt|SUBSCRIPTy
    wTRIANGLE"),
  (0x2a29, "MINUS SIGN WITH ", "COMMAm|DOTt|FALLING DOTS|RISINGa"),
  (0x2a2d, "", "PLUSiINnHALF CIRCLE|cjb|VECTOR OR CROSS PRODUCT|MULTIPLICATIONihDOTm|cUNDERBAR
    SEMIDIRECT PRODUCThBOTTOM CLOSED|SMASHa|MULTIPLICATIONiINnHALF CIRCLE|cjb
    CIRCLED MULTIPLICATIONihCIRCUMFLEX ACCENT|MULTIPLICATIONiINlCIRCLE|CIRCLED DIVISIONi
    PLUSiIN TRIANGLE|MINUSc|MULTIPLICATIONc|INTERIOR PRODUCT|RIGHTHAND INTERIOR PRODUCT
    Z NOTATION RELATIONAL COMPOSITION|AMALGAMATION OR COPRODUCT|INTERSECTIONhDOT|UNIONhMINUSi
    bOVERBAR|INTERSECTIONb|bLOGICAL AND|UNIONbOR|amINTERSECTION|INTERSECTIONmUNION
    UNIONmBARmINTERSECTION|INTERSECTIONcUNION|UNION BESIDE AND JOINEDhUNION
    INTERSECTIONdINTERSECTION|CLOSED UNIONhSERIFS|aINTERSECTIONb|lSQUARE INTERSECTION|bUNION
    CLOSED UNIONhSERIFS AND SMASH PRODUCT|LOGICAL ANDhDOTm|aORc|lLOGICAL AND|bOR
    yINTERSECTING LOGICAL AND|cOR"),
  (0x2a57, "SLOPING LARGE ", "OR|AND"),
  (0x2a59, "LOGICAL ", "OR OVERLAPPING LOGICAL AND|ANDhMIDDLE STEM|ORc|ANDhHORIZONTAL DASH|ORc
    ANDhlOVERBAR|bUNDERBAR|blUNDERBAR"),
  (0x2a61, "", "gVEEhUNDERBAR|LOGICAL ORhlOVERBAR|dUNDERBAR|Z NOTATION DOMAIN ANTIRESTRICTION
    bRANGEa|EQUALSihDOTt|IDENTICALhDOTm|TRIPLE HORIZONTAL BARhlvSTROKE|dTRIPLEb
    TILDE OPERATORhDOTm"),
  (0x2a6b, "", "TILDE OPERATORhRISING DOTS|SIMILAR MINUS SIMILAR|CONGRUENThDOTm|EQUALShASTERISK
    ALMOST EQUAL TOhCIRCUMFLEX ACCENT|APPROXIMATELYaOR EQUAL TO|EQUALSimPLUSi|PLUSbEQUALSi
    EQUALSbTILDE OPERATOR|lCOLON EQUAL|yCONSECUTIVE EQUALS SIGNS|pc|EQUALSihyDOTSmANDyDOTSt
    EQUIVALENThFOUR DOTSm|LESS-THANhCIRCLE INSIDE|GREATER-THANc|LESS-THANhQUESTIONum|GREATER-THANd
    LESS-THAN OR SLANTED EQUAL TO|GREATER-THANd|LESS-THANdhDOT INSIDE|GREATER-THANcd|LESS-THANbdm
    GREATER-THANcd|LESS-THANcdj|GREATER-THANcdn|LESS-THANaAPPROXIMATE|GREATER-THANb
    LESS-THAN AND SINGLE-LINE NOT EQUAL TO|GREATER-THANad|LESS-THANaNOT APPROXIMATE|GREATER-THANc
    LESS-THANmDOUBLE-LINE EQUALmGREATER-THAN|GREATER-THANdLESS-THAN|LESS-THANmSIMILAR OR EQUAL
    GREATER-THANd|LESS-THANbmGREATER-THAN|GREATER-THANcLESS-THAN
    LESS-THANmGREATER-THANmDOUBLE-LINE EQUAL|GREATER-THANmLESS-THANc
    LESS-THANmSLANTED EQUALmGREATER-THANmSLANTED EQUAL|GREATER-THANdLESS-THANc"),
  (0x2a95, "SLANTED EQUAL TO OR ", "LESS-THAN|GREATER-THAN|LESS-THANhDOT INSIDE|GREATER-THANc"),
  (0x2a99, "DOUBLE-LINE ", "EQUAL TO OR LESS-THAN|cGREATER-THAN|SLANTED EQUAL TO OR LESS-THAN
    dGREATER-THAN"),
  (0x2a9d, "SIMILAR ", "OR LESS-THAN|aGREATER-THAN|mLESS-THANmEQUALSi|mGREATER-THANc"),
  (0x2aa1, "DOUBLE NESTED ", "LESS-THAN|GREATER-THAN|LESS-THANhUNDERBAR"),
  (0x2aa4, "", "GREATER-THAN OVERLAPPING LESS-THAN|aBESIDEa|LESS-THAN CLOSED BY CURVE|GREATER-THANc
    LESS-THANcmSLANTED EQUAL|GREATER-THANbd|SMALLER THAN|LARGERa|SMALLERaOR EQUAL TO|LARGERd
    EQUALSihBUMPYm|PRECEDESmSINGLE-LINE EQUALSi|SUCCEEDSd|PRECEDESbNOT EQUAL TO|SUCCEEDSmd
    PRECEDESmEQUALSi|SUCCEEDSc|PRECEDESmNOT EQUAL TO|SUCCEEDSd|PRECEDESmALMOSTb|SUCCEEDSd
    PRECEDESmNOT ALMOST EQUAL TO|SUCCEEDSmd|lPRECEDES|lSUCCEEDS|SUBSEThDOT|SUPERSETb|SUBSEThPLUSit
    SUPERSETd|SUBSEThMULTIPLICATIONb|SUPERSETd|SUBSET OF OR EQUAL TOhDOTm|SUPERSETcd|SUBSETamEQUALSi
    SUPERSETd|SUBSETbTILDE OPERATOR|SUPERSETd|SUBSETbALMOST EQUAL TO"),
  (0x2aca, "", "SUPERSET OFmALMOST EQUAL TO|SUBSETbNOTb|SUPERSETad|SQUAREnOPEN BOX OPERATOR|ajc
    CLOSED SUBSET|aSUPERSET|aSUBSET OR EQUAL TO|aSUPERSETc|SUBSETmSUPERSET|SUPERSETmSUBSET|SUBSETb
    SUPERSETmSUPERSET|aBESIDE SUBSET|bAND JOINED BY DASHhSUBSET|ELEMENT OF OPENINGz
    PITCHFORKhTEE TOP|TRANSVERSAL INTERSECTION|FORKING|NONFORKING|SHORTnTACK|aDOWNa|aUPa
    PERPENDICULARhS|vBAR TRIPLEjTURNSTILE|lvBARna|vBARlb|lvBARlnTURNSTILE|LONG DASH FROMnMEMBER OFlv
    SHORT DOWN TACKhOVERBAR|aUPbUNDERBAR|cmSHORT DOWN TACK|lDOWNa|lUPa|lSTROKE NOTi
    REVERSEDlSTROKE NOTi|DOES NOT DIVIDEhREVERSED NEGATION SLASH|vLINEhCIRCLEm|dt|DOWN TACKc
    PARALLELhHORIZONTAL STROKE|bTILDE OPERATOR"),
  (0x2af4, "TRIPLE ", "vBAR BINARY RELATION|bhHORIZONTAL STROKE|COLON OPERATOR|NESTED LESS-THAN
    aGREATER-THAN"),
  (0x2af9, "", "DOUBLE-LINE SLANTED LESS-THAN OR EQUAL TO|bGREATER-THANc
    TRIPLE SOLIDUS BINARY RELATION|LARGE TRIPLEvBAR OPERATOR|lSOLIDUS OPERATOR|WHITEvBAR
    N-ARY WHITEvBAR|NORTH EAST WHITEo|aWESTb|SOUTH EASTb|aWESTb|njb|qwo|UPWARDSb|zb|NORTH EASTwo
    aWESTb|SOUTH EASTb|aWESTb|njb|UP DOWNb|kohTIPz|dUPWARDS|qcz|dUPWARDS"),
  (0x2b12, "SQUARE WITH ", "TOP HALFw|BOTTOMb|UPPERjDIAGONAL HALFw|LOWERnc"),
  (0x2b16, "DIAMOND WITH ", "nHALFw|jb|TOPb|BOTTOMb"),
  (0x2b1a, "", "DOTTED SQUARE|wLARGE SQUARE|WHITEb|wVERYgSQUARE|WHITEc|wPENTAGON|WHITEa|aHEXAGON|wa
    HORIZONTALwHEXAGON|wLARGE CIRCLE|wMEDIUM DIAMOND|WHITEb|waLOZENGE|WHITEb|wgDIAMOND|bLOZENGE
    WHITEb|wHORIZONTAL ELLIPSE|WHITEb|wva|WHITEb|nohgCIRCLE|pqARROWS|nohCIRCLED PLUS
    LONGqSQUIGGLEo"),
  (0x2b34, "LEFTWARDS TWO-HEADED ", "ohvSTROKE|blvSTROKE|oFROM BAR|TRIPLE DASHo"),
  (0x2b38, "LEFTWARDS ARROW WITH ", "DOTTED STEM|TAILhvSTROKE|blvSTROKE"),
  (0x2b3b, "LEFTWARDS TWO-HEADED ARROW WITH ", "TAIL|ahvSTROKE|blvSTROKE"),
  (0x2b3e, "", "qoTHROUGH X|WAVEoPOINTING DIRECTLYn|EQUALSimqo|REVERSE TILDE OPERATORmqo
    qomREVERSE ALMOST EQUAL TO|koTHROUGH GREATER-THAN|cSUPERSET|qQUADRUPLEo|kb
    REVERSE TILDE OPERATORmko|komREVERSE ALMOST EQUAL TO|TILDE OPERATORmqo|qomALMOST EQUAL TO
    cREVERSE TILDE OPERATOR|kod|zTRIANGLE-HEADED ZIGZAGo|SHORT SLANTED NORTHo|aBACKSLANTED SOUTHo
    WHITE MEDIUM STAR|wga|WHITEb|wRIGHT-POINTING PENTAGON|WHITEb|HEAVY LARGE CIRCLE
    aOVALhOVAL INSIDE|aCIRCLEhCIRCLEa|b|aCIRCLED SALTIRE|SLANTED NORTHohHOOKED HEAD
    BACKSLANTED SOUTHcTAIL|SLANTED NORTHbHORIZONTALa|BACKSLANTED SOUTHd
    BENToPOINTINGzTHEN NORTH EAST|SHORT BENToPOINTINGzTHEN NORTH EAST|qTRIANGLE-HEADEDo|UPWARDSb"),
  (0x2b62, "", "kTRIANGLE-HEADEDo|zb|njTRIANGLE-HEADEDo|UP DOWNb|NORTH WESTb|aEASTb|SOUTHc|aWESTb
    qTRIANGLE-HEADED DASHEDo|UPWARDSc|kc|zc|CLOCKWISEaOPEN CIRCLEo|ANTICLOCKWISEd|qaoTO BAR|UPWARDSd
    kd|zd|||NORTH WEST TRIANGLE-HEADEDoTO BAR|aEASTd|SOUTHad|aWESTd
    qTRIANGLE-HEADEDohlHORIZONTAL STROKE|UPWARDSbd|kbd|zbd|HORIZONTAL TAB KEY|vb
    qTRIANGLE-HEADEDoOVERkTRIANGLE-HEADEDo|UPWARDSbqOFzTRIANGLE-HEADEDo|kbOVERqTRIANGLE-HEADEDo
    zbqOF UPWARDS TRIANGLE-HEADEDo|qaPAIRED ARROWS|UPWARDSc|kc|zc|qwCIRCLED WHITEo|UPWARDSd|kd|zd"),
  (0x2b8c, "ANTICLOCKWISE TRIANGLE-HEADED ", "jU-SHAPEDo|BOTTOMb|nb|TOPb"),
  (0x2b90, "", "RETURNn|aj|NEWLINEn|aj|FOUR CORNER ARROWS CIRCLING ANTICLOCKWISE
    kwo||SYMBOL FOR TYPE A ELECTRONICS|THREE-D TOP-LIGHTEDqEQUILATERAL ARROWHEAD
    aRIGHT-LIGHTED UPWARDSb|aTOP-LIGHTEDkb|aLEFT-LIGHTEDzb|wqEQUILATERAL ARROWHEAD|wUPWARDSb|wkb
    wzb"),
  (0x2ba0, "DOWNWARDS TRIANGLE-HEADED ARROW WITH LONG TIP ", "q|k"),
  (0x2ba2, "UPWARDS TRIANGLE-HEADED ARROW WITH LONG TIP ", "q|k"),
  (0x2ba4, "", "qTRIANGLE-HEADEDohLONG TIP UPWARDS|kbd|qadz|kbd"),
  (0x2ba8, "BLACK CURVED ", "zANDqo|bko|UPWARDSaqo|bko|qaUPWARDSo|kc|qazo|kc"),
  (0x2bb0, "RIBBON ARROW ", "DOWNn|aj|UPn|aj|nUP|ja|nDOWN|ja"),
  (0x2bb8, "", "UPWARDS WHITEoFROM BARhHORIZONTAL BAR|UP ARROWHEAD IN A RECTANGLE BOX
    OVERLAPPING WHITE SQUARES|bANDwSQUARES|awSQUARES|BALLOT BOXhLIGHT X|CIRCLED X|aBOLD X
    wSQUARE CENTRED|wDIAMONDa|TURNEDwPENTAGON|HORIZONTALwOCTAGON|wOCTAGON"),
  (0x2bc5, "BLACK MEDIUM ", "UP-POINTING TRIANGLE CENTRED|DOWN-POINTINGb|LEFT-POINTINGb
    RIGHT-POINTINGb"),
  (0x2bc9, "", "NEPTUNE FORMy|TOP HALFwCIRCLE|BOTTOMc|LIGHT FOUR POINTEDwCUSP
    ROTATED LIGHT FOUR POINTEDwCUSP|WHITE FOUR POINTED CUSP|ROTATED WHITE FOUR POINTED CUSP
    SQUARE POSITION INDICATOR|UNCERTAINTYi|GROUPu|PLUTO FORMy|bp|bFOUR|bFIVE|TRANSPLUTO|PROSERPINA
    ASTRAEA|HYGIEA|PHOLUS|NESSUS|WHITE MOON SELENA|wDIAMOND ON CROSS|TRUE LIGHT MOON ARTA|CUPIDO
    HADES|ZEUS|KRONOS|APOLLON|ADMETOS|VULCANUS|POSEIDON|nHALFwSTAR|jc|STARhnHALFw|bjb
    qTWO-HEADEDohTRIANGLE ARROWHEADS|UPWARDSad|kad|zad|ERIS FORMx|by|SEDNA"),
  (0x2bf3, "RUSSIAN ASTROLOGICAL SYMBOL ", "VIGINTILE|NOVILE|QUINTILE|BINOVILE|SENTAGON|TREDECILE"),
  (0x2bf9, "", "EQUALSihINFINITYt|UNITED SYMBOL|SEPARATEDa|DOUBLEDa|PASSEDa|REVERSEDjANGLE
    HELLSCHREIBER PAUSE SYMBOL")]

/-- Rows of notation. -/
def notationNames : List (Nat × String × String) := [
  (0x1b000, "", "KATAKANAeARCHAIC E|HIRAGANAbYE"),
  (0x1b002, "HENTAIGANA LETTER ", "A-1..3|A-WO|I-1..4|U-1..5|E-2..6|O-1..3|KA-1..11|KA-KE|KI-1..8
    KU-1..7|KE-1..6|KO-1..3|KO-KI|SA-1..8|SI-1..6|SU-1..8|SE-1..5|SO-1..7|TA-1..4|TI-1..7|TU-1..4
    TU-TO|TE-1..9|TO-1..6|TO-RA|NA-1..9|NI-1..7|NI-TE|NU-1..3|NE-1..6|NE-KO|NO-1..5|HA-1..11|HI-1..7
    HU-1..3|HE-1..7|HO-1..8|MA-1..7|MI-1..7|MU-1..4|ME-1|ME-2|ME-MA|MO-1..6|YA-1..5|YA-YO|YU-1..4
    YO-1..6|RA-1..4|RI-1..7|RU-1..6|RE-1..4|RO-1..6|WA-1..5|WI-1..5|WE-1..4|WO-1..7|N-MU-MO-1
    N-MU-MO-2"),
  (0x1b11f, "", "HIRAGANAeARCHAIC WU"),
  (0x1b120, "KATAKANA LETTER ARCHAIC ", "YI|YE|WU"),
  (0x1b150, "HIRAGANA LETTER SMALL ", "WI|WE|WO"),
  (0x1b164, "KATAKANA LETTER SMALL ", "WI|WE|WO|N"),
  (0x1bc00, "DUPLOYAN LETTER ", "H|X|P|T|F|K|L|B|D|V|G|R|P N|D S|F N|K M|R S|TH|SLOAN DH|DH|KK
    SLOAN J|HL|LH|RH|M|N|J|S|M N|N M|Ja|S J|MhDOT|Nb|Jb|bDOTS INSIDE ANDm|ShDOT|ct|M S|Na|Ja|Sa
    M N S|N Ma|Jb|S Ja|J ShDOT|aN|bS|S T|bR|aP|bR|T S|aR S|W|WH|W R|S N|aM|K R S|Gb|S K|bR|A
    SLOAN OW|OA|O|AOU|I|E|IE|SHORT I|UI|EE|SLOAN EH|ROMANIAN I|SLOAN EE|LONG I|YE|U|EU|XW|U N|LONG U
    ROMANIANa|UH|SLOAN U|OOH|OW|OU|WA|WO|WI|WEI|WOW|NASAL U|aO|aI|aA|PERNIN AN|aAM|SLOAN EN|aAN|aON
    VOCALIC M"),
  (0x1bc70, "DUPLOYAN AFFIX ", "nHORIZONTAL SECANT|MIDb|jb|LOWva|MIDb|HIGHb"),
  (0x1bc76, "DUPLOYAN AFFIX ATTACHED ", "SECANT|LEFT-TO-RIGHT SECANT|TANGENT|TAIL|E HOOK|Ia
    TANGENTa"),
  (0x1bc80, "DUPLOYAN AFFIX HIGH ", "ACUTE|TIGHT ACUTE|GRAVE|LONG GRAVE|DOT|CIRCLE|LINE|WAVE|v"),
  (0x1bc90, "DUPLOYAN AFFIX LOW ", "ACUTE|TIGHT ACUTE|GRAVE|LONG GRAVE|DOT|CIRCLE|LINE|WAVE|v|o"),
  (0x1bc9c, "DUPLOYAN ", "iOhCROSS|THICKeSELECTOR|lu|PUNCTUATION CHINOOK FULL STOP"),
  (0x1bca0, "SHORTHAND FORMAT ", "eOVERLAP|CONTINUINGa|DOWN STEP|UPa"),
  (0x1cf00, "ZNAMENNY COMBINING MARK ", "GORAZDO NIZKO S KRYZHEM ONn|NIZKO S KRYZHEM ONn|TSATA ONn
    GORAZDO NIZKO ONn|NIZKO ONn|SREDNEb|MALO POVYSHE ONn|POVYSHE ONn|VYSOKOb
    MALO POVYSHE S KHOKHLOM ONn|POVYSHE S KHOKHLOM ONn|VYSOKOd|GORAZDO NIZKO S KRYZHEM ONj
    NIZKO S KRYZHEM ONj|TSATA ONj|GORAZDO NIZKO ONj|NIZKO ONj|SREDNEb|MALO POVYSHE ONj|POVYSHE ONj
    VYSOKOb|MALO POVYSHE S KHOKHLOM ONj|POVYSHE S KHOKHLOM ONj|VYSOKOd|TSATAaKRYZHEM
    MALO POVYSHE S KRYZHEM|STRANNO MALO POVYSHE|POVYSHE S KRYZHEM|aSTRANNO|VYSOKO S KRYZHEM
    MALO POVYSHE STRANNO|GORAZDO VYSOKO|ZELO|ON|RAVNO|TIKHAYA|BORZAYA|UDARKA|PODVERTKA|LOMKA|KUPNAYA
    KACHKA|ZEVOK|SKOBA|RAZSEKA|KRYZH ONn"),
  (0x1cf30, "ZNAMENNY COMBINING ", "TONAL RANGEuMRACHNO|cSVETLO|cTRESVETLO|uZADERZHKA
    uDEMESTVENNY ZADERZHKA|uOTSECHKA|uPODCHASHIE|bhvSTROKE|uCHASHKA|bPOLNAYA|uOBLACHKO
    uSOROCHYA NOZHKA|uTOCHKA|uDVOETOCHIE|ATTACHINGvOMET|uCURVEDa|uKRYZH
    LOWER TONAL RANGE INDICATOR"),
  (0x1cf42, "ZNAMENNY PRIZNAK MODIFIER ", "LEVEL-2|LEVEL-3|DIRECTION FLIP|KRYZH|ROG"),
  (0x1cf50, "ZNAMENNY NEUME ", "KRYUK|aTIKHY|PARAKLIT|DVA V CHELNU|KLYUCH|ZANOZHEK|STOPITSA
    aS OCHKOM|PEREVODKA|aNEPOSTOYANNAYA|STOPITSAhSOROCHYA NOZHKA|CHELYUSTKA|PALKA|ZAPYATAYA
    GOLUBCHIK BORZY|aTIKHY|aMRACHNY|aSVETLY|aTRESVETLY|VRAKHIYA PROSTAYA|aMRACHNAYA|aSVETLAYA
    aTRESVETLAYA|aKLYUCHEVAYA PROSTAYA|bMRACHNAYA|bSVETLAYA|bTRESVETLAYA|lZAPYATAYA
    REVERSED CHELYUSTKA|DERBITSA|KHAMILO|CHASHKA|PODCHASHIE|SKAMEYTSA MRACHNAYA|aSVETLAYA
    aTRESVETLAYA|aTIKHAYA|DEMESTVENNY KLYUCH|SKAMEYTSA KLYUCHEVAYA SVETLAYA|aKLYUCHENEPOSTOYANNAYA
    aKLYUCHEVAYA TIKHAYA|aDVOECHELNAYA PROSTAYA|bSVETLAYA|bNEPOSTOYANNAYA|bKLYUCHEVAYA|SLOZHITIE
    aS ZAPYATOY|aZAKRYTOE|aS KRYZHEM|KRYZH|ROG|FITA|KOBYLA|ZMEYTSA|STATYA|aS ZAPYATOY|bKRYZHEM
    bZAPYATOY I KRYZHEM|bKRYZHEMaZAPYATOY|aZAKRYTAYA|bS ZAPYATOY|aS ROGOM|bDVUMYA ZAPYATYMI
    bZAPYATOY I PODCHASHIEM|POLKULIZMY|STATYA NEPOSTOYANNAYA"),
  (0x1cf92, "ZNAMENNY NEUME STRELA ", "PROSTAYA|MRACHNOTIKHAYA|KRYZHEVAYA|POLUPOVODNAYA|POVODNAYA
    NEPOSTOYANNAYA|KLYUCHEPOVODNAYA|KLYUCHENEPOSTOYANNAYA|TIKHAYA PUTNAYA|DVOECHELNAYA
    DVOECHELNOKRYZHEVAYA|DVOECHELNOPOVODNAYA|DVOECHELNAYA KLYUCHEVAYA|DVOECHELNOPOVODNAYAa
    GROMNAYAhSINGLE ZAPYATAYA|GROMOPOVODNAYAc|GROMNAYA|GROMOPOVODNAYA|ahlZAPYATAYA|GROMOKRYZHEVAYA
    aPOVODNAYA"),
  (0x1cfa7, "ZNAMENNY NEUME ", "MECHIK|aPOVODNY|aKLYUCHEVOY|aKLYUCHEPOVODNY|aKLYUCHENEPOSTOYANNY
    STRELA TRYASOGLASNAYA|aTRYASOPOVODNAYA|aTRYASOSTRELNAYA|OSOKA|aSVETLAYA|aTRESVETLAYA
    aKRYUKOVAYA SVETLAYA|aKLYUCHEVAYAa|bNEPOSTOYANNAYA|STRELA KRYUKOVAYA"),
  (0x1cfb6, "ZNAMENNY NEUME STRELA KRYUKOVAYA ", "POVODNAYA|GROMNAYAhSINGLE ZAPYATAYA
    GROMOPOVODNAYAc|GROMNAYA|GROMOPOVODNAYA|ahlZAPYATAYA|GROMOKRYZHEVAYA|aPOVODNAYA|TRYASKA"),
  (0x1cfbf, "ZNAMENNY NEUME ", "KUFISMA|OBLAKO|DUDA|NEMKA|PAUK"),
  (0x1d000, "BYZANTINE MUSICAL SYMBOL ", "PSILI|DASEIA|PERISPOMENI|OXEIA EKFONITIKON|aDIPLI
    VAREIA EKFONITIKON|aDIPLI|KATHISTI|SYRMATIKI|PARAKLITIKI|YPOKRISIS|aDIPLI|KREMASTI
    APESO EKFONITIKON|EXOa|TELEIA|KENTIMATA|APOSTROFOS|aDIPLI|SYNEVMA|THITA|OLIGON ARCHAION|GORGONa
    PSILON|CHAMILON|VATHY|ISON ARCHAION|KENTIMAa|KENTIMATAa|SAXIMATA|PARICHON|STAVROS APODEXIA
    OXEIAI ARCHAION|VAREIAIa|APODERMAa|APOTHEMA|KLASMA|REVMA|PIASMA ARCHAION|TINAGMA|ANATRICHISMA
    SEISMA|SYNAGMA ARCHAION|aMETA STAVROU|OYRANISMA ARCHAION|THEMA|LEMOI|DYO|TRIA|TESSERA|KRATIMATA
    APESO EXO NEO|FTHORA ARCHAION|IMIFTHORA|TROMIKON ARCHAION|KATAVA TROMIKON|PELASTON|PSIFISTON
    KONTEVMA|CHOREVMA ARCHAION|RAPISMA|PARAKALESMA ARCHAION|PARAKLITIKIa|ICHADIN|NANA|PETASMA
    KONTEVMA ALLO|TROMIKONa|STRAGGISMATA|GRONTHISMATA|ISON NEO|OLIGONa|OXEIAa|PETASTI|KOUFISMA
    PETASTOKOUFISMA|KRATIMOKOUFISMA|PELASTON NEO|KENTIMATAaANO|KENTIMAb|YPSILI|APOSTROFOS NEO
    APOSTROFOI SYNDESMOS NEO|YPORROI|KRATIMOYPORROON|ELAFRON|CHAMILI|MIKRON ISON|VAREIA NEO|PIASMAa
    PSIFISTONa|OMALON|ANTIKENOMA|LYGISMA|PARAKLITIKI NEO|PARAKALESMAa|ETERON PARAKALESMA|KYLISMA
    ANTIKENOKYLISMA|TROMIKON NEO|EKSTREPTON|SYNAGMA NEO|SYRMA|CHOREVMA NEO|EPEGERMA|SEISMA NEO
    XIRON KLASMA|TROMIKOPSIFISTON|PSIFISTOLYGISMA|TROMIKOLYGISMA|TROMIKOPARAKALESMA
    PSIFISTOPARAKALESMA|TROMIKOSYNAGMA|PSIFISTOSYNAGMA|GORGOSYNTHETON|ARGOSYNTHETON
    ETERON ARGOSYNTHETON|OYRANISMA NEO|THEMATISMOS ESO|aEXO|THEMA APLOUN|THES KAI APOTHES|KATAVASMA
    ENDOFONON|YFEN KATO|aANO|STAVROS|KLASMA ANO|DIPLI ARCHAION|KRATIMAa|aALLO|aNEO|APODERMAa|APLI
    DIPLI|TRIPLI|TETRAPLI|KORONIS|LEIMMA ENOS CHRONOU|aDYO CHRONON|aTRIONa|aTESSARONa
    aIMISEOS CHRONOU|GORGON NEO ANO|aPARESTIGMENON ARISTERA|bDEXIA|DIGORGON
    aPARESTIGMENON ARISTERA KATO|cANO|bDEXIA|TRIGORGON|ARGON|IMIDIARGON|DIARGON|AGOGI POLI ARGI
    aARGOTERI|aARGI|aMETRIA|aMESI|aGORGI|aGORGOTERI|aPOLI GORGI|MARTYRIA PROTOS ICHOS
    aALLI PROTOS ICHOS|aDEYTEROS ICHOS|aALLI DEYTEROS ICHOS|aTRITOS ICHOS|aTRIFONIAS|aTETARTOS ICHOS
    bLEGETOS ICHOS|aLEGETOS ICHOS|aPLAGIOSa|ISAKIA TELOUS ICHIMATOS|APOSTROFOIb
    FANEROSIS TETRAFONIAS|aMONOFONIAS|aDIFONIAS|MARTYRIA VARYS ICHOS|aPROTOVARYSa
    aPLAGIOS TETARTOS ICHOS|GORTHMIKON N APLOUN|bDIPLOUN|ENARXIS KAI FTHORA VOU|IMIFONON|IMIFTHORON
    FTHORA ARCHAION DEYTEROU ICHOU|aDIATONIKI PA|bNANA|aNAOS ICHOS|aDIATONIKI DI
    aSKLIRON DIATONON DI|aDIATONIKI KE|bZO|bNI KATO|cANO|aMALAKON CHROMA DIFONIAS|cMONOFONIAS
    FHTORA SKLIRONaVASIS|FTHORAbSYNAFI|aNENANO|CHROA ZYGOS|aKLITON|aSPATHI
    FTHORA I YFESIS TETARTIMORION|aENARMONIOS ANTIFONIA|YFESIS TRITIMORION|DIESISa|aTETARTIMORION
    aAPLI DYO DODEKATA|aMONOGRAMMOS TESSERAa|aDIGRAMMOS EXa|aTRIGRAMMOS OKTOa|YFESIS APLI DYOa
    aMONOGRAMMOS TESSERAa|aDIGRAMMOS EXa|aTRIGRAMMOS OKTOa|GENIKI DIESIS|aYFESIS|DIASTOLI APLI MIKRI
    bMEGALI|aDIPLI|aTHESEOS|SIMANSISa|bDISIMOU|bTRISIMOU|bTETRASIMOU|aARSEOS|bDISIMOU|bTRISIMOU
    bTETRASIMOU|DIGRAMMA GG|DIFTOGGOS OU|STIGMA|ARKTIKO PA|aVOU|aGA|aDI|aKE|aZO|aNI
    KENTIMATA NEO MESO|KENTIMAb|KENTIMATAaKATO|KENTIMAb|KLASMA KATO|GORGON NEO KATO"),
  (0x1d100, "MUSICAL SYMBOL ", "SINGLE BARLINE|la|sa|REVERSEsBARLINE|DASHED BARLINE|SHORTa|nREPEATi
    jb|REPEAT DOTS|DAL SEGNO|DA CAPO|SEGNO|CODA|REPEATED FIGURE-1..3|FERMATA|at|BREATHu|CAESURA
    BRACE|BRACKET|ONE-LINE STAFF|TWO-LINEa|THREE-LINEa|FOUR-LINEa|FIVE-LINEa|SIX-LINEa
    SIX-STRING FRETBOARD|FOUR-STRINGa|G CLEF|bOTTAVA ALTA|cBASSA|Ca|Fa|bOTTAVA ALTA|cBASSA
    DRUM CLEF-1|aCLEF-2|||MULTIPLE MEASURE REST|lSHARP|lFLAT|FLAT UP|aDOWN|NATURAL UP|aDOWN|SHARP UP
    aDOWN|QUARTER TONE SHARP|bFLAT|COMMON TIME|CUTa|OTTAVA ALTA|aBASSA|QUINDICESIMA ALTA|aBASSA
    MULTI REST|WHOLEa|HALFa|QUARTERa|EIGHTHa|SIXTEENTHa|THIRTY-SECONDa|SIXTY-FOURTHa
    xHUNDRED TWENTY-EIGHTH REST|X NOTEHEAD|PLUSa|CIRCLE X NOTEHEAD|SQUARE NOTEHEAD WHITE|bw"),
  (0x1d148, "MUSICAL SYMBOL TRIANGLE NOTEHEAD ", "UP WHITE|aw|nWHITE|nw|jWHITE|jw|DOWN WHITE|aw
    UPjWHITE|bw"),
  (0x1d152, "MUSICAL SYMBOL ", "MOON NOTEHEAD WHITE|bw|TRIANGLE-ROUNDaDOWN WHITE|cw|PARENTHESISa
    VOIDa|NOTEHEADw|NULL NOTEHEAD|CLUSTERaWHITE|bw|BREVE|WHOLE NOTE|HALFa|QUARTERa|EIGHTHa
    SIXTEENTHa|THIRTY-SECONDa|SIXTY-FOURTHa|xHUNDRED TWENTY-EIGHTH NOTE|COMBINING STEM
    aSPRECHGESANG STEM|aTREMOLO-1..3|FINGEREDa..3|COMBINING AUGMENTATION DOT|aFLAG-1..5|BEGIN BEAM
    ENDa|BEGIN TIE|ENDa|BEGIN SLUR|ENDa|BEGIN PHRASE|ENDa|COMBINING ACCENT|aSTACCATO|aTENUTO
    aSTACCATISSIMO|aMARCATO|aMARCATO-STACCATO|aACCENT-STACCATO|aLOURE|ARPEGGIATO UP|aDOWN
    COMBINING DOIT|aRIP|aFLIP|aSMEAR|aBEND|alTONGUE|aTRIPLEa|RINFORZANDO|SUBITO|Z|PIANO|MEZZO|FORTE
    CRESCENDO|DECRESCENDO|GRACE NOTE SLASH|bNO SLASH|TR|TURN|INVERTED TURN|TURN SLASH|aUP"),
  (0x1d19b, "MUSICAL SYMBOL ORNAMENT STROKE-", "1..11"),
  (0x1d1a6, "MUSICAL SYMBOL ", "HAUPTSTIMME|NEBENSTIMME|END OF STIMME|DEGREE SLASH
    COMBINING DOWN BOW|aUPa|aHARMONIC|aSNAP PIZZICATO|PEDALu|aUPu|HALF PEDALu|GLISSANDO UP|aDOWN
    hFINGERNAILS|DAMP|aALL|MAXIMA|LONGA|BREVIS|SEMIBREVIS WHITE|aw|MINIMA|aw|SEMIMINIMA WHITE|aw
    FUSA WHITE|aw|LONGA PERFECTA REST|aIMPERFECTAa|BREVIS REST|SEMIBREVISa|MINIMAa|SEMIMINIMAa"),
  (0x1d1c7, "MUSICAL SYMBOL TEMPUS PERFECTUM CUM PROLATIONE ", "PERFECTA|IMPERFECTA
    PERFECTA DIMINUTION-1"),
  (0x1d1ca, "MUSICAL SYMBOL TEMPUS IMPERFECTUM CUM PROLATIONE ", "PERFECTA|IMPERFECTA
    aDIMINUTION-1..3"),
  (0x1d1cf, "MUSICAL SYMBOL ", "CROIX|GREGORIAN C CLEF|aFa|SQUARE B|VIRGA|PODATUS|CLIVIS|SCANDICUS
    CLIMACUS|TORCULUS|PORRECTUS|aFLEXUS|SCANDICUSa|TORCULUS RESUPINUS|PES SUBPUNCTIS|KIEVAN C CLEF
    aEND OF PIECE|asNOTE|aRECITATIVEu|aWHOLE NOTE|aHALFa|aQUARTERaSTEM DOWN|dUP|aEIGHTHbDOWN|dUP
    aFLATi|SORI|KORON"),
  (0x1d200, "GREEK VOCAL NOTATION SYMBOL-", "1..24|50..54"),
  (0x1d21d, "GREEK INSTRUMENTAL NOTATION SYMBOL-", "1|2|4|5|7|8|11..14|17..19|23..27|29|30|32|36..40
    42|43|45|47..54"),
  (0x1d242, "COMBINING GREEK MUSICAL ", "TRISEME|TETRASEME|PENTASEME"),
  (0x1d245, "", "GREEK MUSICAL LEIMMA"),
  (0x1d2e0, "MAYAN NUMERAL ", "ZERO|x|y|p|FOUR|FIVE|SIX|SEVEN|EIGHT|NINE|TEN|ELEVEN|TWELVE|THIRTEEN
    FOURTEEN|FIFTEEN|SIXTEEN|SEVENTEEN|EIGHTEEN|NINETEEN"),
  (0x1d300, "", "MONOGRAM FOR EARTH"),
  (0x1d301, "DIGRAM FOR ", "HEAVENLY EARTH|HUMANa|EARTHLY HEAVEN|aHUMAN|EARTH"),
  (0x1d306, "TETRAGRAM FOR ", "CENTRE|FULL CIRCLE|MIRED|BARRIER|KEEPINGg|CONTRARIETY|ASCENT
    OPPOSITION|BRANCHING OUT|DEFECTIVENESS OR DISTORTION|DIVERGENCE|YOUTHFULNESS|INCREASE
    PENETRATION|REACH|CONTACT|HOLDING BACK|WAITING|FOLLOWING|ADVANCE|RELEASE|RESISTANCE|EASE|JOY
    CONTENTION|ENDEAVOUR|DUTIES|CHANGE|DECISIVENESS|BOLD RESOLUTION|PACKING|LEGION|CLOSENESS|KINSHIP
    GATHERING|STRENGTH|PURITY|FULLNESS|RESIDENCE|LAW OR MODEL|RESPONSE|GOING TO MEET|ENCOUNTERS
    STOVE|GREATNESS|ENLARGEMENT|PATTERN|RITUAL|FLIGHT|VASTNESS OR WASTING|CONSTANCY|MEASURE|ETERNITY
    UNITY|DIMINISHMENT|CLOSED MOUTH|GUARDEDNESS|GATHERING IN|MASSING|ACCUMULATION|EMBELLISHMENT
    DOUBT|WATCH|SINKING|INNER|DEPARTURE|DARKENING|DIMMING|EXHAUSTION|SEVERANCE|STOPPAGE|HARDNESS
    COMPLETION|CLOSURE|FAILURE|AGGRAVATION|COMPLIANCE|ON THE VERGE|DIFFICULTIES|LABOURING
    FOSTERING"),
  (0x1d360, "COUNTING ROD UNIT DIGIT ", "x|y|p|FOUR|FIVE|SIX|SEVEN|EIGHT|NINE"),
  (0x1d369, "COUNTING ROD TENS DIGIT ", "x|y|p|FOUR|FIVE|SIX|SEVEN|EIGHT|NINE"),
  (0x1d372, "IDEOGRAPHIC TALLY MARK ", "x|y|p|FOUR|FIVE"),
  (0x1d377, "TALLY MARK ", "x|FIVE"),
  (0x1d400, "MATHEMATICAL BOLD CAPITAL ", "A..Z"),
  (0x1d41a, "MATHEMATICAL BOLD SMALL ", "A..Z"),
  (0x1d434, "MATHEMATICAL ITALIC CAPITAL ", "A..Z"),
  (0x1d44e, "MATHEMATICAL ITALIC SMALL ", "A..G||I..Z"),
  (0x1d468, "MATHEMATICAL BOLD ITALIC CAPITAL ", "A..Z"),
  (0x1d482, "MATHEMATICAL BOLD ITALIC SMALL ", "A..Z"),
  (0x1d49c, "MATHEMATICAL SCRIPT CAPITAL ", "A||C|D|||G|||J|K|||N..Q||S..Z"),
  (0x1d4b6, "MATHEMATICAL SCRIPT SMALL ", "A..D||F||H..N||P..Z"),
  (0x1d4d0, "MATHEMATICAL BOLD SCRIPT CAPITAL ", "A..Z"),
  (0x1d4ea, "MATHEMATICAL BOLD SCRIPT SMALL ", "A..Z"),
  (0x1d504, "MATHEMATICAL FRAKTUR CAPITAL ", "A|B||D..G|||J..Q||S..Y"),
  (0x1d51e, "MATHEMATICAL FRAKTUR SMALL ", "A..Z"),
  (0x1d538, "MATHEMATICAL DOUBLE-STRUCK CAPITAL ", "A|B||D..G||I..M||O||||S..Y"),
  (0x1d552, "MATHEMATICAL DOUBLE-STRUCK SMALL ", "A..Z"),
  (0x1d56c, "MATHEMATICAL BOLD FRAKTUR CAPITAL ", "A..Z"),
  (0x1d586, "MATHEMATICAL BOLD FRAKTUR SMALL ", "A..Z"),
  (0x1d5a0, "MATHEMATICAL SANS-SERIF CAPITAL ", "A..Z"),
  (0x1d5ba, "MATHEMATICAL SANS-SERIF SMALL ", "A..Z"),
  (0x1d5d4, "MATHEMATICAL SANS-SERIF BOLD CAPITAL ", "A..Z"),
  (0x1d5ee, "MATHEMATICAL SANS-SERIF BOLD SMALL ", "A..Z"),
  (0x1d608, "MATHEMATICAL SANS-SERIF ITALIC CAPITAL ", "A..Z"),
  (0x1d622, "MATHEMATICAL SANS-SERIF ITALIC SMALL ", "A..Z"),
  (0x1d63c, "MATHEMATICAL SANS-SERIF BOLD ITALIC CAPITAL ", "A..Z"),
  (0x1d656, "MATHEMATICAL SANS-SERIF BOLD ITALIC SMALL ", "A..Z"),
  (0x1d670, "MATHEMATICAL MONOSPACE CAPITAL ", "A..Z"),
  (0x1d68a, "MATHEMATICAL MONOSPACE SMALL ", "A..Z"),
  (0x1d6a4, "MATHEMATICAL ITALIC SMALL DOTLESS ", "I|J"),
  (0x1d6a8, "MATHEMATICAL BOLD CAPITAL ", "ALPHA|BETA|GAMMA|DELTA|EPSILON|ZETA|ETA|THETA|IOTA|KAPPA
    LAMDA|MU|NU|XI|OMICRON|PI|RHO|THETA SYMBOL|SIGMA|TAU|UPSILON|PHI|CHI|PSI|OMEGA"),
  (0x1d6c1, "", "MATHEMATICAL BOLD NABLA"),
  (0x1d6c2, "MATHEMATICAL BOLD SMALL ", "ALPHA|BETA|GAMMA|DELTA|EPSILON|ZETA|ETA|THETA|IOTA|KAPPA
    LAMDA|MU|NU|XI|OMICRON|PI|RHO|sSIGMA|SIGMA|TAU|UPSILON|PHI|CHI|PSI|OMEGA"),
  (0x1d6db, "MATHEMATICAL BOLD ", "PARTIAL DIFFERENTIAL|EPSILON SYMBOL|THETAa|KAPPAa|PHIa|RHOa
    PIa"),
  (0x1d6e2, "MATHEMATICAL ITALIC CAPITAL ", "ALPHA|BETA|GAMMA|DELTA|EPSILON|ZETA|ETA|THETA|IOTA
    KAPPA|LAMDA|MU|NU|XI|OMICRON|PI|RHO|THETA SYMBOL|SIGMA|TAU|UPSILON|PHI|CHI|PSI|OMEGA"),
  (0x1d6fb, "", "MATHEMATICAL ITALIC NABLA"),
  (0x1d6fc, "MATHEMATICAL ITALIC SMALL ", "ALPHA|BETA|GAMMA|DELTA|EPSILON|ZETA|ETA|THETA|IOTA|KAPPA
    LAMDA|MU|NU|XI|OMICRON|PI|RHO|sSIGMA|SIGMA|TAU|UPSILON|PHI|CHI|PSI|OMEGA"),
  (0x1d715, "MATHEMATICAL ITALIC ", "PARTIAL DIFFERENTIAL|EPSILON SYMBOL|THETAa|KAPPAa|PHIa|RHOa
    PIa"),
  (0x1d71c, "MATHEMATICAL BOLD ITALIC CAPITAL ", "ALPHA|BETA|GAMMA|DELTA|EPSILON|ZETA|ETA|THETA|IOTA
    KAPPA|LAMDA|MU|NU|XI|OMICRON|PI|RHO|THETA SYMBOL|SIGMA|TAU|UPSILON|PHI|CHI|PSI|OMEGA"),
  (0x1d735, "", "MATHEMATICAL BOLD ITALIC NABLA"),
  (0x1d736, "MATHEMATICAL BOLD ITALIC SMALL ", "ALPHA|BETA|GAMMA|DELTA|EPSILON|ZETA|ETA|THETA|IOTA
    KAPPA|LAMDA|MU|NU|XI|OMICRON|PI|RHO|sSIGMA|SIGMA|TAU|UPSILON|PHI|CHI|PSI|OMEGA"),
  (0x1d74f, "MATHEMATICAL BOLD ITALIC ", "PARTIAL DIFFERENTIAL|EPSILON SYMBOL|THETAa|KAPPAa|PHIa
    RHOa|PIa"),
  (0x1d756, "MATHEMATICAL SANS-SERIF BOLD CAPITAL ", "ALPHA|BETA|GAMMA|DELTA|EPSILON|ZETA|ETA|THETA
    IOTA|KAPPA|LAMDA|MU|NU|XI|OMICRON|PI|RHO|THETA SYMBOL|SIGMA|TAU|UPSILON|PHI|CHI|PSI|OMEGA"),
  (0x1d76f, "", "MATHEMATICAL SANS-SERIF BOLD NABLA"),
  (0x1d770, "MATHEMATICAL SANS-SERIF BOLD SMALL ", "ALPHA|BETA|GAMMA|DELTA|EPSILON|ZETA|ETA|THETA
    IOTA|KAPPA|LAMDA|MU|NU|XI|OMICRON|PI|RHO|sSIGMA|SIGMA|TAU|UPSILON|PHI|CHI|PSI|OMEGA"),
  (0x1d789, "MATHEMATICAL SANS-SERIF BOLD ", "PARTIAL DIFFERENTIAL|EPSILON SYMBOL|THETAa|KAPPAa|PHIa
    RHOa|PIa"),
  (0x1d790, "MATHEMATICAL SANS-SERIF BOLD ITALIC CAPITAL ", "ALPHA|BETA|GAMMA|DELTA|EPSILON|ZETA|ETA
    THETA|IOTA|KAPPA|LAMDA|MU|NU|XI|OMICRON|PI|RHO|THETA SYMBOL|SIGMA|TAU|UPSILON|PHI|CHI|PSI
    OMEGA"),
  (0x1d7a9, "", "MATHEMATICAL SANS-SERIF BOLD ITALIC NABLA"),
  (0x1d7aa, "MATHEMATICAL SANS-SERIF BOLD ITALIC SMALL ", "ALPHA|BETA|GAMMA|DELTA|EPSILON|ZETA|ETA
    THETA|IOTA|KAPPA|LAMDA|MU|NU|XI|OMICRON|PI|RHO|sSIGMA|SIGMA|TAU|UPSILON|PHI|CHI|PSI|OMEGA"),
  (0x1d7c3, "MATHEMATICAL SANS-SERIF BOLD ITALIC ", "PARTIAL DIFFERENTIAL|EPSILON SYMBOL|THETAa
    KAPPAa|PHIa|RHOa|PIa"),
  (0x1d7ca, "MATHEMATICAL BOLD ", "fDIGAMMA|ga"),
  (0x1d7ce, "MATHEMATICAL BOLD DIGIT ", "ZERO|x|y|p|FOUR|FIVE|SIX|SEVEN|EIGHT|NINE"),
  (0x1d7d8, "MATHEMATICAL DOUBLE-STRUCK DIGIT ", "ZERO|x|y|p|FOUR|FIVE|SIX|SEVEN|EIGHT|NINE"),
  (0x1d7e2, "MATHEMATICAL SANS-SERIF DIGIT ", "ZERO|x|y|p|FOUR|FIVE|SIX|SEVEN|EIGHT|NINE"),
  (0x1d7ec, "MATHEMATICAL SANS-SERIF BOLD DIGIT ", "ZERO|x|y|p|FOUR|FIVE|SIX|SEVEN|EIGHT|NINE"),
  (0x1d7f6, "MATHEMATICAL MONOSPACE DIGIT ", "ZERO|x|y|p|FOUR|FIVE|SIX|SEVEN|EIGHT|NINE"),
  (0x1d800, "SIGNWRITING HAND-", "FIST INDEX|CIRCLEa|CUPa|OVALa|HINGEa|ANGLEa|FISTaBENT|CIRCLEb
    FIST THUMB UNDER INDEX BENT|aINDEX RAISED KNUCKLE|bCUPPED|bHINGED|cLOW|CIRCLEaHINGE|FISTaMIDDLE
    CIRCLEb"),
  (0x1d810, "SIGNWRITING HAND-FIST INDEX ", "MIDDLE BENT|aRAISED KNUCKLES|aHINGED|UP MIDDLE HINGED
    HINGEDaUP|MIDDLE CONJOINED|bINDEX BENT|bMIDDLEa|bCUPPED|bHINGED|aCROSSED"),
  (0x1d81b, "SIGNWRITING HAND-", "CIRCLE INDEX MIDDLE CROSSED|FIST MIDDLE BENT OVER INDEX
    aINDEXbMIDDLE|bMIDDLE THUMB|CIRCLEc"),
  (0x1d820, "SIGNWRITING HAND-FIST INDEX ", "MIDDLE STRAIGHT THUMB BENT|aBENTaSTRAIGHT|aTHUMB BENT
    aHINGED SPREAD THUMB SIDE|UP MIDDLE HINGEDb|dCONJOINED|HINGEDaUPaSIDE|MIDDLE UP SPREADaFORWARD
    aTHUMB CUPPED|bCIRCLED|bHOOKED|bHINGED"),
  (0x1d82c, "SIGNWRITING HAND-FIST ", "THUMB BETWEEN INDEX MIDDLE STRAIGHT
    INDEX MIDDLE CONJOINED THUMB SIDE|adCONJOINED|adBENT|MIDDLE THUMB HOOKED INDEX UP|INDEXbMIDDLEa
    aMIDDLE CONJOINED HINGED THUMB SIDE|bCROSSED THUMB SIDE|bCONJOINEDaFORWARD|cCUPPED THUMB FORWARD
    MIDDLE THUMB CUPPED INDEX UP|INDEXbMIDDLEa|MIDDLEaCIRCLED INDEXa|dHINGED
    INDEXaANGLED OUT MIDDLE UP|cINb|bCIRCLED MIDDLE UP|aMIDDLE THUMB CONJOINED HINGED|cANGLED OUT|d
    MIDDLE THUMB ANGLED OUT INDEX UP|adCROSSED|cINDEX UP|INDEXaHOOKED MIDDLE HINGED"),
  (0x1d844, "SIGNWRITING HAND-", "FLAT FOUR FINGERS|cBENT|cHINGED|cCONJOINED|dSPLIT|CLAWc|FISTcBENT
    HINGEc|FLAT FIVEaSPREAD|aHEEL FIVE FINGERS SPREAD|aFIVE FINGERS SPREAD FOUR BENT
    aHEEL FIVE FINGERS SPREAD FOUR BENT|aFIVE FINGERS SPREAD BENT|aHEEL FIVE FINGERS SPREAD BENT
    aFIVE FINGERS SPREAD THUMB FORWARD|CUPc|dOPEN|HINGEd|OVALc|FLATcHINGED|adTHUMB SIDE|adNO THUMB|a
    aBETWEEN PALM FACINGS|aHEEL|aTHUMB SIDE|aHEEL THUMB SIDE|aTHUMB BENT|bFORWARD
    aSPLIT INDEX THUMB SIDE|bCENTRE|cTHUMB SIDE|adBENT|bLITTLE|CLAW|aTHUMB SIDE|aNO THUMB
    aTHUMB FORWARD|HOOK CURLICUE|a|CUP OPEN|a|aOPEN THUMB SIDE|aTHUMB SIDE|aOPEN NO THUMB|aNO THUMB
    aOPENaFORWARD|aTHUMB FORWARD|CURLICUE OPEN|a|CIRCLE|OVAL|aTHUMB SIDE|aNO THUMB|aTHUMB FORWARD
    HINGE OPEN|bTHUMB FORWARD|a|ag|aOPEN THUMB SIDE|aTHUMB SIDE|aOPEN NO THUMB|aNO THUMB
    aTHUMB SIDE TOUCHING INDEX|bBETWEEN MIDDLE RING|ANGLE|FIST INDEX MIDDLE RING|CIRCLEc|HINGEc
    ANGLEc|HINGE LITTLE|FIST INDEX MIDDLE RING BENT|dCONJOINED|HINGEd|FIST LITTLE DOWN
    cRIPPLE STRAIGHT|dCURVED|cOTHERS CIRCLED|bUP|aTHUMB UNDER LITTLE UP|CIRCLE LITTLE UP|OVALb
    ANGLEb|FISTaRAISED KNUCKLE|bBENT|bTOUCHES THUMB|bTHUMB|HINGEb|FISTaINDEX THUMB|HINGEc
    ANGLEcINDEX THUMB OUT|bd|FISTb|CIRCLEb|HINGEb|ANGLEb|FIST INDEX MIDDLE LITTLE|CIRCLEc|HINGEc
    aRING|ANGLE INDEX MIDDLE LITTLE|FISTbCROSS LITTLE|CIRCLEd|FIST RING DOWN
    HINGEbINDEX THUMB HOOK MIDDLE|ANGLEbMIDDLEaINDEX CROSS|FISTaUP|bRAISED KNUCKLE|bLITTLE|CIRCLEb
    OVALb|ANGLEb|FISTaMIDDLE|cCONJOINED|cRAISED KNUCKLES|bINDEX|bTHUMB|HOOKb|FIST INDEX RING LITTLE
    CIRCLEc|CURLICUEcON|HOOKcOUT|dIN|dUNDER|CUPc|HINGEc|ANGLEcOUT|d|FIST MIDDLE DOWN|HINGEa|FISTaUP
    CIRCLEb|FISTaRAISED KNUCKLE|bUP THUMB SIDE|HOOKaTHUMB|FISTbLITTLE|bLITTLE|bRING LITTLE|CIRCLEc
    CURLICUEcON|CUPc|HINGEc|ANGLEcOUT|dIN|d|CIRCLEcBENT|CLAWcCONJOINED|adSIDE|HOOKdOUT|adIN|ad
    HINGE INDEX HINGED|FISTaTHUMB SIDE|HINGEc"),
  (0x1d8de, "SIGNWRITING HAND-FIST INDEX THUMB ", "SIDE THUMB DIAGONAL|bCONJOINED|bBENT|aINDEXa
    aBOTHa|aINDEX HINGE|FORWARDaSTRAIGHT|bBENT|HOOK|CURLICUE|CURVE THUMB INSIDE"),
  (0x1d8e9, "SIGNWRITING HAND-", "CLAW INDEX THUMB CURVE THUMB INSIDE|FISTdUNDER|cCIRCLE|CUPb|cOPEN
    HINGEc|cLARGE|c|cg|ANGLEbOUT|cIN|c|FIST THUMB"),
  (0x1d8f6, "SIGNWRITING HAND-FIST THUMB ", "HEEL|SIDE DIAGONAL|aCONJOINED|aBENT|FORWARD
    BETWEEN INDEX MIDDLE|aMIDDLE RING|aRING LITTLE|UNDERyFINGERS|OVERb|UNDERpa|aFOURa
    OVERaRAISED KNUCKLES"),
  (0x1d903, "SIGNWRITING ", "HAND-FIST|aHEEL|TOUCH SINGLE|aMULTIPLE|aBETWEEN|GRASP SINGLE|aMULTIPLE
    aBETWEEN|STRIKE SINGLE|aMULTIPLE|aBETWEEN|BRUSH SINGLE|aMULTIPLE|aBETWEEN|RUB SINGLE|aMULTIPLE
    aBETWEEN|SURFACE SYMBOLS|aBETWEEN|SQUEEZE LARGE SINGLE|aga|aLARGE MULTIPLE|aga|aSEQUENTIAL
    FLICK LARGE SINGLE|aga|aLARGE MULTIPLE|aga|aSEQUENTIAL|SQUEEZE FLICK ALTERNATING"),
  (0x1d921, "SIGNWRITING MOVEMENT-", "HINGE UP DOWN LARGE|cg|bSEQUENTIAL|aDOWNa
    aUP DOWN ALTERNATING LARGE|dg|aSIDE TO SIDE SCISSORS|WALLPLANE FINGER CONTACT|FLOORPLANEb"),
  (0x1d92a, "SIGNWRITING MOVEMENT-WALLPLANE ", "SINGLE STRAIGHTg|bMEDIUM|bLARGE|bLARGEST|aWRIST FLEX
    lSTRAIGHT|lWRIST FLEX|lALTERNATING|bWRIST FLEX|CROSS|TRIPLE STRAIGHT MOVEMENT|aWRIST FLEX
    aALTERNATING|bWRIST FLEX|BENDg|aMEDIUM|aLARGE|CORNERg|aMEDIUM|aLARGE|aROTATION|CHECKg|aMEDIUM
    aLARGE|BOXg|aMEDIUM|aLARGE|ZIGZAGg|aMEDIUM|aLARGE|PEAKSg|aMEDIUM|aLARGE"),
  (0x1d94b, "SIGNWRITING TRAVEL-WALLPLANE ", "ROTATION-WALLPLANE SINGLE|al|aALTERNATING
    ROTATION-FLOORPLANE SINGLE|al|aALTERNATING|SHAKING|ARM SPIRAL SINGLE|bl|bTRIPLE"),
  (0x1d955, "SIGNWRITING MOVEMENT-DIAGONAL ", "AWAYg|aMEDIUM|aLARGE|aLARGEST|TOWARDSg|aMEDIUM|aLARGE
    aLARGEST|BETWEEN AWAYg|bMEDIUM|bLARGE|bLARGEST|aTOWARDSg|bMEDIUM|bLARGE|bLARGEST"),
  (0x1d965, "SIGNWRITING MOVEMENT-FLOORPLANE ", "SINGLE STRAIGHTg|bMEDIUM|bLARGE|bLARGEST
    aWRIST FLEX|lSTRAIGHT|lWRIST FLEX|lALTERNATING|bWRIST FLEX|CROSS|TRIPLE STRAIGHT MOVEMENT
    aWRIST FLEX|aALTERNATING MOVEMENT|bWRIST FLEX|BEND|CORNERg|aMEDIUM|aLARGE|CHECK|BOXg|aMEDIUM
    aLARGE|ZIGZAGg|aMEDIUM|aLARGE|PEAKSg|aMEDIUM|aLARGE"),
  (0x1d981, "SIGNWRITING TRAVEL-FLOORPLANE ", "ROTATION-FLOORPLANE SINGLE|al|aALTERNATING
    ROTATION-WALLPLANE SINGLE|al|aALTERNATING|SHAKING"),
  (0x1d988, "SIGNWRITING MOVEMENT-WALLPLANE ", "CURVE QUARTERg|bMEDIUM|bLARGE|bLARGEST|aHALF-CIRCLEg
    bMEDIUM|bLARGE|bLARGEST|aTHREE-QUARTER CIRCLEg|cMEDIUM|HUMPg|aMEDIUM|aLARGE|LOOPg|aMEDIUM|aLARGE
    agl|WAVE CURVElg|cMEDIUM|cLARGE|bTRIPLEg|cMEDIUM|cLARGE|CURVE THEN STRAIGHT|CURVED CROSSg
    bMEDIUM"),
  (0x1d9a2, "SIGNWRITING ROTATION-WALLPLANE ", "SINGLE|l|ALTERNATE"),
  (0x1d9a5, "SIGNWRITING MOVEMENT-WALLPLANE ", "SHAKING|CURVE HITTING FRONT WALL|HUMPc|LOOPc
    WAVEc"),
  (0x1d9aa, "SIGNWRITING ROTATION-WALLPLANE ", "SINGLE HITTING FRONT WALL|lc|ALTERNATINGc"),
  (0x1d9ad, "SIGNWRITING MOVEMENT-WALLPLANE ", "CURVE HITTING CHEST|HUMPb|LOOPb|WAVEb"),
  (0x1d9b1, "SIGNWRITING ROTATION-WALLPLANE ", "SINGLE HITTING CHEST|lb|ALTERNATINGb"),
  (0x1d9b4, "SIGNWRITING MOVEMENT-WALLPLANE WAVE DIAGONAL PATH ", "g|MEDIUM|LARGE"),
  (0x1d9b7, "SIGNWRITING MOVEMENT-FLOORPLANE ", "CURVE HITTING CEILINGg|cLARGE|HUMPbgl|cLARGEl
    cgTRIPLE|cLARGEa|LOOPbgSINGLE|cLARGEa|cgl|cLARGEl|WAVEbg|cLARGE"),
  (0x1d9c3, "SIGNWRITING ROTATION-FLOORPLANE ", "SINGLE HITTING CEILING|lb|ALTERNATINGb"),
  (0x1d9c6, "SIGNWRITING MOVEMENT-FLOORPLANE ", "CURVE HITTING FLOORg|cLARGE|HUMPbgl|cLARGEl
    cTRIPLEgTRIPLE|dLARGEa|LOOPbgSINGLE|cLARGEa|cgl|cLARGEl|WAVEbg|cLARGE"),
  (0x1d9d2, "SIGNWRITING ROTATION-FLOORPLANE ", "SINGLE HITTING FLOOR|lb|ALTERNATINGb"),
  (0x1d9d5, "SIGNWRITING MOVEMENT-FLOORPLANE ", "CURVEg|aMEDIUM|aLARGE|aLARGEST|aCOMBINED|HUMPg
    LOOPg|WAVE SNAKE|ag|aLARGE"),
  (0x1d9df, "SIGNWRITING ROTATION-FLOORPLANE ", "SINGLE|l|ALTERNATING"),
  (0x1d9e2, "", "SIGNWRITING MOVEMENT-FLOORPLANE SHAKING PARALLEL"),
  (0x1d9e3, "SIGNWRITING MOVEMENT-WALLPLANE ARM CIRCLE ", "gSINGLE|MEDIUMa|gl|MEDIUMl"),
  (0x1d9e7, "SIGNWRITING MOVEMENT-FLOORPLANE ARM CIRCLE HITTING WALL ", "gSINGLE|MEDIUMa|LARGEa|gl
    MEDIUMl|LARGEl"),
  (0x1d9ed, "SIGNWRITING MOVEMENT-", "WALLPLANE WRIST CIRCLE FRONT SINGLE|dl
    FLOORPLANEbHITTING WALL SINGLE|adl|WALLPLANE FINGER CIRCLES SINGLE|cl
    FLOORPLANEbHITTING WALL SINGLE|adl"),
  (0x1d9f5, "SIGNWRITING DYNAMIC ", "ARROWHEADg|aLARGE|FAST|SLOW|TENSE|RELAXED|SIMULTANEOUS
    aALTERNATING|EVERY OTHER TIME|GRADUAL"),
  (0x1d9ff, "SIGNWRITING ", "HEAD|aRIM|aMOVEMENT-WALLPLANE STRAIGHT|bTILT
    aMOVEMENT-FLOORPLANE STRAIGHT|aMOVEMENT-WALLPLANE CURVE|aMOVEMENT-FLOORPLANEa|aMOVEMENT CIRCLE
    FACE DIRECTION POSITION NOSE FORWARD TILTING|dUP OR DOWN|cdTILTING|EYEBROWS STRAIGHT UP|bNEUTRAL
    bDOWN|DREAMY EYEBROWS NEUTRAL DOWN|bDOWN NEUTRAL|bUPa|bNEUTRAL UP|FOREHEAD NEUTRAL|aCONTACT
    aWRINKLED|EYES OPEN|aSQUEEZED|aCLOSED|EYE BLINK SINGLE|bMULTIPLE|EYES HALF OPEN|aWIDEa
    aHALF CLOSED|aWIDENING MOVEMENT|EYE WINK|EYELASHES UP|aDOWN|aFLUTTERING
    EYEGAZE-WALLPLANE STRAIGHT|bl|bALTERNATING|EYEGAZE-FLOORPLANEa|bl|bALTERNATING
    EYEGAZE-WALLPLANE CURVED|EYEGAZE-FLOORPLANEa|EYEGAZE-WALLPLANE CIRCLING|CHEEKS PUFFED|aNEUTRAL
    aSUCKED|TENSE CHEEKS HIGH|bMIDDLE|bLOW|EARS|NOSE NEUTRAL|aCONTACT|aWRINKLES|aWIGGLES
    AIR BLOWING OUT|aSUCKING IN|aBLOWgROTATIONS|aSUCKb|BREATH INHALE|aEXHALE"),
  (0x1da3b, "SIGNWRITING MOUTH ", "CLOSED NEUTRAL|aFORWARD|aCONTACT|SMILE|aWRINKLED|aOPEN|FROWN
    aWRINKLED|aOPEN|OPEN CIRCLE|aFORWARD|aWRINKLED|aOVAL|bWRINKLED|bYAWN|aRECTANGLE|bWRINKLED|bYAWN
    KISS|aFORWARD|aWRINKLED|TENSE|aFORWARD|aSUCKED"),
  (0x1da53, "SIGNWRITING ", "LIPS PRESSED TOGETHER|LIP LOWER OVER UPPER|aUPPERaLOWER|MOUTH CORNERS
    aWRINKLES SINGLE|bl|TONGUE STICKING OUT FAR|aLICKING LIPS|aTIP BETWEEN LIPS
    bTOUCHING INSIDE MOUTH|aINSIDE MOUTH RELAXED|aMOVES AGAINST CHEEK|aCENTRE STICKING OUT
    bINSIDE MOUTH|TEETH|aMOVEMENT|aON TONGUE|cMOVEMENT|bLIPS|cMOVEMENT|aBITEa|MOVEMENT-WALLPLANE JAW
    MOVEMENT-FLOORPLANEa|NECK|HAIR|EXCITEMENT|SHOULDER HIP SPINE|bPOSITIONS
    WALLPLANE SHOULDER HIP MOVE|FLOORPLANEc|SHOULDER TILTING FROM WAIST
    TORSO-WALLPLANE STRAIGHT STRETCH|aCURVED BEND|TORSO-FLOORPLANE TWISTING
    UPPER BODY TILTING FROM HIP JOINTS|LIMB COMBINATION|aLENGTH-1..7|FINGER|LOCATION-WALLPLANE SPACE
    LOCATION-FLOORPLANEa|LOCATION HEIGHT|aWIDTH|aDEPTH|aHEAD NECK|aTORSO|aLIMBS DIGITS|COMMA
    FULL STOP|SEMICOLON|COLON|PARENTHESIS"),
  (0x1da9b, "SIGNWRITING FILL MODIFIER-", "2..6"),
  (0x1daa1, "SIGNWRITING ROTATION MODIFIER-", "2..16"),
  (0x1df00, "LATIN ", "geFENG DIGRAPHhTRILL|bREVERSED SCRIPT G|egfTURNEDa|geREVERSED K|egfLhBELT
    geLEZHhRETROFLEX HOOK|bTURNED YhBELT|bREVERSED ENG|bTURNED RhLONG LEG AND RETROFLEX HOOK
    bThHOOK AND RETROFLEX HOOK|eRETROFLEX CLICKhRETROFLEX HOOK|geESHhlBAR|bdAND CURL|bTURNED ThCURL
    eINVERTED GLOTTAL STOPb|eSTRETCHED ChCURL|egfTURNED K"),
  (0x1df11, "LATIN SMALL LETTER ", "LhFISHHOOK|DEZH DIGRAPHhPALATAL HOOK|LhBELT AND PALATAL HOOK
    ENGhPALATAL HOOK|TURNED RhPALATAL HOOK|RhFISHHOOK AND PALATAL HOOK|TESH DIGRAPHhPALATAL HOOK
    EZHhPALATAL HOOK|DEZH DIGRAPHhRETROFLEX HOOK|IhSTROKE AND RETROFLEX HOOK|OhRETROFLEX HOOK
    TESH DIGRAPHhRETROFLEX HOOK|ChRETROFLEX HOOK|ShCURL"),
  (0x1e000, "COMBINING GLAGOLITIC LETTER ", "AZU|BUKY|VEDE|GLAGOLI|DOBRO|YESTU|ZHIVETE||ZEMLJA|IZHE
    INITIAL IZHE|I|DJERVI|KAKO|LJUDIJE|MYSLITE|NASHI|ONU|POKOJI|RITSI|SLOVO|TVRIDO|UKU|FRITU
    HERU|||SHTA|TSI|CHRIVI|SHA|YERU|YERI|YATI||YU|gYUS||YO|IOTATEDgYUS|BIG YUS|IOTATED BIG YUS
    FITA"),
  (0x1e100, "NYIAKENG PUACHUE HMONG LETTER ", "MA|TSA|NTA|TA|HA|NA|XA|NKA|CA|LA|SA|ZA|NCA|NTSA|KA|DA
    NYA|NRA|VA|NTXA|TXA|FA|RA|QA|YA|NQA|PA|XYA|NPA|DLA|NPLA|HAH|MLA|PLA|GA|RRA|A|AA|I|U|O|OO|E|EE
    W"),
  (0x1e130, "NYIAKENG PUACHUE HMONG ", "TONE-B|TONE-M|TONE-J|TONE-V|TONE-S|TONE-G|TONE-D|iFOR PERSON
    bTHING|bLOCATION|bANIMAL|bINVERTEBRATE|iXW XW|SYLLABLE LENGTHENER|||DIGIT ZERO|ax|ay|ap|aFOUR
    aFIVE|aSIX|aSEVEN|aEIGHT|aNINE|||||LOGOGRAM NYAJ|CIRCLED CA"),
  (0x1e290, "TOTO LETTER ", "PA|BA|TA|DA|KA|GA|MA|NA|NGA|SA|CHA|YA|WA|JA|HA|RA|LA|I|BREATHY I|IU
    BREATHY IU|U|E|BREATHY E|EO|BREATHY EO|O|AE|BREATHY AE|A"),
  (0x1e2ae, "", "TOTOiRISING TONE"),
  (0x1e2c0, "WANCHO LETTER ", "AA|A|BA|CA|DA|GA|YA|PHA|LA|NA|PA|TA|THA|FA|SA|SHA|JA|ZA|WA|VA|KA|O|AU
    RA|MA|KHA|HA|E|I|NGA|U|LLHA|TSA|TRA|ONG|AANG|ANG|ING|ON|EN|AAN|NYA|UEN|YIH"),
  (0x1e2ec, "WANCHO TONE ", "TUP|TUPNI|KOI|KOINI"),
  (0x1e2f0, "WANCHO DIGIT ", "ZERO|x|y|p|FOUR|FIVE|SIX|SEVEN|EIGHT|NINE"),
  (0x1e2ff, "", "WANCHO NGUNi"),
  (0x1e7e0, "ETHIOPIC SYLLABLE ", "HHYA|HHYU|HHYI|HHYAA|HHYEE|HHYE|HHYO||GURAGE HHWA|HHWI|HHWEE
    HHWE"),
  (0x1e7ed, "ETHIOPIC SYLLABLE GURAGE ", "MWI|MWEE||QWI|QWEE|QWE|BWI|BWEE|KWI|KWEE|KWE|GWI|GWEE|GWE
    FWI|FWEE|PWI|PWEE"),
  (0x1e800, "MENDE KIKAKUI SYLLABLE ", "M001 KI|M002 KA|M003 KU|M065 KEE|M095 KE|M076 KOO|M048 KO
    M179 KUA|M004 WI|M005 WA|M006 WU|M126 WEE|M118 WE|M114 WOO|M045 WO|M194 WUI|M143 WEI|M061 WVI
    M049 WVA|M139 WVE|M007 MIN|M008 MAN|M009 MUN|M059 MEN|M094 MON|M154 MUAN|M189 MUEN|M010 BI
    M011 BA|M012 BU|M150 BEE|M097 BE|M103 BOO|M138 BO|M013 I|M014 A|M015 U|M163 EE|M100 E|M165 OO
    M147 O|M137 EI|M131 IN|M135a|M195 AN|M178 EN|M019 SI|M020 SA|M021 SU|M162 SEE|M116 SE|M136 SOO
    M079 SO|M196 SIA|M025 LI|M026 LA|M027 LU|M084 LEE|M073 LE|M054 LOO|M153 LO|M110 LONG LE|M016 DI
    M017 DA|M018 DU|M089 DEE|M180 DOO|M181 DO|M022 TI|M023 TA|M024 TU|M091 TEE|M055 TE|M104 TOO
    M069 TO|M028 JI|M029 JA|M030 JU|M157 JEE|M113 JE|M160 JOO|M063 JO|M175 LONG JO|M031 YI|M032 YA
    M033 YU|M109 YEE|M080 YE|M141 YOO|M121 YO|M034 FI|M035 FA|M036 FU|M078 FEE|M075 FE|M133 FOO
    M088 FO|M197 FUA|M101 FAN|M037 NIN|M038 NAN|M039 NUN|M117 NEN|M169 NON|M176 HI|M041 HA|M186 HU
    M040 HEE|M096 HE|M042 HOO|M140 HO|M083 HEEI|M128 HOOU|M053 HIN|M130 HAN|M087 HUN|M052 HEN
    M193 HON|M046 HUAN|M090 NGGI|M043 NGGA|M082 NGGU|M115 NGGEE|M146 NGGE|M156 NGGOO|M120 NGGO
    M159 NGGAA|M127 NGGUA|M086 LONG NGGE|M106aNGGOO|M183aNGGO|M155 GI|M111 GA|M168 GU|M190 GEE
    M166 GUEI|M167 GUAN|M184 NGEN|M057 NGON|M177 NGUAN|M068 PI|M099 PA|M050 PU|M081 PEE|M051 PE
    M102 POO|M066 PO|M145 MBI|M062 MBA|M122 MBU|M047 MBEE|M188a|M072 MBE|M172 MBOO|M174 MBO
    M187 MBUU|M161 LONG MBE|M105aMBOO|M142aMBO|M132 KPI|M092 KPA|M074 KPU|M044 KPEE|M108 KPE
    M112 KPOO|M158 KPO|M124 GBI|M056 GBA|M148 GBU|M093 GBEE|M107 GBE|M071 GBOO|M070 GBO|M171 RA
    M123 NDI|M129 NDA|M125 NDU|M191 NDEE|M119 NDE|M067 NDOO|M064 NDO|M152 NJA|M192 NJU|M149 NJEE
    M134 NJOO|M182 VI|M185 VA|M151 VU|M173 VEE|M085 VE|M144 VOO|M077 VO|M164 NYIN|M058 NYAN
    M170 NYUN|M098 NYEN|M060 NYON"),
  (0x1e8c7, "MENDE KIKAKUI DIGIT ", "x|y|p|FOUR|FIVE|SIX|SEVEN|EIGHT|NINE"),
  (0x1e8d0, "MENDE KIKAKUI COMBINING NUMBER ", "TEENS|TENS|HUNDREDS|THOUSANDS|TEN THOUSANDS|HUNDREDa
    MILLIONS"),
  (0x1e900, "ADLAM CAPITAL LETTER ", "ALIF|DAALI|LAAM|MIIM|BA|SINNYIIYHE|PE|BHE|RA|E|FA|I|O|DHA|YHE
    WAW|NUN|KAF|YA|U|JIIM|CHI|HA|QAAF|GA|NYA|TU|NHA|VA|KHA|GBE|ZAL|KPO|SHA"),
  (0x1e922, "ADLAM SMALL LETTER ", "ALIF|DAALI|LAAM|MIIM|BA|SINNYIIYHE|PE|BHE|RA|E|FA|I|O|DHA|YHE
    WAW|NUN|KAF|YA|U|JIIM|CHI|HA|QAAF|GA|NYA|TU|NHA|VA|KHA|GBE|ZAL|KPO|SHA"),
  (0x1e944, "ADLAM ", "ALIF LENGTHENER|VOWELa|GEMINATIONu|HAMZA|CONSONANT MODIFIER
    GEMINATE CONSONANT MODIFIER|NUKTA|NASALIZATIONu"),
  (0x1e950, "ADLAM DIGIT ", "ZERO|x|y|p|FOUR|FIVE|SIX|SEVEN|EIGHT|NINE"),
  (0x1e95e, "ADLAM INITIAL ", "EXCLAMATIONu|QUESTIONu"),
  (0x1ec71, "INDIC SIYAQ NUMBER ", "x|y|p|FOUR|FIVE|SIX|SEVEN|EIGHT|NINE|TEN|TWENTY|THIRTY|FORTY
    FIFTY|SIXTY|SEVENTY|EIGHTY|NINETY|xHUNDRED|ya|pa|FOURa|FIVEa|SIXa|SEVENa|EIGHTa|NINEa|xTHOUSAND
    ya|pa|FOURa|FIVEa|SIXa|SEVENa|EIGHTa|NINEa|TENa|TWENTYa|THIRTYa|FORTYa|FIFTYa|SIXTYa|SEVENTYa
    EIGHTYa|NINETYa|LAKH|LAKHAN"),
  (0x1eca0, "INDIC SIYAQ ", "LAKHu|NUMBER KAROR|aKARORAN"),
  (0x1eca3, "INDIC SIYAQ NUMBER PREFIXED ", "x|y|p|FOUR|FIVE|SIX|SEVEN|EIGHT|NINE"),
  (0x1ecac, "INDIC SIYAQ ", "PLACEHOLDER|FRACTIONxQUARTER|bHALF|apQUARTERS|RUPEEu|NUMBER ALTERNATEx
    by|bTEN THOUSAND|ALTERNATE LAKHu"),
  (0x1ed01, "OTTOMAN SIYAQ NUMBER ", "x|y|p|FOUR|FIVE|SIX|SEVEN|EIGHT|NINE|TEN|TWENTY|THIRTY|FORTY
    FIFTY|SIXTY|SEVENTY|EIGHTY|NINETY|xHUNDRED|ya|pa|FOURa|FIVEa|SIXa|SEVENa|EIGHTa|NINEa|xTHOUSAND
    ya|pa|FOURa|FIVEa|SIXa|SEVENa|EIGHTa|NINEa|TENa|TWENTYa|THIRTYa|FORTYa|FIFTYa|SIXTYa|SEVENTYa
    EIGHTYa|NINETYa"),
  (0x1ed2e, "", "OTTOMAN SIYAQ MARRATAN"),
  (0x1ed2f, "OTTOMAN SIYAQ ALTERNATE NUMBER ", "y|p|FOUR|FIVE|SIX|SEVEN|EIGHT|NINE|TEN|FOUR HUNDRED
    SIXa|yTHOUSAND|TENa"),
  (0x1ed3c, "OTTOMAN SIYAQ FRACTION ONE ", "HALF|SIXTH"),
  (0x1ee00, "ARABIC MATHEMATICAL ", "ALEF|BEH|JEEM|DAL||WAW|ZAIN|HAH|TAH|YEH|KAF|LAM|MEEM|NOON|SEEN
    AIN|FEH|SAD|QAF|REH|SHEEN|TEH|THEH|KHAH|THAL|DAD|ZAH|GHAIN|DOTLESS BEH|aNOON|aFEH|aQAF"),
  (0x1ee21, "ARABIC MATHEMATICAL INITIAL ", "BEH|JEEM||HEH|||HAH||YEH|KAF|LAM|MEEM|NOON|SEEN|AIN|FEH
    SAD|QAF||SHEEN|TEH|THEH|KHAH||DAD||GHAIN"),
  (0x1ee42, "ARABIC MATHEMATICAL TAILED ", "JEEM|||||HAH||YEH||LAM||NOON|SEEN|AIN||SAD
    QAF||SHEEN|||KHAH||DAD||GHAIN||DOTLESS NOON||aQAF"),
  (0x1ee61, "ARABIC MATHEMATICAL STRETCHED ", "BEH|JEEM||HEH|||HAH|TAH|YEH|KAF||MEEM|NOON|SEEN|AIN
    FEH|SAD|QAF||SHEEN|TEH|THEH|KHAH||DAD|ZAH|GHAIN|DOTLESS BEH||aFEH"),
  (0x1ee80, "ARABIC MATHEMATICAL LOOPED ", "ALEF|BEH|JEEM|DAL|HEH|WAW|ZAIN|HAH|TAH|YEH||LAM|MEEM
    NOON|SEEN|AIN|FEH|SAD|QAF|REH|SHEEN|TEH|THEH|KHAH|THAL|DAD|ZAH|GHAIN"),
  (0x1eea1, "ARABIC MATHEMATICAL DOUBLE-STRUCK ", "BEH|JEEM|DAL||WAW|ZAIN|HAH|TAH|YEH||LAM|MEEM|NOON
    SEEN|AIN|FEH|SAD|QAF|REH|SHEEN|TEH|THEH|KHAH|THAL|DAD|ZAH|GHAIN"),
  (0x1eef0, "ARABIC MATHEMATICAL OPERATOR ", "MEEMhHAHhTATWEEL|HAHhDAL")]

/-- Rows of pictures. -/
def pictureNames : List (Nat × String × String) := [
  (0x1f000, "MAHJONG TILE ", "EAST WIND|SOUTHa|WESTa|NORTHa|RED DRAGON|GREENa|WHITEa|xOF CHARACTERS
    yb|pb|FOURb|FIVEb|SIXb|SEVENb|EIGHTb|NINEb|xaBAMBOOS|yb|pb|FOURb|FIVEb|SIXb|SEVENb|EIGHTb|NINEb
    xaCIRCLES|yb|pb|FOURb|FIVEb|SIXb|SEVENb|EIGHTb|NINEb|PLUM|ORCHID|BAMBOO|CHRYSANTHEMUM|SPRING
    SUMMER|AUTUMN|WINTER|JOKER|BACK"),
  (0x1f030, "", "DOMINO TILE HORIZONTAL BACK"),
  (0x1f031, "DOMINO TILE HORIZONTAL-", "00-00..06|01-00..06|02-00..06|03-00..06|04-00..06|05-00..06
    06-00..06"),
  (0x1f062, "", "DOMINO TILEvBACK"),
  (0x1f063, "DOMINO TILE VERTICAL-", "00-00..06|01-00..06|02-00..06|03-00..06|04-00..06|05-00..06
    06-00..06"),
  (0x1f0a0, "PLAYING CARD ", "BACK|ACE OF SPADES|yb|pb|FOURb|FIVEb|SIXb|SEVENb|EIGHTb|NINEb|TENb
    JACKb|KNIGHTb|QUEENb|KINGb|||ACEaHEARTS|yb|pb|FOURb|FIVEb|SIXb|SEVENb|EIGHTb|NINEb|TENb|JACKb
    KNIGHTb|QUEENb|KINGb|RED JOKER||ACE OF DIAMONDS|yb|pb|FOURb|FIVEb|SIXb|SEVENb|EIGHTb|NINEb|TENb
    JACKb|KNIGHTb|QUEENb|KINGb|wJOKER||ACE OF CLUBS|yb|pb|FOURb|FIVEb|SIXb|SEVENb|EIGHTb|NINEb|TENb
    JACKb|KNIGHTb|QUEENb|KINGb|WHITE JOKER|FOOL"),
  (0x1f0e1, "PLAYING CARD TRUMP-", "1..21"),
  (0x1f100, "DIGIT ", "ZERO FULL STOP|aCOMMA|xa|ya|pa|FOURa|FIVEa|SIXa|SEVENa|EIGHTa|NINEa"),
  (0x1f10b, "", "DINGBAT CIRCLED SANS-SERIF DIGIT ZERO|aNEGATIVE CIRCLED SANS-SERIF DIGIT ZERO
    CIRCLED ZEROhSLASH|aANTICLOCKWISEo|aDOLLARihOVERLAID BACKSLASH"),
  (0x1f110, "PARENTHESIZED LATIN CAPITAL LETTER ", "A..Z"),
  (0x1f12a, "", "TORTOISE SHELL BRACKETED LATINfeS|CIRCLED ITALIC LATINfeC|adR|aCD|aWZ
    COPYLEFT SYMBOL"),
  (0x1f130, "SQUARED LATIN CAPITAL LETTER ", "A..Z"),
  (0x1f14a, "SQUARED ", "HV|MV|SD|SS|PPV|WC"),
  (0x1f150, "NEGATIVE CIRCLED LATIN CAPITAL LETTER ", "A..Z"),
  (0x1f16a, "RAISED ", "MCi|MDi|MRi"),
  (0x1f16d, "CIRCLED ", "CC|ChOVERLAID BACKSLASH|HUMAN FIGURE"),
  (0x1f170, "NEGATIVE SQUARED LATIN CAPITAL LETTER ", "A..Z"),
  (0x1f18a, "", "CROSSED NEGATIVE SQUARED LATINfeP"),
  (0x1f18b, "NEGATIVE SQUARED ", "IC|PA|SA|AB|WC"),
  (0x1f190, "", "SQUARE DJ"),
  (0x1f191, "SQUARED ", "CL|COOL|FREE|ID|NEW|NG|OK|SOS|UPhEXCLAMATIONu|VS|pD|SECOND SCREEN|yK|FOURa
    EIGHTa|FIVE POINTx|SEVENb|TWENTY-TWOay|SIXTY P|xHUNDRED TWENTY P|LATINgeD|HC|HDR|HI-RES|LOSSLESS
    SHV|UHD|VOD"),
  (0x1f1ad, "", "MASK WORK SYMBOL"),
  (0x1f1e6, "REGIONAL INDICATOR SYMBOL LETTER ", "A..Z"),
  (0x1f200, "", "SQUARE HIRAGANA HOKA|SQUARED KATAKANA KOKO|bSA"),
  (0x1f210, "SQUARED CJK UNIFIED IDEOGRAPH-", "624B|5B57|53CC"),
  (0x1f213, "", "SQUARED KATAKANA DE"),
  (0x1f214, "SQUARED CJK UNIFIED IDEOGRAPH-", "4E8C|591A|89E3|5929|4EA4|6620|7121|6599|524D|5F8C
    518D|65B0|521D|7D42|751F|8CA9|58F0|5439|6F14|6295|6355|4E00|4E09|904A|5DE6|4E2D|53F3|6307|8D70
    6253|7981|7A7A|5408|6E80|6709|6708|7533|5272|55B6|914D"),
  (0x1f240, "TORTOISE SHELL BRACKETED CJK UNIFIED IDEOGRAPH-", "672C|4E09|4E8C|5B89|70B9|6253|76D7
    52DD|6557"),
  (0x1f250, "CIRCLED IDEOGRAPH ", "ADVANTAGE|ACCEPT"),
  (0x1f260, "ROUNDED SYMBOL FOR ", "FU|LU|SHOU|XI|SHUANGXI|CAI"),
  (0x1f300, "", "CYCLONE|FOGGY|CLOSED UMBRELLA|NIGHThSTARS|SUNRISE OVER MOUNTAINS|a
    CITYSCAPE AT DUSK|SUNSET OVER BUILDINGS|RAINBOW|BRIDGE AT NIGHT|WATER WAVE|VOLCANO|MILKY WAY
    EARTH GLOBE EUROPE-AFRICA|bAMERICAS|bASIA-AUSTRALIA|GLOBEhMERIDIANS|NEW MOON SYMBOL
    WAXING CRESCENT MOON SYMBOL|FIRST QUARTERb|WAXING GIBBOUSb|FULL MOON SYMBOL
    WANING GIBBOUS MOON SYMBOL|LAST QUARTERb|WANING CRESCENTb|CRESCENT MOON|NEWahFACE
    FIRST QUARTER MOONhFACE|LASTd|FULL MOONhFACE|SUNhFACE|GLOWING STAR|SHOOTINGa|THERMOMETER
    wDROPLET|WHITE SUN|bhgCLOUD|bBEHIND CLOUD|dhRAIN"),
  (0x1f327, "CLOUD WITH ", "RAIN|SNOW|LIGHTNING|TORNADO"),
  (0x1f32b, "", "FOG|WIND BLOWING FACE|HOT DOG|TACO|BURRITO|CHESTNUT|SEEDLING|EVERGREEN TREE
    DECIDUOUSa|PALMa|CACTUS|HOT PEPPER|TULIP|CHERRY BLOSSOM|ROSE|HIBISCUS|SUNFLOWER|BLOSSOM
    EAR OF MAIZE|bRICE|HERB|FOUR LEAF CLOVER|MAPLEa|FALLENa|LEAF FLUTTERING IN WIND|MUSHROOM|TOMATO
    AUBERGINE|GRAPES|MELON|WATERMELON|TANGERINE|LEMON|BANANA|PINEAPPLE|RED APPLE|GREENa|PEAR|PEACH
    CHERRIES"),
  (0x1f353, "", "STRAWBERRY|HAMBURGER|SLICE OF PIZZA|MEAT ON BONE|POULTRY LEG|RICE CRACKER|aBALL
    COOKED RICE|CURRY AND RICE|STEAMING BOWL|SPAGHETTI|BREAD|FRENCH FRIES|ROASTED SWEET POTATO|DANGO
    ODEN|SUSHI|FRIED SHRIMP|FISH CAKEhSWIRL DESIGN|SOFT ICE CREAM|SHAVEDa|ICE CREAM|DOUGHNUT|COOKIE
    CHOCOLATE BAR|CANDY|LOLLIPOP|CUSTARD|HONEY POT|SHORTCAKE|BENTO BOX|POT OF FOOD|COOKING
    FORK AND KNIFE|TEACUP WITHOUT HANDLE|SAKE BOTTLE AND CUP|WINE GLASS|COCKTAILa|TROPICAL DRINK
    BEER MUG|CLINKING BEER MUGS|BABY BOTTLE"),
  (0x1f37d, "", "FORK AND KNIFEhPLATE|BOTTLEhPOPPING CORK|POPCORN|RIBBON|WRAPPED PRESENT
    BIRTHDAY CAKE|JACK-O-LANTERN|CHRISTMAS TREE|FATHER CHRISTMAS|FIREWORKS|FIREWORK SPARKLER|BALLOON
    PARTY POPPER|CONFETTI BALL|TANABATA TREE|CROSSED FLAGS|PINE DECORATION|JAPANESE DOLLS
    CARP STREAMER|WIND CHIME|MOON VIEWING CEREMONY|SCHOOL SATCHEL|GRADUATION CAP|HEARThTIP ON THEn
    BOUQUET OF FLOWERS|MILITARY MEDAL|REMINDER RIBBON|MUSICAL KEYBOARDhJACKS|STUDIO MICROPHONE
    LEVEL SLIDER|CONTROL KNOBS|BEAMED ASCENDING MUSICAL NOTES|aDESCENDINGb|FILM FRAMES
    ADMISSION TICKETS|CAROUSEL HORSE|FERRIS WHEEL|ROLLER COASTER|FISHING POLE AND FISH|MICROPHONE
    MOVIE CAMERA|CINEMA"),
  (0x1f3a7, "", "HEADPHONE|ARTIST PALETTE|TOP HAT|CIRCUS TENT|TICKET|CLAPPER BOARD|PERFORMING ARTS
    VIDEO GAME|DIRECT HIT|SLOT MACHINE|BILLIARDS|GAME DIE|BOWLING|FLOWER PLAYING CARDS|MUSICAL NOTE
    MULTIPLE MUSICAL NOTES|SAXOPHONE|GUITAR|MUSICAL KEYBOARD|TRUMPET|VIOLIN|MUSICAL SCORE
    RUNNING SHIRThSASH|TENNIS RACQUET AND BALL|SKI AND SKI BOOT|BASKETBALLaHOOP|CHEQUERED FLAG
    SNOWBOARDER|RUNNER|SURFER|SPORTS MEDAL|TROPHY|HORSE RACING|AMERICAN FOOTBALL|RUGBYa|SWIMMER
    WEIGHT LIFTER|GOLFER|RACING MOTORCYCLE|aCAR|CRICKET BAT AND BALL|VOLLEYBALL"),
  (0x1f3d1, "", "FIELD HOCKEY STICK AND BALL|ICEcPUCK|TABLE TENNIS PADDLEaBALL|SNOW CAPPED MOUNTAIN
    CAMPING|BEACHhUMBRELLA|BUILDING CONSTRUCTION|HOUSE BUILDINGS|CITYSCAPE|DERELICT HOUSE BUILDING
    CLASSICAL BUILDING|DESERT|aISLAND|NATIONAL PARK|STADIUM|HOUSE BUILDING|ahGARDEN|OFFICE BUILDING
    JAPANESE POST OFFICE|EUROPEANb|HOSPITAL|BANK|AUTOMATED TELLER MACHINE|HOTEL|LOVE HOTEL
    CONVENIENCE STORE|SCHOOL|DEPARTMENT STORE|FACTORY|IZAKAYA LANTERN|JAPANESE CASTLE|EUROPEANa
    WHITE PENNANT|wa|WAVING WHITE FLAG|awa|ROSETTE|wROSETTE|LABEL|BADMINTON RACQUET AND SHUTTLECOCK
    BOW ANDo|AMPHORA"),
  (0x1f3fb, "EMOJI MODIFIER FITZPATRICK TYPE-", "1-2|3..6"),
  (0x1f400, "", "RAT|MOUSE|OX|WATER BUFFALO|COW|TIGER|LEOPARD|RABBIT|CAT|DRAGON|CROCODILE|WHALE"),
  (0x1f40c, "", "SNAIL|SNAKE|HORSE|RAM|GOAT|SHEEP|MONKEY|ROOSTER|CHICKEN|DOG|PIG|BOAR|ELEPHANT
    OCTOPUS|SPIRAL SHELL|BUG|ANT|HONEYBEE|LADY BEETLE|FISH|TROPICAL FISH|BLOWFISH|TURTLE
    HATCHING CHICK|BABYa|FRONT-FACING BABY CHICK|BIRD|PENGUIN|KOALA|POODLE|DROMEDARY CAMEL|BACTRIANa
    DOLPHIN|MOUSE FACE|COWa|TIGERa|RABBITa|CATa|DRAGONa|SPOUTING WHALE|HORSE FACE|MONKEYa"),
  (0x1f436, "", "DOG FACE|PIGa|FROGa|HAMSTERa|WOLFa|BEARa|PANDAa|PIG NOSE|PAW PRINTS|CHIPMUNK|EYES
    EYE|EAR|NOSE|MOUTH|TONGUE|WHITE UP POINTING BACKHAND INDEX|aDOWNc|anc|ajc|FISTED HANDi|WAVINGb
    OKb|THUMBS UPi|aDOWNi|CLAPPING HANDSi|OPENb|CROWN|WOMANS HAT|EYEGLASSES|NECKTIE|T-SHIRT|JEANS
    DRESS|KIMONO|BIKINI|WOMANS CLOTHES|PURSE|HANDBAG|POUCH|MANS SHOE|ATHLETICa"),
  (0x1f460, "", "HIGH-HEELED SHOE|WOMANS SANDAL|aBOOTS|FOOTPRINTS|BUST IN SILHOUETTE|BUSTSb|BOY|GIRL
    MAN|WOMAN|FAMILY|MAN AND WOMAN HOLDING HANDS|yMEN HOLDING HANDS|yWOMENb|POLICE OFFICER
    WOMANhBUNNY EARS|BRIDEhVEIL|PERSONhBLOND HAIR|MANhGUA PI MAO|bTURBAN|OLDER MAN|aWOMAN|BABY
    CONSTRUCTION WORKER|PRINCESS|JAPANESE OGRE|aGOBLIN|GHOST|BABY ANGEL|EXTRATERRESTRIAL ALIEN
    ALIEN MONSTER|IMP|SKULL|INFORMATION DESK PERSON|GUARDSMAN|DANCER|LIPSTICK|NAIL POLISH
    FACE MASSAGE|HAIRCUT|BARBER POLE|SYRINGE"),
  (0x1f48a, "", "PILL|KISSu|LOVEe|RING|GEM STONE|KISS|BOUQUET|COUPLEhHEART|WEDDING|BEATING HEART
    BROKENa|yHEARTS|SPARKLING HEART|GROWINGa|HEARTho|BLUE HEART|GREENa|YELLOWa|PURPLEa|HEARThRIBBON
    REVOLVING HEARTS|HEART DECORATION|DIAMOND SHAPEhA DOT INSIDE|ELECTRIC LIGHT BULB|ANGER SYMBOL
    BOMB|SLEEPING SYMBOL|COLLISIONa|SPLASHING SWEAT SYMBOL|DROPLET|DASH SYMBOL|PILE OF POO
    FLEXED BICEPS|DIZZY SYMBOL|SPEECH BALLOON|THOUGHTa|WHITE FLOWER|HUNDRED POINTS SYMBOL|MONEY BAG
    CURRENCY EXCHANGE|HEAVY DOLLARi|CREDIT CARD"),
  (0x1f4b4, "BANKNOTE WITH ", "YENi|DOLLARi|EUROi|POUNDi"),
  (0x1f4b8, "", "MONEYhWINGS|CHARThUPWARDS TREND AND YENi|SEAT|PERSONAL COMPUTER|BRIEFCASE|MINIDISC
    FLOPPY DISK|OPTICAL DISC|DVD|FILE FOLDER|OPEN FILE FOLDER|PAGEhCURL|aFACING UP|CALENDAR
    TEAR-OFF CALENDAR|CARD INDEX|CHARThUPWARDS TREND|bza|BAR CHART|CLIPBOARD|PUSHPIN|ROUND PUSHPIN
    PAPERCLIP|STRAIGHT RULER|TRIANGULARa|BOOKMARK TABS|LEDGER|NOTEBOOK|ahDECORATIVE COVER
    CLOSED BOOK|OPENa"),
  (0x1f4d7, "", "GREEN BOOK|BLUEa|ORANGEa|BOOKS|NAME BADGE|SCROLL|MEMO|TELEPHONE RECEIVER|PAGER
    FAX MACHINE|SATELLITE ANTENNA|PUBLIC ADDRESS LOUDSPEAKER|CHEERING MEGAPHONE|OUTBOX TRAY|INBOXa
    PACKAGE|E-MAIL SYMBOL|INCOMING ENVELOPE|ENVELOPEhzom|CLOSED MAILBOXhLOWERED FLAG|cRAISEDa|OPENd
    cLOWEREDa|POSTBOX|POSTAL HORN|NEWSPAPER|MOBILE PHONE|bhkoATn|VIBRATION MODE|MOBILE PHONE OFF
    NO MOBILE PHONES|ANTENNAhBARS|CAMERA|ahFLASH|VIDEO CAMERA|TELEVISION|RADIO|VIDEOCASSETTE
    FILM PROJECTOR|PORTABLE STEREO|PRAYER BEADS|TWISTEDkARROWS"),
  (0x1f501, "CLOCKWISE RIGHTWARDS AND LEFTWARDS OPEN CIRCLE ", "ARROWS|ahCIRCLEDxOVERLAY"),
  (0x1f503, "", "CLOCKWISEzAND UPWARDS OPEN CIRCLE ARROWS|ANTICLOCKWISEbd|LOW BRIGHTNESS SYMBOL
    HIGHb|SPEAKERhCANCELLATION STROKE|a|ahxSOUND WAVE|bpaWAVES|BATTERY|ELECTRIC PLUG
    LEFT-POINTING MAGNIFYING GLASS|RIGHT-POINTINGb|LOCKhINK PEN|CLOSED LOCKhKEY|KEY|LOCK|OPEN LOCK
    BELL|ahCANCELLATION STROKE|BOOKMARK|LINK SYMBOL|RADIO BUTTON|BACKhqom|ENDd|ONhEXCLAMATIONuhnjom
    SOONhkom|TOPhUPWARDSb|NOxUNDER EIGHTEEN SYMBOL|KEYCAP TEN"),
  (0x1f520, "INPUT SYMBOL FOR ", "LATINfLETTERS|aga|NUMBERS|SYMBOLS|LATIN LETTERS"),
  (0x1f525, "", "FIRE"),
  (0x1f526, "", "ELECTRIC TORCH|WRENCH|HAMMER|NUT AND BOLT|HOCHO|PISTOL|MICROSCOPE|TELESCOPE
    CRYSTAL BALL|SIX POINTED STARhMIDDLE DOT|JAPANESE SYMBOL FOR BEGINNER|TRIDENT EMBLEM
    wSQUARE BUTTON|WHITEb|LARGE RED CIRCLE|aBLUEa|aORANGE DIAMOND|aBLUEa|gORANGEa|gBLUEa
    UP-POINTING RED TRIANGLE|DOWN-POINTINGb|UP-POINTINGgRED TRIANGLE|DOWN-POINTINGc
    LOWERjSHADOWED WHITE CIRCLE|UPPERd|CIRCLED CROSS POMMEE|CROSS POMMEEhHALF-CIRCLEt|b
    NOTCHEDnSEMICIRCLEhpDOTS|ajd|SYMBOL FOR MARKS CHAPTER|WHITE LATIN CROSS|HEAVYb|CELTIC CROSS
    OM SYMBOL|DOVE OF PEACE|KAABA|MOSQUE|SYNAGOGUE|MENORAHhNINE BRANCHES|BOWL OF HYGIEIA"),
  (0x1f550, "CLOCK FACE ", "xOCLOCK|ya|pa|FOURa|FIVEa|SIXa|SEVENa|EIGHTa|NINEa|TENa|ELEVENa|TWELVEa
    ONE-THIRTY|TWO-THIRTY|THREE-THIRTY|FOUR-THIRTY|FIVE-THIRTY|SIX-THIRTY|SEVEN-THIRTY|EIGHT-THIRTY
    NINE-THIRTY|TEN-THIRTY|ELEVEN-THIRTY|TWELVE-THIRTY"),
  (0x1f568, "", "jSPEAKER|bhxSOUND WAVE|cpaWAVES|BULLHORN|ahSOUND WAVES|RINGING BELL|BOOK|CANDLE
    MANTELPIECE CLOCK|wSKULL AND CROSSBONES|NO PIRACY|HOLE|MAN IN BUSINESS SUIT LEVITATING
    SLEUTH OR SPY|DARK SUNGLASSES|SPIDER|aWEB|JOYSTICK|MAN DANCING|nHAND TELEPHONE RECEIVER
    TELEPHONE RECEIVERhPAGE|jHAND TELEPHONE RECEIVER|WHITE TOUCHTONEa|wb|TELEPHONE ON TOP OF MODEM
    CLAMSHELL MOBILE PHONE|BACK OF ENVELOPE|STAMPED ENVELOPE|ENVELOPEhLIGHTNING|FLYING ENVELOPE
    PEN OVER STAMPED ENVELOPE|LINKED PAPERCLIPS|wPUSHPIN|LOWERnPENCIL|bBALLPOINT PEN|bFOUNTAINa
    bPAINTBRUSH|bCRAYON|nWRITING HAND|TURNED OKai|RAISED HANDhFINGERS SPLAYED"),
  (0x1f591, "REVERSED ", "RAISED HANDhFINGERS SPLAYED|THUMBS UPi|aDOWNi|VICTORY HAND
    HANDhMIDDLE FINGER EXTENDED"),
  (0x1f596, "", "RAISED HANDhPART BETWEEN MIDDLE AND RING FINGERS|WHITE DOWN POINTINGnHAND INDEX
    SIDEWAYS WHITEnPOINTING INDEX|bjb|awnb|bjb|wnPOINTING BACKHANDa|wjc|SIDEWAYS WHITE UP POINTINGa
    bDOWNb|awUPb|bDOWNb|wUP POINTING BACKHANDa|wDOWNc|wHEART|DESKTOP COMPUTER|KEYBOARD AND MOUSE
    pNETWORKED COMPUTERS|PRINTER|POCKET CALCULATOR|wHARD SHELL FLOPPY DISK|WHITEd
    SOFT SHELL FLOPPY DISK|TAPE CARTRIDGE|WIRED KEYBOARD|xBUTTON MOUSE|yb|pb|TRACKBALL
    OLD PERSONAL COMPUTER|HARD DISK|SCREEN|PRINTER ICON|FAXa|OPTICAL DISC ICON"),
  (0x1f5b9, "DOCUMENT WITH ", "TEXT|aAND PICTURE|PICTURE"),
  (0x1f5bc, "", "FRAMEhPICTURE|bTILES|bAN X|wFOLDER|FOLDER|OPEN FOLDER|CARD INDEX DIVIDERS|aFILE BOX
    FILE CABINET|EMPTY NOTE|bPAGE|bPAD|NOTE|aPAGE|aPAD|EMPTY DOCUMENT|aPAGE|aPAGES|DOCUMENT|PAGE
    PAGES|WASTEBASKET|SPIRAL NOTE PAD|aCALENDARa|DESKTOP WINDOW|MINIMIZE|MAXIMIZE|OVERLAP
    CLOCKWISEjANDnSEMICIRCLE ARROWS|CANCELLATION X|INCREASE FONT SIZE SYMBOL|DECREASEc|COMPRESSION
    OLD KEY|ROLLED-UP NEWSPAPER|PAGEhCIRCLED TEXT|STOCK CHART|DAGGER KNIFE|LIPS
    SPEAKING HEAD IN SILHOUETTE"),
  (0x1f5e4, "THREE RAYS ", "m|t|n|j"),
  (0x1f5e8, "", "nSPEECH BUBBLE|jb|yaBUBBLES|pb|nTHOUGHT BUBBLE|jb|nANGERa|jb|MOOD BUBBLE
    LIGHTNING MOOD BUBBLE|b|BALLOT BOXhBALLOT|aSCRIPT X|aBOXhSCRIPT X|aBOLD SCRIPT X
    aBOXhBOLD SCRIPT X|LIGHT CHECKu|BALLOT BOXhBOLD CHECK|WORLD MAP|MOUNT FUJI|TOKYO TOWER
    STATUE OF LIBERTY|SILHOUETTEaJAPAN|MOYAI|GRINNING FACE|bhSMILING EYES|FACEhTEARS OF JOY"),
  (0x1f603, "SMILING FACE WITH ", "OPEN MOUTH|bAND SMILING EYES|cCOLD SWEAT|cTIGHTLY-CLOSED EYES
    HALO|HORNS"),
  (0x1f609, "", "WINKING FACE|SMILINGahSMILING EYES|FACE SAVOURING DELICIOUS FOOD|RELIEVED FACE
    SMILINGahHEART-SHAPED EYES|cSUNGLASSES|SMIRKINGa|NEUTRALa|EXPRESSIONLESSa|UNAMUSEDa
    FACEhCOLD SWEAT|PENSIVE FACE|CONFUSEDa|CONFOUNDEDa|KISSINGa|FACE THROWING A KISS
    KISSING FACEhSMILING EYES|cCLOSEDa|FACEhSTUCK-OUT TONGUE|dAND WINKING EYE|adTIGHTLY-CLOSED EYES
    DISAPPOINTED FACE|WORRIEDa|ANGRYa|POUTINGa|CRYINGa|PERSEVERINGa|FACEhLOOK OF TRIUMPH
    DISAPPOINTED BUT RELIEVED FACE|FROWNING FACEhOPEN MOUTH|ANGUISHEDa|FEARFULa|WEARYa|SLEEPYa
    TIREDa|GRIMACINGa|LOUDLY CRYING FACE|FACEhOPEN MOUTH|HUSHED FACE"),
  (0x1f630, "", "FACEhOPEN MOUTH AND COLD SWEAT|aSCREAMING IN FEAR|ASTONISHED FACE|FLUSHEDa
    SLEEPINGa|DIZZYa|FACE WITHOUT MOUTH|ahMEDICAL MASK|GRINNING CAT FACEhSMILING EYES
    CAT FACEhTEARS OF JOY|SMILING CAT FACEhOPEN MOUTH|dHEART-SHAPED EYES|CAT FACEhWRY SMILE
    KISSING CAT FACEhCLOSED EYES|POUTINGb|CRYINGb|WEARYb|SLIGHTLY FROWNINGa|aSMILINGa
    UPSIDE-DOWN FACE|FACEhROLLING EYES|bNO GOOD GESTURE|bOK GESTURE|PERSON BOWING DEEPLY
    SEE-NO-EVIL MONKEY|HEAR-NO-EVILa|SPEAK-NO-EVILa|HAPPY PERSON RAISINGxHAND
    PERSON RAISING BOTH HANDS IN CELEBRATION|aFROWNING|ahPOUTING FACE|bFOLDED HANDS
    NORTH WEST POINTING LEAF|SOUTHc|NORTH EASTb|SOUTHc|TURNED NORTH WEST POINTING LEAF|aSOUTHc
    aNORTH EASTb|aSOUTHc|NORTH WEST POINTING VINEa|SOUTHd"),
  (0x1f65a, "", "NORTH EAST POINTING VINE LEAF|SOUTHd|HEAVY NORTH WEST POINTING VINE LEAF|aSOUTHd
    aNORTH EASTc|aSOUTHd|NORTH WEST POINTING BUD|SOUTHc|NORTH EASTb|SOUTHc
    HEAVY NORTH WEST POINTING BUD|aSOUTHc|aNORTH EASTb|aSOUTHc|HOLLOW QUILT SQUARE ORNAMENT
    dINwSQUARE|SOLIDc|dINwSQUARE|qROCKET|UPWARDSa|ka|za|SCRIPT LIGATURE ET ORNAMENT
    HEAVY SCRIPT LIGATURE ET ORNAMENT|LIGATURE OPEN ET ORNAMENT|HEAVY LIGATURE OPEN ET ORNAMENT
    aAMPERSAND ORNAMENT|SWASHb|SANS-SERIF HEAVYlTURNED COMMA QUOTATIONuORNAMENT
    cCOMMA QUOTATIONuORNAMENT|bLOWlCOMMA QUOTATIONuORNAMENT|HEAVY INTERROBANG ORNAMENT|SANS-SERIFb
    HEAVY SANS-SERIF INTERROBANG ORNAMENT|VERY HEAVY SOLIDUS|bREVERSE SOLIDUS|CHECKER BOARD
    REVERSE CHECKER BOARD|ROCKET|HELICOPTER|STEAM LOCOMOTIVE|RAILWAY CAR"),
  (0x1f684, "", "HIGH-SPEED TRAIN|bhBULLET NOSE|TRAIN|METRO|LIGHT RAIL|STATION|TRAM|aCAR|BUS
    ONCOMING BUS|TROLLEYBUS|BUS STOP|MINIBUS|AMBULANCE|FIRE ENGINE|POLICE CAR|ONCOMING POLICE CAR
    TAXI|ONCOMING TAXI|AUTOMOBILE|ONCOMING AUTOMOBILE|RECREATIONAL VEHICLE|DELIVERY TRUCK
    ARTICULATED LORRY|TRACTOR|MONORAIL|MOUNTAIN RAILWAY|SUSPENSIONa|MOUNTAIN CABLEWAY|AERIAL TRAMWAY
    SHIP|ROWBOAT|SPEEDBOAT|HORIZONTAL TRAFFIC LIGHT|vb|CONSTRUCTIONi|POLICE CARS REVOLVING LIGHT
    TRIANGULAR FLAG ON POST|DOOR|NO ENTRYi|SMOKING SYMBOL|NO SMOKING SYMBOL"),
  (0x1f6ae, "", "PUT LITTER IN ITS PLACE SYMBOL|DO NOT LITTER SYMBOL|POTABLE WATER SYMBOL
    NON-POTABLEb|BICYCLE|NO BICYCLES|BICYCLIST|MOUNTAIN BICYCLIST|PEDESTRIAN|NO PEDESTRIANS
    CHILDREN CROSSING|MENS SYMBOL|WOMENSa|RESTROOM|BABY SYMBOL|TOILET|WATER CLOSET|SHOWER|BATH
    BATHTUB|PASSPORT CONTROL|CUSTOMS|BAGGAGE CLAIM|nLUGGAGE|TRIANGLEhROUNDED CORNERS|PROHIBITEDi
    CIRCLED INFORMATION SOURCE|BOYS SYMBOL|GIRLSa|COUCH AND LAMP|SLEEPING ACCOMMODATION
    SHOPPING BAGS|BELLHOP BELL|BED|PLACE OF WORSHIP|OCTAGONALi|SHOPPING TROLLEY|STUPA|PAGODA
    HINDU TEMPLE|HUT|ELEVATOR"),
  (0x1f6dd, "", "PLAYGROUND SLIDE|WHEEL|RING BUOY|HAMMER AND WRENCH|SHIELD|OIL DRUM|MOTORWAY
    RAILWAY TRACK|MOTOR BOAT|UP-POINTING MILITARY AIRPLANE|aAIRPLANE|agAIRPLANE|gAIRPLANE
    NORTHEAST-POINTINGa|AIRPLANE DEPARTURE|aARRIVING||||SATELLITE|ONCOMING FIRE ENGINE
    DIESEL LOCOMOTIVE|PASSENGER SHIP|SCOOTER|MOTOR SCOOTER|CANOE|SLED|FLYING SAUCER|SKATEBOARD
    AUTO RICKSHAW|PICKUP TRUCK|ROLLER SKATE"),
  (0x1f700, "ALCHEMICAL SYMBOL FOR ", "QUINTESSENCE|AIR|FIRE|EARTH|WATER|AQUAFORTIS|AQUA REGIA
    aREGIA-2|aVITAE|aVITAE-2|VINEGAR|VINEGAR-2|VINEGAR-3|SULFUR|PHILOSOPHERS SULFUR|wa
    MERCURY SUBLIMATE|aSUBLIMATE-2|aSUBLIMATE-3|CINNABAR|SALT|NITRE|VITRIOL|VITRIOL-2|ROCK SALT
    aSALT-2|GOLD|SILVER|IRON ORE|aORE-2|CROCUS OF IRON|REGULUSb|COPPER ORE|IRON-COPPERa
    SUBLIMATE OF COPPER|CROCUSb|bCOPPER-2|COPPER ANTIMONIATE|SALT OF COPPER ANTIMONIATE
    SUBLIMATEaSALT OF COPPER|VERDIGRIS|TIN ORE|LEADa|ANTIMONYa|SUBLIMATE OF ANTIMONY|SALTb
    SUBLIMATEaSALT OF ANTIMONY|VINEGARaANTIMONY|REGULUSb|bANTIMONY-2|a|REGULUS-2..4|ALKALI|ALKALI-2
    MARCASITE|SAL-AMMONIAC|ARSENIC|REALGAR|REALGAR-2|AURIPIGMENT|BISMUTH ORE|TARTAR|TARTAR-2
    QUICK LIME|BORAX|BORAX-2|BORAX-3|ALUM|OIL|SPIRIT|TINCTURE|GUM|WAX|POWDER|CALX|TUTTY
    CAPUT MORTUUM|SCEPTER OF JOVE|CADUCEUS|TRIDENT|STARRED TRIDENT|LODESTONE|SOAP|URINE|HORSE DUNG
    ASHES|POT ASHES|BRICK|POWDERED BRICK|AMALGAM|STRATUM SUPER STRATUM|bSTRATUM-2|SUBLIMATION
    PRECIPITATE|DISTILL|DISSOLVE|DISSOLVE-2|PURIFY|PUTREFACTION|CRUCIBLE|CRUCIBLE-2..5|ALEMBIC
    BATH OF MARY|bVAPOURS|RETORT|HOUR|NIGHT|DAY-NIGHT|MONTH|HALF DRAM|aOUNCE"),
  (0x1f780, "BLACK ", "LEFT-POINTING ISOSCELESjTRIANGLE|UP-POINTINGc|RIGHT-POINTINGc|DOWN-POINTINGc
    SLIGHTLYgCIRCLE"),
  (0x1f785, "", "MEDIUM BOLD WHITE CIRCLE|BOLD WHITE CIRCLE|HEAVYb|VERY HEAVY WHITE CIRCLE
    EXTREMELYc|WHITE CIRCLE CONTAININGwgCIRCLE|ROUND TARGET|wTINY SQUARE|wSLIGHTLYgSQUARE
    LIGHT WHITE SQUARE|MEDIUMb|BOLDb|HEAVYb|VERY HEAVY WHITE SQUARE|EXTREMELYc
    WHITE SQUARE CONTAININGwVERYgSQUARE|dMEDIUM SQUARE|SQUARE TARGET|wTINY DIAMOND|wVERYgDIAMOND
    wMEDIUMb|WHITE DIAMOND CONTAININGwVERYgDIAMOND|dMEDIUM DIAMOND|DIAMOND TARGET|wTINY LOZENGE
    wVERYgLOZENGE|wMEDIUMb|WHITE LOZENGE CONTAININGwgLOZENGE|THIN GREEK CROSS|LIGHTb|MEDIUMb|BOLDb
    VERY BOLD GREEK CROSS|aHEAVYb|EXTREMELYc|THIN SALTIRE|LIGHTa|MEDIUMa|BOLDa|HEAVYa
    VERY HEAVY SALTIRE|EXTREMELYb"),
  (0x1f7af, "", "LIGHT FIVE SPOKED ASTERISK|MEDIUMc|BOLDc|HEAVYc|VERY HEAVY FIVE SPOKED ASTERISK
    EXTREMELYd|LIGHT SIX SPOKED ASTERISK|MEDIUMc|BOLDc|HEAVYc|VERY HEAVY SIX SPOKED ASTERISK
    EXTREMELYd|LIGHT EIGHT SPOKED ASTERISK|MEDIUMc|BOLDc|HEAVYc|VERY HEAVY EIGHT SPOKED ASTERISK
    LIGHTpPOINTEDwSTAR|MEDIUMd|pPOINTEDwSTAR|MEDIUMpPOINTED PINWHEEL STAR|LIGHT FOURawa|MEDIUMd
    FOUR POINTEDwSTAR|MEDIUM FOUR POINTED PINWHEEL STAR|REVERSE LIGHT FOUR POINTED PINWHEEL STAR
    LIGHT FIVE POINTEDwSTAR|HEAVYd|MEDIUM SIXc|HEAVYd|SIX POINTED PINWHEEL STAR
    MEDIUM EIGHT POINTEDwSTAR|HEAVYd|VERY HEAVY EIGHT POINTEDwSTAR|HEAVY EIGHT POINTED PINWHEEL STAR
    LIGHT TWELVEawa|HEAVYd|cPINWHEELa|CIRCLED TRIANGLE|NEGATIVE CIRCLED TRIANGLE|CIRCLED SQUARE
    NEGATIVE CIRCLED SQUARE"),
  (0x1f7e0, "LARGE ", "ORANGE CIRCLE|YELLOWa|GREENa|PURPLEa|BROWNa|RED SQUARE|BLUEa|ORANGEa|YELLOWa
    GREENa|PURPLEa|BROWNa"),
  (0x1f7f0, "", "HEAVY EQUALSi"),
  (0x1f800, "", "qohgTRIANGLE ARROWHEAD|UPWARDSod|kod|zod|qbMEDIUMb|UPWARDSod|kod|zod|qbLARGEb
    UPWARDSod|kod|zod|||||qbgEQUILATERALa|UPWARDSod|kod|zod|qbEQUILATERAL ARROWHEAD|UPWARDSd|kd
    zd"),
  (0x1f818, "HEAVY ", "qohEQUILATERAL ARROWHEAD|UPWARDSd|kd|zd|qbLARGE EQUILATERAL ARROWHEAD
    UPWARDSod|kod|zod"),
  (0x1f820, "", "qTRIANGLE-HEADEDohNARROW SHAFT|UPWARDSad|kad|zad|qcMEDIUMa|UPWARDSad|kad|zad
    qcBOLDa|UPWARDSad|kad|zad|qcHEAVYa|UPWARDSad|kad|zad|qcVERY HEAVY SHAFT|UPWARDSbd|kbd|zbd
    qFINGER-POSTo|UPWARDSb|kb|zb|qSQUAREDo|UPWARDSb|kb|zb|qCOMPRESSEDo|UPWARDSb|kb|zb
    qHEAVY COMPRESSEDo|UPWARDSc|kc|zc|qao|UPWARDSb|kb|zb"),
  (0x1f850, "", "qSANS-SERIFo|UPWARDSb|kb|zb|NORTH WEST SANS-SERIFo|aEASTb|SOUTHc|aWESTb|njb
    UP DOWNb"),
  (0x1f860, "WIDE-HEADED ", "qLIGHT BARBo|UPWARDSc|kc|zc|NORTH WEST LIGHT BARBo|aEASTc|SOUTHd|aWESTc
    qBARBo|UPWARDSb|kb|zb|NORTH WEST BARBo|aEASTb|SOUTHc|aWESTb|qMEDIUMb|UPWARDSc|kc|zc
    NORTH WEST MEDIUM BARBo|aEASTc|SOUTHd|aWESTc|qHEAVY BARBo|UPWARDSc|kc|zc|NORTH WEST HEAVY BARBo
    aEASTc|SOUTHd|aWESTc|qVERYc|UPWARDSd|kd|zd|NORTH WEST VERY HEAVY BARBo|aEASTd|SOUTHad|aWESTd"),
  (0x1f890, "", "qTRIANGLE ARROWHEAD|UPWARDSb|kb|zb|qWHITEoWITHIN TRIANGLE ARROWHEAD|UPWARDSad|kad
    zad|qohNOTCHED TAIL|UPWARDSd|kd|zd"),
  (0x1f89c, "HEAVY ARROW SHAFT WIDTH ", "x|yTHIRDS|xHALF|xTHIRD"),
  (0x1f8a0, "", "qBOTTOM-SHADED WHITEo|kBOTTOM SHADED WHITEo|qTOPc|kd|qLEFT-SHADED WHITEo
    kRIGHT-SHADEDb|qc|kLEFT-SHADEDb|qBACK-TILTED SHADOWED WHITEo|kd|qFRONT-TILTEDc|kd
    WHITEoSHAFT WIDTHx|dyTHIRDS|||oPOINTING UPWARDS THEN NORTH WEST|bkaCURVING SOUTH WEST"),
  (0x1f900, "CIRCLED CROSS ", "FORMEEhFOUR DOTS|bya|a"),
  (0x1f903, "LEFT HALF ", "CIRCLEhFOUR DOTS|bpa|bya|bDOT|a"),
  (0x1f908, "DOWNWARD FACING ", "HOOK|NOTCHED HOOK|HOOKhDOT|NOTCHED HOOKhDOT"),
  (0x1f90c, "", "PINCHED FINGERS|WHITE HEART|BROWNa|PINCHING HAND|ZIPPER-MOUTH FACE|MONEY-MOUTHa
    FACEhTHERMOMETER|NERD FACE|THINKINGa|FACEhHEAD-BANDAGE|ROBOT FACE|HUGGINGa|iOF THE HORNS
    CALL ME HAND|RAISED BACK OF HAND|LEFT-FACING FIST|RIGHT-FACINGa|HANDSHAKE
    HANDhINDEX AND MIDDLE FINGERS CROSSED|I LOVE YOU HANDi|FACEhCOWBOY HAT|CLOWN FACE|NAUSEATEDa
    ROLLING ON THE FLOOR LAUGHING|DROOLING FACE|LYINGa|FACE PALM|SNEEZING FACE|FACEhxEYEBROW RAISED
    GRINNING FACEhSTAR EYES|cxLARGE ANDxgEYE|FACEhFINGER COVERING CLOSED LIPS
    SERIOUS FACEhSYMBOLS COVERING MOUTH|SMILINGbSMILING EYES AND HAND COVERING MOUTH
    FACEhOPEN MOUTH VOMITING|SHOCKED FACEhEXPLODING HEAD|PREGNANT WOMAN|BREAST-FEEDING"),
  (0x1f932, "", "PALMS UP TOGETHER|SELFIE|PRINCE|MAN IN TUXEDO|MOTHER CHRISTMAS|SHRUG
    PERSON DOING CARTWHEEL|JUGGLING|FENCER|MODERN PENTATHLON|WRESTLERS|WATER POLO|HANDBALL
    DIVING MASK|WILTED FLOWER|DRUMhDRUMSTICKS|CLINKING GLASSES|TUMBLER GLASS|SPOON|GOAL NET|RIFLE
    FIRST PLACE MEDAL|SECONDb|THIRDb|BOXING GLOVE|MARTIAL ARTS UNIFORM|CURLING STONE
    LACROSSE STICK AND BALL|SOFTBALL|FLYING DISC|CROISSANT|AVOCADO|CUCUMBER|BACON|POTATO|CARROT
    BAGUETTE BREAD|GREEN SALAD|SHALLOW PAN OF FOOD|STUFFED FLATBREAD|EGG|GLASS OF MILK"),
  (0x1f95c, "", "PEANUTS|KIWIFRUIT|PANCAKES|DUMPLING|FORTUNE COOKIE|TAKEOUT BOX|CHOPSTICKS
    BOWLhSPOON|CUPhSTRAW|COCONUT|BROCCOLI|PIE|PRETZEL|CUT OF MEAT|SANDWICH|CANNED FOOD|LEAFY GREEN
    MANGO|MOON CAKE|BAGEL|SMILING FACEhSMILING EYES ANDpHEARTS|YAWNINGa|SMILINGahTEAR
    FACEhPARTY HORN AND PARTY HAT|bUNEVEN EYESaWAVY MOUTH|OVERHEATED FACE|FREEZINGa|NINJA
    DISGUISED FACE|FACE HOLDING BACK TEARS|ahPLEADING EYES|SARI|LAB COAT|GOGGLES|HIKING BOOT
    FLAT SHOE|CRAB|LION FACE|SCORPION|TURKEY|UNICORN FACE|EAGLE"),
  (0x1f986, "", "DUCK|BAT|SHARK|OWL|FOX FACE|BUTTERFLY|DEER|GORILLA|LIZARD|RHINOCEROS|SHRIMP|SQUID
    GIRAFFE FACE|ZEBRAa|HEDGEHOG|SAUROPOD|T-REX|CRICKET|KANGAROO|LLAMA|PEACOCK|HIPPOPOTAMUS|PARROT
    RACCOON|LOBSTER|MOSQUITO|MICROBE|BADGER|SWAN|MAMMOTH|DODO|SLOTH|OTTER|ORANGUTAN|SKUNK|FLAMINGO
    OYSTER|BEAVER|BISON|SEAL|GUIDE DOG|PROBING CANE"),
  (0x1f9b0, "EMOJI COMPONENT ", "RED HAIR|CURLYa|BALD|WHITE HAIR"),
  (0x1f9b4, "", "BONE|LEG|FOOT|TOOTH|SUPERHERO|SUPERVILLAIN|SAFETY VEST|EARhHEARING AID
    MOTORIZED WHEELCHAIR|MANUALa|MECHANICAL ARM|aLEG|CHEESE WEDGE|CUPCAKE|SALT SHAKER|BEVERAGE BOX
    GARLIC|ONION|FALAFEL|WAFFLE|BUTTER|MATE DRINK|ICE CUBE|BUBBLE TEA|TROLL|STANDING PERSON
    KNEELINGa|DEAFa|FACEhMONOCLE|ADULT|CHILD|OLDER ADULT|BEARDED PERSON|PERSONhHEADSCARF"),
  (0x1f9d6, "", "PERSON IN STEAMY ROOM|aCLIMBING|aIN LOTUS POSITION|MAGE|FAIRY|VAMPIRE|MERPERSON|ELF
    GENIE|ZOMBIE|BRAIN|ORANGE HEART|BILLED CAP|SCARF|GLOVES|COAT|SOCKS|RED GIFT ENVELOPE|FIRECRACKER
    JIGSAW PUZZLE PIECE|TEST TUBE|PETRI DISH|DNAlHELIX|COMPASS|ABACUS|FIRE EXTINGUISHER|TOOLBOX
    BRICK|MAGNET|LUGGAGE|LOTION BOTTLE|SPOOL OF THREAD|BALLaYARN|SAFETY PIN|TEDDY BEAR|BROOM|BASKET
    ROLL OF PAPER|BARaSOAP|SPONGE|RECEIPT|NAZAR AMULET"),
  (0x1fa00, "NEUTRAL CHESS ", "KING|QUEEN|ROOK|BISHOP|KNIGHT|PAWN"),
  (0x1fa06, "", "WHITE CHESS KNIGHT ROTATED FORTY-FIVE DEGREES|wad|NEUTRALad"),
  (0x1fa09, "WHITE CHESS ", "KING ROTATED NINETY DEGREES|QUEENc|ROOKc|BISHOPc|KNIGHTc|PAWNc"),
  (0x1fa0f, "BLACK CHESS ", "KING ROTATED NINETY DEGREES|QUEENc|ROOKc|BISHOPc|KNIGHTc|PAWNc"),
  (0x1fa15, "NEUTRAL CHESS ", "KING ROTATED NINETY DEGREES|QUEENc|ROOKc|BISHOPc|KNIGHTc|PAWNc"),
  (0x1fa1b, "", "WHITE CHESS KNIGHT ROTATEDxHUNDRED THIRTY-FIVE DEGREES|wcd|NEUTRALcd"),
  (0x1fa1e, "WHITE CHESS TURNED ", "KING|QUEEN|ROOK|BISHOP|KNIGHT|PAWN"),
  (0x1fa24, "BLACK CHESS TURNED ", "KING|QUEEN|ROOK|BISHOP|KNIGHT|PAWN"),
  (0x1fa2a, "NEUTRAL CHESS TURNED ", "KING|QUEEN|ROOK|BISHOP|KNIGHT|PAWN"),
  (0x1fa30, "", "WHITE CHESS KNIGHT ROTATEDyHUNDRED TWENTY-FIVE DEGREES|wcd|NEUTRALcd"),
  (0x1fa33, "WHITE CHESS ", "KING ROTATEDyHUNDRED SEVENTY DEGREES|QUEENad|ROOKad|BISHOPad|KNIGHTad
    PAWNad"),
  (0x1fa39, "BLACK CHESS ", "KING ROTATEDyHUNDRED SEVENTY DEGREES|QUEENad|ROOKad|BISHOPad|KNIGHTad
    PAWNad"),
  (0x1fa3f, "NEUTRAL CHESS ", "KING ROTATEDyHUNDRED SEVENTY DEGREES|QUEENad|ROOKad|BISHOPad|KNIGHTad
    PAWNad"),
  (0x1fa45, "", "WHITE CHESS KNIGHT ROTATEDpHUNDRED FIFTEEN DEGREES|wcd|NEUTRALcd|WHITEaEQUIHOPPER
    wb|NEUTRALb|WHITEbROTATED NINETY DEGREES|wad|NEUTRALad"),
  (0x1fa4e, "WHITE CHESS KNIGHT-", "QUEEN|ROOK|BISHOP"),
  (0x1fa51, "BLACK CHESS KNIGHT-", "QUEEN|ROOK|BISHOP"),
  (0x1fa60, "XIANGQI RED ", "GENERAL|MANDARIN|ELEPHANT|HORSE|CHARIOT|CANNON|SOLDIER"),
  (0x1fa67, "XIANGQI BLACK ", "GENERAL|MANDARIN|ELEPHANT|HORSE|CHARIOT|CANNON|SOLDIER"),
  (0x1fa70, "", "BALLET SHOES|ONE-PIECE SWIMSUIT|BRIEFS|SHORTS|THONG SANDAL||||DROP OF BLOOD
    ADHESIVE BANDAGE|STETHOSCOPE|X-RAY|CRUTCH||||YO-YO|KITE|PARACHUTE|BOOMERANG|MAGIC WAND|PINATA
    NESTING DOLLS"),
  (0x1fa90, "", "RINGED PLANET|CHAIR|RAZOR|AXE|DIYA LAMP|BANJO|MILITARY HELMET|ACCORDION|LONG DRUM
    COIN|CARPENTRY SAW|SCREWDRIVER|LADDER|HOOK|MIRROR|WINDOW|PLUNGER|SEWING NEEDLE|KNOT|BUCKET
    MOUSE TRAP|TOOTHBRUSH|HEADSTONE|PLACARD|ROCK|MIRROR BALL|IDENTIFICATION CARD|LOW BATTERY
    HAMSA"),
  (0x1fab0, "", "FLY|WORM|BEETLE|COCKROACH|POTTED PLANT|WOOD|FEATHER|LOTUS|CORAL|EMPTY NEST
    NESThEGGS||||||ANATOMICAL HEART|LUNGS|PEOPLE HUGGING|PREGNANT MAN|aPERSON|PERSONhCROWN"),
  (0x1fad0, "", "BLUEBERRIES|BELL PEPPER|OLIVE|FLATBREAD|TAMALE|FONDUE|TEAPOT|POURING LIQUID|BEANS
    JAR|||||||MELTING FACE|SALUTINGa|FACEhOPEN EYES AND HAND OVER MOUTH|bPEEKING EYE|bDIAGONAL MOUTH
    DOTTED LINE FACE|BITING LIP|BUBBLES|||||||||HANDhINDEX FINGER AND THUMB CROSSED|kHAND|qa
    PALM DOWN HAND|aUPa|INDEX POINTING AT THE VIEWER|HEART HANDS"),
  (0x1fb00, "BLOCK SEXTANT-", "1|2|12|3|13|23|123|4|14|24|124|34|134|234|1234|5|15|25|125|35|235
    1235|45|145|245|1245|345|1345|2345|12345|6|16|26|126|36|136|236|1236|46|146|1246|346|1346|2346
    12346|56|156|256|1256|356|1356|2356|12356|456|1456|2456|12456|3456|13456|23456"),
  (0x1fb3c, "LOWER LEFT BLOCK DIAGONAL ", "LOWER MIDDLEnTO LOWER CENTRE|adj|UPPERdCENTRE|adj
    anTO LOWER CENTRE"),
  (0x1fb41, "LOWER RIGHT BLOCK DIAGONAL UPPER MIDDLE LEFT TO UPPER ", "CENTRE|j"),
  (0x1fb43, "LOWER RIGHT BLOCK DIAGONAL LOWER ", "MIDDLEnTO UPPER CENTRE|dj|nTO UPPER CENTRE
    MIDDLEnTO UPPER MIDDLEj|CENTRE TO LOWER MIDDLEj|nd|CENTREaUPPERb|nd|CENTREbj"),
  (0x1fb4c, "LOWER LEFT BLOCK DIAGONAL UPPER ", "CENTRE TO UPPER MIDDLEj|nd|CENTREaLOWERb|nd
    CENTREbj|MIDDLEnTO LOWER MIDDLEj"),
  (0x1fb52, "UPPER RIGHT BLOCK DIAGONAL ", "LOWER MIDDLEnTO LOWER CENTRE|adj|UPPERdCENTRE|adj
    anTO LOWER CENTRE"),
  (0x1fb57, "UPPER LEFT BLOCK DIAGONAL UPPER MIDDLE LEFT TO UPPER ", "CENTRE|j"),
  (0x1fb59, "UPPER LEFT BLOCK DIAGONAL LOWER ", "MIDDLEnTO UPPER CENTRE|dj|nTO UPPER CENTRE
    MIDDLEnTO UPPER MIDDLEj|CENTRE TO LOWER MIDDLEj|nd|CENTREaUPPERb|nd|CENTREbj"),
  (0x1fb62, "UPPER RIGHT BLOCK DIAGONAL UPPER ", "CENTRE TO UPPER MIDDLEj|nd|CENTREaLOWERb|nd
    CENTREbj|MIDDLEnTO LOWER MIDDLEj"),
  (0x1fb68, "", "UPPER ANDjAND LOWER TRIANGULARpQUARTERS BLOCK|naLOWERajd|UPPERanaLOWERd|naUPPERajd
    nTRIANGULARxQUARTER BLOCK|UPPERd|jd|LOWERd"),
  (0x1fb70, "VERTICAL ONE EIGHTH BLOCK-", "2..7"),
  (0x1fb76, "HORIZONTAL ONE EIGHTH BLOCK-", "2..7"),
  (0x1fb7c, "", "nAND LOWERxEIGHTH BLOCK|bUPPERc|jad|bLOWERc|UPPERad|HORIZONTALxEIGHTH BLOCK-1358
    UPPERxQUARTER BLOCK|apEIGHTHSa|aFIVEb|apQUARTERSa|aSEVEN EIGHTHSa|jxQUARTERa|jpEIGHTHSa|jFIVEb
    jpQUARTERSa|jSEVEN EIGHTHSa|nHALF MEDIUM SHADE|jc|UPPERc|LOWERc|INVERSE MEDIUM SHADE
    UPPER HALF BLOCK AND LOWER HALF INVERSE MEDIUM SHADE
    bINVERSE MEDIUM SHADE AND LOWER HALF BLOCK||nadjb|CHECKER BOARD FILL|INVERSE CHECKER BOARD FILL
    HEAVY HORIZONTAL FILL|UPPERnTO LOWERjFILL|ajbna|aAND LOWER TRIANGULAR HALF BLOCK|najc
    UPPERnTRIANGULAR MEDIUM SHADE|ajc|LOWERd|anc"),
  (0x1fba0, "BOX DRAWINGS LIGHT DIAGONAL ", "UPPER CENTRE TO MIDDLEn|dj|MIDDLEnaLOWER CENTRE|ajc
    UPPER CENTREaMIDDLEnTO LOWER CENTRE|djc|MIDDLEnaLOWER CENTREaMIDDLEj|cUPPERd
    UPPER CENTREaMIDDLEnANDbTO LOWER CENTRE|djbnc|adTO LOWER CENTREaMIDDLEn|dnadj
    MIDDLEnaUPPER CENTREaMIDDLEjaLOWER CENTRE|ajadnc|DIAMOND"),
  (0x1fbaf, "", "BOX DRAWINGS LIGHT HORIZONTALhvSTROKE|ARROWHEAD-SHAPED POINTER|INVERSE CHECKu
    nHALF RUNNING MAN|jc|INVERSEzohTIPq|qoAND UPPER AND LOWERxEIGHTH BLOCK|kdd|zbjxEIGHTH BLOCK
    UPWARDSbd|nHALF FOLDER|jb|VOIDED GREEK CROSS|jOPEN SQUARED DOT|NEGATIVE DIAGONAL CROSS
    bMIDDLEjTO LOWER CENTRE|bDIAMOND|WHITE HEAVY SALTIREhROUNDED CORNERS|nTHIRD WHITEjPOINTING INDEX
    MIDDLEad|jad|NEGATIVE SQUARED QUESTIONu|STICK FIGURE|bhARMS RAISED|bLEANINGn|cj|bhDRESS
    WHITE UP-POINTING CHEVRON"),
  (0x1fbf0, "SEGMENTED DIGIT ", "ZERO|x|y|p|FOUR|FIVE|SIX|SEVEN|EIGHT|NINE"),
  (0xe0001, "", "LANGUAGE TAG"),
  (0xe0020, "TAG ", "SPACE|EXCLAMATIONu|QUOTATIONu|NUMBERi|DOLLARi|PERCENTi|AMPERSAND|APOSTROPHE
    nPARENTHESIS|ja|ASTERISK|PLUSi|COMMA|HYPHEN-MINUS|FULL STOP|SOLIDUS|DIGIT ZERO|ax|ay|ap|aFOUR
    aFIVE|aSIX|aSEVEN|aEIGHT|aNINE|COLON|SEMICOLON|LESS-THANi|EQUALSi|GREATER-THANi|QUESTIONu
    COMMERCIAL AT"),
  (0xe0041, "TAG LATIN CAPITAL LETTER ", "A..Z"),
  (0xe005b, "TAG ", "nSQUARE BRACKET|REVERSE SOLIDUS|jSQUARE BRACKET|CIRCUMFLEX ACCENT|LOW LINE
    GRAVE ACCENT"),
  (0xe0061, "TAG LATIN SMALL LETTER ", "A..Z"),
  (0xe007b, "", "TAGnCURLY BRACKET|avLINE|ajCURLY BRACKET|aTILDE|CANCEL TAG"),
  (0xe0100, "VARIATION SELECTOR-", "17..256")]

end FragmentWeaver.Text
