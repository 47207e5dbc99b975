/-!
# Names of characters: scripts

The names of the letters and signs of the scripts that are in use, with their marks and digits.
-/

namespace FragmentWeaver.Text

/-- Rows of European letters. -/
def europeanNames : List (Nat × String × String) := [
  (0x20, "", "SPACE|EXCLAMATIONu|QUOTATIONu|NUMBERi|DOLLARi|PERCENTi|AMPERSAND|APOSTROPHE
    nPARENTHESIS|ja|ASTERISK|PLUSi|COMMA|HYPHEN-MINUS|FULL STOP|SOLIDUS"),
  (0x30, "DIGIT ", "ZERO|x|y|p|FOUR|FIVE|SIX|SEVEN|EIGHT|NINE"),
  (0x3a, "", "COLON|SEMICOLON|LESS-THANi|EQUALSi|GREATER-THANi|QUESTIONu|COMMERCIAL AT"),
  (0x41, "LATIN CAPITAL LETTER ", "A..Z"),
  (0x5b, "", "nSQUARE BRACKET|REVERSE SOLIDUS|jSQUARE BRACKET|CIRCUMFLEX ACCENT|LOW LINE
    GRAVE ACCENT"),
  (0x61, "LATIN SMALL LETTER ", "A..Z"),
  (0x7b, "", "nCURLY BRACKET|vLINE|jCURLY BRACKET|TILDE"),
  (0xa0, "", "NO-BREAK SPACE|INVERTED EXCLAMATIONu|CENTi|POUNDi|CURRENCYi|YENi|BROKEN BAR|SECTIONi
    DIAERESIS|COPYRIGHTi|FEMININE ORDINAL INDICATOR|LEFT-POINTINGlANGLE QUOTATIONu|NOTi|SOFT HYPHEN
    REGISTEREDi|MACRON|DEGREEi|PLUS-MINUSi|SUPERSCRIPTy|ap|ACUTE ACCENT|MICROi|PILCROWi|MIDDLE DOT
    CEDILLA|SUPERSCRIPTx|MASCULINE ORDINAL INDICATOR|RIGHT-POINTINGlANGLE QUOTATIONu
    VULGAR FRACTIONxQUARTER|cHALF|bpQUARTERS|INVERTED QUESTIONu"),
  (0xc0, "LATIN CAPITAL LETTER ", "AhGRAVE|bACUTE|bCIRCUMFLEX|bTILDE|bDIAERESIS|bRINGm|AE|ChCEDILLA
    EhGRAVE|bACUTE|bCIRCUMFLEX|bDIAERESIS|IhGRAVE|bACUTE|bCIRCUMFLEX|bDIAERESIS|ETH|NhTILDE|OhGRAVE
    bACUTE|bCIRCUMFLEX|bTILDE|bDIAERESIS"),
  (0xd7, "", "MULTIPLICATIONi"),
  (0xd8, "LATIN CAPITAL LETTER ", "OhSTROKE|UhGRAVE|bACUTE|bCIRCUMFLEX|bDIAERESIS|YhACUTE|THORN"),
  (0xdf, "LATIN SMALL LETTER ", "SHARP S|AhGRAVE|bACUTE|bCIRCUMFLEX|bTILDE|bDIAERESIS|bRINGm|AE
    ChCEDILLA|EhGRAVE|bACUTE|bCIRCUMFLEX|bDIAERESIS|IhGRAVE|bACUTE|bCIRCUMFLEX|bDIAERESIS|ETH
    NhTILDE|OhGRAVE|bACUTE|bCIRCUMFLEX|bTILDE|bDIAERESIS"),
  (0xf7, "", "DIVISIONi"),
  (0xf8, "LATIN SMALL LETTER ", "OhSTROKE|UhGRAVE|bACUTE|bCIRCUMFLEX|bDIAERESIS|YhACUTE|THORN
    YhDIAERESIS"),
  (0x100, "LATIN ", "feAhMACRON|gd|fcBREVE|gd|fcOGONEK|gd|feChACUTE|gd|fcCIRCUMFLEX|gd|fcDOTm|ged
    fcCARON|gd|feDb|gd|fcSTROKE|gd|feEhMACRON|gd|fcBREVE|gd|fcDOTm|ged|fcOGONEK|gd|fcCARON|gd
    feGhCIRCUMFLEX|gd|fcBREVE|gd|fcDOTm|ged|fcCEDILLA|gd|feHhCIRCUMFLEX|gd|fcSTROKE|gd|feIhTILDE|gd
    fcMACRON|gd|fcBREVE|gd|fcOGONEK|gd|fcDOTm|geDOTLESS I|fLIGATURE IJ|gb|feJhCIRCUMFLEX|gd
    feKhCEDILLA|gd|bKRA|feLhACUTE|gd|fcCEDILLA|gd|fcCARON|gd|fcMIDDLE DOT|ged|fcSTROKE|gd|feNhACUTE
    gd|fcCEDILLA|gd|fcCARON|gd|cPRECEDED BY APOSTROPHE|feENG|gb|feOhMACRON|gd|fcBREVE|gd|fclACUTE
    ged|fLIGATURE OE|gb|feRhACUTE|gd|fcCEDILLA|gd|fcCARON|gd|feShACUTE|gd|fcCIRCUMFLEX|gd|fcCEDILLA
    gd|fcCARON|gd|feThCEDILLA|gd|fcCARON|gd|fcSTROKE|gd|feUhTILDE|gd|fcMACRON|gd|fcBREVE|gd|fcRINGm
    ged|fclACUTE|ged|fcOGONEK|gd|feWhCIRCUMFLEX|gd|feYb|gd|fcDIAERESIS|bZhACUTE|gd|fcDOTm|ged
    fcCARON|gd|bLONG S|bBhSTROKE|fcHOOK|dTOPBAR|gd|feTONE SIX|gc|feOPEN O|bChHOOK|gd|feAFRICAN D
    bDhHOOK|dTOPBAR|gd|bTURNED DELTA|feREVERSED E|bSCHWA|bOPEN E|bFhHOOK|gd|feGb|bGAMMA|geHV|feIOTA
    bIhSTROKE|bKhHOOK|gd|bLhBAR|bLAMBDAhSTROKE|feTURNED M|bNhnHOOK|gcLONGjLEG|feOhMIDDLE TILDE|dHORN
    gd|feOI|gb|fePhHOOK|gd|eYR|feTONEy|gc|feESH|eREVERSEDaLOOP|geThPALATAL HOOK|fcHOOK|gd
    fcRETROFLEX HOOK|bUhHORN|gd|feUPSILON|bVhHOOK|bYb|gd|feZhSTROKE|gd|feEZH|cREVERSED|gc|chTAIL
    eyhSTROKE|feTONE FIVE|gc|eINVERTED GLOTTAL STOPhSTROKE|eWYNN|eDENTAL CLICK|eLATERALa|eALVEOLARa
    eRETROFLEXa|feDZhCARON|bDhgeZhCARON|geDZhCARON|feLJ|bLhgeJ|geLJ|feNJ|bNhgeJ|geNJ|feAhCARON|gd
    feIb|gd|feOb|gd|feUb|gd|fcDIAERESIS AND MACRON|gbd|fedACUTE|gbd|fedCARON|gbd|fedGRAVE|gbd
    bTURNED E|feAhDIAERESIS AND MACRON|gbd|fcDOTmAND MACRON|gcd|feAEhMACRON|gd|feGhSTROKE|gd|fcCARON
    gd|feKb|gd|feOhOGONEK|gd|fdAND MACRON|gbd|feEZHhCARON|gd|bJb|feDZ|bDhgeZ|geDZ|feGhACUTE|gd
    feHWAIR|bWYNN|bNhGRAVE|gd|feAhRINGmAND ACUTE|gcd|feAEhACUTE|gd|feOhSTROKE AND ACUTE|gbd
    feAhlGRAVE|ged|fcINVERTED BREVE|ged|feEhlGRAVE|ged|fcINVERTED BREVE|ged|feIhlGRAVE|ged
    fcINVERTED BREVE|ged|feOhlGRAVE|ged|fcINVERTED BREVE|ged|feRhlGRAVE|ged|fcINVERTED BREVE|ged
    feUhlGRAVE|ged|fcINVERTED BREVE|ged|feShCOMMAt|ged|feTc|ged|feYOGH|gb|feHhCARON|gd|feNhLONGjLEG
    geDhCURL|feOU|gb|feZhHOOK|gd|feAhDOTm|ged|feEhCEDILLA|gd|feOhDIAERESIS AND MACRON|gbd|fcTILDEb
    gbd|fcDOTm|ged|fedAND MACRON|gcd|feYhMACRON"),
  (0x233, "LATIN SMALL LETTER ", "YhMACRON|LhCURL|Nb|Tb|DOTLESS J|DB DIGRAPH|QPa"),
  (0x23a, "LATIN ", "feAhSTROKE|bCb|gd|feLhBAR|bThDIAGONAL STROKE|geShSWASH TAIL|bZc|feGLOTTAL STOP
    gc|feBhSTROKE|bU BAR|bTURNED V|bEhSTROKE|gd|feJb|gd|fegQhHOOK TAIL|geQhHOOK TAIL|feRhSTROKE|gd
    feYb"),
  (0x24f, "LATIN SMALL LETTER ", "YhSTROKE|TURNED A|ALPHA|TURNED ALPHA|BhHOOK|OPEN O|ChCURL|DhTAIL
    bHOOK|REVERSED E|SCHWA|ahHOOK|OPEN E|REVERSED OPEN E|chHOOK|CLOSED REVERSED OPEN E
    DOTLESS JhSTROKE|GhHOOK|SCRIPT G"),
  (0x262, "", "LATINegfG"),
  (0x263, "LATIN SMALL LETTER ", "GAMMA|RAMS HORN|TURNED H|HhHOOK|HENGb|IhSTROKE|IOTA"),
  (0x26a, "", "LATINegfI"),
  (0x26b, "LATIN SMALL LETTER ", "LhMIDDLE TILDE|bBELT|bRETROFLEX HOOK|LEZH|TURNED M|bhLONG LEG
    MhHOOK|NhnHOOK|bRETROFLEXa"),
  (0x274, "LATIN ", "egfN|geBARRED O|egfOE"),
  (0x277, "LATIN SMALL LETTER ", "CLOSED OMEGA|PHI|TURNED R|bhLONG LEG|cHOOK|RhLONG LEG|bTAIL
    bFISHHOOK|REVERSED RhFISHHOOK"),
  (0x280, "LATIN LETTER SMALL CAPITAL ", "R|INVERTED R"),
  (0x282, "LATIN SMALL LETTER ", "ShHOOK|ESH|DOTLESS JhSTROKE AND HOOK|SQUAT REVERSED ESH|ESHhCURL
    TURNED T|ThRETROFLEX HOOK|U BAR|UPSILON|VhHOOK|TURNED V|aW|aY"),
  (0x28f, "LATIN ", "egfY|geZhRETROFLEX HOOK|dCURL|bEZH|chCURL|eGLOTTAL STOP
    ePHARYNGEAL VOICED FRICATIVE|eINVERTED GLOTTAL STOP|eSTRETCHED C|eBILABIAL CLICK|egfB
    geCLOSED OPEN E|egfGhHOOK|cH|geJhCROSSED-TAIL|bTURNED K|egfL|geQhHOOK|eGLOTTAL STOPhSTROKE
    eREVERSED GLOTTAL STOPhSTROKE"),
  (0x2a3, "LATIN SMALL LETTER ", "DZ DIGRAPH|DEZHa|DZahCURL|TSa|TESHa|TCahCURL|FENGa|LSa|LZa"),
  (0x2ac, "LATIN LETTER ", "BILABIAL PERCUSSIVE|BIDENTALa"),
  (0x2ae, "LATIN SMALL LETTER TURNED H WITH ", "FISHHOOK|aAND TAIL"),
  (0x2b0, "MODIFIER LETTER SMALL ", "H|HhHOOK|J|R|TURNED R|bhHOOK|fINVERTED R|W|Y"),
  (0x2b9, "MODIFIER LETTER ", "PRIME|lPRIME|TURNED COMMA|APOSTROPHE|REVERSED COMMA|jHALF RING|nb
    GLOTTAL STOP|REVERSED GLOTTAL STOP|nARROWHEAD|ja|UPa|DOWNa|CIRCUMFLEX ACCENT"),
  (0x2c7, "", "CARON"),
  (0x2c8, "MODIFIER LETTER ", "vLINE|MACRON|ACUTE ACCENT|GRAVEa|LOWvLINE|aMACRON|aGRAVE ACCENT
    aACUTEa|TRIANGULAR COLON|HALF TRIANGULAR COLON|CENTREDjHALF RING|anb|UP TACK|DOWNa|PLUSi
    MINUSi"),
  (0x2d8, "", "BREVE|DOTm|RINGm|OGONEK|gTILDE|lACUTE ACCENT"),
  (0x2de, "MODIFIER LETTER ", "RHOTIC HOOK|CROSS ACCENT|gGAMMA|gL|gS|gX|gREVERSED GLOTTAL STOP
    EXTRA-HIGH TONE BAR|HIGHb|MIDb|LOWb|EXTRA-LOWb|YIN DEPARTING TONEu|YANGc|VOICING|UNASPIRATED
    lAPOSTROPHE|LOW DOWN ARROWHEAD|aUPa|ana|aja|aRING|MIDDLE GRAVE ACCENT|alGRAVE ACCENT|bACUTEa
    LOW TILDE|RAISED COLON|BEGIN HIGH TONE|ENDb|BEGIN LOWa|ENDb|SHELF|OPEN SHELF|LOWno"),
  (0x300, "COMBINING ", "GRAVE ACCENT|ACUTEa|CIRCUMFLEXa|TILDE|MACRON|OVERLINE|BREVE|DOTm|DIAERESIS
    HOOKm|RINGm|lACUTE ACCENT|CARON|vLINEm|lvLINEm|lGRAVE ACCENT|CANDRABINDU|INVERTED BREVE
    TURNED COMMAm|COMMAm|REVERSED COMMAm|COMMAmj|GRAVE ACCENTt|ACUTEb|nTACKt|jb|nANGLEm|HORN
    nHALF RINGt|UP TACKt|DOWNb|PLUSit|MINUSb|PALATALIZED HOOKt|RETROFLEXb|DOTt|DIAERESISt|RINGt
    COMMAt|CEDILLA|OGONEK|vLINEt|BRIDGEt|INVERTEDlARCHt|CARONt|CIRCUMFLEX ACCENTt|BREVEt
    INVERTED BREVEt|TILDEt|MACRONt|LOW LINE|lLOW LINE|TILDE OVERLAY|SHORT STROKE OVERLAY|LONGb
    SHORT SOLIDUSa|LONGb|jHALF RINGt|INVERTED BRIDGEt|SQUAREt|SEAGULLt|Xm|vTILDE|lOVERLINE
    GRAVE TONEu|ACUTEb|GREEK PERISPOMENI|aKORONIS|aDIALYTIKA TONOS|aYPOGEGRAMMENI|BRIDGEm|EQUALSit
    lvLINEt|nANGLEt|NOT TILDEm|HOMOTHETICm|ALMOST EQUAL TOm|njot|UPWARDSot|GRAPHEME JOINER
    jARROWHEADm|nHALF RINGm|FERMATA|Xt|nARROWHEADt|jb|bAND UP ARROWHEADt|jHALF RINGm|DOTmj|ASTERISKt
    lRINGt|ZIGZAGm"),
  (0x35c, "COMBINING DOUBLE ", "BREVEt|a|MACRON|at|TILDE|INVERTED BREVE|kot"),
  (0x363, "COMBINING LATIN SMALL LETTER ", "A|E|I|O|U|C|D|H|M|R|T|V|X"),
  (0x370, "GREEK ", "feHETA|gb|feARCHAIC SAMPI|gc|NUMERALi|LOWER NUMERALi|fePAMPHYLIAN DIGAMMA
    gc|||YPOGEGRAMMENI|gREVERSED LUNATE SIGMA SYMBOL|gDOTTEDc|gREVERSED DOTTED LUNATE SIGMA SYMBOL
    QUESTIONu|feYOT|||||TONOS|DIALYTIKA TONOS|feALPHAhTONOS|ANO TELEIA"),
  (0x388, "GREEK CAPITAL LETTER ", "EPSILONhTONOS|ETAb|IOTAb||OMICRONb||UPSILONb|OMEGAb"),
  (0x390, "", "GREEKgeIOTAhDIALYTIKA AND TONOS"),
  (0x391, "GREEK CAPITAL LETTER ", "ALPHA|BETA|GAMMA|DELTA|EPSILON|ZETA|ETA|THETA|IOTA|KAPPA|LAMDA
    MU|NU|XI|OMICRON|PI|RHO||SIGMA|TAU|UPSILON|PHI|CHI|PSI|OMEGA|IOTAhDIALYTIKA|UPSILONb"),
  (0x3ac, "GREEK SMALL LETTER ", "ALPHAhTONOS|EPSILONb|ETAb|IOTAb|UPSILONhDIALYTIKA AND TONOS|ALPHA
    BETA|GAMMA|DELTA|EPSILON|ZETA|ETA|THETA|IOTA|KAPPA|LAMDA|MU|NU|XI|OMICRON|PI|RHO|sSIGMA|SIGMA
    TAU|UPSILON|PHI|CHI|PSI|OMEGA|IOTAhDIALYTIKA|UPSILONb|OMICRONhTONOS|UPSILONb|OMEGAb"),
  (0x3cf, "GREEK ", "fKAI SYMBOL|BETA SYMBOL|THETAa|UPSILONhHOOK SYMBOL|bACUTE AND HOOK SYMBOL
    bDIAERESISc|PHI SYMBOL|PIa|KAIa|eARCHAIC KOPPA|geARCHAIC KOPPA|eSTIGMA|geSTIGMA|eDIGAMMA
    geDIGAMMA|eKOPPA|geKOPPA|eSAMPI|geSAMPI"),
  (0x3e2, "COPTIC ", "feSHEI|gb|feFEI|gb|feKHEI|gb|feHORI|gb|feGANGIA|gb|feSHIMA|gb|feDEI|gb"),
  (0x3f0, "GREEK ", "KAPPA SYMBOL|RHOa|LUNATE SIGMA SYMBOL|eYOT|fTHETA SYMBOL|LUNATE EPSILONa
    REVERSED LUNATE EPSILON SYMBOL|feSHO|gb|fLUNATE SIGMA SYMBOL|feSAN|gb|RHOhSTROKE SYMBOL
    fREVERSED LUNATE SIGMA SYMBOL|fDOTTEDc|fREVERSED DOTTED LUNATE SIGMA SYMBOL"),
  (0x400, "CYRILLIC CAPITAL LETTER ", "IEhGRAVE|IO|DJE|GJE|UKRAINIAN IE|DZE|BYELORUSSIAN-UKRAINIAN I
    YI|JE|LJE|NJE|TSHE|KJE|IhGRAVE|SHORT U|DZHE|A|BE|VE|GHE|DE|IE|ZHE|ZE|I|SHORT I|KA|EL..N|O|PE|ER
    ES|TE|U|EF|HA|TSE|CHE|SHA|SHCHA|HARDi|YERU|SOFTi|E|YU|YA"),
  (0x430, "CYRILLIC SMALL LETTER ", "A|BE|VE|GHE|DE|IE|ZHE|ZE|I|SHORT I|KA|EL..N|O|PE|ER|ES|TE|U|EF
    HA|TSE|CHE|SHA|SHCHA|HARDi|YERU|SOFTi|E|YU|YA|IEhGRAVE|IO|DJE|GJE|UKRAINIAN IE|DZE
    BYELORUSSIAN-UKRAINIAN I|YI|JE|LJE|NJE|TSHE|KJE|IhGRAVE|SHORT U|DZHE"),
  (0x460, "CYRILLIC ", "feOMEGA|gb|feYAT|gb|feIOTIFIED E|gc|feLITTLE YUS|gc|feIOTIFIED LITTLE YUS|gd
    feBIG YUS|gc|feIOTIFIED BIG YUS|gd|feKSI|gb|fePSI|gb|feFITA|gb|feIZHITSA|gb|fbhlGRAVE ACCENT|gbd
    feUK|gb|feROUND OMEGA|gc|feOMEGAhTITLO|gd|feOT|gb|feKOPPA|gb|THOUSANDSi"),
  (0x483, "COMBINING CYRILLIC ", "TITLO|PALATALIZATION|DASIA PNEUMATA|PSILIa|POKRYTIE
    HUNDRED THOUSANDSi|MILLIONSi"),
  (0x48a, "CYRILLIC ", "feSHORT IhTAIL|ged|feSEMISOFTi|gc|feERhTICK|gd|feGHEhUPTURN|gd|fcSTROKE|gd
    fcMIDDLE HOOK|ged|feZHEhDESCENDER|gd|feZEb|gd|feKAb|gd|fcvSTROKE|ged|fcSTROKE|gd|feBASHKIR KA|gc
    feENhDESCENDER|gd|fLIGATUREaGHE|gc|fePEhMIDDLE HOOK|ged|feABKHASIAN HA|gc|feEShDESCENDER|gd
    feTEb|gd|feSTRAIGHT U|gc|fchSTROKE|ged|feHAhDESCENDER|gd|fLIGATURE TE TSE|gc|feCHEhDESCENDER|gd
    fcvSTROKE|ged|feSHHA|gb|feABKHASIAN CHE|gc|fchDESCENDER|ged|ePALOCHKA|feZHEhBREVE|gd|feKAhHOOK
    gd|feELhTAIL|gd|feENhHOOK|gd|fcTAIL|gd|feKHAKASSIAN CHE|gc|feEMhTAIL|gd|bPALOCHKA|feAhBREVE|gd
    fcDIAERESIS|gd|fLIGATUREaIE|gc|feIEhBREVE|gd|feSCHWA|gb|fbhDIAERESIS|gd|feZHEb|gd|feZEb|gd
    feABKHASIAN DZE|gc|feIhMACRON|gd|fcDIAERESIS|gd|feOb|gd|feBARRED O|gc|fchDIAERESIS|ged
    feEhDIAERESIS|gd|feUhMACRON|gd|fcDIAERESIS|gd|fclACUTE|ged|feCHEhDIAERESIS|gd|feGHEhDESCENDER|gd
    feYERUhDIAERESIS|gd|feGHEhSTROKE AND HOOK|gbd|feHAhHOOK|gd|fcSTROKE|gd|feKOMI DE|gc|fbDJE|gc
    fbZJE|gc|fbDZJE|gc|fbLJE|gc|fbNJE|gc|fbSJE|gc|fbTJE|gc|feREVERSED ZE|gc|feELhHOOK|gd|feLHA|gb
    feRHA|gb|feYAE|gb|feQA|gb|feWE|gb|feALEUT KA|gc|feELhMIDDLE HOOK|ged|feENc|ged|fePEhDESCENDER|gd
    feSHHAb|gd|feENhnHOOK|ged|feDZZHE|gb|feDCHE|gb|feELhDESCENDER|gd"),
  (0x531, "ARMENIAN CAPITAL LETTER ", "AYB|BEN|GIM|DA|ECH|ZA|EH|ET|TO|ZHE|INI|LIWN|XEH|CA|KEN|HO|JA
    GHAD|CHEH|MEN|YI|NOW|SHA|VO|CHA|PEH|JHEH|RA|SEH|VEW|TIWN|REH|CO|YIWN|PIWR|KEH|OH|FEH"),
  (0x559, "ARMENIAN ", "MODIFIERenHALF RING|APOSTROPHE|EMPHASISu|EXCLAMATIONu|COMMA|QUESTIONu
    ABBREVIATIONu"),
  (0x560, "ARMENIAN SMALL LETTER ", "TURNED AYB|AYB|BEN|GIM|DA|ECH|ZA|EH|ET|TO|ZHE|INI|LIWN|XEH|CA
    KEN|HO|JA|GHAD|CHEH|MEN|YI|NOW|SHA|VO|CHA|PEH|JHEH|RA|SEH|VEW|TIWN|REH|CO|YIWN|PIWR|KEH|OH
    FEH"),
  (0x587, "ARMENIAN ", "gLIGATURE ECH YIWN|geYIhSTROKE|FULL STOP|HYPHEN"),
  (0x58d, "", "RIGHT-FACING ARMENIAN ETERNITYi|LEFT-FACINGc|ARMENIAN DRAMi")]

/-- Rows of Eastern scripts. -/
def easternNames : List (Nat × String × String) := [
  (0x591, "HEBREW ACCENT ", "ETNAHTA|SEGOL|SHALSHELET|ZAQEF QATAN|aGADOL|TIPEHA|REVIA|ZARQA|PASHTA
    YETIV|TEVIR|GERESH|aMUQDAM|GERSHAYIM|QARNEY PARA|TELISHA GEDOLA|PAZER|ATNAH HAFUKH|MUNAH
    MAHAPAKH|MERKHA|aKEFULA|DARGA|QADMA|TELISHA QETANA|YERAH BEN YOMO|OLE|ILUY|DEHI|ZINOR"),
  (0x5af, "", "HEBREWuMASORA CIRCLE"),
  (0x5b0, "HEBREW POINT ", "SHEVA|HATAF SEGOL|aPATAH|aQAMATS|HIRIQ|TSERE|SEGOL|PATAH|QAMATS|HOLAM
    aHASER FOR VAV|QUBUTS|DAGESH OR MAPIQ|METEG"),
  (0x5be, "HEBREW ", "PUNCTUATION MAQAF|POINT RAFE|PUNCTUATION PASEQ|POINT SHIN DOT|aSINa
    PUNCTUATION SOF PASUQ|uUPPER DOT|uLOWERa|PUNCTUATION NUN HAFUKHA|POINT QAMATS QATAN"),
  (0x5d0, "HEBREW LETTER ", "ALEF|BET|GIMEL|DALET|HE|VAV|ZAYIN|HET|TET|YOD|sKAF|KAF|LAMED|sMEM|MEM
    sNUN|NUN|SAMEKH|AYIN|sPE|PE|sTSADI|TSADI|QOF|RESH|SHIN|TAV"),
  (0x5ef, "HEBREW ", "YOD TRIANGLE|LIGATURE YIDDISHlVAV|bVAV YOD|bla|PUNCTUATION GERESH
    aGERSHAYIM"),
  (0x600, "ARABIC ", "NUMBERi|iSANAH|FOOTNOTE MARKER|iSAFHA|iSAMVAT|NUMBERum"),
  (0x606, "", "ARABIC-INDIC CUBE ROOT|aFOURTHa|ARABIC RAY|ARABIC-INDIC PER MILLEi|bTEN THOUSANDi
    AFGHANIi"),
  (0x60c, "ARABIC ", "COMMA|DATE SEPARATOR|POETIC VERSEi|iMISRA|iSALLALLAHOU ALAYHE WASSALLAM
    iALAYHE ASSALLAM|iRAHMATULLAH ALAYHE|iRADI ALLAHOU ANHU|iTAKHALLUS|gHIGH TAH
    bLIGATURE ALEFhLAMhYEH|bZAIN|gFATHA|gDAMMA|gKASRA|SEMICOLON|eu|END OF TEXTu
    TRIPLE DOT PUNCTUATIONu|QUESTIONu"),
  (0x620, "ARABIC LETTER ", "KASHMIRI YEH|HAMZA|ALEFhMADDAm|bHAMZAm|WAWc|ALEFbt|YEHbm|ALEF|BEH
    TEH MARBUTA|a|THEH|JEEM|HAH|KHAH|DAL|THAL|REH|ZAIN|SEEN|SHEEN|SAD|DAD|TAH|ZAH|AIN|GHAIN
    KEHEHhyDOTSm|bpat|FARSI YEHhINVERTED V|cyDOTSm|cpb"),
  (0x640, "ARABIC ", "TATWEEL|eFEH|eQAF|eKAF|eLAM|eMEEM|eNOON|eHEH|eWAW|eALEF MAKSURA|eYEH|FATHATAN
    DAMMATAN|KASRATAN|FATHA|DAMMA|KASRA|SHADDA|SUKUN|MADDAHm|HAMZAm|at|SUBSCRIPT ALEF|INVERTED DAMMA
    uNOON GHUNNA|ZWARAKAY|VOWELigVm|bINVERTEDgVm|bDOTt|REVERSED DAMMA|FATHAhyDOTS|WAVY HAMZAt"),
  (0x660, "ARABIC-INDIC DIGIT ", "ZERO|x|y|p|FOUR|FIVE|SIX|SEVEN|EIGHT|NINE"),
  (0x66a, "ARABIC ", "PERCENTi|DECIMAL SEPARATOR|THOUSANDSa|FIVE POINTED STAR"),
  (0x66e, "ARABIC LETTER ", "DOTLESS BEH|aQAF|SUPERSCRIPT ALEF|ALEF WASLA|ahWAVY HAMZAm|dt
    HIGH HAMZA|bALEF|bWAW|UhHAMZAm|HIGH HAMZA YEH|TTEH|TTEHEH|BEEH|TEHhRING|bpDOTSmz|PEH|TEHEH|BEHEH
    HAHhHAMZAm|byDOTSvm|NYEH|DYEH|HAHhpDOTSm|TCHEH|TCHEHEH|DDAL|DALhRING|bDOTt|dANDgTAH|DAHAL|DDAHAL
    DUL|DALhpDOTSmz|bFOURb|RREH|REHhgV|bRING|bDOTt|bgVt|bDOTtAND DOTm|byDOTSm|JEH|REHhFOUR DOTSm
    SEENhDOTtAND DOTm|bpDOTSt|adANDpDOTSm|SADhyb|bpam|TAHd|AINd|DOTLESS FEH|FEHhDOT MOVEDt|ct|VEH
    FEHhpDOTSt|PEHEH|QAFhDOTm|bpDOTSm|KEHEH|SWASH KAF|KAFhRING|bDOTm|NG|KAFhpDOTSt|GAF|ahRING|NGOEH
    GAFhyDOTSt|GUEH|GAFhpDOTSm|LAMhgV|bDOTm|bpDOTSm|dt|NOONhDOTt|aGHUNNA|RNOON|NOONhRING|bpDOTSm
    HEH DOACHASHMEE|TCHEHhDOTm|HEHhYEHm|aGOAL|bhHAMZAm|TEH MARBUTA GOAL|WAWhRING|KIRGHIZ OE|OE|U|YU
    KIRGHIZ YU|WAWhyDOTSm|VE|FARSI YEH|YEHhTAIL|bgV|WAWhDOTm|E|YEHhpDOTSt|aBARREE|bhHAMZAm"),
  (0x6d4, "ARABIC ", "FULL STOP|eAE|gHIGH LIGATURE SADhLAMhALEF MAKSURA|cQAFhd|bMEEM INITIAL FORM
    bLAM ALEF|bJEEM|bpDOTS|bSEEN|END OF AYAH|STARTaRUB EL HIZB|gHIGH ROUNDED ZERO
    bUPRIGHT RECTANGULAR ZERO|bDOTLESS HEAD OF KHAH|bMEEMrFORM|gLOW SEEN|gHIGH MADDA|gWAW|gYEH
    gHIGH YEH|bNOON|PLACE OF SAJDAH|EMPTY CENTRE LOW STOP|bHIGHa|ROUNDED HIGH STOPhFILLED CENTRE
    gLOW MEEM|eDALhINVERTED V|eREHc"),
  (0x6f0, "EXTENDED ARABIC-INDIC DIGIT ", "ZERO|x|y|p|FOUR|FIVE|SIX|SEVEN|EIGHT|NINE"),
  (0x6fa, "ARABIC ", "eSHEENhDOTt|eDADc|eGHAINc|iSINDHI AMPERSAND|bPOSTPOSITION MEN
    eHEHhINVERTED V"),
  (0x700, "SYRIAC ", "END OF PARAGRAPH|SUPRALINEAR FULL STOP|SUBLINEARb|SUPRALINEAR COLON|SUBLINEARa
    HORIZONTALa|COLON SKEWEDn|bj|SUPRALINEAR COLON SKEWEDn|SUBLINEARbj|CONTRACTION|HARKLEAN OBELUS
    aMETOBELUS|aASTERISCUS||ABBREVIATIONu"),
  (0x710, "SYRIAC LETTER ", "ALAPH|SUPERSCRIPT ALAPH|BETH|GAMAL|aGARSHUNI|DALATH|DOTLESS DALATH RISH
    HE|WAW|ZAIN|HETH|TETH|aGARSHUNI|YUDH|aHE|KAPH|LAMADH|MIM|NUN|SEMKATH|sSEMKATH|E|PE|REVERSED PE
    SADHE|QAPH|RISH|SHIN|TAW|PERSIAN BHETH|aGHAMAL|aDHALATH"),
  (0x730, "SYRIAC ", "PTHAHAm|at|aDOTTED|ZQAPHAm|at|aDOTTED|RBASAm|at|DOTTED ZLAMA HORIZONTAL
    bANGULAR|HBASAm|at|HBASA-ESASA DOTTED|ESASAm|at|RWAHA|FEMININE DOT|QUSHSHAYA|RUKKAKHA|yvDOTSm|ct
    pDOTSm|bt|OBLIQUE LINEm|bt|MUSIC|BARREKH|||eSOGDIAN ZHAIN|bKHAPH|bFE"),
  (0x750, "ARABIC LETTER BEH WITH ", "pDOTS HORIZONTALLYt|DOTtANDpDOTSm|pDOTS POINTING UPWARDSt
    pdANDyDOTSm|yatAND DOTm|INVERTEDgVt|gV"),
  (0x757, "ARABIC LETTER ", "HAHhyDOTSm|bpaPOINTING UPWARDSt|DALhyaVERTICALLYtANDgTAH|bINVERTEDgVt
    REHhSTROKE|SEENhFOUR DOTSm|AINhyb|bpaPOINTINGzm|byaVERTICALLYm|FEHct|bpaPOINTING UPWARDSt
    KEHEHhDOTm|bpDOTSm|dPOINTING UPWARDSt|MEEMhDOTm|ct|NOONhyDOTSt|bgTAH|cV|LAMhBAR
    REHhyDOTS VERTICALLYm|bHAMZAm|SEENhyDOTS VERTICALLYm|HAHhgARABICeTAHt|bdANDyDOTS|SEENdd|REHdd
    HAHhdm|ALEFhEXTENDED ARABIC-INDIC DIGITym|adpm"),
  (0x775, "ARABIC LETTER FARSI YEH WITH EXTENDED ARABIC-INDIC DIGIT ", "ym|pm|FOURt"),
  (0x778, "ARABIC LETTER WAW WITH EXTENDED ARABIC-INDIC DIGIT ", "ym|pm"),
  (0x77a, "ARABIC LETTER YEH BARREE WITH EXTENDED ARABIC-INDIC DIGIT ", "ym|pm"),
  (0x77c, "ARABIC LETTER ", "HAHhEXTENDED ARABIC-INDIC DIGIT FOURt|SEENhdm|bINVERTED V|KAFhyDOTSm"),
  (0x780, "THAANA LETTER ", "HAA|SHAVIYANI|NOONU|RAA|BAA|LHAVIYANI|KAAFU|ALIFU|VAAVU|MEEMU|FAAFU
    DHAALU|THAA|LAAMU|GAAFU|GNAVIYANI|SEENU|DAVIYANI|ZAVIYANI|TAVIYANI|YAA|PAVIYANI|JAVIYANI
    CHAVIYANI|TTAA|HHAA|KHAA|THAALU|ZAA|SHEENU|SAADHU|DAADHU|TO|ZO|AINU|GHAINU|QAAFU|WAAVU"),
  (0x7a6, "THAANA ", "ABAFILI|AABAAFILI|IBIFILI|EEBEEFILI|UBUFILI|OOBOOFILI|EBEFILI|EYBEYFILI
    OBOFILI|OABOAFILI|SUKUN|eNAA"),
  (0x7c0, "NKO DIGIT ", "ZERO|x|y|p|FOUR|FIVE|SIX|SEVEN|EIGHT|NINE"),
  (0x7ca, "NKO LETTER ", "A|EE|I|E|U|OO|O|DAGBASINNA|N|BA|PA|TA|JA|CHA|DA|RA|RRA|SA|GBA|FA|KA|LA
    NA WOLOSO|MA|NYA|NA|HA|WA|YA|NYA WOLOSO|JONA JA|aCHA|aRA"),
  (0x7eb, "NKO COMBINING ", "SHORT HIGH TONE|aLOWa|aRISINGa|LONG DESCENDINGa|aHIGHa|aLOWa|aRISINGa
    NASALIZATIONu|lDOTm"),
  (0x7f4, "NKO ", "HIGH TONE APOSTROPHE|LOWb|SYMBOL OO DENNEN|aGBAKURUNEN|COMMA|EXCLAMATIONu
    LAJANYALAN|||DANTAYALAN|DOROMEi|TAMANi"),
  (0x800, "SAMARITAN LETTER ", "ALAF|BIT|GAMAN|DALAT|IY|BAA|ZEN|IT|TIT|YUT|KAAF|LABAT|MIM|NUN
    SINGAAT|IN|FI|TSAADIY|QUF|RISH|SHAN|TAAF"),
  (0x816, "SAMARITAN ", "uIN|uIN-ALAF|uOCCLUSION|uDAGESH|MODIFIEReEPENTHETIC YUT|uEPENTHETIC YUT"),
  (0x81c, "SAMARITAN VOWEL SIGN ", "LONG E|E|OVERLONG AA|LONGa|AA|OVERLONG A|LONGa|A"),
  (0x824, "SAMARITAN ", "MODIFIEReSHORT A|VOWELib|bLONG U|bU|MODIFIEReI|VOWELiLONG I|bI|bO|bSUKUN
    uNEQUDAA|||PUNCTUATIONa|aAFSAAQ|aANGED|aBAU|aATMAAU|aSHIYYAALAA|ABBREVIATIONu"),
  (0x837, "SAMARITAN PUNCTUATION ", "MELODIC QITSA|ZIQAA|QITSA|ZAEF|TURU|ARKAANU|SOF MASHFAAT
    ANNAAU"),
  (0x840, "MANDAIC LETTER ", "HALQA|AB|AG|AD|AH|USHENNA|AZ|IT|ATT|AKSA|AK..N|AS|IN|AP|ASZ|AQ|AR|ASH
    AT|DUSHENNA|KAD|AIN"),
  (0x859, "MANDAIC ", "AFFRICATIONu|VOCALIZATIONu|GEMINATIONu|||PUNCTUATION"),
  (0x860, "SYRIAC LETTER MALAYALAM ", "NGA|JA|NYA|TTA|NNA|NNNA|BHA|RA|LLA|LLLA|SSA"),
  (0x870, "ARABIC LETTER ALEF WITH ", "ATTACHED FATHA|aTOPjFATHA|jMIDDLE STROKE|nb|ATTACHED KASRA
    aBOTTOMjKASRA|aROUND DOTm|ajROUND DOT|anb|aROUND DOTt|DOTm|ATTACHED TOPjFATHA AND DOTm
    jMIDDLE STROKE AND DOTm|ATTACHED BOTTOMjKASRA AND DOTm|aTOPjFATHAanRING|jMIDDLE STROKE ANDnRING
    ATTACHED BOTTOMjKASRA ANDnRING|ajHAMZA|ana"),
  (0x883, "ARABIC ", "TATWEELhOVERSTRUCK HAMZA|cWAW|byDOTSt|eTHIN YEH|BASELINE ROUND DOT|RAISEDb
    eNOONhINVERTEDgV|eHAHdt|eTAHhDOTt|cpDOTSt|eKEHEHhyaVERTICALLYt|vTAIL||POUNDum
    PIASTREb|||||||gHIGH WORD AL-JUZ|gLOWaISHMAAM|cIMAALA|cTASHEEL|MADDA WAAJIB
    SUPERSCRIPT ALEF MOKHASSAS|DOUBLED MADDA|HALFaOVER MADDA"),
  (0x8a0, "ARABIC LETTER ", "BEHhgVt|bHAMZAm|JEEMhyDOTSm|TAHd|FEHhDOTtANDpDOTSm|QAFc|LAMhlBAR
    MEEMhpDOTSm|YEHhyatAND HAMZAm|bdDOTm|REHhLOOP|WAWhDOT WITHIN|ROHINGYA YEH|LOW ALEF|DALhpDOTSt
    SADd|GAFhINVERTED STROKE|STRAIGHT WAW|ZAINhINVERTED Vm|AINhpDOTSt|KAFhDOTt|QAFcAND NO DOTSm
    BEHhgMEEMm|PEHd|TEHbTEHm|REHbNOONm|YEHhyDOTStANDgNOONm|AFRICAN FEH|aQAF|aNOON|PEHhgV|TEHc|TTEHc
    TCHEHc|KEHEHc|GHAINhpDOTSm|AFRICAN QAFhpDOTSm|JEEMhpDOTSm|dt|LAMhgARABICeTAHm|GRAF"),
  (0x8c9, "ARABIC ", "gFARSI YEH|gHIGH FARSI YEH|bYEH BARREEhyDOTSt|bWORD SAH|bZAH|LARGE ROUND DOTm
    ct|SUKUNt|LARGE CIRCLEt|aROUND DOT INSIDE CIRCLEt"),
  (0x8d3, "ARABIC SMALL ", "LOW WAW|HIGH WORD AR-RUB|aSAD|aAIN|aQAF|aNOONhKASRA|LOWc
    HIGH WORD ATH-THALATHA|bAS-SAJDA|bAN-NISF|bSAKTA|bQIF|bWAQFA|aFOOTNOTE MARKER|aiSAFHA"),
  (0x8e2, "ARABIC ", "DISPUTED END OF AYAH|TURNED DAMMAt|CURLY FATHA|aDAMMA|aKASRA|aFATHATAN
    aDAMMATAN|aKASRATAN|TONExDOTm|ayDOTSm|aLOOPm|axDOTt|ayDOTSt|aLOOPt|OPEN FATHATAN|aDAMMATAN
    aKASRATAN|gHIGH WAW|FATHAhRING|bDOTm|KASRAbt|nARROWHEADm|jb|nat|jb|ljARROWHEADm|dhDOT
    jARROWHEADmhDOT|DAMMAhDOT|uSIDEWAYS NOON GHUNNA"),
  (0x900, "DEVANAGARI SIGN ", "INVERTED CANDRABINDU|CANDRABINDU|ANUSVARA|VISARGA"),
  (0x904, "DEVANAGARI LETTER ", "SHORT A|A|AA|I|II|U|UU|VOCALIC R|aL|CANDRA E|SHORTa|E|AI|CANDRA O
    SHORTa|O|AU|KA|KHA|GA|GHA|NGA|CA|CHA|JA|JHA|NYA|TTA|TTHA|DDA|DDHA|NNA|TA|THA|DA|DHA|NA|NNNA|PA
    PHA|BA|BHA|MA|YA|RA|RRA|LA|LLA|LLLA|VA|SHA|SSA|SA|HA"),
  (0x93a, "DEVANAGARI ", "VOWELiOE|bOOE|iNUKTA|iAVAGRAHA"),
  (0x93e, "DEVANAGARI VOWEL SIGN ", "AA|I|II|U|UU|VOCALIC R|aRR|CANDRA E|SHORTa|E|AI|CANDRA O|SHORTa
    O|AU"),
  (0x94d, "DEVANAGARI ", "iVIRAMA|VOWELiPRISHTHAMATRA E|bAW|OM|STRESSiUDATTA|bANUDATTA|GRAVE ACCENT
    ACUTEa|VOWELiCANDRA LONG E|bUE|bUUE|eQA|eKHHA|eGHHA|eZA|eDDDHA|eRHA|eFA|eYYA|eVOCALIC RR|bLL
    VOWELiVOCALIC L|cLL|DANDA|lDANDA|DIGIT ZERO|ax|ay|ap|aFOUR|aFIVE|aSIX|aSEVEN|aEIGHT|aNINE
    ABBREVIATIONi|iHIGH SPACING DOT"),
  (0x972, "DEVANAGARI LETTER ", "CANDRA A|OE|OOE|AW|UE|UUE|MARWARI DDA|ZHA|HEAVY YA|GGA|JJA
    GLOTTAL STOP|DDDA|BBA"),
  (0x980, "BENGALI ", "ANJI|iCANDRABINDU|iANUSVARA|iVISARGA"),
  (0x985, "BENGALI LETTER ", "A|AA|I|II|U|UU|VOCALIC R|aL|||E|AI|||O|AU|KA|KHA|GA|GHA|NGA|CA|CHA|JA
    JHA|NYA|TTA|TTHA|DDA|DDHA|NNA|TA|THA|DA|DHA|NA||PA|PHA|BA|BHA|MA|YA|RA||LA||||SHA|SSA|SA|HA"),
  (0x9bc, "BENGALI SIGN ", "NUKTA|AVAGRAHA"),
  (0x9be, "BENGALI VOWEL SIGN ", "AA|I|II|U|UU|VOCALIC R|aRR|||E|AI|||O|AU"),
  (0x9cd, "BENGALI ", "iVIRAMA|eKHANDA TA|||||||||AU LENGTHu|||||eRRA|eRHA||eYYA|eVOCALIC RR|bLL
    VOWELiVOCALIC L|cLL|||DIGIT ZERO|ax|ay|ap|aFOUR|aFIVE|aSIX|aSEVEN|aEIGHT|aNINE
    eRAhMIDDLE DIAGONAL|cLOWERa|RUPEEu|ai"),
  (0x9f4, "BENGALI CURRENCY NUMERATOR ", "x|y|p|FOUR|xLESS THAN THE DENOMINATOR"),
  (0x9f9, "BENGALI ", "CURRENCY DENOMINATOR SIXTEEN|ISSHAR|GANDAu|eVEDIC ANUSVARA|ABBREVIATIONi
    SANDHIu"),
  (0xa01, "GURMUKHI SIGN ", "ADAK BINDI|BINDI|VISARGA"),
  (0xa05, "GURMUKHI LETTER ", "A|AA|I|II|U|UU|||||EE|AI|||OO|AU|KA|KHA|GA|GHA|NGA|CA|CHA|JA|JHA|NYA
    TTA|TTHA|DDA|DDHA|NNA|TA|THA|DA|DHA|NA||PA|PHA|BA|BHA|MA|YA|RA||LA|LLA||VA|SHA||SA|HA"),
  (0xa3c, "", "GURMUKHIiNUKTA"),
  (0xa3e, "GURMUKHI VOWEL SIGN ", "AA|I|II|U|UU|||||EE|AI|||OO|AU"),
  (0xa4d, "GURMUKHI ", "iVIRAMA||||iUDAAT||||||||eKHHA|eGHHA|eZA|eRRA||eFA||||||||DIGIT ZERO|ax|ay
    ap|aFOUR|aFIVE|aSIX|aSEVEN|aEIGHT|aNINE|TIPPI|ADDAK|IRI|URA|EK ONKAR|iYAKASH|ABBREVIATIONi"),
  (0xa81, "GUJARATI ", "iCANDRABINDU|iANUSVARA|iVISARGA||eA|eAA|eI|eII|eU|eUU|eVOCALIC R|bL
    VOWEL CANDRA E||eE|eAI|VOWEL CANDRA O"),
  (0xa93, "GUJARATI LETTER ", "O|AU|KA|KHA|GA|GHA|NGA|CA|CHA|JA|JHA|NYA|TTA|TTHA|DDA|DDHA|NNA|TA|THA
    DA|DHA|NA||PA|PHA|BA|BHA|MA|YA|RA||LA|LLA||VA|SHA|SSA|SA|HA"),
  (0xabc, "GUJARATI SIGN ", "NUKTA|AVAGRAHA"),
  (0xabe, "GUJARATI VOWEL SIGN ", "AA|I|II|U|UU|VOCALIC R|aRR|CANDRA E||E|AI|CANDRA O||O|AU"),
  (0xacd, "GUJARATI ", "iVIRAMA|||OM"),
  (0xae0, "GUJARATI ", "eVOCALIC RR|bLL|VOWELiVOCALIC L|cLL|||DIGIT ZERO|ax|ay|ap|aFOUR|aFIVE|aSIX
    aSEVEN|aEIGHT|aNINE|ABBREVIATIONi|RUPEEi||||||||eZHA|iSUKUN|iSHADDA|iMADDAH|iTHREE-DOT NUKTAm
    iCIRCLEb|iTWO-CIRCLEb"),
  (0xb01, "ORIYA SIGN ", "CANDRABINDU|ANUSVARA|VISARGA"),
  (0xb05, "ORIYA LETTER ", "A|AA|I|II|U|UU|VOCALIC R|aL|||E|AI|||O|AU|KA|KHA|GA|GHA|NGA|CA|CHA|JA
    JHA|NYA|TTA|TTHA|DDA|DDHA|NNA|TA|THA|DA|DHA|NA||PA|PHA|BA|BHA|MA|YA|RA||LA|LLA||VA|SHA|SSA|SA
    HA"),
  (0xb3c, "ORIYA SIGN ", "NUKTA|AVAGRAHA"),
  (0xb3e, "ORIYA VOWEL SIGN ", "AA|I|II|U|UU|VOCALIC R|aRR|||E|AI|||O|AU"),
  (0xb4d, "ORIYA ", "iVIRAMA||||||||iOVERLINE|AI LENGTHu|AUb|||||eRRA|eRHA||eYYA|eVOCALIC RR|bLL
    VOWELiVOCALIC L|cLL|||DIGIT ZERO|ax|ay|ap|aFOUR|aFIVE|aSIX|aSEVEN|aEIGHT|aNINE|ISSHAR|eWA"),
  (0xb72, "ORIYA FRACTION ", "xQUARTER|xHALF|pQUARTERS|xSIXTEENTH|xEIGHTH|pSIXTEENTHS"),
  (0xb82, "TAMIL SIGN ", "ANUSVARA|VISARGA"),
  (0xb85, "TAMIL LETTER ", "A|AA|I|II|U|UU||||E|EE|AI||O|OO|AU|KA||||NGA|CA||JA||NYA|TTA||||NNA
    TA||||NA|NNNA|PA||||MA|YA|RA|RRA|LA|LLA|LLLA|VA|SHA|SSA|SA|HA"),
  (0xbbe, "TAMIL VOWEL SIGN ", "AA|I|II|U|UU||||E|EE|AI||O|OO|AU"),
  (0xbcd, "TAMIL ", "iVIRAMA|||OM|||||||AU LENGTHu"),
  (0xbe6, "TAMIL DIGIT ", "ZERO|x|y|p|FOUR|FIVE|SIX|SEVEN|EIGHT|NINE"),
  (0xbf0, "TAMIL ", "NUMBER TEN|axHUNDRED|bTHOUSAND|DAYi|MONTHi|YEARi|DEBITi|CREDITi|ASmi|RUPEEi
    NUMBERi"),
  (0xc00, "TELUGU SIGN ", "COMBINING CANDRABINDUm|CANDRABINDU|ANUSVARA|VISARGA
    COMBINING ANUSVARAm"),
  (0xc05, "TELUGU LETTER ", "A|AA|I|II|U|UU|VOCALIC R|aL||E|EE|AI||O|OO|AU|KA|KHA|GA|GHA|NGA|CA|CHA
    JA|JHA|NYA|TTA|TTHA|DDA|DDHA|NNA|TA|THA|DA|DHA|NA||PA|PHA|BA|BHA|MA|YA|RA|RRA|LA|LLA|LLLA|VA|SHA
    SSA|SA|HA"),
  (0xc3c, "TELUGU SIGN ", "NUKTA|AVAGRAHA"),
  (0xc3e, "TELUGU VOWEL SIGN ", "AA|I|II|U|UU|VOCALIC R|aRR||E|EE|AI||O|OO|AU"),
  (0xc4d, "TELUGU ", "iVIRAMA||||||||LENGTHu|AI LENGTHu||eTSA|eDZA
    eRRRA|||eNAKAARA POLLU|||eVOCALIC RR|bLL|VOWELiVOCALIC L|cLL|||DIGIT ZERO|ax|ay|ap|aFOUR|aFIVE
    aSIX|aSEVEN|aEIGHT|aNINE||||||||iSIDDHAM"),
  (0xc78, "TELUGU FRACTION DIGIT ", "ZERO FOR ODD POWERS OF FOUR|xad|yad|pad|xaEVENc|yad|pad"),
  (0xc7f, "", "TELUGUiTUUMU"),
  (0xc80, "KANNADA SIGN ", "SPACING CANDRABINDU|CANDRABINDU|ANUSVARA|VISARGA|SIDDHAM"),
  (0xc85, "KANNADA LETTER ", "A|AA|I|II|U|UU|VOCALIC R|aL||E|EE|AI||O|OO|AU|KA|KHA|GA|GHA|NGA|CA|CHA
    JA|JHA|NYA|TTA|TTHA|DDA|DDHA|NNA|TA|THA|DA|DHA|NA||PA|PHA|BA|BHA|MA|YA|RA|RRA|LA|LLA||VA|SHA|SSA
    SA|HA"),
  (0xcbc, "KANNADA SIGN ", "NUKTA|AVAGRAHA"),
  (0xcbe, "KANNADA VOWEL SIGN ", "AA|I|II|U|UU|VOCALIC R|aRR||E|EE|AI||O|OO|AU"),
  (0xccd, "KANNADA ", "iVIRAMA||||||||LENGTHu|AI LENGTHu|||||||eNAKAARA POLLU|eFA||eVOCALIC RR|bLL
    VOWELiVOCALIC L|cLL|||DIGIT ZERO|ax|ay|ap|aFOUR|aFIVE|aSIX|aSEVEN|aEIGHT|aNINE||iJIHVAMULIYA
    iUPADHMANIYA"),
  (0xd00, "MALAYALAM SIGN ", "COMBINING ANUSVARAm|CANDRABINDU|ANUSVARA|VISARGA"),
  (0xd04, "MALAYALAM LETTER ", "VEDIC ANUSVARA|A|AA|I|II|U|UU|VOCALIC R|aL||E|EE|AI||O|OO|AU|KA|KHA
    GA|GHA|NGA|CA|CHA|JA|JHA|NYA|TTA|TTHA|DDA|DDHA|NNA|TA|THA|DA|DHA|NA|NNNA|PA|PHA|BA|BHA|MA|YA|RA
    RRA|LA|LLA|LLLA|VA|SHA|SSA|SA|HA|TTTA"),
  (0xd3b, "MALAYALAM SIGN ", "vBAR VIRAMA|CIRCULAR VIRAMA|AVAGRAHA"),
  (0xd3e, "MALAYALAM VOWEL SIGN ", "AA|I|II|U|UU|VOCALIC R|aRR||E|EE|AI||O|OO|AU"),
  (0xd4d, "MALAYALAM ", "iVIRAMA|eDOT REPH|iPARA|||||eCHILLU M|bY|bLLL|AU LENGTHu
    FRACTIONxONE-HUNDRED-AND-SIXTIETH|bFORTIETH|apEIGHTIETHS|axTWENTIETH|bTENTH|apTWENTIETHS|axFIFTH
    eARCHAIC II|eVOCALIC RR|bLL|VOWELiVOCALIC L|cLL|||DIGIT ZERO|ax|ay|ap|aFOUR|aFIVE|aSIX|aSEVEN
    aEIGHT|aNINE|NUMBER TEN|axHUNDRED|bTHOUSAND|FRACTIONxQUARTER|bHALF|apQUARTERS|axSIXTEENTH
    bEIGHTH|apSIXTEENTHS|DATEu"),
  (0xd7a, "MALAYALAM LETTER CHILLU ", "NN|N|RR|L|LL|K"),
  (0xd81, "SINHALA SIGN ", "CANDRABINDU|ANUSVARAYA|VISARGAYA"),
  (0xd85, "SINHALA LETTER ", "AYANNA|AAYANNA|AEYANNA|AEEYANNA|IYANNA|IIYANNA|UYANNA|UUYANNA|IRUYANNA
    IRUUYANNA|ILUYANNA|ILUUYANNA|EYANNA|EEYANNA|AIYANNA|OYANNA|OOYANNA|AUYANNA||||ALPAPRAANA KAYANNA
    MAHAAPRAANAa|ALPAPRAANA GAYANNA|MAHAAPRAANAa|KANTAJA NAASIKYAYA|SANYAKA GAYANNA
    ALPAPRAANA CAYANNA|MAHAAPRAANAa|ALPAPRAANA JAYANNA|MAHAAPRAANAa|TAALUJA NAASIKYAYA
    aSANYOOGA NAAKSIKYAYA|SANYAKA JAYANNA|ALPAPRAANA TTAYANNA|MAHAAPRAANAa|ALPAPRAANA DDAYANNA
    MAHAAPRAANAa|MUURDHAJA NAYANNA|SANYAKA DDAYANNA|ALPAPRAANA TAYANNA|MAHAAPRAANAa
    ALPAPRAANA DAYANNA|MAHAAPRAANAa|DANTAJA NAYANNA||SANYAKA DAYANNA|ALPAPRAANA PAYANNA|MAHAAPRAANAa
    ALPAPRAANA BAYANNA|MAHAAPRAANAa|MAYANNA|AMBA BAYANNA|YAYANNA|RAYANNA||DANTAJA LAYANNA|||VAYANNA
    TAALUJA SAYANNA|MUURDHAJAa|DANTAJAa|HAYANNA|MUURDHAJA LAYANNA|FAYANNA"),
  (0xdca, "", "SINHALAiAL-LAKUNA"),
  (0xdcf, "SINHALA VOWEL SIGN ", "AELA-PILLA|KETTI AEDA-PILLA|DIGAa|KETTI IS-PILLA|DIGAa
    KETTI PAA-PILLA||DIGAa||GAETTA-PILLA|KOMBUVA|DIGA KOMBUVA|KOMBU DEKA|KOMBUVA HAA AELA-PILLA
    bDIGA AELA-PILLA|bGAYANUKITTA|GAYANUKITTA"),
  (0xde6, "SINHALA LITH DIGIT ", "ZERO|x|y|p|FOUR|FIVE|SIX|SEVEN|EIGHT|NINE"),
  (0xdf2, "SINHALA ", "VOWELiDIGA GAETTA-PILLA|cGAYANUKITTA|PUNCTUATION KUNDDALIYA"),
  (0xe01, "THAI CHARACTER ", "KO KAI|KHO KHAI|aKHUAT|aKHWAI|aKHON|aRAKHANG|NGO NGU|CHO CHAN|aCHING
    aCHANG|SO SO|CHO CHOE|YO YING|DO CHADA|TO PATAK|THO THAN|aNANGMONTHO|aPHUTHAO|NO NEN|DO DEK
    TO TAO|THO THUNG|aTHAHAN|aTHONG|NO NU|BO BAIMAI|PO PLA|PHO PHUNG|FO FA|PHO PHAN|FO FAN
    PHO SAMPHAO|MO MA|YO YAK|RO RUA|RU|LO LING|LU|WO WAEN|SO SALA|aRUSI|aSUA|HO HIP|LO CHULA|O ANG
    HO NOKHUK|PAIYANNOI|SARA A|MAI HAN-AKAT|SARA AA|aAM|aI|aII|aUE|aUEE|aU|aUU|PHINTHU"),
  (0xe3f, "", "THAI CURRENCY SYMBOL BAHT"),
  (0xe40, "THAI CHARACTER ", "SARA E|aAE|aO|aAI MAIMUAN|bMAIMALAI|LAKKHANGYAO|MAIYAMOK|MAITAIKHU
    MAI EK|aTHO|aTRI|aCHATTAWA|THANTHAKHAT|NIKHAHIT|YAMAKKAN|FONGMAN"),
  (0xe50, "THAI DIGIT ", "ZERO|x|y|p|FOUR|FIVE|SIX|SEVEN|EIGHT|NINE"),
  (0xe5a, "THAI CHARACTER ", "ANGKHANKHU|KHOMUT"),
  (0xe81, "LAO LETTER ", "KO|KHO SUNG||aTAM||PALI GHA|NGO|CO|PALI CHA|SO TAM||PALI JHA|NYO|PALI NYA
    aTTA|aTTHA|aDDA|aDDHA|aNNA|DO|TO|THO SUNG|aTAM|PALI DHA|NO|BO|PO|PHO SUNG|FO TAM|PHOa|FO SUNG
    PALI BHA|MO|YO|LO LING||aLOOT||WO|SANSKRIT SHA|aSSA|SO SUNG|HOa|PALI LLA|O|HO TAM"),
  (0xeaf, "", "LAO ELLIPSIS"),
  (0xeb0, "LAO VOWEL SIGN ", "A|MAI KAN|AA|AM|I|II|Y|YY|U|UU"),
  (0xeba, "LAO ", "iPALI VIRAMA|VOWELiMAI KON|SEMIVOWELiLO|bNYO|||VOWELiE|bEI|bO|bAY
    bAI||KO LA||TONE MAI EK|bTHO|bTI|bCATAWA|CANCELLATIONu|NIGGAHITA|||DIGIT ZERO|ax|ay|ap|aFOUR
    aFIVE|aSIX|aSEVEN|aEIGHT|aNINE|||HO NO|aMO|eKHMU GO|bNYO"),
  (0xf00, "", "TIBETAN SYLLABLE OM"),
  (0xf01, "TIBETAN MARK ", "GTER YIG MGO TRUNCATED A|c-UM RNAM BCAD MA|dGTER TSHEGa|INITIALbMDUN MA
    CLOSINGbSGABa|CARETbPHUR SHAD MA|YIG MGO TSHEG SHAD MA|SBRUL SHAD|BSKUR YIG MGO
    BKA- SHOG YIG MGO|INTERSYLLABIC TSHEG|DELIMITERaBSTAR|SHAD|NYIS SHAD|TSHEGa|NYIS TSHEG SHAD
    RIN CHEN SPUNGS SHAD|RGYA GRAM SHAD|CARET -DZUD RTAGS ME LONG CAN|GTER TSHEG"),
  (0xf15, "TIBETAN LOGOTYPE SIGN ", "CHAD RTAGS|LHAGa"),
  (0xf17, "TIBETAN ASTROLOGICAL SIGN ", "SGRA GCAN -CHAR RTAGS|-KHYUD PA|SDONG TSHUGS"),
  (0xf1a, "TIBETAN SIGN RDEL ", "DKAR GCIG|aGNYIS|aGSUM|NAG GCIG|aGNYIS|DKAR RDEL NAG"),
  (0xf20, "TIBETAN DIGIT ", "ZERO|x|y|p|FOUR|FIVE|SIX|SEVEN|EIGHT|NINE"),
  (0xf2a, "TIBETAN DIGIT HALF ", "x|y|p|FOUR|FIVE|SIX|SEVEN|EIGHT|NINE|ZERO"),
  (0xf34, "TIBETAN MARK ", "BSDUS RTAGS|NGAS BZUNG NYI ZLA|CARET -DZUD RTAGS BZHI MIG CAN
    NGAS BZUNG SGOR RTAGS|CHE MGO|TSA -PHRU|GUG RTAGS GYON|bGYAS|ANG KHANG GYON|bGYAS"),
  (0xf3e, "TIBETAN SIGN ", "YAR TSHES|MARa"),
  (0xf40, "TIBETAN LETTER ", "KA|KHA|GA|GHA|NGA|CA|CHA|JA||NYA|TTA|TTHA|DDA|DDHA|NNA|TA|THA|DA|DHA
    NA|PA|PHA|BA|BHA|MA|TSA|TSHA|DZA|DZHA|WA|ZHA|ZA|-A|YA|RA|LA|SHA|SSA|SA|HA|A|KSSA|FIXED-FORM RA
    KKA|RRA"),
  (0xf71, "TIBETAN VOWEL SIGN ", "AA|I|II|U|UU|VOCALIC R|aRR|aL|aLL|E|EE|O|OO"),
  (0xf7e, "TIBETAN ", "iRJES SU NGA RO|iRNAM BCAD|VOWELiREVERSED I|cII|iNYI ZLA NAA DA|iSNA LDAN
    uHALANTA|uPALUTA|iLCI RTAGS|iYANGa|iLCE TSA CAN|iMCHU CAN|iGRUaRGYINGS|bMEDa|iINVERTED MCHU CAN
    SUBJOINEDiLCE TSA CAN|bMCHU CAN|bINVERTED MCHU CAN"),
  (0xf90, "TIBETAN SUBJOINED LETTER ", "KA|KHA|GA|GHA|NGA|CA|CHA|JA||NYA|TTA|TTHA|DDA|DDHA|NNA|TA
    THA|DA|DHA|NA|PA|PHA|BA|BHA|MA|TSA|TSHA|DZA|DZHA|WA|ZHA|ZA|-A|YA|RA|LA|SHA|SSA|SA|HA|A|KSSA
    FIXED-FORM WA|aYA|aRA"),
  (0xfbe, "TIBETAN KU RU ", "KHA|aBZHI MIG CAN"),
  (0xfc0, "TIBETAN CANTILLATION SIGN ", "HEAVY BEAT|LIGHTa|CANG TE-U|SBUB -CHAL"),
  (0xfc4, "TIBETAN SYMBOL ", "DRIL BU|RDO RJE|PADMA GDAN|RDO RJE RGYA GRAM|PHUR PA|NOR BU
    bNYIS -KHYIL|bGSUMa|bBZHIa"),
  (0xfce, "TIBETAN ", "iRDEL NAG RDEL DKAR|cGSUM|uBSKA- SHOG GI MGO RGYAN|uMNYAM YIGc|uNYIS TSHEG
    uINITIAL BRDA RNYING YIG MGO MDUN MA|uCLOSINGdSGABa"),
  (0xfd5, "", "RIGHT-FACING SVASTIi|LEFT-FACINGb|RIGHT-FACINGbhDOTS|LEFT-FACINGd
    TIBETANuLEADING MCHAN RTAGS|bTRAILINGb"),
  (0x1000, "MYANMAR LETTER ", "KA|KHA|GA|GHA|NGA|CA|CHA|JA|JHA|NYA|NNYA|TTA|TTHA|DDA|DDHA|NNA|TA|THA
    DA|DHA|NA|PA|PHA|BA|BHA|MA|YA|RA|LA|WA|SA|HA|LLA|A|SHAN A|I|II|U|UU|E|MON E|O|AU"),
  (0x102b, "MYANMAR VOWEL SIGN ", "TALL AA|AA|I|II|U|UU|E|AI|MON II|aO|Em"),
  (0x1036, "MYANMAR SIGN ", "ANUSVARA|DOTt|VISARGA|VIRAMA|ASAT"),
  (0x103b, "MYANMAR CONSONANT SIGN MEDIAL ", "YA|RA|WA|HA"),
  (0x103f, "MYANMAR ", "eGREAT SA|DIGIT ZERO|ax|ay|ap|aFOUR|aFIVE|aSIX|aSEVEN|aEIGHT|aNINE
    iLITTLE SECTION|iSECTION|SYMBOL LOCATIVE|aCOMPLETED|aAFOREMENTIONED|aGENITIVE|eSHA|eSSA"),
  (0x1052, "MYANMAR LETTER VOCALIC ", "R|RR|L|LL"),
  (0x1056, "MYANMAR VOWEL SIGN VOCALIC ", "R|RR|L|LL"),
  (0x105a, "MYANMAR LETTER MON ", "NGA|JHA|BBA|BBE"),
  (0x105e, "MYANMAR CONSONANT SIGN MON MEDIAL ", "NA|MA|LA"),
  (0x1061, "MYANMAR ", "eSGAW KAREN SHA|VOWELiSGAW KAREN EU|TONEubHATHI|dKE PHO|eWESTERN PWOaTHA
    dPWA|VOWELiWESTERN PWO KAREN EU|adUE"),
  (0x1069, "MYANMAR SIGN WESTERN PWO KAREN TONE-", "1..5"),
  (0x106e, "MYANMAR LETTER EASTERN PWO KAREN ", "NNA|YWA|GHWA"),
  (0x1071, "MYANMAR VOWEL SIGN ", "GEBA KAREN I|KAYAH OE|aU|aEE"),
  (0x1075, "MYANMAR LETTER SHAN ", "KA|KHA|GA|CA|ZA|NYA|DA|NA|PHA|FA|BA|THA|HA"),
  (0x1082, "", "MYANMAR CONSONANTiSHAN MEDIAL WA"),
  (0x1083, "MYANMAR VOWEL SIGN SHAN ", "AA|E|Em|sY"),
  (0x1087, "MYANMAR SIGN SHAN ", "TONE-2|TONE-3|TONE-5|TONE-6|COUNCIL TONE-2|aTONE-3
    aEMPHATIC TONE"),
  (0x108e, "MYANMAR ", "eRUMAI PALAUNG FA|ibTONE-5"),
  (0x1090, "MYANMAR SHAN DIGIT ", "ZERO|x|y|p|FOUR|FIVE|SIX|SEVEN|EIGHT|NINE"),
  (0x109a, "MYANMAR ", "iKHAMTI TONE-1|bTONE-3|VOWELiAITON A|cAI|SYMBOL SHANx|bEXCLAMATION"),
  (0x10a0, "GEORGIAN CAPITAL LETTER ", "AN|BAN|GAN|DON|EN|VIN|ZEN|TAN|IN|KAN|LAS|MAN|NAR|ON|PAR|ZHAR
    RAE|SAN|TAR|UN|PHAR|KHAR|GHAN|QAR|SHIN|CHIN|CAN|JIL|CIL|CHAR|XAN|JHAN|HAE|HE|HIE|WE|HAR
    HOE||YN||||||AEN"),
  (0x10d0, "GEORGIAN LETTER ", "AN|BAN|GAN|DON|EN|VIN|ZEN|TAN|IN|KAN|LAS|MAN|NAR|ON|PAR|ZHAR|RAE|SAN
    TAR|UN|PHAR|KHAR|GHAN|QAR|SHIN|CHIN|CAN|JIL|CIL|CHAR|XAN|JHAN|HAE|HE|HIE|WE|HAR|HOE|FI|YN|ELIFI
    TURNED GAN|AIN"),
  (0x10fb, "", "GEORGIAN PARAGRAPH SEPARATOR|MODIFIEReGEORGIAN NAR"),
  (0x10fd, "GEORGIAN LETTER ", "AEN|HARDi|LABIALi"),
  (0x1100, "HANGUL CHOSEONG ", "KIYEOK|SSANGKIYEOK|NIEUN|TIKEUT|SSANGTIKEUT|RIEUL|MIEUM|PIEUP
    SSANGPIEUP|SIOS|SSANGSIOS|IEUNG|CIEUC|SSANGCIEUC|CHIEUCH|KHIEUKH|THIEUTH|PHIEUPH|HIEUH
    NIEUN-KIYEOK|SSANGNIEUN|NIEUN-TIKEUT|NIEUN-PIEUP|TIKEUT-KIYEOK|RIEUL-NIEUN|SSANGRIEUL
    RIEUL-HIEUH|KAPYEOUNRIEUL|MIEUM-PIEUP|KAPYEOUNMIEUM|PIEUP-KIYEOK|PIEUP-NIEUN|PIEUP-TIKEUT
    PIEUP-SIOS|PIEUP-SIOS-KIYEOK|PIEUP-SIOS-TIKEUT|PIEUP-SIOS-PIEUP|PIEUP-SSANGSIOS|PIEUP-SIOS-CIEUC
    PIEUP-CIEUC|PIEUP-CHIEUCH|PIEUP-THIEUTH|PIEUP-PHIEUPH|KAPYEOUNPIEUP|KAPYEOUNSSANGPIEUP
    SIOS-KIYEOK|SIOS-NIEUN|SIOS-TIKEUT|SIOS-RIEUL|SIOS-MIEUM|SIOS-PIEUP|SIOS-PIEUP-KIYEOK
    SIOS-SSANGSIOS|SIOS-IEUNG|SIOS-CIEUC|SIOS-CHIEUCH|SIOS-KHIEUKH|SIOS-THIEUTH|SIOS-PHIEUPH
    SIOS-HIEUH|CHITUEUMSIOS|CHITUEUMSSANGSIOS|CEONGCHIEUMSIOS|CEONGCHIEUMSSANGSIOS|PANSIOS
    IEUNG-KIYEOK|IEUNG-TIKEUT|IEUNG-MIEUM|IEUNG-PIEUP|IEUNG-SIOS|IEUNG-PANSIOS|SSANGIEUNG
    IEUNG-CIEUC|IEUNG-CHIEUCH|IEUNG-THIEUTH|IEUNG-PHIEUPH|YESIEUNG|CIEUC-IEUNG|CHITUEUMCIEUC
    CHITUEUMSSANGCIEUC|CEONGCHIEUMCIEUC|CEONGCHIEUMSSANGCIEUC|CHIEUCH-KHIEUKH|CHIEUCH-HIEUH
    CHITUEUMCHIEUCH|CEONGCHIEUMCHIEUCH|PHIEUPH-PIEUP|KAPYEOUNPHIEUPH|SSANGHIEUH|YEORINHIEUH
    KIYEOK-TIKEUT|NIEUN-SIOS|NIEUN-CIEUC|NIEUN-HIEUH|TIKEUT-RIEUL|FILLER"),
  (0x1160, "HANGUL JUNGSEONG ", "FILLER|A|AE|YA|YAE|EO|E|YEO|YE|O|WA|WAE|OE|YO|U|WEO|WE|WI|YU|EU|YI
    I|A-O|A-U|YA-O|YA-YO|EO-O|EO-U|EO-EU|YEO-O|YEO-U|O-EO|O-E|O-YE|O-O|O-U|YO-YA|YO-YAE|YO-YEO|YO-O
    YO-I|U-A|U-AE|U-EO-EU|U-YE|U-U|YU-A|YU-EO|YU-E|YU-YEO|YU-YE|YU-U|YU-I|EU-U|EU-EU|YI-U|I-A|I-YA
    I-O|I-U|I-EU|I-ARAEA|ARAEA|ARAEA-EO|ARAEA-U|ARAEA-I|SSANGARAEA|A-EU|YA-U|YEO-YA|O-YA|O-YAE"),
  (0x11a8, "HANGUL JONGSEONG ", "KIYEOK|SSANGKIYEOK|KIYEOK-SIOS|NIEUN|NIEUN-CIEUC|NIEUN-HIEUH|TIKEUT
    RIEUL|RIEUL-KIYEOK|RIEUL-MIEUM|RIEUL-PIEUP|RIEUL-SIOS|RIEUL-THIEUTH|RIEUL-PHIEUPH|RIEUL-HIEUH
    MIEUM|PIEUP|PIEUP-SIOS|SIOS|SSANGSIOS|IEUNG|CIEUC|CHIEUCH|KHIEUKH|THIEUTH|PHIEUPH|HIEUH
    KIYEOK-RIEUL|KIYEOK-SIOS-KIYEOK|NIEUN-KIYEOK|NIEUN-TIKEUT|NIEUN-SIOS|NIEUN-PANSIOS|NIEUN-THIEUTH
    TIKEUT-KIYEOK|TIKEUT-RIEUL|RIEUL-KIYEOK-SIOS|RIEUL-NIEUN|RIEUL-TIKEUT|RIEUL-TIKEUT-HIEUH
    SSANGRIEUL|RIEUL-MIEUM-KIYEOK|RIEUL-MIEUM-SIOS|RIEUL-PIEUP-SIOS|RIEUL-PIEUP-HIEUH
    RIEUL-KAPYEOUNPIEUP|RIEUL-SSANGSIOS|RIEUL-PANSIOS|RIEUL-KHIEUKH|RIEUL-YEORINHIEUH|MIEUM-KIYEOK
    MIEUM-RIEUL|MIEUM-PIEUP|MIEUM-SIOS|MIEUM-SSANGSIOS|MIEUM-PANSIOS|MIEUM-CHIEUCH|MIEUM-HIEUH
    KAPYEOUNMIEUM|PIEUP-RIEUL|PIEUP-PHIEUPH|PIEUP-HIEUH|KAPYEOUNPIEUP|SIOS-KIYEOK|SIOS-TIKEUT
    SIOS-RIEUL|SIOS-PIEUP|PANSIOS|IEUNG-KIYEOK|IEUNG-SSANGKIYEOK|SSANGIEUNG|IEUNG-KHIEUKH|YESIEUNG
    YESIEUNG-SIOS|YESIEUNG-PANSIOS|PHIEUPH-PIEUP|KAPYEOUNPHIEUPH|HIEUH-NIEUN|HIEUH-RIEUL|HIEUH-MIEUM
    HIEUH-PIEUP|YEORINHIEUH|KIYEOK-NIEUN|KIYEOK-PIEUP|KIYEOK-CHIEUCH|KIYEOK-KHIEUKH|KIYEOK-HIEUH
    SSANGNIEUN")]

/-- Rows of further scripts. -/
def furtherScriptNames : List (Nat × String × String) := [
  (0x1200, "ETHIOPIC SYLLABLE ", "HA|HU|HI|HAA|HEE|HE|HO|HOA|LA|LU|LI|LAA|LEE|LE|LO|LWA|HHA|HHU|HHI
    HHAA|HHEE|HHE|HHO|HHWA|MA|MU|MI|MAA|MEE|ME|MO|MWA|SZA|SZU|SZI|SZAA|SZEE|SZE|SZO|SZWA|RA|RU|RI
    RAA|REE|RE|RO|RWA|SA|SU|SI|SAA|SEE|SE|SO|SWA|SHA|SHU|SHI|SHAA|SHEE|SHE|SHO|SHWA|QA|QU|QI|QAA|QEE
    QE|QO|QOA|QWA||QWI|QWAA|QWEE|QWE|||QHA|QHU|QHI|QHAA|QHEE|QHE|QHO||QHWA||QHWI|QHWAA|QHWEE
    QHWE|||BA|BU|BI|BAA|BEE|BE|BO|BWA|VA|VU|VI|VAA|VEE|VE|VO|VWA|TA|TU|TI|TAA|TEE|TE|TO|TWA|CA|CU|CI
    CAA|CEE|CE|CO|CWA|XA|XU|XI|XAA|XEE|XE|XO|XOA|XWA||XWI|XWAA|XWEE|XWE|||NA|NU|NI|NAA|NEE|NE|NO|NWA
    NYA|NYU|NYI|NYAA|NYEE|NYE|NYO|NYWA|GLOTTAL A|aU|aI|aAA|aEE|aE|aO|aWA|KA|KU|KI|KAA|KEE|KE|KO|KOA
    KWA||KWI|KWAA|KWEE|KWE|||KXA|KXU|KXI|KXAA|KXEE|KXE|KXO||KXWA||KXWI|KXWAA|KXWEE|KXWE|||WA|WU|WI
    WAA|WEE|WE|WO|WOA|PHARYNGEAL A|aU|aI|aAA|aEE|aE|aO||ZA|ZU|ZI|ZAA|ZEE|ZE|ZO|ZWA|ZHA|ZHU|ZHI|ZHAA
    ZHEE|ZHE|ZHO|ZHWA|YA|YU|YI|YAA|YEE|YE|YO|YOA|DA|DU|DI|DAA|DEE|DE|DO|DWA|DDA|DDU|DDI|DDAA|DDEE
    DDE|DDO|DDWA|JA|JU|JI|JAA|JEE|JE|JO|JWA|GA|GU|GI|GAA|GEE|GE|GO|GOA|GWA||GWI|GWAA|GWEE|GWE|||GGA
    GGU|GGI|GGAA|GGEE|GGE|GGO|GGWAA|THA|THU|THI|THAA|THEE|THE|THO|THWA|CHA|CHU|CHI|CHAA|CHEE|CHE|CHO
    CHWA|PHA|PHU|PHI|PHAA|PHEE|PHE|PHO|PHWA|TSA|TSU|TSI|TSAA|TSEE|TSE|TSO|TSWA|TZA|TZU|TZI|TZAA|TZEE
    TZE|TZO|TZOA|FA|FU|FI|FAA|FEE|FE|FO|FWA|PA|PU|PI|PAA|PEE|PE|PO|PWA|RYA|MYA|FYA"),
  (0x135d, "ETHIOPIC ", "COMBINING GEMINATION AND VOWEL LENGTHu|aVOWEL LENGTHu|aGEMINATIONu|SECTIONu
    WORDSPACE|FULL STOP|COMMA|SEMICOLON|COLON|PREFACE COLON|QUESTIONu|PARAGRAPH SEPARATOR"),
  (0x1369, "ETHIOPIC DIGIT ", "x|y|p|FOUR|FIVE|SIX|SEVEN|EIGHT|NINE"),
  (0x1372, "ETHIOPIC NUMBER ", "TEN|TWENTY|THIRTY|FORTY|FIFTY|SIXTY|SEVENTY|EIGHTY|NINETY|HUNDRED
    TEN THOUSAND"),
  (0x1380, "ETHIOPIC SYLLABLE ", "SEBATBEIT MWA|MWI|MWEE|MWE|SEBATBEIT BWA|BWI|BWEE|BWE
    SEBATBEIT FWA|FWI|FWEE|FWE|SEBATBEIT PWA|PWI|PWEE|PWE"),
  (0x1390, "ETHIOPIC TONAL MARK ", "YIZET|DERET|RIKRIK|SHORT RIKRIK|DIFAT|KENAT|CHIRET|HIDET
    DERET-HIDET|KURT"),
  (0x13a0, "CHEROKEE LETTER ", "A|E|I|O|U|V|GA|KA|GE|GI|GO|GU|GV|HA|HE|HI|HO|HU|HV|LA|LE|LI|LO|LU|LV
    MA|ME|MI|MO|MU|NA|HNA|NAH|NE|NI|NO|NU|NV|QUA|QUE|QUI|QUO|QUU|QUV|SA|S|SE|SI|SO|SU|SV|DA|TA|DE|TE
    DI|TI|DO|DU|DV|DLA|TLA|TLE|TLI|TLO|TLU|TLV|TSA|TSE|TSI|TSO|TSU|TSV|WA|WE|WI|WO|WU|WV|YA|YE|YI|YO
    YU|YV|MV"),
  (0x13f8, "CHEROKEE SMALL LETTER ", "YE|YI|YO|YU|YV|MV"),
  (0x1400, "CANADIAN SYLLABICS ", "HYPHEN|E|AAI|I|II|O|OO|Y-CREE OO|CARRIER EE|aI|A|AA|WE
    WEST-CREE WE|WI|WEST-CREE WI|WII|WEST-CREE WII|WO|WEST-CREE WO|WOO|WEST-CREE WOO|NASKAPIa|WA
    WEST-CREE WA|WAA|WEST-CREE WAA|NASKAPIa|AI|Y-CREE W|GLOTTAL STOP"),
  (0x141f, "CANADIAN SYLLABICS FINAL ", "ACUTE|GRAVE|BOTTOM HALF RING|TOPb|jb|RING|lACUTE
    lSHORTvSTROKES|MIDDLE DOT|SHORT HORIZONTAL STROKE|PLUS|DOWN TACK"),
  (0x142b, "CANADIAN SYLLABICS ", "EN|IN|ON|AN|PE|PAAI|PI|PII|PO|POO|Y-CREE POO|CARRIER HEE|aHI|PA
    PAA|PWE|WEST-CREE PWE|PWI|WEST-CREE PWI|PWII|WEST-CREE PWII|PWO|WEST-CREE PWO|PWOO
    WEST-CREE PWOO|PWA|WEST-CREE PWA|PWAA|WEST-CREE PWAA|Y-CREEa|P|WEST-CREE P|CARRIER H|TE|TAAI|TI
    TII|TO|TOO|Y-CREE TOO|CARRIER DEE|aDI|TA|TAA|TWE|WEST-CREE TWE|TWI|WEST-CREE TWI|TWII
    WEST-CREE TWII|y|WEST-CREEy|TWOO|WEST-CREE TWOO|TWA|WEST-CREE TWA|TWAA|WEST-CREE TWAA|NASKAPIa|T
    TTE|TTI|TTO|TTA|KE|KAAI|KI|KII|KO|KOO|Y-CREE KOO|KA|KAA|KWE|WEST-CREE KWE|KWI|WEST-CREE KWI|KWII
    WEST-CREE KWII|KWO|WEST-CREE KWO|KWOO|WEST-CREE KWOO|KWA|WEST-CREE KWA|KWAA|WEST-CREE KWAA
    NASKAPIa|K|KW|SOUTH-SLAVEY KEH|aKIH|aKOH|aKAH|CE|CAAI|CI|CII|CO|COO|Y-CREE COO|CA|CAA|CWE
    WEST-CREE CWE|CWI|WEST-CREE CWI|CWII|WEST-CREE CWII|CWO|WEST-CREE CWO|CWOO|WEST-CREE CWOO|CWA
    WEST-CREE CWA|CWAA|WEST-CREE CWAA|NASKAPIa|C|SAYISI TH|ME|MAAI|MI|MII|MO|MOO|Y-CREE MOO|MA|MAA
    MWE|WEST-CREE MWE|MWI|WEST-CREE MWI|MWII|WEST-CREE MWII|MWO|WEST-CREE MWO|MWOO|WEST-CREE MWOO
    MWA|WEST-CREE MWA|MWAA|WEST-CREE MWAA|NASKAPIa|M|WEST-CREE M|MH|ATHAPASCAN M|SAYISIa|NE|NAAI|NI
    NII|NO|NOO|Y-CREE NOO|NA|NAA|NWE|WEST-CREE NWE|NWA|WEST-CREE NWA|NWAA|WEST-CREE NWAA|NASKAPIa|N
    CARRIER NG|NH|LE|LAAI|LI|LII|LO|LOO|Y-CREE LOO|LA|LAA|LWE|WEST-CREE LWE|LWI|WEST-CREE LWI|LWII
    WEST-CREE LWII|LWO|WEST-CREE LWO|LWOO|WEST-CREE LWOO|LWA|WEST-CREE LWA|LWAA|WEST-CREE LWAA|L
    WEST-CREE L|MEDIALa|SE|SAAI|SI|SII|SO|SOO|Y-CREE SOO|SA|SAA|SWE|WEST-CREE SWE|SWI|WEST-CREE SWI
    SWII|WEST-CREE SWII|SWO|WEST-CREE SWO|SWOO|WEST-CREE SWOO|SWA|WEST-CREE SWA|SWAA|WEST-CREE SWAA
    NASKAPIa|S|ATHAPASCAN S|SW|BLACKFOOT S|MOOSE-CREE SK|NASKAPI SKW|aS-W|aSPWA|aSTWA|aSKWA|aSCWA
    SHE|SHI|SHII|SHO|SHOO|SHA|SHAA|SHWE|WEST-CREE SHWE|SHWI|WEST-CREE SHWI|SHWII|WEST-CREE SHWII
    SHWO|WEST-CREE SHWO|SHWOO|WEST-CREE SHWOO|SHWA|WEST-CREE SHWA|SHWAA|WEST-CREE SHWAA|SH|YE|YAAI
    YI|YII|YO|YOO|Y-CREE YOO|YA|YAA|YWE|WEST-CREE YWE|YWI|WEST-CREE YWI|YWII|WEST-CREE YWII|YWO
    WEST-CREE YWO|YWOO|WEST-CREE YWOO|YWA|WEST-CREE YWA|YWAA|WEST-CREE YWAA|NASKAPIa|Y|BIBLE-CREE Y
    WEST-CREEa|SAYISI YI|RE|R-CREE RE|WEST-CREE LE|RAAI|RI|RII|RO|ROO|WEST-CREE LO|RA|RAA
    WEST-CREE LA|RWAA|WEST-CREE RWAA|R|WEST-CREE R|MEDIALa|FE|FAAI|FI|FII|FO|FOO|FA|FAA|FWAA
    WEST-CREE FWAA|F|THE|N-CREE THE|THI|N-CREE THI|THII|N-CREE THII|THO|THOO|THA|THAA|THWAA
    WEST-CREE THWAA|TH|TTHE|TTHI|TTHO|TTHA|TTH|TYE|TYI|TYO|TYA|NUNAVIK HE|aHI|aHII|aHO|aHOO|aHA|aHAA
    aH|NUNAVUTa|HK|QAAI|QI|QII|QO|QOO|QA|QAA|Q|TLHE|TLHI|TLHO|TLHA|WEST-CREE RE|aRI|aRO|aRA|NGAAI
    NGI|NGII|NGO|NGOO|NGA|NGAA|NG|NNG|SAYISI SHE|aSHI|aSHO|aSHA|WOODS-CREE THE|aTHI|aTHO|aTHA|aTH
    LHI|LHII|LHO|LHOO|LHA|LHAA|LH|TH-CREE THE|aTHI|aTHII|aTHO|aTHOO|aTHA|aTHAA|aTH|AIVILIK B"),
  (0x15b0, "CANADIAN SYLLABICS BLACKFOOT ", "E|I|O|A|WE|WI|WO|WA|NE|NI|NO|NA|KE|KI|KO|KA"),
  (0x15c0, "CANADIAN SYLLABICS SAYISI ", "HE|HI|HO|HA"),
  (0x15c4, "CANADIAN SYLLABICS CARRIER ", "GHU|GHO|GHE|GHEE|GHI|GHA|RU|RO|RE|REE|RI|RA|WU|WO|WE|WEE
    WI|WA|HWU|HWO|HWE|HWEE|HWI|HWA|THU|THO|THE|THEE|THI|THA|TTU|TTO|TTE|TTEE|TTI|TTA|PU|PO|PE|PEE|PI
    PA|P|GU|GO|GE|GEE|GI|GA|KHU|KHO|KHE|KHEE|KHI|KHA|KKU|KKO|KKE|KKEE|KKI|KKA|KK|NU|NO|NE|NEE|NI|NA
    MU|MO|ME|MEE|MI|MA|YU|YO|YE|YEE|YI|YA|JU"),
  (0x1615, "CANADIAN SYLLABICS ", "SAYISI JU|CARRIER JO|aJE|aJEE|aJI|SAYISIa"),
  (0x161b, "CANADIAN SYLLABICS CARRIER ", "JA|JJU|JJO|JJE|JJEE|JJI|JJA|LU|LO|LE|LEE|LI|LA|DLU|DLO
    DLE|DLEE|DLI|DLA|LHU|LHO|LHE|LHEE|LHI|LHA|TLHU|TLHO|TLHE|TLHEE|TLHI|TLHA|TLU|TLO|TLE|TLEE|TLI
    TLA|ZU|ZO|ZE|ZEE|ZI|ZA|Z|INITIAL Z|DZU|DZO|DZE|DZEE|DZI|DZA|SU|SO|SE|SEE|SI|SA|SHU|SHO|SHE|SHEE
    SHI|SHA|SH|TSU|TSO|TSE|TSEE|TSI|TSA|CHU|CHO|CHE|CHEE|CHI|CHA|TTSU|TTSO|TTSE|TTSEE|TTSI|TTSA"),
  (0x166d, "CANADIAN SYLLABICS ", "CHIi|FULL STOP|QAI|NGAI|NNGI|NNGII|NNGO|NNGOO|NNGA|NNGAA"),
  (0x1677, "CANADIAN SYLLABICS WOODS-CREE ", "THWEE|THWI|THWII|THWO|THWOO|THWA|THWAA|sTH"),
  (0x167f, "", "CANADIAN SYLLABICS BLACKFOOT W|OGHAM SPACEu"),
  (0x1681, "OGHAM LETTER ", "BEITH|LUIS|FEARN|SAIL|NION|UATH|DAIR|TINNE|COLL|CEIRT|MUIN|GORT|NGEADAL
    STRAIF|RUIS|AILM|ONN|UR|EADHADH|IODHADH|EABHADH|OR|UILLEANN|IFIN|EAMHANCHOLL|PEITH"),
  (0x169b, "OGHAM ", "FEATHERu|REVERSED FEATHERu"),
  (0x16a0, "RUNIC LETTER ", "FEHU FEOH FE F|V|URUZ UR U|YR|Y|W|THURISAZ THURS THORN|ETH|ANSUZ A|OS O
    AC A|AESC|LONG-BRANCH-OSS O|SHORT-TWIG-OSSa|O|OE|ON|RAIDO RAD REID R|KAUNA|CEN|KAUN K|G|ENG
    GEBO GYFU G|GAR|WUNJO WYNN W|HAGLAZ H|HAEGLa|LONG-BRANCH-HAGALLa|SHORT-TWIG-HAGALLa
    NAUDIZ NYD NAUD N|SHORT-TWIG-NAUD N|DOTTED-N|ISAZ IS ISS I|E|JERAN J|GER|LONG-BRANCH-AR AE
    SHORT-TWIG-AR A|IWAZ EOH|PERTHO PEORTH P|ALGIZ EOLHX|SOWILO S|SIGEL LONG-BRANCH-SOL S
    SHORT-TWIG-SOL S|C|Z|TIWAZ TIR TYR T|SHORT-TWIG-TYR T|D|BERKANAN BEORC BJARKAN B
    SHORT-TWIG-BJARKAN B|DOTTED-P|OPEN-P|EHWAZ EH E|MANNAZ MAN M|LONG-BRANCH-MADR M|SHORT-TWIG-MADRa
    LAUKAZ LAGU LOGR L|DOTTED-L|INGWAZ|ING|DAGAZ DAEG D|OTHALAN ETHEL O|EAR|IOR|CWEORTH|CALC|CEALC
    STAN|LONG-BRANCH-YR|SHORT-TWIG-YR|ICELANDIC-YR|Q|X"),
  (0x16eb, "RUNIC ", "SINGLE PUNCTUATION|MULTIPLEa|CROSSa|ARLAUG SYMBOL|TVIMADURa|BELGTHORa|eK|eSH
    eOO"),
  (0x16f4, "RUNIC LETTER FRANKS CASKET ", "OS|IS|EH|AC|AESC"),
  (0x1700, "TAGALOG LETTER ", "A|I|U|KA|GA|NGA|TA|DA|NA|PA|BA|MA|YA|RA|LA|WA|SA|HA"),
  (0x1712, "TAGALOG ", "VOWELiI|bU|iVIRAMA|iPAMUDPOD||||||||||eARCHAIC RA"),
  (0x1720, "HANUNOO LETTER ", "A|I|U|KA|GA|NGA|TA|DA|NA|PA|BA|MA|YA|RA|LA|WA|SA|HA"),
  (0x1732, "HANUNOO ", "VOWELiI|bU|iPAMUDPOD"),
  (0x1735, "PHILIPPINE ", "SINGLE PUNCTUATION|la"),
  (0x1740, "BUHID LETTER ", "A|I|U|KA|GA|NGA|TA|DA|NA|PA|BA|MA|YA|RA|LA|WA|SA|HA"),
  (0x1752, "BUHID VOWEL SIGN ", "I|U"),
  (0x1760, "TAGBANWA LETTER ", "A|I|U|KA|GA|NGA|TA|DA|NA|PA|BA|MA|YA||LA|WA|SA"),
  (0x1772, "TAGBANWA VOWEL SIGN ", "I|U"),
  (0x1780, "KHMER LETTER ", "KA|KHA|KO|KHO|NGO|CA|CHA|CO|CHO|NYO|DA|TTHA|DO|TTHO|NNO|TA|THA|TO|THO
    NO|BA|PHA|PO|PHO|MO|YO|RO|LO|VO|SHA|SSO|SA|HA|LA|QA"),
  (0x17a3, "KHMER INDEPENDENT VOWEL ", "QAQ|QAA|QI|QII|QU|QUK|QUU|QUUV|RY|RYY|LY|LYY|QE|QAI
    QOO TYPEx|by|QAU"),
  (0x17b4, "KHMER VOWEL INHERENT ", "AQ|AA"),
  (0x17b6, "KHMER VOWEL SIGN ", "AA|I|II|Y|YY|U|UU|UA|OE|YA|IE|E|AE|AI|OO|AU"),
  (0x17c6, "KHMER SIGN ", "NIKAHIT|REAHMUK|YUUKALEAPINTU|MUUSIKATOAN|TRIISAP|BANTOC|ROBAT
    TOANDAKHIAT|KAKABAT|AHSDA|SAMYOK SANNYA|VIRIAM|COENG|BATHAMASAT|KHAN|BARIYOOSAN|CAMNUC PII KUUH
    LEK TOO|BEYYAL|PHNAEK MUAN|KOOMUUT"),
  (0x17db, "KHMER ", "CURRENCY SYMBOL RIEL|iAVAKRAHASANYA|iATTHACAN"),
  (0x17e0, "KHMER DIGIT ", "ZERO|x|y|p|FOUR|FIVE|SIX|SEVEN|EIGHT|NINE"),
  (0x17f0, "KHMER SYMBOL LEK ATTAK ", "SON|MUOY|PII|BEI|BUON|PRAM|PRAM-MUOY|PRAM-PII|PRAM-BEI
    PRAM-BUON"),
  (0x1800, "MONGOLIAN ", "BIRGA|ELLIPSIS|COMMA|FULL STOP|COLON|FOUR DOTS|TODO SOFT HYPHEN
    SIBE SYLLABLE BOUNDARY MARKER|MANCHU COMMA|aFULL STOP|NIRUGU|FREE VARIATION SELECTORx|cy|cp
    VOWEL SEPARATOR|FREE VARIATION SELECTOR FOUR"),
  (0x1810, "MONGOLIAN DIGIT ", "ZERO|x|y|p|FOUR|FIVE|SIX|SEVEN|EIGHT|NINE"),
  (0x1820, "MONGOLIAN LETTER ", "A|E|I|O|U|OE|UE|EE|NA|ANG|BA|PA|QA|GA|MA|LA|SA|SHA|TA|DA|CHA|JA|YA
    RA|WA|FA|KA|KHA|TSA|ZA|HAA|ZRA|LHA|ZHI|CHI"),
  (0x1843, "MONGOLIAN LETTER TODO ", "LONG VOWELi|E|I|O|U|OE|UE|ANG|BA|PA|QA|GA|MA|TA|DA|CHA|JA|TSA
    YA|WA|KA|GAA|HAA|JIA|NIA|DZA"),
  (0x185d, "MONGOLIAN LETTER SIBE ", "E|I|IY|UE|U|ANG|KA|GA|HA|PA|SHA|TA|DA|JA|FA|GAA|HAA|TSA|ZA|RAA
    CHA|ZHA"),
  (0x1873, "MONGOLIAN LETTER ", "MANCHU I|aKA|aRA|aFA|aZHA|CHAhyDOTS"),
  (0x1880, "MONGOLIAN LETTER ALI GALI ", "ANUSVARAx|VISARGAx|DAMARU|UBADAMA|INVERTED UBADAMA|BALUDA
    pBALUDA|A|I|KA|NGA|CA|TTA|TTHA|DDA|NNA|TA|DA|PA|PHA|SSA|ZHA|ZA|AH"),
  (0x1898, "MONGOLIAN LETTER TODO ALI GALI ", "TA|ZHA"),
  (0x189a, "MONGOLIAN LETTER MANCHU ALI GALI ", "GHA|NGA|CA|JHA|TTA|DDHA|TA|DHA|SSA|CYA|ZHA|ZA"),
  (0x18a6, "MONGOLIAN LETTER ", "ALI GALI HALF U|cYA|MANCHU ALI GALI BHA|ALI GALI DAGALGA
    MANCHU ALI GALI LHA"),
  (0x18b0, "CANADIAN SYLLABICS ", "OY|AY|AAY|WAY|POY|PAY|PWOY|TAY|KAY|KWAY|MAY|NOY|NAY|LAY|SOY|SAY
    SHOY|SHAY|SHWOY|YOY|YAY|RAY|NWI|OJIBWAY NWI|NWII|OJIBWAY NWII|NWO|OJIBWAY NWO|NWOO|OJIBWAY NWOO
    RWEE|RWI|RWII|RWO|RWOO|RWA|OJIBWAY P|aT|aK|aC|aM|aN|aS|aSH|EASTERN W|WESTERNa|sgRING|sRAISED DOT
    R-CREE RWE|WEST-CREE LOO|aLAA|THWE|THWA|TTHWE|TTHOO|TTHAA|TLHWE|TLHOO|SAYISI SHWE|aSHOO|aHOO
    CARRIER GWU|aDENE GEE|aGAA|aGWA|SAYISI JUU|CARRIER JWA|BEAVER DENE L|bR|CARRIER DENTAL S"),
  (0x1900, "", "LIMBU VOWEL-CARRIERe"),
  (0x1901, "LIMBU LETTER ", "KA|KHA|GA|GHA|NGA|CA|CHA|JA|JHA|YAN|TA|THA|DA|DHA|NA|PA|PHA|BA|BHA|MA
    YA|RA|LA|WA|SHA|SSA|SA|HA|GYAN|TRA"),
  (0x1920, "LIMBU VOWEL SIGN ", "A|I|U|EE|AI|OO|AU|E|O"),
  (0x1929, "LIMBU SUBJOINED LETTER ", "YA|RA|WA"),
  (0x1930, "LIMBU SMALL LETTER ", "KA|NGA|ANUSVARA|TA|NA|PA|MA|RA|LA"),
  (0x1939, "LIMBU ", "iMUKPHRENG|iKEMPHRENG|iSA-I|||||iLOO||||EXCLAMATIONu|QUESTIONu"),
  (0x1946, "LIMBU DIGIT ", "ZERO|x|y|p|FOUR|FIVE|SIX|SEVEN|EIGHT|NINE"),
  (0x1950, "TAI LE LETTER ", "KA|XA|NGA|TSA|SA|YA|TA|THA|LA|PA|PHA|MA|FA|VA|HA|QA|KHA|TSHA|NA|A|I|EE
    EH|U|OO|O|UE|E|AUE|AI|||TONE-2..6"),
  (0x1980, "NEW TAI LUE LETTER ", "HIGH QA|LOWa|HIGH KA|aXA|aNGA|LOW KA|aXA|aNGA|HIGH TSA|aSA|aYA
    LOW TSA|aSA|aYA|HIGH TA|aTHA|aNA|LOW TA|aTHA|aNA|HIGH PA|aPHA|aMA|LOW PA|aPHA|aMA|HIGH FA|aVA
    aLA|LOW FA|aVA|aLA|HIGH HA|aDA|aBA|LOW HA|aDA|aBA|HIGH KVA|aXVA|LOW KVA|aXVA|HIGH SUA|LOWa"),
  (0x19b0, "NEW TAI LUE VOWEL SIGN ", "VOWEL SHORTENER|AA|II|U|UU|E|AE|O|OA|UE|AY|AAY|UY|OY|OAY|UEY
    IY"),
  (0x19c1, "NEW TAI LUE LETTER FINAL ", "V|NG|N|M|K|D|B"),
  (0x19c8, "NEW TAI LUE ", "TONE MARK-1|aMARK-2|||||||DIGIT ZERO|ax|ay|ap|aFOUR|aFIVE|aSIX|aSEVEN
    aEIGHT|aNINE|THAM DIGITx||||iLAE|iLAEV"),
  (0x19e0, "KHMER SYMBOL ", "PATHAMASAT|MUOY KOET|PIIa|BEIa|BUONa|PRAMa|PRAM-MUOYa|PRAM-PIIa
    PRAM-BEIa|PRAM-BUONa|DAPa|DAP-MUOYa|DAP-PIIa|DAP-BEIa|DAP-BUONa|DAP-PRAMa|TUTEYASAT|MUOY ROC
    PIIa|BEIa|BUONa|PRAMa|PRAM-MUOYa|PRAM-PIIa|PRAM-BEIa|PRAM-BUONa|DAPa|DAP-MUOYa|DAP-PIIa|DAP-BEIa
    DAP-BUONa|DAP-PRAMa"),
  (0x1a00, "BUGINESE LETTER ", "KA|GA|NGA|NGKA|PA|BA|MA|MPA|TA|DA|NA|NRA|CA|JA|NYA|NYCA|YA|RA|LA|VA
    SA|A|HA"),
  (0x1a17, "BUGINESE VOWEL SIGN ", "I|U|E|O|AE"),
  (0x1a1e, "BUGINESE ", "PALLAWA|END OF SECTION"),
  (0x1a20, "TAI THAM LETTER ", "HIGH KA|aKHA|aKXA|LOW KA|aKXA|aKHA|NGA|HIGH CA|aCHA|LOW CA|aSA|aCHA
    NYA|RATA|HIGH RATHA|DA|LOW RATHA|RANA|HIGH TA|aTHA|LOW TA|aTHA|NA|BA|HIGH PA|aPHA|aFA|LOW PA|aFA
    aPHA|MA|LOW YA|HIGHa|RA|RUE|LA|LUE|WA|HIGH SHA|aSSA|aSA|aHA|LLA|A|LOW HA|I|II|U|UU|EE|OO|LAE
    GREAT SA"),
  (0x1a55, "TAI THAM ", "CONSONANTiMEDIAL RA|cLA|bLA TANG LAI|iMAI KANG LAI"),
  (0x1a59, "TAI THAM CONSONANT SIGN ", "sNGA|LOW PA|HIGH RATHA OR LOW PA|MA|BA|SA"),
  (0x1a60, "", "TAI THAMiSAKOT"),
  (0x1a61, "TAI THAM VOWEL SIGN ", "A|MAI SAT|AA|TALL AA|I|II|UE|UUE|U|UU|O|OAt|OY|E|AE|OO|AI
    THAM AI|OAm"),
  (0x1a74, "TAI THAM SIGN ", "MAI KANG|TONE-1|TONE-2|KHUEN TONE-3..5|RA HAAM|MAI SAM
    KHUEN-LUE KARAN"),
  (0x1a7f, "", "TAI THAM COMBINING CRYPTOGRAMMIC DOT"),
  (0x1a80, "TAI THAM HORA DIGIT ", "ZERO|x|y|p|FOUR|FIVE|SIX|SEVEN|EIGHT|NINE"),
  (0x1a90, "TAI THAM THAM DIGIT ", "ZERO|x|y|p|FOUR|FIVE|SIX|SEVEN|EIGHT|NINE"),
  (0x1aa0, "TAI THAM SIGN ", "WIANG|WIANGWAAK|SAWAN|KEOW|HOY|DOKMAI|REVERSED ROTATED RANA|MAI YAMOK
    KAAN|KAANKUU|SATKAAN|SATKAANKUU|HANG|CAANG"),
  (0x1ab0, "COMBINING ", "DOUBLED CIRCUMFLEX ACCENT|DIAERESIS-RING|INFINITY|zo|TRIPLE DOT|X-Xt
    WIGGLY LINEt|OPENut|lOPENut|LIGHT CENTRALIZATION STROKEt|STRONGc|PARENTHESESm|lPARENTHESESm
    PARENTHESESt|aOVERLAY|LATINgeWt|cTURNED Wt|nPARENTHESISmn|jbj|natn|jbj|SQUARE BRACKETSm|NUMBERim
    INVERTEDlARCHm|PLUSim|lPLUSim|ct|TRIPLE ACUTE ACCENT"),
  (0x1acc, "COMBINING LATIN SMALL LETTER INSULAR ", "G|R|T"),
  (0x1b00, "BALINESE SIGN ", "ULU RICEM|aCANDRA|CECEK|SURANG|BISAH"),
  (0x1b05, "BALINESE LETTER ", "AKARA|aTEDUNG|IKARA|aTEDUNG|UKARA|aTEDUNG|RA REPA|bTEDUNG|LA LENGA
    bTEDUNG|EKARA|AIKARA|OKARA|aTEDUNG|KA|aMAHAPRANA|GA|aGORA|NGA|CA|aLACA|JA|aJERA|NYA|TA LATIK
    aMURDA MAHAPRANA|DAaALPAPRANA|bMAHAPRANA|NA RAMBAT|TA|aTAWA|DA|aMADU|NA|PA|aKAPAL|BA|aKEMBANG|MA
    YA|RA|LA|WA|SA SAGA|aSAPA|a|HA"),
  (0x1b34, "", "BALINESEiREREKAN"),
  (0x1b35, "BALINESE VOWEL SIGN ", "TEDUNG|ULU|aSARI|SUKU|aILUT|RA REPA|bTEDUNG|LA LENGA|bTEDUNG
    TALING|aREPA|aTEDUNG|aREPA TEDUNG|PEPET|aTEDUNG"),
  (0x1b44, "", "BALINESE ADEG ADEG"),
  (0x1b45, "BALINESE LETTER ", "KAF SASAK|KHOTa|TZIRa|EFa|VEa|ZALa|ASYURAa|ARCHAIC JNYA"),
  (0x1b50, "BALINESE DIGIT ", "ZERO|x|y|p|FOUR|FIVE|SIX|SEVEN|EIGHT|NINE"),
  (0x1b5a, "BALINESE ", "PANTI|PAMADA|WINDU|CARIK PAMUNGKAH|aSIKI|aPAREREN|PAMENENG"),
  (0x1b61, "BALINESE MUSICAL SYMBOL ", "DONG|DENG|DUNG|DANG|aSURANG|DING|DAENG|DEUNG|DAING
    DANG GEDE"),
  (0x1b6b, "BALINESE MUSICAL SYMBOL COMBINING ", "TEGEH|ENDEP|KEMPUL|KEMPLI|JEGOGAN|KEMPULhJEGOGAN
    KEMPLIb|BENDE|GONG"),
  (0x1b74, "BALINESE MUSICAL SYMBOL RIGHT-HAND ", "OPEN DUG|aDAG|CLOSED TUK|aTAK"),
  (0x1b78, "BALINESE MUSICAL SYMBOL LEFT-HAND ", "OPEN PANG|aPUNG|CLOSED PLAK|aPLUK|OPEN PING"),
  (0x1b7d, "BALINESE ", "PANTI LANTANG|PAMADAa"),
  (0x1b80, "SUNDANESE SIGN ", "PANYECEK|PANGLAYAR|PANGWISAD"),
  (0x1b83, "SUNDANESE LETTER ", "A|I|U|AE|O|E|EU|KA|QA|GA|NGA|CA|JA|ZA|NYA|TA|DA|NA|PA|FA|VA|BA|MA
    YA|RA|LA|WA|SA|XA|HA"),
  (0x1ba1, "SUNDANESE CONSONANT SIGN ", "PAMINGKAL|PANYAKRA|PANYIKU"),
  (0x1ba4, "SUNDANESE VOWEL SIGN ", "PANGHULU|PANYUKU|PANAELAENG|PANOLONG|PAMEPET|PANEULEUNG"),
  (0x1baa, "SUNDANESE ", "iPAMAAEH|iVIRAMA|CONSONANTiPASANGAN MA|cWA|eKHA|eSYA|DIGIT ZERO|ax|ay|ap
    aFOUR|aFIVE|aSIX|aSEVEN|aEIGHT|aNINE|AVAGRAHA|eREU|eLEU|eBHA|esK|bM"),
  (0x1bc0, "BATAK LETTER ", "A|SIMALUNGUN A|HA|SIMALUNGUN HA|MANDAILINGa|BA|KARO BA|PA|SIMALUNGUN PA
    NA|MANDAILING NA|WA|SIMALUNGUN WA|PAKPAKa|GA|SIMALUNGUN GA|JA|DA|RA|SIMALUNGUN RA|MA
    SIMALUNGUN MA|SOUTHERN TA|NORTHERNa|SA|SIMALUNGUN SA|MANDAILINGa|YA|SIMALUNGUN YA|NGA|LA
    SIMALUNGUN LA|NYA|CA|NDA|MBA|I|U"),
  (0x1be6, "", "BATAKiTOMPI"),
  (0x1be7, "BATAK VOWEL SIGN ", "E|PAKPAK E|EE|I|KARO I|O|KARO O|U|aFOR SIMALUNGUN SA"),
  (0x1bf0, "BATAK ", "CONSONANTiNG|bH|PANGOLAT|PANONGONAN"),
  (0x1bfc, "BATAK SYMBOL BINDU ", "NA METEK|PINARBORAS|JUDUL|PANGOLAT"),
  (0x1c00, "LEPCHA LETTER ", "KA|KLA|KHA|GA|GLA|NGA|CA|CHA|JA|NYA|TA|THA|DA|NA|PA|PLA|PHA|FA|FLA|BA
    BLA|MA|MLA|TSA|TSHA|DZA|YA|RA|LA|HA|HLA|VA|SA|SHA|WA|A"),
  (0x1c24, "LEPCHA SUBJOINED LETTER ", "YA|RA"),
  (0x1c26, "LEPCHA VOWEL SIGN ", "AA|I|O|OO|U|UU|E"),
  (0x1c2d, "LEPCHA CONSONANT SIGN ", "K|M|L|N|P|R|T|NYIN-DO|KANG"),
  (0x1c36, "LEPCHA SIGN ", "RAN|NUKTA"),
  (0x1c3b, "LEPCHA PUNCTUATION ", "TA-ROL|NYET THYOOM TA-ROL|CER-WA|TSHOOK CER-WA|a"),
  (0x1c40, "LEPCHA DIGIT ", "ZERO|x|y|p|FOUR|FIVE|SIX|SEVEN|EIGHT|NINE"),
  (0x1c4d, "LEPCHA LETTER ", "TTA|TTHA|DDA"),
  (0x1c50, "OL CHIKI DIGIT ", "ZERO|x|y|p|FOUR|FIVE|SIX|SEVEN|EIGHT|NINE"),
  (0x1c5a, "OL CHIKI LETTER ", "LA|AT|AG|ANG|AL|LAA|AAK|AAJ|AAM|AAW|LI|IS|IH|INY|IR|LU|UC|UD|UNN|UY
    LE|EP|EDD|EN|ERR|LO|OTT|OB|OV|OH"),
  (0x1c78, "OL CHIKI ", "MU TTUDDAG|GAAHLAA TTUDDAAG|MU-GAAHLAAa|RELAA|PHAARKAA|AHAD
    PUNCTUATION MUCAAD|alMUCAAD"),
  (0x1c80, "CYRILLIC SMALL LETTER ", "ROUNDED VE|LONG-LEGGED DE|NARROW O|WIDE ES|TALL TE
    THREE-LEGGEDa|TALL HARDi|aYAT|UNBLENDED UK"),
  (0x1c90, "GEORGIAN MTAVRULI CAPITAL LETTER ", "AN|BAN|GAN|DON|EN|VIN|ZEN|TAN|IN|KAN|LAS|MAN|NAR|ON
    PAR|ZHAR|RAE|SAN|TAR|UN|PHAR|KHAR|GHAN|QAR|SHIN|CHIN|CAN|JIL|CIL|CHAR|XAN|JHAN|HAE|HE|HIE|WE|HAR
    HOE|FI|YN|ELIFI|TURNED GAN|AIN|||AEN|HARDi|LABIALi"),
  (0x1cc0, "SUNDANESE PUNCTUATION BINDU ", "SURYA|PANGLONG|PURNAMA|CAKRA|LEU SATANGA|KAa|DAa|BAa"),
  (0x1cd0, "VEDIC ", "TONE KARSHANA|aSHARA|aPRENKHA|iNIHSHVASA|iYAJURVEDIC MIDLINE SVARITA"),
  (0x1cd5, "VEDIC TONE ", "YAJURVEDIC AGGRAVATED INDEPENDENT SVARITA|aINDEPENDENT SVARITA
    aKATHAKA INDEPENDENT SVARITA|CANDRAt|YAJURVEDIC KATHAKA INDEPENDENT SVARITA SCHROEDER|lSVARITA
    TRIPLEa|KATHAKA ANUDATTA|DOTt|yDOTSt|pb|RIGVEDIC KASHMIRI INDEPENDENT SVARITA
    ATHARVAVEDIC INDEPENDENT SVARITA"),
  (0x1ce2, "VEDIC SIGN ", "VISARGA SVARITA|aUDATTA|REVERSED VISARGA UDATTA|VISARGA ANUDATTA
    REVERSED VISARGA ANUDATTA|VISARGA UDATTAhTAIL|aANUDATTAb|ANUSVARA ANTARGOMUKHA|aBAHIRGOMUKHA
    aVAMAGOMUKHA|bhTAIL|TIRYAK|HEXIFORM LONG ANUSVARA|LONG ANUSVARA|RTHANG LONG ANUSVARA
    ANUSVARA UBHAYATO MUKHA|ARDHAVISARGA|ROTATED ARDHAVISARGA"),
  (0x1cf4, "VEDIC ", "TONE CANDRAm|iJIHVAMULIYA|iUPADHMANIYA|iATIKRAMA|TONE RINGm|alRINGm
    ilANUSVARA ANTARGOMUKHA"),
  (0x1d00, "LATIN ", "egfA|cAE|geTURNEDa"),
  (0x1d03, "LATIN LETTER SMALL CAPITAL ", "BARRED B|C|D|ETH|E"),
  (0x1d08, "LATIN SMALL LETTER TURNED ", "OPEN E|I"),
  (0x1d0a, "LATIN LETTER SMALL CAPITAL ", "J|K|LhSTROKE|M|REVERSED N|O|OPEN O"),
  (0x1d11, "LATIN SMALL LETTER SIDEWAYS ", "O|OPEN O|OhSTROKE"),
  (0x1d14, "LATIN ", "geTURNED OE|egfOU|geTOP HALF O|bBOTTOMb"),
  (0x1d18, "LATIN LETTER SMALL CAPITAL ", "P|REVERSED R|TURNEDa|T|U"),
  (0x1d1d, "LATIN SMALL LETTER SIDEWAYS ", "U|DIAERESIZED U|TURNED M"),
  (0x1d20, "LATIN LETTER SMALL CAPITAL ", "V|W|Z|EZH"),
  (0x1d24, "LATIN LETTER ", "VOICED LARYNGEAL SPIRANT|AIN"),
  (0x1d26, "GREEK LETTER SMALL CAPITAL ", "GAMMA|LAMDA|PI|RHO|PSI"),
  (0x1d2b, "", "CYRILLICegfEL"),
  (0x1d2c, "MODIFIER LETTER CAPITAL ", "A|AE|B|BARRED B|D|E|REVERSED E|G..N|REVERSED N|O|OU|P|R|T|U
    W"),
  (0x1d43, "MODIFIER LETTER SMALL ", "A|TURNED A|ALPHA|TURNED AE|B|D|E|SCHWA|OPEN E|TURNED OPEN E|G
    TURNED I|K|M|ENG|O|OPEN O|TOP HALF O|BOTTOMb|P|T|U|SIDEWAYS U|TURNED M|V|AIN|BETA|GREEK GAMMA
    DELTA|GREEK PHI|CHI"),
  (0x1d62, "LATIN SUBSCRIPT SMALL LETTER ", "I|R|U|V"),
  (0x1d66, "GREEK SUBSCRIPT SMALL LETTER ", "BETA|GAMMA|RHO|PHI|CHI"),
  (0x1d6b, "LATIN SMALL LETTER ", "UE|BhMIDDLE TILDE|Dc|Fc|Mc|Nc|Pc|Rc|bFISHHOOK AND MIDDLE TILDE
    ShMIDDLE TILDE|Tc|Zc|TURNED G"),
  (0x1d78, "", "MODIFIEReCYRILLIC EN"),
  (0x1d79, "LATIN SMALL ", "eINSULAR G|eTHhSTRIKETHROUGH|feIhSTROKE|eIOTAhSTROKE|ePb|feUhSTROKE"),
  (0x1d7f, "LATIN SMALL LETTER ", "UPSILONhSTROKE|BhPALATAL HOOK|Dc|Fc|Gc|Kc|Lc|Mc|Nc|Pc|Rc|Sc|ESHc
    Vc|Xc|Zc|AhRETROFLEXa|ALPHAc|DhHOOK AND TAIL|EhRETROFLEX HOOK|OPEN EhRETROFLEX HOOK
    REVERSED OPEN EhRETROFLEX HOOK|SCHWAhRETROFLEX HOOK|Ic|OPEN OhRETROFLEX HOOK|ESHhRETROFLEX HOOK
    Uc|EZHc"),
  (0x1d9b, "MODIFIER LETTER SMALL ", "TURNED ALPHA|C|ChCURL|ETH|REVERSED OPEN E|F|DOTLESS JhSTROKE
    SCRIPT G|TURNED H|IhSTROKE|IOTA|fI|bhSTROKE|JhCROSSED-TAIL|LhRETROFLEX HOOK|bPALATALa|fL|MhHOOK
    TURNED MhLONG LEG|NhnHOOK|bRETROFLEXa|fN|BARRED O|PHI|ShHOOK|ESH|ThPALATAL HOOK|U BAR|UPSILON|fU
    VhHOOK|TURNED V|Z|ZhRETROFLEX HOOK|bCURL|EZH|THETA"),
  (0x1dc0, "COMBINING ", "DOTTED GRAVE ACCENT|aACUTEa|SNAKEt|SUSPENSIONu|MACRON-ACUTE|GRAVE-MACRON
    MACRON-GRAVE|ACUTE-MACRON|GRAVE-ACUTE-GRAVE|ACUTE-GRAVE-ACUTE|LATINgeRt|BREVE-MACRON
    MACRON-BREVE|lCIRCUMFLEXm|OGONEKm|ZIGZAGt|ISt|URm|USm"),
  (0x1dd3, "COMBINING LATIN SMALL LETTER ", "FLATTENED OPEN Am|AE|AO|AV|C CEDILLA|INSULAR D|ETH|G"),
  (0x1ddb, "COMBINING LATIN ", "egfG|geK|bL|egfL|cM|geN|egfN|cR"),
  (0x1de3, "COMBINING LATIN SMALL LETTER ", "R ROTUNDA|S|LONG S|Z|ALPHA|B|BETA|SCHWA|F
    LhlMIDDLE TILDE|OhLIGHT CENTRALIZATION STROKE|P|ESH|UhLIGHT CENTRALIZATION STROKE|W|AhDIAERESIS
    Ob|Ub"),
  (0x1df5, "COMBINING ", "UP TACKm|KAVYKAmj|bn|DOTb|WIDE INVERTED BRIDGEt|DOTtn|DELETIONu
    lINVERTED BREVEt|ALMOST EQUAL TOt|nARROWHEADm|jaAND DOWN ARROWHEADt"),
  (0x1e00, "LATIN ", "feAhRINGt|ged|feBhDOTm|ged|fdt|ged|fcLINEt|ged|feChCEDILLA AND ACUTE|gbd
    feDhDOTm|ged|fdt|ged|fcLINEt|ged|fcCEDILLA|gd|fcCIRCUMFLEXt|ged|feEhMACRON AND GRAVE|gbd
    fedACUTE|gbd|fcCIRCUMFLEXt|ged|fcTILDEt|ged|fcCEDILLA AND BREVE|gbd|feFhDOTm|ged|feGhMACRON|gd
    feHhDOTm|ged|fdt|ged|fcDIAERESIS|gd|fcCEDILLA|gd|fcBREVEt|ged|feIhTILDEt|ged
    fcDIAERESIS AND ACUTE|gbd|feKhACUTE|gd|fcDOTt|ged|fcLINEt|ged|feLhDOTt|ged|fedAND MACRON|gcd
    fcLINEt|ged|fcCIRCUMFLEXt|ged|feMhACUTE|gd|fcDOTm|ged|fdt|ged|feNbm|ged|fdt|ged|fcLINEt|ged
    fcCIRCUMFLEXt|ged|feOhTILDE AND ACUTE|gbd|fedDIAERESIS|gbd|fcMACRONaGRAVE|gbd|fedACUTE|gbd
    fePhACUTE|gd|fcDOTm|ged|feRc|ged|fdt|ged|fedAND MACRON|gcd|fcLINEt|ged|feShDOTm|ged|fdt|ged
    fcACUTE AND DOTm|gcd|fcCARONc|gcd|fcDOTtAND DOTm|gdd|feTbm|ged|fdt|ged|fcLINEt|ged|fcCIRCUMFLEXt
    ged|feUhDIAERESISt|ged|fcTILDEt|ged|fcCIRCUMFLEXt|ged|fcTILDE AND ACUTE|gbd|fcMACRONaDIAERESIS
    gbd|feVhTILDE|gd|fcDOTt|ged|feWhGRAVE|gd|fcACUTE|gd|fcDIAERESIS|gd|fcDOTm|ged|fdt|ged|feXbm|ged
    fcDIAERESIS|gd|feYhDOTm|ged|feZhCIRCUMFLEX|gd|fcDOTt|ged|fcLINEt"),
  (0x1e95, "LATIN SMALL LETTER ", "ZhLINEt|Hc|ThDIAERESIS|WhRINGm|Yc|AhjHALF RING|LONG ShDOTm
    cDIAGONAL STROKE|cHIGHa"),
  (0x1e9e, "LATIN ", "feSHARP S|geDELTA|feAhDOTt|ged|fcHOOKm|ged|fcCIRCUMFLEX AND ACUTE|gbd|fedGRAVE
    gbd|fedHOOKm|gcd|fedTILDE|gbd|fedDOTt|gcd|fcBREVEaACUTE|gbd|fedGRAVE|gbd|fedHOOKm|gcd|fedTILDE
    gbd|fedDOTt|gcd|feEhDOTt|ged|fcHOOKm|ged|fcTILDE|gd|fcCIRCUMFLEX AND ACUTE|gbd|fedGRAVE|gbd
    fedHOOKm|gcd|fedTILDE|gbd|fedDOTt|gcd|feIhHOOKm|ged|fcDOTt|ged|feOc|ged|fcHOOKm|ged
    fcCIRCUMFLEX AND ACUTE|gbd|fedGRAVE|gbd|fedHOOKm|gcd|fedTILDE|gbd|fedDOTt|gcd|fcHORNaACUTE|gbd
    fedGRAVE|gbd|fedHOOKm|gcd|fedTILDE|gbd|fedDOTt|gcd|feUhDOTt|ged|fcHOOKm|ged|fcHORN AND ACUTE|gbd
    fedGRAVE|gbd|fedHOOKm|gcd|fedTILDE|gbd|fedDOTt|gcd|feYhGRAVE|gd|fcDOTt|ged|fcHOOKm|ged|fcTILDE
    gd|feMIDDLE-WELSH LL|gc|fbV|gc|feYhLOOP|gd"),
  (0x1f00, "GREEK SMALL LETTER ALPHA WITH ", "PSILI|DASIA|PSILI AND VARIA|DASIAb|PSILIaOXIA|DASIAb
    PSILIaPERISPOMENI|DASIAb"),
  (0x1f08, "GREEK CAPITAL LETTER ALPHA WITH ", "PSILI|DASIA|PSILI AND VARIA|DASIAb|PSILIaOXIA|DASIAb
    PSILIaPERISPOMENI|DASIAb"),
  (0x1f10, "GREEK SMALL LETTER EPSILON WITH ", "PSILI|DASIA|PSILI AND VARIA|DASIAb|PSILIaOXIA
    DASIAb"),
  (0x1f18, "GREEK CAPITAL LETTER EPSILON WITH ", "PSILI|DASIA|PSILI AND VARIA|DASIAb|PSILIaOXIA
    DASIAb"),
  (0x1f20, "GREEK SMALL LETTER ETA WITH ", "PSILI|DASIA|PSILI AND VARIA|DASIAb|PSILIaOXIA|DASIAb
    PSILIaPERISPOMENI|DASIAb"),
  (0x1f28, "GREEK CAPITAL LETTER ETA WITH ", "PSILI|DASIA|PSILI AND VARIA|DASIAb|PSILIaOXIA|DASIAb
    PSILIaPERISPOMENI|DASIAb"),
  (0x1f30, "GREEK SMALL LETTER IOTA WITH ", "PSILI|DASIA|PSILI AND VARIA|DASIAb|PSILIaOXIA|DASIAb
    PSILIaPERISPOMENI|DASIAb"),
  (0x1f38, "GREEK CAPITAL LETTER IOTA WITH ", "PSILI|DASIA|PSILI AND VARIA|DASIAb|PSILIaOXIA|DASIAb
    PSILIaPERISPOMENI|DASIAb"),
  (0x1f40, "GREEK SMALL LETTER OMICRON WITH ", "PSILI|DASIA|PSILI AND VARIA|DASIAb|PSILIaOXIA
    DASIAb"),
  (0x1f48, "GREEK CAPITAL LETTER OMICRON WITH ", "PSILI|DASIA|PSILI AND VARIA|DASIAb|PSILIaOXIA
    DASIAb"),
  (0x1f50, "GREEK SMALL LETTER UPSILON WITH ", "PSILI|DASIA|PSILI AND VARIA|DASIAb|PSILIaOXIA|DASIAb
    PSILIaPERISPOMENI|DASIAb"),
  (0x1f59, "GREEK CAPITAL LETTER UPSILON WITH ", "DASIA||aAND VARIA||bOXIA||bPERISPOMENI"),
  (0x1f60, "GREEK SMALL LETTER OMEGA WITH ", "PSILI|DASIA|PSILI AND VARIA|DASIAb|PSILIaOXIA|DASIAb
    PSILIaPERISPOMENI|DASIAb"),
  (0x1f68, "GREEK CAPITAL LETTER OMEGA WITH ", "PSILI|DASIA|PSILI AND VARIA|DASIAb|PSILIaOXIA|DASIAb
    PSILIaPERISPOMENI|DASIAb"),
  (0x1f70, "GREEK SMALL LETTER ", "ALPHAhVARIA|bOXIA|EPSILONhVARIA|bOXIA|ETAhVARIA|bOXIA|IOTAhVARIA
    bOXIA|OMICRONhVARIA|bOXIA|UPSILONhVARIA|bOXIA|OMEGAhVARIA|bOXIA"),
  (0x1f80, "GREEK SMALL LETTER ALPHA WITH ", "PSILI AND YPOGEGRAMMENI|DASIAb
    PSILIaVARIA AND YPOGEGRAMMENI|DASIAd|PSILIaOXIAb|DASIAd|PSILIaPERISPOMENIb|DASIAd"),
  (0x1f88, "GREEK CAPITAL LETTER ALPHA WITH ", "PSILI AND PROSGEGRAMMENI|DASIAb
    PSILIaVARIA AND PROSGEGRAMMENI|DASIAd|PSILIaOXIAb|DASIAd|PSILIaPERISPOMENIb|DASIAd"),
  (0x1f90, "GREEK SMALL LETTER ETA WITH ", "PSILI AND YPOGEGRAMMENI|DASIAb
    PSILIaVARIA AND YPOGEGRAMMENI|DASIAd|PSILIaOXIAb|DASIAd|PSILIaPERISPOMENIb|DASIAd"),
  (0x1f98, "GREEK CAPITAL LETTER ETA WITH ", "PSILI AND PROSGEGRAMMENI|DASIAb
    PSILIaVARIA AND PROSGEGRAMMENI|DASIAd|PSILIaOXIAb|DASIAd|PSILIaPERISPOMENIb|DASIAd"),
  (0x1fa0, "GREEK SMALL LETTER OMEGA WITH ", "PSILI AND YPOGEGRAMMENI|DASIAb
    PSILIaVARIA AND YPOGEGRAMMENI|DASIAd|PSILIaOXIAb|DASIAd|PSILIaPERISPOMENIb|DASIAd"),
  (0x1fa8, "GREEK CAPITAL LETTER OMEGA WITH ", "PSILI AND PROSGEGRAMMENI|DASIAb
    PSILIaVARIA AND PROSGEGRAMMENI|DASIAd|PSILIaOXIAb|DASIAd|PSILIaPERISPOMENIb|DASIAd"),
  (0x1fb0, "GREEK SMALL LETTER ALPHA WITH ", "VRACHY|MACRON|VARIA AND YPOGEGRAMMENI|YPOGEGRAMMENI
    OXIA AND YPOGEGRAMMENI||PERISPOMENI|aAND YPOGEGRAMMENI"),
  (0x1fb8, "GREEK CAPITAL LETTER ALPHA WITH ", "VRACHY|MACRON|VARIA|OXIA|PROSGEGRAMMENI"),
  (0x1fbd, "GREEK ", "KORONIS|PROSGEGRAMMENI|PSILI|PERISPOMENI|DIALYTIKA AND PERISPOMENI"),
  (0x1fc2, "GREEK SMALL LETTER ETA WITH ", "VARIA AND YPOGEGRAMMENI|YPOGEGRAMMENI
    OXIA AND YPOGEGRAMMENI||PERISPOMENI|aAND YPOGEGRAMMENI"),
  (0x1fc8, "GREEK CAPITAL LETTER ", "EPSILONhVARIA|bOXIA|ETAhVARIA|bOXIA|bPROSGEGRAMMENI"),
  (0x1fcd, "GREEK PSILI AND ", "VARIA|OXIA|PERISPOMENI"),
  (0x1fd0, "GREEK SMALL LETTER IOTA WITH ", "VRACHY|MACRON|DIALYTIKA AND VARIA|bOXIA|||PERISPOMENI
    DIALYTIKA AND PERISPOMENI"),
  (0x1fd8, "GREEK CAPITAL LETTER IOTA WITH ", "VRACHY|MACRON|VARIA|OXIA"),
  (0x1fdd, "GREEK DASIA AND ", "VARIA|OXIA|PERISPOMENI"),
  (0x1fe0, "GREEK SMALL LETTER ", "UPSILONhVRACHY|bMACRON|bDIALYTIKA AND VARIA|dOXIA|RHOhPSILI
    bDASIA|UPSILONhPERISPOMENI|bDIALYTIKA AND PERISPOMENI"),
  (0x1fe8, "GREEK CAPITAL LETTER UPSILON WITH ", "VRACHY|MACRON|VARIA|OXIA"),
  (0x1fec, "GREEK ", "feRHOhDASIA|DIALYTIKA AND VARIA|bOXIA|VARIA"),
  (0x1ff2, "GREEK SMALL LETTER OMEGA WITH ", "VARIA AND YPOGEGRAMMENI|YPOGEGRAMMENI
    OXIA AND YPOGEGRAMMENI||PERISPOMENI|aAND YPOGEGRAMMENI"),
  (0x1ff8, "GREEK CAPITAL LETTER ", "OMICRONhVARIA|bOXIA|OMEGAhVARIA|bOXIA|bPROSGEGRAMMENI"),
  (0x1ffd, "", "GREEK OXIA|aDASIA||EN QUAD|EMa|EN SPACE|EMa|THREE-PER-EMa|FOUR-PER-EMa|SIX-PER-EMa
    FIGUREa|PUNCTUATIONa|THINa|HAIRa|ZERO WIDTH SPACE|bNON-JOINER|bJOINER|LEFT-TO-RIGHTu
    RIGHT-TO-LEFTu|HYPHEN|NON-BREAKING HYPHEN|FIGURE DASH|ENa|EMa|HORIZONTAL BAR|lvLINE|lLOWa
    nSINGLE QUOTATIONu|jc|SINGLE LOW-9b|aHIGH-REVERSED-9b")]

/-- Rows of Asian scripts. -/
def asianNames : List (Nat × String × String) := [
  (0x2c00, "GLAGOLITIC CAPITAL LETTER ", "AZU|BUKY|VEDE|GLAGOLI|DOBRO|YESTU|ZHIVETE|DZELO|ZEMLJA
    IZHE|INITIAL IZHE|I|DJERVI|KAKO|LJUDIJE|MYSLITE|NASHI|ONU|POKOJI|RITSI|SLOVO|TVRIDO|UKU|FRITU
    HERU|OTU|PE|SHTA|TSI|CHRIVI|SHA|YERU|YERI|YATI|SPIDERY HA|YU|gYUS|bhTAIL|YO|IOTATEDgYUS|BIG YUS
    IOTATED BIG YUS|FITA|IZHITSA|SHTAPIC|TROKUTASTI A|LATINATE MYSLITE|CAUDATE CHRIVI"),
  (0x2c30, "GLAGOLITIC SMALL LETTER ", "AZU|BUKY|VEDE|GLAGOLI|DOBRO|YESTU|ZHIVETE|DZELO|ZEMLJA|IZHE
    INITIAL IZHE|I|DJERVI|KAKO|LJUDIJE|MYSLITE|NASHI|ONU|POKOJI|RITSI|SLOVO|TVRIDO|UKU|FRITU|HERU
    OTU|PE|SHTA|TSI|CHRIVI|SHA|YERU|YERI|YATI|SPIDERY HA|YU|gYUS|bhTAIL|YO|IOTATEDgYUS|BIG YUS
    IOTATED BIG YUS|FITA|IZHITSA|SHTAPIC|TROKUTASTI A|LATINATE MYSLITE|CAUDATE CHRIVI"),
  (0x2c60, "LATIN ", "feLhlBAR|ged|fcMIDDLE TILDE|bPhSTROKE|bRhTAIL|geAhSTROKE|bThDIAGONAL STROKE
    feHhDESCENDER|gd|feKb|gd|feZb|gd|feALPHA|bMhHOOK|bTURNED A|cALPHA|geVhjHOOK|feWhHOOK|gd|bVhCURL
    feHALF H"),
  (0x2c76, "LATIN SMALL LETTER ", "HALF H|TAILLESS PHI|EhNOTCH|TURNED RhTAIL|OhLOW RING INSIDE"),
  (0x2c7b, "", "LATINegfTURNED E|aSUBSCRIPTgeJ|MODIFIERefV|LATINfeShSWASH TAIL|cZc"),
  (0x2c80, "COPTIC ", "feALFA|gb|feVIDA|gb|feGAMMA|gb|feDALDA|gb|feEIE|gb|feSOU|gb|feZATA|gb|feHATE
    gb|feTHETHE|gb|feIAUDA|gb|feKAPA|gb|feLAULA|gb|feMI|gb|feNI|gb|feKSI|gb|feO|gb|fePI|gb|feRO|gb
    feSIMA|gb|feTAU|gb|feUA|gb|feFI|gb|feKHI|gb|fePSI|gb|feOOU|gb|feDIALECT-P ALEF|gc
    feOLD COPTIC AIN|gd|feCRYPTOGRAMMIC EIE|gc|feDIALECT-P KAPA|gc|fbNI|gc|feCRYPTOGRAMMICa|gc
    feOLD COPTIC OOU|gd|feSAMPI|gb|feCROSSED SHEI|gc|feOLD COPTIC SHEI|gd|fcESH|gd|feAKHMIMIC KHEI
    gc|feDIALECT-P HORI|gc|feOLD COPTIC HORI|gd|fcHA|gd|feL-SHAPED HA|gc|feOLD COPTIC HEI|gd|fcHAT
    gd|fcGANGIA|gd|fcDJA|gd|fcSHIMA|gd|fbNUBIANa|gd|fcNGI|gd|fcNYI|gd|fcWAU|gd|SYMBOL KAI|aMI RO
    aPIa|aSTAUROS|aTAU RO|aKHIa|aSHIMA SIMA|feCRYPTOGRAMMIC SHEI|gc|fbGANGIA|gc|COMBINING NIm
    aSPIRITUS ASPER|bLENIS|feBOHAIRIC KHEI|gc||||||OLD NUBIAN FULL STOP|bDIRECT QUESTIONu|bINDIRECTb
    bVERSE DIVIDER|FRACTIONxHALF|FULL STOP|MORPHOLOGICAL DIVIDER"),
  (0x2d00, "GEORGIAN SMALL LETTER ", "AN|BAN|GAN|DON|EN|VIN|ZEN|TAN|IN|KAN|LAS|MAN|NAR|ON|PAR|ZHAR
    RAE|SAN|TAR|UN|PHAR|KHAR|GHAN|QAR|SHIN|CHIN|CAN|JIL|CIL|CHAR|XAN|JHAN|HAE|HE|HIE|WE|HAR
    HOE||YN||||||AEN"),
  (0x2d30, "TIFINAGH LETTER ", "YA|YAB|YABH|YAG|YAGHH|BERBER ACADEMY YAJ|YAJ|YAD|YADH|YADD|YADDH|YEY
    YAF|YAK|TUAREG YAK|YAKHH|YAH|BERBER ACADEMY YAH|TUAREG YAH|YAHH|YAA|YAKH|TUAREG YAKH|YAQ
    TUAREG YAQ|YI|YAZH|AHAGGAR YAZH|TUAREGa|YAL..N|TUAREG YAGN|aYANG|YAP|YU|YAR|YARR|YAGH
    TUAREG YAGH|AYERa|YAS|YASS|YASH|YAT|YATH|YACH|YATT|YAV|YAW|YAY|YAZ|TAWELLEMET YAZ|YAZZ|YE|YO"),
  (0x2d6f, "TIFINAGH ", "MODIFIEReLABIALIZATIONu|SEPARATORu"),
  (0x2d7f, "", "TIFINAGH CONSONANT JOINER"),
  (0x2d80, "ETHIOPIC SYLLABLE ", "LOA|MOA|ROA|SOA|SHOA|BOA|TOA|COA|NOA|NYOA|GLOTTAL OA|ZOA|DOA|DDOA
    JOA|THOA|CHOA|PHOA|POA|GGWA|GGWI|GGWEE|GGWE||||||||||SSA|SSU|SSI|SSAA|SSEE|SSE|SSO||CCA|CCU|CCI
    CCAA|CCEE|CCE|CCO||ZZA|ZZU|ZZI|ZZAA|ZZEE|ZZE|ZZO||CCHA|CCHU|CCHI|CCHAA|CCHEE|CCHE|CCHO||QYA|QYU
    QYI|QYAA|QYEE|QYE|QYO||KYA|KYU|KYI|KYAA|KYEE|KYE|KYO||XYA|XYU|XYI|XYAA|XYEE|XYE|XYO||GYA|GYU|GYI
    GYAA|GYEE|GYE|GYO"),
  (0x2de0, "COMBINING CYRILLIC LETTER ", "BE|VE|GHE|DE|ZHE|ZE|KA|EL..N|O|PE|ER|ES|TE|HA|TSE|CHE|SHA
    SHCHA|FITA|ES-TE|A|IE|DJERV|MONOGRAPH UK|YAT|YU|IOTIFIED A|LITTLE YUS|BIGa|IOTIFIED BIG YUS"),
  (0x2e00, "", "jANGLE SUBSTITUTION MARKER|bDOTTED SUBSTITUTION MARKER|nSUBSTITUTION BRACKET|jb
    nDOTTED SUBSTITUTION BRACKET|jc|RAISED INTERPOLATION MARKER|aDOTTED INTERPOLATION MARKER
    DOTTED TRANSPOSITION MARKER|naBRACKET"),
  (0x2e0a, "", "jTRANSPOSITION BRACKET|RAISED SQUARE|nRAISED OMISSION BRACKET|jc|EDITORIAL CORONIS
    PARAGRAPHOS|FORKED PARAGRAPHOS|REVERSED FORKED PARAGRAPHOS|HYPODIASTOLE|DOTTED OBELOS|zANCORA
    UPWARDSa|DOTTED RIGHT-POINTING ANGLE|lOBLIQUE HYPHEN|INVERTED INTERROBANG|PALM BRANCH
    HYPHENhDIAERESIS|TILDEhRINGm|nLOW PARAPHRASE BRACKET|jc|TILDEhDOTm|ct|nvBARhQUILL|jd
    TOPnHALF BRACKET|ajb|BOTTOMnb|ajb|nSIDEWAYS Ua|jc|nlPARENTHESIS|jb|yDOTS OVERxDOT PUNCTUATION
    xDOTayDOTSa|SQUARED FOUR DOT PUNCTUATION|FIVE DOTu|REVERSED QUESTIONu|vTILDE|RING POINT
    WORD SEPARATOR MIDDLE DOT|TURNED COMMA|RAISED DOT"),
  (0x2e34, "", "RAISED COMMA|TURNED SEMICOLON|DAGGERhnGUARD|bja|TURNED DAGGER|TOP HALF SECTIONi
    TWO-EM DASH|THREE-EMa|STENOGRAPHIC FULL STOP|vSIX DOTS|WIGGLYvLINE|CAPITULUM|lHYPHEN
    REVERSED COMMA|lLOW-REVERSED-9 QUOTATIONu|DASHhnUPTURN|lSUSPENSIONu|INVERTED LOW KAVYKA
    chKAVYKAm|LOW KAVYKA|bhDOT|lSTACKED COMMA|DOTTED SOLIDUS|TRIPLE DAGGER|MEDIEVAL COMMA
    PARAGRAPHUSu|PUNCTUS ELEVATUSu|CORNISH VERSE DIVIDER|CROSS PATTYhjCROSSBAR|cna|TIRONIANifET
    MEDIEVAL EXCLAMATIONu|aQUESTIONu|nSQUARE BRACKEThSTROKE|jd|nclSTROKE|jad|TOP HALFnPARENTHESIS
    bja|BOTTOMana|bja|OBLIQUE HYPHEN"),
  (0x2e80, "CJK RADICAL ", "REPEAT|CLIFF|SECONDx|ay|ap|PERSON|BOX|TABLE|KNIFEx|ay|DIVINATION|SEAL|gx
    gy|LAMEx|ay|ap|aFOUR|SNAKE|THREAD|SNOUTx|ay|HEARTx|ay|HAND|RAP||CHOKE|SUN|MOON|DEATH|MOTHER
    CIVILIAN|WATERx|ay|FIRE|PAWx|ay|SIMPLIFIED HALF TREE TRUNK|COW|DOG|JADE|BOLT OF CLOTH|EYE
    SPIRITx|ay|BAMBOO|SILK|C-SIMPLIFIED SILK|NETx|ay|ap|aFOUR|MESH|SHEEP|RAM|EWE|OLD|BRUSHx|ay|MEAT
    MORTAR|GRASSx|ay|ap|TIGER|CLOTHES|WESTx|ay|C-SIMPLIFIED SEE|SIMPLIFIED HORN|HORN
    C-SIMPLIFIED SPEECH|aSHELL|FOOT|C-SIMPLIFIED CART|SIMPLIFIED WALK|WALKx|ay|CITY
    C-SIMPLIFIED GOLD|LONGx|ay|C-SIMPLIFIED LONG|aGATE|MOUNDx|ay|RAIN|BLUE
    C-SIMPLIFIED TANNED LEATHER|aLEAF|aWIND|aFLY|EATx|ay|ap|C-SIMPLIFIED EAT|HEAD|C-SIMPLIFIED HORSE
    BONE|GHOST|C-SIMPLIFIED FISH|aBIRD|aSALT|SIMPLIFIED WHEAT|aYELLOW|C-SIMPLIFIED FROG
    J-SIMPLIFIED EVEN|C-SIMPLIFIEDa|J-SIMPLIFIED TOOTH|C-SIMPLIFIEDa|J-SIMPLIFIED DRAGON
    C-SIMPLIFIEDa|TURTLE|J-SIMPLIFIED TURTLE|C-SIMPLIFIEDa"),
  (0x2f00, "KANGXI RADICAL ", "x|LINE|DOT|SLASH|SECOND|HOOK|y|LID|MAN|LEGS|ENTER|EIGHT|DOWN BOX
    COVER|ICE|TABLE|OPEN BOX|KNIFE|POWER|WRAP|SPOON|jOPEN BOX|HIDING ENCLOSURE|TEN|DIVINATION|SEAL
    CLIFF|PRIVATE|AGAIN|MOUTH|ENCLOSURE|EARTH|SCHOLAR|GO|aSLOWLY|EVENING|BIG|WOMAN|CHILD|ROOF|INCH|g
    LAME|CORPSE|SPROUT|MOUNTAIN|RIVER|WORK|ONESELF|TURBAN|DRY|SHORT THREAD|DOTTED CLIFF|LONG STRIDE
    yHANDS|SHOOT|BOW|SNOUT|BRISTLE|STEP|HEART|HALBERD|DOOR|HAND|BRANCH|RAP|SCRIPT|DIPPER|AXE|SQUARE
    NOT|SUN|SAY|MOON|TREE|LACK|STOP|DEATH|WEAPON|DO NOT|COMPARE|FUR|CLAN|STEAM|WATER|FIRE|CLAW
    FATHER|lX|HALF TREE TRUNK|SLICE|FANG|COW|DOG|PROFOUND|JADE|MELON|TILE|SWEET|LIFE|USE|FIELD
    BOLT OF CLOTH|SICKNESS|DOTTED TENT|WHITE|SKIN|DISH|EYE|SPEAR|o|STONE|SPIRIT|TRACK|GRAIN|CAVE
    STAND|BAMBOO|RICE|SILK|JAR|NET|SHEEP|FEATHER|OLD|AND|PLOW|EAR|BRUSH|MEAT|MINISTER|SELF|ARRIVE
    MORTAR|TONGUE|OPPOSE|BOAT|STOPPING|COLOR|GRASS|TIGER|INSECT|BLOOD|WALK ENCLOSURE|CLOTHES|WEST
    SEE|HORN|SPEECH|VALLEY|BEAN|PIG|BADGER|SHELL|RED|RUN|FOOT|BODY|CART|BITTER|MORNING|WALK|CITY
    WINE|DISTINGUISH|VILLAGE|GOLD|LONG|GATE|MOUND|SLAVE|SHORT TAILED BIRD|RAIN|BLUE|WRONG|FACE
    LEATHER|TANNED LEATHER|LEEK|SOUND|LEAF|WIND|FLY|EAT|HEAD|FRAGRANT|HORSE|BONE|TALL|HAIR|FIGHT
    SACRIFICIAL WINE|CAULDRON|GHOST|FISH|BIRD|SALT|DEER|WHEAT|HEMP|YELLOW|MILLET|w|EMBROIDERY|FROG
    TRIPOD|DRUM|RAT|NOSE|EVEN|TOOTH|DRAGON|TURTLE|FLUTE"),
  (0x2ff0, "IDEOGRAPHIC DESCRIPTION CHARACTER ", "nTOj|mat|naMIDDLE ANDj|mct|FULL SURROUND
    SURROUND FROMm|bt|bn|bUPPERn|cj|bLOWERn|OVERLAID"),
  (0x3000, "", "IDEOGRAPHIC SPACE|aCOMMA|aFULL STOP|DITTOu|JAPANESE INDUSTRIAL STANDARD SYMBOL
    IDEOGRAPHIC ITERATIONu|aCLOSINGu|aNUMBER ZERO|nANGLE BRACKET|jb|nlANGLE BRACKET|jc
    nCORNER BRACKET|jb|nWHITE CORNER BRACKET|jc|nwLENTICULARa|jc|POSTALu|GETAu
    nTORTOISE SHELL BRACKET|jc|nWHITE LENTICULARa|jc|naTORTOISE SHELL BRACKET|jd|naSQUARE BRACKET|jc
    WAVE DASH|REVERSEDlPRIME QUOTATIONu|lPRIME QUOTATIONu|LOWlPRIME QUOTATIONu|POSTALuFACE"),
  (0x3021, "HANGZHOU NUMERAL ", "x|y|p|FOUR|FIVE|SIX|SEVEN|EIGHT|NINE"),
  (0x302a, "IDEOGRAPHIC ", "LEVEL TONEu|RISINGb|DEPARTINGb|ENTERINGb"),
  (0x302e, "", "HANGUL SINGLE DOT TONEu|alc|WAVY DASH"),
  (0x3031, "VERTICAL KANA REPEAT ", "u|hVOICED SOUNDu|uUPPER HALF|hVOICED SOUNDuUPPER HALF
    uLOWER HALF"),
  (0x3036, "", "CIRCLED POSTALu|IDEOGRAPHIC TELEGRAPH LINE FEED SEPARATOR SYMBOL
    HANGZHOU NUMERAL TEN|bTWENTY|bTHIRTY|vIDEOGRAPHIC ITERATIONu|MASUu|PART ALTERNATIONu
    IDEOGRAPHIC VARIATION INDICATOR|aHALF FILL SPACE"),
  (0x3041, "HIRAGANA LETTER ", "gA|A|gI|I|gU|U|gE|E|gO|O|KA|GA|KI|GI|KU|GU|KE|GE|KO|GO|SA|ZA|SI|ZI
    SU|ZU|SE|ZE|SO|ZO|TA|DA|TI|DI|gTU|TU|DU|TE|DE|TO|DO|NA|NI|NU|NE|NO|HA|BA|PA|HI|BI|PI|HU|BU|PU|HE
    BE|PE|HO|BO|PO|MA|MI|MU|ME|MO|gYA|YA|gYU|YU|gYO|YO|RA|RI|RU|RE|RO|gWA|WA|WI|WE|WO|N|VU|gKA
    gKE"),
  (0x3099, "COMBINING KATAKANA-HIRAGANA ", "VOICED SOUNDu|SEMI-VOICEDb"),
  (0x309b, "", "KATAKANA-HIRAGANA VOICED SOUNDu|aSEMI-VOICEDb|HIRAGANA ITERATIONu|aVOICED ITERATIONu
    aDIGRAPH YORI|KATAKANA-HIRAGANAlHYPHEN"),
  (0x30a1, "KATAKANA LETTER ", "gA|A|gI|I|gU|U|gE|E|gO|O|KA|GA|KI|GI|KU|GU|KE|GE|KO|GO|SA|ZA|SI|ZI
    SU|ZU|SE|ZE|SO|ZO|TA|DA|TI|DI|gTU|TU|DU|TE|DE|TO|DO|NA|NI|NU|NE|NO|HA|BA|PA|HI|BI|PI|HU|BU|PU|HE
    BE|PE|HO|BO|PO|MA|MI|MU|ME|MO|gYA|YA|gYU|YU|gYO|YO|RA|RI|RU|RE|RO|gWA|WA|WI|WE|WO|N|VU|gKA|gKE
    VA|VI|VE|VO"),
  (0x30fb, "", "KATAKANA MIDDLE DOT|KATAKANA-HIRAGANA PROLONGED SOUNDu|KATAKANA ITERATIONu
    aVOICED ITERATIONu|aDIGRAPH KOTO"),
  (0x3105, "BOPOMOFO LETTER ", "B|P|M|F|D|T|N|L|G|K|H|J|Q|X|ZH|CH|SH|R|Z|C|S|A|O|E|EH|AI|EI|AU|OU|AN
    EN|ANG|ENG|ER|I|U|IU|V|NG|GN|IH|OhDOTm|NN"),
  (0x3131, "HANGUL LETTER ", "KIYEOK|SSANGKIYEOK|KIYEOK-SIOS|NIEUN|NIEUN-CIEUC|NIEUN-HIEUH|TIKEUT
    SSANGTIKEUT|RIEUL|RIEUL-KIYEOK|RIEUL-MIEUM|RIEUL-PIEUP|RIEUL-SIOS|RIEUL-THIEUTH|RIEUL-PHIEUPH
    RIEUL-HIEUH|MIEUM|PIEUP|SSANGPIEUP|PIEUP-SIOS|SIOS|SSANGSIOS|IEUNG|CIEUC|SSANGCIEUC|CHIEUCH
    KHIEUKH|THIEUTH|PHIEUPH|HIEUH|A|AE|YA|YAE|EO|E|YEO|YE|O|WA|WAE|OE|YO|U|WEO|WE|WI|YU|EU|YI|I"),
  (0x3164, "", "HANGUL FILLER"),
  (0x3165, "HANGUL LETTER ", "SSANGNIEUN|NIEUN-TIKEUT|NIEUN-SIOS|NIEUN-PANSIOS|RIEUL-KIYEOK-SIOS
    RIEUL-TIKEUT|RIEUL-PIEUP-SIOS|RIEUL-PANSIOS|RIEUL-YEORINHIEUH|MIEUM-PIEUP|MIEUM-SIOS
    MIEUM-PANSIOS|KAPYEOUNMIEUM|PIEUP-KIYEOK|PIEUP-TIKEUT|PIEUP-SIOS-KIYEOK|PIEUP-SIOS-TIKEUT
    PIEUP-CIEUC|PIEUP-THIEUTH|KAPYEOUNPIEUP|KAPYEOUNSSANGPIEUP|SIOS-KIYEOK|SIOS-NIEUN|SIOS-TIKEUT
    SIOS-PIEUP|SIOS-CIEUC|PANSIOS|SSANGIEUNG|YESIEUNG|YESIEUNG-SIOS|YESIEUNG-PANSIOS|KAPYEOUNPHIEUPH
    SSANGHIEUH|YEORINHIEUH|YO-YA|YO-YAE|YO-I|YU-YEO|YU-YE|YU-I|ARAEA|ARAEAE"),
  (0x3190, "IDEOGRAPHIC ANNOTATION ", "LINKINGu|REVERSEu|xu|yu|pu|FOURu|TOPu|MIDDLEu|BOTTOMu|FIRSTu
    SECONDu|THIRDu|FOURTHu|HEAVENu|EARTHu|MANu"),
  (0x31a0, "BOPOMOFO LETTER ", "BU|ZI|JI|GU|EE|ENN|OO|ONN|IR|ANN|INN|UNN|IM|NGG|AINN|AUNN|AM|OM|ONG
    INNN"),
  (0x31b4, "BOPOMOFO FINAL LETTER ", "P|T|K|H"),
  (0x31b8, "BOPOMOFO ", "eGH|eLH|eZY|seG|eGW|eKW|eOE|eAH"),
  (0x31c0, "CJK STROKE ", "T|WG|XG|BXG|SW|HZZ|HZG|HP|HZWG|SZWG|HZT|HZZP|HPWG|HZW|HZZZ|N|H|S|P|SP|D
    HZ|HG|SZ|SWZ|ST|SG|PD|PZ|TN|SZZ|SWG|HXWG|HZZZG|PG|Q"),
  (0x31f0, "KATAKANA LETTER SMALL ", "KU|SI|SU|TO|NU|HA|HI|HU|HE|HO|MU|RA|RI|RU|RE|RO"),
  (0x3200, "PARENTHESIZED HANGUL ", "KIYEOK|NIEUN|TIKEUT|RIEUL|MIEUM|PIEUP|SIOS|IEUNG|CIEUC|CHIEUCH
    KHIEUKH|THIEUTH|PHIEUPH|HIEUH|KIYEOK A|NIEUNa|TIKEUTa|RIEULa|MIEUMa|PIEUPa|SIOSa|IEUNGa|CIEUCa
    CHIEUCHa|KHIEUKHa|THIEUTHa|PHIEUPHa|HIEUHa|CIEUC U"),
  (0x321d, "PARENTHESIZED KOREAN CHARACTER ", "OJEON|O HU"),
  (0x3220, "PARENTHESIZED IDEOGRAPH ", "x|y|p|FOUR|FIVE|SIX|SEVEN|EIGHT|NINE|TEN|MOON|FIRE|WATER
    WOOD|METAL|EARTH|SUN|STOCK|HAVE|SOCIETY|NAME|SPECIAL|FINANCIAL|CONGRATULATION|LABOR|REPRESENT
    CALL|STUDY|SUPERVISE|ENTERPRISE|RESOURCE|ALLIANCE|FESTIVAL|REST|SELF|REACH"),
  (0x3244, "CIRCLED IDEOGRAPH ", "QUESTION|KINDERGARTEN|SCHOOL|KOTO"),
  (0x3248, "CIRCLED NUMBER ", "TEN ONwSQUARE|TWENTYc|THIRTYc|FORTYc|FIFTYc|SIXTYc|SEVENTYc
    EIGHTYc"),
  (0x3250, "", "PARTNERSHIPi"),
  (0x3251, "CIRCLED NUMBER TWENTY ", "x|y|p|FOUR|FIVE|SIX|SEVEN|EIGHT|NINE"),
  (0x325a, "CIRCLED NUMBER ", "THIRTY|ax|ay|ap|aFOUR|aFIVE"),
  (0x3260, "CIRCLED HANGUL ", "KIYEOK|NIEUN|TIKEUT|RIEUL|MIEUM|PIEUP|SIOS|IEUNG|CIEUC|CHIEUCH
    KHIEUKH|THIEUTH|PHIEUPH|HIEUH|KIYEOK A|NIEUNa|TIKEUTa|RIEULa|MIEUMa|PIEUPa|SIOSa|IEUNGa|CIEUCa
    CHIEUCHa|KHIEUKHa|THIEUTHa|PHIEUPHa|HIEUHa"),
  (0x327c, "", "CIRCLED KOREAN CHARACTER CHAMKO|cJUEUI|aHANGUL IEUNG U|KOREAN STANDARD SYMBOL"),
  (0x3280, "CIRCLED IDEOGRAPH ", "x|y|p|FOUR|FIVE|SIX|SEVEN|EIGHT|NINE|TEN|MOON|FIRE|WATER|WOOD
    METAL|EARTH|SUN|STOCK|HAVE|SOCIETY|NAME|SPECIAL|FINANCIAL|CONGRATULATION|LABOR|SECRET|MALE
    FEMALE|SUITABLE|EXCELLENT|PRINT|ATTENTION|ITEM|REST|COPY|CORRECT|HIGH|CENTRE|LOW|n|j|MEDICINE
    RELIGION|STUDY|SUPERVISE|ENTERPRISE|RESOURCE|ALLIANCE|NIGHT"),
  (0x32b1, "CIRCLED NUMBER ", "THIRTY SIX|aSEVEN|aEIGHT|aNINE|FORTY|ax|ay|ap|aFOUR|aFIVE|aSIX|aSEVEN
    aEIGHT|aNINE|FIFTY"),
  (0x32c0, "IDEOGRAPHIC TELEGRAPH SYMBOL FOR ", "JANUARY|FEBRUARY|MARCH|APRIL|MAY|JUNE|JULY|AUGUST
    SEPTEMBER|OCTOBER|NOVEMBER|DECEMBER"),
  (0x32cc, "", "SQUARE HG|aERG|aEV|LIMITED LIABILITYi"),
  (0x32d0, "CIRCLED KATAKANA ", "A|I|U|E|O|KA|KI|KU|KE|KO|SA|SI|SU|SE|SO|TA|TI|TU|TE|TO|NA|NI|NU|NE
    NO|HA|HI|HU|HE|HO|MA|MI|MU|ME|MO|YA|YU|YO|RA|RI|RU|RE|RO|WA|WI|WE|WO"),
  (0x32ff, "SQUARE ", "ERA NAME REIWA|APAATO|ARUHUA|ANPEA|AARU|ININGU|INTI|UON|ESUKUUDO|EEKAA|ONSU
    OOMU|KAIRI|KARATTO|KARORII|GARON|GANMA|GIGA|GINII|KYURII|GIRUDAA|KIRO|KIROGURAMU|KIROMEETORU
    KIROWATTO|GURAMU|GURAMUTON|KURUZEIRO|KUROONE|KEESU|KORUNA|KOOPO|SAIKURU|SANTIIMU|SIRINGU|SENTI
    SENTO|DAASU|DESI|DORU|TON|NANO|NOTTO|HAITU|PAASENTO|PAATU|BAARERU|PIASUTORU|PIKURU|PIKO|BIRU
    HUARADDO|HUIITO|BUSSYERU|HURAN|HEKUTAARU|PESO|PENIHI|HERUTU|PENSU|PEEZI|BEETA|POINTO|BORUTO|HON
    PONDO|HOORU|HOON|MAIKURO|MAIRU|MAHHA|MARUKU|MANSYON|MIKURON|MIRI|MIRIBAARU|MEGA|MEGATON|MEETORU
    YAADO|YAARU|YUAN|RITTORU|RIRA|RUPII|RUUBURU|REMU|RENTOGEN|WATTO"),
  (0x3358, "IDEOGRAPHIC TELEGRAPH SYMBOL FOR HOUR ", "ZERO|x|y|p|FOUR|FIVE|SIX|SEVEN|EIGHT|NINE|TEN
    ELEVEN|TWELVE|THIRTEEN|FOURTEEN|FIFTEEN|SIXTEEN|SEVENTEEN|EIGHTEEN|NINETEEN|TWENTY|TWENTY-ONE
    TWENTY-TWO|TWENTY-THREE|TWENTY-FOUR"),
  (0x3371, "SQUARE ", "HPA|DA|AU|BAR|OV|PC|DM|aSQUARED|aCUBED|IU|ERA NAME HEISEI|bSYOUWA|bTAISYOU
    bMEIZI|CORPORATION|PA AMPS|NA|MU A|MA|KA|KB|MB|GB|CAL|KCAL|PF|NF|MU F|aG|MG|KG|HZ|KHZ|MHZ|GHZ
    THZ|MU L|ML|DL|KL|FM|NM|MU M|MM|CM|KM|MM SQUARED|CMa|Ma|KMa|MM CUBED|CMa|Ma|KMa|M OVER S
    cSQUARED|PA|KPA|MPA|GPA|RAD|aOVER S|cSQUARED|PS|NS|MU S|MS|PV|NV|MU V|MV|KV|MV MEGA|PW|NW|MU W
    MW|KW|MW MEGA|K OHM|Ma|AM|BQ|CC|CD|C OVER KG|CO|DB|GY|HA|HP|IN|KK|KMf|KT|LM|LN|LOG|LX|MBg|MIL
    MOL|PH|PM|PPM|PR|SR|SV|WB|V OVER M|Ab"),
  (0x33e0, "IDEOGRAPHIC TELEGRAPH SYMBOL FOR DAY ", "x|y|p|FOUR|FIVE|SIX|SEVEN|EIGHT|NINE|TEN|ELEVEN
    TWELVE|THIRTEEN|FOURTEEN|FIFTEEN|SIXTEEN|SEVENTEEN|EIGHTEEN|NINETEEN|TWENTY|TWENTY-ONE
    TWENTY-TWO|TWENTY-THREE|TWENTY-FOUR|TWENTY-FIVE|TWENTY-SIX|TWENTY-SEVEN|TWENTY-EIGHT|TWENTY-NINE
    THIRTY|THIRTY-ONE"),
  (0x33ff, "", "SQUARE GAL"),
  (0x4dc0, "HEXAGRAM FOR ", "THE CREATIVE HEAVEN|aRECEPTIVE EARTH|DIFFICULTY AT THE BEGINNING
    YOUTHFUL FOLLY|WAITING|CONFLICT|THE ARMY|HOLDING TOGETHER|gTAMING|TREADING|PEACE|STANDSTILL
    FELLOWSHIP|GREAT POSSESSION|MODESTY|ENTHUSIASM|FOLLOWING|WORK ON THE DECAYED|APPROACH
    CONTEMPLATION|BITING THROUGH|GRACE|SPLITTING APART|RETURN|INNOCENCE|GREAT TAMING|MOUTH CORNERS
    GREAT PREPONDERANCE|THE ABYSMAL WATER|aCLINGING FIRE|INFLUENCE|DURATION|RETREAT|GREAT POWER
    PROGRESS|DARKENING OF THE LIGHT|THE FAMILY|OPPOSITION|OBSTRUCTION|DELIVERANCE|DECREASE|INCREASE
    BREAKTHROUGH|COMING TO MEET|GATHERING TOGETHER|PUSHING UPWARD|OPPRESSION|THE WELL|REVOLUTION
    THE CAULDRON|aAROUSING THUNDER|aKEEPING STILL MOUNTAIN|DEVELOPMENT|THE MARRYING MAIDEN|ABUNDANCE
    THE WANDERER|aGENTLE WIND|aJOYOUS LAKE|DISPERSION|LIMITATION|INNER TRUTH|gPREPONDERANCE
    AFTER COMPLETION|BEFOREa"),
  (0xa000, "YI SYLLABLE ", "IT|IX|I|IP|IET|IEX|IE|IEP|AT|AX|A|AP|UOX|UO|UOP|OT|OX|O|OP|EX|E|WU|BIT
    BIX|BI|BIP|BIET|BIEX|BIE|BIEP|BAT|BAX|BA|BAP|BUOX|BUO|BUOP|BOT|BOX|BO|BOP|BEX|BE|BEP|BUT|BUX|BU
    BUP|BURX|BUR|BYT|BYX|BY|BYP|BYRX|BYR|PIT|PIX|PI|PIP|PIEX|PIE|PIEP|PAT|PAX|PA|PAP|PUOX|PUO|PUOP
    POT|POX|PO|POP|PUT|PUX|PU|PUP|PURX|PUR|PYT|PYX|PY|PYP|PYRX|PYR|BBIT|BBIX|BBI|BBIP|BBIET|BBIEX
    BBIE|BBIEP|BBAT|BBAX|BBA|BBAP|BBUOX|BBUO|BBUOP|BBOT|BBOX|BBO|BBOP|BBEX|BBE|BBEP|BBUT|BBUX|BBU
    BBUP|BBURX|BBUR|BBYT|BBYX|BBY|BBYP|NBIT|NBIX|NBI|NBIP|NBIEX|NBIE|NBIEP|NBAT|NBAX|NBA|NBAP|NBOT
    NBOX|NBO|NBOP|NBUT|NBUX|NBU|NBUP|NBURX|NBUR|NBYT|NBYX|NBY|NBYP|NBYRX|NBYR|HMIT|HMIX|HMI|HMIP
    HMIEX|HMIE|HMIEP|HMAT|HMAX|HMA|HMAP|HMUOX|HMUO|HMUOP|HMOT|HMOX|HMO|HMOP|HMUT|HMUX|HMU|HMUP|HMURX
    HMUR|HMYX|HMY|HMYP|HMYRX|HMYR|MIT|MIX|MI|MIP|MIEX|MIE|MIEP|MAT|MAX|MA|MAP|MUOT|MUOX|MUO|MUOP|MOT
    MOX|MO|MOP|MEX|ME|MUT|MUX|MU|MUP|MURX|MUR|MYT|MYX|MY|MYP|FIT|FIX|FI|FIP|FAT|FAX|FA|FAP|FOX|FO
    FOP|FUT|FUX|FU|FUP|FURX|FUR|FYT|FYX|FY|FYP|VIT|VIX|VI|VIP|VIET|VIEX|VIE|VIEP|VAT|VAX|VA|VAP|VOT
    VOX|VO|VOP|VEX|VEP|VUT|VUX|VU|VUP|VURX|VUR|VYT|VYX|VY|VYP|VYRX|VYR|DIT|DIX|DI|DIP|DIEX|DIE|DIEP
    DAT|DAX|DA|DAP|DUOX|DUO|DOT|DOX|DO|DOP|DEX|DE|DEP|DUT|DUX|DU|DUP|DURX|DUR|TIT|TIX|TI|TIP|TIEX
    TIE|TIEP|TAT|TAX|TA|TAP|TUOT|TUOX|TUO|TUOP|TOT|TOX|TO|TOP|TEX|TE|TEP|TUT|TUX|TU|TUP|TURX|TUR
    DDIT|DDIX|DDI|DDIP|DDIEX|DDIE|DDIEP|DDAT|DDAX|DDA|DDAP|DDUOX|DDUO|DDUOP|DDOT|DDOX|DDO|DDOP|DDEX
    DDE|DDEP|DDUT|DDUX|DDU|DDUP|DDURX|DDUR|NDIT|NDIX|NDI|NDIP|NDIEX|NDIE|NDAT|NDAX|NDA|NDAP|NDOT
    NDOX|NDO|NDOP|NDEX|NDE|NDEP|NDUT|NDUX|NDU|NDUP|NDURX|NDUR|HNIT|HNIX|HNI|HNIP|HNIET"),
  (0xa16d, "YI SYLLABLE ", "HNIEX|HNIE|HNIEP|HNAT|HNAX|HNA|HNAP|HNUOX|HNUO|HNOT|HNOX|HNOP|HNEX|HNE
    HNEP|HNUT|NIT|NIX|NI|NIP|NIEX|NIE|NIEP|NAX|NA|NAP|NUOX|NUO|NUOP|NOT|NOX|NO|NOP|NEX|NE|NEP|NUT
    NUX|NU|NUP|NURX|NUR|HLIT|HLIX|HLI|HLIP|HLIEX|HLIE|HLIEP|HLAT|HLAX|HLA|HLAP|HLUOX|HLUO|HLUOP|HLOX
    HLO|HLOP|HLEX|HLE|HLEP|HLUT|HLUX|HLU|HLUP|HLURX|HLUR|HLYT|HLYX|HLY|HLYP|HLYRX|HLYR|LIT|LIX|LI
    LIP|LIET|LIEX|LIE|LIEP|LAT|LAX|LA|LAP|LUOT|LUOX|LUO|LUOP|LOT|LOX|LO|LOP|LEX|LE|LEP|LUT|LUX|LU
    LUP|LURX|LUR|LYT|LYX|LY|LYP|LYRX|LYR|GIT|GIX|GI|GIP|GIET|GIEX|GIE|GIEP|GAT|GAX|GA|GAP|GUOT|GUOX
    GUO|GUOP|GOT|GOX|GO|GOP|GET|GEX|GE|GEP|GUT|GUX|GU|GUP|GURX|GUR|KIT|KIX|KI|KIP|KIEX|KIE|KIEP|KAT
    KAX|KA|KAP|KUOX|KUO|KUOP|KOT|KOX|KO|KOP|KET|KEX|KE|KEP|KUT|KUX|KU|KUP|KURX|KUR|GGIT|GGIX|GGI
    GGIEX|GGIE|GGIEP|GGAT|GGAX|GGA|GGAP|GGUOT|GGUOX|GGUO|GGUOP|GGOT|GGOX|GGO|GGOP|GGET|GGEX|GGE|GGEP
    GGUT|GGUX|GGU|GGUP|GGURX|GGUR|MGIEX|MGIE|MGAT|MGAX|MGA|MGAP|MGUOX|MGUO|MGUOP|MGOT|MGOX|MGO|MGOP
    MGEX|MGE|MGEP|MGUT|MGUX|MGU|MGUP|MGURX|MGUR|HXIT|HXIX|HXI|HXIP|HXIET|HXIEX|HXIE|HXIEP|HXAT|HXAX
    HXA|HXAP|HXUOT|HXUOX|HXUO|HXUOP|HXOT|HXOX|HXO|HXOP|HXEX|HXE|HXEP|NGIEX|NGIE|NGIEP|NGAT|NGAX|NGA
    NGAP|NGUOT|NGUOX|NGUO|NGOT|NGOX|NGO|NGOP|NGEX|NGE|NGEP|HIT|HIEX|HIE|HAT|HAX|HA|HAP|HUOT|HUOX|HUO
    HUOP|HOT|HOX|HO|HOP|HEX|HE|HEP|WAT|WAX|WA|WAP|WUOX|WUO|WUOP|WOX|WO|WOP|WEX|WE|WEP|ZIT|ZIX|ZI|ZIP
    ZIEX|ZIE|ZIEP|ZAT|ZAX|ZA|ZAP|ZUOX|ZUO|ZUOP|ZOT|ZOX|ZO|ZOP|ZEX|ZE|ZEP|ZUT|ZUX|ZU|ZUP|ZURX|ZUR|ZYT
    ZYX|ZY|ZYP|ZYRX|ZYR|CIT|CIX|CI|CIP|CIET|CIEX|CIE|CIEP|CAT|CAX|CA|CAP|CUOX|CUO|CUOP|COT|COX|CO
    COP|CEX|CE|CEP|CUT|CUX|CU|CUP|CURX|CUR|CYT|CYX|CY|CYP|CYRX|CYR|ZZIT|ZZIX|ZZI|ZZIP|ZZIET|ZZIEX
    ZZIE|ZZIEP|ZZAT|ZZAX|ZZA|ZZAP|ZZOX|ZZO|ZZOP|ZZEX|ZZE|ZZEP|ZZUX|ZZU|ZZUP|ZZURX|ZZUR|ZZYT|ZZYX|ZZY
    ZZYP|ZZYRX|ZZYR|NZIT|NZIX|NZI|NZIP|NZIEX|NZIE|NZIEP|NZAT|NZAX|NZA|NZAP|NZUOX|NZUO|NZOX|NZOP
    NZEX"),
  (0xa2fd, "YI SYLLABLE ", "NZE|NZUX|NZU|NZUP|NZURX|NZUR|NZYT|NZYX|NZY|NZYP|NZYRX|NZYR|SIT|SIX|SI
    SIP|SIEX|SIE|SIEP|SAT|SAX|SA|SAP|SUOX|SUO|SUOP|SOT|SOX|SO|SOP|SEX|SE|SEP|SUT|SUX|SU|SUP|SURX|SUR
    SYT|SYX|SY|SYP|SYRX|SYR|SSIT|SSIX|SSI|SSIP|SSIEX|SSIE|SSIEP|SSAT|SSAX|SSA|SSAP|SSOT|SSOX|SSO
    SSOP|SSEX|SSE|SSEP|SSUT|SSUX|SSU|SSUP|SSYT|SSYX|SSY|SSYP|SSYRX|SSYR|ZHAT|ZHAX|ZHA|ZHAP|ZHUOX
    ZHUO|ZHUOP|ZHOT|ZHOX|ZHO|ZHOP|ZHET|ZHEX|ZHE|ZHEP|ZHUT|ZHUX|ZHU|ZHUP|ZHURX|ZHUR|ZHYT|ZHYX|ZHY
    ZHYP|ZHYRX|ZHYR|CHAT|CHAX|CHA|CHAP|CHUOT|CHUOX|CHUO|CHUOP|CHOT|CHOX|CHO|CHOP|CHET|CHEX|CHE|CHEP
    CHUX|CHU|CHUP|CHURX|CHUR|CHYT|CHYX|CHY|CHYP|CHYRX|CHYR|RRAX|RRA|RRUOX|RRUO|RROT|RROX|RRO|RROP
    RRET|RREX|RRE|RREP|RRUT|RRUX|RRU|RRUP|RRURX|RRUR|RRYT|RRYX|RRY|RRYP|RRYRX|RRYR|NRAT|NRAX|NRA
    NRAP|NROX|NRO|NROP|NRET|NREX|NRE|NREP|NRUT|NRUX|NRU|NRUP|NRURX|NRUR|NRYT|NRYX|NRY|NRYP|NRYRX
    NRYR|SHAT|SHAX|SHA|SHAP|SHUOX|SHUO|SHUOP|SHOT|SHOX|SHO|SHOP|SHET|SHEX|SHE|SHEP|SHUT|SHUX|SHU
    SHUP|SHURX|SHUR|SHYT|SHYX|SHY|SHYP|SHYRX|SHYR|RAT|RAX|RA|RAP|RUOX|RUO|RUOP|ROT|ROX|RO|ROP|REX|RE
    REP|RUT|RUX|RU|RUP|RURX|RUR|RYT|RYX|RY|RYP|RYRX|RYR|JIT|JIX|JI|JIP|JIET|JIEX|JIE|JIEP|JUOT|JUOX
    JUO|JUOP|JOT|JOX|JO|JOP|JUT|JUX|JU|JUP|JURX|JUR|JYT|JYX|JY|JYP|JYRX|JYR|QIT|QIX|QI|QIP|QIET|QIEX
    QIE|QIEP|QUOT|QUOX|QUO|QUOP|QOT|QOX|QO|QOP|QUT|QUX|QU|QUP|QURX|QUR|QYT|QYX|QY|QYP|QYRX|QYR|JJIT
    JJIX|JJI|JJIP|JJIET|JJIEX|JJIE|JJIEP|JJUOX|JJUO|JJUOP|JJOT|JJOX|JJO|JJOP|JJUT|JJUX|JJU|JJUP
    JJURX|JJUR|JJYT|JJYX|JJY|JJYP|NJIT|NJIX|NJI|NJIP|NJIET|NJIEX|NJIE|NJIEP|NJUOX|NJUO|NJOT|NJOX|NJO
    NJOP|NJUX|NJU|NJUP|NJURX|NJUR|NJYT|NJYX|NJY|NJYP|NJYRX|NJYR|NYIT|NYIX|NYI|NYIP|NYIET|NYIEX|NYIE
    NYIEP|NYUOX|NYUO|NYUOP|NYOT|NYOX|NYO|NYOP|NYUT|NYUX|NYU|NYUP|XIT|XIX|XI|XIP|XIET|XIEX|XIE|XIEP
    XUOX|XUO|XOT|XOX|XO|XOP|XYT|XYX|XY|XYP|XYRX|XYR|YIT|YIX|YI|YIP|YIET|YIEX|YIE|YIEP|YUOT|YUOX|YUO
    YUOP|YOT|YOX|YO|YOP|YUT|YUX|YU|YUP|YURX|YUR|YYT|YYX|YY|YYP|YYRX|YYR"),
  (0xa490, "YI RADICAL ", "QOT|LI|KIT|NYIP|CYP|SSI|GGOP|GEP|MI|HXIT|LYR|BBUT|MOP|YO|PUT|HXUO|TAT|GA
    ZUP|CYT|DDUR|BUR|GGUO|NYOP|TU|OP|JJUT|ZOT|PYT|HMO|YIT|VUR|SHY|VEP|ZA|JO|NZUP|JJY|GOT|JJIE|WO|DU
    SHUR|LIE|CY|CUOP|CIP|HXOP|SHAT|ZUR|SHOP|CHE|ZZIET|NBIE|KE"),
  (0xa4d0, "LISU LETTER ", "BA|PA|PHA|DA|TA|THA|GA|KA|KHA|JA|CA|CHA|DZA|TSA|TSHA|MA|NA|LA|SA|ZHA|ZA
    NGA|HA|XA|HHA|FA|WA|SHA|YA|GHA|A|AE|E|EU|I|O|U|UE|UH|OE|TONE MYA TI|aNA PO|aMYA CYA|bBO|bNA
    bJEU"),
  (0xa4fe, "LISU PUNCTUATION ", "COMMA|FULL STOP"),
  (0xa500, "VAI SYLLABLE ", "EE|EEN|HEE|WEE|WEEN|PEE|BHEE|BEE|MBEE|KPEE|MGBEE|GBEE|FEE|VEE|TEE|THEE
    DHEE|DHHEE|LEE|REE|DEE|NDEE|SEE|SHEE|ZEE|ZHEE|CEE|JEE|NJEE|YEE|KEE|NGGEE|GEE|MEE|NEE|NYEE|I|IN
    HI|HIN|WI|WIN|PI|BHI|BI|MBI|KPI|MGBI|GBI|FI|VI|TI|THI|DHI|DHHI|LI|RI|DI|NDI|SI|SHI|ZI|ZHI|CI|JI
    NJI|YI|KI|NGGI|GI|MI|NI|NYI|A|AN|NGAN|HA|HAN|WA|WAN|PA|BHA|BA|MBA|KPA|KPAN|MGBA|GBA|FA|VA|TA|THA
    DHA|DHHA|LA|RA|DA|NDA|SA|SHA|ZA|ZHA|CA|JA|NJA|YA|KA|KAN|NGGA|GA|MA|NA|NYA|OO|OON|HOO|WOO|WOON
    POO|BHOO|BOO|MBOO|KPOO|MGBOO|GBOO|FOO|VOO|TOO|THOO|DHOO|DHHOO|LOO|ROO|DOO|NDOO|SOO|SHOO|ZOO|ZHOO
    COO|JOO|NJOO|YOO|KOO|NGGOO|GOO|MOO|NOO|NYOO|U|UN|HU|HUN|WU|WUN|PU|BHU|BU|MBU|KPU|MGBU|GBU|FU|VU
    TU|THU|DHU|DHHU|LU|RU|DU|NDU|SU|SHU|ZU|ZHU|CU|JU|NJU|YU|KU|NGGU|GU|MU|NU|NYU|O|ON|NGON|HO|HON|WO
    WON|PO|BHO|BO|MBO|KPO|MGBO|GBO|GBON|FO|VO|TO|THO|DHO|DHHO|LO|RO|DO|NDO|SO|SHO|ZO|ZHO|CO|JO|NJO
    YO|KO|NGGO|GO|MO|NO|NYO|E|EN|NGEN|HE|HEN|WE|WEN|PE|BHE|BE|MBE|KPE|KPEN|MGBE|GBE|GBEN|FE|VE|TE
    THE|DHE|DHHE|LE|RE|DE|NDE|SE|SHE|ZE|ZHE|CE|JE|NJE|YE|KE|NGGE|NGGEN|GE|GEN|ME|NE|NYE|NG
    LENGTHENER"),
  (0xa60d, "VAI ", "COMMA|FULL STOP|QUESTIONu|SYLLABLE NDOLE FA|bKA|bSOO"),
  (0xa613, "VAI SYMBOL ", "FEENG|KEENG|TING|NII|BANG|FAA|TAA|DANG|DOONG|KUNG|TONG|DO-O|JONG"),
  (0xa620, "VAI DIGIT ", "ZERO|x|y|p|FOUR|FIVE|SIX|SEVEN|EIGHT|NINE"),
  (0xa62a, "VAI SYLLABLE NDOLE ", "MA|DO"),
  (0xa640, "CYRILLIC ", "feZEMLYA|gb|feDZELO|gb|feREVERSED DZE|gc|feIOTA|gb|feDJERV|gb
    feMONOGRAPH UK|gc|feBROAD OMEGA|gc|feNEUTRAL YER|gc|feYERUhBACK YER|ged|feIOTIFIED YAT|gc
    feREVERSED YU|gc|feIOTIFIED A|gc|feCLOSED LITTLE YUS|gd|feBLENDED YUS|gc
    feIOTIFIED CLOSED LITTLE YUS|ged|feYN|gb|feREVERSED TSE|gc|feSOFT DE|gc|fbEL|gc|fbEM|gc
    feMONOCULAR O|gc|feBINOCULARa|gc|felMONOCULAR O|gd|eMULTIOCULAR O"),
  (0xa66f, "COMBINING CYRILLIC ", "VZMET|TEN MILLIONSi|HUNDREDb|THOUSANDb"),
  (0xa673, "", "SLAVONIC ASTERISK"),
  (0xa674, "COMBINING CYRILLIC LETTER ", "UKRAINIAN IE|I|YI|U|HARDi|YERU|SOFTi|OMEGA"),
  (0xa67c, "COMBINING CYRILLIC ", "KAVYKA|PAYEROK"),
  (0xa67e, "CYRILLIC ", "KAVYKA|PAYEROK|feDWE|gb|feDZWE|gb|feZHWE|gb|feCCHE|gb|feDZZE|gb
    feTEhMIDDLE HOOK|ged|feTWE|gb|feTSWE|gb|feTSSE|gb|feTCHE|gb|feHWE|gb|feSHWE|gb|felO|gc
    feCROSSEDa|gc"),
  (0xa69c, "MODIFIER LETTER CYRILLIC ", "HARDi|SOFTi"),
  (0xa69e, "COMBINING CYRILLIC LETTER ", "EF|IOTIFIED E"),
  (0xa6a0, "BAMUM LETTER ", "A|KA|U|KU|EE|REE|TAE|O|NYI|I|LA|PA|RII|RIEE|LEEEE|MEEEE|TAA|NDAA|NJAEM
    M|SUU|MU|SHII|SI|SHEUX|SEUX|KYEE|KET|NUAE|NU|NJUAE|YOQ|SHU|YUQ|YA|NSHA|KEUX|PEUX|NJEE|NTEE|PUE
    WUE|PEE|FEE|RU|LU|MI|NI|REUX|RAE|KEN|NGKWAEN|NGGA|NGA|SHO|PUAE|FU|FOM|WA|NA|LI|PI|LOQ|KO|MBEN
    REN|MEN|MA|TI|KI|MO|MBAA|TET|KPA|TEN|NTUU|SAMBA|FAAMAE|KOVUU|KOGHOM"),
  (0xa6f0, "BAMUM ", "COMBININGuKOQNDON|bTUKWENTIS|NJAEMLI|FULL STOP|COLON|COMMA|SEMICOLON
    QUESTIONu"),
  (0xa700, "MODIFIER LETTER CHINESE TONE ", "YIN PING|YANGa|YIN SHANG|YANGa|YIN QU|YANGa|YIN RU
    YANGa"),
  (0xa708, "MODIFIER LETTER ", "EXTRA-HIGH DOTTED TONE BAR|HIGHc|MIDc|LOWc|EXTRA-LOWc
    EXTRA-HIGHaLEFT-STEM TONE BAR|HIGHd|MIDd|LOWd|EXTRA-LOWd|EXTRA-HIGH LEFT-STEM TONE BAR|HIGHc
    MIDc|LOWc|EXTRA-LOWc|DOTvBAR|aSLASH|aHORIZONTAL BAR|LOWERjCORNER ANGLE|RAISED UPo|aDOWNo
    aEXCLAMATIONu|aINVERTED EXCLAMATIONu|LOWc|STRESS AND HIGH TONE|bLOWa"),
  (0xa722, "LATIN ", "feEGYPTOLOGICAL ALEF|gc|fbAIN|gc|feHENG|gb|feTZ|gb|feTRESILLO|gb|feCUATRILLO
    gb|fbhCOMMA|gd|egfF|cS|feAA|gb|feAO|gb|feAU|gb|feAV|gb|fbhHORIZONTAL BAR|ged|feAY|gb
    feREVERSED ChDOT|ged|feKhSTROKE|gd|fcDIAGONAL STROKE|ged|fcSTROKE AND DIAGONAL STROKE|gcd
    feBROKEN L|gc|feLhHIGH STROKE|ged|feOhLONGaOVERLAY|gbd|fcLOOP|gd|feOO|gb
    fePhSTROKE THROUGH DESCENDER|gbd|fcFLOURISH|gd|fcSQUIRREL TAIL|ged|feQhSTROKE THROUGH DESCENDER
    gbd|fcDIAGONAL STROKE|ged|feR ROTUNDA|gc|feRUMa|gc|feVhDIAGONAL STROKE|ged|feVY|gb
    feVISIGOTHIC Z|gc|feTHORNhSTROKE|gd|fdTHROUGH DESCENDER|gbd|feVEND|gb|feET|gb|feIS|gb|feCON
    gb"),
  (0xa770, "", "MODIFIEReUS"),
  (0xa771, "LATIN SMALL LETTER ", "DUM|LUM|MUM|NUM|RUM"),
  (0xa776, "LATIN ", "egfRUM|geTUM|bUM|feINSULAR D|gc|fbF|gc|fbG|bTURNED INSULAR G|gd|fbL|gc
    feINSULAR R|gc|fbS|gc|fbT|gc"),
  (0xa788, "MODIFIER LETTER ", "LOW CIRCUMFLEX ACCENT|COLON|SHORT EQUALSi"),
  (0xa78b, "LATIN ", "feSALTILLO|gb|feTURNED H|geLhRETROFLEX HOOK AND BELT|eSINOLOGICAL DOT
    feNhDESCENDER|gd|feChBAR|gd|dPALATAL HOOK|bHc|feBhFLOURISH|gd|feFhSTROKE|gd|feVOLAPUK AE|gc|fbOE
    gc|fbUE|gc|feGhOBLIQUE STROKE|ged|feKc|ged|feNc|ged|feRc|ged|feSc|ged|feHhHOOK|bREVERSED OPEN E
    bSCRIPT G|bLhBELT|bgfI|egfQ|feTURNED K|cT|bJhCROSSED-TAIL|bCHI|bBETA|gb|feOMEGA|gb|feUhSTROKE|gd
    feGLOTTAL A|gc|fbI|gc|fbU|gc|feOLD POLISH O|gd|feANGLICANA W|gc|feChPALATAL HOOK|bShHOOK
    bZhPALATAL HOOK|bDhSHORT STROKE OVERLAY|gbd|feSd|gbd||||||feCLOSED INSULAR G|gd||blTHORN||cWYNN
    feMIDDLE SCOTS S|gd|feSIGMOID S|gc"),
  (0xa7f2, "MODIFIER LETTER CAPITAL ", "C|F|Q"),
  (0xa7f5, "", "LATINfeREVERSED HALF H|agd|aEPIGRAPHICeSIDEWAYS I|MODIFIERefHhSTROKE|bgLIGATURE OE
    LATINbfTURNED M"),
  (0xa7fb, "LATIN EPIGRAPHIC LETTER ", "REVERSED F|aP|INVERTED M|I LONGA|ARCHAIC M"),
  (0xa800, "SYLOTI NAGRI ", "eA|eI|iDVISVARA|eU|eE|eO|iHASANTA|eKO|eKHO|eGO|eGHO|iANUSVARA"),
  (0xa80c, "SYLOTI NAGRI LETTER ", "CO|CHO|JO|JHO|TTO|TTHO|DDO|DDHO|TO|THO|DO|DHO|NO|PO|PHO|BO|BHO
    MO|RO|LO|RRO|SO|HO"),
  (0xa823, "SYLOTI NAGRI VOWEL SIGN ", "A|I|U|E|OO"),
  (0xa828, "SYLOTI NAGRI ", "POETRY MARK-1..4|iALTERNATE HASANTA"),
  (0xa830, "NORTH INDIC FRACTION ", "xQUARTER|xHALF|pQUARTERS|xSIXTEENTH|xEIGHTH|pSIXTEENTHS"),
  (0xa836, "NORTH INDIC ", "QUARTERu|PLACEHOLDERu|RUPEEu|QUANTITYu"),
  (0xa840, "PHAGS-PA LETTER ", "KA|KHA|GA|NGA|CA|CHA|JA|NYA|TA|THA|DA|NA|PA|PHA|BA|MA|TSA|TSHA|DZA
    WA|ZHA|ZA|gA|YA|RA|LA|SHA|SA|HA|A|I|U|E|O|QA|XA|FA|GGA|EE"),
  (0xa867, "PHAGS-PA ", "SUBJOINEDeWA|bYA|eTTA|eTTHA|eDDA|eNNA|eALTERNATE YA|eVOICELESS SHA
    eVOICED HA|eASPIRATED FA|SUBJOINEDeRA|SUPERFIXEDb|eCANDRABINDU|SINGLE HEADu|lb|uSHAD|ulSHAD"),
  (0xa880, "SAURASHTRA SIGN ", "ANUSVARA|VISARGA"),
  (0xa882, "SAURASHTRA LETTER ", "A|AA|I|II|U|UU|VOCALIC R|aRR|aL|aLL|E|EE|AI|O|OO|AU|KA|KHA|GA|GHA
    NGA|CA|CHA|JA|JHA|NYA|TTA|TTHA|DDA|DDHA|NNA|TA|THA|DA|DHA|NA|PA|PHA|BA|BHA|MA|YA|RA|LA|VA|SHA
    SSA|SA|HA|LLA"),
  (0xa8b4, "", "SAURASHTRA CONSONANTiHAARU"),
  (0xa8b5, "SAURASHTRA VOWEL SIGN ", "AA|I|II|U|UU|VOCALIC R|aRR|aL|aLL|E|EE|AI|O|OO|AU"),
  (0xa8c4, "SAURASHTRA ", "iVIRAMA|iCANDRABINDU|||||||||DANDA|lDANDA"),
  (0xa8d0, "SAURASHTRA DIGIT ", "ZERO|x|y|p|FOUR|FIVE|SIX|SEVEN|EIGHT|NINE"),
  (0xa8e0, "COMBINING DEVANAGARI DIGIT ", "ZERO|x|y|p|FOUR|FIVE|SIX|SEVEN|EIGHT|NINE"),
  (0xa8ea, "COMBINING DEVANAGARI ", "eA|eU|eKA|eNA|ePA|eRA|eVI|iAVAGRAHA"),
  (0xa8f2, "DEVANAGARI ", "iSPACING CANDRABINDU|iCANDRABINDU VIRAMA|ilCANDRABINDU VIRAMA
    iCANDRABINDUy|bp|bAVAGRAHA|iPUSHPIKA|GAP FILLER|CARET|HEADSTROKE|iSIDDHAM|JAIN OM|eAY
    VOWELiAY"),
  (0xa900, "KAYAH LI DIGIT ", "ZERO|x|y|p|FOUR|FIVE|SIX|SEVEN|EIGHT|NINE"),
  (0xa90a, "KAYAH LI LETTER ", "KA|KHA|GA|NGA|SA|SHA|ZA|NYA|TA|HTA|NA|PA|PHA|MA|DA|BA|RA|YA|LA|WA
    THA|HA|VA|CA|A|OE|I|OO"),
  (0xa926, "KAYAH LI ", "VOWEL UE|aE|aU|aEE|aO|TONE PLOPHU|aCALYA|bPLOPHU|iCWI|iSHYA"),
  (0xa930, "REJANG LETTER ", "KA|GA|NGA|TA|DA|NA|PA|BA|MA|CA|JA|NYA|SA|RA|LA|YA|WA|HA|MBA|NGGA|NDA
    NYJA|A"),
  (0xa947, "REJANG VOWEL SIGN ", "I|U|E|AI|O|AU|EU|EA"),
  (0xa94f, "REJANG CONSONANT SIGN ", "NG|N|R|H"),
  (0xa953, "REJANG ", "VIRAMA||||||||||||SECTIONu"),
  (0xa960, "HANGUL CHOSEONG ", "TIKEUT-MIEUM|TIKEUT-PIEUP|TIKEUT-SIOS|TIKEUT-CIEUC|RIEUL-KIYEOK
    RIEUL-SSANGKIYEOK|RIEUL-TIKEUT|RIEUL-SSANGTIKEUT|RIEUL-MIEUM|RIEUL-PIEUP|RIEUL-SSANGPIEUP
    RIEUL-KAPYEOUNPIEUP|RIEUL-SIOS|RIEUL-CIEUC|RIEUL-KHIEUKH|MIEUM-KIYEOK|MIEUM-TIKEUT|MIEUM-SIOS
    PIEUP-SIOS-THIEUTH|PIEUP-KHIEUKH|PIEUP-HIEUH|SSANGSIOS-PIEUP|IEUNG-RIEUL|IEUNG-HIEUH
    SSANGCIEUC-HIEUH|SSANGTHIEUTH|PHIEUPH-HIEUH|HIEUH-SIOS|SSANGYEORINHIEUH"),
  (0xa980, "JAVANESE SIGN ", "PANYANGGA|CECAK|LAYAR|WIGNYAN"),
  (0xa984, "JAVANESE LETTER ", "A|I KAWI|I|II|U|PA CEREK|NGA LELET|bRASWADI|E|AI|O|KA|aSASAK|aMURDA
    GA|aMURDA|NGA|CA|aMURDA|JA|NYA MURDA|JA MAHAPRANA|NYA|TTA|aMAHAPRANA|DDA|aMAHAPRANA|NA MURDA|TA
    aMURDA|DA|aMAHAPRANA|NA|PA|aMURDA|BA|aMURDA|MA|YA|RA|aAGUNG|LA|WA|SA MURDA|aMAHAPRANA|a|HA"),
  (0xa9b3, "", "JAVANESEiCECAK TELU"),
  (0xa9b4, "JAVANESE VOWEL SIGN ", "TARUNG|TOLONG|WULU|aMELIK|SUKU|aMENDUT|TALING|DIRGA MURE
    PEPET"),
  (0xa9bd, "JAVANESE ", "CONSONANTiKERET|bPENGKAL|bCAKRA|PANGKON|nRERENGGAN|ja|PADA ANDAP|aMADYA
    aLUHUR|aWINDU|aPANGKAT|aLINGSA|aLUNGSI|aADEG|bADEG|aPISELEH|TURNED PADA PISELEH||PANGRANGKEP
    DIGIT ZERO|ax|ay|ap|aFOUR|aFIVE|aSIX|aSEVEN|aEIGHT|aNINE|||||PADA TIRTA TUMETES|aISEN-ISEN"),
  (0xa9e0, "MYANMAR LETTER SHAN ", "GHA|CHA|JHA|NNA|BHA"),
  (0xa9e5, "MYANMAR ", "iSHAN SAW|MODIFIEReSHAN REDUPLICATION"),
  (0xa9e7, "MYANMAR LETTER TAI LAING ", "NYA|FA|GA|GHA|JA|JHA|DDA|DDHA|NNA"),
  (0xa9f0, "MYANMAR TAI LAING DIGIT ", "ZERO|x|y|p|FOUR|FIVE|SIX|SEVEN|EIGHT|NINE"),
  (0xa9fa, "MYANMAR LETTER TAI LAING ", "LLA|DA|DHA|BA|BHA"),
  (0xaa00, "CHAM LETTER ", "A|I|U|E|AI|O|KA|KHA|GA|GHA|NGUE|NGA|CHA|CHHA|JA|JHA|NHUE|NHA|NHJA|TA|THA
    DA|DHA|NUE|NA|DDA|PA|PPA|PHA|BA|BHA|MUE|MA|BBA|YA|RA|LA|VA|SSA|SA|HA"),
  (0xaa29, "CHAM VOWEL SIGN ", "AA|I|II|EI|U|OE|O|AI|AU|UE"),
  (0xaa33, "CHAM CONSONANT SIGN ", "YA|RA|LA|WA"),
  (0xaa40, "CHAM ", "esK|bG|bNG|CONSONANTisNG"),
  (0xaa44, "CHAM LETTER FINAL ", "CH|T|N|P|Y|R|L|SS"),
  (0xaa4c, "CHAM CONSONANT SIGN FINAL ", "M|H"),
  (0xaa50, "CHAM DIGIT ", "ZERO|x|y|p|FOUR|FIVE|SIX|SEVEN|EIGHT|NINE"),
  (0xaa5c, "CHAM PUNCTUATION ", "SPIRAL|DANDA|lDANDA|TRIPLEa"),
  (0xaa60, "MYANMAR LETTER KHAMTI ", "GA|CA|CHA|JA|JHA|NYA|TTA|TTHA|DDA|DDHA|DHA|NA|SA|HA|HHA|FA"),
  (0xaa70, "MYANMAR ", "MODIFIEReKHAMTI REDUPLICATION|eKHAMTI XA|bZA|bRA|LOGOGRAMaOAY|bQN|bHM
    SYMBOL AITON EXCLAMATION|bx|by|eaRA|iPAO KAREN TONE|iTAI LAING TONE-2|cTONE-5|eSHWE PALAUNG CHA
    cSHA"),
  (0xaa80, "TAI VIET LETTER ", "LOW KO|HIGHa|LOW KHO|HIGHa|LOW KHHO|HIGHa|LOW GO|HIGHa|LOW NGO|HIGHa
    LOW CO|HIGHa|LOW CHO|HIGHa|LOW SO|HIGHa|LOW NYO|HIGHa|LOW DO|HIGHa|LOW TO|HIGHa|LOW THO|HIGHa
    LOW NO|HIGHa|LOW BO|HIGHa|LOW PO|HIGHa|LOW PHO|HIGHa|LOW FO|HIGHa|LOW MO|HIGHa|LOW YO|HIGHa
    LOW RO|HIGHa|LOW LO|HIGHa|LOW VO|HIGHa|LOW HO|HIGHa|LOW O|HIGHa"),
  (0xaab0, "TAI VIET ", "MAI KANG|VOWEL AA|aI|aUE|aU|aE|aO|MAI KHIT|VOWEL IA|aUEA|aUA|aAUE|aAY|aAN
    aAM|TONE MAI EK|bNUENG|bTHO|bSONG"),
  (0xaadb, "TAI VIET SYMBOL ", "KON|NUENG|SAM|HO HOI|KOI KOI"),
  (0xaae0, "MEETEI MAYEK LETTER ", "E|O|CHA|NYA|TTA|TTHA|DDA|DDHA|NNA|SHA|SSA"),
  (0xaaeb, "MEETEI MAYEK VOWEL SIGN ", "II|UU|AAI|AU|AAU"),
  (0xaaf0, "MEETEI MAYEK ", "CHEIKHAN|AHANG KHUDAM|ANJI|SYLLABLE REPETITIONu|WORDb|VOWELiVISARGA
    VIRAMA"),
  (0xab01, "ETHIOPIC SYLLABLE ", "TTHU|TTHI|TTHAA|TTHEE|TTHE|TTHO|||DDHU|DDHI|DDHAA|DDHEE|DDHE
    DDHO|||DZU|DZI|DZAA|DZEE|DZE|DZO||||||||||CCHHA|CCHHU|CCHHI|CCHHAA|CCHHEE|CCHHE|CCHHO||BBA|BBU
    BBI|BBAA|BBEE|BBE|BBO"),
  (0xab30, "LATIN SMALL LETTER ", "BARRED ALPHA|A REVERSED-SCHWA|BLACKLETTER E|BARREDa|EhFLOURISH
    LENIS F|SCRIPT GhCROSSED-TAIL|LhINVERTED LAZY S|blMIDDLE TILDE|bMIDDLE RING|MhCROSSED-TAIL|Nb
    ENGb|BLACKLETTER O|bhSTROKE|OPENc|INVERTED OE|TURNEDahSTROKE|cHORIZONTAL STROKE|aO OPEN-O
    chSTROKE|STIRRUP R"),
  (0xab46, "", "LATINegfRhjLEG"),
  (0xab47, "LATIN SMALL LETTER ", "R WITHOUT HANDLE|lR|RhCROSSED-TAIL|lRhCROSSED-TAIL|SCRIPTa|bhRING
    BASELINE ESH|UhSHORTjLEG|aBARhSHORTjLEG|UI|TURNED UI|UhnHOOK|CHI|ahLOWjRING|cnSERIF|XbjRING
    bLONGnLEG|XdAND LOWjRING|XdhSERIF|YhSHORTja"),
  (0xab5b, "", "MODIFIER BREVEhINVERTED BREVE"),
  (0xab5c, "MODIFIER LETTER SMALL ", "HENG|LhINVERTED LAZY S|bMIDDLE TILDE|UhnHOOK"),
  (0xab60, "LATIN SMALL LETTER ", "SAKHA YAT|IOTIFIED E|OPEN OE|UO|INVERTED ALPHA"),
  (0xab65, "", "GREEKegfOMEGA"),
  (0xab66, "LATIN SMALL LETTER ", "DZ DIGRAPHhRETROFLEX HOOK|TSd|TURNED RhMIDDLE TILDE"),
  (0xab69, "MODIFIER LETTER ", "gTURNED W|nTACK|ja"),
  (0xab70, "CHEROKEE SMALL LETTER ", "A|E|I|O|U|V|GA|KA|GE|GI|GO|GU|GV|HA|HE|HI|HO|HU|HV|LA|LE|LI|LO
    LU|LV|MA|ME|MI|MO|MU|NA|HNA|NAH|NE|NI|NO|NU|NV|QUA|QUE|QUI|QUO|QUU|QUV|SA|S|SE|SI|SO|SU|SV|DA|TA
    DE|TE|DI|TI|DO|DU|DV|DLA|TLA|TLE|TLI|TLO|TLU|TLV|TSA|TSE|TSI|TSO|TSU|TSV|WA|WE|WI|WO|WU|WV|YA"),
  (0xabc0, "MEETEI MAYEK LETTER ", "KOK|SAM|LAI|MIT|PA|NA|CHIL|TIL|KHOU|NGOU|THOU|WAI|YANG|HUK|UN|I
    PHAM|ATIYA|GOK|JHAM|RAI|BA|JIL|DIL|GHOU|DHOU|BHAM|KOK LONSUM|LAIa|MITa|PAa|NAa|TILa|NGOUa|Ia"),
  (0xabe3, "MEETEI MAYEK VOWEL SIGN ", "ONAP|INAP|ANAP|YENAP|SOUNAP|UNAP|CHEINAP|NUNG"),
  (0xabeb, "MEETEI MAYEK ", "CHEIKHEI|LUM IYEK|APUNa"),
  (0xabf0, "MEETEI MAYEK DIGIT ", "ZERO|x|y|p|FOUR|FIVE|SIX|SEVEN|EIGHT|NINE")]

end FragmentWeaver.Text
