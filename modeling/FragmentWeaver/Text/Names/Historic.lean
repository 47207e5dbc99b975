/-!
# Names of characters: forms and historic scripts

The names of the presentation forms, the oldest alphabets, the scripts of history, the wedges and
the hieroglyphs.
-/

namespace FragmentWeaver.Text

/-- Rows of forms and old alphabets. -/
def formNames : List (Nat × String × String) := [
  (0xd7b0, "HANGUL JUNGSEONG ", "O-YEO|O-O-I|YO-A|YO-AE|YO-EO|U-YEO|U-I-I|YU-AE|YU-O|EU-A|EU-EO|EU-E
    EU-O|I-YA-O|I-YAE|I-YEO|I-YE|I-O-I|I-YO|I-YU|I-I|ARAEA-A|ARAEA-E"),
  (0xd7cb, "HANGUL JONGSEONG ", "NIEUN-RIEUL|NIEUN-CHIEUCH|SSANGTIKEUT|SSANGTIKEUT-PIEUP
    TIKEUT-PIEUP|TIKEUT-SIOS|TIKEUT-SIOS-KIYEOK|TIKEUT-CIEUC|TIKEUT-CHIEUCH|TIKEUT-THIEUTH
    RIEUL-SSANGKIYEOK|RIEUL-KIYEOK-HIEUH|SSANGRIEUL-KHIEUKH|RIEUL-MIEUM-HIEUH|RIEUL-PIEUP-TIKEUT
    RIEUL-PIEUP-PHIEUPH|RIEUL-YESIEUNG|RIEUL-YEORINHIEUH-HIEUH|KAPYEOUNRIEUL|MIEUM-NIEUN
    MIEUM-SSANGNIEUN|SSANGMIEUM|MIEUM-PIEUP-SIOS|MIEUM-CIEUC|PIEUP-TIKEUT|PIEUP-RIEUL-PHIEUPH
    PIEUP-MIEUM|SSANGPIEUP|PIEUP-SIOS-TIKEUT|PIEUP-CIEUC|PIEUP-CHIEUCH|SIOS-MIEUM|SIOS-KAPYEOUNPIEUP
    SSANGSIOS-KIYEOK|SSANGSIOS-TIKEUT|SIOS-PANSIOS|SIOS-CIEUC|SIOS-CHIEUCH|SIOS-THIEUTH|SIOS-HIEUH
    PANSIOS-PIEUP|PANSIOS-KAPYEOUNPIEUP|YESIEUNG-MIEUM|YESIEUNG-HIEUH|CIEUC-PIEUP|CIEUC-SSANGPIEUP
    SSANGCIEUC|PHIEUPH-SIOS|PHIEUPH-THIEUTH"),
  (0xfb00, "LATIN SMALL LIGATURE ", "FF|FI|FL|FFI|FFL|LONG S T|ST"),
  (0xfb13, "ARMENIAN SMALL LIGATURE ", "MEN NOW|aECH|aINI|VEW NOW|MEN XEH"),
  (0xfb1d, "HEBREW ", "eYODhHIRIQ|POINT JUDEO-SPANISH VARIKA|LIGATURE YIDDISH YOD YOD PATAH"),
  (0xfb20, "HEBREW LETTER ", "ALTERNATIVE AYIN|WIDE ALEF|aDALET|aHE|aKAF|aLAMED|asMEM|aRESH|aTAV
    ALTERNATIVE PLUSi|SHINhSHIN DOT|bSINa|bDAGESH AND SHIN DOT|dSINa|ALEFhPATAH|bQAMATS|bMAPIQ
    BEThDAGESH|GIMELb|DALETb|HEhMAPIQ|VAVhDAGESH|ZAYINb||TETb|YODb|sKAFhDAGESH|KAFhDAGESH
    LAMEDb||MEMb||NUNb|SAMEKHb||sPEhDAGESH|PEhDAGESH||TSADIb|QOFb|RESHb|SHINb|TAVb|VAVhHOLAM
    BEThRAFE|KAFb|PEb"),
  (0xfb4f, "", "HEBREW LIGATURE ALEF LAMED"),
  (0xfb50, "ARABIC LETTER ", "ALEF WASLArFORM|bsa|BEEHrFORM|asa|aINITIALa|aMEDIALa|PEHra|asa
    aINITIALa|aMEDIALa|BEHEHra|asa|aINITIALa|aMEDIALa|TTEHEHra|asa|aINITIALa|aMEDIALa|TEHEHra|asa
    aINITIALa|aMEDIALa|TTEHra|asa|aINITIALa|aMEDIALa|VEHra|asa|aINITIALa|aMEDIALa|PEHEHra|asa
    aINITIALa|aMEDIALa|DYEHra|asa|aINITIALa|aMEDIALa|NYEHra|asa|aINITIALa|aMEDIALa|TCHEHra|asa
    aINITIALa|aMEDIALa|TCHEHEHra|asa|aINITIALa|aMEDIALa|DDAHALra|asa|DAHALra|asa|DULra|asa|DDALra
    asa|JEHra|asa|RREHra|asa|KEHEHra|asa|aINITIALa|aMEDIALa|GAFra|asa|aINITIALa|aMEDIALa|GUEHra|asa
    aINITIALa|aMEDIALa|NGOEHra|asa|aINITIALa|aMEDIALa|NOON GHUNNArFORM|bsa|RNOONrFORM|asa|aINITIALa
    aMEDIALa|HEHhYEHmrFORM|dsa|aGOALrFORM|bsa|bINITIALa|bMEDIALa"),
  (0xfbaa, "ARABIC LETTER HEH DOACHASHMEE ", "rFORM|sa|INITIALa|MEDIALa"),
  (0xfbae, "ARABIC LETTER YEH BARREE ", "rFORM|sa|hHAMZAmrFORM|csa"),
  (0xfbb2, "ARABIC SYMBOL ", "DOTm|at|yDOTSm|bt|pam|bt|bPOINTINGzm|dt|FOURam|bt|lvBARt
    yDOTS VERTICALLYm|ct|RING|gTAHm|bt|WASLAm"),
  (0xfbd3, "ARABIC LETTER ", "NGrFORM|asa|aINITIALa|aMEDIALa|Ura|Usa|OEra|asa|YUra|asa|UhHAMZAmrFORM
    VErFORM|asa|KIRGHIZ OErFORM|bsa|aYUra|bsa|ErFORM|Esa|aINITIALa|aMEDIALa
    UIGHUR KAZAKH KIRGHIZ ALEF MAKSURA INITIAL FORM|adMEDIALa"),
  (0xfbea, "ARABIC LIGATURE YEH WITH HAMZA ABOVE WITH ", "ALEFrFORM|asa|AEra|asa|WAWra|asa|Ura|Usa
    OEra|asa|YUra|asa|Era|Esa|aINITIALa"),
  (0xfbf9, "ARABIC LIGATURE UIGHUR KIRGHIZ YEH WITH HAMZA ABOVE WITH ALEF MAKSURA ", "rFORM|sa
    INITIALa"),
  (0xfbfc, "ARABIC LETTER FARSI YEH ", "rFORM|sa|INITIALa|MEDIALa"),
  (0xfc00, "ARABIC LIGATURE YEH WITH HAMZA ABOVE WITH ", "JEEMrFORM|HAHb|MEEMb|ALEF MAKSURArFORM
    YEHrFORM"),
  (0xfc05, "ARABIC LIGATURE BEH WITH ", "JEEMrFORM|HAHb|KHAHb|MEEMb|ALEF MAKSURArFORM|YEHrFORM"),
  (0xfc0b, "ARABIC LIGATURE TEH WITH ", "JEEMrFORM|HAHb|KHAHb|MEEMb|ALEF MAKSURArFORM|YEHrFORM"),
  (0xfc11, "ARABIC LIGATURE ", "THEHhJEEMrFORM|bMEEMb|bALEF MAKSURArFORM|bYEHrFORM|JEEMhHAHb|bMEEMb
    HAHhJEEMb|bMEEMb|KHAHhJEEMb|bHAHb|bMEEMb|SEENhJEEMb|bHAHb|bKHAHb|bMEEMb|SADhHAHb|bMEEMb
    DADhJEEMb|bHAHb|bKHAHb|bMEEMb|TAHhHAHb|bMEEMb|ZAHd|AINhJEEMb|bMEEMb|GHAINhJEEMb|bMEEMb|FEHhJEEMb
    bHAHb|bKHAHb|bMEEMb|bALEF MAKSURArFORM|bYEHrFORM|QAFhHAHb|bMEEMb|bALEF MAKSURArFORM|bYEHrFORM
    KAFhALEFb|bJEEMb|bHAHb|bKHAHb|bLAMb|bMEEMb|bALEF MAKSURArFORM|bYEHrFORM|LAMhJEEMb|bHAHb|bKHAHb
    bMEEMb|bALEF MAKSURArFORM|bYEHrFORM|MEEMhJEEMb|bHAHb|bKHAHb|bMEEMb|bALEF MAKSURArFORM|bYEHrFORM
    NOONhJEEMb|bHAHb|bKHAHb|bMEEMb|bALEF MAKSURArFORM|bYEHrFORM|HEHhJEEMb|bMEEMb|bALEF MAKSURArFORM
    bYEHrFORM|YEHhJEEMb|bHAHb|bKHAHb|bMEEMb|bALEF MAKSURArFORM|bYEHrFORM|THALhSUPERSCRIPT ALEFrFORM
    REHhd|ALEF MAKSURAhSUPERSCRIPT ALEFrFORM"),
  (0xfc5e, "ARABIC LIGATURE SHADDA WITH ", "DAMMATANrFORM|KASRATANb|FATHAb|DAMMAb|KASRAb
    SUPERSCRIPT ALEFrFORM"),
  (0xfc64, "ARABIC LIGATURE YEH WITH HAMZA ABOVE WITH ", "REHsFORM|ZAINb|MEEMb|NOONb
    ALEF MAKSURAsFORM|YEHsFORM"),
  (0xfc6a, "ARABIC LIGATURE BEH WITH ", "REHsFORM|ZAINb|MEEMb|NOONb|ALEF MAKSURAsFORM|YEHsFORM"),
  (0xfc70, "ARABIC LIGATURE TEH WITH ", "REHsFORM|ZAINb|MEEMb|NOONb|ALEF MAKSURAsFORM|YEHsFORM"),
  (0xfc76, "ARABIC LIGATURE THEH WITH ", "REHsFORM|ZAINb|MEEMb|NOONb|ALEF MAKSURAsFORM|YEHsFORM"),
  (0xfc7c, "ARABIC LIGATURE ", "FEHhALEF MAKSURAsFORM|bYEHsFORM|QAFhALEF MAKSURAsFORM|bYEHsFORM
    KAFhALEFb|bLAMb|bMEEMb|bALEF MAKSURAsFORM|bYEHsFORM|LAMhMEEMb|bALEF MAKSURAsFORM|bYEHsFORM
    MEEMhALEFb|bMEEMb|NOONhREHb|bZAINb|bMEEMb|bNOONb|bALEF MAKSURAsFORM|bYEHsFORM
    ALEF MAKSURAhSUPERSCRIPT ALEFsFORM"),
  (0xfc91, "ARABIC LIGATURE YEH WITH ", "REHsFORM|ZAINb|MEEMb|NOONb|ALEF MAKSURAsFORM|YEHsFORM"),
  (0xfc97, "ARABIC LIGATURE YEH WITH HAMZA ABOVE WITH ", "JEEM INITIAL FORM|HAHb|KHAHb|MEEMb|HEHb"),
  (0xfc9c, "ARABIC LIGATURE ", "BEHhJEEM INITIAL FORM|bHAHb|bKHAHb|bMEEMb|bHEHb|TEHhJEEMb|bHAHb
    bKHAHb|bMEEMb|bHEHb|THEHhMEEMb|JEEMhHAHb|bMEEMb|HAHhJEEMb|bMEEMb|KHAHhJEEMb|bMEEMb|SEENhJEEMb
    bHAHb|bKHAHb|bMEEMb|SADhHAHb|bKHAHb|bMEEMb|DADhJEEMb|bHAHb|bKHAHb|bMEEMb|TAHhHAHb|ZAHhMEEMb
    AINhJEEMb|bMEEMb|GHAINhJEEMb|bMEEMb|FEHhJEEMb|bHAHb|bKHAHb|bMEEMb|QAFhHAHb|bMEEMb|KAFhJEEMb
    bHAHb|bKHAHb|bLAMb|bMEEMb|LAMhJEEMb|bHAHb|bKHAHb|bMEEMb|bHEHb|MEEMhJEEMb|bHAHb|bKHAHb|bMEEMb
    NOONhJEEMb|bHAHb|bKHAHb|bMEEMb|bHEHb|HEHhJEEMb|bMEEMb|bSUPERSCRIPT ALEF INITIAL FORM
    YEHhJEEM INITIAL FORM|bHAHb|bKHAHb|bMEEMb|bHEHb|bHAMZAmhMEEM MEDIAL FORM|adHEHb
    BEHhMEEM MEDIAL FORM|bHEHb|TEHhMEEMb|bHEHb|THEHhMEEMb|bHEHb|SEENhMEEMb|bHEHb|SHEENhMEEMb|bHEHb
    KAFhLAMb|bMEEMb|LAMd|NOONd|bHEHb|YEHhMEEMb|bHEHb|SHADDAhFATHAb|bDAMMAb|bKASRAb
    TAHhALEF MAKSURArFORM|bYEHrFORM|AINhALEF MAKSURArFORM|bYEHrFORM|GHAINhALEF MAKSURArFORM
    bYEHrFORM|SEENhALEF MAKSURArFORM|bYEHrFORM|SHEENhALEF MAKSURArFORM|bYEHrFORM
    HAHhALEF MAKSURArFORM|bYEHrFORM|JEEMhALEF MAKSURArFORM|bYEHrFORM|KHAHhALEF MAKSURArFORM
    bYEHrFORM|SADhALEF MAKSURArFORM|bYEHrFORM|DADhALEF MAKSURArFORM|bYEHrFORM|SHEENhJEEMb|bHAHb
    bKHAHb|bMEEMb|bREHb|SEENd|SADd|DADd|TAHhALEF MAKSURAsFORM|bYEHsFORM|AINhALEF MAKSURAsFORM
    bYEHsFORM|GHAINhALEF MAKSURAsFORM|bYEHsFORM|SEENhALEF MAKSURAsFORM|bYEHsFORM
    SHEENhALEF MAKSURAsFORM|bYEHsFORM|HAHhALEF MAKSURAsFORM|bYEHsFORM|JEEMhALEF MAKSURAsFORM
    bYEHsFORM|KHAHhALEF MAKSURAsFORM|bYEHsFORM|SADhALEF MAKSURAsFORM|bYEHsFORM|DADhALEF MAKSURAsFORM
    bYEHsFORM|SHEENhJEEMb|bHAHb|bKHAHb|bMEEMb|bREHb|SEENd|SADd|DADd|SHEENhJEEM INITIALa|bHAHb|bKHAHb
    bMEEMb|SEENhHEHb|SHEENd|TAHhMEEMb|SEENhJEEM MEDIALa|bHAHb|bKHAHb|SHEENhJEEMb|bHAHb|bKHAHb
    TAHhMEEMb|ZAHd|ALEFhFATHATANsa|cra"),
  (0xfd3e, "ORNATE ", "nPARENTHESIS|ja"),
  (0xfd40, "ARABIC LIGATURE ", "RAHIMAHU ALLAAH|RADI ALLAAHU ANH|bANHAA|bANHUM|bANHUMAA|bANHUNNA
    SALLALLAAHU ALAYHI WA-AALIH|ALAYHI AS-SALAAM|ALAYHIMa|ALAYHIMAAa|ALAYHI AS-SALAATU WAS-SALAAM
    QUDDISA SIRRAH|SALLALLAHU ALAYHI WAAALIHEE WA-SALLAM|ALAYHAA AS-SALAAM|TABAARAKA WA-TAAALAA
    RAHIMAHUM ALLAAH|TEHhJEEMhMEEM INITIAL FORM|bHAHhJEEMsa|adINITIALa|dMEEMb|bKHAHd|bMEEMhJEEMb
    dHAHb|dKHAHb|JEEMcHAHsa|adINITIALa|HAHcYEHsa|dALEF MAKSURAsFORM|SEENhHAHhJEEM INITIAL FORM
    bJEEMhHAHb|dALEF MAKSURAsFORM|bMEEMhHAHsFORM|adINITIALa|dJEEMb|dMEEMsa|adINITIALa|SADhHAHhHAHsa
    adINITIALa|bMEEMhMEEMsa|SHEENhHAHd|adINITIALa|bJEEMhYEHsa|bMEEMhKHAHb|adINITIALa|dMEEMsa
    adINITIALa|DADhHAHhALEF MAKSURAsFORM|bKHAHhMEEMsFORM|adINITIALa|TAHhMEEMhHAHsa|adINITIALa|dMEEMb
    dYEHsa|AINhJEEMhMEEMb|bMEEMd|adINITIALa|dALEF MAKSURAsFORM|GHAINcMEEMsFORM|dYEHb
    dALEF MAKSURAsFORM|FEHhKHAHhMEEMsFORM|adINITIALa|QAFhMEEMhHAHsa|dMEEMb"),
  (0xfd80, "ARABIC LIGATURE LAM WITH ", "HAHhMEEMsFORM|bYEHb|bALEF MAKSURAsFORM
    JEEMhJEEM INITIAL FORM|csa|KHAHhMEEMb|cINITIALa|MEEMhHAHsa|cINITIALa"),
  (0xfd89, "ARABIC LIGATURE MEEM WITH ", "HAHhJEEM INITIAL FORM|bMEEMb|bYEHsa|JEEMhHAH INITIALa
    bMEEMb|KHAHhJEEMb|bMEEMb|||JEEMhKHAHb"),
  (0xfd93, "ARABIC LIGATURE ", "HEHhMEEMhJEEM INITIAL FORM|dMEEMb|NOONhHAHd|dALEF MAKSURAsFORM
    bJEEMhMEEMsFORM|adINITIALa|dALEF MAKSURAsFORM|bMEEMhYEHsFORM|dALEF MAKSURAsFORM|YEHcMEEMsFORM
    adINITIALa|BEHhKHAHhYEHsa|TEHhJEEMd|dALEF MAKSURAsFORM|bKHAHhYEHsFORM|dALEF MAKSURAsFORM
    bMEEMhYEHsFORM|dALEF MAKSURAsFORM|JEEMcYEHsFORM|bHAHhALEF MAKSURAsFORM|bMEEMhd|SEENhKHAHhd
    SADhHAHhYEHsFORM|SHEENbd|DADbd|LAMhJEEMd|bMEEMd|YEHhHAHd|bJEEMd|bMEEMd|MEEMbd|QAFbd|NOONhHAHd
    QAFhMEEMhHAH INITIALa|LAMhHAHhMEEMb|AINhMEEMhYEHsa|KAFbd|NOONhJEEMhHAH INITIALa|MEEMhKHAHhYEHsa
    LAMhJEEMhMEEM INITIALa|KAFhMEEMbsa|LAMhJEEMd|NOONcHAHb|JEEMhHAHhYEHb|HAHhJEEMd|MEEMbd|FEHhMEEMd
    BEHhHAHd|KAFhMEEMhMEEM INITIALa|AINhJEEMd|SADhMEEMd|SEENhKHAHhYEHsa
    NOONhJEEMd||||||||SALAAMUHU ALAYNAA"),
  (0xfdf0, "ARABIC LIGATURE ", "SALLA USED AS KORANIC STOPirFORM|QALAcd|ALLAHrFORM|AKBARb|MOHAMMADb
    SALAMb|RASOULb|ALAYHEb|WASALLAMb|SALLAb|SALLALLAHOU ALAYHE WASALLAM|JALLAJALALOUHOU"),
  (0xfdfc, "", "RIALi"),
  (0xfdfd, "ARABIC LIGATURE ", "BISMILLAH AR-RAHMAN AR-RAHEEM|SUBHAANAHU WA TAAALAA|AZZAaJALL"),
  (0xfe00, "VARIATION SELECTOR-", "1..16"),
  (0xfe10, "PRESENTATION FORM FOR VERTICAL ", "COMMA|IDEOGRAPHIC COMMA|aFULL STOP|COLON|SEMICOLON
    EXCLAMATIONu|QUESTIONu|nWHITE LENTICULAR BRACKET|jbBRAKCET|HORIZONTAL ELLIPSIS"),
  (0xfe20, "COMBINING ", "LIGATUREnHALF|aja|lTILDEnHALF|bja|MACRONnHALF|aja|CONJOINING MACRON
    LIGATUREnHALFt|ajb|TILDEnb|ajb|MACRONnb|ajb|CONJOINING MACRONt|CYRILLIC TITLOnHALF|bja"),
  (0xfe30, "PRESENTATION FORM FOR VERTICAL ", "yDOT LEADER|EM DASH|ENa|LOW LINE|WAVY LOW LINE
    nPARENTHESIS|ja|nCURLY BRACKET|jb|nTORTOISE SHELL BRACKET|jc|nwLENTICULARa|jc|nlANGLEa|jc
    nANGLE BRACKET|jb|nCORNERa|jb|nWHITE CORNER BRACKET|jc"),
  (0xfe45, "", "SESAME DOT|WHITE SESAME DOT|PRESENTATION FORM FORvnSQUARE BRACKET|djb
    DASHED OVERLINE|CENTRELINEa|WAVYa|lWAVY OVERLINE|DASHED LOW LINE|CENTRELINEb|WAVYb"),
  (0xfe50, "SMALL ", "COMMA|IDEOGRAPHIC COMMA|FULL STOP||SEMICOLON|COLON|QUESTIONu|EXCLAMATIONu
    EM DASH|nPARENTHESIS|ja|nCURLY BRACKET|jb|nTORTOISE SHELL BRACKET|jc|NUMBERi|AMPERSAND|ASTERISK
    PLUSi|HYPHEN-MINUS|LESS-THANi|GREATER-THANi|EQUALSi||REVERSE SOLIDUS|DOLLARi|PERCENTi
    COMMERCIAL AT"),
  (0xfe70, "ARABIC ", "FATHATANrFORM|TATWEELhFATHATANm|DAMMATANrFORM|TAIL FRAGMENT
    KASRATANrFORM||FATHAb|aMEDIALa|DAMMAra|aMEDIALa|KASRAra|aMEDIALa|SHADDAra|aMEDIALa|SUKUNra
    aMEDIALa"),
  (0xfe80, "ARABIC LETTER ", "HAMZArFORM|ALEFhMADDAmrFORM|dsa|bHAMZAmra|dsa|WAWcra|dsa|ALEFbtra|dsa
    YEHbmra|dsa|dINITIALa|dMEDIALa|ALEFrFORM|asa|BEHra|asa|aINITIALa|aMEDIALa|TEH MARBUTArFORM|bsa
    arFORM|asa|aINITIALa|aMEDIALa|THEHra|asa|aINITIALa|aMEDIALa|JEEMra|asa|aINITIALa|aMEDIALa|HAHra
    asa|aINITIALa|aMEDIALa|KHAHra|asa|aINITIALa|aMEDIALa|DALra|asa|THALra|asa|REHra|asa|ZAINra|asa
    SEENra|asa|aINITIALa|aMEDIALa|SHEENra|asa|aINITIALa|aMEDIALa|SADra|asa|aINITIALa|aMEDIALa|DADra
    asa|aINITIALa|aMEDIALa|TAHra|asa|aINITIALa|aMEDIALa|ZAHra|asa|aINITIALa|aMEDIALa|AINra|asa
    aINITIALa|aMEDIALa|GHAINra|asa|aINITIALa|aMEDIALa|FEHra|asa|aINITIALa|aMEDIALa|QAFra|asa
    aINITIALa|aMEDIALa|KAFra|asa|aINITIALa|aMEDIALa|LAMra|asa|aINITIALa|aMEDIALa|MEEMra|asa
    aINITIALa|aMEDIALa|NOONra|asa|aINITIALa|aMEDIALa|HEHra|asa|aINITIALa|aMEDIALa|WAWra|asa
    ALEF MAKSURArFORM|bsa|YEHrFORM|asa|aINITIALa|aMEDIALa"),
  (0xfef5, "ARABIC LIGATURE LAM WITH ALEF ", "hMADDAmrFORM|csa|hHAMZAmra|csa|btra|csa|rFORM|sa"),
  (0xfeff, "", "ZERO WIDTH NO-BREAK SPACE"),
  (0xff01, "FULLWIDTH ", "EXCLAMATIONu|QUOTATIONu|NUMBERi|DOLLARi|PERCENTi|AMPERSAND|APOSTROPHE
    nPARENTHESIS|ja|ASTERISK|PLUSi|COMMA|HYPHEN-MINUS|FULL STOP|SOLIDUS|DIGIT ZERO|ax|ay|ap|aFOUR
    aFIVE|aSIX|aSEVEN|aEIGHT|aNINE|COLON|SEMICOLON|LESS-THANi|EQUALSi|GREATER-THANi|QUESTIONu
    COMMERCIAL AT"),
  (0xff21, "FULLWIDTH LATIN CAPITAL LETTER ", "A..Z"),
  (0xff3b, "FULLWIDTH ", "nSQUARE BRACKET|REVERSE SOLIDUS|jSQUARE BRACKET|CIRCUMFLEX ACCENT|LOW LINE
    GRAVE ACCENT"),
  (0xff41, "FULLWIDTH LATIN SMALL LETTER ", "A..Z"),
  (0xff5b, "FULLWIDTH ", "nCURLY BRACKET|vLINE|jCURLY BRACKET|TILDE|nWHITE PARENTHESIS|jb"),
  (0xff61, "HALFWIDTH ", "IDEOGRAPHIC FULL STOP|nCORNER BRACKET|jb|IDEOGRAPHIC COMMA
    KATAKANA MIDDLE DOT|aeWO"),
  (0xff67, "HALFWIDTH KATAKANA LETTER SMALL ", "A|I|U|E|O|YA|YU|YO|TU"),
  (0xff70, "", "HALFWIDTH KATAKANA-HIRAGANA PROLONGED SOUNDu"),
  (0xff71, "HALFWIDTH KATAKANA LETTER ", "A|I|U|E|O|KA|KI|KU|KE|KO|SA|SI|SU|SE|SO|TA|TI|TU|TE|TO|NA
    NI|NU|NE|NO|HA|HI|HU|HE|HO|MA|MI|MU|ME|MO|YA|YU|YO|RA|RI|RU|RE|RO|WA|N"),
  (0xff9e, "HALFWIDTH ", "KATAKANA VOICED SOUNDu|aSEMI-VOICEDb|HANGUL FILLER"),
  (0xffa1, "HALFWIDTH HANGUL LETTER ", "KIYEOK|SSANGKIYEOK|KIYEOK-SIOS|NIEUN|NIEUN-CIEUC|NIEUN-HIEUH
    TIKEUT|SSANGTIKEUT|RIEUL|RIEUL-KIYEOK|RIEUL-MIEUM|RIEUL-PIEUP|RIEUL-SIOS|RIEUL-THIEUTH
    RIEUL-PHIEUPH|RIEUL-HIEUH|MIEUM|PIEUP|SSANGPIEUP|PIEUP-SIOS|SIOS|SSANGSIOS|IEUNG|CIEUC
    SSANGCIEUC|CHIEUCH|KHIEUKH|THIEUTH|PHIEUPH|HIEUH||||A|AE|YA|YAE|EO|E|||YEO|YE|O|WA|WAE|OE|||YO|U
    WEO|WE|WI|YU|||EU|YI|I"),
  (0xffe0, "FULLWIDTH ", "CENTi|POUNDi|NOTi|MACRON|BROKEN BAR|YENi|WONi"),
  (0xffe8, "HALFWIDTH ", "FORMS LIGHTv|qo|UPWARDSo|ko|zo|wSQUARE|WHITE CIRCLE"),
  (0xfff9, "INTERLINEAR ANNOTATION ", "ANCHOR|SEPARATOR|TERMINATOR"),
  (0xfffc, "", "OBJECT REPLACEMENT CHARACTER|REPLACEMENT CHARACTER"),
  (0x10000, "LINEAR B SYLLABLE ", "B008 A|B038 E|B028 I|B061 O|B010 U|B001 DA|B045 DE|B007 DI
    B014 DO|B051 DU|B057 JA|B046 JE||B036 JO|B065 JU|B077 KA|B044 KE|B067 KI|B070 KO|B081 KU|B080 MA
    B013 ME|B073 MI|B015 MO|B023 MU|B006 NA|B024 NE|B030 NI|B052 NO|B055 NU|B003 PA|B072 PE|B039 PI
    B011 PO|B050 PU|B016 QA|B078 QE|B021 QI|B032 QO||B060 RA|B027 RE|B053 RI|B002 RO|B026 RU|B031 SA
    B009 SE|B041 SI|B012 SO|B058 SU|B059 TA|B004 TE|B037 TI|B005 TO|B069 TU|B054 WA|B075 WE|B040 WI
    B042 WO||B017 ZA|B074 ZE||B020 ZO|B025 A2|B043 A3|B085 AU|B071 DWE|B090 DWO|B048 NWA|B029 PU2
    B062 PTE|B076 RA2|B033 RA3|B068 RO2|B066 TA2|B087 TWE|B091y"),
  (0x10050, "LINEAR B SYMBOL ", "B018|B019|B022|B034|B047|B049|B056|B063|B064|B079|B082|B083|B086
    B089"),
  (0x10080, "LINEAR B IDEOGRAM ", "B100 MAN|B102 WOMAN|B104 DEER|B105 EQUID|B105F MARE
    B105M STALLION|B106F EWE|B106M RAM|B107F SHE-GOAT|B107M HE-GOAT|B108F SOW|B108M BOAR|B109F COW
    B109M BULL|B120 WHEAT|B121 BARLEY|B122 OLIVE|B123 SPICE|B125 CYPERUS"),
  (0x10093, "LINEAR B ", "MONOGRAM B127 KAPO|aB128 KANAKO|IDEOGRAM B130 OIL|aB131 WINE|aB132
    MONOGRAM B133 AREPA|aB135 MERI"),
  (0x1009a, "LINEAR B IDEOGRAM ", "B140 BRONZE|B141 GOLD|B142|B145 WOOL|B146|B150|B151 HORN
    B152..154"),
  (0x100a4, "", "LINEAR B MONOGRAM B156 TURO2"),
  (0x100a5, "LINEAR B IDEOGRAM ", "B157|B158|B159 CLOTH|B160|B161|B162 GARMENT|B163 ARMOUR|B164..172
    B173 MONTH|B174|B176 TREE|B177..185|B189|B190|B191 HELMET|B220 FOOTSTOOL|B225 BATHTUB|B230 SPEAR
    B231o|B232|B233 SWORD|B234|B236|B240 WHEELED CHARIOT|B241 CHARIOT|B242aFRAME|B243 WHEEL|B245
    B246"),
  (0x100d2, "", "LINEAR B MONOGRAM B247 DIPTE"),
  (0x100d3, "LINEAR B IDEOGRAM ", "B248|B249|B251..253|B254 DART|B255..259"),
  (0x100de, "LINEAR B IDEOGRAM VESSEL ", "B155|B200..219|B221|B222|B226..229|B250|B305"),
  (0x10100, "AEGEAN ", "WORD SEPARATOR LINE|bDOT|CHECKu"),
  (0x10107, "AEGEAN NUMBER ", "x|y|p|FOUR|FIVE|SIX|SEVEN|EIGHT|NINE|TEN|TWENTY|THIRTY|FORTY|FIFTY
    SIXTY|SEVENTY|EIGHTY|NINETY|xHUNDRED|ya|pa|FOURa|FIVEa|SIXa|SEVENa|EIGHTa|NINEa|xTHOUSAND|ya|pa
    FOURa|FIVEa|SIXa|SEVENa|EIGHTa|NINEa|TENa|TWENTYa|THIRTYa|FORTYa|FIFTYa|SIXTYa|SEVENTYa|EIGHTYa
    NINETYa"),
  (0x10137, "AEGEAN ", "WEIGHT BASE UNIT|aFIRST SUBUNIT|aSECONDa|aTHIRDa|aFOURTHa
    DRY MEASURE FIRST SUBUNIT|LIQUIDc|MEASURE SECOND SUBUNIT|aTHIRDa"),
  (0x10140, "GREEK ACROPHONIC ATTIC ", "xQUARTER|xHALF|xDRACHMA|FIVE|FIFTY|FIVE HUNDRED|aTHOUSAND
    FIFTYa|FIVE TALENTS|TENa|FIFTYa|xHUNDRED TALENTS|FIVEb|xTHOUSANDa|FIVEb|aSTATERS|TENa|FIFTYa
    xHUNDRED STATERS|FIVEb|xTHOUSANDa|TENb|FIFTYb|TEN MNAS"),
  (0x10158, "GREEK ACROPHONIC ", "HERAEUMxPLETHRON|THESPIANx|HERMIONIANx|EPIDAUREANy|THESPIANy
    CYRENAICyDRACHMAS|EPIDAUREANb|TROEZENIAN FIVE|aTEN|bALTERNATE FORM|HERMIONIANa|MESSENIANa
    THESPIANa|aTHIRTY|TROEZENIAN FIFTY|bALTERNATE FORM|HERMIONIANa|THESPIANa|axHUNDRED|apa
    EPIDAUREAN FIVEa|TROEZENIANb|THESPIANb|CARYSTIANb|NAXIANb|THESPIANxTHOUSAND|aFIVEa|DELPHICaMNAS
    STRATIAN FIFTYa"),
  (0x10175, "GREEK ", "xHALFi|cALTERNATE FORM|yTHIRDSi|pQUARTERSi|YEARi|TALENTi|DRACHMAi|OBOLi
    yOBOLSi|pb|FOURb|FIVEb|METRETESi|KYATHOS BASEi|LITRAi|OUNKIAi|XESTESi|ARTABEi|AROURAi|GRAMMAi
    TRYBLION BASEi|ZEROi|xQUARTERi|SINUSOIDi|INDICTIONi"),
  (0x1018e, "", "NOMISMAi"),
  (0x10190, "ROMAN ", "SEXTANSi|UNCIAi|SEMUNCIAi|SEXTULAi|DIMIDIA SEXTULAi|SILIQUAi|DENARIUSi
    QUINARIUSi|SESTERTIUSi|DUPONDIUSi|ASi|CENTURIALi"),
  (0x1019c, "", "ASCIA SYMBOL||||GREEKaTAU RHO"),
  (0x101d0, "PHAISTOS DISC SIGN ", "PEDESTRIAN|PLUMED HEAD|TATTOOEDa|CAPTIVE|CHILD|WOMAN|HELMET
    GAUNTLET|TIARA|o|BOW|SHIELD|CLUB|MANACLES|MATTOCK|SAW|LID|BOOMERANG|CARPENTRY PLANE|DOLIUM|COMB
    SLING|COLUMN|BEEHIVE|SHIP|HORN|HIDE|BULLS LEG|CAT|RAM|EAGLE|DOVE|TUNNY|BEE|PLANE TREE|VINE
    PAPYRUS|ROSETTE|LILY|OX BACK|FLUTE|GRATER|STRAINER|gAXE|WAVY BAND|COMBINING OBLIQUE STROKE"),
  (0x10280, "LYCIAN LETTER ", "A|E|B|BH|G|D|I|W|Z|TH|J|K|Q|L..N|MM|NN|U|P|KK|R..T|TT|AN|EN|H|X"),
  (0x102a0, "CARIAN LETTER ", "A|P2|D|L|UUU|R|LD|A2|Q|B|M|O|D2|T|SH|SH2|S|C-18|U|NN|X|N|TT2|P|SS|I|E
    UUUU|K|K2|ND|UU|G|G2|ST|ST2|NG|II|C-39|TT|UUU2|RR|MB|MB2..4|LD2|E2|UUU3"),
  (0x102e0, "", "COPTIC EPACT THOUSANDSu"),
  (0x102e1, "COPTIC EPACT DIGIT ", "x|y|p|FOUR|FIVE|SIX|SEVEN|EIGHT|NINE"),
  (0x102ea, "COPTIC EPACT NUMBER ", "TEN|TWENTY|THIRTY|FORTY|FIFTY|SIXTY|SEVENTY|EIGHTY|NINETY
    xHUNDRED|ya|pa|FOURa|FIVEa|SIXa|SEVENa|EIGHTa|NINEa"),
  (0x10300, "OLD ITALIC LETTER ", "A|BE|KE|DE|E|VE|ZE|HE|THE|I|KA|EL..N|ESH|O|PE|SHE|KU|ER|ES|TE|U
    EKS|PHE|KHE|EF|ERS|CHE|II|UU|ESS"),
  (0x10320, "OLD ITALIC NUMERAL ", "x|FIVE|TEN|FIFTY"),
  (0x1032d, "OLD ITALIC LETTER ", "YE|NORTHERN TSE|SOUTHERNa"),
  (0x10330, "GOTHIC LETTER ", "AHSA|BAIRKAN|GIBA|DAGS|AIHVUS|QAIRTHRA|IUJA|HAGL|THIUTH|EIS|KUSMA
    LAGUS|MANNA|NAUTHS|JER|URUS|PAIRTHRA|NINETY|RAIDA|SAUIL|TEIWS|WINJA|FAIHU|IGGWS|HWAIR|OTHAL
    NINE HUNDRED"),
  (0x10350, "OLD PERMIC LETTER ", "AN|BUR|GAI|DOI|E|ZHOI|DZHOI|ZATA|DZITA|I|KOKE|LEI|MENOE|NENOE
    VOOI|PEEI|REI|SII|TAI|U|CHERY|SHOOI|SHCHOOI|YRY|YERU|O|OO|EF|HA|TSIU|VER|YER|YERI|YAT|IE|YU|YA
    IA"),
  (0x10376, "COMBINING OLD PERMIC LETTER ", "AN|DOI|ZATA|NENOE|SII"),
  (0x10380, "UGARITIC LETTER ", "ALPA|BETA|GAMLA|KHA|DELTA|HO|WO|ZETA|HOTA|TET|YOD|KAF|SHIN|LAMDA
    MEM|DHAL|NUN|ZU|SAMKA|AIN|PU|SADE|QOPA|RASHA|THANNA|GHAIN|TO|I|U|SSU"),
  (0x1039f, "", "UGARITIC WORD DIVIDER"),
  (0x103a0, "OLD PERSIAN SIGN ", "A|I|U|KA|KU|GA|GU|XA|CA|JA|JI|TA|TU|DA|DI|DU|THA|PA|BA|FA|NA|NU|MA
    MI|MU|YA|VA|VI|RA|RU|LA|SA|ZA|SHA|SSA|HA|||||AURAMAZDAA|AURAMAZDAA-2|AURAMAZDAAHA|XSHAAYATHIYA
    DAHYAAUSH|DAHYAAUSH-2|BAGA|BUUMISH"),
  (0x103d0, "OLD PERSIAN ", "WORD DIVIDER|NUMBERx|ay|aTEN|aTWENTY|aHUNDRED"),
  (0x10400, "DESERET CAPITAL LETTER ", "LONG I|aE|aA|aAH|aO|aOO|SHORT I|aE|aA|aAH|aO|aOO|AY|OW|WU
    YEE|H|PEE|BEE|TEE|DEE|CHEE|JEE|KAY|GAY|EF|VEE|ETH|THEE|ES|ZEE|ESH|ZHEE|ER|EL..N|ENG|OI|EW"),
  (0x10428, "DESERET SMALL LETTER ", "LONG I|aE|aA|aAH|aO|aOO|SHORT I|aE|aA|aAH|aO|aOO|AY|OW|WU|YEE
    H|PEE|BEE|TEE|DEE|CHEE|JEE|KAY|GAY|EF|VEE|ETH|THEE|ES|ZEE|ESH|ZHEE|ER|EL..N|ENG|OI|EW"),
  (0x10450, "SHAVIAN LETTER ", "PEEP|TOT|KICK|FEE|THIGH|SO|SURE|CHURCH|YEA|HUNG|BIB|DEAD|GAG|VOW
    THEY|ZOO|MEASURE|JUDGE|WOE|HA-HA|LOLL|MIME|IF|EGG|ASH|ADO|ON|WOOL|OUT|AH|ROAR|NUN|EAT|AGE|ICE|UP
    OAK|OOZE|OIL|AWE|ARE|OR|AIR|ERR|ARRAY|EAR|IAN|YEW"),
  (0x10480, "OSMANYA LETTER ", "ALEF|BA|TA|JA|XA|KHA|DEEL|RA|SA|SHIIN|DHA|CAYN|GA|FA|QAAF|KAAF|LAAN
    MIIN|NUUN|WAW|HA|YA|A|E|I|O|U|AA|EE|OO"),
  (0x104a0, "OSMANYA DIGIT ", "ZERO|x|y|p|FOUR|FIVE|SIX|SEVEN|EIGHT|NINE"),
  (0x104b0, "OSAGE CAPITAL LETTER ", "A|AI|AIN|AH|BRA|CHA|EHCHA|E|EIN|HA|HYA|I|KA|EHKA|KYA|LA|MA|NA
    O|OIN|PA|EHPA|SA|SHA|TA|EHTA|TSA|EHTSA|TSHA|DHA|U|WA|KHA|GHA|ZA|ZHA"),
  (0x104d8, "OSAGE SMALL LETTER ", "A|AI|AIN|AH|BRA|CHA|EHCHA|E|EIN|HA|HYA|I|KA|EHKA|KYA|LA|MA|NA|O
    OIN|PA|EHPA|SA|SHA|TA|EHTA|TSA|EHTSA|TSHA|DHA|U|WA|KHA|GHA|ZA|ZHA"),
  (0x10500, "ELBASAN LETTER ", "A|BE|CE|CHE|DE|NDE|DHE|EI|E|FE|GE|GJE|HE|I|JE|KE|LE|LLE|ME|NE|NA|NJE
    O|PE|QE|RE|RRE|SE|SHE|TE|THE|U|VE|XE|Y|ZE|ZHE|GHE|GHAMMA|KHE"),
  (0x10530, "CAUCASIAN ALBANIAN LETTER ", "ALT|BET|GIM|DAT|EB|ZARL|EYN|ZHIL|TAS|CHA|YOWD|ZHA|IRB|SHA
    LAN|INYA|XEYN|DYAN|CAR|JHOX|KAR|LYIT|HEYT|QAY|AOR|CHOY|CHI|CYAY|MAQ|QAR|NOWC|DZYAY|SHAK|JAYN|ON
    TYAY|FAM|DZAY|CHAT|PEN|GHEYS|RAT|SEYK|VEYZ|TIWR|SHOY|IWN|CYAW|CAYN|YAYD|PIWR|KIW"),
  (0x1056f, "", "CAUCASIAN ALBANIAN CITATIONu"),
  (0x10570, "VITHKUQI CAPITAL LETTER ", "A|BBE|BE|CE|CHE|DE|DHE|EI|E|FE|GA||HA|HHA|I|IJE|JE|KA|LA
    LLA|ME|NE|NJE|O|PE|QA|RE||SE|SHE|TE|THE|U|VE|XE||Y|ZE"),
  (0x10597, "VITHKUQI SMALL LETTER ", "A|BBE|BE|CE|CHE|DE|DHE|EI|E|FE|GA||HA|HHA|I|IJE|JE|KA|LA|LLA
    ME|NE|NJE|O|PE|QA|RE||SE|SHE|TE|THE|U|VE|XE||Y|ZE"),
  (0x10600, "LINEAR A SIGN ", "AB001..011|AB013|AB016|AB017|AB020|AB021|AB021F|AB021M|AB022|AB022F
    AB022M|AB023|AB023M|AB024|AB026..028|A028B|AB029..031|AB034|AB037..041|AB044..051|AB053..061
    AB065..067|AB069|AB070|AB073|AB074|AB076..082|AB085..087|A100-102|AB118|AB120|A120B|AB122|AB123
    AB131A|AB131B|A131C|AB164|AB171|AB180|AB188|AB191|A301..308|A309A..C|A310..312|A313A..C
    A314..371|A400-VAS|A401-VAS|A402-VAS|A403-VAS|A404-VAS|A405-VAS|A406-VAS|A407-VAS|A408-VAS
    A409-VAS|A410-VAS|A411-VAS|A412-VAS|A413-VAS|A414-VAS|A415-VAS|A416-VAS|A417-VAS|A418-VAS
    A501..506|A508..513|A515|A516|A520|A521|A523..532|A534..542|A545|A547..557|A559|A563..566
    A568..589|A591|A592|A594..596|A598|A600..604|A606|A608..624|A626..629|A634|A637|A638|A640
    A642..646|A648|A649|A651..664||||||||||A701 A|A702 B|A703 D|A704 E|A705 F|A706 H|A707 J|A708 K
    A709 L|A709-2 L2|A709-3 L3|A709-4 L4|A709-6 L6|A710 W|A711 X|A712 Y|A713 OMEGA|A714 ABB|A715 BB
    A717 DD|A726 EYYY|A732 JE|||||||||||A800..807"),
  (0x10780, "MODIFIER LETTER ", "gfAA|SUPERSCRIPT TRIANGULAR COLON|aHALF TRIANGULAR COLON"),
  (0x10783, "MODIFIER LETTER SMALL ", "AE|fB|BhHOOK||DZ DIGRAPH|bhRETROFLEX HOOK|cCURL|DEZHa|DhTAIL
    bHOOK|cAND TAIL|REVERSED E|CLOSED REVERSED OPEN E|FENG DIGRAPH|RAMS HORN|fG|GhHOOK|fGhHOOK
    HhSTROKE|fH|HENGhHOOK|DOTLESS JhSTROKE AND HOOK|LS DIGRAPH|LZa|LhBELT|fLhBELT
    LhRETROFLEX HOOK AND BELT|LEZH|ahRETROFLEX HOOK|TURNED Y|bhBELT|OhSTROKE|fOE|CLOSED OMEGA|Q
    TURNED RhLONG LEG|adAND RETROFLEX HOOK|RhTAIL|bFISHHOOK|fR|TC DIGRAPHhCURL|TSa|bhRETROFLEX HOOK
    TESHa|ThRETROFLEX HOOK|Vhja||fY"),
  (0x107b3, "MODIFIER LETTER ", "GLOTTAL STOPhSTROKE|REVERSED GLOTTAL STOPhSTROKE|BILABIAL CLICK
    DENTALa|LATERALa|ALVEOLARa|RETROFLEXahRETROFLEX HOOK|gShCURL"),
  (0x10800, "CYPRIOT SYLLABLE ", "A|E|I|O|U|JA|||JO||KA|KE|KI|KO|KU|LA|LE|LI|LO|LU|MA|ME|MI|MO|MU|NA
    NE|NI|NO|NU|PA|PE|PI|PO|PU|RA|RE|RI|RO|RU|SA|SE|SI|SO|SU|TA|TE|TI|TO|TU|WA|WE|WI|WO||XA
    XE||||ZA|||ZO"),
  (0x10840, "IMPERIAL ARAMAIC LETTER ", "ALEPH|BETH|GIMEL|DALETH|HE|WAW|ZAYIN|HETH|TETH|YODH|KAPH
    LAMEDH|MEM|NUN|SAMEKH|AYIN|PE|SADHE|QOPH|RESH|SHIN|TAW"),
  (0x10857, "", "IMPERIAL ARAMAIC SECTIONi"),
  (0x10858, "IMPERIAL ARAMAIC NUMBER ", "x|y|p|TEN|TWENTY|xHUNDRED|xTHOUSAND|TENa"),
  (0x10860, "PALMYRENE LETTER ", "ALEPH|BETH|GIMEL|DALETH|HE|WAW|ZAYIN|HETH|TETH|YODH|KAPH|LAMEDH
    MEM|sNUN|NUN|SAMEKH|AYIN|PE|SADHE|QOPH|RESH|SHIN|TAW"),
  (0x10877, "PALMYRENE ", "LEFT-POINTING FLEURON|RIGHT-POINTINGa"),
  (0x10879, "PALMYRENE NUMBER ", "x|y|p|FOUR|FIVE|TEN|TWENTY"),
  (0x10880, "NABATAEAN LETTER ", "sALEPH|ALEPH|sBETH|BETH|GIMEL|DALETH|sHE|HE|WAW|ZAYIN|HETH|TETH
    sYODH|YODH|sKAPH|KAPH|sLAMEDH|LAMEDH|sMEM|MEM|sNUN|NUN|SAMEKH|AYIN|PE|SADHE|QOPH|RESH|sSHIN|SHIN
    TAW"),
  (0x108a7, "NABATAEAN ", "NUMBERx|ay|ap|aFOUR|CRUCIFORM NUMBER FOUR|NUMBER FIVE|aTEN|aTWENTY
    axHUNDRED"),
  (0x108e0, "HATRAN LETTER ", "ALEPH|BETH|GIMEL|DALETH-RESH|HE|WAW|ZAYN|HETH|TETH|YODH|KAPH|LAMEDH
    MEM|NUN|SAMEKH|AYN|PE|SADHE|QOPH||SHIN|TAW"),
  (0x108fb, "HATRAN NUMBER ", "x|FIVE|TEN|TWENTY|xHUNDRED"),
  (0x10900, "PHOENICIAN LETTER ", "ALF|BET|GAML|DELT|HE|WAU|ZAI|HET|TET|YOD|KAF|LAMD|MEM|NUN|SEMK
    AIN|PE|SADE|QOF|ROSH|SHIN|TAU"),
  (0x10916, "PHOENICIAN NUMBER ", "x|TEN|TWENTY|xHUNDRED|y|p"),
  (0x1091f, "", "PHOENICIAN WORD SEPARATOR"),
  (0x10920, "LYDIAN LETTER ", "A|B|G|D|E|V|I|Y|K..O|R|SS|T|U|F|Q|S|TT|AN|EN|LY|NN|C"),
  (0x1093f, "", "LYDIAN TRIANGULARu"),
  (0x10980, "MEROITIC HIEROGLYPHIC LETTER ", "A|E|I|O|YA|WA|BA|BA-2|PA|MA|NA|NA-2|NE|NE-2|RA|RA-2|LA
    KHA|HHA|SA|SA-2|SE|KA|QA|TA|TA-2|TE|TE-2|TO|DA"),
  (0x1099e, "MEROITIC HIEROGLYPHIC SYMBOL ", "VIDJ|VIDJ-2"),
  (0x109a0, "MEROITIC CURSIVE LETTER ", "A|E|I|O|YA|WA|BA|PA|MA|NA|NE|RA|LA|KHA|HHA|SA|ARCHAIC SA|SE
    KA|QA|TA|TE|TO|DA"),
  (0x109bc, "MEROITIC CURSIVE ", "FRACTION ELEVEN TWELFTHS|axHALF|LOGOGRAM RMT|aIMN"),
  (0x109c0, "MEROITIC CURSIVE NUMBER ", "x|y|p|FOUR|FIVE|SIX|SEVEN|EIGHT|NINE|TEN|TWENTY|THIRTY
    FORTY|FIFTY|SIXTY|SEVENTY|||xHUNDRED|ya|pa|FOURa|FIVEa|SIXa|SEVENa|EIGHTa|NINEa|xTHOUSAND|ya|pa
    FOURa|FIVEa|SIXa|SEVENa|EIGHTa|NINEa|TENa|TWENTYa|THIRTYa|FORTYa|FIFTYa|SIXTYa|SEVENTYa|EIGHTYa
    NINETYa|xHUNDRED THOUSAND|yb|pb|FOURb|FIVEb|SIXb|SEVENb|EIGHTb|NINEb"),
  (0x109f6, "MEROITIC CURSIVE FRACTION ", "xTWELFTH|yTWELFTHS|pa|FOURa|FIVEa|SIXa|SEVENa|EIGHTa
    NINEa|TENa"),
  (0x10a00, "KHAROSHTHI ", "eA|VOWELiI|bU|bVOCALIC R||bE|bO||||||aLENGTHu|ilRINGt|iANUSVARA
    iVISARGA"),
  (0x10a10, "KHAROSHTHI LETTER ", "KA|KHA|GA|GHA||CA|CHA|JA||NYA|TTA|TTHA|DDA|DDHA|NNA|TA|THA|DA|DHA
    NA|PA|PHA|BA|BHA|MA|YA|RA|LA|VA|SHA|SSA|SA|ZA|HA|KKA|TTTHA|TTTA|VHA"),
  (0x10a38, "KHAROSHTHI ", "iBARm|iCAUDA|iDOTt|||||VIRAMA|DIGITx|ay|ap|aFOUR|NUMBER TEN|aTWENTY
    axHUNDRED|bTHOUSAND|FRACTIONxHALF"),
  (0x10a50, "KHAROSHTHI PUNCTUATION ", "DOT|gCIRCLE|CIRCLE|CRESCENT BAR|MANGALAM|LOTUS|DANDA|lDANDA
    LINES"),
  (0x10a60, "OLD SOUTH ARABIAN LETTER ", "HE|LAMEDH|HETH|MEM|QOPH|WAW|SHIN|RESH|BETH|TAW|SAT|KAPH
    NUN|KHETH|SADHE|SAMEKH|FE|ALEF|AYN|DHADHE|GIMEL|DALETH|GHAYN|TETH|ZAYN|DHALETH|YODH|THAW
    THETH"),
  (0x10a7d, "OLD SOUTH ARABIAN ", "NUMBERx|aFIFTY|NUMERIC INDICATOR"),
  (0x10a80, "OLD NORTH ARABIAN LETTER ", "HEH|LAM|HAH|MEEM|QAF|WAW|ES-2|REH|BEH|TEH|ES-1|KAF|NOON
    KHAH|SAD|ES-3|FEH|ALEF|AIN|DAD|GEEM|DAL|GHAIN|TAH|ZAIN|THAL|YEH|THEH|ZAH"),
  (0x10a9d, "OLD NORTH ARABIAN NUMBER ", "x|TEN|TWENTY"),
  (0x10ac0, "MANICHAEAN LETTER ", "ALEPH|BETH|BHETH|GIMEL|GHIMEL|DALETH|HE|WAW"),
  (0x10ac8, "", "MANICHAEANiUD"),
  (0x10ac9, "MANICHAEAN LETTER ", "ZAYIN|ZHAYIN|JAYIN|JHAYIN|HETH|TETH|YODH|KAPH|XAPH|KHAPH|LAMEDH
    DHAMEDH|THAMEDH|MEM|NUN|SAMEKH|AYIN|AAYIN|PE|FE|SADHE|QOPH|XOPH|QHOPH|RESH|SHIN|SSHIN|TAW"),
  (0x10ae5, "MANICHAEAN ABBREVIATION MARK ", "m|t"),
  (0x10aeb, "MANICHAEAN NUMBER ", "x|FIVE|TEN|TWENTY|xHUNDRED"),
  (0x10af0, "MANICHAEAN PUNCTUATION ", "STAR|FLEURON|lDOT WITHIN DOT|DOT WITHIN DOT|a|yDOTS
    LINE FILLER"),
  (0x10b00, "AVESTAN LETTER ", "A|AA|AO|AAO|AN|AAN|AE|AEE|E|EE|O|OO|I|II|U|UU|KE|XE|XYE|XVE|GE|GGE
    GHE|CE|JE|TE|THE|DE|DHE|TTE|PE|FE|BE|BHE|NGE|NGYE|NGVE|NE|NYE|NNE|ME|HME|YYE|YE|VE|RE|LE|SE|ZE
    SHE|ZHE|SHYE|SSHE|HE"),
  (0x10b39, "", "AVESTAN ABBREVIATIONu|TINYyDOTS OVERxDOT PUNCTUATION|gbd|LARGEbd|axDOTayDOTSa
    ayRINGSaxRINGa|axRINGayRINGSa"),
  (0x10b40, "INSCRIPTIONAL PARTHIAN LETTER ", "ALEPH|BETH|GIMEL|DALETH|HE|WAW|ZAYIN|HETH|TETH|YODH
    KAPH|LAMEDH|MEM|NUN|SAMEKH|AYIN|PE|SADHE|QOPH|RESH|SHIN|TAW"),
  (0x10b58, "INSCRIPTIONAL PARTHIAN NUMBER ", "x|y|p|FOUR|TEN|TWENTY|xHUNDRED|xTHOUSAND"),
  (0x10b60, "INSCRIPTIONAL PAHLAVI LETTER ", "ALEPH|BETH|GIMEL|DALETH|HE|WAW-AYIN-RESH|ZAYIN|HETH
    TETH|YODH|KAPH|LAMEDH|MEM-QOPH|NUN|SAMEKH|PE|SADHE|SHIN|TAW"),
  (0x10b78, "INSCRIPTIONAL PAHLAVI NUMBER ", "x|y|p|FOUR|TEN|TWENTY|xHUNDRED|xTHOUSAND"),
  (0x10b80, "PSALTER PAHLAVI LETTER ", "ALEPH|BETH|GIMEL|DALETH|HE|WAW-AYIN-RESH|ZAYIN|HETH|YODH
    KAPH|LAMEDH|MEM-QOPH|NUN|SAMEKH|PE|SADHE|SHIN|TAW"),
  (0x10b99, "PSALTER PAHLAVI ", "SECTIONu|TURNED SECTIONu|FOUR DOTShCROSS|cDOT"),
  (0x10ba9, "PSALTER PAHLAVI NUMBER ", "x|y|p|FOUR|TEN|TWENTY|xHUNDRED"),
  (0x10c00, "OLD TURKIC LETTER ", "ORKHON A|YENISEIa|aAE|ORKHON I|YENISEIa|aE|ORKHON O|aOE|YENISEIa
    ORKHON AB|YENISEIa|ORKHON AEB|YENISEIa|ORKHON AG|YENISEIa|ORKHON AEG|YENISEIa|ORKHON AD|YENISEIa
    ORKHON AED|aEZ|YENISEIa|ORKHON AY|YENISEIa|ORKHON AEY|YENISEIa|ORKHON AEK|YENISEIa|ORKHON OEK
    YENISEIa|ORKHON AL|YENISEIa|ORKHON AEL|aELT|aEM|aAN|aAEN|YENISEIa|ORKHON ENT|YENISEIa|ORKHON ENC
    YENISEIa|ORKHON ENY|YENISEIa|aANG|ORKHON ENG|YENISEI AENG|ORKHON EP|aOP|aIC|aEC|YENISEIa
    ORKHON AQ|YENISEIa|ORKHON IQ|YENISEIa|ORKHON OQ|YENISEIa|ORKHON AR|YENISEIa|ORKHON AER|aAS|aAES
    aASH|YENISEIa|ORKHON ESH|YENISEIa|ORKHON AT|YENISEIa|ORKHON AET|YENISEIa|ORKHON OT|aBASH"),
  (0x10c80, "OLD HUNGARIAN CAPITAL LETTER ", "A|AA|EB|AMB|EC|ENC|ECS|ED|AND|E|CLOSE E|EE..G|EGY|EH|I
    II|EJ|EK|AK|UNK|EL|ELY|EM|EN|ENY|O|OO|NIKOLSBURG OE|RUDIMENTAa|OEE|EP|EMP|ER|SHORT ER|ES|ESZ|ET
    ENT|ETY|ECH|U|UU|NIKOLSBURG UE|RUDIMENTAa|EV|EZ|EZS|ENT-SHAPEDi|US"),
  (0x10cc0, "OLD HUNGARIAN SMALL LETTER ", "A|AA|EB|AMB|EC|ENC|ECS|ED|AND|E|CLOSE E|EE..G|EGY|EH|I
    II|EJ|EK|AK|UNK|EL|ELY|EM|EN|ENY|O|OO|NIKOLSBURG OE|RUDIMENTAa|OEE|EP|EMP|ER|SHORT ER|ES|ESZ|ET
    ENT|ETY|ECH|U|UU|NIKOLSBURG UE|RUDIMENTAa|EV|EZ|EZS|ENT-SHAPEDi|US"),
  (0x10cfa, "OLD HUNGARIAN NUMBER ", "x|FIVE|TEN|FIFTY|xHUNDRED|xTHOUSAND"),
  (0x10d00, "HANIFI ROHINGYA LETTER ", "A|BA|PA|TA|TTA|JA|CA|HA|KHA|FA|DA|DDA|RA|RRA|ZA|SA|SHA|KA|GA
    LA|MA|NA|WA|KINNA WA|YA|KINNA YA|NGA|NYA|VA"),
  (0x10d1d, "HANIFI ROHINGYA ", "VOWEL A|aI|aU|aE|aO|uSAKIN|uNA KHONNA|iHARBAHAY|iTAHALA|iTANA
    iTASSI"),
  (0x10d30, "HANIFI ROHINGYA DIGIT ", "ZERO|x|y|p|FOUR|FIVE|SIX|SEVEN|EIGHT|NINE"),
  (0x10e60, "RUMI DIGIT ", "x|y|p|FOUR|FIVE|SIX|SEVEN|EIGHT|NINE"),
  (0x10e69, "RUMI NUMBER ", "TEN|TWENTY|THIRTY|FORTY|FIFTY|SIXTY|SEVENTY|EIGHTY|NINETY|xHUNDRED|ya
    pa|FOURa|FIVEa|SIXa|SEVENa|EIGHTa|NINEa"),
  (0x10e7b, "RUMI FRACTION ", "xHALF|xQUARTER|xTHIRD|yTHIRDS"),
  (0x10e80, "YEZIDI LETTER ", "ELIF|BE|PE|PHE|THE|SE|CIM|CHIM|CHHIM|HHA|XA|DAL|ZAL|RA|RHA|ZA|JA|SIN
    SHIN|SAD|DAD|TA|ZE|EYN|XHEYN|FA|VA|aALTERNATE FORM|QAF|KAF|KHAF|GAF|LAM|MIM|NUN|UM|WAW|OW|EW|HAY
    YOT|ET"),
  (0x10eab, "YEZIDI ", "COMBINING HAMZAu|aMADDAu|HYPHENATIONu|||eLAMhDOTm|eYOThCIRCUMFLEXm"),
  (0x10f00, "OLD SOGDIAN LETTER ", "ALEPH|sALEPH|BETH|sBETH|GIMEL|HE|sHE|WAW|ZAYIN|HETH|YODH|KAPH
    LAMEDH|MEM|NUN|sNUN|bhvTAIL|SAMEKH|AYIN|ALTERNATE AYIN|PE|SADHE|sSADHE|bhvTAIL|RESH-AYIN-DALETH
    SHIN|TAW|sTAW|bhvTAIL"),
  (0x10f1d, "OLD SOGDIAN NUMBER ", "x|y|p|FOUR|FIVE|TEN|TWENTY|THIRTY|xHUNDRED"),
  (0x10f26, "OLD SOGDIAN ", "FRACTIONxHALF|LIGATURE AYIN-DALETH"),
  (0x10f30, "SOGDIAN LETTER ", "ALEPH|BETH|GIMEL|HE|WAW|ZAYIN|HETH|YODH|KAPH|LAMEDH|MEM|NUN|SAMEKH
    AYIN|PE|SADHE|RESH-AYIN|SHIN|TAW|FETH|LESH"),
  (0x10f45, "", "SOGDIAN INDEPENDENT SHIN"),
  (0x10f46, "SOGDIAN COMBINING ", "DOTt|yDOTSt|DOTm|yDOTSm|CURVEm|at|HOOKm|at|LONG HOOKt|RESHt
    STROKEt"),
  (0x10f51, "SOGDIAN NUMBER ", "x|TEN|TWENTY|xHUNDRED"),
  (0x10f55, "SOGDIAN PUNCTUATION ", "yvBARS|chDOTS|CIRCLEhDOT|yCIRCLEShDOTS|HALF CIRCLEhDOT"),
  (0x10f70, "OLD UYGHUR LETTER ", "ALEPH|BETH|GIMEL-HETH|WAW|ZAYIN|sHETH|YODH|KAPH|LAMEDH|MEM|NUN
    SAMEKH|PE|SADHE|RESH|SHIN|TAW|LESH"),
  (0x10f82, "OLD UYGHUR COMBINING ", "DOTm|at|yDOTSm|bt"),
  (0x10f86, "OLD UYGHUR PUNCTUATION ", "BAR|yBARS|yDOTS|FOURa"),
  (0x10fb0, "CHORASMIAN LETTER ", "ALEPH|gALEPH|BETH|GIMEL|DALETH|HE|WAW|CURLED WAW|ZAYIN|HETH|YODH
    KAPH|LAMEDH|MEM|NUN|SAMEKH|AYIN|PE|RESH|SHIN|TAW"),
  (0x10fc5, "CHORASMIAN NUMBER ", "x|y|p|FOUR|TEN|TWENTY|xHUNDRED"),
  (0x10fe0, "ELYMAIC LETTER ", "ALEPH|BETH|GIMEL|DALETH|HE|WAW|ZAYIN|HETH|TETH|YODH|KAPH|LAMEDH|MEM
    NUN|SAMEKH|AYIN|PE|SADHE|QOPH|RESH|SHIN|TAW"),
  (0x10ff6, "", "ELYMAIC LIGATURE ZAYIN-YODH")]

/-- Rows of historic scripts. -/
def historicNames : List (Nat × String × String) := [
  (0x11000, "BRAHMI SIGN ", "CANDRABINDU|ANUSVARA|VISARGA|JIHVAMULIYA|UPADHMANIYA"),
  (0x11005, "BRAHMI LETTER ", "A|AA|I|II|U|UU|VOCALIC R|aRR|aL|aLL|E|AI|O|AU|KA|KHA|GA|GHA|NGA|CA
    CHA|JA|JHA|NYA|TTA|TTHA|DDA|DDHA|NNA|TA|THA|DA|DHA|NA|PA|PHA|BA|BHA|MA|YA|RA|LA|VA|SHA|SSA|SA|HA
    LLA|OLD TAMIL LLLA|bRRA|bNNNA"),
  (0x11038, "BRAHMI VOWEL SIGN ", "AA|BHATTIPROLU AA|I|II|U|UU|VOCALIC R|aRR|aL|aLL|E|AI|O|AU"),
  (0x11046, "BRAHMI ", "VIRAMA|DANDA|lDANDA"),
  (0x11049, "BRAHMI PUNCTUATION ", "DOT|lDOT|LINE|CRESCENT BAR|LOTUS"),
  (0x11052, "BRAHMI NUMBER ", "x|y|p|FOUR|FIVE|SIX|SEVEN|EIGHT|NINE|TEN|TWENTY|THIRTY|FORTY|FIFTY
    SIXTY|SEVENTY|EIGHTY|NINETY|xHUNDRED|xTHOUSAND"),
  (0x11066, "BRAHMI DIGIT ", "ZERO|x|y|p|FOUR|FIVE|SIX|SEVEN|EIGHT|NINE"),
  (0x11070, "BRAHMI ", "iOLD TAMIL VIRAMA|ebSHORT E|dO|VOWELiOLD TAMIL SHORT E|adO
    eOLD TAMIL LLA||||||||||NUMBER JOINER"),
  (0x11080, "KAITHI SIGN ", "CANDRABINDU|ANUSVARA|VISARGA"),
  (0x11083, "KAITHI LETTER ", "A|AA|I|II|U|UU|E|AI|O|AU|KA|KHA|GA|GHA|NGA|CA|CHA|JA|JHA|NYA|TTA|TTHA
    DDA|DDDHA|DDHA|RHA|NNA|TA|THA|DA|DHA|NA|PA|PHA|BA|BHA|MA|YA|RA|LA|VA|SHA|SSA|SA|HA"),
  (0x110b0, "KAITHI VOWEL SIGN ", "AA|I|II|U|UU|E|AI|O|AU"),
  (0x110b9, "KAITHI ", "iVIRAMA|iNUKTA|ABBREVIATIONi|ENUMERATIONi|NUMBERi|SECTIONu|lSECTIONu|DANDA
    lDANDA|VOWELiVOCALIC R|||||||||||NUMBERim"),
  (0x110d0, "SORA SOMPENG LETTER ", "SAH|TAH|BAH|CAH|DAH|GAH|MAH|NGAH|LAH|NAH|VAH|PAH|YAH|RAH|HAH
    KAH|JAH|NYAH|AH|EEH|IH|UH|OH|EH|MAE"),
  (0x110f0, "SORA SOMPENG DIGIT ", "ZERO|x|y|p|FOUR|FIVE|SIX|SEVEN|EIGHT|NINE"),
  (0x11100, "CHAKMA SIGN ", "CANDRABINDU|ANUSVARA|VISARGA"),
  (0x11103, "CHAKMA LETTER ", "AA|I|U|E|KAA|KHAA|GAA|GHAA|NGAA|CAA|CHAA|JAA|JHAA|NYAA|TTAA|TTHAA
    DDAA|DDHAA|NNAA|TAA|THAA|DAA|DHAA|NAA|PAA|PHAA|BAA|BHAA|MAA|YYAA|YAA|RAA|LAA|WAA|SAA|HAA"),
  (0x11127, "CHAKMA VOWEL SIGN ", "A|I|II|U|UU|E|AI|O|AU|OI"),
  (0x11131, "CHAKMA ", "Ou|AUu|VIRAMA|MAAYYAA||DIGIT ZERO|ax|ay|ap|aFOUR|aFIVE|aSIX|aSEVEN|aEIGHT
    aNINE|SECTIONu|DANDA|lDANDA|QUESTIONu|eLHAA|VOWELiAA|bEI|eVAA"),
  (0x11150, "MAHAJANI LETTER ", "A|I|U|E|O|KA|KHA|GA|GHA|CA|CHA|JA|JHA|NYA|TTA|TTHA|DDA|DDHA|NNA|TA
    THA|DA|DHA|NA|PA|PHA|BA|BHA|MA|RA|LA|VA|SA|HA|RRA"),
  (0x11173, "MAHAJANI ", "iNUKTA|ABBREVIATIONi|SECTIONu|LIGATURE SHRI"),
  (0x11180, "SHARADA SIGN ", "CANDRABINDU|ANUSVARA|VISARGA"),
  (0x11183, "SHARADA LETTER ", "A|AA|I|II|U|UU|VOCALIC R|aRR|aL|aLL|E|AI|O|AU|KA|KHA|GA|GHA|NGA|CA
    CHA|JA|JHA|NYA|TTA|TTHA|DDA|DDHA|NNA|TA|THA|DA|DHA|NA|PA|PHA|BA|BHA|MA|YA|RA|LA|LLA|VA|SHA|SSA
    SA|HA"),
  (0x111b3, "SHARADA VOWEL SIGN ", "AA|I|II|U|UU|VOCALIC R|aRR|aL|aLL|E|AI|O|AU"),
  (0x111c0, "SHARADA ", "iVIRAMA|iAVAGRAHA|iJIHVAMULIYA|iUPADHMANIYA|OM|DANDA|lDANDA|ABBREVIATIONi
    SEPARATOR|SANDHIu|iNUKTA|VOWEL MODIFIERu|EXTRA SHORT VOWELu|SUTRAu|VOWELiPRISHTHAMATRA E
    iINVERTED CANDRABINDU|DIGIT ZERO|ax|ay|ap|aFOUR|aFIVE|aSIX|aSEVEN|aEIGHT|aNINE|EKAM|iSIDDHAM
    HEADSTROKE|CONTINUATIONi|SECTION MARK-1|aMARK-2"),
  (0x111e1, "SINHALA ARCHAIC DIGIT ", "x|y|p|FOUR|FIVE|SIX|SEVEN|EIGHT|NINE"),
  (0x111ea, "SINHALA ARCHAIC NUMBER ", "TEN|TWENTY|THIRTY|FORTY|FIFTY|SIXTY|SEVENTY|EIGHTY|NINETY
    xHUNDRED|xTHOUSAND"),
  (0x11200, "KHOJKI LETTER ", "A|AA|I|U|E|AI|O|AU|KA|KHA|GA|GGA|GHA|NGA|CA|CHA|JA|JJA||NYA|TTA|TTHA
    DDA|DDHA|NNA|TA|THA|DA|DDDA|DHA|NA|PA|PHA|BA|BBA|BHA|MA|YA|RA|LA|VA|SA|HA|LLA"),
  (0x1122c, "KHOJKI VOWEL SIGN ", "AA|I|II|U|E|AI|O|AU"),
  (0x11234, "KHOJKI ", "iANUSVARA|iVIRAMA|iNUKTA|iSHADDA|DANDA|lDANDA|WORD SEPARATOR|SECTIONu
    lSECTIONu|ABBREVIATIONi|iSUKUN"),
  (0x11280, "MULTANI LETTER ", "A|I|U|E|KA|KHA|GA||GHA||CA|CHA|JA|JJA||NYA|TTA|TTHA|DDA|DDDA|DDHA
    NNA|TA|THA|DA|DHA|NA|PA|PHA|BA||BHA|MA|YA|RA|LA|VA|SA|HA|RRA|RHA"),
  (0x112a9, "", "MULTANI SECTIONu"),
  (0x112b0, "KHUDAWADI LETTER ", "A|AA|I|II|U|UU|E|AI|O|AU|KA|KHA|GA|GGA|GHA|NGA|CA|CHA|JA|JJA|JHA
    NYA|TTA|TTHA|DDA|DDDA|RRA|DDHA|NNA|TA|THA|DA|DHA|NA|PA|PHA|BA|BBA|BHA|MA|YA|RA|LA|VA|SHA|SA
    HA"),
  (0x112df, "", "KHUDAWADIiANUSVARA"),
  (0x112e0, "KHUDAWADI VOWEL SIGN ", "AA|I|II|U|UU|E|AI|O|AU"),
  (0x112e9, "KHUDAWADI SIGN ", "NUKTA|VIRAMA"),
  (0x112f0, "KHUDAWADI DIGIT ", "ZERO|x|y|p|FOUR|FIVE|SIX|SEVEN|EIGHT|NINE"),
  (0x11300, "GRANTHA SIGN ", "COMBINING ANUSVARAm|CANDRABINDU|ANUSVARA|VISARGA"),
  (0x11305, "GRANTHA LETTER ", "A|AA|I|II|U|UU|VOCALIC R|aL|||EE|AI|||OO|AU|KA|KHA|GA|GHA|NGA|CA|CHA
    JA|JHA|NYA|TTA|TTHA|DDA|DDHA|NNA|TA|THA|DA|DHA|NA||PA|PHA|BA|BHA|MA|YA|RA||LA|LLA||VA|SHA|SSA|SA
    HA"),
  (0x1133b, "", "COMBINING BINDUt|GRANTHAiNUKTA|bAVAGRAHA"),
  (0x1133e, "GRANTHA VOWEL SIGN ", "AA|I|II|U|UU|VOCALIC R|aRR|||EE|AI|||OO|AU"),
  (0x1134d, "GRANTHA ", "iVIRAMA|||OM|||||||AU LENGTHu||||||iPLUTA|eVEDIC ANUSVARA|blANUSVARA
    eVOCALIC RR|bLL|VOWELiVOCALIC L|cLL"),
  (0x11366, "COMBINING GRANTHA DIGIT ", "ZERO|x|y|p|FOUR|FIVE|SIX"),
  (0x11370, "COMBINING GRANTHA LETTER ", "A|KA|NA|VI|PA"),
  (0x11400, "NEWA LETTER ", "A|AA|I|II|U|UU|VOCALIC R|aRR|aL|aLL|E|AI|O|AU|KA|KHA|GA|GHA|NGA|NGHA|CA
    CHA|JA|JHA|NYA|NYHA|TTA|TTHA|DDA|DDHA|NNA|TA|THA|DA|DHA|NA|NHA|PA|PHA|BA|BHA|MA|MHA|YA|RA|RHA|LA
    LHA|WA|SHA|SSA|SA|HA"),
  (0x11435, "NEWA VOWEL SIGN ", "AA|I|II|U|UU|VOCALIC R|aRR|aL|aLL|E|AI|O|AU"),
  (0x11442, "NEWA ", "iVIRAMA|iCANDRABINDU|iANUSVARA|iVISARGA|iNUKTA|iAVAGRAHA|isANUSVARA|OM|SIDDHI
    DANDA|lDANDA|COMMA|GAP FILLER|ABBREVIATIONi|DIGIT ZERO|ax|ay|ap|aFOUR|aFIVE|aSIX|aSEVEN|aEIGHT
    aNINE|lCOMMA|PLACEHOLDERu||INSERTIONi|SANDHIu|eVEDIC ANUSVARA|iJIHVAMULIYA|iUPADHMANIYA"),
  (0x11480, "", "TIRHUTA ANJI"),
  (0x11481, "TIRHUTA LETTER ", "A|AA|I|II|U|UU|VOCALIC R|aRR|aL|aLL|E|AI|O|AU|KA|KHA|GA|GHA|NGA|CA
    CHA|JA|JHA|NYA|TTA|TTHA|DDA|DDHA|NNA|TA|THA|DA|DHA|NA|PA|PHA|BA|BHA|MA|YA|RA|LA|VA|SHA|SSA|SA
    HA"),
  (0x114b0, "TIRHUTA VOWEL SIGN ", "AA|I|II|U|UU|VOCALIC R|aRR|aL|aLL|E|SHORT E|AI|O|SHORT O|AU"),
  (0x114bf, "TIRHUTA ", "iCANDRABINDU|iANUSVARA|iVISARGA|iVIRAMA|iNUKTA|iAVAGRAHA|GVANG
    ABBREVIATIONi|OM"),
  (0x114d0, "TIRHUTA DIGIT ", "ZERO|x|y|p|FOUR|FIVE|SIX|SEVEN|EIGHT|NINE"),
  (0x11580, "SIDDHAM LETTER ", "A|AA|I|II|U|UU|VOCALIC R|aRR|aL|aLL|E|AI|O|AU|KA|KHA|GA|GHA|NGA|CA
    CHA|JA|JHA|NYA|TTA|TTHA|DDA|DDHA|NNA|TA|THA|DA|DHA|NA|PA|PHA|BA|BHA|MA|YA|RA|LA|VA|SHA|SSA|SA
    HA"),
  (0x115af, "SIDDHAM VOWEL SIGN ", "AA|I|II|U|UU|VOCALIC R|aRR|||E|AI|O|AU"),
  (0x115bc, "SIDDHAM ", "iCANDRABINDU|iANUSVARA|iVISARGA|iVIRAMA|iNUKTA|iSIDDHAM|DANDA|lDANDA
    SEPARATOR DOT|aBAR|REPETITION MARK-1..3|END OF TEXTu"),
  (0x115ca, "SIDDHAM SECTION MARK ", "hTRIDENT AND U-SHAPED ORNAMENTS|cDOTTED CRESCENTS|hRAYSc
    dlCRESCENTS|dTRIPLEa|lRING|bhRAYS|hlCRESCENTS|hTRIPLEa|hQUADRUPLEa|hSEPTUPLEa|hCIRCLES AND RAYS
    cyENCLOSURES|cFOURa"),
  (0x115d8, "SIDDHAM LETTER ", "THREE-CIRCLE ALTERNATE I|TWO-CIRCLEb|bII|ALTERNATE U"),
  (0x115dc, "SIDDHAM VOWEL SIGN ALTERNATE ", "U|UU"),
  (0x11600, "MODI LETTER ", "A|AA|I|II|U|UU|VOCALIC R|aRR|aL|aLL|E|AI|O|AU|KA|KHA|GA|GHA|NGA|CA|CHA
    JA|JHA|NYA|TTA|TTHA|DDA|DDHA|NNA|TA|THA|DA|DHA|NA|PA|PHA|BA|BHA|MA|YA|RA|LA|VA|SHA|SSA|SA|HA
    LLA"),
  (0x11630, "MODI VOWEL SIGN ", "AA|I|II|U|UU|VOCALIC R|aRR|aL|aLL|E|AI|O|AU"),
  (0x1163d, "MODI ", "iANUSVARA|iVISARGA|iVIRAMA|iARDHACANDRA|DANDA|lDANDA|ABBREVIATIONi|iHUVA"),
  (0x11650, "MODI DIGIT ", "ZERO|x|y|p|FOUR|FIVE|SIX|SEVEN|EIGHT|NINE"),
  (0x11660, "MONGOLIAN ", "BIRGAhORNAMENT|ROTATED BIRGA|lahORNAMENT|TRIPLEc|BIRGAhla|ROTATED BIRGAha
    clORNAMENT|INVERTEDa|bhlORNAMENT|SWIRLa|bhORNAMENT|clORNAMENT|TURNED SWIRL BIRGAhlORNAMENT"),
  (0x11680, "TAKRI LETTER ", "A|AA|I|II|U|UU|E|AI|O|AU|KA|KHA|GA|GHA|NGA|CA|CHA|JA|JHA|NYA|TTA|TTHA
    DDA|DDHA|NNA|TA|THA|DA|DHA|NA|PA|PHA|BA|BHA|MA|YA|RA|LA|VA|SHA|SA|HA|RRA"),
  (0x116ab, "TAKRI SIGN ", "ANUSVARA|VISARGA"),
  (0x116ad, "TAKRI VOWEL SIGN ", "AA|I|II|U|UU|E|AI|O|AU"),
  (0x116b6, "TAKRI ", "iVIRAMA|iNUKTA|eARCHAIC KHA|ABBREVIATIONi"),
  (0x116c0, "TAKRI DIGIT ", "ZERO|x|y|p|FOUR|FIVE|SIX|SEVEN|EIGHT|NINE"),
  (0x11700, "AHOM LETTER ", "KA|KHA|NGA|NA|TA|ALTERNATE TA|PA|PHA|BA|MA|JA|CHA|THA|RA|LA|SA|NYA|HA|A
    DA|DHA|GA|ALTERNATE GA|GHA|BHA|JHA|ALTERNATE BA"),
  (0x1171d, "AHOM CONSONANT SIGN MEDIAL ", "LA|RA|LIGATING RA"),
  (0x11720, "AHOM VOWEL SIGN ", "A|AA|I|II|U|UU|E|AW|O|AI|AM"),
  (0x1172b, "AHOM ", "iKILLER|||||DIGIT ZERO|ax|ay|ap|aFOUR|aFIVE|aSIX|aSEVEN|aEIGHT|aNINE
    NUMBER TEN|aTWENTY|igSECTION|iSECTION|iRULAI|SYMBOL VI"),
  (0x11740, "AHOM LETTER ", "CA|TTA|TTHA|DDA|DDHA|NNA|LLA"),
  (0x11800, "DOGRA LETTER ", "A|AA|I|II|U|UU|E|AI|O|AU|KA|KHA|GA|GHA|NGA|CA|CHA|JA|JHA|NYA|TTA|TTHA
    DDA|DDHA|NNA|TA|THA|DA|DHA|NA|PA|PHA|BA|BHA|MA|YA|RA|LA|VA|SHA|SSA|SA|HA|RRA"),
  (0x1182c, "DOGRA VOWEL SIGN ", "AA|I|II|U|UU|VOCALIC R|aRR|E|AI|O|AU"),
  (0x11837, "DOGRA ", "iANUSVARA|iVISARGA|iVIRAMA|iNUKTA|ABBREVIATIONi"),
  (0x118a0, "WARANG CITI CAPITAL LETTER ", "NGAA|A|WI|YU|YA|YO|II|UU|E|O|ANG|GA|KO|ENY|YUJ|UC|ENN
    ODD|TTE|NUNG|DA|AT|AM|BU|PU|HIYO|HOLO|HORR|HAR|SSUU|SII|VIYO"),
  (0x118c0, "WARANG CITI SMALL LETTER ", "NGAA|A|WI|YU|YA|YO|II|UU|E|O|ANG|GA|KO|ENY|YUJ|UC|ENN|ODD
    TTE|NUNG|DA|AT|AM|BU|PU|HIYO|HOLO|HORR|HAR|SSUU|SII|VIYO"),
  (0x118e0, "WARANG CITI DIGIT ", "ZERO|x|y|p|FOUR|FIVE|SIX|SEVEN|EIGHT|NINE"),
  (0x118ea, "WARANG CITI NUMBER ", "TEN|TWENTY|THIRTY|FORTY|FIFTY|SIXTY|SEVENTY|EIGHTY|NINETY"),
  (0x118ff, "", "WARANG CITI OM"),
  (0x11900, "DIVES AKURU LETTER ", "A|AA|I|II|U|UU|E|||O|||KA|KHA|GA|GHA|NGA|CA|CHA|JA||NYA|TTA||DDA
    DDHA|NNA|TA|THA|DA|DHA|NA|PA|PHA|BA|BHA|MA|YA|YYA|RA|LA|VA|SHA|SSA|SA|HA|LLA|ZA"),
  (0x11930, "DIVES AKURU VOWEL SIGN ", "AA|I|II|U|UU|E||AI|O"),
  (0x1193b, "DIVES AKURU ", "iANUSVARA|iCANDRABINDU|iHALANTA|VIRAMA|PREFIXED NASALi|MEDIAL YA
    INITIAL RA|MEDIALa|iNUKTA|lDANDA|GAP FILLER|END OF TEXTu"),
  (0x11950, "DIVES AKURU DIGIT ", "ZERO|x|y|p|FOUR|FIVE|SIX|SEVEN|EIGHT|NINE"),
  (0x119a0, "NANDINAGARI LETTER ", "A|AA|I|II|U|UU|VOCALIC R|aRR|||E|AI|O|AU|KA|KHA|GA|GHA|NGA|CA
    CHA|JA|JHA|NYA|TTA|TTHA|DDA|DDHA|NNA|TA|THA|DA|DHA|NA|PA|PHA|BA|BHA|MA|YA|RA|LA|VA|SHA|SSA|SA|HA
    LLA|RRA"),
  (0x119d1, "NANDINAGARI VOWEL SIGN ", "AA|I|II|U|UU|VOCALIC R|aRR|||E|AI|O|AU"),
  (0x119de, "NANDINAGARI ", "iANUSVARA|iVISARGA|iVIRAMA|iAVAGRAHA|iSIDDHAM|HEADSTROKE
    VOWELiPRISHTHAMATRA E"),
  (0x11a00, "", "ZANABAZAR SQUAREeA"),
  (0x11a01, "ZANABAZAR SQUARE VOWEL ", "iI|iUE|iU|iE|iOE|iO|iAI|iAU|iREVERSED I|LENGTHu"),
  (0x11a0b, "ZANABAZAR SQUARE LETTER ", "KA|KHA|GA|GHA|NGA|CA|CHA|JA|NYA|TTA|TTHA|DDA|DDHA|NNA|TA
    THA|DA|DHA|NA|PA|PHA|BA|BHA|MA|TSA|TSHA|DZA|DZHA|ZHA|ZA|-A|YA|RA|LA|VA|SHA|SSA|SA|HA|KSSA"),
  (0x11a33, "ZANABAZAR SQUARE ", "sCONSONANTu|iVIRAMA|iCANDRABINDU|bhORNAMENT|iCANDRAb|iANUSVARA
    iVISARGA|CLUSTER-INITIALeRA|CLUSTER-FINALeYA|bRA|bLA|bVA|INITIAL HEADu|CLOSINGb|uTSHEG|uSHAD
    ulSHAD|uLONG TSHEG|INITIAL DOUBLE-LINED HEADu|CLOSINGc|SUBJOINER"),
  (0x11a50, "", "SOYOMBOeA"),
  (0x11a51, "SOYOMBO VOWEL SIGN ", "I|UE|U|E|O|OE|AI|AU|VOCALIC R|aL"),
  (0x11a5b, "", "SOYOMBO VOWEL LENGTHu"),
  (0x11a5c, "SOYOMBO LETTER ", "KA|KHA|GA|GHA|NGA|CA|CHA|JA|JHA|NYA|TTA|TTHA|DDA|DDHA|NNA|TA|THA|DA
    DHA|NA|PA|PHA|BA|BHA|MA|TSA|TSHA|DZA|ZHA|ZA|-A|YA|RA|LA|VA|SHA|SSA|SA|HA|KSSA"),
  (0x11a84, "SOYOMBO SIGN ", "JIHVAMULIYA|UPADHMANIYA"),
  (0x11a86, "SOYOMBO CLUSTER-INITIAL LETTER ", "RA|LA|SHA|SA"),
  (0x11a8a, "SOYOMBO FINAL CONSONANT SIGN ", "G|K|NG|D|N|B|M|R|L|SH|S|-A"),
  (0x11a96, "SOYOMBO ", "iANUSVARA|iVISARGA|GEMINATIONu|SUBJOINER|uTSHEG|uSHAD|ulSHAD|uPLUTA
    HEADuhMOON AND SUN AND TRIPLE FLAME|cdFLAME|bd|TERMINAL MARK-1|aMARK-2"),
  (0x11ab0, "CANADIAN SYLLABICS NATTILIK ", "HI|HII|HO|HOO|HA|HAA|SHRI|SHRII|SHRO|SHROO|SHRA
    SHRAA"),
  (0x11abc, "CANADIAN SYLLABICS ", "SPE|SPI|SPO|SPA"),
  (0x11ac0, "PAU CIN HAU LETTER ", "PA|KA|LA|MA|DA|ZA|VA|NGA|HA|GA|KHA|SA|BA|CA|TA|THA|NA|PHA|RA|FA
    CHA|A|E|I|O|U|UA|IA"),
  (0x11adc, "PAU CIN HAU LETTER FINAL ", "P|K|T|M|N|L|W|NG|Y"),
  (0x11ae5, "PAU CIN HAU ", "RISING TONE LONG|b|SANDHI GLOTTAL STOP|RISING TONE LONGs|bs
    SANDHI GLOTTAL STOPs|aTONE LONG|b|bLONGs|bs|MID-LEVELa|GLOTTAL STOP VARIANT|MID-LEVEL TONE LONGs
    bs|LOW-FALLINGaLONG|b|GLOTTAL STOP|LOW-FALLING TONE LONGs|bs|GLOTTAL STOPs"),
  (0x11c00, "BHAIKSUKI LETTER ", "A|AA|I|II|U|UU|VOCALIC R|aRR|aL||E|AI|O|AU|KA|KHA|GA|GHA|NGA|CA
    CHA|JA|JHA|NYA|TTA|TTHA|DDA|DDHA|NNA|TA|THA|DA|DHA|NA|PA|PHA|BA|BHA|MA|YA|RA|LA|VA|SHA|SSA|SA
    HA"),
  (0x11c2f, "BHAIKSUKI VOWEL SIGN ", "AA|I|II|U|UU|VOCALIC R|aRR|aL||E|AI|O|AU"),
  (0x11c3c, "BHAIKSUKI ", "iCANDRABINDU|iANUSVARA|iVISARGA|iVIRAMA|iAVAGRAHA|DANDA|lDANDA
    WORD SEPARATOR|GAP FILLER-1|aFILLER-2"),
  (0x11c50, "BHAIKSUKI DIGIT ", "ZERO|x|y|p|FOUR|FIVE|SIX|SEVEN|EIGHT|NINE"),
  (0x11c5a, "BHAIKSUKI NUMBER ", "x|y|p|FOUR|FIVE|SIX|SEVEN|EIGHT|NINE|TEN|TWENTY|THIRTY|FORTY|FIFTY
    SIXTY|SEVENTY|EIGHTY|NINETY"),
  (0x11c6c, "", "BHAIKSUKI HUNDREDS UNITu||||MARCHEN HEADu|auSHAD"),
  (0x11c72, "MARCHEN LETTER ", "KA|KHA|GA|NGA|CA|CHA|JA|NYA|TA|THA|DA|NA|PA|PHA|BA|MA|TSA|TSHA|DZA
    WA|ZHA|ZA|-A|YA|RA|LA|SHA|SA|HA|A"),
  (0x11c92, "MARCHEN SUBJOINED LETTER ", "KA|KHA|GA|NGA|CA|CHA|JA|NYA|TA|THA|DA|NA|PA|PHA|BA|MA|TSA
    TSHA|DZA|WA|ZHA|ZA||YA|RA|LA|SHA|SA|HA|A"),
  (0x11cb0, "MARCHEN VOWEL SIGN ", "AA|I|U|E|O"),
  (0x11cb5, "MARCHEN SIGN ", "ANUSVARA|CANDRABINDU"),
  (0x11d00, "MASARAM GONDI LETTER ", "A|AA|I|II|U|UU|E||AI|O||AU|KA|KHA|GA|GHA|NGA|CA|CHA|JA|JHA|NYA
    TTA|TTHA|DDA|DDHA|NNA|TA|THA|DA|DHA|NA|PA|PHA|BA|BHA|MA|YA|RA|LA|VA|SHA|SSA|SA|HA|LLA|KSSA|JNYA
    TRA"),
  (0x11d31, "MASARAM GONDI VOWEL SIGN ", "AA|I|II|U|UU|VOCALIC R||||E||AI|O||AU"),
  (0x11d40, "MASARAM GONDI ", "iANUSVARA|iVISARGA|iNUKTA|iCANDRA|iHALANTA|VIRAMA|REPHA|RA-KARA"),
  (0x11d50, "MASARAM GONDI DIGIT ", "ZERO|x|y|p|FOUR|FIVE|SIX|SEVEN|EIGHT|NINE"),
  (0x11d60, "GUNJALA GONDI LETTER ", "A|AA|I|II|U|UU||EE|AI||OO|AU|YA|VA|BA|BHA|MA|KA|KHA|TA|THA|LA
    GA|GHA|DA|DHA|NA|CA|CHA|TTA|TTHA|LLA|JA|JHA|DDA|DDHA|NGA|PA|PHA|HA|RA|SA"),
  (0x11d8a, "GUNJALA GONDI VOWEL SIGN ", "AA|I|II|U|UU||EE|AI||OO|AU"),
  (0x11d95, "GUNJALA GONDI ", "iANUSVARA|iVISARGA|VIRAMA|OM"),
  (0x11da0, "GUNJALA GONDI DIGIT ", "ZERO|x|y|p|FOUR|FIVE|SIX|SEVEN|EIGHT|NINE"),
  (0x11ee0, "MAKASAR LETTER ", "KA|GA|NGA|PA|BA|MA|TA|DA|NA|CA|JA|NYA|YA|RA|LA|VA|SA|A"),
  (0x11ef2, "MAKASAR ", "ANGKA|VOWELiI|bU|bE|bO|PASSIMBANG|END OF SECTION"),
  (0x11fb0, "", "LISUeYHA"),
  (0x11fc0, "TAMIL FRACTION ", "xTHREE-HUNDRED-AND-TWENTIETH|xONE-HUNDRED-AND-SIXTIETH|xEIGHTIETH
    xSIXTY-FOURTH|xFORTIETH|xTHIRTY-SECOND|pEIGHTIETHS|pSIXTY-FOURTHS|xTWENTIETH|xSIXTEENTH-1
    xSIXTEENTH-2|xTENTH|xEIGHTH|pTWENTIETHS|pSIXTEENTHS|xFIFTH|xQUARTER|xHALF-1|xHALF-2|pQUARTERS
    DOWNSCALING FACTOR KIIZH"),
  (0x11fd5, "TAMIL SIGN ", "NEL|CEVITU|AAZHAAKKU|UZHAKKU|MUUVUZHAKKU|KURUNI|PATHAKKU|MUKKURUNI|KAACU
    PANAM|PON|VARAAKAN|PAARAM|KUZHI|VELI"),
  (0x11fe4, "TAMIL ", "WET CULTIVATIONi|DRYb|LANDi|SALT PANi|TRADITIONAL CREDITi|aNUMBERi|CURRENTi
    AND ODDi|SPENTi|TOTALi|IN POSSESSIONi|STARTING FROMi|iMUTHALIYA|iVAKAIYARAA"),
  (0x11fff, "", "TAMIL PUNCTUATION END OF TEXT"),
  (0x12000, "CUNEIFORM SIGN ", "A|aTIMES A|bBAD|bGAN2 TENU|bHA|bIGI|bLAGAR GUNU|bMUSH|bSAG|A2|AB
    aTIMES ASH2|bDUN3 GUNU|bGAL|bGAN2 TENU|bHA|bIGI GUNU|bIMIN|bLAGAB|bSHESH|bU PLUS U PLUS U|aGUNU
    AB2|aTIMES BALAG|bGAN2 TENU|bME PLUS EN|bSHA3|bTAK4|AD|AK|aTIMES ERIN2|bSHITA PLUS GISH|AL
    aTIMES AL|bDIM2|bGISH|bHA|bKAD3|bKI|bSHE|bUSH|ALAN|ALEPH|AMAR|aTIMES SHE|AN|aOVER AN|apTIMES
    aPLUS NAGA OPPOSING AN PLUS NAGA|cSQUARED|ANSHE|APIN|ARAD|aTIMES KUR|ARKAB|ASAL2|ASH|aZIDA TENU
    aKABAa|aOVER ASH TUG2 OVER TUG2 TUG2 OVER TUG2 PAP|cOVER ASH|adCROSSING ASH OVER ASH OVER ASH
    ASH2|ASHGAB|BA|BAD|BAG3|BAHAR2|BAL|aOVER BAL|BALAG|BAR|BARA2|BI|aTIMES A|bGAR|bIGI GUNU|BU
    aOVER BU AB|cUN|aCROSSINGa|BULUG|aOVER BULUG|BUR|BUR2|DA|DAG"),
  (0x12057, "CUNEIFORM SIGN DAG KISIM5 TIMES ", "A PLUS MASH|AMAR|BALAG|BI|GA|aPLUS MASH|GI|GIR2|GUD
    HA|IR|aPLUS LU|KAK|LA|LU|aPLUS MASH2|LUM|NE|PAP PLUS PAP|SI|TAK4|U2 PLUS GIR2|USH"),
  (0x1206e, "CUNEIFORM SIGN ", "DAM|DAR|DARA3|DARA4|DI|DIB|DIM|aTIMES SHE|DIM2|DIN
    aKASKAL U GUNU DISH|DISH|DU|aOVER DU|aGUNU|aSHESHIG|DUB|aTIMES ESH2|DUB2|DUG|DUGUD|DUH|DUN|DUN3
    aGUNU|bGUNU|DUN4|DUR2|E|aTIMES PAP|aOVER E NUN OVER NUN|E2|aTIMES A PLUS HA PLUS DA|bGAR|bMI
    bSAL|bSHE|bU|EDIN|EGIR|EL|EN|aTIMES GAN2|cTENU|bME|aCROSSING EN|aOPPOSINGa|aSQUARED|EREN|ERIN2
    ESH2|EZEN"),
  (0x120a2, "CUNEIFORM SIGN EZEN TIMES ", "A|aPLUS LAL|cTIMES LAL|AN|BAD|DUN3 GUNU|bGUNU|HA|aGUNU
    IGIa|KASKAL|aSQUARED|KU3|LA|LAL TIMES LAL|LI|LU|U2|UD"),
  (0x120b5, "CUNEIFORM SIGN ", "GA|aGUNU|GA2"),
  (0x120b8, "CUNEIFORM SIGN GA2 TIMES ", "A PLUS DA PLUS HA|bHA|bIGI|AB2 TENU PLUS TAB|AN|ASH
    ASH2 PLUS GAL|BAD|BAR PLUS RA|BUR|aPLUS RA|DA|DI|DIM TIMES SHE|DUB|EL|aPLUS LA|EN
    aTIMES GAN2 TENU|GAN2 TENU|GAR|GI|GI4|aPLUS A|GIR2aSU|HAaLU PLUS ESH2|HAL|aPLUS LA|HIaLI|HUB2
    IGI GUNU|ISH PLUS HU PLUS ASH|KAK|KASKAL|KID|aPLUS LAL|KU3aAN|LA|ME PLUS EN|MI|NUN|aOVER NUN|PA
    SAL|SAR|SHE|aPLUS TUR|SHID|SUM|TAK4|U|UD|aPLUS DU"),
  (0x120ed, "CUNEIFORM SIGN ", "GA2 OVER GA2|GABA|aCROSSING GABA|GAD|aOVER GAD GAR OVER GAR|GAL
    aGAD OVER GAD GAR OVER GAR|GALAM|GAM|GAN|GAN2|aTENU|aOVER GAN2|aCROSSINGa|GAR|GAR3|GASHAN
    GESHTIN|aTIMES KUR|GI|aTIMES E|bU|aCROSSING GI|GI4|aOVER GI4|aCROSSINGa|GIDIM|GIR2|aGUNU|GIR3
    aTIMES A PLUS IGI|bGAN2 TENU|bIGI|bLU PLUS IGI|bPA|GISAL|GISH|aCROSSING GISH|aTIMES BAD|bTAK4
    aTENU|GU|aCROSSING GU|GU2|aTIMES KAK|cTIMES IGI GUNU|bNUN|bSAL PLUS TUG2|aGUNU|GUD
    aTIMES A PLUS KUR|bKUR|aOVER GUD LUGAL|GUL|GUM|aTIMES SHE|GUR|GUR7|GURUN|GURUSH|HA|aTENU|aGUNU
    HAL|HI|aTIMES ASH|bASH2|bBAD|bDISH|bGAD|bKIN|bNUN|bSHE|bU|HU|HUB2|aTIMES AN|bHAL|bKASKAL|bLISH
    bUD|HUL2|I|aA|IB|IDIM|aOVER IDIM BUR|cSQUARED|IG|IGI|aDIB|aRI
    aOVER IGI SHIR OVER SHIR UD OVER UD|aGUNU|IL|aTIMES GAN2 TENU|IL2|IM|aTIMES TAK4|aCROSSING IM
    aOPPOSINGa|aSQUARED|IMIN|IN|IR|ISH|KA"),
  (0x12158, "CUNEIFORM SIGN KA TIMES ", "A|AD|aPLUS KU3|ASH2|BAD|BALAG|BAR|BI|ERIN2|ESH2|GA|GAL
    GAN2 TENU|GAR|aPLUS SHA3 PLUS A|GI|GIR2|GISH PLUS SAR|aCROSSING GISH|GU|GUR7|IGI|IM|KAK|KI|KID
    LI|LU|ME|aPLUS DU|bGI|bTE|MI|aPLUS NUNUZ|NE|NUN|PI|RU|SA|SAR|SHA|SHE|SHID|SHU|SIG|SUHUR|TAR|U|U2
    UD|UMUM TIMES PA|USH|ZI"),
  (0x1218d, "CUNEIFORM SIGN ", "KA2|aCROSSING KA2|KAB|KAD2..5|KAD5 OVER KAD5|KAK|aTIMES IGI GUNU|KAL
    aTIMES BAD|aCROSSING KAL|KAM2|KAM4|KASKAL|aLAGAB TIMES U OVER LAGAB TIMES U
    aOVER KASKAL LAGAB TIMES U OVER LAGAB TIMES U|KESH2|KI|aTIMES BAD|bU|bUD|KID|KIN|KISAL|KISH
    KISIM5|aOVER KISIM5|KU|aOVER HI TIMES ASH2 KU OVER HI TIMES ASH2|KU3|KU4|aVARIANT FORM|KU7|KUL
    aGUNU|KUN|KUR|aOPPOSING KUR|KUSHU2|KWU318|LA|LAGAB"),
  (0x121b9, "CUNEIFORM SIGN LAGAB TIMES ", "A|aPLUS DA PLUS HA|bGAR|bLAL|AL|AN|ASH ZIDA TENU|BAD|BI
    DAR|EN|GA|GAR|GUD|aPLUS GUD|HA|HAL|HI TIMES NUN|IGI GUNU|IM|aPLUS HA|bLU|KI|KIN|KU3|KUL
    aPLUS HI PLUS A|LAGAB|LISH|LU|LUL|ME|aPLUS EN|MUSH|NE|SHE PLUS SUM|SHITAaGISH PLUS ERIN2|cTENU
    SHU2|aPLUS SHU2|SUM|TAG|TAK4|TE PLUS A PLUS SU PLUS NA|U|aPLUS A|bU PLUS U|U2aASH|UD|USH"),
  (0x121eb, "CUNEIFORM SIGN ", "LAGAB SQUARED|LAGAR|aTIMES SHE|cPLUS SUM|aGUNU|bOVER LAGAR GUNU SHE
    LAHSHU|LAL|aTIMES LAL|LAM|aTIMES KUR|cPLUS RU|LI|LIL|LIMMU2|LISH|LU|aTIMES BAD|LU2"),
  (0x121fe, "CUNEIFORM SIGN LU2 TIMES ", "AL|BAD|ESH2|aTENU|GAN2a|HI TIMES BAD|IM|KAD2|KAD3
    aPLUS ASH|KI|LA PLUS ASH|LAGAB|ME PLUS EN|NE|NU|SI PLUS ASH|SIK2aBU|TUG2"),
  (0x12211, "CUNEIFORM SIGN ", "LU2 TENU|aCROSSING LU2|aOPPOSINGa|aSQUARED|aSHESHIG|LU3|LUGAL
    aOVER LUGAL|aOPPOSINGa|aSHESHIG|LUH|LUL|LUM|aOVER LUM|cGAR OVER GAR|MA|aTIMES TAK4|aGUNU|MA2|MAH
    MAR|MASH|MASH2|ME|MES|MI|MIN|MU|aOVER MU|MUG|aGUNU|MUNSUB|MURGU2|MUSH|aTIMES A|bKUR|bZA
    aOVER MUSH|cTIMES A PLUS NA|aCROSSINGa|MUSH3|aTIMES A|cPLUS DI|bDI|aGUNU|NA|NA2|NAGA|aINVERTED
    aTIMES SHU TENU|aOPPOSING NAGA|NAGAR|NAM NUTILLU|a|NAM2|NE|aTIMES A|bUD|aSHESHIG|NI|aTIMES E|NI2
    NIM|aTIMES GAN2 TENU|bGAR PLUS GAN2 TENU|NINDA2"),
  (0x12253, "CUNEIFORM SIGN NINDA2 TIMES ", "AN|ASH|aPLUS ASH|GUD|ME PLUS GAN2 TENU|NE|NUN|SHE
    aPLUS A AN|bASH|cPLUS ASH|U2b|USH"),
  (0x12260, "CUNEIFORM SIGN ", "NISAG|NU|NU11|NUN|aLAGAR TIMES GAR|cMASH|cSAL
    dOVER NUN LAGAR TIMES SAL|cUSH|aTENU|aOVER NUN|aCROSSINGa|cLAGAR OVER LAGAR|NUNUZ"),
  (0x1226e, "CUNEIFORM SIGN NUNUZ AB2 TIMES ", "ASHGAB|BI|DUG|GUD|IGI GUNU|KAD3|LA|NE|SILA3|U2"),
  (0x12278, "CUNEIFORM SIGN ", "NUNUZ KISIM5 TIMES BI|dU|PA|PAD|PAN|PAP|PESH2|PI|aTIMES A|bAB|bBI
    bBU|bE|bI|bIB|bU|bU2|aCROSSING PI|PIRIG|aTIMES KAL|bUD|bZA|aOPPOSING PIRIG|RA|RAB|RI|RU|SA
    SAG NUTILLU|a"),
  (0x12296, "CUNEIFORM SIGN SAG TIMES ", "A|DU|DUB|HA|KAK|KUR|LUM|MI|NUN|SAL|SHID|TAB|U2|UB|UM|UR
    USH"),
  (0x122a7, "CUNEIFORM SIGN ", "SAG OVER SAG|aGUNU|SAL|aLAGAB TIMES ASH2|SANGA2|SAR|SHA|SHA3
    aTIMES A|bBAD|bGISH|bNE|bSHU2|bTUR|bU|cPLUS A|SHA6|SHAB6|SHAR2|SHE|aHU
    aOVER SHE GAD OVER GAD GAR OVER GAR|cTABaTABc|SHEG9|SHEN|SHESH|SHESH2|SHESHLAM|SHID|aTIMES A|bIM
    SHIM"),
  (0x122c7, "CUNEIFORM SIGN SHIM TIMES ", "A|BAL|BULUG|DIN|GAR|IGI|aGUNU|KUSHU2|LUL|MUG|SAL"),
  (0x122d2, "CUNEIFORM SIGN ", "SHINIG|SHIR|aTENU|aOVER SHIR BUR OVER BUR|SHITA|SHU
    aOVER INVERTED SHU|SHU2|SHUBUR|SI|aGUNU|SIG|SIG4|aOVER SIG4 SHU2|SIK2|SILA3|SU|aOVER SU|SUD|SUD2
    SUHUR|SUM|SUMASH|SUR|SUR9|TA|aASTERISK|aTIMES HI|bMI|aGUNU|TAB
    aOVER TAB NI OVER NI DISH OVER DISH|aSQUARED|TAG|aTIMES BI|bGUD|bSHE|bSHU|bTUG2|bUD|TAK4|TAR|TE
    aGUNU|TI|aTENU|TIL|TIR|aTIMES TAK4|aOVER TIR|cGAD OVER GAD GAR OVER GAR|TU|TUG2|TUK|TUM|TUR
    aOVER TUR ZA OVER ZA|U|aGUD|aU U|aOVERaPA OVER PA GAR OVER GAR|cSURaSUR
    cU REVERSED OVER U REVERSED|U2|UB|UD|aKUSHU2|aTIMES BAD|bMI|bU PLUS U PLUS U|cdGUNU|aGUNU
    aSHESHIG|bTIMES BAD|UDUG|UM|aTIMES LAGAB|bME PLUS DA|bSHA3|bU|UMBIN|UMUM|aTIMES KASKAL|bPA|UN
    aGUNU|UR|aCROSSING UR|aSHESHIG|UR2|aTIMES A PLUS HA|dNA|bAL|bHA|bNUN|bU2|cPLUS ASH|dBI|UR4|URI
    URI3|URU"),
  (0x12338, "CUNEIFORM SIGN URU TIMES ", "A|ASHGAB|BAR|DUN|GA|GAL|GAN2 TENU|GAR|GU|HA|IGI|IM|ISH|KI
    LUM|MIN|PA|SHE|SIG4|TU|U PLUS GUD|UD|URUDA"),
  (0x1234f, "CUNEIFORM SIGN ", "URUDA|aTIMES U|USH|aTIMES A|bKU|bKUR|bTAK4|USHX|USH2|USHUMX|UTUKI
    UZ3|aTIMES KASKAL|UZU|ZA|aTENU|aSQUARED TIMES KUR|ZAG|ZAMX|ZE2|ZI|aOVER ZI|ZI3|ZIB|aKABA TENU
    ZIG|ZIZ2|ZU|ZU5|aTIMES A|ZUBUR|ZUM|KAP ELAMITE|AB TIMES NUN|AB2aA|AMARaKUG
    DAG KISIM5 TIMES U2 PLUS MASH|DAG3|DISH PLUS SHU|DUB TIMES SHE|EZENaGUD|bSHE
    GA2aAN PLUS KAK PLUS A|bASH2|GE22|GIG|HUSH|KA TIMES ANSHE|bASH3|bGISH|bGUD|bHI TIMES ASH2|bLUM
    bPA|bSHUL|bTU|bUR2|LAGABaGI|LU2 SHESHIG TIMES BAD|aTIMES ESH2 PLUS LAL|bSHU|MESH|MUSH3 TIMES ZA
    NA4|NIN|NIN9|NINDA2 TIMES BAL|bGI|NU11 ROTATED NINETY DEGREES|PESH2 ASTERISK|PIR2
    SAG TIMES IGI GUNU|TI2|UM TIMES ME|U U"),
  (0x12400, "CUNEIFORM NUMERIC SIGN ", "yASH|pa|FOURa|FIVEa|SIXa|SEVENa|EIGHTa|NINEa|pDISH|FOURa
    FIVEa|SIXa|SEVENa|EIGHTa|NINEa|FOUR U|FIVEa|SIXa|SEVENa|EIGHTa|NINEa|xGESH2|ya|pa|FOURa|FIVEa
    SIXa|SEVENa|EIGHTa|NINEa|xGESHU|ya|pa|FOURa|FIVEa|ySHAR2|pa|bVARIANT FORM|FOURa|FIVEa|SIXa
    SEVENa|EIGHTa|NINEa|xSHARU|ya|pa|bVARIANT FORM|FOURa|FIVEa|SHAR2 TIMES GAL PLUS DISH|dMIN|xBURU
    ya|pa|bVARIANT FORM|FOURa|FIVEa|pVARIANT FORM ESH16|cESH21|FOURbLIMMU|cLIMMU4|cLIMMU A|dB
    SIXbASH9|SEVENbIMIN3|cIMIN A|dB|EIGHTbUSSU|cUSSU3|NINEbILIMMU|cILIMMU3|cILIMMU4|cILIMMU A
    yASH TENU|pb|FOURb|FIVEb|SIXb|xBAN2|ya|pa|FOURa|bVARIANT FORM|FIVEa|bVARIANT FORM|NIGIDAMIN
    NIGIDAESH|xESHE3|ya|xTHIRD DISH|yTHIRDSa|FIVE SIXTHSa|xTHIRD VARIANT FORM A|yTHIRDSc|xEIGHTH ASH
    xQUARTERa|OLD ASSYRIANxSIXTH|cQUARTER|xQUARTER GUR|xHALFa|ELAMITExTHIRD|ayTHIRDS|aFORTY|aFIFTY
    FOUR U VARIANT FORM|FIVEc|SIXc|SEVENc|EIGHTc|NINEc"),
  (0x12470, "CUNEIFORM PUNCTUATION SIGN ", "OLD ASSYRIAN WORD DIVIDER|vCOLON|DIAGONALa|aTRICOLON
    aQUADCOLON"),
  (0x12480, "CUNEIFORM SIGN ", "AB TIMES NUN TENU|bSHU2|ADaESH2|BADaDISH TENU|BAHAR2aAB2|bNI|bZA
    BU OVER BU TIMES NA2|DA TIMES TAK4|DAGaKUR|DIMaIGI|bU U U|DIM2aUD"),
  (0x1248d, "CUNEIFORM SIGN DUG TIMES ", "ANSHE|ASH|aATn|DIN|DUN|ERIN2|GA|GI|GIR2 GUNU|GISH|HA|HI
    IGI GUNU|KASKAL|KUR|KUSHU2|aPLUS KASKAL|LAK-020|LAM|aTIMES KUR|LUH PLUS GISH|MASH|MES|MI|NI|PI
    SHE|SI GUNU"),
  (0x124a9, "CUNEIFORM SIGN ", "E2 TIMES KUR|bPAP|ERIN2 X|ESH2 CROSSING ESH2"),
  (0x124ad, "CUNEIFORM SIGN EZEN SHESHIG TIMES ", "ASH|HI|IGI GUNU|LA|LAL|ME|MES|SU"),
  (0x124b5, "", "CUNEIFORMiEZEN TIMES SU"),
  (0x124b6, "CUNEIFORM SIGN GA2 TIMES ", "BAHAR2|DIM GUNU|DUG TIMES IGI GUNU|bKASKAL|EREN|GA
    GAR PLUS DI|bNE|HAaA|KUSHU2aKASKAL|LAM|aTIMES KUR|LUH|MUSH|NE|aPLUS E2|bGI|SHIM|ZIZ2"),
  (0x124c9, "CUNEIFORM SIGN ", "GABA ROTATED NINETY DEGREES|GESHTIN TIMES U|GISHaGISH CROSSING GISH
    GU2aIGI GUNU|GUD PLUS GISH TIMES TAK4|HA TENU GUNU|HI TIMES ASH OVER HI TIMES ASH|KAaBU|bKA
    bU U U|bUR|LAGABaZU OVER ZU"),
  (0x124d5, "CUNEIFORM SIGN LAK-", "003|021|025|030|050|051|062|079 OVER LAK-079 GUNU|080
    081 OVER LAK-081|092|130|142|210|219|220|225|228|238|265|266|343|347|348|383|384|390|441|449
    aTIMES GU|bIGI|bPAP PLUS LU3|dPAP PLUS LU3|bU2aBA|450|457|470|483|490|492|493|495|550|608|617
    aTIMES ASH|bBAD|bDUN3 GUNU GUNU|bKU3|bLA|bTAR|bTE|bU2|bUD|bURUDA|636|648"),
  (0x1250e, "CUNEIFORM SIGN LAK-648 TIMES ", "DUB|GA|IGI|aGUNU|NI|PAP PLUS PAP PLUS LU3|SHESHaKI|UD
    URUDA"),
  (0x12517, "CUNEIFORM SIGN ", "LAK-724|LAK-749|LU2 GUNU TIMES ASH|aTIMES DISH|bHAL|bPAP
    cPLUS PAP PLUS LU3|bTAK4|MI PLUS ZA7|MUSH OVER MUSH TIMES GA|dKAK"),
  (0x12522, "CUNEIFORM SIGN NINDA2 TIMES ", "DIM GUNU|GISH|GUL|HI|KESH2|LAK-050|MASH|PAP PLUS PAP|U
    aPLUS U|URUDA"),
  (0x1252d, "CUNEIFORM SIGN ", "SAG GUNU TIMES HA|aTIMES EN|bSHE ATn|bTAK4|SHA6 TENU|SHE OVER SHE
    aPLUS HUB2|bNAM2|bSAR|SHU2aDUG TIMES NI|bE2aAN|SI TIMES TAK4|TAK4 PLUS SAG|TUM TIMES GAN2 TENU
    bpDISH|UR2 INVERTED|aTIMES UD|URUaDARA3|bLAK-668|bLU3|ZA7|ZU OVER ZU PLUS SAR
    ZU5 TIMESpDISH TENU"),
  (0x12f90, "CYPRO-MINOAN SIGN ", "CM001|CM002|CM004..012|CM012B|CM013|CM015|CM017|CM019|CM021
    CM023..030|CM033..041|CM044|CM046|CM047|CM049..056|CM058..064|CM066..075|CM075B|CM076|CM078..092
    CM094..105|CM107..110|CM112|CM114|CM301|CM302"),
  (0x13000, "EGYPTIAN HIEROGLYPH ", "A001..005|A005A|A006|A006A|A006B|A007..014|A014A|A015..017
    A017A|A018..032|A032A|A033..040|A040A|A041|A042|A042A|A043|A043A|A044|A045|A045A|A046..070
    B001..005|B005A|B006..009|C001|C002|C002A..C|C003..010|C010A|C011..024|D001..008|D008A|D009..027
    D027A|D028..031|D031A|D032..034|D034A|D035..046|D046A|D047|D048|D048A|D049|D050|D050A..I|D051
    D052|D052A|D053|D054|D054A|D055..067|D067A..H|E001..008|E008A|E009|E009A|E010..016|E016A|E017
    E017A|E018..020|E020A|E021..028|E028A|E029..034|E034A|E036..038|F001|F001A|F002..013|F013A
    F014..021|F021A|F022..024"),
  (0x13119, "EGYPTIAN HIEROGLYPH ", "F025..031|F031A|F032..037|F037A|F038|F038A|F039..045|F045A|F046
    F046A|F047|F047A|F048..051|F051A..C|F052|F053|G001..006|G006A|G007|G007A|G007B|G008..011|G011A
    G012..020|G020A|G021..026|G026A|G027..036|G036A|G037|G037A|G038..043|G043A|G044|G045|G045A
    G046..054|H001..006|H006A|H007|H008|I001..005|I005A|I006..009|I009A|I010|I010A|I011|I011A
    I012..015|K001..008|L001|L002|L002A|L003..006|L006A|L007|L008|M001|M001A|M001B|M002|M003|M003A
    M004..010|M010A|M011|M012|M012A..H|M013..015|M015A|M016|M016A|M017|M017A|M018..022|M022A|M023
    M024|M024A|M025..028|M028A|M029..031|M031A|M032|M033|M033A|M033B|M034..040|M040A|M041..044
    N001..018|N018A|N018B|N019..025|N025A|N026..033|N033A|N034|N034A|N035|N035A|N036|N037|N037A
    N038..042|NL001..005|NL005A|NL006..017|NL017A|NL018..020|NU001..010|NU010A|NU011|NU011A
    NU012..018|NU018A|NU019..022|NU022A|O001|O001A|O002..005|O005A|O006|O006A..F|O007..010|O010A..C
    O011..019|O019A|O020|O020A|O021..024|O024A|O025|O025A|O026..029|O029A|O030|O030A|O031..033|O033A
    O034..036|O036A..D|O037..050|O050A|O050B|O051|P001|P001A|P002|P003|P003A|P004..011|Q001"),
  (0x132a9, "EGYPTIAN HIEROGLYPH ", "Q002..007|R001|R002|R002A|R003|R003A|R003B|R004..010|R010A
    R011..016|R016A|R017..029|S001|S002|S002A|S003..006|S006A|S007..014|S014A|S014B|S015..017|S017A
    S018..026|S026A|S026B|S027..035|S035A|S036..046|T001..003|T003A|T004..007|T007A|T008|T008A|T009
    T009A|T010|T011|T011A|T012..016|T016A|T017..032|T032A|T033|T033A|T034..036|U001..006|U006A|U006B
    U007..023|U023A|U024..029|U029A|U030..032|U032A|U033..042|V001|V001A..I|V002|V002A|V003..007
    V007A|V007B|V008..011|V011A..C|V012|V012A|V012B|V013..020|V020A..L|V021..023|V023A|V024..028
    V028A|V029|V029A|V030|V030A|V031|V031A|V032|V033|V033A|V034..037|V037A|V038..040|V040A|W001..003
    W003A|W004..009|W009A|W010|W010A|W011..014|W014A|W015..017|W017A|W018|W018A|W019..024|W024A|W025
    X001..004|X004A|X004B|X005|X006|X006A|X007|X008|X008A|Y001|Y001A|Y002..008|Z001|Z002|Z002A..D
    Z003|Z003A|Z003B|Z004|Z004A|Z005|Z005A|Z006..015|Z015A..I|Z016|Z016A..H|AA001..007|AA007A|AA007B
    AA008..032||vJOINER|HORIZONTALa|INSERT AT TOP START|bBOTTOMa|bTOP END|bBOTTOMa|OVERLAY MIDDLE
    BEGIN SEGMENT|ENDa"),
  (0x14400, "ANATOLIAN HIEROGLYPH ", "A001..010|A010A|A011..026|A026A|A027..039|A039A|A040|A041
    A041A|A042..045|A045A|A046|A046A|A046B|A047..066|A066A..C|A067..097|A097A|A098|A098A|A099|A100
    A100A|A101|A101A|A102|A102A|A103|A104|A104A..C|A105|A105A|A105B|A106|A107|A107A..C|A108..110
    A110A|A110B|A111..115|A115A|A116..125|A125A|A126..135|A135A|A136..155"),
  (0x144b7, "ANATOLIAN HIEROGLYPH ", "A156..202|A202A|A202B|A203..207|A207A|A208|A209|A209A
    A210..215|A215A|A216|A216A|A217..227|A227A|A228..267|A267A|A268..289|A289A|A290..294|A294A
    A295..299|A299A|A300..309|A309A|A310..329|A329A|A330|A331|A332A..C|A333..336|A336A..C|A337..359
    A359A|A360..364|A364A|A365..368|A368A|A369..371|A371A|A372..381|A381A|A382|A383 RA OR RI|A383A
    A384..386|A386A|A387..392|A393 EIGHT|A394..409|A410 BEGIN LOGOGRAMu|A410A ENDb|A411..450|A450A
    A451..457|A457A|A458..497|A501..530"),
  (0x16800, "BAMUM LETTER PHASE-A ", "NGKUE MFON|GBIEE FON|PON MFON PIPAEMGBIEE|bPIPAEMBA|NAAa
    SHUENSHUET|TITA MFON|NZAa|SHINDA PA NJI|PONbPIPAEMGBIEE|cPIPAEMBA|MAEMBGBIEE|TU MAEMBA|NGANGU
    MAEMVEUX|MANSUAE|MVEUAENGAM|SEUNYAM|NTOQPEN|KEUKEUTNDA|NKINDI|SUU|NGKUENZEUM|LAPAQ|LET KUT
    NTAP MFAA|MAEKEUP|PASHAE|GHEUAERAE|PAMSHAE|MON NGGEUAET|NZUN MEUT|U YUQ NAE|GHEUAEGHEUAE
    NTAP NTAA|SISA|MGBASA|MEUNJOMNDEUQ|MOOMPUQ|KAFA|PA LEERAEWA|NDAa|PET|MAEMKPEN|NIKA|PUP|TUAEP
    LUAEP|SONJAM|TEUTEUWEN|MAENYI|KET|NDAANGGEUAET|KUOQ|MOOMEUT|SHUM|LOMMAE|FIRI|ROM|KPOQ|SOQ
    MAP PIEET|SHIRAE|NTAP|SHOQ NSHUT YUM|NYIT MONGKEUAEQ|PAARAE|NKAARAE|UNKNOWN|NGGEN|MAESI|NJAM
    MBANYI|NYET|TEUAEN|SOT|PAAM|NSHIEE|MAEM|NYI|KAQ|NSHA|VEE|LU|NEN|NAQ|MBAQ"),
  (0x16857, "BAMUM LETTER PHASE-B ", "NSHUET|TU MAEMGBIEE|SIEE|SET TU|LOM NTEUM|MBA MAELEE|KIEEM
    YEURAE|MBAARAE|KAM|PEESHI|YAFU LEERAEWA|LAM NSHUT NYAM|NTIEE SHEUOQ|NDU NJAA|GHEUGHEUAEM|PIT
    TU NSIEE|SHET NJAQ|SHEUAEQTU|MFON TEUAEQ|MBIT MBAAKET|NYI NTEUM|KEUPUQ|GHEUGHEN|KEUYEUX|LAANAE
    PARUM|VEUM|NGKINDI MVOP|NGGEU MBU|WUAET|SAKEUAE|TAAM|MEUQ|NGGUOQ|aLARGE|MFIYAQ|SUE|MBEURI
    MONTIEEN|NYAEMAE|PUNGAAM|MEUT NGGEET|FEUX|MBUOQ|FEE|KEUAEM|MA NJEUAENA|aNJUQA|LET|NGGAAM|NSEN|MA
    KIQ|NGOM"),
  (0x1688f, "BAMUM LETTER PHASE-C ", "NGKUE MAEMBA|NZA|YUM|WANGKUOQ|NGGEN|NDEUAEREE|NGKAQ|GHARAE
    MBEEKEET|GBAYI|NYIR MKPARAQ MEUN|NTU MBIT|MBEUM|PIRIEEN|NDOMBU|MBAA CABBAGE-TREE|KEUSHEUAEP|GHAP
    KEUKAQ|YU MUOMAE|NZEUM|MBUE|NSEUAEN|MBIT|YEUQ|KPARAQ|KAA|SEUX|NDIDA|TAASHAE|NJUEQ|TITA YUE|SUAET
    NGGUAEN NYAM|VEUX|NANSANAQ|MA KEUAERI|NTAA|NGGUON|LAP|MBIRIEEN|MGBASAQ|NTEUNGBA|TEUTEUX|NGGUM
    FUE|NDEUT|NSA|NSHAQ|BUNG|VEUAEPEN|MBERAE|RU|NJAEM|LAM|TITUAEP|NSUOT NGOM|NJEEEE|KET|NGGU|MAESI
    MBUAEM|LU|KUT|NJAM|NGOM|WUP|NGGUEET|NSOM|NTEN|KUOP NKAARAE|NSUN|NDAM|MA NSIEE|YAA|NDAP|SHUEQ
    SETFON|MBI|MAEMBA|MBANYI|KEUSEUX|MBEUX|KEUM|MBAA PICKET|YUWOQ|NJEUX|MIEE|MUAE|SHIQ|KEN LAW
    aFATIGUE|NGAQ|NAQ|LIQ|PIN|PEN|TET"),
  (0x168f1, "BAMUM LETTER PHASE-D ", "MBUO|WAP|NJI|MFON|NJIEE|LIEE|NJEUT|NSHEE|NGGAAMAE|NYAM|WUAEN
    NGKUN|SHEE|NGKAP|KEUAETMEUN|TEUT|SHEUAE|NJAP|SUE|KET|YAEMMAE|KUOM|SAP|MFEUT|NDEUX|MALEERI|MEUT
    SEUAEQ|YEN|NJEUAEM|KEUOT MBUAE|NGKEURI|TU|GHAA|NGKYEE|FEUFEUAET|NDEE|MGBOFUM|LEUAEP|NDON|MONI
    MGBEUN|PUUT|MGBIEE|MFO|LUM|NSIEEP|MBAA|KWAET|NYET|TEUAEN|SOT|YUWOQ|KEUM|RAEM|TEEEE|NGKEUAEQ
    MFEUAE|NSIEET|KEUP|PIP|PEUTAE|NYUE|LET|NGGAAM|MFIEE|NGGWAEN|YUOM|PAP|YUOP|NDAM|NTEUM|SUAE|KUN
    NGGEUX|NGKIEE|TUOT|MEUN|KUQ|NSUM|TEUN|MAENJET|NGGAP|LEUM|NGGUOM|NSHUT|NJUEQ|GHEUAE|KU|REN OLD
    TAE|TOQ|NYI|RII|LEEEE|MEEEE|M|SUU|MU|SHII|SHEUX|KYEE|NU|SHU|NTEE|PEE|NI|SHOQ|PUQ|MVOP|LOQ
    REN MUCH|TI|NTUU|MBAA SEVEN|SAQ|FAA"),
  (0x16966, "BAMUM LETTER PHASE-E ", "NDAP|TOON|MBEUM|LAP|VOM|LOON|PAA|SOM|RAQ|NSHUOP|NDUN|PUAE|TAM
    NGKA|KPEUX|WUO|SEE|NGGEUAET|PAAM|TOO|KUOP|LOM|NSHIEE|NGOP|MAEM|NGKEUX|NGOQ|NSHUE|RIMGBA|NJEUX
    PEEM|SAA|NGGURAE|MGBA|GHEUX|NGKEUAEM|NJAEMLI|MAP|LOOT|NGGEEEE|NDIQ|TAEN NTEUM|SET|PUM
    NDAA SOFTNESS|NGGUAESHAE NYAM|YIEE|GHEUN|TUAE|YEUAE|PO|TUMAE|KEUAE|SUAEN|TEUAEQ|VEUAE|WEUX|LAAM
    PU|TAAQ|GHAAMAE|NGEUREUT|SHEUAEQ|MGBEN|MBEE|NZAQ|NKOM|GBET|TUM|KUET|YAP|NYI CLEAVER|YIT|MFEUQ
    NDIAQ|PIEEQ|YUEQ|LEUAEM|FUE|GBEUX|NGKUP|KET|MAE|NGKAAMI|GHET|FA|NTUM|PEUT|YEUM|NGGEUAE
    NYI BETWEEN|NZUQ|POON|MIEE|FUET|NAE|MUAE|GHEUAE|FU I|MVI|PUAQ|NGKUM|KUT|PIET|NTAP|YEUAET|NGGUP
    PA PEOPLE|FU CALL|FOM|NJEE|A|TOQ|O|I|LAQ|PA PLURAL|TAA|TAQ|NDAA MY HOUSE|SHIQ|YEUX|NGUAE|YUAEN
    YOQ SWIMMING|aCOVER|YUQ|YUN|KEUX|PEUX|NJEE EPOCH|PUE|WUE|FEE|VEE|LU|MI|REUX|RAE|NGUAET|NGA|SHO
    SHOQ|FU REMEDY|NA|PI|LOQ|KO|MEN|MA|MAQ|TEU|KI|MON|TEN|FAQ|GHOM"),
  (0x16a03, "BAMUM LETTER PHASE-F ", "KA|U|KU|EE|REE|TAE|NYI|LA|RII|RIEE|MEEEE|TAA|NDAA|NJAEM|M|SUU
    SHII|SI|SEUX|KYEE|KET|NUAE|NU|NJUAE|YOQ|SHU|YA|NSHA|PEUX|NTEE|WUE|PEE|RU|NI|REUX|KEN|NGKWAEN
    NGGA|SHO|PUAE|FOM|WA|LI|LOQ|KO|MBEN|REN|MA|MO|MBAA|TET|KPA|SAMBA|VUEQ"),
  (0x16a40, "MRO LETTER ", "TA|NGI|YO|MIM|BA|DA|A|PHI|KHAI|HAO|DAI|CHU|KEAAE|OL|MAEM|NIN|PA|OO|O|RO
    SHI|THEA|EA|WA|E|KO|LAN|LA|HAI|RI|TEK"),
  (0x16a60, "MRO DIGIT ", "ZERO|x|y|p|FOUR|FIVE|SIX|SEVEN|EIGHT|NINE"),
  (0x16a6e, "MRO ", "DANDA|lDANDA"),
  (0x16a70, "TANGSA LETTER ", "OZ|OC|OQ|OX|AZ|AC|AQ|AX|VZ|VC|VQ|VX|EZ|EC|EQ|EX|IZ|IC|IQ|IX|UZ|UC|UQ
    UX|AWZ|AWC|AWQ|AWX|UIZ|UIC|UIQ|UIX|sNG|LONG UEX|SHORT UEZ|aAWX|UEC|UEZ|UEQ|UEX|UIUZ|UIUC|UIUQ
    UIUX|MZ|MC|MQ|MX|KA|KHA|GA|NGA|SA|YA|WA|PA|NYA|PHA|BA|MA|NA|HA|LA|HTA|TA|DA|RA|NHA|SHA|CA|TSA
    GHA|HTTA|THA|XA|FA|DHA|CHA|ZA"),
  (0x16ac0, "TANGSA DIGIT ", "ZERO|x|y|p|FOUR|FIVE|SIX|SEVEN|EIGHT|NINE"),
  (0x16ad0, "BASSA VAH LETTER ", "ENNI|KA|SE|FA|MBE|YIE|GAH|DHII|KPAH|JO|HWAH|WA|ZO|GBU|DO|CE|UWU|TO
    BA|VU|YEIN|PA|WADDA|A|O|OO|U|EE|E|I"),
  (0x16af0, "BASSA VAH COMBINING ", "HIGH TONE|LOWa|MIDa|LOW-MIDa|HIGH-LOWa"),
  (0x16af5, "", "BASSA VAH FULL STOP"),
  (0x16b00, "PAHAWH HMONG VOWEL ", "KEEB|KEEV|KIB|KIV|KAUB|KAUV|KUB|KUV|KEB|KEV|KAIB|KAIV|KOOB|KOOV
    KAWB|KAWV|KUAB|KUAV|KOB|KOV|KIAB|KIAV|KAB|KAV|KWB|KWV|KAAB|KAAV"),
  (0x16b1c, "PAHAWH HMONG CONSONANT ", "VAU|NTSAU|LAU|HAU|NLAU|RAU|NKAU|QHAU|YAU|HLAU|MAU|CHAU|NCHAU
    HNAU|PLHAU|NTHAU|NAU|AU|XAU|CAU"),
  (0x16b30, "PAHAWH HMONG MARK CIM ", "TUB|SO|KES|KHAV|SUAM|HOM|TAUM"),
  (0x16b37, "PAHAWH HMONG SIGN ", "VOS THOM|aTSHAB CEEB|CIM CHEEM|VOS THIAB|aFEEM|XYEEM NTXIV|aRHO
    aTOV|aFAIB|VOS SEEV|MEEJ SUAB|VOS NRUA|IB YAM|XAUS|CIM TSOV ROG"),
  (0x16b50, "PAHAWH HMONG DIGIT ", "ZERO|x|y|p|FOUR|FIVE|SIX|SEVEN|EIGHT|NINE"),
  (0x16b5b, "PAHAWH HMONG NUMBER ", "TENS|HUNDREDS|TEN THOUSANDS|MILLIONS|HUNDRED MILLIONS
    TEN BILLIONS|TRILLIONS"),
  (0x16b63, "PAHAWH HMONG SIGN ", "VOS LUB|XYOO|HLI|THIRD-STAGE HLI|ZWJ THAJ|HNUB|NQIG|XIAB|NTUJ|AV
    TXHEEJ CEEV|MEEJ TSEEB|TAU|LOS|MUS|CIM HAIS LUS NTOG NTOG|aCUAM TSHOOJ|aTXWV|bCHWV|aPUB DAWB
    aNRES TOS"),
  (0x16b7d, "PAHAWH HMONG CLAN SIGN ", "TSHEEJ|YEEG|LIS|LAUJ|XYOOJ|KOO|HAWJ|MUAS|THOJ|TSAB|PHAB|KHAB
    HAM|VAJ|FAJ|YAJ|TSWB|KWM|VWJ"),
  (0x16e40, "MEDEFAIDRIN CAPITAL LETTER ", "M|S|V|W|ATIU|Z|KP|P|T|G|F|I|K|A|J|E|B|C|U|YU|L|Q|HP|NY|X
    D|OE|N|R|O|AI|Y"),
  (0x16e60, "MEDEFAIDRIN SMALL LETTER ", "M|S|V|W|ATIU|Z|KP|P|T|G|F|I|K|A|J|E|B|C|U|YU|L|Q|HP|NY|X|D
    OE|N|R|O|AI|Y"),
  (0x16e80, "MEDEFAIDRIN DIGIT ", "ZERO|x|y|p|FOUR|FIVE|SIX|SEVEN|EIGHT|NINE"),
  (0x16e8a, "MEDEFAIDRIN NUMBER ", "TEN|ELEVEN|TWELVE|THIRTEEN|FOURTEEN|FIFTEEN|SIXTEEN|SEVENTEEN
    EIGHTEEN|NINETEEN"),
  (0x16e94, "MEDEFAIDRIN ", "DIGITxALTERNATE FORM|ayb|apb|COMMA|FULL STOP|SYMBOL AIVA
    EXCLAMATION OH"),
  (0x16f00, "MIAO LETTER ", "PA|BA|YI PA|PLA|MA|MHA|ARCHAIC MA|FA|VA|VFA|TA|DA|YI TTA|aTA|TTA|DDA|NA
    NHA|YI NNA|ARCHAIC NA|NNA|NNHA|LA|LYA|LHA|LHYA|TLHA|DLHA|TLHYA|DLHYA|KA|GA|YI KA|QA|QGA|NGA|NGHA
    ARCHAIC NGA|HA|XA|GHA|GHHA|TSSA|DZZA|NYA|NYHA|TSHA|DZHA|YI TSHA|aDZHA|REFORMED TSHA|SHA|SSA|ZHA
    ZSHA|TSA|DZA|YI TSA|SA|ZA|ZSA|ZZA|ZZSA|ARCHAIC ZZA|ZZYA|ZZSYA|WA|AH|HHA|BRI|SYI|DZYI|TE|TSE
    RTE"),
  (0x16f4f, "MIAO ", "iCONSONANT MODIFIER BAR|eNASALIZATION|iASPIRATION|iREFORMED VOICING
    bASPIRATION"),
  (0x16f54, "MIAO VOWEL SIGN ", "A|AA|AHH|AN|ANG|O|OO|WO|W|E|EN|ENG|OEY|I|IA|IAN|IANG|IO|IE|II|IU
    ING|U|UA|UAN|UANG|UU|UEI|UNG|Y|YI|AE|AEE|ERR|ROUNDED ERR|ER|ROUNDED ER|AI|EI|AU|OU|N|NG|UOG|YUI
    OG|OER|VW|IG|EA|IONG|UI"),
  (0x16f8f, "MIAO TONE ", "j|TOPj|m|t"),
  (0x16f93, "MIAO LETTER TONE-", "2..8"),
  (0x16f9a, "MIAO LETTER REFORMED TONE-", "1|2|4..6|8"),
  (0x16fe0, "", "TANGUT ITERATIONu|NUSHUb|OLD CHINESE HOOKu|bITERATIONu|KHITANgSCRIPT FILLER"),
  (0x16ff0, "VIETNAMESE ALTERNATE READING MARK ", "CA|NHAY"),
  (0x18800, "TANGUT COMPONENT-", "001..368"),
  (0x18970, "TANGUT COMPONENT-", "369..768"),
  (0x1aff0, "KATAKANA LETTER MINNAN TONE-", "2..5||7|8"),
  (0x1aff7, "KATAKANA LETTER MINNAN NASALIZED TONE-", "1..5||7|8")]

end FragmentWeaver.Text
