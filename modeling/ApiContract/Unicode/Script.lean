import ApiContract.Unicode.Table

/-!
# Scripts

The script of every code point, as runs of equal scripts, the names of the
scripts, and where the extended scripts of a code point differ from its script.
-/

namespace ApiContract
namespace Unicode

/-- The names of the scripts, without case, blanks, underscores and hyphens.  The
runs number them from 1; 0 is no script. -/
def scriptNames : List (List String) :=
  [
    ["adlam", "adlm"], ["aghb", "caucasianalbanian"], ["ahom"], ["arab", "arabic"],
    ["armi", "imperialaramaic"], ["armenian", "armn"], ["avestan", "avst"],
    ["bali", "balinese"], ["bamu", "bamum"], ["bass", "bassavah"], ["batak", "batk"],
    ["beng", "bengali"], ["bhaiksuki", "bhks"], ["bopo", "bopomofo"], ["brah", "brahmi"],
    ["brai", "braille"], ["bugi", "buginese"], ["buhd", "buhid"], ["cakm", "chakma"],
    ["canadianaboriginal", "cans"], ["cari", "carian"], ["cham"], ["cher", "cherokee"],
    ["chorasmian", "chrs"], ["copt", "coptic", "qaac"], ["cpmn", "cyprominoan"],
    ["cprt", "cypriot"], ["cyrillic", "cyrl"], ["deva", "devanagari"], ["diak", "divesakuru"],
    ["dogr", "dogra"], ["deseret", "dsrt"], ["dupl", "duployan"],
    ["egyp", "egyptianhieroglyphs"], ["elba", "elbasan"], ["elym", "elymaic"],
    ["ethi", "ethiopic"], ["geor", "georgian"], ["glag", "glagolitic"],
    ["gong", "gunjalagondi"], ["gonm", "masaramgondi"], ["goth", "gothic"],
    ["gran", "grantha"], ["greek", "grek"], ["gujarati", "gujr"], ["gurmukhi", "guru"],
    ["hang", "hangul"], ["han", "hani"], ["hano", "hanunoo"], ["hatr", "hatran"],
    ["hebr", "hebrew"], ["hira", "hiragana"], ["anatolianhieroglyphs", "hluw"],
    ["hmng", "pahawhhmong"], ["hmnp", "nyiakengpuachuehmong"], ["hung", "oldhungarian"],
    ["ital", "olditalic"], ["java", "javanese"], ["kali", "kayahli"], ["kana", "katakana"],
    ["kawi"], ["khar", "kharoshthi"], ["khmer", "khmr"], ["khoj", "khojki"],
    ["khitansmallscript", "kits"], ["kannada", "knda"], ["kaithi", "kthi"],
    ["lana", "taitham"], ["lao", "laoo"], ["latin", "latn"], ["lepc", "lepcha"],
    ["limb", "limbu"], ["lina", "lineara"], ["linb", "linearb"], ["lisu"], ["lyci", "lycian"],
    ["lydi", "lydian"], ["mahajani", "mahj"], ["maka", "makasar"], ["mand", "mandaic"],
    ["mani", "manichaean"], ["marc", "marchen"], ["medefaidrin", "medf"],
    ["mend", "mendekikakui"], ["merc", "meroiticcursive"], ["mero", "meroitichieroglyphs"],
    ["malayalam", "mlym"], ["modi"], ["mong", "mongolian"], ["mro", "mroo"],
    ["meeteimayek", "mtei"], ["mult", "multani"], ["myanmar", "mymr"], ["nagm", "nagmundari"],
    ["nand", "nandinagari"], ["narb", "oldnortharabian"], ["nabataean", "nbat"], ["newa"],
    ["nko", "nkoo"], ["nshu", "nushu"], ["ogam", "ogham"], ["olchiki", "olck"],
    ["oldturkic", "orkh"], ["oriya", "orya"], ["osage", "osge"], ["osma", "osmanya"],
    ["olduyghur", "ougr"], ["palm", "palmyrene"], ["pauc", "paucinhau"], ["oldpermic", "perm"],
    ["phag", "phagspa"], ["inscriptionalpahlavi", "phli"], ["phlp", "psalterpahlavi"],
    ["phnx", "phoenician"], ["miao", "plrd"], ["inscriptionalparthian", "prti"],
    ["rejang", "rjng"], ["hanifirohingya", "rohg"], ["runic", "runr"], ["samaritan", "samr"],
    ["oldsoutharabian", "sarb"], ["saur", "saurashtra"], ["sgnw", "signwriting"],
    ["shavian", "shaw"], ["sharada", "shrd"], ["sidd", "siddham"], ["khudawadi", "sind"],
    ["sinh", "sinhala"], ["sogd", "sogdian"], ["oldsogdian", "sogo"], ["sora", "sorasompeng"],
    ["soyo", "soyombo"], ["sund", "sundanese"], ["sylo", "sylotinagri"], ["syrc", "syriac"],
    ["tagb", "tagbanwa"], ["takr", "takri"], ["taile", "tale"], ["newtailue", "talu"],
    ["tamil", "taml"], ["tang", "tangut"], ["taiviet", "tavt"], ["telu", "telugu"],
    ["tfng", "tifinagh"], ["tagalog", "tglg"], ["thaa", "thaana"], ["thai"],
    ["tibetan", "tibt"], ["tirh", "tirhuta"], ["tangsa", "tnsa"], ["toto"],
    ["ugar", "ugaritic"], ["vai", "vaii"], ["vith", "vithkuqi"], ["wara", "warangciti"],
    ["wancho", "wcho"], ["oldpersian", "xpeo"], ["cuneiform", "xsux"], ["yezi", "yezidi"],
    ["yi", "yiii"], ["zanabazarsquare", "zanb"], ["inherited", "qaai", "zinh"],
    ["common", "zyyy"], ["gara", "garay"], ["gukh", "gurungkhema"], ["kiratrai", "krai"],
    ["olonal", "onao"], ["sunu", "sunuwar"], ["todhri", "todr"], ["tulutigalari", "tutg"],
    ["berf", "beriaerfe"], ["sidetic", "sidt"], ["taiyo", "tayo"], ["tolongsiki", "tols"]]

/-- The runs of equal scripts from code point 0 on. -/
def scriptText : String :=
  String.join [
    "2A5DZ2GF5DZ2G1O5DA2GO5DA2GE5DW2GA5D+2GA5DeA2G1G5DE2GE5DBOT5D3P5CD1MA5DC1MBAD1MA5DA1MDAA1MA5D",
    "A1MA5DC1MAAA1MAAT1MAA1+1MNZP1M4EyB5C5IyAA1FGBA1RGBACGAA1W1THAw1TDAF1TKAEEA5DFEA5DNEA5DCEA5D-",
    "EA5DJEK5CZEA5C3LEA5D1BEN4HAA1x4HBAC4H1PE1R4SNA1w3DBAC3D1N3YBAO3YAAx2QBAA2QAAK4HEA1BEEA2KEA5D",
    "yE2QzD5COzB5DZzDMAAHMBABMBAVMAAGMAAAMCADMBAIMBABMBADMHAAMDABMAAEMBAYMBAC1OAAF1ODAB1OBAV1OAAG",
    "1OAAB1OAAB1OAAB1OBAA1OAAE1ODAB1OBAC1OCAA1OGAD1OAAA1OGAQ1OJAC1NAAI1NAAC1NAAV1NAAG1NAAB1NAAE1N",
    "BAJ1NAAC1NAAC1NBAA1NOAD1NBAL1NGAG1NAAC3IAAH3IBAB3IBAV3IAAG3IAAB3IAAE3IBAI3IBAB3IBAC3IGAC3IDA",
    "B3IAAE3IBAR3IJAB4MAAF4MCAC4MAAD4MCAB4MAAA4MAAB4MCAB4MCAC4MCAL4MDAE4MCAC4MAAD4MBAA4MFAA4MNAU4",
    "MEAM4PAAC4PAAW4PAAP4PBAI4PAAC4PAAD4PGAB4PAAC4PAAB4PBAD4PBAJ4PGAI4PM2CAAC2CAAW2CAAJ2CAAE2CBAI",
    "2CAAC2CAAD2CGAB2CEAC2CAAD2CBAJ2CAAC2CLAM2XAAC2XAA1S2XAAC2XAAF2XDAP2XBAZ2XAAC4AAAR4ACAX4AAAI4",
    "AAAA4ABAG4ACAA4ADAF4AAAA4AAAH4AFAJ4ABAC4ALA1Z4TDAA5Dx4T1EAB2FAAA2FAAE2FAAX2FAAA2FAAW2FBAE2FA",
    "AA2FAAG2FAAJ2FBAD2F-A2H4UAA1D4UDA1G4UAA1D4UAAO4UAAG4UD5DB4U1EA4-2z1F1GAAA1GEAA1GBA1K1GA5DD1G",
    "7-1P2I1FAAD1FBAG1FAAA1FAAD1FBA1I1FAAD1FBA1A1FAAD1FBAG1FAAA1FAAD1FBAO1FAA1Y1FAAD1FBA2C1FBA-1F",
    "CAZ1FFA2VXBAFXBAj-Uy3FCA2K3XC5DK3XGAV4RIAA4RU1RB5DIATSLAM4IAAC4IAAB4ILA2z1-BAJ1-FAJ1-FAB2ZB5",
    "DA2ZA5DT2ZFA2Y2ZGA1K2ZEA2FUJA+2IAAL2IDAL2IDAA2ICAL2Iz4KBAE4KKA1L4LDAZ4LFAK4LCAB4L-1-xRBABR1+",
    "2EAAy2EBAK2EFAJ2EFAN2EBA1N5CBAL5CTA2MIAA1RI1-4F1TLHADL1X2HCAO2HCAC2H1P3GKyEA1K1GBAC1GH4FHAC5",
    "CA5DM5CA5DG5CD5DA5CF5DA5CC5DB5CA5DEA1F2GE1MAy1Q2GE1MD2GE1MM2GAy2F2GA1M1-5C7-2GV1MBAF1MBA1F1M",
    "BAF1MBAH1MAAA1MAAA1MAAA1MAA+1MBA1U1MAAO1MAAN1MBAF1MAAS1MBAC1MAAI1MAAL5DB5C2W5DAAK5DA2GBAK5DA",
    "2GO5DAAM2GCA1B5DNA1A5COA1F5DA1MC5DB2GF5DA2Gw5DA2GQ5D1I2GC5DDAkZ5DVAK5DUAs-5D7-QjT5DBA4J5D2-1",
    "H-2G3TZEAGZ1F1GAAA1GEAA1GBA1X4QGAB4QNAA4QW1FIAG1FAAG1FAAG1FAAG1FAAG1FAAG1FAAG1FAAG1FAA-y2z5D",
    "1BAZ1QAA2Y1QLA6V1QZAU5DA1QA5DA1QY5DI1QD5CB1PH5DD1QD5DAA2V1UBAB5CB5DC1UA5D2Z1yB5DC1yEA1KOAA2z",
    "1PAAP5D-O1F5DIAA5DP1y+1PAA1-5D+1P2Q5D1O1yA5D2X1y5H5D6d-1Q1-5Dkf-1Q14M5ACA1W5AIA1P2L9L4ZTA2-y",
    "2XJHA1B5D3F2GC5D2R2GTAO2G1M4GCAJ5DFA1X3PHA2F3wHAL3wFA-z1N1xA5DA1x1D3VKAA3Vy1PCA2N1wAAA5DJ1wD",
    "AB1w+2zAA1WWIANWBAJWBADW-2z2C4OXAE4OW2xJAF1FBAF1FBAF1FIAG1FAAG1FAA1K2GA5DI2GA1MD2GB5DDA2PX1N",
    "2xBAJ2xFAatD1PLAW1PDA1Q1P88DAbN1QBA3J1Q1FAG2GLAEGEAZ1TAAE1TAAA1TAAB1TAAB1TAAJ1TfNEB5D4PE-APE",
    "P5CJ5DFAN5CBy1C5DAAS5DAAD5DDAEEAA4GEBAA5DAA-5DZ2GF5DZ2GK5DJ1yA5D1M1yB5D+1PCAF1PBAF1PBAF1PBAC",
    "1PCAG5DAAG5DJAE5DBAL2KAAZ2KAAS2KAAB2KAAO2KBAN2K1BA3w2KEAC5DDA1M5DCAI5D2O1MAAM5DCAA1M1OA1M5DA",
    "5C4BAy2MCA1QVOAA5Cw5DDA1D1ZIAC1Zw1KEA1K3OEAz4YAAA4Y1D4zDAN4z1JA2P1A1P3yz3KBAJ3KFA1D3JDA1D3JD",
    "A1H1DHA1TCKAACK4wAAO4wAAG4wAAB4wAAK4wAAO4wAAG4wAAB4wCA1T5JLA9W2JIAV2JJAH2JXAF2GAA1J2GAAI2G2E",
    "AFxBAAxAA1LxAABxCAAxBAAxVFAAIF-3M+3BHAI3B1PAS1SAAB1SEAE1Sx3SCAA3SZ2NEAA2NZ5M1FA-2WX2VDAT2VBA",
    "1N2VD1+AAB1+EAH1+AAC1+AAy1+BAC1+DAJ1+GAI1+GA-3Z-3A-A1G2RDAL2RIA1VHCAGHV3UBAH3US3QEAH3QR3RGAD",
    "3RLAG3R2PA2I3H1WA1S1YMA1S1YGAF1Y1H3WHAJ3WFA1F5ECAy5EHAB5E6PA+EAA1J4-AAC4-BAB4-PAFEHAIE1AAFE1",
    "H4CHA1J4BVAZ3L1FAxYTAW1EIA2NPDA1DPIAAP2C2DJAA2DBAY4DGAJ4DFA1UTAARTHA1G2OIA2-3zAAT4AKAR2AAA1O",
    "2A1zAG2yAAA2yAAD2yAAO2yAAK2yFA1w3-EAJ3-FAD1LAAH1LBAB1LBAV1LAAG1LAAB1LAAE1LAAA5CI1LBAB1LBAC1L",
    "BAA1LFAA1LEAG1LBAG1LCAE1LKAJ5KAAA5KBAA5KAA1F5KAAJ5KAAA5KBAA5KAAD5KAAJ5KAAB5KHAB5KyA2x3CAAE3C",
    "zA2H4VHAJ4V5FA1V3+BA1F3+1BA2E2YKAJ2YFAM2ZSA1Z4JFAJ4JFAT2zxAwDBAODDAWD5YA1x-3DA2S4xLAA4xG+BAA",
    "+BAH+AAB+AAz+AAB+BAL+IAJ+2FAH2-BA1N2-BAK2-wA2H5BHA2S4EMAPU1Y3NGAJz2VAH3z2XA1B5INAJ5IFAINAA1M",
    "NAANNJAyNCA-2SBAV2SAAN2S2IAG1JAAB1JAA1L1JCAA1JAAB1JAAI1JHAJ1JFAF1IAAB1IAA1E1IAAB1IAAF1IGAJ1I",
    "FA1L5ODAJ5O7VAY2PGAQ1zAA1I1zCAy1z2UAA2LOA1R4MMAA4MsZ4+3FA3O4+AAE4+KA6D4+2iLA3CwMA12V1CJA3sw1",
    "CEAiG1V6lYA1Z5F1mFAhYJGA+2wAAJ2wDAB2w2O4WAAJ4WFAzKBAFKJA2F1WJAJ1WAAG1WAAU1WEAS1WdPA1Z5G6FA2w",
    "2TEAY5LBAY5L1LA2K3TDA1Y3TGAQ3T1-AA4NA3EB1QA2BKAG1QIA6n-4NeV2B1IAA2B+4N3AA3S4N8fyAD1yAAG1yAAB",
    "1yAAA1y8+1UC1yOAA1UyAC1UBAA1yNAD1yHAcL3E28DA3K1BEAM1BCAI1BGAJ1BBAD1BD5D3qxA7y5DCAdT5DFAW5DOA",
    "Q5DOA1N5CBAW5CIA3T5D1xA7V5DJA1G5DBA1z5DC5CQ5DH5CB5DG5Cz5DD5C1y5DUA2F1M3ZAT5DLAT5DLA2W5DIAY5D",
    "4GA2U5DAA2G5DAAB5DBAA5DBAB5DBAD5DAAL5DAAA5DAAG5DAA2A5DAAD5DBAH5DAAG5DAAx5DAAD5DAAE5DAAA5DCAG",
    "5DAAaT5DBA9D5DBA1R5DkL3xOAE3xAAO3x12PA+2GFAF2G6UAG1HAAQ1HBAG1HAAB1HAAE1HEA1zy1AAAy3PA1M1XCAN",
    "1XBAJ1XDAB1X9-A+4XQA1Z4yEAA4yePA1J2+6VA1K5HDAA5H5-A+5NAAV5NHAB5N6-AG1FAAD1FAAB1FAAO1FAA6E2UB",
    "AP2U1IA2LBDAJBDABBoQA2D5D2LA1y5D6BADEAAwEAABEAAAEBAAEAAJEAADEAAAEAAAEFAAEDAAEAAAEAAAEAACEAAB",
    "EAAAEBAAEAAAEAAAEAAAEAAAEAABEAAAEBADEAAGEAADEAADEAAAEAAJEAAQEEACEAAEEAAQE1TABE8NA1L5DDA3D5DL",
    "AO5DBAO5DAAO5DAA1E5DJA5N5D1XAZ5DA1UB5DMA1L5DDAI5DGAB5DNAF5D4ZAuY5DCAQ5DCAM5DCA6Z5DFAL5DDAA5D",
    "OAL5DDA1X5DHAJ5DFA1H5DHAz5DBAL5DDAB5DNAI5D1GAaX5DHAN5DBAM5DCAK5DCA1Y5DAAA5DDAP5DBAL5DDAJ5DGA",
    "4S5DAA3G5D10EA19m-1Q-A48z1QBA5kN1QBA79Q1QOAjN1Q2dBAgz1Q1fBA4qK1QEA89J1QlisGAA5DzA2-5D3-A7P5C",
    "5vgPA"]

/-- The runs of equal scripts. -/
def scriptRuns : List Run :=
  runsOfText scriptText

/-- For each script, the code points that belong to it either as script or as
extended script but not as both. -/
def scriptExtensionText : List (Nat × String) :=
  [
    (1, "1g-A1AA6gOA3fRA"),
    (2, "oEA1MA1MA"),
    (4, "1gMAOADA1AAKKwA6e+A3fRA1jnyB1dAx"),
    (6, "oIA"),
    (7, "5XAbbYB"),
    (12, "lyA1kUBRB4rKABACBBAIAIACAEACC12vZA"),
    (14, "mHABCNAb9HCEJBMKDCAGA6DA1jaJB8wE"),
    (17, "1aePA"),
    (18, "5pVB"),
    (19, "2fGJ1iQJ"),
    (21, "5XA7tCACA3eTA"),
    (23, "oACBAGBWBLB"),
    (25, "5XAiIADBBA3MBalBA1l6Ix"),
    (26, "208AB"),
    (27, "208ACE1MDI"),
    (28, "lyA2DCBABABACAFAbTB6bRA42KA"),
    (29, "lyA1kUBRB4rK1GBBvWA11p-J"),
    (31, "2bEL17mAJ"),
    (33, "5XAiPBBAYBaoXA33jDD"),
    (35, "5XAiNA"),
    (37, "oOA"),
    (38, "5XA16RA2rRA3q+A3eWA"),
    (39, "5XAiLABAb+ACA8BA2rRA3q+A3fIAu1LA"),
    (40, "5XA25MB"),
    (41, "2bEB"),
    (42, "5XAiMBCA1IA"),
    (43, "2aRBRBkAN46yABB+CDBvWA1siKA34UBBA"),
    (44, "5XAiIBCABABAKA1OACA1OA6iLBkxA"),
    (45, "2aRBRB17mKJ"),
    (46, "2aRBRB17mKJ"),
    (47, "c0BCEJBMQAGA6DA1jaJB8wE"),
    (48, "5XAbpYPBCCABJBMKDCAGAED5xA4UP1A1FJA1Q1H1Y1QPL1TA2YYKE3A+soBHlpzB8wE1kvwR7m+B"),
    (49, "5pVB"),
    (51, "oHB"),
    (52, "c0BCEJBMQFBAEB2xDDA2wB1jaIB8wEKA1NB"),
    (56, "82wACA3eTAPA"),
    (58, "1aePA"),
    (59, "1a9OA"),
    (60, "oFAzAb6zCEJBMQFBAEB2xDDA2wB1jaIB8wEKA1NB"),
    (64, "2nGJ17aAJ"),
    (66, "2aRBRB4rKABBGAXABA12pxF"),
    (67, "2bGJ96BAuf+J"),
    (70, "5XAgEAKABCBAJABA1GOBBBAPCHBBB1GAFAEM8VB16KB1tIA37yAhWA6AA39GAu7IHhGA"),
    (72, "2bFA"),
    (73, "208H1M"),
    (74, "208ACE1MDI"),
    (75, "lyAQAb9yB"),
    (76, "82wA"),
    (77, "5XAbbZA"),
    (78, "5XA25ML17mAJ"),
    (80, "1iAA"),
    (81, "1iAA"),
    (86, "82zA"),
    (87, "2aRBRB4rUAXA12pzC"),
    (88, "1a1QJ"),
    (89, "60CBBA21JA3uRBFD"),
    (92, "2jGJ"),
    (93, "1a9OA"),
    (95, "2aRASBsAJ3vZAIAHA12pVF"),
    (98, "2aRB4sCABBJAGABABA"),
    (99, "1gMAOADA1to+B"),
    (103, "82wA3eVA"),
    (104, "2aRBRB4rUAXA"),
    (105, "oBACAGA2MA"),
    (107, "1iAA215RA"),
    (110, "5XAiIAFCKAbPA"),
    (111, "60CBBA21JA3uSA"),
    (113, "1iAA"),
    (118, "1gMAOADA1AA4TA"),
    (119, "5nLC"),
    (120, "bhRA"),
    (124, "5XA"),
    (125, "2aRA4sFABACBCAJACA12qCFCA"),
    (127, "2bEB17mKJ"),
    (128, "2bEB4sMA"),
    (129, "1iAA"),
    (134, "2bEB4AJ"),
    (135, "oDBCBBAYCHBBBmwAOBCA1AAKKwA5sHABA"),
    (136, "5pVB"),
    (137, "2bEB17mKJ"),
    (138, "oABFBDA39TJ"),
    (140, "2aRBRB4rUA130YAqgNABA1XB"),
    (141, "bvQPfPA"),
    (143, "2aRBRB4rPBBABAXA"),
    (144, "oCABABDZA"),
    (145, "5pVB"),
    (146, "1gMAOBCA2AJ1tsIAKA"),
    (147, "lyAwA1LA1NA"),
    (148, "c0ID"),
    (149, "2aRBRB4rPAMAPA12pzJ"),
    (151, "lyA"),
    (159, "1gMAOADA2AJ"),
    (160, "c0BBFJCH6-A1jjFE"),
    (162, "oAOBBBAPCHBBBQACASAFAEM8VBeEKwAnAB4rzCBMBGEAGADB6GB1WABAnVA3pZD3LB1kiFA42wA"),
    (163, String.join [
      "5XAgEAKABCBAJABA4wAkXAOADA1AApDB1sVA1fPC2HB6LBBA16NANAHDBFBCCApUA-AKACA3dZAYBKAEABAdMP",
      "BCCABJBMQFBAED2xBDA2wB4TP1A1FJA1Q1H1Y1QPL1TA2YYKE3A+soBH9IJ7UA5AAkrOB8FB8wEKA1NBbACE1M",
      "DIdBw1edED5lyR7m+B"]),
    (164, "1gMAOADA"),
    (165, "2bFA"),
    (167, "2bEB"),
    (168, "oABBAJACAyADA"),
    (169, "oBACACAJABA2KA"),
    (170, "37GJ40CABA12pxF5xA")]

/-- The number of the script that a name stands for. -/
def scriptNumber? (name : String) : Option Nat :=
  (scriptNames.findIdx? fun names => names.contains name).map (· + 1)

/-- The code points of the script that a name stands for. -/
def script? (name : String) : Option Ranges :=
  (scriptNumber? name).map fun n => rangesOfRuns (fun value => value == n) scriptRuns

/-- The code points that have the script of the name among their extended
scripts. -/
def scriptExtension? (name : String) : Option Ranges :=
  (scriptNumber? name).map fun n =>
    let script := rangesOfRuns (fun value => value == n) scriptRuns
    match scriptExtensionText.lookup n with
    | some text =>
        let changed := rangesOfText text
        Ranges.union (Ranges.intersect script changed.complement)
          (Ranges.intersect changed script.complement)
    | none => script

end Unicode
end ApiContract
