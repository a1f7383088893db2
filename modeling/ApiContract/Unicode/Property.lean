import ApiContract.Unicode.Table

/-!
# Binary properties

The code points of each binary property, and the names of the properties.
-/

namespace ApiContract
namespace Unicode

/-- The names of the binary properties, without case, blanks, underscores and
hyphens, and the ranges of their code points. -/
def propertyText : List (List String × String) :=
  [
    (["alpha", "alphabetic"],
      String.join [
        "2BZGZ1PAKAEAFWB+BeJELOEHABA2WAzRBBCDBAGABCBABTB2SB4KI5FB1FCAG1I1HNBABBBBBAIwEDzKF1XBGO",
        "3FBHEHECKCCAQ1PN3EY1AJBEAFXCSTYHKFXBGHAI1JKLDGG2LBPBCEONSBHCBCVBGBADDDHCBCBBAIAEBBEMBK",
        "AECBFEBCVBGBBBBBBEEEBCBEAHDBARFLCBIBCBVBGBBBEDIBCBBDAPDVDECBHCBCVBGBBBEDHCBCBJBEBBENAQ",
        "BBFDCBDDBBABBDBDCDLEEDCBCDAGA1IMBCBWBPDHBCBCIBBCBBCDyDBHBCBWBJBEDHBCBCIBFCBDNCMMBCB1IC",
        "HBCBCBAFDHEWFBCBRDXBIBACGIFBABHSBN1ZFGGA1TBBABEBXBABSBCCEBAGAOD1AA1-HB1DESEPB1D2D1WBAC",
        "EQ1-KDC1FBAFAC1KBaMBDCGBABDC1IBDC1ABDCGBABDCOB1YBDC2C1FPQ2VCFDjLCQBZF2KDKHTLUMTMMBCBBM",
        "1TCSOAEA2D2YH1KF2FK+BLEIXzCEL1LEZ1WxE1+CT1SAXBLC1R1TBOBH1T1JCDK1LBKO1WWCK1DCKF1KCC1JDB",
        "FBBDAF5-T1BL8VCFC1FCFCHBABABAB+C1UBGBADCBGDDCFEMFCBG3UANAQM3FAEACJBADEGABABABDBKCDFEEA",
        "R1IpN1T1oW7EGDDBM1FBAFAC1XHAQWJGBGBGBGBGBGBGBGB-1PAeVCZIHECEE2VGCB2ZBDF1KB2zR-1QPgA6d-",
        "2AlkM2D1NC8MDPKBU1OFHD3Q1HIC3GC2RUUB1AY1TM2DBA1MFDABCK1AF1CNyD1SBLPAQPKEB1WJNSWD2EBABA",
        "YCCPCDLFCFCFJGBGB1KBNG3wVatDMWE1Q88EbNC3J1GGMEFLBMBEBABBBBB3L1BbKS1-C1V1IL3UEB4G1EZGZL",
        "2YDFCFCFCC1DLBZBSBBBOCN1C3w2F1U8LyD1Q1P-NzF1KFzC1DEHBE1K4zS1DE1DE1HI1TMKBOBGBBBKBOBGBB",
        "D1TM9WJVKHYFB1JBI2FFCAB1LBBDACWKWJ+2BSBBKVKZGZ1G1XGB2ADBBFHBCBy1KyDy1DHBxx1VKVKSNR3O2I",
        "1X1SN1SN1H1CxDAFW7w1JBBDBQF1SCDyKAIV1KR1OUxWJ2F1LEK1YJANYX1SRDI1CDAJ1-BDJBKABA1DRB1BCA",
        "GD1+GBABDBOBJH1YXDBHCBCVBGBBBEDHCBCBDAGAFGyJBACAB1FBJBACABDBBDABA1M2BBCBDUC+2BCBBA5Y1V",
        "CGZF1C1+BADA1x1VCA2HwCNVG5Z1Y3H1--HCACHBBBzBBCBCD2zHC1NCFBABBx1SCJR2HFAS2I3HH2Y1A-IB1M",
        "BGBA1RzCVBN2JGBBB1LDABBBCBACBYFBBB1EBBBDBAX1L8EWJQB1IDC3PA2PsZ3G3OR6D2iM3AP11PRFZ3swFi",
        "G6lZ1O1mRhYH+R2ORzS1PQD-UFSdQ1M6T1-1AYCY1M2KE1YHQ2ABBAMGJ76V1J-3B3S8fzDBGBBB9CPAzCCAOD",
        "IcL28E3KFMDIHJEA5rB2UB2GBBCACBCDBLBABGB2ABDCHBGBxBDBEBADGBaTCYBYB+BYB+BYB+BYB+BYBH1pU+",
        "GF6VGBQCGBBBEF1z1BA3Q1MKGQAaBzS1LfEx7EzCA6P+BVIB7AGBDBBBOB6E1x2DDADA15UDBwBBBACABJBDBA",
        "BAGAEABABABCBBBACABABABABABBBACDBGBDBDBABJBQFCBEBQjUZGZGZ3jW19m-1A48zC5kNC79QPjN2dCgz1",
        "fC4qKF89J"]),
    (["ahex", "asciihexdigit"],
      "1QJHFwF"),
    (["bidic", "bidicontrol"],
      "1gyA6fRBwE1XD"),
    (["bidim", "bidimirrored"],
      String.join [
        "1IBSABAyABAzABA1NAPA3j+D1qzB2cyBKB1WBOB5RA6ADDFDADBDDBDBABAEIFABRFDJBBABHB-CDFAJBCSFBJ",
        "ECBEXCPIDUBHB11zN2KACDBBBCFDFCDNcTVCFBNIAHFDAEEBBCEEABCCBKFCBMSBDCABACABDFBGCYBLBEDBBC",
        "BE1KCHB1HFABADEFCEADEBA8AAgDDDBBBOBCJ1LHdLJCH1jhzFFB5CBSABAyABAzABABBBB1lrXA1ZA1ZA1ZA1",
        "ZA"]),
    (["caseignorable", "ci"],
      String.join [
        "1HAGALA1DABA2HAEABAEACBfX5-EBEAJBBA7xG6PAFA1R1MBABBBBBA1MALFKKBA1DAKUQA3FHBJBD1BABA+w2",
        "xK1wKEACAYX1LC1MAHBFI1J1Z1XABAEHEADGKBNAPA1wAEDIAUBwACB1ZAEBEBCCDA+BDALB1ZAEEBBEAUBWFB",
        "A1wACABDIAHBLB+A1zAMA1SADA1XABCFCBDHBLBzA1wACAGAFBUByB1ZBEDIAUBzA2IAHCBA2wACGLI3CACIJA",
        "BG2JBxABABA1XNBEBBFKB1DJA3GDBFBBCBZBECQDNACBGAPA2+AjACtSCzB+B+B2ABBGIACKDAFA1NE1TA2BB1",
        "CA3WCEBJAGC6xBCA1wABGBABACHGJCA1HAI1NCLUD1QABEBAFA1IIMB1ADCBBC1YABBDABC1wHCB2AF2SCBMBG",
        "EAGADB1S1+NA1C3EdzABCLCNCNCNBMEIBKACACE1REBJBANAQM1T1A2sLB3RC3zAPA3A-1PAeVA1EDDEFA2zF2",
        "zCroWA17CF8OA3CDBJBAyD2QBO1B2OAXC3GDDBIADAEAZBFA4XBwRNA1GHZK1OC1QACDCBRAVB2CFCBCBMAIA1",
        "DALA1TABCCBFBBAxAOBFBBA3EEJC3ZACAEAjpQA4TQhzPDAMP1CACA5JAHAGALA1DABA1PA1NB2DAVCgBA7CA4",
        "VE10FFB1JBIiGCBBFD1ICEA5FBhzD1GAwEBA9xBYA1UF2GK1RD3xA1WO1JACBKC1RDCBCAEAKA1SC1EEBH1+AM",
        "B1UIKDCA2-CCABBGACA4zADHVB1ZBDA1FGDE2GFNABABAOB2VHCCBAXA2UFBAEBBB7ODGBBBxB2VHCABB3KABA",
        "CFBA3FABACDBE8DIBB8ABBAEA4QDCBEA1AJ1IFCDIAJFCC1OMBB6GABCBA6JGBFBA2SVCGBBBB3wFDABBBGBA2",
        "IBDABA2BA8ZBLB1UEFABAXA56VQGOb6ILDC2eAE1xGJDfyC1IBfCA1-Q2ABBBNBfvyDBGBB34+BBD4iy1NCWhA",
        "CJPCG+D4UC1tx1WE1RIAOAWEBO1aQGBQCGBBBEF1z1BA5ANbQA1zDfxE7+B7TACAHBFAJAeQG3NH2lPEo30BA+",
        "2-4A7P"]),
    (["cased"],
      String.join [
        "2BZGZ1PAKAEAFWB+B6CBDE6PC1CHB+E3AA1KDCBCDBAGABCBABTB2SB4KI5FB1FJ1I2oX1FBAFAC1KBDlA2VCF",
        "24CKF1KCC2A5-2A8VCFC1FCFCHBABABAB+C1UBGBADCBGDDCFEMFCBG3UANAQM3FAEACJBADEGABABABDBFEAC",
        "DFEEAR-DBpR1T1oW7EGDDBM1FBAFAu8S1NSz4E3FDDB2MUFBCpV1KBNG2PjqAGME10JZGZ15F2P3A1DE1D3UKB",
        "OBGBBBKBOBGBBeDACCB1JBI16F1SN1S2zVKV2ow1-lbA1-1AYCYp9M2UB2GBBCACBCDBLBABGB2ABDCHBGBxBD",
        "BEBADGBaTCYBYB+BYB+BYB+BYB+BYBH1pUJBTGF8F1z24S2D1vMZGZGZ"]),
    (["changeswhencasefolded", "cwcf"],
      String.join [
        "2BZ2wAKWBH1AABABABABABABABABABABABABABABABABABABABABABABABABABABABACABABABABABABABABBB",
        "ABABABABABABABABABABABABABABABABABABABABABABBBABABABBBABBBCCDBBBCDBBBBABABBBACABBBCBAB",
        "BDAHBBBBBBABABABABABABABACABABABABABABABABACBBABCBABABABABABABABABABABABABABABABABABAB",
        "ABABABABABABABABABABAHBBBCABDBABABABA7WA1KABADAIAGABCBABBBQBIWAMCDBBABABABABABABABABAB",
        "ABABABBCBBABBC1S1QABABABABABABABABABABABABABABABABAJABABABABABABABABABABABABABABABABAB",
        "ABABABABABABABABABABBBABABABABABACABABABABABABABABABABABABABABABABABABABABABABABABABAB",
        "ABABABABABABABABABABABABABABABABABABABABABAC1F1QA2oY1FBAFApKF24CJG1KCCaAABABABABABABAB",
        "ABABABABABABABABABABABABABABABABABABABABABABABABABABABABABABABABABABABABABABABABABABAB",
        "ABABABABABABABABABABABABABABABABABABABABABABABABAFBCABABABABABABABABABABABABABABABABAB",
        "ABABABABABABABABABABABABABABABABABABABABABABABABABABABABABABABAJHIFKHIHIFLABABABAIHQ1P",
        "CCCFFCCFLDMEFCCF9JADBGA1NPTApSZ1pQ1P1QABCCABABABDBACAICBABABABABABABABABABABABABABABAB",
        "ABABABABABABABABABABABABABABABABABABABABABABABABABABABABABABABABABAIABAEAuaNABABABABAB",
        "ABABABABABABABABABABABABABABABABABATABABABABABABABABABABABABABA4HABABABABABABADABABABA",
        "BABABABABABABABABABABABABABABABABABABABABABABABABABABAKABABBBABABABAEABACABADABABABABA",
        "BABABABABABEBEBABABABABABABABDBABBBABABABABABABABAYArw2PjqAGME10JZ16F1H4I1D4yKBOBGBB1n",
        "K1S4zV2pw-lcA-2AYuiH1B"]),
    (["changeswhencasemapped", "cwcm"],
      String.join [
        "2BZGZ1wAKWB+B1-B2TBxCNCBBAE2yBRGwBBBABBDBBDBECABBCAHACABBDFFAKB5GA1KDCBDCBAGABCBABTB1O",
        "D1ABEB4EI5FB1FK1G2oY1FBAFAC1KCClA2VCF24CKF1KCC5ZADAQA3R4xCAB3VCFC1FCFCHBABABAB+C1UBGBA",
        "DCBGDDCFEMFCBG9JADBGAxAR-DBpR1T1oW3QBBBBH3FHDDBM1FBAFAu8S1NSx4GNC1zJODCCEBYB1MYBqyAy2P",
        "jqAGME10JZGZ15F2P3A1DE1D3UKBOBGBBBKBOBGBB1mD1SN1S2zVKV2ow1-lbA1-1AYCYuhM2D"]),
    (["changeswhennfkccasefolded", "cwkcf"],
      String.join [
        "2BZ2FAHABACABACDCCBCBWBH1AABABABABABABABABABABABABABABABABABABABABABABABABABCBACABABAB",
        "CBABABABBBABABABABABABABABABABABABABABABABABABABABABABBBABABABBBABBBCCDBBBCDBBBBABABBB",
        "ACABBBCBABBDAHJBABABABABABABACABABABABABABABABACDBCBABABABABABABABABABABABABABABABABAB",
        "ABABABABABABABABABABABAHBBBCABDBABABABA3BI-FCE2xBBCJA1AABABABADADBEGBABBBQBIWAMHBABABA",
        "BABABABABABABABABABCBBBABBC1S1QABABABABABABABABABABABABABABABABAJABABABABABABABABABABA",
        "BABABABABABABABABABABABABABABABABBBABABABABABACABABABABABABABABABABABABABABABABABABABA",
        "BABABABABABABABABABABABABABABABABABABABABABABABABABABABAC1F1QA4UA2YDm-H3yBBA2TACA1CCCA",
        "7zBmVA3-A1IB1OA1WAJAEAEAEAMAJABEHARAJAEAEAEAMA7G1FBAFA1OA3CBkXFtWB2VE13QJG1KCC3MCBKBRB",
        "xNA1C1E2AABABABABABABABABABABABABABABABABABABABABABABABABABABABABABABABABABABABABABABA",
        "BABABABABABABABABABABABABABABABABABABABABABABABABABABABABABABABABABABABAFBCABABABABABA",
        "BABABABABABABABABABABABABABABABABABABABABABABABABABABABABABABABABABABABABABABABABABABA",
        "JHIFKHIHIFLABABABAIHBABABABABABABAC1PCCCNCIDAEDBCDAEHCCCHBPBAFAMCDFDBBBEABAICNAHSCwBML",
        "A2XDBCBKBBCECCBABABABDBKBFEEG1PDAFA5CBBB7YB9V4K19BA3HC3FA9D1P1QABCCABABABDBACAGEBABABA",
        "BABABABABABABABABABABABABABABABABABABABABABABABABABABABABABABABABABABABABABABABABABABA",
        "BABABAIABAEA3yA9PA2TAM6V1KA1VABC3ABCA2-A1R2zDN3A+B1HI1OBb-siAABABABABABABABABABABABABA",
        "BABABABABABABABABABATABABABABABABABABABABABABABABB4EABABABABABABADABABABABABABABABABAB",
        "ABABABABABABABABABABABABABABABABABABABABABAIABABBBABABABAEABACABADABABABABABABABABABAB",
        "EBEBABABABABABABABDBABBBABABABABABABABAUECBrCDJAG2PjaA8NCABACJBABACBD2DC3J1GGMEFABXBEB",
        "ABBBBB3L1BbKS1-C1V1IMDZWUCLBSBDECBAB4GCAB5zDFCFCFCCDGBGBI10H1H4I1D4yKBOBGBBfLEB1JBI16F",
        "1S4zV2pw-lcA-2AYjfHD41S1D13EGOH2AFh-2UB2GBBCACBCDBLBABGB2ABDCHBGBxBDBEBADGBaTC9DC1R21Q",
        "1z24S1B16+DBwBBBACABJBDBABAGAEABABABCBBBACABABABABABBBACDBGBDBDBABJBQFCBEBQiEKF+B-wC1D",
        "A3PCN1LEIHB2c+J1v0Ggzm1fC3v-"]),
    (["changeswhenlowercased", "cwl"],
      String.join [
        "2BZ3FWBG1BABABABABABABABABABABABABABABABABABABABABABABABABABABABACABABABABABABABACABAB",
        "ABABABABABABABABABABABABABABABABABABABABABBBABADBBABBBCCDBBBCDBBBBABABBBACABBBCBABBDAH",
        "BBBBBBABABABABABABABACABABABABABABABABACBBABCBABABABABABABABABABABABABABABABABABABABAB",
        "ABABABABABABABABAHBBBCABDBABABABA9BABADAIAGABCBABBBQBI1DAIABABABABABABABABABABABAFACAB",
        "BC1S1QABABABABABABABABABABABABABABABABAJABABABABABABABABABABABABABABABABABABABABABABAB",
        "ABABABABBBABABABABABACABABABABABABABABABABABABABABABABABABABABABABABABABABABABABABABAB",
        "ABABABABABABABABABABABABABABABAC1F2qJ1FBAFAmS2V24TAG1KCCaAABABABABABABABABABABABABABAB",
        "ABABABABABABABABABABABABABABABABABABABABABABABABABABABABABABABABABABABABABABABABABABAB",
        "ABABABABABABABABABABABABABABABABABAJABABABABABABABABABABABABABABABABABABABABABABABABAB",
        "ABABABABABABABABABABABABABABABABABABABABABABABAJHIFKHIHIFLABABABAIHYHIHIHIELELDMELE9JA",
        "DBGA1NPTApSZ1pQ1P1QABCCABABABDBACAICBABABABABABABABABABABABABABABABABABABABABABABABABA",
        "BABABABABABABABABABABABABABABABABABABABABABABABAIABAEAuaNABABABABABABABABABABABABABABA",
        "BABABABABABABABATABABABABABABABABABABABABABA4HABABABABABABADABABABABABABABABABABABABAB",
        "ABABABABABABABABABABABABABABABABABAKABABBBABABABAEABACABADABABABABABABABABABABEBEBABAB",
        "ABABABABABDBABBBABABABABABABABAYAlpLZ16F1H4I1D4yKBOBGBB1nK1S4zV2pw-lcA-2AYuiH1B"]),
    (["changeswhentitlecased", "cwt"],
      String.join [
        "3BZ1wA1JXBHBABABABABABABABABABABABABABABABABABABABABABABABABABABABACABABABABABABABBBAB",
        "ABABABABABABABABABABABABABABABABABABABABABACABABCCABACADAFACADCCACABABACAEACADABACADAB",
        "AEABBBBBABABABABABABABABBBABABABABABABABABCBABADABABABABABABABABABABABABABABABABABABAB",
        "ADABABABABABABABABAIACBBAEABABABABFBBBABBDBBDBECABBCAHACABBDFFAKB5GA1LABADADCSAx1CBBDC",
        "BABABABABABABABABABABABEBACACA1U1PBABABABABABABABABABABABABABABABABAJABABABABABABABABA",
        "BABABABABABABABABABABABABABABABABABACABABABABABABBBABABABABABABABABABABABABABABABABABA",
        "BABABABABABABABABABABABABABABABABABABABABABABABABABABABABABA1R1G3jQF24CIBA7OADAQA3SABA",
        "BABABABABABABABABABABABABABABABABABABABABABABABABABABABABABABABABABABABABABABABABABABA",
        "BABABABABABABABABABABABABABABABABABABABABABABABABABABABABABGFABABABABABABABABABABABABA",
        "BABABABABABABABABABABABABABABABABABABABABABABABABABABABABABABABABABABIIFKHIHIFKHIHINCH",
        "IHIHIEBBGADCBBIDCBIHKCBBaWA1BPEAqLZ1qG1PBADBBABABAGACAKABABABABABABABABABABABABABABABA",
        "BABABABABABABABABABABABABABABABABABABABABABABABABABABABABABABABABABAIABAEAM1FBAFAu8TAB",
        "ABABABABABABABABABABABABABABABABABABABABABATABABABABABABABABABABABABABA4HABABABABABABA",
        "DABABABABABABABABABABABABABABABABABABABABABABABABABABABABABABAKABACABABABABAEAEABBCABA",
        "BABABABABABABABALABABABABABABABAEABACABABABABABABABAwAqyAy2PjqAGME11JZ16N1H4I1D4xKBOBG",
        "BB1oD1S3zV2pw-lcA-1xYuiO1B"]),
    (["changeswhenuppercased", "cwu"],
      String.join [
        "3BZ1wA1JXBHBABABABABABABABABABABABABABABABABABABABABABABABABABABABACABABABABABABABBBAB",
        "ABABABABABABABABABABABABABABABABABABABABABACABABCCABACADAFACADCCACABABACAEACADABACADAB",
        "AFBBBBBBABABABABABABABBBABABABABABABABABBBBBADABABABABABABABABABABABABABABABABABABABAD",
        "ABABABABABABABABAIACBBAEABABABABFBBBABBDBBDBECABBCAHACABBDFFAKB5GA1LABADADCSAx1CBBDCBA",
        "BABABABABABABABABABABEBACACA1U1PBABABABABABABABABABABABABABABABABAJABABABABABABABABABA",
        "BABABABABABABABABABABABABABABABABACABABABABABABBBABABABABABABABABABABABABABABABABABABA",
        "BABABABABABABABABABABABABABABABABABABABABABABABABABABABABA1R1G2qI1KCCnYF24CIBA7OADAQA3",
        "SABABABABABABABABABABABABABABABABABABABABABABABABABABABABABABABABABABABABABABABABABABA",
        "BABABABABABABABABABABABABABABABABABABABABABABABABABABABABABABABGFABABABABABABABABABABA",
        "BABABABABABABABABABABABABABABABABABABABABABABABABABABABABABABABABABABABABIIFKHIHIFKHIH",
        "INC1UBBEABADCBBEADDCBIHKCBBEAaRA1BPEAqLZ1qG1PBADBBABABAGACAKABABABABABABABABABABABABAB",
        "ABABABABABABABABABABABABABABABABABABABABABABABABABABABABABABABABABABABABAIABAEAM1FBAFA",
        "u8TABABABABABABABABABABABABABABABABABABABABABABATABABABABABABABABABABABABABA4HABABABAB",
        "ABABADABABABABABABABABABABABABABABABABABABABABABABABABABABABABABABAKABACABABABABAEAEAB",
        "BCABABABABABABABABABALABABABABABABABAEABACABABABABABABABAwAqyAy2PjqAGME11JZ16N1H4I1D4x",
        "KBOBGBB1oD1S3zV2pw-lcA-1xYuiO1B"]),
    (["dash"],
      "1NA1ayA1TA3iBA10FA20JF1zA1HAPAcGA30EACA-BEAyAd+ATA3PA1jcQB1FAKA5JA3jAA9+A"),
    (["defaultignorablecodepoint", "di"],
      "5NAlBAmMA2qCB1iTB2VE1vxEwE1RP47UA1j4xP7PA5AA2PI1f5HD56PHobkF3v-"),
    (["dep", "deprecated"],
      "aJA19JA28DABA21JB26FFlZBrn6WA"),
    (["dia", "diacritic"],
      String.join [
        "2+ABA2HAGAEACBfX4+BHFFRBEAJB7zE6RA1X1MBABBBBBA4DHEB4GBEBDC2Dw2xK1wK1CB3+H1JJQx1zAQADDy",
        "A2KAQA3OAQA3OAQA1PC1yAQAHA3XA3OAQA3OAQA3NBQA3yA3PAMFBA3LANE2LBxABABAEB2CCBB1+A3QABB1IB",
        "EEZGBAKBmBCtUB+A4UKJAaxC9EAUHCA1QOCKDOCL2IAPA1GI1WB1wALB2CB2AF2SYEAGACC1S1+1Q1DFL1FKdz",
        "ABCLCNCNCNB37QC9zAfwF3JD2-AtbSAMBBAyB2SBO1B3GC3GAGBMA1FA4XAxR1ZD1EA2-AMA1EA4VC2BD1TA3E",
        "EJC4ABjpQAoBP8OABA1PA1NB2DAnyA14-FB1JBIjzCEA5FBhxF1GAwEcMACC2GK1RD6AA1JA2IB3YB1+A2MAJC",
        "3IB5SB2QBQAYGDE2ZCBBNB2-ADA3xB7xB3+A3WB3TA8NB8CBEA4yA2TASA2RAdFA8CABB2RA2BAbHBXA57MOb6",
        "ZA2eAE1xGhUBhCQ2QBfv+DBGBB7oB1NCWhACDFIHCG+D3kC1z6CGbXA1zDn+BnAG3NCBC"]),
    (["emoji"],
      String.join [
        "1DAGAFJ3PAEA7sNAMA6YAWA2wFPBbPBMA5GAZKEC6HA7HBKAJA1wDBEJACACBCAEACABBCADADBICFABAFLLBC",
        "ABBBASACBSFBABBDBFACBEBLBFBCAFBBABBUBFFBDCAEACACFBACABABAGADAGAKBPACAEABAECBALB1QCJAOA",
        "OAbUBePCTB1TAEA16wAMAiZABA3fbKA6KA5ABMBOACJ2LZBBXAUACIVB5O1BC3PCBBCC2SCCB8GB1+LFBXHBCH",
        "MACDCAEBNBCAIBJAFCMCICCABAEAGADAG2V1Q2FFHCDDJDABBDACJ7DLEA8x1OBJB5Y3QMDKD1YBAEPCLEJ"]),
    (["ecomp", "emojicomponent"],
      "1DAGAFJ7uTA6VA1n9LA1suWZfxE1dQDo1jM2-"),
    (["emod", "emojimodifier"],
      "3svxE"),
    (["ebase", "emojimodifierbase"],
      String.join [
        "9gzA6xAQD3j3XA1yCCACC3VBCKVSDAECBCHABAYA6JBEAVAEB5OCDE2TAQCJALAh-ACAIHGAJJCC1YA1zBBBBA",
        "RCBM7FC1KI"]),
    (["emojipresentation", "epres"],
      String.join [
        "8owB6NDDACAgJBVB1SL1LATANAIBRBFBIAFAVAHBBAEACAHAEByA1DABAECBA1zCYAOAqxB1TAEA3h5OA6KA5+",
        "ACJ2LZBAYAUACEBCVB5O1AMIB2FBVM1KEEMQDAD2GBAB5wC1+NDBXSAwBNA2W2U1Q2FGADCCDDDLBHI7DLEA8x",
        "1OBJB5Y3QMDKD1YBAEPCLEJ"]),
    (["extendedpictographic", "extpict"],
      String.join [
        "5JAEA7sNAMA6YAWA2wFPBbPBMA5GAZKEC6HA7HBKAJA1wDBEJACACBCAEACABBCADADBICFABAFLLBCABBBASA",
        "CBSFBABBDBFACBEBLBFBCAFBBABBUBFFBDCAEACACFBACABABAGADAGAKBPACAEABAECBALB1QCJAOAOAbUBeP",
        "CTB1TAEA16wAMAiZABA3fbKA1HD3ELPBPAOB1FJ3QBMBOACJT1XxOKAUACIBDJWG5xC3PCBBCC2SCCBDF7zB1+",
        "LFBXHBCHMACDCAEBNBCAIBJAFCMCICCABAEAGADAG2V1Q2FFHCQDABFCM6w1FMD1YHKF1IH+BMDCNJ1GM1OBJB",
        "5Y2YHO4R8Avz"]),
    (["ext", "extender"],
      String.join [
        "5XAgYBrOAdZAjWA4JA2ZAnQA3-A2aDA1YAjDAcOA2EA4sJA1LE3HB2zCroWA1fWAuCAWA4JA3MAVBl3xA20QB1",
        "eLAxAEA16HA9FA3UBfSC16PAqAAjbIB14yBBAOBsaIB15RAqUC"]),
    (["graphemebase", "grbase"],
      String.join [
        "1A2+1BMBiR3QHCFEGBABTB6-H5FB1FC1RCC1OABACACAJwEFRJLAB1NVPB3EIAGBCAE-CABzz2YLAO1KJGDXEA",
        "JADAHOBYFABKF-Q1J1Z1WBABDIDBCHJCyBBBHCBCVBGBADDDABBGBCBBANBBCEXFABFEBCVBGBBBBBBECYDBAH",
        "JCCBAMABIBCBVBGBBBEDDIABBDAPBELHAIBBHCBCVBGBBBEDACAGBCBPBBCERLABFDCBDDBBABBDBDCDLFABBD",
        "CBCDAVUGCBHBCBWBPDADDTCBBCBEJHJBKBCBWBJBEDBCABBXCBBEJBCOKBCB1ICABBFCBCBBECBJEZCBBRDXBI",
        "BACGJBGGHJCCM1PBBLHIM1FBBABEBXBABJBBJACEBAJJCD1AXCwBABABNB1DSAFACE1RHBFBM1F1MEAGACBCYC",
        "DDPEMBBCFBOB1HBAFACbYBDCGBABDC1IBDC1ABDCGBABDCOB1YBDC2CFyDZG2VCFCkyD2YHRNSDBJROMBCP1TC",
        "AHHBBLIDJGJGKFJG2YHEC1BBAF2FK+EDCCEBBFHAD1JCEL1LEZGKD1YCBD1XBAJABBIFNJGJGN2W1PKDDHByJL",
        "C-EBG1XBACCBAN1PIBFOD1zF1KCKLANAHDBFBCCAF5-2A8VCFC1FCFCHBABABAB+C1UBOBNCFBSCCBIBKFXH1Q",
        "QBCwBMD1B1+4LEkZWKV1oTCbYDBF1MBAFAC1XHBPWJGBGBGBGBGBGBGBG1B2z1CZB2YM6Vw1ZGPB2VE3EF1KB2",
        "zB2VJ1PBsjMD1WJaxU1OEAK-C2PCFI6yUQBCBDBYCEEJG1XI2DKLYMB1FIYLAMzG1PBBEBCBBMBKEGBYB1IGBC",
        "BLCBHBACJC-B1SBADBCECABAYQCHLFCFCFJGBGB1xE3UBBBDDJGatDMWE1Q88EbNC3J1GGMEFABXBEBABBBBBk",
        "J1APQJW1CBSBDEEB4GE4yC+DFCFCFCCDGBGNBCLBZBSBBBOCN1C3wFCE1MD2XBMDA1P1M4DyD1QQwE1DJzF1FK",
        "zB1EEN1K4zCJG1DE1DE1HI1TLLBOBGBBBKBOBGBBD1TM9WJVKHYFB1JBI2FFCAB1LBBDACWB2HII1QSBBF1ADw",
        "Fw1G1XETC1OPDBCByKIHIH1-1A1EGLJ1VDyCwFZHDMG2Q2I1X1SN1SH1JMJG1FIXIB6Q+B1JDACBQFII1H1HIV",
        "LIWRED1GxUWJAB1VPGEzBBCAM1QEBCBBDOYHJJ1DFAJRI1CBCL1TJABHEBBPBTLRBxDBEFBB1-GBABDBOBKG1O",
        "BCNJIBBHCBCVBGBBBEDABABDCBCBDAMGyJBACAB1FBABBPABBDABCBB1H1XIBDABUBABC+1PBBGABBBACACDIJ",
        "5G1OBBGDCACw1E1SIBBACDLJGMT1KBABBIBGJGTywDABBEAJW5Z1OJACA3E2SMHCACHBBBXBEBBGDBCJJ2GHC1",
        "JIDBDxAK1HGBEHJAGBD1NNACIN2IHJ2XADABA2Y1BOJGIB1FOABFKyD-ZAHACA2LGBBB1FVAJJGFBBB1EEBBAB",
        "AHJG1LEJ7WSCDJOB1DIBDW2WAP1RNsw3G3OBEL6D2iM3CN11PRFZ3swFiG6lZzMCDJ1mGhYH+BJE2QBJGzHAK1",
        "PHOKJBGBUFSdQ1Z6G2wFYCY1M2KF1XLM2ADOEJ76V1J-3B3S8fzDBGBBB9CPAzCCAODIcL28E3KFMDIHJCACA3",
        "rA7yDdTGWPQ2-3T1y7VK1GC1xFCWBHzE1yV2BDA3wTMTM2WJY4H2UB2GBBCACBCDBLBABGB2ABDCHBGBxBDBEB",
        "ADGBaTC9DChR1XD1SHBNBG13U+GF8F1z4S1MKGCJEBaAzS1LEJFAeQxEJ6WzCKEA6A+BCBBBGCEJB7AGBDBBBO",
        "B6ECI1Q2DHAEJEBoR2D2M1y6CDBwBBBACABJBDBABAGAEABABABCBBBACABABABABABBBACDBGBDBDBABJBQFC",
        "BEBQ1UB8O1LE3DMOCOBOB1EK5N1YyN1LEIHBOF4wuYDQDMD6ZGLEAPLE1XIJG1HIzCLEBOI1HaXINCMDKD1YBA",
        "EPCLEJH4SB3G10F19m-1A48zC5kNC79QPjN2dCgz1fC4qKF89J"]),
    (["graphemeextend", "grext"],
      String.join [
        "oA3P8TG8H1MBABBBBBA2IK1QUQA3FGCFCBBD1DA+w2xK1wIJAYDBIBCBE1LC1xI1KXB-1XABAEHEADGKBzA1wA",
        "BACDIAJAKBwACB1ZAEBEBCCDA+BDALB1ZAEEBBEAUBWFBA1wABBBDIAHCKB+A1xABAMAJA1IADA1XABCFCBDHB",
        "LBzA1wACBBADCBDHBLByB1ZBBACDIAJAKBzA2IAEACCBAIA2RACGMH3CACILG2JBxABABA1XNBEBBFKB1DJA3G",
        "DBFBBCBZBECQDNACBGAPAl-CtSDyCzB+B2ABBGIACKJA1NCBA3VB1CA3WCEBJAGC6xBCA1wABGBABACHGJCA1Q",
        "1NCLUD1QJEC1GIMB1ADCF1YABBDABE1YHCB4YCBMBGEAGADB6G1-gMA6D1A2v+C4NA3A-hKF3JBteUDBJ1AB2Q",
        "B8QADAEAZBFA4XBwRNA1GHZKBA1MC1QACDCBCA1EA2DFCBCBMAIA1PA1TABCCBFBBA1KBIA7OACAEAjpQAnBPQ",
        "PbOBizA7CA4VE1kGCBBFD1ICEA5FBhzD2BE9zB2NF2GK1RD3xA1WO1JACBKC1RDCBHA1zC1EEBH1+AMB1UIBAI",
        "DCA2-CCDGACA4zADHVB1ZBBABAMAJAOGDE2DACFBACABCECBAOB2VHCCBAXA2RACFBACABBBB7LACDGBBBxB2V",
        "HCABB3KABACH3FABACDBE8DIBB7VAKDEA4QDCBEA1AJ1IFCDIAJFCC1OMBB6GABCBA6JGBFBA2SVCGBBBB3wFD",
        "ABBBGBA2IBDABAaxBLB1UEFCXA57FAGOb6ILDC2eAE1xG10YA1-D2RALBj5LB4jB1NCWg+EDFIHCG+D4UC1tx1",
        "WE1RIAOAWEBO1aQGBQCGBBBE3EA5AGbXA1zDfyD7+B7TACAHBFAewG3NGo5mV2-4A7P"]),
    (["hex", "hexdigit"],
      "1QJHFwF1vlJJHFwF"),
    (["idsb", "idsbinaryoperator"],
      "bvQBCJfRA"),
    (["idst", "idstrinaryoperator"],
      "bvSB"),
    (["idc", "idcontinue"],
      String.join [
        "1QJHZEABZ1PAKABACAFWB+BeJELOEHABAR3UBBCDBAGEBABTB2SB4KBEC5FB1FCAG1II1MBABBBBBAIwEDzKF2",
        "JE3FBHCJBSCAQ1wC3EO1VEACAC1NSxEKFXBGH2KB4ACJBSBHCBCVBGBADDCICBCDIAEBBECLKABACCBFEBCVBG",
        "BBBBBBCABEEBCCDAHDBAHPLCBIBCBVBGBBBECJBCBCCAPDCJJGBCBHCBCVBGBBBECICBCCHCEBBECJBAQBBFDC",
        "BDDBBABBDBDCDLEEDCBDCAGAOJQMBCBWBPCIBCBDHBBCBBCDCJQDBHBCBWBJBECIBCBDHBFCBDCJBCMMBCB1SB",
        "CBEFDHECJKFBCBRDXBIBACGDAEFBABHGJCBN1ZFOBJ1HBBABEBXBABWCEBABGBJCD1AAXBGJLABABAEJB1DETB",
        "RB1DJA1Z2JG2NC1FBAFAC1KBaMBDCGBABDC1IBDC1ABDCGBABDCOB1YBDC2CCCJIOPQ2VCFDjLCQBZF2KDKHVJ",
        "VLTMMBCBBM2TDAEBCJ1BCBKG2YH1KF2FK+BLELK1HCEL1LEZGK1FxE1+ByCKGJNAINB+CLU2MDJRIM3TM1XIJD",
        "1QCKF1KCCQCB1GFgVCFC1FCFCHBABABAB+C1UBGBADCBGDDCFEMFCBGPB1RBTAyANAQM1TMEADLRAEACJBACFG",
        "ABABABPCDFEEAR1I2jX7EGIM1FBAFAC1XHAPXJGBGBGBGBGBGBGBGB-gFCZOBECEE2VCGB2+F1KB2zR-1QPgA6",
        "d-2AlkM2D1NC8MDxU1PEJB3S1FIC3GC2RU1WEAT1TM2FKJGXDAB1QC1DMyD2AOKG+B1WJNCJGWD2IYCCPCEKFC",
        "FCFJGBGB1KBNG3wBBCJGatDMWE1Q88EbNC3J1GGMEFLBMBEBABBBBB3L1BbKS1-C1V1ILEPQPDBYC1AEB4GTJH",
        "ZEABZK2ZDFCFCFCC1DLBZBSBBBOCN1C3w2F1U4IA4CyD1QPA--NzF1KFzC1DEHBE1K4zCJG1DE1DE1HI1TMKBO",
        "BGBBBKBOBGBBD1TM9WJVKHYFB1JBI2FFCAB1LBBDACWKWJ+2BSBBKVKZGZ1G1XGB2ADBBFHBCByCCEA1AyDy1D",
        "HBzZ1VKVKSNR3O2I1X1SN1SN1HIJG1FDEBW7w1JBBDBQF1S1CKAI1A-V1KUxWJ2G-PJ1xHANYHJG1UBJEDI1DC",
        "AJ2EEDBMBA1DRB1EGD1+GBABDBOBJH1wFJGDBHCBCVBGBBBEBJCBCCCAGAFGCGDELJBACAB1FBJBACABDBHNBz",
        "2KFJED+2FBAIJ5G1VCIXF1C2ADALJ1G1YHJGTywCOEJGG5Z1w3F2JVHCACHBBBzBBCIMJ2GHC1NCHBBx1+IAI2",
        "JDAS2I3HH2Y1APJGIB1MBIPJYzCVBN2JGBBB1LDABBBIIJGFBBB1EBBBFHJG1LEJ7WWJQB1IDENK2VA2PsZ3G3",
        "OR6D2iM3AP11PQVK3swFiG6lZ1Z1mGhYH+BJG2OBJGzCEL1WJDMJJUFSdQ1MDJ6G1-1AYCY1M2KE1YHQ2ABBBL",
        "GJ76V1J-3B3S8fzDBGBBB9CPAzCCAODIcL28E3KFMDIHJDB42RJgG1NCWg+EDFIHCG+D4UCdx2UB2GBBCACBCD",
        "BLBABGB2ABDCHBGBxBDBEBADGBaTCYBYB+BYB+BYB+BYB+BYBHC1RgA1WE1RIAOAWEBO12Q+GF6VGBQCGBBBEF",
        "1z1BA3Q1MDNCJEAaB+R1ZeW1J6W1K6F+BVIB7AGBDBBBOB6ELG1J2LEJ15GDBwBBBACABJBDBABAGAEABABABC",
        "BBBACABABABABABBBACDBGBDBDBABJBQFCBEBQ39UJ10G19m-1A48zC5kNC79QPjN2dCgz1fC4qKF89Jlj4G7P"]),
    (["ids", "idstart"],
      String.join [
        "2BZGZ1PAKAEAFWB+BeJELOEHABA4BEBBCDBAGABCBABTB2SB4KI5FB1FCAG1I2HwED1N1K1DBB3CBAPBHBKCCA",
        "QABzz2YLAY1AJBEAFVEAJADAXYHKFXBGQ1J1w1VDASAHJPPEHCBCVBGBADDDAQANBBCOBKAIFEBCVBGBBBBBB-",
        "DBATCQIBCBVBGBBBEDASAPBXALHCBCVBGBBBEDA+BBCPARABFDCBDDBBABBDBDCDLWA1UHBCBWBPDAwCBBCB+A",
        "EHBCBWBJBEDA+CBBPBRIBCB1ICAQAFCICYFFRDXBIBACG1w1PBBMG1wBBABEBXBABJBBJACEBAVD1AA1-HB1Dx",
        "E3T1KUAQFEDDADBHCEMMAR1FBAFAC1KBaMBDCGBABDC1IBDC1ABDCGBABDCOB1YBDC2C1FPQ2VCFDjLCQBZF2K",
        "DKHRNSOROMBCP1T1DAEA2D2YH1IBAF2FK+1RzCEL1LEZ1WWJ1U2SA2z1ORH1WzNBK1Lw1D1JCK1DCKF1KCC1JD",
        "BFBBDAF5-2A8VCFC1FCFCHBABABAB+C1UBGBADCBGDDCFEMFCBG3UANAQM3FAEACJBACFGABABABPCDFEEAR1I",
        "2jX7EGDDBM1FBAFAC1XHAQWJGBGBGBGBGBGBGBGhGCZIHECEE2VEEB2ZBDF1KB2zR-1QPgA6d-2AlkM2D1NC8M",
        "DPKBU1OQ+C2P1HIC3GC2RUQBCBDBWz1TO1R1+FDABBLxKWZyH1OyAQEBJKEB1IXCBHUWDAD1RBADBCECABAYCC",
        "KHCMFCFCFJGBGB1KBNG3SzatDMWE1Q88EbNC3J1GGMEFABJBMBEBABBBBB3L1BbKS1-C1V1IL3UEB4G1EZGZL2",
        "YDFCFCFCC1DLBZBSBBBOCN1C3w2F1U8LyD1Q1P-NzF1FKzC1DEHBE1K4zS1DE1DE1HI1TMKBOBGBBBKBOBGBBD",
        "1TM9WJVKHYFB1JBI2FFCAB1LBBDACWKWJ+2BSBBKVKZGZ1G1XGB2AAPDBCBy1KyDy1DHBxx1VKVKSNR3O2I1X1",
        "SN1SN1D1GxJW7w1JGBQF1YyKAIV1KR1OUxWM1U1ZBCAN1M1AYw1DzACAI1CDAM1PODVABA1DRBYTB1-GBABDBO",
        "BJH1O1GHCBCVBGBBBEDASAME+JBACAB1FBAZABA1M1USDUC+1PUBBA5Y1O1JD1E1PUA1x1KNA2Hw1FG5Z1L3U1",
        "--HCACHBBBXPABA2+HC1GQABAyAK1HHAVAL1NTAS2I6H1A-IB1ERA1Rz3QGBBB1FVAZFBBB-OAX1L8ESPABMB1",
        "B3yA2PsZ3G3OR6D2iM3AP11PRFZ3swFiG6lZz1nChYH+R2ORzS1PQD-UFSdQ1M6T1-1AYCY1M2KFA2CM2ABBAO",
        "EJ76V1J-3B3S8fzDBGBBB9CPAzCCAODIcL28E3KFMDIHJ5rG2UB2GBBCACBCDBLBABGB2ABDCHBGBxBDBEBADG",
        "BaTCYBYB+BYB+BYB+BYB+BYBH1pU+GF8F1z4S1MKGQAaBzS1LfEx7EzCA6P+BCBBBGCEJB7AGBDBBBOB6E1x2D",
        "HA15UDBwBBBACABJBDBABAGAEABABABCBBBACABABABABABBBACDBGBDBDBABJBQFCBEBQ4aE19m-1A48zC5kN",
        "C79QPjN2dCgz1fC4qKF89J"]),
    (["ideo", "ideographic"],
      "c0GBZIOCuF6d-2Akf-m8AbNC3Jt8KANEJ76V1J-3B3S8rzcLj8E19m-1A48zC5kNC79QPjN2dCgz1fC4qKF89J"),
    (["joinc", "joincontrol"],
      "80MB"),
    (["loe", "logicalorderexception"],
      "3iAE3xE2nQCCA147wBCABB"),
    (["lower", "lowercase"],
      String.join [
        "3BZ1PAKAEA1EXBHBABABABABABABABABABABABABABABABABABABABABABABABABABABABBBABABABABABABAB",
        "BBABABABABABABABABABABABABABABABABABABABABABABACABABCCABACADBEACADCCACABABACABBBACADAB",
        "ACBCCGACACABABABABABABABABBBABABABABABABABABBCABADABABABABABABABABABABABABABABABABABAB",
        "ABABABABABABABABABABABGCACBBAEABABABAB2EC1CHB+E3AA1LABADACDSAx1CBBDCBABABABABABABABABA",
        "BABABEBACACB1T1PBABABABABABABABABABABABABABABABABAJABABABABABABABABABABABABABABABABABA",
        "BABABABABABABABABACABABABABABABBBABABABABABABABABABABABABABABABABABABABABABABABABABABA",
        "BABABABABABABABABABABABABABABABABABABABABA1Q1I2qH1KBDnYF24CIBA3V5-2BABABABABABABABABAB",
        "ABABABABABABABABABABABABABABABABABABABABABABABABABABABABABABABABABABABABABABABABABABAB",
        "ABABABABABABABABABABABABABABABABABABABABABABIBABABABABABABABABABABABABABABABABABABABAB",
        "ABABABABABABABABABABABABABABABABABABABABABABABABABABABABIIFKHIHIFKHIHINCHIHIHIEBBGADCB",
        "BIDCBIHKCBB3ZANAQM3NADBDAxAEAEACBIDEA1BPEAqLZ1qG1PBADBBABABAEABBBHDABABABABABABABABABA",
        "BABABABABABABABABABABABABABABABABABABABABABABABABABABABABABABABABABABABABABABABBHABAEA",
        "M1FBAFAu8TABABABABABABABABABABABABABABABABABABABABABABATABABABABABABABABABABABABABC4FA",
        "BABABABABABCBABABABABABABABABABABABABABABABABABABABABABABABABABABABABABABJBABACABABABA",
        "BAEABACABCBABABABABABABABABABAFAFABABABABABABABAEABACABABABABABABABAVDBABCpV1KBNG2PjqA",
        "GME11JZ16N1H4I1D4xKBOBGBBeDACCB1JBI18F1S3zV2pw-lcA-1xYpaGZwGBRwZwDBABGBKwZwZwZwZwZwZwZ",
        "wZwxyYBFwYBFwYBFwYBFwYBFBA1pUJBTGF8F1z25U1B"]),
    (["math"],
      String.join [
        "1LAQC-AzABA1NAEA1FA-AmYCCAwBCCgPC6gNAxCLADANAODVELE2BMEADBEESAEACJBACFGADBCBBCBFDNBA2E",
        "XBFBBEBE-BAGBO8LIDUB2wA+wBAYALGdzBMJEFEBCBDEOABACFLHFB1ZABAzDJCaQ1-8Af-1QUCF1juyApXFBA",
        "5CAQCzABAzABA4DAGD3dBB1gbAA18P2UB2GBBCACBCDBLBABGB2ABDCHBGBxBDBEBADGBaTC9DC1R5gADBwBBB",
        "ACABJBDBABAGAEABABABCBBBACABABABABABBBACDBGBDBDBABJBQFCBEBQ1UB2e+I"]),
    (["nchar", "noncharactercodepoint"],
      String.join [
        "1veQ-gOB1vv+B1vv+B1vv+B1vv+B1vv+B1vv+B1vv+B1vv+B1vv+B1vv+B1vv+B1vv+B1vv+B1vv+B1vv+B1vv",
        "+B"]),
    (["patsyn", "patternsyntax"],
      "1BOKGwDBAwD1CGBABBBABBEAEADAXA-A7oYXIOCSBJ9RmP5AjV+13LgA3-cBCEYPA1j8NB8FB"),
    (["patternwhitespace", "patws"],
      "JESA3EA7sIBYB"),
    (["qmark", "quotationmark"],
      "1CAEA4DAPA7qyHZB3gHAeJDNC1jhBD5zAEA2wB"),
    (["radical"],
      "bkAZB2YM6V"),
    (["regionalindicator", "ri"],
      "3sfGZ"),
    (["sentenceterminal", "sterm"],
      String.join [
        "1BAMAQA1aJA4TC5UA1LC7WA1zABADB9FB1nEBoWAEBoFA6GB4zB1NAFA9wBbCD5CBKBCBzC5xB2BBtEAXBJC35",
        "PC9SANAWBdNAt7yA8OB7DADAb+B2WB2-A4YB4TC4QB7ZAkhGACB1xADB5JAMAQA2BA2nUB17zE1MD5zB3VD3-C",
        "4BBGAQB2YBBB3MA9KB3VBbVBFO3JB7ZCgFABA7xB2XBdEBlUB2KBipJB4FA2BBLAhJB9IAjgGA7fIA"]),
    (["sd", "softdotted"],
      String.join [
        "3JB6EA8ZA+A1UAUAaAA3CABA68JA1TANADA4EA4zAdFA6WB2pSA39tFB1SB1SB1SB1SB1SB1SB1SB1SB1SB1SB",
        "1SB1SB24GA9RBwA"]),
    (["term", "terminalpunctuation"],
      String.join [
        "1BAKABALBDAp+AIAgBA1ZA2IAOABC5UA1LKBA7LB1WFBH-A8FB17UB5MAEF9XBoVHoFA3yC2HB4zCDA1HDCB9w",
        "BbCD5CBKBBCzC5xE1+BtEAXBJC35PC9SANAEAKABBDBdMBt7xB8NC7DEb+B2WB2-A4XC4TC3-AQB7ZAkhGACB1",
        "ZCBD5JAKABALBDA2BACA11wA1QA14GA6HA9WB4YF2EF2ZDtYE1MD5zG3QD3-C4BBGAQB2YE3MA9KB3VCMBbGDD",
        "O3JB7ZCgFABA7xB2XBEBc+C1NAkFB2KB19LEhfZB4FA2BCKAhJB9HBjgGA7fHD"]),
    (["uideo", "unifiedideograph"],
      "d0A6d-2Akf-mgOBBABBKABABBCC21eW19m-1A48zC5kNC79QPjN4dC4qKF89J"),
    (["upper", "uppercase"],
      String.join [
        "2BZ3FWBG1BABABABABABABABABABABABABABABABABABABABABABABABABABABABACABABABABABABABACABAB",
        "ABABABABABABABABABABABABABABABABABABABABABBBABADBBABBBCCDBBBCDBBBBABABBBACABBBCBABBDAH",
        "ACACACABABABABABABABACABABABABABABABABACACABCBABABABABABABABABABABABABABABABABABABABAB",
        "ABABABABABABABABAHBBBCABDBABABABA9BABADAIAGABCBABBBQBI1DACCDABABABABABABABABABABABAFAC",
        "ABBC1S1QABABABABABABABABABABABABABABABABAJABABABABABABABABABABABABABABABABABABABABABAB",
        "ABABABABABBBABABABABABACABABABABABABABABABABABABABABABABABABABABABABABABABABABABABABAB",
        "ABABABABABABABABABABABABABABABABAC1F2qJ1FBAFAmS2V24TAG1KCCaAABABABABABABABABABABABABAB",
        "ABABABABABABABABABABABABABABABABABABABABABABABABABABABABABABABABABABABABABABABABABABAB",
        "ABABABABABABABABABABABABABABABABABABAJABABABABABABABABABABABABABABABABABABABABABABABAB",
        "ABABABABABABABABABABABABABABABABABABABABABABABABAJHIFKHIHIFLABABABAIH2IDMDMDMELD8GAEAD",
        "CCCCADEGABABABDCDKBFAwPTApSZ1pQ1P1QABCCABABABDBACAICBABABABABABABABABABABABABABABABABA",
        "BABABABABABABABABABABABABABABABABABABABABABABABABABABABABABABABAIABAEAuaNABABABABABABA",
        "BABABABABABABABABABABABABABABABATABABABABABABABABABABABABABA4HABABABABABABADABABABABAB",
        "ABABABABABABABABABABABABABABABABABABABABABABABABABAKABABBBABABABAEABACABADABABABABABAB",
        "ABABABABEBEBABABABABABABABDBABBBABABABABABABABAYAlpLZ16F1H4I1D4yKBOBGBB1nK1S4zV2pw-lcA",
        "-2AYpaHZwZwZwABBCACBCDBHwZwBBDCHBGxBBDBEBADGxZwZwZwZwZwZ+Y1BY1BY1BY1BY1BA49V1B20OZGZGZ"]),
    (["variationselector", "vs"],
      "60LCBA1pfQPq0nQ7P"),
    (["space", "whitespace", "wspace"],
      "JESA3EAwA5e-A2b-KzBFA1PA3tAA"),
    (["xidc", "xidcontinue"],
      String.join [
        "1QJHZEABZ1PAKABACAFWB+BeJELOEHABAR3UBBDCBAGEBABTB2SB4KBEC5FB1FCAG1II1MBABBBBBAIwEDzKF2",
        "JE3FBHCJBSCAQ1wC3EO1VEACAC1NSxEKFXBGH2KB4ACJBSBHCBCVBGBADDCICBCDIAEBBECLKABACCBFEBCVBG",
        "BBBBBBCABEEBCCDAHDBAHPLCBIBCBVBGBBBECJBCBCCAPDCJJGBCBHCBCVBGBBBECICBCCHCEBBECJBAQBBFDC",
        "BDDBBABBDBDCDLEEDCBDCAGAOJQMBCBWBPCIBCBDHBBCBBCDCJQDBHBCBWBJBECIBCBDHBFCBDCJBCMMBCB1SB",
        "CBEFDHECJKFBCBRDXBIBACGDAEFBABHGJCBN1ZFOBJ1HBBABEBXBABWCEBABGBJCD1AAXBGJLABABAEJB1DETB",
        "RB1DJA1Z2JG2NC1FBAFAC1KBaMBDCGBABDC1IBDC1ABDCGBABDCOB1YBDC2CCCJIOPQ2VCFDjLCQBZF2KDKHVJ",
        "VLTMMBCBBM2TDAEBCJ1BCBKG2YH1KF2FK+BLELK1HCEL1LEZGK1FxE1+ByCKGJNAINB+CLU2MDJRIM3TM1XIJD",
        "1QCKF1KCCQCB1GFgVCFC1FCFCHBABABAB+C1UBGBADCBGDDCFEMFCBGPB1RBTAyANAQM1TMEADLRAEACJBACFG",
        "ABABABPCDFEEAR1I2jX7EGIM1FBAFAC1XHAPXJGBGBGBGBGBGBGBGB-gFCZOBECEE2VCBCCB2+F1KB2zR-1QPg",
        "A6d-2AlkM2D1NC8MDxU1PEJB3S1FIC3GC2RU1WEAT1TM2FKJGXDAB1QC1DMyD2AOKG+B1WJNCJGWD2IYCCPCEK",
        "FCFCFJGBGB1KBNG3wBBCJGatDMWE1Q88EbNC3J1GGMEFLBMBEBABBBBB3L1B4KG6ZS1-C1V1IJGPQPDBYC1BAB",
        "ADABABABAB3zTJHZEABZK2ZDFCFCFCC1DLBZBSBBBOCN1C3w2F1U4IA4CyD1QPA--NzF1KFzC1DEHBE1K4zCJG",
        "1DE1DE1HI1TMKBOBGBBBKBOBGBBD1TM9WJVKHYFB1JBI2FFCAB1LBBDACWKWJ+2BSBBKVKZGZ1G1XGB2ADBBFH",
        "BCByCCEA1AyDy1DHBzZ1VKVKSNR3O2I1X1SN1SN1HIJG1FDEBW7w1JBBDBQF1S1CKAI1A-V1KUxWJ2G-PJ1xHA",
        "NYHJG1UBJEDI1DCAJ2EEDBMBA1DRB1EGD1+GBABDBOBJH1wFJGDBHCBCVBGBBBEBJCBCCCAGAFGCGDELJBACAB",
        "1FBJBACABDBHNBz2KFJED+2FBAIJ5G1VCIXF1C2ADALJ1G1YHJGTywCOEJGG5Z1w3F2JVHCACHBBBzBBCIMJ2G",
        "HC1NCHBBx1+IAI2JDAS2I3HH2Y1APJGIB1MBIPJYzCVBN2JGBBB1LDABBBIIJGFBBB1EBBBFHJG1LEJ7WWJQB1",
        "IDENK2VA2PsZ3G3OR6D2iM3AP11PQVK3swFiG6lZ1Z1mGhYH+BJG2OBJGzCEL1WJDMJJUFSdQ1MDJ6G1-1AYCY",
        "1M2KE1YHQ2ABBBLGJ76V1J-3B3S8fzDBGBBB9CPAzCCAODIcL28E3KFMDIHJDB42RJgG1NCWg+EDFIHCG+D4UC",
        "dx2UB2GBBCACBCDBLBABGB2ABDCHBGBxBDBEBADGBaTCYBYB+BYB+BYB+BYB+BYBHC1RgA1WE1RIAOAWEBO12Q",
        "+GF6VGBQCGBBBEF1z1BA3Q1MDNCJEAaB+R1ZeW1J6W1K6F+BVIB7AGBDBBBOB6ELG1J2LEJ15GDBwBBBACABJB",
        "DBABAGAEABABABCBBBACABABABABABBBACDBGBDBDBABJBQFCBEBQ39UJ10G19m-1A48zC5kNC79QPjN2dCgz1",
        "fC4qKF89Jlj4G7P"]),
    (["xids", "xidstart"],
      String.join [
        "2BZGZ1PAKAEAFWB+BeJELOEHABA4BEBBDCBAGABCBABTB2SB4KI5FB1FCAG1I2HwED1N1K1DBB3CBAPBHBKCCA",
        "QABzz2YLAY1AJBEAFVEAJADAXYHKFXBGQ1J1w1VDASAHJPPEHCBCVBGBADDDAQANBBCOBKAIFEBCVBGBBBBBB-",
        "DBATCQIBCBVBGBBBEDASAPBXALHCBCVBGBBBEDA+BBCPARABFDCBDDBBABBDBDCDLWA1UHBCBWBPDAwCBBCB+A",
        "EHBCBWBJBEDA+CBBPBRIBCB1ICAQAFCICYFFRDXBIBACG1w1PBANG1wBBABEBXBABJBAKACEBAVD1AA1-HB1Dx",
        "E3T1KUAQFEDDADBHCEMMAR1FBAFAC1KBaMBDCGBABDC1IBDC1ABDCGBABDCOB1YBDC2C1FPQ2VCFDjLCQBZF2K",
        "DKHRNSOROMBCP1T1DAEA2D2YH1IBAF2FK+1RzCEL1LEZ1WWJ1U2SA2z1ORH1WzNBK1Lw1D1JCK1DCKF1KCC1JD",
        "BFBBDAF5-2A8VCFC1FCFCHBABABAB+C1UBGBADCBGDDCFEMFCBG3UANAQM3FAEACJBACFGABABABPCDFEEAR1I",
        "2jX7EGDDBM1FBAFAC1XHAQWJGBGBGBGBGBGBGBGhGCZIHECEE2VGCB2ZBDF1KB2zR-1QPgA6d-2AlkM2D1NC8M",
        "DPKBU1OQ+C2P1HIC3GC2RUQBCBDBWz1TO1R1+FDABBLxKWZyH1OyAQEBJKEB1IXCBHUWDAD1RBADBCECABAYCC",
        "KHCMFCFCFJGBGB1KBNG3SzatDMWE1Q88EbNC3J1GGMEFABJBMBEBABBBBB3L1B4KG6ZS1-C1V1IJ3XABADABAB",
        "ABAB3z1EZGZL1XC+DFCFCFCC1DLBZBSBBBOCN1C3w2F1U8LyD1Q1P-NzF1FKzC1DEHBE1K4zS1DE1DE1HI1TMK",
        "BOBGBBBKBOBGBBD1TM9WJVKHYFB1JBI2FFCAB1LBBDACWKWJ+2BSBBKVKZGZ1G1XGB2AAPDBCBy1KyDy1DHBxx",
        "1VKVKSNR3O2I1X1SN1SN1D1GxJW7w1JGBQF1YyKAIV1KR1OUxWM1U1ZBCAN1M1AYw1DzACAI1CDAM1PODVABA1",
        "DRBYTB1-GBABDBOBJH1O1GHCBCVBGBBBEDASAME+JBACAB1FBAZABA1M1USDUC+1PUBBA5Y1O1JD1E1PUA1x1K",
        "NA2Hw1FG5Z1L3U1--HCACHBBBXPABA2+HC1GQABAyAK1HHAVAL1NTAS2I6H1A-IB1ERA1Rz3QGBBB1FVAZFBBB",
        "-OAX1L8ESPABMB1B3yA2PsZ3G3OR6D2iM3AP11PRFZ3swFiG6lZz1nChYH+R2ORzS1PQD-UFSdQ1M6T1-1AYCY",
        "1M2KFA2CM2ABBAOEJ76V1J-3B3S8fzDBGBBB9CPAzCCAODIcL28E3KFMDIHJ5rG2UB2GBBCACBCDBLBABGB2AB",
        "DCHBGBxBDBEBADGBaTCYBYB+BYB+BYB+BYB+BYBH1pU+GF8F1z4S1MKGQAaBzS1LfEx7EzCA6P+BCBBBGCEJB7",
        "AGBDBBBOB6E1x2DHA15UDBwBBBACABJBDBABAGAEABABABCBBBACABABABABABBBACDBGBDBDBABJBQFCBEBQ4",
        "aE19m-1A48zC5kNC79QPjN2dCgz1fC4qKF89J"])]

/-- The code points of the binary property that a name stands for. -/
def property? (name : String) : Option Ranges :=
  (propertyText.find? fun p => p.1.contains name).map fun p => rangesOfText p.2

end Unicode
end ApiContract
