import ApiContract.Unicode.Table

/-!
# Characters of internationalized domain names

Before a domain name is encoded, each character is kept, left out, replaced by
others, or refused.
-/

namespace ApiContract
namespace Domain

/-- The code points that are kept. -/
def keptText : String :=
  String.join [
    "A2Aw1E1BGBABBBABBEBDADAXAH1ABABABABABABABABABABABABABABABABABABABABABABABABABADABBBABABADABA",
    "BABACABABABABABABABABABABABABABABABABABABABABABABACABABABACABACADBEACADCCACABABACABBBACADABA",
    "CCBGKABABABABABABABBBABABABABABABABABBEADABABABABABABABABABABABABABABABABABABABABABABABABABA",
    "BABABABGCACBBAEABABABAB3AJ+GBF2wCADIB-BABABABADCSAx1CIABABABABABABABABABABABABADACABACB1T1PB",
    "ABABABABABABABABABABABABABABABABIBABABABABABABABABABABABABABABABABABABABABABABABABABABACABAB",
    "ABABABABBBABABABABABABABABABABABABABABABABABABABABABABABABABABABABABABABABABABABABABABABABAB",
    "ABABABABABABA1J1NBCCCB1WIwEFRVB2XE3DB1PC1wC3EO1wC1QCOBxCABKF+J2JB3UI1DBHCBCVBGBADDCICBCDIAID",
    "CYCCBFEBCVBGBACACBCABEEBCCDAKAJQKCBIBCBVBGBBBECJBCBCCAPDCLHGBCBHCBCVBGBBBECICBCCHCHECRKBBFDC",
    "BDDBBABBDBDCDLEEDCBDCAGAOUFMBCBWBPCIBCBDHBBCCACDCJHVBCBWBJBECIBCBDHBGBBDCJBCMMBCB1SBCBFEPCZB",
    "CBRDXBIBACGDAEFBABHGJCCM1RBGEy1FBBABEBXBABLBJCEBABGBJEB1ALB1VBDBDBDBDBDBLBCEBBAFGBQBDBDBDBDB",
    "DBLBCBOBM1F4-1Q1LB3BC7HBDCGBABDC1IBDC1ABDCGBABDCOB1YBDC2CC-DZG2VKj-BxD2YHVJXJTMMBCBBM1TC1HCJ",
    "GJGFBDFJG2YH1KF2FK+BLELEAD1JCEL1LEZGKD1zC2AByCKGJGNC+1R2MD1OB3TI1xDOD1S2AHI1KF1LDALASAyMB1B1",
    "F1-BABABABABABABABABABABABABABABABABABABABABABABABABABABABABABABABABABABABABABABABABABABABAB",
    "ABABABABABABABABABABABABABABABABABABABABABABABABABABABABABABECBBABABABABABABABABABABABABABAB",
    "ABABABABABABABABABABABABABABABABABABABABABABABABABABABABABABABABABABIIFKHIHIFKHIHIABABABABAB",
    "ABA1TBEAPAJCDBICBDOAVBCABEBLDAICCACDBABHDMBG2BHBXP1ATADALACBFBDABABABAEALAGDFF1QCBEBBE4xCAC7",
    "XC7xZK5A19AB3GD3EB4WC-B3I1Q1PBADBBABABAEABBBFFABABABABABABABABABABABABABABABABABABABABABABAB",
    "ABABABABABABABABABABABABABABABABABABABABABABABABABABHBABDBAF1MBAFAC1XIAOXJGBGBGBGBGBGBGBGB3z",
    "1CZBDB2S8OAB1SBADEB2VCBCBB2+G1K3ABO2DMP2IH1PAcAs4MD1WJaxVABABABABABABABABABABABABABABABABABA",
    "BABABABABSBABABABABABABABABABABABABABAC2ZI1BBABABABABABABCBABABABABABABABABABABABABABABABABA",
    "BABABABABABABABABABABABABABABHBABACABABABABDBABBBABCBABABABABABABABABABAFAFABABABABABABABAEA",
    "BAGABABABABAyBC1SDJG1XI2FILG3TLzD2NBKE1AB1WJNCJC3GYxKFCFCFJGBGB1LEIBB2U1NCJGatDMWE1Q8gSBBABB",
    "KABABBCC7UA4TQbxR3-A1NC1APVB1MAcMLBZBSBBBOCN1C3wFCE1MD2XBMDA1P1N4CyD1QPxE1DJzF1KFzB1EEN2S3VC",
    "J1O1DE1HI1TLA1HKBOBGBB2D9WJVKHYA3-FCAB1LBBDACWB2HII1QSBBF1ADwFA2A1XETC1RBBFHBCByCCEJHIH1-1A1",
    "GELJ1VDyCwFZHDMG2Q2I3X1SH1NIJ9G+B1JBCCB2L1KI1JWZ1GxUWJ2NE1DJ1zBENYHJG1UBRI1GJ2-BTLRB1O1+GBAB",
    "DBOBKG1wFJGDBHCBCVBGBBBEBJCBCCCAGAFGCGDE4L2xBE+2HIJ5G1VC1F1C2ELJGMT1ZGJ1WwCOEW5Z1x4E1SMHCACH",
    "BBBzBBCLJJ2GHC1NCKx2HI2SN2IHJ7WIB1MBNKyD-CVBN2JGBBB1LDABBBIIJGFBBB1EBBBFHJ9WYHQB1IDx2WAP1RNs",
    "w3G3OBEL6D2iM3CN11PQV3tKiG8dZhYH+BJE2QBJGzCFK2FKJBGBUFSmQ1w3F2KE1YHQ2AELBO5vXI16V1KI8nHDBGBB",
    "B9CPAzCCAODIcL28E3KFMDIHJCD4jA1NCWJ3T1y7VK1GC1UHNI1-G1JV2F3wTMTM2WJY14HkLPEBO12Q+GF6VGBQCGBB",
    "BE3EA3Q1MDNCJEBaA+R1ZFAeQ1JnGGBDBBBOB6ECP2L1JEJEBoR2D2M1ydSB8O1LE3DMOCOBOB1EVE-A1AZD1CBy1YZ3",
    "AF4wuXEQDMD3WE2+GLEAPLE1XIJG1HIzCB2OaTMNCMDIH1NBGINEIHIH4SB1W11V19m-1A41ZG6zC5kBO79QPjN4dC4q",
    "KF42-"]

/-- The code points that are left out. -/
def ignoredText : String :=
  "5NAlBA55xCBA1vxA2UADA1ncxP7PA1fdADoh2y7P"

/-- The code points that are replaced by one other, in runs of equal distance. -/
def replacedText : String :=
  String.join [
    "2BZA2A2-AA7-KAA4RIBA7-DAA1gOEAA8PBAA4VGWA2AYGA2A1IXBC1UBBCFCBCIDBCJWBC1OAA7RBCBCGAAgXCAAdEBB",
    "BCEAAcyBAACCBAcwCAACDAA4+BAAcUBAAcWBAACCAAcwBAAc+CAAdGBAAdCBAACEAAdGBAAdKCAAdMBCBCGAAdUBAACC",
    "AAdUDAACCAAdUBAACCBAdSCBBCEAAdWBAACEAACRHBCRIBCWAACCAA6BBAA3PBTBC1IAA8DCIBCYAAl2WBAACCAAaFBA",
    "Al2QDAACCAAcFBAA4KBAA4OBEBC3KAA14PBAA4VBAA14PBAA14BBAA3VBAA3TBAA3JBAA13-BAA13z1IAA7ZBAA17JBA",
    "A16zBAA16VBAA4z2yBA3-DAA2-CAA7I1LBBCEAAbVCAACIAA1kFBAA7IHAA2MBAA1c-BCA2KEAA4ACBA3+DQA2ASIA2A",
    "1MAAQBAA1xBAA1RBAAZBAALBAARBAAzBAA1LCLBCYAA3LBAA2-BAA2zCAA3XBAA3-CAACCAA3LBAACDCA8DDPA5AQ-A2",
    "A2QQBC1KwBC1XGBCP1PBC3B1FA3A2exAABdxAAe6AGAAe6A1PAA1-nyFAP24IAAc4xBAAc4ZBAAc4HBBAc4DCAAc4FBA",
    "Ac3XBAAc2HBAA24sGI1KA5r-1NCA5r-3PAAecVBAAe4NBBBecXDAAecXBAAdlJBHAecXJAAecZBAAdhTBAAecxBAAecZ",
    "BBAecXCAAecVBAAeeDBBAdfHCAA4HBAAeeJBBAeeHCAAdfBBBAde-CAAeeLCAAeeHBAAeeFBAAe0LBAAeeFBAAdfzBBA",
    "3xCAAeeLBBAeeFCAA3XBAAdeVBAAeeJBAA3NBCAcqVDBAcpTCAAefRBAAefBBBAeezCBAcrHCAAcqNBBAcqFPAAcjV1D",
    "AAdkRBAAejRBAAdkPBAAeaxBAAdkFBAAejTBAAdkDBAAdkBBAAdjxBCAdjXDAA2XBAAdgVBAAdjXBAA2JBAAdgXBAAdj",
    "VBAAdjZBDAdjXEAAdjTBBAdjBCAAe0TBBAdiZCAA9XBBAdixCAAekBBCAdiXDAAd0N2B2KBC4xAA3TDAAerzC1PBC3IH",
    "APQFAPQHAPQHAPQFAPRDBPPHAPJAAdsJCAAdsLCAAdsNCAAdsPCAAdqZCAAdqxCAAdqz1xBAPCAA4TBAAe0zDAAe0JKA",
    "A5LBAAe1XBAA5LBAAe1ZIAAe4FFBAPCAA6HBAAe2XIAAe3FFBAPCAA6-BAAe1xBAANDAAfozJAA7-BAAe2ZBAA7xBAAe",
    "2ZFAAft-BAAfuBBAAfuDBAAfuFBAAfuHBAAfuJBAAfuLBAAfuNBAAfuPBAAfuRBAAfuTHAAB+AAg0z1QAAg3zRAAg3-B",
    "AAg0PDFAg3-GAAg4zBAApOBAAg3zBBAg5JCAAg1BBJAg4-KAAg5zBAAoOBAAg4zBBAg6JDAAg2zBAAg2XBAAg2FBAAg1",
    "VBAAf3VBAAg2ZBDAg2VEAAg2TBBAg2P3HAAg9zFAAfaXDBAgaFCAAgaHBAAgaJBAAgaLBAAfuPBAAgaNBAAgaPBAAgaL",
    "BBBgaNGCAgaRDAAgaTBAAgaVHAAgaTCAAelZCAAgaxCAAgbzBAAg4LBBAgcTDAAgcTBBAgcVDAAgcLBAAgcJBDAdmJEA",
    "Agc-DAAenXBAAeoTBAAeoVBAAenzBAAdCFAAgeBBBAgeDCBAgdzYAAgfNEAAgexFAAgfBDAAgf-BBAggTCAAggDBAAgg",
    "NEAAgfxFAAggBDAAgg-BBAghTCAAghDdKBA6d+9XIAi2z2WZAi5JwZAi6zwAAibT1oW1PA3A3AAACCAAkvNBAA7eLBAA",
    "kuNDCBCGAAl1XBAAkvZBAAl1zBAAl1xCAACDAACHAAm1DBAAm0NBBAl3zC1RBC3LBBCHAAC3zAAx9QAAuiy2UAA1oaYN",
    "AAfgABAAfiOBAAfjIBAAfjYBAAflKBAAfoABAAfoMBAAfpSBAAfrEBAAh3MBAAh5WBAAh6ABAAh7MBAAh8SBAAh9wBAA",
    "hdCBAAheKBAAhe+BAAhoSBAAhuMBAAi0CBAAi0KBAAi2EBAAi2UBAAi4IBAAi5ABAAi6QBAAi9WBAAiaYBAAicMBAAjr",
    "SBAAk0ABAAksWBAAkuCBAAkuQBAAkvEBAAl0GBAAl4yBAAm2UBAAm5SBAAmdABAAmeMBAAmfQBAAmgwBAAmkEBAAmkIB",
    "AAnawBAAnbMBAAncCBAAncwBAAnkABAAnkOBAAnkWBAAnr+BAAnsQBAAntIBAAntWBAAo1OBAAo2OBAAo3QBAAo8OBAA",
    "pcWBAApfQBAApgYBAAqu+BAAqvGBAAr4KBAAr5IBAAr6ABAAr7IBAAr9UBAAr9yBAArqQBAArr+BAArtyBAAttKBAAu1",
    "MBAAu2YBAAu6KBAAu7YBAAu8IBAAu8UBAAubwBAAucCBAAueABAA10hMBAA11dIBAA11d+BAA11eGBAA11eMBAA11ewB",
    "AA11fyBAA11f+BAA11k+BAA122MBAA122UBAA12nYBAA12oKBAA12rMBAA12rYBAA12sIBAA12sWBAA132KBAA132WBA",
    "A13gyBAA13hIBAA13kIBAA13lIBAA13oEBAA146yBAA147IBAA148IBAA14sUBAA154OBAA154YBAA15gCBAA15lOBAA",
    "15oIBAA16fwBAA16oCBAA17ryBAA17tQBAA181ABAA184EBAA188KBAA188+BAA189IBAA18bIBAA18f+BAA18gQBAA1",
    "96CBAA196OBAA196+BAA197OBAA198MBAA199IBAA199OBAA19eKBAA19eQBAA19ewBAA1bcCBAA1bdyBAA1cbEBAA1c",
    "bwBAA1cdGBAA1cuwBAA1cvSBAA1d3+BAA1d6YBAA1eaEBAA1ebABAA1ebyBAA1eeABAA1egIBAA1esUBAA1etKBAA1f1",
    "OBAA1fgyBAA1fiYBAA1fvYBAA1g1ABAA1g1IBAA1ge+BAA1gqMBAA1h2EBAA1h2OBAA1h2WBAA1itABAA1itQBAA1j7G",
    "BAA1jgYBAA1jgyBAA1jjYBAA1jqIBAA1jrABAA1jrGBAA1jrSBAA1k1UBAA1k3WBAA1k4ABAA1k4wBAA1kfGBAA1kiKB",
    "AA1kiQBAA1ktyBAA1kuABAA1kvEBAA1lewBAA1lhYBAA1liEBAA1lmOBAA1lnABAA1lnEBAA1lnWBAA1lpQBAA1miEBA",
    "A1nbCBAA1nbUBAA1nd+BAA1nfIBAA1nfWBAA1ngIBAA1ngOBAA1niyBAA1njCBAA1nkCBAA1nkKBAA1nlCBAA1nmWBAA",
    "1nnSBAA1noABAA1nrUBAA1nsQBAA1nsW1LAAnt-CAAntH1UAA2HCAAhgSBBAhgW7YBAg3BCAAfoRBAAg3DBBAfoRCCAg",
    "3HDFAfoTGAAg2LBCAg3VDAAg2FBJAg3XKUAfuxWBAg5BCBAfp-CAAfpZBAAfpXBAAfpPBAAfpJBAAfpHBAAg5DBAAfpD",
    "BAAfpBBBAg5HCAAg5FBBAg5DCAAg4zBAAg4xBEAg4ZFAAg4VBAAg4PBAAg3zBAAg3RBAAg3JBBAfpBCCAg2ZDBAg0FCA",
    "Ag0BBBAfvRCAAfvPBAAfuzBAAfuZEAAe6yBAAefSBAAe7KBAAikMBAAe7IBAAe9MBAAe7GBAA11pSBAAeb+BAAe7yBAA",
    "e6KBAAjoYBAAipEBAAehW5FAAhgWBAAm3OBAApkCBAA14kQZAAgl-BBAglzCCAglxDAAglZBBAglXCEAglVFAA1spEBA",
    "A1v2SBAA207IBAA22gWBAA23lMBAA24qCBAA273QBAA29c+BAA2ahUBAA2crCBAA2dvYBAA2f4OBAA2g9EBAA2hdwDAA",
    "2a3ECAAdoABAAe0WBAAdoOBAAi5QBAAe1ABAAfeQBAAdnwBAAfeIBAAdtKBAAgbQBAAq7yBAAuuABAAsqQBAAq9WBAA1",
    "fkGBAAi9ABAAplKBAAqpSBAAq7OBAA13aWBAAgnSBAAvuIBAA1d0WBAA13cMBAAg1YBAA13j+BAA119wBAAjdQBAA1es",
    "wBAAf8wBAAgdEBAAt4SBAA1imKBAAe7ABAAffOBAAscABAAdmMBAAdoQBAAdmKBAAlj+BAAgkWBAAg9EBAAkewBAAkbW",
    "BAA123OBAAe5IBAA1d1SBAAgaKBAAj6Y1AAA12xBAA12ZBAA12XBAA12VBBA12TCAA12RBAA12PBAA12NBAA12LBAA12",
    "JBAA12HBAA12FBAA12DBAA12BBAA11-BAA11zBAA11ZBAA11XBAA11VBFA11TGAA11PBAA11LBAA11HBAA11DBEA10-F",
    "AA10zBAA10xBFA10ZGDA10XsqFWBC2ANBCyAA2h5DBAA2h5B4FGBCQ+BC1+AABJBBCEAA250HBEBCNAACCAA2iiPDBBC",
    "GJBCUAA2ikHBAA2ikzBAA2ikVBAA2ikBBAA2ikHCAA2ihDBAA2iiTBAA2ihJBAA1qABHBCQAA2-BAA2ikFBAA253PBBB",
    "CJAACGBBCyAA2jozBAA2joZBAA2joFBAACDAA2jdBBAA2jaLrDAA23JBAA2LBAA2kfFBAAZKAA2kdXH2PA2bs-jcQAA1",
    "mbPBAA290ZBAA1l3PBAA1m3VBAA253FBAA2ldFBAA2iiBBAA1cmVBAA1cmXBAA2frPBAA1jjRBAA2hoHBAA2fsHBAA2b",
    "hNBAA21aJBAA1soTBAA1pdBBAA1olNBAA1o1TBAA1k8HBAA27hDBAA25vTBAA243ZBAA22jRBAA1qdVBAA1jqzBAA1fi",
    "RBAA2l9RBAA2iqNBAA271RBAA23gFBAA1pfDBAA1dgDBAA2dtBBAA24jNBAA1plLBAA1nr-BAA2b5XBAA1rkxBAA1ogP",
    "BAA2d5xBAA291DBAA25r-BAA232zBAA1k5xBAA2kqNBAA2jnNBAA2j5BBAA2a6XBAA275xBAA23iDBAA214XBAA1sjFB",
    "AA1pizBAA1pdTBAA1lkPBAA1h0LBAA1esTBAA1dj-BAA20azBAA1vrZBAA1tpZBAA1qnJBAA1j3VBAA1dcBBAA1n6VBA",
    "A2g6FBAA2d3zBAA1ueHBAA1scNBAA23eHBAA207ZBAA1m8LBAA1h5DBAA2g7DBAA2eeRBAA27jRBAA25nFBAA253zBAA",
    "1u1-BAA1thRBAA1hgLBAA2j7-BAA1scPBAA2jnPBAA2joRBAA1vjTBAA1tpRBAA1qmNBAA1heHBAA1mtTBAA2b8XBAA2",
    "7lTBAA1n5zBAA2liJBAA2enPBAA2ckxBAA22tTBAA21vDBAA2j4XBAA206RBAA2kqLBAA2crZBAA2llTBAA269XBAA29",
    "vBBAA1u4PBAA2iqPBAA2ggxBAA216XBAA1qiJBAA1ncJBAA26rLBAA1ksBBAA26eTBAA2b7JBAA1r8zBAA2atJBAA221",
    "BBAA2lcRBAA2k0zBAA2jq-BAA28fRBAA1u9HBAA1rgZBAA1naVBAA1jqzBAA2j8TBAA2ijxBAA2g0xBAA2d9LBAA29rx",
    "BAA24oLBAA205VBAA1htRBAA1fhZBAA1dfBBAA1dbVBAA2jezBAA29cJBAA271JBAA1l2VBAA2dhTBAA2bvzBAA2bo-B",
    "AA2afNBAA256zBAA244TBAA22gVBAA1vsVBAA1tqDBAA1siPBAA1l7DBAA1qaVBAA1knNBAA1j5BBAA2joJBAA2jfTBA",
    "A2ieBBAA24dNBAA1odxBAA1nfNBAA2ddRBAA2cqxBAA2b2RBAA26vNBAA1umPBAA233DBAA2lcHBAA2ha-BAA2esFBAA",
    "2dvBBAA2co-BAA22vVBAA22kJBAA1t1JBAA1smTBAA1jnZBAA1hbXBAA1h6VBAA1gpXBAA2l2TBAA200PBAA1k0FBAA1",
    "hf-BAA2cdPBAA2ljHBAA2keBBAA2esxBAA2enxBAA2a2JBAA27rZBAA23vDBAA21nzBAA1qcLBAA1kkNBAA1d3NBAA29",
    "jZBAA1hpPBAA2jjxBAA294ZBAA28tLBAA268RBAA25izBAA22sFBAA227HBAA20mFBAA1ubzBAA1gnDBAA2k6HBAA2bq",
    "HBAA1hlVBAA2kqRBAA2ebXBAA25uXBAA1laZBAA2d4ZBAA2c9JBAA28sFBAA235HBAA1hlLBAA2jrHBAA2iszBAA2enT",
    "BAA29sZBAA299FBAA28jTBAA26fxBAA22txBAA220FBAA1t6ZBAA1ohPBAA1ogNBAA1k1ZBAA1hgPBAA2jaXBAA25jDB",
    "AA2is-BAA241xBAA22lNBAA1pvLBAA1hkxBAA1epVBAA1dlHBAA295ZBAA262TBAA1s0xBAA1viXBAA1vdPBAA1umNBA",
    "A23jTBAA24mDBAA1naHBAA2ljZBAA1rcPBAA2jsJBAA2jvRBAA2dlVBAA2bizBAA1uiZBAA2f7zBAA26eNBAA29lDBAA",
    "1lcXBAA1orXBAA1hrXBAA1o7zBAA2djPBAA2kcXBAA2i4ZDAA2grLCAA29pxDAA2k3NBAA23eXBAA21kZBAA20dXBAA2",
    "0bVBAA20bJBAA208XBAA1hcLBAA1ulzBAA1t6BCAA1q0xCAA1niTDAA1kuZBAA1kiREAA1gjVBAA1gizBAA1ggHBAA1e",
    "7RBAA1kk-BAA1hnPBAA2l8DBAA2kkTBAA2keJBAA2jmTBAA2jk-BAA2jeHBAA2i9RBAA2i3BBAA2hs-BAA2gvRBAA2gp",
    "DBAA2etNBAA2esxBAA2cqRBAA2cdLBAA2cbBBAA2c4xBAA2afDBAA2a5-BAA29rDBAA28rzBAA26cxBAA262XBAA25iJ",
    "BAA24dTBAA241xBAA232PBAA20rTBAA20gxBAA20gHBAA20gLBAA20fzBAA20fTBAA20fHBBA20cJCAA201HBAA1vtHB",
    "AA1v9LBAA1u6FBAA1u4zBAA1u1PBAA1tePBAA1t5LBAA1s6zBAA1ruHBAA1ruJBAA1r0PBAA1ok-BAA1ocVBAA1nmBBA",
    "A1niTBAA1mpBBAA1mlZBAA1la-BAA1l2zBAA1hoJBAA1h6TBAA1h2zBAA2cvLBAA548EBAA1s5JDAA2m4TBAA2kbXBAA",
    "2kgTBAA2lfFBAA2kizBAA2kfJBAA2jqzBAA2jnZBAA2idVBAA2iiHBAA2ieBBAA2i9RBAA2h2DBAA2gsTBAA2gjTBAA2",
    "giVBAA2g1xBAA2flRBAA2dq-BAA2dqTBAA2dhVBAA2ddPBAA2cqxBAA2cjRBAA2cn-BAA2cfVBAA2ciTBAA2c9RBAA2c",
    "5PBAA2bcRBAA2b7DBAA2b3ZBAA2ajTBAA2a1ZBAA29nVBAA29nPBAA29jxBAA27hXBAA27dXBAA26lLBAA25rZBAA25s",
    "xBAA25nPBAA257ZBAA24ixBAA21fLBAA246RBAA23u-BAA23nLBAA232-BAA22pXBAA22mPBAA228NBAA228LBAA21tX",
    "BAA21sXBAA21rHBAA21lzBAA21mTBAA20tzBAA1vvVBAA1veZBAA1v3FBAA1ulHBAA1ubXBAA1tnFBAA1taZBAA1rmBB",
    "AA1rcJBAA1pjXBAA1onJBAA1ojBBAA1oiDBAA1nvTBAA1nsDBAA1nu-BAA1nrVBAA1nrzBAA1ntBBAA1noLBAA1njLBA",
    "A1mrRBAA1loTBAA1l5BBAA1kiVBAA1k4zBAA1i4TBAA1huHBAA1hnDBAA1hexBAA1hcVBAA1hb-BAA1h9BBAA1frVBAA",
    "1djDBAA4mnWBAA4mnIBAA4sgIBAA2vjJBAA2tbVBAA2t9VBAA5bnIBAA5gvUBAA61vYBAA1dpJBAA1dkV2HAA3qjxBAA",
    "3qlBBBA3qkzCCA3qkRDAA3qjzBAA3qjxBAA3tfx1HAA3qdzBAA3qd-BAA3qdNBAA3qdPBAA3qdRBAA3qdTBAA3qdPBAA",
    "3qdRBAA3qdTBAA3qdVBAA3qdTBAA3qdVBAA3qdXBAA3qdZBAA3qeHBAA3qeJBAA3qeLBAA3qeNBAA3qeFBAA3qeHBAA3",
    "qeJBAA3qeLBAA3qeZBAA3qexBAA3qezBAA3qe-BAA3qcLBAA3qcNBAA3qcPBAA3qcRBAA3qcPBAA3qcRBAA3qcTBAA3q",
    "cVBAA3qexBAA3qezBAA3qe-BAA3qfBBAA3qfFBAA3qfHBAA3qfJBAA3qfLBAA3qfHBAA3qfJBAA3qfLBBA3qfNCAA3qf",
    "PBAA3qfRBAA3qfTBAA3qfJBAA3qfLBAA3qfPBAA3qfRBAA3qfPBAA3qfRBAA3qf-BAA3qgBBAA3qfDBAA3qfFBAA3qfV",
    "BAA3qfXBAA3qeJBAA3qeLBAA3qeNBAA3qePBAA3qeFBAA3qeHBAA3qeJBAA3qeLBAA3qeFBAA3qeHBAA3qeJBAA3qeLB",
    "AA3qeRBAA3qeTBAA3qeVBAA3qeXBAA3qeHBBA3qeJCAA3qeLBAA3qeNBAA3qePBAA3qeHBBA3qeJCAA3qeLBAA3qeNBA",
    "A3qePBAA3qeXBAA3qeZBAA3qexBAA3qezBAA3qdXBBA3qdZCAA3qdx1CAA3qiLBAA3qiNBAA3qiPBAA3qiRBAA3qg-BA",
    "A3qhBBAA3qhFBAA3qhHBAA3qhFBAA3qhHCAA3qhFBAA3qhHBAA3qhVBAA3qhXBAA3qhRBAA3qhTBAA3qhHBAA3qhJBAA",
    "3qhLBAA3qhNBAA3qpzBAA3qp-TAA3qi-BAA3qjBBAA3qjDBAA3qjFgRAA3uuHBAA370-CBA3utRCAA3uvHBAA3utNBBA",
    "370BwAA3f1ZBAA3f1zBAA3utHBAA3utJBBA3v0ZCAA3urXBAA3urVBBA372JCBA372VCBA373FCBA373NCDA373JGAA3",
    "uuXBAA3uuVFAA3uuxBAA3uuzBAA3uu-BAA3v2HBAA374-DAA3v1RBAA3v1VBAA3v1NBAA3v3LBAA3f4HBBA3v3BCAA3u",
    "t-BAA3utzBBA374RCAA3v3XBAA3v3TBBA3v3NCAA3v3LBAA3v2PBAA3v2NBAA3v2RCAA3v0XBBA3v4JCAA3v2VVBA3s5",
    "zCBA3s5-CBA3s6BCBA3s6DCBA3s6FCAA3s6HBAA3s6JBBA3s6LCBA3s6NCAA3s6PBAA3s6RBBA3s6TCBA3s6VCAA3s6X",
    "BAA3s6ZBBA3s6xCAA3s6zBAA3s6-BBA3s7BCAA3s7DBAA3s7FBBA3s7HCAA3s7JBAA3s7LBBA3s7NCAA3s7PBAA3s7RB",
    "BA3s7TCBA3s7VCBA3s7XCBA3s7ZCBA3s7xCAA3s7zBAA3s7-BBA3s8BCAA3s8DBAA3s8FBBA3s8HCAA3s8JBAA3s8LBB",
    "A3s8NCAA3s8PBAA3s8RBBA3s8TCAA3s8VBAA3s8XBBA3s8ZCAA3s8xBAA3s8zBBA3s8-CAA3s9BBAA3s9DBBA3s9FCAA",
    "3s9HBAA3s9JBAA3s9LBAA3s8-BAA3s9BBAA3s9DBBA3s9FCAA3s9HBAA3s9JBBA3s9LCAA3s9NBAA3s9PBBA3s9RCAA3",
    "s9TBAA3s9VBBA3s9XCAA3s9ZBAA3s9xBBA3s9zCAA3s9-BAA3saBBBA3saDCAA3saFBAA3saHBBA3saJCBA3saLCBA3s",
    "aNCAA3saPBAA3saRBAA3saTN-A3vd-1AZA3vb-w1DA3vd-1EBA3atTCAA3vjFBBA37lLCAA37mFBAA376TBAA377HBAA",
    "37cLBAA37cJBAA37cHBAA37cFBAA37cDBAA378RBAA378PBAA378NBAA37aXBAA377HBAA37czBAA37cxBAA37cZBAA3",
    "7cXBBA37cVCAA37cTBAA37cRBAA37cPBAA37cNBAA37cLBAA37cJBAA37cHBAA37cFBAA37cDBAA37cBBAA37b-BAA37",
    "bxBAA37bZBAA37bXBFA37bVGAA37bRBAA37bNBAA37bJBAA37bFBEA37bBFAA37a-BAA37azBFA37axGAA37aZBAA37a",
    "TBBA37gJDBA3naBCAA3mvRBAA3naDBBA3mvRCCA3naHDFA3mvTGAA3n9LBCA3naVDAA3n9FBJA3naXNFA3n6BIFA3n6F",
    "IFA3n6JICA3n6NGBA3vjxCAA3vjLCAA3vjxBAA3vj-BAA3fjZCAA3deLBDA3f5REAA3d4ZBAA3d2F10S1HA2Q5Q1DA2Q",
    "6AKA2OMOA2OQGA2OIBA2OfNBA42bBCAA439ZBAA42eVBAA42jDCAA42eHBAA1e2DBAA42eHBAA42eLBBA42jJCAA3kvX",
    "BAA42jLBAA42jBBAA42eNBAA42iZBAA42i-BAA42jFBAA42fRBAA436xBAA42fTBAA42i-BAA42hHBBA42ezCAA42izB",
    "AA3bmQBAA1g0zBAA42i-BAA3bmMBAA42hDBAA3bmKBAA43aTBBA42iZCAA43jHBAA42iXBAA3bmCBBA42iVCAA42iTBA",
    "A42gFBAA42gLBAA1e4LBAA42gNBAA42iNBAA3djzCAA42iFBBA42hDCAA42hZBCA42vLDAA3blCBAA3bmI16G1SA4A31",
    "A-A2AldA-A2ApeAZA79pzwZA79rRwZA79tFwGA79uZIRA79uZSZA7a0NwZA7a2BwBB7a3VDAA7a3VDAA7a3VDBA7a3VE",
    "DA7a3VFHA7a3VIDA7a5JFBB7a5JDFA7a5JHKA7a5JLZA7a6zwZA7a8RwBA7aaFDDA7aaFGHA7aaFJGA7aaFIZA7abZwB",
    "A7adNDDA7adNFEA7adNGAA7adNEGA7adNIZA7afBwZA7agVwZA7aiJwZA7ajzwZA7alRwZA7anFwZA7aoZwZA7aqNwZA",
    "7asBwZA7atVwZA7avJwZA7b0zwZA7b2RwAA7anFBAA7a6xDQA79fNRAA79gBBGA79fNHAA6qbTBQA79hBRAA79g-BGA7",
    "9hBHAA6qdRBAA79iNBAA79iJBAA79iHBAA79hRBAA79hzBAA79iBBQA79jBRAA79jVBGA79jBHAA6qfHBQA79kVRAA79",
    "kTBGA79kVHAA6qhFBAA79mBBAA79lzBAA79lxBAA79lFBAA79lRBAA79lVBQA79mVRAA79nJBGA79mVHAA6qixBQA79o",
    "JRAA79oHBGA79oJHAA6qkZBAA79pVBAA79pRBAA79pPBAA79oZBAA79pFBAA79pJBQA79qJRAA79qzBGA79qJHAA6qmP",
    "BQA79rzRAA79rxBGA79rzHAA6qoNBAA79tJBAA79tFBAA79tDBAA79sNBAA79sZBAA79szBQA79tzRAA79uRBGA79tzH",
    "AA6qqDBQA79vRRAA79vPBGA79vRHAA6qsBBAA7a0zBAA7a0ZBAA7a0XBAA7a0BBAA7a0NBAA7a0RBAA79uZBAA79uxDJ",
    "A7bpxKJA7bqPKJA7brDKJA7brXKJA7bsL21wIA7dv-JCA7dvzDKA7dvxLAA7dvXBBA7dvVCAA4ssBBAA7dnDBAA7dvLB",
    "AA7dvJBAA7dmJBAA7dp-BAA7doBBIA7e2BJBA7e1-CBA7e1xCAA7e1ZBFA7e1XGBA7e1VCAA7dtLBAA7e1DBAA7e1HBA",
    "A7e0VBAA7dr-BAA4t1VBAA7drX24T1BA2E18ABA7jtRCAA7jtLBAA7jtHCAA7jrZBAA7jtHBAA7jtTBAA7jtBBAA7jrz",
    "BDA7jsNEAA7jtVBAA7jtLBAA7jszBAA7jtXBAA7js-BAA7juDBAA7jt-BBA7juVCAA7juRBAA7juPBAA7juFBAA7juDB",
    "AA7juBBAA7jqxBAA7jmFBAA7jnZBAA7jq-CAA7jvRBAA7jvLCAA7jtZDAA7jvTCAA7jtzBDA7juNEAA7jvVBAA7jvLBA",
    "A7juzBAA7jvXBAA7ju-CAA7jv-BBA7k0VCAA7k0RCAA7k0FCAA7k0BHAA7k1LFAA7k1TCAA7jvzCBB7k0NDAA7k1VBAA",
    "7k1LCAA7k1XBAA7k0-CAA7k1-DAA7k2RCAA7k2FCAA7k2BCAA7jqFCAA7ju-CAA7k3RBAA7k3LCAA7k1ZDAA7k3TBAA7",
    "k3BBAA7k1zBBB7k2NDAA7k2NBAA7k3VBAA7k3LBAA7k2zBAA7k3XBAA7k2-CAA7k3-BBA7k4VCAA7k4RCAA7k4FBAA7k",
    "4DBAA7k4BBAA7k0xCAA7jtZCBA7k5RCAA7k5LBAA7k5HBBA7k3ZCAA7k5HBAA7k5TBAA7k5BBAA7k3zCCA7k4NDAA7k5",
    "VBAA7k5LBAA7k4zBAA7k5XBAA7k4-BAA7k6DBAA7k5-BBA7k6VCAA7k6RBAA7k6PBAA7k6FBAA7k6DBAA7k6BGAA7k7R",
    "BAA7k7LBAA7k7HCAA7k5ZBAA7k7HBAA7k7TBAA7k7BBAA7k5zCCA7k6NDAA7k7VBAA7k7LBAA7k6zBAA7k7XBAA7k6-B",
    "AA7k8DBAA7k7-BBA7k8VCAA7k8RBAA7k8PBAA7k8FBAA7k8DBAA7k8BjQAA7ocPBAA7obTEZA7ocz6SAA70kZOAA67sJ",
    "BAA6bbTBAA6f4LBAA70kXBAA6hoPBAA6cfVBAA5k3FBAA6cexBAA6hnHBAA65vRBAA60fRBAA668DBAA6fszBAA699BB",
    "AA6g9BBAA666zBAA6g0FBAA5qdzBAA5ugFBAA5inTBAA6cjHBAA6euXBAA61hDBAA67pDBAA67dFBAA6i2RBAA6i2BBA",
    "A5guBBAA6a4LBAA6hv-BAA6f3VBAA67iPBAA5ib-BAA67txBAA5sbBBAA5rrRBAA6f2XBAA61rJBAA65iZBAA65izBAA",
    "5ugJBAA6fsNBAA6e8HBAA5gexVAA69bRBAA6f6D2c-JA7tr-1v0QAAaksFBAAaksRBAAaksBBAA3reBBAAakaHBAAak5",
    "NBAAak4VBAAak0JBAAajoxBAAajm-BAAajiFBAAajjXBAAb1mxBAA3otFBAAajcBBAAajbVBAAajaXBAAaj9TBAA3pfL",
    "BAAb1lTBAAajaZBAAaj8PBAA3pcVBAAaj7-BAAaj7HBAAakkZBAAaj6xBAAaj6LBAA1j3ZBAAaj2PBAAaj1VBAAb1j-B",
    "AAaiuJBAAaitVBAAaiq-BAAaiqXBAAb1gzBAAailxBAAailZBAAaikFBAAaiixBBAaiiHCAAaihHBAAaieFBAAaidXBA",
    "AaidHBAAaibXBAAaibFBAAaibDBAAaibFBAAaibHBAA3n0PBAAa3sJBAAai6XBAAai5PBAA3mdJBAAai4xBAAai4RBAA",
    "ai3JBAAahpxBAAai0JBAAahvLBAAahtNBAAahpxBAAahkVBAAahjDBAAahe-BAAaheBBAAahcBBAAahcDBAAahaxBAAa",
    "h9ZBAAah9LBAAah8PBAAagjJBAAah4LBAAagjLBAAagvZBAAagtVBAAaj4RBAAafmFBAAag8HBAAag5zBAAag4NBAAag",
    "cTBAAag2HBAAag2LBAAafqXBAA3hnJBAAafmPBAAafmHBAAaflLBAAafkFBAAafjXBAAaffZBAA3grPBAA3gnNBAAaf7",
    "LBAAaf4PBAAaf3ZBAAaf8ZBAAaev-BAAb0nRCAAaemBBAAaeiXBAAaeiZBAA3faHBAAaeaTBAAae9LBAAae8PBAAae7Z",
    "BAA3elRBAAae7FBAAae6ZCAAae5FBAAb0fJBAAae1NBAAae0TBAAadrRBAAaduZBAA3d9NBAAadjRBAA3d9NBAAadg-B",
    "AAadhHBAAadgHBBAad9-CAAb05HBAAad8NBAAad5ZBAAad4RBAAad1xBAAb02LBAA3bgLBAAb00xBAAactVBAAactRBA",
    "AactNBAAacsHBAA1afZBAAacpDBAA3al-BAA3amBBAA9r9DBAAacnDBAAacnFBAAavszBAA32tzBAA2bbxBAAacjNBAA",
    "acizBAAavrPBAAacgDBAAacc-BAAaccNBAAacaLBAAac1zBAAavmNBAAavoLBAAac0zBAA38s-BAAabtxBAAablxBAAa",
    "blVBAAablTBAAablZBAAabi-BAAabhZBAAabfTBAAabgRBAAabfzBAAabdBBAAabbxBAAabbVBAAabaDBAAab9PBAAab",
    "5NBAAab0HBAAaauDBAAaamNBAA36qXBAAaanXBAAaarxBAAaalFBAAaajRBAAaadRBAA36cZBAAaa9ZBAAaafVBAAaah",
    "PBAAav9HBAAaa5TBAAaa4LBAAaa2PBAAaa4zBAAav5VBAAa9nRBAAa9lZBAA34b-BAAa9ePBAAa8tHBAAa98HBAAaurJ",
    "BAAa93xBAAausPBAAauuZBAAajj-BAAajjxBAAa8tHBAAa93RBAA9s2RBAAaqfxBAAa8sBBAAa8rxBAAa8rRBAAa8nZB",
    "AAa8oRBAA32hTBAAaupJBAAa8eJBAAa8lVBAAa88zBAAa85ZBAA327LBAAa85LBAAa8cLBAAa7tDBAAaukTBAAa7qLBA",
    "Aa7kLBAAa7f-BAAa74FBAA314RBAAa71DBAAaudLBAAa6sxBAA304RBAAa6pZBAAauaHBAAa6oBBAAa6lJBBAa6jVCAA",
    "2v6TBAA3duZBAA2uvzBAAa6aXBAA2u3zBAAa63ZBAAa62-BAAa69NBAAa5uRBAAa5sDBAAa5oTBAAa5sBBAAa5pTBAAa",
    "5oXBAAa5n-BAA2tuPBAAa5tFBAAa5dRBAAa59VBAAattNBAAa53-BAAa54JBAA2t3XBAAa5hJBAAa4qBBAA2srDBAA2s",
    "oFBAAa4kXBAAa4dTBAAa4fLBAAa4fTBAAatn-BAAa4cZBAAa49VBAAa4aDBAAa46ZBAA3pvLBAAa3tNBAA2rbTBAAa3o",
    "DCAAa3fPBAAa3eXBAAa3dDBAA2phVBAAa3aHBAAa38-BAA2ovBBAA2ohFBAAa2qxBAAa2pxBAAat7xBAAa2oLBAAat7H",
    "BAAat7JBAAa2eNBAAa2dFBAAa2bzBAAa2aXBAAa26PBAAat1PBAAa20-BAA2mfzBAAa1vPBAA2maJBAAa1sPBAA3bpTB",
    "AAa1iTBAA2kpTBAA2koHBAA2kfRBAAaskDBAAasjNBAAa14XBAA2k4xBAA2k4-BAA2k2TBAA2k1BBBAa12NCAAa12PBA",
    "Aa0vxBAAasg-BAAa0rzBAAasgJBAAasbLBAA2ii-BAAa0f-BAAa0cFBAAa08HBAAas6xBAA2hiXBAA9vvZBAA2hbTBAA",
    "2h8-BAA9vsNBAA9vmXBAAas2RBAA9vhRBAA9vg-BAA9vgXBAA2ft-BAA2fbLBAA2fbNCAAarlxBAA2erLBAA9upXBAA9",
    "upTBAAarjZBAA2eeJBAA9u9HBAAarcNBAA9u7-BAA9u8LBAA9u6TBAA2cuJBAA9u0RBAAar6XBAA9tqNBAA9tmZBAA9t",
    "iVBAAar3ZBAA2bkTBAA2biXBAAar1VBAA2b9XBAA9svXBAA2b3RBAA9suFBAA9snzBAA9snJBAA2aaBBAA2a5RBAA9sh",
    "ZBAA29tLBAA9sgzBAA332BBAAaqqXBAA9sc-BAA9s7-BAAaqnRBAA9s4NBAAafdBBAA28t-BAA28tFBAA32vLBAA32ux",
    "BAA9roTBAA9roPBAA9kuzBAAaqiFBAA9rfxBAA9rgJBAA9rfHBAAajdzBAA9reDBAA9reBBAA9rdPBAA9ra-BAA275VB",
    "AA9rbFBAA9r7XBAA9r3NBAA9quxBAA9r7RBAA9qt-BAA9qrNBAA9qkPBAA9r4ZBAA9qtNBAA9qtLBAA9qsNBAA26mxBA",
    "A263TBAA26dBBAAaq7XBAA9qbNBAA9qbLBAA9q9HBAA22uBBAA9q4PBAA258BBAAaq5BBAAaq4xBAA24vzBAA24dzBAA",
    "aq4NBAA9pmFBAA9plPBAA9pkxBAA9pkZBAA9pgxBAA9pi-BAA9paVBAA9pdPBAA9p4DBAA9p9HBAA9p5DBAA9p3PCAA9",
    "otzBAA9or-BAAapsRBAA9omFBAA9omBBAA21lxBAA9oezBAA9oeRBAAappFBAA9oczBAAb2gzBAA20hZBAA206LBAAap",
    "gzBAAapgNBAA9nizBAA9neFBAA9n4NBAA9mnZBAA1uiVBAA9miRBAA9mhHBAA9mbVBAA9m5-BAA1taRBAA3otJBAA9m0",
    "zBAA9m1zBAA9luXBAA3ofzBAA9lgTBAA9laNBAA1q0xBAA1pvHBAA9kkxBAA9kfDBAA9kdFBAA1pbNBAA9kcVBAA9jqz",
    "BBA9jhBCAA9jmxBAA9ivDBAA9itNBAA1mvFBAA9i6FBAAao5TBAA9i3RBAA1m7TBAAao0XBAA9hi-BAAae4DBAA9hdDB",
    "AA1kbBBAA1jtZBAAanoTBAAanoFBAA9h1TBAA1ivBBAAankTBAA1imNBAA9gvFBAA9gvHBAA9gtNBAA1i4VBAA9gh-BA",
    "Aanc-BAA9gdVBAA9g5xBAA9g4HBAA9g0RBAAan3TBAA1fdRBAA9ffPBAA9esVBAA9egzBAAamjzBAAamiBBAA9eaPBAA",
    "1ckDBAAamhRBAA1cgZBAA1c0JBAA1boFBAA9dlTBAAamb-BAA9dhxBAA9dhTBAA9dhHBAA9dgVBAA9dgJBAA9deBBAA1",
    "a1Z"]

/-- The code points that are replaced by several. -/
def expandedText : String :=
  String.join [
    "5IC1AoIHC1AoEFC1AoBEC1ApHED1R82E1UBD1R82E1SBD1T82E1U3SC3JoHCC3J3KBC3J3KMC3M5XBC3M5XJCly3O3xC",
    "3Eb+BC3Eb+BC3Eb+BC3M3KBC3M3KBC3M3KBC3O3KBC3O3KBC3O3K1FC3E3wBC3E3wBC3E3w7FC1AoGBC1AoHBC1AoKBC",
    "1ApIBC1AoDBC1AoL3HCoIoB1WC1AtZKC1AoBBD1AoIoBgCC1bF1cC7OC1hH1jUBC1iI1jUBC1mH1jUBC1iK1jUnAC28V",
    "29yBC28W29yBC28X29yBC28y29yBC29B29yBC29C29yBC29L29yBC29P29y3zC2dB2dyBC2dC2dyCC2dP2dy2UC2hS2h",
    "yDC2hY2hy1DC2gW2hyBC2gX2hyBC2gy2hyDC2hL2hy7+C2pB2pyBC2pC2pymWC3iN3hS4AC3mN3lS1JC3lL3kZBC3lL3",
    "lB3GC3qC3tXKC3qM3tXFC3qR3tXFC3qW3tXFC3qx3tXNC3qA3tVKC3rR3rSCC3rR3rUBC3tS3sABD3tS3rR3sABC3tT3",
    "sABD3tT3rR3sAIC3rR3sASC3sS3tXKC3sy3tXFC3tB3tXFC3tG3tXFC3tL3tXNC3sQ3tV3nBC3Bl+7GC7oAtZBC7oBtZ",
    "BC7oCtZBC7oDtZBC7oEtZBC7oFtZBC7oGtZBC7oHtZBC7oAtZBC7oBtZBC7oCtZBC7oDtZBC7oEtZBC7oFtZBC7oGtZB",
    "C7oHtZBC7pAtZBC7pBtZBC7pCtZBC7pDtZBC7pEtZBC7pFtZBC7pGtZBC7pHtZBC7pAtZBC7pBtZBC7pCtZBC7pDtZBC",
    "7pEtZBC7pFtZBC7pGtZBC7pHtZBC7rAtZBC7rBtZBC7rCtZBC7rDtZBC7rEtZBC7rFtZBC7rGtZBC7rHtZBC7rAtZBC7",
    "rBtZBC7rCtZBC7rDtZBC7rEtZBC7rFtZBC7rGtZBC7rHtZDC7rQtZBCtRtZBCtMtZDC7tWtZFCtRtZBC1AoTCC1AoTBC",
    "1AqCBD1AoIqCBC7rUtZBCtXtZBCtOtZDC7uGtZFCtXtZBD1AoToABD1AoToBBD1AoTqCOD1AoUoABD1AoUoBBD1AoUqC",
    "OD1AoIoABD1AoIoBEC7rytZBCuJtZBCuOtZDC7vWtZFCuJtZBC1AoBBC1AoUZC1ApTyC81S81SBD81S81S81SCC81V81",
    "VBD81V81V81VFC1B1BCC1AoFJC1-1-BC1-1BBC1B1-OE81S81S81S81S2RC3S3T2YD3B1P3DBD3B1P3TCC5Q3DCD3D1P",
    "3PBD3D1P3VDC5Q3GNC3O3PKC3T3NBD3U3F3MBC3U3NZD3G3B3YVD1R82E1XBD1R82E1ZBE1R82E1R1QBD1R82E1TBD1S",
    "82E1TBD1R82E1VBD1S82E1VBD1T82E1VBD1U82E1VBD1R82E1WBD1V82E1WBD1R82E1YBD1T82E1YBD1V82E1YBD1X82",
    "E1YBC1R82ECC3J3JBD3J3J3JBC3J3WCC3W3JBD3W3J3JBE3W3J3J3JBC3J3YCC3Y3JBD3Y3J3JGC3J3JBD3J3J3JBC3J",
    "3WCC3W3JBD3W3J3JBE3W3J3J3JBC3J3YCC3Y3JBD3Y3J3JOD1Q82E1T5DC8hL8hLBD8hL8hL8hLCC8hO8hOBD8hO8hO8",
    "hOhZC1R1QBC1R1RBC1R1SBC1R1TBC1R1UBC1R1VBC1R1WBC1R1XBC1R1YBC1R1ZBC1S1QBD1I1R1JBD1I1S1JBD1I1T1",
    "JBD1I1U1JBD1I1V1JBD1I1W1JBD1I1X1JBD1I1Y1JBD1I1Z1JBE1I1R1Q1JBE1I1R1R1JBE1I1R1S1JBE1I1R1T1JBE1",
    "I1R1U1JBE1I1R1V1JBE1I1R1W1JBE1I1R1X1JBE1I1R1Y1JBE1I1R1Z1JBE1I1S1Q1JVD1I3B1JBD1I3C1JBD1I3D1JB",
    "D1I3E1JBD1I3F1JBD1I3G1JBD1I3H1JBD1I3I1JBD1I3J1JBD1I3K1JBD1I3L1JBD1I3M1JBD1I3N1JBD1I3O1JBD1I3",
    "P1JBD1I3Q1JBD1I3R1JBD1I3S1JBD1I3T1JBD1I3U1JBD1I3V1JBD1I3W1JBD1I3X1JBD1I3Y1JBD1I3Z1JBD1I3w1J1",
    "aXE8hL8hL8hL8hL3ID1w1w1zBC1z1zBD1z1z1z3GCamzpY1d-C1Ac4ZBC1Ac4wDCc4Ic4K3ACc5Tc6I8BD1I48A1JBD1",
    "I48C1JBD1I48D1JBD1I48F1JBD1I48G1JBD1I48H1JBD1I48J1JBD1I48L1JBD1I48M1JBD1I48O1JBD1I48P1JBD1I4",
    "8Q1JBD1I48R1JBD1I48S1JBD1I1b0A1JBD1I1c4Y1JBD1I1cnE1JBD1I1dry1JBD1I1eeI1JBD1I1f0U1JBD1I1g5M1J",
    "BD1I1haE1JBD1I1hsQ1JBD1I1j1I1JBD1I1jjU1JBD1I1k6A1JBD1I1koM1JBD1I1laY1JBD1I1i7y1JBE1I1hhE1i0E",
    "1JBE1I1hhE1lmE1JCD1IjgA1JBD1IjkM1JBD1IjgJ1JBD1Ilmx1JBD1IjkU1JBD1IkbN1JBD1IjgD1JBD1IkbL1JBD1I",
    "jiz1JBD1IkqB1JBD1IpoI1JBD1Is3L1JBD1Ir1U1JBD1IppI1JBD1I14eR1JBD1Ilo-1JBD1IpfF1JBD1Iq1K1JBD1Ip",
    "oJ1JBD1Iu9+1JBD1Il0N1JBD1IsjZ1JBD1I135B1JBD1Iuaz1JBD1IklU1JBD1IjnD1JBD1Il3y1JBD1ImrG1JBD1Itn",
    "D1JBD1IjoB1JBD1I136H1JBD1IkqU1JBD1IubN1JBD1IjoR1JBD1I10fK1JBD1I10fT1JND3Q3U3FBC1S1RBC1S1SBC1",
    "S1TBC1S1UBC1S1VBC1S1WBC1S1XBC1S1YBC1S1ZBC1T1QBC1T1RBC1T1SBC1T1TBC1T1UBC1T1VzC1j1Y1b7ABC1i7y1",
    "hqY1UC1T1WBC1T1XBC1T1YBC1T1ZBC1U1QBC1U1RBC1U1SBC1U1TBC1U1UBC1U1VBC1U1WBC1U1XBC1U1YBC1U1ZBC1V",
    "1QBC1RpoIBC1SpoIBC1TpoIBC1UpoIBC1VpoIBC1WpoIBC1XpoIBC1YpoIBC1ZpoIBD1R1QpoIBD1R1RpoIBD1R1SpoI",
    "BC3I3HBD3F3S3HBC3F3WBD3M3U3E1QCjnEl4MBEc5Cc6Rc7yc6IBEc5Cc7Lc6Vc5BBEc5Cc7Tc6wc5CBDc5Cc7yc7LBE",
    "c5Ec6Lc7Tc5QBDc5Ec7Tc6BBDc5Gc5Jc7TBFc5Ic5Zc5Pc7yc6JBEc5Ic7yc5Lc7yBDc5Kc7Tc5ZBDc5Kc7yc7ABDc5L",
    "c5Ec7KBEc5Lc7Jc6Dc6IBEc5Lc7Nc7Kc7yBDc5Mc7Nc7TBDc5Mc7Tc6+BCc5Oc5MBDc5Oc6Lc7yBEc5Nc7Fc7Kc7yBEc",
    "5Oc7Lc6Ac7yBCc5Nc7NBFc5Nc7Nc5Qc7Jc7ABGc5Nc7Nc7Bc7yc6Ic7LBFc5Nc7Nc7Pc6Dc6IBDc5Qc7Jc7ABFc5Qc7J",
    "c7Ac6Ic7TBFc5Pc7Lc5yc5Ec7NBEc5Pc7Nc7yc6NBDc5Rc7yc5ZBDc5Tc7Lc6KBDc5Tc7yc6zBEc5Vc5Ec5Pc7LBFc5V",
    "c7Tc6Bc7yc7ABEc5Xc7Kc7Tc5QBDc5xc7Tc6BBDc5xc7Tc6IBDc6Ac7yc5ZBCc6Hc5XBCc6Jc7LBCc6Ic7TBCc6Kc6OB",
    "Dc6Oc6Dc6IBDc6Pc5Ec6EBFc6Rc7yc5xc7Tc6IBDc6Rc7yc6EBEc6Qc7yc7Mc7LBFc6Uc5Cc5Zc6Ic7LBDc6Uc5Pc7LB",
    "Cc6Uc5TBCc6Tc7LBFc6Vc5Bc7Jc6Dc6JBEc6Vc5Dc7yc6IBFc6Wc6Dc5Xc5Hc7LBDc6Vc7Jc7TBFc6Yc5Pc5-c7yc7LB",
    "Cc6wc5zBDc6wc6Lc6SBDc6Yc7Lc6EBDc6wc7Tc5ZBDc6wc7yc5YBDc6Zc7yc5-BEc6zc5Ec7Tc6IBDc6yc7Lc6IBCc6x",
    "c7TBDc6zc7Tc6JBDc6xc7yc7LBDc6xc7yc7TBEc6+c5Ec5Pc7NBDc6+c5Ec7LBDc6+c6Dc6PBDc6+c7Lc5PBFc6+c7Tc",
    "5Xc7Hc7TBEc6-c5Pc7Nc7TBCc6-c7KBFc6-c7Kc6Qc7yc7LBCc7Bc5MBEc7Bc5Mc6Ic7TBEc7Bc7yc6Ic7LBDc7Ec7yc",
    "6JBDc7Ec7yc7LBDc7Gc5Cc7TBEc7Kc6Dc6Ic7LBCc7Kc7JBDc7Lc6Uc7yBEc7Lc7yc6Wc7LBCc7Mc7ABFc7Mc7Tc6Ic5",
    "Sc7TBDc7Pc6Dc6IBC1Qs5ZBC1Rs5ZBC1Ss5ZBC1Ts5ZBC1Us5ZBC1Vs5ZBC1Ws5ZBC1Xs5ZBC1Ys5ZBC1Zs5ZBD1R1Qs",
    "5ZBD1R1Rs5ZBD1R1Ss5ZBD1R1Ts5ZBD1R1Us5ZBD1R1Vs5ZBD1R1Ws5ZBD1R1Xs5ZBD1R1Ys5ZBD1R1Zs5ZBD1S1Qs5Z",
    "BD1S1Rs5ZBD1S1Ss5ZBD1S1Ts5ZBD1S1Us5ZBD3I3Q3BBC3E3BBC3B3VBD3C3B3SBC3P3WBC3Q3DBC3E3NBD3E3N1SBD",
    "3E3N1TBC3J3VBCnjTogQBCphNl4MBCm9HqrDBCpgOr5xBEq1KnoPjowu9+BC3Q3BBC3O3BBCty3BBC3N3BBC3L3BBC3L",
    "3CBC3N3CBC3H3CBD3D3B3MBE3L3D3B3MBC3Q3GBC3O3GBCty3GBCty3HBC3N3HBC3L3HBC3I3wBD3L3I3wBD3N3I3wBD",
    "3H3I3wBD3U3I3wBCty3MBC3N3MBC3E3MBC3L3MBC3G3NBC3O3NBCty3NBC3N3NBC3D3NBC3L3NBD3N3N1SBD3D3N1SBC",
    "3N1SBD3L3N1SBD3N3N1TBD3D3N1TBC3N1TBD3L3N1TBD3N8gV3TBE3N8gV3T1SBC3Q3BBD3L3Q3BBD3N3Q3BBD3H3Q3B",
    "BD3S3B3EBF3S3B3E8gV3TBG3S3B3E8gV3T1SBC3Q3TBC3O3TBCty3TBC3N3TBC3Q3WBC3O3WBCty3WBC3N3WBC3L3WBC",
    "3N3WBC3Q3XBC3O3XBCty3XBC3N3XBC3L3XBC3N3XBC3LuJBC3NuJCC3C3RBC3D3DBC3D3EBE3D8gV3L3HCC3E3CBC3H3",
    "ZBC3I3BBC3I3QBC3J3OBC3L3LBC3L3NBC3L3UBC3M3NBC3M3OBD3M3P3HBC3M3YBC3N3CBD3N3J3MBD3N3P3MBC3Q3IC",
    "D3Q3Q3NBC3Q3SBC3T3SBC3T3WBC3X3CBD3W8gV3NBD3B8gV3NBC1RpfFBC1SpfFBC1TpfFBC1UpfFBC1VpfFBC1WpfFB",
    "C1XpfFBC1YpfFBC1ZpfFBD1R1QpfFBD1R1RpfFBD1R1SpfFBD1R1TpfFBD1R1UpfFBD1R1VpfFBD1R1WpfFBD1R1XpfF",
    "BD1R1YpfFBD1R1ZpfFBD1S1QpfFBD1S1RpfFBD1S1SpfFBD1S1TpfFBD1S1UpfFBD1S1VpfFBD1S1WpfFBD1S1XpfFBD",
    "1S1YpfFBD1S1ZpfFBD1T1QpfFBD1T1RpfFBD3H3B3M1hoBC3G3GBC3G3JBC3G3MBD3G3G3JBD3G3G3MBC3T3UBC3T3UN",
    "C1bU1bWBC1bU1bFBC1bU1bLBC1b+1bWBC1bU1bNGC1eZ1dUCC1fS1dXLC1fJ1eBBC1fJ1eCBD1fJ1dy1eBBD1fJ1dy1e",
    "CBC1eQ1dXBC1eQ1dYBC1eQ1dyBC1eR1dyBC1eS1dyBC1eT1dyBC1eU1dyBC1eV1dyBC1eW1dyCC1eY1dyBC1eZ1dyBC1",
    "ew1dyBC1ex1dyBC1ey1dyCC1e+1dyCC1fA1dyBC1fB1dyCC1fD1dyBC1fE1dyCC1fG1dyBC1fH1dyBC1fI1dyBC1fJ1d",
    "yBC1fK1dyBC1eV1dZBC1eR1d-BC1ex1d-BC1fE1d-BC1eQ1ey4OC1mH1jUNC1hG1hHBC1hG1hHBC1hG1mVBC1hG1mVBC",
    "1hG1iIBC1hG1iIBC1hG1mHBC1hG1mHBC1hG1mGBC1hG1mGBC1hG1mIBC1hG1mIBC1hG1mQBC1hG1mQBC1hG1mQBC1hG1",
    "iJBC1hG1iJBC1hG1iJFC1hG1hMBC1hG1hNBC1hG1iFBC1hG1iJBC1hG1iKBC1hI1hMBC1hI1hNBC1hI1hOBC1hI1iFBC",
    "1hI1iJBC1hI1iKBC1hK1hMBC1hK1hNBC1hK1hOBC1hK1iFBC1hK1iJBC1hK1iKBC1hL1hMBC1hL1iFBC1hL1iJBC1hL1",
    "iKBC1hM1hNBC1hM1iFBC1hN1hMBC1hN1iFBC1hO1hMBC1hO1hNBC1hO1iFBC1hT1hMBC1hT1hNBC1hT1hOBC1hT1iFBC",
    "1hV1hNBC1hV1iFBC1hW1hMBC1hW1hNBC1hW1hOBC1hW1iFBC1hX1hNBC1hX1iFBC1hY1iFBC1hZ1hMBC1hZ1iFBC1hw1",
    "hMBC1hw1iFBC1iB1hMBC1iB1hNBC1iB1hOBC1iB1iFBC1iB1iJBC1iB1iKBC1iC1hNBC1iC1iFBC1iC1iJBC1iC1iKBC",
    "1iD1hHBC1iD1hMBC1iD1hNBC1iD1hOBC1iD1iEBC1iD1iFBC1iD1iJBC1iD1iKBC1iE1hMBC1iE1hNBC1iE1hOBC1iE1",
    "iFBC1iE1iJBC1iE1iKBC1iF1hMBC1iF1hNBC1iF1hOBC1iF1iFBC1iF1iJBC1iF1iKBC1iG1hMBC1iG1hNBC1iG1hOBC",
    "1iG1iFBC1iG1iJBC1iG1iKBC1iH1hMBC1iH1iFBC1iH1iJBC1iH1iKBC1iK1hMBC1iK1hNBC1iK1hOBC1iK1iFBC1iK1",
    "iJBC1iK1iKBC1hQ1jQBC1hR1jQBC1iJ1jQBD1A1iM1iRBD1A1iN1iRBD1A1iO1iRBD1A1iP1iRBD1A1iQ1iRBD1A1iR1",
    "jQBC1hG1hRBC1hG1hSBC1hG1iFBC1hG1iGBC1hG1iJBC1hG1iKBC1hI1hRBC1hI1hSBC1hI1iFBC1hI1iGBC1hI1iJBC",
    "1hI1iKBC1hK1hRBC1hK1hSBC1hK1iFBC1hK1iGBC1hK1iJBC1hK1iKBC1hL1hRBC1hL1hSBC1hL1iFBC1hL1iGBC1hL1",
    "iJBC1hL1iKBC1iB1iJBC1iB1iKBC1iC1iJBC1iC1iKBC1iD1hHBC1iD1iEBC1iD1iFBC1iD1iJBC1iD1iKBC1iE1iFBC",
    "1iE1iJBC1iE1iKBC1iF1hHBC1iF1iFBC1iG1hRBC1iG1hSBC1iG1iFBC1iG1iGBC1iG1iJBC1iG1iKBC1iJ1jQBC1iK1",
    "hRBC1iK1hSBC1iK1iFBC1iK1iGBC1iK1iJBC1iK1iKBC1hG1hMBC1hG1hNBC1hG1hOBC1hG1iFBC1hG1iHBC1hI1hMBC",
    "1hI1hNBC1hI1hOBC1hI1iFBC1hI1iHBC1hK1hMBC1hK1hNBC1hK1hOBC1hK1iFBC1hK1iHBC1hL1iFBC1hM1hNBC1hM1",
    "iFBC1hN1hMBC1hN1iFBC1hO1hMBC1hO1iFBC1hT1hMBC1hT1hNBC1hT1hOBC1hT1iFBC1hV1hNBC1hV1hOBC1hV1iFBC",
    "1hW1hMBC1hW1hNBC1hW1hOBC1hW1iFBC1hX1hNBC1hY1iFBC1hZ1hMBC1hZ1iFBC1hw1hMBC1hw1iFBC1iB1hMBC1iB1",
    "hNBC1iB1hOBC1iB1iFBC1iC1hNBC1iC1iFBC1iD1hMBC1iD1hNBC1iD1hOBC1iD1iEBC1iD1iFBC1iE1hMBC1iE1hNBC",
    "1iE1hOBC1iE1iFBC1iE1iHBC1iF1hMBC1iF1hNBC1iF1hOBC1iF1iFBC1iG1hMBC1iG1hNBC1iG1hOBC1iG1iFBC1iG1",
    "iHBC1iH1hMBC1iH1iFBC1iH1jQBC1iK1hMBC1iK1hNBC1iK1hOBC1iK1iFBC1iK1iHBC1hG1iFBC1hG1iHBC1hI1iFBC",
    "1hI1iHBC1hK1iFBC1hK1iHBC1hL1iFBC1hL1iHBC1hT1iFBC1hT1iHBC1hU1iFBC1hU1iHBC1iD1iEBC1iD1iFBC1iE1",
    "iFBC1iG1iFBC1iG1iHBC1iK1iFBC1iK1iHBD1iA1iO1iRBD1iA1iP1iRBD1iA1iQ1iRBC1hX1iJBC1hX1iKBC1hZ1iJB",
    "C1hZ1iKBC1hw1iJBC1hw1iKBC1hT1iJBC1hT1iKBC1hU1iJBC1hU1iKBC1hN1iJBC1hN1iKBC1hM1iJBC1hM1iKBC1hO",
    "1iJBC1hO1iKBC1hV1iJBC1hV1iKBC1hW1iJBC1hW1iKBC1hU1hMBC1hU1hNBC1hU1hOBC1hU1iFBC1hU1hRBC1hT1hRB",
    "C1hV1hRBC1hW1hRBC1hX1iJBC1hX1iKBC1hZ1iJBC1hZ1iKBC1hw1iJBC1hw1iKBC1hT1iJBC1hT1iKBC1hU1iJBC1hU",
    "1iKBC1hN1iJBC1hN1iKBC1hM1iJBC1hM1iKBC1hO1iJBC1hO1iKBC1hV1iJBC1hV1iKBC1hW1iJBC1hW1iKBC1hU1hMB",
    "C1hU1hNBC1hU1hOBC1hU1iFBC1hU1hRBC1hT1hRBC1hV1hRBC1hW1hRBC1hU1hMBC1hU1hNBC1hU1hOBC1hU1iFBC1hT",
    "1iHBC1hU1iHBC1hX1iFBC1hT1hMBC1hT1hNBC1hT1hOBC1hU1hMBC1hU1hNBC1hU1hOBC1hX1iFBC1hY1iFBC1hH1iLB",
    "C1hH1iLTD1hK1hM1iFBD1hK1hN1hMBD1hK1hN1hMBD1hK1hN1iFBD1hK1hO1iFBD1hK1iF1hMBD1hK1iF1hNBD1hK1iF",
    "1hOBD1hM1iF1hNBD1hM1iF1hNBD1hN1iF1iKBD1hN1iF1iJBD1hT1hN1hMBD1hT1hM1hNBD1hT1hM1iJBD1hT1iF1hNB",
    "D1hT1iF1hNBD1hT1iF1hMBD1hT1iF1iFBD1hT1iF1iFBD1hV1hN1hNBD1hV1hN1hNBD1hV1iF1iFBD1hU1hN1iFBD1hU",
    "1hN1iFBD1hU1hM1iKBD1hU1iF1hOBD1hU1iF1hOBD1hU1iF1iFBD1hU1iF1iFBD1hW1hN1iJBD1hW1hO1iFBD1hW1hO1",
    "iFBD1hX1iF1hNBD1hX1iF1hNBD1hX1iF1iFBD1hX1iF1iKBD1hZ1hM1iFBD1hZ1iF1iFBD1hZ1iF1iFBD1hZ1iF1iJBD",
    "1hw1iF1iFBD1hw1iF1iKBD1hw1iF1iJBD1iB1hO1iFBD1iB1hO1iFBD1iC1iF1hNBD1iC1iF1iFBD1iE1hN1iFBD1iE1",
    "hN1iKBD1iE1hN1iJBD1iE1hM1hMBD1iE1hM1hMBD1iE1hO1iFBD1iE1hO1iFBD1iE1iF1hNBD1iE1iF1hNBD1iF1hN1h",
    "MBD1iF1hN1iFBD1iF1hN1iKBD1iF1hM1hNBD1iF1hM1iFBD1iF1hO1hMBD1iF1hO1iFDD1iF1hM1hOBD1iH1iF1hMBD1",
    "iH1iF1iFBD1iG1hN1iFBD1iG1hN1iJBD1iG1hM1iFBD1iG1hM1iFBD1iG1hM1iJBD1iG1iF1iKBD1iG1iF1iJBD1iK1i",
    "F1iFBD1iK1iF1iFBD1hI1hO1iKBD1hK1hM1iKBD1hK1hM1iJBD1hK1hO1iKBD1hK1hO1iJBD1hK1iF1iKBD1hK1iF1iJ",
    "BD1hM1iF1iKBD1hM1hN1iJBD1hM1iF1iJBD1hT1hO1iJBD1hV1hN1iKBD1hU1hN1iKBD1hW1hN1iKBD1iE1hM1iKBD1i",
    "E1iF1iKBD1iK1hN1iKBD1iK1hM1iKBD1iK1iF1iKBD1iF1iF1iKBD1iC1iF1iKBD1iG1hN1iKBD1iC1iF1hNBD1iE1hN",
    "1iFBD1hZ1iF1iKBD1iD1iF1iKBD1iG1hM1hNBD1iF1hO1iKBD1iE1hM1iFBD1iD1iF1iFBD1iE1hM1iFBD1iG1hM1hNB",
    "D1hM1hN1iKBD1hN1hM1iKBD1iF1hM1iKBD1iB1iF1iKBD1hI1hN1iKBD1iD1iF1iFBD1hZ1hM1iFBD1hV1iF1iFBD1hT",
    "1hO1iKBD1iG1hM1iK1JD1hV1iE1mSBD1iC1iE1mSBE1hH1iE1iE1iHBE1hH1iD1hI1hRBE1iF1hN1iF1hPBE1hV1iE1h",
    "Z1iFBE1hR1hT1iI1iEBE1hZ1iE1iK1iHBE1iI1hT1iE1iFBD1hV1iE1iJBS1hV1iE1iJ1A1hH1iE1iE1iH1A1hZ1iE1i",
    "K1iH1A1iI1hT1iE1iFBI1hM1iE1A1hM1iE1hH1iE1iHBE1hR1mM1hH1iE2NC1AoFBC1AoFBC1AoFBC1AoF1EC1A1iLBC",
    "1iA1iLBC1A1iMCC1A1iNCC1A1iOBC1iA1iOBC1A1iPBC1iA1iPBC1A1iQBC1iA1iQBC1A1iRBC1iA1iRBC1A1iSBC1iA",
    "1iS3WC1iE1hCBC1iE1hCBC1iE1hDBC1iE1hDBC1iE1hFBC1iE1hFBC1iE1hHBC1iE1hH7HC1AoE1kbxC3kaX3kbFBC3k",
    "aY3kbFBD3kaY3kbF3kbOBD3kaY3kbF3kbPBD3kaY3kbF3kbQBD3kaY3kbF3kbRBD3kaY3kbF3kbS2XC3kdZ3kbFBC3kd",
    "w3kbFBD3kdZ3kbF3kbOBD3kdw3kbF3kbOBD3kdZ3kbF3kbPBD3kdw3kbF3kbP7qBC1Q1MBC1R1MBC1S1MBC1T1MBC1U1",
    "MBC1V1MBC1W1MBC1X1MBC1Y1MBC1Z1MGD1I3B1JBD1I3C1JBD1I3D1JBD1I3E1JBD1I3F1JBD1I3G1JBD1I3H1JBD1I3",
    "I1JBD1I3J1JBD1I3K1JBD1I3L1JBD1I3M1JBD1I3N1JBD1I3O1JBD1I3P1JBD1I3Q1JBD1I3R1JBD1I3S1JBD1I3T1JB",
    "D1I3U1JBD1I3V1JBD1I3W1JBD1I3X1JBD1I3Y1JBD1I3Z1JBD1I3w1JBDc0U3Tc0VDC3D3EBC3X3wyC3I3WBC3N3WBC3",
    "T3EBC3T3TBD3Q3Q3WBC3X3DxC3N3DBC3N3EBC3N3S1EC3E3K3QCc3xc2LBCc5Tc5T1-Dc0UppMc0VBDc0UjgJc0VBDc0",
    "UjkMc0VBDc0UmsJc0VBDc0Us5Zc0VBDc0UoiTc0VBDc0UtmXc0VBDc0Ukmzc0VBDc0UpaXc0V"]

/-- The code points that are kept. -/
def kept : Unicode.Ranges :=
  Unicode.rangesOfText keptText

/-- The code points that are left out. -/
def ignored : Unicode.Ranges :=
  Unicode.rangesOfText ignoredText

/-- The code points that are replaced by one other. -/
def replaced : List (Nat × Nat) :=
  Unicode.shiftsOfText replacedText

/-- The code points that are replaced by several. -/
def expanded : List (Nat × List Nat) :=
  Unicode.sequencesOfText expandedText

/-- What a code point becomes; `none` if it is refused. -/
def map? (n : Nat) : Option (List Nat) :=
  if kept.contains n then some [n]
  else if ignored.contains n then some []
  else
    match replaced.lookup n with
    | some m => some [m]
    | none => expanded.lookup n

end Domain
end ApiContract
