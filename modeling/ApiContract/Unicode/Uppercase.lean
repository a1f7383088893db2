import ApiContract.Unicode.Table

/-!
# Upper case

The full upper case of a text: a character may become several.
-/

namespace ApiContract
namespace Unicode

/-- The code points whose upper case is one other code point, in runs of equal
distance. -/
def uppercaseText : String :=
  String.join [
    "3BZA1-2UAA1eO1LWA1-YGA1-HAA7SCXBB1QAAePCCBBHHBBRWBB1PCBBFAAiXBAAcGDBBBFAABEAABGAABDAA6CEAABB",
    "AAaGBAA2j4CDAA8EDCBBHAABFAABDAABEBBBFAABEAABCAA3QGAABBAADCAABBAADCAABBAADCHBBPAA4zCIBBTAABBA",
    "ADCAABETBB1KIBBZAABDBAl3+DAABFEBBJAAl1+BAAl1YBAAl1yBAAdDBAAcxCBAcZDAAcTCAAcVBAA2ik+EAAcZBAA2",
    "ikWCAAczBAA2imOBAA2iiQBAA2ikICAAdBBAAdFBAA2ikIBAAkvOBAA2ikCDAAdFCAAkvwBAAdJDAAdLIAAkuODAAdTC",
    "AA2ikGBAAdTEAA2iiUBAAdTBAA4JBBAdRCAA4NGAAdVLAA2ihKBAA2ihE5HAA5I1MBBBGAABECA8E1RAA2LBCA2JEQA1",
    "-RAA1zBIA1-JAA3-BBA3zDAA3xBAA3REAA2zBAA3LBAAPCLBBXAA5LBAA4-BAAOBAA7HCAA5-DAABDAAB1V-A1-1APA4",
    "-RQBB1KwBB1XGBBNAAzC1PBB4Q1FA2-2rP1KA5sA1NCA5sAnxFAP24IAAc6xBAAc6ZBAAc6HBBAc6DCAAc6FBAAc5XBA",
    "Ac2JBAA24sECAAB7PAA250IEAA7eMRAA253Q3T2KBB4wAA3VG1PBB2-HAQQFAQQHAQQHAQQFAQRDBQPHAQQBA4UCDA5M",
    "EBA6ICBA8ACBA7ACBA7y1UBAQOAAe2JSBAQQBAQFAAObJAA1X1CPA-UAABqMZA1T1rA1PA2-1RAABEAAl2VBAAl2PCCB",
    "BLAABDAABL1RBB3LBBBHAABN1FAe5-1HAAe5-GAAe5-u8UWBB2ANBB5CGBBQ+BB2HBBBFEBBNAABFBBBDAA3ADJBB+HB",
    "BTBBBFHBB1JAABqzAA1p-z2PA2bs-kuRZA1-17H1HA2P5Q1DA2P5-KA2NMOA2NQGA2NIBA2N1oF1SA3-5QVA1-2qQ-A1",
    "-ldA-A1-2xYA1VujH1BA2D"]

/-- The code points whose upper case is several code points. -/
def uppercaseSequenceText : String :=
  String.join [
    "6-C2T2T3KCly2O5HC2KoMdADsZoIoB1ADtFoIoBeXC19V1aS68PC2IpRBC2UoIBC2XoKBC2ZoKBC2Bl+5WCtFoTCDtFo",
    "ToACDtFoToBCDtFoTqC1KC7oIsZBC7oJsZBC7oKsZBC7oLsZBC7oMsZBC7oNsZBC7oOsZBC7oPsZBC7oIsZBC7oJsZBC",
    "7oKsZBC7oLsZBC7oMsZBC7oNsZBC7oOsZBC7oPsZBC7pIsZBC7pJsZBC7pKsZBC7pLsZBC7pMsZBC7pNsZBC7pOsZBC7",
    "pPsZBC7pIsZBC7pJsZBC7pKsZBC7pLsZBC7pMsZBC7pNsZBC7pOsZBC7pPsZBC7rIsZBC7rJsZBC7rKsZBC7rLsZBC7r",
    "MsZBC7rNsZBC7rOsZBC7rPsZBC7rIsZBC7rJsZBC7rKsZBC7rLsZBC7rMsZBC7rNsZBC7rOsZBC7rPsZDC7twsZBCsRs",
    "ZBCsGsZCCsRqCBDsRqCsZFCsRsZGC7uKsZBCsXsZBCsJsZCCsXqCBDsXqCsZFCsXsZGDsZoIoABDsZoIoBDCsZqCBDsZ",
    "oIqCLDtFoIoABDtFoIoBBCtBoTCCtFqCBDtFoIqCLC7vwsZBCtJsZBCsPsZCCtJqCBDtJqCsZFCtJsZ1moEC2G2GBC2G",
    "2JBC2G2MBD2G2G2JBD2G2G2MBC2T2UBC2T2UNC1aE1aGBC1aE19VBC1aE19xBC1aO1aGBC1aE19z"]

/-- The code points whose upper case is one other code point. -/
def uppercasePairs : List (Nat × Nat) :=
  shiftsOfText uppercaseText

/-- The code points whose upper case is several code points. -/
def uppercaseSequences : List (Nat × List Nat) :=
  sequencesOfText uppercaseSequenceText

/-- The upper case of a character. -/
def uppercaseChar (c : Char) : List Char :=
  let n := c.toNat
  if n < 128 then
    [if 'a' ≤ c && c ≤ 'z' then Char.ofNat (n - 32) else c]
  else
    match uppercaseSequences.lookup n with
    | some ns => ns.map Char.ofNat
    | none =>
        match uppercasePairs.lookup n with
        | some m => [Char.ofNat m]
        | none => [c]

/-- The upper case of a text. -/
def uppercase (text : String) : String :=
  String.ofList (text.toList.flatMap uppercaseChar)

end Unicode
end ApiContract
