import ApiContract.Unicode.Table

/-!
# Simple case folding

Two code points are equal without regard to case if they fold to the same one.
-/

namespace ApiContract
namespace Unicode

/-- The code points that fold to another one, in runs of equal distance. -/
def foldingText : String :=
  String.join [
    "2BZA2A3UAA1gOLWA2AYGA2A1IXBC1SCBCHHBCRWBC1OAA7RBCBCGAAgXCAAdEBBBCEAAcyBAACCBAcwCAACDAA4+BAAc",
    "UBAAcWBAACCAAcwBAAc+CAAdGBAAdCBAACEAAdGBAAdKCAAdMBCBCGAAdUBAACCAAdUDAACCAAdUBAACCBAdSCBBCEAA",
    "dWBAACEAACIAAEBAACCAAEBAACCAAEBIBCTIBCTAAEBBBCEAA6BBAA3PBTBC1IAA8DCIBCYAAl2WBAACCAAaFBAAl2QD",
    "AACCAAcFBAA4KBAA4OBEBC7-AA7I1LBBCGAACJAA7IHAA2MCCA2KEAA4ACBA3+DQA2ASIA2A-AACNAAQBAA1xBAA1REA",
    "AzBAA1LCLBCYAA3LBAA2-DAA3XBAA3-CAACCAANBAACDCA8DDPA5AQ-A2A2QQBC1KwBC1WAA+BGBCP1PBC3B1FA3A2rP",
    "1FAe6A1HAAe6AGAAe6ApLFAP24IAAc4xBAAc4ZBAAc4HBBAc4DCAAc4FBAAc3XBAAc2HBAA24sGBAACH1KA5r-1NCA5r",
    "-aD2KBC4xAA3TDAAerzC1PBC3IHAPQFAPQHAPQHAPQFAPRDBPPHAP1AHAPQHAPQHAPQBAPCBA4TCAARCAAe0JKDA5LEA",
    "ARMBAPCBA6HOBAPCBA6-CAANMBA7-CBA7xCAAR9KAAelZEAAgbzBAAg4LHAA1Y1OPA1A1DAACpTZA1U1qK1PA3A3AAAC",
    "CAAkvNBAA7eLBAAkuNDCBCGAAl1XBAAkvZBAAl1zBAAl1xCAACDAACJBAl3zC1RBC3LBBCHAACuaOWBC2ANBC5CGBCQ+",
    "BC2HBBCEAA250HBEBCNAACCAA2iiPDBBCGJBCUAA2ikHBAA2ikzBAA2ikVBAA2ikBBAA2ikHCAA2ihDBAA2iiTBAA2ih",
    "JBAA1qABHBCQAA2-BAA2ikFBAA253PBBBCEAA2imNBHBCQAA2j4BZAACrx2PA2bs-ktRZA2A16-1HA2Q5Q1DA2Q6AKA2",
    "OMOA2OQGA2OIBA2O1nM1SA4A6QVA2A2qQ-A2AldA-A2A3AYA1WujA1BA2E"]

/-- The code points that fold to another one, each with the one it folds to. -/
def foldingPairs : List (Nat × Nat) :=
  shiftsOfText foldingText

/-- Adds to a set of code points all that fold like one of them. -/
def caseClosure (set : Ranges) : Ranges :=
  let folded := (foldingPairs.filter fun p => set.contains p.1 || set.contains p.2).map (·.2)
  let members := (foldingPairs.filter fun p => folded.contains p.2).map (·.1)
  (folded ++ members).foldl (fun all n => all.union [(n, n)]) set

end Unicode
end ApiContract
