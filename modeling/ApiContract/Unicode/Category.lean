import ApiContract.Unicode.Table

/-!
# General categories

The general category of every code point, as runs of equal categories, and the
names by which categories and their groups are called.
-/

namespace ApiContract
namespace Unicode

/-- The runs of equal categories from code point 0 on.  The categories are numbered
in the order Lu, Ll, Lt, Lm, Lo, Mn, Mc, Me, Nd,
Nl, No, Pc, Pd, Ps, Pe, Pi, Pf, Po, Sm, Sc, Sk, So, Zs, Zl, Zp, Cc, Cf, Co, Cs, Cn. -/
def categoryText : String :=
  String.join [
    "-ZAWCRATCRANAOARASARAMBRJIBRCSBRZAANARAOAUALAUZBANASAOAS1AZAWARDTAVARAUAVAEAPASAwAVAUAVASBKA",
    "UABBRAUAKAEAQCKARWAASGAXBASHBAAABAAABAAABAAABAAABAAABAAABAAABAAABAAABAAABAAABAAABAAABAAABAAA",
    "BAAABAAABAAABAAABAAABAAABAAABAAABAAABAAABAAABAABBAAABAAABAAABAAABAAABAAABAAABAABBAAABAAABAAA",
    "BAAABAAABAAABAAABAAABAAABAAABAAABAAABAAABAAABAAABAAABAAABAAABAAABAAABAAABAAABAAABBAABAAABAAC",
    "BBAABAAABBAABCABBDAABBAABCACBBAABBAABAAABAAABBAABAABBAAABBAABCAABAAABBABBAEAACBDEAAACABAAACA",
    "BAAACABAAABAAABAAABAAABAAABAAABAAABAABBAAABAAABAAABAAABAAABAAABAAABAAABAABBAAACABAAABCAABAAA",
    "BAAABAAABAAABAAABAAABAAABAAABAAABAAABAAABAAABAAABAAABAAABAAABAAABAAABAAABAAABAAABAAABAAABAAA",
    "BAAABAAABAAABAAABAAGBBAABBABBAAABDAABAAABAAABAAABAA2EBBEZBRDDULDNUEDGUADAUADQU3PFAAABAAABADA",
    "UAAABBzADCBARAADzBUAAARCAAzAAAzBAABQAAzIA1CBAABBCACBAAABAAABAAABAAABAAABAAABAAABAAABAAABAAAB",
    "AAABAAEBAAABASAAABBABB1SA1PBAAABAAABAAABAAABAAABAAABAAABAAABAAABAAABAAABAAABAAABAAABAAABAAAB",
    "AAABAVEFBHAAABAAABAAABAAABAAABAAABAAABAAABAAABAAABAAABAAABAAABAAABAAABAAABAAABAAABAAABAAABAA",
    "ABAAABAAABAAABAAABAAABAAABBAABAAABAAABAAABAAABAAABAABBAAABAAABAAABAAABAAABAAABAAABAAABAAABAA",
    "ABAAABAAABAAABAAABAAABAAABAAABAAABAAABAAABAAABAAABAAABAAABAAABAAABAAABAAABAAABAAABAAABAAABAA",
    "ABAAABAAABAAABAAABAAABAAABAAABAAABAAABAAABAAABAAABAAABAAABAAABAz1FABzADFR1IBARAMBzBVATAz1MFA",
    "MAFARBFARBFARAFHzwEDzDEBRKzFwCSBRATBRBVKFARAwCR-EADJEUFJIDRBEAF3CEARAEGFAwAVFFBDBFAVDFBEJICE",
    "BVAENRAzAwAEAFzEwFBz2YEKFAENzJI1AEIFBDAVCRADBzAFBTVEDFADIFADCFADEFBzORAzYECFBzARAzKEEzXEAUGE",
    "BwEzIF1IEADXFAw-FAG1VEAFAGAFAECGHFDGAFBGAEGFJEBFBRJIARADOEAFBGAzHEBzBEBzVEAzGEAzAECzDEBzAFAE",
    "CGDFBzBGBzBGAFAEHzAGDzBEAzCEBFBzJIBEBTFKAVATAEARAFBzBFAGAzFEDzBEBzVEAzGEAzBEAzBEAzBEBzAFAzCG",
    "BFDzBFBzCFCzAFGzDEAzAEGzJIBFCEAFARJzBFAGAzIEAzCEAzVEAzGEAzBEAzEEBzAFAECGEFAzBFAGAzBGAFBzAEOz",
    "BEBFBzJIARATGzAEFFAzAFBGAzHEBzBEBzVEAzGEAzBEAzEEBzAFAEAGAFAGDFBzBGBzBGAFGzBFAGDzBEAzCEBFBzJI",
    "AVAEFKJzAFAEAzFECzCEAzDECzBEAzAEAzBECzBECzCECzLEDzBGAFBGCzCGAzCGAFBzAEFzAGNzJICKFVATAVEzAFCG",
    "AFHEAzCEAzWEAzPEBzAFAECFDGAzCFAzDFGzBFAzCEAzBEBzBEBFBzJIGzARGKAVAEAFBGARHEAzCEAzWEAzJEAzEEBz",
    "AFAEAGAFEGAzAFBGAzBGBFGzBGEzCEAzBEBFBzJIAzBEAGLzBFBGIEAzCEAz1IEBFAECGDFAzCGAzCGAFAEAVDzCEAGG",
    "KCEBFBzJIIKAVFEAzAFBGAzRECzXEAzIEAzAEBzGECzAFDzCGCFAzAFAzHGFzJIBzBGARLz1PEAFBEGFDzATFEADHFAR",
    "JIBR1EzBEAzAEAzEEAzXEAzAEAzJEAFBEIFAEBzEEAzADAzGFAzJIBzDE-zAECVORAVARCVBFFVJIJKAVAFAVAFAVAFA",
    "NAOANAOBGHEAz1DEDzNFAGEFARBFEEKFAz1DFAzHVAFFVAzBVERDVBR1Ez1KEBGDFAGFFAGBFBGBFAEJIFRFEBGBFDEC",
    "FAECGBEGGCEDFMEAFBGBFFGAFAEAGJICGAFBV1FAAzAAEzAABz1KBARADCBaIEAzDEBzGEAzAEAzDEBz1IEAzDEBz1AE",
    "AzDEBzGEAzAEAzDEBzOEAz1YEAzDEBz2CEBzCFIRTKCzPEJVFz2VABzFBBzAMjLEAVARQEAWZEANAOCz2KECRCJHEGzR",
    "ECFAGIzSEBFAGBRIzREBFLzMEAzCEAzBFLz1TEBFAGGFHGAFBGKFCRADCRATAEAFBzJIFzJKFzFRAMDRCFAwAFJIFz1C",
    "EAD1UEGzEEBF1BEAFAEEz2FEJz+EAzCFDGBFCGDzBGAFFGCFDzAVCzBRJIzEBzEEKz1LEDzZEFzJIAKCz1BVWEBFBGAF",
    "BzBR1UEAGAFAGGFAzAFAGAFBGHFFGJFBzAFJIFzJIFzGRADFRBzNFAH+FBzLFTzDFAG1OEAFAGEFAGAFEGAFBGHEAzBR",
    "JIGRJVIFIVCRBFAGzEAGDFBGBFAGCFBEJI1LEAFAGBFCGAFAGCFBGHzDR1DEHGHFBGBFCzERJICzCEJIzEFDBRIBAAAB",
    "Ez1KABzCAHRHzCFARMFAGGFDEAFFEAFBEAGBFAEEz1LB1+DMBAD1BB1ED1-FAAABAAABAAABAAABAAABAAABAAABAAAB",
    "AAABAAABAAABAAABAAABAAABAAABAAABAAABAAABAAABAAABAAABAAABAAABAAABAAABAAABAAABAAABAAABAAABAAAB",
    "AAABAAABAAABAAABAAABAAABAAABAAABAAABAAABAAABAAABAAABAAABAAABAAABAAABAAABAAABAAABAAABAAABAAAB",
    "AAABAAABAAABAAABAAABAAABAAABAAABAAABAAABAAABAAABAAABAAABAAABAAABAAABAAABAAABAAABAAIBAAABAAAB",
    "AAABAAABAAABAAABAAABAAABAAABAAABAAABAAABAAABAAABAAABAAABAAABAAABAAABAAABAAABAAABAAABAAABAAAB",
    "AAABAAABAAABAAABAAABAAABAAABAAABAAABAAABAAABAAABAAABAAABAAABAAABAAABAAABAAABAAABAAABAAABAAAB",
    "AAIBHAFBBzFABzHBHAHBHAFBBzFABzHBAzAAAzAAAzAAAzAAHBHANBBzHBHCHBHCHBHCEBAzBBDAACAUABCUCBAzBBDA",
    "ACCUDBBzBBDAAzCUHBEACUBzCBAzBBDAACBUAzKWEwFMBRAPAQANBPAQANAPHRAXAYEwAWIRAPAQDRBLCRASANAOKRAS",
    "ARALJRAWEwAzJwAKADBzFKCSANAOADJKCSANAOAzMDCz1BTNzMFDHAFCHLFOzBVAADVAABVABCABBCAABAVAABVASEAF",
    "VAAAVAAAVAAAVDAAVABDAABDEABBVBBBAESAADBAVASBVABAVPK1CJAAABDJAKBVDzESEVBSDVASBVASBVASGVAS+VBS",
    "BVASAVAS+V8LSHVANAOANAOTVBSGVANAO2QVASzVYS1HVFS2HVVzKVUz1xK2NVVK5WVASIVAS1VVHS3OVAS7XVANAOAN",
    "AOANAOANAOANAOANAOANAOzK1LVESANAO+SANAOANAOANAOANAOANAOPS7-V4CSANAOANAOANAOANAOANAOANAOANAOA",
    "NAOANAOANAOANAO1+SANAOANAO-SANAO8BS1PVUSBVFS1GVBz4JV1PA1PBAAABCABBAAABAAABAAABDAABAABBAAFBBD",
    "CAABAAABAAABAAABAAABAAABAAABAAABAAABAAABAAABAAABAAABAAABAAABAAABAAABAAABAAABAAABAAABAAABAAAB",
    "AAABAAABAAABAAABAAABAAABAAABAAABAAABAAABAAABAAABAAABAAABAAABAAABAAABAAABAAABAAABAAABAAABAAAB",
    "AAABAAABAAABAABBFVAAABAAABCFAAABEzDRAKBR1FBAzABEzABBz1XEGzADARNzAFWEIzGEAzGEAzGEAzGEAzGEAzGE",
    "AzGEAzGEAz-FBRAPAQAPAQCRAPAQARAPAQIRAMBRAMARAPAQBRAPAQANAOANAOANAOANAOERADJRBMDRAMARANMRBVCR",
    "ANAOANAOANAOANAOAM1BzZVAz2YVLz6VVZzPVAWCRAVADAEAJANAOANAOANAOANAOANAOBVANAOANAOANAOANAOAMANB",
    "OAVIJDFBGAMEDBVCJADAEARBVAz2VEBzBFBUBDAEAM2ZEARCDAEEz1KEAz2zEAzBVDKJV-E1FVIzAVPE+VAzJKzVHKAV",
    "OK-VJK1GVOK9-V6d-E1-VkgUEAD13WECz1WVIz1HEFDBR8LEADCRPEJIBETzAAABAAABAAABAAABAAABAAABAAABAAAB",
    "AAABAAABAAABAAABAAABAAABAAABAAABAAABAAABAAABAAABAAABAAABAAABAEAFCHARJFARADAAABAAABAAABAAABAA",
    "ABAAABAAABAAABAAABAAABAAABAAABAAABAAABBDBF2FEJJBFFRHzWUIDBUAAABAAABAAABAAABAAABAAABAACBAAABA",
    "AABAAABAAABAAABAAABAAABAAABAAABAAABAAABAAABAAABAAABAAABAAABAAABAAABAAABAAABAAABAAABAAABAAABA",
    "AABAAABAAABAAABAAABAAABAAABADHBAAABAAABBAABAAABAAABAAABAAABADBUAAABAAABAEAAABAACBAAABAAABAAA",
    "BAAABAAABAAABAAABAAABAAABAAABEAABEAABAAABAAABAAABAAABAAABAAABAAABDAABAAABBAABAAABAAABAAABAAA",
    "BAAABAAABAAABAATzDDAAABAEBDABGEAFCEAFDEAFWEBGBFAGDVAFCzFKBVATAVFz1TEDRHzBG1REPGBFHzBRJIFzRFF",
    "ECRAEARBEAFJIxEHFBRWEKFBGKzARyECzCFAG1OEAFBGDFBGBFCGMRAzADJIDzBREEAFADIEJIEEAz1IEFFBGBFBGBFI",
    "zCEAFHEAFAGBzJIBzDRPEADFECVAEAGAFAG1REAFAECFBEBFEEBFAEAFAEXzBEADBRKEAGBFBGBRAEBDAGAFJzFEBzFE",
    "BzFEIzGEAzGEAz1KBAUDDIBADBUDz2PB1CEBGAFBGAFBGARAGAFBzJIFzatDELzWEDz1QEDz1v-y67-xbNEBz3JE1FzG",
    "BLzEBEzAEAFJEASMEAzEEAzAEAzBEAzBEAz3LEQUPVbKEAOANPV1-EBV1VEHV-zLEATCVPFGRANAOARFzPFARBMBLANA",
    "OANAOANAOANAOANAOANAOANAOANAOBRANAODRCLCRAzDRAMANAOANAOANAOCRASAMCSAzARATBRDzEEAz4GEBzAwAzCR",
    "ATCRANAOARASARAMBRJIBRCSBRZAANARAOAUALAUZBANASAOASANAOARANAOBRJEAD1MEBD+ECzFEBzFEBzFEBzCECzB",
    "TASAUAVBTAzAVDSBVJzCwBVBzLEAzZEAzSEAzBEAzOEBzNE1Bz3wEEzCRDz1MKCzIV1UJDKQVBKCVAzMVCzAV1Oz1MVA",
    "F4BzyECz1QEOzAFwKDz-EDKIzTEAJHEAJEz1FEEFEzzEAzAR1DEDzHEAREJ1Jz1HA1HB2NEBzJIFz1DADz1DBDz1HEHz",
    "1TEKzARKAAzOAAzGAAzBAAzKBAzOBAzGBAzBBCz1TELz9WEIzVEJzHEXzFDAz1JDAzID2EzFEBzAEAz1LEAzBECzAEBz",
    "WEAzARHKWEBVGK+EHzIK1PzSEAzBEEzEKVEFKCzARZEEzARZE1Fz1XEDzBKBEPKBz1NKAECFAzBFEzDFDEAzCEAzyEBz",
    "CFDzAFIKGzIRGzyEBKARyECK-zHEAVxEBFDzEKGRIz1VECzGRVEBzHKSEEzHKREGzDRLzGK2Pz2IE1Wz1SAMz1SBGzFK",
    "1DEDFHzJIFzJIDEADAEVACzEFAMADVBHzBS6Pz+KAz1JEAzBFAMBzBEPzCEADBEHzARHV1AzFFyEJKAEHzVEKFDKERVz",
    "REDFDR1FzUEGKTzWEIzAGAFAG1UEOFGRDzTKJIAFBEBFAEIzCFAG1MECGDFBGBFBRAwDRAFJzAwBzYEGzJIFzCF1DEEF",
    "AGHFAzJIDRAEBGAEHz1CEAFBRAEIzBFAG1PECGIFBGDEDRDFARAGAFJIAEARAECRAzTKKzREAzYECGCFBGAFAGBFFRAF",
    "BEAF1zzGEAzAEAzDEAzOEAzJEARFz1OEAFCGHFEzJIFzBFBGAzHEBzBEBzVEAzGEAzBEAzEEAzBFAEBGAFDGBzBGBzCG",
    "BzAEFzAGEzEEBGBzGFCzEFKzJEAzAEBzAEAz1FEAzAECGFFAzAGBzAGAzDGAzBGAFAGAFAEAFAEBRAzBRHzBFyz1UECG",
    "HFBGCFAGAFDEERJIBRAzARAFCEzz1PECGFFAGAFDGBFAGBFBEARAEHzJI5Fz1OECGDFBzDGBFAGBFWRDEBF1Bz1PECGH",
    "FBGAFAGBFCRAEKzJIFzMRSz1KEAFAGAFBGFFAGAFAEARFzJIFzTIxzwEBzAFAGAFBGDFAGEFDzJIBKCRAVGE5Yz1LECG",
    "IFAGBFAR3Dz-A-BJIIKLzHEBzAEBzHEAzBEAzXEFGAzBGBzBFAGAFAEAGAEAGAFCRIzJI2FzHEBz1GECGDFBzBFDGAFA",
    "EARAEAGwzAEJF1HEFFAGAEDFHRAFHzAEFFBGCF1NEMFAGBFCRAEERMz2IEGzJR2VzAFAGCFAGAFAG2Xz1AEARNzJIFzI",
    "EAz1EEAGGFAzFFAGAFAEERJzJISKCzBRzEBzVFAzAGGFAGBFAGBF2IzGEAzBEAz1FEFFCzAFAzBFAzGFAEAFHzJIFzFE",
    "AzBEAz-EEGAzBFAzBGAFAGAFAEGzJIFz1IEADBEDzJI7VzSEBFBGBRGzBFAEAGMEAz1BEBGEFCzBGAFAGAFMRJIAF2Uz",
    "AEOzUKHVDTQVMzARsZE3Fz3OJAzERKz6DE2iLz3AEBRMz11PEPwAFFEOFJz3swEEziGE6lYzzELFCGCFJI1mFzhYEGz+",
    "EAzJIDzBR2OEAzJIFzzEBzEFARJz1PEGFERDVDDARAVJzJIAzGKAzUEEzSEdPzCD1HEBDCRJI6Fz-A-BWKDREzYABzYB",
    "1Lz2KEDzAFAE1WGGzDFMD1-zBDARADAFKzBGBDCJIz76VE1Iz-E3Az3SE8fyzDDAzGDAzBDAz9CEOzAEyzCEBzAENzDE",
    "HzcLE28Dz3KEEzMECzIEGzJEBzAVBFARDw3qxz7PVJICVCzdTVFzWVOzPVASOz1NFBzWFIz3TV1xz7VVJz1GVBz1xVBG",
    "CFCVFGHwHFBVGFzVDF1yVUz2BVCFAV3ZzTKLzTKLz2WVIzYK4GzZAZBZAGBAzRBZAZBAAAzBABzAABzBABzDAAzHADBA",
    "zABAzGBAzKBZAZBBAAzDABzHAAzGAAzZBBAAzDAAzEAAzAACzGAAzZBZAZBZAZBZAZBZAZBZAZBZAxBBzYAASYBASFBY",
    "AASYBASFBYAASYBASFBYAASYBASFBYAASYBASFBAAABBz1RIf-V1WFDV1RFHVAFNVAFBVEROzEFAzOF12PzJBAETBFzF",
    "B6UzGFAzQFBzGFAzBFAzEFEz1zD1AzAF3Pz1MECzGFGDBzJIDzAEAV9-zzEAFQz1LEDFJIEzATePzwEADDFJI6VzzEBF",
    "AEJIDzAR5-z+EAzCEAFBEAFGEBFEEAFHzAEAD6-zGEAzDEAzBEAzOEAz6EEBzIKGF1Iz1BA1BBGFADDzJIDzBRoQz1wK",
    "AVCKATDK2Lz1MKAVOK6BzDEAzwEAzBEAzAEBzAEAzJEAzDEAzAEAzAEFzAEDzAEAzAEAzAEAzCEAzBEAzAEBzAEAzAEA",
    "zAEAzAEAzAEAzBEAzAEBzDEAzGEAzDEAzDEAzAEAzJEAzQEEzCEAzEEAzQE1TzBS8Nz1LVDz3DVLzOVBzOVAzOVAz1EV",
    "JzMK5AV1XzyVMz1LVDzIVGzBVNzFV4Zz7wVEUmYVCzQVCzMVCz6ZVFzLVDzAVOzLVDz1XVHzJVFz1HVHzzVBzLVDzBVN",
    "zIS1GzaXVHzNVBzMVCzKVCz1YVAzAVDzPVBzLVDzJVGz4SVAz2xVJIAV10Ez19m-E-z48zEBz5kNEBz79QEOzjNE2dBz",
    "gzE1fBz4qKEEz89JElisGzAwzz2-w3-z7PF1vgPz1vvzxBz1vvzxBz"]

/-- The runs of equal categories. -/
def categoryRuns : List Run :=
  runsOfText categoryText

/-- The names of categories and groups, without case, blanks, underscores and
hyphens, and the numbers of their categories. -/
def categoryGroups : List (List String × List Nat) :=
  [
    (["c", "other"], [25, 26, 27, 28, 29]), (["cc", "cntrl", "control"], [25]),
    (["cf", "format"], [26]), (["cn", "unassigned"], [29]), (["co", "privateuse"], [27]),
    (["cs", "surrogate"], [28]), (["l", "letter"], [0, 1, 2, 3, 4]),
    (["casedletter", "lc"], [0, 1, 2]), (["ll", "lowercaseletter"], [1]),
    (["lm", "modifierletter"], [3]), (["lo", "otherletter"], [4]),
    (["lt", "titlecaseletter"], [2]), (["lu", "uppercaseletter"], [0]),
    (["combiningmark", "m", "mark"], [5, 6, 7]), (["mc", "spacingmark"], [6]),
    (["enclosingmark", "me"], [7]), (["mn", "nonspacingmark"], [5]),
    (["n", "number"], [8, 9, 10]), (["decimalnumber", "digit", "nd"], [8]),
    (["letternumber", "nl"], [9]), (["no", "othernumber"], [10]),
    (["p", "punct", "punctuation"], [11, 12, 13, 14, 15, 16, 17]),
    (["connectorpunctuation", "pc"], [11]), (["dashpunctuation", "pd"], [12]),
    (["closepunctuation", "pe"], [14]), (["finalpunctuation", "pf"], [16]),
    (["initialpunctuation", "pi"], [15]), (["otherpunctuation", "po"], [17]),
    (["openpunctuation", "ps"], [13]), (["s", "symbol"], [18, 19, 20, 21]),
    (["currencysymbol", "sc"], [19]), (["modifiersymbol", "sk"], [20]),
    (["mathsymbol", "sm"], [18]), (["othersymbol", "so"], [21]),
    (["separator", "z"], [22, 23, 24]), (["lineseparator", "zl"], [23]),
    (["paragraphseparator", "zp"], [24]), (["spaceseparator", "zs"], [22])]

/-- The code points of the categories that a name stands for. -/
def category? (name : String) : Option Ranges :=
  (categoryGroups.find? fun g => g.1.contains name).map fun g =>
    rangesOfRuns (fun value => g.2.contains value) categoryRuns

end Unicode
end ApiContract
