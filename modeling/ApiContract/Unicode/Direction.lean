import ApiContract.Unicode.Table

/-!
# Direction and joining

The bidirectional class of a code point, as far as the rules for domain names tell
classes apart, and how it joins its neighbours in cursive scripts.
-/

namespace ApiContract
namespace Unicode

/-- A bidirectional class.  `other` stands for the classes that no label may hold. -/
inductive BidiClass where
  | left
  | right
  | arabicLetter
  | arabicNumber
  | europeanNumber
  | europeanSeparator
  | commonSeparator
  | europeanTerminator
  | otherNeutral
  | boundaryNeutral
  | nonspacingMark
  | other
  deriving DecidableEq

/-- The runs of code points of another class than `left`: gap, length less one, and
the number of the class. -/
def bidiText : String :=
  String.join [
    "AIJAELANJAELABIACHAEIAAFAAGAAFABGAJEAAGAFIwFIwDIAFJAALAZJAAGAAIADHADIBBIAAJABIABHABEAAIBCIAA",
    "EBEIXAI-AIeBBIHNICNIFIIBQIA3PKEBIIAIFBIBAI3OAI4MGK8AAICBIAAHAABA1MKAABAAKAABABKAABABKAABAAKA",
    "1XBAFDABIAACABHAACAAGAACABIAKKA1PCAUKAJDAAHABDACCAAKA3ECAGKAADAAIAFKABCABKAAIADKABCAJEAWCAAK",
    "AzCAwKA2wCAKKAOCA1KBAIKABBADIACBAAKAXBADKAABAIKAABACKAABAEKA1KBACKADBA1PCABDAFCAHKA1JCAXKAAD",
    "A-K1XAKBAKEHKEAKDGKKBKzAK1wAKEDKIAKUBKOBHHAHCAKCBK1ZAKEBKEBKCCKDAK+BKDAKLBK1ZAKEEKBBKEAKUBKN",
    "AHIFKBAK1wAKCAKBDKIAKHBKLBK+AK1zAKMAK1FFIAAHAAIFAKDAK1XAKBCKFCKBDKHBKLBKUGICAK1wAKPBKUBKyBK1",
    "ZBKEDKIAKUBKzAK2IAKHCKBAK2wAKCGKEAHHHK3CAKCIKLGK2JBKxAKBAKBAKADI1TNKBEKBBKFKKB1DKJAK3GDKBFKB",
    "BKCBKZBKECKQDKNAKCBKGAKPAKl-CK1QJI3GAIj-ALwBI3VCKzBK+BK+BK2ABKBGKIAKCKKHAHBAKSJIGKIACKAAJAAK",
    "3VBK1CAK3WCKEBKJAKGCKEAIDBI4Y1BIXBKCAK1wAKBGKBAKBAKCHKGJKCAK1Q+K1RDK1QAKBEKBAKFAK1IIKMBK1ADK",
    "CBKBCK1YAKBBKDAKBCK1wHKCBK4YCKBMKBGKEAKGAKDBK6G1-KdzAIBCILCINCINCINBIBKLACJBABAXIAGLAAGAEHAO",
    "IAAGAZIAALAFJADLAFJAAEDFEABFACIBJEABFACIR1PHA1AKPBIBDIBBIKAIBCIFFIBAIBAIBAIEAHLBIEEIFDICPI1J",
    "CIE4BIAAFAAHA9BI2FZIB4QIZKIV1HIATE2OeBIBaSI8AjTIC-IB3II7FFIECKHGI3-AK3A-KA2zI1CZIB2YIM6VIwLI",
    "EALADIDYIJDKCAIFBIFCI2ZBKABIDAI2wAI6E1DI1ZBI1RPIyCI1SOIMDI5HDI3DBI-AI6eA1-IlkQ1WIaGCI2-DKAAI",
    "AJKABI+BK2QBKO1BI3GAI3ZAKDAKEAKZBKBDIAAKLBH1wDI2MBKwRKNAK1GHKZKK1OCK1QAKCDKCBK1HAK2DFKCBKCBK",
    "MAKIAK1PAK1TAKBCKCBKFBKBAK1KBKIAK3TBI3ZAKCAKEAKjpPABAAKAJBAAFA1FBAfNCARIA3+CAAIA-JAMCACIAPKA",
    "JIGPKA-IAAGAAIAAGBAIAAGAIIAAHABIABFACIBAIABHAAIE4OCAAJBBIACHAEIAAFAAGAAFABGAJEAAGAFIwFIwKI3w",
    "BHACIABHBGIBIJAEIABJ8BAI1+2MIDMIDAI2yAK7CAKAwE3wEK14F8+BAAIA7ABACKAABABKAEBADKA1HBACKADBAAKA",
    "5EBABKA2RBAGIAd-BA1DCADKAHCAJDAFCA8-BA+DA1LBABKASBA1yCACKA1PBAVCAKKA+CARBADKA3ZBBAK1WOKLTIKA",
    "KCBKKCK1RDKCBKHAK1zCK1EEKBHK1+AKMBK1UIKKDKCAK2-CKCAKBBKGAKCAK4zAKDHKVBK1ZBKDAK1FGKDEK6DHKCCK",
    "BAKXAK2UFKBAKEBKBBK7ODKGBKBBKxBK2VHKCAKBBK-MI1+AKBAKCFKBAK3FCKCDKBEK8DIKBBK8ABKBAKEAK4QDKCBK",
    "EAK1AFKCBK1IFKCDKIAKJFKCCK1OMKBBKcWGKBFK2UVKCGKBBKBBK3wFKDAKBBKBGKBAK2IBKDAKBAKaxBKLBK1UEKFA",
    "KBAK4SHIADHAQI52OAKGOKdkwEK1xGK10YAK1-DK2PAIBAKj5YBKBDJ4iy1NKCWKhACKJHJAHKCGK+DK1xBIV2BIACKA",
    "AI5w2WIsEAI1ZAI1ZAI1ZAI1ZAIK1REgA1WKE1RKIAKOAKWEKBOK1aQGKBQKCGKBBKBEK3EAK5AGKbXAK1zDKPAHfMDK",
    "oQ6PBAGKA3MBAGKApEBA2PCA1-BA2PCA5PBA7PCABIANCA7-BA1LIE3DIMOICOIBOIB1EIKKEAEI-AI1wFI1zAI5SFI4",
    "wuXIEQIDMID3WIE2+IGLIEAIPLIE1XIIJIG1HIIzICBI2OaTIMNICMIDIIH1NIBGIINIEIIHIIH4SIB1WI1FJE10EBJ1",
    "vv+BJ1vv+BJ1vv+BJ1vv+BJ1vv+BJ1vv+BJ1vv+BJ1vv+BJ1vv+BJ1vv+BJ1vv+BJ1vv+8BJA7PKA3gPJ1rv+BJ1vv+B",
    "J1vv+BJ"]

/-- The runs of code points of another class than `left`. -/
def bidiRuns : List Run :=
  valuedRunsOfText bidiText

/-- The class with a number of the table. -/
def BidiClass.ofNumber : Nat → BidiClass
  | 0 => .left
  | 1 => .right
  | 2 => .arabicLetter
  | 3 => .arabicNumber
  | 4 => .europeanNumber
  | 5 => .europeanSeparator
  | 6 => .commonSeparator
  | 7 => .europeanTerminator
  | 8 => .otherNeutral
  | 9 => .boundaryNeutral
  | 10 => .nonspacingMark
  | _ => .other

/-- The bidirectional class of a code point. -/
def bidiClass (n : Nat) : BidiClass :=
  match bidiRuns.find? fun r => r.first ≤ n && n ≤ r.last with
  | some r => .ofNumber r.value
  | none => .left

/-- How a code point joins its neighbours. -/
inductive Joining where
  | none
  | dual
  | left
  | right
  | transparent
  deriving DecidableEq

/-- The runs of code points that join: gap, length less one, and the number of the
way. -/
def joiningText : String :=
  String.join [
    "5NAEiS3PE8TGE8H1MEBAEBBEBBEBAE2IKEBAEDABBDDAABAADAABAADAEBADDAMBBGBAADABBAUEOBBAAEACDBCDAPBA",
    "RDA1FBAADABBAIDAABAADAABAADABBABDBADAGECFECBEBDEABDKCBCABPAEAADAAEACBAEDADBAADAIBAADAABAADAA",
    "BAADABBAADAwECADAKBACDAOBABDADBAADAABABDACBABDAFB1GKEZ1ABAIEJAEYDEBIEBCEBEESADAEBABDAABAADAJ",
    "BAADAABACDACEEABBDBBADAABABDFSDDABCEBAADJHEAJBACDBADABBABDAFBAADAOBBXEB-E1XAEBAEEHEEAEDGEKBE",
    "zAE1wAEEDEIAEUBEwAECBE1ZAEEBEEBECCEDAE+BEDAELBE1ZAEEEEBBEEAEUBEWFEBAE1wAECAEBDEIAEHBELBE+AE1",
    "zAEMAE1SAEDAE1XAEBCEFCEBDEHBELBEzAE1wAECAEGAEFBEUBEyBE1ZBEEDEIAEUBEzAE2IAEHCEBAE2wAECGEMHE3C",
    "AECIELGE2JBExAEBAEBAE1XNEBEEBBEFKEB1DEJAE3GDEBFEBBECBEZBEECEQDENAECBEGAEPAEl-CEtSCEzBE+BE+BE",
    "2ABEBGEIAECKEJAE1JABDCEBAEQ2YBMBEA1BBAAEAAB3VCEEBEJAEGCE6xBECAE1wAEBGEBAEBAECHEGJECAE1Q+E1RD",
    "E1QAEBEEBAEFAE1IIEMBE1ADECBEBCE1YAEBBEDAEBCE1wHECBE4YCEBMEBGEEAEGAEDBE6G1-EgLAECBEwEE1REEFFE",
    "3A1AE2v+CE4NAE3A-EhKDE3LBEteUDEBJE1ABE2QBE8QAEDAEEAEZBEFAET1RBAAC2RBEwRENAE1GHEZKE1OCE1QAECD",
    "ECBE1HAE2DFECBECBEMAEIAE1PAE1TAEBCECBEFBEBAE1KBEIAE7OAECAEEAEjpQAEnBPEQPE6PAE7ZCEgBAE7CAE4VE",
    "E1kGCEBBEFDE1ICEEAE4AEBAADBADBBDCACAEDADBAACAEBAADACBAADCADABEEDBAAD4QABAADAABACDACBAADABBAA",
    "DAABABDAABAADXDDABBaRACA1ABAADAABADEcDBE2QCE1QCBAADAQBBKEACBAADxDBABDALBADE1KABBBBACDBABABDA",
    "BBAADABBBABABDAABEADAABAAC1VAE1WOE1JAECBEKCE1RDECBEHAE1zCE1EEEBHE1+AEMBE1UIEKDECAE2-CECAEBBE",
    "GAECAE4zAEDHEVBE1ZBEDAE1FGEDEE6DHECCEBAEXAE2UFEBAEEBEBBE7ODEGBEBBExBE2VHECAEBBE3KAEBAECFEBAE",
    "3FCECDEBEE8DIEBBE8ABEBAEEAE4QDECBEEAE1AJE1IFECDEIAEJFECCE1OMEBBEcWGEBFEBAE2SVECGEBBEBBE3wFED",
    "AEBBEBGEBAE2IBEDAEBAEaxBELBE1UEEFAEBAE57NQEGOEdkwEE1xGE10YAE1-DE2RAEj5YBEBDE4iy1NECWEhACEJPE",
    "CGE+DE4UCE1tx1WEE1REIAEOAEWEEBOE1aQGEBQECGEBBEBEE3EAE5AGEbXAE1zDEfyDEvAGE1J2DBAHEo5lVAE+2-E4",
    "A7PE"]

/-- The runs of code points that join. -/
def joiningRuns : List Run :=
  valuedRunsOfText joiningText

/-- How a code point joins its neighbours. -/
def joining (n : Nat) : Joining :=
  match joiningRuns.find? fun r => r.first ≤ n && n ≤ r.last with
  | some r =>
      match r.value with
      | 1 => .dual
      | 2 => .left
      | 3 => .right
      | _ => .transparent
  | none => .none

end Unicode
end ApiContract
