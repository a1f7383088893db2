import ApiContract.Unicode.Table

/-!
# Canonical composition

A text in composed form: combining marks stand in the order of their classes, and
pairs that have a composed character are replaced by it.  The table holds the
pairs that can occur in domain names; Hangul syllables are computed.
-/

namespace ApiContract
namespace Unicode

/-- The runs of code points with a combining class above 0: gap, length less one,
class. -/
def combiningText : String :=
  String.join [
    "oAU7GAA7IAD6yAA7IAA6YAE6yAB6KAD6yAB6KAK6yAEBAD6yAH7GAA7QAA7GAC6yAC7GAB6yBC7GAD6yAA7GAA7IAB6y",
    "AA7GAA7JAB7KAA7JAB7KAA7JAM7G8TE7G8JA6yAD7GAA6yAC7GAA6+AA6yAF7GAF6yAB7GAA6yAB7GAA6+AA7EAA7GAA",
    "KAALAAMAANAAOAAPAAQAARAASABTAAUAAVAAWBAXBAYAAZBA7GAA6yBAS2IH7GAA+AA-AA1A1QAxAAyAAzAA+AA-AA1A",
    "AA1BAA1CAB7GAB6yAE7GAA6yAB7GAA6yQA1D3FG7GCD7GAA6yAA7GCB7GBA6yAB7GAA6y1DA1E+A7GAA6yAB7GAA6yAB",
    "7GAC6yAA7GAB6yAA7GAA6yAC7GAA6yAA7GAA6yAA7GAA6yAA7GAA6yAB7G5AG7GAA6yAA7GJA6yYD7GBI7GBC7GBE7G1",
    "LC6y1yA7GAC6yAD7G1KE7GAE6yAN7GBA6yAB7GAA6yAB7GAA6yAC7GAC6yAAxAAyAAzAC7GAA6yAB7GAB6yAE7G1yAHQ",
    "AJDA7GAA6yAB7G3HAHQAJ1QA7G1zAHQAJ3OAHQAJ3OAHQAJ3-AJ3OAHQAJHA2UAA2x3FAHQAJ3NBJQAJ3yAJ3NB3HAAJ",
    "ND3L3MB3WAAJND3w2MB6yxA6yBA6yBA6Y1XA4BAA4CBA4EFD4CCA4CBB7GAAJBB7G1+A6y3QAHBBJ2SA6ymPC7GtUBJ+",
    "AJ4zAJKA7G6LA7E4PA6+AA7GAA6y6xA7GAA6y2HAJUH7GCA6y1QE7GAF6yAB7GAA6yBB6yAB7GAB6yAE7GAA6yAD7G3F",
    "AHPAJ1GA7GAA6yAG7G1WBJ1wAHLBJ2DAH4YC7GBABAE6yAB7GAD6yAA7GBGBEA6yGA7GDB7G6GB7GAA6yAG7GAA6yAB7",
    "GAA7KAA6WAA6yAA6KA1E7GAA7IAB7EAA6yAA6wAA7GAA7JAA6yAA7GAA6ymQB7GABBAD7GACBAB7GEA7GDBBAA7GAA6y",
    "AA7GABBAD6yAA7G2v+C7G4NAJ3A-7GhKA6wAA7EAA7IAA6+AB7A3JBIteUA7GEJ7G1AB7G2QB7G8UAJ1FAJ4XAJxR7G1",
    "ZC6y1FAJ2-AHMAJ7PA7GBB7GAA6yCB7GFB7GBA7G1UAJ7WAJjpQAwoBG7GAG6yAB7GuNA6y7CA6y4VE7G1kSA6yBA7G1",
    "IA7GAABAA6yEAJ5FA7GAA6yhzD7GcDB7G2QC6y2GB6yAC7GAA6yAA7GAD6y1RA7GAA6yAA7GAA6y6AAJ1JAJOAJ1ZAJA",
    "AH2FC7G1QBJ1+AH2MAJJAH3KAJAAH5SAHAAJ2QBHQAJYG7GDE7G6NAJDAHXA7G3DAJAAH7xAJAAH3+AJ3WAJAAH3TAJ8",
    "NAJAAH8CBJEAH4yAJ2TAJSAJ2RAJdFAJ8CAHBBJ2RAJdJBJitNEB1xG7G15ZBGj5MAB56GB6YACBDA7CAE6YIH6yCE7G",
    "AB6y+D7G4UC7G3dxG7GBQ7GCG7GBB7GBE7G3EA7G5AG7GbXA7G1zD7GfyB7IAA6yAA7GvAG6y3NF7GAAH"]

/-- The composed code points, each with the two that compose it. -/
def compositionText : String :=
  String.join [
    "7A3BoAB3BoBB3BoCB3BoDB3BoIB3BoKC3DpHB3FoAB3FoBB3FoCB3FoIB3JoAB3JoBB3JoCB3JoIC3OoDB3PoAB3PoBB",
    "3PoCB3PoDB3PoID3VoAB3VoBB3VoCB3VoIB3ZoBC3ZoIC3BoEC3BoGC3BpIC3DoBC3DoCC3DoHC3DoMC3EoME3FoEC3F",
    "oGC3FoHC3FpIC3FoMC3HoCC3HoGC3HoHC3HpHC3IoCE3JoDC3JoEC3JoGC3JpIG3KoCC3LpHD3MoBC3MpHC3MoMG3OoB",
    "C3OpHC3OoMF3PoEC3PoGC3PoLE3SoBC3SpHC3SoMC3ToBC3ToCC3TpHC3ToMC3UpHC3UoME3VoDC3VoEC3VoGC3VoKC3",
    "VoLC3VpIC3XoCC3ZoCD3woBC3woHC3woM1D3PoxP3Vox+3BoMC3JoMC3PoMC3VoMC7yoEC7yoBC7yoMC7yoAD7EoEChH",
    "oEC7GoEE3HoMC3LoMC3PpICfLoECkSoMB3KoMF3HoBE3OoAC7FoBC7GoBC7YoBC3BoPC3BoRC3FoPC3FoRC3JoPC3JoR",
    "C3PoPC3PoRC3SoPC3SoRC3VoPC3VoRC3TpGC3UpGE3IoMI3BoHC3FpHC7WoEC7VoEC3PoHChPoEC3ZoEazuKoBytRoBB",
    "tVoBBtXoBBtZoBBuLoBwtZoIBuFoIBt-oBBuFoBBuJoB3L11YoGX11VoAB11VoIC11ToBE12WoIF11woBB11YoAB12Do",
    "GZ13VoP2L11WoGP11QoGC11QoIE11VoGE16ZoIC11WoIC11XoIE11YoEC11YoIC11+oIE17JoIC12NoIC12DoEC12DoI",
    "C12DoLC12HoIE12LoI9J1hH1iTB1hH1iUB1iI1iUB1hH1iVB1iK1iU4w1mV1iUC1mB1iUR1mS1iUiW29I29yI29Q29yD",
    "29T29y4X2eH2d+B2eH2eXby2qH2qWD2qH2p+B2qH2qX2I2sS2uX1W2uG2t+B2uH2t+B2uG2uX3y32G32W3Y35-36VH36",
    "G36VB36G36WC36G36CB36K36V3-3aG39+B3aH39+B3aG3aX4O3eZ3eKC3eZ3ePB3ey3eKB3eZ3e-iI41F41O2nA6oF6p",
    "VC6oH6pVC6oJ6pVC6oL6pVC6oN6pVE6oR6pV1J6pw6pVC6py6pVD6p+6pVB6p-6pVC6qC6pVl+3BpFC3CoHC3CpDC3Cp",
    "RC7HoBC3EoHC3EpDC3EpRC3EpHC3EpNC8ToAC8ToBC3FpNC3FpQChJoGC3GoHC3HoEC3IoHC3IpDC3IoIC3IpHC3IpOC",
    "3JpQC7PoBC3LoBC3LpDC3LpRC3MpDC7hXoEC3MpRC3MpNC3NoBC3NoHC3NpDC3OoHC3OpDC3OpRC3OpNC7VoBC7VoICa",
    "NoACaNoBC3QoBC3QoHC3SoHC3SpDC7ixoEC3SpRC3ToHC3TpDCaxoHCbBoHC7jDoHC3UoHC3UpDC3UpRC3UpNC3VpEC3",
    "VpQC3VpNCbJoBCbLoIC3WoDC3WpDC3XoAC3XoBC3XoIC3XoHC3XpDC3YoHC3YoIC3ZoHC3woCC3wpDC3wpRB3IpRB3Uo",
    "IB3XoKB3ZoKI3BpDC3BoJC7CoBC7CoAC7CoJC7CoDC7lBoCC8DoBC8DoAC8DoJC8DoDC7lBoGC3FpDC3FoJC3FoDC7Ko",
    "BC7KoAC7KoJC7KoDC7lZoCC3JoJC3JpDC3PpDC3PoJC7UoBC7UoAC7UoJC7UoDC7mNoCCdBoBCdBoACdBoJCdBoDCdBp",
    "DC3VpDC3VoJCdQoBCdQoACdQoJCdQoDCdQpDC3ZoAC3ZpDC3ZoJC3ZoDHtRoTBtRoUB7oAoAB7oBoAB7oAoBB7oBoBB7",
    "oAqCB7oBqCJtVoTBtVoUB7oQoAB7oRoAB7oQoBB7oRoBLtXoTBtXoUB7pAoAB7pBoAB7pAoBB7pBoBB7pAqCB7pBqCJt",
    "ZoTBtZoUB7pQoAB7pRoAB7pQoBB7pRoBB7pQqCB7pRqCJt-oTBt-oUB7qAoAB7qBoAB7qAoBB7qBoBLuFoTBuFoUB7qQ",
    "oAB7qRoAB7qQoBB7qRoBB7qQqCB7qRqCJuJoTBuJoUB7rAoAB7rBoAB7rAoBB7rBoBB7rAqCB7rBqCJtRoACtVoACtXo",
    "ACtZoACt-oACuFoACuJoA1UtRoGBtRoEFtRqCQtXqCKtZoGBtZoEBuKoAEtZqCBuKqCJuFoGBuFoEBuLoACuBoTBuBoU",
    "BuFqCBuLqCPuJqCdE8cQpYB8cSpYT8cUpY-8eQpYB8eUpYB8eSpY1V8gDpYF8gIpYD8gLpYY8hDpYC8hFpYx8hypYD8i",
    "DpYD8iFpYC8iIpYX1zpYC8jBpYL8iNpYB1ypYB1+pYB8jEpYB8jFpYD8jSpYB8jTpYD8jWpYB8jXpYH8jwpYB8jxpYD8",
    "kCpYB8kDpYD8kGpYB8kHpY1D8lCpYB8lIpYB8lJpYB8lLpY1R8jypYB8jzpYB8kRpYB8kSpYH8lSpYB8lTpYB8lUpYB8",
    "lVpY3a-c2Lc4ZCc2Nc4ZCc2Pc4ZCc2Rc4ZCc2Tc4ZCc2Vc4ZCc2Xc4ZCc2Zc4ZCc2xc4ZCc2zc4ZCc2-c4ZCc3Bc4ZDc",
    "3Ec4ZCc3Gc4ZCc3Ic4ZHc3Pc4ZBc3Pc4wCc3Sc4ZBc3Sc4wCc3Vc4ZBc3Vc4wCc3Yc4ZBc3Yc4wCc3xc4ZBc3xc4wXc2",
    "Gc4ZKc4zc4ZOc5Lc4ZCc5Nc4ZCc5Pc4ZCc5Rc4ZCc5Tc4ZCc5Vc4ZCc5Xc4ZCc5Zc4ZCc5xc4ZCc5zc4ZCc5-c4ZCc6B",
    "c4ZDc6Ec4ZCc6Gc4ZCc6Ic4ZHc6Pc4ZBc6Pc4wCc6Sc4ZBc6Sc4wCc6Vc4ZBc6Vc4wCc6Yc4ZBc6Yc4wCc6xc4ZBc6xc",
    "4wXc5Gc4ZDc7Pc4ZBc7Qc4ZBc7Rc4ZBc7Sc4ZEc7zc4Z1nsy244Z245wC244x245wP245F245w4D249R249HB249S249",
    "Hgy24qH24p+B24qH24qXbP255Z255wB255Z255QC255Z255z7y25dY25dPB25dZ25dPrz269V269Q"]

/-- The runs of code points with a combining class above 0. -/
def combiningRuns : List Run :=
  valuedRunsOfText combiningText

/-- The combining class of a code point. -/
def combiningClass (n : Nat) : Nat :=
  match combiningRuns.find? fun r => r.first ≤ n && n ≤ r.last with
  | some r => r.value
  | none => 0

/-- Triples of a composed code point and its parts, from the gaps between the
composed ones. -/
def compositionsFrom (previous : Nat) : List Nat → List (Nat × Nat × Nat)
  | gap :: first :: second :: rest =>
      (previous + gap, first, second) :: compositionsFrom (previous + gap) rest
  | _ => []

/-- The composed code points with their parts. -/
def compositions : List (Nat × Nat × Nat) :=
  compositionsFrom 0 (numbersOfText compositionText)

/-- The parts of a code point, taken apart as far as possible; four steps are enough. -/
def decompose (n : Nat) : (fuel : Nat) → List Nat
  | 0 => [n]
  | fuel + 1 =>
      if 0xAC00 ≤ n ∧ n ≤ 0xD7A3 then
        let i := n - 0xAC00
        let lead := 0x1100 + i / 588
        let vowel := 0x1161 + i % 588 / 28
        if i % 28 = 0 then [lead, vowel] else [lead, vowel, 0x11A7 + i % 28]
      else
        match compositions.find? fun c => c.1 = n with
        | some (_, first, second) => decompose first fuel ++ [second]
        | none => [n]

/-- The code point that two compose. -/
def compose? (first second : Nat) : Option Nat :=
  if 0x1100 ≤ first ∧ first ≤ 0x1112 ∧ 0x1161 ≤ second ∧ second ≤ 0x1175 then
    some (0xAC00 + ((first - 0x1100) * 21 + (second - 0x1161)) * 28)
  else if 0xAC00 ≤ first ∧ first ≤ 0xD7A3 ∧ (first - 0xAC00) % 28 = 0 ∧
      0x11A8 ≤ second ∧ second ≤ 0x11C2 then
    some (first + (second - 0x11A7))
  else
    (compositions.find? fun c => c.2.1 = first && c.2.2 = second).map (·.1)

/-- Puts a mark before the marks of higher classes that stand in front of it, in a
text given last first. -/
def insertMark (n : Nat) : List Nat → List Nat
  | [] => [n]
  | m :: rest =>
      if combiningClass n < combiningClass m && combiningClass n ≠ 0 then
        m :: insertMark n rest
      else n :: m :: rest

/-- The marks of a text in the order of their classes. -/
def orderMarks (text : List Nat) : List Nat :=
  (text.foldl (fun reversed n => insertMark n reversed) []).reverse

/-- Composes the rest of a text onto a starter.  `marks` are those between, last
first, that did not combine. -/
def composeFrom (starter : Nat) (marks : List Nat) : List Nat → List Nat
  | [] => starter :: marks.reverse
  | n :: rest =>
      let isBlocked := match marks with
        | [] => false
        | m :: _ => combiningClass m = 0 || combiningClass n ≤ combiningClass m
      match if isBlocked then none else compose? starter n with
      | some composed => composeFrom composed marks rest
      | none =>
          if combiningClass n = 0 then starter :: (marks.reverse ++ composeFrom n [] rest)
          else composeFrom starter (n :: marks) rest

/-- The composed form of a text. -/
def composed (text : List Nat) : List Nat :=
  let ordered := orderMarks (text.flatMap fun n => decompose n 4)
  let before := ordered.takeWhile fun n => combiningClass n ≠ 0
  match ordered.dropWhile fun n => combiningClass n ≠ 0 with
  | [] => before
  | starter :: rest => before ++ composeFrom starter [] rest

end Unicode
end ApiContract
