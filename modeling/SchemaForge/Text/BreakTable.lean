import SchemaForge.Text.Packed

/-! What characters are for the cutting of text into what is seen as characters, into words and into
sentences. -/

namespace SchemaForge.Text

def characterBreaks : List Property := [
  ⟨["cr"], ["D0"]⟩,
  ⟨["cn", "control"], ["09010HcMWC0bmL0exK0ceR011N6bCFciwM0gNBoh7FblhR3frY7bguy4VcNdJgNdvZ"]⟩,
  ⟨["ex", "extend"],
    ["vCd3hM6hAb800010100bZAbBKF0cS6151103Y0TQcIAbL880N3080204b62bM8b5N0VbI00037302691S0bL000137",
     "08091P011bK031311220T120A1bK0340130J1L500bL00103706291T0bM000B080b3020bI002420361A1S0bL011",
     "00220361A1R1bK10013708091S0bZ030120070c8016B7cP018A6c01Q00000bID04014A0Z80cT3050111O132F3C",
     "01150E0tI2ba93R2S1T1bR106701A80b8200d81X0d92318052g2110bL0060000175910bBUbC3bB932b18B1V315",
     "bJ0012004bJ711e720C06305021fHbRoJ0fEWdh92dW0cNVpD5cW1bgfV309V1c71hJ02030O140e61PHC0b17OA00",
     "b72bB0131110Z0bU51111B070bA0bE002114100b5170gL01030vr30uGFFFk51qS0g90e44buD20143b3230eK1pW",
     "3bS4iS1c63bXAbC3dE0bHEb401192bC31160bO2Z407bP0B1bF8007310cM2135010eC027K1bK10000B080D624bU",
     "0150010023200D1cC71200M0c801500100101gI0135101Q1cC71001cX00017cS0001304h6801gS09330dZ31130",
     "V9b3513708512b9C01l960500c9L160101dD520010600bZ12000jM1A1bF442M0fsK05EmgFB22crB4bM6bd30bQ3",
     "c80A1uz61faOb91Mp14257716T3e32ccYbI3bD70D0L40EblR60G160104cR0eF6kE0bO3o33h11uF6d06cxZ4bgln",
     "JcNdJgN"]⟩,
  ⟨["l"], ["eqWcNbpoVS"]⟩,
  ⟨["lf"], ["A0"]⟩,
  ⟨["lv"],
    ["bvb40Q0Q0Q0Q0Q0Q0Q0Q0Q0Q0Q0Q0Q0Q0Q0Q0Q0Q0Q0Q0Q0Q0Q0Q0Q0Q0Q0Q0Q0Q0Q0Q0Q0Q0Q0Q0Q0Q0Q0Q0Q0Q0Q",
     "0Q0Q0Q0Q0Q0Q0Q0Q0Q0Q0Q0Q0Q0Q0Q0Q0Q0Q0Q0Q0Q0Q0Q0Q0Q0Q0Q0Q0Q0Q0Q0Q0Q0Q0Q0Q0Q0Q0Q0Q0Q0Q0Q0Q0Q",
     "0Q0Q0Q0Q0Q0Q0Q0Q0Q0Q0Q0Q0Q0Q0Q0Q0Q0Q0Q0Q0Q0Q0Q0Q0Q0Q0Q0Q0Q0Q0Q0Q0Q0Q0Q0Q0Q0Q0Q0Q0Q0Q0Q0Q0Q",
     "0Q0Q0Q0Q0Q0Q0Q0Q0Q0Q0Q0Q0Q0Q0Q0Q0Q0Q0Q0Q0Q0Q0Q0Q0Q0Q0Q0Q0Q0Q0Q0Q0Q0Q0Q0Q0Q0Q0Q0Q0Q0Q0Q0Q0Q",
     "0Q0Q0Q0Q0Q0Q0Q0Q0Q0Q0Q0Q0Q0Q0Q0Q0Q0Q0Q0Q0Q0Q0Q0Q0Q0Q0Q0Q0Q0Q0Q0Q0Q0Q0Q0Q0Q0Q0Q0Q0Q0Q0Q0Q0Q",
     "0Q0Q0Q0Q0Q0Q0Q0Q0Q0Q0Q0Q0Q0Q0Q0Q0Q0Q0Q0Q0Q0Q0Q0Q0Q0Q0Q0Q0Q0Q0Q0Q0Q0Q0Q0Q0Q0Q0Q0Q0Q0Q0Q0Q0Q",
     "0Q0Q0Q0Q0Q0Q0Q0Q0Q0Q0Q0Q0Q0Q0Q0Q0Q0Q0Q0Q0Q0Q0Q0Q0Q0Q0Q0Q0Q0Q0Q0Q0Q0Q0Q0Q0Q0Q0Q0Q0Q0Q0Q0Q0Q",
     "0Q0Q0Q0Q0Q0Q0Q0Q0Q0Q0Q0Q0Q0Q0Q0Q0Q0Q0Q0Q0Q0Q0Q0Q0Q0Q0Q0Q0Q0Q0Q0Q0Q0Q0Q0Q0Q0Q0Q0Q0Q0Q0Q0Q0Q",
     "0Q0Q0Q0Q0Q0Q0Q0Q0Q0Q0Q0Q0Q0Q0Q0Q0Q0Q0Q0Q0Q0Q0Q0Q0Q0Q0Q0Q0Q0Q0Q0Q0Q0Q0Q0Q0Q0Q0Q0Q0"]⟩,
  ⟨["lvt"],
    ["bvb5Q0Q0Q0Q0Q0Q0Q0Q0Q0Q0Q0Q0Q0Q0Q0Q0Q0Q0Q0Q0Q0Q0Q0Q0Q0Q0Q0Q0Q0Q0Q0Q0Q0Q0Q0Q0Q0Q0Q0Q0Q0Q0Q0",
     "Q0Q0Q0Q0Q0Q0Q0Q0Q0Q0Q0Q0Q0Q0Q0Q0Q0Q0Q0Q0Q0Q0Q0Q0Q0Q0Q0Q0Q0Q0Q0Q0Q0Q0Q0Q0Q0Q0Q0Q0Q0Q0Q0Q0Q0",
     "Q0Q0Q0Q0Q0Q0Q0Q0Q0Q0Q0Q0Q0Q0Q0Q0Q0Q0Q0Q0Q0Q0Q0Q0Q0Q0Q0Q0Q0Q0Q0Q0Q0Q0Q0Q0Q0Q0Q0Q0Q0Q0Q0Q0Q0",
     "Q0Q0Q0Q0Q0Q0Q0Q0Q0Q0Q0Q0Q0Q0Q0Q0Q0Q0Q0Q0Q0Q0Q0Q0Q0Q0Q0Q0Q0Q0Q0Q0Q0Q0Q0Q0Q0Q0Q0Q0Q0Q0Q0Q0Q0",
     "Q0Q0Q0Q0Q0Q0Q0Q0Q0Q0Q0Q0Q0Q0Q0Q0Q0Q0Q0Q0Q0Q0Q0Q0Q0Q0Q0Q0Q0Q0Q0Q0Q0Q0Q0Q0Q0Q0Q0Q0Q0Q0Q0Q0Q0",
     "Q0Q0Q0Q0Q0Q0Q0Q0Q0Q0Q0Q0Q0Q0Q0Q0Q0Q0Q0Q0Q0Q0Q0Q0Q0Q0Q0Q0Q0Q0Q0Q0Q0Q0Q0Q0Q0Q0Q0Q0Q0Q0Q0Q0Q0",
     "Q0Q0Q0Q0Q0Q0Q0Q0Q0Q0Q0Q0Q0Q0Q0Q0Q0Q0Q0Q0Q0Q0Q0Q0Q0Q0Q0Q0Q0Q0Q0Q0Q0Q0Q0Q0Q0Q0Q0Q0Q0Q0Q0Q0Q0",
     "Q0Q0Q0Q0Q0Q0Q0Q0Q0Q0Q0Q0Q0Q0Q0Q0Q0Q0Q0Q0Q0Q0Q0Q0Q0Q0Q0Q0Q0Q0Q0Q0Q0Q0Q0Q0Q0Q0Q0Q0Q0Q0Q0Q0Q0",
     "Q0Q0Q0Q0Q0Q0Q0Q0Q0Q0Q0Q0Q0Q0Q0Q0Q0Q0Q0Q0Q0Q0Q0Q0Q0Q0Q0Q0Q0Q0Q0Q0Q0Q0Q0Q0Q0Q0Q0Q0Q"]⟩,
  ⟨["pp", "prepend"], ["bqO5fY0bC0kN1c70bfE0csyT0E0gR1oK0bmK000gV0c05tF0mA0"]⟩,
  ⟨["ri", "regionalindicator"], ["fgeMP"]⟩,
  ⟨["sm", "spacingmark"],
    ["cm30bI0127301bD1bM15111bH0bL2bT0bL27001bG1bN05111d50012202bF2bO3bO1bL01001b90D1bM14202bG1c",
     "3156I1bQ0dI0dT1bQ0eW081O1b70bz406701jL3123105g71bL000K5e00bK3bR0T031bQ01200bG771eQ0K0bmbM1",
     "10cF1bDFdX0bB0bB13111d2111N0eC01140gK1010100bbjM000dI0b8231d60N1bM0bB280D0cK221eR2U1bM0031",
     "111K1cC1E001cU27120cY150010010gL15310d427100d0001d90h8280gV4016000dX27330cB0S1bP0lA0D0cX06",
     "010fW43100jP1B0bB171saP2dwJbI"]⟩,
  ⟨["t"], ["evKcFcccIbC"]⟩,
  ⟨["v"], ["etKbZcce7MboxV023"]⟩,
  ⟨["zwj"], ["itX0"]⟩]

def wordBreaks : List Property := [
  ⟨["le", "aletter"],
    ["bTP5PbA090304M0U0nB5Xd340113005002000J0cA0dU7eL0b113000b400cV0b7b6Y10cQ00E1619210F00TScGA0",
     "NW81304L308020MO6A4N05Gb5bLbH20H069EF37111L06002320F0C102D19075311L06010101U300I2F8020L060",
     "10420H0E1M0A7111L06010420T102E0G005220321000121222BL0bF7020M0F20P21011T037020M090420U101E1",
     "G8020b410F04272N54H2N080016iO0bQ70ZQ4hMb100401b60j8031600031b4031W031600031E0bK031bUb0FFcD",
     "152r71G0P4c22A6HCIDHDC02eUcG641X004bX9Ug8MgLbAG7bHTC19b7PZb429Z1A4b612b430501204fBbRhP151b",
     "115170000000U1bG0600220623153C4206d70C0FCcS030190024500000030A134430Gb4wKbFbyDgC5321Bb1004",
     "01bJ60FM8606060606060606c70n00bG1fJb60cLGVbedZbgCbUb91hG2F91JbAFU1c7NfH110007KF02030MSbFDb",
     "DbP52001AR9MOS6bAR0bBb4M207e3A62B5151586060bL5d6SlyBBM3bCjoZ6B4bJcPWk2HbR1bHb3Bd740dQZP5Pb",
     "WU25151512YB0P0I010E1DXdEbWbGhES2bCbAVCT4b19T1Z3704b5eDHZ3Z3b37bFBA0E06010A0E06012bFBiM8L9",
     "7N50b508bW5100b701201M9M8UbSI019L9PbXbJ51bR0E3020Sb5S2SY70RQbH9L9ICHd1c0bIbECbECZb1R8MgXb5",
     "51F2bMS907Lb5Hb9KQMBbGbK110Cb8VOPZS0107Y20BbBD3K000YH0OI1bQ600030E096bAb17111L06010420H0B4",
     "T900100b100O000b7bGH3J2TbBJ100f3bAb43ZbBJ0bMb6C0j2b7d7bRU71017010NE000cL71b2F000R09b360K0A",
     "b9I0Hc0fIWU80b0G0bCTd36010b1K0O5010VD0j2IE00C0XdF0c6zLcTd2GfFcv7cOEbdRG5OegY4q6hi0TbwXpS6U",
     "Gc6GTHbBF3UK4IlZb8fUbRdJc240bTCbR100uv7cY4C2869gkDcC0bY011011130B00060bS0317060R030400260j",
     "F1O0O0U0O0U0O0U0O0U0O07bz7U55h8bPe1b896F0iWTHb7nFRgBT10nQ603010E0fGbMbV60bhF30Q01001009030",
     "00050300000020100100000000001001306030300090G42040GrFP5P5P"]⟩,
  ⟨["cr"], ["D0"]⟩,
  ⟨["dq", "doublequote"], ["Y0"]⟩,
  ⟨["extend"],
    ["vCd3hM6hAb800010100bZAbBKF0cS6151103Y0TQcIAbL880N3080204b62bM8b5N0WbH20H0691S2bJ0061112809",
     "1P012bJ004311220T120A2bJ0070202J1L502bJ00611126291T0bM4220380b34bI006020361A1S2bJ006020361",
     "A1E0B3bI10602038091S2bX0350007H1bO016B7cP018A6c01Q0000031bCJ014A0Z80cRJM332021623CB0093tI2",
     "ba93R2S1T1bRV80b8200d81X0d9B3Bg24bK90S10bBUbC4bAGb18B2TCbJDbBJe720K305012fHbRoJ0fEWdh92dW0",
     "cNVpD5cW1bgfV309V1c71hJ02030M430cA1bDHPHC0b17OCb73bADZ0bUDB071b82bD002114100b4441gJ701vr30",
     "uGFFFk51qS0g90e44buD20143b3230eK1pW3bS4iS1c63bXAbC3dD2bGEb401193b8A60bO2ZDF1b70B2bBD7301cJ",
     "B5010eCBK3bI106111280911624bU80010030400D1c9HM0c8JgI618Q1c9GcXCcSEh3EgS501130001dW61620R9b",
     "3603708Ab9Fl8707c9L0DdD520010600bT40104jM38100bB624M0fsK05EmgFHcrB4bM6bd300bI63c80A1uz61fa",
     "Ob91Mp14257716T3e32ccYbI3bD70D0L40EblR60G160104cR0eF6kE0bO3o33h11uF6d06cxZ4bglnJcNdJgN"]⟩,
  ⟨["ex", "extendnumlet"], ["cN0is60E1I0cirP1N2gM0"]⟩,
  ⟨["fo", "format"], ["eT0blT5L0fB0bC0kN1c70edU0ceU1P4bC409ciwM0gW2ep40E0jrLFblhR3frY7bguy50"]⟩,
  ⟨["hl", "hebrewletter"], ["bpCQ33cpbD0090C0400010109"]⟩,
  ⟨["ka", "katakana"], ["neP4cS12cI03gNFfRbA0cFcdv1bJbwfT3060100hY2bD0D3"]⟩,
  ⟨["lf"], ["A0"]⟩,
  ⟨["ml", "midletter"], ["bM0dF0tY0n20e30he90cis20bS0fF0"]⟩,
  ⟨["mn", "midnum"], ["b80D0x50oH0dL1cL0kY0gqQ0cir6020bM020f20D0"]⟩,
  ⟨["mb", "midnumlet"], ["bA0isW190citW0eZ050"]⟩,
  ⟨["nl", "newline"], ["B1dB0iqX1"]⟩,
  ⟨["nu", "numeric"],
    ["bC9brP900dN9fH9lF9d99d99d99d99d99d99d99d99d99cN9d99bX9hP9bX9bzP9b19iB9dJ9eL959f19cD9dP959b",
     "lrP9sT9b19fH9L9cD9l99wsT9bn99ciL959w39dJ9bN9dZ9hP9jH9d99kD9cT95Jc39lP9cT9sD9cD9gT9bX9lP9sa",
     "59cn19cD9dP9oT9bacT9cyZbDcnR9lP9nX9gU9xO9fc59"]⟩,
  ⟨["ri", "regionalindicator"], ["fgeMP"]⟩,
  ⟨["sq", "singlequote"], ["b30"]⟩,
  ⟨["wsegspace"], ["W0gd20cpI602cB0eh30"]⟩,
  ⟨["zwj"], ["itX0"]⟩]

def sentenceBreaks : List Property := [
  ⟨["at", "aterm"], ["bA0it80citW0f60"]⟩,
  ⟨["cr"], ["D0"]⟩,
  ⟨["cl", "close"],
    ["Y032bC000S000b80E0dz13caC1cpE7O191bH1D1rK3S1bdR56Dc61U9l6LbQ3V1bcHDD119N0H7lU91702cecL1fY1",
     "RF11F5eO1bC000S0000101cpoX2"]⟩,
  ⟨["ex", "extend"],
    ["vCd3hM6hAb800010100bZAbBKF0cS6151103Y0TQcIAbL880N3080204b62bM8b5N0WbH20H0691S2bJ0061112809",
     "1P012bJ004311220T120A2bJ0070202J1L502bJ00611126291T0bM4220380b34bI006020361A1S2bJ006020361",
     "A1E0B3bI10602038091S2bX0350007H1bO016B7cP018A6c01Q0000031bCJ014A0Z80cRJM332021623CB0093tI2",
     "ba93R2S1T1bRV80b8200d81X0d9B3Bg24bK90S10bBUbC4bAGb18B2TCbJDbBJe720K305012fHbRoJ1fDWdh92dW0",
     "cNVpD5cW1bgfV309V1c71hJ02030M430cA1bDHPHC0b17OCb73bADZ0bUDB071b82bD002114100b4441gJ701vr30",
     "uGFFFk51qS0g90e44buD20143b3230eK1pW3bS4iS1c63bXAbC3dD2bGEb401193b8A60bO2ZDF1b70B2bBD7301cJ",
     "B5010eCBK3bI106111280911624bU80010030400D1c9HM0c8JgI618Q1c9GcXCcSEh3EgS501130001dW61620R9b",
     "3603708Ab9Fl8707c9L0DdD520010600bT40104jM38100bB624M0fsK05EmgFHcrB4bM6bd300bI63c80A1uz61fa",
     "Ob91Mp14257716T3e32ccYbI3bD70D0L40EblR60G160104cR0eF6kE0bO3o33h11uF6d06bgolOcNdJgN"]⟩,
  ⟨["fo", "format"], ["eT0blT5L0fB0bC0kN1c70edU0ceR011P4bC409ciwM0gW2ep40E0jrLFblhR3frY7bguy50"]⟩,
  ⟨["lf"], ["A0"]⟩,
  ⟨["lo", "lower"],
    ["cPPbA09030ZN070000000000000000000000000000000000000000000000000000000100000000000000010000",
     "000000000000000000000000000000000000000000100002100010213010221010000010010010200011125010",
     "100000000000000001000000000000000001100020000000000000000000000000000000000000000000000000",
     "0000000006101100300000000bW0Z61T4dV0002013H0QY0122000000000000000000000004001011bEbB000000",
     "000000000000000000000000000080000000000000000000000000000000000000000000000000000010000000",
     "000001000000000000000000000000000000000000000000000000000000000000000000000000000000000000",
     "000000000000bBb4ddE0v65ciH800d8fBbS0000000000000000000000000000000000000000000000000000000",
     "000000000000000000000000000000000000000000000000000000000000000000000000000000000000000000",
     "000800000000000000000000000000000000000000000000000000000000000000000000000000000000000000",
     "0000000000087597777597777D17777774015022017311779201dC0C0FCd002120Q03030117330WF30xEPbzPbB",
     "002100000030010720000000000000000000000000000000000000000000000000000000000000000000000000",
     "00000000000000000000000001600030Bb10040bhcY000000000000000000000000000000000000000000000I0",
     "00000000000000000000000002dO00000000000020000000000000000000000000000000000000000000000000",
     "000000000000900001000000000300010020000000000000000000040400000000000000030001020000000000",
     "0L20002wSb60D5c7vrJ6B4bdKPbi4b3dRZeAA0E0601mI0120b508bjObEdGLdbTVxjZVbbuHPP60HPPP300060APP",
     "PPPPPPPPPPPPPPPRRO05PO05PO05PO05PO0500bz790J55h8bPcjVX"]⟩,
  ⟨["nu", "numeric"],
    ["bC9brP901dM9fH9lF9d99d99d99d99d99d99d99d99d99cN9d99bX9hP9bX9bzP9b19iB9dJ9eL959f19cD9dP959b",
     "lrP9sT9b19fH9L9cD9l99wsT9bn99ciL959w39dJ9bN9dZ9hP9jH9d99kD9cT95Jc39lP9cT9sD9cD9gT9bX9lP9sa",
     "59cn19cD9dP9oT9bacT9cyZbDcnR9lP9nX9gU9xO9fc59"]⟩,
  ⟨["le", "oletter"],
    ["mB033fR0Z65BP000dO0nF0d9Q34b7b6Y10cQ00E1619210F00TScGA0NW81304L308020MO6A4N05Gb5bLbH20H069",
     "EF37111L06002320F0C102D19075311L06010101U300I2F8020L06010420H0E1M0A7111L06010420T102E0G005",
     "220321000121222BL0bF7020M0F20P21011T037020M090420U101E1G8020b410F04272N54H2N080016bLbB01B6",
     "bL100040N000901801400K3V0bQ70ZQ4d6b6J0F5332021623CB0bSb61j7031600031b4031W031600031E0bK031",
     "bUb0Fd4r71G0P4c22A6HCIDHDC02EbFY030bUcG641X004bX9UbCT14Ab73PbHM8bGc90cKbAG7bHTC19b7PZb429Z",
     "Hb612b43050120be13bY213deUbJ60FM8606060606060606c70n02O864143cD520cH034b60cLGVbBFo7hb3bRxr",
     "GbUb91hG2F91bT0F0Vc7b28cV050cU02602030MSbFDbDbP52001AR9MOS6bAR0F409940b4M207JM202bD0021141",
     "000N21A62B515158606e0YSlyBBM3bCjaRk51cXbU0090C040001010cZWk2HbR1bHb3Bd740dQcWbJ1U25151512Y",
     "B0P0I010E1DXdEbWbGhES2bCbAVCT4b19T1Z3704dDc5cPb37bFcJbFBiM8L97O1dG5100b701201M9M8UbSI019L9",
     "PbXbJ51bR0E3020Sb5S2SY70RQbH9L9ICHd1c0f2Zb15U0hJb551F2bMS907Lb5Hb9KQMBbGbK110Cb8VOPZS0107Y",
     "20BbBD3K000YH0OI1bQ600030E096bAb17111L06010420H0B4T900100b100O000b7bGH3J2TbBJ100f3bAb43ZbB",
     "J0bMb6C0bYQb06f4b7fU71017010NE000cL71b2F000R09b360K0Ab9I0Hc0fIWU80b0G0bCTd36010b1K0O5010VD",
     "0j2IE00C0XdF0c6zLcTd2GfFcv7cOEbdRG5OegY4q6hi0TbwXpS6UGc6GTHbBF3UK4IlZb8l6c240bTCbR100RgoF7",
     "biDb49jo6306010i2E0S210D37kZcm3cY4C2869jkV0nWb896F0iWTHb7nFRgBT10nQ603010E0fGdP0bhF30Q0100",
     "100903000050300000020100100000000001001306030300090G42040GesRbtqNVelD5g51ge1DhzKEr9cqHp1bp",
     "Tfh64emF"]⟩,
  ⟨["sc", "scontinue"], ["b81B0bkH0eT1nL0ek0040cf51ej70cej9100S1S1201090eN1B0c00"]⟩,
  ⟨["st", "sterm"],
    ["X0S0blK0e22eZ0b62gT0bO00021i41bwZ1vX031vG0fH1eC1b8040iP1jT3eH19111S2f61bS1baJ182dm62iH0C0L",
     "1lW0bfzV0hH1gA020kL1cD1cM0e71e22dZ1gW0wm5011bQ1eO0S0bS0czV1bjG4b73f81d83dI2dK150F1cF101cZ0",
     "i91d81kC14EcW1gW2oC000gY1cE1lN1t71c11uoG1dO0bS1A0pC1i70viT0ieN0"]⟩,
  ⟨["se", "sep"], ["dP0iqX1"]⟩,
  ⟨["sp"], ["9001I0dI0fzI0cpIAZ0bA0eh30"]⟩,
  ⟨["up", "upper"],
    ["bTPcSM06W000000000000000000000000000000000000000000000000000000010000000000000001000000000",
     "000000000000000000000000000000000000010000210001021301022101000001001001020001206101010000",
     "000000000000100000000000000000110002000000000000000000000000000000000000000000000000000000",
     "00006101100300000000i00002070500200010G08Y0122000000000000000000000004010011bEbB0000000000",
     "000000000000000000000008000000000000000000000000000000000000000000000000000000100000000000",
     "010000000000000000000000000000000000000000000000000000000000000000000000000000000000000000",
     "00000001b1dc8b10040u1cDciY0kD0000000000000000000000000000000000000000000000000000000000000",
     "000000000000000000000000000000000000000000000000000000000000000000000000000000000000000080",
     "000000000000000000000000000000000000000000000000000000000000000000000000000000000000000000",
     "0000008775977775A000000077N7777774A4A3B4A4h80302212102450000003139140PFI0wPPbz3bBbB0021000",
     "000300107200000000000000000000000000000000000000000000000000000000000000000000000000000000",
     "000000000000000000700030bheK000000000000000000000000000000000000000000000I0000000000000000",
     "00000000000dQ00000000000002000000000000000000000000000000000000000000000000000000000000090",
     "00010000000030001000200000000000000000000404000000000000000300012040000000N0xvUPbhWb3dRZeB",
     "A0E0601bx5bEeCLdbTVxjZVbbuNPPPPPP00110111307PPP1031706Q103040026QPPPPPPPPPPPTOWOWOWOWOW0es",
     "CXcf9P5P5P"]⟩]

end SchemaForge.Text
