import SchemaForge.Text.Packed

/-! The general categories of characters. The first names of those of one group begin with the same
letter. -/

namespace SchemaForge.Text

def categories : List Property := [
  ⟨["lu", "uppercaseletter"],
    ["bTPcSM06W000000000000000000000000000000000000000000000000000000010000000000000001000000000",
     "000000000000000000000000000000000000010000210001021301022101000001001001020001206010101000",
     "000000000000100000000000000000101002000000000000000000000000000000000000000000000000000000",
     "00006101100300000000i00002070500200010G08Y0122000000000000000000000004010011bEbB0000000000",
     "000000000000000000000008000000000000000000000000000000000000000000000000000000100000000000",
     "010000000000000000000000000000000000000000000000000000000000000000000000000000000000000000",
     "00000001b1dc8b10040u1cDciY05b612iV00000000000000000000000000000000000000000000000000000000",
     "000000000000000000000000000000000000000000000000000000000000000000000000000000000000000000",
     "000800000000000000000000000000000000000000000000000000000000000000000000000000000000000000",
     "000000000008775977775A000000077bZ3B3B3B4A3h90302212102450000003139140bO0cwJbBbB00210000003",
     "001072000000000000000000000000000000000000000000000000000000000000000000000000000000000000",
     "00000000000000700030bheK000000000000000000000000000000000000000000000I00000000000000000000",
     "0000000dQ000000000000020000000000000000000000000000000000000000000000000000000000000900001",
     "0000000030001000200000000000000000000404000000000000000300012040000000N0xvUPbhWb3dRZeBA0E0",
     "601bx5bEeCLdbTVxjZVbbuNPPPPPP00110111307PPP1031706Q103040026QPPPPPPPPPPPTOWOWOWOWOW0esCX"]⟩,
  ⟨["ll", "lowercaseletter"],
    ["cPPbL0b4N070000000000000000000000000000000000000000000000000000000100000000000000010000000",
     "000000000000000000000000000000000000000100002100010213010221010000010010010200011125010100",
     "000000000000001000000000000000001100020000000000000000000000000000000000000000000000000000",
     "0000006101100300000000bW0QfC0002022H0QY0122000000000000000000000004001011bEbB0000000000000",
     "000000000000000000000800000000000000000000000000000000000000000000000000000100000000000010",
     "000000000000000000000000000000000000000000000000000000000000000000000000000000000000000000",
     "00000bBb4dc6b612v35ciH800d8b7bQC0XcT000000000000000000000000000000000000000000000000000000",
     "000000000000000000000000000000000000000000000000000000000000000000000000000000000000000000",
     "000080000000000000000000000000000000000000000000000000000000000000000000000000000000000000",
     "00000000000087597777597777D17777774015022017311779201hL02120Q03030117330bG0cxUbB0021000000",
     "300105400000000000000000000000000000000000000000000000000000000000000000000000000000000000",
     "0000000000000001600030Bb10040bhcY000000000000000000000000000000000000000000000I00000000000",
     "0000000000000000dQ000000000000200000000000000000000000000000000000000000000000000000000000",
     "00007000010000000003000100200000000000000000000404000000000000000300010200000000000P020wSb",
     "6486c7vrJ6B4bdKPbi4b3dRZeAA0E0601bxUbEdGLdbTVxjZVbbuHPP60HPPP300060APPPPPPPPPPPPPPPPPRRO05",
     "PO05PO05PO05PO0500bz790J55csUX"]⟩,
  ⟨["lt", "titlecaseletter"], ["mL01010b10icC77777B0E0bA0"]⟩,
  ⟨["lm", "modifierletter"],
    ["t4H3BD46000dO040n90gD0eJ1hG130U08020eF0eM0biB0dI0pO0bwP0cY0qY0mV5eTbQC0Xb0t40C0FCdgE1gO0fA",
     "0n00b6440cO1cK2bejX0biP5hH0d50R1dC8c70M0cW221n00L0dS0cZ0K1cU380wzH0b81cdZ50b508bnM0V0zr33o",
     "32b31p9CbR100rnF30601neObPfK6ba40bf20"]⟩,
  ⟨["lo", "otherletter"],
    ["eQ0E0h3033fR0wYQ33b8V09Y10cQ00N19210F00TScGA0NWKLb5O6A4N05Gb4bMbH20H069FE37111L06002320F0C",
     "102D19075311L06010101U300I2F8020L06010420H0E1M0A7111L06010420T102E0G005220321000121222BL0b",
     "F7020M0F20P21011T037020M090420U101E1G8020b410F04272N54H2N080016bLbB01B5bM100040N0009018014",
     "M3V0bQ70ZQ4d6b6J0F5332021623CB0d4j4031600031b4031W031600031E0bK031bUb0Fd4r71G0P4c2576HCIDH",
     "DC02EbFb30bUY0bG641X004bX9UbCT14Ab73PbHM8bGeVbAG7bHTC19b7PZb429Td43050120be13dh2bJNM860606",
     "0606060606pA0bG03cD700cH304b60cLGVbBFo7hb3bRwlO0bfQbUb37hF3F91bT0bCbXeO0cU02602030MSbFDbDb",
     "P52001AR9MOS6bAb8418940b4M207JF05202bD0021141000N12A60D515158606e0YSlyBBM3bCjaRk51cXbU0090",
     "C040001010cZWk2HbR1bHb3Bd740dQcW90b81U25151512YB0P0I010E1DXdEkSS2bCbAVCJ075b19T1Z37dJc5cPb",
     "37bFcJbFBiM8L97e75100b701201M9M8UbSI019L9PbXbJ51bR0E3020Sb5S2SY70RQbH9L9ICHd1c0f2Zb1300iFb",
     "551F2bMS907Lb5Hb9KQMBbGbK110Cb8VOPZS0107Y20BbBD3K000YH0OI1bQ600030E096bAb17111L06010420H0B",
     "4T900100b100O000b7bGH3J2TbBJ100f3bAb43ZbBJ0bMb6C0bYQb06f4b7fU71017010NE000cL71b2F000R09b36",
     "0K0Ab9I0Hc0fIWU80b0G0bCTd36010b1K0O5010VD0j2IE00C0XdF0c6zLgDfFcv7cOEbdRG5OegY4q6hi0TbwXpS6",
     "UGc6GTHbBbEK4Im2b3l8c240eUgoF7biDb49joMi2E0S210D37kZcm3cY4C2869jkV0nWb8W0iWTHb7nFQgCT10nQ6",
     "03010E0fGbl630Q0100100903000050300000020100100000000001001306030300090G42040GesRbtqNVelD5g",
     "51ge1DhzKEr9cqHp1bpTfh64emF"]⟩,
  ⟨["mn", "nonspacingmark"],
    ["vCd3hM4hCb800010100bZAbBKF0cS6151103Y0TQcIAbL880N3080204b62bM8b5N0VbI00037302691S0bL03370J",
     "1P011bK031311220T120A1bK0340130J1L500bL010037061A1T0bO0B0bD020bI002420361A1S0bL0105041J1R1",
     "bK13370J1S0bZ06200cH016B7cP018A6c01Q00000bID04014A0Z80cT3050111O132F3C01150E0tI2ba92S1T1T1",
     "bR106701A80b8200d81X0d92318052g2110bL0060000175910bBD0FbC3bB0040040b38B1V31102bJ0012002bL7",
     "11e720C06305021fHbRtZC302Bdh92dW0cNVpD3cY1bgfV039V1c71hJ02030O140e61PHC0b17OAb92bB01311b20",
     "bU51111B070bA0bE002114100b5170gL01030vr30uGFFFbb00g90e44buD20143b3230eK1pW3bS4iS1c63bXAbC3",
     "dE0bHEb401192bC31160bO2Z407bP0B1bF89310cM210015010eC027K1bK120b0624bX5C00000D1cC71200M0cB5",
     "003101gL35101Q1cC71001cX0001500cS0001304h6801h310030dZ31130V9b3513708512b9C01l960500c9L160",
     "101dD520010600bZ12000jM1A1bF44000M0fsK05EmgFB22crB4bM6bd30bQ3c80uzJ1faOb91Mp32G716T3e32ccY",
     "bI3bD70D0L40EblR60G160104cR0eF6kE0bO3o33h11uF6d06bgorWgN"]⟩,
  ⟨["mc", "spacingmark"],
    ["cm30bI0127301bD1bL2511190b60bL2bT0bL27001bG1bL000511190cT101220290b42bO3bO1bL004110181R0D1",
     "bL2420290b51c2257H1j51bQ0eQ1305011O19216K1151092btZ0T0dK06701jL3123105g71bL000800175e00bB0",
     "400401bO0T03110bN0120021bB771eQ0K0fgL1bguY110cF1bDFdX1bA0bB13112d1111N0b8000d001140gK10101",
     "00bbjM000dI0b8231d60N1bM0bB281C0cK22100eP2U1bL10311128091cB26010030100cS27120cX2500310gK25",
     "310d427100d000150cU00130h8280gU501301000dX27330cB0S1bP0lA0D0cX06010fW43100jP1B0bB17100saN2",
     "dwJbIcV1baqY155"]⟩,
  ⟨["me", "enclosingmark"], ["bg81gbV0brH302bknM2"]⟩,
  ⟨["nd", "decimalnumber", "digit"],
    ["bC9brP9dP9fH9lF9d99d99d99d99d99d99d99d99d99cN9d99bX9hP9bX9bzP9b19iB9dJ9eL959f19cD9dP959blr",
     "P9sT9b19fH9L9cD9l99wsT9bn99ciL959w39dJ9bN9dZ9hP9jH9d99kD9cT95Jc39lP9cT9sD9cD9gT9bX9lP9sa59",
     "cn19cD9dP9oT9bacT9cyZbDcnR9lP9nX9gU9xO9fc59"]⟩,
  ⟨["nl", "letternumber"], ["gh22cw6Y13dz10O8D2bglU9ys7bGmR070dP4iuPd2"]⟩,
  ⟨["no", "othernumber"],
    ["eY14012cnG5kF5dB2dO6g06G8m09bdWJbfM9nB0buS02559fHFb40u5bNc5LrHTbmG0bgJ3dT9T70EV9b2Ebgd35yh",
     "Kb8bS3G1jGQZ3bkZ7O6b28c24L5eF11F1b9bR8bF1T2c24cV7N7b46j55jRUeD9b53d36dPJkIJblG1lX8y6IxMKur",
     "16w5Mbbk8JBJcZOfvH8zSbM0203c3b80EbaPC"]⟩,
  ⟨["pc", "connectorpunctuation"], ["cN0isM1I0cirP1N2gM0"]⟩,
  ⟨["pd", "dashpunctuation"], ["b90bm30bE0dxC0bcK0cf45dvK010U130R0mD0I0d20cefR1b0090eO0dy70iT0"]⟩,
  ⟨["ps", "openpunctuation"],
    ["b40bD0U0eaT000caD0cpH020b10bI0E0rL000T0be50000000000000c70V000000000l700000000000000000000",
     "0bR000W0bdG0000000O0H0000000lV0000000002000000010cecO0fY0S00000000000000020G00000eP0bD0U02",
     "010"]⟩,
  ⟨["pe", "closepunctuation"],
    ["b50bE0U0eaS000caD0cqO0bI0E0rL000T0be50000000000000c70V000000000l7000000000000000000000bR00",
     "0W0bdG0000000b70000000lV0000000002000000011cecL0g00S00000000000000020G00000eP0bE0U01010"]⟩,
  ⟨["pi", "initialpunctuation"], ["eR0ipF01110O0dtZ0003010E020"]⟩,
  ⟨["pf", "finalpunctuation"], ["f70ip0020R0dtZ0003010E020"]⟩,
  ⟨["po", "otherpunctuation"],
    ["X2021000019121Q0bV040D160tH070mX5b40bH01010b71J101C002c13cT0b6DgG2bHEU0h8190dV0dB0dC0kT0B0",
     "k60cH091eNE00d30c1431d25eQ0qZ8vG0dF2bY1eC202b0503iO1fZ1dJ605eF196R2dF3bM4bP1bR7A0x51777813",
     "122A0009dlL301d30dY1321018010011940913000C12lV2bK0f80bfsX1hG2cQ090d65kJ3cD1b3200bC1bA0cOCF",
     "1dF3dH1F1gW0wm3610L0J1132203625001e42021000019121Q0Z011lD2sJ0bB0lH0uM0fI0U0hJ8b10d36bT6cG3",
     "baF4b73f86d0103dH3bB1c6330C002cF5cY0i9101d549100cV0gXMcW2RCc30dL2gZ0hB2eA0cJ7cA204cK9fY0cM",
     "4b51rW1c1CeU0bfJ4ddN1pzU1dO0bS470pB2i63j20uzN0ieM4ddE0xX1"]⟩,
  ⟨["sm", "mathsymbol"],
    ["b70F2bO000b8030b00U0v90oM2heI0C0b22C2dU0b2450bV44130101060U11000UhFV1cH0TOb35n0080bH7d20jB",
     "41U9Fh3dMLbQ3V1h5bBK15cew30wV002eJ0F2bO000dM053dsW1cdaO0O0U0O0U0O0U0O0U0O0giR1"]⟩,
  ⟨["sc", "currencysymbol"],
    ["b00dG3biW0dE0nT1nT160gS0hA0q40cqA0ckBWblbA0xlU0cZ0e90g2121it93cbjH0cqV0"]⟩,
  ⟨["sk", "modifiersymbol"],
    ["cM000bY0503020oG3BD46000Gd80D1bjL0giZ002A2C2C2C1eo31bgjUM81cU1bb30D1vyTGyQ000eH0cotQ4"]⟩,
  ⟨["so", "othersymbol"],
    ["eM0103000bb40hD1dI1fP090I1gU0oA0kC0dL500dN0fQ0b40kU2E00215J00000dO7050143fG1uV9u20u10eCXjS",
     "988bn61030190015500000030A1D00100bL184130101060U11000UhF73J161c80TOb35bZLAc8c5Lf2080bH7d20",
     "gVb7b7bRh3o7bBK15b21V0cWgC5jW1b9P0cGBfXPF30C1B0K151jB139Vb180FUAT70EV9b2EiVhb3bRxrJbIy0391",
     "00pW2wqLFdI0b82nF02031C1iO8bKG120C20bAb8bu11qE0dkL0cj073GupD340wgD0efEgNFm3eBd7bNgT9b21bN4",
     "2L16T3bOKbT20f5cEbh4o7bI3bD70D01bw70dcR0dK0u0b73cRBE1E0E0b0MeGbJSCb73861D5e9gY4u73G2C2dA3c",
     "M5B30EB3bJ795b37T1B31bPjFBD1C294bJ6E1A586e20cJ"]⟩,
  ⟨["zs", "spaceseparator"], ["W0dI0fzI0cpIAZ0bA0eh30"]⟩,
  ⟨["zl", "lineseparator"], ["iuO0"]⟩,
  ⟨["zp", "paragraphseparator"], ["iuP0"]⟩,
  ⟨["cc", "control", "cntrl"], ["0VcMW"]⟩,
  ⟨["cf", "format"], ["eT0blT5L0fB0bC0kN1c70edU0ceR4P4bC409ciwM0gW2ep40E0jrLFblhR3frY7bguy50TcN"]⟩,
  ⟨["co", "privateuse"], ["cjgWgvRbludZcsaD1csaD"]⟩,
  ⟨["cn", "unassigned"],
    ["yO1536000J0l00b11bD120bI7Q35AhH0bN1cSDbM1bC1E0R100A4U014gK07111L0600231811137031041O120531",
     "1L06010101100431122063006G9208020L06010419020210E31B660207111L0601041811126231041H91052203",
     "21000121222B3422031050DK4C020M0F18020361021013196L020M09041802036151031902BC020bE02053F1P0",
     "20H2N080016203500075912BbL3Sb0100040N000M1400060913VbZ0Z3b20Z0E0Cb0fH00401kG031600031b4031",
     "W031600031E0bK031bU1V2P5cD151sK2cG6L8N8JBC0201BcL19595P5cG6b64bX9U0B3B302b514Ab73P5A2bP1bS",
     "0S1A595D1UbCc40eL7bN2E2bP4b61A7b64oT151b115170000000U1bG0E0D150I12080cS0B1Q0C2WEWEdV3sHLAK",
     "byB1V0jO4b800401bJ61DN86060606060606060dHXP0cGBfXPc70cD1cU4b60cL0cD8bB0bfhO2bI8jNJf37fP110",
     "007KbM295bJ7bX7B5d7AT2c50A3W0bI8D191cUNR95151586060bN3dH195lyBBM3bC3jkT1cXb16B44P040001010",
     "dGFmC1bH60Vb55bE0I03340dQ100f9251515122606941B0P0I010E1DXdE423b82cF0C20bAb9dLS2bCER3Z8T4b6",
     "4T0b03Db5eD195Z3Z3b37bFAB0E06010A0E06012bFBiM8L97N50b508bW5100b701201M0bZ78bBI014W2Q40bRbJ",
     "3J1bD0147020S1239686bRVb23B8bH2S1Q4P63B6c7c0bIbECbE6b9795b12S71fRU0b50211F2bIb77b5LPb1RJM8",
     "c53Z8bV901O695bG0H7b28cN0JAH0bAbP600030E0A5bM495307111L0601040911121050461624A900100b10900",
     "1003090171ScJ04TbZ79eLbH1b1XbWA95CIbL595JRQ1E3Mf4bNcRcAB71017010T011B89bX71b91AQbZ7cACc069",
     "f1XD9580b80D9S2V1L0Dc06010b72001087955010b0010569iLO6G0b42ScC0EbDCzMcTd204AfFcv7cQCbeT9egY",
     "4q6hi0bLbw5pS6U093c8095T159bX99060K4IlZbLfHcIcSc23bK6GbR4A1DgoF7biDb49jo6306010i2E0S210D37",
     "kZcm3cY4C286917ef7gX5m3c3b91M8d7bNgT9b21fDKbXdDJBJBcE8OdQcC0bY011011130B00060bS0317060R030",
     "400260jF1i31tHE40EbeNU55fW60G1601044bPW0d3b82D1931iVUGbL40mVb5fXb630nB603010E0fG1Fb4c33931",
     "vSbVc3bOfD30Q0100100903000050300000020100100000000001001306030300090G42040GbF1hHb73cRBE1E0",
     "E0b09eTbJSCb73861D5e9bbB3G2C2dA3cM5B30EB3bJ795b37T1B31bPjFBD1C294bJ6E1A586e20cTbcLbtqNVelD",
     "5g51ge1DhzKEr9cqHp1bpTfh64emFbdgl40TcNdJgNcrmNcsaD1csaD1"]⟩]

end SchemaForge.Text
