import SchemaForge.Text.Packed

/-! Properties that characters have or lack. Those that follow from others are left out. -/

namespace SchemaForge.Text

def traits : List Property := [
  ⟨["ahex", "asciihexdigit"], ["bC965P5"]⟩,
  ⟨["bidic", "bidicontrol"], ["brG0hcG1P4bI3"]⟩,
  ⟨["bidim", "bidimirrored"],
    ["b41H000R000S000b80E0dz13caC1cqB191bH1D1eW0fB32520212303000038400H438100070V1340811I4184113",
     "N1F73J161be4Dc1013010243422Dl6L150D7065203401143002119511BI03100010034152N1A13301113b6170b",
     "340002442302400h30oA32101D119b67lU917cekK541eH1H000R000S0000101cgy60bK0bK0bK0bK0"]⟩,
  ⟨["cwcf", "changeswhencasefolded"],
    ["bTPcH09M07V0000000000000000000000000000000000000000000000000000000100000000000000001000000",
     "000000000000000000000000000000000000000100000001000102130102210100000100100102000120610101",
     "000000000000000010000000000000000011000200000000000000000000000000000000000000000000000000",
     "000000006101100300000000gT0b50002070500200010G08L0B221000000000000000000000000011100011bEb",
     "B00000000000000000000000000000000080000000000000000000000000000000000000000000000000000001",
     "000000000000100000000000000000000000000000000000000000000000000000000000000000000000000000",
     "0000000000000000001b1bB0daVb10040wH5ciH95b612iV0000000000000000000000000000000000000000000",
     "000000000000000000000000000000000000000000000000000000000000000000000000000000000000000000",
     "000000000000000041100000000000000000000000000000000000000000000000000000000000000000000000",
     "000000000000000000000000008775977775A000000077FbB12154215A3B44215i802150b8FI0wPPbz3bBbB002",
     "100000030010720000000000000000000000000000000000000000000000000000000000000000000000000000",
     "0000000000000000000000700030bheK000000000000000000000000000000000000000000000I000000000000",
     "000000000000000dQ0000000000000200000000000000000000000000000000000000000000000000000000000",
     "009000010000000030001000200000000000000000000404000000000000000300012040000000N0yPc7vrJ6B4",
     "bcOPbhWb3dRZeBA0E0601bx5bEeCLdbTVxjZVbhnZX"]⟩,
  ⟨["cwl", "changeswhenlowercased"],
    ["bTPcSM06W000000000000000000000000000000000000000000000000000000010000000000000001000000000",
     "000000000000000000000000000000000000010000210001021301022101000001001001020001206101010000",
     "000000000000100000000000000000110002000000000000000000000000000000000000000000000000000000",
     "00006101100300000000i00002070500200010G08Y07000000000000000000000004010011bEbB000000000000",
     "000000000000000000000800000000000000000000000000000000000000000000000000000010000000000001",
     "000000000000000000000000000000000000000000000000000000000000000000000000000000000000000000",
     "000001b1dc8b10040u1cDciY05b612iV0000000000000000000000000000000000000000000000000000000000",
     "000000000000000000000000000000000000000000000000000000000000000000000000000000000000000000",
     "080000000000000000000000000000000000000000000000000000000000000000000000000000000000000000",
     "0000000008775977775A000000077N7777774A4A3B4A4i802150b8FI0wPPbz3bBbB00210000003001072000000",
     "000000000000000000000000000000000000000000000000000000000000000000000000000000000000000000",
     "00700030bheK000000000000000000000000000000000000000000000I000000000000000000000000000dQ000",
     "000000000020000000000000000000000000000000000000000000000000000000000000900001000000003000",
     "1000200000000000000000000404000000000000000300012040000000N0xvUPbhWb3dRZeBA0E0601bx5bEeCLd",
     "bTVxjZVbhnZX"]⟩,
  ⟨["cwt", "changeswhentitlecased"],
    ["cPPbL0b4N070000000000000000000000000000000000000000000000000000000010000000000000010000000",
     "000000000000000000000000000000000000000100002100010204010221010000010301020001020003001010",
     "000000000000000010000000000000000020000200000000000000000000000000000000000000020000000000",
     "00000007011003000000005010001210304100110601001254091eL0b60002022H0QY012200000000000000000",
     "0000004001010bFbB0000000000000000000000000000000000800000000000000000000000000000000000000",
     "000000000000000100000000000010000000000000000000000000000000000000000000000000000000000000",
     "00000000000000000000000000000000000bCb2dyN5ciH800gL020F0d500000000000000000000000000000000",
     "000000000000000000000000000000000000000000000000000000000000000000000000000000000000000000",
     "000000000000000000000000006400000000000000000000000000000000000000000000000000000000000000",
     "0000000000000000000000000000000087597777597777D17777774015022017311779201jH0WF30xEPbzPbB00",
     "210000005010900000000000000000000000000000000000000000000000000000000000000000000000000000",
     "0000000000000000000000700030Bb10040bhcY000000000000000000000000000000000000000000000I00000",
     "0000000000000000000000dQ000000000000020000000000000000000000000000000000000000000000000000",
     "0000000009000100000000030300110000000000000000000A00000000000000030001020400000P0xV0Rc7vrJ",
     "6B4bdKPbi4b3dRZeAA0E0601bxUbEdGLdbTVxjZVbho1X"]⟩,
  ⟨["cwu", "changeswhenuppercased"],
    ["cPPbL0b4N070000000000000000000000000000000000000000000000000000000010000000000000010000000",
     "000000000000000000000000000000000000000100002100010204010221010000010301020001020004101010",
     "000000000000001000000000000000001010020000000000000000000000000000000000000002000000000000",
     "000007011003000000005010001210304100110601001254091eL0b60002022H0QY01220000000000000000000",
     "00004001010bFbB000000000000000000000000000000000080000000000000000000000000000000000000000",
     "000000000000010000000000001000000000000000000000000000000000000000000000000000000000000000",
     "000000000000000000000000000000000bCb2dc7b612v35ciH800gL020F0d50000000000000000000000000000",
     "000000000000000000000000000000000000000000000000000000000000000000000000000000000000000000",
     "000000000000000000000000000000640000000000000000000000000000000000000000000000000000000000",
     "00000000000000000000000000000000000087597777597777D1bG013000220130231177920130jC0WF30xEPbz",
     "PbB002100000050109000000000000000000000000000000000000000000000000000000000000000000000000",
     "000000000000000000000000000700030Bb10040bhcY000000000000000000000000000000000000000000000I",
     "000000000000000000000000000dQ0000000000000200000000000000000000000000000000000000000000000",
     "000000000000009000100000000030300110000000000000000000A00000000000000030001020400000P0xV0R",
     "c7vrJ6B4bdKPbi4b3dRZeAA0E0601bxUbEdGLdbTVxjZVbho1X"]⟩,
  ⟨["dash"], ["b90bm30bE0dxC0bcK0cf45bO0b20E0kT0dhF010U130R0mD0I0d20cefR1b0090eO0dy70iT0"]⟩,
  ⟨["di", "defaultignorablecodepoint"],
    ["eT0sO0tV0dc11bsY1cC4ceQ4P4bCFeqJ0cdyYFgM0eF0c68bzpI3frY7bguy4ejR"]⟩,
  ⟨["dep", "deprecated"], ["j50bkO0cm2000cg01ckC5tC1bliq50"]⟩,
  ⟨["dia", "diacritic"],
    ["cM000bY0503011nYeE0745G13081h04fS0bIb800010100dM731dP13122bUQcIAbLAX1dH7b49FRbO0F023R0c10F",
     "0d10F0d10F0bA2bN0F060dA0d10F0d10F0d01F0dF0d20B500cY0C4c21Q0000031bT201bP0d3001b3134O60091t",
     "K2baB1T0e3A80jM2i30J710bBE1AcV0E0b18bH1bL0A1bT1bR5c9O305012bDbQbBZ4Bb0AmC002A2C2C2C1dnZ2iS",
     "0o15cW3cM0bgd50B100R1c91DXcT2d01B0b00e60QHbK3Z0cM0B0Z0e42bS3bE0cR482dJ1vr30vCFhH000bA0b81b",
     "U0v70bgU50b508rO230eK1pU5b10P4l22bXAbC3fB0b40bZ1dB1bP0c3082cV1eX1c71F0N624cG201C1cM020dE1g",
     "Y1dH0d91d60hG1h5130eB0cA0H0c80lO0h5001c80lS1M0fsREmgW0crB4bM6pN1p5Gc71rn130601imGb91Mp3225",
     "7716T3dz5bPfD6kE0bO3v91uF6d0202"]⟩,
  ⟨["emoji"],
    ["Z05049d2030iqC0B0fZ0L0cH5E1k61B0eL0OA32fI0gE19080bL304801011103010011020217240004BA1100100",
     "H011H5000121401131A14110410001J14503103010150010000050205091E01030003200A1bB280D0D0kB1mU2I",
     "1bE030biH0B0qO000ervD0fL0eF1B1D019c2P01M0J018K1eTX1d311021cA120hA0bQA50N6117B0131031C11071",
     "8042B27210003050205cDbBbX47123920012019gAB30hUbA090f4d3C294bJ6E1A58"]⟩,
  ⟨["ecomp", "emojicomponent"], ["Z05049isA0fW0cimQ0corXPo24boF3bgjyZcN"]⟩,
  ⟨["emod", "emojimodifier"], ["fgtF4"]⟩,
  ⟨["ebase", "emojimodifierbase"],
    ["kl10g20F3evyE0bN21012d811AKI2032026000N0fK130K031eT224cA0F280A0pY01077508912bJ0bO10100G20C",
     "gC2b58"]⟩,
  ⟨["epres", "emojipresentation"],
    ["jpM1fO32010oG1K1bDBb60I0C071G1417040K0610030106031R0Y0003200bO2N0D0xU1bE030etv10fL0f9019c2",
     "P00N0J01402K1eTWB80bX0LBb634BG202bY000f61bQC30NH0P1C0cDcCbBbX50221233A168gAB30hUbA090f4d3C",
     "294bJ6E1A58"]⟩,
  ⟨["extpict", "extendedpictographic"],
    ["eP030iqC0B0fZ0L0cH5E1k61B0cM0bX0OA32fI0gE19080bL3050B0d59d91A000050205091E01030003200A4b82",
     "80D0D0kB1mU2I1bE030biH0B0qO000erv9h3C2U0bN5B1D019HbKQE90J018038m14iT7hDbBdJd7BcCb6B3bJ795b",
     "37T3931bPBbA090m8h3bcD"]⟩,
  ⟨["ext", "extender"],
    ["f30oV1yD0m80rH0dS0cG0uV0dI0cnU0bJ0qY0l10bV0fiW0b64cU1cK2bejX0bqD0baP0L0dS0cZ0K1xcQ0cfB1bp6",
     "0Q030bhY0i40d71nT2bi60wbK1bgR100bezZ1bhC0xN2"]⟩,
  ⟨["grlink", "graphemelink"],
    ["co50dI0dI0dI0dI0dI0dI0dI0d01F0dF0d20dI0fK0eZ1bwO1T0eC0s40gA0cS1bX1euQ0bhn90b00e60dX0cZ0iK0",
     "gT0zuO0bqT0b40D0bK0dC1dU0d70eZ0cP0dJ2d40dI0gZ0dI0d90d70hG0h61eG0cA0H0c80lO0h71c80lS1saR0"]⟩,
  ⟨["hex", "hexdigit"], ["bC965P5crqW965P5"]⟩,
  ⟨["hyphen"], ["b90dI0biJ0fbE0cf41dvO0uI0ceeM0eO0cE0"]⟩,
  ⟨["idsb", "idsbinaryoperator"], ["ncW119nS0"]⟩,
  ⟨["idst", "idstrinaryoperator"], ["ncY1"]⟩,
  ⟨["idsu", "idsunaryoperator"], ["ndA1"]⟩,
  ⟨["idcompatmathcontinue"], ["eY140irH02A0EkA030L0epkX0O0U0O0U0O0U0O0U0O0"]⟩,
  ⟨["idcompatmathstart"], ["jhU030L0epkX0O0U0O0U0O0U0O0U0O0"]⟩,
  ⟨["ideo", "ideographic"],
    ["ndI1O8D2baShb3bRwl3yiVk51cXbga90QgoF7biDb49jyUkZvbNbtqNVelD5g51ge1DhzKEr9cqHp1bpTfh64emF"]⟩,
  ⟨["joinc", "joincontrol"], ["itW1"]⟩,
  ⟨["loe", "logicalorderexception"], ["dxC4dE4czR210bnqX11001"]⟩,
  ⟨["mcm", "modifiercombiningmark"], ["bt0110dM05021nC10220U0"]⟩,
  ⟨["nchar", "noncharactercodepoint"],
    ["crkWVoL1csaD1csaD1csaD1csaD1csaD1csaD1csaD1csaD1csaD1csaD1csaD1csaD1csaD1csaD1csaD1csaD1"]⟩,
  ⟨["oalpha", "otheralphabetic"],
    ["x90SCpZD00010100bZAbBC06F0cS6331130Y0TFcTAcS1280203cX0bNB265JbH11E014291S2bL611119091S2bL4",
     "311130T120A2bL70201K1L232bL611118191T0bM4220290b34bK6020271A1S2bL6020271A1E0B3bL602029091S",
     "2c250007H1bO016H0cQ01501F0eII8A0Zd1B0013M332021623CB0093btV1T1T1T1bTIf71X0d9B38g54bK91Jc11",
     "A2bC4bBEbN2T811bKAbDIlFXbw0bFclPVbgyJ7X1jT070M4cF1bDF00bK0b14RBb83bBBb00bUDB071b82bD002114",
     "0b7440gK7vr60chA4buD20143vV3bS0iW1c60h62bGDb81A2b8880bO2ZBH1bK2bBCD1cJ8105010eC9M3bL611119",
     "091cB800100301cUC02cXHgK616S1c9E00cXAcUDh4CgU501112000dX61530R9b5403HAb9DlA706cAL0DdD52001",
     "020020bT40103jN38100bB622saCGdwF00bI63cK1uz70jrK60G160104cR0cjY0ce7P5P5P"]⟩,
  ⟨["odi", "otherdefaultignorablecodepoint"], ["xJ0dvY1bsY1cjQ0eqT0cekI0c68bjafY00TcNdJgNdvZ"]⟩,
  ⟨["ogrext", "othergraphemeextend"],
    ["crA0N0jX0N0cT0N0gF000310181cU0N0dA0E0cnG0T0bcF0400041cS0bY1bd30ekO1bhdE0cZ0xmK1eyV0d70hB0D",
     "080cN080100240g70B0gO0h90rK0B0bqQ0wbP1baqY155bguz8cN"]⟩,
  ⟨["oidc", "otheridcontinue"], ["f30tY0eiW8btJ0bs01eqC0celS0"]⟩,
  ⟨["oids", "otheridstart"], ["gsD1ciW0K0efN1"]⟩,
  ⟨["olower", "otherlowercase"],
    ["eQ0E0nW861T4cN0bF0ds00diMbQC0Xb0t40C0FCfUFxJPcbT1bhkD1fT0dK221y1380zeT0120b508chf8bP"]⟩,
  ⟨["omath", "othermath"],
    ["cM0yG210P111hrZ0Q2A0V3N1D1bSC302134H03019002450211102052344c24130101000411313H1100060051i1",
     "3eN100N0G0mC1B844411124D00015N1bK000S381jH1U9l6LbQ3V1cgcA00030fU000cgeWcC0bY011011130B0006",
     "0bS0317060R030400260jF1O0O0U0O0U0O0U0O0U0O071bDgaF30Q0100100903000050300000020100100000000",
     "001001306030300090G42040G"]⟩,
  ⟨["oupper", "otheruppercase"], ["jdCFx9PevxRP5P5P"]⟩,
  ⟨["patsyn", "patternsyntax"],
    ["XE96P300P3X600010001303020M0U0in3N7E1I09iGtZeFrHTbfFo7dJkO23OE0cec41h81"]⟩,
  ⟨["patws", "patternwhitespace"], ["94H0cR0iq71N1"]⟩,
  ⟨["pcm", "prependedconcatenationmark"], ["bqO5fY0bC0kN1c70cue90E0"]⟩,
  ⟨["qmark", "quotationmark"], ["Y030dM0E0ioZ7O1dvQ0mO3C2cejS3f8030cH1"]⟩,
  ⟨["radical"], ["msOP0cGBfX"]⟩,
  ⟨["ri", "regionalindicator"], ["fgeMP"]⟩,
  ⟨["sterm", "sentenceterminal"],
    ["X0B0F0blK0e22eZ0b62gT0bO00021i41bwZ1vX031vG0fH1eC1b8040iP1jT3eH19111S2f61bS1zV0M182dm62iH0",
     "C0L1lW0bfzV0hH1gA020kL1cD1cM0e71e22dZ1gW0wm5011bM021eO0B0F0bS0czV1bjG4b73f81d83dI2dK150F1c",
     "F101cZ0i91d81kC14EcW1gW2oC000gY1cE1lN1t71c11uoG1dO0bS1A0pC1i70viT0ieN0"]⟩,
  ⟨["sd", "softdotted"],
    ["cX1fF0hS0T0bF0J0iV0cP000gw00bE0C020dN0eC0lO0fX1dbL0elwK1bD1bD1bD1bD1bD1bD1bD1bD1bD1bD1bD1b",
     "D1ciL0iG1P0"]⟩,
  ⟨["term", "terminalpunctuation"],
    ["X09000A120x1070o80bK0bZ0D002eZ0b6A00gI1bH507U0h81bj71eR035iM1vW7vG0dF2bY1eC220b2311iP1jT3e",
     "H19102S2f64bP1zV0M182dm62iH0C030900121lV1bfzU1hG2gA4kL1cD1cM0e62e22dI0F1gW0wm5011bK203eO09",
     "000A120bS010be10bB0bg50fI0iL1e75bV5cG3baF4b73f86d33dI2dK150F1cF4cZ0i91d82B1jX32EcW1gW2oC00",
     "0gY1cE131lH2b80rW1c11bkQ4tdK1dO0bS290pC1i61viT0ieM3"]⟩,
  ⟨["uideo", "unifiedideograph"],
    ["ofShb3bRwl3yqD1000190000112ctpXbtqNVelD5g51ge1DhzKEr9evDfh64emF"]⟩,
  ⟨["vs", "variationselector"], ["goZ200ckx3FbjbaNgN"]⟩,
  ⟨["wspace", "space", "whitespace"], ["94H0cR0P0fzI0cpIAS140bA0eh30"]⟩]

end SchemaForge.Text
