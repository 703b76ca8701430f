import SchemaForge.Text.Packed

/-! The characters that each version of the standard has added. -/

namespace SchemaForge.Text

def ages : List Property := [
  ⟨["1.1", "v11"],
    ["0nX3TbJcG6bA09LbXP1H1302046000J0b706200000000HCB0bT0B0b48bG11112R1711bIb1160b200b1908BQ44M",
     "0D0200P4ICD1bZ140E0T19oE20bG1H142OF207111L060023100611128031041K6015311L0601010110043112A3",
     "006EB20600020L06010419020210E049G207111L0601131721127131023AG10522032100012122270234220380",
     "EBD207020M0904360203618139H107020M090436020361600139H107020M0F351203807139e0bL3Sb010011001",
     "05306020000110C021400051911mHb19b2303cH4bV4c9dhHeA4cH5L151b115170000000U1bG0E0D150I12080bA",
     "0MY62QGAb0HTbKPbBCcIKgPD00dCdOb0QAKdUKe59c7FJ5cDe03031R0Y0003200616DU2N0DcgObJ600cB351cL5b",
     "33cL0FcNS2ZRR2bDEB3bA0dA3cQ1UhcWwiLrpLhe5fT6B45O040001010cZWk4FbR1bHb3BZ3BK390I0332000dQ10",
     "0cL1cL251515122606D2"]⟩,
  ⟨["2.0", "v20"],
    ["bnLG0CJ0cnMbZ0W6Q35000K2600ebS0oM0bmcRlyBddbD1csaD1csaD1csaD1csaD1csaD1csaD1csaD1csaD1csaD",
     "1csaD1csaD1csaD1csaDfkaX"]⟩,
  ⟨["2.1", "v21"], ["iyC0cjbY0"]⟩,
  ⟨["3.0", "v30"],
    ["nY3T71Hd84bC094cE8I0d7020000000T0B0bT0B0b5113cJ1eB0fJ2cP140E0b540D0T2QbGbCbpC10H2N08001620",
     "350007H2kC0b60M260020E10bBX040106235PlP60bQ00031600031b200031U000316000316060M0U0003160b20",
     "I5RYcCBrH8S2c8dYcK29LE095cF7b5cbG0N5cM2bD1cC1bZ0cU8hG0dC00TdT1mO7W0cD1l1h3bn3P0cGBfXPBbN22",
     "0jSNq7haTwn5bgC2H1F0B0200xpX0biI2"]⟩,
  ⟨["3.1", "v31"],
    ["bc41cqiPVbjZU03BQf0b11b1cdsHgT9b22eZp5cC0bY011011130B0003010bS0317060R030400260jD3i13bDkyF",
     "btqEwf4p1bdruQ0TcN"]⟩,
  ⟨["3.2", "v32"],
    ["p40iD0ICcV1R0e21bK11111bCFjP1iW0cnW1bqUC06AM8JBC0201ckQ0543064C0bP1bD6c9EeNBgPDdF0TbFhVJe6",
     "9cF7L1cHB19g5DcHR3Fh3o7bl62cE171cL0gNFc8Ec8EbfdT1F0B020xjDbMzC02FbG1b70gI1"]⟩,
  ⟨["4.0", "v40"],
    ["p50H2dA1bQGc7742e64oB388bR2e41E0b82S2m30f30bU000dR0cB2C0bU0bM0dK7fC1db20H9h9S2B3B302b514cY",
     "VvBcZuM1gD0sA1iD0hN1d77D1bf1Dby61bC0b61c53eM3cQ1U0hb3bRbwdG0c01m6B0P0I010E1DXdE423b828pZT0",
     "0dP1b1c719xP5100b7012010cdlRcEk10bguhXgN"]⟩,
  ⟨["4.1", "v41"],
    ["pRAhP4eE3gT1eP0X2bU0H0bL5gOToM0c70nI0bA0bbS1i6100hD0bQ0bQ0b20U0U0U0E0b20M1UPbpXb55P5931VR1",
     "1xFcFs8106bC4S3bG0c70E0rVApV0cS1HA4FhH6xA5gJbA0bAWcYDb89bH80FM8606060606060606WN31zTFeT0bd",
     "w6LbzNMgGb7wmZcXwT9wDc2oSZ3DbrT30147020Q323878ccpQbXbf11"]⟩,
  ⟨["5.0", "v50"],
    ["q2DiA2jC0b55F3eL0oCbMkN101y11C1dvWc33b8q66bE1uR3cK1bG0qMBtT0hN3xC643iRC63bhnY341hXbJbakFP4",
     "0ggNyEe0cQC3bvvVHbeV1"]⟩,
  ⟨["5.1", "v51"],
    ["yG311cE0f20dVFg94A4V4iDHnS1g50Y0fP0S1cZ0cZ0P171J7f8050S1B526nM1cO022c4040106235PbR31cf50u4",
     "b62BbXbJ2E2bEj6Rf03cH5jV0dU0cL0bG3bk30K923hB0U3wI43b424hR20235jTVN31Iv70eHJbeb37bl7iBJV1H7",
     "RdM41cYd14dJbW8Bb1cBA0eFbI8D1913wxN2y8BbFb9dLS2bCbsUP40ccrK0il9b73cR"]⟩,
  ⟨["5.2", "v52"],
    ["bkK1u9b91EfC0c4050Y1dJ0bpK3fC3f74bV4c95o70rH8pJbXeZ1b90bWbQ0S1A595Dp5YhD0tB2e62bH0qT0t81S2",
     "390I003NcE0bcC4hP0C1cY6iU0bcXBbdyB7bjNbBlJcFiN9eLRcRS2c50A31dJR3bUN4g7b919lyTM3bCjkU2du9L0",
     "8f51iZVdJbH2S1Q47dJc0oUUo8bTio5bdQbzqOA4U10A0001020247060O001109310d20EXD8bxl2el8"]⟩,
  ⟨["6.0", "v60"],
    ["bkM1gV0bP0nBR10g21I051Q4o15m00F0I0pW3c01yX1chKbF73o30sF7R0wMAu90I003S031R0Y0003281bF2N0D0D",
     "1bnZ0D0bdZ2bfxG1iA101D9c70vH515158606waIFfnXc53TxyNpStc61rrHE1D1E0Ec700A000102024706095800",
     "11093109c2P01bA8K1eTWE50bX2JBb004KGEbQ000f1032bPHNe240F0200000002051300130B3AbBbXbLd7calVg",
     "5"]⟩,
  ⟨["6.1", "v61"],
    ["bnJ0d70sI00AbIQnS0bbW1nI040bA2cxU2B5h37b63cyZ000bkJ1bE040bJ1fL9bfbJ0bvA7Y0gP1L0c41uLMvrA1e",
     "eVbJ51by7O695bG0DbNc069bh1bJ79yd9bWAbAFGbioN30Q0100100903000050300000020100100000000001001",
     "306030300090G42040GbF1rJ1bb73f70F0200000002051300130"]⟩,
  ⟨["6.2", "v62"], ["iyQ0"]⟩,
  ⟨["6.3", "v63"], ["brG0heW3"]⟩,
  ⟨["7.0", "v70"],
    ["yV0lR7cK1d90sI0A5c30dB060rQ0bE0c30dI0gB9cm07p71l4EpS1gKEtO2wT6vG0beJ29P1V1X2B07r56bgxO5gTB",
     "A211bW0nJUdG3eVbB31wqG6xW1I0iURY0bBb6kSb37bFA0dZiM8L97gVbQ78mVVVb23BdSH63B6bi60fRb2cD0B05J",
     "AH0b6d5bM496207111L06010418111280461624hEbZ79eLbH1HbHbWA9q5cAB0mFbKci5b5fLB40tcAU0931cNT15",
     "9bX99060K4IvzZcY4C286917lwBfG1Fce70VLK1oRB80bX0LBb00434BG6bY000f1031bQ136SH0b40cDbX1CbBbX9",
     "FC23dVcCb6B3bJ795b37T"]⟩,
  ⟨["8.0", "v80"],
    ["cjV1b90oS0jR0h70buS015dmN0fM1cvR3bfrW8bw70gN0X5iZ1qX3Bc7wo51cxZI0144f711F1b9rRbECbE65bi03D",
     "4eF600030E0AcD0c60rKJi1P2E3FdjS0gDfFikJq6bmeMAbrAs3E40Egs42c51c64Z7h20c24gQ1dU0pY8cU4bM0ca",
     "bQge1"]⟩,
  ⟨["9.0", "v90"],
    ["cjY7LEzO0fP03206M2ecU8k90bqM3cuZ1bhfC0hP0yhA1w8Z3Zdq90mGcH0000o9CbnM80b80D9S2V1L0DwtC0Ugo4",
     "IuYxgS60G160104ckSc24931cgIHdX0x10b40iB1W2p5507701B0B3Eb1C"]⟩,
  ⟨["10.0", "v100"],
    ["chKAl41gZ5o70bL1ehT0h13tO0x20cdL0rD4uJ0begUKbbdT2gg7bZ7bF1M04qS6010b720010879woU0rnZhWc8kZ",
     "riR5bfG1X1oEBI07701O0HCb15bJMcgf4hzK"]⟩,
  ⟨["11.0", "v110"],
    ["bm80b20cT0oK2fU0i90dA0l00dI0dgY0bd2b612ecH2LO3EqA4uF0behE4cd2071iZ1bap71H0tAb379mLb37b5kA0",
     "d92nV0i10tE0gCbNqW0tL5010b0010569iLOvrQcIgy14umTJdH6gvJbVbfT0bp40g23kB2R4132003NAC961ZOcND"]⟩,
  ⟨["12.0", "v120"],
    ["dkN0oL010100530606110C0dxA0eb90bG0qE0bhfD514zQ1bbmFMbfB0qN0uM71b91AeE1bl5bDC0fnJ8qdV530bA8",
     "cH1gp15lhZ2G3naFb82D1931k7bL40bsQ0baCbObdP0bmF0Z0gCBi02bA0bC080b4521952712bBcBR33242C5"]⟩,
  ⟨["12.1", "v121"], ["nyN0"]⟩,
  ⟨["13.0", "v130"],
    ["ck69s40lX0dF0dq41epP0tB2y74hqT9wmFCcdD3b51bG0wY3xoV0dnMb50211h1RkI0dP1s1041bgT61017010T011",
     "B89bt10vyA0A1hk0nEb58bbj72cK2bO0bkN1Y1m21cH0cS031b5152S0eN0D3EI6682C6b4e20bIb09but06yjTfh6"]⟩,
  ⟨["14.0", "v140"],
    ["brH0qHU0157K0HAy80V0dI0cuE06080gM0t4DdG0bB1rM0tO0dd90bA0nUAbfbY2cd31D10004N2wxW0kKFdI0b91c",
     "aVA0E06010A0E0601mI50b508ccSPgD5c30bqD0dP6y8FfrZcQpzWc609sxP30601hZ3ieCb91M8d7p81dp0UyGUbk",
     "W603010EebP2hJ0kV0c90eT1b739372G25776bvaE1em43"]⟩,
  ⟨["15.0", "v150"],
    ["do30n50csbP2x22ck59bc5G0b42Rfs408SbidV0X0jdLJdjK5h8bPW0be7b5ex50e6234cG0sI2E1Z2A200D191B0D",
     "1bzmN0zeTemF"]⟩,
  ⟨["15.1", "v151"], ["nd83nQ0hixJr9"]⟩,
  ⟨["16.0", "v160"],
    ["cj30fd11bA0hC1cc32dtL1bggC2B2zrMbFbzVb12S71iH2bI0bg2900100b109001003090171uSJbiJXD9xZ0ftGe",
     "gYhyCbLdhHbLiq40rfZgX5m3giBb630fcX931mM040b9060K01080g8b0"]⟩]

end SchemaForge.Text
