import SchemaForge.Text.Packed

/-! The scripts of characters, and for those that share characters with others all characters that
they use. -/

namespace SchemaForge.Text

def scripts : List Property := [
  ⟨["adlm", "adlam"], ["fdtCc33931"]⟩,
  ⟨["aghb", "caucasianalbanian"], ["ctlCbFA0"]⟩,
  ⟨["ahom"], ["cyi0Q1E3M"]⟩,
  ⟨["arab", "arabic"],
    ["bqO4050D020V09AP0cZ0Xc7bBgNU014c20Scoh3d6Fk21c71bH60VFd340dQefEUbU2bI3cizR30Q0100100903000",
     "050300000020100100000000001001306030300090G42040GbF1"]⟩,
  ⟨["armi", "imperialaramaic"], ["cuh4L08"]⟩,
  ⟨["armn", "armenian"], ["bkXb11bD12cpdU4"]⟩,
  ⟨["avst", "avestan"], ["cvaObH26"]⟩,
  ⟨["bali", "balinese"], ["hk0c40bD"]⟩,
  ⟨["bamu", "bamum"], ["btoWcFcauNpS"]⟩,
  ⟨["bass", "bassavah"], ["dvg0T15"]⟩,
  ⟨["batk", "batak"], ["hpCbF73"]⟩,
  ⟨["beng", "bengali"], ["cpK307111L0600231811137031041O"]⟩,
  ⟨["bhks", "bhaiksuki"], ["czrK80b80D9S"]⟩,
  ⟨["bopo", "bopomofo"], ["uQ1mpSb6d3V"]⟩,
  ⟨["brah", "brahmi"], ["cwk8c53Z80"]⟩,
  ⟨["brai", "braille"], ["kyGh3"]⟩,
  ⟨["bugi", "buginese"], ["hcWR11"]⟩,
  ⟨["buhd", "buhid"], ["gjCJ"]⟩,
  ⟨["cakm", "chakma"], ["cwrCbG0H"]⟩,
  ⟨["cans", "canadianaboriginal"], ["fm8rRpJbXcsmPF"]⟩,
  ⟨["cari", "carian"], ["cst4bC"]⟩,
  ⟨["cham"], ["bumWbI8D1913"]⟩,
  ⟨["cher", "cherokee"], ["fjKcD15bpkXc7"]⟩,
  ⟨["chrs", "chorasmian"], ["cwi0R"]⟩,
  ⟨["copt", "coptic", "qaac"], ["bbMDlcFd746"]⟩,
  ⟨["cpmn", "cyprominoan"], ["dfaOcQ"]⟩,
  ⟨["cprt", "cypriot"], ["cufC5100b7012010"]⟩,
  ⟨["cyrl", "cyrillic"], ["bcGdO1eOgjRAeF0c30emMVbgx3cNxyL1cjv3bPW0"]⟩,
  ⟨["deva", "devanagari"], ["cm0c83E1PbrpBVbfeN9"]⟩,
  ⟨["diak", "divesakuru"], ["cyw861017010T011B89"]⟩,
  ⟨["dogr", "dogra"], ["cyp4bN"]⟩,
  ⟨["dsrt", "deseret"], ["ctcWc7"]⟩,
  ⟨["dupl", "duployan"], ["erlCcY4C286913"]⟩,
  ⟨["egyp", "egyptianhieroglyphs"], ["dfdSbeT9egY"]⟩,
  ⟨["elba", "elbasan"], ["ctk0b3"]⟩,
  ⟨["elym", "elymaic"], ["cwjCM"]⟩,
  ⟨["ethi", "ethiopic"],
    ["ey0c0031600031b4031W031600031E0bK031bU1V2Phc5M8606060606060606bifT515158606diq0603010E"]⟩,
  ⟨["gara", "garay"], ["cvqOb12S71"]⟩,
  ⟨["geor", "georgian"], ["eo8b100401b603de7b612elJb10040"]⟩,
  ⟨["glag", "glagolitic"], ["maWcNepdR60G160104"]⟩,
  ⟨["gong", "gunjalagondi"], ["dabC5010b0010569"]⟩,
  ⟨["gonm", "masaramgondi"], ["czyO6010b720010879"]⟩,
  ⟨["goth", "gothic"], ["csx4Q"]⟩,
  ⟨["gran", "grantha"], ["cxfK307111L0601041811121050461624"]⟩,
  ⟨["grek", "greek"],
    ["yG3021300300002000J0bQDFgwT4bD434cB0iVL151b115170000000U1bG0E0D150I1208i60blv10xmHc6G0cezQ",
     "bX"]⟩,
  ⟨["gujr", "gujarati"], ["cwP208020L06010419020210E31B66"]⟩,
  ⟨["gukh", "gurungkhema"], ["dso8bL"]⟩,
  ⟨["guru", "gurmukhi"], ["ct5205311L06010101100431122063006G"]⟩,
  ⟨["hang", "hangul"], ["eqWh3igL1h4cLd4UbSUbgnCSrUlyBBM3bCkvVU25151512"]⟩,
  ⟨["hani", "han"],
    ["msOP0cGBfXbA000O8D3baRhb3bRwl3yiVk51cXbga71B1bnkDbtqNVelD5g51ge1DhzKEr9cqHp1bpTfh64emF"]⟩,
  ⟨["hano", "hanunoo"], ["giGK"]⟩,
  ⟨["hatr", "hatran"], ["culKI0144"]⟩,
  ⟨["hebr", "hebrew"], ["bnLbI7Q35cpbBP0400010109"]⟩,
  ⟨["hira", "hiragana"], ["nf5cD52eaw8hYH0S2rrW0"]⟩,
  ⟨["hluw", "anatolianhieroglyphs"], ["dkq0q6"]⟩,
  ⟨["hmng", "pahawhhmong"], ["dvhCbX99060K4I"]⟩,
  ⟨["hmnp", "nyiakengpuachuehmong"], ["fboGb82D1931"]⟩,
  ⟨["hung", "oldhungarian"], ["cvlCbECbE65"]⟩,
  ⟨["ital", "olditalic"], ["csvSZ82"]⟩,
  ⟨["java", "javanese"], ["bujCc51931"]⟩,
  ⟨["kali", "kayahli"], ["bufSb900"]⟩,
  ⟨["kana", "katakana"], ["nhTcH12gNFfRbA0cFcdv190b8bwfT3060100hY2bD0D3"]⟩,
  ⟨["kawi"], ["damWG0b42S"]⟩,
  ⟨["khar", "kharoshthi"], ["cutK30147020S123968"]⟩,
  ⟨["khmr", "khmer"], ["gl4cL1959nHV"]⟩,
  ⟨["khoj", "khojki"], ["cwyGH0bA"]⟩,
  ⟨["kits", "khitansmallscript"], ["dwq40hkQn1b40"]⟩,
  ⟨["knda", "kannada"], ["dkWC020M09041802036151031902"]⟩,
  ⟨["krai", "kiratrai"], ["dvxCbL"]⟩,
  ⟨["kthi", "kaithi"], ["cwnSbU90"]⟩,
  ⟨["lana", "taitham"], ["hdSbQ0S1A595D"]⟩,
  ⟨["laoo", "lao"], ["dz5100040N000M1400060913"]⟩,
  ⟨["latn", "latin"],
    ["bTP5PbA0E04M0U0mGb24hdMb15bC434C0bXbSh3k80C0FCdW150Q0Gb4cz2Vbho1cT2bU110007KDwNb60803vtX6b",
     "d5P5PcfW50b508cgwSU55"]⟩,
  ⟨["lepc", "lepcha"], ["hr4bJ2E22"]⟩,
  ⟨["limb", "limbu"], ["gvSU0B3B302B"]⟩,
  ⟨["lina", "lineara"], ["ctr4iM8L97"]⟩,
  ⟨["linb", "linearb"], ["csaGB0P0I010E1DXdE"]⟩,
  ⟨["lisu"], ["btc0bBbhoF0"]⟩,
  ⟨["lyci", "lycian"], ["css8S"]⟩,
  ⟨["lydi", "lydian"], ["cunCP40"]⟩,
  ⟨["mahj", "mahajani"], ["cwtKb2"]⟩,
  ⟨["maka", "makasar"], ["dam0O"]⟩,
  ⟨["mand", "mandaic"], ["cgOR10"]⟩,
  ⟨["mani", "manichaean"], ["cuyWb23B"]⟩,
  ⟨["marc", "marchen"], ["czuOV1L0D"]⟩,
  ⟨["medf", "medefaidrin"], ["dweGcI"]⟩,
  ⟨["mend", "mendekikakui"], ["fdm8fG1F"]⟩,
  ⟨["merc", "meroiticcursive"], ["cuqWN3J1b9"]⟩,
  ⟨["mero", "meroitichieroglyphs"], ["cuq0V"]⟩,
  ⟨["mlym", "malayalam"], ["doGC020bE02053F1P"]⟩,
  ⟨["modi"], ["cyaWbWA9"]⟩,
  ⟨["mong", "mongolian"], ["goO1100J5cG6b6crk4C"]⟩,
  ⟨["mroo", "mro"], ["dvc0U0931"]⟩,
  ⟨["mtei", "meeteimayek"], ["but4MfKb919"]⟩,
  ⟨["mult", "multani"], ["cxc0600030E0A"]⟩,
  ⟨["mymr", "myanmar"], ["ejSeFbpxRUcOVbdq7J"]⟩,
  ⟨["nagm", "nagmundari"], ["fcpKb5"]⟩,
  ⟨["nand", "nandinagari"], ["czaO71b91A"]⟩,
  ⟨["narb", "oldnortharabian"], ["cux4V"]⟩,
  ⟨["nbat", "nabataean"], ["cuiWU78"]⟩,
  ⟨["newa"], ["cxmOcJ04"]⟩,
  ⟨["nkoo", "nko"], ["cd4bM12"]⟩,
  ⟨["nshu", "nushu"], ["dwq10ry5kZ"]⟩,
  ⟨["ogam", "ogham"], ["ge0S"]⟩,
  ⟨["olck", "olchiki"], ["htCbB"]⟩,
  ⟨["onao", "olonal"], ["fcwOb630"]⟩,
  ⟨["orkh", "oldturkic"], ["cvhSc0"]⟩,
  ⟨["orya", "oriya"], ["da9207111L0601041811126231041H"]⟩,
  ⟨["osge", "osage"], ["cthSZ3Z"]⟩,
  ⟨["osma", "osmanya"], ["ctgGT19"]⟩,
  ⟨["ougr", "olduyghur"], ["cwg8P"]⟩,
  ⟨["palm", "palmyrene"], ["cui0V"]⟩,
  ⟨["pauc", "paucinhau"], ["cziObK"]⟩,
  ⟨["perm", "oldpermic"], ["csy0b6"]⟩,
  ⟨["phag", "phagspa"], ["buaGbJ"]⟩,
  ⟨["phli", "inscriptionalpahlavi"], ["cvdCI47"]⟩,
  ⟨["phlp", "psalterpahlavi"], ["cve8H63B6"]⟩,
  ⟨["phnx", "phoenician"], ["cumGR20"]⟩,
  ⟨["plrd", "miao"], ["dwjSc23bK6G"]⟩,
  ⟨["prti", "inscriptionalparthian"], ["cvcGL17"]⟩,
  ⟨["rjng", "rejang"], ["buh4ZA0"]⟩,
  ⟨["rohg", "hanifirohingya"], ["cvoWb379"]⟩,
  ⟨["runr", "runic"], ["geWc22A"]⟩,
  ⟨["samr", "samaritan"], ["ceWb91E"]⟩,
  ⟨["sarb", "oldsoutharabian"], ["cuw8V"]⟩,
  ⟨["saur", "saurashtra"], ["buc8bX7B"]⟩,
  ⟨["sgnw", "signwriting"], ["ezcGs3E40E"]⟩,
  ⟨["shaw", "shavian"], ["ctf4bB"]⟩,
  ⟨["shrd", "sharada"], ["cwuWcN"]⟩,
  ⟨["sidd", "siddham"], ["cxxCbH1b1"]⟩,
  ⟨["sind", "khudawadi"], ["cxdCbM49"]⟩,
  ⟨["sinh", "sinhala"], ["ds120H2N080016203500075912ctcBJ"]⟩,
  ⟨["sogd", "sogdian"], ["cweGb5"]⟩,
  ⟨["sogo", "oldsogdian"], ["cwd4b3"]⟩,
  ⟨["sora", "sorasompeng"], ["cwq0O69"]⟩,
  ⟨["soyo", "soyombo"], ["czfKcA"]⟩,
  ⟨["sund", "sundanese"], ["hnKbRh37"]⟩,
  ⟨["sunu", "sunuwar"], ["czpSXD9"]⟩,
  ⟨["sylo", "sylotinagri"], ["btyOb8"]⟩,
  ⟨["syrc", "syriac"], ["bxSD0bN12hJA"]⟩,
  ⟨["tagb", "tagbanwa"], ["gk8C0201"]⟩,
  ⟨["takr", "takri"], ["cyeGbL59"]⟩,
  ⟨["tale", "taile"], ["gy0T14"]⟩,
  ⟨["talu", "newtailue"], ["gzCb73P5A21"]⟩,
  ⟨["taml", "tamil"], ["ddU105220321000121222B3422031050DKcxl0bDC0"]⟩,
  ⟨["tang", "tangut"], ["dwq00UgoF7vBo78"]⟩,
  ⟨["tavt", "taiviet"], ["buqGbUN4"]⟩,
  ⟨["telu", "telugu"], ["dhCC020M0F180203610210131968"]⟩,
  ⟨["tfng", "tifinagh"], ["mjCbJ61D0"]⟩,
  ⟨["tglg", "tagalog"], ["ghKL80"]⟩,
  ⟨["thaa", "thaana"], ["cbCbD"]⟩,
  ⟨["thai"], ["dvLbL4R"]⟩,
  ⟨["tibt", "tibetan"], ["ecObZ0Z3b20Z0E0631"]⟩,
  ⟨["tirh", "tirhuta"], ["cxq8bZ79"]⟩,
  ⟨["tnsa", "tangsa"], ["dvdCc609"]⟩,
  ⟨["todr", "todhri"], ["ctpCbF"]⟩,
  ⟨["toto"], ["fbzKU"]⟩,
  ⟨["tutg", "tulutigalari"], ["cxj4900100b109001003090171"]⟩,
  ⟨["ugar", "ugaritic"], ["cszCT00"]⟩,
  ⟨["vaii", "vai"], ["btdCiB"]⟩,
  ⟨["vith", "vithkuqi"], ["ctn4A0E06010A0E0601"]⟩,
  ⟨["wara", "warangciti"], ["cytKcAB0"]⟩,
  ⟨["wcho", "wancho"], ["fcaWbL40"]⟩,
  ⟨["xpeo", "oldpersian"], ["cta8Z3D"]⟩,
  ⟨["xsux", "cuneiform"], ["dau0zLcTd204AfF"]⟩,
  ⟨["yezi", "yezidi"], ["cvzKb50211"]⟩,
  ⟨["yiii", "yi"], ["brtSbgC2bI"]⟩,
  ⟨["zanb", "zanabazarsquare"], ["czdCbZ"]⟩,
  ⟨["zinh", "inherited", "qaai"],
    ["vCd3hO1mJAP0uF3etEUo820C06305021fHbRoJ1fDWee83cY1ceeKFFDbb20g90em90bzj7b91Mp32G716T3bgvdTg",
     "N"]⟩,
  ⟨["zyyy", "common"],
    ["0bSP5PbA0E04M0U0mGb2441Jd70805000rO050D020V0eB0oB0dK1biG0l83i10bq62bY1fM100bi40C063050210v",
     "GB1cE0A2A0EGWbQb102150Q0Gb423sHLAKzRh3rF1V0cWo7cLl5K000OE733cI120cH1e2FVb180bBbRUc8bA0cFeN",
     "hb3bRyiVXcT2eK9gR0eF0kY0D1wjT1fR9LY0I03e200VP5PA90b81bR60694h523b828c7CbEb8gBQbyu33ef7gX5m",
     "3eBd7bNgT9b21bP2G716T3bOfWJBJBcE8OdQcC0bY011011130B00060bS0317060R030400260jF1i31bDfpCbVc3",
     "bOtLb73cRBE1E0E0b09eTbJP01Cb73861D5e9bbB3G2C2dA3cM5B30EB3bJ795b37T1B31bPjFBD1C294bJ6E1A586",
     "e20cTbgjhY0TcN"]⟩]

def scriptExtensions : List Property := [
  ⟨["adlm", "adlam"], ["brJ0V0hd90dv40ercDc33931"]⟩,
  ⟨["aghb", "caucasianalbanian"], ["vG0b70b70csnCbFA0"]⟩,
  ⟨["arab", "arabic"],
    ["bqO40fY0Xc7bBgNU014c20SgjQ0dv40cec5d6FmC1bH60VFd340dQbbMRdcZUbU2bI3cizR30Q0100100903000050",
     "300000020100100000000001001306030300090G42040GbF1"]⟩,
  ⟨["armn", "armenian"], ["vK0pBb11bD12cpdU4"]⟩,
  ⟨["avst", "avestan"], ["f30mlB1cik5bH26"]⟩,
  ⟨["beng", "bengali"], ["tG0buR1G1P307111L0600231811137031041OfdS00011007070103012bmhC0"]⟩,
  ⟨["bopo", "bopomofo"], ["tR002C0F1miK2390C931050fE08b6d3VcdyC1hT4"]⟩,
  ⟨["bugi", "buginese"], ["hcWR11bnhQ0"]⟩,
  ⟨["buhd", "buhid"], ["gj118J"]⟩,
  ⟨["cakm", "chakma"], ["csE9bsV9csfHbG0H"]⟩,
  ⟨["cari", "carian"], ["f30iqX010duA0cgcLbC"]⟩,
  ⟨["cher", "cherokee"], ["vC20051L1A1emTcD15bpkXc7"]⟩,
  ⟨["copt", "coptic", "qaac"], ["f30q702100cZ1cZDlcFd746hQ0cgf3R"]⟩,
  ⟨["cpmn", "cyprominoan"], ["cshK1mt1cQ"]⟩,
  ⟨["cprt", "cypriot"], ["cshK23b828bvZ5100b7012010"]⟩,
  ⟨["cyrl", "cyrillic"], ["tG0bU20000001040gLiFgjRAeF0c30dI0ej2VbU0bgv7cNxyL1cjv3bPW0"]⟩,
  ⟨["deva", "devanagari"], ["tG0bsIcA1b6fhBb201bc50bkzQ9eLVbfeN9"]⟩,
  ⟨["dogr", "dogra"], ["coSBbrkV9beoTbN"]⟩,
  ⟨["dupl", "duployan"], ["f30qE100N1luE0eeuIcY4C286917"]⟩,
  ⟨["elba", "elbasan"], ["f30qC0csoHb3"]⟩,
  ⟨["ethi", "ethiopic"],
    ["vQ0ec8c0031600031b4031W031600031E0bK031bU1V2Phc5M8606060606060606bifT515158606diq0603010E"]⟩,
  ⟨["gara", "garay"], ["br00D020ctz3b12S71"]⟩,
  ⟨["geor", "georgian"], ["f30bi80daTb100401bBde7b612zL0dlWb10040h60"]⟩,
  ⟨["glag", "glagolitic"], ["f30qA000kL010h40ddC0ef90deScNnE0bgwI0dhtR60G160104"]⟩,
  ⟨["gong", "gunjalagondi"], ["f30cjN1cxmH5010b0010569"]⟩,
  ⟨["gonm", "masaramgondi"], ["coS1cxjT6010b720010879"]⟩,
  ⟨["goth", "gothic"], ["f30qB110b30csaDQ"]⟩,
  ⟨["gran", "grantha"], ["co91G1rRDepV001T221bc50cofA307111L0601040911121050461624djU100"]⟩,
  ⟨["grek", "greek"],
    ["f30q7110000090b9010b571300300002000J0bQDFgwT4bD434cB2iTL151b115170000000U1bG0E0D150I1208cL",
     "0fJ0blv10xmHc6G0cezQbX"]⟩,
  ⟨["gujr", "gujarati"], ["co91G1hU208020L06010419020210E31B66bqzR9"]⟩,
  ⟨["gukh", "gurungkhema"], ["coT0dpzDbL"]⟩,
  ⟨["guru", "gurmukhi"], ["co91G1eA205311L06010101100431122063006GbrdK9"]⟩,
  ⟨["hang", "hangul"], ["eqWh3ifC2390CD250fE0bGcLd4UbSUbgnCSrUlyBBM3bCkm81hT4bLU25151512"]⟩,
  ⟨["hani", "han"],
    ["f30mnJP0cGBfXPF020C0C0C1058f60e3FVb180bBb3bJbCEBbE0cFO94cNU0hb3bRwl3bxR7wkVk51cXyA1hT4betV",
     "1B1bbf1HilH1dt9btqNVelD5g51ge1DhzKEr9cqHp1bpTfh64emF"]⟩,
  ⟨["hano", "hanunoo"], ["giGM"]⟩,
  ⟨["hebr", "hebrew"], ["vJ1rZbI7Q35cpbBP0400010109"]⟩,
  ⟨["hira", "hiragana"], ["ndD2390CF500312cD17cH1cedR1hT490b81bwg8hYH0S2rrW0"]⟩,
  ⟨["hung", "oldhungarian"], ["iw2010duA0E0ciuDbECbE65"]⟩,
  ⟨["java", "javanese"], ["bujCc50A31"]⟩,
  ⟨["kali", "kayahli"], ["bufSbB"]⟩,
  ⟨["kana", "katakana"], ["vH0S0mh02390CF50031cI32cNgNFfRbA0cFcdn01hTbQbwfR3060100hY2bD0D3"]⟩,
  ⟨["khoj", "khojki"], ["czI9bra79bcy5H0bA"]⟩,
  ⟨["knda", "kannada"], ["co91G1w1C020M09041802036151031902eiR00150M000bmc25"]⟩,
  ⟨["kthi", "kaithi"], ["coU9kbC0bhjH9bcnHbU90"]⟩,
  ⟨["latn", "latin"],
    ["bTP5PbA0B0104M0U0mG20900200800054QE0100E26101b10403ChO1bi11ccF0dhFb15bC434C0bXbK06h3iE0bS0",
     "C0FCcA0bK150Q0Gb4cz2VlA0bhbR7PcT2bU110007KDiD0o8b60803vtX6bd5P5PcfW50b508cgwSU55"]⟩,
  ⟨["limb", "limbu"], ["coT0egXU0B3B302B"]⟩,
  ⟨["lina", "lineara"], ["cshRb8bi3iM8L97"]⟩,
  ⟨["linb", "linearb"], ["csaGB0P0I010E1DXdE423b828"]⟩,
  ⟨["lisu"], ["tG0F0mjN1bfyBbBbhoF0"]⟩,
  ⟨["lyci", "lycian"], ["iw20cjw4S"]⟩,
  ⟨["lydi", "lydian"], ["f30mlC0chwTP40"]⟩,
  ⟨["mahj", "mahajani"], ["f30cjNBbrkV9bct9b2"]⟩,
  ⟨["mand", "mandaic"], ["bsG0o6R10"]⟩,
  ⟨["mani", "manichaean"], ["bsG0ctgEb23B"]⟩,
  ⟨["mero", "meroitichieroglyphs"], ["iw50cltTV"]⟩,
  ⟨["mlym", "malayalam"], ["co91G1zLC020bE02053F1Pef50M0bmc42"]⟩,
  ⟨["modi"], ["bua09beaLbWA9"]⟩,
  ⟨["mong", "mongolian"], ["goOP5cG6b6cbF0eiG143ckzVC"]⟩,
  ⟨["mult", "multani"], ["cvY9cufR600030E0A"]⟩,
  ⟨["mymr", "myanmar"], ["ejSeFbpsT0eWUcOVbdq7J"]⟩,
  ⟨["nand", "nandinagari"], ["co90H1yV9ejK07060bmbW5bfaH71b91A"]⟩,
  ⟨["newa"], ["co91fiP00180500000cpoXcJ04"]⟩,
  ⟨["nkoo", "nko"], ["br00D020lJbM12cpbX1"]⟩,
  ⟨["onao", "olonal"], ["coS1fahTb630"]⟩,
  ⟨["orkh", "oldturkic"], ["iw20duC0cirAc0"]⟩,
  ⟨["orya", "oriya"], ["co91G1lE207111L0601041811126231041HetL0M0"]⟩,
  ⟨["osge", "osage"], ["vD01050c30csjYZ3Z"]⟩,
  ⟨["ougr", "olduyghur"], ["bsG0cthS0bfWP"]⟩,
  ⟨["perm", "oldpermic"], ["f30q704290k60crrVb6"]⟩,
  ⟨["phag", "phagspa"], ["goQ100cg00eiH0bgx0bJ"]⟩,
  ⟨["phlp", "psalterpahlavi"], ["bsG0ctlQH63B6"]⟩,
  ⟨["rohg", "hanifirohingya"], ["br00D020V0e20ctsAb379"]⟩,
  ⟨["runr", "runic"], ["geWcG"]⟩,
  ⟨["samr", "samaritan"], ["ceWb91EkjT0"]⟩,
  ⟨["shaw", "shavian"], ["f30cszZbB"]⟩,
  ⟨["shrd", "sharada"], ["co90fiS00011108010bmc9510bcuMcN"]⟩,
  ⟨["sind", "khudawadi"], ["coS1brl59bdd1bM49"]⟩,
  ⟨["sinh", "sinhala"], ["coS1bd620H2N080016203500075912ecK0cozPJ"]⟩,
  ⟨["sogd", "sogdian"], ["bsG0culYb5"]⟩,
  ⟨["sunu", "sunuwar"], ["vC1008010R020cyt1XD9"]⟩,
  ⟨["sylo", "sylotinagri"], ["coS1dJ9brfZb8"]⟩,
  ⟨["syrc", "syriac"], ["vF11100N26101u90D110V09AP0dYD0bN12hJAfx8000"]⟩,
  ⟨["tagb", "tagbanwa"], ["gj11b4C0201"]⟩,
  ⟨["takr", "takri"], ["coS1brl59bee5bL59"]⟩,
  ⟨["tale", "taile"], ["vC14120dpU9cm5T14"]⟩,
  ⟨["taml", "tamil"], ["co91G1oZ105220321000121222B3422031050DKepY0bmi70bda4000bI1dkYbDC0"]⟩,
  ⟨["tang", "tangut"], ["ncWFnQ0diyV0UgoF7vBo78"]⟩,
  ⟨["telu", "telugu"], ["co91G1sHC020M0F180203610210131968em410000M0"]⟩,
  ⟨["tfng", "tifinagh"], ["vE00003O0lmZbJ61D0"]⟩,
  ⟨["tglg", "tagalog"], ["ghKL80K1"]⟩,
  ⟨["thaa", "thaana"], ["br00D110bR9hPbDcpj3090"]⟩,
  ⟨["thai"], ["tG0P0b60b80cyUbL4R"]⟩,
  ⟨["tibt", "tibetan"], ["ecObZ0Z3b20Z0E0631iuS3"]⟩,
  ⟨["tirh", "tirhuta"], ["co91G1fi60B0E0bmc49bdpXbZ79"]⟩,
  ⟨["todr", "todhri"], ["vD010108000c10csrCbF"]⟩,
  ⟨["toto"], ["tG0fbg2U"]⟩,
  ⟨["tutg", "tulutigalari"], ["dnQ9ejT000bmc25f60bddP900100b109001003090171"]⟩,
  ⟨["yezi", "yezidi"], ["br00D020bR9cufXb50211"]⟩,
  ⟨["yiii", "yi"], ["ndD14917g60bejFbgC2bIyu94"]⟩,
  ⟨["zinh", "inherited", "qaai"],
    ["vR0100E26101F010H0403bq71etEUuYbH0004oJ1fDVcilZFFDbb20cebTb91Mp32G716T3bgvdTgN"]⟩,
  ⟨["zyyy", "common"],
    ["0bSP5PbA0B0104M0U0mG2090020080005441JdH05000rO0fY0oB0bm30l83ekUB1W0U0901060A2A0EGWbQb10215",
     "0Q0Gb423sHLAKzRh3rF1V0cWo7M0N1903000PlL020C0C0K0oONU0bCEB3eG94cNU0hb3bRyj3PcT2bb30D1wpN9LK",
     "1B0I03e200VP5P5dI60694l5CbEb8cdgIgX5m3eBd7bNgT9b21bP2G716T3bOfWJBJBcEQ6dQcC0bY011011130B00",
     "060bS0317060R030400260jF1i31bDfpCbVc3bOtLb73cRBE1E0E0b09eTbJP01Cb738M5e9bbB3G2C2dA3cM5B30E",
     "B3bJ795b37T1B31bPjFBD1C294bJ6E1A586e20cTbgjhY0TcN"]⟩]

end SchemaForge.Text
