import SchemaForge.Text.AgeTable
import SchemaForge.Text.BreakTable
import SchemaForge.Text.CategoryTable
import SchemaForge.Text.ScriptTable
import SchemaForge.Text.TraitTable

/-! The properties of characters by their names. Capitals, blanks, hyphens, low lines and a leading
`is` do not count in a name. A name by itself is that of a trait, a category or a script; any other
property has to be named together with its value. -/

namespace SchemaForge.Text.Property

def plainName (name : String) : String :=
  let cs := name.toList
  let begun := (cs.take 2).map Char.toLower == ['i', 's']
  let rest := if begun then cs.drop 2 else cs
  let plain := (rest.filter fun c => c.toNat < 128 && !" _-".toList.contains c).map Char.toLower
  -- The name `isc` is not one of the category `c`.
  if begun && plain == ['c'] then "isc" else String.ofList plain

def either (table : List Property) (names : List String) : Ranges :=
  .joined (names.flatMap fun name => (find? table name).getD [])

def group (letter : Char) : List String :=
  (categories.filterMap (·.names.head?)).filter fun name => name.toList.head? == some letter

def surrogates : Ranges :=
  [(0xD800, 0xDFFF)]

def category? (name : String) : Option Ranges :=
  match name with
  | "any" => some [(0, 0x10FFFF)]
  | "ascii" => some [(0, 0x7F)]
  | "assigned" => some (Ranges.outside (either categories ["cn"] ++ surrogates))
  | "lc" | "casedletter" => some (either categories ["lu", "ll", "lt"])
  | "l" | "letter" => some (either categories (group 'l'))
  | "m" | "mark" | "combiningmark" => some (either categories (group 'm'))
  | "n" | "number" => some (either categories (group 'n'))
  | "p" | "punctuation" | "punct" => some (either categories (group 'p'))
  | "s" | "symbol" => some (either categories (group 's'))
  | "z" | "separator" => some (either categories (group 'z'))
  | "c" | "other" => some (either categories (group 'c'))
  | _ => find? categories name

section Derived

def lowercase : Ranges :=
  .joined (either categories ["ll"] ++ either traits ["olower"])

def uppercase : Ranges :=
  .joined (either categories ["lu"] ++ either traits ["oupper"])

def graphemeExtend : Ranges :=
  .joined (either categories ["me", "mn"] ++ either traits ["ogrext"])

def idStart : Ranges :=
  .without (either categories (group 'l' ++ ["nl"]) ++ either traits ["oids"])
    (either traits ["patsyn", "patws"])

def idContinue : Ranges :=
  .without (idStart ++ either categories ["mn", "mc", "nd", "pc"] ++ either traits ["oidc"])
    (either traits ["patsyn", "patws"])

/-- Letters that no longer continue identifiers once their compatible forms are in their place. -/
def unstable : Ranges := [
  (0x37A, 0x37A), (0x309B, 0x309C), (0xFC5E, 0xFC63), (0xFDFA, 0xFDFB), (0xFE70, 0xFE70),
  (0xFE72, 0xFE72), (0xFE74, 0xFE74), (0xFE76, 0xFE76), (0xFE78, 0xFE78), (0xFE7A, 0xFE7A),
  (0xFE7C, 0xFE7C), (0xFE7E, 0xFE7E)]

def unstableStart : Ranges :=
  unstable ++ [(0xE33, 0xE33), (0xEB3, 0xEB3), (0xFF9E, 0xFF9F)]

def derived? (name : String) : Option Ranges :=
  match name with
  | "alpha" | "alphabetic" =>
    some (.joined (either categories (group 'l' ++ ["nl"]) ++ either traits ["oalpha"]))
  | "lower" | "lowercase" => some lowercase
  | "upper" | "uppercase" => some uppercase
  | "cased" => some (.joined (lowercase ++ uppercase ++ either categories ["lt"]))
  | "ci" | "caseignorable" =>
    some (.joined (either categories ["mn", "me", "cf", "lm", "sk"] ++
      either wordBreaks ["ml", "mb", "sq"]))
  | "cwcm" | "changeswhencasemapped" => some (either traits ["cwl", "cwu", "cwt"])
  | "math" => some (.joined (either categories ["sm"] ++ either traits ["omath"]))
  | "grext" | "graphemeextend" => some graphemeExtend
  | "grbase" | "graphemebase" =>
    some (Ranges.outside (graphemeExtend ++ surrogates ++
      either categories ["cc", "cf", "cn", "co", "zl", "zp"]))
  | "ids" | "idstart" => some idStart
  | "idc" | "idcontinue" => some idContinue
  | "xids" | "xidstart" => some (.without idStart unstableStart)
  | "xidc" | "xidcontinue" => some (.without idContinue unstable)
  | _ => none

end Derived

def trait? (name : String) : Option Ranges :=
  (derived? name).or (find? traits name)

def extension? (name : String) : Option Ranges :=
  (find? scriptExtensions name).or (find? scripts name)

def age? (name : String) : Option Ranges :=
  (ages.findIdx? (·.names.contains name)).map fun i =>
    .joined ((ages.take (i + 1)).flatMap ranges)

def ofName? (name : String) : Option Ranges :=
  let name := plainName name
  ((trait? name).or (category? name)).or (find? scripts name)

def ofValue? (property value : String) : Option Ranges :=
  let value := plainName value
  match plainName property with
  | "gc" | "generalcategory" => category? value
  | "sc" | "script" => find? scripts value
  | "scx" | "scriptextensions" => extension? value
  | "age" => age? value
  | "gcb" | "graphemeclusterbreak" => find? characterBreaks value
  | "wb" | "wordbreak" => find? wordBreaks value
  | "sb" | "sentencebreak" => find? sentenceBreaks value
  | _ => none

end SchemaForge.Text.Property
