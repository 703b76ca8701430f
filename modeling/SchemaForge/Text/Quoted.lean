import SchemaForge.Text.ShapelessTable

/-! Texts in double quotes for messages: what cannot be seen is written as an escape. -/

namespace SchemaForge.Text

def isShapeless (c : Char) : Bool :=
  if c.toNat < 128 then c.toNat < 32 || c.toNat == 127
  else shapelessRanges.any fun (low, high) => low ≤ c.toNat && c.toNat ≤ high

def visibleChar (c : Char) : List Char :=
  match c with
  | '\x00' => ['\\', '0']
  | '\t' => ['\\', 't']
  | '\n' => ['\\', 'n']
  | '\r' => ['\\', 'r']
  | '"' => ['\\', '"']
  | '\\' => ['\\', '\\']
  | c => if isShapeless c then "\\u\x7b".toList ++ Nat.toDigits 16 c.toNat ++ ['\x7d'] else [c]

def quoted (cs : List Char) : String :=
  String.ofList ('"' :: cs.flatMap visibleChar ++ ['"'])

end SchemaForge.Text
