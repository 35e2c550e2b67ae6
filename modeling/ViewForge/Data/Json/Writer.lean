import ViewForge.Text.Hex

/-!
# Writing JSON

Texts in quotes, with escapes for quotes, backslashes and control characters, and flat objects of
texts with a member on each line.
-/

namespace ViewForge.Data.Json

/-- A character as it stands in a JSON text. -/
def escape (c : Char) : List Char :=
  match c with
  | '"' => ['\\', '"']
  | '\\' => ['\\', '\\']
  | '\x08' => ['\\', 'b']
  | '\x0c' => ['\\', 'f']
  | '\n' => ['\\', 'n']
  | '\r' => ['\\', 'r']
  | '\t' => ['\\', 't']
  | c => if c.toNat < 0x20 then ['\\', 'u', '0', '0'] ++ Text.hex2 c.toNat else [c]

/-- A text in quotes. -/
def quote (s : String) : String := String.ofList ('"' :: s.toList.flatMap escape ++ ['"'])

/-- An object of texts, of which there are some, with a member on each line. -/
def writeTexts (members : List (String × String)) : String :=
  let lines := members.map fun (key, value) => "  " ++ quote key ++ ": " ++ quote value
  "\x7b\n" ++ ",\n".intercalate lines ++ "\n\x7d"

end ViewForge.Data.Json
