import ViewForge.Data.Toml.Basic
import ViewForge.Data.Toml.Text

/-!
# Writing TOML

A document is written line by line, with an empty line before each header. A line holds a text, a
number, a flag or a list of texts; a list of several texts has a line for each.
-/

namespace ViewForge.Data.Toml

/-- A value that is written. -/
inductive Leaf where
  | text (value : String)
  | number (value : Nat)
  | flag (value : Bool)
  | texts (items : List String)
  deriving Repr, DecidableEq

/-- The value that a leaf is read as. -/
def Leaf.value : Leaf → Toml
  | text s => .text s
  | number n => .integer n
  | flag b => .flag b
  | texts items => .array false (items.map .text)

/-- A text of a list on a line of its own. -/
def writeItem (s : String) : List Char :=
  ['\n', ' ', ' ', ' ', ' '] ++ writeText s.toList ++ [',']

/-- The written form of a leaf. -/
def Leaf.write : Leaf → List Char
  | text s => writeText s.toList
  | number n => Nat.toDigits 10 n
  | flag true => "true".toList
  | flag false => "false".toList
  | texts [] => ['[', ']']
  | texts [s] => '[' :: writeText s.toList ++ [']']
  | texts items => '[' :: items.flatMap writeItem ++ ['\n', ']']

/-- Whether a leaf can be written: a number has at most 63 bits. -/
def Leaf.fits : Leaf → Bool
  | number n => Text.isInt64 n
  | _ => true

/-- A line of a document. The keys consist of letters, digits, underscores and hyphens. -/
inductive Line where
  /-- A leaf under a key. -/
  | entry (key : String) (leaf : Leaf)
  /-- The header of a table. -/
  | header (path : List String) (key : String)
  /-- The header of one more table of an array. -/
  | arrayHeader (path : List String) (key : String)
  deriving Repr, DecidableEq

namespace Line

/-- The statement that a line is read as. -/
def statement : Line → Statement
  | entry key leaf => .entry [] key leaf.value
  | header path key => .header path key
  | arrayHeader path key => .arrayHeader path key

/-- A dotted key. -/
def writePath (path : List String) (key : String) : List Char :=
  path.flatMap (fun k => k.toList ++ ['.']) ++ key.toList

/-- The written form of a line. -/
def write : Line → List Char
  | entry key leaf => key.toList ++ [' ', '=', ' '] ++ leaf.write ++ ['\n']
  | header path key => ['\n', '['] ++ writePath path key ++ [']', '\n']
  | arrayHeader path key => ['\n', '[', '['] ++ writePath path key ++ [']', ']', '\n']

/-- Whether a line can be written. -/
def fits : Line → Bool
  | entry _ leaf => leaf.fits
  | _ => true

end Line

/-- The text of a document. -/
def writeLines (lines : List Line) : String := String.ofList (lines.flatMap Line.write)

end ViewForge.Data.Toml
