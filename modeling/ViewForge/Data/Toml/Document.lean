import ViewForge.Data.Toml.Basic
import ViewForge.Data.Toml.Scalar

/-!
# Reading TOML

The statements of a text. Each reader returns what it read and the text after it.
-/

namespace ViewForge.Data.Toml

/-- A text without the spaces and tabs at its start. -/
def skipBlanks (cs : List Char) : List Char := cs.dropWhile isBlank

/-- A text without the comment at its start. -/
def skipComment : List Char → List Char
  | '#' :: cs => cs.dropWhile isPlain
  | cs => cs

/-- What follows the end of a line, before which a comment may stand. -/
def afterLine? (cs : List Char) : Option (List Char) :=
  match skipComment (skipBlanks cs) with
  | [] => some []
  | rest => afterBreak? rest

/-- What follows blanks, comments and line breaks. The fuel is at least the length of the text. -/
def skipLines : Nat → List Char → List Char
  | 0, cs => cs
  | fuel + 1, cs =>
    let cs := skipBlanks cs
    match afterBreak? (skipComment cs) with
    | some rest => skipLines fuel rest
    | none => cs

/-! ## Keys -/

/-- A character of a key without quotes. -/
def isBare (c : Char) : Bool := c.isAlphanum || c == '_' || c == '-'

/-- A key without points, and the text after it. -/
def readKey? (cs : List Char) : Option (String × List Char) :=
  let word := cs.takeWhile isBare
  if word.isEmpty then (readLine? cs).map fun (letters, rest) => (String.ofList letters, rest)
  else some (String.ofList word, cs.dropWhile isBare)

/-- The keys of a dotted key, and the text after it. The fuel is more than the length of the
text. -/
def readKeys? : Nat → List Char → Option (List String × List Char)
  | 0, _ => none
  | fuel + 1, cs => do
    let (key, rest) ← readKey? (skipBlanks cs)
    match skipBlanks rest with
    | '.' :: rest => (readKeys? fuel rest).map fun (keys, rest) => (key :: keys, rest)
    | rest => some ([key], rest)

/-- The number of keys that a dotted key has less than. -/
def maxKeys : Nat := 80

/-- The path and the last key of a dotted key, and the text after it. -/
def readPath? (cs : List Char) : Option ((List String × String) × List Char) := do
  let (keys, rest) ← readKeys? (cs.length + 1) cs
  if keys.length < maxKeys then some ((keys.dropLast, keys.getLastD ""), rest) else none

/-! ## Values -/

/-- The value of a number. -/
def Number.value : Number → Toml
  | integer n => .integer n
  | real x => .real x

/-- A value other than an array or a table, and the text after it. -/
def readScalar? (cs : List Char) : Option (Toml × List Char) :=
  match cs with
  | 't' :: 'r' :: 'u' :: 'e' :: rest => some (.flag true, rest)
  | 'f' :: 'a' :: 'l' :: 's' :: 'e' :: rest => some (.flag false, rest)
  | cs =>
    match readText? cs with
    | some (letters, rest) => some (.text (String.ofList letters), rest)
    | none =>
      match readMoment? cs with
      | some (spelling, rest) => some (.moment (String.ofList spelling), rest)
      | none => (readNumber? cs).map fun (n, rest) => (n.value, rest)

/-- The depth to which arrays and tables may be written inside one another. -/
def maxNesting : Nat := 79

mutual

/-- A value and the text after it. The fuel is more than twice the length of the text, and `room` is
the number of brackets that may still be opened. -/
def readValue? : Nat → Nat → List Char → Option (Toml × List Char)
  | fuel + 1, room, cs =>
    match cs with
    | '[' :: rest =>
      match room with
      | room + 1 =>
        (readItems? fuel room rest).map fun (items, rest) => (.array false items, rest)
      | 0 => none
    | '\x7b' :: rest =>
      match room with
      | room + 1 => do
        let (entries, rest) ← match skipBlanks rest with
          | '\x7d' :: rest => some ([], rest)
          | rest => readMembers? fuel room rest
        (ofEntries? entries).map (·, rest)
      | 0 => none
    | cs => readScalar? cs
  | 0, _, _ => none

/-- The items of an array up to its closing bracket; a comma may follow the last. -/
def readItems? : Nat → Nat → List Char → Option (List Toml × List Char)
  | fuel + 1, room, cs =>
    match skipLines cs.length cs with
    | ']' :: rest => some ([], rest)
    | cs => do
      let (item, rest) ← readValue? fuel room cs
      match skipLines rest.length rest with
      | ',' :: rest => (readItems? fuel room rest).map fun (items, rest) => (item :: items, rest)
      | ']' :: rest => some ([item], rest)
      | _ => none
  | 0, _, _ => none

/-- The entries of a table in braces, of which there are some, up to its closing brace. -/
def readMembers? : Nat → Nat → List Char →
    Option (List (List String × String × Toml) × List Char)
  | fuel + 1, room, cs => do
    let ((path, key), rest) ← readPath? cs
    match rest with
    | '=' :: rest =>
      let (value, rest) ← readValue? fuel room (skipBlanks rest)
      match skipBlanks rest with
      | ',' :: rest =>
        (readMembers? fuel room rest).map fun (members, rest) =>
          ((path, key, value) :: members, rest)
      | '\x7d' :: rest => some ([(path, key, value)], rest)
      | _ => none
    | _ => none
  | 0, _, _ => none

end

/-! ## Statements -/

/-- The statement at the start of a line, and the text after the line. -/
def readStatement? (cs : List Char) : Option (Statement × List Char) :=
  match cs with
  | '[' :: '[' :: rest => do
    let ((path, key), rest) ← readPath? rest
    match rest with
    | ']' :: ']' :: rest => (afterLine? rest).map (.arrayHeader path key, ·)
    | _ => none
  | '[' :: rest => do
    let ((path, key), rest) ← readPath? rest
    match rest with
    | ']' :: rest => (afterLine? rest).map (.header path key, ·)
    | _ => none
  | cs => do
    let ((path, key), rest) ← readPath? cs
    match rest with
    | '=' :: rest =>
      let (value, rest) ← readValue? (2 * rest.length + 2) maxNesting (skipBlanks rest)
      (afterLine? rest).map (.entry path key value, ·)
    | _ => none

/-- The statements of a text. The fuel is more than its length. -/
def readStatements? : Nat → List Char → Option (List Statement)
  | 0, _ => none
  | fuel + 1, cs =>
    match skipLines cs.length cs with
    | [] => some []
    | cs =>
      if (skipComment cs).isEmpty then some []
      else do
        let (statement, rest) ← readStatement? cs
        (readStatements? fuel rest).map (statement :: ·)

/-- A text without the byte-order mark at its start. -/
def dropMark : List Char → List Char
  | '\ufeff' :: cs => cs
  | cs => cs

/-- The statements of a document. -/
def statements? (text : String) : Option (List Statement) :=
  let cs := dropMark text.toList
  readStatements? (cs.length + 1) cs

/-- The table that a document denotes. -/
def parse? (text : String) : Option Toml := (statements? text).bind ofStatements?

end ViewForge.Data.Toml
