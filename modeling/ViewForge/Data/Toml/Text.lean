import ViewForge.Text.Hex

/-!
# Strings of TOML

A string has four written forms: on one line or on several, with escapes or literally. Each text is
written in the first form that shows it without escapes, if there is one.
-/

namespace ViewForge.Data.Toml

/-- A form in which a string is written. -/
inductive Form where
  /-- On one line, with escapes. -/
  | basic
  /-- On one line, literally. -/
  | literal
  /-- On several lines, with escapes. -/
  | multiBasic
  /-- On several lines, literally. -/
  | multiLiteral
  deriving Repr, DecidableEq

namespace Form

/-- The quote of a form. -/
def quote : Form → Char
  | basic | multiBasic => '"'
  | literal | multiLiteral => '\x27'

/-- Whether a form may have line breaks. -/
def isMulti : Form → Bool
  | basic | literal => false
  | multiBasic | multiLiteral => true

/-- Whether a form has escapes. -/
def hasEscapes : Form → Bool
  | basic | multiBasic => true
  | literal | multiLiteral => false

/-- The quotes at each end of a form. -/
def delimiter (f : Form) : List Char := List.replicate (if f.isMulti then 3 else 1) f.quote

end Form

/-! ## Characters -/

/-- A space or a tab. -/
def isBlank (c : Char) : Bool := c == ' ' || c == '\t'

/-- A control character other than the tab and the line feed. -/
def isControl (c : Char) : Bool :=
  (c.toNat < 0x20 && c != '\t' && c != '\n') || c.toNat == 0x7f

/-- A character that may stand in a comment or a string as it is. -/
def isPlain (c : Char) : Bool := !isControl c && c != '\n'

/-- What follows a line break at the start of a text. -/
def afterBreak? : List Char → Option (List Char)
  | '\n' :: cs => some cs
  | '\r' :: '\n' :: cs => some cs
  | _ => none

/-! ## Reading -/

/-- The character that a code in hexadecimal digits stands for, and the text after the digits. -/
def readCode? (count : Nat) (cs : List Char) : Option (Char × List Char) := do
  let digits := cs.take count
  if digits.length < count then none
  let n ← Text.digitsValue? 16 0 digits
  if Text.isCode n then some (Char.ofNat n, cs.drop count) else none

/-- The character that an escape stands for, and the text after it. The backslash is left out. -/
def readEscape? : List Char → Option (Char × List Char)
  | 'b' :: cs => some ('\x08', cs)
  | 't' :: cs => some ('\t', cs)
  | 'n' :: cs => some ('\n', cs)
  | 'f' :: cs => some ('\x0c', cs)
  | 'r' :: cs => some ('\r', cs)
  | '"' :: cs => some ('"', cs)
  | '\\' :: cs => some ('\\', cs)
  | 'u' :: cs => readCode? 4 cs
  | 'U' :: cs => readCode? 8 cs
  | _ => none

/-- A text without the blanks and line breaks at its start. The fuel is at least its length. -/
def skipLayout : Nat → List Char → List Char
  | 0, cs => cs
  | fuel + 1, cs =>
    match afterBreak? cs with
    | some rest => skipLayout fuel rest
    | none =>
      match cs with
      | c :: rest => if isBlank c then skipLayout fuel rest else c :: rest
      | [] => []

/-- What follows a backslash that joins its line with the next one that is not blank. The backslash
is left out. -/
def afterJoin? (cs : List Char) : Option (List Char) :=
  (afterBreak? (cs.dropWhile isBlank)).map fun rest => skipLayout rest.length rest

/-- The quotes that still belong to a string of several lines whose closing quotes begin the text,
and what follows them. Up to two quotes may stand right before the closing ones. -/
def closeMulti? (quote : Char) (cs : List Char) : Option (List Char × List Char) :=
  let run := (cs.takeWhile (· == quote)).length
  if run < 3 then none else some (List.replicate (min (run - 3) 2) quote, cs.drop (min run 5))

/-- A character in front of a string that was read. -/
def withChar (c : Char) : Option (List Char × List Char) → Option (List Char × List Char) :=
  Option.map fun (letters, rest) => (c :: letters, rest)

/-- The rest of a string up to its closing quotes, and the text after them. The fuel is more than
the length of the text. -/
def readLetters (f : Form) : Nat → List Char → Option (List Char × List Char)
  | fuel + 1, c :: cs =>
    if c = f.quote then
      if f.isMulti then
        match closeMulti? c (c :: cs) with
        | some result => some result
        | none => withChar c (readLetters f fuel cs)
      else some ([], cs)
    else if c = '\\' && f.hasEscapes then
      match (if f.isMulti then afterJoin? cs else none) with
      | some rest => readLetters f fuel rest
      | none =>
        match readEscape? cs with
        | some (e, rest) => withChar e (readLetters f fuel rest)
        | none => none
    else
      match (if f.isMulti then afterBreak? (c :: cs) else none) with
      | some rest => withChar '\n' (readLetters f fuel rest)
      | none => if isPlain c then withChar c (readLetters f fuel cs) else none
  | _, _ => none

/-- A text without the line break at its start. -/
def dropBreak (cs : List Char) : List Char := (afterBreak? cs).getD cs

/-- The string of a form whose opening quotes are left out, and the text after it. -/
def readForm (f : Form) (cs : List Char) : Option (List Char × List Char) :=
  let cs := if f.isMulti then dropBreak cs else cs
  readLetters f (cs.length + 1) cs

/-- The string at the start of a text, and the text after it. -/
def readText? : List Char → Option (List Char × List Char)
  | '"' :: '"' :: '"' :: cs => readForm .multiBasic cs
  | '"' :: cs => readForm .basic cs
  | '\x27' :: '\x27' :: '\x27' :: cs => readForm .multiLiteral cs
  | '\x27' :: cs => readForm .literal cs
  | _ => none

/-- The string on one line at the start of a text, and the text after it. -/
def readLine? : List Char → Option (List Char × List Char)
  | '"' :: cs => readForm .basic cs
  | '\x27' :: cs => readForm .literal cs
  | _ => none

/-! ## Writing -/

/-- The length of the longest row of a character in a text that follows `current` of them. -/
def longestRow (x : Char) : Nat → List Char → Nat
  | current, [] => current
  | current, c :: cs =>
    if c = x then longestRow x (current + 1) cs else max current (longestRow x 0 cs)

/-- The form in which a text is written. -/
def formOf (cs : List Char) : Form :=
  let oneLine := !cs.contains '\n'
  let calm := !cs.any isControl
  let row (x : Char) := longestRow x 0 cs
  if calm && oneLine && !cs.contains '\\' && row '"' = 0 then .basic
  else if calm && oneLine && row '\x27' = 0 then .literal
  else if calm && !cs.contains '\\' && row '"' ≤ 2 then .multiBasic
  else if calm && row '\x27' ≤ 2 then .multiLiteral
  else if oneLine then .basic
  else .multiBasic

/-- A character other than a quote as it stands in a form with escapes. -/
def escapeChar (f : Form) (c : Char) : List Char :=
  match c with
  | '\x08' => ['\\', 'b']
  | '\t' => ['\\', 't']
  | '\n' => if f.isMulti then ['\n'] else ['\\', 'n']
  | '\x0c' => ['\\', 'f']
  | '\r' => ['\\', 'r']
  | '\\' => ['\\', '\\']
  | c =>
    if isControl c then ['\\', 'u', '0', '0'] ++ (Text.hex2 c.toNat).map Char.toUpper else [c]

/-- The number of quotes that may stand in a row in a form. -/
def Form.room (f : Form) : Nat := if f.isMulti then 2 else 0

/-- A text as it stands in a form with escapes. `row` quotes stand right before it. -/
def escape (f : Form) : Nat → List Char → List Char
  | _, [] => []
  | row, c :: cs =>
    if c = '"' then
      if row < f.room then c :: escape f (row + 1) cs else '\\' :: c :: escape f 0 cs
    else escapeChar f c ++ escape f 0 cs

/-- A text as a string of a form. Several lines begin behind a line break. -/
def writeForm (f : Form) (cs : List Char) : List Char :=
  f.delimiter ++ (if f.isMulti && cs.contains '\n' then ['\n'] else []) ++
    (if f.hasEscapes then escape f 0 cs else cs) ++ f.delimiter

/-- A text as a string. -/
def writeText (cs : List Char) : List Char := writeForm (formOf cs) cs

end ViewForge.Data.Toml
