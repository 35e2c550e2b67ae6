import ViewForge.Text.Alphabetic
import ViewForge.Text.Blank

/-!
# Tokens of C#

A source text is cut into words, literals, single marks, the arrow and the directives of
conditional compilation. White space, comments and other directives separate tokens. Every token
knows its bytes.
-/

namespace ViewForge.CSharp

/-- What a token is. -/
inductive Lexeme where
  /-- A keyword or name as it is written. -/
  | word (letters : List Char)
  /-- A number, character or string. -/
  | literal
  /-- A single character that is none of the others. -/
  | mark (c : Char)
  /-- The arrow `=>`. -/
  | arrow
  /-- A directive of conditional compilation. -/
  | directive (word : List Char)
  deriving Repr, DecidableEq

/-- A token and its place in bytes. -/
structure Token where
  /-- What the token is. -/
  lexeme : Lexeme
  /-- The byte offset at which it begins. -/
  first : Nat
  /-- The byte offset behind it. -/
  last : Nat
  deriving Repr, DecidableEq

namespace Token

/-- Whether a token is a certain mark. -/
def isMark (t : Token) (c : Char) : Bool := t.lexeme == .mark c

/-- Whether a token is a certain word. -/
def isWord (t : Token) (w : String) : Bool := t.lexeme == .word w.toList

/-- Whether a token opens a bracket that is not an angle bracket. -/
def opens (t : Token) : Bool := t.isMark '(' || t.isMark '[' || t.isMark '{'

/-- Whether a token closes a bracket that is not an angle bracket. -/
def closes (t : Token) : Bool := t.isMark ')' || t.isMark ']' || t.isMark '}'

end Token

/-! ## Literals -/

/-- What surrounds a character inside a literal. -/
inductive Quote where
  /-- A string; a backslash escapes unless it is verbatim, and braces hold code if it is
  interpolated. -/
  | string (verbatim interpolated : Bool)
  /-- A character. -/
  | character
  /-- A raw string between so many double quotes. -/
  | raw (quotes : Nat)
  /-- Code inside a string, with so many brackets open. -/
  | hole (depth : Nat)
  /-- How the value of code inside a string is written. -/
  | format
  deriving Repr, DecidableEq

/-- The literal that begins a text and the number of characters that open it. -/
def opening? (cs : List Char) : Option (Quote × Nat) :=
  let lead := cs.takeWhile fun c => c == '$' || c == '@'
  let rest := cs.dropWhile fun c => c == '$' || c == '@'
  let quotes := (rest.takeWhile (· == '"')).length
  if quotes ≥ 3 && !lead.contains '@' then some (.raw quotes, lead.length + quotes)
  else if quotes ≥ 1 then
    some (.string (lead.contains '@') (lead.contains '$'), lead.length + 1)
  else
    match lead, rest with
    | [], '\x27' :: _ => some (.character, 1)
    | _, _ => none

/-- What is around the next character after a character and the text behind it, and how many more
characters belong to that step. -/
def stepLiteral (c : Char) (next : List Char) : List Quote → List Quote × Nat
  | [] => ([], 0)
  | .string verbatim interpolated :: outer =>
    let here := Quote.string verbatim interpolated :: outer
    if c = '"' then if verbatim && next.head? == some '"' then (here, 1) else (outer, 0)
    else if c = '\\' && !verbatim then (here, 1)
    else if c = '{' && interpolated then
      if next.head? == some '{' then (here, 1) else (.hole 0 :: here, 0)
    else (here, 0)
  | .character :: outer =>
    if c = '\\' then (.character :: outer, 1)
    else if c = '\x27' then (outer, 0)
    else (.character :: outer, 0)
  | .raw quotes :: outer =>
    if (c :: next).take quotes == List.replicate quotes '"' then (outer, quotes - 1)
    else (.raw quotes :: outer, 0)
  | .format :: outer => if c = '}' then (outer, 0) else (.format :: outer, 0)
  | .hole depth :: outer =>
    if c = '}' && depth = 0 then (outer, 0)
    else if ['(', '[', '{'].contains c then (.hole (depth + 1) :: outer, 0)
    else if [')', ']', '}'].contains c then (.hole (depth - 1) :: outer, 0)
    else if c = ':' && depth = 0 then
      if next.head? == some ':' then (.hole depth :: outer, 1) else (.format :: outer, 0)
    else
      match opening? (c :: next) with
      | some (quote, count) => (quote :: .hole depth :: outer, count - 1)
      | none => (.hole depth :: outer, 0)

/-- The number of characters of a literal that is open; the first `skip` of them are part of a
step. -/
def literalLength : Nat → List Quote → List Char → Nat
  | _, _, [] => 0
  | _, [], _ => 0
  | skip + 1, quotes, _ :: cs => literalLength skip quotes cs + 1
  | 0, quotes, c :: cs =>
    let (quotes, skip) := stepLiteral c cs quotes
    if quotes.isEmpty then min skip cs.length + 1 else literalLength skip quotes cs + 1

/-! ## Reading -/

/-- The number of characters before the end of the line. -/
def lineLength (cs : List Char) : Nat := (cs.takeWhile fun c => c != '\n' && c != '\r').length

/-- The number of characters of a comment after its opening, with its closing. -/
def commentLength : List Char → Nat
  | '*' :: '/' :: _ => 2
  | _ :: cs => commentLength cs + 1
  | [] => 0

/-- A character of a word. -/
def isNameLetter (c : Char) : Bool := Text.isWord c || c == '\\'

/-- White space, or a byte-order mark. -/
def isSpace (c : Char) : Bool := Text.isBlank c || c == '\ufeff'

/-- The directives of conditional compilation. -/
def conditionals : List (List Char) :=
  ["if".toList, "elif".toList, "else".toList, "endif".toList]

/-- What begins at the start of a text, if it is not skipped, and its number of characters. -/
def lex (cs : List Char) : Option Lexeme × Nat :=
  match cs with
  | [] => (none, 0)
  | c :: rest =>
    if isSpace c then (none, 1)
    else if c = '/' && rest.head? == some '/' then (none, 1 + lineLength rest)
    else if c = '/' && rest.head? == some '*' then (none, 2 + commentLength rest.tail)
    else if c = '#' then
      let word := (rest.dropWhile isSpace).takeWhile Text.isWord
      (if conditionals.contains word then some (.directive word) else none, 1 + lineLength rest)
    else
      match opening? cs with
      | some (quote, count) => (some .literal, count + literalLength 0 [quote] (cs.drop count))
      | none =>
        if isNameLetter c then
          let letters := cs.takeWhile isNameLetter
          (some (if c.isDigit then .literal else .word letters), letters.length)
        else if c = '@' && rest.head?.any isNameLetter then
          let letters := c :: rest.takeWhile isNameLetter
          (some (.word letters), letters.length)
        else if c = '=' && rest.head? == some '>' then (some .arrow, 2)
        else (some (.mark c), 1)

/-- The tokens of a text that begins at a byte offset; its first `skip` characters were read
before. -/
def tokensFrom : Nat → Nat → List Char → List Token
  | _, _, [] => []
  | skip + 1, offset, c :: cs => tokensFrom skip (offset + c.utf8Size) cs
  | 0, offset, c :: cs =>
    let (lexeme, count) := lex (c :: cs)
    let rest := tokensFrom (count - 1) (offset + c.utf8Size) cs
    match lexeme with
    | some lexeme =>
      ⟨lexeme, offset, offset + (((c :: cs).take count).map Char.utf8Size).sum⟩ :: rest
    | none => rest

/-- The tokens of a source text. -/
def tokens (source : List Char) : List Token := tokensFrom 0 0 source

end ViewForge.CSharp
