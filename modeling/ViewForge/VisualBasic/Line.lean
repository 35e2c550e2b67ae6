import ViewForge.Outline.Span
import ViewForge.Text.Alphabetic
import ViewForge.Text.Match

/-!
# Lines of Visual Basic

A source text as numbered lines, each with its place and its code, which is what stands before a
comment. The words of the language match in any letter case.
-/

namespace ViewForge.VisualBasic

/-- A physical line without its line break. -/
structure Line where
  /-- The text of the line. -/
  text : List Char
  /-- The place of the text. -/
  span : Span
  deriving Repr, DecidableEq

/-- The physical lines of a text, each with its line break; a break at the end begins no line. -/
def rawLines : List Char → List (List Char)
  | [] => []
  | c :: cs =>
    if c = '\n' then [c] :: rawLines cs
    else
      match rawLines cs with
      | line :: lines => (c :: line) :: lines
      | [] => [[c]]

/-- A line without the line feeds and carriage returns at its end. -/
def dropBreak (raw : List Char) : List Char :=
  (raw.reverse.dropWhile fun c => c == '\n' || c == '\r').reverse

/-- Physical lines placed one after the other from an offset on. -/
def place : Nat → List (List Char) → List Line
  | _, [] => []
  | offset, raw :: rest =>
    let text := dropBreak raw
    ⟨text, offset, offset + text.length⟩ :: place (offset + raw.length) rest

/-- The lines of a source text. -/
def lines (source : List Char) : List Line := place 0 (rawLines source)

/-- Whether a line is blank or holds nothing but a comment. -/
def isSkipped (text : List Char) : Bool :=
  match Text.trimStart text with
  | [] => true
  | '\x27' :: _ => true
  | cs => Text.sameIgnoringCase (cs.take 4) ['r', 'e', 'm', ' ']

/-- What stands before the first apostrophe outside double quotes. -/
def beforeComment : Bool → List Char → List Char
  | _, [] => []
  | quoted, c :: cs =>
    if c = '\x27' && !quoted then []
    else c :: beforeComment (if c = '"' then !quoted else quoted) cs

/-- The code of a line: no comment, no white space at the end. -/
def code (text : List Char) : List Char := Text.trimEnd (beforeComment false text)

/-! ## Words -/

/-- A letter as it is compared with a word of the language: ASCII letters without regard to case,
and the two letters beyond ASCII that are case forms of `s` and `k`. -/
def foldLetter (c : Char) : Char :=
  if c = '\u017f' then 's' else if c = '\u212a' then 'k' else c.toLower

/-- What follows a word of the language at the start of a text; the word is in small letters. -/
def afterLetters? : List Char → List Char → Option (List Char)
  | [], cs => some cs
  | l :: word, c :: cs => if foldLetter c = l then afterLetters? word cs else none
  | _ :: _, [] => none

/-- The first of several words that stands at the start of a text, and what follows it. -/
def anyWord? (vocabulary : List String) (cs : List Char) : Option (String × List Char) :=
  vocabulary.findSome? fun word => (afterLetters? word.toList cs).map fun rest => (word, rest)

/-- What follows white space, of which there is some. -/
def afterBlanks? : List Char → Option (List Char)
  | c :: cs => if Text.isBlank c then some (Text.trimStart cs) else none
  | [] => none

/-- Whether no word character comes next. -/
def endsWord : List Char → Bool
  | c :: _ => !Text.isWord c
  | [] => true

/-- The word characters at the start of a text, of which there are some, and what follows them. -/
def name? (cs : List Char) : Option (List Char × List Char) :=
  let name := cs.takeWhile Text.isWord
  if name.isEmpty then none else some (name, cs.dropWhile Text.isWord)

/-- Words of a vocabulary at the start of a text, each with white space behind it, as they are
written, and what follows them. The fuel is at least the length of the text. -/
def modifiersWith (vocabulary : List String) : Nat → List Char → List (List Char) × List Char
  | 0, cs => ([], cs)
  | fuel + 1, cs =>
    match anyWord? vocabulary cs with
    | none => ([], cs)
    | some (word, rest) =>
      match afterBlanks? rest with
      | none => ([], cs)
      | some rest =>
        let (more, rest) := modifiersWith vocabulary fuel rest
        (cs.take word.length :: more, rest)

/-- Words of a vocabulary at the start of a text, each with white space behind it, as they are
written, and what follows them. -/
def modifiers (vocabulary : List String) (cs : List Char) : List (List Char) × List Char :=
  modifiersWith vocabulary cs.length cs

/-- The texts that may follow the attributes of a declaration: what follows each closing angle
bracket, the last first. A text without attributes follows none. -/
def afterAttributes (cs : List Char) : List (List Char) :=
  match Text.trimStart cs with
  | '<' :: rest => (tailsAfter rest).reverse.map Text.trimStart
  | cs => [cs]
where
  /-- What follows each closing angle bracket, the first first. -/
  tailsAfter : List Char → List (List Char)
    | [] => []
    | c :: cs => if c = '>' then cs :: tailsAfter cs else tailsAfter cs

/-- The first reading of a declaration behind its attributes. -/
def behindAttributes? {α : Type} (read : List Char → Option α) (cs : List Char) : Option α :=
  (afterAttributes cs).findSome? read

end ViewForge.VisualBasic
