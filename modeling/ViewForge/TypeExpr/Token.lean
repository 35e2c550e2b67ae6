import ViewForge.Text.Alphabetic
import ViewForge.Text.Blank

/-!
# Tokens of a type expression

The text of a type is cut into words, double colons and single marks. White space separates
tokens and is otherwise dropped; a word remembers whether white space follows it.
-/

namespace ViewForge

/-- A token of a type expression. -/
inductive TypeToken where
  /-- A word, perhaps behind an `@`, and whether white space follows. -/
  | word (escaped : Bool) (letters : List Char) (beforeBlank : Bool)
  /-- The separator `::`. -/
  | doubleColon
  /-- A bracket, comma, point or question mark. -/
  | mark (c : Char)
  deriving Repr, DecidableEq

namespace TypeToken

/-- A character of a word. -/
def isLetter (c : Char) : Bool := Text.isAlphanumeric c || c == '_'

/-- A character that is a token by itself. -/
def isMark (c : Char) : Bool := ['.', ',', '?', '<', '>', '(', ')', '[', ']'].contains c

/-- Whether white space comes next. -/
def blankNext : List Char → Bool
  | c :: _ => Text.isBlank c
  | [] => false

/-- The tokens of a text, or nothing if some character begins no token. The fuel is at least the
number of characters. -/
def scanWith : Nat → List Char → Option (List TypeToken)
  | _, [] => some []
  | 0, _ :: _ => none
  | fuel + 1, c :: cs =>
    if Text.isBlank c then scanWith fuel cs
    else if isLetter c then
      let letters := c :: cs.takeWhile isLetter
      let rest := cs.dropWhile isLetter
      (scanWith fuel rest).map (.word false letters (blankNext rest) :: ·)
    else if c = '@' then
      let letters := cs.takeWhile isLetter
      let rest := cs.dropWhile isLetter
      if letters.isEmpty then none
      else (scanWith fuel rest).map (.word true letters (blankNext rest) :: ·)
    else if c = ':' then
      match cs with
      | ':' :: rest => (scanWith fuel rest).map (.doubleColon :: ·)
      | _ => none
    else if isMark c then (scanWith fuel cs).map (.mark c :: ·)
    else none

/-- The tokens of a text, or nothing if some character begins no token. -/
def scan (cs : List Char) : Option (List TypeToken) := scanWith cs.length cs

/-- Whether a word begins as an element name does: with a letter, an underscore or an `@`. -/
def namesElement : TypeToken → Bool
  | .word escaped letters _ =>
    escaped || match letters with
      | c :: _ => Text.isAlphabetic c || c == '_'
      | [] => false
  | _ => false

/-- Whether a word opens the arguments of a generic type: `Of`, in any case, before white space. -/
def opensArguments : TypeToken → Bool
  | .word false [o, f] true => o.toLower == 'o' && f.toLower == 'f'
  | _ => false

end TypeToken

end ViewForge
