import ViewForge.Text.Alphabetic
import ViewForge.Text.Blank
import ViewForge.Text.LetterCase

/-!
# Names in templates

How a name is spaced into words, and which element a position of a template stands in.
-/

namespace ViewForge.Template

/-- Whether a blank comes before an upper-case letter: after a small letter or digit, and at the
last capital of a run that a small letter follows. -/
def startsWord (previous : Char) (next : Option Char) : Bool :=
  Text.isLowercase previous || previous.isDigit ||
    (Text.isUppercase previous && next.any Text.isLowercase)

/-- Spaces the rest of a name. `done` is the text so far, last character first, and `previous` the
character before in the name. -/
def spaceAfter (done : List Char) (previous : Option Char) : List Char → List Char
  | [] => done
  | c :: rest =>
    let open? := !done.isEmpty && done.head? != some ' '
    if c = '_' then spaceAfter (if open? then ' ' :: done else done) (some c) rest
    else
      let spaced :=
        Text.isUppercase c && open? && previous.any fun p => startsWord p rest.head?
      spaceAfter (c :: if spaced then ' ' :: done else done) (some c) rest

/-- A name spaced into words: a blank stands before each word, underscores become blanks. -/
def spacedName (name : List Char) : List Char := Text.trimEnd (spaceAfter [] none name).reverse

/-- A character of an element name. -/
def isElementLetter (c : Char) : Bool :=
  Text.isAlphanumeric c || c == '_' || c == ':' || c == '.'

/-- What stands after the last colon of a name and before the first point from there. -/
def localName (name : List Char) : List Char :=
  ((name.splitOn ':').getLastD []).takeWhile (· != '.')

/-- The word that stands for an element when a position is not inside a tag. -/
def defaultElement : List Char := "Element".toList

/-- The local name of the tag that is open at the end of a text. -/
def enclosingElement (before : List Char) : List Char :=
  let tail := (before.reverse.takeWhile (· != '<')).reverse
  if !before.contains '<' || tail.contains '>' then defaultElement
  else
    let name := localName (tail.takeWhile isElementLetter)
    if name.isEmpty then defaultElement else name

/-- The characters that begin before a byte offset. -/
def takeBytes : Nat → List Char → List Char
  | _, [] => []
  | 0, _ => []
  | bytes, c :: cs => c :: takeBytes (bytes - c.utf8Size) cs

end ViewForge.Template
