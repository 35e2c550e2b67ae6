import ViewForge.Text.Match

/-!
# Type texts of Visual Basic

Lists that are cut at commas outside parentheses, and the type of a property without what may
follow it on its line.
-/

namespace ViewForge.VisualBasic

/-- The pieces of a list between commas outside parentheses, `depth` of which are open. The
characters of the piece at hand come last first. -/
def piecesFrom : Nat → List Char → List Char → List (List Char)
  | _, piece, [] => [piece.reverse]
  | depth, piece, c :: cs =>
    if c = ',' && depth = 0 then piece.reverse :: piecesFrom depth [] cs
    else
      piecesFrom (if c = '(' then depth + 1 else if c = ')' then depth - 1 else depth)
        (c :: piece) cs

/-- The trimmed pieces of a list between commas outside parentheses, without empty ones. -/
def splitList (cs : List Char) : List (List Char) :=
  ((piecesFrom 0 [] cs).map Text.trim).filter (!·.isEmpty)

/-- What stands before the first equals sign outside parentheses. -/
def beforeValue : Nat → List Char → List Char
  | _, [] => []
  | depth, c :: cs =>
    if c = '=' && depth = 0 then []
    else
      c :: beforeValue (if c = '(' then depth + 1 else if c = ')' then depth - 1 else depth) cs

/-- What stands before the first ` Implements `. -/
def beforeImplements (cs : List Char) : List Char :=
  match Text.cut? " implements ".toList (cs.map Char.toLower) with
  | some (before, _) => cs.take before.length
  | none => cs

/-- A type without the arguments of its constructor: what stands before the last opening
parenthesis, if the text ends in a closing one and the parentheses hold no type arguments. -/
def dropArguments (cs : List Char) : List Char :=
  match cs.reverse with
  | ')' :: _ =>
    if cs.contains '(' then
      let inside := (cs.reverse.takeWhile (· != '(')).reverse
      if Text.sameIgnoringCase ((Text.trimStart inside).take 3) ['o', 'f', ' '] then cs
      else Text.trim (cs.take (cs.length - inside.length - 1))
    else cs
  | _ => cs

/-- The type of a property: without a value, an `Implements` clause and, behind `New`, the arguments
of the constructor. -/
def propertyType (isNew : Bool) (cs : List Char) : List Char :=
  let t := Text.trim (beforeImplements (Text.trim (beforeValue 0 cs)))
  if isNew then dropArguments t else t

end ViewForge.VisualBasic
