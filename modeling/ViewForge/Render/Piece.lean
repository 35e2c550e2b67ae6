/-!
# Rendered templates

A rendered template is kept as pieces that tell which marker each came from; nested expansions
stay groups of renderings. The text is read off the pieces.
-/

namespace ViewForge.Render

/-- A piece of a rendered template. -/
inductive Piece where
  /-- Text of the template. -/
  | literal (letters : List Char)
  /-- A value that depends on the member alone. -/
  | value (text : String)
  /-- A value that the counter gave. -/
  | counted (n : Nat)
  /-- The value that the counter gave last. -/
  | repeated (n : Nat)
  /-- The element name of this rendering. -/
  | elementName (name : String)
  /-- The element name before it in the group, if there is one. -/
  | previousName (name : Option String)
  /-- The renderings of a nested group. -/
  | group (renderings : List (List Piece))
  deriving Repr

/-- A rendered template. -/
abbrev Rendering := List Piece

mutual

/-- The text of a piece; the renderings of a group stand on lines of their own. -/
def Piece.letters : Piece → List Char
  | .literal letters => letters
  | .value text => text.toList
  | .counted n => (toString n).toList
  | .repeated n => (toString n).toList
  | .elementName name => name.toList
  | .previousName name => (name.getD "").toList
  | .group renderings => ['\n'].intercalate (groupLetters renderings)

/-- The text of a rendering. -/
def renderingLetters : List Piece → List Char
  | [] => []
  | piece :: pieces => piece.letters ++ renderingLetters pieces

/-- The texts of the renderings of a group. -/
def groupLetters : List (List Piece) → List (List Char)
  | [] => []
  | rendering :: rest => renderingLetters rendering :: groupLetters rest

end

/-- The text of renderings one below the other. -/
def joined (renderings : List Rendering) : List Char := ['\n'].intercalate (groupLetters renderings)

end ViewForge.Render
