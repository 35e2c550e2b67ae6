/-!
# Paths

The components of a path, the name at its end and the extension of that name.
-/

namespace ViewForge.Text

/-- The components of a path without the empty ones and the points that mean the same place. -/
def components (path : List Char) : List (List Char) :=
  (path.splitOn '/').filter fun c => !c.isEmpty && c != ['.']

/-- The name at the end of a path, unless the path ends in the way up. -/
def fileName? (path : List Char) : Option (List Char) :=
  (components path).getLast?.filter (· != ['.', '.'])

/-- What follows the last point of a name; a point at the start begins no extension. -/
def nameExtension? (name : List Char) : Option (List Char) :=
  let extension := (name.reverse.takeWhile (· != '.')).reverse
  if extension.length + 1 < name.length then some extension else none

/-- The extension of the name at the end of a path. -/
def extension? (path : List Char) : Option (List Char) := (fileName? path).bind nameExtension?

end ViewForge.Text
