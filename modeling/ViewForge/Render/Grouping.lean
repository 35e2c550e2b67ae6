import ViewForge.Profile.Basic
import ViewForge.Text.Match

/-!
# The element around a class

The members of a class stand inside the element that the profile names, or inside a grid with a row
definition for each row that was counted.
-/

namespace ViewForge.Render

/-- A grouping without the angle brackets and white space around it. -/
def trimGrouping (grouping : String) : List Char :=
  let cs := (Text.trim grouping.toList).dropWhile (· == '<')
  Text.trim (cs.reverse.dropWhile (· == '>')).reverse

/-- One row definition for each row. -/
def rowDefinitions (rows : Nat) : List Char :=
  if rows = 0 then []
  else
    "<Grid.RowDefinitions>\n".toList ++
      (List.replicate rows "<RowDefinition Height=\"Auto\" />\n".toList).flatten ++
      "</Grid.RowDefinitions>\n".toList

/-- The definitions of two columns. -/
def columnDefinitions : List Char :=
  ("<Grid.ColumnDefinitions>\n<ColumnDefinition Width=\"Auto\" />\n" ++
    "<ColumnDefinition Width=\"*\" />\n</Grid.ColumnDefinitions>\n").toList

/-- The text of a class's members inside the element that a grouping names. -/
def wrap (grouping : String) (rows : Nat) (body : List Char) : List Char :=
  let name := trimGrouping grouping
  let twoColumns := Text.sameIgnoringCase name twoColumnGrouping.toList
  if name.isEmpty then body
  else if twoColumns || Text.sameIgnoringCase name gridGrouping.toList then
    "<Grid>\n".toList ++ rowDefinitions rows ++ (if twoColumns then columnDefinitions else []) ++
      body ++ "\n</Grid>".toList
  else
    let element := (Text.words name).headD name
    '<' :: name ++ ['>', '\n'] ++ body ++ ['\n', '<', '/'] ++ element ++ ['>']

end ViewForge.Render
