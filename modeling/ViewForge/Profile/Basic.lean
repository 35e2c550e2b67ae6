import ViewForge.Template.Part
import ViewForge.Text.Blank

/-!
# Profiles

A profile is a named set of templates. Its rules choose a template by the type, the name and the
read-only state of a member; further templates serve the members that no rule chooses.
-/

namespace ViewForge

/-- The trimmed pieces between bars that are not empty. -/
def alternatives (list : String) : List String :=
  ((list.toList.splitOn '|').map Text.trim |>.filter (!·.isEmpty)).map String.ofList

/-- A rule that gives certain members a template. -/
structure Rule where
  /-- Type patterns separated by bars. -/
  types : String
  /-- Name fragments separated by bars; none fits every name. -/
  nameContains : String := ""
  /-- The read-only state of the members. -/
  ifReadOnly : Bool := false
  /-- The template. -/
  output : String
  deriving Repr, DecidableEq

namespace Rule

/-- The type patterns of a rule. -/
def typeAlternatives (r : Rule) : List String := alternatives r.types

/-- The name fragments of a rule. -/
def nameAlternatives (r : Rule) : List String := alternatives r.nameContains

end Rule

/-- A named set of templates and the rules that choose among them. -/
structure Profile where
  /-- The name. -/
  name : String
  /-- The element around the members of a class, or a keyword for a grid. -/
  grouping : String := ""
  /-- The template of members that no rule chooses. -/
  fallback : String := ""
  /-- The template of nested members that no rule chooses. -/
  nestedFallback : String := ""
  /-- The template of each member of an enumeration. -/
  enumMember : String := ""
  /-- The rules; the first that fits chooses. -/
  rules : List Rule := []
  deriving Repr, DecidableEq

/-- The type pattern that fits every enumeration. -/
def enumPattern : String := "enum"

/-- The type pattern that fits every array. -/
def arrayPattern : String := "array"

/-- The grouping that puts members into a grid with a row for each. -/
def gridGrouping : String := "grid-plus-rowdefs"

/-- The grouping that puts members into a grid of two columns with a row for each. -/
def twoColumnGrouping : String := "grid-plus-rowdefs-2cols"

end ViewForge
