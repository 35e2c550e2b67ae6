import ViewForge.Data.Reader
import ViewForge.Profile.Basic

/-!
# Reading profiles

Profiles and rules as records of a data format.
-/

namespace ViewForge

open Data (Reader)
open Data.Reader (required orElse)

variable {α : Type}

/-- The names of a rule's fields. -/
def Rule.fieldNames : List String := ["type", "name_contains", "if_read_only", "output"]

/-- The rule that a record is. -/
def Rule.read? (r : Reader α) (value : α) : Option Rule := do
  let field ← r.fields? fieldNames value
  pure {
    types := ← required r.text? (field "type")
    nameContains := ← orElse "" r.text? (field "name_contains")
    ifReadOnly := ← orElse false r.flag? (field "if_read_only")
    output := ← required r.text? (field "output") }

/-- The names of a profile's fields. -/
def Profile.fieldNames : List String :=
  ["name", "class_grouping", "fallback_output", "sub_property_output", "enum_member_output",
   "mappings"]

/-- The profile that a record is. -/
def Profile.read? (r : Reader α) (value : α) : Option Profile := do
  let field ← r.fields? fieldNames value
  pure {
    name := ← required r.text? (field "name")
    grouping := ← orElse "" r.text? (field "class_grouping")
    fallback := ← orElse "" r.text? (field "fallback_output")
    nestedFallback := ← orElse "" r.text? (field "sub_property_output")
    enumMember := ← orElse "" r.text? (field "enum_member_output")
    rules := ← orElse [] (r.items? (Rule.read? r)) (field "mappings") }

end ViewForge
