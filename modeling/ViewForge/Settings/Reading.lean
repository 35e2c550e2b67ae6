import ViewForge.Profile.Reading
import ViewForge.Settings.Basic

/-!
# Reading settings

Settings as records of a data format; what is not given has its default.
-/

namespace ViewForge

open Data (Reader)
open Data.Reader (orElse)

variable {α : Type}

/-- The layout that a record is. -/
def Formatting.read? (r : Reader α) (value : α) : Option Formatting := do
  let field ← r.fields? ["indent_size"] value
  pure { indentSize := ← orElse ({} : Formatting).indentSize r.natural? (field "indent_size") }

/-- The knobs of generation that a record is. -/
def Generation.read? (r : Reader α) (value : α) : Option Generation := do
  let field ← r.fields? ["max_sub_property_depth", "excluded_properties"] value
  pure {
    maxDepth := ← orElse ({} : Generation).maxDepth r.natural? (field "max_sub_property_depth")
    excluded :=
      ← orElse ({} : Generation).excluded (r.items? r.text?) (field "excluded_properties") }

/-- The names of the fields of settings. -/
def Settings.fieldNames : List String := ["active_profile", "formatting", "generation", "profiles"]

/-- The settings that a record is. -/
def Settings.read? (r : Reader α) (value : α) : Option Settings := do
  let field ← r.fields? fieldNames value
  pure {
    activeProfile := ← orElse ({} : Settings).activeProfile r.text? (field "active_profile")
    formatting := ← orElse {} (Formatting.read? r) (field "formatting")
    generation := ← orElse {} (Generation.read? r) (field "generation")
    profiles := ← orElse Profile.builtIn (r.items? (Profile.read? r)) (field "profiles") }

end ViewForge
