import ViewForge.Data.Json.Reader
import ViewForge.Model.Declaration

/-!
# Reading declarations

Declared types and the descriptions of assemblies in JSON.
-/

namespace ViewForge

open Data (Json)
open Data.Json (text? flag? orNull word?)
open Data.Reader (required orElse)

/-- The kind of type that a value names. -/
def TypeKind.ofJson? (value : Json) : Option TypeKind := (word? value).bind ofWord?

/-- The grade of access that a value names. -/
def Access.ofJson? (value : Json) : Option Access := (word? value).bind ofWord?

/-- The texts of an array. -/
def textsOfJson? (value : Json) : Option (List String) := Json.reader.items? text? value

/-- The property that a value describes. -/
def Property.ofJson? (value : Json) : Option Property := do
  let field ← Json.fields?
    ["name", "type_name", "is_static", "has_getter", "has_setter", "accessibility"] value
  pure {
    name := ← required text? (field "name")
    typeText := ← required text? (field "type_name")
    isStatic := ← orElse false flag? (field "is_static")
    hasGetter := ← orElse true flag? (field "has_getter")
    hasSetter := ← orElse true flag? (field "has_setter")
    access := ← orElse .everywhere Access.ofJson? (field "accessibility") }

/-- The origin of a kind, whose further fields are given. -/
def Origin.ofKind? (kind : String) (field : String → Option Json) : Option Origin :=
  if kind == "source" then some .source
  else if kind == "metadata" then (required text? (field "assembly")).map .metadata
  else none

/-- The origin that a value describes: a record with its kind, or an array that begins with it. -/
def Origin.ofJson? (value : Json) : Option Origin := do
  if !value.isSound Json.maxDepth then none
  match value with
  | .array (kind :: rest) =>
    let kind ← text? kind
    let names := if kind == "metadata" then ["assembly"] else []
    if rest.length > names.length then none
    ofKind? kind (Data.Reader.inOrder names rest)
  | .object _ =>
    let field ← Json.fields? ["kind"] value
    let kind ← required text? (field "kind")
    if kind == "metadata" then ofKind? kind (← Json.fields? ["kind", "assembly"] value)
    else ofKind? kind field
  | _ => none

/-- The declared type that a value describes. -/
def TypeDecl.ofJson? (value : Json) : Option TypeDecl := do
  let field ← Json.fields?
    ["name", "namespace", "kind", "base_types", "type_parameters", "properties", "enum_members",
     "origin", "case_insensitive"] value
  pure {
    name := ← required text? (field "name")
    scope := ← orElse none (orNull text?) (field "namespace")
    kind := ← required TypeKind.ofJson? (field "kind")
    bases := ← orElse [] textsOfJson? (field "base_types")
    parameters := ← orElse [] textsOfJson? (field "type_parameters")
    properties := ← orElse [] (Json.reader.items? Property.ofJson?) (field "properties")
    members := ← orElse [] textsOfJson? (field "enum_members")
    origin := ← orElse .source Origin.ofJson? (field "origin")
    ignoresCase := ← orElse false flag? (field "case_insensitive") }

/-- The declared type that a JSON text describes. -/
def TypeDecl.parse? (text : String) : Option TypeDecl := (Json.parse? text).bind ofJson?

/-- The description of an assembly: its name and the types that it exports. -/
structure Assembly where
  /-- The name. -/
  name : String
  /-- The types. -/
  types : List TypeDecl := []
  deriving Repr, DecidableEq

namespace Assembly

/-- The assembly that a value describes. -/
def ofJson? (value : Json) : Option Assembly := do
  let field ← Json.fields? ["assembly", "types"] value
  pure {
    name := ← required text? (field "assembly")
    types := ← orElse [] (Json.reader.items? TypeDecl.ofJson?) (field "types") }

/-- The assembly that a JSON text describes. -/
def parse? (text : String) : Option Assembly := (Json.parse? text).bind ofJson?

/-- The types of an assembly, which are marked as its own. -/
def marked (a : Assembly) : List TypeDecl :=
  a.types.map fun t => { t with origin := .metadata a.name }

end Assembly

end ViewForge
