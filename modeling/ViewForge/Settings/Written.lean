import ViewForge.Data.Json.Reader
import ViewForge.Data.Toml.Reader
import ViewForge.Data.Toml.Writer
import ViewForge.Failure
import ViewForge.Settings.Reading

/-!
# Written settings

Settings as the text of a TOML or a JSON document, and profiles as that of a JSON document.
-/

namespace ViewForge

open Data (Json Toml)
open Data.Toml (Line)

/-! ## Reading -/

/-- The profile that a JSON text describes. -/
def Profile.ofJson (text : String) : Except Failure Profile :=
  match (Json.parse? text).bind (Profile.read? Json.reader) with
  | some p => .ok p
  | none => .error (.config "Failed to parse profile JSON")

namespace Settings

/-- The settings that a JSON text describes. -/
def ofJson (text : String) : Except Failure Settings :=
  match (Json.parse? text).bind (read? Json.reader) with
  | some s => .ok s
  | none => .error (.config "Failed to parse JSON")

/-- The settings that a TOML text describes. -/
def ofToml (text : String) : Except Failure Settings :=
  match (Toml.parse? text).bind (read? Toml.reader) with
  | some s => .ok s
  | none => .error (.config "Failed to parse TOML")

end Settings

/-! ## Writing -/

/-- The lines of a rule. -/
def Rule.lines (r : Rule) : List Line :=
  [.arrayHeader ["profiles"] "mappings", .entry "type" (.text r.types),
    .entry "name_contains" (.text r.nameContains), .entry "if_read_only" (.flag r.ifReadOnly),
    .entry "output" (.text r.output)]

/-- The lines of a profile. -/
def Profile.lines (p : Profile) : List Line :=
  [.arrayHeader [] "profiles", .entry "name" (.text p.name),
    .entry "class_grouping" (.text p.grouping), .entry "fallback_output" (.text p.fallback),
    .entry "sub_property_output" (.text p.nestedFallback),
    .entry "enum_member_output" (.text p.enumMember)] ++
  if p.rules.isEmpty then [.entry "mappings" (.texts [])] else p.rules.flatMap Rule.lines

namespace Settings

/-- The lines of settings. -/
def lines (s : Settings) : List Line :=
  [.entry "active_profile" (.text s.activeProfile)] ++
  (if s.profiles.isEmpty then [.entry "profiles" (.texts [])] else []) ++
  [.header [] "formatting", .entry "indent_size" (.number s.formatting.indentSize),
    .header [] "generation", .entry "max_sub_property_depth" (.number s.generation.maxDepth),
    .entry "excluded_properties" (.texts s.generation.excluded)] ++
  s.profiles.flatMap Profile.lines

/-- The TOML text of settings whose numbers are in the range of TOML's integers. -/
def toToml (s : Settings) : Except Failure String :=
  if s.lines.all Line.fits then .ok (Data.Toml.writeLines s.lines)
  else .error (.config "Failed to serialize settings: out-of-range value for u64 type")

end Settings

end ViewForge
