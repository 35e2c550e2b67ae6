import ViewForge.Data.Address
import ViewForge.Data.Toml.Document
import ViewForge.Failure
import ViewForge.Settings.Reading
import ViewForge.Text.Match

/-!
# Loading settings

Settings are gathered in layers: defaults, then a file if there is one, then the variables of the
environment. A variable is named by the address of the setting that it overrides.
-/

namespace ViewForge

open Data (Address Json Loose Toml)

/-- What is found where the settings file should be. -/
inductive SettingsFile where
  /-- Nothing. -/
  | missing
  /-- A text, and the extension of the file's name. -/
  | text (extension content : String)
  /-- Something that is no file. -/
  | unusable
  deriving Repr, DecidableEq

namespace SettingsFile

/-- The value of a JSON text that is sound as a whole. -/
def ofJson? (content : String) : Option Loose :=
  ((Json.parse? content).filter (·.isSound Json.maxDepth)).map Loose.ofJson

/-- The entries of a file's text, whose format is that of its extension. A byte-order mark does not
count. Only TOML and JSON are read here: files of the other formats that settings may come in (YAML,
INI, RON and JSON5) are taken as unreadable. -/
def entries? (extension content : String) : Option Loose.Entries :=
  let content := String.ofList (Data.Toml.dropMark content.toList)
  let value :=
    if extension == "toml" then (Toml.parse? content).map Loose.ofToml
    else if extension == "json" then ofJson? content
    else none
  match value with
  | some (.table entries) => some entries
  | _ => none

end SettingsFile

namespace Settings

/-- The layer of defaults. -/
def defaultLayer : Loose :=
  .table [("active_profile", .text ({} : Settings).activeProfile),
    ("formatting", .table [("indent_size", .integer ({} : Formatting).indentSize)]),
    ("generation", .table [("max_sub_property_depth", .integer ({} : Generation).maxDepth)])]

/-- A value with entries put in the places that their keys are the addresses of. -/
def overlay (root : Loose) (entries : Loose.Entries) : Loose :=
  entries.foldl (fun root (key, value) => (Address.parse key).set value root) root

/-- What the names of variables begin with, in any case. -/
def variableLead : List Char := "xamlgen_".toList

/-- A text with a point for each pair of underscores. -/
def pointed : List Char → List Char
  | '_' :: '_' :: cs => '.' :: pointed cs
  | c :: cs => c :: pointed cs
  | [] => []

/-- The address and the value that a variable stands for, if it is one for settings. -/
def ofVariable? (name value : String) : Option (String × Loose) :=
  (Text.after? variableLead (Text.lower name.toList)).map fun rest =>
    (String.ofList (pointed rest), Loose.guess value)

/-- The entries that an environment stands for. -/
def ofEnvironment (environment : List (String × String)) : Loose.Entries :=
  environment.filterMap fun (name, value) => ofVariable? name value

/-- The settings that a file and an environment give. -/
def load (file : SettingsFile) (environment : List (String × String)) :
    Except Failure Settings := do
  let entries ← match file with
    | .missing => pure []
    | .unusable => throw (.config "Failed to build settings")
    | .text extension content =>
      match SettingsFile.entries? extension content with
      | some entries => pure entries
      | none => throw (.config "Failed to build settings")
  match read? Loose.reader (overlay (overlay defaultLayer entries) (ofEnvironment environment)) with
  | some s => pure s
  | none => throw (.config "Failed to deserialize settings")

/-- Valid settings from a file and an environment. A profile that is asked for is active. -/
def loadValid (file : SettingsFile) (environment : List (String × String))
    (profile : Option String) : Except Refusal Settings := do
  let s ← (load file environment).mapError (.during "Failed to load settings" ∘ .failed)
  let s := { s with activeProfile := profile.getD s.activeProfile }
  match s.validate with
  | .ok () => pure s
  | .error fault => throw (.during "Invalid settings" (.failed (.config fault.message)))

end Settings

end ViewForge
