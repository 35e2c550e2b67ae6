import ViewForge.Analysis.Basic
import ViewForge.Data.Json.Writer
import ViewForge.Outline.Caret

/-!
# Sessions

Settings and a project, against which requests for a document are answered.
-/

namespace ViewForge

/-- An output as data: its name, its markup and what it is for. -/
def Output.json (o : Output) : String :=
  Data.Json.writeTexts [("name", o.name), ("output", o.markup), ("output_type", o.kind.word)]

/-- The text that is shown for an output: the markup, or the whole output as data. -/
def Output.shown (asJson : Bool) (o : Output) : String := if asJson then o.json else o.markup

/-- Settings and the catalog of a project. -/
structure Session where
  /-- The settings. -/
  settings : Settings
  /-- The types of the project. -/
  project : Catalog
  deriving Repr

namespace Session

/-- The failure that faulty settings are. -/
def configFailure (fault : SettingsFault) : Failure := .config fault.message

/-- The profile to generate with. -/
def profile (s : Session) : Except Refusal Profile :=
  s.settings.active.mapError (.failed ∘ configFailure)

/-- The offset of a caret in a document. -/
def offsetOf (d : Document) (caret : Caret) : Except Refusal Nat :=
  (caret.resolve d.text.toList).mapError fun fault => .because fault.message

variable [CSharp.Parser]

/-- The output for the property or the type at a caret. -/
def generate (s : Session) (d : Document) (caret : Caret) : Except Refusal Output := do
  let offset ← offsetOf d caret
  let profile ← s.profile
  (Analysis.caretOutput (.ofSettings s.settings) profile s.project d offset).mapError .failed

/-- The output for the properties between two carets. -/
def select (s : Session) (d : Document) (start stop : Caret) : Except Refusal Output := do
  let start ← offsetOf d start
  let stop ← offsetOf d stop
  let profile ← s.profile
  (Analysis.selectionOutput (.ofSettings s.settings) profile s.project d start stop).mapError
    .failed

end Session

end ViewForge
