import ViewForge.Failure
import ViewForge.Language
import ViewForge.Render.Output
import ViewForge.Settings.Basic

/-!
# Output for a place in a document

The types of the document are layered over the catalog of its project. A caret gives the output of
the property or the type that it points at, and a selection that of the properties which it meets.
-/

namespace ViewForge.Analysis

/-- What generation takes from the settings besides the profile. -/
structure Options where
  /-- How generated markup is laid out. -/
  formatting : Formatting := {}
  /-- How far members are followed. -/
  generation : Generation := {}
  deriving Repr, DecidableEq

/-- The options of settings. -/
def Options.ofSettings (s : Settings) : Options := ⟨s.formatting, s.generation⟩

/-- What generation works with over the layers of a model. -/
def settingOver (o : Options) (profile : Profile) (layers : List Catalog) : Render.Setting :=
  { profile, model := ⟨layers⟩, generation := o.generation }

/-- The output for what a caret of an outline points at. -/
def targetOutput (o : Options) (setting : Render.Setting) (own : Catalog) : Target → Output
  | .property p declaring =>
    Render.propertyOutput setting o.formatting.indentSize p.toProperty declaring.decl
  | .type t =>
    Render.classOutput setting o.formatting.indentSize ((own.find? t.decl).getD t.decl)
  | .nothing => .nothing

variable [CSharp.Parser]

/-- The output for the property or the type at a caret. Types of the document take in their parts
from the rest of the project. -/
def caretOutput (o : Options) (profile : Profile) (project : Catalog) (d : Document)
    (caret : Nat) : Except Failure Output :=
  if caret > d.length then
    .error (.invalidInput
      ("position " ++ toString caret ++ " is beyond the end of the document (" ++
        toString d.length ++ " characters)"))
  else
    let outline := d.outline
    let own := outline.catalog.mergePartsFrom ⟨[project]⟩
    .ok (targetOutput o (settingOver o profile [own, project]) own (outline.locate caret))

/-- The output for the properties that a selection meets, whose ends are given in either order. -/
def selectionOutput (o : Options) (profile : Profile) (project : Catalog) (d : Document)
    (start stop : Nat) : Except Failure Output :=
  let first := min start stop
  let last := max start stop
  if first > d.length then
    .error (.invalidInput
      ("selection start " ++ toString first ++ " is beyond the end of the document (" ++
        toString d.length ++ " characters)"))
  else
    let outline := d.outline
    let selected := outline.propertiesIn first last
    .ok (Render.selectionOutput (settingOver o profile [outline.catalog, project])
      (selected.map fun s => ⟨s.property, s.declaring⟩))

end ViewForge.Analysis
