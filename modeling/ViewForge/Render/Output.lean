import ViewForge.Markup.Layout
import ViewForge.Render.Expansion
import ViewForge.Render.Grouping

/-!
# Output

The three calls of generation: one property, a whole class, or the properties of a selection. Each
starts from a fresh state.
-/

namespace ViewForge

/-- What an output was generated for. -/
inductive OutputKind where
  /-- Nothing was found. -/
  | nothing
  | property
  | «class»
  | selection
  deriving Repr, DecidableEq

namespace OutputKind

/-- All kinds of output. -/
def all : List OutputKind := [.nothing, .property, .class, .selection]

/-- The word for a kind of output. -/
def word : OutputKind → String
  | .nothing => "none"
  | .property => "property"
  | .class => "class"
  | .selection => "selection"

/-- The kind of output that a word names. -/
def ofWord? (word : String) : Option OutputKind := all.find? (·.word == word)

end OutputKind

/-- Generated markup. -/
structure Output where
  /-- The name to show for it. -/
  name : String
  /-- The markup. -/
  markup : String
  /-- What it was generated for. -/
  kind : OutputKind
  deriving Repr, DecidableEq

/-- The output when nothing was found. -/
def Output.nothing : Output := ⟨"", "", .nothing⟩

/-- Whether nothing was found. -/
def Output.isNothing (o : Output) : Bool := o.kind == .nothing

namespace Render

/-- The comment that stands for the members of a class that shows none. -/
def noMembers : List Char := "<!-- No accessible properties when copying as XAML -->".toList

/-- The name shown for a selection: up to two names, and the number of the others. -/
def selectionName : List String → String
  | [] => ""
  | [only] => only
  | [first, second] => first ++ " and " ++ second
  | first :: second :: rest =>
    first ++ ", " ++ second ++ " and " ++ toString rest.length ++
      if rest.length = 1 then " other property" else " other properties"

/-- Markup laid out with so many blanks a level. -/
def laidOut (indent : Nat) (markup : List Char) : String :=
  String.ofList (Markup.format indent markup)

/-- The output for one property of a type; nothing for one that is not exposed. -/
def propertyOutput (c : Setting) (indent : Nat) (p : Property) (declaring : TypeDecl) : Output :=
  if !Member.isExposed c.generation.excluded p then .nothing
  else
    match renderMember c (expand c) false (Shape.ofProperty c.model (some declaring) p) {} with
    | (some rendering, _) =>
      ⟨p.name, laidOut indent (renderingLetters rendering), .property⟩
    | (none, _) => .nothing

/-- The text of a whole class before it is laid out. -/
def classText (c : Setting) (t : TypeDecl) : List Char :=
  let (renderings, s) := renderProperties c (Member.exposed c.model c.generation.excluded t) {}
  wrap c.profile.grouping s.next (if renderings.isEmpty then noMembers else joined renderings)

/-- The output for a whole class. -/
def classOutput (c : Setting) (indent : Nat) (t : TypeDecl) : Output :=
  ⟨t.name, laidOut indent (classText c t), .class⟩

/-- The exposed members of a selection that render something, with their renderings. -/
def renderSelection (c : Setting) : List Member → State → List (String × Rendering) × State
  | [], s => ([], s)
  | m :: rest, s =>
    if !Member.isExposed c.generation.excluded m.property then renderSelection c rest s
    else
      let (rendering, s) := renderMember c (expand c) false
        (Shape.ofProperty c.model (some m.declaring) m.property) s
      let (others, s) := renderSelection c rest s
      (rendering.toList.map (m.property.name, ·) ++ others, s)

/-- The output for the properties of a selection, in order and not laid out. -/
def selectionOutput (c : Setting) (members : List Member) : Output :=
  let shown := (renderSelection c members {}).1
  if shown.isEmpty then .nothing
  else
    ⟨selectionName (shown.map (·.1)), String.ofList (joined (shown.map (·.2))), .selection⟩

end Render

end ViewForge
