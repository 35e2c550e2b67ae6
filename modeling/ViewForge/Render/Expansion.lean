import ViewForge.Member.Choice
import ViewForge.Member.Exposed
import ViewForge.Render.Piece
import ViewForge.Render.State
import ViewForge.Settings.Basic
import ViewForge.Template.Name

/-!
# Rendering members

A member is rendered by the template that its profile chooses. Nested members are rendered inside
the marker that asks for them, to a bounded depth and never inside a type that is already being
expanded; a template that holds the suppressing marker renders nothing.
-/

namespace ViewForge.Render

/-- What generation works with. -/
structure Setting where
  /-- The templates and rules. -/
  profile : Profile
  /-- The types at hand. -/
  model : Model
  /-- How members are followed. -/
  generation : Generation := {}

/-- The part of a template's rendering: a state and the element name given in this rendering. -/
structure Progress where
  /-- The state of the call. -/
  state : State
  /-- The element name of this rendering, once it is given. -/
  name : Option String := none

/-- What a rendering is about: a member, and the member of its enumeration that is at hand. -/
structure Subject where
  /-- The member. -/
  member : Shape
  /-- The member of its enumeration. -/
  element : Option String := none

/-- How nested members are rendered. -/
abbrev Expander := Shape → State → List Rendering × State

/-- A name spaced into words. -/
def spaced (name : String) : String := String.ofList (Template.spacedName name.toList)

/-- The element name of a rendering: the one already given, or a new one made of the name at hand
and the element that encloses the marker. -/
def nameElement (template : List Char) (offset : Nat) (subject : Subject) (p : Progress) :
    String × Progress :=
  match p.name with
  | some name => (name, p)
  | none =>
    let element := Template.enclosingElement (Template.takeBytes offset template)
    let base := subject.element.getD subject.member.name ++ String.ofList element
    let (name, state) := p.state.claim base
    (name, ⟨state, some name⟩)

/-- The piece that a marker becomes. Nested members are rendered by `expandMembers` and
`expandEnum`; inside the template of an enumeration member there are none. -/
def renderMarker (expandMembers expandEnum : Expander) (template : List Char) (subject : Subject)
    (m : Marker) (offset : Nat) (p : Progress) : Piece × Progress :=
  let nested (expand : Expander) : Piece × Progress :=
    match subject.element with
    | some _ => (.value "", p)
    | none =>
      let (renderings, state) := expand subject.member p.state
      (.group renderings, { p with state })
  match m with
  | .name => (.value subject.member.name, p)
  | .spacedName => (.value (spaced subject.member.name), p)
  | .type => (.value subject.member.typeText, p)
  | .counter =>
    let (n, state) := p.state.count
    (.counted n, { p with state })
  | .lastCounter => (.repeated p.state.repeated, p)
  | .subProperties => nested expandMembers
  | .enumMembers => nested expandEnum
  | .element => (.value (subject.element.getD ""), p)
  | .spacedElement => (.value ((subject.element.map spaced).getD ""), p)
  | .enumProperty => (.value (if subject.element.isSome then subject.member.name else ""), p)
  | .elementName =>
    let (name, p) := nameElement template offset subject p
    (.elementName name, p)
  | .previousElementName => (.previousName p.state.previous, p)
  | .noOutput => (.value "", p)

/-- The pieces that the parts of a template become, from left to right. -/
def renderParts (value : Marker → Nat → Progress → Piece × Progress) :
    List Template.Part → Progress → Rendering × Progress
  | [], p => ([], p)
  | .text letters :: parts, p =>
    let (pieces, p) := renderParts value parts p
    (.literal letters :: pieces, p)
  | .marker m offset :: parts, p =>
    let (piece, p) := value m offset p
    let (pieces, p) := renderParts value parts p
    (piece :: pieces, p)

/-- A template rendered for a subject. The element name that it was given becomes the previous name
of its group. -/
def renderTemplate (expandMembers expandEnum : Expander) (template : String) (subject : Subject)
    (s : State) : Rendering × State :=
  let letters := template.toList
  let value := renderMarker expandMembers expandEnum letters subject
  let (pieces, p) := renderParts value (Template.parts letters) ⟨s, none⟩
  (pieces, match p.name with
    | some name => { p.state with previous := some name }
    | none => p.state)

/-- Nothing nested. -/
def expandNothing : Expander := fun _ s => ([], s)

/-- Renders the items of a list one after the other, leaving out those that render nothing. -/
def renderAll {α : Type} (render : α → State → Option Rendering × State) :
    List α → State → List Rendering × State
  | [], s => ([], s)
  | x :: xs, s =>
    let (rendering, s) := render x s
    let (rest, s) := renderAll render xs s
    (rendering.toList ++ rest, s)

/-- Renders a nested group, after which the previous name is the one from before. -/
def inGroup (s : State) (render : State → List Rendering × State) : List Rendering × State :=
  let (renderings, after) := render s.beginGroup
  (renderings, after.endGroup s.previous)

/-- The members of a member's enumeration, each by the profile's template for them. -/
def expandEnum (c : Setting) : Expander := fun member s =>
  let template := c.profile.enumMember
  if !member.isEnum || Template.mentions template.toList .noOutput then ([], s)
  else
    inGroup s <| renderAll (fun element s =>
      let (pieces, s) :=
        renderTemplate expandNothing expandNothing template ⟨member, some element⟩ s
      (some pieces, s)) member.enumMembers

/-- The template that a profile gives a member. -/
def templateFor (c : Setting) (nested : Bool) (member : Shape) : String :=
  match chooseRule c.profile.rules member with
  | some rule => rule.output
  | none => if nested then c.profile.nestedFallback else c.profile.fallback

/-- A member rendered by the template that its profile gives it, unless that suppresses it. -/
def renderMember (c : Setting) (expandMembers : Expander) (nested : Bool) (member : Shape)
    (s : State) : Option Rendering × State :=
  let template := templateFor c nested member
  if Template.mentions template.toList .noOutput then (none, s)
  else
    let (pieces, s) := renderTemplate expandMembers (expandEnum c) template ⟨member, none⟩ s
    (some pieces, s)

/-- The members behind a member. Unknown members are rendered as one blank member. `room` is the
number of levels that may still be opened. -/
def expandMembers (c : Setting) : Nat → Expander
  | room, member, s =>
    match member.inner with
    | .none => ([], s)
    | .unknown =>
      inGroup s fun s =>
        let (pieces, s) :=
          renderTemplate expandNothing expandNothing c.profile.nestedFallback ⟨.blank, none⟩ s
        ([pieces], s)
    | .members t =>
      match room with
      | 0 => ([], s)
      | room + 1 =>
        match s.enter? t.fullName c.generation.maxDepth with
        | none => ([], s)
        | some inside =>
          let (renderings, s) := inGroup inside <| renderAll (fun m s =>
            renderMember c (expandMembers c room) true
              (Shape.ofProperty c.model (some m.declaring) m.property) s)
            (Member.exposed c.model c.generation.excluded t)
          (renderings, s.leave)

/-- The members behind a member, to the depth that the settings allow. -/
def expand (c : Setting) : Expander := expandMembers c c.generation.maxDepth

/-- Properties rendered one after the other, each seen from the type that declares it. -/
def renderProperties (c : Setting) (members : List Member) (s : State) : List Rendering × State :=
  renderAll (fun m s =>
    renderMember c (expand c) false (Shape.ofProperty c.model (some m.declaring) m.property) s)
    members s

end ViewForge.Render
