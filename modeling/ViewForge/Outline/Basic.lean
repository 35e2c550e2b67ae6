import ViewForge.Model.Catalog
import ViewForge.Outline.OffsetMap

/-!
# Outlines

What a document declares and where: each type with its span, the spans of its properties and those
of its other members. A caret is located, and a selection is read, on the outline alone.
-/

namespace ViewForge

/-- A declared type and the places of its parts. -/
structure DeclaredType where
  /-- The type without its properties' places. -/
  decl : TypeDecl
  /-- The whole declaration. -/
  span : Span
  /-- The places of the properties, one by one. -/
  propertySpans : List Span := []
  /-- The places of the other members. -/
  memberSpans : List Span := []
  deriving Repr, DecidableEq

/-- A property of a declared type with its number and its place. -/
structure PlacedProperty extends Property where
  /-- How many properties the type declares before it. -/
  index : Nat
  /-- The place. -/
  span : Span
  deriving Repr, DecidableEq

namespace DeclaredType

/-- A type with one more property. -/
def addProperty (t : DeclaredType) (p : Property) (span : Span) : DeclaredType :=
  { t with
    decl := { t.decl with properties := t.decl.properties ++ [p] }
    propertySpans := t.propertySpans ++ [span] }

/-- A type with one more member that is no property. -/
def addMember (t : DeclaredType) (span : Span) : DeclaredType :=
  { t with memberSpans := t.memberSpans ++ [span] }

/-- The properties with their numbers and places. -/
def placed (t : DeclaredType) : List PlacedProperty :=
  (t.decl.properties.zip t.propertySpans).zipIdx.map fun ((p, span), index) =>
    { p with index, span }

end DeclaredType

/-- The types that a document declares, in the order of declaration. -/
structure Outline where
  /-- The types. -/
  types : List DeclaredType := []
  deriving Repr, DecidableEq

/-- What a caret points at. -/
inductive Target where
  /-- A property of a type. -/
  | property (p : PlacedProperty) (declaring : DeclaredType)
  /-- A whole type. -/
  | type (t : DeclaredType)
  /-- Nothing. -/
  | nothing
  deriving Repr, DecidableEq

namespace Outline

/-- The catalog of a document's types. -/
def catalog (o : Outline) : Catalog := Catalog.ofList (o.types.map (·.decl))

/-- The shorter of two types, the first if they are of one length. -/
def shorter (best : Option DeclaredType) (t : DeclaredType) : Option DeclaredType :=
  match best with
  | some b => if t.span.length < b.span.length then some t else some b
  | none => some t

/-- The innermost type around a caret: the shortest, and of several the first. -/
def innermost? (o : Outline) (caret : Nat) : Option DeclaredType :=
  (o.types.filter (·.span.contains caret)).foldl shorter none

/-- What a caret points at in a type: a property there, nothing in another member, and elsewhere
the type itself if it has members. -/
def targetIn (t : DeclaredType) (caret : Nat) : Target :=
  match t.placed.find? (·.span.contains caret) with
  | some p => .property p t
  | none =>
    if t.memberSpans.any (·.contains caret) || !t.decl.hasMembers then .nothing else .type t

/-- What a caret points at. -/
def locate (o : Outline) (caret : Nat) : Target :=
  match o.innermost? caret with
  | some t => targetIn t caret
  | none => .nothing

/-- A property of a selection with its place and its type. -/
structure Selected where
  /-- The place. -/
  span : Span
  /-- The property. -/
  property : Property
  /-- The type that declares it. -/
  declaring : TypeDecl
  deriving Repr

/-- The properties whose spans meet the carets from `first` to `last`, in the order of the text. -/
def propertiesIn (o : Outline) (first last : Nat) : List Selected :=
  let found := o.types.flatMap fun t =>
    (t.placed.filter (·.span.meets first last)).map fun p => ⟨p.span, p.toProperty, t.decl⟩
  found.mergeSort fun a b => a.span.start ≤ b.span.start

end Outline

end ViewForge
