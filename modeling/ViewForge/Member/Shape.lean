import ViewForge.Model.Catalog

/-!
# The shape of a member

What a member's type is for generation: a leaf, a collection, an enumeration, untyped or a type of
the program, and which members stand behind it.
-/

namespace ViewForge

/-- The broad shape of a type. -/
inductive Category where
  /-- A keyword type or a framework leaf. -/
  | leaf
  /-- An array, or a name with one type argument. -/
  | collection
  /-- An enumeration. -/
  | enum
  /-- The untyped marker. -/
  | dynamic
  /-- Any other type. -/
  | user
  deriving Repr, DecidableEq

namespace Category

/-- All categories. -/
def all : List Category := [.leaf, .collection, .enum, .dynamic, .user]

/-- The word for a category. -/
def word : Category → String
  | .leaf => "Primitive"
  | .collection => "Collection"
  | .enum => "Enum"
  | .dynamic => "Dynamic"
  | .user => "UserType"

/-- The category that a word names. -/
def ofWord? (word : String) : Option Category := all.find? (·.word == word)

end Category

/-- The members behind a type. -/
inductive Inner where
  /-- There are none. -/
  | none
  /-- They are those of a declared type. -/
  | members (t : TypeDecl)
  /-- They are not known: one blank member stands for them. -/
  | unknown
  deriving Repr, DecidableEq

/-- A member as generation sees it. -/
structure Shape where
  /-- The name. -/
  name : String
  /-- Whether it cannot be set. -/
  isReadOnly : Bool
  /-- The broad shape of its type. -/
  category : Category := .user
  /-- The type, if the type text denotes one. -/
  type? : Option TypeExpr := none
  /-- The text of the type. -/
  typeText : String
  /-- The type of the elements of a collection. -/
  element? : Option TypeExpr := none
  /-- The members of an enumeration. -/
  enumMembers : List String := []
  /-- The members behind the type, or behind the elements of a collection. -/
  inner : Inner := .none
  deriving Repr

namespace Shape

/-- A member without a name or type, which stands for members that are not known. -/
def blank : Shape where
  name := ""
  isReadOnly := false
  category := .dynamic
  typeText := ""

/-- Whether the member's type is an enumeration. -/
def isEnum (s : Shape) : Bool := s.category == .enum

/-- The members behind the elements of a collection. -/
def innerOfElement (m : Model) (context : Option TypeDecl) (element : TypeExpr) : Inner :=
  let element := element.withoutNullable
  if element.isDynamic then .unknown
  else if element.isLeaf || element.isArray then .none
  else
    match (m.resolve element context).filter (·.hasMembers) with
    | some t => .members t
    | none => .none

/-- A shape refined by what a type that is not nullable means in a context. -/
def refine (m : Model) (context : Option TypeDecl) (s : Shape) : TypeExpr → Shape
  | .dynamic => { s with category := .dynamic, inner := .unknown }
  | .array element _ =>
    { s with
      category := .collection, element? := some element
      inner := innerOfElement m context element }
  | .tuple _ => s
  | .nullable _ => s
  | .named qualifier name args =>
    let t := TypeExpr.named qualifier name args
    if t.isLeaf then { s with category := .leaf }
    else
      match args with
      | [element] =>
        { s with
          category := .collection, element? := some element
          inner := innerOfElement m context element }
      | _ =>
        match m.resolve t context with
        | some d =>
          if d.isEnum then { s with category := .enum, enumMembers := d.members }
          else if d.hasMembers then { s with inner := .members d }
          else s
        | none => s

/-- The shape of a property that is declared in a context. -/
def ofProperty (m : Model) (context : Option TypeDecl) (p : Property) : Shape :=
  match p.type? with
  | none =>
    { name := p.name, isReadOnly := p.isReadOnly
      typeText := String.ofList (Text.trim p.typeText.toList) }
  | some t =>
    refine m context
      { name := p.name, isReadOnly := p.isReadOnly, type? := some t, typeText := t.render }
      t.withoutNullable

end Shape

end ViewForge
