import ViewForge.Model.Declaration
import ViewForge.Text.LetterCase

/-!
# Catalogs of declared types

A catalog holds declared types in the order of their first part. A reference is resolved by name
and arity; its namespace, then the namespace it is written in, choose among namesakes. Catalogs
are layered into a model, in which the first layer that knows a name answers.
-/

namespace ViewForge

/-- Declared types, each whole, in the order in which they were first met. -/
structure Catalog where
  /-- The types. -/
  types : List TypeDecl := []
  deriving Repr

namespace Catalog

/-- Whether two names are the same up to letter case. -/
def sameName (a b : String) : Bool := Text.lowercase a == Text.lowercase b

/-- Whether a declaration is a part of a stored type. -/
def isPartOf (t stored : TypeDecl) : Bool := sameName stored.name t.name && stored.isSameType t

/-- Folds a declaration into the first type of which it is a part, or puts it at the end. -/
def insertInto (t : TypeDecl) : List TypeDecl → List TypeDecl
  | [] => [t]
  | stored :: rest =>
    if isPartOf t stored then stored.merge t :: rest else stored :: insertInto t rest

/-- A catalog with one more declaration. -/
def insert (c : Catalog) (t : TypeDecl) : Catalog := ⟨insertInto t c.types⟩

/-- The catalog of a list of declarations. -/
def ofList (ts : List TypeDecl) : Catalog := ts.foldl insert {}

/-- The stored type of which a declaration is a part. -/
def find? (c : Catalog) (t : TypeDecl) : Option TypeDecl := c.types.find? (isPartOf t)

/-- The first type of exactly this name. -/
def get? (c : Catalog) (name : String) : Option TypeDecl := c.types.find? (·.name == name)

/-- The types that a name with so many arguments can mean, those of the same spelling first. -/
def candidates (c : Catalog) (name : String) (arity : Nat) (anyCase : Bool) : List TypeDecl :=
  let found := c.types.filter fun t =>
    t.arity == arity && (if anyCase then sameName t.name name else t.name == name)
  found.filter (·.name == name) ++ found.filter (·.name != name)

/-- A name as it is compared. -/
def fold (anyCase : Bool) (name : String) : String :=
  if anyCase then Text.lowercase name else name

/-- Whether a scope is a namespace or ends in it after a point. -/
def scopeFits (anyCase : Bool) (qualifier : String) (t : TypeDecl) : Bool :=
  match t.scope with
  | some scope =>
    let scope := (fold anyCase scope).toList
    let qualifier := (fold anyCase qualifier).toList
    scope == qualifier || ('.' :: qualifier).isSuffixOf scope
  | none => false

/-- Whether two types are declared in the same namespace, which both name. -/
def sharesScope (anyCase : Bool) (context t : TypeDecl) : Bool :=
  match context.scope, t.scope with
  | some scope, some scope' => fold anyCase scope == fold anyCase scope'
  | _, _ => false

/-- The type that a reference written in `context` means. -/
def resolve (c : Catalog) (reference : TypeExpr) (context : Option TypeDecl) : Option TypeDecl :=
  match reference with
  | .named qualifier name args =>
    let anyCase := context.any (·.ignoresCase)
    let found := c.candidates name args.length anyCase
    let qualified := qualifier.bind fun q => found.find? (scopeFits anyCase q)
    let near := context.bind fun around => found.find? (sharesScope anyCase around)
    qualified.or (near.or found.head?)
  | _ => none

end Catalog

/-- Catalogs in the order in which they are asked. -/
structure Model where
  /-- The layers, nearest first. -/
  layers : List Catalog
  deriving Repr

namespace Model

/-- The type that a reference written in `context` means: the answer of the first layer that has
one. -/
def resolve (m : Model) (reference : TypeExpr) (context : Option TypeDecl) : Option TypeDecl :=
  m.layers.findSome? (·.resolve reference context)

/-- All types of all layers. -/
def types (m : Model) : List TypeDecl := m.layers.flatMap (·.types)

end Model

/-- A catalog whose types take in the parts that a model declares elsewhere. -/
def Catalog.mergePartsFrom (c : Catalog) (m : Model) : Catalog :=
  ⟨c.types.map fun t =>
    match (m.resolve t.reference (some t)).filter (·.isSameType t) with
    | some part => t.merge part
    | none => t⟩

end ViewForge
