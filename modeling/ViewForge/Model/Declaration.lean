import ViewForge.TypeExpr.Parser

/-!
# Declarations

Types and properties as a program declares them, without regard to the language they are written
in. A type may be declared in parts, which are folded into one.
-/

namespace ViewForge

/-- The kind of a declared type. -/
inductive TypeKind where
  | «class»
  | struct
  | record
  | interface
  | enum
  /-- A module, whose members are all shared. -/
  | module
  deriving Repr, DecidableEq

namespace TypeKind

/-- All kinds. -/
def all : List TypeKind := [.class, .struct, .record, .interface, .enum, .module]

/-- The word for a kind. -/
def word : TypeKind → String
  | .class => "class"
  | .struct => "struct"
  | .record => "record"
  | .interface => "interface"
  | .enum => "enum"
  | .module => "module"

/-- The kind that a word names. -/
def ofWord? (word : String) : Option TypeKind := all.find? (·.word == word)

end TypeKind

/-- From where a member can be used. -/
inductive Access where
  | everywhere
  | derived
  | assembly
  | derivedOrAssembly
  | inside
  deriving Repr, DecidableEq

namespace Access

/-- All grades of access. -/
def all : List Access := [.everywhere, .derived, .assembly, .derivedOrAssembly, .inside]

/-- The word for a grade of access. -/
def word : Access → String
  | .everywhere => "public"
  | .derived => "protected"
  | .assembly => "internal"
  | .derivedOrAssembly => "protected_internal"
  | .inside => "private"

/-- The grade of access that a word names. -/
def ofWord? (word : String) : Option Access := all.find? (·.word == word)

end Access

/-- Where a type was found. -/
inductive Origin where
  /-- In a source document. -/
  | source
  /-- In the description of an assembly. -/
  | metadata (assembly : String)
  deriving Repr, DecidableEq

/-- A property of a declared type. -/
structure Property where
  /-- The name. -/
  name : String
  /-- The type as it is written. -/
  typeText : String
  /-- Whether the property belongs to the type and not to its instances. -/
  isStatic : Bool := false
  /-- Whether it can be read. -/
  hasGetter : Bool := true
  /-- Whether it can be set from outside. -/
  hasSetter : Bool := true
  /-- From where it can be used. -/
  access : Access := .everywhere
  deriving Repr, DecidableEq

namespace Property

/-- A property without an accessible setter is read-only. -/
def isReadOnly (p : Property) : Bool := !p.hasSetter

/-- The type that the property's type text denotes. -/
def type? (p : Property) : Option TypeExpr := TypeExpr.parse? p.typeText

end Property

/-- A declared type. -/
structure TypeDecl where
  /-- The name without namespace and parameters. -/
  name : String
  /-- The namespace, or the names of the types around it behind theirs. -/
  scope : Option String := none
  /-- The kind. -/
  kind : TypeKind
  /-- Base class and interfaces as they are written. -/
  bases : List String := []
  /-- The names of the type parameters. -/
  parameters : List String := []
  /-- The properties in the order of declaration. -/
  properties : List Property := []
  /-- The members of an enumeration in the order of declaration. -/
  members : List String := []
  /-- Where the type was found. -/
  origin : Origin := .source
  /-- Whether names that the type mentions match in any case. -/
  ignoresCase : Bool := false
  deriving Repr, DecidableEq

namespace TypeDecl

/-- Whether the type is an enumeration. -/
def isEnum (t : TypeDecl) : Bool := t.kind == .enum

/-- Whether the members of the type can be expanded: it is a class, structure or record. -/
def hasMembers (t : TypeDecl) : Bool :=
  t.kind == .class || t.kind == .struct || t.kind == .record

/-- The scope, unless it is empty. -/
def scope? (t : TypeDecl) : Option String := t.scope.filter (· != "")

/-- The name behind its scope. -/
def fullName (t : TypeDecl) : String :=
  match t.scope? with
  | some scope => scope ++ "." ++ t.name
  | none => t.name

/-- The number of type parameters. -/
def arity (t : TypeDecl) : Nat := t.parameters.length

/-- The expression that names the type from anywhere, applied to its own parameters. -/
def reference (t : TypeDecl) : TypeExpr :=
  .named t.scope? t.name (t.parameters.map TypeExpr.bare)

/-- Whether two declarations are parts of one type: the same full name and the same arity. -/
def isSameType (a b : TypeDecl) : Bool :=
  (if a.ignoresCase || b.ignoresCase then Text.equalIgnoringCase a.fullName b.fullName
    else a.fullName == b.fullName) &&
  a.arity == b.arity

/-- A list followed by those of another list that are new to it, judged one after the other. -/
def extend {α : Type} (same : α → α → Bool) (xs ys : List α) : List α :=
  ys.foldl (fun xs y => if xs.any (same · y) then xs else xs ++ [y]) xs

/-- A declaration with another part folded in: what is there by name stays, the rest follows. -/
def merge (a b : TypeDecl) : TypeDecl :=
  { a with
    bases := extend (· == ·) a.bases b.bases
    properties := extend (fun p q => p.name == q.name) a.properties b.properties
    members := extend (· == ·) a.members b.members
    parameters := if a.parameters.isEmpty then b.parameters else a.parameters }

end TypeDecl

end ViewForge
