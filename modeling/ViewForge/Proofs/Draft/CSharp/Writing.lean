import ViewForge.Proofs.CSharp.Printed
import ViewForge.Proofs.Draft.Basic

/-!
# Drafts written in C#

A draft is written in C# one declaration on a line, bodies between braces, and with the syntax tree
that the grammar has for it (`FileDraft.printed`). A parser reads the draft if it makes this tree of
the text (`FileDraft.IsParsed`). What the grammar calls the types of properties and base types and
what is inside them, inside names and inside the bodies of accessors is left open.
-/

namespace ViewForge

open CSharp (Printed Label)
open CSharp.Printed (keyword)

/-! ## Pieces -/

/-- What the grammar may call a type. -/
def typeKinds : List String :=
  ["identifier", "generic_name", "qualified_name", "alias_qualified_name", "predefined_type",
   "implicit_type", "array_type", "nullable_type", "tuple_type", "pointer_type",
   "function_pointer_type", "ref_type", "scoped_type"]

/-- Pieces with a space behind each. -/
def spacedPieces (ps : List Printed) : List Printed := ps.flatMap fun p => [p, .blank ' ']

/-- Pieces with a comma and a space between them. -/
def listedPieces : List Printed → List Printed
  | [] => []
  | p :: ps => p :: ps.flatMap fun q => [keyword ",", .blank ' ', q]

/-- A line at a depth. -/
def linePieces (depth : Nat) (ps : List Printed) : List Printed :=
  List.replicate (4 * depth) (.blank ' ') ++ (ps ++ [.blank '\n'])

/-- A body of a kind, whose closing brace stands at a depth. -/
def bodyPiece (kind : String) (depth : Nat) (inner : List Printed) : Printed :=
  .node { kinds := [kind], roles := [some "body"] }
    (keyword "\x7b" :: .blank '\n' ::
      (inner ++ (List.replicate (4 * depth) (.blank ' ') ++ [keyword "\x7d"])))

/-- A modifier. -/
def modifierPiece (word : String) : Printed := .leaf { kinds := ["modifier"] } word.toList

/-- The name of what is declared. -/
def Identifier.piece (name : Identifier) : Printed :=
  .leaf { kinds := ["identifier"], roles := [some "name"] } name.1

/-- A type that is something to what is around it. -/
def PhraseDraft.piece (roles : List (Option String)) (t : PhraseDraft) : Printed :=
  .leaf { kinds := typeKinds, roles } (t.1.text .angled)

/-! ## Properties -/

/-- The words of a visibility in C#. -/
def Visibility.words : Visibility → List String
  | everywhere => ["public"]
  | derived => ["protected"]
  | assembly => ["internal"]
  | derivedOrAssembly => ["protected", "internal"]
  | derivedInAssembly => ["private", "protected"]
  | inside => ["private"]

/-- The modifiers of a property in C#. -/
def PropertyDraft.modifiers (p : PropertyDraft) : List String :=
  p.visibility.words ++ if p.isShared then ["static"] else []

/-- An accessor. -/
structure AccessorDraft where
  /-- Its modifiers. -/
  modifiers : List String := []
  /-- Its word. -/
  word : String
  /-- Its body, if it has one. -/
  body : Option String := none

/-- What an accessor ends with: its body, or a semicolon. -/
def AccessorDraft.ending (a : AccessorDraft) : Printed :=
  match a.body with
  | some body => .leaf { kinds := ["block"], roles := [some "body"] } body.toList
  | none => keyword ";"

/-- How an accessor is written. -/
def AccessorDraft.piece (a : AccessorDraft) : Printed :=
  .node { kinds := ["accessor_declaration"] }
    (spacedPieces (a.modifiers.map modifierPiece) ++ keyword a.word [none, some "name"] ::
      ((if a.body.isSome then [.blank ' '] else []) ++ [a.ending]))

/-- A getter with a body. -/
def getterDraft : AccessorDraft := { word := "get", body := some "{ return default; }" }

/-- A setter with a body. -/
def setterDraft : AccessorDraft := { word := "set", body := some "{ }" }

/-- The accessors of a form. -/
def PropertyForm.accessors : PropertyForm → List AccessorDraft
  | auto => [{ word := "get" }, { word := "set" }]
  | readOnlyAuto => [{ word := "get" }]
  | getSet => [getterDraft, setterDraft]
  | getPrivateSet => [{ word := "get" }, { modifiers := ["private"], word := "set" }]
  | getOnly => [getterDraft]
  | setOnly => [setterDraft]

/-- The accessors between braces. -/
def PropertyForm.piece (form : PropertyForm) : Printed :=
  .node { kinds := ["accessor_list"], roles := [some "accessors"] }
    (keyword "\x7b" :: .blank ' ' ::
      (spacedPieces (form.accessors.map AccessorDraft.piece) ++ [keyword "\x7d"]))

/-- How a property is written. -/
def PropertyDraft.piece (p : PropertyDraft) : Printed :=
  .node { kinds := ["property_declaration"] }
    (spacedPieces (p.modifiers.map modifierPiece) ++
      [p.type.piece [some "type"], .blank ' ', p.name.piece, .blank ' ', p.form.piece])

/-! ## Types -/

/-- A type parameter. -/
def Identifier.parameterPiece (name : Identifier) : Printed :=
  .node { kinds := ["type_parameter"] } [name.piece]

/-- Type parameters between angle brackets. Their list may have a role or none. -/
def parameterPiece (names : List Identifier) : Printed :=
  .node { kinds := ["type_parameter_list"], roles := [none, some "type_parameters"] }
    (keyword "<" :: (listedPieces (names.map (·.parameterPiece)) ++ [keyword ">"]))

/-- The type parameters of a type, if there are any. -/
def parameterPieces (names : List Identifier) : List Printed :=
  if names.isEmpty then [] else [parameterPiece names]

/-- Base types behind a colon. Their list may have a role or none. -/
def basePiece (bases : List PhraseDraft) : Printed :=
  .node { kinds := ["base_list"], roles := [none, some "bases"] }
    (keyword ":" :: .blank ' ' :: listedPieces (bases.map (·.piece [none, some "type"])))

/-- The base types of a type, if there are any. -/
def basePieces (bases : List PhraseDraft) : List Printed :=
  if bases.isEmpty then [] else [.blank ' ', basePiece bases]

/-- The word for a class or structure. -/
def TypeHead.keyword (head : TypeHead) : String := if head.isStructure then "struct" else "class"

/-- What the grammar calls a class or structure. -/
def TypeHead.nodeKind (head : TypeHead) : String :=
  if head.isStructure then "struct_declaration" else "class_declaration"

/-- What a class or structure with a body is made of. -/
def TypeHead.printed (head : TypeHead) (body : Printed) : List Printed :=
  modifierPiece "public" :: .blank ' ' :: CSharp.Printed.keyword head.keyword :: .blank ' ' ::
    head.name.piece ::
      (parameterPieces head.parameters ++ (basePieces head.baseTypes ++ [.blank ' ', body]))

/-- A class or structure with a body. -/
def TypeHead.piece (head : TypeHead) (body : Printed) : Printed :=
  .node { kinds := [head.nodeKind] } (head.printed body)

/-- A member of an enumeration. -/
def Identifier.memberPiece (name : Identifier) : Printed :=
  .node { kinds := ["enum_member_declaration"] } [name.piece]

/-- The lines of the members of an enumeration. -/
def memberPieces (depth : Nat) (members : List Identifier) : List Printed :=
  members.flatMap fun m => linePieces depth [m.memberPiece, keyword ","]

/-- An enumeration. -/
def enumPiece (depth : Nat) (name : Identifier) (members : List Identifier) : Printed :=
  .node { kinds := ["enum_declaration"] }
    [modifierPiece "public", .blank ' ', keyword "enum", .blank ' ', name.piece, .blank ' ',
      bodyPiece "enum_member_declaration_list" depth (memberPieces (depth + 1) members)]

mutual

/-- How a type is written. -/
def TypeDraft.piece (depth : Nat) : TypeDraft → Printed
  | .enum name members => enumPiece depth name members
  | .type head body => head.piece (bodyPiece "declaration_list" depth (body.printed (depth + 1)))

/-- The lines of a body. -/
def BodyDraft.printed (depth : Nat) : BodyDraft → List Printed
  | .done => []
  | .property p more => linePieces depth [p.piece] ++ more.printed depth
  | .nested t more => linePieces depth [t.piece depth] ++ more.printed depth

end

/-! ## Documents -/

/-- The name of a namespace. -/
def spaceName (names : List Identifier) : Printed :=
  .leaf { kinds := ["identifier", "qualified_name"], roles := [some "name"] }
    (['.'].intercalate (names.map (·.1)))

/-- A namespace. -/
def spacePiece (depth : Nat) (names : List Identifier) (inner : List Printed) : Printed :=
  .node { kinds := ["namespace_declaration"] }
    [keyword "namespace", .blank ' ', spaceName names, .blank ' ',
      bodyPiece "declaration_list" depth inner]

namespace FileDraft

/-- The lines of a document or namespace. -/
def printed (depth : Nat) : FileDraft → List Printed
  | done => []
  | type t more => linePieces depth [t.piece depth] ++ more.printed depth
  | space lead last inner more =>
    linePieces depth [spacePiece depth (lead ++ [last]) (inner.printed (depth + 1))] ++
      more.printed depth

/-- The text of a document in C#. -/
def csharpText (f : FileDraft) : String := String.ofList (Printed.textAll (f.printed 0))

/-- A parser makes of the text the syntax tree that the grammar has for it. -/
def IsParsed [CSharp.Parser] (f : FileDraft) : Prop :=
  Printed.areNodes (.ofText f.csharpText) (f.printed 0)
    (CSharp.Parser.parse f.csharpText).children = true

end FileDraft

end ViewForge
