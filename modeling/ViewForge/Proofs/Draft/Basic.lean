import ViewForge.Proofs.Model.Identity
import ViewForge.Proofs.Text.Character
import ViewForge.Proofs.TypeExpr.Phrase

/-!
# Drafts of documents

A draft says what a document declares without regard to the language that it is written in:
namespaces, and in them classes, structures and enumerations with type parameters, base types,
properties and further types (`FileDraft`). Its declarations are what every language should find in
it (`FileDraft.decls`); a language only decides how type phrases are spelled and whether letter case
counts.
-/

namespace ViewForge

/-! ## Names -/

/-- Whether a text is a name in every language. -/
structure IsIdentifier (name : List Char) : Prop where
  /-- It begins with a letter or an underscore. -/
  begins : ∃ c ∈ name.head?, (Text.isAlphabetic c || c == '_') = true
  /-- It is made of word characters. -/
  letters : ∀ c ∈ name, Text.isWord c = true

theorem isIdentifier_iff {name : List Char} :
    IsIdentifier name ↔ (name.head?.any fun c => Text.isAlphabetic c || c == '_') = true ∧
      name.all Text.isWord = true := by
  rw [Option.any_eq_true, List.all_eq_true]
  exact ⟨fun h => ⟨h.begins, h.letters⟩, fun h => ⟨h.1, h.2⟩⟩

instance : DecidablePred IsIdentifier := fun _ => decidable_of_iff' _ isIdentifier_iff

/-- A name in every language. -/
abbrev Identifier := { name : List Char // IsIdentifier name }

/-- Whether all words of a phrase are names. -/
def TypePhrase.IsPlain (t : TypePhrase) : Prop :=
  ∀ s w, Piece.word w ∈ t.pieces s → IsIdentifier w.1.toList

/-- A type phrase that is made of names. -/
abbrev PhraseDraft := { t : TypePhrase // t.IsPlain }

/-! ## Properties -/

/-- From where a property can be used, as it is written. -/
inductive Visibility where
  | everywhere
  | derived
  | assembly
  | derivedOrAssembly
  | derivedInAssembly
  | inside
  deriving DecidableEq

/-- The grade of access of a visibility. There is none for derived classes of the assembly only; it
counts as that for derived classes. -/
def Visibility.access : Visibility → Access
  | everywhere => .everywhere
  | derived | derivedInAssembly => .derived
  | assembly => .assembly
  | derivedOrAssembly => .derivedOrAssembly
  | inside => .inside

/-- How a property is read and set. -/
inductive PropertyForm where
  /-- Both without bodies. -/
  | auto
  /-- Read without a body. -/
  | readOnlyAuto
  /-- Both with bodies. -/
  | getSet
  /-- Both, but set from inside only. -/
  | getPrivateSet
  /-- Read with a body. -/
  | getOnly
  /-- Set with a body. -/
  | setOnly
  deriving DecidableEq

namespace PropertyForm

/-- Whether the property can be read. -/
def hasGetter : PropertyForm → Bool
  | setOnly => false
  | _ => true

/-- Whether the property can be set from outside. -/
def hasSetter : PropertyForm → Bool
  | auto | getSet | setOnly => true
  | readOnlyAuto | getPrivateSet | getOnly => false

end PropertyForm

/-- A property. -/
structure PropertyDraft where
  /-- From where it can be used. -/
  visibility : Visibility
  /-- Whether it belongs to the type. -/
  isShared : Bool
  /-- The type. -/
  type : PhraseDraft
  /-- The name. -/
  name : Identifier
  /-- How it is read and set. -/
  form : PropertyForm

/-! ## Types -/

/-- The word of a line of base types in Visual Basic. -/
inductive BaseWord where
  | inherits
  | implements
  deriving DecidableEq

/-- Base types that stand together, of which there is at least one. -/
structure BaseLine where
  /-- The word before them in Visual Basic. -/
  word : BaseWord
  /-- The first. -/
  first : PhraseDraft
  /-- The others. -/
  rest : List PhraseDraft

/-- The base types of a line. -/
def BaseLine.types (line : BaseLine) : List PhraseDraft := line.first :: line.rest

/-- What stands before the body of a class or structure. -/
structure TypeHead where
  /-- Whether it is a structure. -/
  isStructure : Bool
  /-- The name. -/
  name : Identifier
  /-- The type parameters. -/
  parameters : List Identifier
  /-- The base types. -/
  bases : List BaseLine

namespace TypeHead

/-- The kind of the type. -/
def kind (head : TypeHead) : TypeKind := if head.isStructure then .struct else .class

/-- All base types in order. -/
def baseTypes (head : TypeHead) : List PhraseDraft := head.bases.flatMap BaseLine.types

end TypeHead

mutual

/-- A type. -/
inductive TypeDraft where
  /-- An enumeration with its members. -/
  | enum (name : Identifier) (members : List Identifier)
  /-- A class or structure. -/
  | type (head : TypeHead) (body : BodyDraft)

/-- What stands in a class or structure. -/
inductive BodyDraft where
  /-- Nothing more. -/
  | done
  /-- A property, and more. -/
  | property (p : PropertyDraft) (more : BodyDraft)
  /-- A type, and more. -/
  | nested (t : TypeDraft) (more : BodyDraft)

end

/-- What stands in a document or namespace. -/
inductive FileDraft where
  /-- Nothing more. -/
  | done
  /-- A type, and more. -/
  | type (t : TypeDraft) (more : FileDraft)
  /-- A namespace, its last name behind others, and more. -/
  | space (lead : List Identifier) (last : Identifier) (inner more : FileDraft)

/-! ## What is declared -/

/-- How a language spells type phrases. -/
def Language.style : Language → Style
  | csharp => .angled
  | visualBasic => .round

/-- The text of a phrase in a language. -/
def PhraseDraft.text (l : Language) (t : PhraseDraft) : String := String.ofList (t.1.text l.style)

/-- The text of a name. -/
def Identifier.text (name : Identifier) : String := String.ofList name.1

/-- The property that is declared in a language. -/
def PropertyDraft.toProperty (l : Language) (p : PropertyDraft) : Property where
  name := p.name.text
  typeText := p.type.text l
  isStatic := p.isShared
  hasGetter := p.form.hasGetter
  hasSetter := p.form.hasSetter
  access := p.visibility.access

/-- The properties of a body. -/
def BodyDraft.properties (l : Language) : BodyDraft → List Property
  | done => []
  | property p more => p.toProperty l :: more.properties l
  | nested _ more => more.properties l

/-- The scope inside a type or namespace of a scope. -/
def within (scope : Option String) (name : String) : Option String :=
  match scope with
  | none => some name
  | some scope => some (scope ++ "." ++ name)

/-- The class or structure that is declared in a language, with its properties. -/
def TypeHead.toDecl (l : Language) (scope : Option String) (properties : List Property)
    (head : TypeHead) : TypeDecl where
  name := head.name.text
  scope := scope
  kind := head.kind
  bases := head.baseTypes.map (·.text l)
  parameters := head.parameters.map (·.text)
  properties := properties
  ignoresCase := l.ignoresCase

mutual

/-- The types that a type declares in a scope: itself, and those inside it. -/
def TypeDraft.decls (l : Language) (scope : Option String) : TypeDraft → List TypeDecl
  | .enum name members =>
    [{ name := name.text, scope, kind := .enum, members := members.map (·.text),
       ignoresCase := l.ignoresCase }]
  | .type head body =>
    head.toDecl l scope (body.properties l) :: body.decls l (within scope head.name.text)

/-- The types that a body declares in a scope. -/
def BodyDraft.decls (l : Language) (scope : Option String) : BodyDraft → List TypeDecl
  | .done => []
  | .property _ more => more.decls l scope
  | .nested t more => t.decls l scope ++ more.decls l scope

end

/-- The types that a document or namespace declares in a scope. -/
def FileDraft.decls (l : Language) (scope : Option String) : FileDraft → List TypeDecl
  | .done => []
  | .type t more => t.decls l scope ++ more.decls l scope
  | .space lead last inner more =>
    inner.decls l ((lead ++ [last]).foldl (fun scope name => within scope name.text) scope) ++
      more.decls l scope

/-! ## Facts about names and scopes -/

namespace IsIdentifier

variable {name : List Char} (h : IsIdentifier name)

include h

theorem ne_nil : name ≠ [] := by
  obtain ⟨c, hc, -⟩ := h.begins
  rintro rfl
  exact nomatch hc

theorem isBlank_eq_false : ∀ c ∈ name, Text.isBlank c = false :=
  fun c hc => Text.isBlank_eq_false_of_isWord (h.letters c hc)

/-- A name has no white space around it. -/
theorem trim_eq_self : Text.trim name = name :=
  Text.trim_eq_self (fun c hc => h.isBlank_eq_false c (List.mem_of_mem_head? hc))
    (fun c hc => h.isBlank_eq_false c (List.mem_of_getLast? hc))

end IsIdentifier

theorem TypeHead.kind_eq_or (head : TypeHead) : head.kind = .class ∨ head.kind = .struct := by
  unfold TypeHead.kind
  cases head.isStructure with
  | false => exact .inl rfl
  | true => exact .inr rfl

/-- A class or structure is of no other kind. -/
theorem TypeHead.kind_ne (head : TypeHead) {kind : TypeKind} (hclass : .class ≠ kind)
    (hstruct : .struct ≠ kind) : head.kind ≠ kind := by
  rcases head.kind_eq_or with hkind | hkind
  · rwa [hkind]
  · rwa [hkind]

namespace TypePhrase

theorem mem_dotted {w last : TypeWord} {lead : List TypeWord} (h : w ∈ lead ++ [last]) :
    Piece.word w ∈ dotted lead last := by
  unfold dotted
  rcases List.mem_append.1 h with hlead | hlast
  · exact List.mem_append_left _ (List.mem_flatMap.2 ⟨w, hlead, List.mem_cons_self⟩)
  · rw [List.mem_singleton.1 hlast]
    exact List.mem_append_right _ (List.mem_singleton.2 rfl)

/-- The segments of a plain name are names. -/
theorem IsPlain.segment {lead : List TypeWord} {last : TypeWord} {args : List TypePhrase}
    (h : (name lead last args).IsPlain) : ∀ w ∈ lead ++ [last], IsIdentifier w.1.toList :=
  fun w hw => h .angled w (List.mem_append_left _ (mem_dotted hw))

/-- The element of a plain array is plain. -/
theorem IsPlain.element {t : TypePhrase} {n : Nat} (h : (array t n).IsPlain) : t.IsPlain :=
  fun s w hw => h s w (List.mem_append_left _ hw)

/-- What is nullable in a plain phrase is plain. -/
theorem IsPlain.inner {t : TypePhrase} (h : (nullable t).IsPlain) : t.IsPlain :=
  fun s w hw => h s w (List.mem_append_left _ hw)

end TypePhrase

/-- The scope of a path is that of its names behind another scope. -/
theorem scopeOf_append (path : List String) {names : List String} (hnames : names ≠ []) :
    CSharp.scopeOf (path ++ names) = within (CSharp.scopeOf path) (".".intercalate names) := by
  have hsome : (path ++ names).isEmpty = false := by simp [hnames]
  unfold CSharp.scopeOf
  rw [hsome]
  cases path with
  | nil => rfl
  | cons name path =>
    have hjoin := String.intercalate_append_of_ne_nil (List.cons_ne_nil name path) hnames (s := ".")
    simp only [Bool.false_eq_true, if_false, List.isEmpty_cons, hjoin, within]

/-- One name behind another scope. -/
theorem scopeOf_append_singleton (path : List String) (name : String) :
    CSharp.scopeOf (path ++ [name]) = within (CSharp.scopeOf path) name := by
  rw [scopeOf_append path (List.cons_ne_nil name [])]
  rfl

/-- Names one after the other behind another scope. -/
theorem scopeOf_append_eq_foldl (path : List String) (names : List Identifier) :
    CSharp.scopeOf (path ++ names.map (·.text)) =
      names.foldl (fun scope name => within scope name.text) (CSharp.scopeOf path) := by
  induction names generalizing path with
  | nil => rw [List.map_nil, List.append_nil, List.foldl_nil]
  | cons name names ih =>
    have hmore := ih (path ++ [name.text])
    rw [scopeOf_append_singleton, List.append_assoc] at hmore
    exact hmore

end ViewForge
