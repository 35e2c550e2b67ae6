import ViewForge.CSharp.Reader
import ViewForge.Proofs.Draft.CSharp.Reading
import ViewForge.Proofs.Draft.VisualBasic.Reading

/-!
# Outlines of one draft in two languages

A draft that is written as a document of either language (`FileDraft.document`) is outlined as the
types that it declares (`outline_document`), in C# if the parser makes the tree of it that the
grammar has. What it declares in one language agrees with what it
declares in the other (`agrees_fileDraft`): only the spelling of types and whether letter case
counts depend on the language, and the spellings of a phrase denote one type.
-/

namespace ViewForge

/-! ## Agreement -/

/-- Whether two texts denote the same type. -/
def SameType (a b : String) : Prop := ∃ t, TypeExpr.parse? a = some t ∧ TypeExpr.parse? b = some t

/-- Whether two properties are the same but for the spelling of their types. -/
structure Property.Agrees (p q : Property) : Prop where
  name : p.name = q.name
  type : SameType p.typeText q.typeText
  isStatic : p.isStatic = q.isStatic
  hasGetter : p.hasGetter = q.hasGetter
  hasSetter : p.hasSetter = q.hasSetter
  access : p.access = q.access

/-- Whether two declarations are the same but for the spelling of types and for whether letter case
counts. -/
structure TypeDecl.Agrees (a b : TypeDecl) : Prop where
  name : a.name = b.name
  scope : a.scope = b.scope
  kind : a.kind = b.kind
  bases : List.Forall₂ SameType a.bases b.bases
  parameters : a.parameters = b.parameters
  properties : List.Forall₂ Property.Agrees a.properties b.properties
  members : a.members = b.members
  origin : a.origin = b.origin

section Languages

variable (l l' : Language)

/-- A phrase denotes the same type in either language. -/
theorem sameType_phrase (t : PhraseDraft) : SameType (t.text l) (t.text l') :=
  ⟨t.1.type, t.1.parse?_text l.style, t.1.parse?_text l'.style⟩

theorem agrees_property (p : PropertyDraft) : (p.toProperty l).Agrees (p.toProperty l') where
  name := rfl
  type := sameType_phrase l l' p.type
  isStatic := rfl
  hasGetter := rfl
  hasSetter := rfl
  access := rfl

theorem agrees_properties (b : BodyDraft) :
    List.Forall₂ Property.Agrees (b.properties l) (b.properties l') := by
  cases b with
  | done => exact .nil
  | property p more => exact .cons (agrees_property l l' p) (agrees_properties more)
  | nested _ more => exact agrees_properties more

theorem agrees_toDecl (scope : Option String) {ps qs : List Property}
    (h : List.Forall₂ Property.Agrees ps qs) (head : TypeHead) :
    (head.toDecl l scope ps).Agrees (head.toDecl l' scope qs) where
  name := rfl
  scope := rfl
  kind := rfl
  bases := by
    refine List.forall₂_map_left_iff.2 (List.forall₂_map_right_iff.2 (List.forall₂_same.2 ?_))
    exact fun t _ => sameType_phrase l l' t
  parameters := rfl
  properties := h
  members := rfl
  origin := rfl

theorem agrees_enum (scope : Option String) (name : Identifier) (members : List Identifier) :
    List.Forall₂ TypeDecl.Agrees ((TypeDraft.enum name members).decls l scope)
      ((TypeDraft.enum name members).decls l' scope) :=
  .cons ⟨rfl, rfl, rfl, .nil, rfl, .nil, rfl, rfl⟩ .nil

mutual

theorem agrees_typeDraft : ∀ (scope : Option String) (t : TypeDraft),
    List.Forall₂ TypeDecl.Agrees (t.decls l scope) (t.decls l' scope)
  | scope, .enum name members => agrees_enum l l' scope name members
  | scope, .type head body =>
    .cons (agrees_toDecl l l' scope (agrees_properties l l' body) head)
      (agrees_bodyDraft (within scope head.name.text) body)

theorem agrees_bodyDraft : ∀ (scope : Option String) (b : BodyDraft),
    List.Forall₂ TypeDecl.Agrees (b.decls l scope) (b.decls l' scope)
  | _, .done => .nil
  | scope, .property _ more => agrees_bodyDraft scope more
  | scope, .nested t more =>
    List.rel_append (agrees_typeDraft scope t) (agrees_bodyDraft scope more)

end

/-- A draft declares the same types in either language. -/
theorem agrees_fileDraft (scope : Option String) (f : FileDraft) :
    List.Forall₂ TypeDecl.Agrees (f.decls l scope) (f.decls l' scope) := by
  induction f generalizing scope with
  | done => exact .nil
  | type t more ih => exact List.rel_append (agrees_typeDraft l l' scope t) (ih scope)
  | space lead last inner more ihinner ihmore =>
    exact List.rel_append (ihinner _) (ihmore scope)

end Languages

/-! ## Documents -/

namespace FileDraft

/-- The text of a draft in a language. -/
def text (f : FileDraft) : Language → String
  | .csharp => f.csharpText
  | .visualBasic => String.ofList ((f.lines 0).flatMap (· ++ ['\n']))

/-- The document that a draft makes in a language. -/
def document (f : FileDraft) (l : Language) : Document := ⟨l, f.text l⟩

section Outline

variable [CSharp.Parser] {f : FileDraft} (hf : f.IsParsed)

include hf

/-- The outline of a written draft is what the draft declares. -/
theorem outline_document (l : Language) :
    (f.document l).outline.types.map (·.decl) = f.decls l none := by
  cases l with
  | csharp => exact outline_fileDraft hf
  | visualBasic =>
    have htoList : (f.text .visualBasic).toList = (f.lines 0).flatMap (· ++ ['\n']) :=
      String.toList_ofList
    have houtline := VisualBasic.outline_fileDraft f
    rw [← htoList] at houtline
    exact houtline

/-- The outlines of one draft written in either language show the types that it declares, and
agree type by type, if the parser reads what is written in C#. -/
theorem outlines_agree :
    (∀ l, (f.document l).outline.types.map (·.decl) = f.decls l none) ∧
      List.Forall₂ TypeDecl.Agrees ((f.document .csharp).outline.types.map (·.decl))
        ((f.document .visualBasic).outline.types.map (·.decl)) := by
  refine ⟨outline_document hf, ?_⟩
  rw [outline_document hf, outline_document hf]
  exact agrees_fileDraft .csharp .visualBasic none f

end Outline

/-- The word for lists. -/
def listWord : TypeWord :=
  ⟨"List", TypeExpr.isName_of_all (by decide +kernel) (by decide +kernel)⟩

/-- The word for orders. -/
def orderWord : TypeWord :=
  ⟨"Order", TypeExpr.isName_of_all (by decide +kernel) (by decide +kernel)⟩

/-- The phrase for lists of orders. -/
def ordersPhrase : PhraseDraft where
  val := .name [] listWord [.name [] orderWord []]
  property := by
    intro s w hw
    have hword : w = listWord ∨ w = orderWord := by
      cases s <;>
        simpa [TypePhrase.pieces, TypePhrase.piecesAll, TypePhrase.dotted, TypePhrase.applied,
          Style.openArgs, Style.closeArgs] using hw
    rcases hword with rfl | rfl
    · exact (by decide +kernel : IsIdentifier "List".toList)
    · exact (by decide +kernel : IsIdentifier "Order".toList)

/-- A class with a list of orders, in a namespace. -/
def ordersDraft : FileDraft :=
  let items : PropertyDraft :=
    { visibility := .everywhere, isShared := false, type := ordersPhrase
      name := ⟨"Items".toList, by decide +kernel⟩, form := .auto }
  let page : TypeHead :=
    { isStructure := false, name := ⟨"Page".toList, by decide +kernel⟩, parameters := []
      bases := [] }
  .space [] ⟨"Shop".toList, by decide +kernel⟩ (.type (.type page (.property items .done)) .done)
    .done

/-- Orders are listed in C# as in Visual Basic. -/
theorem outlines_agree_ordersDraft :
    ordersDraft.IsParsed ∧
      List.Forall₂ TypeDecl.Agrees ((ordersDraft.document .csharp).outline.types.map (·.decl))
        ((ordersDraft.document .visualBasic).outline.types.map (·.decl)) := by
  have hparsed : ordersDraft.IsParsed := by
    unfold IsParsed
    decide +kernel
  exact ⟨hparsed, (outlines_agree hparsed).2⟩

end FileDraft

end ViewForge
