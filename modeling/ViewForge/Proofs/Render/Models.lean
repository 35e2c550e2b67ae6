import ViewForge.Proofs.Member.Likeness
import ViewForge.Proofs.Render.Call

/-!
# One property over two models

A property of a type is rendered over two models that differ in what they know of its type. If the
answers of the models are of the same kinds, the property is shown over both or over none
(`isSome_rendering?_eq`), since its shapes are alike and get one template. Its renderings are the
same if that template does not ask for the members behind the property
(`rendering?_eq_of_plain`), or if the models show the same from the property on
(`Unaffected.rendering?_eq`).

`SameView` is the invariant behind the last: a set of types, closed under following members, from
each of which both models show the same members with the same shapes. The proof is an induction on
the number of levels that may still be opened.
-/

namespace ViewForge

namespace Render

/-- Whether the template of a property does not ask for what stands behind the property: neither for
the members of its type nor for those of its enumeration. -/
def IsPlain (c : Setting) (p : Property) (declaring : TypeDecl) : Prop :=
  let template := templateFor c false (Shape.ofProperty c.model (some declaring) p)
  Template.mentions template.toList .subProperties = false ∧
    Template.mentions template.toList .enumMembers = false

/-! ## Two models -/

section Models

variable {profile : Profile} {generation : Generation} {m m' : Model} {declaring : TypeDecl}

/-- Over models whose answers are of the same kinds a property gets one template. -/
theorem templateFor_eq (h : m.SameKinds m' (some declaring)) (p : Property) :
    templateFor ⟨profile, m, generation⟩ false (Shape.ofProperty m (some declaring) p) =
      templateFor ⟨profile, m', generation⟩ false (Shape.ofProperty m' (some declaring) p) := by
  unfold templateFor
  rw [(Shape.ofProperty_alike h p).chooseRule_eq]

/-- A member renders something unless its template suppresses it. -/
theorem isSome_renderMember (c : Setting) (expandMembers : Expander) (nested : Bool)
    (member : Shape) (s : State) : (renderMember c expandMembers nested member s).1.isSome =
      !Template.mentions (templateFor c nested member).toList .noOutput := by
  unfold renderMember
  dsimp only
  cases Template.mentions (templateFor c nested member).toList .noOutput <;> rfl

/-- Over models whose answers are of the same kinds a property is shown in both or in none. -/
theorem isSome_rendering?_eq (h : m.SameKinds m' (some declaring)) (p : Property) :
    (rendering? ⟨profile, m, generation⟩ p declaring).isSome =
      (rendering? ⟨profile, m', generation⟩ p declaring).isSome := by
  unfold rendering?
  dsimp only
  split
  · rw [isSome_renderMember, isSome_renderMember, templateFor_eq h]
  · rfl

/-- A marker that does not ask for members is replaced alike for like members. -/
theorem renderMarker_alike {s s' : Shape} (h : s.Alike s')
    (expandMembers expandEnum expandMembers' expandEnum' : Expander) (template : List Char)
    {marker : Marker} (hsub : marker ≠ .subProperties) (henum : marker ≠ .enumMembers)
    (offset : Nat) (progress : Progress) :
    renderMarker expandMembers expandEnum template ⟨s, none⟩ marker offset progress =
      renderMarker expandMembers' expandEnum' template ⟨s', none⟩ marker offset progress := by
  unfold renderMarker nameElement
  cases marker with
  | subProperties => exact absurd rfl hsub
  | enumMembers => exact absurd rfl henum
  | name => simp only [h.name]
  | spacedName => simp only [h.name]
  | type => simp only [h.typeText]
  | elementName => simp only [h.name]
  | _ => rfl

/-- Parts whose markers are replaced alike are rendered alike. -/
theorem renderParts_congr {value value' : Marker → Nat → Progress → Piece × Progress}
    {parts : List Template.Part}
    (h : ∀ marker offset, .marker marker offset ∈ parts →
      value marker offset = value' marker offset) :
    ∀ progress, renderParts value parts progress = renderParts value' parts progress := by
  induction parts with
  | nil => exact fun _ => rfl
  | cons part parts ih =>
    intro progress
    have hrest := ih fun marker offset hmem => h marker offset (List.mem_cons_of_mem _ hmem)
    cases part with
    | text letters =>
      unfold renderParts
      rw [hrest]
    | marker marker offset =>
      unfold renderParts
      rw [h marker offset List.mem_cons_self]
      dsimp only
      rw [hrest]

/-- A marker of a template is one that the template mentions. -/
theorem mentions_of_mem {template : List Char} {marker : Marker} {offset : Nat}
    (h : .marker marker offset ∈ Template.parts template) :
    Template.mentions template marker = true := by
  unfold Template.mentions
  exact List.any_eq_true.2 ⟨_, h, beq_self_eq_true marker⟩

/-- A template that does not ask for members is rendered alike for like members. -/
theorem renderTemplate_alike {s s' : Shape} (h : s.Alike s')
    (expandMembers expandEnum expandMembers' expandEnum' : Expander) {template : String}
    (hsub : Template.mentions template.toList .subProperties = false)
    (henum : Template.mentions template.toList .enumMembers = false) (state : State) :
    renderTemplate expandMembers expandEnum template ⟨s, none⟩ state =
      renderTemplate expandMembers' expandEnum' template ⟨s', none⟩ state := by
  have hvalue (marker : Marker) (offset : Nat)
      (hmem : .marker marker offset ∈ Template.parts template.toList) :
      renderMarker expandMembers expandEnum template.toList ⟨s, none⟩ marker offset =
        renderMarker expandMembers' expandEnum' template.toList ⟨s', none⟩ marker offset := by
    -- A marker that the template mentions is none of the two that would look behind the member.
    have hmentions := mentions_of_mem hmem
    funext progress
    refine renderMarker_alike h _ _ _ _ _ ?_ ?_ offset progress
    · rintro rfl
      rw [hsub] at hmentions
      exact Bool.noConfusion hmentions
    · rintro rfl
      rw [henum] at hmentions
      exact Bool.noConfusion hmentions
  unfold renderTemplate
  dsimp only
  rw [renderParts_congr hvalue]

/-- Over models whose answers are of the same kinds a property whose template does not ask for
members is rendered alike. -/
theorem rendering?_eq_of_plain (h : m.SameKinds m' (some declaring)) (p : Property)
    (hplain : IsPlain ⟨profile, m, generation⟩ p declaring) :
    rendering? ⟨profile, m, generation⟩ p declaring =
      rendering? ⟨profile, m', generation⟩ p declaring := by
  unfold rendering? renderMember
  dsimp only
  rw [← templateFor_eq h,
    renderTemplate_alike (Shape.ofProperty_alike h p) _ _ _ _ hplain.1 hplain.2]

/-! ## What two models show -/

/-- Items rendered alike are rendered alike one after the other. -/
theorem renderAll_congr {α : Type} {render render' : α → State → Option Rendering × State}
    {xs : List α} (h : ∀ x ∈ xs, render x = render' x) :
    ∀ s, renderAll render xs s = renderAll render' xs s := by
  induction xs with
  | nil => exact fun _ => rfl
  | cons x xs ih =>
    intro s
    have hrest := ih fun y hy => h y (List.mem_cons_of_mem _ hy)
    unfold renderAll
    rw [h x List.mem_cons_self]
    dsimp only
    rw [hrest]

/-- A member is rendered alike where the members behind it are. -/
theorem renderMember_congr {expandMembers expandMembers' : Expander} {member : Shape}
    (h : ∀ s, expandMembers member s = expandMembers' member s) (nested : Bool) :
    renderMember ⟨profile, m, generation⟩ expandMembers nested member =
      renderMember ⟨profile, m', generation⟩ expandMembers' nested member := by
  have hvalue (template : List Char) (marker : Marker) (offset : Nat) :
      renderMarker expandMembers (expandEnum ⟨profile, m, generation⟩) template ⟨member, none⟩
          marker offset =
        renderMarker expandMembers' (expandEnum ⟨profile, m', generation⟩) template ⟨member, none⟩
          marker offset := by
    funext progress
    unfold renderMarker
    cases marker with
    | subProperties => simp only [h]
    | _ => rfl
  -- The template is that of the profile, and only its marker for members asks the expander.
  funext s
  unfold renderMember renderTemplate
  dsimp only
  rw [renderParts_congr fun marker offset _ => hvalue _ marker offset]
  rfl

/-- A set of types from which two models show the same: the same members with the same shapes,
behind which stand types of the set again. -/
structure SameView (m m' : Model) (excluded : List String) (S : TypeDecl → Prop) : Prop where
  /-- Both show the same members of a type. -/
  exposed : ∀ t, S t → Member.exposed m excluded t = Member.exposed m' excluded t
  /-- Both give a member the same shape. -/
  shape : ∀ t, S t → ∀ member ∈ Member.exposed m excluded t,
    Shape.ofProperty m (some member.declaring) member.property =
      Shape.ofProperty m' (some member.declaring) member.property
  /-- Behind a member stands a type of the set, if one does. -/
  inner : ∀ t, S t → ∀ member ∈ Member.exposed m excluded t, ∀ t',
    (Shape.ofProperty m (some member.declaring) member.property).inner = .members t' → S t'

/-- The members behind a member are rendered alike over two models that show the same from there
on. -/
theorem SameView.expandMembers_eq {S : TypeDecl → Prop}
    (h : SameView m m' generation.excluded S) (room : Nat) :
    ∀ member : Shape, (∀ t, member.inner = .members t → S t) → ∀ s,
      expandMembers ⟨profile, m, generation⟩ room member s =
        expandMembers ⟨profile, m', generation⟩ room member s := by
  induction room with
  | zero =>
    intro member _ s
    unfold expandMembers
    cases member.inner <;> rfl
  | succ room ih =>
    intro member hinner s
    unfold expandMembers
    cases hmember : member.inner with
    | none => rfl
    | unknown => rfl
    | members t =>
      have ht := hinner t hmember
      dsimp only
      cases s.enter? t.fullName generation.maxDepth with
      | none => rfl
      | some inside =>
        -- A member of the type has one shape over both models, behind which the induction goes on.
        have hnested (mem : Member) (hmem : mem ∈ Member.exposed m generation.excluded t) :
            renderMember ⟨profile, m, generation⟩ (expandMembers ⟨profile, m, generation⟩ room) true
                (Shape.ofProperty m (some mem.declaring) mem.property) =
              renderMember ⟨profile, m', generation⟩ (expandMembers ⟨profile, m', generation⟩ room)
                true (Shape.ofProperty m' (some mem.declaring) mem.property) := by
          rw [← h.shape t ht mem hmem]
          exact renderMember_congr (ih _ (h.inner t ht mem hmem)) true
        dsimp only
        unfold inGroup
        rw [renderAll_congr hnested, h.exposed t ht]

/-- Whether two models show the same from a property of a type on. -/
def Unaffected (m m' : Model) (excluded : List String) (p : Property) (declaring : TypeDecl) :
    Prop :=
  Shape.ofProperty m (some declaring) p = Shape.ofProperty m' (some declaring) p ∧
    ∃ S, SameView m m' excluded S ∧
      ∀ t, (Shape.ofProperty m (some declaring) p).inner = .members t → S t

/-- A property is rendered alike over two models that show the same from it on. -/
theorem Unaffected.rendering?_eq {p : Property}
    (h : Unaffected m m' generation.excluded p declaring) :
    rendering? ⟨profile, m, generation⟩ p declaring =
      rendering? ⟨profile, m', generation⟩ p declaring := by
  obtain ⟨hshape, S, hview, hinner⟩ := h
  have hmember : renderMember ⟨profile, m, generation⟩ (expand ⟨profile, m, generation⟩) false
      (Shape.ofProperty m (some declaring) p) =
        renderMember ⟨profile, m', generation⟩ (expand ⟨profile, m', generation⟩) false
          (Shape.ofProperty m (some declaring) p) :=
    renderMember_congr (hview.expandMembers_eq generation.maxDepth _ hinner) false
  unfold rendering?
  dsimp only
  rw [← hshape, hmember]

end Models

end Render

end ViewForge
