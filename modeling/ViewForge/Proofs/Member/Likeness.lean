import ViewForge.Member.Choice

/-!
# Like shapes

Two shapes are alike if they differ at most in what stands behind a member: the members of its type
and those of its enumeration. Rules do not tell like shapes apart (`Alike.chooseRule_eq`), and a
property has like shapes over two models whose answers are of the same kinds (`ofProperty_alike`).
-/

namespace ViewForge

/-- Whether two models answer each reference written in a context by types of one kind. -/
def Model.SameKinds (m m' : Model) (context : Option TypeDecl) : Prop :=
  ∀ reference, (m.resolve reference context).map (·.kind) =
    (m'.resolve reference context).map (·.kind)

namespace Shape

/-- Whether two shapes agree on all that stands before a member. -/
structure Alike (s s' : Shape) : Prop where
  /-- The names are the same. -/
  name : s.name = s'.name
  /-- Both can be set or none. -/
  isReadOnly : s.isReadOnly = s'.isReadOnly
  /-- The categories are the same. -/
  category : s.category = s'.category
  /-- The types are the same. -/
  type? : s.type? = s'.type?
  /-- The texts of the types are the same. -/
  typeText : s.typeText = s'.typeText

namespace Alike

variable {s s' : Shape}

/-- A type pattern fits both of two like shapes or none. -/
theorem pattern_fits_eq (h : s.Alike s') (pattern : TypePattern) :
    pattern.fits s = pattern.fits s' := by
  cases pattern with
  | anyEnum =>
    unfold TypePattern.fits isEnum
    rw [h.category]
  | anyArray =>
    unfold TypePattern.fits
    rw [h.type?]
  | shape pattern =>
    unfold TypePattern.fits
    rw [h.type?]
  | raw text =>
    unfold TypePattern.fits
    rw [h.type?, h.typeText]

/-- The same rule is chosen for two like shapes. -/
theorem chooseRule_eq (h : s.Alike s') (rules : List Rule) :
    chooseRule rules s = chooseRule rules s' := by
  have hfits : Rule.fits s = Rule.fits s' := by
    funext r
    unfold Rule.fits
    simp only [h.isReadOnly, h.name, h.pattern_fits_eq]
  unfold chooseRule
  rw [hfits]

end Alike

variable {m m' : Model} {context : Option TypeDecl}

/-- Like shapes are refined alike over models whose answers are of the same kinds. -/
theorem refine_alike (h : m.SameKinds m' context) {s s' : Shape} (hs : s.Alike s')
    (t : TypeExpr) : (refine m context s t).Alike (refine m' context s' t) := by
  obtain ⟨hname, hreadOnly, hcategory, htype, htext⟩ := hs
  cases t with
  | dynamic => exact ⟨hname, hreadOnly, rfl, htype, htext⟩
  | array element rank => exact ⟨hname, hreadOnly, rfl, htype, htext⟩
  | tuple items => exact ⟨hname, hreadOnly, hcategory, htype, htext⟩
  | nullable inner => exact ⟨hname, hreadOnly, hcategory, htype, htext⟩
  | named qualifier name args =>
    unfold refine
    dsimp only
    split
    · exact ⟨hname, hreadOnly, rfl, htype, htext⟩
    · split
      · exact ⟨hname, hreadOnly, rfl, htype, htext⟩
      · have hkind := h (.named qualifier name args)
        cases hm : m.resolve (.named qualifier name args) context with
        | none =>
          cases hm' : m'.resolve (.named qualifier name args) context with
          | none => exact ⟨hname, hreadOnly, hcategory, htype, htext⟩
          | some d' => rw [hm, hm'] at hkind; exact absurd hkind.symm (Option.some_ne_none _)
        | some d =>
          cases hm' : m'.resolve (.named qualifier name args) context with
          | none => rw [hm, hm'] at hkind; exact absurd hkind (Option.some_ne_none _)
          | some d' =>
            -- The category depends on whether the kind is that of an enumeration.
            rw [hm, hm'] at hkind
            have hd : d.kind = d'.kind := Option.some.inj hkind
            have henum : d.isEnum = d'.isEnum := by
              unfold TypeDecl.isEnum
              rw [hd]
            have hmembers : d.hasMembers = d'.hasMembers := by
              unfold TypeDecl.hasMembers
              rw [hd]
            dsimp only
            rw [henum, hmembers]
            split
            · exact ⟨hname, hreadOnly, rfl, htype, htext⟩
            · split <;> exact ⟨hname, hreadOnly, hcategory, htype, htext⟩

/-- A property has like shapes over models whose answers are of the same kinds. -/
theorem ofProperty_alike (h : m.SameKinds m' context) (p : Property) :
    (ofProperty m context p).Alike (ofProperty m' context p) := by
  unfold ofProperty
  split
  · exact ⟨rfl, rfl, rfl, rfl, rfl⟩
  · exact refine_alike h ⟨rfl, rfl, rfl, rfl, rfl⟩ _

end Shape

end ViewForge
