import ViewForge.Language
import ViewForge.Proofs.Model.Insertion
import ViewForge.Proofs.Text.LetterCase
import ViewForge.Proofs.Text.Recasing
import Mathlib.Data.List.Find

/-!
# Parts of one type

Among declarations of one language, whose names hold no point, being parts of one type is an
equivalence: the full name, in small letters where case does not matter, and the arity tell types
apart (`isSameType_iff`), and the name is what stands behind the last point of the full name. So all
parts of a type are folded into one entry of a catalog and are found there
(`find?_eq_of_isSameType`), also after the types have taken in parts from elsewhere
(`find?_mergePartsFrom`).
-/

namespace ViewForge

/-- Whether a language ignores letter case. -/
def Language.ignoresCase : Language → Bool
  | csharp => false
  | visualBasic => true

namespace TypeDecl

/-- Whether a declaration is named as those of a language are: the name holds no point, and letter
case matters or not. -/
structure IsNamed (ignoresCase : Bool) (t : TypeDecl) : Prop where
  /-- Letter case is as in the language. -/
  ignoresCase : t.ignoresCase = ignoresCase
  /-- The name holds no point. -/
  pointless : '.' ∉ t.name.toList

/-- A name as it tells types apart. -/
def foldName (ignoresCase : Bool) (cs : List Char) : List Char :=
  if ignoresCase then cs.map Char.toLower else cs

/-- What stands behind the last point of a name. -/
def behindPoint (cs : List Char) : List Char := (cs.reverse.takeWhile (· != '.')).reverse

theorem behindPoint_append {front cs : List Char} (h : '.' ∉ cs) :
    behindPoint (front ++ '.' :: cs) = cs := Text.behindLast_eq h front

theorem behindPoint_of_pointless {cs : List Char} (h : '.' ∉ cs) : behindPoint cs = cs :=
  Text.behindLast_append h []

/-- The name of a type stands behind the last point of its full name. -/
theorem behindPoint_fullName {t : TypeDecl} (h : '.' ∉ t.name.toList) :
    behindPoint t.fullName.toList = t.name.toList := by
  unfold fullName
  cases t.scope? with
  | none => exact behindPoint_of_pointless h
  | some scope =>
    dsimp only
    rw [String.toList_append, String.toList_append, List.append_assoc]
    exact behindPoint_append h

/-- What stands behind the last point does not depend on the case of letters. -/
theorem foldName_behindPoint (ignoresCase : Bool) (cs : List Char) :
    foldName ignoresCase (behindPoint cs) = behindPoint (foldName ignoresCase cs) := by
  cases ignoresCase with
  | false => rfl
  | true =>
    have hpoint : ((· != '.') ∘ Char.toLower) = (· != '.') := by
      funext c
      rw [Function.comp_apply, bne, bne, Text.Recases.toLower.beq_mark rfl]
    unfold foldName behindPoint
    rw [if_pos rfl, if_pos rfl, ← List.map_reverse (l := cs), List.takeWhile_map, hpoint,
      List.map_reverse]

variable {ignoresCase : Bool} {t u v : TypeDecl}

/-- Declarations of a language are parts of one type exactly if their full names, as they tell types
apart, and their arities are the same. -/
theorem isSameType_iff (ht : t.IsNamed ignoresCase) (hu : u.IsNamed ignoresCase) :
    t.isSameType u = true ↔
      foldName ignoresCase t.fullName.toList = foldName ignoresCase u.fullName.toList ∧
        t.arity = u.arity := by
  unfold isSameType
  rw [ht.ignoresCase, hu.ignoresCase, Bool.or_self, Bool.and_eq_true, beq_iff_eq]
  refine and_congr_left fun _ => ?_
  cases ignoresCase with
  | false => exact beq_iff_eq.trans String.toList_inj.symm
  | true => exact Text.sameIgnoringCase_iff

/-- Parts of one type have one name, as it tells types apart. -/
theorem foldName_eq_of_isSameType (ht : t.IsNamed ignoresCase) (hu : u.IsNamed ignoresCase)
    (h : t.isSameType u = true) :
    foldName ignoresCase t.name.toList = foldName ignoresCase u.name.toList := by
  rw [← behindPoint_fullName ht.pointless, ← behindPoint_fullName hu.pointless,
    foldName_behindPoint, foldName_behindPoint, ((isSameType_iff ht hu).1 h).1]

/-- Naming tells whether a declaration is named as those of a language. -/
theorem IsNamed.congr (h : t.IsNamed ignoresCase) (hsame : u.SameNaming t) :
    u.IsNamed ignoresCase :=
  ⟨hsame.ignoresCase.trans h.ignoresCase, hsame.name ▸ h.pointless⟩

end TypeDecl

namespace Catalog

open TypeDecl

variable {ignoresCase : Bool} {t u : TypeDecl}

/-- Among declarations of a language, one of the same type is found under the same name. -/
theorem isPartOf_eq_isSameType (ht : t.IsNamed ignoresCase) (hu : u.IsNamed ignoresCase) :
    isPartOf t u = u.isSameType t := by
  unfold isPartOf
  cases h : u.isSameType t with
  | false => exact Bool.and_false _
  | true =>
    have hname := foldName_eq_of_isSameType hu ht h
    rw [Bool.and_true]
    unfold sameName
    rw [beq_iff_eq]
    cases ignoresCase with
    | false => rw [String.toList_inj.1 hname]
    | true => exact Text.lowercase_eq_of_equalIgnoringCase (Text.sameIgnoringCase_iff.2 hname)

/-- Two parts of one type are parts of the same declarations of their language. -/
theorem isPartOf_congr_of_isSameType {v : TypeDecl} (ht : t.IsNamed ignoresCase)
    (hu : u.IsNamed ignoresCase) (hv : v.IsNamed ignoresCase) (h : t.isSameType u = true) :
    isPartOf t v = isPartOf u v := by
  obtain ⟨hname, harity⟩ := (isSameType_iff ht hu).1 h
  rw [isPartOf_eq_isSameType ht hv, isPartOf_eq_isSameType hu hv, Bool.eq_iff_iff,
    isSameType_iff hv ht, isSameType_iff hv hu, hname, harity]

/-- A catalog of declarations of a language stores such types. -/
theorem isNamed_of_mem_ofList {ts : List TypeDecl} (h : ∀ t ∈ ts, t.IsNamed ignoresCase) :
    ∀ t ∈ (ofList ts).types, t.IsNamed ignoresCase := by
  have hfold : ∀ (ts : List TypeDecl) (c : Catalog), (∀ t ∈ ts, t.IsNamed ignoresCase) →
      (∀ t ∈ c.types, t.IsNamed ignoresCase) →
      ∀ t ∈ (ts.foldl insert c).types, t.IsNamed ignoresCase := by
    intro ts
    induction ts with
    | nil => exact fun _ _ hc => hc
    | cons new ts ih =>
      intro c hts hc
      obtain ⟨hnew, hts⟩ := List.forall_mem_cons.1 hts
      refine ih (c.insert new) hts fun t ht => ?_
      rcases mem_insertInto ht with rfl | ⟨stored, hstored, hsame⟩
      · exact hnew
      · exact (hc stored hstored).congr hsame
  exact hfold ts {} h nofun

/-- Two parts of one type are found at one entry. -/
theorem find?_eq_of_isSameType {c : Catalog} (hc : ∀ t ∈ c.types, t.IsNamed ignoresCase)
    (ht : t.IsNamed ignoresCase) (hu : u.IsNamed ignoresCase) (h : t.isSameType u = true) :
    c.find? t = c.find? u := by
  unfold find?
  exact List.find?_congr fun v hv => isPartOf_congr_of_isSameType ht hu (hc v hv) h

/-- A declaration is found at the same entry after the types have taken in parts. -/
theorem find?_mergePartsFrom (c outer : Catalog) (t : TypeDecl) :
    (c.mergePartsFrom ⟨[outer]⟩).find? t = (c.find? t).map outer.withPart := by
  have hpart : isPartOf t ∘ outer.withPart = isPartOf t := by
    funext stored
    exact isPartOf_congr ⟨rfl, rfl, rfl, rfl⟩ (outer.sameNaming_withPart stored)
  unfold find?
  rw [c.types_mergePartsFrom outer, List.find?_map, hpart]

end Catalog

end ViewForge
