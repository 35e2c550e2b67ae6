import ViewForge.Proofs.Model.Layers
import ViewForge.Proofs.Text.LetterCase

/-!
# Letter case in references and parts

A reference that ignores letter case compares names in their full lower-case form
(`resolve_isSome_iff`), and so does a catalog when it looks for the type that a part belongs to. The
last word there has a comparison that ignores the case of letters of ASCII only. The two differ for
names with the same lower-case form and other characters beyond ASCII, and for no others
(`resolve_agrees_with_parts_iff`): `änderung` means the type `Änderung`, but a part of that name
stays a type of its own (`umlaut_kept_apart`).
-/

namespace ViewForge

theorem TypeDecl.fullName_of_scopeless {t : TypeDecl} (h : t.scope? = none) :
    t.fullName = t.name := by
  rw [fullName, h]

namespace Catalog

theorem sameName_iff {a b : String} :
    sameName a b = true ↔ Text.lowercase a = Text.lowercase b := beq_iff_eq

/-- Where letter case is ignored, a reference means a type exactly if a type of its arity has its
name in lower case. -/
theorem resolve_isSome_iff {c : Catalog} {qualifier : Option String} {name : String}
    {args : List TypeExpr} {context : Option TypeDecl}
    (hcase : context.any (·.ignoresCase) = true) :
    (c.resolve (.named qualifier name args) context).isSome = true ↔
      ∃ t ∈ c.types, t.arity = args.length ∧ Text.lowercase t.name = Text.lowercase name := by
  have hnamesake (t : TypeDecl) : t ∈ c.namesakes name args.length context ↔
      t ∈ c.types ∧ t.arity = args.length ∧ Text.lowercase t.name = Text.lowercase name := by
    rw [namesakes, List.mem_filter, if_pos hcase, Bool.and_eq_true, beq_iff_eq, sameName_iff]
  rw [Option.isSome_iff_ne_none, ne_eq, resolve_eq_none_iff]
  constructor
  · intro hsome
    obtain ⟨t, ht⟩ := List.exists_mem_of_ne_nil _ hsome
    exact ⟨t, (hnamesake t).1 ht⟩
  · rintro ⟨t, ht⟩
    exact List.ne_nil_of_mem ((hnamesake t).2 ht)

/-- Two declarations give one type if the second is a part of the first, and two otherwise. -/
theorem types_ofList_pair (a b : TypeDecl) :
    (ofList [a, b]).types = if isPartOf b a = true then [a.merge b] else [a, b] := rfl

/-- In a catalog of one type, the reference to another means it exactly if the names have the same
lower-case form. -/
theorem resolve_alone {a b : TypeDecl} (hcase : b.ignoresCase = true)
    (harity : a.arity = b.arity) :
    (ofList [a]).resolve b.reference (some b) =
    if Text.lowercase a.name = Text.lowercase b.name then some a else none := by
  have hlength : (b.parameters.map TypeExpr.bare).length = a.arity := by
    rw [List.length_map, harity]
    rfl
  have hsome : ((ofList [a]).resolve b.reference (some b)).isSome = true ↔
      ∃ t ∈ [a], t.arity = a.arity ∧ Text.lowercase t.name = Text.lowercase b.name := by
    rw [← hlength]
    exact resolve_isSome_iff hcase
  -- There is one type to be found, so whether it is found says which.
  cases hfound : (ofList [a]).resolve b.reference (some b) with
  | none =>
    refine (if_neg fun hname => ?_).symm
    rw [hfound] at hsome
    exact Bool.noConfusion (hsome.2 ⟨a, List.mem_singleton_self a, rfl, hname⟩)
  | some found =>
    have hmem := (List.mem_filter.1 (mem_namesakes_of_resolve hfound)).1
    obtain rfl := List.mem_singleton.1 hmem
    obtain ⟨t, ht, -, hname⟩ := hsome.1 (by rw [hfound, Option.isSome_some])
    rw [List.mem_singleton.1 ht] at hname
    exact (if_pos hname).symm

section Scopeless

variable {a b : TypeDecl} (hcase : b.ignoresCase = true) (ha : a.scope? = none)
  (hb : b.scope? = none) (harity : a.arity = b.arity)
include hcase ha hb harity

/-- Types without a scope are one type exactly if their names have the same lower-case form and the
same characters beyond ASCII. -/
theorem isSameType_iff_beyondAscii : a.isSameType b = true ↔
    Text.lowercase a.name = Text.lowercase b.name ∧
      Text.beyondAscii a.name = Text.beyondAscii b.name := by
  rw [TypeDecl.isSameType, hcase, Bool.or_true, if_pos rfl, TypeDecl.fullName_of_scopeless ha,
    TypeDecl.fullName_of_scopeless hb, harity, beq_self_eq_true, Bool.and_true]
  exact Text.equalIgnoringCase_iff

/-- Resolving and folding in parts agree on two types without a scope exactly if their names have
the same characters beyond ASCII or differ also in lower case: a reference to the one means the
other, in a catalog that holds no more, exactly if they are one type, and then the catalog of both
holds one type. In any case the reference means the other type exactly if the names have the same
lower-case form, and the two are folded into one exactly if the characters beyond ASCII are the same
besides. -/
theorem resolve_agrees_with_parts_iff :
    ((((ofList [a]).resolve b.reference (some b)).isSome = true ↔ a.isSameType b = true) ∧
        (((ofList [a]).resolve b.reference (some b)).isSome = true →
          (ofList [a, b]).types = [a.merge b]) ↔
      (Text.lowercase a.name = Text.lowercase b.name →
        Text.beyondAscii a.name = Text.beyondAscii b.name)) ∧
    (ofList [a]).resolve b.reference (some b) =
      (if Text.lowercase a.name = Text.lowercase b.name then some a else none) ∧
    (ofList [a, b]).types =
      if Text.lowercase a.name = Text.lowercase b.name ∧
        Text.beyondAscii a.name = Text.beyondAscii b.name then [a.merge b] else [a, b] := by
  have hsame := isSameType_iff_beyondAscii hcase ha hb harity
  have hresolve := resolve_alone hcase harity
  have hmeans : ((ofList [a]).resolve b.reference (some b)).isSome = true ↔
      Text.lowercase a.name = Text.lowercase b.name := by
    rw [hresolve]
    split <;> simp [*]
  have hpart : isPartOf b a = true ↔ Text.lowercase a.name = Text.lowercase b.name ∧
      Text.beyondAscii a.name = Text.beyondAscii b.name := by
    rw [isPartOf, Bool.and_eq_true, sameName_iff, hsame]
    exact and_iff_right_of_imp And.left
  have htypes := types_ofList_pair a b
  simp only [hpart] at htypes
  -- Resolving asks for the lower case alone, folding in for the characters beyond ASCII as well.
  refine ⟨?_, hresolve, htypes⟩
  rw [hmeans, hsame, htypes]
  constructor
  · exact fun h hlower => (h.1.1 hlower).2
  · intro h
    exact ⟨⟨fun hlower => ⟨hlower, h hlower⟩, And.left⟩, fun hlower => if_pos ⟨hlower, h hlower⟩⟩

end Scopeless

/-- A class without a scope that ignores letter case. -/
def anyCaseClass (name : String) : TypeDecl where
  name := name
  kind := .class
  ignoresCase := true

/-- Names that differ in letters of ASCII only. -/
theorem resolve_agrees_with_parts_ascii :
    ((ofList [anyCaseClass "Größe"]).resolve (anyCaseClass "GRößE").reference
        (some (anyCaseClass "GRößE"))).isSome = true ∧
      (ofList [anyCaseClass "Größe", anyCaseClass "GRößE"]).types =
        [(anyCaseClass "Größe").merge (anyCaseClass "GRößE")] := by
  have hlower : Text.lowercase (anyCaseClass "Größe").name =
      Text.lowercase (anyCaseClass "GRößE").name := by decide +kernel
  have hbeyond : Text.beyondAscii (anyCaseClass "Größe").name =
      Text.beyondAscii (anyCaseClass "GRößE").name := by decide +kernel
  obtain ⟨hagree, hresolve, -⟩ := resolve_agrees_with_parts_iff (a := anyCaseClass "Größe")
    (b := anyCaseClass "GRößE") rfl rfl rfl rfl
  have hsome : ((ofList [anyCaseClass "Größe"]).resolve (anyCaseClass "GRößE").reference
      (some (anyCaseClass "GRößE"))).isSome = true := by
    rw [hresolve, if_pos hlower, Option.isSome_some]
  exact ⟨hsome, (hagree.2 fun _ => hbeyond).2 hsome⟩

/-- A reference to `änderung` means `Änderung`, but the two are not parts of one type. -/
theorem umlaut_kept_apart :
    (ofList [anyCaseClass "Änderung"]).resolve (anyCaseClass "änderung").reference
        (some (anyCaseClass "änderung")) = some (anyCaseClass "Änderung") ∧
      (anyCaseClass "Änderung").isSameType (anyCaseClass "änderung") = false ∧
      (ofList [anyCaseClass "Änderung", anyCaseClass "änderung"]).types =
        [anyCaseClass "Änderung", anyCaseClass "änderung"] := by
  have hlower : Text.lowercase (anyCaseClass "Änderung").name =
      Text.lowercase (anyCaseClass "änderung").name := by decide +kernel
  have harity : (anyCaseClass "Änderung").arity = (anyCaseClass "änderung").arity := rfl
  have hsame : (anyCaseClass "Änderung").isSameType (anyCaseClass "änderung") = false := by
    decide +kernel
  refine ⟨?_, hsame, ?_⟩
  · rw [resolve_alone rfl harity, if_pos hlower]
  · rw [types_ofList_pair, isPartOf, hsame, Bool.and_false, if_neg Bool.false_ne_true]

end Catalog

end ViewForge
