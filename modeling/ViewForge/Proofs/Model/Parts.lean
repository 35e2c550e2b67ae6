import Mathlib.Data.List.Basic
import ViewForge.Proofs.Model.Resolution

/-!
# Parts of a type

What a part adds to a type are items: the names of properties, the texts of bases and the names of
enumeration members. Merging two parts unites their items (`mem_items_merge`).

The types of a catalog take in their parts from another catalog by resolution: each takes in the
first of the nearest namesakes of its own reference, if that is a part of it (`mem_items_withPart`).
So a part in the other catalog is kept exactly if it is that namesake or has nothing new
(`keeps_part_iff`), and a type of another namespace may stand before it
(`namesake_hides_part`).
-/

namespace ViewForge

/-! ## Items -/

/-- Something that a part of a type declares. -/
inductive Item where
  /-- A property of a name. -/
  | property (name : String)
  /-- An entry of the base list. -/
  | base (text : String)
  /-- A member of an enumeration. -/
  | member (name : String)
  deriving Repr, DecidableEq

namespace TypeDecl

/-- The items of a declaration. -/
def items (t : TypeDecl) : List Item :=
  (t.properties.map (·.name)).map .property ++ t.bases.map .base ++ t.members.map .member

/-- Whether a declaration has all items of another. -/
def Keeps (t part : TypeDecl) : Prop := ∀ item ∈ part.items, item ∈ t.items

instance (t part : TypeDecl) : Decidable (t.Keeps part) :=
  inferInstanceAs (Decidable (∀ item ∈ part.items, item ∈ t.items))

@[simp]
theorem property_mem_items {t : TypeDecl} {name : String} :
    .property name ∈ t.items ↔ name ∈ t.properties.map (·.name) := by
  simp [items]

@[simp]
theorem base_mem_items {t : TypeDecl} {text : String} : .base text ∈ t.items ↔ text ∈ t.bases := by
  simp [items]

@[simp]
theorem member_mem_items {t : TypeDecl} {name : String} :
    .member name ∈ t.items ↔ name ∈ t.members := by
  simp [items]

/-- Where things are the same if their keys are, a list has the keys of the two lists that it was
extended from. -/
theorem mem_map_extend {α : Type} (key : α → String) (k : String) (ys : List α) :
    ∀ xs : List α, k ∈ (extend (fun x y => key x == key y) xs ys).map key ↔
      k ∈ xs.map key ∨ k ∈ ys.map key := by
  unfold extend
  induction ys with
  | nil => exact fun xs => ⟨.inl, fun h => h.resolve_right List.not_mem_nil⟩
  | cons y ys ih =>
    intro xs
    rw [List.foldl_cons, ih, List.map_cons, List.mem_cons, ← or_assoc]
    refine or_congr_left ?_
    split
    · -- The key of the item is there already.
      rename_i hany
      obtain ⟨x, hx, hkey⟩ := List.any_eq_true.1 hany
      have hy : key y ∈ xs.map key := eq_of_beq hkey ▸ List.mem_map_of_mem hx
      exact ⟨.inl, fun h => h.elim id fun hk => hk ▸ hy⟩
    · rw [List.map_append, List.mem_append, List.map_singleton, List.mem_singleton]

/-- A list of texts has the texts of the two lists that it was extended from. -/
theorem mem_extend (k : String) (xs ys : List String) :
    k ∈ extend (· == ·) xs ys ↔ k ∈ xs ∨ k ∈ ys := by
  have h := mem_map_extend id k ys xs
  rwa [List.map_id, List.map_id, List.map_id] at h

/-- A merged declaration has the items of both parts. -/
theorem mem_items_merge (a b : TypeDecl) (item : Item) :
    item ∈ (a.merge b).items ↔ item ∈ a.items ∨ item ∈ b.items := by
  unfold merge
  cases item with
  | property name =>
    rw [property_mem_items, property_mem_items, property_mem_items]
    exact mem_map_extend (·.name) name b.properties a.properties
  | base text =>
    rw [base_mem_items, base_mem_items, base_mem_items]
    exact mem_extend text a.bases b.bases
  | member name =>
    rw [member_mem_items, member_mem_items, member_mem_items]
    exact mem_extend name a.members b.members

/-- Two declarations are parts of one type in either order. -/
theorem isSameType_comm (a b : TypeDecl) : a.isSameType b = b.isSameType a := by
  have hsame : ∀ as bs : List Char, Text.sameIgnoringCase as bs = Text.sameIgnoringCase bs as := by
    intro as
    induction as with
    | nil =>
      intro bs
      cases bs <;> rfl
    | cons a as ih =>
      intro bs
      cases bs with
      | nil => rfl
      | cons b bs =>
        rw [Text.sameIgnoringCase, Text.sameIgnoringCase, ih bs, Bool.beq_comm]
  unfold isSameType Text.equalIgnoringCase
  rw [Bool.or_comm, hsame, Bool.beq_comm, Bool.beq_comm (a := a.arity)]

/-- Whether two declarations agree on all that tells types apart. -/
structure SameNaming (t u : TypeDecl) : Prop where
  /-- The names are the same. -/
  name : t.name = u.name
  /-- The scopes are the same. -/
  scope : t.scope = u.scope
  /-- The numbers of type parameters are the same. -/
  arity : t.arity = u.arity
  /-- Both compare names in any case or none. -/
  ignoresCase : t.ignoresCase = u.ignoresCase

/-- A declaration with a part folded in is named as before. -/
theorem sameNaming_merge {t part : TypeDecl} (h : t.isSameType part = true) :
    (t.merge part).SameNaming t where
  name := rfl
  scope := rfl
  arity := by
    have harity : t.arity = part.arity := by
      unfold isSameType at h
      exact eq_of_beq (Bool.and_eq_true_iff.1 h).2
    -- The parameters come from the part only if the type has none, and then the part has none.
    unfold merge arity at *
    dsimp only
    split
    · exact harity.symm
    · rfl
  ignoresCase := rfl

end TypeDecl

/-! ## Taking in parts -/

namespace Catalog

/-- Whether a declaration is what a type's own reference means in a catalog: the first of the
nearest namesakes of the type. -/
def IsNearest (c : Catalog) (t part : TypeDecl) : Prop :=
  c.Means t.scope? t.name t.arity (some t) part

/-- The part that a type takes in from a catalog. -/
def partFor? (c : Catalog) (t : TypeDecl) : Option TypeDecl :=
  (c.resolve t.reference (some t)).filter (·.isSameType t)

/-- A type takes in the first of its nearest namesakes, if that is a part of it. -/
theorem partFor?_eq_some_iff (c : Catalog) (t part : TypeDecl) :
    c.partFor? t = some part ↔ c.IsNearest t part ∧ part.isSameType t = true := by
  have harity : (t.parameters.map TypeExpr.bare).length = t.arity := List.length_map _
  unfold partFor? IsNearest
  rw [Option.filter_eq_some_iff, TypeDecl.reference, resolve_named_eq_some_iff, harity]

/-- A type with the part that it takes in from a catalog. -/
def withPart (c : Catalog) (t : TypeDecl) : TypeDecl :=
  match c.partFor? t with
  | some part => t.merge part
  | none => t

/-- A type that takes in a part keeps its kind. -/
theorem kind_withPart (c : Catalog) (t : TypeDecl) : (c.withPart t).kind = t.kind := by
  unfold withPart
  split <;> rfl

/-- A type that takes in a part is named as before. -/
theorem sameNaming_withPart (c : Catalog) (t : TypeDecl) : (c.withPart t).SameNaming t := by
  unfold withPart
  split
  · rename_i part hpart
    obtain ⟨-, hsame⟩ := (c.partFor?_eq_some_iff t part).1 hpart
    rw [TypeDecl.isSameType_comm] at hsame
    exact TypeDecl.sameNaming_merge hsame
  · exact ⟨rfl, rfl, rfl, rfl⟩

/-- Resolution does not see whether types have taken in their parts. -/
theorem transparent_withPart (c : Catalog) : Transparent c.withPart where
  name t := (c.sameNaming_withPart t).name
  scope t := (c.sameNaming_withPart t).scope
  arity t := (c.sameNaming_withPart t).arity

/-- The types of a catalog take in their parts one by one. -/
theorem types_mergePartsFrom (c outer : Catalog) :
    (c.mergePartsFrom ⟨[outer]⟩).types = c.types.map outer.withPart := by
  have hresolve (t : TypeDecl) :
      Model.resolve ⟨[outer]⟩ t.reference (some t) = outer.resolve t.reference (some t) := by
    rw [Model.resolve_cons]
    exact Option.or_none
  unfold mergePartsFrom
  simp only [hresolve]
  rfl

/-- A type that took in its part has its own items, and those of the first of its nearest namesakes
if that is a part of it. -/
theorem mem_items_withPart (c : Catalog) (t : TypeDecl) (item : Item) :
    item ∈ (c.withPart t).items ↔ item ∈ t.items ∨
      ∃ part, c.IsNearest t part ∧ part.isSameType t = true ∧ item ∈ part.items := by
  unfold withPart
  cases hpart : c.partFor? t with
  | some part =>
    obtain ⟨hnearest, hsame⟩ := (c.partFor?_eq_some_iff t part).1 hpart
    rw [TypeDecl.mem_items_merge]
    refine or_congr_right ⟨fun hitem => ⟨part, hnearest, hsame, hitem⟩, ?_⟩
    rintro ⟨other, hother, -, hitem⟩
    rwa [hnearest.unique hother]
  | none =>
    refine ⟨.inl, fun h => h.elim id ?_⟩
    rintro ⟨part, hnearest, hsame, -⟩
    rw [(c.partFor?_eq_some_iff t part).2 ⟨hnearest, hsame⟩] at hpart
    exact absurd hpart (Option.some_ne_none part)

/-- A type keeps a part of it in another catalog exactly if the part is the first of the nearest
namesakes there, or each of its items stands in the type itself or in that namesake, which then is a
part of the type as well. -/
theorem keeps_part_iff {c outer : Catalog} {i : Nat} {t part : TypeDecl}
    (ht : c.types[i]? = some t) (hpart : t.isSameType part = true) :
    ∃ merged, (c.mergePartsFrom ⟨[outer]⟩).types[i]? = some merged ∧
      (merged.Keeps part ↔ outer.IsNearest t part ∨
        ∀ item ∈ part.items, item ∈ t.items ∨
          ∃ first, outer.IsNearest t first ∧ first.isSameType t = true ∧ item ∈ first.items) := by
  refine ⟨outer.withPart t, ?_, ?_⟩
  · rw [types_mergePartsFrom, List.getElem?_map, ht, Option.map_some]
  · unfold TypeDecl.Keeps
    simp only [mem_items_withPart]
    refine ⟨.inr, fun h => h.elim ?_ id⟩
    intro hnearest item hitem
    rw [TypeDecl.isSameType_comm] at hpart
    exact .inr ⟨part, hnearest, hpart, hitem⟩

/-- A class `Vm` of a namespace with one property. -/
def vm (scope property : String) : TypeDecl where
  name := "Vm"
  scope := some scope
  kind := .class
  properties := [{ name := property, typeText := "string" }]

/-- A part after a namesake of another namespace is kept where that does not fit the reference. -/
theorem keeps_part_of_elsewhere :
    ∃ merged, ((ofList [vm "App" "First"]).mergePartsFrom
        ⟨[ofList [vm "Elsewhere" "Unrelated", vm "App" "Second"]]⟩).types[0]? = some merged ∧
      merged.Keeps (vm "App" "Second") := by
  have ht : (ofList [vm "App" "First"]).types[0]? = some (vm "App" "First") := by decide +kernel
  have hpart : (vm "App" "First").isSameType (vm "App" "Second") = true := by decide +kernel
  obtain ⟨merged, hmerged, hiff⟩ :=
    @keeps_part_iff _ (ofList [vm "Elsewhere" "Unrelated", vm "App" "Second"]) 0 _ _ ht hpart
  refine ⟨merged, hmerged, hiff.2 (.inl ?_)⟩
  exact (resolve_named_eq_some_iff _ _ _ [] _ _).1 (by decide +kernel)

/-- A namesake in a namespace that ends in that of a type hides the part behind it, which is then
lost. -/
theorem namesake_hides_part :
    (ofList [vm "App" "First"]).types[0]? = some (vm "App" "First") ∧
      vm "App" "Second" ∈ (ofList [vm "Outer.App" "Unrelated", vm "App" "Second"]).types ∧
      (vm "App" "First").isSameType (vm "App" "Second") = true ∧
      ∃ merged, ((ofList [vm "App" "First"]).mergePartsFrom
          ⟨[ofList [vm "Outer.App" "Unrelated", vm "App" "Second"]]⟩).types[0]? = some merged ∧
        ¬ merged.Keeps (vm "App" "Second") := by
  refine ⟨?_, ?_, ?_, vm "App" "First", ?_, ?_⟩ <;> decide +kernel

end Catalog

end ViewForge
