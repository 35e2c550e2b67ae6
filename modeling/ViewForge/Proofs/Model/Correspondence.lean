import Mathlib.Data.List.Forall2
import ViewForge.Proofs.Model.Parts
import ViewForge.Proofs.Model.Resolution

/-!
# Models whose types correspond

Two models whose types correspond one by one, each named as the other, answer alike: a reference
means corresponding types in them, seen from types that are named alike (`Model.rel_resolve`).
-/

namespace ViewForge

section Search

variable {α β : Type} {R : α → β → Prop} {l : List α} {l' : List β}

/-- A search in corresponding lists finds corresponding items. -/
theorem rel_find? {p : α → Bool} {q : β → Bool} (hl : List.Forall₂ R l l')
    (hpq : ∀ a b, R a b → p a = q b) : Option.Rel R (l.find? p) (l'.find? q) := by
  induction hl with
  | nil => exact .none
  | @cons a b l l' hab _ ih =>
    rw [List.find?_cons, List.find?_cons, hpq a b hab]
    cases q b with
    | true => exact .some hab
    | false => exact ih

/-- Either of two corresponding answers corresponds to the other's. -/
theorem rel_or {o₁ o₂ : Option α} {o₁' o₂' : Option β} (h₁ : Option.Rel R o₁ o₁')
    (h₂ : Option.Rel R o₂ o₂') : Option.Rel R (o₁.or o₂) (o₁'.or o₂') := by
  cases h₁ with
  | some h => exact .some h
  | none => exact h₂

/-- A search by grades in corresponding lists finds corresponding items. -/
theorem rel_search {R : α → α → Prop} {l l' : List α} (hl : List.Forall₂ R l l')
    {tests : List (α → Bool)} (htests : ∀ test ∈ tests, ∀ a b, R a b → test a = test b) :
    Option.Rel R (search tests l) (search tests l') := by
  induction tests with
  | nil => exact .none
  | cons test tests ih =>
    obtain ⟨htest, htests⟩ := List.forall_mem_cons.1 htests
    rw [search_cons, search_cons]
    exact rel_or (rel_find? hl htest) (ih htests)

/-- A condition that holds of both or neither keeps the correspondence. -/
theorem rel_filter {o : Option α} {o' : Option β} {p : α → Bool} {q : β → Bool}
    (h : Option.Rel R o o') (hpq : ∀ a b, R a b → p a = q b) :
    Option.Rel R (o.filter p) (o'.filter q) := by
  cases h with
  | none => exact .none
  | @some a b h =>
    rw [Option.filter_some, Option.filter_some, hpq a b h]
    split
    · exact .some h
    · exact .none

end Search

variable {R : TypeDecl → TypeDecl → Prop} {context context' : TypeDecl}

/-- A reference means corresponding types in catalogs whose types correspond. -/
theorem Catalog.rel_resolve (hnaming : ∀ t t', R t t' → t.SameNaming t') {c c' : Catalog}
    (hc : List.Forall₂ R c.types c'.types) (hcontext : context.SameNaming context')
    (reference : TypeExpr) :
    Option.Rel R (c.resolve reference (some context)) (c'.resolve reference (some context')) := by
  cases reference with
  | named qualifier name args =>
    -- Names, scopes and arities correspond, and tests look at nothing else.
    have hgrades : grades qualifier name (some context) = grades qualifier name (some context') := by
      unfold grades sharesScope
      simp only [Option.any_some, hcontext.ignoresCase, hcontext.scope]
    have hnamesakes : List.Forall₂ R (c.namesakes name args.length (some context))
        (c'.namesakes name args.length (some context')) := by
      unfold namesakes
      refine List.rel_filter (fun t t' ht => ?_) hc
      simp only [Option.any_some, (hnaming t t' ht).name, (hnaming t t' ht).arity,
        hcontext.ignoresCase]
    rw [resolve_named, resolve_named, hgrades]
    refine rel_search hnamesakes fun test htest t t' ht => ?_
    have hsame := hnaming t t' ht
    unfold grades scopeFits sharesScope at htest
    simp only [List.mem_cons, List.not_mem_nil, or_false] at htest
    rcases htest with rfl | rfl | rfl | rfl | rfl | rfl <;> simp only [hsame.name, hsame.scope]
  | _ => exact .none

/-- Whether the types of two models correspond, layer by layer and one by one. -/
def Model.Correspond (R : TypeDecl → TypeDecl → Prop) (m m' : Model) : Prop :=
  List.Forall₂ (fun c c' : Catalog => List.Forall₂ R c.types c'.types) m.layers m'.layers

/-- A reference means corresponding types in models whose types correspond. -/
theorem Model.rel_resolve (hnaming : ∀ t t', R t t' → t.SameNaming t') {m m' : Model}
    (hm : Model.Correspond R m m') (hcontext : context.SameNaming context')
    (reference : TypeExpr) :
    Option.Rel R (m.resolve reference (some context)) (m'.resolve reference (some context')) := by
  obtain ⟨layers⟩ := m
  obtain ⟨layers'⟩ := m'
  have hlayers : List.Forall₂ (fun c c' : Catalog => List.Forall₂ R c.types c'.types)
      layers layers' := hm
  clear hm
  induction hlayers with
  | nil => exact .none
  | cons hc _ ih =>
    rw [Model.resolve_cons, Model.resolve_cons]
    exact rel_or (Catalog.rel_resolve hnaming hc hcontext reference) ih

end ViewForge
