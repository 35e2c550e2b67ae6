import ViewForge.Proofs.Model.Reference

/-!
# References across layers

A layer answers a qualified reference if it holds any namesake of it, that is a type of its name and
arity, in whatever scope. A namesake whose scope fits the qualifier is preferred
(`resolve_of_fits`), but only within the layer. So a reference that only the far one of two layers
can answer to the letter reaches that layer exactly if the near one holds no namesake
(`reaches_far_layer_iff`), and a namesake in the near layer takes it otherwise
(`namesake_takes_reference`).
-/

namespace ViewForge

namespace Catalog

/-- The candidates for a reference are its namesakes, in another order. -/
theorem mem_candidates {c : Catalog} {name : String} {arity : Nat} {context : Option TypeDecl}
    {t : TypeDecl} : t ∈ c.candidates name arity (context.any (·.ignoresCase)) ↔
      t ∈ c.namesakes name arity context := by
  show t ∈ (c.namesakes name arity context).filter (·.name == name) ++
    (c.namesakes name arity context).filter (·.name != name) ↔ _
  rw [List.mem_append, List.mem_filter, List.mem_filter, ← and_or_left]
  -- What is left of the two filters is that the spelling is the same or another.
  have hspelling : (t.name == name) = true ∨ (t.name != name) = true := by
    cases hname : t.name == name with
    | true => exact .inl rfl
    | false => exact .inr (by rw [bne, hname, Bool.not_false])
  exact and_iff_left hspelling

/-- A type that a reference means is one of its namesakes. -/
theorem mem_namesakes_of_resolve {c : Catalog} {qualifier : Option String} {name : String}
    {args : List TypeExpr} {context : Option TypeDecl} {t : TypeDecl}
    (h : c.resolve (.named qualifier name args) context = some t) :
    t ∈ c.namesakes name args.length context := by
  obtain ⟨i, hi, -⟩ := (resolve_named_eq_some_iff c qualifier name args context t).1 h
  exact List.mem_of_getElem? hi

/-- A reference means nothing exactly if it has no namesakes. -/
theorem resolve_eq_none_iff {c : Catalog} {qualifier : Option String} {name : String}
    {args : List TypeExpr} {context : Option TypeDecl} :
    c.resolve (.named qualifier name args) context = none ↔
      c.namesakes name args.length context = [] := by
  constructor
  · intro h
    unfold resolve at h
    -- The last resort is the first candidate of all, so there is none.
    have hhead := (Option.or_eq_none_iff.1 (Option.or_eq_none_iff.1 h).2).2
    refine List.eq_nil_iff_forall_not_mem.2 fun t ht => ?_
    rw [← mem_candidates, List.head?_eq_none_iff.1 hhead] at ht
    exact List.not_mem_nil ht
  · intro h
    refine Option.eq_none_iff_forall_ne_some.2 fun t ht => ?_
    have hmem := mem_namesakes_of_resolve ht
    rw [h] at hmem
    exact List.not_mem_nil hmem

/-- If the scope of some namesake fits the qualifier of a reference, the reference means a namesake
whose scope does. -/
theorem resolve_of_fits {c : Catalog} {qualifier name : String} {args : List TypeExpr}
    {context : Option TypeDecl} {t : TypeDecl} (ht : t ∈ c.namesakes name args.length context)
    (hfits : scopeFits (context.any (·.ignoresCase)) qualifier t = true) :
    ∃ found ∈ c.namesakes name args.length context,
      scopeFits (context.any (·.ignoresCase)) qualifier found = true ∧
        c.resolve (.named (some qualifier) name args) context = some found := by
  have hsome : ((c.candidates name args.length (context.any (·.ignoresCase))).find?
      (scopeFits (context.any (·.ignoresCase)) qualifier)).isSome = true :=
    List.find?_isSome.2 ⟨t, mem_candidates.2 ht, hfits⟩
  obtain ⟨found, hfound⟩ := Option.isSome_iff_exists.1 hsome
  have hmem := mem_candidates.1 (List.mem_of_find?_eq_some hfound)
  refine ⟨found, hmem, List.find?_some hfound, ?_⟩
  unfold resolve
  dsimp only
  rw [Option.bind_some, hfound, Option.some_or]

end Catalog

namespace Model

open Catalog (scopeFits order)

/-- Let a qualified reference have a namesake in the far one of two layers whose scope fits the
qualifier, and none such in the near layer. It means a type of the far layer whose scope fits
exactly if the near layer holds no namesake at all; otherwise it means one of the near layer, in
another scope. -/
theorem reaches_far_layer_iff (near far : Catalog) (qualifier name : String)
    (args : List TypeExpr) (context : Option TypeDecl)
    (hfar : ∃ t ∈ far.namesakes name args.length context,
      scopeFits (context.any (·.ignoresCase)) qualifier t = true)
    (hnear : ∀ t ∈ near.namesakes name args.length context,
      scopeFits (context.any (·.ignoresCase)) qualifier t = false) :
    ((∃ t ∈ far.namesakes name args.length context,
        scopeFits (context.any (·.ignoresCase)) qualifier t = true ∧
          Model.resolve ⟨[near, far]⟩ (.named (some qualifier) name args) context = some t) ↔
      near.namesakes name args.length context = []) ∧
    (near.namesakes name args.length context ≠ [] →
      ∃ t ∈ near.namesakes name args.length context,
        scopeFits (context.any (·.ignoresCase)) qualifier t = false ∧
          Model.resolve ⟨[near, far]⟩ (.named (some qualifier) name args) context = some t) := by
  rw [resolve_cons]
  -- What the near layer answers, if it answers, does not fit.
  have htaken (t : TypeDecl)
      (hanswer : near.resolve (.named (some qualifier) name args) context = some t) :
      t ∈ near.namesakes name args.length context ∧
        scopeFits (context.any (·.ignoresCase)) qualifier t = false := by
    have hmem := Catalog.mem_namesakes_of_resolve hanswer
    exact ⟨hmem, hnear t hmem⟩
  cases hanswer : near.resolve (.named (some qualifier) name args) context with
  | some t =>
    obtain ⟨hmem, hunfit⟩ := htaken t hanswer
    rw [Option.some_or]
    refine ⟨iff_of_false ?_ (List.ne_nil_of_mem hmem), fun _ => ⟨t, hmem, hunfit, rfl⟩⟩
    rintro ⟨u, -, hfits, hsame⟩
    obtain rfl := Option.some.inj hsame
    rw [hunfit] at hfits
    exact Bool.noConfusion hfits
  | none =>
    have hnone := Catalog.resolve_eq_none_iff.1 hanswer
    obtain ⟨t, ht, hfits⟩ := hfar
    obtain ⟨found, hfound, hfoundFits, hresolve⟩ := Catalog.resolve_of_fits ht hfits
    have hlast : Model.resolve ⟨[far]⟩ (.named (some qualifier) name args) context =
        some found := by
      rw [resolve_cons, hresolve, Option.some_or]
    rw [Option.none_or, hlast]
    exact ⟨iff_of_true ⟨found, hfound, hfoundFits, rfl⟩ hnone, fun hsome => absurd hnone hsome⟩

/-- With no `Order` in the near layer, `Shop.Order` reaches the far one past an `Order` elsewhere;
with one, it does not. -/
theorem reaches_far_layer_past_other :
    ((∃ t ∈ Catalog.namesakes ⟨[order (some "Ui"), order (some "My.Shop")]⟩ "Order" 0 none,
        scopeFits false "Shop" t = true ∧
          Model.resolve ⟨[⟨[]⟩, ⟨[order (some "Ui"), order (some "My.Shop")]⟩]⟩
            (.named (some "Shop") "Order" []) none = some t) ↔
      Catalog.namesakes ⟨[]⟩ "Order" 0 none = []) ∧
    ((∃ t ∈ Catalog.namesakes ⟨[order (some "Shop")]⟩ "Order" 0 none,
        scopeFits false "Shop" t = true ∧
          Model.resolve ⟨[⟨[order (some "Ui")]⟩, ⟨[order (some "Shop")]⟩]⟩
            (.named (some "Shop") "Order" []) none = some t) ↔
      Catalog.namesakes ⟨[order (some "Ui")]⟩ "Order" 0 none = []) :=
  ⟨(reaches_far_layer_iff ⟨[]⟩ ⟨[order (some "Ui"), order (some "My.Shop")]⟩ "Shop" "Order" [] none
      (by decide +kernel) (by decide +kernel)).1,
    (reaches_far_layer_iff ⟨[order (some "Ui")]⟩ ⟨[order (some "Shop")]⟩ "Shop" "Order" [] none
      (by decide +kernel) (by decide +kernel)).1⟩

/-- A type of the near layer takes a qualified reference from a type of exactly that name in the far
layer, though its own scope has nothing to do with the qualifier. In one layer the two would not be
confused. -/
theorem namesake_takes_reference :
    (order (some "Shop")).scope = some "Shop" ∧
      (∀ t ∈ [order (some "Ui")], scopeFits false "Shop" t = false) ∧
      Model.resolve ⟨[⟨[order (some "Ui")]⟩, ⟨[order (some "Shop")]⟩]⟩
        (.named (some "Shop") "Order" []) none = some (order (some "Ui")) ∧
      Catalog.resolve ⟨[order (some "Ui"), order (some "Shop")]⟩
        (.named (some "Shop") "Order" []) none = some (order (some "Shop")) := by
  decide +kernel

end Model

end ViewForge
