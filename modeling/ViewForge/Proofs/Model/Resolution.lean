import ViewForge.Model.Catalog

/-!
# Resolution

A reference means one of its namesakes, the types of its name and arity: the first of the nearest
(`resolve_named_eq_some_iff`). How near a namesake is tells the first grade that it reaches, from a
scope that fits the qualifier, over the scope of the context, to any scope, and in each of them the
same spelling before another.

Resolution asks for one grade after the other and takes the first type of the first grade that some
type reaches. `search_eq_some_iff` is the fact about lists behind it.
-/

namespace ViewForge

/-! ## Search by grades -/

section Search

variable {α : Type}

/-- The first item that passes the first test that some item passes. -/
def search (tests : List (α → Bool)) (l : List α) : Option α :=
  tests.findSome? fun test => l.find? test

/-- The place of the first test that an item passes. -/
def grade (tests : List (α → Bool)) (x : α) : Nat := tests.findIdx fun test => test x

/-- An item that passes the first test has the grade zero, any other has one more than among the
other tests. -/
theorem grade_cons (test : α → Bool) (tests : List (α → Bool)) (x : α) :
    grade (test :: tests) x = bif test x then 0 else grade tests x + 1 := List.findIdx_cons

/-- A search tries the first test before the others. -/
theorem search_cons (test : α → Bool) (tests : List (α → Bool)) (l : List α) :
    search (test :: tests) l = (l.find? test).or (search tests l) := by
  unfold search
  rw [List.findSome?_cons]
  cases l.find? test <;> rfl

/-- Whether an item stands in a list, all items there have at least its grade, and those before it a
higher one. -/
def IsFirstLeast (tests : List (α → Bool)) (l : List α) (x : α) : Prop :=
  ∃ i : Nat, l[i]? = some x ∧ ∀ (j : Nat) (y : α), l[j]? = some y →
    grade tests x ≤ grade tests y ∧ (j < i → grade tests x < grade tests y)

/-- There is only one first item of the least grade. -/
theorem IsFirstLeast.unique {tests : List (α → Bool)} {l : List α} {x y : α}
    (hx : IsFirstLeast tests l x) (hy : IsFirstLeast tests l y) : x = y := by
  obtain ⟨i, hi, hleastx⟩ := hx
  obtain ⟨j, hj, hleasty⟩ := hy
  have hxy := hleastx j y hj
  have hyx := hleasty i x hi
  have hij : i = j := by omega
  rw [hij, hj] at hi
  exact (Option.some.inj hi).symm

/-- What a search finds is the first item of the least grade. -/
theorem isFirstLeast_of_search {l : List α} {x : α} :
    ∀ {tests : List (α → Bool)}, search tests l = some x → IsFirstLeast tests l x
  | [], h => nomatch h
  | test :: tests, h => by
    rw [search_cons] at h
    cases hfind : l.find? test with
    | some first =>
      -- Some item passes the first test, and those before it do not.
      rw [hfind, Option.some_or] at h
      obtain rfl : first = x := Option.some.inj h
      obtain ⟨hpass, i, hi, hat, hbefore⟩ := List.find?_eq_some_iff_getElem.1 hfind
      have hzero : grade (test :: tests) first = 0 := by
        rw [grade_cons, hpass, cond_true]
      refine ⟨i, List.getElem?_eq_some_iff.2 ⟨hi, hat⟩, fun j y hj => ?_⟩
      rw [hzero]
      refine ⟨Nat.zero_le _, fun hlt => ?_⟩
      obtain ⟨hjlt, hjat⟩ := List.getElem?_eq_some_iff.1 hj
      have hfail := hbefore j hlt
      rw [hjat, Bool.not_eq_eq_eq_not, Bool.not_true] at hfail
      rw [grade_cons, hfail, cond_false]
      omega
    | none =>
      -- No item passes the first test, so all grades are those of the other tests and one more.
      rw [hfind, Option.none_or] at h
      obtain ⟨i, hi, hleast⟩ := isFirstLeast_of_search h
      have hsucc {j : Nat} {y : α} (hj : l[j]? = some y) :
          grade (test :: tests) y = grade tests y + 1 := by
        have hfail : test y = false :=
          Bool.eq_false_iff.2 (List.find?_eq_none.1 hfind y (List.mem_of_getElem? hj))
        rw [grade_cons, hfail, cond_false]
      refine ⟨i, hi, fun j y hj => ?_⟩
      have := hleast j y hj
      rw [hsucc hi, hsucc hj]
      omega

/-- A search fails in a list in which no item passes a test. -/
theorem search_eq_none_iff {tests : List (α → Bool)} {l : List α} :
    search tests l = none ↔ ∀ x ∈ l, ∀ test ∈ tests, test x = false := by
  unfold search
  rw [List.findSome?_eq_none_iff]
  constructor
  · intro h x hx test htest
    exact Bool.eq_false_iff.2 (List.find?_eq_none.1 (h test htest) x hx)
  · intro h test htest
    refine List.find?_eq_none.2 fun x hx => ?_
    rw [h x hx test htest]
    exact Bool.false_ne_true

/-- Where each item passes a test, a search finds the first item of the least grade. -/
theorem search_eq_some_iff {tests : List (α → Bool)} {l : List α} {x : α}
    (hall : ∀ x ∈ l, ∃ test ∈ tests, test x = true) :
    search tests l = some x ↔ IsFirstLeast tests l x := by
  constructor
  · exact isFirstLeast_of_search
  · intro hx
    cases hfound : search tests l with
    | some y => rw [(isFirstLeast_of_search hfound).unique hx]
    | none =>
      obtain ⟨i, hi, -⟩ := hx
      have hmem := List.mem_of_getElem? hi
      obtain ⟨test, htest, hpass⟩ := hall x hmem
      have hfail := search_eq_none_iff.1 hfound x hmem test htest
      rw [hpass] at hfail
      exact Bool.noConfusion hfail

/-- A change that no test notices may be made after a search. -/
theorem search_map {f : α → α} (l : List α) :
    ∀ {tests : List (α → Bool)}, (∀ test ∈ tests, ∀ x, test (f x) = test x) →
      search tests (l.map f) = (search tests l).map f
  | [], _ => rfl
  | test :: tests, h => by
    have hfirst : test ∘ f = test := funext (h test List.mem_cons_self)
    have hrest := search_map l fun t ht => h t (List.mem_cons_of_mem _ ht)
    rw [search_cons, search_cons, List.find?_map, hfirst, hrest]
    cases l.find? test <;> rfl

end Search

/-! ## The type that a reference means -/

namespace Catalog

/-- The types of a name and arity. Their names may differ in letter case if the context ignores
it. -/
def namesakes (c : Catalog) (name : String) (arity : Nat) (context : Option TypeDecl) :
    List TypeDecl :=
  c.types.filter fun t => t.arity == arity &&
    (if context.any (·.ignoresCase) then sameName t.name name else t.name == name)

/-- The grades of nearness, nearest first. -/
def grades (qualifier : Option String) (name : String) (context : Option TypeDecl) :
    List (TypeDecl → Bool) :=
  let anyCase := context.any (·.ignoresCase)
  let fits (t : TypeDecl) := qualifier.any (scopeFits anyCase · t)
  let shares (t : TypeDecl) := context.any (sharesScope anyCase · t)
  [fun t => t.name == name && fits t, fun t => t.name != name && fits t,
    fun t => t.name == name && shares t, fun t => t.name != name && shares t,
    fun t => t.name == name, fun t => t.name != name]

/-- The candidates are searched in their own spelling before another. -/
theorem find?_candidates (c : Catalog) (name : String) (arity : Nat) (context : Option TypeDecl)
    (p : TypeDecl → Bool) :
    (c.candidates name arity (context.any (·.ignoresCase))).find? p =
      ((c.namesakes name arity context).find? fun t => t.name == name && p t).or
        ((c.namesakes name arity context).find? fun t => t.name != name && p t) := by
  unfold candidates namesakes
  dsimp only
  rw [List.find?_append]
  simp only [List.find?_filter, Bool.decide_and, Bool.decide_eq_true]

/-- Resolution searches the namesakes by their grades. -/
theorem resolve_named (c : Catalog) (qualifier : Option String) (name : String)
    (args : List TypeExpr) (context : Option TypeDecl) :
    c.resolve (.named qualifier name args) context =
      search (grades qualifier name context) (c.namesakes name args.length context) := by
  have hbind {β : Type} (o : Option β) (l : List TypeDecl) (p : β → TypeDecl → Bool) :
      (o.bind fun x => l.find? (p x)) = l.find? fun t => o.any (p · t) := by
    cases o with
    | some x => rfl
    | none => exact (List.find?_eq_none.2 fun _ _ => Bool.false_ne_true).symm
  have hhead (l : List TypeDecl) : l.head? = l.find? fun _ => true := by
    cases l <;> rfl
  have hlast (test : TypeDecl → Bool) (l : List TypeDecl) : search [test] l = l.find? test := by
    rw [search_cons]
    exact Option.or_none
  -- Each of the three ways to resolve is two searches among the namesakes, for the spelling and
  -- without it.
  unfold resolve grades
  dsimp only
  rw [hbind, hbind, hhead, find?_candidates, find?_candidates, find?_candidates]
  simp only [search_cons _ (_ :: _), hlast, Option.or_assoc, Bool.and_true]

/-- Whether a change of types leaves alone what resolution looks at. -/
structure Transparent (f : TypeDecl → TypeDecl) : Prop where
  /-- Names stay. -/
  name : ∀ t, (f t).name = t.name
  /-- Scopes stay. -/
  scope : ∀ t, (f t).scope = t.scope
  /-- Numbers of type parameters stay. -/
  arity : ∀ t, (f t).arity = t.arity

/-- No grade notices a transparent change. -/
theorem Transparent.grades {f : TypeDecl → TypeDecl} (hf : Transparent f)
    (qualifier : Option String) (name : String) (context : Option TypeDecl) :
    ∀ test ∈ grades qualifier name context, ∀ t, test (f t) = test t := by
  intro test htest t
  have hfits (anyCase : Bool) (q : String) : scopeFits anyCase q (f t) = scopeFits anyCase q t := by
    unfold scopeFits
    rw [hf.scope]
  have hshares (anyCase : Bool) (around : TypeDecl) :
      sharesScope anyCase around (f t) = sharesScope anyCase around t := by
    unfold sharesScope
    rw [hf.scope]
  unfold Catalog.grades at htest
  simp only [List.mem_cons, List.not_mem_nil, or_false] at htest
  rcases htest with rfl | rfl | rfl | rfl | rfl | rfl <;> simp only [hf.name, hfits, hshares]

/-- A reference means a changed type in a catalog that is changed transparently. -/
theorem Transparent.resolve_map {f : TypeDecl → TypeDecl} (hf : Transparent f) (c : Catalog)
    (reference : TypeExpr) (context : Option TypeDecl) :
    Catalog.resolve ⟨c.types.map f⟩ reference context = (c.resolve reference context).map f := by
  cases reference with
  | named qualifier name args =>
    have hnamesakes : namesakes ⟨c.types.map f⟩ name args.length context =
        (c.namesakes name args.length context).map f := by
      unfold namesakes
      rw [List.filter_map]
      simp only [Function.comp_def, hf.arity, hf.name]
    rw [resolve_named, resolve_named, hnamesakes, search_map _ (hf.grades qualifier name context)]
  | _ => rfl

/-- Whether a type is the first of the nearest namesakes of a reference. -/
def Means (c : Catalog) (qualifier : Option String) (name : String) (arity : Nat)
    (context : Option TypeDecl) (t : TypeDecl) : Prop :=
  IsFirstLeast (grades qualifier name context) (c.namesakes name arity context) t

/-- A reference means the first of its nearest namesakes. -/
theorem resolve_named_eq_some_iff (c : Catalog) (qualifier : Option String) (name : String)
    (args : List TypeExpr) (context : Option TypeDecl) (t : TypeDecl) :
    c.resolve (.named qualifier name args) context = some t ↔
      c.Means qualifier name args.length context t := by
  rw [resolve_named]
  refine search_eq_some_iff fun x _ => ?_
  -- One of the last two grades holds of every type.
  cases hspelled : x.name == name with
  | true => exact ⟨fun t => t.name == name, by simp [grades], hspelled⟩
  | false =>
    refine ⟨fun t => t.name != name, by simp [grades], ?_⟩
    show (!(x.name == name)) = true
    rw [hspelled, Bool.not_false]

end Catalog

/-- A model asks its first layer before the others. -/
theorem Model.resolve_cons (c : Catalog) (layers : List Catalog) (reference : TypeExpr)
    (context : Option TypeDecl) :
    Model.resolve ⟨c :: layers⟩ reference context =
      (c.resolve reference context).or (Model.resolve ⟨layers⟩ reference context) := by
  unfold Model.resolve
  rw [List.findSome?_cons]
  cases c.resolve reference context <;> rfl

/-- The type that a reference means has as many parameters as the reference has arguments. -/
theorem Model.arity_of_resolve {m : Model} {reference : TypeExpr} {context : Option TypeDecl}
    {t : TypeDecl} (h : m.resolve reference context = some t) :
    t.arity = reference.args.length := by
  obtain ⟨c, -, ht⟩ := List.exists_of_findSome?_eq_some h
  cases reference with
  | named qualifier name args =>
    obtain ⟨i, hi, -⟩ := (c.resolve_named_eq_some_iff qualifier name args context t).1 ht
    have htest := (List.mem_filter.1 (List.mem_of_getElem? hi)).2
    exact eq_of_beq (Bool.and_eq_true_iff.1 htest).1
  | _ => exact nomatch ht

end ViewForge
