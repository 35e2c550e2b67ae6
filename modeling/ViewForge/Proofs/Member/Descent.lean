import ViewForge.Proofs.Member.Walk

/-!
# Where a walk along base classes ends

A type descends from its base class, from the base class of that and so on, whatever names come back
(`descent`). The walk that collects members goes along the same classes, but ends where a full name
comes back. It compares no numbers of parameters, so it also ends before a type that is new to it
and only shares its name with one before.

The walk visits all classes that a type descends from exactly if no full name comes back among them,
and an exposed property that is the first of its name is a member exactly if none does up to the
class that declares it (`members_along_descent_iff`). A class that derives from a generic class of
its own name shows nothing of it (`namesake_ends_walk`).
-/

namespace ViewForge.Member

/-- The first classes that a type descends from, nearest first: the type, its base class, the base
class of that and so on, each with what its parameters stand for. -/
def descent (m : Model) : Nat → TypeDecl → Bindings → List (TypeDecl × Bindings)
  | 0, _, _ => []
  | n + 1, t, b =>
    (t, b) :: match base? m t b with
      | some (base, reference) => descent m n base (base.parameters.zip reference.args)
      | none => []

/-- Whether no type comes back among the classes that a type descends from. Types are the same if
they have the same full name and the same number of parameters. -/
def RepeatsNoType (m : Model) (t : TypeDecl) : Prop :=
  ∀ n, (descent m n t []).Pairwise fun x y =>
    ¬ (x.1.fullName = y.1.fullName ∧ x.1.arity = y.1.arity)

/-- The full names of visited types. -/
def fullNames (visited : List (TypeDecl × Bindings)) : List String := visited.map (·.1.fullName)

/-- Whether a property stands at a place of visited types, is exposed and is the first of its
name. -/
structure FirstExposedAt (visited : List (TypeDecl × Bindings)) (excluded : List String)
    (place : Place) (entry : Property × TypeDecl × Bindings) : Prop where
  /-- It is declared there. -/
  declared : DeclaredAt visited place entry
  /-- It is exposed. -/
  exposed : isExposed excluded entry.1 = true
  /-- No property before it has its name, be it exposed or not. -/
  first : ∀ place' entry', place'.Before place → DeclaredAt visited place' entry' →
    entry'.1.name ≠ entry.1.name

variable {m : Model}

/-! ## The walk along the descent -/

/-- Whether the full names of types are different and none was met before. -/
def Unmet (met : List String) (visited : List (TypeDecl × Bindings)) : Prop :=
  (fullNames visited).Nodup ∧ ∀ name ∈ fullNames visited, name ∉ met

/-- A type and those behind it were not met if it was not, and those behind it were not and differ
from it. -/
theorem unmet_cons_iff {met : List String} {visit : TypeDecl × Bindings}
    {rest : List (TypeDecl × Bindings)} : Unmet met (visit :: rest) ↔
      visit.1.fullName ∉ met ∧ Unmet (visit.1.fullName :: met) rest := by
  unfold Unmet fullNames
  rw [List.map_cons, List.nodup_cons, List.forall_mem_cons]
  constructor
  · rintro ⟨⟨hfirst, hnodup⟩, hmet, hrest⟩
    refine ⟨hmet, hnodup, fun name hname hmem => ?_⟩
    rcases List.mem_cons.1 hmem with rfl | hmem
    · exact hfirst hname
    · exact hrest name hname hmem
  · rintro ⟨hmet, hnodup, hrest⟩
    refine ⟨⟨fun hmem => ?_, hnodup⟩, hmet, fun name hname hmem => ?_⟩
    · exact hrest _ hmem List.mem_cons_self
    · exact hrest name hname (List.mem_cons_of_mem _ hmem)

/-- A type that was not met is one of different types that were not. -/
theorem unmet_singleton {met : List String} {visit : TypeDecl × Bindings}
    (h : visit.1.fullName ∉ met) : Unmet met [visit] :=
  unmet_cons_iff.2 ⟨h, .nil, fun _ hname => absurd hname List.not_mem_nil⟩

/-- A walk visits types of different names. -/
theorem Walk.unmet {met : List String} {t : TypeDecl} {b : Bindings}
    {visited : List (TypeDecl × Bindings)} (h : Walk m met t b visited) : Unmet met visited := by
  induction h with
  | again => exact ⟨.nil, fun _ hname => absurd hname List.not_mem_nil⟩
  | last hmet => exact unmet_singleton hmet
  | next hmet _ _ ih => exact unmet_cons_iff.2 ⟨hmet, ih⟩

/-- A walk visits a class of the descent, at the same place, exactly if the names up to there are
different and were not met. -/
theorem Walk.getElem?_eq {met : List String} {t : TypeDecl} {b : Bindings}
    {visited : List (TypeDecl × Bindings)} (h : Walk m met t b visited) {n k : Nat}
    {visit : TypeDecl × Bindings} (hvisit : (descent m n t b)[k]? = some visit) :
    (Unmet met ((descent m n t b).take (k + 1)) → visited[k]? = some visit) ∧
      (¬ Unmet met ((descent m n t b).take (k + 1)) → visited[k]? = none) := by
  induction h generalizing n k with
  | @again met t b hmet =>
    cases n with
    | zero => exact nomatch hvisit
    | succ n =>
      -- The first class was met already, so the names up to any class were.
      refine ⟨fun hunmet => ?_, fun _ => rfl⟩
      exact absurd hmet (unmet_cons_iff.1 hunmet).1
  | @last met t b hmet hbase =>
    cases n with
    | zero => exact nomatch hvisit
    | succ n =>
      rw [descent, hbase] at hvisit ⊢
      cases k with
      | zero => exact ⟨fun _ => hvisit, fun hnot => absurd (unmet_singleton hmet) hnot⟩
      | succ k => exact nomatch hvisit
  | @next met t base b reference rest hmet hbase hrest ih =>
    cases n with
    | zero => exact nomatch hvisit
    | succ n =>
      rw [descent, hbase] at hvisit ⊢
      cases k with
      | zero => exact ⟨fun _ => hvisit, fun hnot => absurd (unmet_singleton hmet) hnot⟩
      | succ k =>
        have hrest := ih (n := n) (k := k) hvisit
        rw [List.take_succ_cons, unmet_cons_iff, List.getElem?_cons_succ, and_iff_right hmet]
        exact hrest

/-- The walk of a type visits a class that the type descends from exactly if no full name comes back
up to there. -/
theorem chain_getElem?_eq {t : TypeDecl} {n k : Nat} {visit : TypeDecl × Bindings}
    (hvisit : (descent m n t [])[k]? = some visit) :
    ((fullNames ((descent m n t []).take (k + 1))).Nodup → (chain m t)[k]? = some visit) ∧
      (¬ (fullNames ((descent m n t []).take (k + 1))).Nodup → (chain m t)[k]? = none) := by
  have hunmet (visited : List (TypeDecl × Bindings)) :
      Unmet [] visited ↔ (fullNames visited).Nodup :=
    and_iff_left fun _ _ => List.not_mem_nil
  have hwalk := ((walk_iff t (chain m t)).2 rfl).getElem?_eq hvisit
  rw [hunmet] at hwalk
  exact hwalk

/-- As far as the walk of a type goes, it goes along the classes that the type descends from. -/
theorem descent_getElem?_of_chain {t : TypeDecl} {n k : Nat} {visit : TypeDecl × Bindings}
    (hvisit : (chain m t)[k]? = some visit) (hk : k < (descent m n t []).length) :
    (descent m n t [])[k]? = some visit := by
  have hsome : (descent m n t [])[k]? = some (descent m n t [])[k] := List.getElem?_eq_getElem hk
  obtain ⟨hfresh, hstopped⟩ := chain_getElem?_eq hsome
  by_cases hnodup : (fullNames ((descent m n t []).take (k + 1))).Nodup
  · rw [hsome, ← hfresh hnodup, hvisit]
  · rw [hstopped hnodup] at hvisit
    exact nomatch hvisit

/-! ## Members -/

/-- The first exposed property of a name along the descent is a member exactly if the walk comes to
the class that declares it. -/
theorem ofEntry_mem_exposed_iff {excluded : List String} {t : TypeDecl} {n : Nat} {place : Place}
    {entry : Property × TypeDecl × Bindings}
    (h : FirstExposedAt (descent m n t []) excluded place entry) :
    ofEntry entry ∈ exposed m excluded t ↔
      (fullNames ((descent m n t []).take (place.1 + 1))).Nodup := by
  obtain ⟨hvisit, hproperty⟩ := h.declared
  obtain ⟨hfresh, hstopped⟩ := chain_getElem?_eq hvisit
  obtain ⟨hlength, -⟩ := List.getElem?_eq_some_iff.1 hvisit
  -- What the walk finds at a place up to that of the property, the descent has there too.
  have hdescent {place' : Place} {entry' : Property × TypeDecl × Bindings}
      (hle : place'.1 ≤ place.1) (hat : DeclaredAt (chain m t) place' entry') :
      DeclaredAt (descent m n t []) place' entry' :=
    ⟨descent_getElem?_of_chain hat.1 (by omega), hat.2⟩
  rw [exposed_eq_map]
  constructor
  · intro hmem
    by_contra hrepeated
    obtain ⟨x, hx, hmember⟩ := List.mem_map.1 hmem
    obtain ⟨hat, -, -⟩ := mem_exposedPlaced.1 hx
    -- The walk ends before the class, so the member of that name would stand before the property.
    have hbefore : x.1.1 < place.1 := by
      have hend : (chain m t).length ≤ place.1 :=
        List.getElem?_eq_none_iff.1 (hstopped hrepeated)
      obtain ⟨hx, -⟩ := List.getElem?_eq_some_iff.1 hat.1
      omega
    have hname : x.2.1.name = entry.1.name := by
      have hnames := congrArg (·.property.name) hmember
      dsimp only [ofEntry] at hnames
      rwa [name_bind, name_bind] at hnames
    exact h.first x.1 x.2 (.inl hbefore) (hdescent (Nat.le_of_lt hbefore) hat) hname
  · intro hnodup
    refine List.mem_map.2 ⟨(place, entry), mem_exposedPlaced.2 ⟨?_, h.exposed, ?_⟩, rfl⟩
    · exact ⟨hfresh hnodup, hproperty⟩
    · intro place' entry' hbefore hat
      have hle : place'.1 ≤ place.1 := by
        rcases hbefore with h | h
        · exact Nat.le_of_lt h
        · exact Nat.le_of_eq h.1
      exact h.first place' entry' hbefore (hdescent hle hat)

/-- The walk of a type visits all classes that the type descends from exactly if no full name comes
back among them. An exposed property that is the first of its name among them is a member of the
type exactly if no full name comes back up to the class that declares it. -/
theorem members_along_descent_iff (m : Model) (excluded : List String) (t : TypeDecl) :
    ((∀ n, descent m n t [] <+: chain m t) ↔ ∀ n, (fullNames (descent m n t [])).Nodup) ∧
      ∀ n place entry, FirstExposedAt (descent m n t []) excluded place entry →
        (ofEntry entry ∈ exposed m excluded t ↔
          (fullNames ((descent m n t []).take (place.1 + 1))).Nodup) := by
  refine ⟨⟨fun hvisits n => ?_, fun hnodup n => ?_⟩, fun n place entry => ofEntry_mem_exposed_iff⟩
  · have hchain : (fullNames (chain m t)).Nodup := ((walk_iff t (chain m t)).2 rfl).unmet.1
    exact hchain.sublist ((hvisits n).sublist.map _)
  · rw [List.prefix_iff_getElem?]
    intro k hk
    have hvisit : (descent m n t [])[k]? = some (descent m n t [])[k] :=
      List.getElem?_eq_getElem hk
    refine (chain_getElem?_eq hvisit).1 ?_
    exact (hnodup n).sublist ((List.take_sublist _ _).map _)

/-! ## A namesake -/

/-- A class with a parameter and a property of a list of it. -/
def genericRepository : TypeDecl where
  name := "Repository"
  kind := .class
  parameters := ["T"]
  properties := [{ name := "Items", typeText := "List<T>" }]

/-- A class of the same name that derives from it. -/
def orderRepository : TypeDecl where
  name := "Repository"
  kind := .class
  bases := ["Repository<Order>"]
  properties := [{ name := "Title", typeText := "string" }]

/-- Both classes in one catalog. -/
def repositories : Model := ⟨[Catalog.ofList [orderRepository, genericRepository]]⟩

/-- What the parameter of the generic class stands for behind the other. -/
def ofOrders : Bindings := [("T", .bare "Order")]

/-- No type comes back among the two classes, yet the generic one is not visited and its property is
no member. -/
theorem namesake_ends_walk :
    RepeatsNoType repositories orderRepository ∧
      ∃ n place entry,
        FirstExposedAt (descent repositories n orderRepository []) [] place entry ∧
          ofEntry entry ∉ exposed repositories [] orderRepository := by
  have hbase : base? repositories orderRepository [] =
      some (genericRepository, .named none "Repository" [.bare "Order"]) := by
    decide +kernel
  have hlast : base? repositories genericRepository ofOrders = none := by decide +kernel
  have hone : descent repositories 1 orderRepository [] = [(orderRepository, [])] := by
    rw [descent, hbase]
    rfl
  have htwo (n : Nat) : descent repositories (n + 2) orderRepository [] =
      [(orderRepository, []), (genericRepository, ofOrders)] := by
    rw [descent, hbase]
    show _ :: descent repositories (n + 1) genericRepository ofOrders = _
    rw [descent, hlast]
  have hmembers : (exposed repositories [] orderRepository).map (·.property.name) = ["Title"] := by
    decide +kernel
  refine ⟨fun n => ?_, 2, (1, 0), ({ name := "Items", typeText := "List<T>" },
    genericRepository, ofOrders), ?_, fun hmem => ?_⟩
  · rcases n with _ | _ | n
    · exact .nil
    · rw [hone]
      exact List.pairwise_singleton _ _
    · rw [htwo]
      exact List.pairwise_pair.2 (by decide)
  · rw [htwo 0]
    refine ⟨⟨rfl, rfl⟩, rfl, ?_⟩
    -- The one place before is that of the other property.
    rintro ⟨i, j⟩ ⟨p, visit⟩ hbefore ⟨hvisit, hproperty⟩
    obtain rfl : i = 0 := by
      rcases hbefore with h | ⟨-, h⟩
      · exact Nat.lt_one_iff.1 h
      · exact absurd h (Nat.not_lt_zero j)
    obtain rfl : (orderRepository, []) = visit := Option.some.inj hvisit
    obtain rfl : p = { name := "Title", typeText := "string" } :=
      List.mem_singleton.1 (List.mem_of_getElem? hproperty)
    decide
  · have hname := List.mem_map_of_mem (f := (·.property.name)) hmem
    rw [hmembers] at hname
    exact absurd hname (by decide +kernel)

end ViewForge.Member
