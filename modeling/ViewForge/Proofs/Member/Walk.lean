import Mathlib.Data.List.Basic
import Mathlib.Data.List.Nodup
import ViewForge.Member.Exposed

/-!
# The members along a walk

A walk goes from a type to its base class, from there to the next, and ends where there is none or
where a full name comes back (`Walk`). Each type has one walk, over every model, be its base lists
cyclic or not, and `chain` lists what it visits (`walk_iff`).

A place of a walk is the number of a visited type and that of a property in it. The exposed members
of a type stand at the places whose property is exposed and is the first of its name, in the order
of the places (`exposed_along_walk`). What is left out only removes members and uncovers none.
-/

namespace ViewForge

/-! ## Where resolved types come from -/

/-- What a reference means in a catalog is stored there. -/
theorem Catalog.mem_types_of_resolve {c : Catalog} {reference : TypeExpr}
    {context : Option TypeDecl} {t : TypeDecl} (h : c.resolve reference context = some t) :
    t ∈ c.types := by
  cases reference with
  | named qualifier name args =>
    have hcandidates : ∀ u ∈ c.candidates name args.length (context.any (·.ignoresCase)),
        u ∈ c.types := by
      intro u hu
      unfold candidates at hu
      rcases List.mem_append.1 hu with hu | hu <;>
        exact List.mem_of_mem_filter (List.mem_of_mem_filter hu)
    apply hcandidates
    -- By a qualifier, by the scope of the context, or simply the first: all three are searched for
    -- among the candidates.
    unfold resolve at h
    rcases Option.or_eq_some_iff.1 h with h | ⟨-, h⟩
    · obtain ⟨q, -, hfind⟩ := Option.bind_eq_some_iff.1 h
      exact List.mem_of_find?_eq_some hfind
    · rcases Option.or_eq_some_iff.1 h with h | ⟨-, h⟩
      · obtain ⟨around, -, hfind⟩ := Option.bind_eq_some_iff.1 h
        exact List.mem_of_find?_eq_some hfind
      · exact List.mem_of_mem_head? h
  | _ => exact nomatch h

/-- What a reference means in a model is stored in a layer of it. -/
theorem Model.mem_types_of_resolve {m : Model} {reference : TypeExpr}
    {context : Option TypeDecl} {t : TypeDecl} (h : m.resolve reference context = some t) :
    t ∈ m.types := by
  obtain ⟨c, hc, ht⟩ := List.exists_of_findSome?_eq_some h
  exact List.mem_flatMap.2 ⟨c, hc, Catalog.mem_types_of_resolve ht⟩

namespace Member

/-- A base class is a type of the model. -/
theorem mem_types_of_baseIn? {m : Model} {t base : TypeDecl} {b : Bindings} {reference : TypeExpr} :
    ∀ {texts : List String}, baseIn? m t b texts = some (base, reference) → base ∈ m.types
  | [], h => nomatch h
  | text :: rest, h => by
    unfold baseIn? at h
    split at h
    · exact mem_types_of_baseIn? h
    · dsimp only at h
      split at h
      · exact nomatch h
      · split at h
        · rename_i found hfound
          obtain rfl : found = base := congrArg Prod.fst (Option.some.inj h)
          exact Model.mem_types_of_resolve (Option.eq_some_of_filter_eq_some hfound)
        · exact mem_types_of_baseIn? h

/-! ## Walks -/

/-- The walk along base classes from a type, and the types that it visits, each with what its
parameters stand for. The names in `met` have been met before. -/
inductive Walk (m : Model) : List String → TypeDecl → Bindings → List (TypeDecl × Bindings) → Prop
  /-- A name that comes back ends the walk. -/
  | again {met : List String} {t : TypeDecl} {b : Bindings} (hmet : t.fullName ∈ met) :
      Walk m met t b []
  /-- A type without a base class is the last. -/
  | last {met : List String} {t : TypeDecl} {b : Bindings} (hmet : t.fullName ∉ met)
      (hbase : base? m t b = none) : Walk m met t b [(t, b)]
  /-- The walk goes on from the base class, whose parameters stand for the arguments given to it. -/
  | next {met : List String} {t base : TypeDecl} {b : Bindings} {reference : TypeExpr}
      {rest : List (TypeDecl × Bindings)} (hmet : t.fullName ∉ met)
      (hbase : base? m t b = some (base, reference))
      (hrest : Walk m (t.fullName :: met) base (base.parameters.zip reference.args) rest) :
      Walk m met t b ((t, b) :: rest)

variable {m : Model}

/-- A walk is determined by where it begins. -/
theorem Walk.unique {met : List String} {t : TypeDecl} {b : Bindings}
    {l l' : List (TypeDecl × Bindings)} (h : Walk m met t b l) (h' : Walk m met t b l') :
    l = l' := by
  induction h generalizing l' with
  | again hmet =>
    cases h' with
    | again => rfl
    | last hnot => exact absurd hmet hnot
    | next hnot => exact absurd hmet hnot
  | last hmet hbase =>
    cases h' with
    | again hmem => exact absurd hmem hmet
    | last => rfl
    | next _ hbase' => rw [hbase] at hbase'; exact nomatch hbase'
  | next hmet hbase hrest ih =>
    cases h' with
    | again hmem => exact absurd hmem hmet
    | last _ hbase' => rw [hbase] at hbase'; exact nomatch hbase'
    | next _ hbase' hrest' =>
      rw [hbase] at hbase'
      obtain ⟨rfl, rfl⟩ := Prod.mk.inj (Option.some.inj hbase')
      rw [ih hrest']

/-- The number of types of a model whose names were not met. -/
def unmet (m : Model) (met : List String) : Nat :=
  (m.types.filter fun t => !met.contains t.fullName).length

/-- A type of the model that is met for the first time leaves fewer to meet. -/
theorem unmet_cons_lt {met : List String} {t : TypeDecl} (ht : t ∈ m.types)
    (hmet : t.fullName ∉ met) : unmet m (t.fullName :: met) < unmet m met := by
  have hfresh : (!met.contains t.fullName) = true := by
    rw [Bool.not_eq_true', List.contains_eq_mem, decide_eq_false hmet]
  have hfewer : (m.types.filter fun u => !(t.fullName :: met).contains u.fullName) =
      (m.types.filter fun u => !met.contains u.fullName).filter fun u =>
        !(u.fullName == t.fullName) := by
    rw [List.filter_filter]
    simp only [List.contains_cons, Bool.not_or]
  unfold unmet
  rw [hfewer, List.length_filter_lt_length_iff_exists]
  exact ⟨t, List.mem_filter.2 ⟨ht, hfresh⟩, by simp⟩

/-- Fuel for the types not yet met carries the walk to its end. -/
theorem walk_chainWith : ∀ (fuel : Nat) (met : List String) (t : TypeDecl) (b : Bindings),
    t ∈ m.types → unmet m met ≤ fuel → Walk m met t b (chainWith m fuel met t b)
  | 0, met, t, b, ht, hfuel => by
    -- With all types met, this one is among them.
    unfold chainWith
    refine .again ?_
    by_contra hmet
    have := unmet_cons_lt ht hmet
    omega
  | fuel + 1, met, t, b, ht, hfuel => by
    unfold chainWith
    split
    · rename_i hmet
      exact .again (List.contains_iff_mem.1 hmet)
    · rename_i hmet
      have hmet : t.fullName ∉ met := fun hmem => hmet (List.contains_iff_mem.2 hmem)
      have hless := unmet_cons_lt ht hmet
      cases hbase : base? m t b with
      | none => exact .last hmet hbase
      | some found =>
        refine .next hmet hbase ?_
        exact walk_chainWith fuel _ _ _ (mem_types_of_baseIn? hbase) (by omega)

/-- A type has one walk, and its chain lists what the walk visits. -/
theorem walk_iff (t : TypeDecl) (visited : List (TypeDecl × Bindings)) :
    Walk m [] t [] visited ↔ visited = chain m t := by
  have hwalk : Walk m [] t [] (chain m t) := by
    -- The type at the start need not be one of the model; those behind it are.
    unfold chain chainWith
    cases hbase : base? m t [] with
    | none => exact .last List.not_mem_nil hbase
    | some found =>
      refine .next List.not_mem_nil hbase (walk_chainWith _ _ _ _ (mem_types_of_baseIn? hbase) ?_)
      exact List.length_filter_le _ _
  exact ⟨fun h => h.unique hwalk, fun h => h ▸ hwalk⟩

/-! ## Places -/

/-- The number of a visited type, and that of a property in it. -/
abbrev Place := Nat × Nat

/-- A place before another: in a type visited earlier, or earlier in the same. -/
def Place.Before (x y : Place) : Prop := x.1 < y.1 ∨ x.1 = y.1 ∧ x.2 < y.2

/-- Of two places at most one stands before the other. -/
theorem Place.Before.asymm {x y : Place} (h : x.Before y) : ¬ y.Before x := by
  unfold Place.Before at *
  omega

/-- Whether a walk has a property at a place, in a type with its bindings. -/
def DeclaredAt (visited : List (TypeDecl × Bindings)) (place : Place)
    (entry : Property × TypeDecl × Bindings) : Prop :=
  visited[place.1]? = some entry.2 ∧ entry.2.1.properties[place.2]? = some entry.1

/-- The properties of one visited type with their places. -/
def placedIn (k : Nat) (visit : TypeDecl × Bindings) :
    List (Place × Property × TypeDecl × Bindings) :=
  visit.1.properties.zipIdx.map fun (p, j) => ((k, j), p, visit)

/-- The properties along a walk with their places; `k` is the number of the first type. -/
def placed : Nat → List (TypeDecl × Bindings) → List (Place × Property × TypeDecl × Bindings)
  | _, [] => []
  | k, visit :: rest => placedIn k visit ++ placed (k + 1) rest

theorem mem_placedIn {k : Nat} {visit : TypeDecl × Bindings}
    {x : Place × Property × TypeDecl × Bindings} :
    x ∈ placedIn k visit ↔
      x.1.1 = k ∧ x.2.2 = visit ∧ visit.1.properties[x.1.2]? = some x.2.1 := by
  obtain ⟨⟨i, j⟩, p, t, b⟩ := x
  unfold placedIn
  simp only [List.mem_map, List.mem_zipIdx_iff_getElem?, Prod.exists, Prod.mk.injEq]
  constructor
  · rintro ⟨q, n, hq, ⟨rfl, rfl⟩, rfl, rfl⟩
    exact ⟨rfl, rfl, hq⟩
  · rintro ⟨rfl, rfl, hp⟩
    exact ⟨p, j, hp, ⟨rfl, rfl⟩, rfl, rfl⟩

theorem mem_placed {x : Place × Property × TypeDecl × Bindings} :
    ∀ {k : Nat} {visited : List (TypeDecl × Bindings)}, x ∈ placed k visited ↔
      ∃ i, x.1.1 = k + i ∧ visited[i]? = some x.2.2 ∧
        x.2.2.1.properties[x.1.2]? = some x.2.1
  | _, [] => by simp [placed]
  | k, visit :: rest => by
    rw [placed, List.mem_append, mem_placedIn, mem_placed]
    constructor
    · rintro (⟨hk, rfl, hp⟩ | ⟨i, hk, hvisit, hp⟩)
      · exact ⟨0, hk, rfl, hp⟩
      · exact ⟨i + 1, by omega, hvisit, hp⟩
    · rintro ⟨i, hk, hvisit, hp⟩
      cases i with
      | zero =>
        obtain rfl : visit = x.2.2 := Option.some.inj hvisit
        exact .inl ⟨hk, rfl, hp⟩
      | succ i => exact .inr ⟨i, by omega, hvisit, hp⟩

/-- A walk has the properties at their places. -/
theorem mem_placed_iff {visited : List (TypeDecl × Bindings)}
    {x : Place × Property × TypeDecl × Bindings} :
    x ∈ placed 0 visited ↔ DeclaredAt visited x.1 x.2 := by
  rw [mem_placed]
  unfold DeclaredAt
  constructor
  · rintro ⟨i, hi, hvisit, hp⟩
    rw [hi, Nat.zero_add]
    exact ⟨hvisit, hp⟩
  · rintro ⟨hvisit, hp⟩
    exact ⟨x.1.1, (Nat.zero_add _).symm, hvisit, hp⟩

/-- The places along a walk are in order. -/
theorem placed_pairwise : ∀ (k : Nat) (visited : List (TypeDecl × Bindings)),
    (placed k visited).Pairwise fun x y => x.1.Before y.1
  | _, [] => .nil
  | k, visit :: rest => by
    rw [placed, List.pairwise_append]
    refine ⟨?_, placed_pairwise (k + 1) rest, ?_⟩
    · unfold placedIn
      rw [List.pairwise_map, List.pairwise_iff_getElem]
      intro i j hi hj hlt
      rw [List.getElem_zipIdx, List.getElem_zipIdx]
      refine .inr ⟨rfl, ?_⟩
      dsimp only
      omega
    · intro x hx y hy
      obtain ⟨hx, -⟩ := mem_placedIn.1 hx
      obtain ⟨i, hy, -⟩ := mem_placed.1 hy
      exact .inl (by omega)

/-- Without their places, these are the declared properties. -/
theorem map_snd_placed : ∀ (k : Nat) (visited : List (TypeDecl × Bindings)),
    (placed k visited).map (·.2) = declared visited
  | _, [] => rfl
  | k, visit :: rest => by
    have hfirst : (placedIn k visit).map (·.2) = visit.1.properties.map fun p => (p, visit) := by
      unfold placedIn
      rw [List.map_map]
      conv_rhs => rw [← List.zipIdx_map_fst 0 visit.1.properties, List.map_map]
      rfl
    rw [placed, List.map_append, hfirst, map_snd_placed (k + 1) rest]
    rfl

/-! ## The first of a name -/

/-- The placed properties whose name none before them has; `seen` holds the names met so far. -/
def firstPlaced (seen : List String) :
    List (Place × Property × TypeDecl × Bindings) → List (Place × Property × TypeDecl × Bindings)
  | [] => []
  | x :: rest =>
    if seen.contains x.2.1.name then firstPlaced seen rest
    else x :: firstPlaced (x.2.1.name :: seen) rest

/-- Without their places, these are the first entries of their names. -/
theorem map_snd_firstPlaced (seen : List String)
    (l : List (Place × Property × TypeDecl × Bindings)) :
    (firstPlaced seen l).map (·.2) = firstOfName seen (l.map (·.2)) := by
  induction l generalizing seen with
  | nil => rfl
  | cons x rest ih =>
    rw [List.map_cons, firstPlaced, firstOfName]
    split
    · exact ih seen
    · rw [List.map_cons, ih]

/-- They keep their order. -/
theorem firstPlaced_sublist (seen : List String)
    (l : List (Place × Property × TypeDecl × Bindings)) : (firstPlaced seen l).Sublist l := by
  induction l generalizing seen with
  | nil => exact .slnil
  | cons x rest ih =>
    rw [firstPlaced]
    split
    · exact (ih seen).cons x
    · exact (ih _).cons_cons x

/-- An entry is the first of its name if its name was not seen and no place before it has it. -/
theorem mem_firstPlaced {seen : List String} {l : List (Place × Property × TypeDecl × Bindings)}
    (hl : l.Pairwise fun x y => x.1.Before y.1) {x : Place × Property × TypeDecl × Bindings} :
    x ∈ firstPlaced seen l ↔ x ∈ l ∧ x.2.1.name ∉ seen ∧
      ∀ y ∈ l, y.1.Before x.1 → y.2.1.name ≠ x.2.1.name := by
  induction l generalizing seen with
  | nil => simp [firstPlaced]
  | cons a rest ih =>
    obtain ⟨hafter, hrest⟩ := List.pairwise_cons.1 hl
    rw [firstPlaced]
    split
    · -- The name of the head was seen, so the head neither stays nor hides anything new.
      rename_i hseen
      have hseen : a.2.1.name ∈ seen := List.contains_iff_mem.1 hseen
      refine (ih hrest).trans ?_
      constructor
      · rintro ⟨hx, hfresh, hfirst⟩
        refine ⟨List.mem_cons_of_mem a hx, hfresh, ?_⟩
        intro y hy hbefore
        rcases List.mem_cons.1 hy with rfl | hy
        · exact fun hname => hfresh (hname ▸ hseen)
        · exact hfirst y hy hbefore
      · rintro ⟨hx, hfresh, hfirst⟩
        rcases List.mem_cons.1 hx with rfl | hx
        · exact absurd hseen hfresh
        · exact ⟨hx, hfresh, fun y hy => hfirst y (List.mem_cons_of_mem a hy)⟩
    · -- The head stays, and hides the rest of its name.
      rename_i hseen
      have hseen : a.2.1.name ∉ seen := fun hmem => hseen (List.contains_iff_mem.2 hmem)
      refine List.mem_cons.trans ((or_congr_right (ih hrest)).trans ?_)
      constructor
      · rintro (rfl | ⟨hx, hfresh, hfirst⟩)
        · refine ⟨List.mem_cons_self, hseen, fun y hy hbefore => ?_⟩
          rcases List.mem_cons.1 hy with rfl | hy
          · exact absurd hbefore hbefore.asymm
          · exact absurd hbefore (hafter y hy).asymm
        · obtain ⟨hname, hfresh⟩ := not_or.1 (fun h => hfresh (List.mem_cons.2 h))
          refine ⟨List.mem_cons_of_mem a hx, hfresh, fun y hy hbefore => ?_⟩
          rcases List.mem_cons.1 hy with rfl | hy
          · exact fun h => hname h.symm
          · exact hfirst y hy hbefore
      · rintro ⟨hx, hfresh, hfirst⟩
        rcases List.mem_cons.1 hx with rfl | hx
        · exact .inl rfl
        · have hname : a.2.1.name ≠ x.2.1.name := hfirst a List.mem_cons_self (hafter x hx)
          refine .inr ⟨hx, ?_, fun y hy => hfirst y (List.mem_cons_of_mem a hy)⟩
          rw [List.mem_cons, not_or]
          exact ⟨hname.symm, hfresh⟩

/-- The first entries of their names have different names. -/
theorem nodup_firstOfName (seen : List String) (l : List (Property × TypeDecl × Bindings)) :
    ((firstOfName seen l).map (·.1.name)).Nodup ∧
      ∀ entry ∈ firstOfName seen l, entry.1.name ∉ seen := by
  induction l generalizing seen with
  | nil => exact ⟨.nil, fun _ h => nomatch h⟩
  | cons entry rest ih =>
    rw [firstOfName]
    split
    · exact ih seen
    · rename_i hseen
      have hseen : entry.1.name ∉ seen := fun hmem => hseen (List.contains_iff_mem.2 hmem)
      -- Behind the entry its name counts as seen, so it does not come again.
      obtain ⟨hnodup, hfresh⟩ := ih (entry.1.name :: seen)
      rw [List.map_cons, List.nodup_cons]
      refine ⟨⟨?_, hnodup⟩, ?_⟩
      · intro hmem
        obtain ⟨other, hother, hname⟩ := List.mem_map.1 hmem
        exact hfresh other hother (hname ▸ List.mem_cons_self)
      · intro other hother
        rcases List.mem_cons.1 hother with rfl | hother
        · exact hseen
        · exact fun hmem => hfresh other hother (List.mem_cons_of_mem _ hmem)

/-! ## Exposed members -/

/-- Binding type parameters changes the type text only. -/
theorem bind_eq (b : Bindings) (p : Property) :
    bind b p = { p with typeText := (bind b p).typeText } := by
  unfold bind
  split
  · dsimp only
    split <;> rfl
  · rfl

/-- A bound property is exposed if it was before. -/
theorem isExposed_bind (excluded : List String) (b : Bindings) (p : Property) :
    isExposed excluded (bind b p) = isExposed excluded p := by
  rw [bind_eq]
  rfl

theorem name_bind (b : Bindings) (p : Property) : (bind b p).name = p.name := by
  rw [bind_eq]

/-- A property is exposed if it is so with nothing left out, and is not left out itself. -/
theorem isExposed_eq (excluded : List String) (p : Property) :
    isExposed excluded p = (!isExcluded excluded p.name && isExposed [] p) := by
  have hnone : isExcluded [] p.name = false := rfl
  unfold isExposed
  rw [hnone, Bool.not_false, Bool.and_true, Bool.and_comm]

/-- The member for a declared property. -/
def ofEntry (entry : Property × TypeDecl × Bindings) : Member :=
  ⟨bind entry.2.2 entry.1, entry.2.1⟩

/-- Leaving names out removes those members and changes no other. -/
theorem exposed_eq_filter (m : Model) (excluded : List String) (t : TypeDecl) :
    exposed m excluded t =
      (exposed m [] t).filter fun member => !isExcluded excluded member.property.name := by
  have hexposed (entry : Property × TypeDecl × Bindings) : isExposed excluded entry.1 =
      (!isExcluded excluded (ofEntry entry).property.name && isExposed [] entry.1) := by
    unfold ofEntry
    rw [name_bind]
    exact isExposed_eq excluded entry.1
  generalize hfirst : firstOfName [] (declared (chain m t)) = first
  unfold exposed
  rw [hfirst]
  show (first.filter fun e => isExposed excluded e.1).map ofEntry =
    ((first.filter fun e => isExposed [] e.1).map ofEntry).filter _
  rw [List.filter_map, List.filter_filter]
  simp only [hexposed, Function.comp_apply]

/-- The exposed properties along the base classes of a type that are the first of their names, with
their places. -/
def exposedPlaced (m : Model) (excluded : List String) (t : TypeDecl) :
    List (Place × Property × TypeDecl × Bindings) :=
  (firstPlaced [] (placed 0 (chain m t))).filter fun x => isExposed excluded x.2.1

/-- They stand at the places of exposed properties of whose name no place before has one. -/
theorem mem_exposedPlaced {m : Model} {excluded : List String} {t : TypeDecl}
    {x : Place × Property × TypeDecl × Bindings} :
    x ∈ exposedPlaced m excluded t ↔ DeclaredAt (chain m t) x.1 x.2 ∧
      isExposed excluded x.2.1 = true ∧
      ∀ place' entry', place'.Before x.1 → DeclaredAt (chain m t) place' entry' →
        entry'.1.name ≠ x.2.1.name := by
  unfold exposedPlaced
  rw [List.mem_filter, mem_firstPlaced (placed_pairwise 0 (chain m t)), mem_placed_iff]
  constructor
  · rintro ⟨⟨hat, -, hfirst⟩, hexposed⟩
    exact ⟨hat, hexposed, fun place' entry' hbefore hat' =>
      hfirst (place', entry') (mem_placed_iff.2 hat') hbefore⟩
  · rintro ⟨hat, hexposed, hfirst⟩
    exact ⟨⟨hat, List.not_mem_nil, fun y hat' hbefore =>
      hfirst y.1 y.2 hbefore (mem_placed_iff.1 hat')⟩, hexposed⟩

/-- They stand in the order of their places. -/
theorem exposedPlaced_pairwise (m : Model) (excluded : List String) (t : TypeDecl) :
    ((exposedPlaced m excluded t).map (·.1)).Pairwise Place.Before := by
  rw [List.pairwise_map]
  refine (placed_pairwise 0 (chain m t)).sublist ?_
  exact List.filter_sublist.trans (firstPlaced_sublist [] _)

/-- The exposed members are these. -/
theorem exposed_eq_map (m : Model) (excluded : List String) (t : TypeDecl) :
    exposed m excluded t = (exposedPlaced m excluded t).map fun x => ofEntry x.2 := by
  have hentries : (firstPlaced [] (placed 0 (chain m t))).map (·.2) =
      firstOfName [] (declared (chain m t)) := by
    rw [map_snd_firstPlaced, map_snd_placed]
  show ((firstOfName [] (declared (chain m t))).filter fun e => isExposed excluded e.1).map
    ofEntry = _
  unfold exposedPlaced
  rw [← hentries, List.filter_map, List.map_map]
  rfl

/-- Exposed members have different names. -/
theorem nodup_exposed (m : Model) (excluded : List String) (t : TypeDecl) :
    ((exposed m excluded t).map (·.property.name)).Nodup := by
  have hnames : (exposed m excluded t).map (·.property.name) =
      ((firstOfName [] (declared (chain m t))).filter fun e => isExposed excluded e.1).map
        (·.1.name) := by
    unfold exposed
    rw [List.map_map]
    refine List.map_congr_left fun entry _ => ?_
    exact name_bind entry.2.2 entry.1
  rw [hnames]
  exact (nodup_firstOfName [] _).1.sublist (List.filter_sublist.map _)

/-- Exposed members are exposed. -/
theorem isExposed_of_mem_exposed {m : Model} {excluded : List String} {t : TypeDecl}
    {member : Member} (h : member ∈ exposed m excluded t) :
    isExposed excluded member.property = true := by
  unfold exposed at h
  obtain ⟨entry, hentry, rfl⟩ := List.mem_map.1 h
  rw [isExposed_bind]
  exact (List.mem_filter.1 hentry).2

/-- Each type has one walk along its base classes, over every model. Its exposed members stand at
places of the walk, in their order: at those whose property is exposed and of whose name no place
before has a property, exposed or not. They are all exposed and have different names, and leaving
names out only removes members. -/
theorem exposed_along_walk (m : Model) (excluded : List String) (t : TypeDecl) :
    ∃ visited, (∀ l, Walk m [] t [] l ↔ l = visited) ∧
      (∃ places : List Place, places.Pairwise Place.Before ∧
        (∀ place, place ∈ places ↔ ∃ entry, DeclaredAt visited place entry ∧
          isExposed excluded entry.1 = true ∧
          ∀ place' entry', place'.Before place → DeclaredAt visited place' entry' →
            entry'.1.name ≠ entry.1.name) ∧
        List.Forall₂ (fun place member => ∃ entry, DeclaredAt visited place entry ∧
          member = ofEntry entry) places (exposed m excluded t)) ∧
      ((exposed m excluded t).map (·.property.name)).Nodup ∧
      (∀ member ∈ exposed m excluded t, isExposed excluded member.property = true) ∧
      exposed m excluded t =
        (exposed m [] t).filter fun member => !isExcluded excluded member.property.name := by
  refine ⟨chain m t, walk_iff t, ?_, nodup_exposed m excluded t,
    fun _ => isExposed_of_mem_exposed, exposed_eq_filter m excluded t⟩
  -- The members are those of the placed ones, whose places are in order and describe them.
  refine ⟨(exposedPlaced m excluded t).map (·.1), exposedPlaced_pairwise m excluded t, ?_, ?_⟩
  · intro place
    rw [List.mem_map]
    constructor
    · rintro ⟨x, hx, rfl⟩
      exact ⟨x.2, mem_exposedPlaced.1 hx⟩
    · rintro ⟨entry, hentry⟩
      exact ⟨(place, entry), mem_exposedPlaced.2 hentry, rfl⟩
  · rw [exposed_eq_map, List.forall₂_map_left_iff, List.forall₂_map_right_iff, List.forall₂_same]
    intro x hx
    exact ⟨x.2, (mem_exposedPlaced.1 hx).1, rfl⟩

end Member

end ViewForge
