import Mathlib.Data.List.Induction
import ViewForge.Proofs.Model.Reference

/-!
# Types made of parts

A declaration that is inserted into a catalog is folded into the type at one place, the first of
which it is a part, or it becomes a new type at the end. Sameness of types is not transitive once
some of them ignore letter case, so what carries the proofs is that an insertion changes no name in
the catalog: the place of a declaration is the same at every later time (`place_foldl_insert`), and
a search finds the type at that place.

So a stored type is what its parts make together, the first of them with what each later one adds
(`stored_eq_foldl`), and earlier parts win over later ones (`stored_made_of_parts`). A declaration
that is inserted again adds nothing (`insert_of_keeps`), whatever was inserted in between
(`ofList_append_of_subset`).
-/

namespace ViewForge

namespace TypeDecl

/-! ## What a part adds -/

section Gathered

variable {α : Type} (key : α → String)

/-- The items of a list whose keys are new to another list, the first of each key. -/
def firstNew (xs ys : List α) : List α :=
  (ys.filter fun y => !xs.any (key · == key y)).eraseDupsBy fun x y => key x == key y

/-- A list followed by what others add to it, one after the other. -/
def gathered (xs : List α) (additions : List (List α)) : List α :=
  additions.foldl (fun xs ys => xs ++ firstNew key xs ys) xs

variable {key}

/-- An item whose key is there adds nothing. -/
theorem firstNew_cons_of_mem {xs ys : List α} {y : α} (h : xs.any (key · == key y) = true) :
    firstNew key xs (y :: ys) = firstNew key xs ys := by
  have hold : ¬ (!xs.any (key · == key y)) = true := by rw [h]; exact Bool.false_ne_true
  unfold firstNew
  rw [List.filter_cons, if_neg hold]

/-- An item whose key is not there is added, and what follows is new to the longer list. -/
theorem firstNew_cons_of_not_mem {xs ys : List α} {y : α}
    (h : xs.any (key · == key y) = false) :
    firstNew key xs (y :: ys) = y :: firstNew key (xs ++ [y]) ys := by
  have hnew : (!xs.any (key · == key y)) = true := by rw [h]; rfl
  -- The first of each key among the new ones is the first that is new to the longer list.
  have hfilter : (ys.filter fun z => !xs.any (key · == key z)).filter
      (fun z => decide ((key z == key y) = false)) =
        ys.filter fun z => !(xs ++ [y]).any (key · == key z) := by
    rw [List.filter_filter]
    refine List.filter_congr fun z _ => ?_
    rw [List.any_append, List.any_cons, List.any_nil, Bool.or_false, Bool.beq_comm (a := key z)]
    cases key y == key z <;> simp
  unfold firstNew
  rw [List.filter_cons, if_pos hnew, List.eraseDupsBy_cons, hfilter]

/-- A list that is extended by another is followed by what is new in that. -/
theorem extend_eq (ys : List α) : ∀ xs : List α,
    extend (fun x y => key x == key y) xs ys = xs ++ firstNew key xs ys := by
  induction ys with
  | nil => exact fun xs => (List.append_nil xs).symm
  | cons y ys ih =>
    intro xs
    have hstep : extend (fun x y => key x == key y) xs (y :: ys) =
        extend (fun x y => key x == key y)
          (if xs.any (key · == key y) then xs else xs ++ [y]) ys := rfl
    rw [hstep, ih]
    cases h : xs.any (key · == key y) with
    | true => rw [if_pos rfl, firstNew_cons_of_mem h]
    | false =>
      rw [if_neg Bool.false_ne_true, firstNew_cons_of_not_mem h, List.append_assoc]
      rfl

/-- A list that is extended by items with known keys stays as it is. -/
theorem extend_eq_self {xs ys : List α} (h : ∀ y ∈ ys, key y ∈ xs.map key) :
    extend (fun x y => key x == key y) xs ys = xs := by
  have hnone : (ys.filter fun y => !xs.any (key · == key y)) = [] := by
    rw [List.filter_eq_nil_iff]
    intro y hy
    obtain ⟨x, hx, hkey⟩ := List.mem_map.1 (h y hy)
    have hany : xs.any (key · == key y) = true := List.any_eq_true.2 ⟨x, hx, beq_iff_eq.2 hkey⟩
    rw [hany]
    exact Bool.false_ne_true
  rw [extend_eq, firstNew, hnone, List.eraseDupsBy_nil, List.append_nil]

/-- What a list is extended by comes from the other list. -/
theorem mem_or_mem_of_mem_extend {same : α → α → Bool} {z : α} (ys : List α) :
    ∀ xs : List α, z ∈ extend same xs ys → z ∈ xs ∨ z ∈ ys := by
  unfold extend
  induction ys with
  | nil => exact fun xs h => .inl h
  | cons y ys ih =>
    intro xs h
    rw [List.foldl_cons] at h
    rcases ih _ h with hz | hz
    · split at hz
      · exact .inl hz
      · rcases List.mem_append.1 hz with hz | hz
        · exact .inl hz
        · exact .inr (List.mem_singleton.1 hz ▸ List.mem_cons_self)
    · exact .inr (List.mem_cons_of_mem y hz)

/-- Under each key, a list that is extended by another has the item that comes first in the two. -/
theorem find?_extend (k : String) (ys : List α) : ∀ xs : List α,
    (extend (fun x y => key x == key y) xs ys).find? (key · == k) =
      (xs ++ ys).find? (key · == k) := by
  unfold extend
  induction ys with
  | nil => exact fun xs => by rw [List.foldl_nil, List.append_nil]
  | cons y ys ih =>
    intro xs
    rw [List.foldl_cons, ih]
    split
    · -- The item that is left out stands behind one of its key.
      rename_i hany
      obtain ⟨x, hx, hkey⟩ := List.any_eq_true.1 hany
      rw [List.find?_append, List.find?_append, List.find?_cons]
      cases hy : key y == k with
      | false => rfl
      | true =>
        have hfound : (xs.find? (key · == k)).isSome = true := by
          rw [List.find?_isSome]
          exact ⟨x, hx, by rwa [eq_of_beq hkey]⟩
        obtain ⟨found, hfound⟩ := Option.isSome_iff_exists.1 hfound
        rw [hfound, Option.some_or, Option.some_or]
    · rw [List.append_assoc, List.singleton_append]

end Gathered

/-! ## Parts folded into a type -/

/-- A part of the same type brings no type parameters that are not there. -/
theorem parameters_merge {t part : TypeDecl} (h : t.isSameType part = true) :
    (t.merge part).parameters = t.parameters := by
  have harity : t.arity = part.arity := by
    unfold isSameType at h
    exact eq_of_beq (Bool.and_eq_true_iff.1 h).2
  unfold merge
  dsimp only
  split
  · rename_i hempty
    have hnil : t.parameters = [] := List.isEmpty_iff.1 hempty
    unfold arity at harity
    rw [hnil, List.length_nil] at harity
    rw [hnil, List.length_eq_zero_iff.1 harity.symm]
  · rfl

/-- A type that has all items of a part stays as it is when the part is folded in. -/
theorem merge_eq_self {t part : TypeDecl} (h : t.isSameType part = true) (hkeeps : t.Keeps part) :
    t.merge part = t := by
  -- Bases, members and properties are extended alike: by what is not there, which is nothing.
  have hbases : extend (fun x y : String => id x == id y) t.bases part.bases = t.bases := by
    apply extend_eq_self
    intro text htext
    rw [List.map_id]
    exact base_mem_items.1 (hkeeps _ (base_mem_items.2 htext))
  have hmembers : extend (fun x y : String => id x == id y) t.members part.members =
      t.members := by
    apply extend_eq_self
    intro name hname
    rw [List.map_id]
    exact member_mem_items.1 (hkeeps _ (member_mem_items.2 hname))
  have hproperties : extend (fun p q : Property => p.name == q.name) t.properties
      part.properties = t.properties := by
    apply extend_eq_self
    intro p hp
    exact property_mem_items.1
      (hkeeps _ (property_mem_items.2 (List.mem_map_of_mem (f := (·.name)) hp)))
  calc t.merge part
      = { t with
          bases := extend (fun x y : String => id x == id y) t.bases part.bases
          properties := extend (fun p q => p.name == q.name) t.properties part.properties
          members := extend (fun x y : String => id x == id y) t.members part.members
          parameters := (t.merge part).parameters } := rfl
    _ = t := by rw [hbases, hmembers, hproperties, parameters_merge h]

/-- A type that later parts were folded into has the items of all parts. -/
theorem mem_items_foldl_merge (item : Item) (later : List TypeDecl) : ∀ first : TypeDecl,
    item ∈ (later.foldl merge first).items ↔ ∃ part ∈ first :: later, item ∈ part.items := by
  induction later with
  | nil => exact fun first => by simp only [List.foldl_nil, List.mem_singleton, exists_eq_left]
  | cons part later ih =>
    intro first
    rw [List.foldl_cons, ih, List.exists_mem_cons_iff, List.exists_mem_cons_iff,
      List.exists_mem_cons_iff, mem_items_merge, or_assoc]

/-- Whether a type is made of parts: the first of them, with what each later one adds. -/
structure MadeOf (t first : TypeDecl) (later : List TypeDecl) : Prop where
  /-- The properties of the first part are followed by the first new property of each name of each
  later part. -/
  properties : t.properties = gathered (·.name) first.properties (later.map (·.properties))
  /-- The bases likewise. -/
  bases : t.bases = gathered id first.bases (later.map (·.bases))
  /-- The members of an enumeration likewise. -/
  members : t.members = gathered id first.members (later.map (·.members))
  /-- Of each name, the property is that of the earliest part with one. -/
  earliest (name : String) : t.properties.find? (·.name == name) =
    ((first :: later).flatMap (·.properties)).find? (·.name == name)
  /-- Each property is one of a part. -/
  declared (p : Property) (h : p ∈ t.properties) : ∃ part ∈ first :: later, p ∈ part.properties
  /-- The items are those of the parts. -/
  items (item : Item) : item ∈ t.items ↔ ∃ part ∈ first :: later, item ∈ part.items

/-- What later parts make of a list that each of them extends is gathered from the lists. -/
theorem foldl_merge_eq_gathered {α : Type} {key : α → String} {list : TypeDecl → List α}
    (h : ∀ t part, list (merge t part) =
      extend (fun x y => key x == key y) (list t) (list part)) (later : List TypeDecl) :
    ∀ first : TypeDecl, list (later.foldl merge first) =
      gathered key (list first) (later.map list) := by
  unfold gathered
  induction later with
  | nil => exact fun first => rfl
  | cons part later ih =>
    intro first
    rw [List.foldl_cons, ih, h, extend_eq, List.map_cons, List.foldl_cons]

/-- A type that later parts were folded into is made of them. -/
theorem madeOf_foldl_merge (later : List TypeDecl) :
    ∀ first : TypeDecl, (later.foldl merge first).MadeOf first later := by
  intro first
  refine ⟨?_, ?_, ?_, ?_, ?_, fun item => mem_items_foldl_merge item later first⟩
  · exact foldl_merge_eq_gathered (fun _ _ => rfl) later first
  · exact foldl_merge_eq_gathered (fun _ _ => rfl) later first
  · exact foldl_merge_eq_gathered (fun _ _ => rfl) later first
  -- The first property of a name stays the first, as a part only adds behind it.
  · intro name
    induction later generalizing first with
    | nil => rw [List.foldl_nil, List.flatMap_singleton]
    | cons part later ih =>
      have hfirst : (first.merge part).properties.find? (·.name == name) =
          (first.properties ++ part.properties).find? (·.name == name) :=
        find?_extend name part.properties first.properties
      rw [List.foldl_cons, ih, List.flatMap_cons, List.flatMap_cons, List.flatMap_cons,
        List.find?_append, hfirst, ← List.find?_append, List.append_assoc]
  · intro p hp
    induction later generalizing first with
    | nil => exact ⟨first, List.mem_cons_self, hp⟩
    | cons part later ih =>
      obtain ⟨source, hsource, hmem⟩ := ih (first.merge part) hp
      rcases List.mem_cons.1 hsource with rfl | hlater
      · rcases mem_or_mem_of_mem_extend part.properties first.properties hmem with h | h
        · exact ⟨first, List.mem_cons_self, h⟩
        · exact ⟨part, List.mem_cons_of_mem _ List.mem_cons_self, h⟩
      · exact ⟨source, List.mem_cons_of_mem _ (List.mem_cons_of_mem _ hlater), hmem⟩

end TypeDecl

namespace Catalog

/-! ## The place of a declaration -/

/-- The place of the type that a declaration is folded into: the first of which it is a part, or the
end. -/
def place (c : Catalog) (t : TypeDecl) : Nat := c.types.findIdx (isPartOf t)

/-- A search finds the type at the place of the declaration. -/
theorem find?_eq_getElem?_place (c : Catalog) (t : TypeDecl) : c.find? t = c.types[c.place t]? :=
  List.find?_eq_getElem?_findIdx

/-- Every declaration is a part of itself. -/
theorem isPartOf_self (t : TypeDecl) : isPartOf t t = true := by
  unfold isPartOf
  rw [sameName_self, TypeDecl.isSameType_self, Bool.and_self]

/-- Whether a declaration is a part of a type does not change when another part is folded into
that. -/
theorem isPartOf_merge {t stored : TypeDecl} (h : isPartOf t stored = true) (u : TypeDecl) :
    isPartOf u (stored.merge t) = isPartOf u stored :=
  isPartOf_congr ⟨rfl, rfl, rfl, rfl⟩
    (TypeDecl.sameNaming_merge (Bool.and_eq_true_iff.1 h).2)

/-- An insertion changes the type at the place of the declaration and no other. -/
theorem getElem?_insertInto (t : TypeDecl) (l : List TypeDecl) : ∀ i : Nat,
    (insertInto t l)[i]? =
      if i = l.findIdx (isPartOf t) then some ((l[i]?.map (·.merge t)).getD t) else l[i]? := by
  induction l with
  | nil =>
    intro i
    cases i <;> rfl
  | cons stored rest ih =>
    intro i
    -- The walk over the list ends at the first part of the declaration, or adds it at the end.
    rw [insertInto, List.findIdx_cons]
    cases hpart : isPartOf t stored with
    | true =>
      rw [if_pos rfl, cond_true]
      cases i <;> rfl
    | false =>
      rw [if_neg Bool.false_ne_true, cond_false]
      cases i with
      | zero => rfl
      | succ i =>
        rw [List.getElem?_cons_succ, List.getElem?_cons_succ, ih]
        simp only [Nat.add_right_cancel_iff]

/-- A declaration that is inserted is a part of the type at its place, and of none before it. -/
theorem findIdx_insertInto_self (t : TypeDecl) (l : List TypeDecl) :
    (insertInto t l).findIdx (isPartOf t) = l.findIdx (isPartOf t) := by
  induction l with
  | nil =>
    rw [insertInto, List.findIdx_cons, isPartOf_self]
    rfl
  | cons stored rest ih =>
    rw [insertInto]
    split
    · rename_i hpart
      rw [List.findIdx_cons, List.findIdx_cons, isPartOf_merge hpart]
    · rw [List.findIdx_cons, List.findIdx_cons, ih]

/-- A declaration with a place among the types keeps it when another is inserted. -/
theorem findIdx_insertInto_of_lt {t u : TypeDecl} {l : List TypeDecl}
    (h : l.findIdx (isPartOf u) < l.length) :
    (insertInto t l).findIdx (isPartOf u) = l.findIdx (isPartOf u) := by
  induction l with
  | nil => exact absurd h (Nat.lt_irrefl 0)
  | cons stored rest ih =>
    -- A merge changes nothing that `isPartOf` looks at, so an entry is found where it was.
    rw [insertInto]
    split
    · rename_i hpart
      rw [List.findIdx_cons, List.findIdx_cons, isPartOf_merge hpart]
    · rw [List.findIdx_cons, List.findIdx_cons]
      cases hu : isPartOf u stored with
      | true => rfl
      | false =>
        have hrest : rest.findIdx (isPartOf u) < rest.length := by
          rw [List.findIdx_cons, hu, cond_false, List.length_cons] at h
          omega
        rw [ih hrest]

/-- A declaration is inserted at its place. -/
theorem getElem?_insert (c : Catalog) (t : TypeDecl) (i : Nat) :
    (c.insert t).types[i]? =
      if i = c.place t then some ((c.types[i]?.map (·.merge t)).getD t) else c.types[i]? :=
  getElem?_insertInto t c.types i

/-- The place of a declaration that is inserted is that from before. -/
theorem place_insert_self (c : Catalog) (t : TypeDecl) : (c.insert t).place t = c.place t :=
  findIdx_insertInto_self t c.types

/-- There is a type at the place of a declaration that was inserted. -/
theorem place_lt_length_insert (c : Catalog) (t : TypeDecl) :
    c.place t < (c.insert t).types.length := by
  have hsome := c.getElem?_insert t (c.place t)
  rw [if_pos rfl] at hsome
  exact (List.getElem?_eq_some_iff.1 hsome).1

/-- However many declarations are inserted, one with a place among the types keeps it. -/
theorem place_foldl_insert (later : List TypeDecl) {t : TypeDecl} : ∀ {c : Catalog},
    c.place t < c.types.length →
      (later.foldl insert c).place t = c.place t ∧
        c.place t < (later.foldl insert c).types.length := by
  induction later with
  | nil => exact fun h => ⟨rfl, h⟩
  | cons u later ih =>
    intro c h
    have hplace : (c.insert u).place t = c.place t := findIdx_insertInto_of_lt h
    -- An insertion never shortens the list: what had an entry has one.
    have hlt : (c.insert u).place t < (c.insert u).types.length := by
      rw [hplace]
      by_contra hge
      have hnone : (c.insert u).types[c.place t]? = none :=
        List.getElem?_eq_none (Nat.not_lt.1 hge)
      rw [getElem?_insert, List.getElem?_eq_getElem h] at hnone
      split at hnone <;> exact Option.some_ne_none _ hnone
    obtain ⟨heq, hend⟩ := ih hlt
    rw [List.foldl_cons, heq, ← hplace]
    exact ⟨rfl, hend⟩

/-! ## Types and their parts -/

/-- A catalog of declarations, the last of which is inserted last. -/
theorem ofList_concat (ts : List TypeDecl) (t : TypeDecl) :
    ofList (ts ++ [t]) = (ofList ts).insert t := List.foldl_concat ..

/-- A declaration that was inserted keeps its place whatever is inserted later, and there is a type
at it. -/
theorem place_ofList_append (before : List TypeDecl) (t : TypeDecl) (later : List TypeDecl) :
    (ofList (before ++ t :: later)).place t = (ofList before).place t ∧
      (ofList before).place t < (ofList (before ++ t :: later)).types.length := by
  have hofList : ofList (before ++ t :: later) = later.foldl insert ((ofList before).insert t) := by
    unfold ofList
    rw [List.foldl_append, List.foldl_cons]
  have hself := (ofList before).place_insert_self t
  have hkept := @place_foldl_insert later t ((ofList before).insert t)
    (by rw [hself]; exact (ofList before).place_lt_length_insert t)
  rwa [hself, ← hofList] at hkept

/-- There is a type at the place of each declaration that was inserted. -/
theorem place_lt_length_ofList {ts : List TypeDecl} {t : TypeDecl} (h : t ∈ ts) :
    (ofList ts).place t < (ofList ts).types.length := by
  obtain ⟨before, later, rfl⟩ := List.append_of_mem h
  obtain ⟨heq, hlt⟩ := place_ofList_append before t later
  rwa [heq]

/-- The declarations that were folded into the type at a place, in the order of insertion. -/
def partsAt (ts : List TypeDecl) (k : Nat) : List TypeDecl :=
  ts.filter fun t => (ofList ts).place t == k

/-- The parts of the type at a place, after one more declaration. -/
theorem partsAt_concat (ts : List TypeDecl) (t : TypeDecl) (k : Nat) :
    partsAt (ts ++ [t]) k = partsAt ts k ++ if (ofList ts).place t = k then [t] else [] := by
  -- The last declaration moves no earlier one, so only its own place gains a part.
  have hold : ts.filter (fun u => (ofList (ts ++ [t])).place u == k) = partsAt ts k := by
    refine List.filter_congr fun u hu => ?_
    rw [ofList_concat]
    have hkept := @place_foldl_insert [t] u _ (place_lt_length_ofList hu)
    rw [List.foldl_cons, List.foldl_nil] at hkept
    rw [hkept.1]
  have hnew : [t].filter (fun u => (ofList (ts ++ [t])).place u == k) =
      if (ofList ts).place t = k then [t] else [] := by
    rw [List.filter_singleton, ofList_concat, place_insert_self]
    by_cases hplace : (ofList ts).place t = k
    · rw [if_pos hplace, beq_iff_eq.2 hplace]
      rfl
    · rw [if_neg hplace, beq_eq_false_iff_ne.2 hplace]
      rfl
  rw [← hold, ← hnew]
  exact List.filter_append ..

/-- A stored type is what its parts make together, folded into the first one after the other. -/
theorem stored_eq_foldl (ts : List TypeDecl) {k : Nat} {stored : TypeDecl}
    (h : (ofList ts).types[k]? = some stored) :
    ∃ first later, partsAt ts k = first :: later ∧
      stored = later.foldl TypeDecl.merge first := by
  induction ts using List.reverseRec generalizing stored with
  | nil => exact absurd h (Option.some_ne_none stored).symm
  | append_singleton ts t ih =>
    rw [ofList_concat, getElem?_insert] at h
    rw [partsAt_concat]
    by_cases hk : k = (ofList ts).place t
    · rw [if_pos hk] at h
      rw [if_pos hk.symm]
      cases hold : (ofList ts).types[k]? with
      | some old =>
        -- The declaration is folded into a type that is there.
        obtain ⟨first, later, hparts, rfl⟩ := ih hold
        rw [hold, Option.map_some, Option.getD_some] at h
        refine ⟨first, later ++ [t], by rw [hparts]; rfl, ?_⟩
        rw [← Option.some.inj h, List.foldl_concat]
      | none =>
        -- The declaration is a new type, and no other one was inserted at its place.
        have hnone : partsAt ts k = [] := by
          refine List.filter_eq_nil_iff.2 fun u hu hplace => ?_
          have hlt := place_lt_length_ofList hu
          rw [eq_of_beq hplace] at hlt
          exact absurd hold (by rw [List.getElem?_eq_getElem hlt]; exact Option.some_ne_none _)
        rw [hold, Option.map_none, Option.getD_none] at h
        exact ⟨t, [], by rw [hnone]; rfl, (Option.some.inj h).symm⟩
    · rw [if_neg hk] at h
      rw [if_neg (Ne.symm hk), List.append_nil]
      exact ih h

/-- A search for a declaration that was inserted finds a type that has all its items. -/
theorem find?_keeps_of_mem {ts : List TypeDecl} {t : TypeDecl} (h : t ∈ ts) :
    ∃ stored, (ofList ts).find? t = some stored ∧ stored.Keeps t := by
  have hlt := place_lt_length_ofList h
  have hstored := List.getElem?_eq_getElem hlt
  refine ⟨_, (find?_eq_getElem?_place _ t).trans hstored, ?_⟩
  obtain ⟨first, later, hparts, hfold⟩ := stored_eq_foldl ts hstored
  have hmem : t ∈ first :: later := by
    rw [← hparts]
    exact List.mem_filter.2 ⟨h, beq_self_eq_true _⟩
  intro item hitem
  rw [hfold, TypeDecl.mem_items_foldl_merge]
  exact ⟨t, hmem, hitem⟩

/-- Inserted declarations are kept and kept apart. No two stored types of one name up to letter case
are the same type. A declaration is folded into the type at one place, at which it is found however
many are inserted later, and that type has all its items. And a stored type is made of the
declarations that were folded into it, in their order. -/
theorem stored_made_of_parts (ts : List TypeDecl) :
    ((ofList ts).types.Pairwise fun t u =>
        sameName t.name u.name = true → t.isSameType u = false) ∧
      (∀ before t later, ts = before ++ t :: later →
        (ofList ts).place t = (ofList before).place t ∧
          ∃ stored, (ofList ts).find? t = some stored ∧
            (ofList ts).types[(ofList before).place t]? = some stored ∧ stored.Keeps t) ∧
      ∀ (k : Nat) stored, (ofList ts).types[k]? = some stored →
        ∃ first later, partsAt ts k = first :: later ∧ stored.MadeOf first later := by
  refine ⟨?_, ?_, ?_⟩
  · refine (apart_ofList ts).imp fun {t u} hpart hname => ?_
    unfold isPartOf at hpart
    rwa [hname, Bool.true_and] at hpart
  · rintro before t later rfl
    obtain ⟨hplace, -⟩ := place_ofList_append before t later
    obtain ⟨stored, hfind, hkeeps⟩ := find?_keeps_of_mem
      (List.mem_append_right before (List.mem_cons_self (a := t) (l := later)))
    refine ⟨hplace, stored, hfind, ?_, hkeeps⟩
    rw [← hplace, ← find?_eq_getElem?_place, hfind]
  · intro k stored hstored
    obtain ⟨first, later, hparts, rfl⟩ := stored_eq_foldl ts hstored
    exact ⟨first, later, hparts, TypeDecl.madeOf_foldl_merge later first⟩

/-! ## Inserting again -/

/-- A declaration all of whose items are in the type it is a part of changes nothing. -/
theorem insert_of_keeps {c : Catalog} {t stored : TypeDecl} (hfind : c.find? t = some stored)
    (hkeeps : stored.Keeps t) : c.insert t = c := by
  have hpart : isPartOf t stored = true := List.find?_some hfind
  have hsame : stored.isSameType t = true := (Bool.and_eq_true_iff.1 hpart).2
  have htypes : (c.insert t).types = c.types := by
    refine List.ext_getElem? fun i => ?_
    rw [getElem?_insert]
    split
    · rename_i hi
      rw [hi, ← find?_eq_getElem?_place, hfind, Option.map_some, Option.getD_some,
        TypeDecl.merge_eq_self hsame hkeeps]
    · rfl
  show Catalog.mk (c.insert t).types = c
  rw [htypes]

/-- Declarations that are inserted again, in any order, change nothing: the catalog is the same as
without them, and so is whatever is looked up in it. -/
theorem ofList_append_of_subset {ts again : List TypeDecl} (h : again ⊆ ts) :
    ofList (ts ++ again) = ofList ts := by
  unfold ofList
  rw [List.foldl_append]
  show again.foldl insert (ofList ts) = ofList ts
  induction again with
  | nil => rfl
  | cons t again ih =>
    obtain ⟨ht, hagain⟩ := List.cons_subset.1 h
    obtain ⟨stored, hfind, hkeeps⟩ := find?_keeps_of_mem ht
    rw [List.foldl_cons, insert_of_keeps hfind hkeeps, ih hagain]

/-- A class `VM`, or `Vm` for those that ignore letter case, with one property. -/
def anyCaseVm (property : String) (ignoresCase : Bool) : TypeDecl :=
  { vm "App" property with name := "VM", ignoresCase := ignoresCase }

/-- A part that ignores letter case is found again in the type it was folded into, though a later
type is closer to it in spelling. -/
theorem ofList_append_of_subset_any_case :
    [anyCaseVm "Second" true, vm "App" "First"] ⊆
        [vm "App" "First", anyCaseVm "Second" true, anyCaseVm "Third" false] ∧
      ofList ([vm "App" "First", anyCaseVm "Second" true, anyCaseVm "Third" false] ++
          [anyCaseVm "Second" true, vm "App" "First"]) =
        ofList [vm "App" "First", anyCaseVm "Second" true, anyCaseVm "Third" false] := by
  have hsubset : [anyCaseVm "Second" true, vm "App" "First"] ⊆
      [vm "App" "First", anyCaseVm "Second" true, anyCaseVm "Third" false] := by
    intro t ht
    simp only [List.mem_cons, List.not_mem_nil, or_false] at ht ⊢
    rcases ht with rfl | rfl
    · exact .inr (.inl rfl)
    · exact .inl rfl
  exact ⟨hsubset, ofList_append_of_subset hsubset⟩

end Catalog

end ViewForge
