import Mathlib.Data.List.Dedup
import Mathlib.Data.List.Perm.Subperm
import ViewForge.Proofs.Render.Groups

/-!
# Element names

The element names of a call never collide: all that stand in one rendering are the same, and those of
two renderings differ, at whatever depth the renderings stand (`element_names_apart`).

A name that the state hands out is new (`State.claim_not_mem`): among one more numbers than names are
taken, one makes a name that is free, since different numbers make different names. So the names
handed out in a call are all different, and they are exactly the names of its renderings, one for
each rendering that has a name (`GroupRun.claims`). The induction counts how often a name occurs,
because the order in which nested renderings claim names is not the order of the groups.
-/

namespace ViewForge.Render

/-! ## A free name -/

/-- A base with different numbers makes different names. -/
theorem numbered_injective (base : String) :
    Function.Injective fun n : Nat => base ++ toString n := by
  intro m n h
  have hnumber : toString m = toString n := (String.append_right_inj base).1 h
  have hdigits : Nat.toDigits 10 m = Nat.toDigits 10 n := by
    rw [← Nat.toList_repr, ← Nat.toList_repr]
    exact congrArg String.toList hnumber
  rw [← Nat.ofDigitChars_ten_toDigits (n := m), hdigits, Nat.ofDigitChars_ten_toDigits]

/-- Some number from `k` on makes a free name before as many numbers are tried as names are taken,
and one more. -/
theorem exists_free_number (claimed : List String) (base : String) (k : Nat) :
    ∃ n, k ≤ n ∧ n ≤ k + claimed.length ∧ base ++ toString n ∉ claimed := by
  by_contra hnone
  have htaken : ∀ n, k ≤ n → n ≤ k + claimed.length → base ++ toString n ∈ claimed := by
    intro n hfrom hto
    by_contra hfree
    exact hnone ⟨n, hfrom, hto, hfree⟩
  -- The names of these numbers are different and all taken, but they are too many.
  have hnodup : ((List.range' k (claimed.length + 1)).map fun n => base ++ toString n).Nodup :=
    (List.nodup_range' 1).map (numbered_injective base)
  have hsubset : ((List.range' k (claimed.length + 1)).map fun n => base ++ toString n) ⊆
      claimed := by
    intro name hname
    obtain ⟨n, hn, rfl⟩ := List.mem_map.1 hname
    obtain ⟨hfrom, hto⟩ := List.mem_range'_1.1 hn
    exact htaken n hfrom (by omega)
  have hlength := (hnodup.subperm hsubset).length_le
  rw [List.length_map, List.length_range'] at hlength
  omega

/-- The search for a number ends at one that makes a free name, if there is one that it may try. -/
theorem freeSuffix_not_mem {claimed : List String} {base : String} (fuel : Nat) : ∀ {k : Nat},
    (∃ n, k ≤ n ∧ n ≤ k + fuel ∧ base ++ toString n ∉ claimed) →
      base ++ toString (freeSuffix claimed base fuel k) ∉ claimed := by
  induction fuel with
  | zero =>
    rintro k ⟨n, hfrom, hto, hfree⟩
    obtain rfl : n = k := by omega
    exact hfree
  | succ fuel ih =>
    rintro k ⟨n, hfrom, hto, hfree⟩
    rw [freeSuffix]
    -- A number that is taken is not the free one, so the free one stays within what the rest of the
    -- fuel may try.
    by_cases htaken : claimed.contains (base ++ toString k) = true
    · rw [if_pos htaken]
      have hne : n ≠ k := by
        rintro rfl
        exact hfree (List.contains_iff_mem.1 htaken)
      exact ih ⟨n, by omega, by omega, hfree⟩
    · rw [if_neg htaken]
      exact fun hmem => htaken (List.contains_iff_mem.2 hmem)

/-- A name that is handed out was not handed out before. -/
theorem State.claim_not_mem (s : State) (base : String) : (s.claim base).1 ∉ s.claimed := by
  unfold claim
  dsimp only
  split
  · exact freeSuffix_not_mem _ (exists_free_number s.claimed base 1)
  · rename_i hfree
    exact fun hmem => hfree (List.contains_iff_mem.2 hmem)

/-! ## Names and renderings -/

/-- The names of renderings, one for each that has a name. -/
def namesOf (renderings : List Rendering) : List String := renderings.filterMap elementName?

/-- The name that pieces add to those handed out: that of their rendering, unless it was there. -/
def newName (p : Progress) (pieces : List Piece) : List String :=
  if p.name.isSome then [] else (elementName? pieces).toList

/-- Names handed out one after the other are different if those from before are. -/
theorem State.claim_nodup {s : State} (base : String) (h : s.claimed.Nodup) :
    (s.claim base).2.claimed.Nodup := List.nodup_cons.2 ⟨s.claim_not_mem base, h⟩

/-- A rendering that has a name already adds none. -/
theorem newName_of_some {p : Progress} {name : String} (h : p.name = some name)
    (pieces : List Piece) : newName p pieces = [] := by
  rw [newName, h, Option.isSome_some, if_pos rfl]

/-- A rendering that has no name adds its own. -/
theorem newName_of_none {p : Progress} (h : p.name = none) (pieces : List Piece) :
    newName p pieces = (elementName? pieces).toList := by
  rw [newName, h, Option.isSome_none, if_neg Bool.false_ne_true]

/-- The renderings of a group, and those that stand in them, are its first one, those inside it and
those of the others. -/
theorem count_namesOf_groups_cons (x : String) (first : Rendering) (rest : List Rendering) :
    (namesOf (groups (first :: rest)).flatten).count x =
      (elementName? first).toList.count x + (namesOf (renderingGroups first).flatten).count x +
        (namesOf (groups rest).flatten).count x := by
  unfold namesOf groups
  simp only [groupsWithin, List.flatten_cons, List.flatten_append, List.filterMap_append,
    List.count_append, filterMap_elementName?_cons]
  omega

mutual

/-- The names handed out while a template is rendered are those of the renderings inside it and the
new name of its own. -/
theorem PartsRun.claims {profile : Profile} {parts : List Template.Part} {p q : Progress}
    {pieces : List Piece} (x : String) : PartsRun profile parts p pieces q →
      q.state.claimed.count x = (newName p pieces).count x +
        (namesOf (renderingGroups pieces).flatten).count x + p.state.claimed.count x
  | .nil p => by
    have hnew : newName p [] = [] := by
      unfold newName
      split <;> rfl
    rw [hnew]
    exact (Nat.zero_add _).symm
  | .text h => h.claims x
  | .value _ h => h.claims x
  | .counter h => h.claims x
  | .lastCounter h => h.claims x
  | .previousName h => h.claims x
  | @PartsRun.firstName _ _ _ p _ pieces base hname h => by
    have hrest := h.claims x
    rw [newName_of_some rfl, List.count_nil, Nat.zero_add] at hrest
    rw [newName_of_none hname]
    -- The name is the latest of those handed out on the one side, and the new one on the other.
    calc _ = (namesOf (renderingGroups pieces).flatten).count x +
          ((p.state.claim base).1 :: p.state.claimed).count x := hrest
      _ = [(p.state.claim base).1].count x +
          (namesOf (renderingGroups pieces).flatten).count x + p.state.claimed.count x := by
        rw [List.count_cons, List.count_singleton]
        omega
  | .sameName hname h => by
    have hrest := h.claims x
    rw [newName_of_some hname] at hrest ⊢
    exact hrest
  | @PartsRun.nested _ _ _ _ p _ pieces renderings t _ hnested h => by
    have hgroups : (namesOf (renderingGroups (.group renderings :: pieces)).flatten).count x =
        (namesOf (groups renderings).flatten).count x +
          (namesOf (renderingGroups pieces).flatten).count x := by
      rw [renderingGroups, groups_eq, List.flatten_append, namesOf, List.filterMap_append,
        List.count_append]
      rfl
    calc _ = (newName p pieces).count x + (namesOf (renderingGroups pieces).flatten).count x +
          t.claimed.count x := h.claims x
      _ = (newName p pieces).count x + ((namesOf (groups renderings).flatten).count x +
          (namesOf (renderingGroups pieces).flatten).count x) + p.state.claimed.count x := by
        rw [hnested.claims x]
        omega
      _ = _ := by
        rw [← hgroups]
        rfl

/-- The names handed out while the renderings of a group are made are theirs and those of the
renderings inside them. -/
theorem GroupRun.claims {profile : Profile} {s t : State} {renderings : List Rendering}
    (x : String) : GroupRun profile s renderings t →
      t.claimed.count x = (namesOf (groups renderings).flatten).count x + s.claimed.count x
  | .nil _ => (Nat.zero_add _).symm
  | @GroupRun.cons _ _ _ _ pieces p rest _ h hrest => by
    have hfirst : p.state.claimed.count x = (elementName? pieces).toList.count x +
        (namesOf (renderingGroups pieces).flatten).count x + s.claimed.count x := h.claims x
    have hlast : t.claimed.count x = (namesOf (groups rest).flatten).count x +
        p.state.claimed.count x := hrest.claims x
    rw [hlast, count_namesOf_groups_cons]
    omega

/-- The names handed out in a nested expansion are those of its renderings at any depth. -/
theorem NestedRun.claims {profile : Profile} {s t : State} {renderings : List Rendering}
    (x : String) : NestedRun profile s renderings t →
      t.claimed.count x = (namesOf (groups renderings).flatten).count x + s.claimed.count x
  | .nothing _ => (Nat.zero_add _).symm
  | .group h => h.claims x
  | .inside henter h => by
    have hinside := h.claims x
    obtain ⟨-, -, rfl⟩ := State.enter?_eq_some_iff.1 henter
    exact hinside

end

mutual

/-- While a template is rendered, the names handed out stay different. -/
theorem PartsRun.nodup {profile : Profile} {parts : List Template.Part} {p q : Progress}
    {pieces : List Piece} : PartsRun profile parts p pieces q →
      p.state.claimed.Nodup → q.state.claimed.Nodup
  | .nil _ => id
  | .text h => h.nodup
  | .value _ h => h.nodup
  | .counter h => h.nodup
  | .lastCounter h => h.nodup
  | @PartsRun.firstName _ _ _ _ _ _ base _ h => fun hp => h.nodup (State.claim_nodup base hp)
  | .sameName _ h => h.nodup
  | .previousName h => h.nodup
  | .nested _ hnested h => fun hp => h.nodup (hnested.nodup hp)

/-- While the renderings of a group are made, the names handed out stay different. -/
theorem GroupRun.nodup {profile : Profile} {s t : State} {renderings : List Rendering} :
    GroupRun profile s renderings t → s.claimed.Nodup → t.claimed.Nodup
  | .nil _ => id
  | .cons _ h hrest => fun hs => hrest.nodup (h.nodup hs)

/-- In a nested expansion, the names handed out stay different. -/
theorem NestedRun.nodup {profile : Profile} {s t : State} {renderings : List Rendering} :
    NestedRun profile s renderings t → s.claimed.Nodup → t.claimed.Nodup
  | .nothing _ => id
  | .group h => h.nodup
  | .inside henter h => by
    have hinside := h.nodup
    obtain ⟨-, -, rfl⟩ := State.enter?_eq_some_iff.1 henter
    exact hinside

end

/-! ## Calls -/

variable (c : Setting)

/-- The renderings of a call, at any depth. -/
def Call.renderings (call : Call) : List Rendering := (call.groups c).flatten

/-- The names of the renderings of a call are different. -/
theorem Call.nodup_names (call : Call) : (namesOf (call.renderings c)).Nodup := by
  have hrun := call.render_run c
  have hnodup : (call.render c).2.claimed.Nodup := hrun.nodup List.nodup_nil
  -- They are the names handed out in the call, in another order.
  have hperm : (call.render c).2.claimed.Perm (namesOf (call.renderings c)) :=
    List.perm_iff_count.2 fun x => hrun.claims x
  exact hperm.nodup_iff.1 hnodup

/-- The output of a call is the text of its renderings in its frame, and the renderings come from
templates of the profile. All element names that stand in one rendering are the same, and those that
stand in two renderings of the call, at any depth, differ. -/
theorem element_names_apart (indent : Nat) (call : Call) :
    call.output c indent =
        (if (call.render c).1.isEmpty then call.emptyOutput c indent
          else call.frame c indent (joined (call.render c).1)) ∧
      GroupFills c.profile (call.render c).1 ∧
      (∀ rendering ∈ call.renderings c, ∀ name ∈ elementNames rendering,
        ∀ name' ∈ elementNames rendering, name = name') ∧
      (call.renderings c).Pairwise fun rendering rendering' =>
        ∀ name ∈ elementNames rendering, ∀ name' ∈ elementNames rendering', name ≠ name' := by
  have hrun := call.render_run c
  -- Every rendering belongs to a group, and every group is a run of its own, in which a rendering
  -- has one name.
  have hsingle : ∀ rendering ∈ call.renderings c, ∀ name ∈ elementNames rendering,
      elementName? rendering = some name := by
    intro rendering hmem
    obtain ⟨group, hgroup, hmem⟩ := List.mem_flatten.1 hmem
    obtain ⟨_, _, -, hgroupRun⟩ := call.groups_run c group hgroup
    exact hgroupRun.single rendering hmem
  refine ⟨call.output_eq c indent, hrun.fills, ?_, ?_⟩
  · intro rendering hmem name hname name' hname'
    have h := hsingle rendering hmem name hname
    have h' := hsingle rendering hmem name' hname'
    exact Option.some.inj (h.symm.trans h')
  · have hpairs := List.pairwise_filterMap.1 (call.nodup_names c)
    refine hpairs.imp_of_mem fun {rendering rendering'} hmem hmem' hne name hname name' hname' => ?_
    exact hne name (hsingle rendering hmem name hname) name' (hsingle rendering' hmem' name' hname')

end ViewForge.Render
