import Mathlib.Data.List.Dedup
import Mathlib.Data.List.Perm.Subperm
import ViewForge.Proofs.Render.Course

/-!
# The depth of a call

A call goes into a type only if it is not inside of that type already, so it is never inside of more
types than there are names. Every call comes to an end, and while it goes on the types that it is
inside of have pairwise different names and are no more than the settings allow; a bound on the
depth that is not below the number of names has no effect (`expansion_bounded`).

The last holds since two such bounds let in the same types from any state that a call gets to: a
type that is not being expanded has a name that the others leave free (`admitsAlike`).
-/

namespace ViewForge.Render

/-- The number of different full names of types. -/
def nameCount (c : Setting) : Nat := (c.model.types.map (·.fullName)).dedup.length

/-- The types that a state is inside of have pairwise different names and are no more than the
settings allow. -/
def Bounded (c : Setting) (s : State) : Prop :=
  s.expanding.Nodup ∧ s.expanding.length ≤ c.generation.maxDepth

variable {c : Setting}

/-! ## Bounds that have no effect -/

/-- A branch and one more name are no more names than there are. -/
theorem IsBranch.length_lt_nameCount {branch : List String} (h : IsBranch c branch) {d : TypeDecl}
    (hd : d ∈ c.model.types) (hnew : d.fullName ∉ branch) : branch.length < nameCount c := by
  have hnodup : (d.fullName :: branch).Nodup := List.nodup_cons.2 ⟨hnew, h.nodup⟩
  have hknown : d.fullName :: branch ⊆ (c.model.types.map (·.fullName)).dedup := by
    intro name hname
    rw [List.mem_dedup]
    exact List.cons_subset.2 ⟨List.mem_map_of_mem hd, h.known⟩ hname
  exact (List.Nodup.subperm hnodup hknown).length_le

/-- Two bounds that are not below the number of names let in the same types. -/
theorem admitsAlike {depth depth' : Nat} (h : nameCount c ≤ depth) (h' : nameCount c ≤ depth') :
    AdmitsAlike (c.capped depth) depth' := by
  intro s hbranch d hd
  show s.enter? d.fullName depth' = s.enter? d.fullName depth
  by_cases hopen : d.fullName ∈ s.expanding
  · have hrefused (bound : Nat) : s.enter? d.fullName bound = none := by
      refine Option.eq_none_iff_forall_not_mem.2 fun inside henter => ?_
      exact (State.enter?_eq_some_iff.1 henter).2.1 hopen
    rw [hrefused, hrefused]
  · have hlt : s.expanding.length < nameCount c := hbranch.length_lt_nameCount hd hopen
    have hentered {bound : Nat} (hbound : nameCount c ≤ bound) :
        s.enter? d.fullName bound = some { s with expanding := d.fullName :: s.expanding } :=
      State.enter?_eq_some_iff.2 ⟨Nat.lt_of_lt_of_le hlt hbound, hopen, rfl⟩
    rw [hentered h, hentered h']

/-! ## Outputs -/

/-- The names of a selection are those of its exposed members that no template suppresses. -/
theorem names_renderSelection (c : Setting) (members : List Member) : ∀ s,
    (renderSelection c members s).1.map (·.1) =
      ((members.filter (Member.isExposed c.generation.excluded ·.property)).filter fun m =>
        !Template.mentions (templateFor c false (shapeOf c m)).toList .noOutput).map
          (·.property.name) := by
  induction members with
  | nil => exact fun _ => rfl
  | cons m rest ih =>
    intro s
    rw [renderSelection, List.filter_cons]
    cases hexposed : Member.isExposed c.generation.excluded m.property with
    | false => exact ih s
    | true =>
      -- Whether a member is shown depends on its template alone and not on the state.
      have hshown := isSome_renderMember c (expand c) false (shapeOf c m) s
      rw [if_pos rfl, List.filter_cons, ← hshown, Bool.not_true, if_neg Bool.false_ne_true]
      dsimp only
      rw [List.map_append, ih]
      show List.map _ (List.map _ (renderMember c (expand c) false (shapeOf c m) s).1.toList) ++ _ =
        _
      cases (renderMember c (expand c) false (shapeOf c m) s).1 <;> rfl

/-- The output of a call depends on the bound on the depth only through what the call renders. -/
theorem Call.output_capped_congr {depth depth' : Nat} {call : Call}
    (h : call.render (c.capped depth) = call.render (c.capped depth')) (indent : Nat) :
    call.output (c.capped depth) indent = call.output (c.capped depth') indent := by
  -- Besides the renderings, a frame takes only the number of rows and the names of the members
  -- shown, which do not depend on the bound.
  have hframe (text : List Char) :
      call.frame (c.capped depth) indent text = call.frame (c.capped depth') indent text := by
    cases call with
    | property p declaring => rfl
    | wholeType t =>
      rw [frame, frame, rows, rows, h]
      rfl
    | selection members =>
      rw [frame, frame, names_renderSelection, names_renderSelection]
      rfl
  have hempty : call.emptyOutput (c.capped depth) indent =
      call.emptyOutput (c.capped depth') indent := by
    cases call with
    | wholeType t => exact hframe noMembers
    | property p declaring => rfl
    | selection members => rfl
  rw [Call.output_eq, Call.output_eq, h, hframe, hempty]

/-! ## The law of the depth -/

/-- A call has exactly one course, which is finite, and it gives what the call renders. -/
theorem Call.course_iff (call : Call) {renderings : List Rendering} {t : State} :
    Course c AnyState AnyTemplate (call.task c) {} renderings t ↔
      call.render c = (renderings, t) := by
  refine ⟨Call.render_eq_of_course, fun h => ?_⟩
  have hcourse : Course c AnyState AnyTemplate (call.task c) {} (call.render c).1
      (call.render c).2 := call.course (fun _ _ => trivial) (fun _ _ _ => trivial)
  rw [h] at hcourse
  exact hcourse

/-- Bounds that are not below the number of names render the same. -/
theorem Call.render_capped_eq (call : Call) {depth depth' : Nat} (h : nameCount c ≤ depth)
    (h' : nameCount c ≤ depth') :
    call.render (c.capped depth) = call.render (c.capped depth') := by
  have hcourse : Course (c.capped depth') AnyState AnyTemplate (call.task (c.capped depth')) {}
      (call.render (c.capped depth)).1 (call.render (c.capped depth)).2 :=
    call.course_of_admitsAlike (admitsAlike h h') (fun _ _ => trivial) (fun _ _ _ => trivial)
  exact (Call.render_eq_of_course hcourse).symm

/-- Every call comes to an end: it has exactly one course, and that is finite. In the course each
state is inside of types with pairwise different names, no more than the settings allow, and in the
end of none. Bounds on the depth that are not below the number of names give the same output. -/
theorem expansion_bounded (c : Setting) (call : Call) :
    (∀ renderings t, Course c AnyState AnyTemplate (call.task c) {} renderings t ↔
        call.render c = (renderings, t)) ∧
      Course c (Bounded c) AnyTemplate (call.task c) {} (call.render c).1 (call.render c).2 ∧
      (call.render c).2.expanding = [] ∧
      ∀ depth depth', nameCount c ≤ depth → nameCount c ≤ depth' → ∀ indent,
        call.output (c.capped depth) indent = call.output (c.capped depth') indent := by
  have hcourse : Course c (Bounded c) AnyTemplate (call.task c) {} (call.render c).1
      (call.render c).2 :=
    call.course (fun _ hbranch => ⟨hbranch.nodup, hbranch.length_le⟩) (fun _ _ _ => trivial)
  refine ⟨fun _ _ => call.course_iff, hcourse, hcourse.expanding_eq, ?_⟩
  intro depth depth' h h' indent
  exact Call.output_capped_congr (call.render_capped_eq h h') indent

/-- Two types that lead to one another and to themselves, with a template that expands every
member. -/
def acquaintances : Setting where
  profile :=
    { name := "Nested", fallback := "$name$($subprops$)", nestedFallback := "$name$($subprops$)" }
  model := ⟨[Catalog.ofList [
    { name := "Person", kind := .class
      properties := [{ name := "Boss", typeText := "Person" },
        { name := "Order", typeText := "Order" }] },
    { name := "Order", kind := .class
      properties := [{ name := "Owner", typeText := "Person" }] }]]⟩

/-- A call for a property of the first of the two types. -/
def bossCall : Call :=
  .selection [⟨{ name := "Boss", typeText := "Person" }, { name := "Person", kind := .class }⟩]

/-- With two names every bound from two on gives the same output, in which each type is expanded
once on a branch. -/
theorem expansion_bounded_acquaintances :
    nameCount acquaintances = 2 ∧ ∀ depth, 2 ≤ depth → ∀ indent,
      bossCall.output (acquaintances.capped depth) indent =
        ⟨"Boss", "Boss(Boss()\nOrder(Owner()))", .selection⟩ := by
  have hcount : nameCount acquaintances = 2 := by decide +kernel
  refine ⟨hcount, fun depth hdepth indent => ?_⟩
  have htwo : bossCall.output (acquaintances.capped 2) indent =
      ⟨"Boss", "Boss(Boss()\nOrder(Owner()))", .selection⟩ := by
    rw [bossCall, Call.output]
    decide +kernel
  rw [← htwo]
  exact (expansion_bounded acquaintances bossCall).2.2.2 depth 2 (hcount ▸ hdepth)
    (Nat.le_of_eq hcount) indent

end ViewForge.Render
