import Mathlib.Data.List.Basic
import ViewForge.Proofs.Render.Run

/-!
# The groups of a call

The renderings of a call stand in groups: those of the call itself, and one group for each nested
expansion at any depth (`groups`). Of each rendering only its own pieces count, those that its
template became, and not those of the groups inside it: `elementNames` are the element names and
`previousNames` the previous names that stand there.

A rendering has one element name, that of the progress in which it ends (`PartsRun.name_eq`). Every
group of a call, at any depth, is a run of its own that starts without a previous name
(`Call.groups_run`), so a law about one group holds of all of them.
-/

namespace ViewForge.Render

/-- The element name that a piece shows. -/
def Piece.elementName? : Piece → Option String
  | .elementName name => some name
  | _ => none

/-- The previous element name that a piece shows, which may be none. -/
def Piece.previousName? : Piece → Option (Option String)
  | .previousName name => some name
  | _ => none

/-- The element names that stand in a rendering, without those of the groups inside it. -/
def elementNames (rendering : Rendering) : List String := rendering.filterMap Piece.elementName?

/-- The previous element names that stand in a rendering, without those of the groups inside it. -/
def previousNames (rendering : Rendering) : List (Option String) :=
  rendering.filterMap Piece.previousName?

/-- The element name of a rendering, if one stands in it. -/
def elementName? (rendering : Rendering) : Option String := (elementNames rendering).head?

/-- The names of renderings are that of the first, if it has one, and those of the others. -/
theorem filterMap_elementName?_cons (first : Rendering) (rest : List Rendering) :
    (first :: rest).filterMap elementName? =
      (elementName? first).toList ++ rest.filterMap elementName? := by
  simp only [List.filterMap_eq_flatMap_toList, List.flatMap_cons]

mutual

/-- The groups that stand in a piece. -/
def Piece.groups : Piece → List (List Rendering)
  | .group renderings => renderings :: groupsWithin renderings
  | .literal _ => []
  | .value _ => []
  | .counted _ => []
  | .repeated _ => []
  | .elementName _ => []
  | .previousName _ => []

/-- The groups that stand in a rendering. -/
def renderingGroups : List Piece → List (List Rendering)
  | [] => []
  | piece :: pieces => piece.groups ++ renderingGroups pieces

/-- The groups that stand in renderings. -/
def groupsWithin : List (List Piece) → List (List Rendering)
  | [] => []
  | rendering :: rest => renderingGroups rendering ++ groupsWithin rest

end

/-- A group and those that stand in its renderings, at any depth. -/
def groups (renderings : List Rendering) : List (List Rendering) :=
  renderings :: groupsWithin renderings

/-- The groups of a call: the renderings of its properties, and those of each nested expansion. -/
def Call.groups (c : Setting) (call : Call) : List (List Rendering) :=
  Render.groups (call.render c).1

/-- The groups of a nested expansion are those of the piece that it becomes. -/
theorem groups_eq (renderings : List Rendering) :
    (Piece.group renderings).groups = groups renderings := by
  rw [Piece.groups, groups]

/-- A rendering that has no element name is given one at most once, and uses it from there on. -/
theorem PartsRun.name_eq {profile : Profile} {parts : List Template.Part} {p q : Progress}
    {pieces : List Piece} : PartsRun profile parts p pieces q →
      q.name = p.name.or (elementName? pieces) ∧ ∀ name ∈ elementNames pieces, q.name = some name
  | .nil p => ⟨Option.or_none.symm, fun _ h => absurd h List.not_mem_nil⟩
  | .text h => h.name_eq
  | .value _ h => h.name_eq
  | .counter h => h.name_eq
  | .lastCounter h => h.name_eq
  | .previousName h => h.name_eq
  | .nested _ _ h => h.name_eq
  -- Where the name is claimed it is given for all that follows; where it is there already it is
  -- used again.
  | .firstName hname h => by
    obtain ⟨heq, hall⟩ := h.name_eq
    rw [Option.some_or] at heq
    rw [hname, Option.none_or]
    exact ⟨heq, List.forall_mem_cons.2 ⟨heq, hall⟩⟩
  | .sameName hname h => by
    obtain ⟨heq, hall⟩ := h.name_eq
    rw [hname, Option.some_or] at heq ⊢
    exact ⟨heq, List.forall_mem_cons.2 ⟨heq, hall⟩⟩

/-- After a template, the name of its rendering is the element name that stands in it. -/
theorem PartsRun.name_eq_of_start {profile : Profile} {parts : List Template.Part} {s : State}
    {p : Progress} {pieces : List Piece} (h : PartsRun profile parts ⟨s, none⟩ pieces p) :
    p.name = elementName? pieces := by
  rw [h.name_eq.1, Option.none_or]

/-- Every element name that stands in a rendering of a group is the name of that rendering. -/
theorem GroupRun.single {profile : Profile} {s t : State} {renderings : List Rendering}
    (h : GroupRun profile s renderings t) : ∀ rendering ∈ renderings,
      ∀ name ∈ elementNames rendering, elementName? rendering = some name := by
  induction renderings generalizing s with
  | nil => exact fun _ hmem => absurd hmem List.not_mem_nil
  | cons first rest ih =>
    cases h with
    | cons _ hfirst hrest =>
      refine List.forall_mem_cons.2 ⟨fun name hname => ?_, ih hrest⟩
      rw [← hfirst.name_eq_of_start]
      exact hfirst.name_eq.2 name hname

/-! ## The runs of the groups -/

mutual

/-- The groups that stand in a rendering are rendered from no previous name on. -/
theorem PartsRun.groups_run {profile : Profile} {parts : List Template.Part} {p q : Progress}
    {pieces : List Piece} : PartsRun profile parts p pieces q →
      ∀ group ∈ renderingGroups pieces, ∃ s t, s.previous = none ∧ GroupRun profile s group t
  | .nil _ => fun _ hgroup => absurd hgroup List.not_mem_nil
  | .text h => h.groups_run
  | .value _ h => h.groups_run
  | .counter h => h.groups_run
  | .lastCounter h => h.groups_run
  | .firstName _ h => h.groups_run
  | .sameName _ h => h.groups_run
  | .previousName h => h.groups_run
  | .nested _ hnested h => by
    rw [renderingGroups, groups_eq, List.forall_mem_append]
    exact ⟨hnested.groups_run, h.groups_run⟩

/-- The groups that stand in the renderings of a group are rendered from no previous name on,
whatever that of the group is. -/
theorem GroupRun.groupsWithin_run {profile : Profile} {s t : State} {renderings : List Rendering} :
    GroupRun profile s renderings t →
      ∀ group ∈ groupsWithin renderings, ∃ s t, s.previous = none ∧ GroupRun profile s group t
  | .nil _ => fun _ hgroup => absurd hgroup List.not_mem_nil
  | .cons _ h hrest => by
    rw [groupsWithin, List.forall_mem_append]
    exact ⟨h.groups_run, hrest.groupsWithin_run⟩

/-- The groups of a nested expansion are rendered from no previous name on. -/
theorem NestedRun.groups_run {profile : Profile} {s t : State} {renderings : List Rendering} :
    NestedRun profile s renderings t →
      ∀ group ∈ groups renderings, ∃ s t, s.previous = none ∧ GroupRun profile s group t
  | .nothing _ => List.forall_mem_singleton.2 ⟨{}, {}, rfl, .nil _⟩
  | .group h => List.forall_mem_cons.2 ⟨⟨_, _, rfl, h⟩, h.groupsWithin_run⟩
  | .inside _ h => h.groups_run

end

/-- Every group of a call is rendered from no previous name on. -/
theorem Call.groups_run (c : Setting) (call : Call) :
    ∀ group ∈ call.groups c, ∃ s t, s.previous = none ∧ GroupRun c.profile s group t :=
  have hrun := call.render_run c
  List.forall_mem_cons.2 ⟨⟨_, _, rfl, hrun⟩, hrun.groupsWithin_run⟩

end ViewForge.Render
