import ViewForge.Proofs.Render.Groups

/-!
# The previous element name

In each group of a call the previous element names form a chain: one that stands in a rendering is
the element name of the latest rendering before it in the same group, and none if no rendering before
has one (`previous_names_chained`). Groups do not see the names of each other.

Two facts carry the induction. A nested expansion gives back the state as it found it, the previous
name and the types that are being expanded (`NestedRun.sameContext`), so it does not matter where in
a template it stands. And a rendering changes the previous name only where it ends, to its own
element name if it has one.
-/

namespace ViewForge.Render

/-! ## What a nested expansion leaves alone -/

/-- Two states agree on the previous name and on the types that are being expanded. -/
structure State.SameContext (s t : State) : Prop where
  /-- The previous element name is the same. -/
  previous : t.previous = s.previous
  /-- The types that are being expanded are the same. -/
  expanding : t.expanding = s.expanding

/-- Agreement passes from one state to the next. -/
theorem State.SameContext.trans {s t u : State} (h : s.SameContext t) (h' : t.SameContext u) :
    s.SameContext u :=
  ⟨h'.previous.trans h.previous, h'.expanding.trans h.expanding⟩

mutual

/-- While a template is rendered, the previous name and the types that are being expanded stay what
they are from each marker to the next. -/
theorem PartsRun.sameContext {profile : Profile} {parts : List Template.Part} {p q : Progress}
    {pieces : List Piece} : PartsRun profile parts p pieces q → p.state.SameContext q.state
  | .nil _ => ⟨rfl, rfl⟩
  | .text h => h.sameContext
  | .value _ h => h.sameContext
  | .counter h => ⟨h.sameContext.previous, h.sameContext.expanding⟩
  | .lastCounter h => h.sameContext
  | .firstName _ h => ⟨h.sameContext.previous, h.sameContext.expanding⟩
  | .sameName _ h => h.sameContext
  | .previousName h => h.sameContext
  | .nested _ hnested h => hnested.sameContext.trans h.sameContext

/-- The renderings of a group leave the types that are being expanded alone. -/
theorem GroupRun.expanding_eq {profile : Profile} {s t : State} {renderings : List Rendering} :
    GroupRun profile s renderings t → t.expanding = s.expanding
  | .nil _ => rfl
  | .cons _ h hrest => hrest.expanding_eq.trans h.sameContext.expanding

/-- A nested expansion leaves the previous name and the types that are being expanded as it found
them. -/
theorem NestedRun.sameContext {profile : Profile} {s t : State} {renderings : List Rendering} :
    NestedRun profile s renderings t → s.SameContext t
  | .nothing _ => ⟨rfl, rfl⟩
  | .group h => ⟨rfl, h.expanding_eq⟩
  | .inside (t := t) henter h => by
    have hinside := h.sameContext
    obtain ⟨-, -, rfl⟩ := State.enter?_eq_some_iff.1 henter
    refine ⟨hinside.previous, ?_⟩
    -- The type that was entered last is the one that is left.
    show t.expanding.tail = s.expanding
    rw [hinside.expanding, List.tail_cons]

end

/-! ## The chain of a group -/

/-- The latest element name of renderings that follow the name `before`. -/
def latestName (before : Option String) (renderings : List Rendering) : Option String :=
  (renderings.filterMap elementName?).getLast?.or before

/-- The latest name of a rendering and others is that of the others, after the name of the first. -/
theorem latestName_cons (before : Option String) (first : Rendering) (rest : List Rendering) :
    latestName before (first :: rest) = latestName ((elementName? first).or before) rest := by
  unfold latestName
  rw [filterMap_elementName?_cons, List.getLast?_append, Option.or_assoc]
  cases elementName? first <;> rfl

/-- Whether each previous name that stands in a rendering of a group is the latest element name
before the rendering, where `before` is the name from before the group. -/
def Chained (before : Option String) (group : List Rendering) : Prop :=
  ∀ (i : Nat) (rendering : Rendering), group[i]? = some rendering →
    ∀ name ∈ previousNames rendering, name = latestName before (group.take i)

/-- A group is chained if its first rendering shows the name from before and the others are chained
behind it. -/
theorem Chained.cons {before : Option String} {first : Rendering} {rest : List Rendering}
    (hfirst : ∀ name ∈ previousNames first, name = before)
    (hrest : Chained ((elementName? first).or before) rest) : Chained before (first :: rest) := by
  intro i rendering hi name hname
  cases i with
  | zero =>
    obtain rfl : first = rendering := Option.some.inj hi
    exact hfirst name hname
  | succ i =>
    rw [List.take_succ_cons, latestName_cons]
    exact hrest i rendering hi name hname

/-- The state after a template has the element name of its rendering as the previous name, or the
one from before if there is none. -/
theorem PartsRun.previous_close {profile : Profile} {parts : List Template.Part} {s : State}
    {p : Progress} {pieces : List Piece} (h : PartsRun profile parts ⟨s, none⟩ pieces p) :
    p.close.previous = (elementName? pieces).or s.previous := by
  unfold Progress.close
  rw [h.name_eq_of_start, h.sameContext.previous]

/-- Each previous name that stands in a rendering is the one from before the rendering, wherever it
stands. -/
theorem PartsRun.previousNames_eq {profile : Profile} {parts : List Template.Part}
    {p q : Progress} {pieces : List Piece} : PartsRun profile parts p pieces q →
      ∀ name ∈ previousNames pieces, name = p.state.previous
  | .nil _ => fun _ hname => absurd hname List.not_mem_nil
  | .text h => h.previousNames_eq
  | .value _ h => h.previousNames_eq
  | .counter h => h.previousNames_eq
  | .lastCounter h => h.previousNames_eq
  | .firstName _ h => h.previousNames_eq
  | .sameName _ h => h.previousNames_eq
  | .previousName h => List.forall_mem_cons.2 ⟨rfl, h.previousNames_eq⟩
  | .nested _ hnested h => by
    have hrest := h.previousNames_eq
    rwa [hnested.sameContext.previous] at hrest

/-- The renderings of a group are chained behind the name from before the group. -/
theorem GroupRun.chained {profile : Profile} {s t : State} {renderings : List Rendering} :
    GroupRun profile s renderings t → Chained s.previous renderings
  | .nil _ => fun _ _ hi => absurd hi (Option.some_ne_none _).symm
  | .cons _ h hrest => by
    refine .cons h.previousNames_eq ?_
    rw [← h.previous_close]
    exact hrest.chained

/-! ## Calls -/

variable (c : Setting)

/-- The output of a call is the text of its renderings in its frame, and the renderings come from
templates of the profile. In each group of the call, at any depth, a previous name that stands in a
rendering is the element name of the latest rendering before it in that group, and none if no
rendering before it has one. Every nested expansion leaves the previous name and the types that are
being expanded as it found them. -/
theorem previous_names_chained (indent : Nat) (call : Call) :
    call.output c indent =
        (if (call.render c).1.isEmpty then call.emptyOutput c indent
          else call.frame c indent (joined (call.render c).1)) ∧
      GroupFills c.profile (call.render c).1 ∧
      (∀ group ∈ call.groups c, ∀ (i : Nat) (rendering : Rendering),
        group[i]? = some rendering → ∀ name ∈ previousNames rendering,
          name = ((group.take i).filterMap elementName?).getLast?) ∧
      ∀ (member : Shape) (s : State),
        (∀ room, s.SameContext (expandMembers c room member s).2) ∧
          s.SameContext (expandEnum c member s).2 := by
  refine ⟨call.output_eq c indent, (call.render_run c).fills, ?_,
    fun member s => ⟨fun room => ?_, ?_⟩⟩
  · intro group hgroup i rendering hi name hname
    -- A group begins with no previous name, so only names from the group itself can be the latest.
    obtain ⟨s, _, hnone, hrun⟩ := call.groups_run c group hgroup
    calc name = latestName s.previous (group.take i) := hrun.chained i rendering hi name hname
      _ = ((group.take i).filterMap elementName?).getLast? := by
        rw [hnone, latestName, Option.or_none]
  · exact (expandMembers_run c room member s).sameContext
  · exact (expandEnum_run c member s).sameContext

end ViewForge.Render
