import ViewForge.Proofs.Render.Call
import ViewForge.Proofs.Render.Leaves

/-!
# What a rendering can do

Three relations say once what rendering can do to the state of a call: the parts of a template
become pieces one by one (`PartsRun`), the renderings of a group follow one another (`GroupRun`), and
a nested expansion is a group of its own, inside a type or not (`NestedRun`). A law about every call
is then an induction on these relations, with one case for each thing that can happen.

Every function of the rendering runs by them (`expand_run`, `Call.render_run`), whatever the
profile, the members and the number of levels that may still be opened.
-/

namespace ViewForge.Render

/-- A type is entered exactly if fewer than so many are being expanded and it is not one of them,
and then it is the latest of them. -/
theorem State.enter?_eq_some_iff {s inside : State} {name : String} {maxDepth : Nat} :
    s.enter? name maxDepth = some inside ↔ s.expanding.length < maxDepth ∧ name ∉ s.expanding ∧
      inside = { s with expanding := name :: s.expanding } := by
  have hguard : (decide (s.expanding.length ≥ maxDepth) || s.expanding.contains name) = true ↔
      ¬ (s.expanding.length < maxDepth ∧ name ∉ s.expanding) := by
    rw [Bool.or_eq_true, decide_eq_true_iff, List.contains_iff_mem, Decidable.not_and_iff_or_not,
      Nat.not_lt, Decidable.not_not]
  unfold enter?
  by_cases hopen : s.expanding.length < maxDepth ∧ name ∉ s.expanding
  · rw [if_neg (fun h => hguard.1 h hopen), Option.some.injEq, ← and_assoc, and_iff_right hopen]
    exact eq_comm
  · rw [if_pos (hguard.2 hopen), ← and_assoc]
    exact iff_of_false (Option.some_ne_none _).symm fun h => hopen h.1

/-- The state after a template: its element name becomes the previous one of its group. -/
def Progress.close (p : Progress) : State :=
  { p.state with previous := p.name.or p.state.previous }

mutual

/-- How the parts of a template of a profile become pieces. -/
inductive PartsRun (profile : Profile) :
    List Template.Part → Progress → List Piece → Progress → Prop
  /-- No parts are left. -/
  | nil (p : Progress) : PartsRun profile [] p [] p
  /-- Text stands for itself. -/
  | text {parts : List Template.Part} {letters : List Char} {p q : Progress} {pieces : List Piece}
    (h : PartsRun profile parts p pieces q) :
    PartsRun profile (.text letters :: parts) p (.literal letters :: pieces) q
  /-- A marker becomes a value that leaves the state alone. -/
  | value {parts : List Template.Part} {m : Marker} {offset : Nat} {text : String} {p q : Progress}
    {pieces : List Piece}
    (hm : m ∉ [Marker.counter, .lastCounter, .elementName, .previousElementName])
    (h : PartsRun profile parts p pieces q) :
    PartsRun profile (.marker m offset :: parts) p (.value text :: pieces) q
  /-- The counter gives its next value. -/
  | counter {parts : List Template.Part} {offset : Nat} {p q : Progress} {pieces : List Piece}
    (h : PartsRun profile parts { p with state := p.state.count.2 } pieces q) :
    PartsRun profile (.marker .counter offset :: parts) p (.counted p.state.count.1 :: pieces) q
  /-- The counter repeats its last value. -/
  | lastCounter {parts : List Template.Part} {offset : Nat} {p q : Progress} {pieces : List Piece}
    (h : PartsRun profile parts p pieces q) :
    PartsRun profile (.marker .lastCounter offset :: parts) p (.repeated p.state.repeated :: pieces)
      q
  /-- The rendering is given its element name. -/
  | firstName {parts : List Template.Part} {offset : Nat} {p q : Progress} {pieces : List Piece}
    {base : String} (hname : p.name = none)
    (h : PartsRun profile parts ⟨(p.state.claim base).2, some (p.state.claim base).1⟩ pieces q) :
    PartsRun profile (.marker .elementName offset :: parts) p
      (.elementName (p.state.claim base).1 :: pieces) q
  /-- The element name of the rendering is used again. -/
  | sameName {parts : List Template.Part} {offset : Nat} {p q : Progress} {pieces : List Piece}
    {name : String} (hname : p.name = some name) (h : PartsRun profile parts p pieces q) :
    PartsRun profile (.marker .elementName offset :: parts) p (.elementName name :: pieces) q
  /-- The previous element name of the group is read. -/
  | previousName {parts : List Template.Part} {offset : Nat} {p q : Progress} {pieces : List Piece}
    (h : PartsRun profile parts p pieces q) :
    PartsRun profile (.marker .previousElementName offset :: parts) p
      (.previousName p.state.previous :: pieces) q
  /-- Nested members are rendered where the marker stands. -/
  | nested {parts : List Template.Part} {m : Marker} {offset : Nat} {p q : Progress}
    {pieces : List Piece} {renderings : List Rendering} {t : State}
    (hm : m ∈ [Marker.subProperties, .enumMembers])
    (hnested : NestedRun profile p.state renderings t)
    (h : PartsRun profile parts { p with state := t } pieces q) :
    PartsRun profile (.marker m offset :: parts) p (.group renderings :: pieces) q

/-- How the renderings of a group follow one another. -/
inductive GroupRun (profile : Profile) : State → List Rendering → State → Prop
  /-- No renderings are left. -/
  | nil (s : State) : GroupRun profile s [] s
  /-- A template is rendered, and then the others. -/
  | cons {s t : State} {template : String} {pieces : Rendering} {p : Progress}
    {renderings : List Rendering} (ht : template ∈ templates profile)
    (h : PartsRun profile (Template.parts template.toList) ⟨s, none⟩ pieces p)
    (hrest : GroupRun profile p.close renderings t) :
    GroupRun profile s (pieces :: renderings) t

/-- How nested members are rendered. -/
inductive NestedRun (profile : Profile) : State → List Rendering → State → Prop
  /-- There is nothing to expand, or it may not be expanded. -/
  | nothing (s : State) : NestedRun profile s [] s
  /-- A group is rendered, after which the previous name is that from before. -/
  | group {s t : State} {renderings : List Rendering}
    (h : GroupRun profile s.beginGroup renderings t) :
    NestedRun profile s renderings (t.endGroup s.previous)
  /-- The members of a type are rendered while the type is entered. -/
  | inside {s inside t : State} {renderings : List Rendering} {name : String} {maxDepth : Nat}
    (henter : s.enter? name maxDepth = some inside) (h : NestedRun profile inside renderings t) :
    NestedRun profile s renderings t.leave

end

/-- Renderings that follow others go on from where those end. -/
theorem GroupRun.append {profile : Profile} {s t u : State} {a b : List Rendering} :
    GroupRun profile s a t → GroupRun profile t b u → GroupRun profile s (a ++ b) u
  | .nil _, hb => hb
  | .cons ht h hrest, hb => .cons ht h (hrest.append hb)

mutual

/-- The pieces of a run are what the parts of the template may become. -/
theorem PartsRun.fills {profile : Profile} {parts : List Template.Part} {p q : Progress}
    {pieces : List Piece} : PartsRun profile parts p pieces q → PartsFill profile parts pieces
  | .nil _ => trivial
  | .text h => ⟨rfl, h.fills⟩
  | .value hm h => ⟨⟨_, _, rfl, hm⟩, h.fills⟩
  | .counter h => ⟨⟨_, rfl⟩, h.fills⟩
  | .lastCounter h => ⟨⟨_, rfl⟩, h.fills⟩
  | .firstName _ h => ⟨⟨_, rfl⟩, h.fills⟩
  | .sameName _ h => ⟨⟨_, rfl⟩, h.fills⟩
  | .previousName h => ⟨⟨_, rfl⟩, h.fills⟩
  | .nested hm hnested h => ⟨⟨⟨_, _, rfl, hm⟩, hnested.fills⟩, h.fills⟩

/-- The renderings of a group are what templates of the profile may become. -/
theorem GroupRun.fills {profile : Profile} {s t : State} {renderings : List Rendering} :
    GroupRun profile s renderings t → GroupFills profile renderings
  | .nil _ => trivial
  | .cons ht h hrest => ⟨⟨_, ht, h.fills⟩, hrest.fills⟩

/-- The renderings of a nested expansion are what templates of the profile may become. -/
theorem NestedRun.fills {profile : Profile} {s t : State} {renderings : List Rendering} :
    NestedRun profile s renderings t → GroupFills profile renderings
  | .nothing _ => trivial
  | .group h => h.fills
  | .inside _ h => h.fills

end

/-! ## Templates -/

section Templates

variable {profile : Profile} {expandMembers expandEnum : Expander}

/-- A marker becomes a piece, and the parts behind it are rendered from where it ends. -/
theorem renderMarker_run
    (hm : ∀ member s, NestedRun profile s (expandMembers member s).1 (expandMembers member s).2)
    (he : ∀ member s, NestedRun profile s (expandEnum member s).1 (expandEnum member s).2)
    {template : List Char} {subject : Subject} {m : Marker} {offset : Nat} {p q : Progress}
    {parts : List Template.Part} {pieces : List Piece}
    (hrest : PartsRun profile parts
      (renderMarker expandMembers expandEnum template subject m offset p).2 pieces q) :
    PartsRun profile (.marker m offset :: parts) p
      ((renderMarker expandMembers expandEnum template subject m offset p).1 :: pieces) q := by
  -- Five markers look at the state or nest members; in the template of an enumeration member
  -- nothing is nested.
  cases m with
  | counter => exact .counter hrest
  | lastCounter => exact .lastCounter hrest
  | previousElementName => exact .previousName hrest
  | elementName =>
    unfold renderMarker nameElement at *
    cases hname : p.name with
    | some name =>
      simp only [hname] at hrest ⊢
      exact .sameName hname hrest
    | none =>
      simp only [hname] at hrest ⊢
      exact .firstName hname hrest
  | subProperties =>
    unfold renderMarker at *
    cases helement : subject.element with
    | some _ =>
      simp only [helement] at hrest ⊢
      exact .value (by decide) hrest
    | none =>
      simp only [helement] at hrest ⊢
      exact .nested (by decide) (hm subject.member p.state) hrest
  | enumMembers =>
    unfold renderMarker at *
    cases helement : subject.element with
    | some _ =>
      simp only [helement] at hrest ⊢
      exact .value (by decide) hrest
    | none =>
      simp only [helement] at hrest ⊢
      exact .nested (by decide) (he subject.member p.state) hrest
  | name => exact .value (by decide) hrest
  | spacedName => exact .value (by decide) hrest
  | type => exact .value (by decide) hrest
  | element => exact .value (by decide) hrest
  | spacedElement => exact .value (by decide) hrest
  | enumProperty => exact .value (by decide) hrest
  | noOutput => exact .value (by decide) hrest

/-- The parts of a template are rendered one by one. -/
theorem renderParts_run
    (hm : ∀ member s, NestedRun profile s (expandMembers member s).1 (expandMembers member s).2)
    (he : ∀ member s, NestedRun profile s (expandEnum member s).1 (expandEnum member s).2)
    (template : List Char) (subject : Subject) (parts : List Template.Part) : ∀ p : Progress,
    PartsRun profile parts p
      (renderParts (renderMarker expandMembers expandEnum template subject) parts p).1
      (renderParts (renderMarker expandMembers expandEnum template subject) parts p).2 := by
  induction parts with
  | nil => exact fun p => .nil p
  | cons part parts ih =>
    intro p
    cases part with
    | text letters => exact .text (ih p)
    | marker m offset => exact renderMarker_run hm he (ih _)

/-- A template is rendered part by part, and its element name becomes the previous one. -/
theorem renderTemplate_eq (expandMembers expandEnum : Expander) (template : String)
    (subject : Subject) (s : State) : renderTemplate expandMembers expandEnum template subject s =
      ((renderParts (renderMarker expandMembers expandEnum template.toList subject)
          (Template.parts template.toList) ⟨s, none⟩).1,
        (renderParts (renderMarker expandMembers expandEnum template.toList subject)
          (Template.parts template.toList) ⟨s, none⟩).2.close) := by
  unfold renderTemplate Progress.close
  dsimp only
  split
  · rename_i hname
    rw [hname, Option.some_or]
  · rename_i hname
    rw [hname, Option.none_or]

/-- A template of the profile is rendered. -/
theorem renderTemplate_run
    (hm : ∀ member s, NestedRun profile s (expandMembers member s).1 (expandMembers member s).2)
    (he : ∀ member s, NestedRun profile s (expandEnum member s).1 (expandEnum member s).2)
    {template : String} (ht : template ∈ templates profile) (subject : Subject) (s : State) :
    GroupRun profile s [(renderTemplate expandMembers expandEnum template subject s).1]
      (renderTemplate expandMembers expandEnum template subject s).2 := by
  rw [renderTemplate_eq]
  exact .cons ht (renderParts_run hm he template.toList subject _ ⟨s, none⟩) (.nil _)

/-- Items are rendered one after the other. -/
theorem renderAll_run {α : Type} {render : α → State → Option Rendering × State}
    (h : ∀ x s, GroupRun profile s (render x s).1.toList (render x s).2) (xs : List α) :
    ∀ s, GroupRun profile s (renderAll render xs s).1 (renderAll render xs s).2 := by
  induction xs with
  | nil => exact fun s => .nil s
  | cons x xs ih => exact fun s => (h x s).append (ih (render x s).2)

end Templates

/-! ## Nested members -/

variable (c : Setting)

/-- Expanding nothing does nothing. -/
theorem expandNothing_run (profile : Profile) (member : Shape) (s : State) :
    NestedRun profile s (expandNothing member s).1 (expandNothing member s).2 := .nothing s

/-- The members of an enumeration are a group. -/
theorem expandEnum_run (member : Shape) (s : State) :
    NestedRun c.profile s (expandEnum c member s).1 (expandEnum c member s).2 := by
  unfold expandEnum
  dsimp only
  split
  · exact .nothing s
  · refine .group (renderAll_run (fun element s => ?_) _ _)
    have hmem : c.profile.enumMember ∈ templates c.profile :=
      List.mem_cons_of_mem _ (List.mem_cons_of_mem _ List.mem_cons_self)
    exact renderTemplate_run (expandNothing_run _) (expandNothing_run _) hmem _ s

/-- A member is rendered by a template of the profile, or not at all. -/
theorem renderMember_run {expandMembers : Expander}
    (hm : ∀ member s, NestedRun c.profile s (expandMembers member s).1 (expandMembers member s).2)
    (nested : Bool) (member : Shape) (s : State) :
    GroupRun c.profile s (renderMember c expandMembers nested member s).1.toList
      (renderMember c expandMembers nested member s).2 := by
  unfold renderMember
  dsimp only
  split
  · exact .nil s
  · exact renderTemplate_run hm (expandEnum_run c) (templateFor_mem c nested member) _ s

/-- The blank member that stands for members that are not known is rendered as a group. -/
theorem expandUnknown_run (s : State) :
    NestedRun c.profile s
      (inGroup s fun s =>
        let (pieces, s) :=
          renderTemplate expandNothing expandNothing c.profile.nestedFallback ⟨.blank, none⟩ s
        ([pieces], s)).1
      (inGroup s fun s =>
        let (pieces, s) :=
          renderTemplate expandNothing expandNothing c.profile.nestedFallback ⟨.blank, none⟩ s
        ([pieces], s)).2 :=
  have hmem : c.profile.nestedFallback ∈ templates c.profile :=
    List.mem_cons_of_mem _ List.mem_cons_self
  .group (renderTemplate_run (expandNothing_run _) (expandNothing_run _) hmem _ _)

/-- The members behind a member are a group, whatever the number of levels that may still be
opened. -/
theorem expandMembers_run (room : Nat) : ∀ member s,
    NestedRun c.profile s (expandMembers c room member s).1 (expandMembers c room member s).2 := by
  -- Levels are counted down only where a type is entered; all else is the same with no level left.
  induction room with
  | zero =>
    intro member s
    unfold expandMembers
    split
    · exact .nothing s
    · exact expandUnknown_run c s
    · exact .nothing s
  | succ room ih =>
    intro member s
    unfold expandMembers
    split
    · exact .nothing s
    · exact expandUnknown_run c s
    · rename_i t _
      dsimp only
      split
      · exact .nothing s
      · rename_i inside hinside
        refine .inside hinside (.group ?_)
        exact renderAll_run (fun m : Member => renderMember_run c ih true
          (Shape.ofProperty c.model (some m.declaring) m.property)) _ _

/-- The members behind a member are a group. -/
theorem expand_run (member : Shape) (s : State) :
    NestedRun c.profile s (expand c member s).1 (expand c member s).2 :=
  expandMembers_run c c.generation.maxDepth member s

/-! ## Calls -/

/-- Properties are rendered one after the other. -/
theorem renderProperties_run (members : List Member) (s : State) :
    GroupRun c.profile s (renderProperties c members s).1 (renderProperties c members s).2 := by
  unfold renderProperties
  exact renderAll_run (fun m s => renderMember_run c (expand_run c) false _ s) members s

/-- The members of a selection are rendered one after the other. -/
theorem renderSelection_run (members : List Member) : ∀ s,
    GroupRun c.profile s ((renderSelection c members s).1.map (·.2))
      (renderSelection c members s).2 := by
  induction members with
  | nil => exact fun s => .nil s
  | cons m rest ih =>
    intro s
    unfold renderSelection
    split
    · exact ih s
    · have hfirst := renderMember_run c (expand_run c) false
        (Shape.ofProperty c.model (some m.declaring) m.property) s
      -- The names that go with the renderings play no part.
      dsimp only
      rw [List.map_append, List.map_map]
      have hid (o : Option Rendering) :
          o.toList.map ((·.2) ∘ (m.property.name, ·)) = o.toList := List.map_id _
      rw [hid]
      exact hfirst.append (ih _)

/-- The renderings of every call follow one another from a fresh state. -/
theorem Call.render_run (call : Call) :
    GroupRun c.profile {} (call.render c).1 (call.render c).2 := by
  cases call with
  | property p declaring =>
    unfold render
    dsimp only
    split
    · exact renderMember_run c (expand_run c) false _ {}
    · exact .nil {}
  | wholeType t => exact renderProperties_run c _ {}
  | selection members => exact renderSelection_run c members {}

end ViewForge.Render
