import ViewForge.Proofs.Member.Walk
import ViewForge.Proofs.Render.Models
import ViewForge.Proofs.Render.Run

/-!
# The course of a call

Rendering members, templates and what stands behind members is described without a bound on the
nesting: `Course` has one rule for each thing that a call can do, and a type is entered whenever the
state lets it in. Two predicates are carried along: `every` holds of each state that the call passes
through, and `chosen` of each template that is evaluated with its subject.

A course gives what the call renders (`Call.render_eq_of_course`), since the number of levels that
`expandMembers` may still open is always the number that the state leaves open (`HasRoom`). And
every call has a course, in which the types that are being expanded are a branch and each template
is one that generation may evaluate (`Call.course`). It is a course under another bound on the depth
too, if that bound lets in the same types from every branch (`Call.course_of_admitsAlike`).
-/

namespace ViewForge.Render

/-- A member as generation sees it from the type that declares it. -/
def shapeOf (c : Setting) (m : Member) : Shape :=
  Shape.ofProperty c.model (some m.declaring) m.property

/-- The exposed members of a type as generation sees them. -/
def innerShapes (c : Setting) (t : TypeDecl) : List Shape :=
  (Member.exposed c.model c.generation.excluded t).map (shapeOf c)

/-- A member of an enumeration by the template of its profile. -/
def renderElement (c : Setting) (member : Shape) (name : String) (s : State) :
    Option Rendering × State :=
  let (pieces, s) :=
    renderTemplate expandNothing expandNothing c.profile.enumMember ⟨member, some name⟩ s
  (some pieces, s)

/-- What a call has to render from a state on. -/
inductive Task where
  /-- Members, one after the other. -/
  | members (nested : Bool) (shapes : List Shape)
  /-- Members of an enumeration, one after the other. -/
  | elements (member : Shape) (names : List String)
  /-- The members behind a member. -/
  | inner (member : Shape)
  /-- The members of a member's enumeration. -/
  | enum (member : Shape)

/-- What a task renders if `room` levels may still be opened, and the state after it. -/
def Task.render (c : Setting) (room : Nat) : Task → State → List Rendering × State
  | members nested shapes, s => renderAll (renderMember c (expandMembers c room) nested) shapes s
  | elements member names, s => renderAll (renderElement c member) names s
  | inner member, s => expandMembers c room member s
  | enum member, s => expandEnum c member s

/-- Whether a marker asks for what stands behind the member of a subject. -/
def Nests (subject : Subject) (m : Marker) : Prop :=
  subject.element = none ∧ m ∈ [Marker.subProperties, .enumMembers]

mutual

/-- How the rest of a template is rendered for a subject, from one marker to the next. -/
inductive PartsCourse (c : Setting) (every : State → Prop) (chosen : String → Subject → Prop) :
    String → Subject → List Template.Part → Progress → Rendering → Progress → Prop
  /-- No parts are left. -/
  | nil {template : String} {subject : Subject} {p : Progress} (hnow : every p.state) :
    PartsCourse c every chosen template subject [] p [] p
  /-- Text stands for itself. -/
  | text {template : String} {subject : Subject} {letters : List Char}
    {parts : List Template.Part} {p q : Progress} {pieces : Rendering} (hnow : every p.state)
    (h : PartsCourse c every chosen template subject parts p pieces q) :
    PartsCourse c every chosen template subject (.text letters :: parts) p
      (.literal letters :: pieces) q
  /-- A marker that asks for nothing behind the member becomes a piece. -/
  | plain {template : String} {subject : Subject} {m : Marker} {offset : Nat}
    {parts : List Template.Part} {p p' q : Progress} {piece : Piece} {pieces : Rendering}
    (hnow : every p.state) (hplain : ¬ Nests subject m)
    (hpiece : renderMarker expandNothing expandNothing template.toList subject m offset p =
      (piece, p'))
    (h : PartsCourse c every chosen template subject parts p' pieces q) :
    PartsCourse c every chosen template subject (.marker m offset :: parts) p (piece :: pieces) q
  /-- The members behind the member are rendered where their marker stands. -/
  | inner {template : String} {subject : Subject} {offset : Nat} {parts : List Template.Part}
    {p q : Progress} {renderings : List Rendering} {t : State} {pieces : Rendering}
    (hnow : every p.state) (helement : subject.element = none)
    (hinner : Course c every chosen (.inner subject.member) p.state renderings t)
    (h : PartsCourse c every chosen template subject parts { p with state := t } pieces q) :
    PartsCourse c every chosen template subject (.marker .subProperties offset :: parts) p
      (.group renderings :: pieces) q
  /-- The members of its enumeration are rendered where their marker stands. -/
  | enum {template : String} {subject : Subject} {offset : Nat} {parts : List Template.Part}
    {p q : Progress} {renderings : List Rendering} {t : State} {pieces : Rendering}
    (hnow : every p.state) (helement : subject.element = none)
    (henum : Course c every chosen (.enum subject.member) p.state renderings t)
    (h : PartsCourse c every chosen template subject parts { p with state := t } pieces q) :
    PartsCourse c every chosen template subject (.marker .enumMembers offset :: parts) p
      (.group renderings :: pieces) q

/-- How a task is done from one state to another, and the renderings that it gives. -/
inductive Course (c : Setting) (every : State → Prop) (chosen : String → Subject → Prop) :
    Task → State → List Rendering → State → Prop
  /-- No members are left. -/
  | noMembers {nested : Bool} {s : State} (hnow : every s) :
    Course c every chosen (.members nested []) s [] s
  /-- The template of a member suppresses it. -/
  | suppressed {nested : Bool} {member : Shape} {rest : List Shape} {s t : State}
    {renderings : List Rendering} (hnow : every s)
    (htemplate : Template.mentions (templateFor c nested member).toList .noOutput = true)
    (hrest : Course c every chosen (.members nested rest) s renderings t) :
    Course c every chosen (.members nested (member :: rest)) s renderings t
  /-- A member is rendered by its template, and then the others. -/
  | member {nested : Bool} {member : Shape} {rest : List Shape} {s t : State} {pieces : Rendering}
    {p : Progress} {renderings : List Rendering} (hnow : every s)
    (htemplate : Template.mentions (templateFor c nested member).toList .noOutput = false)
    (hchosen : chosen (templateFor c nested member) ⟨member, none⟩)
    (hparts : PartsCourse c every chosen (templateFor c nested member) ⟨member, none⟩
      (Template.parts (templateFor c nested member).toList) ⟨s, none⟩ pieces p)
    (hrest : Course c every chosen (.members nested rest) p.close renderings t) :
    Course c every chosen (.members nested (member :: rest)) s (pieces :: renderings) t
  /-- No members of the enumeration are left. -/
  | noElements {member : Shape} {s : State} (hnow : every s) :
    Course c every chosen (.elements member []) s [] s
  /-- A member of the enumeration is rendered by the template for them, and then the others. -/
  | element {member : Shape} {name : String} {rest : List String} {s t : State}
    {pieces : Rendering} {p : Progress} {renderings : List Rendering} (hnow : every s)
    (hchosen : chosen c.profile.enumMember ⟨member, some name⟩)
    (hparts : PartsCourse c every chosen c.profile.enumMember ⟨member, some name⟩
      (Template.parts c.profile.enumMember.toList) ⟨s, none⟩ pieces p)
    (hrest : Course c every chosen (.elements member rest) p.close renderings t) :
    Course c every chosen (.elements member (name :: rest)) s (pieces :: renderings) t
  /-- The type is no enumeration, or the template for its members suppresses them. -/
  | noEnum {member : Shape} {s : State} (hnow : every s)
    (hnone : (!member.isEnum || Template.mentions c.profile.enumMember.toList .noOutput) = true) :
    Course c every chosen (.enum member) s [] s
  /-- The members of an enumeration are a group. -/
  | enum {member : Shape} {s t : State} {renderings : List Rendering} (hnow : every s)
    (hsome : (!member.isEnum || Template.mentions c.profile.enumMember.toList .noOutput) = false)
    (h : Course c every chosen (.elements member member.enumMembers) s.beginGroup renderings t) :
    Course c every chosen (.enum member) s renderings (t.endGroup s.previous)
  /-- Nothing stands behind the member. -/
  | noInner {member : Shape} {s : State} (hnow : every s) (hinner : member.inner = .none) :
    Course c every chosen (.inner member) s [] s
  /-- Members that are not known are one blank member, which is a group. -/
  | unknown {member : Shape} {s : State} {pieces : Rendering} {p : Progress} (hnow : every s)
    (hinner : member.inner = .unknown)
    (hchosen : chosen c.profile.nestedFallback ⟨.blank, none⟩)
    (hparts : PartsCourse c every chosen c.profile.nestedFallback ⟨.blank, none⟩
      (Template.parts c.profile.nestedFallback.toList) ⟨s.beginGroup, none⟩ pieces p) :
    Course c every chosen (.inner member) s [pieces] (p.close.endGroup s.previous)
  /-- The type behind the member may not be entered. -/
  | refused {member : Shape} {d : TypeDecl} {s : State} (hnow : every s)
    (hinner : member.inner = .members d)
    (hrefused : s.enter? d.fullName c.generation.maxDepth = none) :
    Course c every chosen (.inner member) s [] s
  /-- The type is entered, its members are a group, and the type is left. -/
  | entered {member : Shape} {d : TypeDecl} {s inside t : State} {renderings : List Rendering}
    (hnow : every s) (hinner : member.inner = .members d)
    (henter : s.enter? d.fullName c.generation.maxDepth = some inside)
    (h : Course c every chosen (.members true (innerShapes c d)) inside.beginGroup renderings t) :
    Course c every chosen (.inner member) s renderings (t.endGroup inside.previous).leave

end

/-- Nothing is asked of a state. -/
def AnyState (_ : State) : Prop := True

/-- Nothing is asked of a template and its subject. -/
def AnyTemplate (_ : String) (_ : Subject) : Prop := True

/-! ## Markers -/

variable {c : Setting} {every : State → Prop} {chosen : String → Subject → Prop}

/-- A marker that asks for nothing behind the member does not depend on what stands there. -/
theorem renderMarker_plain {subject : Subject} {m : Marker} (h : ¬ Nests subject m)
    (expandMembers expandEnum : Expander) (template : List Char) (offset : Nat) (p : Progress) :
    renderMarker expandMembers expandEnum template subject m offset p =
      renderMarker expandNothing expandNothing template subject m offset p := by
  unfold renderMarker
  cases helement : subject.element with
  | some _ => rfl
  | none =>
    cases m with
    | subProperties => exact absurd ⟨helement, by decide⟩ h
    | enumMembers => exact absurd ⟨helement, by decide⟩ h
    | _ => rfl

/-- Such a marker leaves the types that are being expanded alone. -/
theorem expanding_renderMarker {template : List Char} {subject : Subject} {m : Marker}
    {offset : Nat} {p p' : Progress} {piece : Piece}
    (h : renderMarker expandNothing expandNothing template subject m offset p = (piece, p')) :
    p'.state.expanding = p.state.expanding := by
  obtain rfl : (renderMarker expandNothing expandNothing template subject m offset p).2 = p' :=
    congrArg Prod.snd h
  unfold renderMarker
  cases m with
  | elementName =>
    unfold nameElement
    cases p.name <;> rfl
  | subProperties => cases subject.element <;> rfl
  | enumMembers => cases subject.element <;> rfl
  | _ => rfl

/-- The marker for the members behind a member becomes their group. -/
theorem renderMarker_subProperties {subject : Subject} (h : subject.element = none)
    (expandMembers expandEnum : Expander) (template : List Char) (offset : Nat) (p : Progress) :
    renderMarker expandMembers expandEnum template subject .subProperties offset p =
      (.group (expandMembers subject.member p.state).1,
        { p with state := (expandMembers subject.member p.state).2 }) := by
  unfold renderMarker
  simp only [h]

/-- The marker for the members of an enumeration becomes their group. -/
theorem renderMarker_enumMembers {subject : Subject} (h : subject.element = none)
    (expandMembers expandEnum : Expander) (template : List Char) (offset : Nat) (p : Progress) :
    renderMarker expandMembers expandEnum template subject .enumMembers offset p =
      (.group (expandEnum subject.member p.state).1,
        { p with state := (expandEnum subject.member p.state).2 }) := by
  unfold renderMarker
  simp only [h]

/-- Items made of others are rendered as those are. -/
theorem renderAll_map {α β : Type} (render : β → State → Option Rendering × State) (f : α → β)
    (xs : List α) :
    ∀ s, renderAll render (xs.map f) s = renderAll (fun x => render (f x)) xs s := by
  induction xs with
  | nil => exact fun _ => rfl
  | cons x xs ih =>
    intro s
    rw [List.map_cons, renderAll, renderAll]
    dsimp only
    rw [ih]

/-- A template is rendered alike where the same stands behind the member of its subject. -/
theorem renderTemplate_congr {expandMembers expandEnum expandMembers' expandEnum' : Expander}
    {subject : Subject}
    (hmembers : subject.element = none →
      expandMembers subject.member = expandMembers' subject.member)
    (henum : subject.element = none → expandEnum subject.member = expandEnum' subject.member)
    (template : String) (s : State) :
    renderTemplate expandMembers expandEnum template subject s =
      renderTemplate expandMembers' expandEnum' template subject s := by
  have hvalue (m : Marker) (offset : Nat) :
      renderMarker expandMembers expandEnum template.toList subject m offset =
        renderMarker expandMembers' expandEnum' template.toList subject m offset := by
    funext p
    -- Only the two markers that nest members use the expanders.
    by_cases hnests : Nests subject m
    · obtain ⟨helement, hm⟩ := hnests
      obtain rfl | rfl := List.mem_pair.1 hm
      · rw [renderMarker_subProperties helement, renderMarker_subProperties helement,
          hmembers helement]
      · rw [renderMarker_enumMembers helement, renderMarker_enumMembers helement, henum helement]
    · rw [renderMarker_plain hnests, renderMarker_plain hnests expandMembers']
  rw [renderTemplate_eq, renderTemplate_eq, renderParts_congr fun m offset _ => hvalue m offset]

/-- Members that are not known are one blank member, which is a group. -/
theorem expandMembers_of_unknown {room : Nat} {member : Shape} (h : member.inner = .unknown)
    (s : State) :
    expandMembers c room member s = inGroup s fun s =>
      let result :=
        renderTemplate expandNothing expandNothing c.profile.nestedFallback ⟨.blank, none⟩ s
      ([result.1], result.2) := by
  rw [expandMembers.eq_def]
  simp only [h]

/-! ## The types that are being expanded -/

mutual

/-- After the rest of a template the same types are being expanded as before. -/
theorem PartsCourse.expanding_eq {template : String} {subject : Subject}
    {parts : List Template.Part} {p q : Progress} {pieces : Rendering} :
    PartsCourse c every chosen template subject parts p pieces q →
      q.state.expanding = p.state.expanding
  | .nil _ => rfl
  | .text _ h => h.expanding_eq
  | .plain _ _ hpiece h => h.expanding_eq.trans (expanding_renderMarker hpiece)
  | .inner _ _ hinner h => h.expanding_eq.trans hinner.expanding_eq
  | .enum _ _ henum h => h.expanding_eq.trans henum.expanding_eq

/-- After a task the same types are being expanded as before. -/
theorem Course.expanding_eq {task : Task} {s t : State} {renderings : List Rendering} :
    Course c every chosen task s renderings t → t.expanding = s.expanding
  | .noMembers _ => rfl
  | .suppressed _ _ hrest => hrest.expanding_eq
  | .member _ _ _ hparts hrest => hrest.expanding_eq.trans hparts.expanding_eq
  | .noElements _ => rfl
  | .element _ _ hparts hrest => hrest.expanding_eq.trans hparts.expanding_eq
  | .noEnum _ _ => rfl
  | .enum _ _ h => h.expanding_eq
  | .noInner _ _ => rfl
  | .unknown _ _ _ hparts => hparts.expanding_eq
  | .refused _ _ _ => rfl
  | .entered (t := t) _ _ henter h => by
    have hinside := h.expanding_eq
    obtain ⟨-, -, rfl⟩ := State.enter?_eq_some_iff.1 henter
    -- The type that was entered last is the one that is left.
    show t.expanding.tail = _
    rw [hinside]
    rfl

end

/-! ## What a course renders -/

/-- Whether a state leaves so many levels open. -/
def HasRoom (c : Setting) (room : Nat) (s : State) : Prop :=
  room + s.expanding.length = c.generation.maxDepth

/-- States in which the same types are being expanded leave as many levels open. -/
theorem HasRoom.congr {room : Nat} {s t : State} (h : HasRoom c room s)
    (hexpanding : t.expanding = s.expanding) : HasRoom c room t := by
  unfold HasRoom
  rw [hexpanding]
  exact h

/-- Where a type is entered a level is open, and inside the type there is one less. -/
theorem HasRoom.of_enter {room : Nat} {s inside : State} {name : String} (h : HasRoom c room s)
    (henter : s.enter? name c.generation.maxDepth = some inside) :
    ∃ less, room = less + 1 ∧ HasRoom c less inside := by
  obtain ⟨hlt, -, rfl⟩ := State.enter?_eq_some_iff.1 henter
  unfold HasRoom at *
  refine ⟨room - 1, by omega, ?_⟩
  rw [List.length_cons]
  omega

/-- Where no level is open no type is entered. -/
theorem HasRoom.enter?_eq_none {s : State} (h : HasRoom c 0 s) (name : String) :
    s.enter? name c.generation.maxDepth = none := by
  refine Option.eq_none_iff_forall_not_mem.2 fun inside henter => ?_
  obtain ⟨less, hless, -⟩ := h.of_enter henter
  exact absurd hless (Nat.succ_ne_zero less).symm

/-! ## What each rule renders -/

/-- A template rendered for a subject if `room` levels may still be opened, and its progress in the
end. -/
def renderSubject (c : Setting) (room : Nat) (template : String) (subject : Subject) (s : State) :
    Rendering × Progress :=
  renderParts (renderMarker (expandMembers c room) (expandEnum c) template.toList subject)
    (Template.parts template.toList) ⟨s, none⟩

/-- The results of tasks done one after the other. -/
def followedBy (first : Rendering × Progress) (rest : State → List Rendering × State) :
    List Rendering × State :=
  (first.1 :: (rest first.2.close).1, (rest first.2.close).2)

namespace Task

variable {room : Nat} {s : State}

/-- A member that its template suppresses is left out. -/
theorem render_suppressed {nested : Bool} {member : Shape} {rest : List Shape}
    (h : Template.mentions (templateFor c nested member).toList .noOutput = true) :
    (members nested (member :: rest)).render c room s = (members nested rest).render c room s := by
  rw [render, renderAll, renderMember, h]
  rfl

/-- A member is rendered by its template, and then the others. -/
theorem render_member {nested : Bool} {member : Shape} {rest : List Shape}
    (h : Template.mentions (templateFor c nested member).toList .noOutput = false) :
    (members nested (member :: rest)).render c room s =
      followedBy (renderSubject c room (templateFor c nested member) ⟨member, none⟩ s)
        ((members nested rest).render c room) := by
  rw [render, renderAll, renderMember, h]
  dsimp only
  rw [if_neg Bool.false_ne_true, renderTemplate_eq]
  rfl

/-- What stands behind a member plays no part inside the template of an enumeration's member. -/
theorem render_element {member : Shape} {name : String} {rest : List String} :
    (elements member (name :: rest)).render c room s =
      followedBy (renderSubject c room c.profile.enumMember ⟨member, some name⟩ s)
        ((elements member rest).render c room) := by
  rw [render, renderAll, renderElement, renderTemplate_congr
    (fun h => absurd h (Option.some_ne_none name)) (fun h => absurd h (Option.some_ne_none name)),
    renderTemplate_eq]
  rfl

/-- Nothing is rendered for a type that is no enumeration or whose members are suppressed. -/
theorem render_noEnum {member : Shape}
    (h : (!member.isEnum || Template.mentions c.profile.enumMember.toList .noOutput) = true) :
    (enum member).render c room s = ([], s) := by
  show expandEnum c member s = _
  unfold expandEnum
  dsimp only
  rw [if_pos h]

/-- The members of an enumeration are a group. -/
theorem render_enum {member : Shape}
    (h : (!member.isEnum || Template.mentions c.profile.enumMember.toList .noOutput) = false) :
    (enum member).render c room s =
      inGroup s ((elements member member.enumMembers).render c room) := by
  show expandEnum c member s = _
  unfold expandEnum
  dsimp only
  rw [h, if_neg Bool.false_ne_true]
  rfl

/-- Nothing stands behind a leaf. -/
theorem render_noInner {member : Shape} (h : member.inner = .none) :
    (inner member).render c room s = ([], s) := by
  rw [render, expandMembers.eq_def]
  simp only [h]

/-- Members that are not known are one blank member, behind which nothing stands. -/
theorem render_unknown {member : Shape} (h : member.inner = .unknown) :
    (inner member).render c room s =
      inGroup s fun s =>
        let result := renderSubject c room c.profile.nestedFallback ⟨.blank, none⟩ s
        ([result.1], result.2.close) := by
  have hmembers : expandNothing .blank = expandMembers c room .blank := by
    funext s
    have hnone : (inner .blank).render c room s = ([], s) := render_noInner rfl
    exact hnone.symm
  have henum : expandNothing .blank = expandEnum c .blank := rfl
  rw [render, expandMembers_of_unknown h, inGroup]
  dsimp only
  rw [renderTemplate_congr (fun _ => hmembers) (fun _ => henum), renderTemplate_eq]
  rfl

/-- A type that is refused is not expanded. -/
theorem render_refused {member : Shape} {d : TypeDecl} (hinner : member.inner = .members d)
    (hrefused : s.enter? d.fullName c.generation.maxDepth = none) :
    (inner member).render c room s = ([], s) := by
  rw [render]
  cases room with
  | zero =>
    rw [expandMembers.eq_def]
    simp only [hinner]
  | succ room =>
    rw [expandMembers.eq_def]
    simp only [hinner, hrefused]

/-- The members of a type that is entered are a group, and then the type is left. -/
theorem render_entered {member : Shape} {d : TypeDecl} {inside : State}
    (hinner : member.inner = .members d)
    (henter : s.enter? d.fullName c.generation.maxDepth = some inside) :
    (inner member).render c (room + 1) s =
      let result := inGroup inside ((members true (innerShapes c d)).render c room)
      (result.1, result.2.leave) := by
  have hshapes : (members true (innerShapes c d)).render c room inside.beginGroup =
      renderAll (fun m => renderMember c (expandMembers c room) true (shapeOf c m))
        (Member.exposed c.model c.generation.excluded d) inside.beginGroup := by
    rw [render, innerShapes, renderAll_map]
  show expandMembers c (room + 1) member s = _
  rw [expandMembers.eq_def, inGroup]
  simp only [hinner, henter, hshapes]
  rfl

end Task

-- The recursion is on the course. The number of levels that may still be opened goes down where a
-- type is entered, and so does the number that the state leaves open: `HasRoom` holds all along.
mutual

/-- The rest of a template is rendered as its course says. -/
theorem PartsCourse.renderParts_eq {template : String} {subject : Subject}
    {parts : List Template.Part} {p q : Progress} {pieces : Rendering} {room : Nat} :
    PartsCourse c every chosen template subject parts p pieces q → HasRoom c room p.state →
      renderParts (renderMarker (expandMembers c room) (expandEnum c) template.toList subject)
        parts p = (pieces, q)
  | .nil _, _ => rfl
  | .text _ h, hroom => by rw [renderParts, h.renderParts_eq hroom]
  -- A piece of any kind leaves the types that are entered as they are, so the room counts for the
  -- parts behind it too.
  | .plain _ hplain hpiece h, hroom => by
    rw [renderParts, renderMarker_plain hplain, hpiece]
    dsimp only
    rw [h.renderParts_eq (hroom.congr (expanding_renderMarker hpiece))]
  | .inner _ helement hinner h, hroom => by
    have hnested := hinner.render_eq hroom
    rw [Task.render] at hnested
    rw [renderParts, renderMarker_subProperties helement, hnested]
    dsimp only
    rw [h.renderParts_eq (hroom.congr hinner.expanding_eq)]
  | .enum _ helement henum h, hroom => by
    have hnested := henum.render_eq hroom
    rw [Task.render] at hnested
    rw [renderParts, renderMarker_enumMembers helement, hnested]
    dsimp only
    rw [h.renderParts_eq (hroom.congr henum.expanding_eq)]

/-- A task renders what its course says. -/
theorem Course.render_eq {task : Task} {s t : State} {renderings : List Rendering} {room : Nat} :
    Course c every chosen task s renderings t → HasRoom c room s →
      task.render c room s = (renderings, t)
  | .noMembers _, _ => rfl
  | .suppressed _ htemplate hrest, hroom => by
    rw [Task.render_suppressed htemplate, hrest.render_eq hroom]
  | .member _ htemplate _ hparts hrest, hroom => by
    rw [Task.render_member htemplate, renderSubject, hparts.renderParts_eq hroom, followedBy,
      hrest.render_eq (hroom.congr hparts.expanding_eq)]
  | .noElements _, _ => rfl
  | .element _ _ hparts hrest, hroom => by
    rw [Task.render_element, renderSubject, hparts.renderParts_eq hroom, followedBy,
      hrest.render_eq (hroom.congr hparts.expanding_eq)]
  | .noEnum _ hnone, _ => Task.render_noEnum hnone
  | .enum _ hsome h, hroom => by rw [Task.render_enum hsome, inGroup, h.render_eq hroom]
  | .noInner _ hinner, _ => Task.render_noInner hinner
  | .unknown (s := s) _ hinner _ hparts, hroom => by
    -- A group begins without a previous name, which the room does not see.
    have hroom : HasRoom c room s.beginGroup := hroom
    rw [Task.render_unknown hinner, inGroup, renderSubject, hparts.renderParts_eq hroom]
  | .refused _ hinner hrefused, _ => Task.render_refused hinner hrefused
  | .entered _ hinner henter h, hroom => by
    obtain ⟨less, rfl, hless⟩ := hroom.of_enter henter
    rw [Task.render_entered hinner henter, inGroup, h.render_eq hless]

end

/-! ## Every task has a course -/

/-- Names of types that are expanded one inside the other: pairwise different names of types of the
model, and no more than the settings allow. -/
structure IsBranch (c : Setting) (names : List String) : Prop where
  /-- No name comes twice. -/
  nodup : names.Nodup
  /-- Each is the name of a type of the model. -/
  known : names ⊆ c.model.types.map (·.fullName)
  /-- There are no more than the settings allow. -/
  length_le : names.length ≤ c.generation.maxDepth

/-- At the start no type is being expanded. -/
theorem IsBranch.nil (c : Setting) : IsBranch c [] :=
  ⟨List.nodup_nil, List.nil_subset _, Nat.zero_le _⟩

/-- Where a type of the model is entered, the types that are being expanded stay a branch. -/
theorem IsBranch.of_enter {s inside : State} {d : TypeDecl} (h : IsBranch c s.expanding)
    (hd : d ∈ c.model.types)
    (henter : s.enter? d.fullName c.generation.maxDepth = some inside) :
    IsBranch c inside.expanding := by
  obtain ⟨hlt, hnew, rfl⟩ := State.enter?_eq_some_iff.1 henter
  exact {
    nodup := List.nodup_cons.2 ⟨hnew, h.nodup⟩
    known := List.cons_subset.2 ⟨List.mem_map_of_mem hd, h.known⟩
    length_le := hlt }

/-- The setting with another bound on the depth. -/
def Setting.capped (c : Setting) (depth : Nat) : Setting :=
  { c with generation := { c.generation with maxDepth := depth } }

/-- Another bound on the depth lets in the same types wherever generation gets to. -/
def AdmitsAlike (c : Setting) (depth : Nat) : Prop :=
  ∀ s : State, IsBranch c s.expanding → ∀ d ∈ c.model.types,
    s.enter? d.fullName depth = s.enter? d.fullName c.generation.maxDepth

/-- A template that generation may evaluate for a subject: one that suppresses nothing, or the one
for nested members that the profile gives the blank member. -/
def MayRender (c : Setting) (template : String) (subject : Subject) : Prop :=
  Template.mentions template.toList .noOutput = false ∨
    template = c.profile.nestedFallback ∧ subject = ⟨.blank, none⟩

/-- What is rendered is a course, from every state in which the types of a branch are being
expanded. -/
def Follows (c : Setting) (depth : Nat) (every : State → Prop) (chosen : String → Subject → Prop)
    (room : Nat) (branch : List String) (task : Task) : Prop :=
  ∀ s : State, s.expanding = branch →
    Course (c.capped depth) every chosen task s (task.render c room s).1 (task.render c room s).2

/-- What a template becomes for a subject is a course, from every state in which the types of a
branch are being expanded. -/
def TemplateFollows (c : Setting) (depth : Nat) (every : State → Prop)
    (chosen : String → Subject → Prop) (room : Nat) (branch : List String) (template : String)
    (subject : Subject) : Prop :=
  ∀ s : State, s.expanding = branch →
    PartsCourse (c.capped depth) every chosen template subject (Template.parts template.toList)
      ⟨s, none⟩ (renderSubject c room template subject s).1
      (renderSubject c room template subject s).2

/-- A type behind a member is one of the model. -/
def InnerKnown (c : Setting) (member : Shape) : Prop :=
  ∀ d, member.inner = .members d → d ∈ c.model.types

section Follows

variable {depth room : Nat} {branch : List String}

/-- The parts of a template are rendered as a course if what stands behind the member is. -/
theorem renderParts_follows (hnow : ∀ s : State, s.expanding = branch → every s)
    {subject : Subject}
    (hinner : subject.element = none →
      Follows c depth every chosen room branch (.inner subject.member))
    (henum : subject.element = none →
      Follows c depth every chosen room branch (.enum subject.member))
    (template : String) (parts : List Template.Part) : ∀ p : Progress, p.state.expanding = branch →
      let result := renderParts
        (renderMarker (expandMembers c room) (expandEnum c) template.toList subject) parts p
      PartsCourse (c.capped depth) every chosen template subject parts p result.1 result.2 := by
  induction parts with
  | nil => exact fun p hp => .nil (hnow p.state hp)
  | cons part parts ih =>
    intro p hp
    have hstart := hnow p.state hp
    cases part with
    | text letters => exact .text hstart (ih p hp)
    | marker m offset =>
      dsimp only
      rw [renderParts]
      -- What stands behind the member goes by its own course. Whatever the marker, the rest goes on
      -- from the same branch.
      by_cases hnests : Nests subject m
      · obtain ⟨helement, hm⟩ := hnests
        obtain rfl | rfl := List.mem_pair.1 hm
        · have hmembers := hinner helement p.state hp
          rw [renderMarker_subProperties helement]
          exact .inner hstart helement hmembers (ih _ (hmembers.expanding_eq.trans hp))
        · have hmembers := henum helement p.state hp
          rw [renderMarker_enumMembers helement]
          exact .enum hstart helement hmembers (ih _ (hmembers.expanding_eq.trans hp))
      · rw [renderMarker_plain hnests]
        exact .plain hstart hnests rfl (ih _ ((expanding_renderMarker rfl).trans hp))

/-- A template is rendered as a course if what stands behind the member is. -/
theorem template_follows (hnow : ∀ s : State, s.expanding = branch → every s) {subject : Subject}
    (hinner : subject.element = none →
      Follows c depth every chosen room branch (.inner subject.member))
    (henum : subject.element = none →
      Follows c depth every chosen room branch (.enum subject.member))
    (template : String) : TemplateFollows c depth every chosen room branch template subject :=
  fun s hs => renderParts_follows hnow hinner henum template _ ⟨s, none⟩ hs

variable (hnow : ∀ s : State, s.expanding = branch → every s)
  (hchosen : ∀ template subject, MayRender c template subject → chosen template subject)

include hnow hchosen

/-- The members of an enumeration are rendered as a course. -/
theorem elements_follow
    (htemplate : Template.mentions c.profile.enumMember.toList .noOutput = false)
    (member : Shape) (names : List String) :
    Follows c depth every chosen room branch (.elements member names) := by
  induction names with
  | nil => exact fun s hs => .noElements (hnow s hs)
  | cons name rest ih =>
    intro s hs
    -- Inside this template nothing stands behind the member.
    have hparts : TemplateFollows c depth every chosen room branch c.profile.enumMember
        ⟨member, some name⟩ :=
      template_follows hnow (fun h => absurd h (Option.some_ne_none name))
        (fun h => absurd h (Option.some_ne_none name)) _
    rw [Task.render_element]
    exact .element (hnow s hs) (hchosen _ _ (.inl htemplate)) (hparts s hs)
      (ih _ ((hparts s hs).expanding_eq.trans hs))

/-- The group of an enumeration's members is rendered as a course. -/
theorem enum_follows (member : Shape) :
    Follows c depth every chosen room branch (.enum member) := by
  intro s hs
  cases hnone : !member.isEnum || Template.mentions c.profile.enumMember.toList .noOutput with
  | true =>
    rw [Task.render_noEnum hnone]
    exact .noEnum (hnow s hs) hnone
  | false =>
    have htemplate := (Bool.or_eq_false_iff.1 hnone).2
    have helements : Follows c depth every chosen room branch
        (.elements member member.enumMembers) :=
      elements_follow hnow hchosen htemplate member member.enumMembers
    rw [Task.render_enum hnone]
    exact .enum (hnow s hs) hnone (helements s.beginGroup hs)

/-- Members are rendered as a course if what stands behind each of them is. -/
theorem members_follow (nested : Bool) {shapes : List Shape}
    (h : ∀ member ∈ shapes, Follows c depth every chosen room branch (.inner member)) :
    Follows c depth every chosen room branch (.members nested shapes) := by
  induction shapes with
  | nil => exact fun s hs => .noMembers (hnow s hs)
  | cons member rest ih =>
    intro s hs
    have hrest := ih fun other hother => h other (List.mem_cons_of_mem _ hother)
    cases htemplate : Template.mentions (templateFor c nested member).toList .noOutput with
    | true =>
      rw [Task.render_suppressed htemplate]
      exact .suppressed (hnow s hs) htemplate (hrest s hs)
    | false =>
      -- The template expands what stands behind this member; the others follow from the state that
      -- it leaves, on the same branch.
      have hparts : TemplateFollows c depth every chosen room branch (templateFor c nested member)
          ⟨member, none⟩ :=
        template_follows hnow (fun _ => h member List.mem_cons_self)
          (fun _ => enum_follows hnow hchosen member) _
      rw [Task.render_member htemplate]
      exact .member (hnow s hs) htemplate (hchosen _ _ (.inl htemplate)) (hparts s hs)
        (hrest _ ((hparts s hs).expanding_eq.trans hs))

/-- The blank member that stands for members that are not known is rendered as a course. -/
theorem unknown_follows {member : Shape} (hinner : member.inner = .unknown) :
    Follows c depth every chosen room branch (.inner member) := by
  have hblank : Follows c depth every chosen room branch (.inner .blank) := by
    intro s hs
    rw [Task.render_noInner rfl]
    exact .noInner (hnow s hs) rfl
  have hparts : TemplateFollows c depth every chosen room branch c.profile.nestedFallback
      ⟨.blank, none⟩ :=
    template_follows hnow (fun _ => hblank) (fun _ => enum_follows hnow hchosen .blank) _
  intro s hs
  rw [Task.render_unknown hinner]
  exact .unknown (hnow s hs) hinner (hchosen _ _ (.inr ⟨rfl, rfl⟩)) (hparts s.beginGroup hs)

end Follows

/-- A type behind elements of a collection is one of the model. -/
theorem mem_types_of_innerOfElement {m : Model} {context : Option TypeDecl} {element : TypeExpr}
    {d : TypeDecl} (h : Shape.innerOfElement m context element = .members d) : d ∈ m.types := by
  unfold Shape.innerOfElement at h
  dsimp only at h
  split_ifs at h
  split at h
  · rename_i hfound
    cases h
    exact Model.mem_types_of_resolve (Option.eq_some_of_filter_eq_some hfound)
  · cases h

/-- A type behind a property is one of the model. -/
theorem innerKnown_ofProperty (c : Setting) (context : Option TypeDecl) (p : Property) :
    InnerKnown c (Shape.ofProperty c.model context p) := by
  intro d h
  unfold Shape.ofProperty at h
  split at h
  · cases h
  · unfold Shape.refine at h
    split at h
    · cases h
    · exact mem_types_of_innerOfElement h
    · cases h
    · cases h
    · -- A name stands for an enumeration, a type with members, or neither.
      dsimp only at h
      split at h
      · cases h
      · split at h
        · exact mem_types_of_innerOfElement h
        · split at h
          · rename_i hfound
            split_ifs at h
            cases h
            exact Model.mem_types_of_resolve hfound
          · cases h

/-- The members behind a member are rendered as a course if they are wherever a type is entered. -/
theorem inner_follows_of_entered {depth room : Nat} {branch : List String}
    (hbranch : IsBranch c branch) (hadmits : AdmitsAlike c depth)
    (hevery : ∀ s : State, IsBranch c s.expanding → every s)
    (hchosen : ∀ template subject, MayRender c template subject → chosen template subject)
    {member : Shape} (hknown : InnerKnown c member)
    (hentered : ∀ (d : TypeDecl) (s inside : State), s.expanding = branch →
      member.inner = .members d → s.enter? d.fullName c.generation.maxDepth = some inside →
        ∃ less, room = less + 1 ∧ Follows c depth every chosen less inside.expanding
          (.members true (innerShapes c d))) :
    Follows c depth every chosen room branch (.inner member) := by
  have hnow : ∀ s : State, s.expanding = branch → every s := fun s hs => hevery s (hs ▸ hbranch)
  intro s hs
  cases hinner : member.inner with
  | none =>
    rw [Task.render_noInner hinner]
    exact .noInner (hnow s hs) hinner
  | unknown => exact unknown_follows hnow hchosen hinner s hs
  | members d =>
    -- Both bounds let the type in or neither does, so the course has the rule that was taken.
    have hsame := hadmits s (hs ▸ hbranch) d (hknown d hinner)
    cases henter : s.enter? d.fullName c.generation.maxDepth with
    | none =>
      rw [Task.render_refused hinner henter]
      exact .refused (hnow s hs) hinner (hsame.trans henter)
    | some inside =>
      obtain ⟨less, rfl, hmembers⟩ := hentered d s inside hs hinner henter
      rw [Task.render_entered hinner henter]
      exact .entered (hnow s hs) hinner (hsame.trans henter) (hmembers inside.beginGroup rfl)

/-- The members behind a member are rendered as a course, if the number of levels that may still be
opened is the number that the branch leaves open. -/
theorem inner_follows {depth : Nat} (hadmits : AdmitsAlike c depth)
    (hevery : ∀ s : State, IsBranch c s.expanding → every s)
    (hchosen : ∀ template subject, MayRender c template subject → chosen template subject)
    {room : Nat} : ∀ {branch : List String}, IsBranch c branch →
      room + branch.length = c.generation.maxDepth → ∀ {member : Shape}, InnerKnown c member →
        Follows c depth every chosen room branch (.inner member) := by
  induction room with
  | zero =>
    intro branch hbranch hroom member hknown
    refine inner_follows_of_entered hbranch hadmits hevery hchosen hknown ?_
    intro d s inside hs _ henter
    -- No level is open, so the type cannot have been entered.
    have hfull : HasRoom c 0 s := by rw [HasRoom, hs, hroom]
    rw [hfull.enter?_eq_none] at henter
    cases henter
  | succ room ih =>
    intro branch hbranch hroom member hknown
    refine inner_follows_of_entered hbranch hadmits hevery hchosen hknown ?_
    intro d s inside hs hinner henter
    have hopen : HasRoom c (room + 1) s := by rw [HasRoom, hs, hroom]
    obtain ⟨less, hless, hroom⟩ := hopen.of_enter henter
    obtain rfl := Nat.succ.inj hless
    -- Inside the type its name is on the branch too, and the induction goes on from there.
    have hbranch : IsBranch c inside.expanding :=
      .of_enter (hs ▸ hbranch) (hknown d hinner) henter
    refine ⟨_, rfl, members_follow (fun t ht => hevery t (ht ▸ hbranch)) hchosen true ?_⟩
    intro nested hnested
    obtain ⟨m, -, rfl⟩ := List.mem_map.1 hnested
    exact ih hbranch hroom (innerKnown_ofProperty c _ _)

/-! ## Calls -/

/-- The members that a call renders, as generation sees them. -/
def Call.shapes (c : Setting) : Call → List Shape
  | .property p declaring =>
    if Member.isExposed c.generation.excluded p then
      [Shape.ofProperty c.model (some declaring) p]
    else []
  | .wholeType t => innerShapes c t
  | .selection members =>
    (members.filter (Member.isExposed c.generation.excluded ·.property)).map (shapeOf c)

/-- What a call has to render. -/
def Call.task (c : Setting) (call : Call) : Task := .members false (call.shapes c)

/-- The renderings of a selection are those of its exposed members. -/
theorem renderSelection_eq (c : Setting) (members : List Member) : ∀ s,
    ((renderSelection c members s).1.map (·.2), (renderSelection c members s).2) =
      renderAll (fun m => renderMember c (expand c) false (shapeOf c m))
        (members.filter (Member.isExposed c.generation.excluded ·.property)) s := by
  induction members with
  | nil => exact fun _ => rfl
  | cons m rest ih =>
    intro s
    rw [renderSelection, List.filter_cons]
    cases hexposed : Member.isExposed c.generation.excluded m.property with
    | false => exact ih s
    | true =>
      have hothers := ih (renderMember c (expand c) false (shapeOf c m) s).2
      -- The names that the selection keeps beside its renderings play no part.
      have hid (o : Option Rendering) :
          (o.toList.map (m.property.name, ·)).map (·.2) = o.toList := by
        rw [List.map_map]
        exact List.map_id _
      rw [if_pos rfl, renderAll, Bool.not_true, if_neg Bool.false_ne_true]
      dsimp only
      rw [← hothers, List.map_append, hid]
      rfl

/-- A call renders its task from a fresh state, with all levels open. -/
theorem Call.render_eq (c : Setting) (call : Call) :
    call.render c = (call.task c).render c c.generation.maxDepth {} := by
  cases call with
  | property p declaring =>
    rw [render, task, shapes]
    split_ifs
    · rw [Task.render]
      simp only [renderAll, List.append_nil]
      rfl
    · rfl
  | wholeType t =>
    rw [task, shapes, Task.render, innerShapes, renderAll_map]
    rfl
  | selection members =>
    rw [task, shapes, Task.render, renderAll_map]
    exact renderSelection_eq c members {}

/-- What stands behind the members of a call is known. -/
theorem Call.innerKnown_of_mem_shapes (c : Setting) (call : Call) :
    ∀ member ∈ call.shapes c, InnerKnown c member := by
  have hshapeOf (members : List Member) :
      ∀ member ∈ members.map (shapeOf c), InnerKnown c member := by
    intro member hmember
    obtain ⟨m, -, rfl⟩ := List.mem_map.1 hmember
    exact innerKnown_ofProperty c _ _
  cases call with
  | property p declaring =>
    rw [shapes]
    split_ifs
    · exact List.forall_mem_singleton.2 (innerKnown_ofProperty c _ _)
    · exact List.forall_mem_nil _
  | wholeType t => exact hshapeOf _
  | selection members => exact hshapeOf _

/-- What a call renders is a course, also under another bound that admits alike. -/
theorem Call.course_of_admitsAlike (call : Call) {depth : Nat} (hadmits : AdmitsAlike c depth)
    (hevery : ∀ s : State, IsBranch c s.expanding → every s)
    (hchosen : ∀ template subject, MayRender c template subject → chosen template subject) :
    Course (c.capped depth) every chosen (call.task c) {} (call.render c).1 (call.render c).2 := by
  have hnow : ∀ s : State, s.expanding = [] → every s := fun s hs => hevery s (hs ▸ .nil c)
  rw [Call.render_eq]
  refine members_follow hnow hchosen false ?_ {} rfl
  intro member hmember
  exact inner_follows hadmits hevery hchosen (.nil c) (Nat.add_zero _)
    (call.innerKnown_of_mem_shapes c member hmember)

/-- What a call renders is a course. -/
theorem Call.course (call : Call) (hevery : ∀ s : State, IsBranch c s.expanding → every s)
    (hchosen : ∀ template subject, MayRender c template subject → chosen template subject) :
    Course c every chosen (call.task c) {} (call.render c).1 (call.render c).2 :=
  have hadmits : AdmitsAlike c c.generation.maxDepth := fun _ _ _ _ => rfl
  call.course_of_admitsAlike hadmits hevery hchosen

/-- A call renders what its course says. -/
theorem Call.render_eq_of_course {call : Call} {renderings : List Rendering} {t : State}
    (h : Course c every chosen (call.task c) {} renderings t) :
    call.render c = (renderings, t) := by
  rw [Call.render_eq]
  exact h.render_eq (Nat.add_zero _)

end ViewForge.Render
