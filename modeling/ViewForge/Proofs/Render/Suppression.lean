import ViewForge.Proofs.Render.Course
import ViewForge.Proofs.Render.Names
import ViewForge.Proofs.Template.Parts

/-!
# Suppressed output

A template that holds the suppressing marker renders no member and no member of an enumeration: the
member is left out, and the state stays as it is. In every call each template that is evaluated is
free of the marker, but for one place: the template for nested members is evaluated for the blank
member that stands for members that are not known, whether it holds the marker or not.

There it still contributes nothing exactly if it is made of markers that are blank for the blank
member (`suppressed_silent_iff`). With text beside the marker, the text is in the output
(`blank_not_suppressed`).
-/

namespace ViewForge.Render

/-- Whether a template holds the marker that suppresses output. -/
def Suppresses (template : String) : Prop := Template.mentions template.toList .noOutput = true

/-- Renderings that contribute nothing: no text, no value of the counter, no name, and the same
previous name. -/
structure Silent (s : State) (result : List Rendering × State) : Prop where
  /-- There is no text. -/
  text : joined result.1 = []
  /-- The counter did not advance. -/
  counter : result.2.next = s.next
  /-- No name was handed out. -/
  names : result.2.claimed = s.claimed
  /-- The previous name is the one from before. -/
  previous : result.2.previous = s.previous

/-- Whether a part of a template is blank for the blank member: it is a marker that asks neither for
a value of the counter nor for a name. -/
def isIdle : Template.Part → Bool
  | .text _ => false
  | .marker m _ => m ∉ [Marker.counter, .lastCounter, .elementName]

/-- Whether all parts of a template are blank for the blank member. -/
def Idle (template : String) : Prop := ∀ part ∈ Template.parts template.toList, isIdle part = true

/-! ## Parts and their texts -/

/-- Every part of a template becomes a piece. -/
theorem PartsFill.exists_piece {profile : Profile} {part : Template.Part} :
    ∀ {parts : List Template.Part} {pieces : List Piece}, PartsFill profile parts pieces →
      part ∈ parts → ∃ piece ∈ pieces, piece.Fills profile part
  | [], _, _, hpart => absurd hpart List.not_mem_nil
  | _ :: _, [], h, _ => h.elim
  | _ :: parts, piece :: pieces, h, hpart => by
    rcases List.mem_cons.1 hpart with rfl | hpart
    · exact ⟨piece, List.mem_cons_self, h.1⟩
    · obtain ⟨other, hother, hfills⟩ := PartsFill.exists_piece h.2 hpart
      exact ⟨other, List.mem_cons_of_mem _ hother, hfills⟩

/-- A rendering has no text exactly if none of its pieces has. -/
theorem renderingLetters_eq_nil_iff {pieces : Rendering} :
    renderingLetters pieces = [] ↔ ∀ piece ∈ pieces, piece.letters = [] := by
  induction pieces with
  | nil => exact iff_of_true rfl (List.forall_mem_nil _)
  | cons piece pieces ih =>
    rw [renderingLetters, List.append_eq_nil_iff, List.forall_mem_cons, ih]

/-- The text of a number is not empty. -/
theorem number_ne_nil (n : Nat) : (toString n).toList ≠ [] := by
  show n.repr.toList ≠ []
  rw [Nat.toList_repr]
  exact Nat.toDigits_ne_nil

/-! ## The blank member -/

/-- A part that is blank for the blank member becomes a piece without text and changes nothing. -/
theorem renderMarker_blank {m : Marker} {offset : Nat} (h : isIdle (.marker m offset) = true)
    (template : List Char) {p : Progress} (hprevious : p.state.previous = none) :
    (renderMarker expandNothing expandNothing template ⟨.blank, none⟩ m offset p).2 = p ∧
      (renderMarker expandNothing expandNothing template ⟨.blank, none⟩ m offset p).1.letters =
        [] := by
  unfold renderMarker
  cases m with
  | counter => exact absurd h Bool.false_ne_true
  | lastCounter => exact absurd h Bool.false_ne_true
  | elementName => exact absurd h Bool.false_ne_true
  -- The group has just begun, so there is no previous name to write.
  | previousElementName =>
    refine ⟨rfl, ?_⟩
    show (p.state.previous.getD "").toList = []
    rw [hprevious]
    rfl
  | spacedName =>
    have hspaced : (spaced "").toList = [] := by decide
    exact ⟨rfl, hspaced⟩
  | _ => exact ⟨rfl, rfl⟩

/-- A template that is blank for the blank member is rendered without text and changes nothing. -/
theorem renderParts_blank {parts : List Template.Part} (h : ∀ part ∈ parts, isIdle part = true)
    (template : List Char) {p : Progress} (hprevious : p.state.previous = none) :
    let result := renderParts (renderMarker expandNothing expandNothing template ⟨.blank, none⟩)
      parts p
    result.2 = p ∧ renderingLetters result.1 = [] := by
  induction parts with
  | nil => exact ⟨rfl, rfl⟩
  | cons part parts ih =>
    obtain ⟨hpart, hparts⟩ := List.forall_mem_cons.1 h
    cases part with
    | text letters => exact absurd hpart Bool.false_ne_true
    | marker m offset =>
      obtain ⟨hstate, hletters⟩ := renderMarker_blank hpart template hprevious
      have hrest := ih hparts
      rw [renderParts]
      dsimp only at hrest ⊢
      rw [hstate, renderingLetters, hletters]
      exact hrest

/-- A rendering without text that hands out no name is that of a template that is blank for the
blank member. -/
theorem PartsRun.isIdle {profile : Profile} {template : String} {s : State} {p : Progress}
    {pieces : Rendering}
    (h : PartsRun profile (Template.parts template.toList) ⟨s, none⟩ pieces p)
    (hletters : renderingLetters pieces = []) (hclaimed : p.state.claimed = s.claimed) :
    Idle template := by
  intro part hpart
  obtain ⟨piece, hpiece, hfills⟩ := h.fills.exists_piece hpart
  have hnone := renderingLetters_eq_nil_iff.1 hletters piece hpiece
  cases piece with
  | literal letters =>
    cases hfills
    exact absurd hnone (Template.ne_nil_of_text_mem_partsWith hpart)
  | counted n => exact absurd hnone (number_ne_nil n)
  | repeated n => exact absurd hnone (number_ne_nil n)
  | elementName name =>
    -- The name would be among those handed out once more than before.
    have hname : name ∈ elementNames pieces := List.mem_filterMap.2 ⟨_, hpiece, rfl⟩
    have hcount := h.claims name
    rw [hclaimed, newName_of_none rfl, ← h.name_eq_of_start, h.name_eq.2 name hname,
      Option.toList_some, List.count_singleton_self] at hcount
    dsimp only at hcount
    omega
  | previousName name =>
    obtain ⟨offset, rfl⟩ := hfills
    rfl
  | value text =>
    obtain ⟨m, offset, rfl, hm⟩ := hfills
    have hsubset : [Marker.counter, .lastCounter, .elementName] ⊆
        [Marker.counter, .lastCounter, .elementName, .previousElementName] := by decide
    exact decide_eq_true fun hmem => hm (hsubset hmem)
  | group renderings =>
    obtain ⟨⟨m, offset, rfl, hm⟩, -⟩ := hfills
    obtain rfl | rfl := List.mem_pair.1 hm <;> rfl

/-- Members that are not known contribute nothing exactly if the template for nested members is
blank for the blank member. -/
theorem silent_expandMembers_iff {c : Setting} {member : Shape} (hinner : member.inner = .unknown)
    (room : Nat) (s : State) :
    Silent s (expandMembers c room member s) ↔ Idle c.profile.nestedFallback := by
  rw [expandMembers_of_unknown hinner, inGroup, renderTemplate_eq]
  dsimp only
  constructor
  -- A run that writes nothing and claims no name has only idle parts; a counter would have written
  -- a number.
  · intro h
    have hrun := renderParts_run (expandNothing_run c.profile) (expandNothing_run c.profile)
      c.profile.nestedFallback.toList ⟨.blank, none⟩
      (Template.parts c.profile.nestedFallback.toList) ⟨s.beginGroup, none⟩
    have htext := h.text
    rw [joined_singleton] at htext
    exact hrun.isIdle htext h.names
  · intro h
    obtain ⟨hstate, hletters⟩ := renderParts_blank h c.profile.nestedFallback.toList
      (p := ⟨s.beginGroup, none⟩) rfl
    rw [hstate]
    exact ⟨(joined_singleton _).trans hletters, rfl, rfl, rfl⟩

/-! ## The law of suppression -/

/-- A template that suppresses output renders no member and no member of an enumeration, and the
state stays as it is. In every call each template that is evaluated suppresses nothing, or is the
template for nested members, evaluated for the blank member; and if that suppresses output, it
contributes nothing there exactly if all its parts are blank for the blank member. -/
theorem suppressed_silent_iff (c : Setting) :
    (∀ expandMembers nested member s, Suppresses (templateFor c nested member) →
        renderMember c expandMembers nested member s = (none, s)) ∧
      (∀ member s, Suppresses c.profile.enumMember → expandEnum c member s = ([], s)) ∧
      (∀ call : Call, Course c AnyState
        (fun template subject => Suppresses template →
          template = c.profile.nestedFallback ∧ subject = ⟨.blank, none⟩)
        (call.task c) {} (call.render c).1 (call.render c).2) ∧
      ∀ member, member.inner = .unknown → Suppresses c.profile.nestedFallback → ∀ room s,
        (Silent s (expandMembers c room member s) ↔ Idle c.profile.nestedFallback) := by
  refine ⟨?_, ?_, ?_, ?_⟩
  · intro expandMembers nested member s h
    unfold renderMember
    exact if_pos h
  · intro member s h
    have hnone : (Task.enum member).render c 0 s = ([], s) :=
      Task.render_noEnum (Bool.or_eq_true_iff.2 (.inr h))
    exact hnone
  · intro call
    refine call.course (fun _ _ => trivial) ?_
    -- A call evaluates a template for a member only if it does not suppress; what is left is the
    -- blank member.
    rintro template subject (hplain | hblank) hsuppresses
    · exact absurd hsuppresses (Bool.eq_false_iff.1 hplain)
    · exact hblank
  · intro member hinner _ room s
    exact silent_expandMembers_iff hinner room s

/-- A property whose members are not known. -/
def payload : Property := { name := "Data", typeText := "dynamic" }

/-- A profile whose template for nested members suppresses output and has text beside the marker. -/
def hushed : Setting where
  profile :=
    { name := "Hushed", fallback := "$name$: $subprops$"
      nestedFallback := "$nooutput$<Row Index=\"$incint$\" />" }
  model := ⟨[]⟩

/-- The property as generation sees it. -/
def payloadShape : Shape := Shape.ofProperty hushed.model none payload

/-- The template for nested members renders no member, and leaves the state alone. For the blank
member it does not contribute nothing. -/
theorem suppressed_silent_iff_hushed :
    renderMember hushed (expand hushed) true payloadShape {} = (none, {}) ∧
      ¬ Silent {} (expand hushed payloadShape {}) := by
  have hsuppresses : Suppresses hushed.profile.nestedFallback := by
    unfold Suppresses
    decide +kernel
  have hinner : payloadShape.inner = .unknown := by decide +kernel
  refine ⟨?_, ?_⟩
  · exact (suppressed_silent_iff hushed).1 _ _ _ _ hsuppresses
  · intro hsilent
    have hlaw := (suppressed_silent_iff hushed).2.2.2 payloadShape hinner hsuppresses
      hushed.generation.maxDepth {}
    have hidle := hlaw.1 hsilent
    unfold Idle at hidle
    exact absurd hidle (by decide +kernel)

/-- A selection of the property. -/
def payloadCall : Call := .selection [⟨payload, { name := "Order", kind := .class }⟩]

/-- The template for nested members suppresses output, yet its text is in the output for a property
whose members are not known, and the counter has given a value for it. -/
theorem blank_not_suppressed :
    Suppresses hushed.profile.nestedFallback ∧
      payloadCall.output hushed 4 = ⟨"Data", "Data: <Row Index=\"0\" />", .selection⟩ ∧
        payloadCall.rows hushed = 1 := by
  unfold Suppresses
  rw [payloadCall, Call.output]
  decide +kernel

end ViewForge.Render
