import ViewForge.Render.Output

/-!
# Calls of generation

The three calls of generation differ in which members they render and in what they put around the
renderings. `Call.render` is what they have in common: renderings made one after the other from a
fresh state. `Call.output_eq` says that the output of a call is the text of its renderings in its
frame. For one property `rendering?` is the rendering, which a call for the property and one for a
selection of it alone share.
-/

namespace ViewForge.Render

/-! ## One property -/

/-- The rendering of one property of a type, if it is shown. -/
def rendering? (c : Setting) (p : Property) (declaring : TypeDecl) : Option Rendering :=
  if Member.isExposed c.generation.excluded p then
    (renderMember c (expand c) false (Shape.ofProperty c.model (some declaring) p) {}).1
  else none

/-- The text of one property of a type, empty if it is not shown. -/
def propertyText (c : Setting) (p : Property) (declaring : TypeDecl) : List Char :=
  ((rendering? c p declaring).map renderingLetters).getD []

/-- The text of one rendering. -/
theorem joined_singleton (pieces : Rendering) : joined [pieces] = renderingLetters pieces :=
  List.append_nil _

/-- The output for a property is its rendering, laid out. -/
theorem propertyOutput_eq (c : Setting) (indent : Nat) (p : Property) (declaring : TypeDecl) :
    propertyOutput c indent p declaring = ((rendering? c p declaring).map fun pieces =>
      ⟨p.name, laidOut indent (renderingLetters pieces), .property⟩).getD .nothing := by
  unfold propertyOutput rendering?
  by_cases hexposed : Member.isExposed c.generation.excluded p = true
  · rw [hexposed, if_pos rfl, Bool.not_true, if_neg Bool.false_ne_true]
    cases renderMember c (expand c) false (Shape.ofProperty c.model (some declaring) p) {} with
    | mk rendering s => cases rendering <;> rfl
  · rw [Bool.not_eq_true] at hexposed
    rw [hexposed, if_neg Bool.false_ne_true, Bool.not_false, if_pos rfl]
    rfl

/-- The output for a selection of one property is its rendering. -/
theorem selectionOutput_singleton (c : Setting) (p : Property) (declaring : TypeDecl) :
    selectionOutput c [⟨p, declaring⟩] = ((rendering? c p declaring).map fun pieces =>
      ⟨p.name, String.ofList (renderingLetters pieces), .selection⟩).getD .nothing := by
  unfold selectionOutput renderSelection rendering?
  by_cases hexposed : Member.isExposed c.generation.excluded p = true
  · rw [hexposed, if_pos rfl, Bool.not_true, if_neg Bool.false_ne_true]
    cases renderMember c (expand c) false (Shape.ofProperty c.model (some declaring) p) {} with
    | mk rendering s =>
      cases rendering with
      | none => rfl
      | some pieces =>
        show (⟨p.name, String.ofList (joined [pieces]), .selection⟩ : Output) = _
        rw [joined_singleton]
        rfl
  · rw [Bool.not_eq_true] at hexposed
    rw [hexposed, if_neg Bool.false_ne_true, Bool.not_false, if_pos rfl]
    rfl

/-! ## Calls -/

/-- What a call of generation is asked for. -/
inductive Call where
  /-- One property of a type. -/
  | property (p : Property) (declaring : TypeDecl)
  /-- All members of a type. -/
  | wholeType (t : TypeDecl)
  /-- The properties of a selection. -/
  | selection (members : List Member)

namespace Call

variable (c : Setting) (indent : Nat)

/-- The output of a call. -/
def output : Call → Output
  | property p declaring => propertyOutput c indent p declaring
  | wholeType t => classOutput c indent t
  | selection members => selectionOutput c members

/-- The renderings of a call and the state after them. -/
def render : Call → List Rendering × State
  | property p declaring =>
    if Member.isExposed c.generation.excluded p then
      let (rendering, s) :=
        renderMember c (expand c) false (Shape.ofProperty c.model (some declaring) p) {}
      (rendering.toList, s)
    else ([], {})
  | wholeType t => renderProperties c (Member.exposed c.model c.generation.excluded t) {}
  | selection members =>
    let (shown, s) := renderSelection c members {}
    (shown.map (·.2), s)

/-- The number of values that the counter gave in a call. -/
def rows (call : Call) : Nat := (call.render c).2.next

/-- The output of a call around the text of its renderings. -/
def frame (text : List Char) (call : Call) : Output :=
  match call with
  | property p _ => ⟨p.name, laidOut indent text, .property⟩
  | wholeType t => ⟨t.name, laidOut indent (wrap c.profile.grouping (call.rows c) text), .class⟩
  | selection members =>
    ⟨selectionName ((renderSelection c members {}).1.map (·.1)), String.ofList text, .selection⟩

/-- The output of a call that renders nothing. -/
def emptyOutput (call : Call) : Output :=
  match call with
  | wholeType _ => call.frame c indent noMembers
  | _ => .nothing

/-- A call for a property makes the rendering of the property, if it is shown. -/
theorem render_property (p : Property) (declaring : TypeDecl) :
    ((property p declaring).render c).1 = (rendering? c p declaring).toList := by
  unfold render rendering?
  dsimp only
  split <;> rfl

/-- The output of a call is the text of its renderings in its frame. -/
theorem output_eq (call : Call) :
    call.output c indent =
      if (call.render c).1.isEmpty then call.emptyOutput c indent
      else call.frame c indent (joined (call.render c).1) := by
  cases call with
  | property p declaring =>
    have hout : output c indent (property p declaring) = propertyOutput c indent p declaring := rfl
    rw [hout, propertyOutput_eq, render_property]
    cases rendering? c p declaring with
    | none => rfl
    | some pieces =>
      rw [Option.toList_some, joined_singleton]
      rfl
  | wholeType t =>
    -- A class is laid out either way: with nothing to show, its frame holds the comment for no
    -- members.
    unfold output classOutput classText render emptyOutput frame rows render
    dsimp only
    split <;> rfl
  | selection members =>
    unfold output selectionOutput render emptyOutput frame
    simp only [List.isEmpty_map]

end Call

end ViewForge.Render
