import ViewForge.Analysis.Basic
import ViewForge.CSharp.Reader
import ViewForge.Proofs.Model.Parts
import ViewForge.Proofs.Render.Models

/-!
# A caret and a selection on one property

A caret on a property and a selection that meets only this property ask for the same rendering, but
over different models: for the caret the types of the document take in their parts from the
project, for the selection they do not. `caret_agrees_iff` says what this changes. The one finds
nothing exactly if the other does, and the names are the same. The texts agree up to layout exactly
if the parts from the project do not show in the property laid out. They do not if they add nothing
to the types that stand behind the property, or if its template does not ask for what stands behind
it. Elsewhere they may (`selection_misses_part`).
-/

namespace ViewForge.Analysis

open Render

/-- Types that take in their parts answer as before by types of the same kinds. -/
theorem sameKinds_mergePartsFrom (own project : Catalog) (context : Option TypeDecl) :
    Model.SameKinds ⟨[own.mergePartsFrom ⟨[project]⟩, project]⟩ ⟨[own, project]⟩ context := by
  intro reference
  have hmerged : (own.mergePartsFrom ⟨[project]⟩).resolve reference context =
      (own.resolve reference context).map project.withPart := by
    rw [← project.transparent_withPart.resolve_map, ← own.types_mergePartsFrom project]
  rw [Model.resolve_cons, Model.resolve_cons own, hmerged]
  cases own.resolve reference context with
  | none => rfl
  | some t => exact congrArg some (project.kind_withPart t)

/-- Types that gain nothing by their parts stay as they are. -/
theorem mergePartsFrom_eq_self {own project : Catalog}
    (h : ∀ t ∈ own.types, project.withPart t = t) : own.mergePartsFrom ⟨[project]⟩ = own := by
  have htypes : (own.mergePartsFrom ⟨[project]⟩).types = own.types := by
    rw [own.types_mergePartsFrom project, List.map_congr_left h, List.map_id']
  cases own with
  | mk types => exact congrArg Catalog.mk htypes

/-- Whether the output for a caret on a property is that for a selection of the property, laid out:
both found nothing, or the names are the same and the texts up to layout. -/
structure Agree (indent : Nat) (single selected : Output) : Prop where
  /-- The one found nothing exactly if the other did. -/
  isNothing : single.isNothing = selected.isNothing
  /-- They have one name. -/
  name : selected.isNothing = false → single.name = selected.name
  /-- The one text is the other, laid out. -/
  markup : selected.isNothing = false → single.markup = laidOut indent selected.markup.toList

/-- Outputs for the renderings of a property, of which one is shown exactly if the other is, agree
exactly if the texts are laid out alike. -/
theorem agree_iff {a b : Option Rendering} (hab : a.isSome = b.isSome) (indent : Nat)
    (name : String) :
    let single : Output := (a.map fun pieces =>
      ⟨name, laidOut indent (renderingLetters pieces), .property⟩).getD .nothing
    let selected : Output := (b.map fun pieces =>
      ⟨name, String.ofList (renderingLetters pieces), .selection⟩).getD .nothing
    single.isNothing = selected.isNothing ∧ single.name = selected.name ∧
      (Agree indent single selected ↔ laidOut indent ((a.map renderingLetters).getD []) =
        laidOut indent ((b.map renderingLetters).getD [])) := by
  -- If neither is shown there is nothing to lay out; if both are, the markup alone differs.
  cases a with
  | none =>
    cases b with
    | none => exact ⟨rfl, rfl, fun _ => rfl, fun _ => ⟨rfl, Bool.noConfusion, Bool.noConfusion⟩⟩
    | some b => exact Bool.noConfusion hab
  | some a =>
    cases b with
    | none => exact Bool.noConfusion hab
    | some b =>
      have htext : (String.ofList (renderingLetters b)).toList = renderingLetters b :=
        String.toList_ofList
      refine ⟨rfl, rfl, fun h => ?_, fun h => ⟨rfl, fun _ => rfl, fun _ => ?_⟩⟩
      · have := h.markup rfl
        dsimp only [Option.map_some, Option.getD_some] at this
        rwa [htext] at this
      · dsimp only [Option.map_some, Option.getD_some]
        rw [htext]
        exact h

section Documents

variable [CSharp.Parser] (o : Options) (profile : Profile) (project : Catalog) (d : Document)

/-- What is generated with for a caret: the types of the document have their parts from the
project. -/
def withParts : Setting :=
  settingOver o profile [d.outline.catalog.mergePartsFrom ⟨[project]⟩, project]

/-- What is generated with for a selection: the types of the document are as it declares them. -/
def withoutParts : Setting := settingOver o profile [d.outline.catalog, project]

/-- In the document a caret on a property gives the output for the property. -/
theorem caretOutput_property {caret : Nat} {p : PlacedProperty} {t : DeclaredType}
    (hend : ¬ d.length < caret) (hcaret : d.outline.locate caret = .property p t) :
    caretOutput o profile project d caret =
      .ok (propertyOutput (withParts o profile project d) o.formatting.indentSize p.toProperty
        t.decl) := by
  unfold caretOutput
  rw [if_neg hend]
  dsimp only
  rw [hcaret]
  rfl

/-- In the document a selection that meets only one property gives the output for a selection of
it. -/
theorem selectionOutput_property {caret : Nat} {p : Property} {declaring : TypeDecl}
    (hend : ¬ d.length < caret)
    (hselected : (d.outline.propertiesIn caret caret).map (fun s => (s.property, s.declaring)) =
      [(p, declaring)]) :
    selectionOutput o profile project d caret caret =
      .ok (Render.selectionOutput (withoutParts o profile project d) [⟨p, declaring⟩]) := by
  have hmembers : (d.outline.propertiesIn caret caret).map
      (fun s => (⟨s.property, s.declaring⟩ : Member)) = [⟨p, declaring⟩] := by
    have := congrArg (List.map fun (x : Property × TypeDecl) => (⟨x.1, x.2⟩ : Member)) hselected
    rwa [List.map_map] at this
  unfold selectionOutput
  rw [Nat.min_self, Nat.max_self, if_neg hend]
  dsimp only
  rw [hmembers]
  rfl

/-- A caret on a property and a selection that meets only this property both fail behind the end of
the document. Elsewhere the one finds nothing exactly if the other does, and they have one name.
They agree exactly if the property is laid out over the types with their parts as over those
without. So they do if no type of the document gains anything by its part, if both models show the
same from the property on, and if the template of the property does not ask for what stands behind
it. -/
theorem caret_agrees_iff {caret : Nat} {p : PlacedProperty} {t : DeclaredType}
    (hcaret : d.outline.locate caret = .property p t)
    (hselected : (d.outline.propertiesIn caret caret).map (fun s => (s.property, s.declaring)) =
      [(p.toProperty, t.decl)]) :
    (d.length < caret ∧ (∃ failure, caretOutput o profile project d caret = .error failure) ∧
      ∃ failure, selectionOutput o profile project d caret caret = .error failure) ∨
    ∃ single selected, caretOutput o profile project d caret = .ok single ∧
      selectionOutput o profile project d caret caret = .ok selected ∧
      single.isNothing = selected.isNothing ∧ single.name = selected.name ∧
      (Agree o.formatting.indentSize single selected ↔
        laidOut o.formatting.indentSize
            (propertyText (withParts o profile project d) p.toProperty t.decl) =
          laidOut o.formatting.indentSize
            (propertyText (withoutParts o profile project d) p.toProperty t.decl)) ∧
      ((∀ u ∈ d.outline.catalog.types, project.withPart u = u) ∨
          Unaffected (withParts o profile project d).model (withoutParts o profile project d).model
            o.generation.excluded p.toProperty t.decl ∨
          IsPlain (withParts o profile project d) p.toProperty t.decl →
        Agree o.formatting.indentSize single selected) := by
  by_cases hend : d.length < caret
  · refine .inl ⟨hend, ?_, ?_⟩
    · unfold caretOutput
      rw [if_pos hend]
      exact ⟨_, rfl⟩
    · unfold selectionOutput
      rw [Nat.min_self, if_pos hend]
      exact ⟨_, rfl⟩
  · have hsingle := caretOutput_property o profile project d hend hcaret
    have hselection := selectionOutput_property o profile project d hend hselected
    -- The parts change no kind, and so not whether the property is shown.
    have hkinds := sameKinds_mergePartsFrom d.outline.catalog project (some t.decl)
    have hsome : (rendering? (withParts o profile project d) p.toProperty t.decl).isSome =
        (rendering? (withoutParts o profile project d) p.toProperty t.decl).isSome :=
      isSome_rendering?_eq hkinds p.toProperty
    obtain ⟨hnothing, hname, hagree⟩ := agree_iff hsome o.formatting.indentSize p.name
    rw [← propertyOutput_eq, ← selectionOutput_singleton] at hnothing hname hagree
    refine .inr ⟨_, _, hsingle, hselection, hnothing, hname, hagree, fun h => hagree.2 ?_⟩
    -- In each of the three cases the property has one rendering over both models.
    have hsame : rendering? (withParts o profile project d) p.toProperty t.decl =
        rendering? (withoutParts o profile project d) p.toProperty t.decl := by
      rcases h with hgain | hview | hplain
      · unfold withParts withoutParts
        rw [mergePartsFrom_eq_self hgain]
      · exact hview.rendering?_eq
      · exact rendering?_eq_of_plain hkinds p.toProperty hplain
    rw [hsame]

end Documents

/-! ## A property of a type in two parts -/

/-- A document with a property of a type of which it declares one part. -/
def page : Document where
  language := .visualBasic
  text := "Class Page\nProperty Main As Vm\nEnd Class\n" ++
    "Partial Class Vm\nProperty First As String\nEnd Class"

/-- The type in the other part of which the project declares one more property. -/
def otherPart : Catalog := Catalog.ofList
  [{ name := "Vm", kind := .class, properties := [{ name := "Second", typeText := "String" }]
     ignoresCase := true }]

/-- The property. -/
def pageProperty : Property := { name := "Main", typeText := "Vm" }

/-- The type that declares it. -/
def pageType : DeclaredType where
  decl := { name := "Page", kind := .class, properties := [pageProperty], ignoresCase := true }
  span := ⟨0, 40⟩
  propertySpans := [⟨11, 30⟩]

/-- The type of the property, in one part. -/
def partType : DeclaredType where
  decl :=
    { name := "Vm", kind := .class, properties := [{ name := "First", typeText := "String" }]
      ignoresCase := true }
  span := ⟨41, 92⟩
  propertySpans := [⟨58, 82⟩]

/-- The document declares both types. -/
theorem outline_page : page.outline = ⟨[pageType, partType]⟩ := by
  decide +kernel

/-- The property in its place. -/
def placedProperty : PlacedProperty := { pageProperty with index := 0, span := ⟨11, 30⟩ }

/-- A caret on the property points at it. -/
theorem locate_page : page.outline.locate 20 = .property placedProperty pageType := by
  rw [outline_page]
  decide

/-- A selection there meets only the property. -/
theorem propertiesIn_page :
    (page.outline.propertiesIn 20 20).map (fun s => (s.property, s.declaring)) =
      [(pageProperty, pageType.decl)] := by
  rw [outline_page]
  decide +kernel

/-- A profile that shows the name of a property. -/
def naming : Profile where
  name := "Naming"
  fallback := "<$name$/>"

/-- A profile that shows the names of the members of a property's type. -/
def nesting : Profile where
  name := "Nesting"
  fallback := "$subprops$"
  nestedFallback := "<$name$/>"

/-- A caret and a selection agree where only the name of the property is shown. -/
theorem caret_agrees_on_name :
    ∃ single selected, caretOutput {} naming otherPart page 20 = .ok single ∧
      selectionOutput {} naming otherPart page 20 20 = .ok selected ∧ Agree 4 single selected := by
  have hplain : IsPlain (withParts {} naming otherPart page) pageProperty pageType.decl := by
    unfold IsPlain withParts
    rw [outline_page]
    exact ⟨by decide +kernel, by decide +kernel⟩
  obtain ⟨hend, -⟩ | ⟨single, selected, hsingle, hselected, -, -, -, hagree⟩ :=
    caret_agrees_iff {} naming otherPart page locate_page propertiesIn_page
  · exact absurd hend (by decide +kernel)
  · exact ⟨single, selected, hsingle, hselected, hagree (.inr (.inr hplain))⟩

/-- A selection leaves out the members that the other part of the property's type declares, which a
caret shows. -/
theorem selection_misses_part :
    page.outline.locate 20 = .property placedProperty pageType ∧
      (page.outline.propertiesIn 20 20).map (fun s => (s.property, s.declaring)) =
        [(pageProperty, pageType.decl)] ∧
      caretOutput {} nesting otherPart page 20 =
        .ok ⟨"Main", "<First/>\n<Second/>", .property⟩ ∧
      selectionOutput {} nesting otherPart page 20 20 = .ok ⟨"Main", "<First/>", .selection⟩ ∧
      ¬ Agree 4 ⟨"Main", "<First/>\n<Second/>", .property⟩ ⟨"Main", "<First/>", .selection⟩ := by
  refine ⟨locate_page, propertiesIn_page, ?_, ?_, fun h => ?_⟩
  · unfold caretOutput
    rw [outline_page]
    decide +kernel
  · unfold selectionOutput
    rw [outline_page]
    decide +kernel
  -- Laid out, the selection still lacks the second element.
  have hmarkup : laidOut 4 "<First/>".toList = "<First/>" := by decide +kernel
  have := h.markup rfl
  rw [hmarkup] at this
  exact absurd this (by decide)

end ViewForge.Analysis
