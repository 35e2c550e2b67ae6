import ViewForge.Analysis.Basic
import ViewForge.CSharp.Reader
import ViewForge.Proofs.CSharp.Tree
import ViewForge.Proofs.VisualBasic.Naming

/-!
# Carets on the parts of one type

The types of a document are named as those of its language (`Document.isNamed_of_mem_outline`), so
all parts of a type are found at one entry of the document's catalog, which has taken in the parts
from the project. A caret on any of them gives the output of this entry
(`caretOutput_of_isSameType`); what is laid out is never a part by itself.

Of the parser of C# no more is needed than that types are named by identifiers and that these hold
no point (`Document.HasIdentifiers`).
-/

namespace ViewForge

namespace Document

variable [CSharp.Parser]

/-- If a document is in C#, its types are named by identifiers, which hold no point. -/
structure HasIdentifiers (d : Document) : Prop where
  /-- Types are named by identifiers. -/
  named : d.language = .csharp →
    (CSharp.Parser.parse d.text).All CSharp.Node.IsNamedByIdentifier
  /-- Identifiers hold no point. -/
  pointless : d.language = .csharp →
    (CSharp.Parser.parse d.text).All (CSharp.Source.ofText d.text).IsPointless

/-- The types of a document are named as those of its language. -/
theorem isNamed_of_mem_outline {d : Document} (h : d.HasIdentifiers) :
    ∀ t ∈ d.outline.types, t.decl.IsNamed d.language.ignoresCase := by
  obtain ⟨language, text⟩ := d
  cases language with
  | csharp => exact CSharp.isNamed_of_mem_outline (h.named rfl) (h.pointless rfl)
  | visualBasic => exact VisualBasic.isNamed_of_mem_outline text.toList

/-- The types of a document end within its text. -/
theorem stop_le_of_mem_outline (d : Document) : ∀ t ∈ d.outline.types, t.span.stop ≤ d.length := by
  obtain ⟨language, text⟩ := d
  cases language with
  | csharp => exact CSharp.stop_le_of_mem_outline text
  | visualBasic =>
    unfold Document.length
    rw [← String.length_toList]
    exact VisualBasic.stop_le_of_mem_outline text.toList

/-- A caret that finds a type of a document is in the document. -/
theorem caret_le_of_locate_type {d : Document} {caret : Nat} {t : DeclaredType}
    (h : d.outline.locate caret = .type t) : caret ≤ d.length := by
  obtain ⟨ht, hcontains⟩ := Outline.mem_of_locate_type h
  exact Nat.le_trans ((Span.contains_iff _ _).1 hcontains).2 (d.stop_le_of_mem_outline t ht)

/-- The catalog of a document holds types that are named as those of its language. -/
theorem isNamed_of_mem_catalog {d : Document} (h : d.HasIdentifiers) :
    ∀ t ∈ d.outline.catalog.types, t.IsNamed d.language.ignoresCase :=
  Catalog.isNamed_of_mem_ofList <| List.forall_mem_map.2 (isNamed_of_mem_outline h)

end Document

namespace Analysis

section Documents

variable [CSharp.Parser]

/-- A caret on a type gives the output of the entry for the type in the catalog. -/
theorem caretOutput_type (o : Options) (profile : Profile) (project : Catalog) (d : Document)
    {caret : Nat} {t : DeclaredType} {stored : TypeDecl} (h : d.outline.locate caret = .type t)
    (hstored : (d.outline.catalog.mergePartsFrom ⟨[project]⟩).find? t.decl = some stored) :
    caretOutput o profile project d caret =
      .ok (Render.classOutput
        (settingOver o profile [d.outline.catalog.mergePartsFrom ⟨[project]⟩, project])
        o.formatting.indentSize stored) := by
  unfold caretOutput
  rw [if_neg (Nat.not_lt.2 (Document.caret_le_of_locate_type h))]
  dsimp only
  rw [h, targetOutput, hstored, Option.getD_some]

/-- Every part of a type gives the same output. In a document of either language, over any project,
with any profile and options, two carets that find parts of one type give one output: that of the
entry at which the catalog of the document, with the parts from the project, has both of them. -/
theorem caretOutput_of_isSameType (o : Options) (profile : Profile) (project : Catalog)
    {d : Document} (hd : d.HasIdentifiers) {caret caret' : Nat} {t t' : DeclaredType}
    (ht : d.outline.locate caret = .type t) (ht' : d.outline.locate caret' = .type t')
    (hsame : t.decl.isSameType t'.decl = true) :
    let own := d.outline.catalog.mergePartsFrom ⟨[project]⟩
    caretOutput o profile project d caret = caretOutput o profile project d caret' ∧
      ∃ stored, own.find? t.decl = some stored ∧ own.find? t'.decl = some stored ∧
        caretOutput o profile project d caret =
          .ok (Render.classOutput (settingOver o profile [own, project]) o.formatting.indentSize
            stored) := by
  intro own
  have hmem := (Outline.mem_of_locate_type ht).1
  have hmem' := (Outline.mem_of_locate_type ht').1
  obtain ⟨entry, hentry, -⟩ := Catalog.find?_keeps_of_mem (List.mem_map_of_mem (f := (·.decl)) hmem)
  have hstored : own.find? t.decl = some (project.withPart entry) := by
    rw [Catalog.find?_mergePartsFrom]
    exact congrArg _ hentry
  -- The two parts are one type, and merging the project's parts in moves no entry.
  have hfind : d.outline.catalog.find? t.decl = d.outline.catalog.find? t'.decl :=
    Catalog.find?_eq_of_isSameType (Document.isNamed_of_mem_catalog hd)
      (Document.isNamed_of_mem_outline hd t hmem) (Document.isNamed_of_mem_outline hd t' hmem')
      hsame
  have hstored' : own.find? t'.decl = some (project.withPart entry) := by
    rw [Catalog.find?_mergePartsFrom, ← hfind]
    exact congrArg _ hentry
  have houtput := caretOutput_type o profile project d ht hstored
  have houtput' := caretOutput_type o profile project d ht' hstored'
  exact ⟨houtput.trans houtput'.symm, _, hstored, hstored', houtput⟩

end Documents

/-- A document with two parts of a type, whose names differ in letter case. -/
def twoParts : Document where
  language := .visualBasic
  text := "Partial Class Vm\nProperty First As String\nEnd Class\n" ++
    "Partial Class VM\nProperty Second As String\nEnd Class"

/-- The first part. -/
def firstPart : DeclaredType where
  decl :=
    { name := "Vm", kind := .class, properties := [{ name := "First", typeText := "String" }]
      ignoresCase := true }
  span := ⟨0, 51⟩
  propertySpans := [⟨17, 41⟩]

/-- The second part. -/
def secondPart : DeclaredType where
  decl :=
    { name := "VM", kind := .class, properties := [{ name := "Second", typeText := "String" }]
      ignoresCase := true }
  span := ⟨52, 104⟩
  propertySpans := [⟨69, 94⟩]

/-- A document in C# with two parts of a type. -/
def twoPartsAlike : Document where
  language := .csharp
  text := "partial class Vm { string First { get; } } partial class Vm { int Second { get; } }"

/-- The first part there. -/
def firstPartAlike : DeclaredType where
  decl :=
    { name := "Vm", kind := .class
      properties :=
        [{ name := "First", typeText := "string", hasSetter := false, access := .inside }] }
  span := ⟨0, 42⟩
  propertySpans := [⟨19, 40⟩]

/-- The second part there. -/
def secondPartAlike : DeclaredType where
  decl :=
    { name := "Vm", kind := .class
      properties :=
        [{ name := "Second", typeText := "int", hasSetter := false, access := .inside }] }
  span := ⟨43, 83⟩
  propertySpans := [⟨62, 81⟩]

/-- A caret on either part gives one output, in either language. -/
theorem caretOutput_of_isSameType_any_case :
    (twoParts.outline.locate 3 = .type firstPart ∧ twoParts.outline.locate 55 = .type secondPart ∧
      firstPart.decl.isSameType secondPart.decl = true ∧
      caretOutput {} { name := "Plain" } {} twoParts 3 =
        caretOutput {} { name := "Plain" } {} twoParts 55) ∧
    twoPartsAlike.outline.locate 3 = .type firstPartAlike ∧
      twoPartsAlike.outline.locate 46 = .type secondPartAlike ∧
      firstPartAlike.decl.isSameType secondPartAlike.decl = true ∧
      caretOutput {} { name := "Plain" } {} twoPartsAlike 3 =
        caretOutput {} { name := "Plain" } {} twoPartsAlike 46 := by
  have hidentifiers : twoParts.HasIdentifiers := ⟨nofun, nofun⟩
  have hfirst : twoParts.outline.locate 3 = .type firstPart := by decide +kernel
  have hsecond : twoParts.outline.locate 55 = .type secondPart := by decide +kernel
  have hsame : firstPart.decl.isSameType secondPart.decl = true := by decide +kernel
  have hidentifiers' : twoPartsAlike.HasIdentifiers :=
    ⟨fun _ => by decide +kernel, fun _ => by decide +kernel⟩
  have hfirst' : twoPartsAlike.outline.locate 3 = .type firstPartAlike := by decide +kernel
  have hsecond' : twoPartsAlike.outline.locate 46 = .type secondPartAlike := by decide +kernel
  have hsame' : firstPartAlike.decl.isSameType secondPartAlike.decl = true := by decide +kernel
  exact ⟨⟨hfirst, hsecond, hsame,
      (caretOutput_of_isSameType {} { name := "Plain" } {} hidentifiers hfirst hsecond hsame).1⟩,
    hfirst', hsecond', hsame',
    (caretOutput_of_isSameType {} { name := "Plain" } {} hidentifiers' hfirst' hsecond' hsame').1⟩

end Analysis

end ViewForge
