import ViewForge.Main
import ViewForge.Proofs.Analysis.Agreement
import ViewForge.Proofs.Member.Inheritance
import ViewForge.Proofs.Member.Likeness
import ViewForge.Proofs.Member.Walk
import ViewForge.Proofs.Model.Parts
import ViewForge.Proofs.Model.Reference
import ViewForge.Proofs.Model.Resolution
import ViewForge.Proofs.Outline.Location
import ViewForge.Proofs.Render.Call
import ViewForge.Proofs.Render.Counter
import ViewForge.Proofs.Render.Leaves
import ViewForge.Proofs.Render.Models
import ViewForge.Proofs.Render.Rows
import ViewForge.Proofs.Render.Run
import ViewForge.Proofs.TypeExpr.Derivation
import ViewForge.Proofs.TypeExpr.Grammar
import ViewForge.Proofs.TypeExpr.Spelling
import ViewForge.Proofs.TypeExpr.Written
import ViewForge.Proofs.TypeExpr.Matching
import ViewForge.Proofs.VisualBasic.Layout
import ViewForge.Proofs.VisualBasic.Lines
import ViewForge.Proofs.Member.Phrasing
import ViewForge.Proofs.Model.Insertion
import ViewForge.Proofs.Model.Layers
import ViewForge.Proofs.Draft.Basic
import ViewForge.Proofs.Text.Character
import ViewForge.Proofs.Draft.VisualBasic.Writing
import ViewForge.Proofs.VisualBasic.Code
import ViewForge.Proofs.VisualBasic.TypeText
import ViewForge.Proofs.Draft.VisualBasic.Reading
import ViewForge.Proofs.Render.Groups
import ViewForge.Proofs.Render.Previous
import ViewForge.Proofs.Render.Names
import ViewForge.Proofs.Markup.Reading
import ViewForge.Proofs.Markup.Content
import ViewForge.Proofs.Member.Descent
import ViewForge.Proofs.Render.Course
import ViewForge.Proofs.Render.Depth
import ViewForge.Proofs.Render.Suppression
import ViewForge.Proofs.Markup.Joined
import ViewForge.Proofs.Render.Enclosure
import ViewForge.Proofs.Text.LetterCase
import ViewForge.Proofs.Model.LetterCase
import ViewForge.Proofs.Template.Parts
import ViewForge.Proofs.Template.Cut
import ViewForge.Proofs.Template.Unknown
import ViewForge.Proofs.Settings.Validity
import ViewForge.Proofs.VisualBasic.LetterCase
import ViewForge.Proofs.VisualBasic.Spacing
import ViewForge.Proofs.VisualBasic.Reach
import ViewForge.Proofs.Outline.Nesting
import ViewForge.Proofs.CSharp.Nesting
import ViewForge.Proofs.Draft.Agreement
import ViewForge.Proofs.Member.Shadowing
import ViewForge.Proofs.Analysis.Parts
import ViewForge.Proofs.Member.Renaming
import ViewForge.Proofs.Data.Toml.Document
import ViewForge.Proofs.Data.Toml.Table
import ViewForge.Proofs.Settings.RoundTrip
import ViewForge.Proofs.Outline.Caret
import ViewForge.Proofs.VisualBasic.Construction
import ViewForge.Proofs.VisualBasic.Accessors
import ViewForge.Proofs.VisualBasic.Parameters
import ViewForge.Proofs.Member.Nullable
import ViewForge.Proofs.Member.Alternatives
import ViewForge.Proofs.Template.Spacing
import ViewForge.Proofs.Template.Enclosing
import ViewForge.Proofs.Outline.OffsetMap
import ViewForge.Proofs.Render.Claiming
import ViewForge.Proofs.Settings.Override
