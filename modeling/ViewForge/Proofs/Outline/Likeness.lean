import Mathlib.Data.List.Forall2
import ViewForge.Outline.Basic

/-!
# Outlines that are alike

Two declared types are alike if they have the same members in the same order, with the same flags,
and their names and places correspond. What corresponds is left open: names may be equal, or equal
up to case, and places may be the same, or moved.
-/

namespace ViewForge

/-- A span whose ends are moved. -/
def Span.moved (f : Nat → Nat) (s : Span) : Span := ⟨f s.start, f s.stop⟩

/-- A span and the one that it moves to. -/
abbrev Span.MovesTo (f : Nat → Nat) (s s' : Span) : Prop := s' = s.moved f

/-- A declared type in another place. -/
def DeclaredType.moved (f : Nat → Nat) (t : DeclaredType) : DeclaredType :=
  { t with
    span := t.span.moved f
    propertySpans := t.propertySpans.map (·.moved f)
    memberSpans := t.memberSpans.map (·.moved f) }

/-- The same types in other places. -/
def Outline.moved (f : Nat → Nat) (o : Outline) : Outline := ⟨o.types.map (·.moved f)⟩

/-- Properties with corresponding names and type texts, and the same flags. -/
structure Property.Like (same : String → String → Prop) (p q : Property) : Prop where
  name : same p.name q.name
  typeText : same p.typeText q.typeText
  isStatic : q.isStatic = p.isStatic
  hasGetter : q.hasGetter = p.hasGetter
  hasSetter : q.hasSetter = p.hasSetter
  access : q.access = p.access

/-- Declarations of one kind with corresponding names and texts in the same order. -/
structure TypeDecl.Like (same : String → String → Prop) (d e : TypeDecl) : Prop where
  name : same d.name e.name
  scope : Option.Rel same d.scope e.scope
  kind : e.kind = d.kind
  bases : List.Forall₂ same d.bases e.bases
  parameters : List.Forall₂ same d.parameters e.parameters
  properties : List.Forall₂ (Property.Like same) d.properties e.properties
  members : List.Forall₂ same d.members e.members
  origin : e.origin = d.origin
  ignoresCase : e.ignoresCase = d.ignoresCase

/-- Declared types that are alike, in corresponding places. -/
structure DeclaredType.Like (same : String → String → Prop) (place : Span → Span → Prop)
    (t u : DeclaredType) : Prop where
  decl : t.decl.Like same u.decl
  span : place t.span u.span
  propertySpans : List.Forall₂ place t.propertySpans u.propertySpans
  memberSpans : List.Forall₂ place t.memberSpans u.memberSpans

variable {same same' : String → String → Prop} {place place' : Span → Span → Prop}

theorem Property.Like.imp (himp : ∀ a b, same a b → same' a b) {p q : Property}
    (h : p.Like same q) : p.Like same' q :=
  { h with name := himp _ _ h.name, typeText := himp _ _ h.typeText }

theorem scope_imp (himp : ∀ a b, same a b → same' a b) {a b : Option String}
    (h : Option.Rel same a b) : Option.Rel same' a b := by
  cases h with
  | some hab => exact .some (himp _ _ hab)
  | none => exact .none

theorem eq_of_scope {a b : Option String} (h : Option.Rel Eq a b) : a = b := by
  cases h with
  | some hab => rw [hab]
  | none => rfl

theorem TypeDecl.Like.imp (himp : ∀ a b, same a b → same' a b) {d e : TypeDecl}
    (h : d.Like same e) : d.Like same' e where
  name := himp _ _ h.name
  scope := scope_imp himp h.scope
  kind := h.kind
  bases := h.bases.imp himp
  parameters := h.parameters.imp himp
  properties := h.properties.imp fun _ _ => Property.Like.imp himp
  members := h.members.imp himp
  origin := h.origin
  ignoresCase := h.ignoresCase

theorem DeclaredType.Like.imp (himp : ∀ a b, same a b → same' a b)
    (hplace : ∀ s s', place s s' → place' s s') {t u : DeclaredType} (h : t.Like same place u) :
    t.Like same' place' u where
  decl := h.decl.imp himp
  span := hplace _ _ h.span
  propertySpans := h.propertySpans.imp hplace
  memberSpans := h.memberSpans.imp hplace

/-- A list whose items are images of those of another is its image. -/
theorem eq_map_of_forall₂ {α β : Type} {g : α → β} {as : List α} {bs : List β}
    (h : List.Forall₂ (fun a b => b = g a) as bs) : bs = as.map g := by
  induction h with
  | nil => rfl
  | cons heq _ ih => rw [List.map_cons, heq, ih]

/-- Properties with the same names and texts are the same. -/
theorem Property.Like.eq {p q : Property} (h : p.Like Eq q) : q = p := by
  obtain ⟨h1, h2, h3, h4, h5, h6⟩ := h
  cases p
  cases q
  simp_all

/-- Declarations with the same names and texts are the same. -/
theorem TypeDecl.Like.eq {d e : TypeDecl} (h : d.Like Eq e) : e = d := by
  have hproperties : List.Forall₂ Eq d.properties e.properties :=
    h.properties.imp fun _ _ hp => hp.eq.symm
  have hscope : d.scope = e.scope := eq_of_scope h.scope
  obtain ⟨h1, -, h3, h4, h5, -, h7, h8, h9⟩ := h
  rw [List.forall₂_eq_eq_eq] at h4 h5 h7 hproperties
  cases d
  cases e
  simp_all

/-- A type with the same names and texts in moved places is that type moved. -/
theorem DeclaredType.Like.eq_moved {f : Nat → Nat} {t u : DeclaredType}
    (h : t.Like Eq (Span.MovesTo f) u) : u = t.moved f := by
  obtain ⟨hdecl, hspan, hproperties, hmembers⟩ := h
  obtain ⟨decl, span, propertySpans, memberSpans⟩ := u
  simp only at hdecl hspan hproperties hmembers
  rw [hdecl.eq, hspan, eq_map_of_forall₂ hproperties, eq_map_of_forall₂ hmembers]
  rfl

end ViewForge
