import Mathlib.Data.List.Basic
import Mathlib.Data.List.Flatten
import Mathlib.Data.List.Pairwise
import ViewForge.Outline.Basic

/-!
# Carets in laid-out outlines

The types of an outline are laid out if each holds the spans of its own members apart from each
other, and any two of them are either separate or nested, in which case the members of the outer
one are separate from the inner one. In such an outline a caret is in at most one span of a
property or other member (`Laid.ownSpans_apart`), and the shortest type around it is the innermost
one. So `Outline.locate` depends on no order and no tie: a caret in a property's span finds that
property (`Laid.locate_property`), one in another member finds nothing (`Laid.locate_member`), and
any other finds the innermost type (`Outline.locate_innermost`). A selection goes through the types
one by one and does not look for the innermost; since no two spans share a caret it still finds what
its carets point at (`Laid.mem_propertiesIn_iff`), and since no two begin in the same place it is in
the order of the text (`Laid.propertiesIn_increasing`).

The layout is stated by comparing ends of spans, so that `omega` can settle what follows from it;
`Span.Apart` and `Span.Inside` say the same of carets.
-/

namespace ViewForge

/-- Of two different members of a list that a relation orders, one is related to the other. -/
theorem related_of_pairwise {α : Type} {R : α → α → Prop} {l : List α} (h : l.Pairwise R) {a b : α}
    (ha : a ∈ l) (hb : b ∈ l) (hne : a ≠ b) : R a b ∨ R b a := by
  have : Std.Symm fun x y => R x y ∨ R y x := ⟨fun _ _ => Or.symm⟩
  have h' : l.Pairwise fun x y => R x y ∨ R y x := h.imp Or.inl
  exact h'.forall ha hb hne

namespace Span

/-- No caret is in both spans. -/
def Apart (a b : Span) : Prop := ∀ caret, a.contains caret = true → b.contains caret = false

/-- Every caret of the first span is in the second, which is longer. -/
def Inside (a b : Span) : Prop :=
  (∀ caret, a.contains caret = true → b.contains caret = true) ∧ a.length < b.length

/-- One of the spans ends before the other begins. -/
def Separate (a b : Span) : Prop := a.stop < b.start ∨ b.stop < a.start

/-- A caret is in a span from its start to its stop. -/
theorem contains_iff (s : Span) (caret : Nat) :
    s.contains caret = true ↔ s.start ≤ caret ∧ caret ≤ s.stop := by
  simp only [contains, Bool.and_eq_true, decide_eq_true_eq]

/-- Separate spans share no caret. -/
theorem Separate.apart {a b : Span} (h : a.Separate b) : a.Apart b := by
  intro caret ha
  rw [contains_iff] at ha
  rw [Bool.eq_false_iff, ne_eq, contains_iff]
  rcases h with h | h <;> omega

/-- Which of two separate spans is named first does not matter. -/
theorem Separate.symm {a b : Span} (h : a.Separate b) : b.Separate a := Or.symm h

/-- A span meets the carets between two exactly if one of them is in it. -/
theorem meets_iff {s : Span} (hs : s.start ≤ s.stop) {first last : Nat} (h : first ≤ last) :
    s.meets first last = true ↔
      ∃ caret, first ≤ caret ∧ caret ≤ last ∧ s.contains caret = true := by
  simp only [meets, Bool.and_eq_true, decide_eq_true_eq, contains_iff]
  constructor
  · rintro ⟨hlast, hfirst⟩
    exact ⟨max first s.start, by omega, by omega, by omega, by omega⟩
  · rintro ⟨caret, hfirst, hlast, hstart, hstop⟩
    omega

end Span

namespace DeclaredType

/-- The spans of a type's properties and other members. -/
def ownSpans (t : DeclaredType) : List Span := t.propertySpans ++ t.memberSpans

@[simp] theorem mem_ownSpans_addProperty {t : DeclaredType} {p : Property} {span s : Span} :
    s ∈ (t.addProperty p span).ownSpans ↔ s ∈ t.ownSpans ∨ s = span := by
  unfold ownSpans addProperty
  simp only [List.mem_append, List.mem_singleton]
  exact or_right_comm

theorem ownSpans_addMember (t : DeclaredType) (span : Span) :
    (t.addMember span).ownSpans = t.ownSpans ++ [span] :=
  (List.append_assoc ..).symm

@[simp] theorem mem_ownSpans_addMember {t : DeclaredType} {span s : Span} :
    s ∈ (t.addMember span).ownSpans ↔ s ∈ t.ownSpans ∨ s = span := by
  rw [ownSpans_addMember, List.mem_append, List.mem_singleton]

/-- What holds of each type of a laid-out outline by itself. -/
structure WellPlaced (t : DeclaredType) : Prop where
  /-- The type ends where it begins or later. -/
  start_le : t.span.start ≤ t.span.stop
  /-- Each property has its span. -/
  paired : t.decl.properties.length = t.propertySpans.length
  /-- The members are in the type. -/
  within : ∀ s ∈ t.ownSpans, t.span.start ≤ s.start ∧ s.start ≤ s.stop ∧ s.stop ≤ t.span.stop
  /-- The members are separate. -/
  separate : t.ownSpans.Pairwise Span.Separate

/-- How a type stands to one that is declared after it: it ends before the other begins, or it holds
the other, which is separate from its members. -/
def Precedes (a b : DeclaredType) : Prop :=
  a.span.stop < b.span.start ∨
    (a.span.start < b.span.start ∧ b.span.stop ≤ a.span.stop ∧
      ∀ s ∈ a.ownSpans, s.Separate b.span)

/-- A type is innermost around a caret of an outline if the caret is in it and every other type
around the caret holds it. -/
def IsInnermost (o : Outline) (caret : Nat) (t : DeclaredType) : Prop :=
  t ∈ o.types ∧ t.span.contains caret = true ∧
    ∀ u ∈ o.types, u.span.contains caret = true → u = t ∨ t.span.Inside u.span

/-- A placed property is the one with its number, and its place is the one with that number. -/
theorem mem_placed {t : DeclaredType} {p : PlacedProperty} :
    p ∈ t.placed ↔
      t.decl.properties[p.index]? = some p.toProperty ∧ t.propertySpans[p.index]? = some p.span := by
  unfold placed
  rw [List.mem_map]
  constructor
  · rintro ⟨⟨⟨q, span⟩, index⟩, hmem, rfl⟩
    exact List.getElem?_zip_eq_some.1 (List.mem_zipIdx_iff_getElem?.1 hmem)
  · rintro ⟨hproperty, hspan⟩
    exact ⟨((p.toProperty, p.span), p.index), List.mem_zipIdx_iff_getElem?.2
      (List.getElem?_zip_eq_some.2 ⟨hproperty, hspan⟩), rfl⟩

/-- The places of the placed properties are all that the type has, in order. -/
theorem map_placed_span {t : DeclaredType}
    (h : t.decl.properties.length = t.propertySpans.length) :
    t.placed.map (·.span) = t.propertySpans := by
  unfold placed
  rw [List.map_map]
  exact (List.map_map (f := Prod.fst) (g := Prod.snd) (l := _)).symm.trans
    (by rw [List.zipIdx_map_fst, List.map_snd_zip (Nat.le_of_eq h.symm)])

/-- The placed properties are all that the type has, in order. -/
theorem map_placed_property {t : DeclaredType}
    (h : t.decl.properties.length = t.propertySpans.length) :
    t.placed.map (·.toProperty) = t.decl.properties := by
  unfold placed
  rw [List.map_map]
  exact (List.map_map (f := Prod.fst) (g := Prod.fst) (l := _)).symm.trans
    (by rw [List.zipIdx_map_fst, List.map_fst_zip (Nat.le_of_eq h)])

/-- A property that is added gets the next number. -/
theorem placed_addProperty {t : DeclaredType}
    (h : t.decl.properties.length = t.propertySpans.length) (p : Property) (span : Span) :
    (t.addProperty p span).placed =
      t.placed ++ [{ p with index := t.decl.properties.length, span }] := by
  unfold placed addProperty
  rw [List.zip_append h, List.zipIdx_append, List.map_append, List.length_zip, ← h, Nat.min_self,
    Nat.zero_add]
  rfl

/-- A placed property's span is one of the type's own. -/
theorem mem_ownSpans_of_placed {t : DeclaredType} {p : PlacedProperty} (h : p ∈ t.placed) :
    p.span ∈ t.ownSpans :=
  List.mem_append_left _ (List.mem_of_getElem? (mem_placed.1 h).2)

/-- A caret is in the span of at most one of the placed properties. -/
theorem WellPlaced.placed_unique {t : DeclaredType} (h : t.WellPlaced) {caret : Nat}
    {a b : PlacedProperty} (ha : a ∈ t.placed) (hb : b ∈ t.placed)
    (hca : a.span.contains caret = true) (hcb : b.span.contains caret = true) : a = b := by
  by_contra hne
  have hsep : t.placed.Pairwise fun a b => a.span.Separate b.span := by
    rw [← List.pairwise_map, map_placed_span h.paired]
    exact (List.pairwise_append.1 h.separate).1
  have hab : a.span.Separate b.span :=
    (related_of_pairwise hsep ha hb hne).elim id Span.Separate.symm
  rw [hab.apart caret hca] at hcb
  exact Bool.false_ne_true hcb

/-- A caret is not in the span of a property and in that of another member. -/
theorem WellPlaced.not_member_of_placed {t : DeclaredType} (h : t.WellPlaced) {caret : Nat}
    {p : PlacedProperty} {s : Span} (hp : p ∈ t.placed) (hs : s ∈ t.memberSpans)
    (hc : s.contains caret = true) : p.span.contains caret = false := by
  have hcross := (List.pairwise_append.1 h.separate).2.2
  have hmem : p.span ∈ t.propertySpans := List.mem_of_getElem? (mem_placed.1 hp).2
  exact (hcross _ hmem _ hs).symm.apart caret hc

end DeclaredType

/-- Every type is well placed, and any two are separate or nested. -/
structure Laid (ts : List DeclaredType) : Prop where
  /-- Each type is well placed. -/
  placed : ∀ t ∈ ts, t.WellPlaced
  /-- Each type stands to those after it as it should. -/
  ordered : ts.Pairwise DeclaredType.Precedes

/-- Types are laid out around one of them if it is well placed, those before it precede it, it
precedes those after it, and all others are laid out. -/
theorem laid_append_cons {outer inner : List DeclaredType} {t : DeclaredType} :
    Laid (outer ++ t :: inner) ↔
      t.WellPlaced ∧ Laid (outer ++ inner) ∧ (∀ a ∈ outer, a.Precedes t) ∧
        ∀ b ∈ inner, t.Precedes b := by
  -- Both sides say the same of pairs of types; the middle one is taken out of the list or put back.
  constructor
  · intro h
    obtain ⟨houter, hrest, hcross⟩ := List.pairwise_append.1 h.ordered
    obtain ⟨ht, hinner⟩ := List.pairwise_cons.1 hrest
    refine ⟨h.placed t (List.mem_append_right _ List.mem_cons_self), ⟨fun u hu => ?_, ?_⟩,
      fun a ha => hcross a ha t List.mem_cons_self, ht⟩
    · refine h.placed u ?_
      rw [List.mem_append] at hu ⊢
      exact hu.imp id (List.mem_cons_of_mem _)
    · exact List.pairwise_append.2
        ⟨houter, hinner, fun a ha b hb => hcross a ha b (List.mem_cons_of_mem _ hb)⟩
  · rintro ⟨hw, h, hbefore, hafter⟩
    obtain ⟨houter, hinner, hcross⟩ := List.pairwise_append.1 h.ordered
    refine ⟨fun u hu => ?_, List.pairwise_append.2
      ⟨houter, List.pairwise_cons.2 ⟨hafter, hinner⟩, fun a ha b hb => ?_⟩⟩
    · rw [List.mem_append, List.mem_cons] at hu
      rcases hu with hu | rfl | hu
      · exact h.placed u (List.mem_append_left _ hu)
      · exact hw
      · exact h.placed u (List.mem_append_right _ hu)
    · rcases List.mem_cons.1 hb with rfl | hb
      · exact hbefore a ha
      · exact hcross a ha b hb

namespace Outline

/-- The type that the search for the shortest ends with is one of those looked at, and none of them
is shorter. -/
theorem exists_foldl_shorter (ts : List DeclaredType) :
    ∀ best : DeclaredType, ∃ t, ts.foldl shorter (some best) = some t ∧ t ∈ best :: ts ∧
      ∀ u ∈ best :: ts, t.span.length ≤ u.span.length := by
  induction ts with
  | nil =>
    intro best
    refine ⟨best, rfl, List.mem_singleton_self best, fun u hu => ?_⟩
    have hbest : u = best := List.mem_singleton.1 hu
    exact hbest ▸ Nat.le_refl _
  | cons t rest ih =>
    intro best
    rw [List.foldl_cons]
    unfold shorter
    dsimp only
    -- The better of the two goes on as the best so far; the other is not shorter than it.
    split_ifs with h
    · obtain ⟨m, hm, hmem, hle⟩ := ih t
      refine ⟨m, hm, List.mem_cons_of_mem _ hmem, fun u hu => ?_⟩
      rcases List.mem_cons.1 hu with rfl | hu
      · have := hle t List.mem_cons_self
        omega
      · exact hle u hu
    · obtain ⟨m, hm, hmem, hle⟩ := ih best
      refine ⟨m, hm, ?_, fun u hu => ?_⟩
      · rcases List.mem_cons.1 hmem with rfl | hmem
        · exact List.mem_cons_self
        · exact List.mem_cons_of_mem _ (List.mem_cons_of_mem _ hmem)
      · rcases List.mem_cons.1 hu with rfl | hu
        · exact hle u List.mem_cons_self
        · rcases List.mem_cons.1 hu with rfl | hu
          · have := hle best List.mem_cons_self
            omega
          · exact hle u (List.mem_cons_of_mem _ hu)

/-- The innermost type is found: it is shorter than every other type around the caret. -/
theorem innermost?_eq_some {o : Outline} {caret : Nat} {t : DeclaredType}
    (h : t.IsInnermost o caret) : o.innermost? caret = some t := by
  obtain ⟨ht, hc, hmin⟩ := h
  have hmem : t ∈ o.types.filter (·.span.contains caret) := List.mem_filter.2 ⟨ht, hc⟩
  unfold innermost?
  generalize hts : o.types.filter (·.span.contains caret) = ts at hmem
  cases ts with
  | nil => exact absurd hmem List.not_mem_nil
  | cons first rest =>
    obtain ⟨m, hm, hmmem, hle⟩ := exists_foldl_shorter rest first
    rw [List.foldl_cons]
    show rest.foldl shorter (some first) = some t
    rw [hm]
    rw [← hts, List.mem_filter] at hmmem
    -- What is found is no longer than the innermost type, which is inside all others.
    rcases hmin m hmmem.1 hmmem.2 with rfl | hin
    · rfl
    · have := hle t hmem
      have := hin.2
      omega

/-- A property around the caret is what the caret finds in a type. -/
theorem targetIn_of_find {t : DeclaredType} {caret : Nat} {p : PlacedProperty}
    (h : t.placed.find? (·.span.contains caret) = some p) : targetIn t caret = .property p t := by
  unfold targetIn
  rw [h]

/-- Where no property is around the caret, the caret finds the type unless another member is there
or the type has no members. -/
theorem targetIn_of_not_mem {t : DeclaredType} {caret : Nat}
    (h : ∀ p ∈ t.placed, p.span.contains caret = false) :
    targetIn t caret =
      if t.memberSpans.any (·.contains caret) || !t.decl.hasMembers then .nothing else .type t := by
  have hnone : t.placed.find? (·.span.contains caret) = none := by
    rw [List.find?_eq_none]
    intro p hp
    exact Bool.eq_false_iff.1 (h p hp)
  unfold targetIn
  rw [hnone]

/-- A caret is located in the innermost type around it. -/
theorem locate_eq_targetIn {o : Outline} {caret : Nat} {t : DeclaredType}
    (h : t.IsInnermost o caret) : o.locate caret = targetIn t caret := by
  unfold locate
  rw [innermost?_eq_some h]

/-- A caret outside all members finds the innermost type around it, if the type has members. -/
theorem locate_innermost {o : Outline} {caret : Nat} {t : DeclaredType}
    (hin : t.IsInnermost o caret)
    (hout : ∀ s ∈ t.ownSpans, s.contains caret = false) :
    o.locate caret = if t.decl.hasMembers then .type t else .nothing := by
  have hany : t.memberSpans.any (·.contains caret) = false := by
    rw [List.any_eq_false]
    intro s hs
    rw [hout s (List.mem_append_right _ hs)]
    exact Bool.false_ne_true
  rw [locate_eq_targetIn hin, targetIn_of_not_mem fun p hp =>
    hout _ (DeclaredType.mem_ownSpans_of_placed hp), hany]
  cases t.decl.hasMembers <;> rfl

/-- Where no type is around a caret, the caret finds nothing. -/
theorem locate_outside {o : Outline} {caret : Nat}
    (h : ∀ t ∈ o.types, t.span.contains caret = false) : o.locate caret = .nothing := by
  have hnone : o.types.filter (·.span.contains caret) = [] := by
    rw [List.filter_eq_nil_iff]
    intro t ht
    rw [h t ht]
    exact Bool.false_ne_true
  unfold locate innermost?
  rw [hnone]
  rfl

end Outline

namespace Laid

variable {o : Outline} {caret : Nat}

/-- Of two types of a laid-out outline one precedes the other. -/
theorem precedes_or (h : Laid o.types) {t u : DeclaredType} (ht : t ∈ o.types) (hu : u ∈ o.types)
    (hne : t ≠ u) : t.Precedes u ∨ u.Precedes t :=
  related_of_pairwise h.ordered ht hu hne

/-- A type is inside one that precedes it if a caret is in both. -/
theorem inside_of_precedes (h : Laid o.types) {t u : DeclaredType} (ht : t ∈ o.types)
    (hp : u.Precedes t) (hct : t.span.contains caret = true) (hcu : u.span.contains caret = true) :
    t.span.Inside u.span := by
  have hle := (h.placed t ht).start_le
  rw [Span.contains_iff] at hct hcu
  rcases hp with hp | ⟨hstart, hstop, -⟩
  · omega
  · refine ⟨fun c hc => ?_, by unfold Span.length; omega⟩
    rw [Span.contains_iff] at hc ⊢
    omega

/-- The type that declares the member around a caret is innermost: a type inside it would be
separate from the member. -/
theorem isInnermost_of_ownSpan (h : Laid o.types) {t : DeclaredType} (ht : t ∈ o.types) {s : Span}
    (hs : s ∈ t.ownSpans) (hc : s.contains caret = true) : t.IsInnermost o caret := by
  have hw := h.placed t ht
  have hct : t.span.contains caret = true := by
    have := hw.within s hs
    rw [Span.contains_iff] at hc ⊢
    omega
  refine ⟨ht, hct, fun u hu hcu => ?_⟩
  by_cases hne : t = u
  · exact .inl hne.symm
  · rcases h.precedes_or ht hu hne with hp | hp
    · rcases hp with hp | ⟨-, -, hsep⟩
      · rw [Span.contains_iff] at hct hcu
        omega
      · have := (hsep s hs).apart caret hc
        rw [hcu] at this
        exact absurd this.symm Bool.false_ne_true
    · exact .inr (h.inside_of_precedes ht hp hct hcu)

/-- A caret in the span of a property finds the property and its type. -/
theorem locate_property (h : Laid o.types) {t : DeclaredType} (ht : t ∈ o.types)
    {p : PlacedProperty} (hp : p ∈ t.placed) (hc : p.span.contains caret = true) :
    o.locate caret = .property p t := by
  have hin := h.isInnermost_of_ownSpan ht (DeclaredType.mem_ownSpans_of_placed hp) hc
  have hfind : t.placed.find? (·.span.contains caret) = some p := by
    cases hf : t.placed.find? (·.span.contains caret) with
    | none => exact absurd hc (List.find?_eq_none.1 hf p hp)
    | some found =>
      have hcf := List.find?_some hf
      rw [(h.placed t ht).placed_unique (List.mem_of_find?_eq_some hf) hp hcf hc]
  rw [Outline.locate_eq_targetIn hin, Outline.targetIn_of_find hfind]

/-- A caret in the span of a member that is no property finds nothing. -/
theorem locate_member (h : Laid o.types) {t : DeclaredType} (ht : t ∈ o.types) {s : Span}
    (hs : s ∈ t.memberSpans) (hc : s.contains caret = true) : o.locate caret = .nothing := by
  have hin := h.isInnermost_of_ownSpan ht (List.mem_append_right _ hs) hc
  have hany : t.memberSpans.any (·.contains caret) = true := List.any_eq_true.2 ⟨s, hs, hc⟩
  rw [Outline.locate_eq_targetIn hin, Outline.targetIn_of_not_mem fun p hp =>
    (h.placed t ht).not_member_of_placed hp hs hc, hany]
  rfl

/-- Around a caret that is in some type there is an innermost one: the last of the types around it,
since each of them precedes those after it. -/
theorem exists_innermost (h : Laid o.types)
    (hc : ∃ t ∈ o.types, t.span.contains caret = true) :
    ∃ t, DeclaredType.IsInnermost o caret t := by
  obtain ⟨t₀, ht₀, hc₀⟩ := hc
  have hmem₀ : t₀ ∈ o.types.filter (·.span.contains caret) := List.mem_filter.2 ⟨ht₀, hc₀⟩
  have hne : o.types.filter (·.span.contains caret) ≠ [] := List.ne_nil_of_mem hmem₀
  obtain ⟨ts, t, hts⟩ := List.eq_nil_or_concat _ |>.resolve_left hne
  have hord := h.ordered.filter (·.span.contains caret)
  rw [hts, List.concat_eq_append, List.pairwise_append] at hord
  have hmem (u : DeclaredType) :
      (u ∈ o.types ∧ u.span.contains caret = true) ↔ u ∈ ts ∨ u = t := by
    have hfilter : u ∈ o.types.filter (·.span.contains caret) ↔ _ := List.mem_filter
    rw [← hfilter, hts, List.concat_eq_append, List.mem_append, List.mem_singleton]
  obtain ⟨ht, hct⟩ := (hmem t).2 (.inr rfl)
  refine ⟨t, ht, hct, fun u hu hcu => ?_⟩
  rcases (hmem u).1 ⟨hu, hcu⟩ with hu' | rfl
  · exact .inr (h.inside_of_precedes ht (hord.2.2 u hu' t List.mem_cons_self) hct hcu)
  · exact .inl rfl

/-- No caret is in two of the spans of the properties and other members of all types. -/
theorem ownSpans_apart (h : Laid o.types) :
    (o.types.flatMap DeclaredType.ownSpans).Pairwise Span.Apart := by
  rw [List.pairwise_flatMap]
  refine ⟨fun t ht => (h.placed t ht).separate.imp Span.Separate.apart, ?_⟩
  refine (List.Pairwise.and_mem.1 h.ordered).imp ?_
  rintro a b ⟨ha, hb, hab⟩ s hs s' hs'
  have hin := (h.placed a ha).within s hs
  have hin' := (h.placed b hb).within s' hs'
  apply Span.Separate.apart
  unfold Span.Separate
  rcases hab with hab | ⟨-, -, hsep⟩
  · omega
  · -- The member of the outer type is separate from the whole of the inner one.
    rcases hsep s hs with hsep | hsep <;> omega

/-- No two spans of the properties and other members of all types begin in the same place. -/
theorem ownSpans_start_ne (h : Laid o.types) :
    (o.types.flatMap DeclaredType.ownSpans).Pairwise fun a b => a.start ≠ b.start := by
  refine (List.Pairwise.and_mem.1 h.ownSpans_apart).imp ?_
  rintro a b ⟨ha, hb, hapart⟩ heq
  obtain ⟨t, ht, hat⟩ := List.mem_flatMap.1 ha
  obtain ⟨u, hu, hbu⟩ := List.mem_flatMap.1 hb
  have hina := (h.placed t ht).within a hat
  have hinb := (h.placed u hu).within b hbu
  -- The place where both begin would be a caret in both.
  have hcontains : b.contains a.start = true := (Span.contains_iff b _).2 (by omega)
  rw [hapart a.start ((Span.contains_iff a _).2 (by omega))] at hcontains
  exact Bool.false_ne_true hcontains

/-- Any two types share no caret, or one of them is inside the other. -/
theorem spans_apart_or_inside (h : Laid o.types) :
    o.types.Pairwise fun a b =>
      a.span.Apart b.span ∨ a.span.Inside b.span ∨ b.span.Inside a.span := by
  refine (List.Pairwise.and_mem.1 h.ordered).imp ?_
  rintro a b ⟨-, hb, hab⟩
  rcases hab with hab | hab
  · exact .inl (Span.Separate.apart (.inl hab))
  · have hle := (h.placed b hb).start_le
    have hcb : b.span.contains b.span.start = true := by rw [Span.contains_iff]; omega
    have hca : a.span.contains b.span.start = true := by rw [Span.contains_iff]; omega
    exact .inr (.inr (h.inside_of_precedes hb (.inr hab) hcb hca))

end Laid

/-! ## Selections -/

namespace Outline

/-- A caret points at a property of a type that is declared in its place. -/
def PointsAt (o : Outline) (caret : Nat) (s : Selected) : Prop :=
  ∃ t ∈ o.types, ∃ p ∈ t.placed, s = ⟨p.span, p.toProperty, t.decl⟩ ∧
    p.span.contains caret = true ∧ o.locate caret = .property p t

/-- The properties that a selection meets, type by type. -/
def found (o : Outline) (first last : Nat) : List Selected :=
  o.types.flatMap fun t =>
    (t.placed.filter (·.span.meets first last)).map fun p => ⟨p.span, p.toProperty, t.decl⟩

/-- What is selected is what the selection meets, in the order of the text. -/
theorem propertiesIn_eq (o : Outline) (first last : Nat) :
    o.propertiesIn first last =
      (o.found first last).mergeSort fun a b => a.span.start ≤ b.span.start := rfl

/-- A selection meets the properties whose spans it meets. -/
theorem mem_propertiesIn {o : Outline} {first last : Nat} {s : Selected} :
    s ∈ o.propertiesIn first last ↔
      ∃ t ∈ o.types, ∃ p ∈ t.placed, s = ⟨p.span, p.toProperty, t.decl⟩ ∧
        p.span.meets first last = true := by
  rw [propertiesIn_eq, List.mem_mergeSort, found, List.mem_flatMap]
  refine exists_congr fun t => and_congr_right fun _ => ?_
  rw [List.mem_map]
  constructor
  · rintro ⟨p, hmem, rfl⟩
    obtain ⟨hplaced, hmeets⟩ := List.mem_filter.1 hmem
    exact ⟨p, hplaced, rfl, hmeets⟩
  · rintro ⟨p, hplaced, rfl, hmeets⟩
    exact ⟨p, List.mem_filter.2 ⟨hplaced, hmeets⟩, rfl⟩

/-- The innermost type around a caret is a type of the outline, and the caret is in it. -/
theorem mem_of_innermost? {o : Outline} {caret : Nat} {t : DeclaredType}
    (h : o.innermost? caret = some t) : t ∈ o.types ∧ t.span.contains caret = true := by
  unfold innermost? at h
  cases hts : o.types.filter (·.span.contains caret) with
  | nil =>
    rw [hts] at h
    exact nomatch h
  | cons first rest =>
    obtain ⟨m, hm, hmem, -⟩ := exists_foldl_shorter rest first
    rw [hts, List.foldl_cons] at h
    obtain rfl : m = t := Option.some.inj (hm.symm.trans h)
    rw [← hts] at hmem
    exact List.mem_filter.1 hmem

/-- A caret that finds a type is in a type of the outline, and finds this one. -/
theorem mem_of_locate_type {o : Outline} {caret : Nat} {t : DeclaredType}
    (h : o.locate caret = .type t) : t ∈ o.types ∧ t.span.contains caret = true := by
  unfold locate at h
  split at h
  case h_2 => exact nomatch h
  case h_1 u hu =>
    unfold targetIn at h
    split at h
    · exact nomatch h
    split at h
    · exact nomatch h
    · exact Target.type.inj h ▸ mem_of_innermost? hu

/-- A caret that finds a property of a type is in the place of this property. -/
theorem mem_of_locate_property {o : Outline} {caret : Nat} {p : PlacedProperty} {t : DeclaredType}
    (h : o.locate caret = .property p t) :
    t ∈ o.types ∧ p ∈ t.placed ∧ p.span.contains caret = true := by
  unfold locate at h
  split at h
  case h_2 => exact nomatch h
  case h_1 u hu =>
    unfold targetIn at h
    split at h
    case h_2 =>
      split at h
      · exact nomatch h
      · exact nomatch h
    -- The search found the property by its span, which holds the caret.
    case h_1 q hfind =>
      obtain ⟨rfl, rfl⟩ := Target.property.inj h
      exact ⟨(mem_of_innermost? hu).1, List.mem_of_find?_eq_some hfind,
        List.find?_some (p := fun q : PlacedProperty => q.span.contains caret) hfind⟩

/-- A caret that finds a property of a type points at it in its place. -/
theorem pointsAt_of_locate {o : Outline} {caret : Nat} {p : PlacedProperty} {t : DeclaredType}
    (h : o.locate caret = .property p t) : o.PointsAt caret ⟨p.span, p.toProperty, t.decl⟩ := by
  obtain ⟨ht, hp, hcontains⟩ := mem_of_locate_property h
  exact ⟨t, ht, p, hp, rfl, hcontains, h⟩

/-- A caret points at no more than one property. -/
theorem pointsAt_unique {o : Outline} {caret : Nat} {s s' : Selected} (hs : o.PointsAt caret s)
    (hs' : o.PointsAt caret s') : s = s' := by
  obtain ⟨t, -, p, -, rfl, -, hlocate⟩ := hs
  obtain ⟨t', -, p', -, rfl, -, hlocate'⟩ := hs'
  obtain ⟨rfl, rfl⟩ := Target.property.inj (hlocate.symm.trans hlocate')
  rfl

end Outline

namespace Laid

variable {o : Outline} {caret : Nat}

/-- A selection finds what its carets point at. -/
theorem mem_propertiesIn_iff (h : Laid o.types) {first last : Nat} (hle : first ≤ last)
    {s : Outline.Selected} :
    s ∈ o.propertiesIn first last ↔
      ∃ caret, first ≤ caret ∧ caret ≤ last ∧ o.PointsAt caret s := by
  rw [Outline.mem_propertiesIn]
  constructor
  · rintro ⟨t, ht, p, hp, hs, hmeets⟩
    have hin := (h.placed t ht).within _ (DeclaredType.mem_ownSpans_of_placed hp)
    obtain ⟨caret, hfirst, hlast, hcontains⟩ := (Span.meets_iff hin.2.1 hle).1 hmeets
    exact ⟨caret, hfirst, hlast, t, ht, p, hp, hs, hcontains, h.locate_property ht hp hcontains⟩
  · rintro ⟨caret, hfirst, hlast, t, ht, p, hp, hs, hcontains, -⟩
    have hin := (h.placed t ht).within _ (DeclaredType.mem_ownSpans_of_placed hp)
    exact ⟨t, ht, p, hp, hs, (Span.meets_iff hin.2.1 hle).2 ⟨caret, hfirst, hlast, hcontains⟩⟩

/-- No two properties that a selection meets begin in the same place. -/
theorem found_start_ne (h : Laid o.types) (first last : Nat) :
    (o.found first last).Pairwise fun a b => a.span.start ≠ b.span.start := by
  have hsub : ((o.found first last).map (·.span)).Sublist
      (o.types.flatMap DeclaredType.ownSpans) := by
    unfold Outline.found
    rw [List.map_flatMap]
    refine List.Sublist.flatMap_right _ fun t ht => ?_
    have hspans : ((t.placed.filter (·.span.meets first last)).map (·.span)).Sublist
        t.propertySpans := by
      rw [← DeclaredType.map_placed_span (h.placed t ht).paired]
      exact List.filter_sublist.map _
    rw [List.map_map]
    exact hspans.trans (List.sublist_append_left _ _)
  have hne : ((o.found first last).map (·.span)).Pairwise fun a b => a.start ≠ b.start :=
    h.ownSpans_start_ne.sublist hsub
  rwa [List.pairwise_map] at hne

/-- What is selected begins later and later in the text. -/
theorem propertiesIn_increasing (h : Laid o.types) (first last : Nat) :
    (o.propertiesIn first last).Pairwise fun a b => a.span.start < b.span.start := by
  have hsorted : (o.propertiesIn first last).Pairwise fun a b => a.span.start ≤ b.span.start := by
    rw [Outline.propertiesIn_eq]
    have hsort : ((o.found first last).mergeSort fun a b =>
        decide (a.span.start ≤ b.span.start)).Pairwise fun a b =>
          decide (a.span.start ≤ b.span.start) = true := by
      refine List.pairwise_mergeSort (fun a b c hab hbc => ?_) (fun a b => ?_) _
      · rw [decide_eq_true_eq] at hab hbc ⊢
        exact Nat.le_trans hab hbc
      · rw [Bool.or_eq_true, decide_eq_true_eq, decide_eq_true_eq]
        exact Nat.le_total _ _
    exact hsort.imp of_decide_eq_true
  have hne : (o.propertiesIn first last).Pairwise fun a b => a.span.start ≠ b.span.start := by
    rw [Outline.propertiesIn_eq]
    exact (List.mergeSort_perm _ _).symm.pairwise (h.found_start_ne first last) Ne.symm
  exact (hsorted.and hne).imp fun ⟨hle, hne⟩ => Nat.lt_of_le_of_ne hle hne

end Laid

end ViewForge
