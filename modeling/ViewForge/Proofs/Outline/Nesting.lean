import ViewForge.Proofs.Outline.Location

/-!
# Outlines whose spans may touch

The constructs of a text may follow each other directly, so that the caret between two of them is in
both. Such an outline is tiled: the members of a type lie in it one beside the other, and any two
types are one beside the other or nested, in which case the members of the outer one are beside the
inner one (`Tiled`). A caret that is between two characters of a property is then in no other
member, and the type that declares the property is the shortest around it, so the caret finds that
property (`Tiled.locate_property`).

A tiling is put together from parts of the text that follow each other (`TiledIn.append`) and from a
type around its members and the types inside it (`TiledIn.cons`).
-/

namespace ViewForge

namespace Span

/-- One of the spans ends where the other begins, or before. -/
def Beside (a b : Span) : Prop := a.stop ≤ b.start ∨ b.stop ≤ a.start

/-- The first span lies in the second. -/
def Within (a b : Span) : Prop := b.start ≤ a.start ∧ a.stop ≤ b.stop

theorem Beside.symm {a b : Span} (h : a.Beside b) : b.Beside a := Or.symm h

/-- What lies in a span is beside the spans that are beside it. -/
theorem Beside.of_within {a b c : Span} (h : a.Beside b) (hc : c.Within b) : a.Beside c :=
  h.imp (Nat.le_trans · hc.1) (Nat.le_trans hc.2 ·)

/-- A caret between two characters of a span is not in a span beside it. -/
theorem Beside.not_contains {a b : Span} (h : a.Beside b) {caret : Nat} (hstart : a.start < caret)
    (hstop : caret < a.stop) : b.contains caret = false := by
  rw [Bool.eq_false_iff, ne_eq, contains_iff]
  rcases h with h | h <;> omega

end Span

/-- Spans between two offsets, one beside the other. -/
structure Row (first last : Nat) (ss : List Span) : Prop where
  /-- Each lies between the offsets. -/
  within : ∀ s ∈ ss, first ≤ s.start ∧ s.start ≤ s.stop ∧ s.stop ≤ last
  /-- They are one beside the other. -/
  beside : ss.Pairwise Span.Beside

namespace Row

variable {first middle last : Nat} {ss ss' : List Span}

theorem nil : Row first last [] := ⟨List.forall_mem_nil _, .nil⟩

/-- A row lies between offsets that are farther apart. -/
theorem mono (h : Row first last ss) {first' last' : Nat} (hfirst : first' ≤ first)
    (hlast : last ≤ last') : Row first' last' ss where
  within s hs := by have := h.within s hs; omega
  beside := h.beside

/-- A span behind a row may be put into it anywhere. -/
theorem insert (h : Row first middle (ss ++ ss')) {s : Span} (hfirst : first ≤ middle)
    (hstart : middle ≤ s.start) (hle : s.start ≤ s.stop) (hstop : s.stop ≤ last) :
    Row first last (ss ++ [s] ++ ss') := by
  have hperm : (s :: (ss ++ ss')).Perm (ss ++ [s] ++ ss') := by
    rw [List.append_assoc, List.singleton_append]
    exact List.perm_middle.symm
  refine ⟨fun u hu => ?_, hperm.pairwise (List.pairwise_cons.2 ⟨fun u hu => ?_, h.beside⟩)
    Span.Beside.symm⟩
  · rcases List.mem_cons.1 (hperm.mem_iff.2 hu) with rfl | hu
    · omega
    · have := h.within u hu
      omega
  · have := h.within u hu
    exact .inr (by omega)

/-- Rows that follow each other are one row. -/
theorem append (h : Row first middle ss) (h' : Row middle last ss') (hfirst : first ≤ middle)
    (hlast : middle ≤ last) : Row first last (ss ++ ss') := by
  refine ⟨List.forall_mem_append.2 ⟨(h.mono (Nat.le_refl _) hlast).within,
    (h'.mono hfirst (Nat.le_refl _)).within⟩, List.pairwise_append.2 ⟨h.beside, h'.beside, ?_⟩⟩
  intro a ha b hb
  have := h.within a ha
  have := h'.within b hb
  exact .inl (by omega)

end Row

namespace DeclaredType

/-- What holds of each type of a tiled outline by itself. -/
structure Tidy (t : DeclaredType) : Prop where
  /-- The type ends where it begins or later. -/
  start_le : t.span.start ≤ t.span.stop
  /-- Each property has its span. -/
  paired : t.decl.properties.length = t.propertySpans.length
  /-- The members are a row in the type. -/
  own : Row t.span.start t.span.stop t.ownSpans

/-- How a type stands to one that is declared after it: it ends where the other begins or before, or
it is longer and holds the other, which is beside its members. -/
def Leads (a b : DeclaredType) : Prop :=
  a.span.stop ≤ b.span.start ∨
    (b.span.Within a.span ∧ b.span.length < a.span.length ∧ ∀ s ∈ a.ownSpans, s.Beside b.span)

end DeclaredType

/-- Every type is tidy, and any two are one beside the other or nested. -/
structure Tiled (ts : List DeclaredType) : Prop where
  /-- Each type is tidy. -/
  tidy : ∀ t ∈ ts, t.Tidy
  /-- Each type stands to those after it as it should. -/
  ordered : ts.Pairwise DeclaredType.Leads

/-- Tiled types between two offsets. -/
structure TiledIn (first last : Nat) (ts : List DeclaredType) : Prop where
  /-- The types are tiled. -/
  tiled : Tiled ts
  /-- Each lies between the offsets. -/
  within : ∀ t ∈ ts, first ≤ t.span.start ∧ t.span.stop ≤ last

namespace TiledIn

variable {first middle last : Nat} {ts us : List DeclaredType}

theorem nil : TiledIn first last [] := ⟨⟨List.forall_mem_nil _, .nil⟩, List.forall_mem_nil _⟩

theorem mono (h : TiledIn first last ts) {first' last' : Nat} (hfirst : first' ≤ first)
    (hlast : last ≤ last') : TiledIn first' last' ts where
  tiled := h.tiled
  within t ht := by have := h.within t ht; omega

theorem singleton {t : DeclaredType} (ht : t.Tidy) : TiledIn t.span.start t.span.stop [t] where
  tiled := ⟨List.forall_mem_singleton.2 ht, List.pairwise_singleton _ _⟩
  within := List.forall_mem_singleton.2 ⟨Nat.le_refl _, Nat.le_refl _⟩

/-- Types in parts of a text that follow each other are tiled. -/
theorem append (h : TiledIn first middle ts) (h' : TiledIn middle last us) (hfirst : first ≤ middle)
    (hlast : middle ≤ last) : TiledIn first last (ts ++ us) where
  tiled :=
    { tidy := List.forall_mem_append.2 ⟨h.tiled.tidy, h'.tiled.tidy⟩
      ordered := List.pairwise_append.2 ⟨h.tiled.ordered, h'.tiled.ordered, fun a ha b hb =>
        .inl (Nat.le_trans (h.within a ha).2 (h'.within b hb).1)⟩ }
  within := List.forall_mem_append.2 ⟨(h.mono (Nat.le_refl _) hlast).within,
    (h'.mono hfirst (Nat.le_refl _)).within⟩

/-- A type and the types in a shorter part of it are tiled. -/
theorem cons (h : TiledIn first last ts) {t : DeclaredType} (ht : t.Tidy)
    (hstart : t.span.start ≤ first) (hstop : last ≤ t.span.stop)
    (hshort : last - first < t.span.length)
    (hclear : ∀ s ∈ t.ownSpans, ∀ u ∈ ts, s.Beside u.span) :
    TiledIn t.span.start t.span.stop (t :: ts) where
  tiled :=
    { tidy := List.forall_mem_cons.2 ⟨ht, h.tiled.tidy⟩
      ordered := List.pairwise_cons.2 ⟨fun u hu => by
        obtain ⟨hfirst, hlast⟩ := h.within u hu
        unfold Span.length at hshort
        exact .inr ⟨⟨Nat.le_trans hstart hfirst, Nat.le_trans hlast hstop⟩,
          by unfold Span.length; omega, fun s hs => hclear s hs u hu⟩, h.tiled.ordered⟩ }
  within := List.forall_mem_cons.2 ⟨⟨Nat.le_refl _, Nat.le_refl _⟩, (h.mono hstart hstop).within⟩

end TiledIn

namespace Tiled

variable {o : Outline} {caret : Nat}

/-- Any two types are one beside the other, or one lies in the other. -/
theorem beside_or_within {ts : List DeclaredType} (h : Tiled ts) :
    ts.Pairwise fun a b =>
      a.span.Beside b.span ∨ a.span.Within b.span ∨ b.span.Within a.span := by
  refine h.ordered.imp ?_
  rintro a b (hbefore | ⟨hwithin, -⟩)
  · exact .inl (.inl hbefore)
  · exact .inr (.inr hwithin)

/-- Any two members of all types are one beside the other. -/
theorem ownSpans_beside {ts : List DeclaredType} (h : Tiled ts) :
    (ts.flatMap DeclaredType.ownSpans).Pairwise Span.Beside := by
  rw [List.pairwise_flatMap]
  refine ⟨fun t ht => (h.tidy t ht).own.beside, ?_⟩
  refine (List.Pairwise.and_mem.1 h.ordered).imp ?_
  rintro a b ⟨ha, hb, hleads⟩ s hs s' hs'
  have hin := (h.tidy a ha).own.within s hs
  have hin' := (h.tidy b hb).own.within s' hs'
  rcases hleads with hbefore | ⟨-, -, hclear⟩
  · exact .inl (by omega)
  · -- The member of the outer type is beside the whole of the inner one.
    rcases hclear s hs with hclear | hclear
    · exact .inl (by omega)
    · exact .inr (by omega)

/-- Around a caret between two characters of a member the type that declares it is innermost. -/
theorem isInnermost (h : Tiled o.types) {t : DeclaredType} (ht : t ∈ o.types) {s : Span}
    (hs : s ∈ t.ownSpans) (hstart : s.start < caret) (hstop : caret < s.stop) :
    t.IsInnermost o caret := by
  have hin := (h.tidy t ht).own.within s hs
  refine ⟨ht, (Span.contains_iff _ _).2 (by omega), fun u hu hcu => ?_⟩
  by_cases hne : t = u
  · exact .inl hne.symm
  have hle := (h.tidy t ht).start_le
  rw [Span.contains_iff] at hcu
  -- Of two types around a caret the outer one leads. It cannot be this one, since no type inside it
  -- reaches into a member.
  rcases related_of_pairwise h.ordered ht hu hne with hleads | hleads
  · rcases hleads with hbefore | ⟨-, -, hclear⟩
    · omega
    · have := (hclear s hs).not_contains hstart hstop
      rw [Bool.eq_false_iff, ne_eq, Span.contains_iff] at this
      omega
  · rcases hleads with hbefore | ⟨⟨hfirst, hlast⟩, hshorter, -⟩
    · omega
    · refine .inr ⟨fun c hc => ?_, hshorter⟩
      rw [Span.contains_iff] at hc ⊢
      omega

/-- A caret between two characters of a property finds the property and its type. -/
theorem locate_property (h : Tiled o.types) {t : DeclaredType} (ht : t ∈ o.types)
    {p : PlacedProperty} (hp : p ∈ t.placed) (hstart : p.span.start < caret)
    (hstop : caret < p.span.stop) : o.locate caret = .property p t := by
  have hin := h.isInnermost ht (DeclaredType.mem_ownSpans_of_placed hp) hstart hstop
  have hbeside : t.placed.Pairwise fun a b => a.span.Beside b.span := by
    rw [← List.pairwise_map, DeclaredType.map_placed_span (h.tidy t ht).paired]
    exact (List.pairwise_append.1 (h.tidy t ht).own.beside).1
  -- No other property of the type can be found first: members only touch, and the caret is between
  -- two characters.
  have hfind : t.placed.find? (·.span.contains caret) = some p := by
    cases hf : t.placed.find? (·.span.contains caret) with
    | none =>
      have := List.find?_eq_none.1 hf p hp
      rw [Span.contains_iff] at this
      omega
    | some found =>
      have hcf : found.span.contains caret = true :=
        List.find?_some (p := fun q : PlacedProperty => q.span.contains caret) hf
      by_cases hne : found = p
      · rw [hne]
      · have hrel := related_of_pairwise hbeside (List.mem_of_find?_eq_some hf) hp hne
        have hsep : p.span.Beside found.span := hrel.elim Span.Beside.symm id
        rw [hsep.not_contains hstart hstop] at hcf
        exact absurd hcf Bool.false_ne_true
  rw [Outline.locate_eq_targetIn hin, Outline.targetIn_of_find hfind]

end Tiled

end ViewForge
