import ViewForge.Proofs.Outline.Location
import ViewForge.Proofs.VisualBasic.Lines

/-!
# The layout of Visual Basic outlines

Whatever a Visual Basic text is, its outline is laid out (`outline_laid`): types are separate or
nested, and members are separate from each other and from the types beside them. So every caret is
located by the one span that decides about it (`locate_exact`), and a selection finds what its
carets would (`selection_exact`), however broken the text is.

The proof follows the reading of the lines. `Reading.typesAt` is the outline of a document that
would end at a given offset: the types that are still open end there. The invariant
`Reading.Before` says that all which has been read lies before the next line and that this outline
is laid out, wherever the document may end. A line that opens a type, closes one or adds a member
to the innermost one keeps it (`Before.openType`, `Before.close`, `Before.change`); so does every
construct (`readLine_continues`), which ends with its last line, and by induction a whole text
(`readLines_before`).
-/

namespace ViewForge.DeclaredType

/-! ## What has been read -/

/-- A type that ends at an offset. -/
def endingAt (stop : Nat) (t : DeclaredType) : DeclaredType :=
  { t with span := { t.span with stop } }

/-- What is known of a type in a text that is read up to an offset and may end at another: it
begins and its members end before the first, it ends before the first or at the second, and it is
no record. -/
structure Known (bound stop : Nat) (t : DeclaredType) : Prop where
  /-- It begins before the bound. -/
  start_lt : t.span.start < bound
  /-- Its members end before the bound. -/
  own_lt : ∀ s ∈ t.ownSpans, s.stop < bound
  /-- It ends before the bound, or where the text does. -/
  stop_lt : t.span.stop < bound ∨ t.span.stop = stop
  /-- There are no records. -/
  kind_ne : t.decl.kind ≠ .record

/-- What is known up to an offset is known up to a later one. -/
theorem Known.mono {bound bound' stop : Nat} {t : DeclaredType} (h : t.Known bound stop)
    (hle : bound ≤ bound') : t.Known bound' stop where
  start_lt := by have := h.start_lt; omega
  own_lt s hs := by have := h.own_lt s hs; omega
  stop_lt := by rcases h.stop_lt with h | h <;> omega
  kind_ne := h.kind_ne

/-- A type that precedes one which ends at an offset precedes it also if it ends earlier. -/
theorem Precedes.shrink {a b : DeclaredType} {stop stop' : Nat} (h : a.Precedes (b.endingAt stop))
    (hle : stop' ≤ stop) : a.Precedes (b.endingAt stop') := by
  rcases h with h | ⟨h1, h2, h3⟩
  · exact .inl h
  · have h2' : stop ≤ a.span.stop := h2
    refine .inr ⟨h1, Nat.le_trans hle h2', fun s hs => ?_⟩
    rcases h3 s hs with h | h
    · exact .inl h
    · have h' : stop < s.start := h
      exact .inr (Nat.lt_of_le_of_lt hle h')

/-- How the innermost open type changes within a construct that begins at `bound` and ends before
`bound'`: it gains at most one member, whose span is in the construct. -/
structure Grows (bound bound' : Nat) (t t' : DeclaredType) : Prop where
  /-- The span stays. -/
  span_eq : t'.span = t.span
  /-- The kind stays. -/
  kind_eq : t'.decl.kind = t.decl.kind
  /-- Each property still has its span. -/
  paired : t.decl.properties.length = t.propertySpans.length →
    t'.decl.properties.length = t'.propertySpans.length
  /-- A member is an old one, or lies in the construct. -/
  own_mem : ∀ s ∈ t'.ownSpans,
    s ∈ t.ownSpans ∨ (bound ≤ s.start ∧ s.start ≤ s.stop ∧ s.stop < bound')
  /-- The members are separate if the old ones are and end before the construct. -/
  separate : (∀ s ∈ t.ownSpans, s.stop < bound) → t.ownSpans.Pairwise Span.Separate →
    t'.ownSpans.Pairwise Span.Separate

/-- A type with one more member in the construct is known up to the end of the construct. -/
theorem Known.grows {bound bound' stop : Nat} {t t' : DeclaredType}
    (h : (t.endingAt stop).Known bound stop) (hle : bound ≤ bound')
    (hspan : (t'.endingAt stop).span = (t.endingAt stop).span) (hg : t.Grows bound bound' t') :
    (t'.endingAt stop).Known bound' stop where
  start_lt := by
    rw [hspan]
    exact Nat.lt_of_lt_of_le h.start_lt hle
  own_lt s hs := by
    rcases hg.own_mem s hs with hold | hnew
    · exact Nat.lt_of_lt_of_le (h.own_lt s hold) hle
    · exact hnew.2.2
  stop_lt := .inr rfl
  kind_ne hr := h.kind_ne (hg.kind_eq ▸ hr)

/-- A type whose declaration changes but neither in kind nor in its properties. -/
theorem grows_of_decl {bound bound' : Nat} {t : DeclaredType} {decl : TypeDecl}
    (hkind : decl.kind = t.decl.kind) (hprops : decl.properties = t.decl.properties) :
    t.Grows bound bound' { t with decl } where
  span_eq := rfl
  kind_eq := hkind
  paired h := by rw [← h, ← hprops]
  own_mem _ hs := .inl hs
  separate _ h := h

/-- One more span, which begins where all others have ended, keeps spans separate, wherever it is
put. -/
theorem separate_insert {bound : Nat} {l l' : List Span} {s : Span}
    (hlt : ∀ x ∈ l ++ l', x.stop < bound) (hs : bound ≤ s.start)
    (h : (l ++ l').Pairwise Span.Separate) : (l ++ [s] ++ l').Pairwise Span.Separate := by
  have hsymm : Std.Symm Span.Separate := ⟨fun _ _ => Span.Separate.symm⟩
  have hperm : (s :: (l ++ l')).Perm (l ++ [s] ++ l') := by
    rw [List.append_assoc, List.singleton_append]
    exact List.perm_middle.symm
  refine hperm.pairwise (List.pairwise_cons.2 ⟨fun x hx => ?_, h⟩) Span.Separate.symm
  have := hlt x hx
  exact .inr (by omega)

/-- A property that lies in the construct is added. -/
theorem grows_addProperty {bound bound' : Nat} (t : DeclaredType) (p : Property) {s : Span}
    (hb : bound ≤ s.start) (hle : s.start ≤ s.stop) (hb' : s.stop < bound') :
    t.Grows bound bound' (t.addProperty p s) where
  span_eq := rfl
  kind_eq := rfl
  paired h := by
    unfold addProperty
    rw [List.length_append, List.length_append, h]
    rfl
  own_mem x hx := by
    rcases mem_ownSpans_addProperty.1 hx with hx | rfl
    · exact .inl hx
    · exact .inr ⟨hb, hle, hb'⟩
  separate hlt h := separate_insert hlt hb h

/-- A member that lies in the construct is added. -/
theorem grows_addMember {bound bound' : Nat} (t : DeclaredType) {s : Span}
    (hb : bound ≤ s.start) (hle : s.start ≤ s.stop) (hb' : s.stop < bound') :
    t.Grows bound bound' (t.addMember s) where
  span_eq := rfl
  kind_eq := rfl
  paired h := h
  own_mem x hx := by
    rcases mem_ownSpans_addMember.1 hx with hx | rfl
    · exact .inl hx
    · exact .inr ⟨hb, hle, hb'⟩
  -- The members' spans stand last, so this is the insertion with nothing behind.
  separate hlt h := by
    have hins : (t.ownSpans ++ [s] ++ []).Pairwise Span.Separate :=
      separate_insert (by rwa [List.append_nil]) hb (by rwa [List.append_nil])
    rwa [List.append_nil, ← ownSpans_addMember] at hins

end ViewForge.DeclaredType

namespace ViewForge.VisualBasic

namespace Reading

/-- The types of a document that ends at an offset: the types that are open end there. -/
def typesAt (stop : Nat) (r : Reading) : List DeclaredType :=
  r.done ++ r.opened.reverse.flatMap fun frame => frame.declared.endingAt stop :: frame.nested

/-- All that is read lies before `bound`, and wherever the document may end from there on, its
outline is laid out. -/
structure Before (bound : Nat) (r : Reading) : Prop where
  /-- Every type lies before the bound. -/
  known : ∀ stop, ∀ t ∈ r.typesAt stop, t.Known bound stop
  /-- The outline is laid out. -/
  laid : ∀ stop, bound ≤ stop + 1 → Laid (r.typesAt stop)

/-- What lies before an offset lies before a later one. -/
theorem Before.mono {bound bound' : Nat} {r : Reading} (h : r.Before bound)
    (hle : bound ≤ bound') : r.Before bound' where
  known stop t ht := (h.known stop t ht).mono hle
  laid stop hstop := h.laid stop (Nat.le_trans hle hstop)

/-- The types inside which the innermost open one stands come first. -/
theorem typesAt_cons (stop : Nat) (r : Reading) (frame : Frame) (rest : List Frame) :
    typesAt stop { r with opened := frame :: rest } =
      typesAt stop { r with opened := rest } ++ (frame.declared.endingAt stop :: frame.nested) := by
  unfold typesAt
  dsimp only
  rw [List.reverse_cons, List.flatMap_append, List.flatMap_singleton, List.append_assoc]

/-- The types around the innermost open one, this one, and those inside it. -/
theorem typesAt_of_opened (stop : Nat) {r : Reading} {frame : Frame} {outer : List Frame}
    (h : r.opened = frame :: outer) :
    typesAt stop r =
      typesAt stop { r with opened := outer } ++ (frame.declared.endingAt stop :: frame.nested) := by
  rw [← typesAt_cons, ← h]

/-- Closed types are added behind all others. -/
theorem typesAt_addClosed (stop : Nat) (ts : List DeclaredType) (r : Reading) :
    typesAt stop (r.addClosed ts) = typesAt stop r ++ ts := by
  obtain ⟨done, opened, namespaces⟩ := r
  unfold addClosed
  cases opened with
  | nil =>
    unfold typesAt
    dsimp only
    rw [List.reverse_nil, List.flatMap_nil, List.append_nil, List.append_nil]
  | cons frame rest =>
    dsimp only
    rw [typesAt_cons stop ⟨done, [], namespaces⟩, typesAt_cons stop ⟨done, [], namespaces⟩]
    dsimp only
    rw [List.append_assoc, List.cons_append]

/-- Closing the innermost open type changes where it ends, and nothing else. -/
theorem typesAt_close (stop stop' : Nat) (r : Reading) (frame : Frame) (rest : List Frame)
    (h : r.opened = frame :: rest) :
    typesAt stop (r.close stop') =
      typesAt stop { r with opened := rest } ++
        (frame.declared.endingAt stop' :: frame.nested) := by
  unfold close
  rw [h]
  dsimp only
  rw [typesAt_addClosed]
  rfl

/-- A type that opens stands behind all others. -/
theorem typesAt_openType (stop : Nat) (header : TypeHeader) (line : Line) (r : Reading) :
    ∃ decl : TypeDecl, decl.kind = kindOf header.word ∧ decl.properties = [] ∧
      typesAt stop (openType header line r) =
        typesAt stop r ++ [({ decl, span := line.span } : DeclaredType).endingAt stop] := by
  unfold openType
  dsimp only
  rw [typesAt_cons]
  exact ⟨_, rfl, rfl, rfl⟩

/-! ## Steps -/

/-- A word never stands for a record. -/
theorem kindOf_ne_record (word : List Char) : kindOf word ≠ .record := by
  unfold kindOf
  dsimp only
  split_ifs <;> exact TypeKind.noConfusion

/-- A type that ends in the same place wherever the document ends has ended before the bound. -/
theorem stop_lt_of_known {bound : Nat} {t : DeclaredType} (h : ∀ stop, t.Known bound stop) :
    t.span.stop < bound := by
  rcases (h (t.span.stop + 1)).stop_lt with hlt | heq
  · exact hlt
  · omega

/-- A type may open on any later line. -/
theorem Before.openType {bound : Nat} {r : Reading} (h : r.Before bound) (header : TypeHeader)
    (line : Line) (hstart : bound ≤ line.span.start) (hle : line.span.start ≤ line.span.stop) :
    (openType header line r).Before (line.span.stop + 1) where
  known stop t ht := by
    obtain ⟨decl, hkind, -, heq⟩ := typesAt_openType stop header line r
    rw [heq, List.mem_append, List.mem_singleton] at ht
    rcases ht with ht | rfl
    · exact (h.known stop t ht).mono (by omega)
    · exact ⟨Nat.lt_succ_of_le hle, fun s hs => absurd hs List.not_mem_nil, .inr rfl,
        fun hr => kindOf_ne_record header.word (hkind ▸ hr)⟩
  laid stop hstop := by
    obtain ⟨decl, -, hprops, heq⟩ := typesAt_openType stop header line r
    have hold := h.laid stop (by omega)
    rw [heq]
    refine ⟨fun t ht => ?_, List.pairwise_append.2 ⟨hold.ordered, List.pairwise_singleton _ _, ?_⟩⟩
    · rw [List.mem_append, List.mem_singleton] at ht
      rcases ht with ht | rfl
      · exact hold.placed t ht
      · refine ⟨?_, by rw [DeclaredType.endingAt, hprops]; rfl,
          fun s hs => absurd hs List.not_mem_nil, List.Pairwise.nil⟩
        show line.span.start ≤ stop
        omega
    · -- An old type has ended before the line, or is open and ends where the new one does.
      intro t ht t' ht'
      rw [List.mem_singleton] at ht'
      subst ht'
      have hk := h.known stop t ht
      rcases hk.stop_lt with hlt | hend
      · exact .inl (Nat.lt_of_lt_of_le hlt hstart)
      · refine .inr ⟨Nat.lt_of_lt_of_le hk.start_lt hstart, Nat.le_of_eq hend.symm, fun s hs => ?_⟩
        exact .inl (Nat.lt_of_lt_of_le (hk.own_lt s hs) hstart)

/-- What is known of the types and how they are laid out, told apart by where they stand: around
the innermost open type, that type itself, and inside it. -/
theorem before_iff {bound : Nat} {done : List DeclaredType} {frame : Frame} {rest : List Frame}
    {namespaces : List String} :
    Before bound ⟨done, frame :: rest, namespaces⟩ ↔
      (∀ stop, (∀ t ∈ typesAt stop ⟨done, rest, namespaces⟩, t.Known bound stop) ∧
        (frame.declared.endingAt stop).Known bound stop ∧
        ∀ t ∈ frame.nested, t.Known bound stop) ∧
      ∀ stop, bound ≤ stop + 1 → (frame.declared.endingAt stop).WellPlaced ∧
        Laid (typesAt stop ⟨done, rest, namespaces⟩ ++ frame.nested) ∧
        (∀ t ∈ typesAt stop ⟨done, rest, namespaces⟩, t.Precedes (frame.declared.endingAt stop)) ∧
        ∀ t ∈ frame.nested, (frame.declared.endingAt stop).Precedes t := by
  have hcons (stop : Nat) : typesAt stop ⟨done, frame :: rest, namespaces⟩ =
      typesAt stop ⟨done, rest, namespaces⟩ ++ (frame.declared.endingAt stop :: frame.nested) :=
    typesAt_cons stop ⟨done, [], namespaces⟩ frame rest
  -- At every end of the open types they split in the same three parts, so both directions are about
  -- one list.
  constructor
  · rintro ⟨hknown, hlaid⟩
    refine ⟨fun stop => ?_, fun stop hstop => ?_⟩
    · have hk := hknown stop
      rwa [hcons, List.forall_mem_append, List.forall_mem_cons] at hk
    · have hl := hlaid stop hstop
      rwa [hcons, laid_append_cons] at hl
  · rintro ⟨hknown, hlaid⟩
    constructor
    · intro stop
      rw [hcons, List.forall_mem_append, List.forall_mem_cons]
      exact hknown stop
    · intro stop hstop
      rw [hcons, laid_append_cons]
      exact hlaid stop hstop

/-- The innermost open type may end with any later line. -/
theorem Before.close {bound : Nat} {r : Reading} (h : r.Before bound) {stop : Nat}
    (hle : bound ≤ stop + 1) : (r.close stop).Before (stop + 1) := by
  obtain ⟨done, opened, namespaces⟩ := r
  cases opened with
  | nil => exact h.mono hle
  | cons frame rest =>
    have hclose (e : Nat) := typesAt_close e stop ⟨done, frame :: rest, namespaces⟩ frame rest rfl
    obtain ⟨hknown, hlaid⟩ := before_iff.1 h
    constructor
    · intro e
      obtain ⟨houter, -, hinner⟩ := hknown e
      -- The type that ends here is known from the document that would end here.
      have hk := (hknown stop).2.1.mono hle
      rw [hclose, List.forall_mem_append, List.forall_mem_cons]
      exact ⟨fun t ht => (houter t ht).mono hle,
        ⟨hk.start_lt, hk.own_lt, .inl (Nat.lt_succ_self stop), hk.kind_ne⟩,
        fun t ht => (hinner t ht).mono hle⟩
    · intro e he
      -- Likewise it holds what it would hold then. The types around it are those of the document
      -- that ends at `e`, which precede it as they do where it ends there.
      obtain ⟨hwell, -, -, hafter⟩ := hlaid stop hle
      obtain ⟨-, hothers, hbefore, -⟩ := hlaid e (by omega)
      rw [hclose]
      exact laid_append_cons.2
        ⟨hwell, hothers, fun t ht => (hbefore t ht).shrink (by omega), hafter⟩

/-- The innermost open type may gain a member in a later construct. -/
theorem Before.change {bound bound' : Nat} {r : Reading} (h : r.Before bound) (hle : bound ≤ bound')
    {f : DeclaredType → DeclaredType} (hf : ∀ t : DeclaredType, t.Grows bound bound' (f t)) :
    (r.change f).Before bound' := by
  obtain ⟨done, opened, namespaces⟩ := r
  cases opened with
  | nil => exact h.mono hle
  | cons frame rest =>
    obtain ⟨hknown, hlaid⟩ := before_iff.1 h
    have hg := hf frame.declared
    have hspan (e : Nat) :
        ((f frame.declared).endingAt e).span = (frame.declared.endingAt e).span := by
      unfold DeclaredType.endingAt
      rw [hg.span_eq]
    refine before_iff.2 ⟨fun e => ?_, fun e he => ?_⟩
    · obtain ⟨houter, hk, hinner⟩ := hknown e
      exact ⟨fun t ht => (houter t ht).mono hle, hk.grows hle (hspan e) hg,
        fun t ht => (hinner t ht).mono hle⟩
    · obtain ⟨hwell, hothers, hbefore, hafter⟩ := hlaid e (by omega)
      have hk := (hknown e).2.1
      refine ⟨?_, hothers, fun t ht => ?_, fun t ht => ?_⟩
      · refine ⟨?_, hg.paired hwell.paired, fun s hs => ?_, hg.separate hk.own_lt hwell.separate⟩
        · rw [hspan]
          exact hwell.start_le
        · rw [hspan]
          rcases hg.own_mem s hs with hs' | ⟨h1, h2, h3⟩
          · exact hwell.within s hs'
          · have hlt := hk.start_lt
            refine ⟨by omega, h2, ?_⟩
            show s.stop ≤ e
            omega
      · have hp := hbefore t ht
        unfold DeclaredType.Precedes at hp ⊢
        rw [hspan]
        exact hp
      · -- A type inside has ended before the construct, in which the new member lies.
        have hlt := stop_lt_of_known fun e => (hknown e).2.2 t ht
        have hp := hafter t ht
        unfold DeclaredType.Precedes at hp ⊢
        rw [hspan]
        refine hp.imp id fun ⟨h1, h2, h3⟩ => ⟨h1, h2, fun s hs => ?_⟩
        rcases hg.own_mem s hs with hs' | hnew
        · exact h3 s hs'
        · exact .inr (Nat.lt_of_lt_of_le hlt hnew.1)

/-! ## Constructs -/

end Reading

/-- A construct has been read that may be followed by the rest of the lines: all that is read lies
before them. The number is that of the further lines that the construct takes. -/
def Continues (last : Nat) (rest : List Line) (out : Reading × Nat) : Prop :=
  ∃ bound ≤ last + 1, out.1.Before bound ∧ LinesIn last bound (rest.drop out.2)

section Constructs

variable {last first : Nat} {line : Line} {rest : List Line} {r : Reading}

/-- A line that adds nothing is followed by the others. -/
theorem continues_of_before (h : r.Before first) (hls : LinesIn last first (line :: rest)) :
    Continues last rest (r, 0) := by
  obtain ⟨h1, h2, h3, h4⟩ := hls
  exact ⟨line.span.stop + 1, by omega, h.mono (by omega), h4⟩

/-- A construct that changes the innermost type within its span is followed by the lines behind
it. -/
theorem continues_of_change (h : r.Before first) (hls : LinesIn last first (line :: rest))
    (count : Nat) {f : DeclaredType → DeclaredType}
    (hf : ∀ t : DeclaredType, first ≤ (spanOver line rest count).start →
      (spanOver line rest count).start ≤ (spanOver line rest count).stop →
      t.Grows first ((spanOver line rest count).stop + 1) (f t)) :
    Continues last rest (r.change f, count) := by
  obtain ⟨h1, h2, h3, h4⟩ := spanOver_facts hls count
  exact ⟨_, by omega, h.change (by omega) fun t => hf t h1 h2, h4⟩

/-- Every construct inside a type is followed by the lines behind it. -/
theorem readMember_continues (h : r.Before first) (hls : LinesIn last first (line :: rest))
    (kind : TypeKind) (text : List Char) :
    Continues last rest (readMember kind text line rest r) := by
  -- Every branch of the reading leaves the types as they are or makes the innermost open one grow.
  unfold readMember
  dsimp only
  split
  · split
    · exact continues_of_change h hls 0 fun t _ _ => DeclaredType.grows_of_decl rfl rfl
    · exact continues_of_before h hls
  · split
    · exact continues_of_change h hls 0 fun t _ _ => DeclaredType.grows_of_decl rfl rfl
    · split
      · exact continues_of_change h hls _ fun t h1 h2 =>
          t.grows_addProperty _ h1 h2 (Nat.lt_succ_self _)
      · split
        · exact continues_of_change h hls _ fun t h1 h2 =>
            t.grows_addMember h1 h2 (Nat.lt_succ_self _)
        · split
          · exact continues_of_change h hls 0 fun t h1 h2 =>
              t.grows_addMember h1 h2 (Nat.lt_succ_self _)
          · exact continues_of_before h hls

/-- Every construct is followed by the lines behind it. -/
theorem readLine_continues (h : r.Before first) (hls : LinesIn last first (line :: rest)) :
    Continues last rest (readLine line rest r) := by
  have hline := hls
  obtain ⟨h1, h2, h3, h4⟩ := hline
  unfold readLine
  dsimp only
  split
  · exact continues_of_before h hls
  · split
    · exact continues_of_before (r := { r with namespaces := _ }) ⟨h.known, h.laid⟩ hls
    · split
      · exact continues_of_before (r := { r with namespaces := _ }) ⟨h.known, h.laid⟩ hls
      · split
        · -- The line opens a type.
          exact ⟨line.span.stop + 1, by omega, h.openType _ line h1 h2, h4⟩
        · split
          · -- The line closes the innermost open type.
            exact ⟨line.span.stop + 1, by omega, h.close (by omega), h4⟩
          · split
            · exact continues_of_before h hls
            · exact readMember_continues h hls _ _

/-- Read to the end, all that is read lies before the end. -/
theorem readLines_before (ls : List Line) :
    ∀ (skip first : Nat) (r : Reading), r.Before first → first ≤ last + 1 →
      LinesIn last first (ls.drop skip) → (readLines skip ls r).Before (last + 1) := by
  induction ls with
  | nil =>
    intro skip first r h hle _
    cases skip <;> exact h.mono hle
  | cons line rest ih =>
    intro skip first r h hle hls
    cases skip with
    | succ skip => exact ih skip first r h hle hls
    | zero =>
      obtain ⟨bound, hbound, hout, hrest⟩ := readLine_continues h hls
      exact ih _ bound _ hout hbound hrest

end Constructs

/-! ## Documents -/

/-- Closing all open types where the document ends leaves the types of that document. -/
theorem foldl_close_done {α : Type} (stop : Nat) (frames : List α) :
    ∀ r : Reading, r.opened.length = frames.length →
      (frames.foldl (fun r _ => r.close stop) r).done = r.typesAt stop := by
  -- The list only counts how often a type is closed; each time the innermost goes from the open to
  -- the done, which `typesAt` does not tell apart.
  induction frames with
  | nil =>
    rintro ⟨done, opened, namespaces⟩ h
    have hnil : opened = [] := List.eq_nil_of_length_eq_zero h
    subst hnil
    exact (List.append_nil done).symm
  | cons _ frames ih =>
    rintro ⟨done, opened, namespaces⟩ h
    cases opened with
    | nil => exact absurd h.symm (Nat.succ_ne_zero _)
    | cons frame rest =>
      have hlen : rest.length = frames.length := Nat.succ.inj h
      have hclose :=
        Reading.typesAt_close stop stop ⟨done, frame :: rest, namespaces⟩ frame rest rfl
      rw [List.foldl_cons, ih, hclose, ← Reading.typesAt_cons]
      cases rest <;> exact hlen

/-- The types of a document are those of the reading of its lines. -/
theorem types_outline (source : List Char) : (outline source).types =
    (readLines 0 (lines source) {}).typesAt (lastOffset (lines source)) :=
  foldl_close_done (lastOffset (lines source)) _ (readLines 0 (lines source) {}) rfl

/-- All that is read of a document lies before its end. -/
theorem before_lines (source : List Char) :
    (readLines 0 (lines source) {}).Before (lastOffset (lines source) + 1) :=
  readLines_before (lines source) 0 0 {}
    ⟨fun _ _ ht => absurd ht List.not_mem_nil,
      fun _ _ => ⟨fun _ ht => absurd ht List.not_mem_nil, List.Pairwise.nil⟩⟩
    (Nat.zero_le _) (linesIn_lines source)

/-- What is known of all types of a document: they are laid out, and there are no records. -/
theorem outline_laid (source : List Char) :
    Laid (outline source).types ∧ ∀ t ∈ (outline source).types, t.decl.kind ≠ .record := by
  have hread := before_lines source
  rw [types_outline]
  exact ⟨hread.laid _ (Nat.le_refl _), fun t ht => (hread.known _ t ht).kind_ne⟩

/-- Every caret is located by the span that decides about it. A caret in the span of a property
finds that property of the type that declares it; one in the span of another member finds nothing;
any other finds the innermost type around it if this is a class or a structure, and nothing if it
is neither or there is none. No caret is in the spans of two properties or other members, and any
two types share no caret or are one inside the other. -/
theorem locate_exact (source : List Char) :
    (∀ caret,
      (∀ t ∈ (outline source).types, ∀ p ∈ t.placed, p.span.contains caret = true →
        (outline source).locate caret = .property p t) ∧
      (∀ t ∈ (outline source).types, ∀ span ∈ t.memberSpans, span.contains caret = true →
        (outline source).locate caret = .nothing) ∧
      ((∀ t ∈ (outline source).types, ∀ span ∈ t.ownSpans, span.contains caret = false) →
        (∃ t : DeclaredType, t.IsInnermost (outline source) caret ∧
          (outline source).locate caret =
            if t.decl.kind = .class ∨ t.decl.kind = .struct then .type t else .nothing) ∨
        ((∀ t ∈ (outline source).types, t.span.contains caret = false) ∧
          (outline source).locate caret = .nothing))) ∧
    (∀ t ∈ (outline source).types, t.placed.map (·.toProperty) = t.decl.properties ∧
      t.placed.map (·.span) = t.propertySpans) ∧
    ((outline source).types.flatMap DeclaredType.ownSpans).Pairwise Span.Apart ∧
    (outline source).types.Pairwise fun a b =>
      a.span.Apart b.span ∨ a.span.Inside b.span ∨ b.span.Inside a.span := by
  obtain ⟨hlaid, hkind⟩ := outline_laid source
  refine ⟨fun caret => ⟨fun t ht p hp hc => hlaid.locate_property ht hp hc,
    fun t ht span hs hc => hlaid.locate_member ht hs hc, fun hout => ?_⟩, fun t ht => ?_,
    hlaid.ownSpans_apart, hlaid.spans_apart_or_inside⟩
  · by_cases hc : ∃ t ∈ (outline source).types, t.span.contains caret = true
    · obtain ⟨t, hin⟩ := hlaid.exists_innermost hc
      refine .inl ⟨t, hin, ?_⟩
      rw [Outline.locate_innermost hin (hout t hin.1)]
      -- Only classes and structures have members, since there are no records.
      have hmembers : t.decl.hasMembers = true ↔ t.decl.kind = .class ∨ t.decl.kind = .struct := by
        unfold TypeDecl.hasMembers
        simp only [Bool.or_eq_true, beq_iff_eq, hkind t hin.1, or_false]
      simp only [hmembers]
    · have hnone : ∀ t ∈ (outline source).types, t.span.contains caret = false := by
        intro t ht
        rw [Bool.eq_false_iff]
        exact fun hct => hc ⟨t, ht, hct⟩
      exact .inr ⟨hnone, Outline.locate_outside hnone⟩
  · exact ⟨DeclaredType.map_placed_property (hlaid.placed t ht).paired,
      DeclaredType.map_placed_span (hlaid.placed t ht).paired⟩

/-- A selection finds exactly the properties that its carets point at, each once and in the order of
the text. Each caret that finds a property points at it in one place. -/
theorem selection_exact (source : List Char) {first last : Nat} (hle : first ≤ last) :
    (∀ s, s ∈ (outline source).propertiesIn first last ↔
      ∃ caret, first ≤ caret ∧ caret ≤ last ∧ (outline source).PointsAt caret s) ∧
    (∀ caret p t, (outline source).locate caret = .property p t →
      (outline source).PointsAt caret ⟨p.span, p.toProperty, t.decl⟩ ∧
        ∀ s, (outline source).PointsAt caret s → s = ⟨p.span, p.toProperty, t.decl⟩) ∧
    ((outline source).propertiesIn first last).Pairwise fun a b => a.span.start < b.span.start := by
  obtain ⟨hlaid, -⟩ := outline_laid source
  refine ⟨fun s => hlaid.mem_propertiesIn_iff hle, fun caret p t hlocate => ?_,
    hlaid.propertiesIn_increasing first last⟩
  have hpoints := Outline.pointsAt_of_locate hlocate
  exact ⟨hpoints, fun s hs => Outline.pointsAt_unique hs hpoints⟩

/-! ## A class inside another -/

/-- A class that declares another between its properties. -/
def nestedClasses : List Char :=
  ("Class A\nProperty X As T\nClass B\nProperty Y As T\nEnd Class\n" ++
    "Property Z As T\nEnd Class").toList

/-- The outer class, with a property on either side of the inner one. -/
def outerClass : DeclaredType where
  decl :=
    { name := "A", kind := .class, ignoresCase := true
      properties := [{ name := "X", typeText := "T" }, { name := "Z", typeText := "T" }] }
  span := ⟨0, 83⟩
  propertySpans := [⟨8, 23⟩, ⟨58, 73⟩]

/-- The inner class. -/
def innerClass : DeclaredType where
  decl :=
    { name := "B", scope := some "A", kind := .class, ignoresCase := true
      properties := [{ name := "Y", typeText := "T" }] }
  span := ⟨24, 57⟩
  propertySpans := [⟨32, 47⟩]

/-- The text declares both classes. -/
theorem outline_nestedClasses : outline nestedClasses = ⟨[outerClass, innerClass]⟩ := by
  decide +kernel

/-- A selection that begins and ends in properties of the outer class finds them and, between them,
the property of the inner class, and each of the three is what a caret in the selection points
at. -/
theorem selection_exact_nested :
    20 ≤ 60 ∧
      ((outline nestedClasses).propertiesIn 20 60).map (·.property.name) = ["X", "Y", "Z"] ∧
      ∀ s ∈ (outline nestedClasses).propertiesIn 20 60,
        ∃ caret, 20 ≤ caret ∧ caret ≤ 60 ∧ (outline nestedClasses).PointsAt caret s := by
  have hexact := selection_exact nestedClasses (show 20 ≤ 60 by decide)
  refine ⟨by decide, ?_, fun s => (hexact.1 s).1⟩
  rw [outline_nestedClasses, Outline.propertiesIn_eq]
  simp [Outline.found, DeclaredType.placed, Span.meets, outerClass, innerClass, List.mergeSort]

end ViewForge.VisualBasic
