import Mathlib.Data.List.Basic
import Mathlib.Data.List.Infix
import ViewForge.Proofs.Render.Rows
import ViewForge.Proofs.Render.Run

/-!
# The counter of a call

The values that the counter gives in one call of generation stand in the text from left to right as
0, 1, 2, …, and a grid has one row for each of them (`counter_law`).

`Numbered` follows the counter through a list of leaves. Every run of the rendering leads from one
state to another by leaves through which the counter passes from the number of values given before
to the number given after (`GroupRun.leads`): what is rendered is never dropped, and the state is
passed on in the order of the text.
-/

namespace ViewForge.Render

/-! ## Numbered leaves -/

/-- The value of the counter that a leaf holds. -/
def Piece.count? : Piece → Option Nat
  | .counted n => some n
  | _ => none

/-- Whether a leaf has nothing to do with the counter. -/
def Piece.isPlain : Piece → Bool
  | .counted _ => false
  | .repeated _ => false
  | _ => true

/-- The values of the counter among leaves, from left to right. -/
def counts (leaves : List Piece) : List Nat := leaves.filterMap Piece.count?

/-- Leaves through which the counter passes: `n` values were given before them, and `m` when they
end. -/
inductive Numbered : Nat → List Piece → Nat → Prop
  | nil (n : Nat) : Numbered n [] n
  | counted {n m : Nat} {leaves : List Piece} (h : Numbered (n + 1) leaves m) :
    Numbered n (.counted n :: leaves) m
  | repeated {n m : Nat} {leaves : List Piece} (h : Numbered n leaves m) :
    Numbered n (.repeated (n - 1) :: leaves) m
  | plain {n m : Nat} {leaf : Piece} {leaves : List Piece} (hleaf : leaf.isPlain = true)
    (h : Numbered n leaves m) : Numbered n (leaf :: leaves) m

namespace Numbered

/-- The counter passes through leaves that follow others. -/
theorem append {n m k : Nat} {a b : List Piece} (ha : Numbered n a m) (hb : Numbered m b k) :
    Numbered n (a ++ b) k := by
  induction ha with
  | nil => exact hb
  | counted _ ih => exact .counted (ih hb)
  | repeated _ ih => exact .repeated (ih hb)
  | plain hleaf _ ih => exact .plain hleaf (ih hb)

/-- Leaves through which the counter passes can be parted anywhere. -/
theorem exists_of_append {k : Nat} {a b : List Piece} :
    ∀ {n : Nat}, Numbered n (a ++ b) k → ∃ m, Numbered n a m ∧ Numbered m b k := by
  induction a with
  | nil =>
    intro n h
    exact ⟨n, .nil n, h⟩
  | cons leaf a ih =>
    intro n h
    rw [List.cons_append] at h
    cases h with
    | counted h =>
      obtain ⟨m, ha, hb⟩ := ih h
      exact ⟨m, .counted ha, hb⟩
    | repeated h =>
      obtain ⟨m, ha, hb⟩ := ih h
      exact ⟨m, .repeated ha, hb⟩
    | plain hleaf h =>
      obtain ⟨m, ha, hb⟩ := ih h
      exact ⟨m, .plain hleaf ha, hb⟩

/-- The values of the counter are those from the number given before up to the number given
after. -/
theorem counts_eq {n m : Nat} {leaves : List Piece} (h : Numbered n leaves m) :
    n ≤ m ∧ counts leaves = List.range' n (m - n) := by
  unfold counts
  -- Only a counted leaf adds a number, the one that the counter stands at; then the numbers begin
  -- one further on.
  induction h with
  | nil n => exact ⟨Nat.le_refl n, by rw [Nat.sub_self]; rfl⟩
  | @counted n m leaves _ ih =>
    obtain ⟨hle, ih⟩ := ih
    have hlen : m - n = (m - (n + 1)) + 1 := by omega
    have hsome : (Piece.counted n).count? = some n := rfl
    refine ⟨by omega, ?_⟩
    rw [List.filterMap_cons_some hsome, ih, hlen, List.range'_succ]
  | @repeated n m leaves _ ih =>
    have hnone : (Piece.repeated (n - 1)).count? = none := rfl
    exact ⟨ih.1, by rw [List.filterMap_cons_none hnone, ih.2]⟩
  | @plain n m leaf leaves hleaf _ ih =>
    have hnone : leaf.count? = none := by
      cases leaf with
      | counted => exact Bool.noConfusion hleaf
      | _ => rfl
    exact ⟨ih.1, by rw [List.filterMap_cons_none hnone, ih.2]⟩

/-- A repeated value is the one that was given last, zero if none was. -/
theorem repeated_eq {m k : Nat} {before after : List Piece}
    (h : Numbered 0 (before ++ .repeated k :: after) m) :
    k = (counts before).getLast?.getD 0 := by
  obtain ⟨n, hbefore, hrest⟩ := h.exists_of_append
  -- So many values were given before the leaf as the counter says there.
  rw [hbefore.counts_eq.2, Nat.sub_zero]
  cases hrest with
  | repeated _ =>
    rw [List.getLast?_range']
    split_ifs with hn
    · rw [hn]; rfl
    · rw [Option.getD_some]; omega
  | plain hleaf _ => exact Bool.noConfusion hleaf

/-- The line feeds between renderings change nothing. -/
theorem joined {renderings : List Rendering} :
    ∀ {n m : Nat}, Numbered n (renderings.flatMap renderingLeaves) m →
      Numbered n (joinedLeaves renderings) m := by
  unfold joinedLeaves
  induction renderings with
  | nil => exact fun h => h
  | cons rendering rest ih =>
    intro n m h
    rw [List.flatMap_cons] at h
    obtain ⟨k, hfirst, hrest⟩ := h.exists_of_append
    have hrest' := ih hrest
    rw [groupLeaves]
    cases rest with
    | nil =>
      rw [groupLeaves, List.intercalate_singleton]
      cases hrest
      exact hfirst
    | cons second rest =>
      rw [groupLeaves] at hrest' ⊢
      -- The line feed between the first rendering and the others is a plain leaf.
      rw [List.intercalate_cons_cons, List.append_assoc, List.singleton_append]
      exact hfirst.append (.plain rfl hrest')

end Numbered

/-! ## States -/

/-- Two states agree on the counter. -/
def State.SameCount (s t : State) : Prop := s.next = t.next ∧ s.last = t.last

/-- The value given last is the one before the next. -/
def State.Settled (s : State) : Prop := s.repeated = s.next - 1

/-- A state that agrees with a settled one on the counter is settled. -/
theorem State.SameCount.settled {s t : State} (h : s.SameCount t) (hs : s.Settled) : t.Settled := by
  unfold Settled State.repeated at hs ⊢
  rwa [← h.1, ← h.2]

/-- Leaves lead from one state to another: the counter passes through them, and the state after them
is settled if the one before is. -/
def Leads (s : State) (leaves : List Piece) (t : State) : Prop :=
  s.Settled → t.Settled ∧ Numbered s.next leaves t.next

namespace Leads

/-- No leaves lead to a state that agrees on the counter. -/
theorem nil {s t : State} (h : s.SameCount t) : Leads s [] t := fun hs =>
  ⟨h.settled hs, h.1 ▸ .nil s.next⟩

/-- A leaf that has nothing to do with the counter leads to a state that agrees on it. -/
theorem plain {s t : State} {leaf : Piece} (hleaf : leaf.isPlain = true) (h : s.SameCount t) :
    Leads s [leaf] t := fun hs => ⟨h.settled hs, .plain hleaf (h.1 ▸ .nil s.next)⟩

/-- Leaves that follow others lead on from where those lead. -/
theorem append {s t u : State} {a b : List Piece} (ha : Leads s a t) (hb : Leads t b u) :
    Leads s (a ++ b) u := fun hs =>
  have ⟨ht, hna⟩ := ha hs
  have ⟨hu, hnb⟩ := hb ht
  ⟨hu, hna.append hnb⟩

/-- What leads from one state to another leads from and to those that agree with them on the
counter. -/
theorem congr {s s' t t' : State} {leaves : List Piece} (h : Leads s leaves t)
    (hs : s'.SameCount s) (ht : t.SameCount t') : Leads s' leaves t' := by
  have := (nil hs).append (h.append (nil ht))
  rwa [List.nil_append, List.append_nil] at this

/-- A new value of the counter leads to the state after it. -/
theorem count (s : State) : Leads s [.counted s.count.1] s.count.2 := fun _ =>
  ⟨rfl, .counted (.nil _)⟩

/-- The last value of the counter leads nowhere else. -/
theorem repeated (s : State) : Leads s [.repeated s.repeated] s := by
  intro hs
  have hval : s.repeated = s.next - 1 := hs
  rw [hval]
  exact ⟨hs, .repeated (.nil _)⟩

end Leads

/-! ## Renderings -/

/-- The leaves of a group of renderings lead where they lead, through the line feeds between
them. -/
theorem Leads.group {s t : State} {renderings : List Rendering}
    (h : Leads s (renderings.flatMap renderingLeaves) t) :
    Leads s (Piece.group renderings).leaves t := by
  intro hs
  obtain ⟨ht, hn⟩ := h hs
  rw [Piece.leaves]
  exact ⟨ht, hn.joined⟩

mutual

/-- The leaves of a template lead to the state after it. -/
theorem PartsRun.leads {profile : Profile} {parts : List Template.Part} {p q : Progress}
    {pieces : List Piece} :
    PartsRun profile parts p pieces q → Leads p.state (renderingLeaves pieces) q.state
  | .nil _ => .nil ⟨rfl, rfl⟩
  | .text h => (Leads.plain rfl ⟨rfl, rfl⟩).append h.leads
  | .value _ h => (Leads.plain rfl ⟨rfl, rfl⟩).append h.leads
  | .counter h => (Leads.count _).append h.leads
  | .lastCounter h => (Leads.repeated _).append h.leads
  | .firstName _ h => (Leads.plain rfl ⟨rfl, rfl⟩).append h.leads
  | .sameName _ h => (Leads.plain rfl ⟨rfl, rfl⟩).append h.leads
  | .previousName h => (Leads.plain rfl ⟨rfl, rfl⟩).append h.leads
  | .nested _ hnested h => hnested.leads.group.append h.leads

/-- The leaves of the renderings of a group lead to the state after them. -/
theorem GroupRun.leads {profile : Profile} {s t : State} {renderings : List Rendering} :
    GroupRun profile s renderings t → Leads s (renderings.flatMap renderingLeaves) t
  | .nil _ => .nil ⟨rfl, rfl⟩
  | .cons _ h hrest => by
    rw [List.flatMap_cons]
    -- The name of the rendering becomes the previous one, which the counter does not see.
    exact (h.leads.congr ⟨rfl, rfl⟩ ⟨rfl, rfl⟩).append hrest.leads

/-- The leaves of the renderings of a nested expansion lead to the state after it. -/
theorem NestedRun.leads {profile : Profile} {s t : State} {renderings : List Rendering} :
    NestedRun profile s renderings t → Leads s (renderings.flatMap renderingLeaves) t
  | .nothing _ => .nil ⟨rfl, rfl⟩
  | .group h => h.leads.congr ⟨rfl, rfl⟩ ⟨rfl, rfl⟩
  | .inside henter h => by
    have hinside := h.leads
    obtain ⟨-, -, rfl⟩ := State.enter?_eq_some_iff.1 henter
    exact hinside.congr ⟨rfl, rfl⟩ ⟨rfl, rfl⟩

end

variable (c : Setting)

/-! ## The law -/

/-- The leaves of a call, from left to right. -/
def Call.leaves (call : Call) : List Piece := joinedLeaves (call.render c).1

/-- The counter passes through the leaves of a call from none of its values to all of them. -/
theorem Call.numbered_leaves (call : Call) : Numbered 0 (call.leaves c) (call.rows c) :=
  have hfresh : State.Settled {} := rfl
  ((call.render_run c).leads hfresh).2.joined

/-- The output of a call is the text of its leaves in its frame, and the leaves come from templates
of the profile. From left to right the values of the counter are 0, 1, 2, …, as many as the call
counts rows; a repeated value is the one nearest to its left, zero if there is none; and under a
word for a grid the head of the frame defines as many rows. -/
theorem counter_law (indent : Nat) (call : Call) :
    call.output c indent =
        (if (call.render c).1.isEmpty then call.emptyOutput c indent
          else call.frame c indent (leafLetters (call.leaves c))) ∧
      GroupFills c.profile (call.render c).1 ∧
      counts (call.leaves c) = List.range (call.rows c) ∧
      (∀ before k after, call.leaves c = before ++ .repeated k :: after →
        k = (counts before).getLast?.getD 0) ∧
      (IsGrid c.profile.grouping → ∃ head, occurrences rowTag head = call.rows c ∧
        (∀ n ∈ counts (call.leaves c), n < occurrences rowTag head) ∧
        ∀ body, wrap c.profile.grouping (call.rows c) body =
          head ++ body ++ "\n</Grid>".toList) := by
  have hnumbered := call.numbered_leaves c
  have hcounts : counts (call.leaves c) = List.range (call.rows c) := by
    rw [hnumbered.counts_eq.2, Nat.sub_zero, List.range_eq_range']
  refine ⟨?_, (call.render_run c).fills, hcounts, ?_, ?_⟩
  · unfold Call.leaves
    rw [letters_joinedLeaves, Call.output_eq]
  · intro before k after heq
    rw [heq] at hnumbered
    exact hnumbered.repeated_eq
  · intro hgrid
    obtain ⟨head, hrows, hwrap⟩ := wrap_of_isGrid hgrid (call.rows c)
    refine ⟨head, hrows, ?_, hwrap⟩
    -- The head defines a row for each value given, so the values are below the number of its rows.
    intro n hn
    rw [hcounts] at hn
    rw [hrows]
    exact List.mem_range.1 hn

end ViewForge.Render
