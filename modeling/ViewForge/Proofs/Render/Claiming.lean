import Mathlib.Data.Finset.Card
import Mathlib.Order.Bounds.Basic
import ViewForge.Proofs.Render.Names

/-!
# Claiming a name

A name is claimed by trying the base and then the base with one number after the other. The search
for a number has no bound of its own, but it ends: it has exactly one course, in which it tries the
numbers up to the least that makes a free name, and these are at most one more than the names that
are taken (`State.claim_least`).

`Search` is that search as it goes, try by try. Its course is known from the least number that makes
a free name (`search_iff`), and this is the number that the state finds (`freeSuffix_isLeast`).
-/

namespace ViewForge.Render

variable {claimed : List String} {base : String} {k n tries : Nat}

/-- The numbers from `k` on that make a free name. -/
def freeFrom (claimed : List String) (base : String) (k : Nat) : Set Nat :=
  {n | k ≤ n ∧ base ++ toString n ∉ claimed}

/-- The search for a number from `k` on, without bound: how many numbers it tries, and the one that
it ends at. -/
inductive Search (claimed : List String) (base : String) : Nat → Nat → Nat → Prop
  /-- The name is free, and the search ends. -/
  | free {k : Nat} (h : base ++ toString k ∉ claimed) : Search claimed base k 1 k
  /-- The name is taken, and the next number is tried. -/
  | taken {k tries n : Nat} (h : base ++ toString k ∈ claimed)
    (rest : Search claimed base (k + 1) tries n) : Search claimed base k (tries + 1) n

/-- A number that makes a free name is the least. -/
theorem isLeast_freeFrom_self (h : base ++ toString k ∉ claimed) :
    IsLeast (freeFrom claimed base k) k := ⟨⟨Nat.le_refl k, h⟩, fun _ hn => hn.1⟩

/-- If the name of a number is taken, the least one is among those behind it. -/
theorem isLeast_freeFrom_succ_iff (h : base ++ toString k ∈ claimed) :
    IsLeast (freeFrom claimed base (k + 1)) n ↔ IsLeast (freeFrom claimed base k) n := by
  have hsame : freeFrom claimed base (k + 1) = freeFrom claimed base k := by
    ext m
    refine ⟨fun hm => ⟨Nat.le_of_succ_le hm.1, hm.2⟩, fun hm => ⟨?_, hm.2⟩⟩
    refine Nat.lt_of_le_of_ne hm.1 ?_
    rintro rfl
    exact hm.2 h
  rw [hsame]

/-- The search ends at the least number that makes a free name, and only there, after it has tried
all numbers up to it. -/
theorem search_iff :
    Search claimed base k tries n ↔
      IsLeast (freeFrom claimed base k) n ∧ tries + k = n + 1 := by
  constructor
  · intro h
    induction h with
    | free hfree => exact ⟨isLeast_freeFrom_self hfree, Nat.add_comm _ _⟩
    | taken htaken _ ih =>
      obtain ⟨hleast, htries⟩ := ih
      exact ⟨(isLeast_freeFrom_succ_iff htaken).1 hleast, by omega⟩
  · rintro ⟨hleast, htries⟩
    -- By the distance from the number where the search begins to the one where it ends.
    induction hdistance : n - k generalizing k tries with
    | zero =>
      obtain rfl : k = n := Nat.le_antisymm hleast.1.1 (Nat.le_of_sub_eq_zero hdistance)
      obtain rfl : tries = 1 := by omega
      exact .free hleast.1.2
    | succ distance ih =>
      have htaken : base ++ toString k ∈ claimed := by
        by_contra hfree
        have := hleast.2 ⟨Nat.le_refl k, hfree⟩
        omega
      obtain ⟨tries, rfl⟩ : ∃ rest, tries = rest + 1 := ⟨tries - 1, by omega⟩
      refine .taken htaken (ih ((isLeast_freeFrom_succ_iff htaken).2 hleast) ?_ ?_) <;> omega

/-- The number that is found is the least that makes a free name, if there is one that may be
tried. -/
theorem freeSuffix_isLeast (fuel : Nat) :
    ∀ {k : Nat}, (∃ n ∈ freeFrom claimed base k, n ≤ k + fuel) →
      IsLeast (freeFrom claimed base k) (freeSuffix claimed base fuel k) := by
  induction fuel with
  | zero =>
    rintro k ⟨n, ⟨hfrom, hfree⟩, hto⟩
    obtain rfl : n = k := by omega
    exact isLeast_freeFrom_self hfree
  | succ fuel ih =>
    rintro k ⟨n, ⟨hfrom, hfree⟩, hto⟩
    rw [freeSuffix]
    by_cases htaken : base ++ toString k ∈ claimed
    · rw [if_pos (List.contains_iff_mem.2 htaken), ← isLeast_freeFrom_succ_iff htaken]
      have hne : n ≠ k := by
        rintro rfl
        exact hfree htaken
      exact ih ⟨n, ⟨by omega, hfree⟩, by omega⟩
    · rw [if_neg (mt List.contains_iff_mem.1 htaken)]
      exact isLeast_freeFrom_self htaken

/-- The least number that makes a free name is at most one more than the number of taken names. -/
theorem le_card_of_isLeast (h : IsLeast (freeFrom claimed base 1) n) :
    n ≤ claimed.toFinset.card + 1 := by
  obtain ⟨m, hfrom, hto, hfree⟩ := exists_free_number claimed.dedup base 1
  rw [List.mem_dedup] at hfree
  rw [List.card_toFinset]
  have := h.2 ⟨hfrom, hfree⟩
  omega

/-- A claimed name was free and is the only one that is taken in addition. It is the base if that
was free, and otherwise the base with the least number from one on that makes a free name. The
search for this number has one course, which ends there, and it tries at most one number more than
there were names. -/
theorem State.claim_least (s : State) (base : String) :
    (s.claim base).1 ∉ s.claimed ∧
      (s.claim base).2.claimed.toFinset = insert (s.claim base).1 s.claimed.toFinset ∧
      (base ∉ s.claimed → (s.claim base).1 = base) ∧
      (base ∈ s.claimed → ∃ n, IsLeast {n | 1 ≤ n ∧ base ++ toString n ∉ s.claimed} n ∧
        (s.claim base).1 = base ++ toString n ∧ n ≤ s.claimed.toFinset.card + 1 ∧
        ∀ tries m, Search s.claimed base 1 tries m ↔ tries = n ∧ m = n) := by
  refine ⟨s.claim_not_mem base, List.toFinset_cons, fun hfree => ?_, fun htaken => ?_⟩
  · exact if_neg (mt List.contains_iff_mem.1 hfree)
  -- Of one number more than there are names one makes a free name, and the search ends at the
  -- least.
  · obtain ⟨m, hfrom, hto, hfree⟩ := exists_free_number s.claimed base 1
    have hleast := freeSuffix_isLeast s.claimed.length ⟨m, ⟨hfrom, hfree⟩, hto⟩
    refine ⟨_, hleast, if_pos (List.contains_iff_mem.2 htaken), le_card_of_isLeast hleast, ?_⟩
    intro tries m
    rw [search_iff]
    constructor
    · rintro ⟨hm, htries⟩
      obtain rfl := hm.unique hleast
      exact ⟨by omega, rfl⟩
    · rintro ⟨rfl, rfl⟩
      exact ⟨hleast, rfl⟩

example : (({ claimed := ["A2", "A1", "A"] } : State).claim "A1").1 = "A11" := by decide +kernel

end ViewForge.Render
