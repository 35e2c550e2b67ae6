import Mathlib.Data.List.Basic
import ViewForge.Data.Toml.Scalar

/-!
# Numbers of TOML, written and read

A natural number of at most 63 bits comes back from its decimal digits at the end of a line
(`readNumber?_toDigits`). Nothing else is read there: digits that end with the line are no date and
no time (`readMoment?_digits`).
-/

namespace ViewForge.Data.Toml

/-! ## Decimal digits -/

theorem digitsValue_toDigits (n : Nat) : Text.digitsValue (Nat.toDigits 10 n) = n :=
  Nat.ofDigitChars_ten_toDigits

theorem isDigit_of_mem_toDigits {n : Nat} {c : Char} (h : c ∈ Nat.toDigits 10 n) :
    c.isDigit = true :=
  Nat.isDigit_of_mem_toDigits (by decide) (by decide) h

/-- A digit of a positive number that stands alone is not zero. -/
theorem digitChar_ne_zero : ∀ n < 10, 0 < n → Nat.digitChar n ≠ '0' := by decide

/-- No positive number begins with a zero. -/
theorem head?_toDigits_ne_zero {n : Nat} (h : 0 < n) : (Nat.toDigits 10 n).head? ≠ some '0' := by
  induction n using Nat.strongRecOn with
  | _ n ih =>
    by_cases hlt : n < 10
    · rw [Nat.toDigits_of_lt_base hlt, List.head?_cons]
      exact fun heq => digitChar_ne_zero n hlt h (Option.some.inj heq)
    · rw [Nat.toDigits_of_base_le (by decide) (Nat.le_of_not_lt hlt),
        List.head?_append_of_ne_nil _ Nat.toDigits_ne_nil]
      exact ih (n / 10) (by omega) (by omega)

/-- A number is written as a zero, or as digits that begin with no zero. -/
theorem toDigits_cases (n : Nat) :
    Nat.toDigits 10 n = ['0'] ∨
      ∃ d ds, Nat.toDigits 10 n = d :: ds ∧ d ≠ '0' ∧ ∀ c ∈ d :: ds, c.isDigit = true := by
  rcases Nat.eq_zero_or_pos n with rfl | hpos
  · exact .inl (Nat.toDigits_zero 10)
  · obtain ⟨d, ds, heq⟩ := List.exists_cons_of_ne_nil (Nat.toDigits_ne_nil (n := n) (b := 10))
    refine .inr ⟨d, ds, heq, fun hd => ?_, fun c hc => isDigit_of_mem_toDigits (heq ▸ hc)⟩
    have hhead := head?_toDigits_ne_zero hpos
    rw [heq, List.head?_cons, hd] at hhead
    exact hhead rfl

/-- A digit is no other character. -/
theorem ne_of_isDigit {d x : Char} (hd : d.isDigit = true) (hx : x.isDigit = false) : d ≠ x := by
  intro heq
  rw [← heq, hd] at hx
  exact Bool.noConfusion hx

/-! ## Times -/

section Times

variable {ds rest : List Char}

/-- Digits of a fixed number leave digits up to the end of the line. -/
theorem readFixed?_digits {count n : Nat} {cs : List Char} (hds : ∀ c ∈ ds, c.isDigit = true)
    (h : readFixed? count (ds ++ '\n' :: rest) = some (n, cs)) :
    ∃ ds', (∀ c ∈ ds', c.isDigit = true) ∧ cs = ds' ++ '\n' :: rest := by
  unfold readFixed? at h
  dsimp only at h
  split at h
  · rename_i hdigits
    rw [Bool.and_eq_true, List.all_eq_true] at hdigits
    obtain ⟨-, rfl⟩ := Prod.mk.inj (Option.some.inj h)
    -- The line break is no digit, so it is not among those that were read.
    have hle : count ≤ ds.length := by
      refine Nat.le_of_not_lt fun hgt => ?_
      have hmem : '\n' ∈ (ds ++ '\n' :: rest).take count := by
        rw [List.take_append, List.mem_append]
        obtain ⟨k, hk⟩ : ∃ k, count - ds.length = k + 1 := ⟨count - ds.length - 1, by omega⟩
        rw [hk, List.take_succ_cons]
        exact .inr List.mem_cons_self
      exact absurd (hdigits.2 _ hmem) (by decide)
    exact ⟨ds.drop count, fun c hc => hds c (List.mem_of_mem_drop hc),
      List.drop_append_of_le_length hle⟩
  · exact nomatch h

/-- Nothing but a digit stands before the end of the line. -/
theorem after?_digits {x : Char} (hx : x.isDigit = false) (hbreak : x ≠ '\n')
    (hds : ∀ c ∈ ds, c.isDigit = true) : after? x (ds ++ '\n' :: rest) = none := by
  cases ds with
  | nil => exact if_neg fun heq => hbreak heq.symm
  | cons d ds => exact if_neg (ne_of_isDigit (hds d List.mem_cons_self) hx)

/-- Digits that end with the line are no date and no time. -/
theorem readMoment?_digits (hds : ∀ c ∈ ds, c.isDigit = true) :
    readMoment? (ds ++ '\n' :: rest) = none := by
  -- Behind the digits of a year or an hour stands a digit or the line's end, but no sign of a date
  -- or a time.
  have hdate : readDate? (ds ++ '\n' :: rest) = none := by
    unfold readDate?
    cases hyear : readFixed? 4 (ds ++ '\n' :: rest) with
    | none => rfl
    | some p =>
      obtain ⟨ds', hds', hcs⟩ := readFixed?_digits hds hyear
      have hafter : after? '-' p.2 = none := hcs ▸ after?_digits rfl (by decide) hds'
      simp only [Option.bind_eq_bind, Option.bind_some, hafter, Option.bind_none]
  have htime : readTime? (ds ++ '\n' :: rest) = none := by
    unfold readTime?
    cases hhour : readFixed? 2 (ds ++ '\n' :: rest) with
    | none => rfl
    | some p =>
      obtain ⟨ds', hds', hcs⟩ := readFixed?_digits hds hhour
      have hafter : after? ':' p.2 = none := hcs ▸ after?_digits rfl (by decide) hds'
      simp only [Option.bind_eq_bind, Option.bind_some, hafter, Option.bind_none]
  unfold readMoment?
  rw [hdate, htime]

end Times

/-! ## Numbers -/

/-- A run of digits without underscores is read up to its end. -/
theorem readDigits_append {p : Char → Bool} {ds rest : List Char} (hds : ∀ c ∈ ds, p c = true)
    (hscore : p '_' = false) (hrest : ∀ c ∈ rest.head?, p c = false ∧ c ≠ '_') :
    readDigits p (ds ++ rest) = (ds, rest) := by
  induction ds with
  | nil =>
    cases rest with
    | nil => rfl
    | cons c rest =>
      obtain ⟨hc, hne⟩ := hrest c rfl
      rw [List.nil_append, readDigits, if_neg (by rw [hc]; exact Bool.false_ne_true)]
      exact fun _ _ heq => absurd heq hne
  | cons d ds ih =>
    obtain ⟨hd, hds⟩ := List.forall_mem_cons.1 hds
    have hne : d ≠ '_' := fun heq => by rw [heq, hscore] at hd; exact Bool.noConfusion hd
    rw [List.cons_append, readDigits, if_pos hd, ih hds]
    exact fun _ _ heq => absurd heq hne

/-- The digits of a number are read as its whole part. -/
theorem readWhole?_toDigits (n : Nat) (rest : List Char) :
    readWhole? (Nat.toDigits 10 n ++ '\n' :: rest) = some (Nat.toDigits 10 n, '\n' :: rest) := by
  rcases toDigits_cases n with heq | ⟨d, ds, heq, hne, hds⟩
  · rw [heq]
    rfl
  · have hrun : readDigits Char.isDigit ((d :: ds) ++ '\n' :: rest) = (d :: ds, '\n' :: rest) :=
      readDigits_append hds (by decide) fun c hc => Option.some.inj hc ▸ by decide
    rw [heq, List.cons_append]
    unfold readWhole?
    split
    · rename_i h
      exact absurd (List.cons.inj h).1 hne
    · unfold readDigits?
      dsimp only
      rw [if_pos (hds d List.mem_cons_self), ← List.cons_append, hrun]

/-- A number of at most 63 bits is read from its digits. -/
theorem readNumber?_toDigits {n : Nat} (h : Text.isInt64 n = true) (rest : List Char) :
    readNumber? (Nat.toDigits 10 n ++ '\n' :: rest) = some (.integer n, '\n' :: rest) := by
  have hdecimal : readDecimal? false (Nat.toDigits 10 n ++ '\n' :: rest) =
      some (.integer n, '\n' :: rest) := by
    have hvalue : readDecimal?.integer false (Nat.toDigits 10 n) ('\n' :: rest) =
        some (.integer n, '\n' :: rest) := by
      unfold readDecimal?.integer
      rw [digitsValue_toDigits]
      exact if_pos h
    unfold readDecimal?
    rw [readWhole?_toDigits, Option.bind_eq_bind, Option.bind_some]
    dsimp only
    rw [if_neg (by decide)]
    exact hvalue
  rw [← hdecimal]
  -- Zero is read as it stands. Other digits begin with none of the zeros, signs and letters that
  -- are tried before.
  rcases toDigits_cases n with heq | ⟨d, ds, heq, hne, hds⟩
  · rw [heq]
    rfl
  · have hother (x : Char) (hx : x.isDigit = false) : d ≠ x :=
      ne_of_isDigit (hds d List.mem_cons_self) hx
    rw [heq, List.cons_append]
    have hsigned : readSigned? false (d :: (ds ++ '\n' :: rest)) =
        readDecimal? false (d :: (ds ++ '\n' :: rest)) := by
      unfold readSigned?
      split
      · rename_i h
        exact absurd (List.cons.inj h).1 (hother 'i' rfl)
      · rename_i h
        exact absurd (List.cons.inj h).1 (hother 'n' rfl)
      · rfl
    rw [← hsigned]
    unfold readNumber?
    split
    · rename_i h
      exact absurd (List.cons.inj h).1 hne
    · rename_i h
      exact absurd (List.cons.inj h).1 hne
    · rename_i h
      exact absurd (List.cons.inj h).1 hne
    · rename_i h
      exact absurd (List.cons.inj h).1 (hother '+' rfl)
    · rename_i h
      exact absurd (List.cons.inj h).1 (hother '-' rfl)
    · rfl

end ViewForge.Data.Toml
