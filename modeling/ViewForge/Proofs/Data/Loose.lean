import Mathlib.Data.List.Induction
import ViewForge.Data.Loose
import ViewForge.Proofs.Data.Toml.Scalar
import ViewForge.Proofs.Text.Character
import ViewForge.Proofs.Text.LetterCase

/-!
# Guessed values

A text from outside is taken for the value that it denotes, and spelled by that value where a text
is asked for. What spells it need not be the text itself: digits that denote an integer of 64 bits
are kept exactly if no zero leads them (`Loose.isKept_digits_iff`).
-/

namespace ViewForge.Data

/-! ## Digits -/

/-- A digit has a code of ASCII and is the character of its value. -/
theorem facts_of_isDigit {c : Char} (h : c.isDigit = true) :
    c.toNat < 0x80 ∧ c.toLower = c ∧ c.toNat - 48 < 10 ∧ Nat.digitChar (c.toNat - 48) = c := by
  have hcode : 48 ≤ c.toNat ∧ c.toNat ≤ 57 := Char.isDigit_iff_toNat.1 h
  exact Text.of_code_mem (p := fun c => c.toNat < 0x80 ∧ c.toLower = c ∧ c.toNat - 48 < 10 ∧
    Nat.digitChar (c.toNat - 48) = c) c hcode (by decide)

/-- Digits that no zero leads are those of the number that they denote. -/
theorem toDigits_digitsValue {ds : List Char} (hne : ds ≠ [])
    (hdigits : ∀ c ∈ ds, c.isDigit = true) (hzero : ds.head? ≠ some '0') :
    0 < Text.digitsValue ds ∧ Nat.toDigits 10 (Text.digitsValue ds) = ds := by
  induction ds using List.reverseRecOn with
  | nil => exact absurd rfl hne
  | append_singleton ds d ih =>
    rw [List.forall_mem_append] at hdigits
    obtain ⟨-, -, hvalue, hchar⟩ := facts_of_isDigit (hdigits.2 d List.mem_cons_self)
    have hlast : Text.digitsValue (ds ++ [d]) = 10 * Text.digitsValue ds + (d.toNat - 48) := by
      rw [Text.digitsValue, List.foldl_append]
      rfl
    rw [hlast]
    -- The digits before the last denote a number that is not zero, if there are any.
    by_cases hds : ds = []
    · subst hds
      have hpos : 0 < d.toNat - 48 := by
        refine Nat.pos_of_ne_zero fun hzeroValue => hzero ?_
        rw [← hchar, hzeroValue]
        rfl
      refine ⟨by omega, ?_⟩
      show Nat.toDigits 10 (10 * 0 + (d.toNat - 48)) = [d]
      rw [Nat.mul_zero, Nat.zero_add, Nat.toDigits_of_lt_base hvalue, hchar]
    · rw [List.head?_append_of_ne_nil _ hds] at hzero
      obtain ⟨hpos, hrest⟩ := ih hds hdigits.1 hzero
      refine ⟨by omega, ?_⟩
      rw [← Nat.toDigits_append_toDigits (by decide) hpos hvalue, hrest,
        Nat.toDigits_of_lt_base hvalue, hchar]

namespace Loose

/-- A text is spelled by what it is taken for. -/
theorem exists_text?_guess (s : String) : ∃ name, (guess s).text? = some name := by
  unfold guess
  dsimp only
  split
  · exact ⟨_, rfl⟩
  split
  · exact ⟨_, rfl⟩
  split
  · exact ⟨_, rfl⟩
  split <;> exact ⟨_, rfl⟩

/-- No word that begins with another character is a text that begins with a digit, in any case. -/
theorem lowercase_bne_of_isDigit {d c : Char} {ds word : List Char} (hd : d.isDigit = true)
    (hc : c.isDigit = false) :
    (Text.lowercase (String.ofList (d :: ds)) == String.ofList (c :: word)) = false := by
  obtain ⟨hcode, hlower, -⟩ := facts_of_isDigit hd
  rw [beq_eq_false_iff_ne, Text.lowercase, Text.lower, String.toList_ofList,
    Text.lowerAfter_ascii hcode, hlower]
  intro h
  exact Toml.ne_of_isDigit hd hc (List.cons.inj (String.ofList_injective h)).1

/-- Digits are taken for the number that they denote, if it has 64 bits. -/
theorem guess_digits {ds : List Char} (hne : ds ≠ []) (hdigits : ∀ c ∈ ds, c.isDigit = true)
    (hsmall : Text.isInt64 (Text.digitsValue ds) = true) :
    guess (String.ofList ds) = .integer (Text.digitsValue ds) := by
  obtain ⟨d, rest, rfl⟩ := List.exists_cons_of_ne_nil hne
  have hd := hdigits d List.mem_cons_self
  have hinteger : Text.integer? (d :: rest) = some (Text.digitsValue (d :: rest) : Int) := by
    have hall : (d :: rest).all Char.isDigit = true := List.all_eq_true.2 hdigits
    have hsigned : d ≠ '+' ∧ d ≠ '-' :=
      ⟨Toml.ne_of_isDigit hd rfl, Toml.ne_of_isDigit hd rfl⟩
    unfold Text.integer?
    split
    · rename_i heq
      exact absurd (List.cons.inj heq).1 hsigned.1
    · rename_i heq
      exact absurd (List.cons.inj heq).1 hsigned.2
    · rw [Text.digits?, hall]
      rfl
  -- The readings that are tried before integers ask for words, and no word begins with a digit.
  have htrue : (Text.lowercase (String.ofList (d :: rest)) == "true") = false :=
    lowercase_bne_of_isDigit hd rfl
  have hfalse : (Text.lowercase (String.ofList (d :: rest)) == "false") = false :=
    lowercase_bne_of_isDigit hd rfl
  unfold guess
  dsimp only
  rw [htrue, hfalse, String.toList_ofList, hinteger, Option.filter_some, if_pos hsmall]
  rfl

/-- Whether a text is spelled by what it is taken for as it stands. -/
def IsKept (s : String) : Prop := (guess s).text? = some s

/-- Digits that denote an integer of 64 bits are kept exactly if no zero leads them. -/
theorem isKept_digits_iff {s : String} (hne : s.toList ≠ [])
    (hdigits : ∀ c ∈ s.toList, c.isDigit = true)
    (hsmall : Text.isInt64 (Text.digitsValue s.toList) = true) :
    IsKept s ↔ s = "0" ∨ s.toList.head? ≠ some '0' := by
  have hspelled : IsKept s ↔ Nat.toDigits 10 (Text.digitsValue s.toList) = s.toList := by
    have hguess := guess_digits hne hdigits hsmall
    rw [String.ofList_toList] at hguess
    calc IsKept s ↔ some (toString (Text.digitsValue s.toList)) = some s := by
          rw [IsKept, hguess]
          rfl
      _ ↔ Nat.toDigits 10 (Text.digitsValue s.toList) = s.toList := by
          rw [Option.some_inj, ← String.toList_inj, Nat.toString_eq_ofList_toDigits,
            String.toList_ofList]
  have hzero : s = "0" ↔ s.toList = ['0'] := String.toList_inj.symm
  rw [hspelled, hzero]
  -- The shortest decimals have no leading zero but in `0` itself, and digits without one are the
  -- shortest.
  constructor
  · intro h
    rcases Toml.toDigits_cases (Text.digitsValue s.toList) with hzero | ⟨d, rest, heq, hd, -⟩
    · exact .inl (h.symm.trans hzero)
    · refine .inr ?_
      rw [← h, heq]
      exact fun hhead => hd (Option.some.inj hhead)
  · rintro (hzero | hzero)
    · rw [hzero]
      rfl
    · exact (toDigits_digitsValue hne hdigits hzero).2

end Loose

end ViewForge.Data
