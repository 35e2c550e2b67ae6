import ViewForge.Proofs.Text.Character
import ViewForge.Text.LetterCase
import ViewForge.Text.Match

/-!
# Texts that differ in the case of letters of ASCII

Two texts that are the same up to the case of letters of ASCII have the same lower-case form
(`lower_eq_of_sameIgnoringCase`), although that form is defined for all letters and depends, for a
capital sigma, on what stands around it: whether a character has case or interrupts a word is the
same for a letter of ASCII in either case. The converse holds for texts with the same characters
beyond ASCII in the same places, and for no others (`sameIgnoringCase_iff_lower_eq`).
-/

namespace ViewForge.Text

/-- Characters with the same small letter are the same or letters of ASCII. -/
theorem eq_or_isAlpha_of_toLower_eq {a b : Char} (h : a.toLower = b.toLower) :
    a = b ∨ a.isAlpha = true ∧ b.isAlpha = true := by
  have hkept {c : Char} (hc : c.isAlpha = false) : c.toLower = c := by
    refine dif_neg fun hupper => ?_
    have hcode : 65 ≤ c.toNat ∧ c.toNat ≤ 90 := hupper
    have hletter : c.isAlpha = true :=
      of_code_mem (p := fun c => c.isAlpha = true) c hcode (by decide)
    rw [hc] at hletter
    exact Bool.noConfusion hletter
  cases ha : a.isAlpha with
  | false => exact .inl (eq_of_toLower ha (h.symm.trans (hkept ha))).symm
  | true =>
    cases hb : b.isAlpha with
    | false => exact .inl (eq_of_toLower hb (h.trans (hkept hb)))
    | true => exact .inr ⟨rfl, rfl⟩

/-- The letters of ASCII stand between a capital A and a small z. -/
theorem toNat_of_isAlpha {c : Char} (h : c.isAlpha = true) : 65 ≤ c.toNat ∧ c.toNat ≤ 122 := by
  rcases Bool.or_eq_true_iff.1 h with hupper | hlower
  · have hrange : 65 ≤ c.toNat ∧ c.toNat ≤ 90 := of_decide_eq_true hupper
    omega
  · obtain ⟨hfirst, hlast⟩ := Bool.and_eq_true_iff.1 hlower
    have hfirst : 97 ≤ c.toNat := of_decide_eq_true hfirst
    have hlast : c.toNat ≤ 122 := of_decide_eq_true hlast
    omega

/-- A letter of ASCII has case, does not stand aside in a word, and has one small letter. -/
theorem facts_of_isAlpha {c : Char} (h : c.isAlpha = true) :
    isCased c = true ∧ isCaseIgnorable c = false ∧ c ≠ '\u03a3' ∧ lowerChar c = [c.toLower] := by
  have hcode := toNat_of_isAlpha h
  refine ⟨?_, ?_, ?_, ?_⟩
  · rw [isCased, h, Bool.true_or]
  · exact of_code_mem (p := fun c => c.isAlpha = true → isCaseIgnorable c = false) c hcode
      (by decide +kernel) h
  · rintro rfl
    exact absurd h (by decide)
  · exact if_pos (by omega)

variable {as bs : List Char}

/-- Whether a text meets a character that has case does not depend on the case of its letters. -/
theorem meetsCased_congr (h : sameIgnoringCase as bs = true) : meetsCased as = meetsCased bs := by
  induction as generalizing bs with
  | nil =>
    cases bs with
    | nil => rfl
    | cons => exact Bool.noConfusion h
  | cons a as ih =>
    cases bs with
    | nil => exact Bool.noConfusion h
    | cons b bs =>
      obtain ⟨hfirst, hrest⟩ := Bool.and_eq_true_iff.1 h
      unfold meetsCased
      -- Two characters that are the same in lower case are one or both letters of ASCII, which have
      -- case.
      rcases eq_or_isAlpha_of_toLower_eq (beq_iff_eq.1 hfirst) with rfl | ⟨ha, hb⟩
      · cases haside : isCaseIgnorable a with
        | true =>
          rw [List.dropWhile_cons_of_pos haside, List.dropWhile_cons_of_pos haside]
          exact ih hrest
        | false =>
          have haside' : ¬ isCaseIgnorable a = true := by rw [haside]; exact Bool.false_ne_true
          rw [List.dropWhile_cons_of_neg haside', List.dropWhile_cons_of_neg haside']
      · obtain ⟨hcased, haside, -⟩ := facts_of_isAlpha ha
        obtain ⟨hcased', haside', -⟩ := facts_of_isAlpha hb
        rw [List.dropWhile_cons, haside, List.dropWhile_cons, haside']
        exact hcased.trans hcased'.symm

/-- The lower-case form of a text does not depend on the case of its letters, nor on the case of
those before it. -/
theorem lowerAfter_congr {before before' : List Char}
    (hbefore : sameIgnoringCase before before' = true) (h : sameIgnoringCase as bs = true) :
    lowerAfter before as = lowerAfter before' bs := by
  induction as generalizing bs before before' with
  | nil =>
    cases bs with
    | nil => rfl
    | cons => exact Bool.noConfusion h
  | cons a as ih =>
    cases bs with
    | nil => exact Bool.noConfusion h
    | cons b bs =>
      obtain ⟨hfirst, hrest⟩ := Bool.and_eq_true_iff.1 h
      have hnext : sameIgnoringCase (a :: before) (b :: before') = true :=
        Bool.and_eq_true_iff.2 ⟨hfirst, hbefore⟩
      have hlower := beq_iff_eq.1 hfirst
      rw [lowerAfter, lowerAfter, ih hnext hrest]
      -- Only a sigma looks at what stands around it, and there only at what does not depend on
      -- case.
      rcases eq_or_isAlpha_of_toLower_eq hlower with rfl | ⟨ha, hb⟩
      · rw [meetsCased_congr hbefore, meetsCased_congr hrest]
      · obtain ⟨-, -, ha, hchar⟩ := facts_of_isAlpha ha
        obtain ⟨-, -, hb, hchar'⟩ := facts_of_isAlpha hb
        rw [if_neg ha, if_neg hb, hchar, hchar', hlower]

/-- Texts that are the same up to the case of letters of ASCII have the same lower-case form. -/
theorem lower_eq_of_sameIgnoringCase (h : sameIgnoringCase as bs = true) : lower as = lower bs := by
  have hbefore : sameIgnoringCase [] [] = true := rfl
  exact lowerAfter_congr hbefore h

/-- Strings that are the same up to the case of letters of ASCII have the same lower-case form. -/
theorem lowercase_eq_of_equalIgnoringCase {s t : String} (h : equalIgnoringCase s t = true) :
    lowercase s = lowercase t :=
  congrArg String.ofList (lower_eq_of_sameIgnoringCase h)

/-! ## Characters beyond ASCII -/

/-- A character, unless it is one of ASCII. -/
def beyondAscii? (c : Char) : Option Char := if c.toNat < 0x80 then none else some c

/-- The characters of a string beyond ASCII, each in its place. -/
def beyondAscii (s : String) : List (Option Char) := s.toList.map beyondAscii?

/-- Characters with the same small letter of ASCII are the same beyond ASCII. -/
theorem beyondAscii?_eq_of_toLower_eq {a b : Char} (h : a.toLower = b.toLower) :
    beyondAscii? a = beyondAscii? b := by
  rcases eq_or_isAlpha_of_toLower_eq h with rfl | ⟨ha, hb⟩
  · rfl
  · have hcode := toNat_of_isAlpha ha
    have hcode' := toNat_of_isAlpha hb
    rw [beyondAscii?, beyondAscii?, if_pos (by omega), if_pos (by omega)]

/-- A character of ASCII has one small letter. -/
theorem lowerAfter_ascii {c : Char} (h : c.toNat < 0x80) (before cs : List Char) :
    lowerAfter before (c :: cs) = c.toLower :: lowerAfter (c :: before) cs := by
  have hsigma : c ≠ '\u03a3' := by
    rintro rfl
    exact absurd h (by decide)
  rw [lowerAfter, if_neg hsigma, lowerChar, if_pos h, List.singleton_append]

/-- How many characters a character becomes does not depend on what stands around it. -/
theorem lowerAfter_cons_inj {c : Char} {before before' : List Char}
    (h : lowerAfter before (c :: as) = lowerAfter before' (c :: bs)) :
    lowerAfter (c :: before) as = lowerAfter (c :: before') bs := by
  rw [lowerAfter, lowerAfter] at h
  refine (List.append_inj h ?_).2
  split <;> rfl

/-- Texts with the same lower-case form and the same characters beyond ASCII differ in the case of
letters of ASCII only, whatever stands before them. -/
theorem sameIgnoringCase_of_lowerAfter_eq {before before' : List Char}
    (hlower : lowerAfter before as = lowerAfter before' bs)
    (hbeyond : as.map beyondAscii? = bs.map beyondAscii?) : sameIgnoringCase as bs = true := by
  induction as generalizing bs before before' with
  | nil =>
    obtain rfl := List.map_eq_nil_iff.1 hbeyond.symm
    rfl
  | cons a as ih =>
    cases bs with
    | nil => exact nomatch hbeyond
    | cons b bs =>
      obtain ⟨hfirst, hrest⟩ := List.cons.inj hbeyond
      unfold beyondAscii? at hfirst
      by_cases ha : a.toNat < 0x80
      · have hb : b.toNat < 0x80 := by
          by_contra hb
          rw [if_pos ha, if_neg hb] at hfirst
          exact nomatch hfirst
        rw [lowerAfter_ascii ha, lowerAfter_ascii hb] at hlower
        obtain ⟨hletter, hlower⟩ := List.cons.inj hlower
        exact Bool.and_eq_true_iff.2 ⟨beq_iff_eq.2 hletter, ih hlower hrest⟩
      · -- A character beyond ASCII is the same in both texts.
        have hb : ¬ b.toNat < 0x80 := by
          intro hb
          rw [if_neg ha, if_pos hb] at hfirst
          exact nomatch hfirst
        rw [if_neg ha, if_neg hb] at hfirst
        obtain rfl := Option.some.inj hfirst
        exact Bool.and_eq_true_iff.2 ⟨beq_self_eq_true _, ih (lowerAfter_cons_inj hlower) hrest⟩

/-- Two texts differ in the case of letters of ASCII only exactly if they have the same lower-case
form and the same characters beyond ASCII in the same places. -/
theorem sameIgnoringCase_iff_lower_eq : sameIgnoringCase as bs = true ↔
    lower as = lower bs ∧ as.map beyondAscii? = bs.map beyondAscii? := by
  constructor
  · intro h
    -- A letter of ASCII counts as no character beyond it in either case.
    refine ⟨lower_eq_of_sameIgnoringCase h, ?_⟩
    induction as generalizing bs with
    | nil =>
      cases bs with
      | nil => rfl
      | cons => exact Bool.noConfusion h
    | cons a as ih =>
      cases bs with
      | nil => exact Bool.noConfusion h
      | cons b bs =>
        obtain ⟨hfirst, hrest⟩ := Bool.and_eq_true_iff.1 h
        rw [List.map_cons, List.map_cons, ih hrest,
          beyondAscii?_eq_of_toLower_eq (beq_iff_eq.1 hfirst)]
  · rintro ⟨hlower, hbeyond⟩
    exact sameIgnoringCase_of_lowerAfter_eq hlower hbeyond

/-- Strings differ in the case of letters of ASCII only exactly if they have the same lower-case
form and the same characters beyond ASCII in the same places. -/
theorem equalIgnoringCase_iff {s t : String} : equalIgnoringCase s t = true ↔
    lowercase s = lowercase t ∧ beyondAscii s = beyondAscii t := by
  have hstring : lowercase s = lowercase t ↔ lower s.toList = lower t.toList :=
    ⟨fun h => String.ofList_injective h, congrArg String.ofList⟩
  rw [hstring]
  exact sameIgnoringCase_iff_lower_eq

end ViewForge.Text
