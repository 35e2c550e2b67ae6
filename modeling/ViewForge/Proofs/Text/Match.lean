import ViewForge.Text.Match

/-!
# Texts that are found

Where a text is found in another, the other is made of what stands before it, of it and of what
stands behind it; and it is found there whatever stands behind it. Texts that are the same without
regard to case have the same small letters.
-/

namespace ViewForge.Text

/-- What follows a leading text comes behind it. -/
theorem eq_append_of_after? {lead cs rest : List Char} (h : after? lead cs = some rest) :
    cs = lead ++ rest := by
  induction lead generalizing cs with
  | nil => exact Option.some.inj h
  | cons l lead ih =>
    cases cs with
    | nil => exact nomatch h
    | cons c cs =>
      rw [after?] at h
      split at h
      case isTrue hl => rw [hl, ih h, List.cons_append]
      case isFalse => exact nomatch h

/-- A leading text is followed by what is put behind it. -/
theorem after?_append (lead rest : List Char) : after? lead (lead ++ rest) = some rest := by
  induction lead with
  | nil => rfl
  | cons l lead ih => rw [List.cons_append, after?, if_pos rfl, ih]

/-- Whether a text leads another is decided by as many characters as it has. -/
theorem after?_append_eq_none {lead cs rest : List Char} (hlength : lead.length ≤ cs.length)
    (h : after? lead (cs ++ rest) = none) (rest' : List Char) :
    after? lead (cs ++ rest') = none := by
  induction lead generalizing cs with
  | nil => exact nomatch h
  | cons l lead ih =>
    cases cs with
    | nil => exact absurd hlength (Nat.not_succ_le_zero _)
    | cons c cs =>
      rw [List.cons_append, after?] at h ⊢
      split
      case isTrue hl =>
        rw [if_pos hl] at h
        exact ih (Nat.le_of_succ_le_succ hlength) h
      case isFalse => rfl

/-- What follows a leading text in any case ends the whole. -/
theorem suffix_of_afterIgnoringCase? {lead cs rest : List Char}
    (h : afterIgnoringCase? lead cs = some rest) : rest <:+ cs := by
  induction lead generalizing cs with
  | nil =>
    obtain rfl : cs = rest := Option.some.inj h
    exact List.suffix_refl cs
  | cons l lead ih =>
    cases cs with
    | nil => exact nomatch h
    | cons c cs =>
      rw [afterIgnoringCase?] at h
      split at h
      case isTrue => exact (ih h).trans (List.suffix_cons c cs)
      case isFalse => exact nomatch h

/-- A text that is cut at a mark is what stands before it, the mark and what stands behind it. -/
theorem eq_append_of_cut? {mark cs before after : List Char}
    (h : cut? mark cs = some (before, after)) : cs = before ++ (mark ++ after) := by
  induction cs generalizing before with
  | nil =>
    rw [cut?] at h
    split at h
    case isTrue hmark =>
      obtain ⟨rfl, rfl⟩ := Prod.mk.inj (Option.some.inj h)
      rw [List.isEmpty_iff.1 hmark]
      rfl
    case isFalse => exact nomatch h
  | cons c cs ih =>
    -- The mark stands at the head, or the cut is that of the tail with one more character before
    -- it.
    rw [cut?] at h
    split at h
    case h_1 rest hrest =>
      obtain ⟨rfl, rfl⟩ := Prod.mk.inj (Option.some.inj h)
      rw [eq_append_of_after? hrest, List.nil_append]
    case h_2 =>
      obtain ⟨⟨first, second⟩, hcut, hpair⟩ := Option.map_eq_some_iff.1 h
      obtain ⟨rfl, rfl⟩ := Prod.mk.inj hpair
      rw [ih hcut, List.cons_append]

/-- A text that begins with a mark is cut there. -/
theorem cut?_mark_append (mark rest : List Char) : cut? mark (mark ++ rest) = some ([], rest) := by
  have hafter := after?_append mark rest
  cases htext : mark ++ rest with
  | nil =>
    obtain ⟨rfl, rfl⟩ := List.append_eq_nil_iff.1 htext
    rfl
  | cons c cs =>
    rw [htext] at hafter
    rw [cut?, hafter]

/-- A text is cut at the same place whatever stands behind the mark: no place before it holds the
mark, since the mark would end at the latest where the one that was found does. -/
theorem cut?_append {mark cs before after : List Char} (h : cut? mark cs = some (before, after))
    (rest : List Char) : cut? mark (before ++ (mark ++ rest)) = some (before, rest) := by
  induction cs generalizing before with
  | nil =>
    rw [cut?] at h
    split at h
    case isTrue =>
      obtain ⟨rfl, rfl⟩ := Prod.mk.inj (Option.some.inj h)
      exact cut?_mark_append mark rest
    case isFalse => exact nomatch h
  | cons c cs ih =>
    rw [cut?] at h
    split at h
    case h_1 =>
      obtain ⟨rfl, rfl⟩ := Prod.mk.inj (Option.some.inj h)
      exact cut?_mark_append mark rest
    case h_2 hnone =>
      obtain ⟨⟨first, second⟩, hcut, hpair⟩ := Option.map_eq_some_iff.1 h
      obtain ⟨rfl, rfl⟩ := Prod.mk.inj hpair
      have hlength : mark.length ≤ (c :: (first ++ mark)).length := by
        rw [List.length_cons, List.length_append]
        omega
      have hnone' : after? mark (c :: (first ++ (mark ++ rest))) = none := by
        rw [eq_append_of_cut? hcut, ← List.append_assoc, ← List.cons_append] at hnone
        rw [← List.append_assoc, ← List.cons_append]
        exact after?_append_eq_none hlength hnone rest
      rw [List.cons_append, cut?, hnone', ih hcut]
      rfl

/-- A mark stands somewhere in a text exactly if the text is cut there. -/
theorem occursIn_eq_true_iff {mark cs : List Char} : occursIn mark cs = true ↔ mark <:+: cs := by
  unfold occursIn
  rw [Option.isSome_iff_exists]
  constructor
  · rintro ⟨⟨before, after⟩, h⟩
    exact ⟨before, after, by rw [List.append_assoc, ← eq_append_of_cut? h]⟩
  · rintro ⟨before, after, rfl⟩
    induction before with
    | nil => exact ⟨_, cut?_mark_append mark after⟩
    | cons c before ih =>
      obtain ⟨⟨first, second⟩, hcut⟩ := ih
      rw [List.cons_append, List.cons_append, cut?]
      split
      · exact ⟨_, rfl⟩
      · exact ⟨_, congrArg (Option.map _) hcut⟩

/-- What follows a leading text goes on with what is put behind the whole. -/
theorem after?_append_right {lead cs rest : List Char} (h : after? lead cs = some rest)
    (more : List Char) : after? lead (cs ++ more) = some (rest ++ more) := by
  rw [eq_append_of_after? h, List.append_assoc]
  exact after?_append lead (rest ++ more)

/-- What follows a leading text in any case goes on with what is put behind the whole, which is as
much longer than it as the leading text is long. -/
theorem afterIgnoringCase?_append_right {lead cs rest : List Char}
    (h : afterIgnoringCase? lead cs = some rest) (more : List Char) :
    lead.length + rest.length = cs.length ∧
      afterIgnoringCase? lead (cs ++ more) = some (rest ++ more) := by
  induction lead generalizing cs with
  | nil =>
    obtain rfl : cs = rest := Option.some.inj h
    exact ⟨Nat.zero_add _, rfl⟩
  | cons l lead ih =>
    cases cs with
    | nil => exact nomatch h
    | cons c cs =>
      rw [afterIgnoringCase?] at h
      split at h
      case isTrue hl =>
        obtain ⟨hlength, hmore⟩ := ih h
        rw [List.cons_append, afterIgnoringCase?, if_pos hl]
        exact ⟨by rw [List.length_cons, List.length_cons]; omega, hmore⟩
      case isFalse => exact nomatch h

/-- A text is cut at the same place if more is put behind it. -/
theorem cut?_append_right {mark cs before after : List Char}
    (h : cut? mark cs = some (before, after)) (more : List Char) :
    cut? mark (cs ++ more) = some (before, after ++ more) := by
  have hcut := cut?_append h (after ++ more)
  rwa [← List.append_assoc mark, ← List.append_assoc, ← eq_append_of_cut? h] at hcut

/-- A mark behind a text that does not hold it is found there, if a character that is none of it
stands between. -/
theorem cut?_append_of_none {mark front : List Char} {last : Char} (hlast : last ∉ mark)
    (h : cut? mark (front ++ [last]) = none) (rest : List Char) :
    cut? mark (front ++ last :: (mark ++ rest)) = some (front ++ [last], rest) := by
  -- A mark that begins before the character ends before it.
  have hafter {cs more : List Char} (hnone : after? mark (cs ++ [last]) = none) :
      after? mark (cs ++ last :: more) = none := by
    rw [Option.eq_none_iff_forall_ne_some]
    intro r hr
    rcases List.append_eq_append_iff.1 (eq_append_of_after? hr) with ⟨tail, hmark, htail⟩ |
      ⟨tail, hcs, -⟩
    · cases tail with
      | nil =>
        rw [hmark, List.append_nil, after?_append] at hnone
        exact nomatch hnone
      | cons d tail =>
        obtain ⟨rfl, -⟩ := List.cons.inj htail
        exact hlast (hmark ▸ List.mem_append_right _ List.mem_cons_self)
    · rw [hcs, List.append_assoc, after?_append] at hnone
      exact nomatch hnone
  have hstep {c : Char} {cs : List Char} (hnone : cut? mark (c :: cs) = none) :
      after? mark (c :: cs) = none ∧ cut? mark cs = none := by
    rw [cut?] at hnone
    split at hnone
    · exact nomatch hnone
    · rename_i hafter
      exact ⟨hafter, Option.map_eq_none_iff.1 hnone⟩
  induction front with
  | nil =>
    have hfirst : after? mark (last :: (mark ++ rest)) = none := @hafter [] _ (hstep h).1
    rw [List.nil_append, cut?, hfirst, cut?_mark_append]
    rfl
  | cons c front ih =>
    rw [List.cons_append, cut?, ← List.cons_append, hafter (hstep h).1, ih (hstep h).2]
    rfl

/-- Texts that differ in case only have the same small letters. -/
theorem map_toLower_of_sameIgnoringCase {as bs : List Char} (h : sameIgnoringCase as bs = true) :
    as.map Char.toLower = bs.map Char.toLower := by
  induction as generalizing bs with
  | nil =>
    cases bs with
    | nil => rfl
    | cons b bs => exact Bool.noConfusion h
  | cons a as ih =>
    cases bs with
    | nil => exact Bool.noConfusion h
    | cons b bs =>
      obtain ⟨hfirst, hrest⟩ := Bool.and_eq_true_iff.1 h
      rw [List.map_cons, List.map_cons, beq_iff_eq.1 hfirst, ih hrest]

end ViewForge.Text
