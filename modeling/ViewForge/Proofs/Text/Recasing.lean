import ViewForge.Proofs.Text.LetterCase
import ViewForge.Proofs.Text.Match

/-!
# Texts with letters in another case

A map of characters that changes at most the case of letters of ASCII keeps every class that treats
these letters alike (`Recases.congr`), so white space, word characters and marks stay where they
are, and trimming and comparing do not see it.
-/

namespace ViewForge.Text

/-- A map of characters changes at most the case of letters of ASCII. -/
def Recases (n : Char → Char) : Prop := ∀ c, (n c).toLower = c.toLower

section Images

variable {α β : Type} {m : α → α} {a b : α}

/-- What a map does not change is the same for two things that the map makes the same. -/
theorem eq_of_image_eq {p : α → β} (hp : ∀ a, p (m a) = p a) (h : m b = m a) : p b = p a := by
  rw [← hp b, h, hp a]

/-- What a map changes in one way is made the same for two things that the map makes the same. -/
theorem image_eq_of_image_eq {p : α → β} {g : β → β} (hp : ∀ a, p (m a) = g (p a))
    (h : m b = m a) : g (p b) = g (p a) := by
  rw [← hp b, h, hp a]

end Images

/-- A letter of ASCII is a word character. -/
theorem isWord_of_isAlpha {c : Char} (h : c.isAlpha = true) : isWord c = true := by
  rw [isWord, Char.isAlphanum, h, Bool.true_or, Bool.true_or, Bool.true_or]

/-- A run of a class that a map of characters keeps is a run still. -/
theorem span_map {n : Char → Char} {p : Char → Bool} (hp : ∀ c, p (n c) = p c) (cs : List Char) :
    (cs.map n).takeWhile p = (cs.takeWhile p).map n ∧
      (cs.map n).dropWhile p = (cs.dropWhile p).map n := by
  have hcomp : p ∘ n = p := funext hp
  rw [List.takeWhile_map, List.dropWhile_map, hcomp]
  exact ⟨rfl, rfl⟩

namespace Recases

/-- The map that changes nothing. -/
theorem refl : Recases id := fun _ => rfl

/-- The map to small letters. -/
theorem toLower : Recases Char.toLower := by
  intro c
  by_cases hupper : c.val ≥ 'A'.val ∧ c.val ≤ 'Z'.val
  · have hcode : 65 ≤ c.toNat ∧ c.toNat ≤ 90 := hupper
    exact of_code_mem (p := fun c => c.toLower.toLower = c.toLower) c hcode (by decide)
  · have hsame : c.toLower = c := dif_neg hupper
    exact congrArg Char.toLower hsame

variable {n : Char → Char} (h : Recases n)

include h

/-- What is the same for all letters of ASCII does not change. -/
theorem congr {β : Type} {p : Char → β} {b : β} (hp : ∀ c, c.isAlpha = true → p c = b) (c : Char) :
    p (n c) = p c := by
  rcases eq_or_isAlpha_of_toLower_eq (h c) with heq | ⟨hn, hc⟩
  · rw [heq]
  · rw [hp _ hn, hp _ hc]

theorem isWord (c : Char) : Text.isWord (n c) = Text.isWord c :=
  h.congr (fun _ => isWord_of_isAlpha) c

theorem isBlank (c : Char) : Text.isBlank (n c) = Text.isBlank c :=
  h.congr (fun _ hc => isBlank_eq_false_of_isWord (isWord_of_isAlpha hc)) c

/-- Only a mark becomes that mark. -/
theorem beq_mark {mark : Char} (hmark : mark.isAlpha = false) (c : Char) :
    (n c == mark) = (c == mark) := by
  refine h.congr (p := fun c => c == mark) (b := false) (fun c hc => ?_) c
  rw [beq_eq_false_iff_ne]
  rintro rfl
  rw [hc] at hmark
  exact Bool.noConfusion hmark

theorem eq_mark_iff (mark : Char) (hmark : mark.isAlpha = false) (c : Char) :
    n c = mark ↔ c = mark := by
  rw [← beq_iff_eq (a := n c), h.beq_mark hmark, beq_iff_eq]

/-- A text and its map are both empty, both begin with a mark or both begin with something else. -/
theorem head_cases (mark : Char) (hmark : mark.isAlpha = false) (cs : List Char) :
    cs = [] ∨ (∃ rest, cs = mark :: rest ∧ cs.map n = mark :: rest.map n) ∨
      ∃ c rest, cs = c :: rest ∧ c ≠ mark ∧ n c ≠ mark := by
  cases cs with
  | nil => exact .inl rfl
  | cons c rest =>
    by_cases hc : c = mark
    · refine .inr (.inl ⟨rest, by rw [hc], ?_⟩)
      rw [List.map_cons, (h.eq_mark_iff mark hmark c).2 hc]
    · exact .inr (.inr ⟨c, rest, rfl, hc, mt (h.eq_mark_iff mark hmark c).1 hc⟩)

theorem trimStart_map (cs : List Char) : trimStart (cs.map n) = (trimStart cs).map n :=
  (span_map h.isBlank cs).2

theorem trimEnd_map (cs : List Char) : trimEnd (cs.map n) = (trimEnd cs).map n := by
  rw [trimEnd, ← List.map_reverse, (span_map h.isBlank _).2, ← List.map_reverse, trimEnd]

theorem trim_map (cs : List Char) : trim (cs.map n) = (trim cs).map n := by
  rw [trim, h.trimStart_map, h.trimEnd_map, trim]

/-- A text is compared without regard to case whatever the case of its letters is. -/
theorem sameIgnoringCase_map (as bs : List Char) :
    sameIgnoringCase (as.map n) bs = sameIgnoringCase as bs := by
  induction as generalizing bs with
  | nil => rfl
  | cons a as ih =>
    cases bs with
    | nil => rfl
    | cons b bs => rw [List.map_cons, sameIgnoringCase, sameIgnoringCase, h a, ih]

/-- What follows a leading text does so in any case. -/
theorem afterIgnoringCase?_map (lead cs : List Char) :
    afterIgnoringCase? lead (cs.map n) = (afterIgnoringCase? lead cs).map (List.map n) := by
  induction lead generalizing cs with
  | nil => rfl
  | cons l lead ih =>
    cases cs with
    | nil => rfl
    | cons c cs =>
      rw [List.map_cons, afterIgnoringCase?, afterIgnoringCase?, h c, ih]
      split <;> rfl

/-- In a leading text the case does not matter either. -/
theorem afterIgnoringCase?_map_lead (lead cs : List Char) :
    afterIgnoringCase? (lead.map n) cs = afterIgnoringCase? lead cs := by
  induction lead generalizing cs with
  | nil => rfl
  | cons l lead ih =>
    cases cs with
    | nil => rfl
    | cons c cs =>
      rw [List.map_cons, afterIgnoringCase?, afterIgnoringCase?, h l, ih]

theorem map_toLower_map (cs : List Char) : (cs.map n).map Char.toLower = cs.map Char.toLower := by
  rw [List.map_map]
  exact List.map_congr_left fun c _ => h c

end Recases

/-- Texts with the same small letters differ in case only. -/
theorem sameIgnoringCase_iff {as bs : List Char} :
    sameIgnoringCase as bs = true ↔ as.map Char.toLower = bs.map Char.toLower := by
  refine ⟨map_toLower_of_sameIgnoringCase, fun h => ?_⟩
  induction as generalizing bs with
  | nil =>
    cases bs with
    | nil => rfl
    | cons => exact nomatch h
  | cons a as ih =>
    cases bs with
    | nil => exact nomatch h
    | cons b bs =>
      obtain ⟨hfirst, hrest⟩ := List.cons.inj h
      rw [sameIgnoringCase, Bool.and_eq_true, beq_iff_eq]
      exact ⟨hfirst, ih hrest⟩

end ViewForge.Text
