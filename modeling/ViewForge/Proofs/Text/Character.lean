import Mathlib.Data.List.Basic
import Mathlib.Data.List.TakeWhile
import ViewForge.Text.Alphabetic
import ViewForge.Text.Blank

/-!
# Characters of words

White space is finite, so what no white space is can be told by looking at each
(`eq_false_of_isBlank`). Word characters are told apart from white space and from marks, and a run
of characters of one class ends where the first of another class stands (`span_append`).
-/

namespace ViewForge.Text

/-- The code points of white space. -/
def blankCodes : List Nat :=
  [32, 9, 10, 11, 12, 13, 0x85, 0xa0, 0x1680, 0x2000, 0x2001, 0x2002, 0x2003, 0x2004, 0x2005,
   0x2006, 0x2007, 0x2008, 0x2009, 0x200a, 0x2028, 0x2029, 0x202f, 0x205f, 0x3000]

theorem toNat_mem_blankCodes {c : Char} (h : isBlank c = true) : c.toNat ∈ blankCodes := by
  have hspace (hc : c = ' ') : c.toNat = 32 := hc ▸ rfl
  unfold isBlank CharRanges.has blankRanges at h
  simp only [Bool.or_eq_true, Bool.and_eq_true, beq_iff_eq, decide_eq_true_eq, List.any_cons,
    List.any_nil, Bool.or_false] at h
  simp only [blankCodes, List.mem_cons, List.not_mem_nil, or_false]
  rcases h with (h | h) | h
  · exact .inl (hspace h)
  · omega
  · omega

/-- A class of characters without white space, judged by each code point. -/
theorem eq_false_of_isBlank {p : Char → Bool}
    (hall : blankCodes.all (fun n => !p (Char.ofNat n)) = true) {c : Char}
    (h : isBlank c = true) : p c = false := by
  have hcode := List.all_eq_true.1 hall _ (toNat_mem_blankCodes h)
  rw [Char.ofNat_toNat] at hcode
  simpa using hcode

/-- White space is no part of a word. -/
theorem isWord_eq_false_of_isBlank {c : Char} (h : isBlank c = true) : isWord c = false :=
  eq_false_of_isBlank (by decide +kernel) h

/-- A word character is no white space. -/
theorem isBlank_eq_false_of_isWord {c : Char} (h : isWord c = true) : isBlank c = false := by
  cases hblank : isBlank c with
  | false => rfl
  | true => rw [isWord_eq_false_of_isBlank hblank] at h; exact Bool.noConfusion h

/-- A word character is none of the characters that are not. -/
theorem ne_of_isWord {c d : Char} (h : isWord c = true) (hd : isWord d = false) : c ≠ d := by
  rintro rfl
  rw [h] at hd
  exact Bool.noConfusion hd

/-- What holds of each code point of a range holds of the characters in it. -/
theorem of_code_mem {p : Char → Prop} {first last : Nat} (c : Char)
    (hc : first ≤ c.toNat ∧ c.toNat ≤ last)
    (hall : ∀ n ≤ last, first ≤ n → p (Char.ofNat n)) : p c := by
  have hcode := hall c.toNat hc.2 hc.1
  rwa [Char.ofNat_toNat] at hcode

/-- Only a character that is no letter of ASCII itself becomes one in small letters. -/
theorem eq_of_toLower {c d : Char} (hd : d.isAlpha = false) (h : c.toLower = d) : c = d := by
  by_cases hupper : c.val ≥ 'A'.val ∧ c.val ≤ 'Z'.val
  · have hcode : 65 ≤ c.toNat ∧ c.toNat ≤ 90 := hupper
    have hletter : c.toLower.isAlpha = true :=
      of_code_mem (p := fun c => c.toLower.isAlpha = true) c hcode (by decide)
    rw [h, hd] at hletter
    exact Bool.noConfusion hletter
  · have hsame : c.toLower = c := dif_neg hupper
    rwa [hsame] at h

/-- A list that begins with nothing of a class has no run of it at its start. -/
theorem span_of_head {α : Type} {p : α → Bool} {cs : List α} (h : ∀ c ∈ cs.head?, p c = false) :
    cs.takeWhile p = [] ∧ cs.dropWhile p = cs := by
  cases cs with
  | nil => exact ⟨rfl, rfl⟩
  | cons c cs =>
    have hc : p c = false := h c rfl
    rw [List.takeWhile_cons, List.dropWhile_cons, hc]
    exact ⟨rfl, rfl⟩

/-- Behind the run of a class at the start of a list stands nothing of the class. -/
theorem head_dropWhile {α : Type} (p : α → Bool) (cs : List α) :
    ∀ c ∈ (cs.dropWhile p).head?, p c = false := by
  intro c hc
  have hnot := List.head?_dropWhile_not p cs
  rw [Option.mem_def.1 hc] at hnot
  simpa using hnot

/-- A run of a class ends where a list begins that does not begin with one of it. -/
theorem span_append {α : Type} {p : α → Bool} {run rest : List α} (hrun : ∀ c ∈ run, p c = true)
    (hrest : ∀ c ∈ rest.head?, p c = false) :
    (run ++ rest).takeWhile p = run ∧ (run ++ rest).dropWhile p = rest := by
  obtain ⟨htake, hdrop⟩ := span_of_head hrest
  rw [List.takeWhile_append_of_pos hrun, List.dropWhile_append_of_pos hrun, htake, hdrop,
    List.append_nil]
  exact ⟨rfl, rfl⟩

/-- A character that a text does not hold is none of its characters. -/
theorem bne_of_notMem {d : Char} {cs : List Char} (h : d ∉ cs) : ∀ c ∈ cs, (c != d) = true :=
  fun _ hc => bne_iff_ne.2 (ne_of_mem_of_not_mem hc h)

/-- What stands behind the last place of a character in a text; all of the text if there is none. -/
def behindLast (d : Char) (cs : List Char) : List Char := (cs.reverse.takeWhile (· != d)).reverse

/-- A text without the character goes on with what stands behind its last place. -/
theorem behindLast_append {d : Char} {more : List Char} (h : d ∉ more) (cs : List Char) :
    behindLast d (cs ++ more) = behindLast d cs ++ more := by
  have hmore : ∀ c ∈ more.reverse, (c != d) = true :=
    bne_of_notMem fun hmem => h (List.mem_reverse.1 hmem)
  rw [behindLast, List.reverse_append, List.takeWhile_append_of_pos hmore, List.reverse_append,
    List.reverse_reverse]
  rfl

/-- The last place of a character in a text is that in its end, if this holds the character. -/
theorem behindLast_append_of_mem {d : Char} {more : List Char} (h : d ∈ more) (cs : List Char) :
    behindLast d (cs ++ more) = behindLast d more := by
  have hstop : ¬(more.reverse.takeWhile (· != d)).length = more.reverse.length := by
    intro hlength
    have hall := (List.takeWhile_prefix (· != d)).eq_of_length hlength
    have hmem : d ∈ more.reverse.takeWhile (· != d) := by rwa [hall, List.mem_reverse]
    exact bne_iff_ne.1 (List.mem_takeWhile_imp (p := (· != d)) hmem) rfl
  rw [behindLast, List.reverse_append, List.takeWhile_append, if_neg hstop]
  rfl

/-- Behind the last place of a character stands what does not hold it. -/
theorem behindLast_eq {d : Char} {cs : List Char} (h : d ∉ cs) (front : List Char) :
    behindLast d (front ++ d :: cs) = cs := by
  rw [behindLast_append_of_mem List.mem_cons_self, ← List.singleton_append, behindLast_append h]
  simp [behindLast]

/-- What holds of all characters of texts and of those between them holds of all characters of the
joined text. -/
theorem forall_mem_intercalate {α : Type} {p : α → Prop} {between : List α} {ts : List (List α)}
    (hbetween : ∀ c ∈ between, p c) (h : ∀ t ∈ ts, ∀ c ∈ t, p c) :
    ∀ c ∈ between.intercalate ts, p c := by
  induction ts with
  | nil => exact fun c hc => nomatch hc
  | cons t ts ih =>
    obtain ⟨ht, hts⟩ := List.forall_mem_cons.1 h
    cases ts with
    | nil =>
      rw [List.intercalate_singleton]
      exact ht
    | cons u ts =>
      rw [List.intercalate_cons_cons, List.append_assoc]
      exact List.forall_mem_append.2 ⟨ht, List.forall_mem_append.2 ⟨hbetween, ih hts⟩⟩

/-- A text that neither begins nor ends with white space is its own trimming. -/
theorem trim_eq_self {cs : List Char} (hfirst : ∀ c ∈ cs.head?, isBlank c = false)
    (hlast : ∀ c ∈ cs.getLast?, isBlank c = false) : trim cs = cs := by
  have hstart : trimStart cs = cs := (span_of_head hfirst).2
  have hback : ∀ c ∈ cs.reverse.head?, isBlank c = false := by
    rwa [List.head?_reverse]
  have hend : cs.reverse.dropWhile isBlank = cs.reverse := (span_of_head hback).2
  rw [trim, hstart, trimEnd, hend, List.reverse_reverse]

/-- What ends with no white space is not trimmed at its end, whatever stands behind it. -/
theorem trimEnd_append {cs : List Char} (h : ∃ c ∈ cs.getLast?, isBlank c = false)
    (rest : List Char) : trimEnd (cs ++ rest) = cs ++ trimEnd rest := by
  obtain ⟨c, hc, hblank⟩ := h
  have hend : cs.reverse.dropWhile isBlank = cs.reverse := by
    refine (span_of_head fun d hd => ?_).2
    rw [List.head?_reverse] at hd
    exact Option.mem_unique hc hd ▸ hblank
  rw [trimEnd, List.reverse_append, List.dropWhile_append, hend]
  split
  · rename_i hnil
    rw [trimEnd, List.isEmpty_iff.1 hnil, List.reverse_reverse]
    exact (List.append_nil cs).symm
  · rw [List.reverse_append, List.reverse_reverse]
    rfl

/-- A text begins as it does without the white space at its end. -/
theorem trimEnd_prefix (cs : List Char) : trimEnd cs <+: cs := by
  rw [trimEnd, ← List.reverse_suffix, List.reverse_reverse]
  exact List.dropWhile_suffix _

/-- White space alone is trimmed away. -/
theorem trimEnd_eq_nil {cs : List Char} (h : ∀ c ∈ cs, isBlank c = true) : trimEnd cs = [] := by
  rw [trimEnd, List.reverse_eq_nil_iff, List.dropWhile_eq_nil_iff]
  exact fun c hc => h c (List.mem_reverse.1 hc)

/-- White space before a text that neither begins nor ends with any is trimmed away. -/
theorem trim_append {before cs : List Char} (hbefore : ∀ c ∈ before, isBlank c = true)
    (hfirst : ∃ c ∈ cs.head?, isBlank c = false) (hlast : ∃ c ∈ cs.getLast?, isBlank c = false)
    (rest : List Char) : trim (before ++ (cs ++ rest)) = cs ++ trimEnd rest := by
  have hstart : trimStart (before ++ (cs ++ rest)) = cs ++ rest := by
    obtain ⟨c, hc, hblank⟩ := hfirst
    refine (span_append hbefore fun d hd => ?_).2
    rw [List.head?_append_of_ne_nil _ (List.ne_nil_of_mem (List.mem_of_mem_head? hc))] at hd
    exact Option.mem_unique hc hd ▸ hblank
  rw [trim, hstart, trimEnd_append hlast]

/-- A text is its trimming with white space around it. -/
theorem exists_trim_append (cs : List Char) :
    ∃ before after, cs = before ++ trim cs ++ after ∧ (∀ c ∈ before, isBlank c = true) ∧
      ∀ c ∈ after, isBlank c = true := by
  refine ⟨cs.takeWhile isBlank, ((trimStart cs).reverse.takeWhile isBlank).reverse, ?_,
    fun c hc => List.mem_takeWhile_imp hc,
    fun c hc => List.mem_takeWhile_imp (List.mem_reverse.1 hc)⟩
  have hend : trim cs ++ ((trimStart cs).reverse.takeWhile isBlank).reverse = trimStart cs := by
    rw [trim, trimEnd, ← List.reverse_append, List.takeWhile_append_dropWhile, List.reverse_reverse]
  rw [List.append_assoc, hend, trimStart, List.takeWhile_append_dropWhile]

/-- Trimming makes nothing longer. -/
theorem length_trim_le (cs : List Char) : (trim cs).length ≤ cs.length := by
  obtain ⟨before, after, hcs, -⟩ := exists_trim_append cs
  have hlength := congrArg List.length hcs
  rw [List.length_append, List.length_append] at hlength
  omega

/-- Trimming drops white space only. -/
theorem count_trim {c : Char} (hc : isBlank c = false) (cs : List Char) :
    (trim cs).count c = cs.count c := by
  obtain ⟨before, after, hcs, hbefore, hafter⟩ := exists_trim_append cs
  have hnone {l : List Char} (hl : ∀ d ∈ l, isBlank d = true) : l.count c = 0 := by
    refine List.count_eq_zero_of_not_mem fun hmem => ?_
    rw [hl c hmem] at hc
    exact Bool.noConfusion hc
  conv_rhs => rw [hcs, List.count_append, List.count_append, hnone hbefore, hnone hafter]
  rw [Nat.zero_add, Nat.add_zero]

/-- A character that is no white space begins and ends a text only if it does so in the text
without white space around it. -/
theorem ends_ne_of_trim {first last : Char} {cs : List Char} (hfirst : isBlank first = false)
    (hlast : isBlank last = false) (h : (trim cs).head? ≠ some first)
    (h' : (trim cs).getLast? ≠ some last) :
    cs.head? ≠ some first ∧ cs.getLast? ≠ some last := by
  -- A first character stands in the white space before, in the trimmed text or behind it.
  obtain ⟨before, after, hcs, hbefore, hafter⟩ := exists_trim_append cs
  have hno {l : List Char} {d : Char} (hl : ∀ c ∈ l, isBlank c = true) (hd : isBlank d = false)
      (hmem : d ∈ l) : False := by
    rw [hl d hmem] at hd
    exact Bool.noConfusion hd
  constructor
  · intro hc
    rw [hcs, List.head?_append, List.head?_append, Option.or_eq_some_iff,
      Option.or_eq_some_iff] at hc
    rcases hc with (hc | ⟨-, hc⟩) | ⟨-, hc⟩
    · exact hno hbefore hfirst (List.mem_of_mem_head? hc)
    · exact h hc
    · exact hno hafter hfirst (List.mem_of_mem_head? hc)
  · intro hc
    rw [hcs, List.getLast?_append, List.getLast?_append, Option.or_eq_some_iff,
      Option.or_eq_some_iff] at hc
    rcases hc with hc | ⟨-, hc | ⟨-, hc⟩⟩
    · exact hno hafter hlast (List.mem_of_getLast? hc)
    · exact h' hc
    · exact hno hbefore hlast (List.mem_of_getLast? hc)

end ViewForge.Text
