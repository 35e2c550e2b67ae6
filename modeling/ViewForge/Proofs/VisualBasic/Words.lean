import ViewForge.Proofs.Text.Recasing
import ViewForge.Proofs.VisualBasic.Header

/-!
# Words at the start of a line

The words of the language are read one after the other, each up to the white space behind it. If no
word of a vocabulary begins with another (`PrefixFree`), what is read is what is written: one word
(`anyWord?_append`), and all modifiers up to a text that begins with none
(`modifiers_of_wordsBefore`); conversely what is read is written so (`wordsBefore_modifiers`).
-/

namespace ViewForge.VisualBasic

/-- Whether a text is a word of the language, in any letter case. -/
def Spells (word : String) (cs : List Char) : Prop := cs.map foldLetter = word.toList

/-- Whether a text is white space. -/
def IsBlanks (cs : List Char) : Prop := ∀ c ∈ cs, Text.isBlank c = true

instance (cs : List Char) : Decidable (IsBlanks cs) := List.decidableBAll _ cs

theorem Spells.length_eq {word : String} {cs : List Char} (h : Spells word cs) :
    word.length = cs.length := by
  rw [← String.length_toList, ← show cs.map foldLetter = word.toList from h, List.length_map]

theorem Spells.begins {word : String} {cs : List Char} (h : Spells word cs) (rest : List Char) :
    word.toList <+: (cs ++ rest).map foldLetter := by
  rw [List.map_append, show cs.map foldLetter = word.toList from h]
  exact List.prefix_append _ _

/-- A word character stands for one of a word of the language, and nothing else does. -/
theorem isWord_foldLetter (c : Char) : Text.isWord (foldLetter c) = Text.isWord c := by
  unfold foldLetter
  split_ifs with hs hk
  · rw [hs]
    decide +kernel
  · rw [hk]
    decide +kernel
  · exact Text.Recases.toLower.isWord c

theorem Spells.isWord {word : String} {cs : List Char} (h : Spells word cs)
    (hword : ∀ l ∈ word.toList, Text.isWord l = true) : ∀ c ∈ cs, Text.isWord c = true := by
  rw [← show cs.map foldLetter = word.toList from h, List.forall_mem_map] at hword
  exact fun c hc => (isWord_foldLetter c).symm.trans (hword c hc)

theorem Spells.startsWord {word : String} {cs : List Char} (h : Spells word cs)
    (hword : startsWord word = true) : StartsWord cs := by
  obtain ⟨l, hl, hletter⟩ := (Option.any_eq_true _ _).1 hword
  rw [← show cs.map foldLetter = word.toList from h, List.head?_map] at hl
  obtain ⟨c, hc, rfl⟩ := Option.map_eq_some_iff.1 hl
  exact ⟨c, hc, (isWord_foldLetter c).symm.trans hletter⟩

theorem afterLetters?_append {word : String} {cs : List Char} (h : Spells word cs)
    (rest : List Char) : afterLetters? word.toList (cs ++ rest) = some rest := by
  unfold Spells at h
  rw [← h]
  induction cs generalizing word with
  | nil => rfl
  | cons c cs ih =>
    rw [List.map_cons, List.cons_append, afterLetters?, if_pos rfl]
    exact @ih (String.ofList (cs.map foldLetter)) String.toList_ofList.symm

/-- White space, of which there is some, is passed over up to the first other character. -/
theorem afterBlanks?_append {blanks rest : List Char} (hblanks : IsBlanks blanks)
    (hsome : blanks ≠ []) (hrest : ∀ c ∈ rest.head?, Text.isBlank c = false) :
    afterBlanks? (blanks ++ rest) = some rest := by
  obtain ⟨c, blanks, rfl⟩ := List.exists_cons_of_ne_nil hsome
  obtain ⟨hc, hblanks⟩ := List.forall_mem_cons.1 hblanks
  rw [List.cons_append, afterBlanks?, hc, if_pos rfl]
  exact congrArg some (Text.span_append hblanks hrest).2

/-- What is passed over is white space, of which there is some, and all of it. -/
theorem eq_append_of_afterBlanks? {cs rest : List Char} (h : afterBlanks? cs = some rest) :
    ∃ blanks, cs = blanks ++ rest ∧ IsBlanks blanks ∧ blanks ≠ [] ∧
      ∀ c ∈ rest.head?, Text.isBlank c = false := by
  cases cs with
  | nil => cases h
  | cons c cs =>
    rw [afterBlanks?] at h
    by_cases hc : Text.isBlank c = true
    · rw [if_pos hc, Option.some.injEq] at h
      subst h
      refine ⟨c :: cs.takeWhile Text.isBlank, ?_, ?_, List.cons_ne_nil _ _,
        Text.head_dropWhile Text.isBlank cs⟩
      · rw [List.cons_append, Text.trimStart, List.takeWhile_append_dropWhile]
      · exact List.forall_mem_cons.2 ⟨hc, fun d hd => List.mem_takeWhile_imp hd⟩
    · rw [if_neg hc] at h
      cases h

theorem trimStart_append {blanks rest : List Char} (hblanks : IsBlanks blanks)
    (hrest : ∀ c ∈ rest.head?, Text.isBlank c = false) : Text.trimStart (blanks ++ rest) = rest :=
  (Text.span_append hblanks hrest).2

/-! ## One word -/

/-- Whether no word of a vocabulary begins with another. -/
def PrefixFree (vocabulary : List String) : Prop :=
  ∀ v ∈ vocabulary, ∀ w ∈ vocabulary, v.toList <+: w.toList → v = w

section Vocabulary

variable {vocabulary : List String}

/-- The word that is read stands there. -/
theorem spells_of_anyWord? {w : String} {cs rest : List Char}
    (h : anyWord? vocabulary cs = some (w, rest)) :
    w ∈ vocabulary ∧ ∃ lead, cs = lead ++ rest ∧ Spells w lead := by
  obtain ⟨v, hv, hsome⟩ := List.exists_of_findSome?_eq_some h
  obtain ⟨rest', hrest, hpair⟩ := Option.map_eq_some_iff.1 hsome
  obtain ⟨rfl, rfl⟩ := Prod.mk.inj hpair
  exact ⟨hv, exists_of_afterLetters? hrest⟩

/-- The word that stands there is read. -/
theorem anyWord?_append (hfree : PrefixFree vocabulary) {w : String} (hw : w ∈ vocabulary)
    {cs : List Char} (h : Spells w cs) (rest : List Char) :
    anyWord? vocabulary (cs ++ rest) = some (w, rest) := by
  have hread : afterLetters? w.toList (cs ++ rest) = some rest := afterLetters?_append h rest
  have hsome : (anyWord? vocabulary (cs ++ rest)).isSome = true :=
    List.findSome?_isSome_iff.2 ⟨w, hw, by rw [hread]; rfl⟩
  obtain ⟨⟨v, rest'⟩, hv⟩ := Option.isSome_iff_exists.1 hsome
  obtain ⟨hmem, lead, hcs, hlead⟩ := spells_of_anyWord? hv
  -- Of two words at one place one begins with the other.
  have hprefix := hlead.begins rest'
  rw [← hcs] at hprefix
  obtain rfl : v = w := by
    rcases List.prefix_or_prefix_of_prefix hprefix (h.begins rest) with hle | hle
    · exact hfree v hmem w hw hle
    · exact (hfree w hw v hmem hle).symm
  have hlength : lead.length = cs.length := hlead.length_eq.symm.trans h.length_eq
  rw [hv, ← (List.append_inj hcs hlength.symm).2]

/-- Behind a word that has nothing in common with a vocabulary no word of it is read. -/
theorem anyWord?_append_eq_none {w : String} {cs : List Char} (h : Spells w cs)
    (hfree : ∀ v ∈ vocabulary, ¬ v.toList <+: w.toList ∧ ¬ w.toList <+: v.toList)
    (rest : List Char) : anyWord? vocabulary (cs ++ rest) = none := by
  rw [Option.eq_none_iff_forall_ne_some]
  rintro ⟨v, rest'⟩ hv
  obtain ⟨hmem, lead, hcs, hlead⟩ := spells_of_anyWord? hv
  have hprefix := hlead.begins rest'
  rw [← hcs] at hprefix
  rcases List.prefix_or_prefix_of_prefix hprefix (h.begins rest) with hle | hle
  · exact (hfree v hmem).1 hle
  · exact (hfree v hmem).2 hle

/-! ## Modifiers -/

/-- A text begins with words of a vocabulary, each with white space behind it, and goes on with
another text. -/
inductive WordsBefore (vocabulary : List String) : List (List Char) → List Char → List Char → Prop
  /-- No word. -/
  | nil (rest : List Char) : WordsBefore vocabulary [] rest rest
  /-- One more word. -/
  | cons {words : List (List Char)} {w : String} {word blanks cs rest : List Char}
      (hw : w ∈ vocabulary) (hword : Spells w word) (hblanks : IsBlanks blanks)
      (hsome : blanks ≠ []) (hcs : ∀ c ∈ cs.head?, Text.isBlank c = false)
      (h : WordsBefore vocabulary words cs rest) :
      WordsBefore vocabulary (word :: words) (word ++ (blanks ++ cs)) rest

/-- The modifiers that are read are written so. -/
theorem wordsBefore_modifiersWith (fuel : Nat) (cs : List Char) :
    WordsBefore vocabulary (modifiersWith vocabulary fuel cs).1 cs
      (modifiersWith vocabulary fuel cs).2 := by
  induction fuel generalizing cs with
  | zero => exact .nil cs
  | succ fuel ih =>
    rw [modifiersWith]
    cases hword : anyWord? vocabulary cs with
    | none => exact .nil cs
    | some found =>
      dsimp only
      cases hbehind : afterBlanks? found.2 with
      | none => exact .nil cs
      | some behind =>
        dsimp only
        obtain ⟨hmem, word, hcs, hspells⟩ := spells_of_anyWord? hword
        obtain ⟨blanks, hrest, hblanks, hsome, hhead⟩ := eq_append_of_afterBlanks? hbehind
        -- The word is kept as it is written, which is as long as the one found.
        have htake : cs.take found.1.length = word := by
          rw [hcs, hspells.length_eq, List.take_left]
        have hmore := WordsBefore.cons hmem hspells hblanks hsome hhead (ih behind)
        rwa [htake, hcs, hrest]

theorem wordsBefore_modifiers (cs : List Char) :
    WordsBefore vocabulary (modifiers vocabulary cs).1 cs (modifiers vocabulary cs).2 :=
  wordsBefore_modifiersWith cs.length cs

/-- The modifiers that are written are read, up to a text that begins with none. -/
theorem modifiers_of_wordsBefore (hfree : PrefixFree vocabulary) (hlong : ∀ w ∈ vocabulary, w ≠ "")
    {words : List (List Char)} {cs rest : List Char} (h : WordsBefore vocabulary words cs rest)
    (hrest : anyWord? vocabulary rest = none) : modifiers vocabulary cs = (words, rest) := by
  -- Every word takes at least a letter, so the fuel lasts as long as the text.
  have hfuel : ∀ fuel, cs.length ≤ fuel → modifiersWith vocabulary fuel cs = (words, rest) := by
    induction h with
    | nil rest =>
      intro fuel _
      cases fuel with
      | zero => rfl
      | succ fuel => rw [modifiersWith, hrest]
    | @cons words w word blanks cs rest hw hword hblanks hsome hcs h ih =>
      intro fuel hfuel
      have hpos : 0 < word.length := by
        rw [← hword.length_eq, Nat.pos_iff_ne_zero, ne_eq, String.length_eq_zero_iff]
        exact hlong w hw
      rw [List.length_append, List.length_append] at hfuel
      obtain ⟨fuel, rfl⟩ : ∃ n, fuel = n + 1 := ⟨fuel - 1, by omega⟩
      have hmore := ih hrest fuel (by omega)
      rw [modifiersWith, anyWord?_append hfree hw hword]
      simp only [afterBlanks?_append hblanks hsome hcs, hmore, hword.length_eq, List.take_left]
  exact hfuel _ (Nat.le_refl _)

/-- A text that begins with modifiers begins with a word character, if what they lead to does. -/
theorem WordsBefore.startsWord {words : List (List Char)} {cs rest : List Char}
    (h : WordsBefore vocabulary words cs rest)
    (hvocabulary : ∀ w ∈ vocabulary, VisualBasic.startsWord w = true) (hrest : StartsWord rest) :
    StartsWord cs := by
  cases h with
  | nil => exact hrest
  | cons hw hword hblanks hsome hcs h => exact (hword.startsWord (hvocabulary _ hw)).append _

end Vocabulary

end ViewForge.VisualBasic
