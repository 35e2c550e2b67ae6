import ViewForge.Proofs.Text.Character
import ViewForge.TypeExpr.Token

/-!
# How tokens are spelled

A text spells a list of tokens if it is made of their letters and marks in order, with white space
anywhere between them and each word as long as it can be (`Spells`). A text spells at most one list,
and scanning finds it (`scan_eq_some_iff`).
-/

namespace ViewForge.TypeToken

/-! ## Characters -/

/-- White space is no part of a word. -/
theorem isLetter_eq_false_of_isBlank {c : Char} (h : Text.isBlank c = true) :
    isLetter c = false :=
  Text.eq_false_of_isBlank (by decide +kernel) h

/-- A letter is no white space. -/
theorem isBlank_eq_false_of_isLetter {c : Char} (h : isLetter c = true) :
    Text.isBlank c = false := by
  cases hblank : Text.isBlank c with
  | false => rfl
  | true => rw [isLetter_eq_false_of_isBlank hblank] at h; exact Bool.noConfusion h

/-- A mark is neither white space nor a letter, nor does it begin another token. -/
theorem isMark_facts {c : Char} (h : isMark c = true) :
    Text.isBlank c = false ∧ isLetter c = false ∧ c ≠ '@' ∧ c ≠ ':' := by
  have hall : (['.', ',', '?', '<', '>', '(', ')', '[', ']'].all fun c =>
      !Text.isBlank c && !isLetter c && c != '@' && c != ':') = true := by
    decide +kernel
  have hc := List.all_eq_true.1 hall c (List.contains_iff_mem.1 h)
  simpa [and_assoc] using hc

/-! ## Spelling -/

/-- Whether a word ends where a text begins: the text does not begin with a letter. -/
def EndsWord (cs : List Char) : Prop := ∀ c ∈ cs.head?, isLetter c = false

/-- Whether a text spells a list of tokens. -/
inductive Spells : List Char → List TypeToken → Prop
  /-- The empty text spells no token. -/
  | nil : Spells [] []
  /-- White space may stand before a token and at the end. -/
  | blank {c : Char} {cs : List Char} {tokens : List TypeToken} (hc : Text.isBlank c = true)
      (hrest : Spells cs tokens) : Spells (c :: cs) tokens
  /-- A word goes on as long as there are letters, and notes whether white space follows. -/
  | word {letters cs : List Char} {tokens : List TypeToken} (hsome : letters ≠ [])
      (hletters : ∀ c ∈ letters, isLetter c = true) (hend : EndsWord cs)
      (hrest : Spells cs tokens) :
      Spells (letters ++ cs) (.word false letters (blankNext cs) :: tokens)
  /-- A word may stand behind an `@`. -/
  | escaped {letters cs : List Char} {tokens : List TypeToken} (hsome : letters ≠ [])
      (hletters : ∀ c ∈ letters, isLetter c = true) (hend : EndsWord cs)
      (hrest : Spells cs tokens) :
      Spells ('@' :: (letters ++ cs)) (.word true letters (blankNext cs) :: tokens)
  /-- Two colons are one token. -/
  | doubleColon {cs : List Char} {tokens : List TypeToken} (hrest : Spells cs tokens) :
      Spells (':' :: ':' :: cs) (.doubleColon :: tokens)
  /-- A mark is a token by itself. -/
  | mark {c : Char} {cs : List Char} {tokens : List TypeToken} (hc : isMark c = true)
      (hrest : Spells cs tokens) : Spells (c :: cs) (.mark c :: tokens)

/-! ## Scanning -/

/-- A word stands before its end. -/
theorem takeWhile_word {letters cs : List Char} (hletters : ∀ c ∈ letters, isLetter c = true)
    (hend : EndsWord cs) :
    (letters ++ cs).takeWhile isLetter = letters ∧ (letters ++ cs).dropWhile isLetter = cs :=
  Text.span_append hletters hend

/-- The letters at the start of a text end where the rest begins. -/
theorem endsWord_dropWhile (cs : List Char) : EndsWord (cs.dropWhile isLetter) := by
  intro c hc
  have hne : cs.dropWhile isLetter ≠ [] := by
    intro hnil
    rw [hnil] at hc
    exact nomatch hc
  have hhead := List.head_dropWhile_not isLetter hne
  rw [List.head?_eq_some_head hne] at hc
  rwa [← Option.some.inj hc]

/-- What scanning finds is spelled by the text. -/
theorem spells_of_scanWith : ∀ (fuel : Nat) (cs : List Char) (tokens : List TypeToken),
    scanWith fuel cs = some tokens → Spells cs tokens
  | _, [], tokens, h => by
    unfold scanWith at h
    rw [← Option.some.inj h]
    exact .nil
  | 0, _ :: _, _, h => nomatch h
  | fuel + 1, c :: cs, tokens, h => by
    have hletters (l : List Char) : ∀ x ∈ l.takeWhile isLetter, isLetter x = true :=
      fun x hx => List.mem_takeWhile_imp hx
    -- The cases of the scan: a blank, a word, an escaped word, a double colon and a mark.
    unfold scanWith at h
    split at h
    · rename_i hblank
      exact .blank hblank (spells_of_scanWith fuel cs tokens h)
    · split at h
      · rename_i hletter
        obtain ⟨rest, hrest, rfl⟩ := Option.map_eq_some_iff.1 h
        have hsplit : c :: cs = (c :: cs.takeWhile isLetter) ++ cs.dropWhile isLetter := by
          rw [List.cons_append, List.takeWhile_append_dropWhile]
        rw [hsplit]
        refine .word (List.cons_ne_nil _ _) ?_ (endsWord_dropWhile cs)
          (spells_of_scanWith fuel _ rest hrest)
        exact List.forall_mem_cons.2 ⟨hletter, hletters cs⟩
      · split at h
        · rename_i hat
          subst hat
          dsimp only at h
          split at h
          · exact nomatch h
          · rename_i hsome
            obtain ⟨rest, hrest, rfl⟩ := Option.map_eq_some_iff.1 h
            conv => arg 1; rw [← List.takeWhile_append_dropWhile (p := isLetter) (l := cs)]
            refine .escaped ?_ (hletters cs) (endsWord_dropWhile cs)
              (spells_of_scanWith fuel _ rest hrest)
            exact fun hnil => hsome (List.isEmpty_iff.2 hnil)
        · split at h
          · rename_i hcolon
            subst hcolon
            split at h
            · rename_i rest'
              obtain ⟨rest, hrest, rfl⟩ := Option.map_eq_some_iff.1 h
              exact .doubleColon (spells_of_scanWith fuel _ rest hrest)
            · exact nomatch h
          · split at h
            · rename_i hmark
              obtain ⟨rest, hrest, rfl⟩ := Option.map_eq_some_iff.1 h
              exact .mark hmark (spells_of_scanWith fuel _ rest hrest)
            · exact nomatch h

/-- A blank is passed over. -/
theorem scanWith_blank {c : Char} (hc : Text.isBlank c = true) (fuel : Nat) (cs : List Char) :
    scanWith (fuel + 1) (c :: cs) = scanWith fuel cs := if_pos hc

/-- A word is scanned up to its end. -/
theorem scanWith_word {letters cs : List Char} (hsome : letters ≠ [])
    (hletters : ∀ c ∈ letters, isLetter c = true) (hend : EndsWord cs) (fuel : Nat) :
    scanWith (fuel + 1) (letters ++ cs) =
      (scanWith fuel cs).map (.word false letters (blankNext cs) :: ·) := by
  obtain ⟨c, letters, rfl⟩ := List.exists_cons_of_ne_nil hsome
  obtain ⟨hc, hletters⟩ := List.forall_mem_cons.1 hletters
  obtain ⟨htake, hdrop⟩ := takeWhile_word hletters hend
  have hblank : ¬ Text.isBlank c = true := by
    rw [isBlank_eq_false_of_isLetter hc]
    exact Bool.false_ne_true
  rw [List.cons_append]
  conv_lhs => unfold scanWith
  rw [if_neg hblank, if_pos hc, htake, hdrop]

/-- A word behind an `@` is scanned up to its end. -/
theorem scanWith_escaped {letters cs : List Char} (hsome : letters ≠ [])
    (hletters : ∀ c ∈ letters, isLetter c = true) (hend : EndsWord cs) (fuel : Nat) :
    scanWith (fuel + 1) ('@' :: (letters ++ cs)) =
      (scanWith fuel cs).map (.word true letters (blankNext cs) :: ·) := by
  obtain ⟨htake, hdrop⟩ := takeWhile_word hletters hend
  have hempty : ¬ letters.isEmpty = true := fun h => hsome (List.isEmpty_iff.1 h)
  conv_lhs => unfold scanWith
  rw [if_neg (by decide +kernel), if_neg (by decide +kernel), if_pos rfl, htake, hdrop]
  exact if_neg hempty

/-- Two colons are scanned as one token. -/
theorem scanWith_doubleColon (fuel : Nat) (cs : List Char) :
    scanWith (fuel + 1) (':' :: ':' :: cs) = (scanWith fuel cs).map (.doubleColon :: ·) := by
  rw [scanWith, if_neg (by decide +kernel), if_neg (by decide +kernel), if_neg (by decide),
    if_pos rfl]

/-- A mark is scanned as a token by itself. -/
theorem scanWith_mark {c : Char} (hc : isMark c = true) (fuel : Nat) (cs : List Char) :
    scanWith (fuel + 1) (c :: cs) = (scanWith fuel cs).map (.mark c :: ·) := by
  obtain ⟨hblank, hletter, hat, hcolon⟩ := isMark_facts hc
  conv_lhs => unfold scanWith
  rw [hblank, hletter, if_neg Bool.false_ne_true, if_neg Bool.false_ne_true, if_neg hat,
    if_neg hcolon, if_pos hc]

/-- Scanning with enough fuel finds the tokens that a text spells. -/
theorem scanWith_of_spells {cs : List Char} {tokens : List TypeToken} (h : Spells cs tokens) :
    ∀ fuel, cs.length ≤ fuel → scanWith fuel cs = some tokens := by
  -- Every token takes a character at least, so there is fuel for what stands behind it.
  induction h with
  | nil => exact fun fuel _ => by cases fuel <;> rfl
  | blank hc _ ih =>
    rintro (_ | fuel) hfuel <;> rw [List.length_cons] at hfuel
    · omega
    · rw [scanWith_blank hc, ih fuel (by omega)]
  | word hsome hletters hend _ ih =>
    have hpos := List.length_pos_iff.2 hsome
    rintro (_ | fuel) hfuel <;> rw [List.length_append] at hfuel
    · omega
    · rw [scanWith_word hsome hletters hend, ih fuel (by omega), Option.map_some]
  | escaped hsome hletters hend _ ih =>
    rintro (_ | fuel) hfuel <;> rw [List.length_cons, List.length_append] at hfuel
    · omega
    · rw [scanWith_escaped hsome hletters hend, ih fuel (by omega), Option.map_some]
  | doubleColon _ ih =>
    rintro (_ | fuel) hfuel <;> rw [List.length_cons, List.length_cons] at hfuel
    · omega
    · rw [scanWith_doubleColon, ih fuel (by omega), Option.map_some]
  | mark hc _ ih =>
    rintro (_ | fuel) hfuel <;> rw [List.length_cons] at hfuel
    · omega
    · rw [scanWith_mark hc, ih fuel (by omega), Option.map_some]

/-- Scanning finds exactly the tokens that a text spells. -/
theorem scan_eq_some_iff {cs : List Char} {tokens : List TypeToken} :
    scan cs = some tokens ↔ Spells cs tokens :=
  ⟨spells_of_scanWith cs.length cs tokens, fun h => scanWith_of_spells h cs.length le_rfl⟩

end ViewForge.TypeToken
