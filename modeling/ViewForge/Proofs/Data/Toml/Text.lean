import Mathlib.Data.List.TakeWhile
import ViewForge.Data.Toml.Text

/-!
# Strings of TOML, written and read

A string comes back as it was written, whatever follows it that is no quote
(`readText?_writeText`). Between the quotes of a form each letter stands as it is, escaped, or as a
quote that may still stand there: `Spells` says so for all four forms, and counts how many quotes
may follow each other. What spells a text is read as that text (`readLetters_of_spells`), and what a
form writes spells the text (`spells_letters`): with escapes any text, literally only texts for
which the form is chosen.
-/

namespace ViewForge.Data.Toml

/-! ## What spells a text -/

/-- Whether letters between the quotes of a form spell a text; up to `room` quotes may stand in
front. -/
inductive Spells (f : Form) : Nat → List Char → List Char → Prop
  /-- Nothing spells nothing. -/
  | nil {room : Nat} : Spells f room [] []
  /-- A letter that needs no escape stands as it is. -/
  | plain {room : Nat} {c : Char} {cs letters : List Char} (hplain : isPlain c = true)
      (hquote : c ≠ f.quote) (hslash : f.hasEscapes = true → c ≠ '\\')
      (h : Spells f f.room cs letters) : Spells f room (c :: cs) (c :: letters)
  /-- A line break stands as it is where there may be several lines. -/
  | lineBreak {room : Nat} {cs letters : List Char} (hmulti : f.isMulti = true)
      (h : Spells f f.room cs letters) : Spells f room ('\n' :: cs) ('\n' :: letters)
  /-- An escape that does not join lines stands for its letter. -/
  | escaped {room : Nat} {c : Char} {cs code letters : List Char} (hescapes : f.hasEscapes = true)
      (hcode : ∀ rest, readEscape? (code ++ rest) = some (c, rest))
      (hjoin : ∀ rest, afterJoin? (code ++ rest) = none) (h : Spells f f.room cs letters) :
      Spells f room (c :: cs) ('\\' :: (code ++ letters))
  /-- A quote stands as it is where there is room for it. -/
  | quote {room : Nat} {cs letters : List Char} (h : Spells f room cs letters) :
      Spells f (room + 1) (f.quote :: cs) (f.quote :: letters)

section Reading

variable {f : Form} {room : Nat} {cs letters rest : List Char}

/-- No line breaks at a plain character. -/
theorem afterBreak?_of_isPlain {c : Char} (h : isPlain c = true) (cs : List Char) :
    afterBreak? (c :: cs) = none := by
  unfold afterBreak?
  split
  · rename_i heq
    rw [(List.cons.inj heq).1] at h
    exact absurd h (by decide)
  · rename_i heq
    rw [(List.cons.inj heq).1] at h
    exact absurd h (by decide)
  · rfl

theorem afterBreak?_lineFeed (cs : List Char) : afterBreak? ('\n' :: cs) = some cs := rfl

theorem quote_ne_lineFeed (f : Form) : '\n' ≠ f.quote := by cases f <;> decide

theorem quote_ne_slash (f : Form) : '\\' ≠ f.quote := by cases f <;> decide

/-- What spells a text is a few quotes, which stand for themselves, or goes on with something else
behind them. -/
theorem Spells.leading (h : Spells f room cs letters) :
    (∃ count ≤ room, cs = List.replicate count f.quote ∧
      letters = List.replicate count f.quote) ∨
    ∃ count ≤ room, ∃ c more, c ≠ f.quote ∧
      letters = List.replicate count f.quote ++ c :: more := by
  induction h with
  | nil => exact .inl ⟨0, Nat.zero_le _, rfl, rfl⟩
  | plain _ hquote _ _ _ => exact .inr ⟨0, Nat.zero_le _, _, _, hquote, rfl⟩
  | lineBreak _ _ _ => exact .inr ⟨0, Nat.zero_le _, _, _, quote_ne_lineFeed f, rfl⟩
  | escaped _ _ _ _ _ => exact .inr ⟨0, Nat.zero_le _, _, _, quote_ne_slash f, rfl⟩
  | quote _ ih =>
    rcases ih with ⟨count, hle, rfl, rfl⟩ | ⟨count, hle, c, more, hc, rfl⟩
    · exact .inl ⟨count + 1, Nat.succ_le_succ hle, rfl, rfl⟩
    · exact .inr ⟨count + 1, Nat.succ_le_succ hle, c, more, hc, rfl⟩

/-- A row of quotes ends where something else follows. -/
theorem takeWhile_quotes {q : Char} (count : Nat) (hrest : rest.head? ≠ some q) :
    (List.replicate count q ++ rest).takeWhile (· == q) = List.replicate count q := by
  have hend : rest.takeWhile (· == q) = [] := by
    cases rest with
    | nil => rfl
    | cons c rest =>
      refine List.takeWhile_cons_of_neg fun heq => hrest ?_
      rw [List.head?_cons, eq_of_beq heq]
  rw [List.takeWhile_append_of_pos fun c hc => ?_, hend, List.append_nil]
  rw [List.eq_of_mem_replicate hc, beq_self_eq_true]

/-- Fewer than three quotes close nothing. -/
theorem closeMulti?_of_few {q : Char} (count : Nat) (hcount : count < 3)
    (hrest : rest.head? ≠ some q) : closeMulti? q (List.replicate count q ++ rest) = none := by
  unfold closeMulti?
  rw [takeWhile_quotes count hrest, List.length_replicate]
  exact if_pos hcount

/-- Of up to five quotes the last three close. -/
theorem closeMulti?_of_many {q : Char} (count : Nat) (hcount : count ≤ 2)
    (hrest : rest.head? ≠ some q) :
    closeMulti? q (List.replicate (count + 3) q ++ rest) = some (List.replicate count q, rest) := by
  unfold closeMulti?
  dsimp only
  have hmin : min (count + 3 - 3) 2 = count := by omega
  have hmin' : min (count + 3) 5 = count + 3 := by omega
  rw [takeWhile_quotes _ hrest, List.length_replicate, if_neg (by omega), hmin, hmin',
    List.drop_left' List.length_replicate]

theorem Form.delimiter_of_single (h : f.isMulti = false) : f.delimiter = [f.quote] := by
  unfold Form.delimiter
  rw [h]
  rfl

theorem Form.delimiter_of_multi (h : f.isMulti = true) :
    f.delimiter = List.replicate 3 f.quote := by
  unfold Form.delimiter
  rw [h]
  rfl

/-- Nothing stands before the closing quotes. -/
theorem readLetters_delimiter (fuel : Nat) (hrest : rest.head? ≠ some f.quote) :
    readLetters f (fuel + 1) (f.delimiter ++ rest) = some ([], rest) := by
  cases hmulti : f.isMulti with
  | false =>
    rw [Form.delimiter_of_single hmulti, List.singleton_append, readLetters, if_pos rfl, hmulti]
    rfl
  | true =>
    have hclose := closeMulti?_of_many 0 (Nat.zero_le 2) hrest
    rw [Form.delimiter_of_multi hmulti, List.replicate_succ, List.cons_append, readLetters,
      if_pos rfl, if_pos hmulti, ← List.cons_append, ← List.replicate_succ, hclose]
    rfl

/-- A plain character is read as it stands. -/
theorem readLetters_plain {c : Char} (hplain : isPlain c = true) (hquote : c ≠ f.quote)
    (hslash : f.hasEscapes = true → c ≠ '\\') (fuel : Nat) (cs : List Char) :
    readLetters f (fuel + 1) (c :: cs) = withChar c (readLetters f fuel cs) := by
  have hnot : ¬ (decide (c = '\\') && f.hasEscapes) = true := by
    rw [Bool.and_eq_true, decide_eq_true_eq]
    exact fun hboth => hslash hboth.2 hboth.1
  have hbreak : (if f.isMulti then afterBreak? (c :: cs) else none) = none := by
    rw [afterBreak?_of_isPlain hplain, ite_self]
  rw [readLetters, if_neg hquote, if_neg hnot, hbreak]
  exact if_pos hplain

/-- A line break is read as it stands where there may be several lines. -/
theorem readLetters_lineBreak (hmulti : f.isMulti = true) (fuel : Nat) (cs : List Char) :
    readLetters f (fuel + 1) ('\n' :: cs) = withChar '\n' (readLetters f fuel cs) := by
  rw [readLetters, if_neg (quote_ne_lineFeed f), if_neg (by simp), if_pos hmulti,
    afterBreak?_lineFeed]

/-- An escape that does not join lines is read as its letter. -/
theorem readLetters_escaped (hescapes : f.hasEscapes = true) {c : Char} {cs rest : List Char}
    (hcode : readEscape? cs = some (c, rest)) (hjoin : afterJoin? cs = none) (fuel : Nat) :
    readLetters f (fuel + 1) ('\\' :: cs) = withChar c (readLetters f fuel rest) := by
  have hnone : (if f.isMulti then afterJoin? cs else none) = none := by rw [hjoin, ite_self]
  rw [readLetters, if_neg (quote_ne_slash f), if_pos (by rw [hescapes]; rfl), hnone]
  dsimp only
  rw [hcode]

/-- There is room for quotes only where there may be several lines, and then for two. -/
theorem Form.isMulti_of_room (h : 0 < f.room) : f.isMulti = true ∧ f.room = 2 := by
  cases hmulti : f.isMulti with
  | true => exact ⟨rfl, if_pos hmulti⟩
  | false =>
    rw [Form.room, hmulti] at h
    exact absurd h (Nat.lt_irrefl 0)

/-- What spells a text behind a quote that stands as it is closes nothing at this quote, or is a few
quotes, which are closed with it. -/
theorem Spells.closeMulti?_quote (h : Spells f room cs letters) (hroom : room < f.room)
    (hrest : rest.head? ≠ some f.quote) :
    closeMulti? f.quote (f.quote :: (letters ++ (f.delimiter ++ rest))) = none ∨
      closeMulti? f.quote (f.quote :: (letters ++ (f.delimiter ++ rest))) =
        some (f.quote :: cs, rest) := by
  obtain ⟨hmulti, htwo⟩ := Form.isMulti_of_room (Nat.zero_lt_of_lt hroom)
  rcases h.leading with ⟨count, hle, rfl, rfl⟩ | ⟨count, hle, c, more, hc, hletters⟩
  · have hrow : f.quote :: (List.replicate count f.quote ++ (f.delimiter ++ rest)) =
        List.replicate (count + 1 + 3) f.quote ++ rest := by
      rw [Form.delimiter_of_multi hmulti, ← List.append_assoc, List.replicate_append_replicate,
        ← List.cons_append, ← List.replicate_succ]
    rw [hrow, closeMulti?_of_many (count + 1) (by omega) hrest, List.replicate_succ]
    exact .inr rfl
  · have hbehind : (c :: (more ++ (f.delimiter ++ rest))).head? ≠ some f.quote :=
      fun heq => hc (Option.some.inj heq)
    have hrow : f.quote :: (letters ++ (f.delimiter ++ rest)) =
        List.replicate (count + 1) f.quote ++ c :: (more ++ (f.delimiter ++ rest)) := by
      rw [hletters, List.append_assoc, List.cons_append]
      rfl
    rw [hrow]
    exact .inl (closeMulti?_of_few (count + 1) (by omega) hbehind)

/-- What spells a text between quotes is read as the text. -/
theorem readLetters_of_spells (h : Spells f room cs letters) (hroom : room ≤ f.room)
    (hrest : rest.head? ≠ some f.quote) {fuel : Nat}
    (hfuel : (letters ++ (f.delimiter ++ rest)).length < fuel) :
    readLetters f fuel (letters ++ (f.delimiter ++ rest)) = some (cs, rest) := by
  induction h generalizing fuel with
  | nil =>
    obtain ⟨fuel, rfl⟩ := Nat.exists_eq_succ_of_ne_zero (Nat.ne_zero_of_lt hfuel)
    exact readLetters_delimiter fuel hrest
  | plain hplain hquote hslash _ ih =>
    obtain ⟨fuel, rfl⟩ := Nat.exists_eq_succ_of_ne_zero (Nat.ne_zero_of_lt hfuel)
    rw [List.cons_append, readLetters_plain hplain hquote hslash,
      ih (Nat.le_refl _) (Nat.lt_of_succ_lt_succ hfuel)]
    rfl
  | lineBreak hmulti _ ih =>
    obtain ⟨fuel, rfl⟩ := Nat.exists_eq_succ_of_ne_zero (Nat.ne_zero_of_lt hfuel)
    rw [List.cons_append, readLetters_lineBreak hmulti,
      ih (Nat.le_refl _) (Nat.lt_of_succ_lt_succ hfuel)]
    rfl
  | escaped hescapes hcode hjoin _ ih =>
    obtain ⟨fuel, rfl⟩ := Nat.exists_eq_succ_of_ne_zero (Nat.ne_zero_of_lt hfuel)
    rw [List.cons_append, List.append_assoc, List.length_cons, List.length_append] at hfuel
    rw [List.cons_append, List.append_assoc, readLetters_escaped hescapes (hcode _) (hjoin _),
      ih (Nat.le_refl _) (by omega)]
    rfl
  | quote h ih =>
    obtain ⟨fuel, rfl⟩ := Nat.exists_eq_succ_of_ne_zero (Nat.ne_zero_of_lt hfuel)
    obtain ⟨hmulti, -⟩ := Form.isMulti_of_room (Nat.zero_lt_of_lt hroom)
    rw [List.cons_append, readLetters, if_pos rfl, if_pos hmulti]
    -- Either the row of quotes ends here and with it the text, or the quote is one of its letters.
    rcases h.closeMulti?_quote hroom hrest with hclose | hclose
    · rw [hclose]
      dsimp only
      rw [ih (Nat.le_of_succ_le hroom) (Nat.lt_of_succ_lt_succ hfuel)]
      rfl
    · rw [hclose]

end Reading

/-! ## What is written -/

section Writing

variable {f : Form}

theorem Form.quote_of_hasEscapes (h : f.hasEscapes = true) : f.quote = '"' := by
  cases f <;> first | rfl | exact nomatch h

/-- Escapes begin with a letter, so they join no lines. -/
theorem afterJoin?_of_solid {c : Char} (hblank : isBlank c = false) (hfeed : c ≠ '\n')
    (hreturn : c ≠ '\r') (cs : List Char) : afterJoin? (c :: cs) = none := by
  unfold afterJoin?
  rw [List.dropWhile_cons_of_neg (by rw [hblank]; exact Bool.false_ne_true), Option.map_eq_none_iff]
  unfold afterBreak?
  split
  · rename_i heq
    exact absurd (List.cons.inj heq).1 hfeed
  · rename_i heq
    exact absurd (List.cons.inj heq).1 hreturn
  · rfl

/-- The code of a control character is its number. -/
theorem readEscape?_code {c : Char} (h : c.toNat < 128) (rest : List Char) :
    readEscape? ((['u', '0', '0'] ++ (Text.hex2 c.toNat).map Char.toUpper) ++ rest) =
      some (c, rest) := by
  have hvalue : ∀ n < 128, Text.digitsValue? 16 0
      (['0', '0'] ++ (Text.hex2 n).map Char.toUpper) = some n ∧ Text.isCode n = true := by
    decide +kernel
  obtain ⟨hdigits, hcode⟩ := hvalue c.toNat h
  have hread : readEscape? ((['u', '0', '0'] ++ (Text.hex2 c.toNat).map Char.toUpper) ++ rest) =
      readCode? 4 ((['0', '0'] ++ (Text.hex2 c.toNat).map Char.toUpper) ++ rest) := rfl
  rw [hread]
  have hlength : (['0', '0'] ++ (Text.hex2 c.toNat).map Char.toUpper).length = 4 := rfl
  unfold readCode?
  dsimp only
  rw [List.take_left' hlength, List.drop_left' hlength, hlength, if_neg (Nat.lt_irrefl 4), hdigits]
  show (if Text.isCode c.toNat = true then _ else _) = _
  rw [if_pos hcode, Char.ofNat_toNat]

theorem toNat_lt_of_isControl {c : Char} (h : isControl c = true) : c.toNat < 128 := by
  unfold isControl at h
  simp only [Bool.or_eq_true, Bool.and_eq_true, decide_eq_true_eq, beq_iff_eq] at h
  omega

/-- A character that is no quote is spelled by its escape. -/
theorem spells_escapeChar (hescapes : f.hasEscapes = true) {c : Char} (hquote : c ≠ '"')
    {cs letters : List Char} (h : Spells f f.room cs letters) {room : Nat} :
    Spells f room (c :: cs) (escapeChar f c ++ letters) := by
  -- After a backslash the letters of an escape are read as such, as they begin with neither a blank
  -- nor a line break.
  have hcode (code : List Char) (e : Char)
      (hread : ∀ rest, readEscape? (code ++ rest) = some (e, rest))
      (hsolid : ∀ first more, code = first :: more →
        isBlank first = false ∧ first ≠ '\n' ∧ first ≠ '\r') (hsome : code ≠ []) :
      Spells f room (e :: cs) (('\\' :: code) ++ letters) := by
    refine .escaped hescapes hread (fun rest => ?_) h
    obtain ⟨first, more, rfl⟩ := List.exists_cons_of_ne_nil hsome
    obtain ⟨hblank, hfeed, hreturn⟩ := hsolid first more rfl
    exact afterJoin?_of_solid hblank hfeed hreturn _
  have hletter (e : Char) (l : Char) (hread : ∀ rest, readEscape? (l :: rest) = some (e, rest))
      (hblank : isBlank l = false) (hfeed : l ≠ '\n') (hreturn : l ≠ '\r') :
      Spells f room (e :: cs) (['\\', l] ++ letters) :=
    hcode [l] e hread (fun _ _ heq => (List.cons.inj heq).1 ▸ ⟨hblank, hfeed, hreturn⟩)
      (List.cons_ne_nil _ _)
  unfold escapeChar
  split
  · exact hletter _ 'b' (fun _ => rfl) (by decide) (by decide) (by decide)
  · exact hletter _ 't' (fun _ => rfl) (by decide) (by decide) (by decide)
  · split
    · exact .lineBreak ‹_› h
    · exact hletter _ 'n' (fun _ => rfl) (by decide) (by decide) (by decide)
  · exact hletter _ 'f' (fun _ => rfl) (by decide) (by decide) (by decide)
  · exact hletter _ 'r' (fun _ => rfl) (by decide) (by decide) (by decide)
  · exact hletter _ '\\' (fun _ => rfl) (by decide) (by decide) (by decide)
  · rename_i hb ht hn hf hr hslash
    split
    · rename_i hcontrol
      refine hcode _ c (readEscape?_code (toNat_lt_of_isControl hcontrol)) (fun _ _ heq => ?_)
        (List.cons_ne_nil _ _)
      rw [← (List.cons.inj heq).1]
      decide
    · rename_i hcontrol
      refine .plain ?_ ?_ (fun _ => ?_) h
      · unfold isPlain
        rw [Bool.eq_false_iff.2 hcontrol, Bool.not_false, Bool.true_and, bne_iff_ne]
        exact fun heq => hn heq
      · rwa [Form.quote_of_hasEscapes hescapes]
      · exact fun heq => hslash heq

/-- A text is spelled by its escapes. -/
theorem spells_escape (hescapes : f.hasEscapes = true) (cs : List Char) {row : Nat}
    (hrow : row ≤ f.room) : Spells f (f.room - row) cs (escape f row cs) := by
  have hquote := Form.quote_of_hasEscapes hescapes
  -- A quote is left bare as long as the form has room for one more in its row; any other character
  -- ends the row.
  induction cs generalizing row with
  | nil => exact .nil
  | cons c cs ih =>
    unfold escape
    split
    · rename_i heq
      split
      · rename_i hlt
        obtain ⟨k, hk⟩ : ∃ k, f.room - row = k + 1 ∧ f.room - (row + 1) = k :=
          ⟨f.room - (row + 1), by omega, rfl⟩
        rw [hk.1, heq, ← hquote]
        exact .quote (hk.2 ▸ ih hlt)
      · have hcode (rest : List Char) : readEscape? (['"'] ++ rest) = some ('"', rest) := rfl
        rw [heq]
        exact .escaped hescapes hcode
          (fun rest => afterJoin?_of_solid (by decide) (by decide) (by decide) rest)
          (ih (Nat.zero_le _))
    · rename_i hne
      exact spells_escapeChar hescapes hne (ih (Nat.zero_le _))

/-- A row is no shorter than what there is of it. -/
theorem le_longestRow (x : Char) (cs : List Char) (current : Nat) :
    current ≤ longestRow x current cs := by
  induction cs generalizing current with
  | nil => exact Nat.le_refl _
  | cons c cs ih =>
    unfold longestRow
    split
    · exact Nat.le_trans (Nat.le_succ _) (ih _)
    · exact Nat.le_max_left _ _

/-- A text spells itself in a form without escapes that has room for it. -/
theorem spells_self (hescapes : f.hasEscapes = false) (cs : List Char) {row : Nat}
    (hcalm : ∀ c ∈ cs, isControl c = false) (hlines : '\n' ∈ cs → f.isMulti = true)
    (hrow : longestRow f.quote row cs ≤ f.room) : Spells f (f.room - row) cs cs := by
  induction cs generalizing row with
  | nil => exact .nil
  | cons c cs ih =>
    obtain ⟨hc, hcs⟩ := List.forall_mem_cons.1 hcalm
    have hrest : '\n' ∈ cs → f.isMulti = true := fun h => hlines (List.mem_cons_of_mem _ h)
    unfold longestRow at hrow
    split at hrow
    · rename_i heq
      -- The longest row has room, so the quote does; another character begins a new row.
      have hlt : row + 1 ≤ f.room := Nat.le_trans (le_longestRow _ _ _) hrow
      obtain ⟨k, hk⟩ : ∃ k, f.room - row = k + 1 ∧ f.room - (row + 1) = k :=
        ⟨f.room - (row + 1), by omega, rfl⟩
      rw [hk.1, heq]
      exact .quote (hk.2 ▸ ih hcs hrest hrow)
    · rename_i hne
      have htail : Spells f (f.room - 0) cs cs := ih hcs hrest (by omega)
      by_cases hfeed : c = '\n'
      · rw [hfeed]
        exact .lineBreak (hlines (hfeed ▸ List.mem_cons_self)) htail
      · refine .plain ?_ hne (fun h => ?_) htail
        · unfold isPlain
          rw [hc, Bool.not_false, Bool.true_and, bne_iff_ne]
          exact hfeed
        · rw [hescapes] at h
          exact Bool.noConfusion h

/-- The letters of a text in a form. -/
def Form.letters (f : Form) (cs : List Char) : List Char :=
  if f.hasEscapes then escape f 0 cs else cs

/-- A form without escapes is chosen for texts that need none in it. -/
theorem calm_of_formOf {cs : List Char} (h : (formOf cs).hasEscapes = false) :
    (∀ c ∈ cs, isControl c = false) ∧ ('\n' ∈ cs → (formOf cs).isMulti = true) ∧
      longestRow (formOf cs).quote 0 cs ≤ (formOf cs).room := by
  have hcalm (hany : (!cs.any isControl) = true) : ∀ c ∈ cs, isControl c = false := by
    rw [Bool.not_eq_true', List.any_eq_false] at hany
    exact fun c hc => Bool.eq_false_iff.2 (hany c hc)
  revert h
  unfold formOf
  dsimp only
  -- The forms with escapes are ruled out; each of the other two was chosen for what is claimed.
  split_ifs with hbasic hliteral hmultiBasic hmultiLiteral honeLine
  · exact fun h => nomatch h
  · intro _
    simp only [Bool.and_eq_true, decide_eq_true_eq] at hliteral
    refine ⟨hcalm hliteral.1.1, fun hmem => ?_, Nat.le_of_eq hliteral.2⟩
    have hnot := hliteral.1.2
    rw [Bool.not_eq_true', List.contains_eq_mem, decide_eq_false_iff_not] at hnot
    exact absurd hmem hnot
  · exact fun h => nomatch h
  · intro _
    simp only [Bool.and_eq_true, decide_eq_true_eq] at hmultiLiteral
    exact ⟨hcalm hmultiLiteral.1, fun _ => rfl, hmultiLiteral.2⟩
  · exact fun h => nomatch h
  · exact fun h => nomatch h

/-- What is written between the quotes spells the text. -/
theorem spells_letters (cs : List Char) :
    Spells (formOf cs) (formOf cs).room cs ((formOf cs).letters cs) := by
  unfold Form.letters
  cases hescapes : (formOf cs).hasEscapes with
  | true => exact spells_escape hescapes cs (Nat.zero_le _)
  | false =>
    obtain ⟨hcalm, hlines, hrow⟩ := calm_of_formOf hescapes
    exact spells_self hescapes cs hcalm hlines hrow

/-- In a form of several lines the letters begin where a line break is dropped. -/
theorem dropBreak_letters {room : Nat} {cs letters : List Char} (hmulti : f.isMulti = true)
    (rest : List Char) (h : Spells f room cs letters) :
    dropBreak ((if f.isMulti && cs.contains '\n' then ['\n'] else []) ++
      (letters ++ (f.delimiter ++ rest))) = letters ++ (f.delimiter ++ rest) := by
  rw [hmulti, Bool.true_and]
  split
  · rfl
  · rename_i hlines
    have hlines : '\n' ∉ cs := fun hmem => hlines (List.contains_iff_mem.2 hmem)
    -- Without a line break in the text, none begins what spells it.
    have hnone : afterBreak? (letters ++ (f.delimiter ++ rest)) = none := by
      have hquote (more : List Char) : afterBreak? (f.quote :: more) = none := by
        cases f <;> rfl
      cases h with
      | nil =>
        rw [List.nil_append, Form.delimiter_of_multi hmulti, List.replicate_succ, List.cons_append]
        exact hquote _
      | plain hplain => exact afterBreak?_of_isPlain hplain _
      | lineBreak => exact absurd List.mem_cons_self hlines
      | escaped => rfl
      | quote => exact hquote _
    unfold dropBreak
    rw [List.nil_append, hnone, Option.getD_none]

theorem readText?_basic {cs : List Char} (h : ∀ more, cs ≠ '"' :: '"' :: more) :
    readText? ('"' :: cs) = readForm .basic cs := by
  unfold readText?
  split
  · rename_i heq
    exact absurd (List.cons.inj heq).2 (h _)
  · rename_i heq
    rw [(List.cons.inj heq).2]
  · rename_i heq
    exact absurd (List.cons.inj heq).1 (by decide)
  · rename_i heq
    exact absurd (List.cons.inj heq).1 (by decide)
  · rename_i hbasic _ _
    exact absurd rfl (hbasic cs)

theorem readText?_literal {cs : List Char} (h : ∀ more, cs ≠ '\x27' :: '\x27' :: more) :
    readText? ('\x27' :: cs) = readForm .literal cs := by
  unfold readText?
  split
  · rename_i heq
    exact absurd (List.cons.inj heq).1 (by decide)
  · rename_i heq
    exact absurd (List.cons.inj heq).1 (by decide)
  · rename_i heq
    exact absurd (List.cons.inj heq).2 (h _)
  · rename_i heq
    rw [(List.cons.inj heq).2]
  · rename_i hliteral
    exact absurd rfl (hliteral cs)

/-- The opening quotes tell the form. -/
theorem readText?_delimiter {letters cs rest : List Char} (h : Spells f f.room cs letters)
    (hrest : rest.head? ≠ some f.quote) (lead : List Char)
    (hlead : f.isMulti = false → lead = []) :
    readText? (f.delimiter ++ (lead ++ (letters ++ (f.delimiter ++ rest)))) =
      readForm f (lead ++ (letters ++ (f.delimiter ++ rest))) := by
  cases hmulti : f.isMulti with
  | true =>
    rw [Form.delimiter_of_multi hmulti]
    cases f with
    | basic | literal => exact nomatch hmulti
    | multiBasic | multiLiteral => rfl
  | false =>
    rw [hlead hmulti, Form.delimiter_of_single hmulti, List.nil_append]
    -- No second quote follows the first but that of an empty string, behind which there is none.
    have hsecond (more : List Char) :
        letters ++ ([f.quote] ++ rest) ≠ f.quote :: f.quote :: more := by
      intro heq
      have hroom : f.room = 0 := by
        unfold Form.room
        rw [hmulti]
        rfl
      rcases h.leading with ⟨count, hle, -, rfl⟩ | ⟨count, hle, c, behind, hc, rfl⟩
      · obtain rfl : count = 0 := by omega
        have hmore : rest = f.quote :: more := (List.cons.inj heq).2
        exact hrest (by rw [hmore, List.head?_cons])
      · obtain rfl : count = 0 := by omega
        exact hc (List.cons.inj heq).1
    cases f with
    | multiBasic | multiLiteral => exact nomatch hmulti
    | basic => exact readText?_basic hsecond
    | literal => exact readText?_literal hsecond

/-- A string comes back as it was written, whatever follows it that is no quote. -/
theorem readText?_writeText (cs : List Char) {rest : List Char}
    (hrest : ∀ q ∈ ['"', '\x27'], rest.head? ≠ some q) :
    readText? (writeText cs ++ rest) = some (cs, rest) := by
  have hspells := spells_letters cs
  have hquote : rest.head? ≠ some (formOf cs).quote := by
    cases (formOf cs) with
    | basic | multiBasic => exact hrest _ List.mem_cons_self
    | literal | multiLiteral => exact hrest _ (List.mem_cons_of_mem _ List.mem_cons_self)
  have hwritten : writeText cs ++ rest = (formOf cs).delimiter ++
      ((if (formOf cs).isMulti && cs.contains '\n' then ['\n'] else []) ++
        ((formOf cs).letters cs ++ ((formOf cs).delimiter ++ rest))) := by
    unfold writeText writeForm Form.letters
    simp only [List.append_assoc]
  rw [hwritten]
  -- Only that the form spells the text is used from here on, not which form was chosen.
  generalize (formOf cs).letters cs = letters at hspells
  generalize formOf cs = f at hspells hquote
  rw [readText?_delimiter hspells hquote _ fun hmulti => by rw [hmulti]; rfl]
  unfold readForm
  cases hmulti : f.isMulti with
  | true =>
    have hdrop := dropBreak_letters hmulti rest hspells
    rw [hmulti] at hdrop
    rw [if_pos rfl, hdrop]
    exact readLetters_of_spells hspells (Nat.le_refl _) hquote (Nat.lt_succ_self _)
  | false => exact readLetters_of_spells hspells (Nat.le_refl _) hquote (Nat.lt_succ_self _)

end Writing

end ViewForge.Data.Toml
