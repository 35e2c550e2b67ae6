import ViewForge.Proofs.Template.Cut

/-!
# Unknown markers and literal parts

The scan for unknown markers and the cutting of a template are in step until a marker begins with
the dollar sign that would close an unknown word: in `$foo$name$` the scan reports `$foo$`, and the
cutting takes the second dollar sign for the marker `$name$` and leaves the text `$foo`.

A text is in such a place exactly if it stands right before a marker and an odd number of words,
each behind a dollar sign, stand at its end (`SharesDollar`): the words are paired from the left,
and the last one remains open. `reported_within_iff` says that this is all that can go wrong.
Without it each reported word lies in one text, which is copied as it stands, and words are reported
exactly if some text holds one (`unknown_agree_iff`).
-/

namespace ViewForge.Template

/-! ## Words at the end of a text -/

/-- Whether a text is a word of small letters of ASCII. -/
def isWord (cs : List Char) : Bool := !cs.isEmpty && cs.all Char.isLower

theorem isWord_eq_true_iff {cs : List Char} :
    isWord cs = true ↔ cs ≠ [] ∧ ∀ c ∈ cs, c.isLower = true := by
  simp [isWord]

theorem dollar_notMem_of_isWord {word : List Char} (h : isWord word = true) : '$' ∉ word :=
  fun hmem => absurd ((isWord_eq_true_iff.1 h).2 '$' hmem) (by decide)

/-- The number of words at the end of a list of texts. -/
def endRun (texts : List (List Char)) : Nat := (texts.reverse.takeWhile isWord).length

/-- A text in front of others counts if it and all others are words. -/
theorem endRun_cons (text : List Char) (texts : List (List Char)) :
    endRun (text :: texts) =
      if isWord text && texts.all isWord then texts.length + 1 else endRun texts := by
  have hall : texts.all isWord = true ↔ texts.reverse.takeWhile isWord = texts.reverse := by
    rw [List.takeWhile_eq_self_iff, List.all_eq_true]
    simp only [List.mem_reverse]
  have hlength : (texts.reverse.takeWhile isWord).length = texts.reverse.length ↔
      texts.reverse.takeWhile isWord = texts.reverse :=
    ⟨(List.takeWhile_prefix _).eq_of_length, congrArg List.length⟩
  unfold endRun
  rw [List.reverse_cons, List.takeWhile_append]
  by_cases htexts : texts.all isWord = true
  · rw [if_pos (hlength.2 (hall.1 htexts)), htexts, Bool.and_true]
    cases htext : isWord text <;> simp [htext, hall.1 htexts]
  · rw [if_neg fun h => htexts (hall.2 (hlength.1 h)), Bool.eq_false_iff.2 htexts, Bool.and_false,
      if_neg Bool.false_ne_true]

/-- The number of words at the end of a text, each behind a dollar sign. -/
def wordsAtEnd (cs : List Char) : Nat := endRun (cs.splitOn '$').tail

/-- Whether a word is open at the end of a text: the words there, each behind a dollar sign, are odd
in number, so that one of them remains if they are paired from the left. -/
def LeavesOpen (cs : List Char) : Prop := wordsAtEnd cs % 2 = 1

theorem not_leavesOpen_nil : ¬ LeavesOpen [] := by
  simp [LeavesOpen, wordsAtEnd, endRun]

/-- A character that is no dollar sign does not matter. -/
theorem leavesOpen_cons {c : Char} (hc : c ≠ '$') (cs : List Char) :
    LeavesOpen (c :: cs) ↔ LeavesOpen cs := by
  have htail : ((c :: cs).splitOn '$').tail = (cs.splitOn '$').tail := by
    rw [List.splitOn_cons_eq_if_modifyHead, if_neg (by simpa using hc), List.tail_modifyHead]
  rw [LeavesOpen, wordsAtEnd, htail]
  rfl

/-- What stands between dollar signs begins with what stands before the first of them. -/
theorem splitOn_dollar (cs : List Char) :
    cs.splitOn '$' = cs.takeWhile (· != '$') :: (cs.splitOn '$').tail := by
  by_cases hmem : '$' ∈ cs
  · obtain ⟨front, rest, rfl, hfront⟩ := List.eq_append_cons_of_mem hmem
    rw [List.splitOn_append_cons_self_of_not_mem hfront,
      List.takeWhile_append_of_pos (Text.bne_of_notMem hfront),
      List.takeWhile_cons_of_neg (by decide), List.append_nil, List.tail_cons]
  · rw [List.splitOn_eq_singleton hmem, List.takeWhile_eq_self_iff.2 (Text.bne_of_notMem hmem),
      List.tail_cons]

theorem wordsAtEnd_dollar (cs : List Char) : wordsAtEnd ('$' :: cs) = endRun (cs.splitOn '$') := by
  rw [wordsAtEnd, List.splitOn_cons_eq_if_modifyHead, if_pos (by decide), List.tail_cons]

/-- A dollar sign with no word behind it does not matter. -/
theorem leavesOpen_dollar {cs : List Char} (h : isWord (cs.takeWhile (· != '$')) = false) :
    LeavesOpen ('$' :: cs) ↔ LeavesOpen cs := by
  rw [LeavesOpen, wordsAtEnd_dollar, splitOn_dollar, endRun_cons, h, Bool.false_and,
    if_neg Bool.false_ne_true]
  rfl

/-- A word between two dollar signs is closed. -/
theorem leavesOpen_closed {word : List Char} (hword : isWord word = true) (cs : List Char) :
    LeavesOpen ('$' :: (word ++ '$' :: cs)) ↔ LeavesOpen cs := by
  have hsplit : (word ++ '$' :: cs).splitOn '$' = word :: cs.splitOn '$' :=
    List.splitOn_append_cons_self_of_not_mem (dollar_notMem_of_isWord hword) cs
  have hrun (texts : List (List Char)) (h : texts.all isWord = true) :
      endRun texts = texts.length := by
    rw [endRun, List.takeWhile_eq_self_iff.2, List.length_reverse]
    exact fun text htext => List.all_eq_true.1 h text (List.mem_reverse.1 htext)
  rw [LeavesOpen, wordsAtEnd_dollar, hsplit, LeavesOpen, wordsAtEnd, splitOn_dollar]
  generalize (cs.splitOn '$').tail = texts
  rw [endRun_cons, hword, Bool.true_and, List.all_cons, List.tail_cons, endRun_cons]
  -- The word and the text behind it both count, or neither does.
  cases hfirst : isWord (cs.takeWhile (· != '$')) with
  | false => rw [Bool.false_and, if_neg Bool.false_ne_true, if_neg Bool.false_ne_true]
  | true =>
    cases hall : texts.all isWord with
    | false => rfl
    | true =>
      rw [hrun texts hall, Bool.and_self, if_pos rfl, List.length_cons]
      omega

/-- A word behind a dollar sign is open. -/
theorem leavesOpen_word {word : List Char} (hword : isWord word = true) :
    LeavesOpen ('$' :: word) := by
  rw [LeavesOpen, wordsAtEnd_dollar, List.splitOn_eq_singleton (dollar_notMem_of_isWord hword),
    endRun_cons, hword]
  rfl

/-! ## Letters in front of parts -/

/-- Letters in front of parts; they join a text that comes first. -/
def prepend (cs : List Char) (parts : List Part) : List Part := cs.foldr Part.cons parts

theorem prepend_eq_text {cs : List Char} (h : cs ≠ []) (parts : List Part) :
    prepend cs parts = .text (cs ++ leadText parts) :: behindText parts := by
  induction cs with
  | nil => exact absurd rfl h
  | cons c cs ih =>
    rw [prepend, List.foldr_cons, Part.cons_eq_text]
    by_cases hcs : cs = []
    · subst hcs
      rfl
    · have htext := ih hcs
      unfold prepend at htext
      rw [htext]
      rfl

/-- Cutting passes letters without a dollar sign. -/
theorem partsFrom_append {front : List Char} (h : '$' ∉ front) (offset : Nat) (cs : List Char) :
    partsFrom offset (front ++ cs) = prepend front (partsFrom (offset + byteSize front) cs) := by
  induction front generalizing offset with
  | nil => rfl
  | cons c front ih =>
    have hnone : Marker.leading? (c :: (front ++ cs)) = none := by
      rw [Option.eq_none_iff_forall_ne_some]
      rintro ⟨m, rest⟩ hlead
      obtain ⟨rfl, -⟩ := List.cons.inj (eq_append_of_leading? hlead)
      exact h List.mem_cons_self
    rw [List.cons_append, partsFrom_cons hnone, ih fun hmem => h (List.mem_cons_of_mem _ hmem),
      byteSize_cons, Nat.add_assoc]
    rfl

/-! ## Shared dollar signs -/

/-- Whether parts begin with a marker. -/
def BeginsMarker (parts : List Part) : Prop :=
  ∃ m offset after, parts = .marker m offset :: after

/-- Whether a text that leaves a word open stands right before a marker, whose first dollar sign is
then the one that would close the word. -/
def SharesDollar (parts : List Part) : Prop :=
  ∃ before letters after, parts = before ++ .text letters :: after ∧ BeginsMarker after ∧
    LeavesOpen letters

theorem sharesDollar_marker {m : Marker} {offset : Nat} {parts : List Part} :
    SharesDollar (.marker m offset :: parts) ↔ SharesDollar parts := by
  constructor
  · rintro ⟨before, letters, after, hparts, hshares⟩
    cases before with
    | nil => exact nomatch hparts
    | cons first before =>
      exact ⟨before, letters, after, (List.cons.inj hparts).2, hshares⟩
  · rintro ⟨before, letters, after, rfl, hshares⟩
    exact ⟨.marker m offset :: before, letters, after, rfl, hshares⟩

theorem sharesDollar_text {letters : List Char} {parts : List Part} :
    SharesDollar (.text letters :: parts) ↔
      BeginsMarker parts ∧ LeavesOpen letters ∨ SharesDollar parts := by
  constructor
  · rintro ⟨before, letters', after, hparts, hshares⟩
    cases before with
    | nil =>
      obtain ⟨htext, rfl⟩ := List.cons.inj hparts
      obtain rfl := Part.text.inj htext
      exact .inl hshares
    | cons first before =>
      exact .inr ⟨before, letters', after, (List.cons.inj hparts).2, hshares⟩
  · rintro (hshares | ⟨before, letters', after, rfl, hshares⟩)
    · exact ⟨[], letters, parts, rfl, hshares⟩
    · exact ⟨.text letters :: before, letters', after, rfl, hshares⟩

theorem sharesDollar_lead (parts : List Part) :
    SharesDollar parts ↔ BeginsMarker (behindText parts) ∧ LeavesOpen (leadText parts) ∨
      SharesDollar (behindText parts) := by
  rcases eq_behindText_or parts with hparts | ⟨hparts, hlead⟩
  · conv_lhs => rw [hparts]
    exact sharesDollar_text
  · rw [hlead, ← hparts]
    exact ⟨.inr, fun h => h.resolve_left fun hopen => not_leavesOpen_nil hopen.2⟩

/-- Letters in front do not matter if they change nothing in what the text before a marker leaves
open. -/
theorem sharesDollar_prepend {cs : List Char} {parts : List Part}
    (h : BeginsMarker (behindText parts) →
      (LeavesOpen (cs ++ leadText parts) ↔ LeavesOpen (leadText parts))) :
    SharesDollar (prepend cs parts) ↔ SharesDollar parts := by
  by_cases hcs : cs = []
  · rw [hcs]
    rfl
  · rw [prepend_eq_text hcs, sharesDollar_text, sharesDollar_lead parts]
    exact or_congr_left (and_congr_right h)

/-- A text before a marker is followed by a dollar sign. -/
theorem BeginsMarker.letters {parts : List Part} (h : BeginsMarker (behindText parts)) :
    ∃ rest, lettersOf parts = leadText parts ++ '$' :: rest := by
  obtain ⟨m, offset, after, hafter⟩ := h
  refine ⟨m.word ++ ['$'] ++ lettersOf after, ?_⟩
  rw [lettersOf_eq_leadText, hafter]
  simp [Part.letters, Marker.spelling]

/-! ## Where reported words lie -/

/-- Whether a text that stands at an offset lies in one text among parts that begin at an offset. -/
def LiesIn (offset : Nat) (parts : List Part) (found : Nat × List Char) : Prop :=
  ∃ before letters after front back, parts = before ++ .text letters :: after ∧
    letters = front ++ (found.2 ++ back) ∧
    found.1 = offset + byteSize (lettersOf before ++ front)

section Reported

variable {offset : Nat} {parts : List Part} {found : Nat × List Char}

theorem LiesIn.le (h : LiesIn offset parts found) : offset ≤ found.1 := by
  obtain ⟨before, letters, after, front, back, -, -, hplace⟩ := h
  omega

theorem liesIn_cons {p : Part} :
    LiesIn offset (p :: parts) found ↔
      (∃ front back, p = .text (front ++ (found.2 ++ back)) ∧
        found.1 = offset + byteSize front) ∨
      LiesIn (offset + byteSize p.letters) parts found := by
  constructor
  · rintro ⟨before, letters, after, front, back, hparts, rfl, hplace⟩
    -- The part that holds the word is the first one, or one behind it at a later offset.
    cases before with
    | nil =>
      obtain ⟨rfl, rfl⟩ := List.cons.inj hparts
      exact .inl ⟨front, back, rfl, hplace⟩
    | cons first before =>
      obtain ⟨rfl, hbehind⟩ := List.cons.inj hparts
      refine .inr ⟨before, _, after, front, back, hbehind, rfl, ?_⟩
      rw [hplace, lettersOf_cons, List.append_assoc, byteSize_append, Nat.add_assoc]
  · rintro (⟨front, back, rfl, hplace⟩ | ⟨before, letters, after, front, back, rfl, rfl, hplace⟩)
    · exact ⟨[], _, parts, front, back, rfl, rfl, hplace⟩
    · refine ⟨p :: before, _, after, front, back, rfl, rfl, ?_⟩
      rw [hplace, lettersOf_cons, List.append_assoc p.letters, byteSize_append p.letters,
        Nat.add_assoc]

theorem liesIn_lead (hsome : found.2 ≠ []) :
    LiesIn offset parts found ↔
      (∃ front back, leadText parts = front ++ (found.2 ++ back) ∧
        found.1 = offset + byteSize front) ∨
      LiesIn (offset + byteSize (leadText parts)) (behindText parts) found := by
  rcases eq_behindText_or parts with hparts | ⟨hparts, hlead⟩
  · conv_lhs => rw [hparts]
    rw [liesIn_cons]
    simp only [Part.text.injEq, Part.letters]
  · rw [hlead, ← hparts, byteSize_nil, Nat.add_zero]
    refine ⟨.inr, fun h => h.resolve_left ?_⟩
    rintro ⟨front, back, hnil, -⟩
    simp [hsome] at hnil

/-- What stands behind letters in front of parts lies in one text exactly if it does so without
them. -/
theorem liesIn_prepend {cs : List Char} (hsome : found.2 ≠ [])
    (hplace : offset + byteSize cs ≤ found.1) :
    LiesIn offset (prepend cs parts) found ↔ LiesIn (offset + byteSize cs) parts found := by
  by_cases hcs : cs = []
  · rw [hcs]
    rfl
  · rw [prepend_eq_text hcs]
    refine liesIn_cons.trans (Iff.trans ?_ (liesIn_lead hsome).symm)
    have hbehind : offset + byteSize (Part.text (cs ++ leadText parts)).letters =
        offset + byteSize cs + byteSize (leadText parts) := by
      show offset + byteSize (cs ++ leadText parts) = _
      rw [byteSize_append, Nat.add_assoc]
    rw [hbehind]
    refine or_congr_left ?_
    constructor
    · rintro ⟨front, back, htext, hfound⟩
      rcases List.append_eq_append_iff.1 (Part.text.inj htext) with
        ⟨inside, rfl, hlead⟩ | ⟨inside, rfl, hlead⟩
      · refine ⟨inside, back, hlead, ?_⟩
        rw [hfound, byteSize_append, Nat.add_assoc]
      · -- It would begin before the parts.
        cases inside with
        | nil =>
          refine ⟨[], back, hlead.symm, ?_⟩
          rw [hfound, List.append_nil]
          rfl
        | cons c inside =>
          have hpos := byteSize_pos (List.cons_ne_nil c inside)
          rw [byteSize_append] at hplace
          omega
    · rintro ⟨front, back, hlead, hfound⟩
      refine ⟨cs ++ front, back, ?_, ?_⟩
      · rw [hlead, List.append_assoc]
      · rw [hfound, byteSize_append, Nat.add_assoc]

/-! ## The scan with offsets -/

/-- The unknown markers of a text that begins at a byte offset, with their offsets. The fuel is at
least the length of the text. -/
def unknownAtWith : Nat → Nat → List Char → List (Nat × List Char)
  | 0, _, _ => []
  | _, _, [] => []
  | fuel + 1, offset, c :: cs =>
    if c = '$' then
      match Marker.leading? (c :: cs) with
      | some (m, rest) => unknownAtWith fuel (offset + byteSize m.spelling) rest
      | none =>
        let inner := cs.takeWhile (· != '$')
        match cs.dropWhile (· != '$') with
        | [] => []
        | _ :: rest =>
          if isWord inner then
            (offset, '$' :: inner ++ ['$']) ::
              unknownAtWith fuel (offset + byteSize ('$' :: inner ++ ['$'])) rest
          else unknownAtWith fuel (offset + c.utf8Size) cs
    else unknownAtWith fuel (offset + c.utf8Size) cs

/-- The unknown markers of a template with their byte offsets. -/
def unknownAt (template : List Char) : List (Nat × List Char) :=
  unknownAtWith template.length 0 template

/-- Without the offsets, the scan is the one for unknown markers. -/
theorem map_snd_unknownAtWith (fuel offset : Nat) (cs : List Char) :
    (unknownAtWith fuel offset cs).map (·.2) = unknownWith fuel cs := by
  induction fuel generalizing offset cs with
  | zero => rfl
  | succ fuel ih =>
    cases cs with
    | nil => rfl
    | cons c cs =>
      rw [unknownAtWith, unknownWith]
      -- Both scans take the same steps; the offset decides nothing.
      by_cases hc : c = '$'
      · rw [if_pos hc, if_pos hc]
        cases Marker.leading? (c :: cs) with
        | some found => exact ih _ _
        | none =>
          dsimp only
          cases cs.dropWhile (· != '$') with
          | nil => rfl
          | cons next rest =>
            dsimp only
            rw [← isWord]
            split
            · rw [List.map_cons, ih]
            · exact ih _ _
      · rw [if_neg hc, if_neg hc]
        exact ih _ _

theorem unknownAtWith_spelling (fuel offset : Nat) (m : Marker) (rest : List Char) :
    unknownAtWith (fuel + 1) offset (m.spelling ++ rest) =
      unknownAtWith fuel (offset + byteSize m.spelling) rest := by
  have hlead := leading?_spelling m rest
  have htext : m.spelling ++ rest = '$' :: (m.word ++ ['$'] ++ rest) := rfl
  rw [htext] at hlead ⊢
  rw [unknownAtWith, if_pos rfl, hlead]

/-- A word between dollar signs that is no marker is reported. -/
theorem unknownAtWith_word {word rest : List Char} (hword : isWord word = true)
    (hnone : Marker.leading? ('$' :: (word ++ '$' :: rest)) = none) (fuel offset : Nat) :
    unknownAtWith (fuel + 1) offset ('$' :: (word ++ '$' :: rest)) =
      (offset, '$' :: word ++ ['$']) ::
        unknownAtWith fuel (offset + byteSize ('$' :: word ++ ['$'])) rest := by
  have hrun := Text.bne_of_notMem (dollar_notMem_of_isWord hword)
  have hdollar : ∀ c ∈ ('$' :: rest).head?, (c != '$') = false := by
    rintro c ⟨⟩
    rfl
  obtain ⟨htake, hdrop⟩ := Text.span_append hrun hdollar
  rw [unknownAtWith, if_pos rfl, hnone]
  dsimp only
  rw [htake, hdrop]
  dsimp only
  rw [hword, if_pos rfl]

/-- What stands behind the characters that are no dollar signs is one. -/
theorem eq_dollar_of_dropWhile {cs rest : List Char} {next : Char}
    (h : cs.dropWhile (· != '$') = next :: rest) : next = '$' := by
  have hhead := List.head_dropWhile_not (· != '$') (h ▸ List.cons_ne_nil next rest)
  simpa [h] using hhead

/-- A letter is passed if neither a marker nor a word between dollar signs begins with it. -/
theorem unknownAtWith_letter {c : Char} {cs : List Char}
    (hnone : Marker.leading? (c :: cs) = none) (hword : c = '$' → ¬ StartsWord cs)
    (fuel offset : Nat) :
    unknownAtWith (fuel + 1) offset (c :: cs) = unknownAtWith fuel (offset + c.utf8Size) cs := by
  rw [unknownAtWith]
  by_cases hc : c = '$'
  · rw [if_pos hc, hnone]
    dsimp only
    split
    · rename_i hdrop
      -- No dollar sign stands behind this one.
      have hmem : '$' ∉ cs := fun hmem =>
        absurd (List.dropWhile_eq_nil_iff.1 hdrop '$' hmem) (by decide)
      have hnothing := map_snd_unknownAtWith fuel (offset + c.utf8Size) cs
      rw [unknownWith_of_not_mem hmem, List.map_eq_nil_iff] at hnothing
      exact hnothing.symm
    · rename_i next rest hdrop
      obtain rfl := eq_dollar_of_dropWhile hdrop
      refine if_neg fun hinner => hword hc ⟨cs.takeWhile (· != '$'), rest, ?_, ?_⟩
      · rw [← hdrop, List.takeWhile_append_dropWhile]
      · exact isWord_eq_true_iff.1 hinner
  · rw [if_neg hc]

/-- The induction along the scan: it passes a marker, a word between dollar signs, or a letter with
which neither begins. -/
@[elab_as_elim]
theorem scanInduction {motive : Nat → Nat → List Char → Prop}
    (nil : ∀ fuel offset, motive fuel offset [])
    (spelling : ∀ fuel offset (m : Marker) rest, rest.length ≤ fuel →
      motive fuel (offset + byteSize m.spelling) rest →
      motive (fuel + 1) offset (m.spelling ++ rest))
    (word : ∀ fuel offset word rest, rest.length ≤ fuel → isWord word = true →
      Marker.leading? ('$' :: (word ++ '$' :: rest)) = none →
      motive fuel (offset + byteSize ('$' :: word ++ ['$'])) rest →
      motive (fuel + 1) offset ('$' :: (word ++ '$' :: rest)))
    (letter : ∀ fuel offset c cs, cs.length ≤ fuel → Marker.leading? (c :: cs) = none →
      (c = '$' → ¬ StartsWord cs) → motive fuel (offset + c.utf8Size) cs →
      motive (fuel + 1) offset (c :: cs))
    (fuel offset : Nat) (cs : List Char) (hfuel : cs.length ≤ fuel) : motive fuel offset cs := by
  induction fuel generalizing offset cs with
  | zero =>
    obtain rfl := List.eq_nil_of_length_eq_zero (Nat.le_zero.1 hfuel)
    exact nil 0 offset
  | succ fuel ih =>
    cases cs with
    | nil => exact nil _ offset
    | cons c cs =>
      rw [List.length_cons] at hfuel
      cases hlead : Marker.leading? (c :: cs) with
      | some found =>
        obtain ⟨m, rest⟩ := found
        have htext := eq_append_of_leading? hlead
        have hlength := congrArg List.length htext
        have hpos := List.length_pos_of_ne_nil (spelling_ne_nil m)
        rw [List.length_cons, List.length_append] at hlength
        have hrest : rest.length ≤ fuel := by omega
        rw [htext]
        exact spelling fuel offset m rest hrest (ih _ rest hrest)
      | none =>
        -- A marker is passed as a whole and so is a word with its dollar signs; otherwise one
        -- letter is.
        by_cases hword : c = '$' ∧ StartsWord cs
        · obtain ⟨rfl, inner, rest, rfl, hinner⟩ := hword
          rw [List.length_append, List.length_cons] at hfuel
          have hrest : rest.length ≤ fuel := by omega
          exact word fuel offset inner rest hrest (isWord_eq_true_iff.2 hinner) hlead
            (ih _ rest hrest)
        · have hcs : cs.length ≤ fuel := Nat.le_of_succ_le_succ hfuel
          exact letter fuel offset c cs hcs hlead (fun hc hstart => hword ⟨hc, hstart⟩)
            (ih _ cs hcs)

/-- What the scan reports is a word between dollar signs that stands in the text at its offset. -/
theorem shape_of_mem_unknownAtWith {fuel offset : Nat} {cs : List Char} (hfuel : cs.length ≤ fuel) :
    ∀ found ∈ unknownAtWith fuel offset cs,
      (∃ word, found.2 = '$' :: word ++ ['$'] ∧ isWord word = true) ∧
      ∃ before after, cs = before ++ (found.2 ++ after) ∧ found.1 = offset + byteSize before := by
  -- What is passed stands in front of what the rest of the scan reports.
  have hpass {P : Prop} {place offset : Nat} {front rest letters : List Char}
      (h : P ∧ ∃ before after, rest = before ++ (letters ++ after) ∧
        place = offset + byteSize front + byteSize before) :
      P ∧ ∃ before after, front ++ rest = before ++ (letters ++ after) ∧
        place = offset + byteSize before := by
    obtain ⟨hword, before, after, rfl, hplace⟩ := h
    refine ⟨hword, front ++ before, after, (List.append_assoc ..).symm, ?_⟩
    rw [hplace, byteSize_append, Nat.add_assoc]
  refine scanInduction ?nil ?spelling ?word ?letter fuel offset cs hfuel
  case nil => exact fun fuel _ => by cases fuel <;> exact nofun
  case spelling =>
    intro fuel offset m rest hrest ih
    rw [unknownAtWith_spelling]
    exact fun found hfound => hpass (ih found hfound)
  case word =>
    intro fuel offset word rest hrest hword hnone ih
    rw [unknownAtWith_word hword hnone]
    refine List.forall_mem_cons.2 ⟨⟨⟨word, rfl, hword⟩, [], rest, ?_, rfl⟩, fun found hfound => ?_⟩
    · simp
    · have hsplit : '$' :: (word ++ '$' :: rest) = ('$' :: word ++ ['$']) ++ rest := by simp
      rw [hsplit]
      exact hpass (ih found hfound)
  case letter =>
    intro fuel offset c cs hcs hnone hword ih
    have hsplit : c :: cs = [c] ++ cs := rfl
    rw [unknownAtWith_letter hnone hword, hsplit]
    exact fun found hfound => hpass (ih found hfound)

theorem ne_nil_of_mem_unknownAtWith {fuel offset : Nat} {cs : List Char} {found : Nat × List Char}
    (hfuel : cs.length ≤ fuel) (h : found ∈ unknownAtWith fuel offset cs) : found.2 ≠ [] := by
  obtain ⟨⟨word, hfound, -⟩, -⟩ := shape_of_mem_unknownAtWith hfuel found h
  rw [hfound]
  exact List.cons_ne_nil _ _

/-- Behind letters that change nothing in what is left open, the reported words lie in texts of the
whole exactly if they do so without the letters. -/
theorem within_prepend_iff {fuel offset : Nat} (front : List Char) {cs : List Char}
    (hfuel : cs.length ≤ fuel)
    (hopen : BeginsMarker (behindText (partsFrom (offset + byteSize front) cs)) →
      (LeavesOpen (front ++ leadText (partsFrom (offset + byteSize front) cs)) ↔
        LeavesOpen (leadText (partsFrom (offset + byteSize front) cs))))
    (ih : (∀ found ∈ unknownAtWith fuel (offset + byteSize front) cs,
        LiesIn (offset + byteSize front) (partsFrom (offset + byteSize front) cs) found) ↔
      ¬ SharesDollar (partsFrom (offset + byteSize front) cs)) :
    (∀ found ∈ unknownAtWith fuel (offset + byteSize front) cs,
        LiesIn offset (prepend front (partsFrom (offset + byteSize front) cs)) found) ↔
      ¬ SharesDollar (prepend front (partsFrom (offset + byteSize front) cs)) := by
  rw [sharesDollar_prepend hopen, ← ih]
  refine forall₂_congr fun found hfound => ?_
  obtain ⟨-, before, -, -, hplace⟩ := shape_of_mem_unknownAtWith hfuel found hfound
  exact liesIn_prepend (ne_nil_of_mem_unknownAtWith hfuel hfound) (by omega)

/-- A dollar sign and letters without one, at which no marker begins, are put in front. -/
theorem partsFrom_dollar {word cs : List Char} (hword : '$' ∉ word)
    (hnone : Marker.leading? ('$' :: (word ++ cs)) = none) (offset : Nat) :
    partsFrom offset ('$' :: (word ++ cs)) =
      prepend ('$' :: word) (partsFrom (offset + byteSize ('$' :: word)) cs) := by
  rw [partsFrom_cons hnone, partsFrom_append hword, byteSize_cons, Nat.add_assoc]
  rfl

/-- A word whose closing dollar sign begins a marker lies in no text. -/
theorem not_liesIn_of_shared {word : List Char} {m : Marker} {place : Nat} :
    ¬ LiesIn offset (.text ('$' :: word) :: .marker m place :: parts)
      (offset, '$' :: word ++ ['$']) := by
  rw [liesIn_cons]
  rintro (⟨front, back, htext, -⟩ | hbehind)
  · have hlength := congrArg List.length (Part.text.inj htext)
    simp only [List.length_append, List.length_cons, List.length_nil] at hlength
    omega
  · have hle := hbehind.le
    have hpos := byteSize_pos (List.cons_ne_nil '$' word)
    dsimp only [Part.letters] at hle
    omega

/-- A text before a marker has no word behind a dollar sign that closes in the template. -/
theorem isWord_takeWhile_leadText {cs : List Char}
    (h : BeginsMarker (behindText (partsFrom offset cs))) (hword : ¬ StartsWord cs) :
    isWord ((leadText (partsFrom offset cs)).takeWhile (· != '$')) = false := by
  obtain ⟨rest, hletters⟩ := h.letters
  rw [lettersOf_partsFrom] at hletters
  generalize leadText (partsFrom offset cs) = lead at hletters ⊢
  rw [Bool.eq_false_iff]
  intro hstart
  refine hword ?_
  have hsplit := List.takeWhile_append_dropWhile (p := (· != '$')) (l := lead)
  rw [hletters]
  -- The word is closed within the text, or by the dollar sign of the marker behind it.
  cases hdrop : lead.dropWhile (· != '$') with
  | nil =>
    rw [hdrop, List.append_nil] at hsplit
    rw [hsplit] at hstart
    exact ⟨lead, rest, rfl, isWord_eq_true_iff.1 hstart⟩
  | cons next behind =>
    obtain rfl := eq_dollar_of_dropWhile hdrop
    refine ⟨_, behind ++ '$' :: rest, ?_, isWord_eq_true_iff.1 hstart⟩
    rw [← List.cons_append, ← List.append_assoc, ← hdrop, hsplit]

/-- The reported words lie in one text each exactly if no dollar sign is shared. -/
theorem reported_within_iff {fuel offset : Nat} {cs : List Char} (hfuel : cs.length ≤ fuel) :
    (∀ found ∈ unknownAtWith fuel offset cs, LiesIn offset (partsFrom offset cs) found) ↔
      ¬ SharesDollar (partsFrom offset cs) := by
  refine scanInduction ?nil ?spelling ?word ?letter fuel offset cs hfuel
  case nil =>
    intro fuel offset
    refine iff_of_true (by cases fuel <;> exact nofun) ?_
    rintro ⟨before, letters, after, hnil, -⟩
    simp at hnil
  case spelling =>
    intro fuel offset m rest hrest ih
    rw [unknownAtWith_spelling, partsFrom_spelling, sharesDollar_marker, ← ih]
    refine forall₂_congr fun found _ => liesIn_cons.trans ?_
    exact ⟨fun h => h.resolve_left fun ⟨_, _, htext, _⟩ => Part.noConfusion htext, .inr⟩
  case letter =>
    intro fuel offset c cs hcs hnone hword ih
    rw [unknownAtWith_letter hnone hword, partsFrom_cons hnone]
    refine within_prepend_iff [c] hcs (fun hmarker => ?_) ih
    by_cases hc : c = '$'
    · subst hc
      exact leavesOpen_dollar (isWord_takeWhile_leadText hmarker (hword rfl))
    · exact leavesOpen_cons hc _
  case word =>
    intro fuel offset word rest hrest hword hnone ih
    have hparts := partsFrom_dollar (dollar_notMem_of_isWord hword) hnone offset
    rw [unknownAtWith_word hword hnone, List.forall_mem_cons, hparts]
    cases hlead : Marker.leading? ('$' :: rest) with
    | some found =>
      -- The dollar sign that closes the word begins a marker.
      obtain ⟨m, behind⟩ := found
      rw [eq_append_of_leading? hlead, partsFrom_spelling, prepend_eq_text (List.cons_ne_nil _ _)]
      refine iff_of_false (fun h => not_liesIn_of_shared (List.append_nil ('$' :: word) ▸ h.1)) ?_
      refine fun h => h (sharesDollar_text.2 (.inl ⟨⟨m, _, _, rfl⟩, ?_⟩))
      change LeavesOpen ('$' :: word ++ [])
      rw [List.append_nil]
      exact leavesOpen_word hword
    | none =>
      -- The word and its dollar signs are text.
      have hclosed : prepend ('$' :: word)
            (partsFrom (offset + byteSize ('$' :: word)) ('$' :: rest)) =
          prepend ('$' :: word ++ ['$'])
            (partsFrom (offset + byteSize ('$' :: word ++ ['$'])) rest) := by
        rw [partsFrom_cons hlead, byteSize_append, ← Nat.add_assoc, prepend, prepend,
          List.foldr_append]
        rfl
      rw [hclosed, within_prepend_iff ('$' :: word ++ ['$']) hrest (fun _ => ?_) ih]
      · refine and_iff_right ?_
        rw [prepend_eq_text (List.append_ne_nil_of_left_ne_nil (List.cons_ne_nil _ _) _)]
        exact ⟨[], _, _, [], _, rfl, rfl, rfl⟩
      · rw [List.append_assoc]
        exact leavesOpen_closed hword _

end Reported

/-! ## Agreement of the two scans -/

variable {σ : Type}

/-- Filling in passes the state on from the parts in front to those behind. -/
theorem fill_append (value : Marker → Nat → σ → List Char × σ) (before after : List Part) (s : σ) :
    fill value (before ++ after) s =
      ((fill value before s).1 ++ (fill value after (fill value before s).2).1,
        (fill value after (fill value before s).2).2) := by
  induction before generalizing s with
  | nil => rfl
  | cons p before ih => cases p <;> simp [fill, ih]

/-- Whether a text among the parts of a template holds a word between dollar signs. -/
def HoldsUnknown (template : List Char) : Prop :=
  ∃ letters, .text letters ∈ parts template ∧ HoldsWord letters

/-- A word that lies in a text is held by that text. -/
theorem holdsUnknown_of_liesIn {template : List Char} {found : Nat × List Char}
    (hmem : found ∈ unknownAt template) (h : LiesIn 0 (parts template) found) :
    HoldsUnknown template := by
  obtain ⟨⟨word, hfound, hword⟩, -⟩ := shape_of_mem_unknownAtWith (Nat.le_refl _) found hmem
  obtain ⟨before, letters, after, front, back, hparts, hletters, -⟩ := h
  refine ⟨letters, by simp [hparts], front, word ++ '$' :: back, ?_, ?_⟩
  · rw [hletters, hfound]
    simp
  · exact ⟨word, back, rfl, isWord_eq_true_iff.1 hword⟩

/-- The scan for unknown markers agrees with the cutting of a template exactly if no dollar sign is
shared: it reports something exactly if some text holds a word between dollar signs, and each word
that it reports lies in one text. It reports something in any case if a text holds such a word, and
otherwise only if a dollar sign is shared. What is reported stands in the template at its offset. A
text is copied as it stands, whatever is filled in before and behind it. -/
theorem unknown_agree_iff (template : List Char) :
    (((unknownMarkers template ≠ [] ↔ HoldsUnknown template) ∧
        ∀ found ∈ unknownAt template, LiesIn 0 (parts template) found) ↔
      ¬ SharesDollar (parts template)) ∧
    (unknownMarkers template ≠ [] ↔ HoldsUnknown template ∨ SharesDollar (parts template)) ∧
    (unknownAt template).map (·.2) = unknownMarkers template ∧
    (∀ found ∈ unknownAt template, ∃ before after, template = before ++ (found.2 ++ after) ∧
      found.1 = byteSize before) ∧
    ∀ before letters after, parts template = before ++ .text letters :: after →
      ∀ (value : Marker → Nat → σ → List Char × σ) (s : σ),
        (fill value (parts template) s).1 = (fill value before s).1 ++
          (letters ++ (fill value after (fill value before s).2).1) := by
  have hmap : (unknownAt template).map (·.2) = unknownMarkers template :=
    map_snd_unknownAtWith template.length 0 template
  have hwithin : (∀ found ∈ unknownAt template, LiesIn 0 (parts template) found) ↔
      ¬ SharesDollar (parts template) := reported_within_iff (Nat.le_refl _)
  have hreports : unknownMarkers template ≠ [] ↔ ∃ found, found ∈ unknownAt template := by
    rw [← hmap, ne_eq, List.map_eq_nil_iff, ← ne_eq]
    exact ⟨List.exists_mem_of_ne_nil _, fun ⟨_, hfound⟩ => List.ne_nil_of_mem hfound⟩
  have hholds : HoldsUnknown template → unknownMarkers template ≠ [] := by
    rintro ⟨letters, hpart, hword⟩ hnone
    exact not_holdsWord_of_unknownMarkers hnone hpart hword
  have honly : unknownMarkers template ≠ [] →
      HoldsUnknown template ∨ SharesDollar (parts template) := by
    intro hsome
    obtain ⟨found, hfound⟩ := hreports.1 hsome
    refine or_iff_not_imp_right.2 fun hshares => ?_
    exact holdsUnknown_of_liesIn hfound (hwithin.2 hshares found hfound)
  -- A shared dollar sign shows in a report that lies in no text, so the two conditions fail
  -- together.
  refine ⟨⟨fun h => hwithin.1 h.2, fun hshares => ⟨⟨fun h => ?_, hholds⟩, hwithin.2 hshares⟩⟩,
    ⟨honly, fun h => h.elim hholds fun hshares => ?_⟩, hmap, fun found hfound => ?_, ?_⟩
  · exact (honly h).resolve_right hshares
  · by_contra hnone
    refine hwithin.1 (fun found hfound => ?_) hshares
    exact absurd hnone (hreports.2 ⟨found, hfound⟩)
  · obtain ⟨-, before, after, htext, hplace⟩ :=
      shape_of_mem_unknownAtWith (Nat.le_refl _) found hfound
    exact ⟨before, after, htext, by omega⟩
  · intro before letters after hparts value s
    rw [hparts, fill_append, fill]

/-- In `$foo$name$` the scan reports `$foo$`, whose second dollar sign begins the marker `$name$`;
no text holds a word between dollar signs. -/
theorem sharedDollar_reported :
    ¬ ((unknownMarkers "$foo$name$".toList ≠ [] ↔ HoldsUnknown "$foo$name$".toList) ∧
      ∀ found ∈ unknownAt "$foo$name$".toList, LiesIn 0 (parts "$foo$name$".toList) found) := by
  have hreported : unknownMarkers "$foo$name$".toList = ["$foo$".toList] := by decide +kernel
  have hparts : parts "$foo$name$".toList = [.text "$foo".toList, .marker .name 4] := by
    decide +kernel
  rintro ⟨hagree, -⟩
  obtain ⟨letters, hpart, before, rest, hletters, word, after, hrest, -⟩ :=
    hagree.1 (by rw [hreported]; exact List.cons_ne_nil _ _)
  rw [hparts] at hpart
  obtain rfl : letters = "$foo".toList := by simpa using hpart
  -- A word between dollar signs has two of them.
  have hcount : "$foo".toList.count '$' = 1 := by decide +kernel
  rw [hletters, hrest, List.count_append, List.count_cons_self, List.count_append,
    List.count_cons_self] at hcount
  omega

end ViewForge.Template
