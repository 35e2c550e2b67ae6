import ViewForge.Outline.Caret
import ViewForge.Proofs.Text.Character

/-!
# Lines and columns of a text

A caret stands on a line and in a column, which are counted from what stands before it (`lineOf`,
`columnOf`). A line and a column are accepted exactly if they are those of a caret that no carriage
return at the end of its line stands before, and mean that caret (`offsetOf_eq_ok_iff`). There is
one exception: where the last line has no line feed, the line behind it is accepted too, though it
does not exist, and means the end of the text (`openLine_denoted_twice`). So lines and columns
denote carets one by one exactly in the texts that are empty or end with a line feed
(`denotes_carets_iff`).

The proof takes the first line off a text: what is accepted on the lines behind it is what the rest
accepts (`offsetOf_append_succ`), and all that is said of carets moves with them.
-/

namespace ViewForge.Caret

/-- The line of a caret: one more than the line feeds before it. -/
def lineOf (text : List Char) (offset : Nat) : Nat := (text.take offset).count '\n' + 1

/-- The column of a caret: one more than the characters between it and the last line feed before it,
or the start of the text. -/
def columnOf (text : List Char) (offset : Nat) : Nat :=
  ((text.take offset).reverse.takeWhile (· != '\n')).length + 1

/-- A caret stands behind a carriage return, and nothing but carriage returns follows it on its
line. -/
def BehindReturn (text : List Char) (offset : Nat) : Prop :=
  (text.take offset).getLast? = some '\r' ∧
    ∀ c ∈ ((text.drop offset).dropWhile (· == '\r')).head?, c = '\n'

/-- The last line of a text has no line feed. -/
def HasOpenLine (text : List Char) : Prop := ∃ c ∈ text.getLast?, c ≠ '\n'

/-- What it takes for a line and a column to be accepted for a caret: they are its own, and no
carriage return at the end of its line stands before it; or it is the end of the text, the last line
has no line feed, and they are the first column of the line behind it. -/
def Accepted (text : List Char) (line column offset : Nat) : Prop :=
  (offset ≤ text.length ∧ ¬ BehindReturn text offset ∧
    line = lineOf text offset ∧ column = columnOf text offset) ∨
  (HasOpenLine text ∧ offset = text.length ∧ line = lineOf text offset + 1 ∧ column = 1)

/-- Lines and columns of a text denote its carets one by one. -/
structure DenotesCarets (text : List Char) : Prop where
  /-- A line and a column that are accepted are those of the caret. -/
  placed : ∀ line column offset, offsetOf text line column = .ok offset →
    offset ≤ text.length ∧ line = lineOf text offset ∧ column = columnOf text offset
  /-- Two that are accepted for one caret are the same. -/
  apart : ∀ line column line' column' offset, offsetOf text line column = .ok offset →
    offsetOf text line' column' = .ok offset → line = line' ∧ column = column'
  /-- For a caret that stands behind no carriage return at the end of its line, just one line and
  column are accepted. -/
  reached : ∀ offset ≤ text.length, ¬ BehindReturn text offset →
    ∃! place : Nat × Nat, offsetOf text place.1 place.2 = .ok offset

/-! ## What is accepted -/

/-- A line without line feeds, with one behind it, is a line of its own. -/
theorem lines_append {body : List Char} (h : '\n' ∉ body) (rest : List Char) :
    lines (body ++ '\n' :: rest) = (body ++ ['\n']) :: lines rest := by
  induction body with
  | nil => rfl
  | cons c body ih =>
    rw [List.mem_cons, not_or] at h
    rw [List.cons_append, lines, if_neg (Ne.symm h.1), ih h.2]
    rfl

/-- A text without line feeds is one line, if there is anything in it. -/
theorem lines_of_not_mem {body : List Char} (h : '\n' ∉ body) (hsome : body ≠ []) :
    lines body = [body] := by
  induction body with
  | nil => exact absurd rfl hsome
  | cons c body ih =>
    rw [List.mem_cons, not_or] at h
    rw [lines, if_neg (Ne.symm h.1)]
    cases body with
    | nil => rfl
    | cons d body => rw [ih h.2 (List.cons_ne_nil d body)]

/-- A line and a column are accepted if the line is long enough, or if it is the one behind the last
and the column is the first. -/
theorem offsetOf_succ_eq_ok_iff {text : List Char} {i j offset : Nat} :
    offsetOf text (i + 1) (j + 1) = .ok offset ↔
      (∃ line, (lines text)[i]? = some line ∧ j ≤ width line ∧
        offset = ((lines text).take i).flatten.length + j) ∨
      (i = (lines text).length ∧ j = 0 ∧ offset = text.length) := by
  unfold offsetOf
  rw [if_neg (by simp)]
  dsimp only
  rw [Nat.add_sub_cancel]
  cases hline : (lines text)[i]? with
  | some line =>
    have hlt : i < (lines text).length := (List.getElem?_eq_some_iff.1 hline).1
    have hother : ¬ (i = (lines text).length ∧ j = 0 ∧ offset = text.length) :=
      fun h => absurd h.1 (Nat.ne_of_lt hlt)
    simp only [Option.some.injEq, exists_eq_left', or_iff_left hother]
    split
    · rename_i hlong
      exact iff_of_false (fun h => nomatch h) fun h => by omega
    · rename_i hlong
      rw [Except.ok.injEq, Nat.add_sub_assoc (Nat.le_add_left 1 j), Nat.add_sub_cancel]
      exact ⟨fun h => ⟨by omega, h.symm⟩, fun h => h.2.symm⟩
  | none =>
    have hother : ¬ ∃ line, none = some line ∧ j ≤ width line ∧
        offset = ((lines text).take i).flatten.length + j := fun ⟨_, h, _⟩ => nomatch h
    simp only [or_iff_right hother, Bool.and_eq_true, decide_eq_true_eq, Nat.add_eq_right,
      Nat.add_right_cancel_iff]
    split
    · rename_i hend
      rw [Except.ok.injEq]
      exact ⟨fun h => ⟨hend.2, hend.1, h.symm⟩, fun h => h.2.2.symm⟩
    · rename_i hend
      exact iff_of_false (fun h => nomatch h) fun h => hend ⟨h.2.1, h.1⟩

/-- Lines and columns are counted from one. -/
theorem pos_of_offsetOf {text : List Char} {line column offset : Nat}
    (h : offsetOf text line column = .ok offset) : ∃ i j, line = i + 1 ∧ column = j + 1 := by
  unfold offsetOf at h
  split at h
  · exact nomatch h
  · rename_i hpos
    rw [Bool.or_eq_true, decide_eq_true_eq, decide_eq_true_eq, not_or] at hpos
    exact ⟨line - 1, column - 1, by omega, by omega⟩

/-! ## The end of a line -/

/-- What ends a line does not count for its width. -/
theorem width_append_feed (body : List Char) : width (body ++ ['\n']) = width body := by
  unfold width
  rw [List.reverse_append]
  rfl

/-- A line without line feeds is as much as its width counts, which ends with no carriage return,
and carriage returns. -/
theorem exists_width_append {body : List Char} (h : '\n' ∉ body) :
    ∃ kept returns, body = kept ++ returns ∧ width body = kept.length ∧
      (∀ c ∈ returns, c = '\r') ∧ ∀ c ∈ kept.getLast?, c ≠ '\r' := by
  let isBreak : Char → Bool := fun c => c == '\n' || c == '\r'
  refine ⟨(body.reverse.dropWhile isBreak).reverse, (body.reverse.takeWhile isBreak).reverse, ?_,
    List.length_reverse.symm, fun c hc => ?_, fun c hc => ?_⟩
  · rw [← List.reverse_append, List.takeWhile_append_dropWhile, List.reverse_reverse]
  · have hmem := List.mem_reverse.1 hc
    have hbreak : isBreak c = true := List.mem_takeWhile_imp hmem
    have hbody : c ∈ body := List.mem_reverse.1 ((List.takeWhile_sublist _).mem hmem)
    have hfeed : c ≠ '\n' := by
      rintro rfl
      exact h hbody
    simpa [isBreak, hfeed] using hbreak
  · rw [List.getLast?_reverse] at hc
    have hbreak : isBreak c = false := Text.head_dropWhile isBreak body.reverse c hc
    rintro rfl
    exact absurd hbreak (by decide)

/-- Within the width of a line no caret stands behind carriage returns that end it: before it or
behind it on the line a character stands that is none. -/
theorem not_behindReturn {kept returns tail : List Char} (hfeed : '\n' ∉ kept)
    (hlast : ∀ c ∈ kept.getLast?, c ≠ '\r') {offset : Nat} (hle : offset ≤ kept.length) :
    ¬ BehindReturn (kept ++ (returns ++ tail)) offset := by
  rintro ⟨hbefore, hbehind⟩
  rw [List.take_append_of_le_length hle] at hbefore
  rw [List.drop_append_of_le_length hle] at hbehind
  rcases Nat.eq_or_lt_of_le hle with rfl | hlt
  · rw [List.take_length] at hbefore
    exact hlast _ hbefore rfl
  · have hsome : kept.drop offset ≠ [] := by
      rw [ne_eq, List.drop_eq_nil_iff]
      omega
    obtain ⟨d, hd⟩ : ∃ d, (kept.drop offset).getLast? = some d :=
      ⟨_, List.getLast?_eq_some_getLast hsome⟩
    have hreturn : d ≠ '\r' := by
      rw [List.getLast?_drop, if_neg (by omega)] at hd
      exact hlast d hd
    have hne : (kept.drop offset).dropWhile (· == '\r') ≠ [] := by
      rw [ne_eq, List.dropWhile_eq_nil_iff]
      exact fun hall => hreturn (beq_iff_eq.1 (hall d (List.mem_of_getLast? hd)))
    obtain ⟨c, more, hmore⟩ := List.exists_cons_of_ne_nil hne
    have hc : c ∈ kept.drop offset :=
      (List.dropWhile_suffix _).mem (hmore ▸ List.mem_cons_self)
    have hline : c = '\n' := hbehind c (by rw [List.dropWhile_append, hmore]; rfl)
    exact hfeed (hline ▸ List.mem_of_mem_drop hc)

/-- Behind the width of a line every caret does. -/
theorem behindReturn_of_lt {kept returns tail : List Char} (hreturns : ∀ c ∈ returns, c = '\r')
    (htail : ∀ c ∈ tail.head?, c = '\n') {offset : Nat} (hlt : kept.length < offset)
    (hle : offset ≤ (kept ++ returns).length) :
    BehindReturn (kept ++ (returns ++ tail)) offset := by
  obtain ⟨k, rfl⟩ := Nat.exists_eq_add_of_lt hlt
  rw [List.length_append] at hle
  have hbehind (cs : List Char) (hcs : ∀ c ∈ cs, c = '\r') :
      (cs ++ tail).dropWhile (· == '\r') = tail := by
    rw [List.dropWhile_append_of_pos fun c hc => beq_iff_eq.2 (hcs c hc)]
    refine (Text.span_of_head fun c hc => ?_).2
    rw [htail c hc]
    decide
  constructor
  · have hsome : returns.take (k + 1) ≠ [] := by
      rw [← List.length_pos_iff, List.length_take_of_le (by omega)]
      exact Nat.succ_pos k
    obtain ⟨c, hc⟩ : ∃ c, (returns.take (k + 1)).getLast? = some c :=
      ⟨_, List.getLast?_eq_some_getLast hsome⟩
    rw [Nat.add_assoc, List.take_length_add_append, List.take_append_of_le_length (by omega),
      List.getLast?_append, hc, hreturns c (List.mem_of_mem_take (List.mem_of_getLast? hc))]
    rfl
  · rw [Nat.add_assoc, List.drop_length_add_append, List.drop_append_of_le_length (by omega),
      hbehind _ fun c hc => hreturns c (List.mem_of_mem_drop hc)]
    exact htail

/-- On a line a caret stands behind carriage returns that end it exactly if it stands behind more
characters than the width of the line counts. -/
theorem behindReturn_iff {body : List Char} (h : '\n' ∉ body) (tail : List Char)
    (htail : ∀ c ∈ tail.head?, c = '\n') {offset : Nat} (hle : offset ≤ body.length) :
    BehindReturn (body ++ tail) offset ↔ width body < offset := by
  obtain ⟨kept, returns, rfl, hwidth, hreturns, hlast⟩ := exists_width_append h
  have hkept : '\n' ∉ kept := fun hmem => h (List.mem_append_left _ hmem)
  rw [hwidth, List.append_assoc]
  refine ⟨fun hbehind => ?_, fun hlt => behindReturn_of_lt hreturns htail hlt hle⟩
  rw [← Nat.not_le]
  exact fun hwithin => not_behindReturn hkept hlast hwithin hbehind

/-- The width of a line counts no more than its characters. -/
theorem width_le (line : List Char) : width line ≤ line.length := by
  unfold width
  calc (line.reverse.dropWhile fun c => c == '\n' || c == '\r').length
      ≤ line.reverse.length := (List.dropWhile_suffix _).length_le
    _ = line.length := List.length_reverse

/-! ## The first line of a text -/

section FirstLine

variable {body : List Char} (h : '\n' ∉ body) {offset : Nat}

include h

/-- Carets on the first line are counted by what stands before them. -/
theorem place_of_le (tail : List Char) (hle : offset ≤ body.length) :
    lineOf (body ++ tail) offset = 1 ∧ columnOf (body ++ tail) offset = offset + 1 := by
  have hfeed : '\n' ∉ body.take offset := fun hmem => h (List.mem_of_mem_take hmem)
  have hrun : (body.take offset).reverse.takeWhile (· != '\n') = (body.take offset).reverse := by
    rw [List.takeWhile_eq_self_iff]
    intro c hc
    rw [bne_iff_ne]
    rintro rfl
    exact hfeed (List.mem_reverse.1 hc)
  rw [lineOf, columnOf, List.take_append_of_le_length hle, hrun,
    List.count_eq_zero_of_not_mem hfeed, List.length_reverse, List.length_take_of_le hle]
  exact ⟨rfl, rfl⟩

/-- Carets behind the first line are those of the rest, one line further. -/
theorem place_append (rest : List Char) (offset : Nat) :
    lineOf (body ++ '\n' :: rest) (body.length + 1 + offset) = lineOf rest offset + 1 ∧
      columnOf (body ++ '\n' :: rest) (body.length + 1 + offset) = columnOf rest offset := by
  have htake : (body ++ '\n' :: rest).take (body.length + 1 + offset) =
      body ++ '\n' :: rest.take offset := by
    rw [Nat.add_assoc, List.take_length_add_append, Nat.add_comm 1, List.take_succ_cons]
  constructor
  · rw [lineOf, lineOf, htake, List.count_append, List.count_eq_zero_of_not_mem h, Nat.zero_add,
      List.count_cons_self]
  · rw [columnOf, columnOf, htake, List.reverse_append, List.reverse_cons, List.append_assoc,
      List.takeWhile_append]
    split
    · rename_i hall
      rw [List.singleton_append, List.takeWhile_cons_of_neg (by simp), List.append_nil, hall]
    · rfl

omit h in
/-- A caret behind the first line stands behind carriage returns as it does in the rest. -/
theorem behindReturn_append_iff (rest : List Char) (offset : Nat) :
    BehindReturn (body ++ '\n' :: rest) (body.length + 1 + offset) ↔ BehindReturn rest offset := by
  have hlast : (body ++ '\n' :: rest.take offset).getLast? = some '\r' ↔
      (rest.take offset).getLast? = some '\r' := by
    rw [List.getLast?_append_of_ne_nil _ (List.cons_ne_nil _ _), List.getLast?_cons]
    cases (rest.take offset).getLast? with
    | none => exact iff_of_false (by decide) (by decide)
    | some c => rfl
  rw [BehindReturn, BehindReturn, Nat.add_assoc, List.take_length_add_append,
    List.drop_length_add_append, Nat.add_comm 1, List.take_succ_cons, List.drop_succ_cons, hlast]

omit h in
/-- A text has an open line exactly if what stands behind its first line has one. -/
theorem hasOpenLine_append_iff (rest : List Char) :
    HasOpenLine (body ++ '\n' :: rest) ↔ HasOpenLine rest := by
  rw [HasOpenLine, HasOpenLine, List.getLast?_append_of_ne_nil _ (List.cons_ne_nil _ _),
    List.getLast?_cons]
  cases rest.getLast? with
  | none => simp
  | some c => simp

/-- On the first line a column is accepted if the width of the line reaches it. -/
theorem offsetOf_append_one {j : Nat} (rest : List Char) :
    offsetOf (body ++ '\n' :: rest) 1 (j + 1) = .ok offset ↔ j ≤ width body ∧ offset = j := by
  rw [← Nat.zero_add 1, offsetOf_succ_eq_ok_iff, lines_append h]
  simp [width_append_feed]

/-- What is accepted behind the first line is what the rest accepts. -/
theorem offsetOf_append_succ {i j : Nat} (rest : List Char) :
    offsetOf (body ++ '\n' :: rest) (i + 1 + 1) (j + 1) = .ok offset ↔
      ∃ behind, offsetOf rest (i + 1) (j + 1) = .ok behind ∧
        offset = body.length + 1 + behind := by
  simp only [offsetOf_succ_eq_ok_iff, lines_append h, List.getElem?_cons_succ, List.take_succ_cons,
    List.flatten_cons, List.length_append, List.length_cons, List.length_nil, Nat.zero_add,
    Nat.add_right_cancel_iff]
  constructor
  · rintro (⟨line, hline, hle, rfl⟩ | ⟨rfl, rfl, rfl⟩)
    · exact ⟨_, .inl ⟨line, hline, hle, rfl⟩, by omega⟩
    · exact ⟨_, .inr ⟨rfl, rfl, rfl⟩, by omega⟩
  · rintro ⟨behind, ⟨line, hline, hle, rfl⟩ | ⟨rfl, rfl, rfl⟩, rfl⟩
    · exact .inl ⟨line, hline, hle, by omega⟩
    · exact .inr ⟨rfl, rfl, by omega⟩

/-- In a text of one line a column is accepted if the width of the line reaches it, and the first
column of the line behind it. -/
theorem offsetOf_line {i j : Nat} (hsome : body ≠ []) :
    offsetOf body (i + 1) (j + 1) = .ok offset ↔
      (i = 0 ∧ j ≤ width body ∧ offset = j) ∨ (i = 1 ∧ j = 0 ∧ offset = body.length) := by
  rw [offsetOf_succ_eq_ok_iff, lines_of_not_mem h hsome]
  cases i with
  | zero => simp
  | succ i => simp

/-- A line and a column denote a caret on the first line as if no other line came behind. -/
theorem accepted_append_one {j : Nat} (rest : List Char) :
    Accepted (body ++ '\n' :: rest) 1 (j + 1) offset ↔ j ≤ width body ∧ offset = j := by
  have hbehind {offset : Nat} := @behindReturn_iff body h ('\n' :: rest) (by simp) offset
  have hwidth := width_le body
  constructor
  -- An offset on the first line is in its body, where nothing behind the line feed counts; the open
  -- line is never the first.
  · rintro (⟨-, hnot, hline, hcolumn⟩ | ⟨-, -, hline, -⟩)
    · have hle : offset ≤ body.length := by
        by_contra hlt
        obtain ⟨k, rfl⟩ := Nat.exists_eq_add_of_lt (Nat.lt_of_not_le hlt)
        have hplace := (place_append h rest k).1
        rw [Nat.add_right_comm, hplace, lineOf] at hline
        omega
      rw [(place_of_le h _ hle).2] at hcolumn
      rw [hbehind hle] at hnot
      omega
    · rw [lineOf] at hline
      omega
  · rintro ⟨hle, rfl⟩
    have hplace := place_of_le h ('\n' :: rest) (hle.trans hwidth)
    refine .inl ⟨?_, ?_, hplace.1.symm, hplace.2.symm⟩
    · rw [List.length_append]
      omega
    · rw [hbehind (hle.trans hwidth)]
      omega

/-- A line and a column denote a caret behind the first line as the line before and the column do in
what follows this. -/
theorem accepted_append_succ {i j : Nat} (rest : List Char) :
    Accepted (body ++ '\n' :: rest) (i + 1 + 1) (j + 1) offset ↔
      ∃ behind, Accepted rest (i + 1) (j + 1) behind ∧ offset = body.length + 1 + behind := by
  have hlength : (body ++ '\n' :: rest).length = body.length + 1 + rest.length := by
    rw [List.length_append, List.length_cons]
    omega
  have hmove (behind : Nat) : Accepted (body ++ '\n' :: rest) (i + 1 + 1) (j + 1)
      (body.length + 1 + behind) ↔ Accepted rest (i + 1) (j + 1) behind := by
    obtain ⟨hline, hcolumn⟩ := place_append h rest behind
    simp only [Accepted, behindReturn_append_iff, hasOpenLine_append_iff, hline, hcolumn, hlength,
      Nat.add_le_add_iff_left, Nat.add_left_cancel_iff, Nat.add_right_cancel_iff]
  constructor
  · intro haccepted
    -- A caret in the first line is on line one, which is not asked for.
    obtain ⟨behind, rfl⟩ : ∃ behind, offset = body.length + 1 + behind := by
      refine Nat.exists_eq_add_of_le ?_
      by_contra hlt
      have hline : lineOf (body ++ '\n' :: rest) offset = 1 := (place_of_le h _ (by omega)).1
      rcases haccepted with ⟨-, -, hplace, -⟩ | ⟨-, hend, -, -⟩ <;> omega
    exact ⟨behind, (hmove behind).1 haccepted, rfl⟩
  · rintro ⟨behind, haccepted, rfl⟩
    exact (hmove behind).2 haccepted

/-- In a text of one line a line and a column denote a caret on it, or the second line and the first
column the end. -/
theorem accepted_line {i j : Nat} (hsome : body ≠ []) :
    Accepted body (i + 1) (j + 1) offset ↔
      (i = 0 ∧ j ≤ width body ∧ offset = j) ∨ (i = 1 ∧ j = 0 ∧ offset = body.length) := by
  have hopen : HasOpenLine body := by
    refine ⟨_, List.getLast?_eq_some_getLast hsome, ?_⟩
    exact fun hfeed => h (hfeed ▸ List.getLast_mem hsome)
  have hwidth := width_le body
  have hplace {offset : Nat} (hle : offset ≤ body.length) := place_of_le h [] hle
  have hbehind {offset : Nat} (hle : offset ≤ body.length) :=
    behindReturn_iff h [] (by simp) hle
  -- There is no line feed, so every caret is on line one and the line behind it is open.
  rw [List.append_nil] at hplace hbehind
  have hend := (hplace (Nat.le_refl _)).1
  constructor
  · rintro (⟨hle, hnot, hline, hcolumn⟩ | ⟨-, rfl, hline, hcolumn⟩)
    · rw [hbehind hle] at hnot
      obtain ⟨hline', hcolumn'⟩ := hplace hle
      omega
    · omega
  · rintro (⟨rfl, hle, rfl⟩ | ⟨rfl, rfl, rfl⟩)
    · obtain ⟨hline, hcolumn⟩ := hplace (hle.trans hwidth)
      refine .inl ⟨hle.trans hwidth, ?_, hline.symm, hcolumn.symm⟩
      rw [hbehind (hle.trans hwidth)]
      omega
    · exact .inr ⟨hopen, rfl, by rw [hend], rfl⟩

end FirstLine

/-! ## Texts -/

/-- Lines and columns of carets are counted from one. -/
theorem Accepted.pos {text : List Char} {line column offset : Nat}
    (h : Accepted text line column offset) : ∃ i j, line = i + 1 ∧ column = j + 1 := by
  rcases h with ⟨-, -, hline, hcolumn⟩ | ⟨-, -, hline, hcolumn⟩
  · exact ⟨_, _, hline, hcolumn⟩
  · exact ⟨_, 0, hline, hcolumn⟩

/-- A line and a column are accepted as the places of the carets say. The induction takes one line
off the text. -/
theorem offsetOf_eq_ok_iff (text : List Char) (line column offset : Nat) :
    offsetOf text line column = .ok offset ↔ Accepted text line column offset := by
  have hcounted (i j : Nat) :
      offsetOf text (i + 1) (j + 1) = .ok offset ↔ Accepted text (i + 1) (j + 1) offset := by
    induction hlength : text.length using Nat.strong_induction_on generalizing text i offset with
    | _ length ih =>
      subst hlength
      -- With a line feed, the first line is asked for or passed over; without one, the text is
      -- empty or one open line.
      by_cases hfeed : '\n' ∈ text
      · obtain ⟨body, rest, rfl, hbody⟩ := List.eq_append_cons_of_mem hfeed
        cases i with
        | zero => rw [offsetOf_append_one hbody, accepted_append_one hbody]
        | succ i =>
          have hshorter : rest.length < (body ++ '\n' :: rest).length := by
            rw [List.length_append, List.length_cons]
            omega
          rw [offsetOf_append_succ hbody, accepted_append_succ hbody]
          exact exists_congr fun behind => and_congr_left' (ih _ hshorter rest behind i rfl)
      · by_cases hnil : text = []
        · subst hnil
          rw [offsetOf_succ_eq_ok_iff]
          simp [Accepted, BehindReturn, HasOpenLine, lines, lineOf, columnOf]
          omega
        · rw [offsetOf_line hfeed hnil, accepted_line hfeed hnil]
  constructor
  · intro h
    obtain ⟨i, j, rfl, rfl⟩ := pos_of_offsetOf h
    exact (hcounted i j).1 h
  · intro h
    obtain ⟨i, j, rfl, rfl⟩ := h.pos
    exact (hcounted i j).2 h

/-- A line and a column are accepted exactly as the places of the carets say, so they denote carets
one by one exactly if the text has no open line: if it is empty or ends with a line feed. -/
theorem denotes_carets_iff (text : List Char) :
    (∀ line column offset,
      offsetOf text line column = .ok offset ↔ Accepted text line column offset) ∧
    (DenotesCarets text ↔ ¬ HasOpenLine text) := by
  refine ⟨offsetOf_eq_ok_iff text, fun hdenotes hopen => ?_, fun hclosed => ?_⟩
  · -- The line behind the last is accepted for the end of the text, which stands on the last.
    have hend : offsetOf text (lineOf text text.length + 1) 1 = .ok text.length :=
      (offsetOf_eq_ok_iff text _ _ _).2 (.inr ⟨hopen, rfl, rfl, rfl⟩)
    exact absurd (hdenotes.placed _ _ _ hend).2.1 (Nat.succ_ne_self _)
  · have hplace {line column offset : Nat} (h : offsetOf text line column = .ok offset) :
        offset ≤ text.length ∧ line = lineOf text offset ∧ column = columnOf text offset := by
      rcases (offsetOf_eq_ok_iff text _ _ _).1 h with ⟨hle, -, hline, hcolumn⟩ | ⟨hopen, -⟩
      · exact ⟨hle, hline, hcolumn⟩
      · exact absurd hopen hclosed
    refine ⟨fun _ _ _ h => hplace h, fun line column line' column' offset h h' => ?_,
      fun offset hle hbehind => ?_⟩
    · obtain ⟨-, hline, hcolumn⟩ := hplace h
      obtain ⟨-, hline', hcolumn'⟩ := hplace h'
      exact ⟨hline.trans hline'.symm, hcolumn.trans hcolumn'.symm⟩
    · refine ⟨(lineOf text offset, columnOf text offset),
        (offsetOf_eq_ok_iff text _ _ _).2 (.inl ⟨hle, hbehind, rfl, rfl⟩), fun place h => ?_⟩
      obtain ⟨-, hline, hcolumn⟩ := hplace h
      exact Prod.ext hline hcolumn

/-- A text of one line without a line feed has its end on this line, and also on the next, which
does not exist. -/
theorem openLine_denoted_twice :
    offsetOf "abc".toList 1 4 = .ok 3 ∧ offsetOf "abc".toList 2 1 = .ok 3 ∧
      lineOf "abc".toList 3 = 1 ∧ ¬ DenotesCarets "abc".toList := by
  have hline : offsetOf "abc".toList 1 4 = .ok 3 := rfl
  have hnext : offsetOf "abc".toList 2 1 = .ok 3 := rfl
  refine ⟨hline, hnext, rfl, fun hdenotes => ?_⟩
  exact absurd (hdenotes.apart _ _ _ _ _ hline hnext).1 (by decide)

end ViewForge.Caret
