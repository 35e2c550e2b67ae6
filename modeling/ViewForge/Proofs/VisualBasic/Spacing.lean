import ViewForge.Proofs.VisualBasic.Parallel

/-!
# Documents with other line breaks and more lines between

A document and one in which blank lines and comments are put between its lines and line breaks are
written in another way (`Spacing`). Its lines are those of the first, moved, and skipped ones
between them (`Spacing.respaced`), so both are read side by side, and the outline is that of the
first with every place moved as the lines are (`outline_after`).
-/

namespace ViewForge.VisualBasic

/-- The ways to end a line. -/
inductive LineBreak
  | lf
  | crlf
  deriving Repr, DecidableEq

/-- The characters of a line break. -/
def LineBreak.chars : LineBreak → List Char
  | .lf => ['\n']
  | .crlf => ['\r', '\n']

/-- A blank line, or a comment with white space before it: one behind an apostrophe, or one behind
`Rem` in any case and a space. -/
inductive IsFiller : List Char → Prop
  | blank {cs : List Char} (h : ∀ c ∈ cs, Text.isBlank c = true) : IsFiller cs
  | apostrophe {blanks cs : List Char} (h : ∀ c ∈ blanks, Text.isBlank c = true) :
      IsFiller (blanks ++ '\x27' :: cs)
  | rem {blanks word cs : List Char} (h : ∀ c ∈ blanks, Text.isBlank c = true)
      (hword : Text.sameIgnoringCase word "rem".toList = true) :
      IsFiller (blanks ++ (word ++ ' ' :: cs))

/-- A line that is put into a document. -/
structure Filler where
  /-- The text of the line. -/
  text : List Char
  /-- Its line break. -/
  ending : LineBreak
  /-- The text is one line. -/
  noFeed : '\n' ∉ text
  /-- It declares nothing. -/
  isFiller : IsFiller text

/-- The characters of a line that is put in. -/
def Filler.chars (l : Filler) : List Char := l.text ++ l.ending.chars

/-- A line of a document with its line break, the break that it gets, and the lines that are put
behind it. -/
structure SpacedLine where
  /-- The text of the line. -/
  text : List Char
  /-- The line break that it has. -/
  old : LineBreak
  /-- The line break that it gets. -/
  new : LineBreak
  /-- The lines that are put behind it. -/
  fillers : List Filler
  /-- The text is one line. -/
  noFeed : '\n' ∉ text

namespace SpacedLine

/-- The characters of a line as it is. -/
def before (l : SpacedLine) : List Char := l.text ++ l.old.chars

/-- The characters of a line as it is written again, with the lines behind it. -/
def after (l : SpacedLine) : List Char := l.text ++ l.new.chars ++ l.fillers.flatMap Filler.chars

end SpacedLine

/-- Where the character at an offset of some lines comes to stand. A character of a line break comes
to stand at the start of the next line. -/
def newOffset : List SpacedLine → Nat → Nat
  | [], p => p
  | l :: ls, p =>
    if p ≤ l.text.length then p else l.after.length + newOffset ls (p - l.before.length)

/-- A document and what is changed in its layout. -/
structure Spacing where
  /-- The lines that have line breaks. -/
  lines : List SpacedLine
  /-- What stands behind the last line break. -/
  last : List Char
  /-- What stands behind the last line break is one line. -/
  noFeed : '\n' ∉ last
  /-- Lines are put in between two lines only. -/
  between : last = [] → ∀ l ∈ lines.getLast?, l.fillers = []

namespace Spacing

/-- The document as it is. -/
def before (s : Spacing) : List Char := s.lines.flatMap SpacedLine.before ++ s.last

/-- The document in its other layout. -/
def after (s : Spacing) : List Char := s.lines.flatMap SpacedLine.after ++ s.last

/-- Where a character of the document comes to stand in the other layout. -/
def offset (s : Spacing) : Nat → Nat := newOffset s.lines

/-- Every text is a document whose layout can be changed. -/
theorem exists_before_eq (source : List Char) :
    ∃ s : Spacing, s.before = source ∧ ∀ l ∈ s.lines, l.fillers = [] := by
  induction source with
  | nil => exact ⟨⟨[], [], List.not_mem_nil, fun _ _ h => nomatch h⟩, rfl, fun _ h => nomatch h⟩
  | cons c cs ih =>
    obtain ⟨⟨lines, last, hlast, _⟩, rfl, hnone⟩ := ih
    have hbetween {ls : List SpacedLine} (h : ∀ l ∈ ls, l.fillers = []) (last : List Char) :
        last = [] → ∀ l ∈ ls.getLast?, l.fillers = [] :=
      fun _ l hl => h l (List.mem_of_getLast? hl)
    -- A line feed begins a document with an empty line; another character goes to the first line,
    -- or to the last if there is no other.
    by_cases hc : c = '\n'
    · have hall : ∀ l ∈ ⟨[], .lf, .lf, [], List.not_mem_nil⟩ :: lines, l.fillers = [] :=
        List.forall_mem_cons.2 ⟨rfl, hnone⟩
      exact ⟨⟨_, last, hlast, hbetween hall last⟩, by rw [hc]; rfl, hall⟩
    · have hcons {text : List Char} (h : '\n' ∉ text) : '\n' ∉ c :: text :=
        List.not_mem_cons_of_ne_of_not_mem (Ne.symm hc) h
      cases lines with
      | nil =>
        exact ⟨⟨[], c :: last, hcons hlast, fun _ _ h => nomatch h⟩, rfl, fun _ h => nomatch h⟩
      | cons l lines =>
        obtain ⟨hl, hlines⟩ := List.forall_mem_cons.1 hnone
        have hall : ∀ l' ∈ { l with text := c :: l.text, noFeed := hcons l.noFeed } :: lines,
            l'.fillers = [] := List.forall_mem_cons.2 ⟨hl, hlines⟩
        exact ⟨⟨_, last, hlast, hbetween hall last⟩, rfl, hall⟩

end Spacing

/-! ## Lines that are put in -/

/-- Only what stands behind a character of a line is dropped with its line break. -/
theorem dropBreak_append_cons (as : List Char) {c : Char} (hc : (c == '\n' || c == '\r') = false)
    (bs : List Char) : dropBreak (as ++ c :: bs) = as ++ c :: dropBreak bs := by
  have hdrop : ((bs.reverse ++ [c] ++ as.reverse).dropWhile fun c => c == '\n' || c == '\r') =
      (bs.reverse.dropWhile fun c => c == '\n' || c == '\r') ++ [c] ++ as.reverse := by
    rw [List.append_assoc, List.dropWhile_append, List.singleton_append,
      List.dropWhile_cons_of_neg (by rw [hc]; exact Bool.false_ne_true), List.append_assoc]
    split
    · rename_i h
      rw [List.isEmpty_iff.1 h]
      rfl
    · rfl
  rw [dropBreak, List.reverse_append, List.reverse_cons, hdrop, List.reverse_append,
    List.reverse_append, List.reverse_reverse]
  rfl

/-- A line is the same without either line break. -/
theorem dropBreak_append_chars (text : List Char) (ending : LineBreak) :
    dropBreak (text ++ ending.chars) = dropBreak text := by
  unfold dropBreak
  rw [List.reverse_append]
  cases ending <;> rfl

/-- A text behind `Rem` and a space is skipped. -/
theorem isSkipped_rem {word : List Char} (h : Text.sameIgnoringCase word "rem".toList = true)
    {blanks : List Char} (hblanks : ∀ c ∈ blanks, Text.isBlank c = true) (rest : List Char) :
    isSkipped (blanks ++ (word ++ ' ' :: rest)) = true := by
  have hlower : word.map Char.toLower = ['r', 'e', 'm'] := Text.sameIgnoringCase_iff.1 h
  obtain ⟨r, tail, rfl, hr, htail⟩ := List.map_eq_cons_iff.1 hlower
  have hmark : r ≠ '\x27' := by rintro rfl; exact absurd hr (by decide)
  have hblank : Text.isBlank r = false := by
    rw [← Text.Recases.toLower.isBlank, hr]
    decide
  have htrim : Text.trimStart (blanks ++ (r :: tail ++ ' ' :: rest)) =
      r :: (tail ++ ' ' :: rest) := by
    rw [Text.trimStart, List.dropWhile_append_of_pos hblanks, List.cons_append,
      List.dropWhile_cons_of_neg (by rw [hblank]; exact Bool.false_ne_true)]
  -- Four characters are looked at: the three letters and the space.
  have htake : (r :: (tail ++ ' ' :: rest)).take 4 = r :: tail ++ [' '] := by
    have hlength : tail.length = 2 := by simpa using congrArg List.length htail
    rw [List.take_succ_cons, List.take_append, hlength, List.take_of_length_le (by omega)]
    rfl
  unfold isSkipped
  rw [htrim]
  split
  case h_1 heq => exact absurd heq (List.cons_ne_nil _ _)
  case h_2 heq => exact absurd (List.cons.inj heq).1 hmark
  case h_3 =>
    rw [htake, Text.sameIgnoringCase_iff, List.map_append, hlower]
    rfl

/-- Blank lines and comments are skipped. -/
theorem IsFiller.isSkipped {text : List Char} (h : IsFiller text) :
    isSkipped (dropBreak text) = true := by
  have hblank {blanks : List Char} (h : ∀ c ∈ blanks, Text.isBlank c = true) (rest : List Char) :
      Text.trimStart (blanks ++ rest) = Text.trimStart rest := List.dropWhile_append_of_pos h
  cases h with
  | blank h =>
    have hsub : ∀ c ∈ dropBreak text, Text.isBlank c = true := fun c hc =>
      h c (List.mem_reverse.1 ((List.dropWhile_suffix _).mem (List.mem_reverse.1 hc)))
    have htrim : Text.trimStart (dropBreak text ++ []) = [] := hblank hsub []
    rw [List.append_nil] at htrim
    rw [VisualBasic.isSkipped, htrim]
  | apostrophe h =>
    rw [dropBreak_append_cons _ (by decide), VisualBasic.isSkipped, hblank h]
    rfl
  | rem h hword =>
    rw [← List.append_assoc, dropBreak_append_cons _ (by decide), List.append_assoc]
    exact isSkipped_rem hword h _

/-! ## Lines side by side -/

/-- A line with its line break is a raw line. -/
theorem rawLines_append_chars {text : List Char} (h : '\n' ∉ text) (ending : LineBreak)
    (rest : List Char) :
    rawLines (text ++ ending.chars ++ rest) = (text ++ ending.chars) :: rawLines rest := by
  rw [List.append_assoc]
  cases ending with
  | lf => exact rawLines_append h rest
  | crlf =>
    have hreturn : '\n' ∉ text ++ ['\r'] := by
      rw [List.mem_append, not_or]
      exact ⟨h, by decide⟩
    have hline := rawLines_append hreturn rest
    rw [List.append_assoc, List.append_assoc] at hline
    exact hline

/-- The last line of a text has no line break. -/
theorem rawLines_last {text : List Char} (h : '\n' ∉ text) :
    rawLines text = if text = [] then [] else [text] := by
  induction text with
  | nil => rfl
  | cons c cs ih =>
    rw [List.mem_cons, not_or] at h
    rw [rawLines, if_neg (Ne.symm h.1), ih h.2, if_neg (List.cons_ne_nil c cs)]
    cases cs with
    | nil => rfl
    | cons d cs => rw [if_neg (List.cons_ne_nil d cs)]

theorem rawLines_fillers (fillers : List Filler) (rest : List Char) :
    rawLines (fillers.flatMap Filler.chars ++ rest) =
      fillers.map Filler.chars ++ rawLines rest := by
  induction fillers with
  | nil => rfl
  | cons l fillers ih =>
    rw [List.flatMap_cons, List.append_assoc, Filler.chars, rawLines_append_chars l.noFeed, ih]
    rfl

namespace SpacedLine

variable (l : SpacedLine)

theorem rawLines_before (rest : List Char) :
    rawLines (l.before ++ rest) = l.before :: rawLines rest :=
  rawLines_append_chars l.noFeed l.old rest

theorem rawLines_after (rest : List Char) :
    rawLines (l.after ++ rest) =
      (l.text ++ l.new.chars) :: (l.fillers.map Filler.chars ++ rawLines rest) := by
  rw [after, List.append_assoc, rawLines_append_chars l.noFeed, rawLines_fillers]

end SpacedLine

/-- What stands behind a line moves as that line does, and as the lines behind it do. -/
theorem newOffset_before_add (l : SpacedLine) (ls : List SpacedLine) (p : Nat) :
    newOffset (l :: ls) (l.before.length + p) = l.after.length + newOffset ls p := by
  have hbreak : l.text.length < l.before.length := by
    have hchars : 0 < l.old.chars.length := by cases l.old <;> decide
    rw [SpacedLine.before, List.length_append]
    omega
  rw [newOffset, if_neg (by omega), Nat.add_sub_cancel_left]

/-- Lines that are put in before a line stand beside no line of the document. -/
theorem respaced_fillers {f : Nat → Nat} {ls : List Line} {raws : List (List Char)}
    (fillers : List Filler) (hne : fillers ≠ [] → ls ≠ []) (offset : Nat)
    (h : Respaced id f ls (place (offset + (fillers.flatMap Filler.chars).length) raws)) :
    Respaced id f ls (place offset (fillers.map Filler.chars ++ raws)) := by
  induction fillers generalizing offset with
  | nil => exact h
  | cons l fillers ih =>
    rw [List.flatMap_cons, List.length_append, ← Nat.add_assoc] at h
    have hls : ls ≠ [] := hne (List.cons_ne_nil _ _)
    have hskipped : isSkipped (dropBreak l.chars) = true := by
      rw [Filler.chars, dropBreak_append_chars]
      exact l.isFiller.isSkipped
    have hrest := ih (fun _ => hls) _ h
    obtain ⟨line, ls, rfl⟩ := List.exists_cons_of_ne_nil hls
    exact .insert hskipped hrest

/-- A raw line whose text is the same is the same line, moved. -/
theorem like_of_dropBreak {f : Nat → Nat} {raw raw' : List Char} {offset offset' : Nat}
    (hdrop : dropBreak raw' = dropBreak raw)
    (hf : ∀ p ≤ (dropBreak raw).length, f (offset + p) = offset' + p) :
    Line.Like id f ⟨dropBreak raw, offset, offset + (dropBreak raw).length⟩
      ⟨dropBreak raw', offset', offset' + (dropBreak raw').length⟩ := by
  refine ⟨by rw [hdrop], ?_⟩
  rw [hdrop, Span.moved, hf _ (Nat.le_refl _), ← Nat.add_zero offset, hf 0 (Nat.zero_le _)]
  rfl

/-- A document is not empty if it has a line that ends, or a last one with some text. -/
theorem place_ne_nil {last : List Char} (hlast : '\n' ∉ last) {ls : List SpacedLine}
    (h : ls = [] → last ≠ []) (offset : Nat) :
    place offset (rawLines (ls.flatMap SpacedLine.before ++ last)) ≠ [] := by
  cases ls with
  | nil =>
    rw [List.flatMap_nil, List.nil_append, rawLines_last hlast, if_neg (h rfl)]
    exact List.cons_ne_nil _ _
  | cons l ls =>
    rw [List.flatMap_cons, List.append_assoc, l.rawLines_before]
    exact List.cons_ne_nil _ _

/-- The lines of a document are found again in its other layout, with skipped lines between. The
induction is on the lines from an offset of either text on, which `f` takes to each other. -/
theorem respaced_place {f : Nat → Nat} {last : List Char} (hlast : '\n' ∉ last)
    (ls : List SpacedLine) (hbetween : last = [] → ∀ l ∈ ls.getLast?, l.fillers = [])
    (offset offset' : Nat) (hf : ∀ p, f (offset + p) = offset' + newOffset ls p) :
    Respaced id f (place offset (rawLines (ls.flatMap SpacedLine.before ++ last)))
      (place offset' (rawLines (ls.flatMap SpacedLine.after ++ last))) := by
  induction ls generalizing offset offset' with
  | nil =>
    rw [List.flatMap_nil, List.flatMap_nil, List.nil_append, rawLines_last hlast]
    split
    · exact .nil
    · exact .keep (like_of_dropBreak rfl fun p _ => hf p) .nil
  | cons l ls ih =>
    have hdrop : dropBreak (l.text ++ l.new.chars) = dropBreak l.before := by
      rw [SpacedLine.before, dropBreak_append_chars, dropBreak_append_chars]
    have hkept (p : Nat) (hp : p ≤ (dropBreak l.before).length) : f (offset + p) = offset' + p := by
      have hle := length_dropBreak_le l.text
      rw [SpacedLine.before, dropBreak_append_chars] at hp
      rw [hf, newOffset, if_pos (by omega)]
    have hnext (p : Nat) : f (offset + l.before.length + p) =
        offset' + (l.text ++ l.new.chars).length + (l.fillers.flatMap Filler.chars).length +
          newOffset ls p := by
      rw [Nat.add_assoc, hf, newOffset_before_add, SpacedLine.after, List.length_append]
      omega
    have htail : last = [] → ∀ l ∈ ls.getLast?, l.fillers = [] := by
      intro hnil m hm
      refine hbetween hnil m ?_
      cases ls with
      | nil => exact nomatch hm
      | cons m' ls => exact hm
    -- A line stands behind those that are put in.
    have hne (hfillers : l.fillers ≠ []) :
        place (offset + l.before.length)
          (rawLines (ls.flatMap SpacedLine.before ++ last)) ≠ [] := by
      refine place_ne_nil hlast (fun hls hnil => hfillers (hbetween hnil l ?_)) _
      rw [hls]
      rfl
    rw [List.flatMap_cons, List.append_assoc, l.rawLines_before, List.flatMap_cons,
      List.append_assoc, l.rawLines_after]
    exact .keep (like_of_dropBreak hdrop hkept) (respaced_fillers l.fillers hne _ (ih htail _ _ hnext))

/-- Lines side by side with those of a document in the same case are those lines, moved. -/
theorem Respaced.sublist {f : Nat → Nat} {ls ls' : List Line} (h : Respaced id f ls ls') :
    (ls.map fun l => ⟨l.text, l.span.moved f⟩).Sublist ls' := by
  induction h with
  | nil => exact .slnil
  | @keep l l' ls ls' hl _ ih =>
    have htext : l'.text = l.text := by simpa using hl.text
    have heq : l' = ⟨l.text, l.span.moved f⟩ := by rw [← htext, ← hl.span]
    rw [heq]
    exact ih.cons_cons _
  | insert _ _ ih => exact ih.cons _

/-- The other layout of a document declares the same types, with the same members, and every place
is that of the same lines: these stand in it in their order, moved in the same way. -/
theorem outline_after (s : Spacing) :
    outline s.after = (outline s.before).moved s.offset ∧
      ((lines s.before).map fun l => ⟨l.text, l.span.moved s.offset⟩).Sublist (lines s.after) := by
  have hlines : Respaced id s.offset (lines s.before) (lines s.after) :=
    respaced_place s.noFeed s.lines s.between 0 0 fun p => by rw [Nat.zero_add, Nat.zero_add]; rfl
  have heq (t t' : DeclaredType)
      (ht : t.Like (SameUnder id) (Span.MovesTo s.offset) t') :
      t' = t.moved s.offset := by
    refine (ht.imp (fun a b hab => ?_) fun _ _ hspan => hspan).eq_moved
    rw [SameUnder, List.map_id, List.map_id] at hab
    exact String.toList_inj.1 hab
  have htypes : (outline s.after).types = (outline s.before).types.map (·.moved s.offset) :=
    eq_map_of_forall₂ ((outline_like Text.Recases.refl hlines).imp heq)
  exact ⟨congrArg Outline.mk htypes, hlines.sublist⟩

/-- Comments and a blank line before an accessor leave the property expanded. -/
theorem outline_after_comments :
    ∃ s : Spacing,
      s.before = "Class A\nProperty B As Integer\nGet\nEnd Property\nEnd Class".toList ∧
      s.after =
        "Class A\r\nProperty B As Integer\n' No\n\nREM set\nGet\nEnd Property\nEnd Class".toList ∧
      outline s.after = (outline s.before).moved s.offset := by
  have hcomment : IsFiller "' No".toList := .apostrophe (List.forall_mem_nil _)
  have hblank : IsFiller [] := .blank (List.forall_mem_nil _)
  have hrem : IsFiller "REM set".toList :=
    @IsFiller.rem [] "REM".toList "set".toList (List.forall_mem_nil _) rfl
  let fillers : List Filler :=
    [⟨"' No".toList, .lf, by decide, hcomment⟩, ⟨[], .lf, by decide, hblank⟩,
      ⟨"REM set".toList, .lf, by decide, hrem⟩]
  let s : Spacing :=
    { lines :=
        [⟨"Class A".toList, .lf, .crlf, [], by decide⟩,
          ⟨"Property B As Integer".toList, .lf, .lf, fillers, by decide⟩,
          ⟨"Get".toList, .lf, .lf, [], by decide⟩,
          ⟨"End Property".toList, .lf, .lf, [], by decide⟩]
      last := "End Class".toList
      noFeed := by decide
      between := fun h => absurd h (by decide) }
  exact ⟨s, rfl, rfl, (outline_after s).1⟩

end ViewForge.VisualBasic
