import ViewForge.Proofs.Outline.Likeness
import ViewForge.Proofs.VisualBasic.Lines
import ViewForge.Proofs.VisualBasic.Recasing

/-!
# Documents read side by side

Two documents are read side by side if the lines of the second are those of the first, moved and
perhaps in another case, with lines between them that are skipped (`Respaced`). Their readings stay
alike line by line (`readLine_like`), also where a construct looks ahead for its last line, which it
finds in both documents at the same line (`Cut`). So their outlines are alike
(`outline_like`): names are the same up to case, and places are moved with their lines.

A construct that skips lines only where it begins, but not where it looks for its end, is not
disturbed by lines that are skipped elsewhere, since such a line is no accessor and ends nothing
(`accessorHeader?_of_isSkipped`, `beginsEnd_of_isSkipped`).
-/

namespace ViewForge.VisualBasic

/-- Two strings that a map of characters makes the same. -/
def SameUnder (n : Char → Char) (a b : String) : Prop := a.toList.map n = b.toList.map n

/-- A line and one with the same text under a map of characters, in a moved place. -/
structure Line.Like (n : Char → Char) (f : Nat → Nat) (l l' : Line) : Prop where
  text : l'.text.map n = l.text.map n
  span : l'.span = l.span.moved f

/-- Lines and those of a document that has skipped lines before some of them. -/
inductive Respaced (n : Char → Char) (f : Nat → Nat) : List Line → List Line → Prop
  | nil : Respaced n f [] []
  | keep {l l' : Line} {ls ls' : List Line} :
      Line.Like n f l l' → Respaced n f ls ls' → Respaced n f (l :: ls) (l' :: ls')
  | insert {l l' : Line} {ls ls' : List Line} :
      isSkipped l'.text = true → Respaced n f (l :: ls) ls' → Respaced n f (l :: ls) (l' :: ls')

/-- Lines are cut behind the same line of both documents. -/
def Cut (n : Char → Char) (f : Nat → Nat) (ls ls' : List Line) (i i' : Nat) : Prop :=
  ∃ l l', ls[i]? = some l ∧ ls'[i']? = some l' ∧ Line.Like n f l l' ∧
    Respaced n f (ls.drop (i + 1)) (ls'.drop (i' + 1))

/-- Open types that are alike. -/
structure Frame.Like (n : Char → Char) (f : Nat → Nat) (a b : Frame) : Prop where
  declared : a.declared.Like (SameUnder n) (Span.MovesTo f) b.declared
  nested : List.Forall₂ (DeclaredType.Like (SameUnder n) (Span.MovesTo f)) a.nested b.nested

/-- Readings that are alike. -/
structure Reading.Like (n : Char → Char) (f : Nat → Nat) (r r' : Reading) : Prop where
  done : List.Forall₂ (DeclaredType.Like (SameUnder n) (Span.MovesTo f)) r.done r'.done
  opened : List.Forall₂ (Frame.Like n f) r.opened r'.opened
  namespaces : List.Forall₂ (SameUnder n) r.namespaces r'.namespaces

/-! ## Skipped lines -/

/-- Only a word that begins like a text stands at its start. -/
theorem anyWord?_eq_none {vocabulary : List String} {c : Char} (cs : List Char)
    (h : ∀ w ∈ vocabulary, w.toList ≠ [] ∧ w.toList.head? ≠ some (foldLetter c)) :
    anyWord? vocabulary (c :: cs) = none := by
  unfold anyWord?
  rw [List.findSome?_eq_none_iff]
  intro w hw
  obtain ⟨hne, hhead⟩ := h w hw
  obtain ⟨l, letters, hletters⟩ := List.exists_cons_of_ne_nil hne
  rw [hletters, List.head?_cons, ne_eq, Option.some.injEq] at hhead
  rw [hletters, afterLetters?, if_neg (Ne.symm hhead)]
  rfl

/-- White space before a comment is no part of it. -/
theorem beforeComment_append {before : List Char} (hbefore : ∀ c ∈ before, Text.isBlank c = true)
    (rest : List Char) :
    beforeComment false (before ++ rest) = before ++ beforeComment false rest := by
  induction before with
  | nil => rfl
  | cons c before ih =>
    obtain ⟨hc, hbefore⟩ := List.forall_mem_cons.1 hbefore
    have hmark : c ≠ '\x27' := by rintro rfl; exact absurd hc (by decide)
    have hquote : c ≠ '"' := by rintro rfl; exact absurd hc (by decide)
    simp [beforeComment, hmark, hquote, ih hbefore]

/-- A text without the white space at its end begins as the text does. -/
theorem head?_trimStart_trimEnd {cs : List Char} :
    ∀ c ∈ (Text.trimStart (Text.trimEnd cs)).head?, c ∈ (Text.trimStart cs).head? := by
  intro c hc
  obtain ⟨rest, hrest⟩ := List.head?_eq_some_iff.1 hc
  have hcs : cs = Text.trimEnd cs ++ (cs.reverse.takeWhile Text.isBlank).reverse := by
    rw [Text.trimEnd, ← List.reverse_append, List.takeWhile_append_dropWhile, List.reverse_reverse]
  have htrim : Text.trimStart cs = c :: (rest ++ (cs.reverse.takeWhile Text.isBlank).reverse) := by
    conv_lhs => rw [hcs]
    rw [Text.trimStart, List.dropWhile_append, ← Text.trimStart, hrest]
    rfl
  rw [htrim]
  rfl

/-- The code of a skipped line is empty or begins with the letter of `Rem`. -/
theorem code_of_isSkipped {text : List Char} (h : isSkipped text = true) :
    ∀ c ∈ (Text.trimStart (code text)).head?, c.toLower = 'r' := by
  intro c hc
  have hcode := head?_trimStart_trimEnd c hc
  have hblank : ∀ c ∈ text.takeWhile Text.isBlank, Text.isBlank c = true :=
    fun c hc => List.mem_takeWhile_imp hc
  have htext : text = text.takeWhile Text.isBlank ++ Text.trimStart text :=
    List.takeWhile_append_dropWhile.symm
  rw [htext, beforeComment_append hblank, Text.trimStart,
    List.dropWhile_append_of_pos hblank] at hcode
  -- A comment mark leaves no code before it, so only a `Rem` does.
  unfold isSkipped at h
  split at h
  case h_1 hnil =>
    rw [hnil] at hcode
    exact absurd hcode (Option.not_mem_none c)
  case h_2 rest hmark =>
    rw [hmark] at hcode
    exact absurd hcode (Option.not_mem_none c)
  case h_3 hnil hmark =>
    cases hrest : Text.trimStart text with
    | nil => exact absurd hrest hnil
    | cons d rest =>
      rw [hrest] at h hcode
      have hd : d.toLower = 'r' := by
        rw [List.take_succ_cons, Text.sameIgnoringCase, Bool.and_eq_true, beq_iff_eq] at h
        exact h.1
      have hne : d ≠ '\x27' := by rintro rfl; exact absurd hd (by decide)
      have hd' : Text.isBlank d = false := by
        rw [← Text.Recases.toLower.isBlank, hd]
        decide
      simp [beforeComment, hne, hd'] at hcode
      rw [← hcode, hd]

/-- What a text begins with decides which words may stand at its start. -/
theorem foldLetter_eq_of_toLower {c : Char} (h : c.toLower = 'r') : foldLetter c = 'r' := by
  have hs : c ≠ '\u017f' := by rintro rfl; exact absurd h (by decide)
  have hk : c ≠ '\u212a' := by rintro rfl; exact absurd h (by decide)
  rw [foldLetter, if_neg hs, if_neg hk, h]

/-- A skipped line is no accessor. -/
theorem accessorHeader?_of_isSkipped {text : List Char} (h : isSkipped text = true) :
    accessorHeader? (code text) = none := by
  have hcode := code_of_isSkipped h
  unfold accessorHeader?
  cases hcs : Text.trimStart (code text) with
  | nil => rfl
  | cons c cs =>
    rw [hcs] at hcode
    have hc : foldLetter c = 'r' := foldLetter_eq_of_toLower (hcode c rfl)
    -- No word of an accessor's header begins with the letter of `Rem`.
    have hnone {vocabulary : List String}
        (hv : ∀ w ∈ vocabulary, w.toList ≠ [] ∧ w.toList.head? ≠ some 'r') :
        anyWord? vocabulary (c :: cs) = none := anyWord?_eq_none cs (hc ▸ hv)
    have hmods : modifiers accessorModifiers (c :: cs) = ([], c :: cs) := by
      rw [modifiers, List.length_cons, modifiersWith, hnone (by decide)]
    rw [hmods]
    dsimp only
    rw [hnone (by decide)]
    rfl

/-- A skipped line ends nothing. -/
theorem beginsEnd_of_isSkipped (word : List Char) {text : List Char} (h : isSkipped text = true) :
    beginsEnd word (code text) = false := by
  have hcode := code_of_isSkipped h
  unfold beginsEnd
  cases hcs : Text.trimStart (code text) with
  | nil => rfl
  | cons c cs =>
    rw [hcs] at hcode
    have hc : ¬ 'e'.toLower = c.toLower := by
      rw [hcode c rfl]
      decide
    rw [List.cons_append, Text.afterIgnoringCase?, if_neg hc]
    rfl

/-! ## Looking ahead -/

/-- Two readings that a map makes the same both fail or both succeed. -/
theorem none_or_some_of_map_eq {α β : Type} {g : α → β} {a b : Option α} (h : b.map g = a.map g) :
    (a = none ∧ b = none) ∨ ∃ x y, a = some x ∧ b = some y ∧ g y = g x := by
  cases a with
  | none => exact .inl ⟨rfl, Option.map_eq_none_iff.1 h⟩
  | some x =>
    obtain ⟨y, hy, hxy⟩ := Option.map_eq_some_iff.1 h
    exact .inr ⟨x, y, rfl, hy, hxy⟩

section Lines

variable {n : Char → Char} {f : Nat → Nat} {l l' : Line} {ls ls' : List Line} {i i' : Nat}

/-- No line is put behind the last. -/
theorem Respaced.eq_nil (h : Respaced n f [] ls') : ls' = [] := by
  cases h
  rfl

theorem Respaced.ne_nil (h : Respaced n f ls ls') (hne : ls ≠ []) : ls' ≠ [] := by
  cases h with
  | nil => exact hne
  | keep => exact List.cons_ne_nil _ _
  | insert => exact List.cons_ne_nil _ _

theorem Cut.first (hl : Line.Like n f l l') (h : Respaced n f ls ls') :
    Cut n f (l :: ls) (l' :: ls') 0 0 :=
  ⟨l, l', rfl, rfl, hl, h⟩

theorem Cut.cons (h : Cut n f ls ls' i i') : Cut n f (l :: ls) (l' :: ls') (i + 1) (i' + 1) := h

theorem Cut.insert (h : Cut n f ls ls' i i') : Cut n f ls (l' :: ls') i (i' + 1) := h

/-- A cut behind lines that are dropped is a cut. -/
theorem Cut.of_drop {k k' : Nat} (h : Cut n f (ls.drop k) (ls'.drop k') i i') :
    Cut n f ls ls' (k + i) (k' + i') := by
  obtain ⟨l, l', hl, hl', hlike, hrest⟩ := h
  rw [List.getElem?_drop] at hl hl'
  rw [List.drop_drop, List.drop_drop, ← Nat.add_assoc, ← Nat.add_assoc] at hrest
  exact ⟨l, l', hl, hl', hlike, hrest⟩

/-- The span over a construct that ends at a cut is moved. -/
theorem Cut.spanOver_eq {line line' : Line} (hline : Line.Like n f line line')
    (h : Cut n f (line :: ls) (line' :: ls') i i') :
    spanOver line' ls' i' = (spanOver line ls i).moved f := by
  obtain ⟨l, l', hl, hl', hlike, -⟩ := h
  unfold spanOver
  rw [hl, hl', Option.getD_some, Option.getD_some, hline.span, hlike.span]
  rfl

/-- The last line does not depend on those before it. -/
theorem lastOffset_cons (l : Line) (hne : ls ≠ []) : lastOffset (l :: ls) = lastOffset ls := by
  obtain ⟨m, ls, rfl⟩ := List.exists_cons_of_ne_nil hne
  exact lastOffset_cons_cons l m ls

/-- The last lines of both documents correspond. -/
theorem Respaced.lastOffset_eq (h : Respaced n f ls ls') (hne : ls ≠ []) :
    lastOffset ls' = f (lastOffset ls) := by
  induction h with
  | nil => exact absurd rfl hne
  | @keep l l' ls ls' hl hrest ih =>
    by_cases hnil : ls = []
    · subst hnil
      obtain rfl := hrest.eq_nil
      exact congrArg Span.stop hl.span
    · rw [lastOffset_cons l hnil, lastOffset_cons l' (hrest.ne_nil hnil), ih hnil]
  | @insert l l' ls ls' _ hrest ih =>
    rw [lastOffset_cons l' (hrest.ne_nil hne), ih hne]

/-- The first line with a property is the same in both documents, if no skipped line has it. -/
theorem Respaced.findIdx? {p : Line → Bool} (hp : ∀ l l', Line.Like n f l l' → p l' = p l)
    (hskip : ∀ l : Line, isSkipped l.text = true → p l = false) (h : Respaced n f ls ls') :
    (ls.findIdx? p = none ∧ ls'.findIdx? p = none) ∨
      ∃ i i', ls.findIdx? p = some i ∧ ls'.findIdx? p = some i' ∧ Cut n f ls ls' i i' := by
  -- Lines that correspond move both indices on, a skipped one only that of the second document.
  induction h with
  | nil => exact .inl ⟨rfl, rfl⟩
  | keep hl hrest ih =>
    rw [List.findIdx?_cons, List.findIdx?_cons, hp _ _ hl]
    split
    · exact .inr ⟨0, 0, rfl, rfl, .first hl hrest⟩
    · rcases ih with ⟨h1, h2⟩ | ⟨i, i', h1, h2, hcut⟩
      · rw [h1, h2]
        exact .inl ⟨rfl, rfl⟩
      · rw [h1, h2]
        exact .inr ⟨i + 1, i' + 1, rfl, rfl, hcut.cons⟩
  | @insert l l' ls ls' hskipped hrest ih =>
    rw [List.findIdx?_cons (x := l'), hskip l' hskipped, if_neg Bool.false_ne_true]
    rcases ih with ⟨h1, h2⟩ | ⟨i, i', h1, h2, hcut⟩
    · rw [h1, h2]
      exact .inl ⟨rfl, rfl⟩
    · rw [h1, h2]
      exact .inr ⟨i, i' + 1, rfl, rfl, hcut.insert⟩

end Lines

/-- The accessors with the one that a line opens, if it opens one. -/
def Accessors.addLine (a : Accessors) (text : List Char) : Accessors :=
  (accessorHeader? text).elim a a.add

theorem readAccessors_cons (a : Accessors) (line : Line) (rest : List Line) :
    readAccessors a (line :: rest) =
      if beginsEnd "property".toList (code line.text) then (1, a)
      else
        ((readAccessors (a.addLine (code line.text)) rest).1 + 1,
          (readAccessors (a.addLine (code line.text)) rest).2) := by
  unfold Accessors.addLine
  rw [readAccessors]
  cases accessorHeader? (code line.text) <;> rfl

section Readers

variable {n : Char → Char} (hn : Text.Recases n) {f : Nat → Nat} {l l' : Line} {ls ls' : List Line}

include hn

theorem Line.Like.isSkipped_eq (h : Line.Like n f l l') : isSkipped l'.text = isSkipped l.text :=
  Text.eq_of_image_eq (isSkipped_map hn) h.text

/-- The codes of lines that are alike are the same under the map. -/
theorem Line.Like.code_map (h : Line.Like n f l l') :
    (code l'.text).map n = (code l.text).map n :=
  Text.image_eq_of_image_eq (VisualBasic.code_map hn) h.text

theorem Line.Like.beginsEnd_eq (h : Line.Like n f l l') (word : List Char) :
    beginsEnd word (code l'.text) = beginsEnd word (code l.text) :=
  Text.eq_of_image_eq (beginsEnd_map hn word) (h.code_map hn)

theorem Respaced.dropWhile (h : Respaced n f ls ls') :
    Respaced n f (ls.dropWhile fun l => isSkipped l.text)
      (ls'.dropWhile fun l => isSkipped l.text) := by
  induction h with
  | nil => exact .nil
  | keep hl hrest ih =>
    rw [List.dropWhile_cons, List.dropWhile_cons, hl.isSkipped_eq hn]
    split
    · exact ih
    · exact .keep hl hrest
  | @insert l l' ls ls' hskipped hrest ih =>
    rw [List.dropWhile_cons_of_pos (a := l') hskipped]
    exact ih

theorem Accessors.addLine_map (a : Accessors) (cs : List Char) :
    a.addLine (cs.map n) = a.addLine cs := by
  unfold Accessors.addLine
  rw [accessorHeader?_map hn]
  cases accessorHeader? cs with
  | none => rfl
  | some header => exact Accessors.add_map hn a header

/-- Accessors are read up to the same line of both documents, and show the same. -/
theorem readAccessors_like (h : Respaced n f ls ls') (hne : ls ≠ []) (a : Accessors) :
    ∃ i i', (readAccessors a ls).1 = i + 1 ∧ (readAccessors a ls').1 = i' + 1 ∧
      (readAccessors a ls').2 = (readAccessors a ls).2 ∧ Cut n f ls ls' i i' := by
  -- What is shown so far grows alike at lines that correspond, and not at all at a skipped line.
  induction h generalizing a with
  | nil => exact absurd rfl hne
  | @keep l l' ls ls' hl hrest ih =>
    have hadd : a.addLine (code l'.text) = a.addLine (code l.text) :=
      Text.eq_of_image_eq (Accessors.addLine_map hn a) (hl.code_map hn)
    rw [readAccessors_cons, readAccessors_cons, hl.beginsEnd_eq hn, hadd]
    split
    · exact ⟨0, 0, rfl, rfl, rfl, .first hl hrest⟩
    · by_cases hnil : ls = []
      · subst hnil
        obtain rfl := hrest.eq_nil
        exact ⟨0, 0, rfl, rfl, rfl, .first hl .nil⟩
      · obtain ⟨i, i', h1, h2, h3, hcut⟩ := ih hnil _
        exact ⟨i + 1, i' + 1, congrArg (· + 1) h1, congrArg (· + 1) h2, h3, hcut.cons⟩
  | @insert l l' ls ls' hskipped hrest ih =>
    obtain ⟨i, i', h1, h2, h3, hcut⟩ := ih hne a
    have hadd : a.addLine (code l'.text) = a := by
      rw [Accessors.addLine, accessorHeader?_of_isSkipped hskipped]
      rfl
    refine ⟨i, i' + 1, h1, ?_, ?_, hcut.insert⟩
    · rw [readAccessors_cons, beginsEnd_of_isSkipped _ hskipped, hadd]
      exact congrArg (· + 1) h2
    · rw [readAccessors_cons, beginsEnd_of_isSkipped _ hskipped, hadd]
      exact h3

/-- The accessors of a property take lines up to the same line of both documents. -/
theorem accessorsAfter?_like (h : Respaced n f ls ls') (line line' : Line) :
    (accessorsAfter? ls = none ∧ accessorsAfter? ls' = none) ∨
      ∃ i i' a, accessorsAfter? ls = some (i, a) ∧ accessorsAfter? ls' = some (i', a) ∧
        Cut n f (line :: ls) (line' :: ls') i i' := by
  have hdrop (ls : List Line) : (ls.dropWhile fun l => isSkipped l.text) =
      ls.drop (ls.takeWhile fun l => isSkipped l.text).length := by
    have hsplit := List.takeWhile_append_dropWhile (p := fun l : Line => isSkipped l.text) (l := ls)
    have hcut := congrArg (List.drop (ls.takeWhile fun l => isSkipped l.text).length) hsplit
    rwa [List.drop_left] at hcut
  have hrest := h.dropWhile hn
  unfold accessorsAfter?
  dsimp only
  -- Both documents pass over skipped lines first. The first line that is left is skipped in
  -- neither, so the two correspond.
  cases hls : ls.dropWhile fun l => isSkipped l.text with
  | nil =>
    rw [hls] at hrest
    rw [hrest.eq_nil]
    exact .inl ⟨rfl, rfl⟩
  | cons l more =>
    rw [hls] at hrest
    cases hls' : ls'.dropWhile fun l => isSkipped l.text with
    | nil =>
      rw [hls'] at hrest
      exact nomatch hrest
    | cons l' more' =>
      rw [hls'] at hrest
      have hskipped : isSkipped l'.text = false :=
        Text.head_dropWhile (fun l : Line => isSkipped l.text) ls' l' (by rw [hls']; rfl)
      have hl : Line.Like n f l l' := by
        cases hrest with
        | keep hl _ => exact hl
        | insert hskip _ => exact absurd hskip (Bool.eq_false_iff.1 hskipped)
      have hsome : (accessorHeader? (code l'.text)).isSome =
          (accessorHeader? (code l.text)).isSome := by
        have hmap := congrArg (fun cs => (accessorHeader? cs).isSome) (hl.code_map hn)
        simpa only [accessorHeader?_map hn, Option.isSome_map] using hmap
      dsimp only
      rw [hsome]
      split
      · obtain ⟨i, i', h1, h2, h3, hcut⟩ := readAccessors_like hn hrest (List.cons_ne_nil _ _) {}
        rw [h1, h2, h3]
        rw [← hls, ← hls', hdrop ls, hdrop ls'] at hcut
        exact .inr ⟨_, _, _, rfl, rfl, hcut.of_drop.cons⟩
      · exact .inl ⟨rfl, rfl⟩

end Readers

/-! ## Readings -/

theorem SameUnder.ofList {n : Char → Char} {as bs : List Char} (h : as.map n = bs.map n) :
    SameUnder n (String.ofList as) (String.ofList bs) := by
  rw [SameUnder, String.toList_ofList, String.toList_ofList, h]

/-- A text, or `Object` for an empty one. -/
theorem SameUnder.orObject {n : Char → Char} {as bs : List Char} (h : as.map n = bs.map n) :
    SameUnder n (if as.isEmpty then "Object" else String.ofList as)
      (if bs.isEmpty then "Object" else String.ofList bs) := by
  have hempty : as.isEmpty = bs.isEmpty := by
    rw [← List.isEmpty_map (f := n), h, List.isEmpty_map]
  rw [hempty]
  split
  · rfl
  · exact .ofList h

/-- Lists of texts that a map makes the same, as strings. -/
theorem forall₂_ofList {n : Char → Char} {as bs : List (List Char)}
    (h : as.map (List.map n) = bs.map (List.map n)) :
    List.Forall₂ (SameUnder n) (as.map String.ofList) (bs.map String.ofList) := by
  rw [← List.forall₂_eq_eq_eq, List.forall₂_map_left_iff, List.forall₂_map_right_iff] at h
  rw [List.forall₂_map_left_iff, List.forall₂_map_right_iff]
  exact h.imp fun _ _ => SameUnder.ofList

/-- Paths with the same parts under a map are the same under it. -/
theorem SameUnder.intercalate {n : Char → Char} {ps qs : List String}
    (h : List.Forall₂ (SameUnder n) ps qs) :
    SameUnder n (".".intercalate ps) (".".intercalate qs) := by
  have hmap (sep : List Char) (ls : List (List Char)) :
      (sep.intercalate ls).map n = (sep.map n).intercalate (ls.map (List.map n)) := by
    induction ls with
    | nil => rfl
    | cons l ls ih =>
      cases ls with
      | nil => simp
      | cons m ls => simp_all [List.intercalate_cons_cons]
  have hparts :
      (ps.map String.toList).map (List.map n) = (qs.map String.toList).map (List.map n) := by
    rw [← List.forall₂_eq_eq_eq, List.forall₂_map_left_iff, List.forall₂_map_right_iff,
      List.forall₂_map_left_iff, List.forall₂_map_right_iff]
    exact h
  rw [SameUnder, String.toList_intercalate, String.toList_intercalate, hmap, hmap, hparts]

section Readings

variable {n : Char → Char} {f : Nat → Nat} {r r' : Reading}

namespace Reading

theorem Like.addClosed (h : r.Like n f r') {ts ts' : List DeclaredType}
    (hts : List.Forall₂ (DeclaredType.Like (SameUnder n) (Span.MovesTo f)) ts ts') :
    (r.addClosed ts).Like n f (r'.addClosed ts') := by
  obtain ⟨hdone, hopened, hnamespaces⟩ := h
  obtain ⟨done, opened, namespaces⟩ := r
  obtain ⟨done', opened', namespaces'⟩ := r'
  cases hopened with
  | nil => exact ⟨List.rel_append hdone hts, .nil, hnamespaces⟩
  | cons hframe hrest =>
    exact ⟨hdone, .cons ⟨hframe.declared, List.rel_append hframe.nested hts⟩ hrest, hnamespaces⟩

theorem Like.close (h : r.Like n f r') {stop stop' : Nat} (hstop : stop' = f stop) :
    (r.close stop).Like n f (r'.close stop') := by
  obtain ⟨hdone, hopened, hnamespaces⟩ := h
  obtain ⟨done, opened, namespaces⟩ := r
  obtain ⟨done', opened', namespaces'⟩ := r'
  cases hopened with
  | nil => exact ⟨hdone, .nil, hnamespaces⟩
  | @cons frame frame' rest rest' hframe hrest =>
    -- The types closed and the lists they go to are alike part by part; only the end of the span is
    -- new.
    have hspan : ({ frame'.declared.span with stop := stop' } : Span) =
        Span.moved f { frame.declared.span with stop } := by
      rw [hframe.declared.span, hstop]
      rfl
    have hclosed : ({ frame.declared with span := { frame.declared.span with stop } } :
        DeclaredType).Like (SameUnder n) (Span.MovesTo f)
          { frame'.declared with span := { frame'.declared.span with stop := stop' } } :=
      { hframe.declared with span := hspan }
    have hothers : Reading.Like n f ⟨done, rest, namespaces⟩ ⟨done', rest', namespaces'⟩ :=
      ⟨hdone, hrest, hnamespaces⟩
    exact hothers.addClosed (.cons hclosed hframe.nested)

/-- The innermost open types change alike. -/
theorem Like.change (h : r.Like n f r') {g g' : DeclaredType → DeclaredType}
    (hg : ∀ t t' : DeclaredType, t.Like (SameUnder n) (Span.MovesTo f) t' →
      (g t).Like (SameUnder n) (Span.MovesTo f) (g' t')) :
    (r.change g).Like n f (r'.change g') := by
  obtain ⟨hdone, hopened, hnamespaces⟩ := h
  obtain ⟨done, opened, namespaces⟩ := r
  obtain ⟨done', opened', namespaces'⟩ := r'
  cases hopened with
  | nil => exact ⟨hdone, .nil, hnamespaces⟩
  | cons hframe hrest =>
    exact ⟨hdone, .cons ⟨hg _ _ hframe.declared, hframe.nested⟩ hrest, hnamespaces⟩

theorem Like.scope (h : r.Like n f r') : Option.Rel (SameUnder n) r.scope r'.scope := by
  have hnames : List.Forall₂ (SameUnder n) (r.opened.map (·.declared.decl.name))
      (r'.opened.map (·.declared.decl.name)) := by
    rw [List.forall₂_map_left_iff, List.forall₂_map_right_iff]
    exact h.opened.imp fun _ _ hframe => hframe.declared.decl.name
  have hpath : List.Forall₂ (SameUnder n)
      (r.namespaces.reverse ++ (r.opened.map (·.declared.decl.name)).reverse)
      (r'.namespaces.reverse ++ (r'.opened.map (·.declared.decl.name)).reverse) :=
    List.rel_append (List.forall₂_reverse_iff.2 h.namespaces)
      (List.forall₂_reverse_iff.2 hnames)
  unfold Reading.scope
  dsimp only
  -- The scope is empty for an empty path only, so the paths are compared before they are joined.
  generalize r.namespaces.reverse ++ (r.opened.map (·.declared.decl.name)).reverse = path at hpath ⊢
  generalize r'.namespaces.reverse ++ (r'.opened.map (·.declared.decl.name)).reverse = path'
    at hpath ⊢
  cases hpath with
  | nil => exact .none
  | cons hfirst hrest => exact .some (SameUnder.intercalate (.cons hfirst hrest))

end Reading

/-- Types that gain properties which are alike. -/
theorem like_addProperty {t t' : DeclaredType} {p p' : Property} {s s' : Span}
    (h : t.Like (SameUnder n) (Span.MovesTo f) t') (hp : p.Like (SameUnder n) p')
    (hs : s' = s.moved f) :
    (t.addProperty p s).Like (SameUnder n) (Span.MovesTo f) (t'.addProperty p' s') :=
  { h with
    decl := { h.decl with properties := List.rel_append h.decl.properties (.cons hp .nil) }
    propertySpans := List.rel_append h.propertySpans (.cons hs .nil) }

/-- Types that gain members in corresponding places. -/
theorem like_addMember {t t' : DeclaredType} {s s' : Span}
    (h : t.Like (SameUnder n) (Span.MovesTo f) t') (hs : s' = s.moved f) :
    (t.addMember s).Like (SameUnder n) (Span.MovesTo f) (t'.addMember s') :=
  { h with memberSpans := List.rel_append h.memberSpans (.cons hs .nil) }

end Readings

/-! ## Constructs -/

/-- A construct is read, and what follows it is read next. -/
theorem readLines_construct (line : Line) (rest : List Line) (r : Reading) :
    readLines 0 (line :: rest) r =
      readLines 0 ((line :: rest).drop ((readLine line rest r).2 + 1))
        (readLine line rest r).1 := by
  have hdrop (skip : Nat) (ls : List Line) (r : Reading) :
      readLines skip ls r = readLines 0 (ls.drop skip) r := by
    induction ls generalizing skip with
    | nil => rw [List.drop_nil, readLines, readLines]
    | cons l ls ih =>
      cases skip with
      | zero => rfl
      | succ skip => exact ih skip
  exact hdrop (readLine line rest r).2 rest (readLine line rest r).1

/-- What follows the first of two lists corresponds as they do. -/
theorem forall₂_tail {α β : Type} {R : α → β → Prop} {as : List α} {bs : List β}
    (h : List.Forall₂ R as bs) : List.Forall₂ R as.tail bs.tail := by
  cases h with
  | nil => exact .nil
  | cons _ hrest => exact hrest

/-- Both documents have read a construct up to the same line, and the readings are alike. -/
def StepLike (n : Char → Char) (f : Nat → Nat) (ls ls' : List Line) (out out' : Reading × Nat) :
    Prop :=
  out.1.Like n f out'.1 ∧ Cut n f ls ls' out.2 out'.2

section Constructs

variable {n : Char → Char} (hn : Text.Recases n) {f : Nat → Nat} {line line' : Line}
  {rest rest' : List Line} {r r' : Reading}

/-- A line that changes the reading alike and takes no further lines. -/
theorem stepLike_line (hl : Line.Like n f line line') (hrest : Respaced n f rest rest')
    (h : r.Like n f r') : StepLike n f (line :: rest) (line' :: rest') (r, 0) (r', 0) :=
  ⟨h, .first hl hrest⟩

include hn

/-- The line that ends a block is the same in both documents, or neither has one. -/
theorem linesToEnd?_cut (hl : Line.Like n f line line') (hrest : Respaced n f rest rest')
    {word word' : List Char} (hword : word'.map n = word.map n) :
    Cut n f (line :: rest) (line' :: rest') ((linesToEnd? word rest).getD 0)
      ((linesToEnd? word' rest').getD 0) := by
  -- The end is looked for up to case, so either document's word finds it.
  have hends (cs : List Char) : beginsEnd word' cs = beginsEnd word cs := by
    have hlower : word'.map Char.toLower = word.map Char.toLower :=
      Text.eq_of_image_eq hn.map_toLower_map hword
    rw [← beginsEnd_toLower, hlower, beginsEnd_toLower]
  have hp (l l' : Line) (hll : Line.Like n f l l') :
      beginsEnd word (code l'.text) = beginsEnd word (code l.text) := hll.beginsEnd_eq hn word
  unfold linesToEnd?
  simp only [hends]
  rcases hrest.findIdx? hp (fun l hl => beginsEnd_of_isSkipped _ hl) with
    ⟨h1, h2⟩ | ⟨i, i', h1, h2, hcut⟩
  · rw [h1, h2]
    exact .first hl hrest
  · rw [h1, h2]
    exact hcut.cons

/-- A block takes lines up to the same line of both documents. -/
theorem blockLength_cut (hl : Line.Like n f line line') (hrest : Respaced n f rest rest')
    {header header' : BlockHeader} (hheader : header'.map n = header.map n) (inInterface : Bool) :
    Cut n f (line :: rest) (line' :: rest') (blockLength header inInterface rest)
      (blockLength header' inInterface rest') := by
  obtain ⟨hmods, hword⟩ := BlockHeader.mk.inj hheader
  have hmod (w : String) : hasModifier header'.modifiers w = hasModifier header.modifiers w :=
    Text.eq_of_image_eq (p := (hasModifier · w)) (fun mods => hasModifier_map hn mods w) hmods
  have hsame (w : List Char) :
      Text.sameIgnoringCase header'.word w = Text.sameIgnoringCase header.word w :=
    Text.eq_of_image_eq (p := (Text.sameIgnoringCase · w)) (hn.sameIgnoringCase_map · w) hword
  -- Whether the header opens a block depends on its words up to case alone.
  have hcut (isBlock : Bool) : Cut n f (line :: rest) (line' :: rest')
      (if isBlock then (linesToEnd? header.word rest).getD 0 else 0)
      (if isBlock then (linesToEnd? header'.word rest').getD 0 else 0) := by
    cases isBlock with
    | false => exact .first hl hrest
    | true => exact linesToEnd?_cut hn hl hrest hword
  unfold blockLength
  simp only [hmod, hsame]
  exact hcut _

/-- A property takes lines up to the same line of both documents and is declared alike. -/
theorem readProperty_like (hl : Line.Like n f line line') (hrest : Respaced n f rest rest')
    {header header' : PropertyHeader} (hheader : header'.map n = header.map n) (kind : TypeKind) :
    (readProperty header kind line rest).1.Like (SameUnder n)
        (readProperty header' kind line' rest').1 ∧
      (readProperty header' kind line' rest').2.1 =
        (readProperty header kind line rest).2.1.moved f ∧
      Cut n f (line :: rest) (line' :: rest') (readProperty header kind line rest).2.2
        (readProperty header' kind line' rest').2.2 := by
  obtain ⟨hmods, hname, hannotation⟩ := PropertyHeader.mk.inj hheader
  have hmod (w : String) : hasModifier header'.modifiers w = hasModifier header.modifiers w :=
    Text.eq_of_image_eq (p := (hasModifier · w)) (fun mods => hasModifier_map hn mods w) hmods
  have haccess : accessOf header'.modifiers = accessOf header.modifiers :=
    Text.eq_of_image_eq (accessOf_map hn) hmods
  have htype : SameUnder n (readProperty header kind line rest).1.typeText
      (readProperty header' kind line' rest').1.typeText := by
    rcases none_or_some_of_map_eq hannotation with ⟨h1, h2⟩ | ⟨a, a', h1, h2, heq⟩
    · unfold readProperty
      rw [h1, h2]
      exact SameUnder.orObject rfl
    · obtain ⟨hnew, htext⟩ := Annotation.mk.inj heq
      unfold readProperty
      rw [h1, h2]
      refine SameUnder.orObject ?_
      rw [← propertyType_map hn, ← propertyType_map hn, hnew, htext]
  -- Both look for accessors or neither does: the kind of the type and the modifiers decide.
  have hexpanded (oneLine : Bool) :
      ((if oneLine then none else accessorsAfter? rest) = none ∧
          (if oneLine then none else accessorsAfter? rest') = none) ∨
        ∃ i i' a, (if oneLine then none else accessorsAfter? rest) = some (i, a) ∧
          (if oneLine then none else accessorsAfter? rest') = some (i', a) ∧
          Cut n f (line :: rest) (line' :: rest') i i' := by
    cases oneLine with
    | true => exact .inl ⟨rfl, rfl⟩
    | false => exact accessorsAfter?_like hn hrest line line'
  unfold readProperty at htype ⊢
  dsimp only at htype ⊢
  simp only [hmod, haccess] at htype ⊢
  rcases hexpanded (kind == .interface || hasModifier header.modifiers "mustoverride") with
    ⟨h1, h2⟩ | ⟨i, i', a, h1, h2, hcut⟩
  · rw [h1, h2]
    exact ⟨⟨.ofList hname.symm, htype, rfl, rfl, rfl, rfl⟩, (Cut.first hl hrest).spanOver_eq hl,
      .first hl hrest⟩
  · rw [h1, h2]
    exact ⟨⟨.ofList hname.symm, htype, rfl, rfl, rfl, rfl⟩, hcut.spanOver_eq hl, hcut⟩

/-- A line inside a type is read alike. -/
theorem readMember_like (hl : Line.Like n f line line') (hrest : Respaced n f rest rest')
    (h : r.Like n f r') (kind : TypeKind) {text text' : List Char}
    (htext : text'.map n = text.map n) :
    StepLike n f (line :: rest) (line' :: rest') (readMember kind text line rest r)
      (readMember kind text' line' rest' r') := by
  have hmember := Text.image_eq_of_image_eq (enumMemberName?_map hn) htext
  have hbases := Text.image_eq_of_image_eq (baseText?_map hn) htext
  have hproperty := Text.image_eq_of_image_eq (propertyHeader?_map hn) htext
  have hblock := Text.image_eq_of_image_eq (blockHeader?_map hn) htext
  have hfield : isField text' = isField text := Text.eq_of_image_eq (isField_map hn) htext
  -- Whatever the line is tried as, it is in both documents or in neither.
  unfold readMember
  split
  · rcases none_or_some_of_map_eq hmember with ⟨h1, h2⟩ | ⟨name, name', h1, h2, hname⟩
    · rw [h1, h2]
      exact stepLike_line hl hrest h
    · rw [h1, h2]
      refine stepLike_line hl hrest (h.change fun t t' ht => { ht with decl := ?_ })
      exact { ht.decl with
        members := List.rel_append ht.decl.members (.cons (.ofList hname.symm) .nil) }
  rcases none_or_some_of_map_eq hbases with ⟨h1, h2⟩ | ⟨bases, bases', h1, h2, heq⟩
  case inr =>
    have hsplit : (splitList bases).map (List.map n) = (splitList bases').map (List.map n) := by
      rw [← splitList_map hn, ← splitList_map hn, heq]
    rw [h1, h2]
    refine stepLike_line hl hrest (h.change fun t t' ht => { ht with decl := ?_ })
    exact { ht.decl with bases := List.rel_append ht.decl.bases (forall₂_ofList hsplit) }
  rw [h1, h2]
  rcases none_or_some_of_map_eq hproperty with ⟨h1, h2⟩ | ⟨header, header', h1, h2, heq⟩
  case inr =>
    obtain ⟨hp, hspan, hcut⟩ := readProperty_like hn hl hrest heq kind
    rw [h1, h2]
    exact ⟨h.change fun t t' ht => like_addProperty ht hp hspan, hcut⟩
  rw [h1, h2]
  rcases none_or_some_of_map_eq hblock with ⟨h1, h2⟩ | ⟨header, header', h1, h2, heq⟩
  case inr =>
    have hcut := blockLength_cut hn hl hrest heq (kind == .interface)
    rw [h1, h2]
    exact ⟨h.change fun t t' ht => like_addMember ht (hcut.spanOver_eq hl), hcut⟩
  rw [h1, h2]
  dsimp only
  rw [hfield]
  split
  · exact stepLike_line hl hrest (h.change fun t t' ht => like_addMember ht hl.span)
  · exact stepLike_line hl hrest h

/-- A type is opened alike. -/
theorem openType_like (hl : Line.Like n f line line') (h : r.Like n f r')
    {header header' : TypeHeader} (hheader : header'.map n = header.map n) :
    (openType header line r).Like n f (openType header' line' r') := by
  obtain ⟨hword, hname, hparameters⟩ := TypeHeader.mk.inj hheader
  have hkind : kindOf header'.word = kindOf header.word :=
    Text.eq_of_image_eq (kindOf_map hn) hword
  have hlist : List.Forall₂ (SameUnder n)
      (((header.parameters.map splitList).getD []).map String.ofList)
      (((header'.parameters.map splitList).getD []).map String.ofList) := by
    rcases none_or_some_of_map_eq hparameters with ⟨h1, h2⟩ | ⟨ps, ps', h1, h2, heq⟩
    · rw [h1, h2]
      exact .nil
    · rw [h1, h2]
      refine forall₂_ofList ?_
      rw [Option.map_some, Option.map_some, Option.getD_some, Option.getD_some,
        ← splitList_map hn, ← splitList_map hn, heq]
  exact
    { h with
      opened := .cons
        { declared :=
            { decl :=
                { name := .ofList hname.symm
                  scope := h.scope
                  kind := hkind
                  bases := .nil
                  parameters := hlist
                  properties := .nil
                  members := .nil
                  origin := rfl
                  ignoresCase := rfl }
              span := hl.span
              propertySpans := .nil
              memberSpans := .nil }
          nested := .nil }
        h.opened }

/-- A construct is read alike. -/
theorem readLine_like (hl : Line.Like n f line line') (hrest : Respaced n f rest rest')
    (h : r.Like n f r') :
    StepLike n f (line :: rest) (line' :: rest') (readLine line rest r)
      (readLine line' rest' r') := by
  have htext := hl.code_map hn
  have hname := Text.image_eq_of_image_eq (namespaceName?_map hn) htext
  have hends := Text.eq_of_image_eq (endsNamespace_map hn) htext
  have htype := Text.image_eq_of_image_eq (typeHeader?_map hn) htext
  have hclose := Text.eq_of_image_eq (endsType_map hn) htext
  -- The branches are told apart by the code of the line up to case.
  unfold readLine
  rw [hl.isSkipped_eq hn]
  split
  · exact stepLike_line hl hrest h
  dsimp only
  rcases none_or_some_of_map_eq hname with ⟨h1, h2⟩ | ⟨name, name', h1, h2, heq⟩
  case inr =>
    rw [h1, h2]
    exact stepLike_line hl hrest { h with namespaces := .cons (.ofList heq.symm) h.namespaces }
  rw [h1, h2]
  dsimp only
  rw [hends]
  split
  · exact stepLike_line hl hrest { h with namespaces := forall₂_tail h.namespaces }
  rcases none_or_some_of_map_eq htype with ⟨h1, h2⟩ | ⟨header, header', h1, h2, heq⟩
  case inr =>
    rw [h1, h2]
    exact stepLike_line hl hrest (openType_like hn hl h heq)
  rw [h1, h2]
  dsimp only
  rw [hclose]
  split
  · exact stepLike_line hl hrest (h.close (congrArg Span.stop hl.span))
  cases hopened : r.opened with
  | nil =>
    have hopened' := h.opened
    rw [hopened] at hopened'
    rw [List.forall₂_nil_left_iff.1 hopened']
    exact stepLike_line hl hrest h
  | cons frame outer =>
    have hopened' := h.opened
    rw [hopened] at hopened'
    obtain ⟨frame', outer', hframe, -, hcons⟩ := List.forall₂_cons_left_iff.1 hopened'
    rw [hcons]
    dsimp only
    rw [hframe.declared.decl.kind]
    exact readMember_like hn hl hrest h frame.declared.decl.kind htext

/-- Lines are read alike. -/
theorem readLines_like {ls ls' : List Line} (hls : Respaced n f ls ls') (h : r.Like n f r') :
    (readLines 0 ls r).Like n f (readLines 0 ls' r') := by
  induction hlength : ls'.length using Nat.strong_induction_on generalizing ls ls' r r' with
  | _ length ih =>
    subst hlength
    cases hls with
    | nil => exact h
    | @keep l l' ls ls' hl hrest =>
      obtain ⟨hstep, -, -, -, -, -, hafter⟩ := readLine_like hn hl hrest h
      rw [readLines_construct, readLines_construct]
      refine ih _ ?_ hafter hstep rfl
      simp only [List.length_drop, List.length_cons]
      omega
    | @insert l l' ls ls' hskipped hrest =>
      rw [readLines_construct l', show readLine l' ls' r' = (r', 0) from if_pos hskipped]
      exact ih _ (Nat.lt_succ_self _) hrest h rfl

/-- Documents that are read side by side have outlines that are alike. -/
theorem outline_like {source source' : List Char}
    (h : Respaced n f (lines source) (lines source')) :
    List.Forall₂ (DeclaredType.Like (SameUnder n) (Span.MovesTo f))
      (outline source).types (outline source').types := by
  have hread : (readLines 0 (lines source) {}).Like n f (readLines 0 (lines source') {}) :=
    readLines_like hn h ⟨.nil, .nil, .nil⟩
  -- The types still open are closed at the ends of the last lines, which correspond.
  have hclose {stop stop' : Nat} (hstop : stop' = f stop) {r r' : Reading} (hr : r.Like n f r')
      {as bs : List Frame} (hframes : List.Forall₂ (Frame.Like n f) as bs) :
      (as.foldl (fun r _ => r.close stop) r).Like n f
        (bs.foldl (fun r _ => r.close stop') r') := by
    induction hframes generalizing r r' with
    | nil => exact hr
    | cons _ _ ih => exact ih (hr.close hstop)
  unfold outline
  dsimp only
  cases hlines : lines source with
  | nil =>
    rw [hlines] at h
    rw [h.eq_nil]
    exact .nil
  | cons line rest =>
    have hstop := h.lastOffset_eq (hlines ▸ List.cons_ne_nil _ _)
    rw [← hlines]
    exact (hclose hstop hread hread.opened).done

end Constructs

end ViewForge.VisualBasic
