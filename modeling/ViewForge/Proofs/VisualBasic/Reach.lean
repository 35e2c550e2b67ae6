import ViewForge.Proofs.VisualBasic.Layout
import ViewForge.Proofs.VisualBasic.Parallel

/-!
# How far Visual Basic members reach

A member over several lines ends with the first `End` line of its word, wherever this stands, and a
property without one runs to the last line. So the span of a member covers a line that opens or ends
a type exactly if its `End` line does not come before that line (`RunsOn`), and the types in it are
lost. Nothing else hides a type: every line that opens one begins a type of the outline or stands
in a member (`swallows_iff_runsOn`).

A property with an escaped name is no property for the reader but a block that begins with
`Property`, so it takes the lines up to the `End Property` of another (`escapedName_swallows`).
-/

namespace ViewForge.VisualBasic

/-- Whether a line opens or ends a type and is no comment. -/
def Line.isBoundary (line : Line) : Bool :=
  !isSkipped line.text && ((typeHeader? (code line.text)).isSome || endsType (code line.text))

/-- A span covers a line behind its first one that opens or ends a type. -/
def Swallows (ls : List Line) (s : Span) : Prop :=
  ∃ l ∈ ls, l.isBoundary = true ∧ s.start < l.span.start ∧ l.span.stop ≤ s.stop

/-- No line ends a member of a word before the next line that opens or ends a type. -/
def EndsLate (word : List Char) (rest : List Line) : Prop :=
  ∀ l ∈ rest.takeWhile fun l => !l.isBoundary, beginsEnd word (code l.text) = false

/-- Whether a member that may be a block is one. -/
def BlockHeader.isBlock (header : BlockHeader) (inInterface : Bool) : Bool :=
  if Text.sameIgnoringCase header.word "event".toList then hasModifier header.modifiers "custom"
  else !inInterface && !hasModifier header.modifiers "mustoverride"

/-- A member of a type of a kind that begins with the code of a line runs into the lines that open
or end a type behind it. -/
inductive RunsOn (kind : TypeKind) (text : List Char) (rest : List Line) : Prop
  /-- A property with accessors, whose `End Property` comes too late or not at all. -/
  | property {header : PropertyHeader} (h : propertyHeader? text = some header)
      (hkind : kind ≠ .interface) (hmod : hasModifier header.modifiers "mustoverride" = false)
      (haccessors : (accessorsAfter? rest).isSome = true)
      (hboundary : ∃ l ∈ rest, l.isBoundary = true) (hlate : EndsLate "property".toList rest)
  /-- A block whose `End` line comes too late. -/
  | block {header : BlockHeader} (hproperty : propertyHeader? text = none)
      (h : blockHeader? text = some header) (hblock : header.isBlock (kind == .interface) = true)
      (hends : ∃ l ∈ rest, beginsEnd header.word (code l.text) = true)
      (hlate : EndsLate header.word rest)

/-! ## The lines of a member -/

/-- The number of lines behind the first of a property. -/
def propertyLength (header : PropertyHeader) (kind : TypeKind) (rest : List Line) : Nat :=
  if kind == .interface || hasModifier header.modifiers "mustoverride" then 0
  else ((accessorsAfter? rest).map (·.1)).getD 0

/-- The number of lines behind the first of a member. -/
def memberLength (kind : TypeKind) (text : List Char) (rest : List Line) : Nat :=
  match propertyHeader? text with
  | some header => propertyLength header kind rest
  | none =>
    match blockHeader? text with
    | some header => blockLength header (kind == .interface) rest
    | none => 0

/-- A property takes the lines of a member. -/
theorem readProperty_span (header : PropertyHeader) (kind : TypeKind) (line : Line)
    (rest : List Line) :
    (readProperty header kind line rest).2 =
      (spanOver line rest (propertyLength header kind rest), propertyLength header kind rest) := by
  unfold readProperty propertyLength
  dsimp only
  generalize (kind == .interface || hasModifier header.modifiers "mustoverride") = oneLine
  cases oneLine with
  | true => rfl
  | false => cases accessorsAfter? rest <;> rfl

section Search

variable {α : Type} {p q : α → Bool} {as : List α}

/-- A search that finds something looks at no more than there is. -/
theorem findIdx?_getD_le {d : Nat} (hd : d ≤ as.length) :
    ((as.findIdx? p).map (· + 1)).getD d ≤ as.length := by
  cases h : as.findIdx? p with
  | none => exact hd
  | some i => exact (List.findIdx?_eq_some_iff_getElem.1 h).1

/-- What is looked at up to the first item of a class holds one of another class exactly if none of
the first class comes before those of the other. -/
theorem exists_take_iff {i : Nat} (h : as.findIdx? q = some i) :
    (∃ a ∈ as.take (i + 1), p a = true) ↔ ∀ a ∈ as.takeWhile (fun a => !p a), q a = false := by
  -- The first item with `p` or with `q` decides both sides: an item with `p` is looked at even if
  -- it has `q`.
  induction as generalizing i with
  | nil => exact nomatch h
  | cons a as ih =>
    rw [List.findIdx?_cons] at h
    rw [List.take_succ_cons, List.takeWhile_cons]
    cases hp : p a with
    | true => simp [hp]
    | false =>
      cases hq : q a with
      | true =>
        rw [hq, if_pos rfl, Option.some.injEq] at h
        subst h
        simp [hp, hq]
      | false =>
        rw [hq, if_neg Bool.false_ne_true] at h
        obtain ⟨j, hj, rfl⟩ := Option.map_eq_some_iff.1 h
        simp [hp, hq, ← ih hj]

/-- The same where a search that fails has looked at everything. -/
theorem exists_take_all_iff :
    (∃ a ∈ as.take (((as.findIdx? q).map (· + 1)).getD as.length), p a = true) ↔
      (∃ a ∈ as, p a = true) ∧ ∀ a ∈ as.takeWhile (fun a => !p a), q a = false := by
  cases h : as.findIdx? q with
  | none =>
    rw [List.findIdx?_eq_none_iff] at h
    rw [Option.map_none, Option.getD_none, List.take_length]
    exact (and_iff_left fun a ha => h a ((List.takeWhile_sublist _).mem ha)).symm
  | some i =>
    rw [Option.map_some, Option.getD_some, exists_take_iff h]
    refine ⟨fun hlate => ⟨?_, hlate⟩, fun hboth => hboth.2⟩
    obtain ⟨a, ha, hp⟩ := (exists_take_iff h).2 hlate
    exact ⟨a, List.mem_of_mem_take ha, hp⟩

/-- The same where a search that fails has looked at nothing. -/
theorem exists_take_found_iff :
    (∃ a ∈ as.take (((as.findIdx? q).map (· + 1)).getD 0), p a = true) ↔
      (∃ a ∈ as, q a = true) ∧ ∀ a ∈ as.takeWhile (fun a => !p a), q a = false := by
  cases h : as.findIdx? q with
  | none =>
    rw [List.findIdx?_eq_none_iff] at h
    refine iff_of_false (fun ⟨_, ha, _⟩ => nomatch ha) ?_
    rintro ⟨⟨a, ha, hq⟩, -⟩
    rw [h a ha] at hq
    exact Bool.noConfusion hq
  | some i =>
    rw [Option.map_some, Option.getD_some, exists_take_iff h]
    obtain ⟨hlt, hq, -⟩ := List.findIdx?_eq_some_iff_getElem.1 h
    exact (and_iff_right ⟨_, List.getElem_mem hlt, hq⟩).symm

end Search

/-- Accessors are read up to the end of the property, or to the last line. -/
theorem readAccessors_fst (a : Accessors) (ls : List Line) :
    (readAccessors a ls).1 =
      ((ls.findIdx? fun l => beginsEnd "property".toList (code l.text)).map (· + 1)).getD
        ls.length := by
  induction ls generalizing a with
  | nil => rfl
  | cons l ls ih =>
    rw [readAccessors_cons, List.findIdx?_cons]
    split
    · rfl
    · dsimp only
      rw [ih]
      cases ls.findIdx? fun l => beginsEnd "property".toList (code l.text) <;> rfl

/-- The accessors of a property take the lines up to the end of the property, or to the last one. -/
theorem accessorsAfter?_fst {rest : List Line} {count : Nat} {a : Accessors}
    (h : accessorsAfter? rest = some (count, a)) :
    count = ((rest.findIdx? fun l => beginsEnd "property".toList (code l.text)).map (· + 1)).getD
      rest.length := by
  unfold accessorsAfter? at h
  dsimp only at h
  have hsplit := List.takeWhile_append_dropWhile (p := fun l : Line => isSkipped l.text) (l := rest)
  have hskipped : ∀ l ∈ rest.takeWhile fun l => isSkipped l.text,
      beginsEnd "property".toList (code l.text) = false := by
    intro l hl
    have hskip : isSkipped l.text = true :=
      List.mem_takeWhile_imp (p := fun l : Line => isSkipped l.text) hl
    exact beginsEnd_of_isSkipped _ hskip
  -- The lines passed over first end no property, so the end is looked for behind them.
  cases hrest : rest.dropWhile fun l => isSkipped l.text with
  | nil =>
    rw [hrest] at h
    exact nomatch h
  | cons line more =>
    rw [hrest] at h hsplit
    dsimp only at h
    split at h
    · rw [← (Prod.mk.inj (Option.some.inj h)).1, readAccessors_fst]
      conv_rhs => rw [← hsplit]
      rw [List.findIdx?_append, List.findIdx?_eq_none_iff.2 hskipped, Option.none_or,
        List.length_append]
      cases (line :: more).findIdx? fun l => beginsEnd "property".toList (code l.text) with
      | none => rfl
      | some i =>
        simp only [Option.map_some, Option.getD_some]
        omega
    · exact nomatch h

theorem memberLength_le (kind : TypeKind) (text : List Char) (rest : List Line) :
    memberLength kind text rest ≤ rest.length := by
  unfold memberLength
  split
  · unfold propertyLength
    split
    · exact Nat.zero_le _
    · cases h : accessorsAfter? rest with
      | none => exact Nat.zero_le _
      | some entry =>
        show entry.1 ≤ rest.length
        rw [accessorsAfter?_fst (show accessorsAfter? rest = some (entry.1, entry.2) from h)]
        exact findIdx?_getD_le (Nat.le_refl _)
  · split
    · rename_i header _
      show (if header.isBlock _ then (linesToEnd? header.word rest).getD 0 else 0) ≤ rest.length
      split
      · exact findIdx?_getD_le (Nat.zero_le _)
      · exact Nat.zero_le _
    · exact Nat.zero_le _

section RunsOn

variable {kind : TypeKind} {text : List Char} {rest : List Line}

/-- When a property runs on. -/
theorem runsOn_iff_of_property {header : PropertyHeader} (h : propertyHeader? text = some header) :
    RunsOn kind text rest ↔
      (kind ≠ .interface ∧ hasModifier header.modifiers "mustoverride" = false) ∧
        (accessorsAfter? rest).isSome = true ∧
        (∃ l ∈ rest, l.isBoundary = true) ∧ EndsLate "property".toList rest := by
  constructor
  · rintro (⟨hread, hkind, hmod, hsome, hboundary, hlate⟩ | ⟨hread, -, -, -, -⟩)
    · obtain rfl := Option.some.inj (h.symm.trans hread)
      exact ⟨⟨hkind, hmod⟩, hsome, hboundary, hlate⟩
    · exact nomatch h.symm.trans hread
  · rintro ⟨⟨hkind, hmod⟩, hsome, hboundary, hlate⟩
    exact .property h hkind hmod hsome hboundary hlate

/-- When a block runs on. -/
theorem runsOn_iff_of_block {header : BlockHeader} (hproperty : propertyHeader? text = none)
    (h : blockHeader? text = some header) :
    RunsOn kind text rest ↔ header.isBlock (kind == .interface) = true ∧
      (∃ l ∈ rest, beginsEnd header.word (code l.text) = true) ∧ EndsLate header.word rest := by
  constructor
  · rintro (⟨hread, -, -, -, -, -⟩ | ⟨-, hread, hblock, hends, hlate⟩)
    · exact nomatch hproperty.symm.trans hread
    · obtain rfl := Option.some.inj (h.symm.trans hread)
      exact ⟨hblock, hends, hlate⟩
  · rintro ⟨hblock, hends, hlate⟩
    exact .block hproperty h hblock hends hlate

/-- No other member runs on. -/
theorem not_runsOn (hproperty : propertyHeader? text = none) (hblock : blockHeader? text = none) :
    ¬ RunsOn kind text rest := by
  rintro (⟨hread, -, -, -, -, -⟩ | ⟨-, hread, -, -, -⟩)
  · exact nomatch hproperty.symm.trans hread
  · exact nomatch hblock.symm.trans hread

end RunsOn

/-- The lines of a member behind its first one open or end a type exactly if it runs on. -/
theorem exists_boundary_iff (kind : TypeKind) (text : List Char) (rest : List Line) :
    (∃ l ∈ rest.take (memberLength kind text rest), l.isBoundary = true) ↔
      RunsOn kind text rest := by
  have hnone {p : Prop} (hp : ¬ p) : (∃ l ∈ rest.take 0, l.isBoundary = true) ↔ p :=
    iff_of_false (fun ⟨_, hl, _⟩ => nomatch hl) hp
  unfold memberLength
  cases hproperty : propertyHeader? text with
  | some header =>
    rw [runsOn_iff_of_property hproperty]
    dsimp only
    unfold propertyLength
    split
    · rename_i hline
      exact hnone fun ⟨⟨hkind, hmod⟩, _⟩ => by simp [hkind, hmod] at hline
    · rename_i hline
      rw [Bool.or_eq_true, beq_iff_eq, not_or, Bool.not_eq_true] at hline
      rw [and_iff_right hline]
      cases haccessors : accessorsAfter? rest with
      | none => exact hnone fun hsome => Bool.noConfusion hsome.1
      | some entry =>
        -- Without an `End Property` line the property takes all lines, so it needs one to run into.
        have hcount : entry.1 = _ := accessorsAfter?_fst (a := entry.2) haccessors
        rw [Option.map_some, Option.getD_some, hcount, exists_take_all_iff]
        exact (and_iff_right rfl).symm
  | none =>
    dsimp only
    cases hblock : blockHeader? text with
    | none => exact hnone (not_runsOn hproperty hblock)
    | some header =>
      have hlength : blockLength header (kind == .interface) rest =
          if header.isBlock (kind == .interface) then (linesToEnd? header.word rest).getD 0
          else 0 := rfl
      rw [runsOn_iff_of_block hproperty hblock]
      dsimp only
      rw [hlength]
      split
      · rename_i his
        -- Without an `End` line of its word the block is one line.
        rw [and_iff_right his]
        exact exists_take_found_iff
      · rename_i his
        exact hnone fun h => his h.1

/-! ## The span of a member -/

/-- Lines behind others lie behind them. -/
theorem LinesIn.of_append {last first : Nat} {as bs : List Line}
    (h : LinesIn last first (as ++ bs)) :
    ∃ middle ≥ first, LinesIn last middle bs ∧ ∀ l ∈ as, l.span.stop < middle := by
  induction as generalizing first with
  | nil => exact ⟨first, Nat.le_refl _, h, fun _ hl => nomatch hl⟩
  | cons a as ih =>
    obtain ⟨h1, h2, -, h4⟩ := h
    obtain ⟨middle, hle, hbs, has⟩ := ih h4
    exact ⟨middle, by omega, hbs, List.forall_mem_cons.2 ⟨hle, has⟩⟩

/-- The lines of a member behind its first one lie in its span, and begin later. -/
theorem covered_of_mem_take {last first : Nat} {head : Line} {rest : List Line}
    (h : LinesIn last first (head :: rest)) {count : Nat} (hcount : count ≤ rest.length) {l : Line}
    (hl : l ∈ rest.take count) :
    (spanOver head rest count).start < l.span.start ∧
      l.span.stop ≤ (spanOver head rest count).stop := by
  obtain ⟨i, hi⟩ := List.mem_iff_getElem?.1 hl
  rw [List.getElem?_take] at hi
  split at hi
  case isFalse => exact nomatch hi
  case isTrue hlt =>
    obtain ⟨final, hfinal⟩ : ∃ final, (head :: rest)[count]? = some final :=
      ⟨_, List.getElem?_eq_getElem (Nat.lt_succ_of_le hcount)⟩
    have hstop : (spanOver head rest count).stop = final.span.stop := by
      unfold spanOver
      rw [hfinal, Option.getD_some]
    -- The line is the last of the member, or stands before it.
    have hline : (head :: rest)[i + 1]? = some l := hi
    obtain ⟨-, -, -, hbehind⟩ := h.getElem? hline
    have hle : l.span.stop ≤ final.span.stop := by
      rcases Nat.eq_or_lt_of_le (Nat.succ_le_of_lt hlt) with heq | hlt
      · rw [← heq, hline, Option.some.injEq] at hfinal
        rw [hfinal]
      · have hmem : final ∈ (head :: rest).drop (i + 2) := by
          refine List.mem_of_getElem? (i := count - (i + 2)) ?_
          rw [List.getElem?_drop, Nat.add_sub_cancel' hlt, hfinal]
        have := hbehind.of_mem hmem
        omega
    have hstart := (h.2.2.2.getElem? hi).1
    obtain ⟨-, hhead, -, -⟩ := h
    exact ⟨by show head.span.start < l.span.start; omega, by omega⟩

/-- The lines that the span of a member covers behind its first one are those of the member. -/
theorem swallows_spanOver {last first : Nat} {before : List Line} {head : Line} {rest : List Line}
    (h : LinesIn last first (before ++ head :: rest)) {count : Nat} (hcount : count ≤ rest.length) :
    Swallows (before ++ head :: rest) (spanOver head rest count) ↔
      ∃ l ∈ rest.take count, l.isBoundary = true := by
  -- Lines before the member end before it begins, and lines behind the counted ones begin after its
  -- end.
  obtain ⟨middle, -, hlines, hbefore⟩ := h.of_append
  constructor
  · rintro ⟨l, hl, hboundary, hstart, hstop⟩
    refine ⟨l, ?_, hboundary⟩
    have hbegin : head.span.start < l.span.start := hstart
    rcases List.mem_append.1 hl with hl | hl
    · have hle := (h.of_mem (List.mem_append_left _ hl)).2
      have hend := hbefore l hl
      have hhead := hlines.1
      omega
    · rcases List.mem_cons.1 hl with rfl | hl
      · omega
      · rw [← List.take_append_drop count rest, List.mem_append] at hl
        refine hl.resolve_right fun hl => ?_
        obtain ⟨hend, hle⟩ := (spanOver_facts hlines count).2.2.2.of_mem hl
        omega
  · rintro ⟨l, hl, hboundary⟩
    obtain ⟨hstart, hstop⟩ := covered_of_mem_take hlines hcount hl
    refine ⟨l, ?_, hboundary, hstart, hstop⟩
    exact List.mem_append_right _ (List.mem_cons_of_mem _ (List.mem_of_mem_take hl))

/-! ## Lines that open a type -/

/-- A word stands at the start of a text only if the letters of the text are its letters. -/
theorem prefix_of_afterLetters? {word cs rest : List Char} (h : afterLetters? word cs = some rest) :
    word <+: cs.map foldLetter := by
  induction word generalizing cs with
  | nil => exact List.nil_prefix
  | cons l word ih =>
    cases cs with
    | nil => exact absurd h (Option.some_ne_none rest).symm
    | cons c cs =>
      rw [afterLetters?] at h
      split at h
      · rename_i hl
        rw [List.map_cons, hl]
        exact List.cons_prefix_cons.2 ⟨rfl, ih h⟩
      · exact absurd h (Option.some_ne_none rest).symm

theorem prefix_of_anyWord? {vocabulary : List String} {cs : List Char} {out : String × List Char}
    (h : anyWord? vocabulary cs = some out) :
    ∃ w ∈ vocabulary, w.toList <+: cs.map foldLetter := by
  obtain ⟨w, hw, hsome⟩ := List.exists_of_findSome?_eq_some h
  obtain ⟨rest, hrest, -⟩ := Option.map_eq_some_iff.1 hsome
  exact ⟨w, hw, prefix_of_afterLetters? hrest⟩

/-- A text behind modifiers is the whole text, or this begins with a modifier. -/
theorem modifiersWith_cases (vocabulary : List String) (fuel : Nat) (cs : List Char) :
    (modifiersWith vocabulary fuel cs).2 = cs ∨
      ∃ w ∈ vocabulary, w.toList <+: cs.map foldLetter := by
  cases fuel with
  | zero => exact .inl rfl
  | succ fuel =>
    rw [modifiersWith]
    cases h : anyWord? vocabulary cs with
    | none => exact .inl rfl
    | some out => exact .inr (prefix_of_anyWord? h)

/-- A line that opens a type begins with an attribute, a modifier or the word for the type. -/
theorem start_of_typeHeader? {text : List Char} (h : (typeHeader? text).isSome = true) :
    (∃ rest, Text.trimStart text = '<' :: rest) ∨
      ∃ w ∈ typeModifiers ++ typeWords, w.toList <+: (Text.trimStart text).map foldLetter := by
  obtain ⟨header, hheader⟩ := Option.isSome_iff_exists.1 h
  obtain ⟨cs, hcs, hread⟩ := List.exists_of_findSome?_eq_some hheader
  unfold afterAttributes at hcs
  split at hcs
  case h_1 rest hrest => exact .inl ⟨rest, hrest⟩
  case h_2 =>
    rw [List.mem_singleton] at hcs
    subst hcs
    obtain ⟨out, hword, -⟩ := Option.bind_eq_some_iff.1 hread
    refine .inr ?_
    -- Without modifiers the line begins with the word for the type, else with the first modifier.
    rcases modifiersWith_cases typeModifiers (Text.trimStart text).length (Text.trimStart text) with
      hsame | ⟨w, hw, hprefix⟩
    · rw [modifiers, hsame] at hword
      obtain ⟨w, hw, hprefix⟩ := prefix_of_anyWord? hword
      exact ⟨w, List.mem_append_right _ hw, hprefix⟩
    · exact ⟨w, List.mem_append_left _ hw, hprefix⟩

/-- A line that opens a type begins with no other word. -/
theorem afterWord?_eq_none_of_typeHeader? {text : List Char}
    (h : (typeHeader? text).isSome = true) {word : String} (hmark : word.toList.head? ≠ some '<')
    (hne : word.toList ≠ [])
    (hword : ∀ w ∈ typeModifiers ++ typeWords,
      ¬ w.toList <+: word.toList ∧ ¬ word.toList <+: w.toList) :
    afterWord? word (Text.trimStart text) = none := by
  rw [Option.eq_none_iff_forall_ne_some]
  intro rest hrest
  obtain ⟨after, hletters, -⟩ := Option.bind_eq_some_iff.1 hrest
  have hprefix := prefix_of_afterLetters? hletters
  -- Of two words at the start of one line, one begins the other.
  rcases start_of_typeHeader? h with ⟨rest, htrim⟩ | ⟨w, hw, hother⟩
  · rw [htrim] at hprefix
    obtain ⟨l, ls, hl⟩ := List.exists_cons_of_ne_nil hne
    rw [hl, List.map_cons, List.cons_prefix_cons] at hprefix
    have hfirst : l = '<' := hprefix.1.trans (by decide)
    exact hmark (by rw [hl, hfirst]; rfl)
  · rcases List.prefix_or_prefix_of_prefix hother hprefix with hp | hp
    · exact (hword w hw).1 hp
    · exact (hword w hw).2 hp

/-- A line that is passed over opens no type. -/
theorem typeHeader?_of_isSkipped {text : List Char} (h : isSkipped text = true) :
    typeHeader? (code text) = none := by
  rw [← Option.not_isSome_iff_eq_none]
  intro hsome
  have hhead {c : Char} {rest : List Char} (hcs : Text.trimStart (code text) = c :: rest) :
      c.toLower = 'r' := code_of_isSkipped h c (by rw [hcs]; rfl)
  -- The code of a skipped line begins with the letter of `Rem` if at all, and no header does.
  rcases start_of_typeHeader? hsome with ⟨rest, hrest⟩ | ⟨w, hw, hprefix⟩
  · exact absurd (hhead hrest) (by decide)
  · have hwords : ∀ w ∈ typeModifiers ++ typeWords, w.toList ≠ [] ∧ w.toList.head? ≠ some 'r' := by
      decide
    obtain ⟨hne, hfirst⟩ := hwords w hw
    obtain ⟨l, letters, hl⟩ := List.exists_cons_of_ne_nil hne
    rw [hl] at hprefix hfirst
    cases hcs : Text.trimStart (code text) with
    | nil =>
      rw [hcs] at hprefix
      exact nomatch List.prefix_nil.1 hprefix
    | cons c rest =>
      rw [hcs, List.map_cons, List.cons_prefix_cons, foldLetter_eq_of_toLower (hhead hcs)] at hprefix
      exact hfirst (congrArg some hprefix.1)

/-- A line that opens a type neither opens nor ends a namespace. -/
theorem namespace_of_typeHeader? {text : List Char} (h : (typeHeader? text).isSome = true) :
    namespaceName? text = none ∧ endsNamespace text = false := by
  have hopens : afterWord? "namespace" (Text.trimStart text) = none :=
    afterWord?_eq_none_of_typeHeader? h (by decide) (by decide) (by decide)
  have hends : afterWord? "end" (Text.trimStart text) = none :=
    afterWord?_eq_none_of_typeHeader? h (by decide) (by decide) (by decide)
  constructor
  · rw [namespaceName?, hopens]
    rfl
  · rw [endsNamespace, hends]
    rfl

/-! ## What a line does to the types -/

/-- The members of a type of a document, each over its lines. -/
def IsMember (ls : List Line) (kind : TypeKind) (s : Span) : Prop :=
  ∃ before head rest, ls = before ++ head :: rest ∧
    s = spanOver head rest (memberLength kind (code head.text) rest)

/-- What a line does to the types of a document that ends at an offset, if its construct takes so
many further lines. -/
structure Step (stop : Nat) (line : Line) (rest : List Line) (r : Reading) (out : Reading × Nat) :
    Prop where
  /-- A type is an old one, with at most the member that begins on the line added, or has no
  members. -/
  old : ∀ t' ∈ out.1.typesAt stop, t'.ownSpans = [] ∨ ∃ t ∈ r.typesAt stop,
    ∀ s ∈ t'.ownSpans, (s ∈ t.ownSpans ∧ t'.decl.kind = t.decl.kind) ∨
      s = spanOver line rest (memberLength t'.decl.kind (code line.text) rest)
  /-- An old type stays where it begins, with its members. -/
  kept : ∀ t ∈ r.typesAt stop, ∃ t' ∈ out.1.typesAt stop,
    t'.span.start = t.span.start ∧ ∀ s ∈ t.ownSpans, s ∈ t'.ownSpans
  /-- A line that opens a type begins one. -/
  opened : isSkipped line.text = false → (typeHeader? (code line.text)).isSome = true →
    ∃ t ∈ out.1.typesAt stop, t.span.start = line.span.start
  /-- The further lines are those of a member. -/
  taken : out.2 ≠ 0 → out.2 ≤ rest.length ∧
    ∃ t ∈ out.1.typesAt stop, spanOver line rest out.2 ∈ t.ownSpans

section Steps

variable {stop : Nat} {line : Line} {rest : List Line} {r : Reading}

/-- A line that does nothing to the types opens none. -/
theorem step_same {r' : Reading} (heq : r'.typesAt stop = r.typesAt stop)
    (hline : isSkipped line.text = true ∨ typeHeader? (code line.text) = none) :
    Step stop line rest r (r', 0) where
  old t' ht' := .inr ⟨t', heq ▸ ht', fun s hs => .inl ⟨hs, rfl⟩⟩
  kept t ht := ⟨t, heq ▸ ht, rfl, fun _ hs => hs⟩
  opened hskip hheader := by
    rcases hline with hline | hline
    · rw [hskip] at hline
      exact Bool.noConfusion hline
    · rw [hline] at hheader
      exact Bool.noConfusion hheader
  taken h := absurd rfl h

/-- A line that changes one type, and adds at most the member that begins on it. -/
theorem step_replace {out : Reading × Nat} {before after : List DeclaredType} {t t' : DeclaredType}
    (hr : r.typesAt stop = before ++ t :: after)
    (hout : out.1.typesAt stop = before ++ t' :: after) (hstart : t'.span.start = t.span.start)
    (hkind : t'.decl.kind = t.decl.kind)
    (hold : ∀ s ∈ t'.ownSpans, s ∈ t.ownSpans ∨
      s = spanOver line rest (memberLength t.decl.kind (code line.text) rest))
    (hkept : ∀ s ∈ t.ownSpans, s ∈ t'.ownSpans) (hline : typeHeader? (code line.text) = none)
    (htaken : out.2 ≠ 0 → out.2 ≤ rest.length ∧ spanOver line rest out.2 ∈ t'.ownSpans) :
    Step stop line rest r out where
  old u hu := by
    rw [hout, List.mem_append, List.mem_cons] at hu
    rw [hr]
    rcases hu with hu | rfl | hu
    · exact .inr ⟨u, List.mem_append_left _ hu, fun s hs => .inl ⟨hs, rfl⟩⟩
    · refine .inr ⟨t, List.mem_append_right _ List.mem_cons_self, fun s hs => ?_⟩
      rw [hkind]
      exact (hold s hs).imp_left fun hs => ⟨hs, rfl⟩
    · exact .inr ⟨u, List.mem_append_right _ (List.mem_cons_of_mem _ hu),
        fun s hs => .inl ⟨hs, rfl⟩⟩
  kept u hu := by
    rw [hr, List.mem_append, List.mem_cons] at hu
    rw [hout]
    rcases hu with hu | rfl | hu
    · exact ⟨u, List.mem_append_left _ hu, rfl, fun _ hs => hs⟩
    · exact ⟨t', List.mem_append_right _ List.mem_cons_self, hstart, hkept⟩
    · exact ⟨u, List.mem_append_right _ (List.mem_cons_of_mem _ hu), rfl, fun _ hs => hs⟩
  opened _ hheader := by
    rw [hline] at hheader
    exact Bool.noConfusion hheader
  taken h := by
    obtain ⟨hle, hmem⟩ := htaken h
    exact ⟨hle, t', by rw [hout]; exact List.mem_append_right _ List.mem_cons_self, hmem⟩

/-- Changing the innermost open type changes no other. -/
theorem typesAt_change (stop : Nat) {r : Reading} {frame : Frame} {outer : List Frame}
    (h : r.opened = frame :: outer) (f : DeclaredType → DeclaredType) :
    (r.change f).typesAt stop = Reading.typesAt stop { r with opened := outer } ++
      ((f frame.declared).endingAt stop :: frame.nested) := by
  unfold Reading.change
  rw [h]
  exact Reading.typesAt_cons stop r _ outer

section Members

variable {frame : Frame} {outer : List Frame}

/-- A line that declares the innermost open type anew leaves its members as they are. -/
theorem step_redeclare (hopened : r.opened = frame :: outer)
    (hline : typeHeader? (code line.text) = none) (g : DeclaredType → TypeDecl)
    (hkind : (g frame.declared).kind = frame.declared.decl.kind) :
    Step stop line rest r (r.change fun t => { t with decl := g t }, 0) :=
  step_replace (Reading.typesAt_of_opened stop hopened) (typesAt_change stop hopened _) rfl hkind
    (fun _ hs => .inl hs) (fun _ hs => hs) hline fun h => absurd rfl h

/-- A line that adds the member which begins on it to the innermost open type. -/
theorem step_extend (hopened : r.opened = frame :: outer)
    (hline : typeHeader? (code line.text) = none) {count : Nat} (g : DeclaredType → DeclaredType)
    (hcount : memberLength frame.declared.decl.kind (code line.text) rest = count)
    (hspan : (g frame.declared).span = frame.declared.span)
    (hkind : (g frame.declared).decl.kind = frame.declared.decl.kind)
    (hown : ∀ s, s ∈ (g frame.declared).ownSpans ↔
      s ∈ frame.declared.ownSpans ∨ s = spanOver line rest count) :
    Step stop line rest r (r.change g, count) := by
  subst hcount
  have hstart : (g frame.declared).span.start = frame.declared.span.start := by rw [hspan]
  refine step_replace (Reading.typesAt_of_opened stop hopened) (typesAt_change stop hopened g)
    hstart hkind (fun s hs => (hown s).1 hs) (fun s hs => (hown s).2 (.inl hs)) hline fun _ => ?_
  exact ⟨memberLength_le _ _ _, (hown _).2 (.inr rfl)⟩

/-- A line inside a type adds at most the member that begins on it. -/
theorem readMember_step (hopened : r.opened = frame :: outer)
    (hline : typeHeader? (code line.text) = none) :
    Step stop line rest r
      (readMember frame.declared.decl.kind (code line.text) line rest r) := by
  -- The branches are those of `memberLength`: where it counts lines, the span over them is added.
  unfold readMember
  split
  · split
    · exact step_redeclare hopened hline _ rfl
    · exact step_same rfl (.inr hline)
  split
  · exact step_redeclare hopened hline _ rfl
  split
  · rename_i header hproperty
    have hspan := readProperty_span header frame.declared.decl.kind line rest
    have hlength : memberLength frame.declared.decl.kind (code line.text) rest =
        (readProperty header frame.declared.decl.kind line rest).2.2 := by
      rw [hspan, memberLength, hproperty]
    exact step_extend hopened hline _ hlength rfl rfl fun s =>
      DeclaredType.mem_ownSpans_addProperty
  rename_i hproperty
  split
  · rename_i header hblock
    have hlength : memberLength frame.declared.decl.kind (code line.text) rest =
        blockLength header (frame.declared.decl.kind == .interface) rest := by
      rw [memberLength, hproperty, hblock]
    exact step_extend hopened hline _ hlength rfl rfl fun s => DeclaredType.mem_ownSpans_addMember
  rename_i hblock
  split
  · have hlength : memberLength frame.declared.decl.kind (code line.text) rest = 0 := by
      rw [memberLength, hproperty, hblock]
    exact step_extend hopened hline _ hlength rfl rfl fun s => DeclaredType.mem_ownSpans_addMember
  · exact step_same rfl (.inr hline)

end Members

/-- A line that opens a type begins one without members. -/
theorem openType_step (header : TypeHeader) :
    Step stop line rest r (openType header line r, 0) := by
  obtain ⟨decl, -, -, htypes⟩ := Reading.typesAt_openType stop header line r
  have hmem (t : DeclaredType) : t ∈ (openType header line r).typesAt stop ↔
      t ∈ r.typesAt stop ∨ t = ({ decl, span := line.span } : DeclaredType).endingAt stop := by
    rw [htypes, List.mem_append, List.mem_singleton]
  refine ⟨fun t ht => ?_, fun t ht => ⟨t, (hmem t).2 (.inl ht), rfl, fun _ hs => hs⟩,
    fun _ _ => ⟨_, (hmem _).2 (.inr rfl), rfl⟩, fun h => absurd rfl h⟩
  rcases (hmem t).1 ht with ht | rfl
  · exact .inr ⟨t, ht, fun s hs => .inl ⟨hs, rfl⟩⟩
  · exact .inl rfl

/-- What a line does to the types. -/
theorem readLine_step (stop : Nat) (line : Line) (rest : List Line) (r : Reading) :
    Step stop line rest r (readLine line rest r) := by
  unfold readLine
  split
  · rename_i hskip
    exact step_same rfl (.inl hskip)
  rename_i hskip
  dsimp only
  -- A line that opens a type is none for a namespace, though these are looked for first.
  cases hheader : typeHeader? (code line.text) with
  | some header =>
    have hsome : (typeHeader? (code line.text)).isSome = true := by
      rw [hheader]
      rfl
    obtain ⟨hopens, hends⟩ := namespace_of_typeHeader? hsome
    rw [hopens, hends]
    exact openType_step header
  | none =>
    dsimp only
    split
    · exact step_same rfl (.inr hheader)
    split
    · exact step_same rfl (.inr hheader)
    split
    · cases hopened : r.opened with
      | nil =>
        have hclose : r.close line.span.stop = r := by
          rw [Reading.close, hopened]
        rw [hclose]
        exact step_same rfl (.inr hheader)
      | cons frame outer =>
        exact step_replace (Reading.typesAt_of_opened stop hopened)
          (Reading.typesAt_close stop line.span.stop r frame outer hopened) rfl rfl
          (fun s hs => .inl hs) (fun s hs => hs) hheader fun h => absurd rfl h
    · split
      · exact step_same rfl (.inr hheader)
      · rename_i frame outer hopened
        exact readMember_step hopened hheader

end Steps

/-! ## Documents -/

/-- A type begins on a line, or one of its members covers the line. -/
def Accounts (t : DeclaredType) (l : Line) : Prop :=
  t.span.start = l.span.start ∨
    ∃ s ∈ t.ownSpans, s.start < l.span.start ∧ l.span.stop ≤ s.stop

/-- What is known of the types of a document of which some lines are read: their members are members
of the document, and every line that opens a type is accounted for. -/
structure Reaches (all : List Line) (stop : Nat) (read : List Line) (r : Reading) : Prop where
  /-- The members are those of the document. -/
  members : ∀ t ∈ r.typesAt stop, ∀ s ∈ t.ownSpans, IsMember all t.decl.kind s
  /-- The lines that open a type begin one, or stand in a member. -/
  headers : ∀ l ∈ read, isSkipped l.text = false → (typeHeader? (code l.text)).isSome = true →
    ∃ t ∈ r.typesAt stop, Accounts t l

/-- A construct that is read is known with its further lines. -/
theorem Reaches.step {all : List Line} {last stop : Nat} {read : List Line} {line : Line}
    {rest : List Line} {r : Reading} {out : Reading × Nat} (h : Reaches all stop read r)
    (hsplit : all = read ++ line :: rest) (hlines : LinesIn last 0 all)
    (hstep : Step stop line rest r out) :
    Reaches all stop (read ++ (line :: rest).take (out.2 + 1)) out.1 where
  members t' ht' s hs := by
    rcases hstep.old t' ht' with hnone | ⟨t, ht, hold⟩
    · rw [hnone] at hs
      exact nomatch hs
    · rcases hold s hs with ⟨hs, hkind⟩ | hs
      · rw [hkind]
        exact h.members t ht s hs
      · exact ⟨read, line, rest, hsplit, hs⟩
  -- A line is one read before, the line of the step, or one of those the step takes.
  headers l hl hskip hheader := by
    rw [List.take_succ_cons, List.mem_append, List.mem_cons] at hl
    rcases hl with hl | rfl | hl
    · obtain ⟨t, ht, haccounts⟩ := h.headers l hl hskip hheader
      obtain ⟨t', ht', hstart, hown⟩ := hstep.kept t ht
      exact ⟨t', ht', haccounts.imp hstart.trans fun ⟨s, hs, hcovers⟩ => ⟨s, hown s hs, hcovers⟩⟩
    · obtain ⟨t, ht, hstart⟩ := hstep.opened hskip hheader
      exact ⟨t, ht, .inl hstart⟩
    · have hne : out.2 ≠ 0 := by
        intro hzero
        rw [hzero] at hl
        exact nomatch hl
      obtain ⟨hle, t, ht, hs⟩ := hstep.taken hne
      rw [hsplit] at hlines
      obtain ⟨middle, -, hbehind, -⟩ := hlines.of_append
      exact ⟨t, ht, .inr ⟨_, hs, covered_of_mem_take hbehind hle hl⟩⟩

/-- Read to the end, a document is known with all its lines. -/
theorem readLines_reaches {all : List Line} {last : Nat} (hlines : LinesIn last 0 all) (stop : Nat)
    (read ls : List Line) (r : Reading) (h : Reaches all stop read r) (hsplit : all = read ++ ls) :
    Reaches all stop all (readLines 0 ls r) := by
  induction hlength : ls.length using Nat.strong_induction_on generalizing read ls r with
  | _ length ih =>
    subst hlength
    cases ls with
    | nil =>
      rw [hsplit, List.append_nil] at h ⊢
      exact h
    | cons line rest =>
      rw [readLines_construct]
      refine ih _ ?_ _ _ _ (h.step hsplit hlines (readLine_step stop line rest r)) ?_ rfl
      · simp only [List.length_drop, List.length_cons]
        omega
      · rw [hsplit, List.append_assoc, List.take_append_drop]

/-- What is known of the types of a document of which all lines are read. -/
theorem reaches_lines (source : List Char) :
    Reaches (lines source) (lastOffset (lines source)) (lines source)
      (readLines 0 (lines source) {}) :=
  readLines_reaches (linesIn_lines source) _ [] (lines source) {}
    ⟨fun _ ht => absurd ht List.not_mem_nil, fun _ hl => absurd hl List.not_mem_nil⟩ rfl

/-- A line that opens a type begins one of the outline, or a member covers it. -/
theorem exists_accounts (source : List Char) {l : Line} (hl : l ∈ lines source)
    (hheader : (typeHeader? (code l.text)).isSome = true) :
    ∃ t ∈ (outline source).types, Accounts t l := by
  rw [types_outline]
  refine (reaches_lines source).headers l hl ?_ hheader
  rw [Bool.eq_false_iff]
  intro hskip
  rw [typeHeader?_of_isSkipped hskip] at hheader
  exact Bool.noConfusion hheader

/-- The members of an outline cover a line that opens or ends a type exactly if they run on: if the
`End` line of a block, or that of a property with accessors, does not come before the next such
line. Every line that opens a type begins one of the outline, or stands in such a member. -/
theorem swallows_iff_runsOn (source : List Char) :
    (∀ t ∈ (outline source).types, ∀ s ∈ t.ownSpans, ∃ before head rest,
      lines source = before ++ head :: rest ∧ s.start = head.span.start ∧
        (Swallows (lines source) s ↔ RunsOn t.decl.kind (code head.text) rest)) ∧
    ∀ l ∈ lines source, isSkipped l.text = false → (typeHeader? (code l.text)).isSome = true →
      ∃ t ∈ (outline source).types, t.span.start = l.span.start ∨
        ∃ s ∈ t.ownSpans, s.start < l.span.start ∧ l.span.stop ≤ s.stop := by
  have hlines := linesIn_lines source
  have hreaches := reaches_lines source
  rw [types_outline]
  refine ⟨fun t ht s hs => ?_, hreaches.headers⟩
  · obtain ⟨before, head, rest, hsplit, hspan⟩ := hreaches.members t ht s hs
    refine ⟨before, head, rest, hsplit, by rw [hspan]; rfl, ?_⟩
    rw [hsplit] at hlines ⊢
    rw [hspan, swallows_spanOver hlines (memberLength_le _ _ _), exists_boundary_iff]

/-! ## A property with an escaped name -/

/-- A class with a property whose name is escaped, and one with a property over several lines. -/
def escapedName : List Char :=
  ("Class A\nProperty [Error] As String\nProperty Name As String\nEnd Class\n" ++
    "Class B\nProperty Total As Integer\nGet\nEnd Get\nEnd Property\nEnd Class").toList

/-- The first class, whose one member ends in the second. -/
def swallowing : DeclaredType where
  decl := { name := "A", kind := .class, ignoresCase := true }
  span := ⟨0, 137⟩
  memberSpans := [⟨8, 127⟩]

/-- The property with the escaped name covers the other of its class, the end of that class and the
start of the second, which is no type of the outline. -/
theorem escapedName_swallows :
    outline escapedName = ⟨[swallowing]⟩ ∧
      ∃ t ∈ (outline escapedName).types, ∃ s ∈ t.ownSpans, Swallows (lines escapedName) s := by
  have houtline : outline escapedName = ⟨[swallowing]⟩ := by decide +kernel
  have hline : (lines escapedName)[4]? = some ⟨"Class B".toList, 69, 76⟩ := by decide +kernel
  have hboundary : Line.isBoundary ⟨"Class B".toList, 69, 76⟩ = true := by decide +kernel
  refine ⟨houtline, swallowing, ?_, ⟨8, 127⟩, List.mem_singleton.2 rfl, _,
    List.mem_of_getElem? hline, hboundary, by decide, by decide⟩
  rw [houtline]
  exact List.mem_singleton.2 rfl

end ViewForge.VisualBasic
