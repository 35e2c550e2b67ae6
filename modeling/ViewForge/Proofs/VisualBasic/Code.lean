import ViewForge.Proofs.Text.Character
import ViewForge.Proofs.TypeExpr.Spelling
import ViewForge.Proofs.VisualBasic.Lines

/-!
# Lines of code

A line of code without comment and without white space at its ends, written behind spaces: it is
found among the lines of the text that holds it (`texts_lines`), its code is the whole line
(`code_indented`), and every reader of a line passes over the spaces before it. So a line is read by
what stands behind its spaces (`readLine_indented`).
-/

namespace ViewForge.VisualBasic

/-- A line behind the spaces of a depth. -/
def indented (depth : Nat) (cs : List Char) : List Char := List.replicate (4 * depth) ' ' ++ cs

/-- A character that begins no comment, opens no literal, sets no value and ends no line. -/
def isPlain (c : Char) : Bool := Text.isWord c || TypeToken.isMark c || c == ' '

/-- Whether a text is code that no white space surrounds. -/
structure IsCode (cs : List Char) : Prop where
  /-- It is made of plain characters. -/
  plain : ∀ c ∈ cs, isPlain c = true
  /-- It begins with no white space. -/
  first : ∃ c ∈ cs.head?, Text.isBlank c = false
  /-- It ends with no white space. -/
  last : ∃ c ∈ cs.getLast?, Text.isBlank c = false

/-- A plain character is none of the characters that are not. -/
theorem ne_of_isPlain {c d : Char} (h : isPlain c = true) (hd : isPlain d = false) : c ≠ d := by
  rintro rfl
  rw [h] at hd
  exact Bool.noConfusion hd

/-- White space in plain text is a space. -/
theorem eq_space_of_isPlain {c : Char} (h : isPlain c = true) (hblank : Text.isBlank c = true) :
    c = ' ' := by
  rw [isPlain, Text.isWord_eq_false_of_isBlank hblank, Bool.false_or, Bool.or_eq_true] at h
  rcases h with hmark | hspace
  · rw [(TypeToken.isMark_facts hmark).1] at hblank
    exact Bool.noConfusion hblank
  · exact beq_iff_eq.1 hspace

theorem isPlain_indented {cs : List Char} (h : ∀ c ∈ cs, isPlain c = true) (depth : Nat) :
    ∀ c ∈ indented depth cs, isPlain c = true := by
  intro c hc
  rcases List.mem_append.1 hc with hspace | hcs
  · rw [List.eq_of_mem_replicate hspace]
    rfl
  · exact h c hcs

/-! ## Code behind spaces -/

/-- A text without apostrophes is no comment. -/
theorem beforeComment_eq_self {cs : List Char} (h : ∀ c ∈ cs, isPlain c = true) :
    beforeComment false cs = cs := by
  induction cs with
  | nil => rfl
  | cons c cs ih =>
    obtain ⟨hc, hcs⟩ := List.forall_mem_cons.1 h
    have hapostrophe : c ≠ '\x27' := ne_of_isPlain hc (by decide)
    have hquote : c ≠ '"' := ne_of_isPlain hc (by decide)
    simp [beforeComment, hapostrophe, hquote, ih hcs]

theorem trimStart_indented (depth : Nat) (cs : List Char) :
    Text.trimStart (indented depth cs) = Text.trimStart cs := by
  have hspaces : ∀ c ∈ List.replicate (4 * depth) ' ', Text.isBlank c = true := by
    intro c hc
    rw [List.eq_of_mem_replicate hc]
    rfl
  exact List.dropWhile_append_of_pos hspaces

/-- The code of a line behind spaces is the whole line. -/
theorem code_indented {cs : List Char} (h : IsCode cs) (depth : Nat) :
    code (indented depth cs) = indented depth cs := by
  obtain ⟨c, hc, hblank⟩ := h.last
  have hlast : ∀ d ∈ (indented depth cs).reverse.head?, Text.isBlank d = false := by
    intro d hd
    have hne : cs ≠ [] := by
      rintro rfl
      exact nomatch hc
    rw [List.head?_reverse, indented, List.getLast?_append_of_ne_nil _ hne] at hd
    obtain rfl : c = d := Option.some.inj (hc.symm.trans hd)
    exact hblank
  rw [code, beforeComment_eq_self (isPlain_indented h.plain depth), Text.trimEnd,
    (Text.span_of_head hlast).2, List.reverse_reverse]

theorem isSkipped_indented (depth : Nat) (cs : List Char) :
    isSkipped (indented depth cs) = isSkipped cs := by
  unfold isSkipped
  rw [trimStart_indented]

theorem namespaceName?_indented (depth : Nat) (cs : List Char) :
    namespaceName? (indented depth cs) = namespaceName? cs := by
  unfold namespaceName?
  rw [trimStart_indented]

theorem endsNamespace_indented (depth : Nat) (cs : List Char) :
    endsNamespace (indented depth cs) = endsNamespace cs := by
  unfold endsNamespace
  rw [trimStart_indented]

theorem behindAttributes?_indented {α : Type} (read : List Char → Option α) (depth : Nat)
    (cs : List Char) : behindAttributes? read (indented depth cs) = behindAttributes? read cs := by
  unfold behindAttributes? afterAttributes
  rw [trimStart_indented]

theorem typeHeader?_indented (depth : Nat) (cs : List Char) :
    typeHeader? (indented depth cs) = typeHeader? cs :=
  behindAttributes?_indented _ depth cs

theorem endsType_indented (depth : Nat) (cs : List Char) :
    endsType (indented depth cs) = endsType cs := by
  unfold endsType
  rw [trimStart_indented]

theorem baseText?_indented (depth : Nat) (cs : List Char) :
    baseText? (indented depth cs) = baseText? cs := by
  unfold baseText?
  rw [trimStart_indented]

theorem propertyHeader?_indented (depth : Nat) (cs : List Char) :
    propertyHeader? (indented depth cs) = propertyHeader? cs :=
  behindAttributes?_indented _ depth cs

theorem enumMemberName?_indented (depth : Nat) (cs : List Char) :
    enumMemberName? (indented depth cs) = enumMemberName? cs :=
  behindAttributes?_indented _ depth cs

theorem accessorHeader?_indented (depth : Nat) (cs : List Char) :
    accessorHeader? (indented depth cs) = accessorHeader? cs := by
  unfold accessorHeader?
  rw [trimStart_indented]

theorem beginsEnd_indented (word : List Char) (depth : Nat) (cs : List Char) :
    beginsEnd word (indented depth cs) = beginsEnd word cs := by
  unfold beginsEnd
  rw [trimStart_indented]

/-- A line is read by what stands behind its spaces. -/
theorem readLine_indented {line : Line} {depth : Nat} {cs : List Char}
    (hline : line.text = indented depth cs) (hcode : IsCode cs) (hskip : isSkipped cs = false)
    (rest : List Line) (r : Reading) :
    readLine line rest r =
      match namespaceName? cs with
      | some name => ({ r with namespaces := String.ofList name :: r.namespaces }, 0)
      | none =>
        if endsNamespace cs then ({ r with namespaces := r.namespaces.tail }, 0)
        else
          match typeHeader? cs with
          | some header => (openType header line r, 0)
          | none =>
            if endsType cs then (r.close line.span.stop, 0)
            else
              match r.opened with
              | [] => (r, 0)
              | frame :: _ =>
                readMember frame.declared.decl.kind (indented depth cs) line rest r := by
  have hread : ¬ isSkipped line.text = true := by
    rw [hline, isSkipped_indented, hskip]
    exact Bool.false_ne_true
  have htext : code line.text = indented depth cs := by rw [hline, code_indented hcode]
  rw [← namespaceName?_indented depth cs, ← endsNamespace_indented depth cs,
    ← typeHeader?_indented depth cs, ← endsType_indented depth cs, ← htext]
  exact if_neg hread

/-! ## Lines of a text -/

theorem dropBreak_append {cs : List Char} (h : ∀ c ∈ cs, isPlain c = true) :
    dropBreak (cs ++ ['\n']) = cs := by
  have hhead : ∀ c ∈ cs.reverse.head?, (c == '\n' || c == '\r') = false := by
    intro c hc
    have hplain : isPlain c = true := h c (List.mem_reverse.1 (List.mem_of_mem_head? hc))
    have hfeed : c ≠ '\n' := ne_of_isPlain hplain (by decide)
    have hreturn : c ≠ '\r' := ne_of_isPlain hplain (by decide)
    simp [hfeed, hreturn]
  rw [dropBreak, List.reverse_append, List.reverse_singleton, List.singleton_append]
  change (cs.reverse.dropWhile fun c => c == '\n' || c == '\r').reverse = cs
  rw [(Text.span_of_head hhead).2, List.reverse_reverse]

theorem texts_place (offset : Nat) (raws : List (List Char)) :
    (place offset raws).map (·.text) = raws.map dropBreak := by
  induction raws generalizing offset with
  | nil => rfl
  | cons raw raws ih => rw [place, List.map_cons, List.map_cons, ih]

/-- Lines written one after the other are the lines of the text. -/
theorem texts_lines {texts : List (List Char)} (h : ∀ t ∈ texts, ∀ c ∈ t, isPlain c = true) :
    (lines (texts.flatMap (· ++ ['\n']))).map (·.text) = texts := by
  have hraw : rawLines (texts.flatMap (· ++ ['\n'])) = texts.map (· ++ ['\n']) := by
    induction texts with
    | nil => rfl
    | cons t texts ih =>
      obtain ⟨ht, htexts⟩ := List.forall_mem_cons.1 h
      have hfeed : '\n' ∉ t := fun hmem => ne_of_isPlain (ht _ hmem) (by decide) rfl
      rw [List.flatMap_cons, List.append_assoc, List.singleton_append, rawLines_append hfeed,
        ih htexts, List.map_cons]
  rw [lines, texts_place, hraw, List.map_map]
  refine (List.map_congr_left fun t ht => ?_).trans (List.map_id texts)
  exact dropBreak_append (h t ht)

end ViewForge.VisualBasic
