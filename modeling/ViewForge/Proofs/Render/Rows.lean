import Mathlib.Tactic.SplitIfs
import ViewForge.Render.Grouping

/-!
# The rows of a grid

Under a word for a grid the members of a class stand behind a head that defines the rows
(`wrap_of_isGrid`). The head is made of lines, and a tag that holds no line feed stands in one line,
so its occurrences are counted line by line (`occurrences_append_cons`).
-/

namespace ViewForge.Render

/-! ## Occurrences -/

/-- The number of places at which a mark stands in a text. -/
def occurrences (mark : List Char) : List Char → Nat
  | [] => 0
  | c :: cs => (if mark.isPrefixOf (c :: cs) then 1 else 0) + occurrences mark cs

/-- What a mark does not hold ends every place where the mark stands. -/
theorem isPrefixOf_append_cons {stop : Char} (rest : List Char) :
    ∀ {mark : List Char}, stop ∉ mark → ∀ text : List Char,
      mark.isPrefixOf (text ++ stop :: rest) = mark.isPrefixOf text
  | [], _, _ => rfl
  | m :: mark, h, [] => by
    have hne : m ≠ stop := fun heq => h (heq ▸ List.mem_cons_self)
    rw [List.nil_append, List.isPrefixOf_cons_cons, beq_false_of_ne hne, Bool.false_and]
    rfl
  | m :: mark, h, c :: text => by
    have htail : stop ∉ mark := fun hmem => h (List.mem_cons_of_mem _ hmem)
    rw [List.cons_append, List.isPrefixOf_cons_cons, List.isPrefixOf_cons_cons,
      isPrefixOf_append_cons rest htail text]

/-- A mark is counted on its own on both sides of what it does not hold. -/
theorem occurrences_append_cons {mark : List Char} {stop : Char} (hmark : mark ≠ [])
    (h : stop ∉ mark) (rest text : List Char) :
    occurrences mark (text ++ stop :: rest) = occurrences mark text + occurrences mark rest := by
  induction text with
  | nil =>
    have hno : mark.isPrefixOf (stop :: rest) = false := by
      have hnil := isPrefixOf_append_cons rest h []
      rw [List.nil_append] at hnil
      rw [hnil]
      cases mark with
      | nil => exact absurd rfl hmark
      | cons m mark => rfl
    rw [List.nil_append, occurrences, Nat.zero_add, occurrences, hno, if_neg Bool.false_ne_true,
      Nat.zero_add]
  | cons c text ih =>
    -- The mark begins here exactly if it did so without the rest, since it cannot reach over the
    -- stop.
    have hsame := isPrefixOf_append_cons rest h (c :: text)
    rw [List.cons_append] at hsame ⊢
    rw [occurrences, occurrences, hsame, ih, Nat.add_assoc]

/-! ## The head of a grid -/

/-- How the definition of a row begins. -/
def rowTag : List Char := "<RowDefinition ".toList

/-- Whether a grouping is one of the words for a grid. -/
def IsGrid (grouping : String) : Prop :=
  Text.sameIgnoringCase (trimGrouping grouping) gridGrouping.toList = true ∨
    Text.sameIgnoringCase (trimGrouping grouping) twoColumnGrouping.toList = true

/-- What ends a line counts on its own. -/
theorem occurrences_line {text : List Char} (h : text.getLast? = some '\n') (rest : List Char) :
    occurrences rowTag (text ++ rest) = occurrences rowTag text + occurrences rowTag rest := by
  have hmark : rowTag ≠ [] := by decide
  have hstop : '\n' ∉ rowTag := by decide
  obtain ⟨line, rfl⟩ := List.getLast?_eq_some_iff.1 h
  rw [List.append_assoc, List.singleton_append, occurrences_append_cons hmark hstop,
    occurrences_append_cons hmark hstop [] line, occurrences, Nat.add_zero]

/-- Each row has one definition. -/
theorem occurrences_rowDefinitions (rows : Nat) (rest : List Char) :
    occurrences rowTag (rowDefinitions rows ++ rest) = rows + occurrences rowTag rest := by
  have hrows (n : Nat) (rest : List Char) :
      occurrences rowTag
          ((List.replicate n "<RowDefinition Height=\"Auto\" />\n".toList).flatten ++ rest) =
        n + occurrences rowTag rest := by
    induction n with
    | zero => exact (Nat.zero_add _).symm
    | succ n ih =>
      have hline : occurrences rowTag "<RowDefinition Height=\"Auto\" />\n".toList = 1 := by
        decide +kernel
      rw [List.replicate_succ, List.flatten_cons, List.append_assoc,
        occurrences_line (by decide +kernel), hline, ih]
      omega
  -- Every line ends in a line feed, which the mark does not hold, so the lines are counted one by
  -- one.
  unfold rowDefinitions
  split_ifs with h
  · rw [h, List.nil_append, Nat.zero_add]
  · have hopen : occurrences rowTag "<Grid.RowDefinitions>\n".toList = 0 := by decide +kernel
    have hclose : occurrences rowTag "</Grid.RowDefinitions>\n".toList = 0 := by decide +kernel
    rw [List.append_assoc, List.append_assoc, occurrences_line (by decide +kernel), hopen, hrows,
      occurrences_line (by decide +kernel), hclose, Nat.zero_add, Nat.zero_add]

/-- The definitions of the columns define no row. -/
theorem occurrences_columnDefinitions : occurrences rowTag columnDefinitions = 0 := by
  decide +kernel

/-- Under a word for a grid a text stands behind a head with one definition for each row, and before
the end of the grid. -/
theorem wrap_of_isGrid {grouping : String} (h : IsGrid grouping) (rows : Nat) :
    ∃ head, occurrences rowTag head = rows ∧
      ∀ body, wrap grouping rows body = head ++ body ++ "\n</Grid>".toList := by
  -- The words for a grid are not empty.
  have hname : (trimGrouping grouping).isEmpty = false := by
    unfold IsGrid at h
    cases hname : trimGrouping grouping with
    | nil =>
      rw [hname] at h
      exact absurd h (by decide)
    | cons c name => rfl
  have hgrid : (Text.sameIgnoringCase (trimGrouping grouping) twoColumnGrouping.toList ||
      Text.sameIgnoringCase (trimGrouping grouping) gridGrouping.toList) = true := by
    rw [Bool.or_eq_true]
    exact h.symm
  refine ⟨"<Grid>\n".toList ++ rowDefinitions rows ++
    (if Text.sameIgnoringCase (trimGrouping grouping) twoColumnGrouping.toList then
      columnDefinitions else []), ?_, fun body => ?_⟩
  · have hopen : occurrences rowTag "<Grid>\n".toList = 0 := by decide +kernel
    rw [List.append_assoc, occurrences_line (by decide +kernel), hopen, occurrences_rowDefinitions]
    split
    · rw [occurrences_columnDefinitions]; omega
    · rw [occurrences]; omega
  · unfold wrap
    dsimp only
    rw [hname, hgrid, if_neg Bool.false_ne_true, if_pos rfl]

end ViewForge.Render
