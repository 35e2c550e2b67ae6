import Mathlib.Tactic.SplitIfs
import ViewForge.VisualBasic.Scan

/-!
# The places of Visual Basic lines

The lines of a text lie one after the other with at least one character between two of them, the
line feed (`linesIn_lines`). So a construct that begins on one of them and ends on another has a
span that ends before the next line begins (`spanOver_facts`).
-/

namespace ViewForge.VisualBasic

/-- Lines one after the other from the offset `first` to the offset `last`, with at least one
character between two of them. -/
def LinesIn (last : Nat) : Nat → List Line → Prop
  | _, [] => True
  | first, line :: rest =>
    first ≤ line.span.start ∧ line.span.start ≤ line.span.stop ∧ line.span.stop ≤ last ∧
      LinesIn last (line.span.stop + 1) rest

/-- A line without line feeds, with one behind it, is a raw line. -/
theorem rawLines_append {cs : List Char} (h : '\n' ∉ cs) (rest : List Char) :
    rawLines (cs ++ '\n' :: rest) = (cs ++ ['\n']) :: rawLines rest := by
  induction cs with
  | nil => rfl
  | cons c cs ih =>
    rw [List.mem_cons, not_or] at h
    rw [List.cons_append, rawLines, ih h.2, if_neg (Ne.symm h.1)]
    rfl

/-- Every raw line but the last ends with a line feed. -/
theorem rawLines_dropLast (cs : List Char) :
    ∀ raw ∈ (rawLines cs).dropLast, ∃ front, raw = front ++ ['\n'] := by
  induction cs with
  | nil =>
    intro raw hraw
    exact absurd hraw List.not_mem_nil
  | cons c cs ih =>
    -- A line feed opens a new raw line; any other character goes to the head of the next, which is
    -- not the last if more follow.
    unfold rawLines
    split_ifs with hc
    · intro raw hraw
      cases hl : rawLines cs with
      | nil => rw [hl] at hraw; exact absurd hraw List.not_mem_nil
      | cons line more =>
        rw [hl, List.dropLast_cons_cons, ← hl] at hraw
        rcases List.mem_cons.1 hraw with rfl | hraw
        · exact ⟨[], by rw [hc]; rfl⟩
        · exact ih raw hraw
    · cases hl : rawLines cs with
      | nil =>
        intro raw hraw
        exact absurd hraw List.not_mem_nil
      | cons line more =>
        rw [hl] at ih
        intro raw hraw
        cases more with
        | nil => exact absurd hraw List.not_mem_nil
        | cons line' more =>
          rw [List.dropLast_cons_cons] at hraw ih
          rcases List.mem_cons.1 hraw with rfl | hraw
          · obtain ⟨front, rfl⟩ := ih line List.mem_cons_self
            exact ⟨c :: front, rfl⟩
          · exact ih raw (List.mem_cons_of_mem _ hraw)

/-- A line is no longer than it was with its line break. -/
theorem length_dropBreak_le (raw : List Char) : (dropBreak raw).length ≤ raw.length := by
  unfold dropBreak
  rw [List.length_reverse]
  calc (raw.reverse.dropWhile fun c => c == '\n' || c == '\r').length
      ≤ raw.reverse.length := (List.dropWhile_suffix _).length_le
    _ = raw.length := List.length_reverse

/-- A line that had a line feed is shorter without it. -/
theorem length_dropBreak_lt (front : List Char) :
    (dropBreak (front ++ ['\n'])).length < (front ++ ['\n']).length := by
  have hdrop : dropBreak (front ++ ['\n']) = dropBreak front := by
    unfold dropBreak
    rw [List.reverse_append, List.reverse_singleton, List.singleton_append, List.dropWhile_cons]
    rfl
  have := length_dropBreak_le front
  rw [hdrop, List.length_append, List.length_singleton]
  omega

/-- The last of several lines is the last of those behind the first. -/
theorem lastOffset_cons_cons (line line' : Line) (rest : List Line) :
    lastOffset (line :: line' :: rest) = lastOffset (line' :: rest) := by
  unfold lastOffset
  rw [List.getLast?_cons_cons]

/-- Lines placed from an offset on lie between it and the end of the last of them. -/
theorem linesIn_place (raws : List (List Char)) :
    ∀ first, (∀ raw ∈ raws.dropLast, ∃ front, raw = front ++ ['\n']) →
      LinesIn (lastOffset (place first raws)) first (place first raws) := by
  induction raws with
  | nil =>
    intro first _
    trivial
  | cons raw rest ih =>
    intro first hfeed
    -- The last line may have no line feed; before it every break takes a character, so the next
    -- line begins behind the text.
    cases rest with
    | nil =>
      refine ⟨Nat.le_refl _, Nat.le_add_right _ _, Nat.le_refl _, trivial⟩
    | cons raw' rest =>
      rw [List.dropLast_cons_cons] at hfeed
      obtain ⟨front, hfront⟩ := hfeed raw List.mem_cons_self
      have hlt : (dropBreak raw).length < raw.length := hfront ▸ length_dropBreak_lt front
      have hrest := ih (first + raw.length) fun raw h => hfeed raw (List.mem_cons_of_mem _ h)
      have hlast : lastOffset (place first (raw :: raw' :: rest)) =
          lastOffset (place (first + raw.length) (raw' :: rest)) := lastOffset_cons_cons _ _ _
      rw [hlast]
      obtain ⟨-, h2, h3, h4⟩ := hrest
      refine ⟨Nat.le_refl _, Nat.le_add_right _ _, ?_, ?_, h2, h3, h4⟩
      · have h2' : first + raw.length ≤ _ := h2
        show first + (dropBreak raw).length ≤ _
        omega
      · show first + (dropBreak raw).length + 1 ≤ first + raw.length
        omega

/-- The lines of a text lie between its start and the end of the last of them. -/
theorem linesIn_lines (source : List Char) : LinesIn (lastOffset (lines source)) 0 (lines source) :=
  linesIn_place _ _ (rawLines_dropLast source)

/-- A line among others lies between the start and the end of them all, and those behind it begin
later. -/
theorem LinesIn.getElem? {last : Nat} {ls : List Line} :
    ∀ {first count : Nat} {line : Line}, LinesIn last first ls → ls[count]? = some line →
      first ≤ line.span.start ∧ line.span.start ≤ line.span.stop ∧ line.span.stop ≤ last ∧
        LinesIn last (line.span.stop + 1) (ls.drop (count + 1)) := by
  induction ls with
  | nil =>
    intro first count line _ h
    rw [List.getElem?_nil] at h
    exact absurd h (Option.some_ne_none _).symm
  | cons head rest ih =>
    intro first count line hls h
    obtain ⟨h1, h2, h3, h4⟩ := hls
    cases count with
    | zero =>
      rw [List.getElem?_cons_zero, Option.some.injEq] at h
      subst h
      exact ⟨h1, h2, h3, h4⟩
    | succ count =>
      rw [List.getElem?_cons_succ] at h
      obtain ⟨h5, h6, h7, h8⟩ := ih h4 h
      exact ⟨by omega, h6, h7, h8⟩

theorem LinesIn.of_mem {last first : Nat} {ls : List Line} (h : LinesIn last first ls) {l : Line}
    (hl : l ∈ ls) : first ≤ l.span.start ∧ l.span.start ≤ l.span.stop := by
  obtain ⟨i, hi⟩ := List.mem_iff_getElem?.1 hl
  obtain ⟨h1, h2, -, -⟩ := h.getElem? hi
  exact ⟨h1, h2⟩

/-- No two lines begin at one place. -/
theorem LinesIn.eq_of_start {last first : Nat} {ls : List Line} (h : LinesIn last first ls)
    {l l' : Line} (hl : l ∈ ls) (hl' : l' ∈ ls) (heq : l.span.start = l'.span.start) : l = l' := by
  induction ls generalizing first with
  | nil => exact nomatch hl
  | cons line rest ih =>
    obtain ⟨-, hle, -, hrest⟩ := h
    rcases List.mem_cons.1 hl with rfl | hrear <;> rcases List.mem_cons.1 hl' with rfl | hrear'
    · rfl
    · have := hrest.of_mem hrear'
      omega
    · have := hrest.of_mem hrear
      omega
    · exact ih hrest hrear hrear'

/-- The span over a construct lies between the line that it begins on and the lines behind it. -/
theorem spanOver_facts {last first : Nat} {line : Line} {rest : List Line}
    (h : LinesIn last first (line :: rest)) (count : Nat) :
    first ≤ (spanOver line rest count).start ∧
      (spanOver line rest count).start ≤ (spanOver line rest count).stop ∧
      (spanOver line rest count).stop ≤ last ∧
      LinesIn last ((spanOver line rest count).stop + 1) (rest.drop count) := by
  have hline := h
  obtain ⟨h1, h2, h3, -⟩ := hline
  unfold spanOver
  dsimp only
  cases hget : (line :: rest)[count]? with
  | none =>
    -- No line is so far behind: nothing is left.
    have hlen := List.getElem?_eq_none_iff.1 hget
    rw [List.length_cons] at hlen
    rw [List.drop_of_length_le (by omega)]
    exact ⟨h1, h2, h3, trivial⟩
  | some final =>
    have hself : LinesIn last line.span.start (line :: rest) := ⟨Nat.le_refl _, h.2⟩
    obtain ⟨h5, h6, h7, h8⟩ := hself.getElem? hget
    exact ⟨h1, by rw [Option.getD_some]; omega, h7, h8⟩

end ViewForge.VisualBasic
