import ViewForge.Proofs.Text.Match
import ViewForge.Proofs.TypeExpr.Phrase
import ViewForge.Proofs.VisualBasic.Header
import ViewForge.VisualBasic.TypeText

/-!
# Type texts in lines of Visual Basic

The usual text of a type phrase in round brackets keeps its commas in parentheses (`isItem_text`),
so a list of such texts is cut into them again (`splitList_listed`). Its spaces stand behind commas
and `Of` only (`spacesBehind_spaced`), so none of the clauses that end a type on its line is found
in it (`propertyType_text`).
-/

namespace ViewForge.VisualBasic

/-! ## Lists -/

/-- Texts with a comma and a space between them. -/
def listed (texts : List (List Char)) : List Char := [',', ' '].intercalate texts

/-- Whether a text is not cut where at least so many parentheses are open before it. -/
def Unsplit (least : Nat) (cs : List Char) : Prop :=
  ∀ depth piece rest, least ≤ depth →
    piecesFrom depth piece (cs ++ rest) = piecesFrom depth (cs.reverse ++ piece) rest

theorem unsplit_nil (least : Nat) : Unsplit least [] := fun _ _ _ _ => rfl

namespace Unsplit

theorem append {least : Nat} {cs ds : List Char} (hcs : Unsplit least cs)
    (hds : Unsplit least ds) : Unsplit least (cs ++ ds) := by
  intro depth piece rest hdepth
  rw [List.append_assoc, hcs depth piece _ hdepth, hds depth _ rest hdepth, List.reverse_append,
    List.append_assoc]

theorem mono {least most : Nat} {cs : List Char} (h : Unsplit least cs) (hle : least ≤ most) :
    Unsplit most cs :=
  fun depth piece rest hdepth => h depth piece rest (hle.trans hdepth)

/-- Commas in parentheses cut nothing. -/
theorem parentheses {cs : List Char} (h : Unsplit 1 cs) : Unsplit 0 ('(' :: (cs ++ [')'])) := by
  intro depth piece rest _
  have hinner := h (depth + 1) ('(' :: piece) (')' :: rest) (Nat.le_add_left 1 depth)
  calc piecesFrom depth piece ('(' :: (cs ++ [')']) ++ rest)
      = piecesFrom (depth + 1) ('(' :: piece) (cs ++ ')' :: rest) := by
        rw [List.cons_append, List.append_assoc, List.singleton_append, piecesFrom]
        rfl
    _ = piecesFrom (depth + 1) (cs.reverse ++ '(' :: piece) (')' :: rest) := hinner
    _ = piecesFrom depth (')' :: (cs.reverse ++ '(' :: piece)) rest := by
        rw [piecesFrom]
        rfl
    _ = piecesFrom depth (('(' :: (cs ++ [')'])).reverse ++ piece) rest := by
        simp

/-- Inside parentheses a comma cuts nothing. -/
theorem comma : Unsplit 1 [','] := by
  intro depth piece rest hdepth
  have hopen : depth ≠ 0 := by omega
  rw [List.singleton_append, piecesFrom, decide_eq_false hopen]
  rfl

end Unsplit

/-- Characters that are neither commas nor parentheses cut nothing. -/
theorem unsplit_of_forall {cs : List Char} (h : ∀ c ∈ cs, c ≠ ',' ∧ c ≠ '(' ∧ c ≠ ')') :
    Unsplit 0 cs := by
  induction cs with
  | nil => exact unsplit_nil 0
  | cons c cs ih =>
    obtain ⟨⟨hcomma, hopening, hclosing⟩, hcs⟩ := List.forall_mem_cons.1 h
    have hc : Unsplit 0 [c] := by
      intro depth piece rest _
      rw [List.singleton_append, piecesFrom, decide_eq_false hcomma, if_neg hopening,
        if_neg hclosing]
      rfl
    exact hc.append (ih hcs)

/-- The same, with the characters checked one by one. -/
theorem unsplit_of_all {cs : List Char}
    (h : (cs.all fun c => c != ',' && c != '(' && c != ')') = true) : Unsplit 0 cs := by
  refine unsplit_of_forall fun c hc => ?_
  simpa [and_assoc] using List.all_eq_true.1 h c hc

/-- A text that can stand in a list. -/
structure IsItem (cs : List Char) : Prop where
  /-- It is not cut. -/
  unsplit : Unsplit 0 cs
  /-- It has no white space around it. -/
  trimmed : Text.trim cs = cs
  /-- It is not empty. -/
  some : cs ≠ []

/-- The pieces of a list: the first behind the piece at hand, a space before each of the others. -/
theorem piecesFrom_listed {t : List Char} {ts : List (List Char)}
    (h : ∀ u ∈ t :: ts, Unsplit 0 u) (piece : List Char) :
    piecesFrom 0 piece (listed (t :: ts)) =
      (piece.reverse ++ t) :: ts.map (' ' :: ·) := by
  induction ts generalizing t piece with
  | nil =>
    have hpiece := h t List.mem_cons_self 0 piece [] (Nat.le_refl 0)
    rw [List.append_nil] at hpiece
    rw [listed, List.intercalate_singleton, hpiece, piecesFrom, List.reverse_append,
      List.reverse_reverse, List.map_nil]
  | cons u ts ih =>
    obtain ⟨ht, hts⟩ := List.forall_mem_cons.1 h
    have hpiece := ht 0 piece (',' :: ' ' :: listed (u :: ts)) (Nat.le_refl 0)
    have hlisted : listed (t :: u :: ts) = t ++ ',' :: ' ' :: listed (u :: ts) := by
      rw [listed, List.intercalate_cons_cons, List.append_assoc]
      rfl
    -- The comma ends the piece, and the space behind it begins the next.
    have hcut : piecesFrom 0 (t.reverse ++ piece) (',' :: ' ' :: listed (u :: ts)) =
        (t.reverse ++ piece).reverse :: piecesFrom 0 [' '] (listed (u :: ts)) := rfl
    rw [hlisted, hpiece, hcut, ih hts, List.reverse_append, List.reverse_reverse, List.map_cons]
    rfl

/-- A list is cut into its texts. -/
theorem splitList_listed {t : List Char} {ts : List (List Char)} (h : ∀ u ∈ t :: ts, IsItem u) :
    splitList (listed (t :: ts)) = t :: ts := by
  obtain ⟨ht, hts⟩ := List.forall_mem_cons.1 h
  have htrim : (ts.map (' ' :: ·)).map Text.trim = ts := by
    rw [List.map_map]
    refine (List.map_congr_left fun u hu => ?_).trans (List.map_id ts)
    -- White space before a text is trimmed.
    exact (hts u hu).trimmed
  have hsome : ∀ u ∈ t :: ts, (!u.isEmpty) = true := by
    intro u hu
    simp [(h u hu).some]
  rw [splitList, piecesFrom_listed (fun u hu => (h u hu).unsplit), List.reverse_nil,
    List.nil_append, List.map_cons, ht.trimmed, htrim, List.filter_eq_self.2 hsome]

/-! ## Phrases in lists -/

open TypePhrase (dotted applied piecesAll piecesAll_eq)

/-- Whether pieces are written as a text that is not cut where so many parentheses are open. -/
def UnsplitPieces (least : Nat) (ps : List Piece) : Prop :=
  Unsplit least (ps.flatMap Piece.spaced)

theorem UnsplitPieces.append {least : Nat} {ps qs : List Piece} (hps : UnsplitPieces least ps)
    (hqs : UnsplitPieces least qs) : UnsplitPieces least (ps ++ qs) := by
  rw [UnsplitPieces, List.flatMap_append]
  exact Unsplit.append hps hqs

theorem unsplitPieces_word (w : TypeWord) : UnsplitPieces 0 [.word w] := by
  have hletters : ∀ c ∈ w.1.toList, c ≠ ',' ∧ c ≠ '(' ∧ c ≠ ')' := by
    intro c hc
    have hne (d : Char) (hd : TypeToken.isLetter d = false) : c ≠ d := by
      rintro rfl
      exact Bool.noConfusion ((w.2.2 c hc).symm.trans hd)
    exact ⟨hne ',' (by decide), hne '(' (by decide), hne ')' (by decide)⟩
  have hword := unsplit_of_forall hletters
  rwa [UnsplitPieces, List.flatMap_singleton]

theorem unsplitPieces_dotted (lead : List TypeWord) (last : TypeWord) :
    UnsplitPieces 0 (dotted lead last) := by
  induction lead with
  | nil => exact unsplitPieces_word last
  | cons w lead ih =>
    have hdot : UnsplitPieces 0 [.mark '.'] := unsplit_of_all rfl
    exact (unsplitPieces_word w).append (hdot.append ih)

theorem unsplitPieces_intercalate {ls : List (List Piece)} (h : ∀ l ∈ ls, UnsplitPieces 0 l) :
    UnsplitPieces 1 ([.comma].intercalate ls) := by
  induction ls with
  | nil => exact unsplit_nil 1
  | cons l ls ih =>
    obtain ⟨hl, hls⟩ := List.forall_mem_cons.1 h
    have hl1 : UnsplitPieces 1 l := Unsplit.mono hl (Nat.zero_le 1)
    cases ls with
    | nil =>
      rw [List.intercalate_singleton]
      exact hl1
    | cons l' ls =>
      have hspace : Unsplit 1 [' '] := (unsplit_of_all rfl).mono (Nat.zero_le 1)
      have hcomma : UnsplitPieces 1 [.comma] := Unsplit.comma.append hspace
      rw [List.intercalate_cons_cons]
      exact (hl1.append hcomma).append (ih hls)

/-- A text in round brackets with what its pieces put between them. -/
theorem unsplitPieces_parentheses {ps : List Piece} (h : UnsplitPieces 1 ps) :
    UnsplitPieces 0 (.mark '(' :: (ps ++ [.mark ')'])) := by
  have htext : (Piece.mark '(' :: (ps ++ [.mark ')'])).flatMap Piece.spaced =
      '(' :: (ps.flatMap Piece.spaced ++ [')']) := by
    rw [List.flatMap_cons, List.flatMap_append]
    rfl
  rw [UnsplitPieces, htext]
  exact Unsplit.parentheses h

/-- The usual text of a phrase in round brackets is not cut. -/
theorem unsplitPieces_pieces (t : TypePhrase) : UnsplitPieces 0 (t.pieces .round) := by
  -- Commas stand inside round brackets only, where nothing is cut.
  induction t with
  | name lead last args ih =>
    have hargs : UnsplitPieces 0 (applied .round (piecesAll .round args)) := by
      rw [piecesAll_eq]
      cases args with
      | nil => exact unsplit_nil 0
      | cons arg args =>
        have hof : UnsplitPieces 1 [.of] := (unsplit_of_all rfl).mono (Nat.zero_le 1)
        have hinner := unsplitPieces_intercalate (List.forall_mem_map.2 ih)
        exact unsplitPieces_parentheses (hof.append hinner)
    exact (unsplitPieces_dotted lead last).append hargs
  | array element commas ih =>
    have hcommas : UnsplitPieces 1 (List.replicate commas (.mark ',')) := by
      induction commas with
      | zero => exact unsplit_nil 1
      | succ n ih => exact Unsplit.comma.append ih
    exact ih.append (unsplitPieces_parentheses hcommas)
  | nullable inner ih =>
    have hmark : UnsplitPieces 0 [.mark '?'] := unsplit_of_all rfl
    exact ih.append hmark
  | tuple first rest ihfirst ihrest =>
    refine unsplitPieces_parentheses (unsplitPieces_intercalate ?_)
    rw [piecesAll_eq]
    exact List.forall_mem_cons.2 ⟨ihfirst, List.forall_mem_map.2 ihrest⟩

/-- A phrase can stand in a list. -/
theorem isItem_text (t : TypePhrase) : IsItem (t.text .round) where
  unsplit := unsplitPieces_pieces t
  trimmed := t.trim_text .round
  some := t.text_ne_nil .round

/-! ## The type of a property -/

/-- Whether every space of a text stands behind a comma or an `f`. -/
def SpacesBehind (cs : List Char) : Prop :=
  ∀ before after, cs = before ++ ' ' :: after → ∃ c ∈ before.getLast?, c = ',' ∨ c = 'f'

theorem spacesBehind_piece (p : Piece) : SpacesBehind p.spaced := by
  have hletters (hp : p.spaced = p.letters) : SpacesBehind p.spaced := by
    intro before after h
    have hmem : ' ' ∈ p.letters := by
      rw [← hp, h]
      exact List.mem_append_right _ List.mem_cons_self
    exact absurd (TypePhrase.isBlank_letters p ' ' hmem) (by decide)
  cases p with
  | word w => exact hletters rfl
  | mark c hc => exact hletters rfl
  | of =>
    intro before after h
    rcases before with _ | ⟨a, _ | ⟨b, _ | ⟨c, before⟩⟩⟩ <;> simp [Piece.spaced] at h
    obtain ⟨-, rfl, -⟩ := h
    exact ⟨'f', rfl, .inr rfl⟩
  | comma =>
    intro before after h
    rcases before with _ | ⟨a, _ | ⟨b, before⟩⟩ <;> simp [Piece.spaced] at h
    obtain ⟨rfl, -⟩ := h
    exact ⟨',', rfl, .inl rfl⟩

/-- The spaces of pieces stand behind commas and `Of`. -/
theorem spacesBehind_spaced (ps : List Piece) : SpacesBehind (ps.flatMap Piece.spaced) := by
  induction ps with
  | nil => exact fun before after h => absurd h (by simp)
  | cons p ps ih =>
    intro before after h
    rw [List.flatMap_cons] at h
    rcases List.append_eq_append_iff.1 h with ⟨more, rfl, hmore⟩ | ⟨tail, hp, htail⟩
    · -- The space stands behind the piece.
      obtain ⟨c, hc, hbehind⟩ := ih more after hmore
      have hsome : more ≠ [] := List.ne_nil_of_mem (List.mem_of_getLast? hc)
      exact ⟨c, by rwa [List.getLast?_append_of_ne_nil _ hsome], hbehind⟩
    · cases tail with
      | nil =>
        -- It cannot begin the pieces behind, where nothing would stand before it.
        obtain ⟨c, hc, -⟩ := ih [] after htail.symm
        exact nomatch hc
      | cons d tail =>
        obtain ⟨rfl, -⟩ := List.cons.inj htail
        exact spacesBehind_piece p before tail hp

/-- A type whose spaces stand behind commas and `Of` does not begin with `New`. -/
theorem annotation?_eq_some {cs : List Char} (hspaces : SpacesBehind cs)
    (hplain : ∀ c ∈ cs, isPlain c = true) (hsome : cs ≠ []) :
    annotation? cs = some ⟨false, cs⟩ := by
  have hnew : afterWord? "new" cs = none := by
    rw [afterWord?, Option.bind_eq_none_iff]
    intro rest hrest
    obtain ⟨lead, rfl, hlead⟩ := exists_of_afterLetters? hrest
    cases rest with
    | nil => rfl
    | cons c rest =>
      cases hblank : Text.isBlank c with
      | false => rw [afterBlanks?, hblank]; rfl
      | true =>
        -- A space would stand behind a comma or an `f`, not behind `New`.
        have hmem : c ∈ lead ++ c :: rest := List.mem_append_right _ List.mem_cons_self
        obtain rfl : c = ' ' := eq_space_of_isPlain (hplain c hmem) hblank
        obtain ⟨d, hd, hbehind⟩ := hspaces lead rest rfl
        have hlast : (lead.map foldLetter).getLast? = some (foldLetter d) := by
          rw [List.getLast?_map, hd]
          rfl
        rw [hlead] at hlast
        rcases hbehind with rfl | rfl <;> exact absurd hlast (by decide)
  rw [annotation?, hnew]
  simp [hsome]

/-- No `Implements` clause stands in a type whose spaces stand behind commas and `Of`. -/
theorem beforeImplements_eq_self {cs : List Char} (hspaces : SpacesBehind cs) :
    beforeImplements cs = cs := by
  have hcut : Text.cut? " implements ".toList (cs.map Char.toLower) = none := by
    rw [Option.eq_none_iff_forall_not_mem]
    rintro ⟨before, after⟩ h
    have hlower : cs.map Char.toLower = (before ++ " implements".toList) ++ ' ' :: after := by
      rw [Text.eq_append_of_cut? h, List.append_assoc]
      rfl
    obtain ⟨lead, rest, rfl, hlead, hrest⟩ := List.map_eq_append_iff.1 hlower
    obtain ⟨space, tail, rfl, hspace, -⟩ := List.map_eq_cons_iff.1 hrest
    obtain rfl := Text.eq_of_toLower (by decide) hspace
    -- The second space of a clause would stand behind its `s`, which is neither a comma nor the end
    -- of `Of`.
    obtain ⟨d, hd, hbehind⟩ := hspaces lead tail rfl
    have hlast : (lead.map Char.toLower).getLast? = some d.toLower := by
      rw [List.getLast?_map, hd]
      rfl
    rw [hlead, List.getLast?_append_of_ne_nil before (by decide)] at hlast
    rcases hbehind with rfl | rfl <;> exact absurd hlast (by decide)
  rw [beforeImplements, hcut]

/-- A text without an equals sign holds no value. -/
theorem beforeValue_eq_self {cs : List Char} (h : ∀ c ∈ cs, isPlain c = true) (depth : Nat) :
    beforeValue depth cs = cs := by
  induction cs generalizing depth with
  | nil => rfl
  | cons c cs ih =>
    obtain ⟨hc, hcs⟩ := List.forall_mem_cons.1 h
    have hequals : c ≠ '=' := ne_of_isPlain hc (by decide)
    rw [beforeValue, ih hcs, decide_eq_false hequals]
    rfl

/-- The usual text of a phrase in round brackets is the whole type of a property. -/
theorem propertyType_text {t : TypePhrase} (h : ∀ c ∈ t.text .round, isPlain c = true) :
    propertyType false (t.text .round) = t.text .round := by
  have hspaces : SpacesBehind (t.text .round) := spacesBehind_spaced (t.pieces .round)
  rw [propertyType, beforeValue_eq_self h, t.trim_text, beforeImplements_eq_self hspaces,
    t.trim_text]
  rfl

end ViewForge.VisualBasic
