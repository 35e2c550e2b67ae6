import Mathlib.Data.List.Chain
import Mathlib.Data.List.Forall2
import ViewForge.Proofs.Text.Character
import ViewForge.Proofs.TypeExpr.Written

/-!
# Type phrases

A type phrase is a type without regard to its brackets: a dotted name with arguments, an array, a
nullable or a tuple. It is written in two styles, with `<A, B>` and `[,]` (`Style.angled`) or with
`(Of A, B)` and `(,)` (`Style.round`). Each style makes a list of pieces of it, and white space may
stand between any two pieces, but must stand behind `Of` (`Spread`).

However it is spread, a phrase is read as one type in either style (`parse?_of_spread`): the pieces
spell tokens that match them one by one (`spells_of_spread`), because no two words meet, and tokens
that match the pieces of a phrase derive its type (`isType_of_matches`).
-/

namespace ViewForge

open TypeExpr (IsName)

/-- A text that can stand as a word. -/
abbrev TypeWord := { name : String // IsName name }

/-- A type as it can be said in every style. -/
inductive TypePhrase where
  /-- A name behind others, each followed by a point, applied to type arguments. -/
  | name (lead : List TypeWord) (last : TypeWord) (args : List TypePhrase)
  /-- An array, with a dimension more than there are commas. -/
  | array (element : TypePhrase) (commas : Nat)
  /-- A type or null. -/
  | nullable (inner : TypePhrase)
  /-- A tuple. -/
  | tuple (first : TypePhrase) (rest : List TypePhrase)

/-- What holds of a phrase if it holds of the phrases in it holds of every phrase. -/
@[elab_as_elim, induction_eliminator]
theorem TypePhrase.induct {motive : TypePhrase → Prop}
    (name : ∀ lead last args, (∀ t ∈ args, motive t) → motive (.name lead last args))
    (array : ∀ element commas, motive element → motive (.array element commas))
    (nullable : ∀ inner, motive inner → motive (.nullable inner))
    (tuple : ∀ first rest, motive first → (∀ t ∈ rest, motive t) → motive (.tuple first rest))
    (t : TypePhrase) : motive t :=
  @TypePhrase.rec motive (fun ts => ∀ t ∈ ts, motive t) name array nullable tuple
    (fun _ hmem => nomatch hmem) (fun _ _ ht hts => List.forall_mem_cons.2 ⟨ht, hts⟩) t

/-- How arguments and ranks are bracketed. -/
inductive Style where
  /-- Arguments stand in angle brackets, ranks in square ones. -/
  | angled
  /-- Both stand in parentheses, arguments behind `Of`. -/
  | round
  deriving DecidableEq

/-- What stands in a written type between white space. -/
inductive Piece where
  /-- A word. -/
  | word (w : TypeWord)
  /-- The word that opens arguments in parentheses. -/
  | of
  /-- What separates two types. -/
  | comma
  /-- A mark. -/
  | mark (c : Char) (hc : TypeToken.isMark c = true := by decide)

namespace Piece

/-- The characters of a piece. -/
def letters : Piece → List Char
  | word w => w.1.toList
  | of => ['O', 'f']
  | comma => [',']
  | mark c _ => [c]

/-- A piece with the white space that usually stands behind it. -/
def spaced : Piece → List Char
  | of => ['O', 'f', ' ']
  | comma => [',', ' ']
  | p => p.letters

/-- Whether a piece begins with a letter. -/
def isLettered : Piece → Bool
  | word _ | of => true
  | comma | mark .. => false

/-- Whether one piece may stand directly before another: no word runs into the next. -/
def May (p q : Piece) : Prop := (∃ w, p = word w) → q.isLettered = false

end Piece

namespace Style

/-- What opens type arguments. -/
def openArgs : Style → List Piece
  | angled => [.mark '<']
  | round => [.mark '(', .of]

/-- What closes type arguments. -/
def closeArgs : Style → Piece
  | angled => .mark '>'
  | round => .mark ')'

/-- What opens the rank of an array. -/
def openRank : Style → Piece
  | angled => .mark '['
  | round => .mark '('

/-- What closes the rank of an array. -/
def closeRank : Style → Piece
  | angled => .mark ']'
  | round => .mark ')'

end Style

namespace TypePhrase

/-! ## What a phrase says and how it is written -/

mutual

/-- The type of a phrase. -/
def type : TypePhrase → TypeExpr
  | name lead last args => .ofSegments (lead.map (·.1) ++ [last.1]) (typeAll args)
  | array element commas => .array element.type (commas + 1)
  | nullable inner => .nullable inner.type
  | tuple first rest => .tuple (first.type :: typeAll rest)

/-- The types of phrases. -/
def typeAll : List TypePhrase → List TypeExpr
  | [] => []
  | t :: ts => t.type :: typeAll ts

end

/-- The pieces of a dotted name. -/
def dotted (lead : List TypeWord) (last : TypeWord) : List Piece :=
  lead.flatMap (fun w => [.word w, .mark '.']) ++ [.word last]

/-- The pieces of type arguments, given those of each. -/
def applied (s : Style) : List (List Piece) → List Piece
  | [] => []
  | arg :: args => s.openArgs ++ ([.comma].intercalate (arg :: args) ++ [s.closeArgs])

mutual

/-- The pieces of a phrase in a style. -/
def pieces (s : Style) : TypePhrase → List Piece
  | name lead last args => dotted lead last ++ applied s (piecesAll s args)
  | array element commas =>
    element.pieces s ++ s.openRank :: (List.replicate commas (.mark ',') ++ [s.closeRank])
  | nullable inner => inner.pieces s ++ [.mark '?']
  | tuple first rest =>
    .mark '(' :: ([.comma].intercalate (first.pieces s :: piecesAll s rest) ++ [.mark ')'])

/-- The pieces of each of a list of phrases. -/
def piecesAll (s : Style) : List TypePhrase → List (List Piece)
  | [] => []
  | t :: ts => t.pieces s :: piecesAll s ts

end

theorem piecesAll_eq (s : Style) (ts : List TypePhrase) : piecesAll s ts = ts.map (pieces s) := by
  induction ts with
  | nil => rfl
  | cons t ts ih => rw [piecesAll, ih, List.map_cons]

/-- Whether a text is made of pieces, with white space before and behind them at will. Behind `Of`
there is some. -/
inductive Spread : List Piece → List Char → Prop
  /-- No pieces make the empty text. -/
  | nil : Spread [] []
  /-- White space may stand before a piece and at the end. -/
  | blank {ps : List Piece} {c : Char} {cs : List Char} (hc : Text.isBlank c = true)
      (hrest : Spread ps cs) : Spread ps (c :: cs)
  /-- The letters of a piece come before the others. -/
  | piece {p : Piece} {ps : List Piece} {cs : List Char}
      (hof : p = .of → TypeToken.blankNext cs = true) (hrest : Spread ps cs) :
      Spread (p :: ps) (p.letters ++ cs)

/-! ## Words do not meet -/

/-- Whether pieces may be written one after the other, and before others that begin with no
letter. -/
def Apart (ps : List Piece) : Prop :=
  ∀ rest : List Piece, (∀ p ∈ rest.head?, p.isLettered = false) → rest.IsChain Piece.May →
    (ps ++ rest).IsChain Piece.May

theorem apart_nil : Apart [] := fun _ _ hchain => hchain

/-- A mark or a comma may stand before anything. -/
theorem chain_cons_of_not_lettered {p : Piece} {ps : List Piece} (hp : p.isLettered = false)
    (hps : ps.IsChain Piece.May) : (p :: ps).IsChain Piece.May := by
  refine List.isChain_cons.2 ⟨fun q _ => ?_, hps⟩
  rintro ⟨w, rfl⟩
  exact Bool.noConfusion hp

/-- Pieces may be followed by a mark or comma and further pieces. -/
theorem Apart.append_cons {ps qs : List Piece} {p : Piece} (hps : Apart ps)
    (hp : p.isLettered = false) (hqs : Apart qs) : Apart (ps ++ p :: qs) := by
  intro rest hrest hchain
  rw [List.append_assoc, List.cons_append]
  refine hps _ ?_ (chain_cons_of_not_lettered hp (hqs rest hrest hchain))
  rintro _ ⟨⟩
  exact hp

theorem apart_marks {ps : List Piece} (h : ∀ p ∈ ps, p.isLettered = false) : Apart ps := by
  induction ps with
  | nil => exact apart_nil
  | cons p ps ih =>
    have hps : Apart ps := ih fun q hq => h q (List.mem_cons_of_mem _ hq)
    exact apart_nil.append_cons (h p List.mem_cons_self) hps

theorem apart_word (w : TypeWord) : Apart [.word w] := by
  intro rest hrest hchain
  exact List.isChain_cons.2 ⟨fun q hq _ => hrest q hq, hchain⟩

theorem apart_dotted (lead : List TypeWord) (last : TypeWord) : Apart (dotted lead last) := by
  induction lead with
  | nil => exact apart_word last
  | cons w lead ih => exact (apart_word w).append_cons (p := .mark '.') rfl ih

theorem apart_intercalate {ls : List (List Piece)} (h : ∀ l ∈ ls, Apart l) :
    Apart ([.comma].intercalate ls) := by
  induction ls with
  | nil => exact apart_nil
  | cons l ls ih =>
    have hl : Apart l := h l List.mem_cons_self
    have hls : ∀ l ∈ ls, Apart l := fun l' hl' => h l' (List.mem_cons_of_mem _ hl')
    cases ls with
    | nil =>
      rw [List.intercalate_singleton]
      exact hl
    | cons l' ls =>
      rw [List.intercalate_cons_cons, List.append_assoc]
      exact hl.append_cons rfl (ih hls)

/-- Arguments that are apart are so in their brackets, whatever begins the first behind `Of`. -/
theorem apart_applied (s : Style) {ls : List (List Piece)} (h : ∀ l ∈ ls, Apart l) :
    Apart (applied s ls) := by
  cases ls with
  | nil => exact apart_nil
  | cons l ls =>
    have hclose : s.closeArgs.isLettered = false := by cases s <;> rfl
    have hinner : Apart ([.comma].intercalate (l :: ls) ++ [s.closeArgs]) :=
      (apart_intercalate h).append_cons hclose apart_nil
    cases s with
    | angled => exact apart_nil.append_cons (p := .mark '<') rfl hinner
    | round =>
      refine apart_nil.append_cons (p := .mark '(') rfl fun rest hrest hchain => ?_
      refine List.isChain_cons.2 ⟨fun q _ => ?_, hinner rest hrest hchain⟩
      rintro ⟨w, hw⟩
      exact Piece.noConfusion hw

/-- The pieces of a phrase are apart. -/
theorem apart_pieces (s : Style) (t : TypePhrase) : Apart (t.pieces s) := by
  induction t with
  | name lead last args ih =>
    have hargs : Apart (applied s (piecesAll s args)) := by
      rw [piecesAll_eq]
      exact apart_applied s (List.forall_mem_map.2 ih)
    intro rest hrest hchain
    rw [pieces, List.append_assoc]
    refine apart_dotted lead last _ ?_ (hargs rest hrest hchain)
    -- The arguments begin with a bracket, and without arguments the rest comes next.
    cases piecesAll s args with
    | nil => exact hrest
    | cons arg args => cases s <;> rintro _ ⟨⟩ <;> rfl
  | array element commas ih =>
    have hrank : Apart (List.replicate commas (.mark ',') ++ [s.closeRank]) := by
      refine apart_marks fun p hp => ?_
      rcases List.mem_append.1 hp with hp | hp
      · rw [List.eq_of_mem_replicate hp]
        rfl
      · rw [List.mem_singleton.1 hp]
        cases s <;> rfl
    have hopen : s.openRank.isLettered = false := by cases s <;> rfl
    exact ih.append_cons hopen hrank
  | nullable inner ih => exact ih.append_cons (p := .mark '?') rfl apart_nil
  | tuple first rest ihfirst ihrest =>
    have hitems : ∀ l ∈ first.pieces s :: piecesAll s rest, Apart l := by
      rw [piecesAll_eq]
      exact List.forall_mem_cons.2 ⟨ihfirst, List.forall_mem_map.2 ihrest⟩
    have hinner : Apart ([.comma].intercalate (first.pieces s :: piecesAll s rest) ++
        [.mark ')']) :=
      (apart_intercalate hitems).append_cons rfl apart_nil
    exact apart_nil.append_cons (p := .mark '(') rfl hinner

/-! ## Pieces spell tokens -/

/-- Whether a token is that of a piece. -/
inductive Matches : TypeToken → Piece → Prop
  | word {blank : Bool} (w : TypeWord) : Matches (.word false w.1.toList blank) (.word w)
  | of : Matches (.word false ['O', 'f'] true) .of
  | comma : Matches (.mark ',') .comma
  | mark {c : Char} (hc : TypeToken.isMark c = true) : Matches (.mark c) (.mark c hc)

theorem isLetter_of : ∀ c ∈ ['O', 'f'], TypeToken.isLetter c = true :=
  List.all_eq_true.1 (by decide +kernel)

/-- A text whose pieces begin with no letter ends a word. -/
theorem Spread.endsWord {ps : List Piece} {cs : List Char} (h : Spread ps cs)
    (hps : ∀ p ∈ ps.head?, p.isLettered = false) : TypeToken.EndsWord cs := by
  -- The text begins with a blank, or with the piece, which is a mark.
  cases h with
  | nil => exact fun c hc => nomatch hc
  | blank hblank hrest =>
    rintro _ ⟨⟩
    exact TypeToken.isLetter_eq_false_of_isBlank hblank
  | @piece p ps cs hof hrest =>
    have hp : p.isLettered = false := hps p rfl
    cases p with
    | word w => exact Bool.noConfusion hp
    | of => exact Bool.noConfusion hp
    | comma =>
      rintro _ ⟨⟩
      exact (TypeToken.isMark_facts (c := ',') (by decide)).2.1
    | mark c hc =>
      rintro _ ⟨⟩
      exact (TypeToken.isMark_facts hc).2.1

/-- Pieces that may stand together spell tokens that match them. -/
theorem spells_of_spread {ps : List Piece} {cs : List Char} (h : Spread ps cs)
    (hmay : ps.IsChain Piece.May) :
    ∃ tokens, TypeToken.Spells cs tokens ∧ List.Forall₂ Matches tokens ps := by
  induction h with
  | nil => exact ⟨[], .nil, .nil⟩
  | blank hc hrest ih =>
    obtain ⟨tokens, hspells, hmatch⟩ := ih hmay
    exact ⟨tokens, .blank hc hspells, hmatch⟩
  | @piece p ps cs hof hrest ih =>
    obtain ⟨hnext, hmore⟩ := List.isChain_cons.1 hmay
    obtain ⟨tokens, hspells, hmatch⟩ := ih hmore
    -- A word must not run on into the next piece. `Of` cannot, as a blank follows it.
    cases p with
    | word w =>
      have hend : TypeToken.EndsWord cs := hrest.endsWord fun q hq => hnext q hq ⟨w, rfl⟩
      exact ⟨_, .word w.2.1 w.2.2 hend hspells, .cons (.word w) hmatch⟩
    | of =>
      have hblank : TypeToken.blankNext cs = true := hof rfl
      have hend : TypeToken.EndsWord cs := by
        intro c hc
        cases cs with
        | nil => exact nomatch hc
        | cons c' cs =>
          obtain rfl := Option.some.inj hc
          exact TypeToken.isLetter_eq_false_of_isBlank hblank
      have hword := TypeToken.Spells.word (List.cons_ne_nil 'O' ['f']) isLetter_of hend hspells
      rw [hblank] at hword
      exact ⟨_, hword, .cons .of hmatch⟩
    | comma => exact ⟨_, .mark (by decide) hspells, .cons .comma hmatch⟩
    | mark c hc => exact ⟨_, .mark hc hspells, .cons (.mark hc) hmatch⟩

/-! ## Tokens derive the type -/

open TypeExpr (IsType IsBase IsTail AreTypes AreArguments IsSuffix)
open TypeExpr.Conventions (wide)

/-- Tokens that match pieces in two parts are tokens in two parts. -/
theorem matches_append {tokens : List TypeToken} {ps qs : List Piece}
    (h : List.Forall₂ Matches tokens (ps ++ qs)) :
    ∃ left right, tokens = left ++ right ∧ List.Forall₂ Matches left ps ∧
      List.Forall₂ Matches right qs :=
  ⟨tokens.take ps.length, tokens.drop ps.length, (List.take_append_drop _ _).symm,
    List.forall₂_take_append _ _ _ h, List.forall₂_drop_append _ _ _ h⟩

theorem matches_mark {tokens : List TypeToken} {c : Char} {hc : TypeToken.isMark c = true}
    {ps : List Piece} (h : List.Forall₂ Matches tokens (.mark c hc :: ps)) :
    ∃ rest, tokens = .mark c :: rest ∧ List.Forall₂ Matches rest ps := by
  cases h with
  | cons hfirst hrest =>
    cases hfirst
    exact ⟨_, rfl, hrest⟩

theorem matches_commas {tokens : List TypeToken} {hc : TypeToken.isMark ',' = true} :
    ∀ {n : Nat}, List.Forall₂ Matches tokens (List.replicate n (.mark ',' hc)) →
      tokens = List.replicate n (.mark ',')
  | 0, h => by cases h; rfl
  | n + 1, h => by
    obtain ⟨rest, rfl, hrest⟩ := matches_mark h
    rw [matches_commas hrest]
    rfl

/-- Tokens that match a dotted name are a word and the segments behind it, none of which stands
behind a double colon. -/
theorem matches_dotted {last : TypeWord} : ∀ {lead : List TypeWord} {tokens : List TypeToken},
    List.Forall₂ Matches tokens (dotted lead last) →
      ∃ first blank dots tail, tokens = .word false first blank :: dots ∧ IsTail dots tail ∧
        (∀ segment ∈ tail.head?, segment.1 = false) ∧
        String.ofList first :: tail.map (·.2) = lead.map (·.1) ++ [last.1]
  | [], tokens, h => by
    obtain ⟨first, rest, hfirst, hrest, rfl⟩ := List.forall₂_cons_right_iff.1 h
    cases hrest
    cases hfirst with
    | @word blank =>
      refine ⟨last.1.toList, blank, [], [], rfl, .nil, ?_, ?_⟩
      · exact fun _ hmem => nomatch hmem
      · rw [String.ofList_toList]
        rfl
  | w :: lead, tokens, h => by
    obtain ⟨first, rest, hfirst, hrest, rfl⟩ := List.forall₂_cons_right_iff.1 h
    obtain ⟨behind, rfl, hbehind⟩ := matches_mark hrest
    obtain ⟨next, blank', dots, tail, rfl, htail, -, hsegments⟩ := matches_dotted hbehind
    -- Each word is followed by a point, so the segments behind it stand behind points too.
    cases hfirst with
    | @word blank =>
      refine ⟨w.1.toList, blank, _, _, rfl, .point htail, ?_, ?_⟩
      · rintro _ ⟨⟩
        rfl
      · rw [String.ofList_toList, List.map_cons, List.map_cons, List.cons_append, ← hsegments]

/-- Segments none of which stands behind a double colon are all kept. -/
theorem withoutAnchors_points {first : String} {tail : List (Bool × String)}
    (h : ∀ segment ∈ tail.head?, segment.1 = false) :
    TypeExpr.withoutAnchors first tail = first :: tail.map (·.2) := by
  cases tail with
  | nil => rfl
  | cons segment tail =>
    obtain ⟨colons, second⟩ := segment
    obtain rfl : colons = false := h _ rfl
    rfl

/-- Tokens that match what opens arguments, pieces and what closes them are the arguments that the
tokens in the middle are. -/
theorem areArguments_of_matches {s : Style} {tokens : List TypeToken} {ps : List Piece}
    {args : List TypeExpr}
    (h : List.Forall₂ Matches tokens (s.openArgs ++ (ps ++ [s.closeArgs])))
    (hps : ∀ inner, List.Forall₂ Matches inner ps → AreTypes wide inner args) :
    AreArguments wide tokens args := by
  obtain ⟨opening, rest, rfl, hopening, hrest⟩ := matches_append h
  obtain ⟨inner, closing, rfl, hinner, hclosing⟩ := matches_append hrest
  have htypes : AreTypes wide inner args := hps inner hinner
  -- The brackets are taken off on both sides; in round brackets a word stands before the arguments.
  cases s with
  | angled =>
    obtain ⟨_, rfl, hnil⟩ := matches_mark hopening
    obtain ⟨_, rfl, hnil'⟩ := matches_mark hclosing
    cases hnil
    cases hnil'
    exact .angle htypes
  | round =>
    obtain ⟨_, rfl, hword⟩ := matches_mark hopening
    obtain ⟨_, rfl, hnil'⟩ := matches_mark hclosing
    obtain ⟨word, _, hof, hnil, rfl⟩ := List.forall₂_cons_right_iff.1 hword
    cases hnil
    cases hnil'
    cases hof
    exact .round (by decide) htypes

/-- Tokens that match a rank are a suffix that makes an array. -/
theorem isSuffix_of_matches {s : Style} {tokens : List TypeToken} {commas : Nat} {t : TypeExpr}
    (h : List.Forall₂ Matches tokens
      (s.openRank :: (List.replicate commas (.mark ',') ++ [s.closeRank]))) :
    IsSuffix tokens t (.array t (commas + 1)) := by
  cases s with
  | angled =>
    obtain ⟨rest, rfl, hrest⟩ := matches_mark h
    obtain ⟨dims, closing, rfl, hdims, hclosing⟩ := matches_append hrest
    obtain ⟨_, rfl, hnil⟩ := matches_mark hclosing
    cases hnil
    rw [matches_commas hdims]
    exact .square commas
  | round =>
    obtain ⟨rest, rfl, hrest⟩ := matches_mark h
    obtain ⟨dims, closing, rfl, hdims, hclosing⟩ := matches_append hrest
    obtain ⟨_, rfl, hnil⟩ := matches_mark hclosing
    cases hnil
    rw [matches_commas hdims]
    exact .round commas

/-- Tokens that match the pieces of phrases, with commas between them, derive their types if the
tokens of each phrase derive its type. -/
theorem areTypes_of_matches {s : Style} : ∀ {t : TypePhrase} {ts : List TypePhrase}
    {tokens : List TypeToken},
    (∀ u ∈ t :: ts, ∀ tokens, List.Forall₂ Matches tokens (u.pieces s) →
      IsType wide tokens u.type) →
    List.Forall₂ Matches tokens ([.comma].intercalate (t.pieces s :: piecesAll s ts)) →
      AreTypes wide tokens (t.type :: typeAll ts)
  | t, [], tokens, hall, h => by
    rw [piecesAll, List.intercalate_singleton] at h
    exact .one (hall t List.mem_cons_self tokens h)
  | t, u :: ts, tokens, hall, h => by
    obtain ⟨ht, hts⟩ := List.forall_mem_cons.1 hall
    rw [piecesAll, List.intercalate_cons_cons, List.append_assoc] at h
    obtain ⟨left, right, rfl, hleft, hright⟩ := matches_append h
    obtain ⟨comma, rest, hcomma, hrest, rfl⟩ := List.forall₂_cons_right_iff.1 hright
    cases hcomma
    exact .more (ht left hleft) (areTypes_of_matches hts hrest)

/-- Tokens that match the pieces of a phrase derive its type. -/
theorem isType_of_matches {s : Style} {t : TypePhrase} {tokens : List TypeToken}
    (h : List.Forall₂ Matches tokens (t.pieces s)) : IsType wide tokens t.type := by
  induction t generalizing tokens with
  | name lead last args ih =>
    obtain ⟨named, arguments, rfl, hnamed, harguments⟩ := matches_append h
    obtain ⟨first, blank, dots, tail, rfl, htail, hpoints, hsegments⟩ := matches_dotted hnamed
    have hargs : AreArguments wide arguments (typeAll args) := by
      cases args with
      | nil =>
        cases harguments
        exact .none
      | cons arg args =>
        exact areArguments_of_matches harguments fun _ hinner =>
          areTypes_of_matches (fun u hu _ hmatch => ih u hu hmatch) hinner
    have hbase := @IsBase.named wide false blank first dots arguments tail _ htail hargs
    -- Points drop no anchors, so all segments of the phrase are in the name.
    have hkept : wide.segments (String.ofList first) tail = lead.map (·.1) ++ [last.1] :=
      (withoutAnchors_points hpoints).trans hsegments
    rw [hkept] at hbase
    have htype := IsType.suffixed hbase .nil
    rwa [List.append_nil] at htype
  | array element commas ih =>
    obtain ⟨inner, rank, rfl, hinner, hrank⟩ := matches_append h
    exact (ih hinner).suffix (isSuffix_of_matches hrank)
  | nullable inner ih =>
    obtain ⟨body, suffix, rfl, hbody, hsuffix⟩ := matches_append h
    obtain ⟨_, rfl, hnil⟩ := matches_mark hsuffix
    cases hnil
    exact (ih hbody).suffix .nullable
  | tuple first rest ihfirst ihrest =>
    obtain ⟨behind, rfl, hbehind⟩ := matches_mark h
    obtain ⟨items, closing, rfl, hitems, hclosing⟩ := matches_append hbehind
    obtain ⟨_, rfl, hnil⟩ := matches_mark hclosing
    cases hnil
    have hall : ∀ u ∈ first :: rest, ∀ tokens, List.Forall₂ Matches tokens (u.pieces s) →
        IsType wide tokens u.type :=
      List.forall_mem_cons.2 ⟨fun _ => ihfirst, fun u hu _ => ihrest u hu⟩
    have htypes : AreTypes wide items (first.type :: typeAll rest) :=
      areTypes_of_matches hall hitems
    have htype := IsType.suffixed (IsBase.tuple htypes.areElements) .nil
    rwa [List.append_nil] at htype

/-- A phrase is read as its type, in either style and however it is spread. -/
theorem parse?_of_spread {s : Style} {t : TypePhrase} {text : String}
    (h : Spread (t.pieces s) text.toList) : TypeExpr.parse? text = some t.type := by
  have hchain : (t.pieces s).IsChain Piece.May := by
    have hapart := apart_pieces s t [] (fun _ hmem => nomatch hmem) .nil
    rwa [List.append_nil] at hapart
  obtain ⟨tokens, hspells, hmatch⟩ := spells_of_spread h hchain
  exact TypeExpr.parse?_eq_some_iff.2 ⟨tokens, hspells, isType_of_matches hmatch⟩

/-! ## One text for each style -/

/-- The usual text of a phrase in a style: a blank stands behind commas and `Of`. -/
def text (s : Style) (t : TypePhrase) : List Char := (t.pieces s).flatMap Piece.spaced

/-- The usual text spreads its pieces. -/
theorem spread_spaced (ps : List Piece) : Spread ps (ps.flatMap Piece.spaced) := by
  induction ps with
  | nil => exact .nil
  | cons p ps ih =>
    rw [List.flatMap_cons]
    cases p with
    | word w => exact .piece (fun h => Piece.noConfusion h) ih
    | of => exact .piece (fun _ => rfl) (.blank rfl ih)
    | comma => exact .piece (fun h => Piece.noConfusion h) (.blank rfl ih)
    | mark c hc => exact .piece (fun h => Piece.noConfusion h) ih

/-- A phrase is read from its usual text in either style. -/
theorem parse?_text (s : Style) (t : TypePhrase) :
    TypeExpr.parse? (String.ofList (t.text s)) = some t.type := by
  refine parse?_of_spread (s := s) ?_
  rw [String.toList_ofList]
  exact spread_spaced (t.pieces s)

/-! ## The ends of a text -/

/-- The letters of a piece are no white space. -/
theorem isBlank_letters (p : Piece) : ∀ c ∈ p.letters, Text.isBlank c = false := by
  intro c hc
  cases p with
  | word w => exact TypeToken.isBlank_eq_false_of_isLetter (w.2.2 c hc)
  | of => exact TypeToken.isBlank_eq_false_of_isLetter (isLetter_of c hc)
  | comma =>
    rw [List.mem_singleton.1 hc]
    rfl
  | mark d hd =>
    rw [List.mem_singleton.1 hc]
    exact (TypeToken.isMark_facts hd).1

theorem letters_ne_nil (p : Piece) : p.letters ≠ [] := by
  cases p with
  | word w => exact w.2.1
  | of => exact List.cons_ne_nil _ _
  | comma => exact List.cons_ne_nil _ _
  | mark c hc => exact List.cons_ne_nil _ _

/-- A written phrase begins with a piece that no white space is put behind. -/
theorem exists_first_piece (s : Style) (t : TypePhrase) :
    ∃ p ps, t.pieces s = p :: ps ∧ p.spaced = p.letters := by
  induction t with
  | name lead last args ih =>
    cases lead with
    | nil => exact ⟨.word last, _, rfl, rfl⟩
    | cons w lead => exact ⟨.word w, _, rfl, rfl⟩
  | array element commas ih =>
    obtain ⟨p, ps, hpieces, hp⟩ := ih
    exact ⟨p, _, by rw [pieces, hpieces, List.cons_append], hp⟩
  | nullable inner ih =>
    obtain ⟨p, ps, hpieces, hp⟩ := ih
    exact ⟨p, _, by rw [pieces, hpieces, List.cons_append], hp⟩
  | tuple first rest ihfirst ihrest => exact ⟨.mark '(', _, rfl, rfl⟩

/-- It ends with such a piece. -/
theorem exists_last_piece (s : Style) (t : TypePhrase) :
    ∃ ps p, t.pieces s = ps ++ [p] ∧ p.spaced = p.letters := by
  cases t with
  | name lead last args =>
    cases args with
    | nil => exact ⟨_, .word last, List.append_nil _, rfl⟩
    | cons arg args =>
      refine ⟨dotted lead last ++ (s.openArgs ++ [.comma].intercalate (piecesAll s (arg :: args))),
        s.closeArgs, ?_, by cases s <;> rfl⟩
      rw [pieces, piecesAll, applied, List.append_assoc, List.append_assoc]
  | array element commas =>
    refine ⟨element.pieces s ++ s.openRank :: List.replicate commas (.mark ','), s.closeRank, ?_,
      by cases s <;> rfl⟩
    rw [pieces, List.append_assoc, List.cons_append]
  | nullable inner => exact ⟨inner.pieces s, .mark '?', rfl, rfl⟩
  | tuple first rest => exact ⟨_ :: _, .mark ')', rfl, rfl⟩

/-- The usual text of a phrase begins with no white space. -/
theorem exists_first_text (s : Style) (t : TypePhrase) :
    ∃ c ∈ (t.text s).head?, Text.isBlank c = false := by
  obtain ⟨p, ps, hpieces, hp⟩ := exists_first_piece s t
  obtain ⟨c, cs, hletters⟩ := List.exists_cons_of_ne_nil (letters_ne_nil p)
  rw [text, hpieces, List.flatMap_cons, hp, hletters]
  exact ⟨c, rfl, isBlank_letters p c (hletters ▸ List.mem_cons_self)⟩

/-- It ends with none. -/
theorem exists_last_text (s : Style) (t : TypePhrase) :
    ∃ c ∈ (t.text s).getLast?, Text.isBlank c = false := by
  obtain ⟨ps, p, hpieces, hp⟩ := exists_last_piece s t
  have hlast := List.getLast?_eq_some_getLast (letters_ne_nil p)
  rw [text, hpieces, List.flatMap_append, List.flatMap_singleton, hp,
    List.getLast?_append_of_ne_nil _ (letters_ne_nil p)]
  exact ⟨_, hlast, isBlank_letters p _ (List.getLast_mem _)⟩

theorem text_ne_nil (s : Style) (t : TypePhrase) : t.text s ≠ [] := by
  obtain ⟨c, hc, -⟩ := exists_first_text s t
  exact List.ne_nil_of_mem (List.mem_of_mem_head? hc)

theorem trim_text (s : Style) (t : TypePhrase) : Text.trim (t.text s) = t.text s := by
  obtain ⟨first, hfirst, hfirst'⟩ := exists_first_text s t
  obtain ⟨last, hlast, hlast'⟩ := exists_last_text s t
  exact Text.trim_eq_self (fun c hc => Option.mem_unique hfirst hc ▸ hfirst')
    (fun c hc => Option.mem_unique hlast hc ▸ hlast')

end TypePhrase

end ViewForge
