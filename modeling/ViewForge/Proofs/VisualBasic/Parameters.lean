import ViewForge.Proofs.Member.Renaming
import ViewForge.Proofs.Model.Reference
import ViewForge.Proofs.VisualBasic.Origin
import ViewForge.Proofs.VisualBasic.Reach
import ViewForge.Proofs.VisualBasic.TypeText
import ViewForge.Proofs.VisualBasic.Words

/-!
# Type parameters of Visual Basic types

The header of a generic type lists its type parameters behind `(Of`, with commas between them and
maybe a constraint behind each (`OpensGeneric`). The list is read up to the first closing
parenthesis (`typeHeader?_of_opensGeneric`) and cut at its commas, and what is cut off is the
parameter: its name with the constraint behind it. So a type is declared with the names of its
header exactly if none is constrained (`parameters_declared_iff`).

A type with simple constraints still takes as many arguments as its header lists parameters, but as
a base class it leaves every constrained parameter as it is (`TakesParameters`). That is so for
`Class Box(Of T As Class)`, the one parameter of which is `T As Class` (`constraint_kept`).
-/

namespace ViewForge.VisualBasic

/-! ## Lists of type parameters -/

/-- Whether neither commas nor parentheses stand in a text. -/
def Markless (cs : List Char) : Prop := ∀ c ∈ cs, c ≠ ',' ∧ c ≠ '(' ∧ c ≠ ')'

instance (cs : List Char) : Decidable (Markless cs) := List.decidableBAll _ cs

theorem IsBlanks.markless {cs : List Char} (h : IsBlanks cs) : Markless cs := by
  intro c hc
  have hblank := h c hc
  refine ⟨?_, ?_, ?_⟩ <;> rintro rfl <;> exact absurd hblank (by decide)

theorem markless_of_isWord {cs : List Char} (h : ∀ c ∈ cs, Text.isWord c = true) : Markless cs :=
  fun c hc => ⟨Text.ne_of_isWord (h c hc) (by decide), Text.ne_of_isWord (h c hc) (by decide),
    Text.ne_of_isWord (h c hc) (by decide)⟩

theorem Markless.append {cs ds : List Char} (h : Markless cs) (h' : Markless ds) :
    Markless (cs ++ ds) := List.forall_mem_append.2 ⟨h, h'⟩

/-- A type parameter as it is written in a list. -/
structure TypeParameter where
  /-- What stands before the name. -/
  before : List Char
  /-- The name. -/
  name : List Char
  /-- What stands between the name and the constraint or the end. -/
  behind : List Char
  /-- `As` and what the parameter must be, or nothing. -/
  constraint : List Char

namespace TypeParameter

/-- The text of a type parameter. -/
def text (p : TypeParameter) : List Char := p.before ++ (p.name ++ (p.behind ++ p.constraint))

/-- Whether a type parameter is written as the language asks for. -/
structure IsWritten (p : TypeParameter) : Prop where
  /-- White space stands before it. -/
  before : IsBlanks p.before
  /-- The name is made of word characters. -/
  letters : ∀ c ∈ p.name, Text.isWord c = true
  /-- The name is not empty. -/
  named : p.name ≠ []
  /-- White space stands behind the name. -/
  behind : IsBlanks p.behind
  /-- A constraint begins with `As`, with white space before it. -/
  constraint : p.constraint = [] ∨
    p.behind ≠ [] ∧ ∃ as more, p.constraint = as ++ more ∧ Spells "as" as

/-- Whether the constraint is one word or several, without a list in it. -/
def IsSimple (p : TypeParameter) : Prop := Markless p.constraint

variable {p : TypeParameter}

/-- Trimmed, the text begins with the name. -/
theorem IsWritten.trim_append (h : p.IsWritten) (rest : List Char) :
    Text.trim (p.before ++ (p.name ++ rest)) = p.name ++ Text.trimEnd rest := by
  refine Text.trim_append h.before ?_ ?_ rest
  · exact ⟨_, List.head?_eq_some_head h.named,
      Text.isBlank_eq_false_of_isWord (h.letters _ (List.head_mem h.named))⟩
  · exact ⟨_, List.getLast?_eq_some_getLast h.named,
      Text.isBlank_eq_false_of_isWord (h.letters _ (List.getLast_mem h.named))⟩

/-- Without a constraint the trimmed text is the name. -/
theorem IsWritten.trim_text (h : p.IsWritten) (hnone : p.constraint = []) :
    Text.trim p.text = p.name := by
  rw [text, h.trim_append, hnone, List.append_nil, Text.trimEnd_eq_nil h.behind, List.append_nil]

/-- With `As` behind it, what is trimmed is more than the name. -/
theorem IsWritten.trim_ne_name (h : p.IsWritten) {as : List Char} (has : Spells "as" as)
    (more : List Char) :
    Text.trim (p.before ++ (p.name ++ (p.behind ++ (as ++ more)))) ≠ p.name := by
  obtain ⟨c, hc, hword⟩ : ∃ c ∈ as.getLast?, Text.isWord c = true := by
    have hlast : (as.map foldLetter).getLast? = some 's' := by
      rw [show as.map foldLetter = "as".toList from has]
      rfl
    rw [List.getLast?_map] at hlast
    obtain ⟨c, hc, hfold⟩ := Option.map_eq_some_iff.1 hlast
    exact ⟨c, hc, by rw [← isWord_foldLetter, hfold]; decide⟩
  have hsome : as ≠ [] := List.ne_nil_of_mem (List.mem_of_getLast? hc)
  have hend : ∃ c ∈ (p.behind ++ as).getLast?, Text.isBlank c = false :=
    ⟨c, by rwa [List.getLast?_append_of_ne_nil _ hsome], Text.isBlank_eq_false_of_isWord hword⟩
  rw [h.trim_append, ← List.append_assoc, Text.trimEnd_append hend]
  simp [hsome]

/-- The name is what the trimmed text begins with. -/
theorem IsWritten.takeWhile_trim (h : p.IsWritten) :
    (Text.trim p.text).takeWhile Text.isWord = p.name := by
  rw [text, h.trim_append]
  refine (Text.span_append h.letters fun c hc => ?_).1
  obtain ⟨rest, hrest⟩ := Text.trimEnd_prefix (p.behind ++ p.constraint)
  cases hbehind : p.behind with
  | nil =>
    -- Without white space there is no constraint.
    have hnone : p.constraint = [] := h.constraint.resolve_right fun hsome => hsome.1 hbehind
    rw [hbehind, hnone] at hc
    exact nomatch hc
  | cons d behind =>
    have hblank : Text.isBlank d = true := h.behind d (hbehind ▸ List.mem_cons_self)
    obtain ⟨more, hmore⟩ := List.head?_eq_some_iff.1 hc
    rw [hmore, hbehind] at hrest
    rw [(List.cons.inj hrest).1]
    exact Text.isWord_eq_false_of_isBlank hblank

theorem IsWritten.trim_text_eq_name_iff (h : p.IsWritten) :
    Text.trim p.text = p.name ↔ p.constraint = [] := by
  refine ⟨fun heq => ?_, h.trim_text⟩
  rcases h.constraint with hnone | ⟨-, as, more, hsome, has⟩
  · exact hnone
  · rw [text, hsome] at heq
    exact absurd heq (h.trim_ne_name has more)

end TypeParameter

/-- The text of a list of type parameters. -/
def listText (ps : List TypeParameter) : List Char := [','].intercalate (ps.map (·.text))

/-- What is read of a list of type parameters that is closed with a parenthesis. -/
def listRead (ps : List TypeParameter) (rest : List Char) : List Char :=
  (listText ps ++ ')' :: rest).takeWhile (· != ')')

/-- Behind a type parameter come the end of the list or a comma and the others. -/
theorem listText_cons (p : TypeParameter) (ps : List TypeParameter) (rest : List Char) :
    listText (p :: ps) ++ ')' :: rest =
      p.text ++ if ps.isEmpty then ')' :: rest else ',' :: (listText ps ++ ')' :: rest) := by
  cases ps with
  | nil =>
    rw [listText, List.map_cons, List.map_nil, List.intercalate_singleton]
    rfl
  | cons q qs =>
    rw [listText, List.map_cons, List.map_cons, List.intercalate_cons_cons, List.append_assoc,
      List.append_assoc]
    rfl

/-- What stands before a comma that is not in parentheses is the first text of a list. -/
theorem splitList_append_comma {t : List Char} (ht : Unsplit 0 t) (hsome : Text.trim t ≠ [])
    (rest : List Char) : splitList (t ++ ',' :: rest) = Text.trim t :: splitList rest := by
  have hpieces : piecesFrom 0 [] (t ++ ',' :: rest) = t :: piecesFrom 0 [] rest := by
    rw [ht 0 [] _ (Nat.le_refl 0), piecesFrom, List.append_nil, List.reverse_reverse]
    rfl
  rw [splitList, hpieces, List.map_cons, List.filter_cons_of_pos (by simp [hsome])]
  rfl

/-- A text without commas outside parentheses is the only one of its list. -/
theorem splitList_of_unsplit {t : List Char} (ht : Unsplit 0 t) (hsome : Text.trim t ≠ []) :
    splitList t = [Text.trim t] := by
  have hpieces := ht 0 [] [] (Nat.le_refl 0)
  rw [List.append_nil, List.append_nil, piecesFrom, List.reverse_reverse] at hpieces
  rw [splitList, hpieces, List.map_cons, List.map_nil, List.filter_cons_of_pos (by simp [hsome]),
    List.filter_nil]

/-- The first piece of a list begins as the list does. -/
theorem exists_piecesFrom_append (depth : Nat) (piece cs : List Char) :
    ∃ more pieces, piecesFrom depth piece cs = (piece.reverse ++ more) :: pieces := by
  induction cs generalizing depth piece with
  | nil => exact ⟨[], [], by rw [piecesFrom, List.append_nil]⟩
  | cons c cs ih =>
    rw [piecesFrom]
    split
    · exact ⟨[], _, by rw [List.append_nil]⟩
    · obtain ⟨more, pieces, h⟩ := ih _ (c :: piece)
      exact ⟨c :: more, pieces, by rw [h, List.reverse_cons, List.append_assoc]; rfl⟩

/-- A simple type parameter is cut off as it is written. -/
theorem splitList_listRead_cons {p : TypeParameter} (h : p.IsWritten) (hsimple : p.IsSimple)
    (ps : List TypeParameter) (rest : List Char) :
    splitList (listRead (p :: ps) rest) = Text.trim p.text :: splitList (listRead ps rest) := by
  -- Neither a comma nor a parenthesis is in the text, so the next comma is the list's own.
  have hplain : Markless p.text := h.before.markless.append
    ((markless_of_isWord h.letters).append (h.behind.markless.append hsimple))
  have hunsplit : Unsplit 0 p.text := unsplit_of_forall hplain
  have hsome : Text.trim p.text ≠ [] := by
    rw [TypeParameter.text, h.trim_append]
    exact List.append_ne_nil_of_left_ne_nil h.named _
  have hread : ∀ c ∈ p.text, (c != ')') = true := fun c hc => bne_iff_ne.2 (hplain c hc).2.2
  unfold listRead
  rw [listText_cons, List.takeWhile_append_of_pos hread]
  cases ps with
  | nil =>
    show splitList (p.text ++ []) = Text.trim p.text :: splitList []
    rw [List.append_nil, splitList_of_unsplit hunsplit hsome]
    rfl
  | cons q qs => exact splitList_append_comma hunsplit hsome _

/-- The first text of a list whose first type parameter is constrained is not the name of this:
wherever the text is cut off, it goes on with `As`. -/
theorem exists_splitList_listRead {p : TypeParameter} (h : p.IsWritten) {as more : List Char}
    (hconstraint : p.constraint = as ++ more) (has : Spells "as" as) (ps : List TypeParameter)
    (rest : List Char) : ∃ t ts, splitList (listRead (p :: ps) rest) = t :: ts ∧ t ≠ p.name := by
  -- The text up to `As` has no comma and no parenthesis: it stands whole in the first piece.
  let lead := p.before ++ (p.name ++ (p.behind ++ as))
  have hlead : Markless lead := h.before.markless.append
    ((markless_of_isWord h.letters).append (h.behind.markless.append
      (markless_of_isWord (has.isWord (List.all_eq_true.1 (by decide))))))
  have hread : ∃ behind, listRead (p :: ps) rest = lead ++ behind := by
    have htext : p.text = lead ++ more := by
      simp only [TypeParameter.text, hconstraint, lead, List.append_assoc]
    unfold listRead
    rw [listText_cons, htext, List.append_assoc, List.takeWhile_append_of_pos]
    · exact ⟨_, rfl⟩
    · exact fun c hc => bne_iff_ne.2 (hlead c hc).2.2
  obtain ⟨behind, hread⟩ := hread
  obtain ⟨further, pieces, hfirst⟩ := exists_piecesFrom_append 0 (lead.reverse ++ []) behind
  have hpieces := unsplit_of_forall hlead 0 [] behind (Nat.le_refl 0)
  rw [hfirst, List.append_nil, List.reverse_reverse] at hpieces
  have htrim : Text.trim (lead ++ further) =
      Text.trim (p.before ++ (p.name ++ (p.behind ++ (as ++ further)))) := by
    simp only [lead, List.append_assoc]
  have hsome : Text.trim (lead ++ further) ≠ [] := by
    rw [htrim, h.trim_append]
    exact List.append_ne_nil_of_left_ne_nil h.named _
  have hsplit : splitList (listRead (p :: ps) rest) =
      Text.trim (lead ++ further) :: (pieces.map Text.trim).filter (!·.isEmpty) := by
    rw [hread, splitList, hpieces, List.map_cons, List.filter_cons_of_pos (by simp [hsome])]
  refine ⟨_, _, hsplit, ?_⟩
  rw [htrim]
  exact h.trim_ne_name has further

/-- A list of type parameters is read as their names exactly if none is constrained. -/
theorem splitList_listRead_iff {ps : List TypeParameter} (h : ∀ p ∈ ps, p.IsWritten)
    (rest : List Char) :
    splitList (listRead ps rest) = ps.map (·.name) ↔ ∀ p ∈ ps, p.constraint = [] := by
  induction ps with
  | nil => exact iff_of_true rfl (List.forall_mem_nil _)
  | cons p ps ih =>
    obtain ⟨hp, hps⟩ := List.forall_mem_cons.1 h
    rw [List.map_cons, List.forall_mem_cons]
    -- A parameter that is not constrained is read as its name. A constrained one is not, whatever
    -- becomes of those behind it.
    rcases hp.constraint with hnone | ⟨-, as, more, hconstraint, has⟩
    · have hsimple : p.IsSimple := by
        unfold TypeParameter.IsSimple
        rw [hnone]
        exact List.forall_mem_nil _
      rw [splitList_listRead_cons hp hsimple, hp.trim_text hnone, List.cons_inj_right, ih hps,
        and_iff_right hnone]
    · obtain ⟨t, ts, hsplit, hne⟩ := exists_splitList_listRead hp hconstraint has ps rest
      rw [hsplit]
      refine iff_of_false (fun heq => hne (List.cons.inj heq).1) fun ⟨hnone, _⟩ => ?_
      rw [hnone] at hconstraint
      rw [(List.append_eq_nil_iff.1 hconstraint.symm).1] at has
      exact absurd has (by unfold Spells; decide)

/-- A list of simple type parameters is read as their trimmed texts. -/
theorem splitList_listRead {ps : List TypeParameter} (h : ∀ p ∈ ps, p.IsWritten)
    (hsimple : ∀ p ∈ ps, p.IsSimple) (rest : List Char) :
    splitList (listRead ps rest) = ps.map fun p => Text.trim p.text := by
  induction ps with
  | nil => rfl
  | cons p ps ih =>
    obtain ⟨hp, hps⟩ := List.forall_mem_cons.1 h
    obtain ⟨hpsimple, hsimple⟩ := List.forall_mem_cons.1 hsimple
    rw [splitList_listRead_cons hp hpsimple, ih hps hsimple, List.map_cons]

/-! ## Headers of generic types -/

/-- A text behind the name of a type lists type parameters: `(Of`, the list and a closing
parenthesis, in any letter case and with white space between them. -/
structure ListsParameters (ps : List TypeParameter) (rest tail : List Char) : Prop where
  /-- There is a type parameter. -/
  some : ps ≠ []
  /-- The type parameters are written as the language asks for. -/
  written : ∀ p ∈ ps, p.IsWritten
  /-- The white space behind `Of` ends where the first begins. -/
  first : ∀ p ∈ ps.head?, p.before = []
  /-- The parts stand one after the other. -/
  parts : ∃ gap gap' of gap'', IsBlanks gap ∧ IsBlanks gap' ∧ IsBlanks gap'' ∧ gap'' ≠ [] ∧
    Spells "of" of ∧
    tail = gap ++ '(' :: (gap' ++ (of ++ (gap'' ++ (listText ps ++ ')' :: rest))))

/-- The list behind the name of a type is read. -/
theorem typeParameterText?_of_lists {ps : List TypeParameter} {rest tail : List Char}
    (h : ListsParameters ps rest tail) : typeParameterText? tail = some (listRead ps rest) := by
  obtain ⟨gap, gap', of, gap'', hgap, hgap', hgap'', hsome, hof, rfl⟩ := h.parts
  obtain ⟨p, ps, rfl⟩ := List.exists_cons_of_ne_nil h.some
  have hp := h.written p List.mem_cons_self
  -- Blanks are passed over before `(`, before `Of` and before the first name, which are not blank.
  have hlist : ∀ c ∈ (listText (p :: ps) ++ ')' :: rest).head?, Text.isBlank c = false := by
    have hname : ∀ c ∈ p.name.head?, Text.isBlank c = false := fun c hc =>
      Text.isBlank_eq_false_of_isWord (hp.letters c (List.mem_of_mem_head? hc))
    rw [listText_cons, TypeParameter.text, h.first p rfl, List.nil_append, List.append_assoc,
      List.head?_append_of_ne_nil _ hp.named]
    exact hname
  have hword : ∀ c ∈ (of ++ (gap'' ++ (listText (p :: ps) ++ ')' :: rest))).head?,
      Text.isBlank c = false := by
    obtain ⟨c, hc, hblank⟩ := ((hof.startsWord (by decide)).append _).isBlank
    exact fun d hd => Option.mem_unique hc hd ▸ hblank
  have hopening : ∀ c ∈ ('(' :: (gap' ++ (of ++ (gap'' ++
      (listText (p :: ps) ++ ')' :: rest))))).head?, Text.isBlank c = false := by
    rintro _ ⟨⟩
    decide
  unfold typeParameterText? afterWord?
  rw [trimStart_append hgap hopening]
  simp only [trimStart_append hgap' hword, afterLetters?_append hof]
  simp only [Option.bind_some, afterBlanks?_append hgap'' hsome hlist, Option.bind_eq_bind]
  rw [if_pos (List.contains_iff_mem.2 (List.mem_append_right _ List.mem_cons_self))]
  rfl

/-- A text opens a generic type: words before it, a word for the type, its name and its type
parameters, in any letter case and with white space between them. -/
structure OpensGeneric (text word name : List Char) (ps : List TypeParameter) : Prop where
  /-- It is a class or another type. -/
  isType : ∃ w ∈ typeWords, Spells w word
  /-- The name is made of word characters. -/
  letters : ∀ c ∈ name, Text.isWord c = true
  /-- The name is not empty. -/
  named : name ≠ []
  /-- The parts stand one after the other. -/
  parts : ∃ mods gap rest tail, IsBlanks gap ∧ gap ≠ [] ∧ ListsParameters ps rest tail ∧
    WordsBefore typeModifiers mods (Text.trimStart text) (word ++ (gap ++ (name ++ tail)))

/-- A declaration without attributes is read behind the white space before it. -/
theorem behindAttributes?_of_startsWord {α : Type} (read : List Char → Option α) {cs : List Char}
    (h : StartsWord (Text.trimStart cs)) :
    behindAttributes? read cs = read (Text.trimStart cs) := by
  have hattributes : afterAttributes cs = afterAttributes (Text.trimStart cs) := by
    unfold afterAttributes
    rw [trimStart_eq_self h.isBlank]
  rw [behindAttributes?, hattributes]
  exact behindAttributes?_eq_self read h

/-- The header of a generic type is read with the list of its type parameters. -/
theorem typeHeader?_of_opensGeneric {text word name : List Char} {ps : List TypeParameter}
    (h : OpensGeneric text word name ps) :
    ∃ rest, typeHeader? text = some ⟨word, name, some (listRead ps rest)⟩ := by
  obtain ⟨mods, gap, rest, tail, hgap, hsome, hlist, hwords⟩ := h.parts
  obtain ⟨w, hw, hword⟩ := h.isType
  have hfree : PrefixFree typeModifiers := by unfold PrefixFree; decide
  have hlong : ∀ w ∈ typeModifiers, w ≠ "" ∧ startsWord w = true := by decide
  have hapart : ∀ w ∈ typeWords, startsWord w = true ∧ ∀ v ∈ typeModifiers,
      ¬ v.toList <+: w.toList ∧ ¬ w.toList <+: v.toList := by
    decide
  have htypes : PrefixFree typeWords := by unfold PrefixFree; decide
  obtain ⟨hstarts, hnone⟩ := hapart w hw
  have hline : StartsWord (Text.trimStart text) :=
    hwords.startsWord (fun v hv => (hlong v hv).2) ((hword.startsWord hstarts).append _)
  have hmods := modifiers_of_wordsBefore hfree (fun v hv => (hlong v hv).1) hwords
    (anyWord?_append_eq_none hword hnone _)
  have hname : ∀ c ∈ (name ++ tail).head?, Text.isBlank c = false := by
    rw [List.head?_append_of_ne_nil _ h.named]
    exact fun c hc => Text.isBlank_eq_false_of_isWord (h.letters c (List.mem_of_mem_head? hc))
  -- A name ends where the list begins, at a blank or at its parenthesis.
  have htail : ∀ c ∈ tail.head?, Text.isWord c = false := by
    obtain ⟨before, gap', of, gap'', hbefore, -, -, -, -, rfl⟩ := hlist.parts
    cases before with
    | nil =>
      rintro _ ⟨⟩
      decide
    | cons c before =>
      rintro _ ⟨⟩
      exact Text.isWord_eq_false_of_isBlank (hbefore c List.mem_cons_self)
  refine ⟨rest, ?_⟩
  rw [typeHeader?, behindAttributes?_of_startsWord _ hline, hmods]
  simp only [anyWord?_append htypes hw hword, Option.bind_eq_bind, Option.bind_some,
    afterBlanks?_append hgap hsome hname, name?_append h.letters h.named htail,
    typeParameterText?_of_lists hlist, hword.length_eq, List.take_left]
  rfl

/-! ## What generic types mean -/

/-- The name of a type parameter. -/
def TypeParameter.label (p : TypeParameter) : String := String.ofList p.name

/-- The text of a type parameter as it is read if no list stands in its constraint. -/
def TypeParameter.shown (p : TypeParameter) : String := String.ofList (Text.trim p.text)

/-- A type takes part in references, and stands for what it is given as a base class, by a list of
type parameters: by all of them in number, and by those that are not constrained in name. -/
structure TakesParameters (t : TypeDecl) (ps : List TypeParameter) : Prop where
  /-- There are as many parameters. -/
  arity : t.arity = ps.length
  /-- References with as many arguments mean the type, if it is the only one of its name and
  arity. -/
  resolves : ∀ {m : Model}, t ∈ m.types →
    (∀ u ∈ m.types, Catalog.sameName u.name t.name = true → u.arity = t.arity → u = t) →
    ∀ (qualifier : Option String) (args : List TypeExpr) (context : Option TypeDecl),
      m.resolve (.named qualifier t.name args) context = some t ↔ args.length = ps.length
  /-- As a base class, the type shows a property of the type of a parameter with the argument for
  this parameter, or as it is declared if the parameter is constrained. -/
  binds : ∀ {m : Model} {d : TypeDecl} {b : Bindings} {reference : TypeExpr},
    Member.base? m d b = some (t, reference) →
    ∀ (i : Nat) (p : TypeParameter), ps[i]? = some p → ∃ arg, reference.args[i]? = some arg ∧
      ∀ q : Property, q.type? = some (.bare p.label) →
        Member.bind (t.parameters.zip reference.args) q =
          if p.constraint = [] ∧ arg ≠ .bare p.label then { q with typeText := arg.render } else q

section Simple

variable {ps : List TypeParameter} (hwritten : ∀ p ∈ ps, p.IsWritten)
  (hnodup : (ps.map (·.name)).Nodup)

include hwritten hnodup

/-- Type parameters with different names are shown differently. -/
theorem nodup_shown : (ps.map (·.shown)).Nodup := by
  refine List.Nodup.of_map (fun s => s.toList.takeWhile Text.isWord) ?_
  rw [List.map_map]
  have hnames : ps.map ((fun s : String => s.toList.takeWhile Text.isWord) ∘ (·.shown)) =
      ps.map (·.name) := by
    refine List.map_congr_left fun p hp => ?_
    show (String.ofList (Text.trim p.text)).toList.takeWhile Text.isWord = p.name
    rw [String.toList_ofList, (hwritten p hp).takeWhile_trim]
  rwa [hnames]

/-- The name of a constrained type parameter is shown by none. -/
theorem label_not_mem_shown {p : TypeParameter} (hp : p ∈ ps) (hsome : p.constraint ≠ []) :
    p.label ∉ ps.map (·.shown) := by
  intro hmem
  obtain ⟨q, hq, hshown⟩ := List.mem_map.1 hmem
  have htext : Text.trim q.text = p.name := String.ofList_inj.1 hshown
  have hname : q.name = p.name := by
    have hcut := congrArg (List.takeWhile Text.isWord) htext
    rwa [(hwritten q hq).takeWhile_trim,
      List.takeWhile_eq_self_iff.2 (hwritten p hp).letters] at hcut
  obtain rfl : q = p := List.inj_on_of_nodup_map hnodup hq hp hname
  exact hsome ((hwritten q hq).trim_text_eq_name_iff.1 htext)

/-- A type with simple type parameters takes part by them. -/
theorem takesParameters_of_shown {t : TypeDecl} (ht : t.parameters = ps.map (·.shown)) :
    TakesParameters t ps where
  arity := by rw [TypeDecl.arity, ht, List.length_map]
  resolves hmem halone qualifier args context := by
    rw [Model.resolve_eq_some_iff_of_alone hmem halone, TypeDecl.arity, ht, List.length_map]
  binds {m d b reference} hbase i p hi := by
    obtain ⟨-, -, -, hresolve⟩ := Member.exists_of_baseIn? hbase
    have hlength : reference.args.length = ps.length := by
      rw [← Model.arity_of_resolve hresolve, TypeDecl.arity, ht, List.length_map]
    have hlt : i < ps.length := (List.getElem?_eq_some_iff.1 hi).1
    obtain ⟨arg, harg⟩ : ∃ arg, reference.args[i]? = some arg :=
      ⟨_, List.getElem?_eq_getElem (hlength ▸ hlt)⟩
    refine ⟨arg, harg, fun q hq => ?_⟩
    have hkeys : ((t.parameters.zip reference.args).map (·.1)) = ps.map (·.shown) := by
      rw [Bindings.map_fst_zip (by rw [ht, List.length_map, hlength]), ht]
    have hbind : Member.bind (t.parameters.zip reference.args) q =
        let seen := ((Bindings.lookup? (t.parameters.zip reference.args) p.label).getD
          (.bare p.label))
        if seen = .bare p.label then q else { q with typeText := seen.render } := by
      unfold Member.bind
      rw [hq]
      rfl
    rw [hbind]
    by_cases hnone : p.constraint = []
    · -- The parameter is shown by its name, so it is bound.
      have hshown : p.shown = p.label :=
        congrArg String.ofList ((hwritten p (List.mem_of_getElem? hi)).trim_text hnone)
      have hentry : (p.label, arg) ∈ t.parameters.zip reference.args := by
        refine List.mem_of_getElem? (i := i) ?_
        rw [List.getElem?_zip_eq_some, ht, List.getElem?_map, hi, Option.map_some, hshown]
        exact ⟨rfl, harg⟩
      have hfound := Bindings.lookup?_eq_some_of_mem
        (hkeys.symm ▸ nodup_shown hwritten hnodup) hentry
      rw [hfound, Option.getD_some]
      simp [hnone]
    · have hfree : Bindings.lookup? (t.parameters.zip reference.args) p.label = none := by
        rw [Bindings.lookup?_eq_none_iff, hkeys]
        exact label_not_mem_shown hwritten hnodup (List.mem_of_getElem? hi) hnone
      rw [hfree, Option.getD_none]
      simp [hnone]

end Simple

/-! ## Documents -/

/-- A line that opens a generic type begins one of the outline, unless a member covers it. The type
parameters of a type that begins there are those of the header exactly if none of these is
constrained. If no list stands in a constraint, there are still as many, and references with as many
arguments mean the type; but of the parameters only those that are not constrained are bound. -/
theorem parameters_declared_iff {source : List Char} {line : Line} (hline : line ∈ lines source)
    {word name : List Char} {ps : List TypeParameter}
    (h : OpensGeneric (code line.text) word name ps) (hnodup : (ps.map (·.name)).Nodup) :
    (∃ t ∈ (outline source).types, Accounts t line) ∧
      ∀ t ∈ (outline source).types, t.span.start = line.span.start →
        t.decl.name = String.ofList name ∧ t.decl.kind = kindOf word ∧
          (t.decl.parameters = ps.map (·.label) ↔ ∀ p ∈ ps, p.constraint = []) ∧
          ((∀ p ∈ ps, p.IsSimple) → ∀ s : TypeDecl, s.parameters = t.decl.parameters →
            TakesParameters s ps) := by
  obtain ⟨rest, hheader⟩ := typeHeader?_of_opensGeneric h
  obtain ⟨_, _, _, _, _, _, hlist, _⟩ := h.parts
  have hwritten := hlist.written
  refine ⟨exists_accounts source hline (by rw [hheader]; rfl), fun t ht hstart => ?_⟩
  have hdeclared := declaredBy_of_start hline hheader t ht hstart
  have hparameters : t.decl.parameters = (splitList (listRead ps rest)).map String.ofList :=
    hdeclared.parameters
  -- Labels are names as strings, so they are compared as names.
  refine ⟨hdeclared.name, hdeclared.kind, ?_, fun hsimple s hs => ?_⟩
  · have hlabels : ps.map (·.label) = (ps.map (·.name)).map String.ofList := by
      rw [List.map_map]
      rfl
    rw [hparameters, hlabels, List.map_inj_right fun _ _ => String.ofList_inj.1,
      splitList_listRead_iff hwritten]
  · refine takesParameters_of_shown hwritten hnodup ?_
    rw [hs, hparameters, splitList_listRead hwritten hsimple, List.map_map]
    rfl

/-! ## Classes -/

/-- A class that is written with single spaces opens a generic type. -/
theorem opensGeneric_class {name : List Char} (hletters : ∀ c ∈ name, Text.isWord c = true)
    (hname : name ≠ []) {ps : List TypeParameter} (hsome : ps ≠ [])
    (hwritten : ∀ p ∈ ps, p.IsWritten) (hfirst : ∀ p ∈ ps.head?, p.before = []) :
    OpensGeneric ("Class ".toList ++ (name ++ ("(Of ".toList ++ (listText ps ++ [')']))))
      "Class".toList name ps := by
  have hspace : IsBlanks [' '] := by decide
  have hnone : IsBlanks [] := fun _ hc => nomatch hc
  refine ⟨⟨"class", by decide, by unfold Spells; decide⟩, hletters, hname, [], [' '], [],
    "(Of ".toList ++ (listText ps ++ [')']), hspace, List.cons_ne_nil _ _,
    ⟨hsome, hwritten, hfirst, [], [], "Of".toList, [' '], hnone, hnone, hspace,
      List.cons_ne_nil _ _, by unfold Spells; decide, rfl⟩, ?_⟩
  exact .nil _

/-- A type parameter of one letter that must be a class. -/
def asClass (before : List Char) (letter : Char) : TypeParameter :=
  ⟨before, [letter], [' '], "As Class".toList⟩

theorem isWritten_asClass {before : List Char} (hbefore : IsBlanks before) {letter : Char}
    (hletter : Text.isWord letter = true) : (asClass before letter).IsWritten where
  before := hbefore
  letters := List.forall_mem_singleton.2 hletter
  named := List.cons_ne_nil _ _
  behind := List.forall_mem_singleton.2 (by decide)
  constraint := .inr ⟨List.cons_ne_nil _ _, "As".toList, " Class".toList, rfl,
    by unfold Spells; decide⟩

/-- A class with two type parameters, of which one is constrained. -/
def entries : List Char :=
  "Class Entry(Of K, V As Class)\nProperty Key As K\nProperty Value As V\nEnd Class".toList

/-- The line that opens the class. -/
def entryLine : Line := ⟨"Class Entry(Of K, V As Class)".toList, 0, 29⟩

/-- Its type parameters. -/
def entryParameters : List TypeParameter :=
  [⟨[], ['K'], [], []⟩, asClass [' '] 'V']

/-- The class as it is declared. -/
def entryClass : DeclaredType where
  decl :=
    { name := "Entry", kind := .class, ignoresCase := true, parameters := ["K", "V As Class"]
      properties := [{ name := "Key", typeText := "K" }, { name := "Value", typeText := "V" }] }
  span := ⟨0, 77⟩
  propertySpans := [⟨30, 47⟩, ⟨48, 67⟩]

/-- A class with a constrained type parameter is declared with another list, but takes as many
arguments and binds the other parameter. -/
theorem parameters_declared_iff_entry :
    entryLine ∈ lines entries ∧
      OpensGeneric (code entryLine.text) "Class".toList "Entry".toList entryParameters ∧
      (entryParameters.map (·.name)).Nodup ∧ outline entries = ⟨[entryClass]⟩ ∧
      entryClass.decl.parameters ≠ entryParameters.map (·.label) ∧
      TakesParameters entryClass.decl entryParameters := by
  have hline : entryLine ∈ lines entries := by decide +kernel
  have houtline : outline entries = ⟨[entryClass]⟩ := by decide +kernel
  have hblanks : IsBlanks [] ∧ IsBlanks [' '] := by decide
  have hwritten : ∀ p ∈ entryParameters, p.IsWritten := by
    refine List.forall_mem_cons.2 ⟨?_, List.forall_mem_singleton.2 ?_⟩
    · exact ⟨hblanks.1, List.all_eq_true.1 (by decide), by decide, hblanks.1, .inl rfl⟩
    · exact isWritten_asClass hblanks.2 (by decide)
  have hopens : OpensGeneric (code entryLine.text) "Class".toList "Entry".toList
      entryParameters := by
    have hcode : code entryLine.text = "Class ".toList ++ ("Entry".toList ++
        ("(Of ".toList ++ (listText entryParameters ++ [')']))) := by
      decide +kernel
    rw [hcode]
    exact opensGeneric_class (List.all_eq_true.1 (by decide)) (by decide)
      (List.cons_ne_nil _ _) hwritten (by rintro _ ⟨⟩; rfl)
  have hnodup : (entryParameters.map (·.name)).Nodup := by decide
  have hsimple : ∀ p ∈ entryParameters, p.IsSimple := by
    unfold TypeParameter.IsSimple
    decide
  obtain ⟨-, hdeclared⟩ := parameters_declared_iff hline hopens hnodup
  obtain ⟨-, -, -, htakes⟩ := hdeclared entryClass (houtline ▸ List.mem_singleton.2 rfl) rfl
  exact ⟨hline, hopens, hnodup, houtline, by decide, htakes hsimple entryClass.decl rfl⟩

/-- A class whose one type parameter is constrained. -/
def box : List Char := "Class Box(Of T As Class)\nProperty Item As T\nEnd Class".toList

/-- The class as it is declared. -/
def boxClass : DeclaredType where
  decl :=
    { name := "Box", kind := .class, ignoresCase := true, parameters := ["T As Class"]
      properties := [{ name := "Item", typeText := "T" }] }
  span := ⟨0, 53⟩
  propertySpans := [⟨25, 43⟩]

/-- A constraint is kept as a part of the name. -/
theorem constraint_kept :
    OpensGeneric (code "Class Box(Of T As Class)".toList) "Class".toList "Box".toList
        [asClass [] 'T'] ∧
      outline box = ⟨[boxClass]⟩ ∧ boxClass.decl.parameters ≠ [asClass [] 'T'].map (·.label) := by
  refine ⟨?_, by decide +kernel, by decide⟩
  have hcode : code "Class Box(Of T As Class)".toList = "Class ".toList ++ ("Box".toList ++
      ("(Of ".toList ++ (listText [asClass [] 'T'] ++ [')']))) := by
    decide +kernel
  have hnone : IsBlanks [] := fun _ hc => nomatch hc
  have hwritten : (asClass [] 'T').IsWritten := isWritten_asClass hnone (by decide)
  rw [hcode]
  exact opensGeneric_class (List.all_eq_true.1 (by decide)) (by decide) (List.cons_ne_nil _ _)
    (List.forall_mem_singleton.2 hwritten) (by rintro _ ⟨⟩; rfl)

end ViewForge.VisualBasic
