import ViewForge.Proofs.Member.Inheritance
import ViewForge.Proofs.Member.Shadowing
import ViewForge.Proofs.TypeExpr.Derivation

/-!
# Members of nullable types

A question mark behind the text of a type makes the type nullable (`parse?_question`), and that is
all it does to a member: what the type is for generation is asked of the type without its marks, so
only the type and its text change (`ofProperty_question`). A pattern that fits a type that is not
nullable fits it with the mark too, and the patterns that are gained are those for nullable types
(`fits_nullable_iff`). So a rule is found for the nullable member at the latest where one is found
for the other (`nullable_widens`).
-/

namespace ViewForge

/-! ## A question mark behind a type -/

namespace TypeToken

/-- A mark behind a text is one token more: it goes on no word. -/
theorem Spells.append_mark {c : Char} (hc : isMark c = true) {cs : List Char}
    {tokens : List TypeToken} (h : Spells cs tokens) :
    Spells (cs ++ [c]) (tokens ++ [.mark c]) := by
  obtain ⟨hblank, hletter, -, -⟩ := isMark_facts hc
  -- The mark is neither a blank nor a letter, so it neither splits nor lengthens the last word.
  have hnext (cs : List Char) : blankNext (cs ++ [c]) = blankNext cs := by
    cases cs with
    | nil => exact hblank
    | cons => rfl
  have hends {cs : List Char} (h : EndsWord cs) : EndsWord (cs ++ [c]) := by
    cases cs with
    | nil =>
      rintro d hd
      rwa [← Option.some.inj hd]
    | cons => exact h
  induction h with
  | nil => exact .mark hc .nil
  | blank hspace _ ih => exact .blank hspace ih
  | @word letters cs tokens hsome hletters hend _ ih =>
    rw [List.append_assoc, ← hnext cs]
    exact .word hsome hletters (hends hend) ih
  | @escaped letters cs tokens hsome hletters hend _ ih =>
    rw [List.cons_append, List.append_assoc, ← hnext cs]
    exact .escaped hsome hletters (hends hend) ih
  | doubleColon _ ih => exact .doubleColon ih
  | mark hother _ ih => exact .mark hother ih

end TypeToken

namespace TypeExpr

/-- A question mark behind the text of a type makes the type nullable. -/
theorem parse?_question {text : String} {t : TypeExpr} (h : parse? text = some t) :
    parse? (text ++ "?") = some (.nullable t) := by
  rw [parse?_eq_some_iff] at h ⊢
  obtain ⟨tokens, hspells, ht⟩ := h
  refine ⟨tokens ++ [.mark '?'], ?_, ht.suffix .nullable⟩
  rw [String.toList_append]
  exact hspells.append_mark (by decide)

end TypeExpr

/-! ## The member -/

/-- Refining a shape neither reads nor changes its type and the text of it. -/
theorem Shape.refine_with_type (m : Model) (context : Option TypeDecl) (s : Shape)
    (type? : Option TypeExpr) (typeText : String) (t : TypeExpr) :
    refine m context { s with type? := type?, typeText := typeText } t =
      { refine m context s t with type? := type?, typeText := typeText } := by
  unfold refine
  cases t with
  | named qualifier name args =>
    dsimp only
    split
    · rfl
    · split
      · rfl
      · split
        · split
          · rfl
          · split <;> rfl
        · rfl
  | _ => rfl

/-- A property whose text denotes a type has the shape that the type without its marks refines. -/
theorem Shape.ofProperty_eq_refine {p : Property} {t : TypeExpr} (h : p.type? = some t) (m : Model)
    (context : Option TypeDecl) :
    ofProperty m context p =
      refine m context
        { name := p.name, isReadOnly := p.isReadOnly, type? := some t, typeText := t.render }
        t.withoutNullable := by
  unfold ofProperty
  rw [h]

/-- The shape of a member whose type text gets a question mark differs in the type and its text
alone. -/
theorem Shape.ofProperty_question {p : Property} {t : TypeExpr} (h : p.type? = some t) (m : Model)
    (context : Option TypeDecl) :
    ofProperty m context { p with typeText := p.typeText ++ "?" } =
      { ofProperty m context p with
        type? := some (.nullable t), typeText := (TypeExpr.nullable t).render } := by
  have hmarked : Property.type? { p with typeText := p.typeText ++ "?" } = some (.nullable t) :=
    TypeExpr.parse?_question h
  rw [ofProperty_eq_refine h, ofProperty_eq_refine hmarked]
  exact refine_with_type m context
    { name := p.name, isReadOnly := p.isReadOnly, type? := some t, typeText := t.render }
    (some (.nullable t)) _ t.withoutNullable

/-- The patterns that fit a member of a nullable type are those that fit it without the mark, and
the nullable ones that the type fits below its mark. -/
theorem TypePattern.fits_nullable_iff {s s' : Shape} {t : TypeExpr} (hs : s.type? = some t)
    (ht : ∀ inner, t ≠ .nullable inner) (hs' : s'.type? = some (.nullable t))
    (hcategory : s'.category = s.category) (pattern : TypePattern) :
    pattern.fits s' = true ↔ pattern.fits s = true ∨
      ∃ inner, pattern = .shape (.nullable inner) ∧ t.fits inner = true := by
  unfold TypePattern.fits
  rw [hs, hs']
  cases pattern with
  | anyEnum =>
    unfold Shape.isEnum
    rw [hcategory]
    exact ⟨.inl, fun h => h.resolve_right fun ⟨_, h, _⟩ => nomatch h⟩
  | anyArray => exact ⟨.inl, fun h => h.resolve_right fun ⟨_, h, _⟩ => nomatch h⟩
  | raw text => exact ⟨.inl, fun h => h.resolve_right fun ⟨_, h, _⟩ => nomatch h⟩
  | shape pattern =>
    -- Under its mark the type is tried as it is without it.
    have hplain : hasShapeOrNullable pattern t = t.hasShape pattern := by
      unfold hasShapeOrNullable
      cases t with
      | nullable inner => exact absurd rfl (ht inner)
      | _ => exact Bool.or_false _
    have hmarked : (TypeExpr.nullable t).hasShape pattern = true ↔
        ∃ inner, TypePattern.shape pattern = .shape (.nullable inner) ∧ t.fits inner = true := by
      rw [TypeExpr.hasShape_eq_true_iff]
      constructor
      · rintro ⟨⟩
        exact ⟨_, rfl, ‹_›⟩
      · rintro ⟨inner, heq, hinner⟩
        obtain rfl := TypePattern.shape.inj heq
        exact .nullable hinner
    show ((TypeExpr.nullable t).hasShape pattern || t.hasShape pattern) = true ↔
      hasShapeOrNullable pattern t = true ∨ _
    rw [hplain, Bool.or_eq_true, hmarked, or_comm]

/-- A member of a type that is not nullable, and the member declared with a question mark behind the
text of the type, in any model and context: the second has the nullable type, and the same
category, element type, enumeration members and members behind it. Every rule that fits the first
fits the second, and the rule that is chosen for the second stands no later than the one that is
chosen for the first. -/
theorem nullable_widens (m : Model) (context : Option TypeDecl) (p : Property) (t : TypeExpr)
    (hparse : TypeExpr.parse? p.typeText = some t) (hplain : ∀ inner, t ≠ .nullable inner) :
    let s := Shape.ofProperty m context p
    let s' := Shape.ofProperty m context { p with typeText := p.typeText ++ "?" }
    s'.type? = some (.nullable t) ∧ s'.category = s.category ∧ s'.element? = s.element? ∧
      s'.enumMembers = s.enumMembers ∧ s'.inner = s.inner ∧
      (∀ r : Rule, r.fits s = true → r.fits s' = true) ∧
      ∀ (rules : List Rule) (j : Nat), chosenPlace? rules s = some j →
        chooseRule rules s = rules[j]? ∧
          ∃ i ≤ j, chosenPlace? rules s' = some i ∧ chooseRule rules s' = rules[i]? := by
  intro s s'
  have hs' : s' =
      { s with type? := some (.nullable t), typeText := (TypeExpr.nullable t).render } :=
    Shape.ofProperty_question hparse m context
  have htype : s.type? = some t := by
    show (Shape.ofProperty m context p).type? = some t
    rw [Shape.ofProperty_eq_refine hparse]
    exact Shape.type?_refine _ _
  -- A rule's patterns are met as they were, and the mark adds further ones.
  have hfits (r : Rule) (hr : r.fits s = true) : r.fits s' = true := by
    obtain ⟨hmember, text, htext, hfit⟩ := Rule.fits_eq_true_iff.1 hr
    refine Rule.fits_eq_true_iff.2 ⟨?_, text, htext, ?_⟩
    · rw [hs']
      exact hmember
    · exact (TypePattern.fits_nullable_iff htype hplain (by rw [hs']) (by rw [hs']) _).2
        (.inl hfit)
  refine ⟨by rw [hs'], by rw [hs'], by rw [hs'], by rw [hs'], by rw [hs'], hfits, ?_⟩
  intro rules j hj
  obtain ⟨i, hij, hi⟩ :=
    List.findIdx?_eq_some_le_of_findIdx?_eq_some (fun r _ => hfits r) hj
  have hat {s : Shape} {k : Nat} (hk : chosenPlace? rules s = some k) :
      chooseRule rules s = rules[k]? := by
    rw [chooseRule_eq_getElem?, hk, Option.bind_some]
  exact ⟨hat hj, i, hij, hi, hat hi⟩

/-- A property of a type with two arguments. -/
def scores : Property where
  name := "Scores"
  typeText := "Map(Of String, Integer()) "

/-- The type of the property. -/
def scoresType : TypeExpr := .named none "Map" [.bare "string", .array (.bare "int") 1]

/-- A rule for nullable types alone. -/
def optionalRule : Rule where
  types := "Map<T, T>? | int"
  output := "<Optional/>"

/-- A rule for types without a mark. -/
def scoresRule : Rule where
  types := "enum | Map<string, T[]>"
  nameContains := "score"
  output := "<Scores/>"

theorem patterns_optionalRule : optionalRule.typeAlternatives.map TypePattern.ofText =
    [.shape (.nullable (.named none "Map" [.bare "T", .bare "T"])), .shape (.bare "int")] := by
  decide +kernel

theorem patterns_scoresRule : scoresRule.typeAlternatives.map TypePattern.ofText =
    [.anyEnum, .shape (.named none "Map" [.bare "string", .array (.bare "T") 1])] := by
  decide +kernel

/-- The first of two rules is for nullable types only, so the second is chosen; behind a question
mark the choice is no later. -/
theorem nullable_widens_scores :
    TypeExpr.parse? scores.typeText = some scoresType ∧
      chosenPlace? [optionalRule, scoresRule] (Shape.ofProperty ⟨[]⟩ none scores) = some 1 ∧
      ∃ i ≤ 1, chosenPlace? [optionalRule, scoresRule] (Shape.ofProperty ⟨[]⟩ none
        { scores with typeText := scores.typeText ++ "?" }) = some i := by
  have hparse : TypeExpr.parse? scores.typeText = some scoresType := by decide +kernel
  have hshape : Shape.ofProperty ⟨[]⟩ none scores =
      { name := "Scores", isReadOnly := false, type? := some scoresType,
        typeText := scoresType.render } := by
    rw [Shape.ofProperty_eq_refine hparse]
    rfl
  have hplace : chosenPlace? [optionalRule, scoresRule] (Shape.ofProperty ⟨[]⟩ none scores) =
      some 1 := by
    rw [hshape]
    generalize scoresType.render = text
    generalize hs : (⟨"Scores", false, .user, some scoresType, text, none, [], .none⟩ : Shape) = s
    have hfirst : optionalRule.fits s = false := by
      unfold Rule.fits
      rw [patterns_optionalRule, Bool.and_eq_false_iff, ← hs]
      right
      cbv
    have hsecond : scoresRule.fits s = true := by
      have hname : Rule.fitsName scoresRule.nameAlternatives "Scores" = true := by decide +kernel
      unfold Rule.fits
      rw [patterns_scoresRule, ← hs, hname, Bool.and_true]
      cbv
    unfold chosenPlace?
    rw [List.findIdx?_cons, hfirst, List.findIdx?_cons, hsecond]
    rfl
  have hplain : ∀ inner, scoresType ≠ .nullable inner := by
    intro inner h
    cases h
  obtain ⟨-, -, -, -, -, -, hrules⟩ := nullable_widens ⟨[]⟩ none scores _ hparse hplain
  obtain ⟨-, i, hi, hplace', -⟩ := hrules [optionalRule, scoresRule] 1 hplace
  exact ⟨hparse, hplace, i, hi, hplace'⟩

end ViewForge
