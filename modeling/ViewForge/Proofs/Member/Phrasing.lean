import ViewForge.Member.Choice
import ViewForge.Member.Exposed
import ViewForge.Proofs.TypeExpr.Phrase

/-!
# Members in both styles

A member is shaped by the type that its type text denotes and not by the text. So it does not matter
in which style a type phrase is written, nor how it is spaced: the member has the same shape in
every model, and every list of rules chooses the same rule for it (`phrased_alike`).
-/

namespace ViewForge

/-- Two texts that denote one type make the same shape of a property. -/
theorem Shape.ofProperty_of_parse? {text text' : String} {t : TypeExpr}
    (h : TypeExpr.parse? text = some t) (h' : TypeExpr.parse? text' = some t) (m : Model)
    (context : Option TypeDecl) (p : Property) :
    Shape.ofProperty m context { p with typeText := text } =
      Shape.ofProperty m context { p with typeText := text' } := by
  have htype : Property.type? { p with typeText := text } = some t := h
  have htype' : Property.type? { p with typeText := text' } = some t := h'
  unfold Shape.ofProperty
  rw [htype, htype']
  rfl

/-- So they do where type parameters are replaced. -/
theorem Shape.ofProperty_bind_of_parse? {text text' : String} {t : TypeExpr}
    (h : TypeExpr.parse? text = some t) (h' : TypeExpr.parse? text' = some t) (m : Model)
    (context : Option TypeDecl) (b : Bindings) (p : Property) :
    Shape.ofProperty m context (Member.bind b { p with typeText := text }) =
      Shape.ofProperty m context (Member.bind b { p with typeText := text' }) := by
  have htype : Property.type? { p with typeText := text } = some t := h
  have htype' : Property.type? { p with typeText := text' } = some t := h'
  unfold Member.bind
  rw [htype, htype']
  dsimp only
  split
  · exact ofProperty_of_parse? h h' m context p
  · rfl

namespace TypePhrase

/-- A type phrase denotes one type in both styles, with white space anywhere between its pieces. So
a property declared with it in either style has the same shape, of the same category, and is given
the same rule, whatever the model, the context, the bindings of type parameters and the rules. -/
theorem phrased_alike (t : TypePhrase) (angled round : String)
    (hangled : Spread (t.pieces .angled) angled.toList)
    (hround : Spread (t.pieces .round) round.toList) :
    TypeExpr.parse? angled = some t.type ∧ TypeExpr.parse? round = some t.type ∧
      ∀ (m : Model) (context : Option TypeDecl) (b : Bindings) (p : Property) (rules : List Rule),
        let shape (text : String) := Shape.ofProperty m context { p with typeText := text }
        let bound (text : String) :=
          Shape.ofProperty m context (Member.bind b { p with typeText := text })
        shape angled = shape round ∧ bound angled = bound round ∧
          (shape angled).category = (shape round).category ∧
          chooseRule rules (shape angled) = chooseRule rules (shape round) ∧
          chooseRule rules (bound angled) = chooseRule rules (bound round) := by
  have hparse : TypeExpr.parse? angled = some t.type := parse?_of_spread hangled
  have hparse' : TypeExpr.parse? round = some t.type := parse?_of_spread hround
  refine ⟨hparse, hparse', fun m context b p rules => ?_⟩
  intro shape bound
  have hshape : shape angled = shape round :=
    Shape.ofProperty_of_parse? hparse hparse' m context p
  have hbound : bound angled = bound round :=
    Shape.ofProperty_bind_of_parse? hparse hparse' m context b p
  rw [hshape, hbound]
  exact ⟨rfl, rfl, rfl, rfl, rfl⟩

/-- A phrase of one word. -/
def ofWord (name : String) (hsome : name.toList.isEmpty = false)
    (hletters : name.toList.all TypeToken.isLetter = true) : TypePhrase :=
  .name [] ⟨name, TypeExpr.isName_of_all hsome hletters⟩ []

/-- A generic type over an array and a nullable. -/
def mapPhrase : TypePhrase :=
  .name [] ⟨"Map", TypeExpr.isName_of_all (by decide +kernel) (by decide +kernel)⟩
    [.array (ofWord "Key" (by decide +kernel) (by decide +kernel)) 1,
      .nullable (ofWord "Item" (by decide +kernel) (by decide +kernel))]

/-- `Map<Key[,], Item?>` and `Map( Of Key (,),Item ?)` denote one type. -/
theorem phrased_alike_map :
    Spread (mapPhrase.pieces .angled) "Map<Key[,], Item?>".toList ∧
      Spread (mapPhrase.pieces .round) "Map( Of Key (,),Item ?)".toList ∧
      TypeExpr.parse? "Map<Key[,], Item?>" = TypeExpr.parse? "Map( Of Key (,),Item ?)" := by
  have hangled : Spread (mapPhrase.pieces .angled) "Map<Key[,], Item?>".toList := by
    have htext : "Map<Key[,], Item?>".toList = mapPhrase.text .angled := by decide +kernel
    rw [htext]
    exact spread_spaced _
  have hround : Spread (mapPhrase.pieces .round) "Map( Of Key (,),Item ?)".toList := by
    have htext : "Map( Of Key (,),Item ?)".toList = "Map".toList ++ '(' :: ' ' :: 'O' :: 'f' ::
        ' ' :: ("Key".toList ++ ' ' :: '(' :: ',' :: ')' :: ',' :: ("Item".toList ++
          [' ', '?', ')'])) := by decide +kernel
    rw [htext]
    refine .piece (p := .word _) (by simp) ?_
    refine .piece (p := .mark '(') (by simp) (.blank rfl ?_)
    refine .piece (p := .of) (fun _ => rfl) (.blank rfl ?_)
    refine .piece (p := .word _) (by simp) (.blank rfl ?_)
    refine .piece (p := .mark '(') (by simp) ?_
    refine .piece (p := .mark ',') (by simp) ?_
    refine .piece (p := .mark ')') (by simp) ?_
    refine .piece (p := .comma) (by simp) ?_
    refine .piece (p := .word _) (by simp) (.blank rfl ?_)
    refine .piece (p := .mark '?') (by simp) ?_
    exact .piece (p := .mark ')') (by simp) .nil
  obtain ⟨hparse, hparse', -⟩ := phrased_alike mapPhrase _ _ hangled hround
  exact ⟨hangled, hround, hparse.trans hparse'.symm⟩

end TypePhrase

end ViewForge
