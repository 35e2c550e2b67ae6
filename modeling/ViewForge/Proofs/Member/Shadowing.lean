import ViewForge.Member.Choice
import ViewForge.Proofs.Text.Match
import ViewForge.Proofs.TypeExpr.Pattern

/-!
# Rules behind broader rules

A rule shadows another if it fits every member that the other fits, as far as that shows in what the
two ask for: the same read-only state, names at least as many, and a type pattern for each that is
at least as broad (`Rule.Shadows`). A rule that stands behind one that shadows it is dead: it is
chosen for no member, and without it the same rules are chosen (`shadowed_rule_dead`).
-/

namespace ViewForge

namespace TypePattern

/-- Whether a type pattern is at least as broad as another. -/
inductive Covers : TypePattern → TypePattern → Prop
  /-- The two are the same. -/
  | same (pattern : TypePattern) : Covers pattern pattern
  /-- The narrow one has the shape of the broad one, which mentions no namespace. -/
  | shape {broad narrow : TypeExpr} (hbroad : broad.isUnqualified = true)
      (hshape : narrow.hasShape broad = true) : Covers (.shape broad) (.shape narrow)
  /-- The narrow one is a pattern for arrays, nullable or not. -/
  | array {narrow : TypeExpr} (harray : narrow.withoutNullable.isArray = true) :
      Covers .anyArray (.shape narrow)

/-- What a type or the type under its nullable mark has the shape of passes on to a broader
pattern. -/
theorem hasShapeOrNullable_trans {broad narrow t : TypeExpr} (hbroad : broad.isUnqualified = true)
    (hshape : narrow.hasShape broad = true) (h : hasShapeOrNullable narrow t = true) :
    hasShapeOrNullable broad t = true := by
  have htrans {u : TypeExpr} (hu : u.hasShape narrow = true) : u.hasShape broad = true := by
    rw [TypeExpr.hasShape_eq_true_iff] at hu hshape ⊢
    exact hu.trans hbroad hshape
  unfold hasShapeOrNullable at h ⊢
  rw [Bool.or_eq_true] at h ⊢
  refine h.imp htrans fun hinner => ?_
  split at hinner
  · exact htrans hinner
  · exact absurd hinner Bool.false_ne_true

/-- A type that fits a pattern for arrays, as it is or under its nullable mark, is an array without
its nullable marks. -/
theorem isArray_of_hasShapeOrNullable {narrow t : TypeExpr}
    (harray : narrow.withoutNullable.isArray = true) (h : hasShapeOrNullable narrow t = true) :
    t.withoutNullable.isArray = true := by
  unfold hasShapeOrNullable at h
  rcases Bool.or_eq_true_iff.1 h with h | h
  · exact (TypeExpr.hasShape_eq_true_iff.1 h).isArray harray
  · split at h
    · rw [TypeExpr.withoutNullable]
      exact (TypeExpr.hasShape_eq_true_iff.1 h).isArray harray
    · exact absurd h Bool.false_ne_true

/-- A broader pattern fits every member that a pattern fits. -/
theorem Covers.fits {broad narrow : TypePattern} (h : Covers broad narrow) {s : Shape}
    (hfits : narrow.fits s = true) : broad.fits s = true := by
  cases h with
  | same => exact hfits
  | shape hbroad hshape =>
    unfold TypePattern.fits at hfits ⊢
    cases htype : s.type? with
    | none => rw [htype] at hfits; exact absurd hfits Bool.false_ne_true
    | some t => rw [htype] at hfits; exact hasShapeOrNullable_trans hbroad hshape hfits
  | array harray =>
    unfold TypePattern.fits at hfits ⊢
    cases htype : s.type? with
    | none => rw [htype] at hfits; exact absurd hfits Bool.false_ne_true
    | some t => rw [htype] at hfits; exact isArray_of_hasShapeOrNullable harray hfits

end TypePattern

namespace Rule

/-- A rule fits a member if the read-only states agree, the name fits and some type pattern does. -/
theorem fits_eq_true_iff {r : Rule} {s : Shape} : r.fits s = true ↔
    (r.ifReadOnly = s.isReadOnly ∧ fitsName r.nameAlternatives s.name = true) ∧
      ∃ type ∈ r.typeAlternatives, (TypePattern.ofText type).fits s = true := by
  unfold fits
  rw [Bool.and_eq_true, Bool.and_eq_true, beq_iff_eq, List.any_map, List.any_eq_true]
  rfl

/-- Whether a rule asks for nothing that another does not ask for. -/
structure Shadows (broad narrow : Rule) : Prop where
  /-- Both are for members that can be set or both for members that cannot. -/
  ifReadOnly : broad.ifReadOnly = narrow.ifReadOnly
  /-- The broad rule asks for no name, or each fragment that the narrow one asks for holds one that
  the broad one asks for. -/
  names : broad.nameAlternatives = [] ∨ narrow.nameAlternatives ≠ [] ∧
    ∀ fragment ∈ narrow.nameAlternatives, ∃ part ∈ broad.nameAlternatives,
      Text.occursIn (Text.lower part.toList) (Text.lower fragment.toList) = true
  /-- Each type pattern of the narrow rule has one of the broad rule that is at least as broad. -/
  types : ∀ text ∈ narrow.typeAlternatives, ∃ broader ∈ broad.typeAlternatives,
    (TypePattern.ofText broader).Covers (TypePattern.ofText text)

/-- A name that fits the fragments of a rule fits those of a rule that shadows it. -/
theorem Shadows.fitsName {broad narrow : Rule} (h : broad.Shadows narrow) {name : String}
    (hname : fitsName narrow.nameAlternatives name = true) :
    fitsName broad.nameAlternatives name = true := by
  unfold Rule.fitsName at hname ⊢
  rw [Bool.or_eq_true, List.isEmpty_iff] at hname ⊢
  rcases h.names with hnone | ⟨hsome, hparts⟩
  · exact .inl hnone
  · obtain ⟨fragment, hfragment, hoccurs⟩ := List.any_eq_true.1 (hname.resolve_left hsome)
    obtain ⟨part, hpart, hwithin⟩ := hparts fragment hfragment
    rw [Text.occursIn_eq_true_iff] at hoccurs hwithin
    exact .inr (List.any_eq_true.2
      ⟨part, hpart, Text.occursIn_eq_true_iff.2 (hwithin.trans hoccurs)⟩)

/-- A rule fits every member that a rule fits which it shadows. -/
theorem Shadows.fits {broad narrow : Rule} (h : broad.Shadows narrow) {s : Shape}
    (hfits : narrow.fits s = true) : broad.fits s = true := by
  obtain ⟨⟨hreadOnly, hname⟩, text, htext, hpattern⟩ := fits_eq_true_iff.1 hfits
  obtain ⟨broader, hbroader, hcovers⟩ := h.types text htext
  exact fits_eq_true_iff.2
    ⟨⟨h.ifReadOnly.trans hreadOnly, h.fitsName hname⟩, broader, hbroader, hcovers.fits hpattern⟩

end Rule

/-- The place of the rule that is chosen for a member. -/
def chosenPlace? (rules : List Rule) (s : Shape) : Option Nat := rules.findIdx? (Rule.fits s)

/-- The rule that is chosen is the one at the place. -/
theorem chooseRule_eq_getElem? (rules : List Rule) (s : Shape) :
    chooseRule rules s = (chosenPlace? rules s).bind (rules[·]?) :=
  List.find?_eq_bind_findIdx?_getElem?

/-- No rule is chosen behind one that fits. -/
theorem chosenPlace?_ne_of_fits {rules : List Rule} {i j : Nat} {s : Shape} {r : Rule}
    (hij : i < j) (hr : rules[i]? = some r) (hfits : r.fits s = true) :
    chosenPlace? rules s ≠ some j := by
  intro hj
  obtain ⟨_, _, hbefore⟩ := List.findIdx?_eq_some_iff_getElem.1 hj
  obtain ⟨_, rfl⟩ := List.getElem?_eq_some_iff.1 hr
  exact hbefore i hij hfits

/-- Without a rule behind one that shadows it the same rules are chosen. -/
theorem chooseRule_eraseIdx {rules : List Rule} {i j : Nat} {broad narrow : Rule} (hij : i < j)
    (hbroad : rules[i]? = some broad) (hnarrow : rules[j]? = some narrow)
    (h : broad.Shadows narrow) (s : Shape) :
    chooseRule (rules.eraseIdx j) s = chooseRule rules s := by
  obtain ⟨hlength, rfl⟩ := List.getElem?_eq_some_iff.1 hnarrow
  have hmem : broad ∈ rules.take j :=
    List.mem_of_getElem? ((List.getElem?_take_of_lt hij).trans hbroad)
  unfold chooseRule
  calc (rules.eraseIdx j).find? (Rule.fits s)
      = ((rules.take j).find? (Rule.fits s)).or ((rules.drop (j + 1)).find? (Rule.fits s)) := by
        rw [List.eraseIdx_eq_take_drop_succ, List.find?_append]
    _ = ((rules.take j).find? (Rule.fits s)).or
          ((rules[j] :: rules.drop (j + 1)).find? (Rule.fits s)) := by
        -- Where no rule before the shadowed one fits, it does not fit either.
        cases hbefore : (rules.take j).find? (Rule.fits s) with
        | some r => rfl
        | none =>
          have hnot := mt h.fits (List.find?_eq_none.1 hbefore broad hmem)
          rw [Option.none_or, Option.none_or, List.find?_cons_of_neg hnot]
    _ = rules.find? (Rule.fits s) := by
        rw [← List.find?_append, List.getElem_cons_drop, List.take_append_drop]

/-- The rule that is chosen for a member is the one at a place, and that is never the place of a
rule behind one which shadows it; leaving the shadowed rule out changes no choice. What lies behind
it is that having a shape is transitive, up to a pattern without namespaces. -/
theorem shadowed_rule_dead :
    (∀ (rules : List Rule) (i j : Nat) (broad narrow : Rule), i < j → rules[i]? = some broad →
      rules[j]? = some narrow → broad.Shadows narrow → ∀ s : Shape,
        chooseRule rules s = (chosenPlace? rules s).bind (rules[·]?) ∧
        chosenPlace? rules s ≠ some j ∧ chooseRule (rules.eraseIdx j) s = chooseRule rules s) ∧
    ∀ t p q : TypeExpr, q.isUnqualified = true → t.hasShape p = true → p.hasShape q = true →
      t.hasShape q = true := by
  constructor
  · intro rules i j broad narrow hij hbroad hnarrow h s
    -- The shadowed rule would fit if it were chosen; then the other one fits too, and is found
    -- first.
    refine ⟨chooseRule_eq_getElem? rules s, fun hj => ?_, chooseRule_eraseIdx hij hbroad hnarrow h s⟩
    have hfits : narrow.fits s = true := by
      obtain ⟨_, hfits, _⟩ := List.findIdx?_eq_some_iff_getElem.1 hj
      obtain ⟨_, rfl⟩ := List.getElem?_eq_some_iff.1 hnarrow
      exact hfits
    exact chosenPlace?_ne_of_fits hij hbroad (h.fits hfits) hj
  · intro t p q hq htp hpq
    rw [TypeExpr.hasShape_eq_true_iff] at htp hpq ⊢
    exact htp.trans hq hpq

/-- A rule for arrays, enumerations and lists of anything whose names hold `name`. -/
def anyList : Rule where
  types := "ARRAY | enum | Map<string, T>"
  nameContains := "name"
  output := "<List/>"

/-- A rule for certain of them. -/
def certainList : Rule where
  types := "Map(Of String, Order()) | int[,]? | Enum"
  nameContains := "FirstName | NAMES"
  output := "<Names/>"

theorem patterns_anyList :
    anyList.typeAlternatives.map TypePattern.ofText =
      [.anyArray, .anyEnum, .shape (.named none "Map" [.bare "string", .bare "T"])] := by
  decide +kernel

theorem patterns_certainList :
    certainList.typeAlternatives.map TypePattern.ofText =
      [.shape (.named none "Map" [.bare "string", .array (.bare "Order") 1]),
        .shape (.nullable (.array (.bare "int") 2)), .anyEnum] := by
  decide +kernel

theorem anyList_shadows_certainList : anyList.Shadows certainList where
  ifReadOnly := rfl
  names := .inr (by decide +kernel)
  types := by
    have hcovered : ∀ narrow ∈ certainList.typeAlternatives.map TypePattern.ofText,
        ∃ broad ∈ anyList.typeAlternatives.map TypePattern.ofText, broad.Covers narrow := by
      rw [patterns_anyList, patterns_certainList]
      simp only [List.forall_mem_cons, List.exists_mem_cons_iff]
      exact ⟨.inr (.inr (.inl (.shape (by decide) (by cbv)))), .inl (.array rfl),
        .inr (.inl (.same _)), nofun⟩
    intro text htext
    obtain ⟨_, hmem, hcovers⟩ := hcovered _ (List.mem_map_of_mem htext)
    obtain ⟨broader, hbroader, rfl⟩ := List.mem_map.1 hmem
    exact ⟨broader, hbroader, hcovers⟩

/-- A member that the narrower rule fits. -/
def ordersByName : Shape where
  name := "FirstNames"
  isReadOnly := false
  type? := some (.named none "Map" [.bare "string", .array (.bare "Order") 1])
  typeText := "Map<string, Order[]>"

/-- The narrower rule fits a member but is not chosen for it behind the other, with a rule between
them. -/
theorem shadowed_rule_dead_certainList :
    anyList.Shadows certainList ∧ certainList.fits ordersByName = true ∧
      chosenPlace? [anyList, { anyList with ifReadOnly := true }, certainList] ordersByName ≠
        some 2 := by
  have hname : Rule.fitsName certainList.nameAlternatives ordersByName.name = true := by
    decide +kernel
  have hpattern : (certainList.typeAlternatives.map TypePattern.ofText).any
      (·.fits ordersByName) = true := by
    rw [patterns_certainList]
    refine List.any_eq_true.2 ⟨_, List.mem_cons_self, ?_⟩
    cbv
  have hfits : certainList.fits ordersByName = true := by
    unfold Rule.fits
    rw [hname, hpattern]
    rfl
  exact ⟨anyList_shadows_certainList, hfits,
    (shadowed_rule_dead.1 [anyList, { anyList with ifReadOnly := true }, certainList] 0 2 anyList
      certainList (by decide) rfl rfl anyList_shadows_certainList ordersByName).2.1⟩

end ViewForge
