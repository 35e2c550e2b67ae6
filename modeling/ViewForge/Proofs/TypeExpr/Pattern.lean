import ViewForge.Proofs.TypeExpr.Written
import ViewForge.TypeExpr.Pattern

/-!
# Patterns of types

A pattern is itself a type, so one pattern may have the shape of another. If the other mentions no
namespace, then every type with the shape of the first has the shape of the other too
(`HasShape.trans`): what the wildcard of the first stands for is a wildcard of the other as well.
Behind a namespace the name `T` is no wildcard although the wildcard has its shape, and there the
law ends.
-/

namespace ViewForge.TypeExpr

/-- One case for each form that a type has in common with a pattern whose shape it has. -/
inductive HasShape : TypeExpr → TypeExpr → Prop
  /-- A name with arguments that fit. -/
  | named {qualifier qualifier' : Option String} {name : String} {args args' : List TypeExpr}
      (hargs : fitAll args args' = true) :
      HasShape (.named qualifier name args) (.named qualifier' name args')
  /-- An array of as many dimensions whose elements fit. -/
  | array {element element' : TypeExpr} {rank : Nat} (helement : element.fits element' = true) :
      HasShape (.array element rank) (.array element' rank)
  /-- A nullable type that fits without its mark. -/
  | nullable {inner inner' : TypeExpr} (hinner : inner.fits inner' = true) :
      HasShape (.nullable inner) (.nullable inner')
  /-- A tuple of items that fit. -/
  | tuple {items items' : List TypeExpr} (hitems : fitAll items items' = true) :
      HasShape (.tuple items) (.tuple items')
  /-- The untyped marker. -/
  | dynamic : HasShape .dynamic .dynamic

theorem hasShape_eq_true_iff {t p : TypeExpr} : t.hasShape p = true ↔ HasShape t p := by
  constructor
  · intro h
    unfold hasShape at h
    -- The cases of the test are the constructors, in their order.
    split at h
    · rw [Bool.and_eq_true] at h
      obtain rfl := eq_of_beq h.1
      exact .named h.2
    · rw [Bool.and_eq_true] at h
      obtain rfl := eq_of_beq h.1
      exact .array h.2
    · exact .nullable h
    · exact .tuple h
    · exact .dynamic
    · exact absurd h Bool.false_ne_true
  · rintro (hargs | helement | hinner | hitems | _) <;> rw [hasShape]
    · rw [hargs, beq_self_eq_true, Bool.and_true]
    · rw [helement, beq_self_eq_true, Bool.and_true]
    · exact hinner
    · exact hitems

/-- Below the root a type fits the wildcard and whatever pattern it has the shape of. -/
theorem fits_eq_true_iff {t p : TypeExpr} :
    t.fits p = true ↔ p.isWildcard = true ∨ HasShape t p := by
  rw [fits, Bool.or_eq_true, hasShape_eq_true_iff]

/-- Types fit patterns one by one. -/
theorem fitAll_eq_true_iff {ts ps : List TypeExpr} :
    fitAll ts ps = true ↔ List.Forall₂ (fun t p => t.fits p = true) ts ps := by
  induction ts generalizing ps with
  | nil =>
    cases ps with
    | nil => exact iff_of_true (by rw [fitAll]) .nil
    | cons => exact iff_of_false (by simp [fitAll]) fun h => by cases h
  | cons t ts ih =>
    cases ps with
    | nil => exact iff_of_false (by simp [fitAll]) fun h => by cases h
    | cons => rw [fitAll, Bool.and_eq_true, ih, List.forall₂_cons]

/-- The wildcard is the bare name `T`. -/
theorem isWildcard_eq_true_iff {p : TypeExpr} : p.isWildcard = true ↔ p = .bare "T" := by
  constructor
  · intro h
    unfold isWildcard at h
    split at h
    · rw [eq_of_beq h]
      rfl
    · exact absurd h Bool.false_ne_true
  · rintro rfl
    rfl

/-- A pattern without namespaces that the wildcard fits is the wildcard. -/
theorem isWildcard_of_fits {p q : TypeExpr} (hp : p.isWildcard = true)
    (hq : q.isUnqualified = true) (h : p.fits q = true) : q.isWildcard = true := by
  obtain rfl := isWildcard_eq_true_iff.1 hp
  refine (fits_eq_true_iff.1 h).elim id fun hshape => ?_
  obtain ⟨hargs⟩ := hshape
  rw [isUnqualified, Bool.and_eq_true] at hq
  obtain rfl := Option.isNone_iff_eq_none.1 hq.1
  obtain ⟨⟩ := fitAll_eq_true_iff.1 hargs
  rfl

/-- Fitting is transitive below the root where having a shape is. -/
theorem fits_trans_of_hasShape {t p q : TypeExpr} (hq : q.isUnqualified = true)
    (htrans : HasShape t p → HasShape p q → HasShape t q)
    (htp : t.fits p = true) (hpq : p.fits q = true) : t.fits q = true := by
  rw [fits_eq_true_iff]
  rcases fits_eq_true_iff.1 htp with hp | htp
  · exact .inl (isWildcard_of_fits hp hq hpq)
  · exact (fits_eq_true_iff.1 hpq).imp id (htrans htp)

mutual

/-- A type with the shape of a pattern has the shape of each pattern that the pattern itself has the
shape of, if that one mentions no namespace. -/
theorem HasShape.trans {t p q : TypeExpr} (hq : q.isUnqualified = true) (htp : HasShape t p)
    (hpq : HasShape p q) : HasShape t q := by
  cases htp with
  | named htp =>
    cases hpq with
    | named hpq =>
      rw [isUnqualified, Bool.and_eq_true] at hq
      exact .named (fitAll_trans hq.2 htp hpq)
  | @array element _ _ htp =>
    cases hpq with
    | array hpq =>
      exact .array (fits_trans_of_hasShape hq (HasShape.trans (t := element) hq) htp hpq)
  | @nullable inner _ htp =>
    cases hpq with
    | nullable hpq =>
      exact .nullable (fits_trans_of_hasShape hq (HasShape.trans (t := inner) hq) htp hpq)
  | tuple htp =>
    cases hpq with
    | tuple hpq => exact .tuple (fitAll_trans hq htp hpq)
  | dynamic => exact hpq
termination_by structural t

/-- Types that fit patterns one by one fit those that the patterns fit, if they mention no
namespace. -/
theorem fitAll_trans {ts ps qs : List TypeExpr} (hq : areUnqualified qs = true)
    (htp : fitAll ts ps = true) (hpq : fitAll ps qs = true) : fitAll ts qs = true := by
  rw [fitAll_eq_true_iff] at htp hpq ⊢
  cases htp with
  | nil => exact hpq
  | @cons t _ _ _ ht hts =>
    cases hpq with
    | cons hp hps =>
      rw [areUnqualified, Bool.and_eq_true] at hq
      refine .cons (fits_trans_of_hasShape hq.1 (HasShape.trans (t := t) hq.1) ht hp) ?_
      rw [← fitAll_eq_true_iff] at hts hps ⊢
      exact fitAll_trans hq.2 hts hps
termination_by structural ts

end

/-- A type with the shape of a pattern for arrays, nullable or not, is such an array. -/
theorem HasShape.isArray {t p : TypeExpr} (hp : p.withoutNullable.isArray = true)
    (h : HasShape t p) : t.withoutNullable.isArray = true := by
  induction p using withoutNullable.induct generalizing t with
  | case1 inner ih =>
    cases h with
    | nullable hfits =>
      rw [withoutNullable] at hp ⊢
      refine (fits_eq_true_iff.1 hfits).elim (fun hwild => ?_) (ih hp)
      rw [isWildcard_eq_true_iff.1 hwild] at hp
      exact absurd hp Bool.false_ne_true
  | case2 p hnullable =>
    cases h with
    | array => rfl
    | nullable => exact absurd rfl (hnullable _)
    | named | tuple | dynamic => exact absurd hp Bool.false_ne_true

end ViewForge.TypeExpr
