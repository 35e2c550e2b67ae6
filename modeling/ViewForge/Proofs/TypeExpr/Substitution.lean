import ViewForge.Proofs.TypeExpr.Written
import ViewForge.TypeExpr.Pattern

/-!
# Substitution

A substitution looks at the bare names of a type and at nothing else (`substitute_congr`). One
substitution after another is one, which replaces each name by what the second makes of its
replacement, unless the second replaces a name that the first has left alone
(`substitute_substitute`). What can be read, and mentions no namespaces, stays so
(`IsReadable.substitute`, `isUnqualified_substitute`).
-/

namespace ViewForge.TypeExpr

mutual

/-- The bare names in a type: those without a namespace and arguments. -/
def bareNames : TypeExpr → List String
  | .named qualifier name args =>
    if qualifier.isNone && args.isEmpty then [name] else bareNamesAll args
  | .array element _ => element.bareNames
  | .nullable inner => inner.bareNames
  | .tuple items => bareNamesAll items
  | .dynamic => []

/-- The bare names in types. -/
def bareNamesAll : List TypeExpr → List String
  | [] => []
  | t :: ts => t.bareNames ++ bareNamesAll ts

end

variable {bound bound' : String → Option TypeExpr}

theorem isEmpty_substituteAll (ts : List TypeExpr) :
    (substituteAll bound ts).isEmpty = ts.isEmpty := by
  cases ts <;> rfl

theorem substitute_bare (name : String) :
    (bare name).substitute bound = (bound name).getD (bare name) := rfl

mutual

/-- Substitutions that agree on the bare names of a type make the same of it. -/
theorem substitute_congr : ∀ {t : TypeExpr}, (∀ name ∈ t.bareNames, bound name = bound' name) →
    t.substitute bound = t.substitute bound'
  | .named qualifier name args, h => by
    rw [bareNames] at h
    rw [substitute, substitute]
    split
    · rename_i hbare
      rw [if_pos hbare] at h
      rw [h name (List.mem_singleton_self _)]
    · rename_i hbare
      rw [if_neg hbare] at h
      rw [substituteAll_congr h]
  | .array _ rank, h => congrArg (array · rank) (substitute_congr h)
  | .nullable _, h => congrArg nullable (substitute_congr h)
  | .tuple _, h => congrArg tuple (substituteAll_congr h)
  | .dynamic, _ => rfl

theorem substituteAll_congr : ∀ {ts : List TypeExpr},
    (∀ name ∈ bareNamesAll ts, bound name = bound' name) →
    substituteAll bound ts = substituteAll bound' ts
  | [], _ => rfl
  | t :: ts, h => by
    obtain ⟨ht, hts⟩ := List.forall_mem_append.1 h
    rw [substituteAll, substituteAll, substitute_congr ht, substituteAll_congr hts]

end

mutual

/-- A substitution after another makes of a type what one substitution makes of it, if it replaces
no name that the first leaves alone. -/
theorem substitute_substitute : ∀ {t : TypeExpr},
    (∀ name ∈ t.bareNames, bound name = none → bound' name = none) →
    (t.substitute bound).substitute bound' =
      t.substitute fun name => (bound name).map (substitute bound')
  | .named qualifier name args, h => by
    rw [bareNames] at h
    rw [substitute, substitute]
    -- A bare name is replaced by a type or left for the second substitution, which leaves it too.
    split
    · rename_i hbare
      rw [if_pos hbare] at h
      rw [Bool.and_eq_true, Option.isNone_iff_eq_none, List.isEmpty_iff] at hbare
      obtain ⟨rfl, rfl⟩ := hbare
      cases hname : bound name with
      | some u => rfl
      | none => exact congrArg (Option.getD · _) (h name (List.mem_singleton_self _) hname)
    · rename_i hbare
      rw [if_neg hbare] at h
      rw [substitute, isEmpty_substituteAll, if_neg hbare, substituteAll_substituteAll h]
  | .array _ rank, h => congrArg (array · rank) (substitute_substitute h)
  | .nullable _, h => congrArg nullable (substitute_substitute h)
  | .tuple _, h => congrArg tuple (substituteAll_substituteAll h)
  | .dynamic, _ => rfl

theorem substituteAll_substituteAll : ∀ {ts : List TypeExpr},
    (∀ name ∈ bareNamesAll ts, bound name = none → bound' name = none) →
    substituteAll bound' (substituteAll bound ts) =
      substituteAll (fun name => (bound name).map (substitute bound')) ts
  | [], _ => rfl
  | t :: ts, h => by
    obtain ⟨ht, hts⟩ := List.forall_mem_append.1 h
    rw [substituteAll, substituteAll, substituteAll, substitute_substitute ht,
      substituteAll_substituteAll hts]

end

/-- Whether a name and arguments are taken for what they are depends only on the number of
arguments, if there are any. -/
theorem ofName_eq_self_cons {qualifier : Option String} {name : String} {arg arg' : TypeExpr}
    {args args' : List TypeExpr} (hlength : args.length = args'.length)
    (h : ofName qualifier name (arg :: args) = .named qualifier name (arg :: args)) :
    ofName qualifier name (arg' :: args') = .named qualifier name (arg' :: args') := by
  cases args with
  | nil =>
    obtain rfl := List.eq_nil_of_length_eq_zero hlength.symm
    unfold ofName at h ⊢
    dsimp only at h ⊢
    split at h
    · exact nomatch h
    · rename_i hnot
      rw [if_neg hnot]
  | cons second args =>
    cases args' with
    | nil => exact nomatch hlength
    | cons second' args' => rfl

theorem length_substituteAll (ts : List TypeExpr) :
    (substituteAll bound ts).length = ts.length := by
  induction ts with
  | nil => rfl
  | cons t ts ih => exact congrArg Nat.succ ih

mutual

/-- Types that can be read, put for names in such a type, make such a type. -/
theorem IsReadable.substitute (hbound : ∀ name u, bound name = some u → u.IsReadable) :
    ∀ {t : TypeExpr}, t.IsReadable → (t.substitute bound).IsReadable
  | .named qualifier name args, ⟨hname, hown, hargs⟩ => by
    rw [TypeExpr.substitute]
    -- A bare name is replaced as a whole; otherwise the name stays and has as many arguments as
    -- before.
    split
    · rename_i hbare
      cases hreplaced : bound name with
      | some u => exact hbound name u hreplaced
      | none =>
        rw [Bool.and_eq_true, List.isEmpty_iff] at hbare
        obtain ⟨-, rfl⟩ := hbare
        exact ⟨hname, hown, trivial⟩
    · refine ⟨hname, ?_, AreReadable.substituteAll hbound hargs⟩
      cases args with
      | nil => exact hown
      | cons arg args => exact ofName_eq_self_cons (length_substituteAll args).symm hown
  | .array _ _, ⟨hrank, helement⟩ => ⟨hrank, IsReadable.substitute hbound helement⟩
  | .nullable inner, hinner => @IsReadable.substitute hbound inner hinner
  | .tuple items, ⟨hsome, hitems⟩ => by
    refine ⟨?_, AreReadable.substituteAll hbound hitems⟩
    cases items with
    | nil => exact absurd rfl hsome
    | cons item items => exact List.cons_ne_nil _ _
  | .dynamic, _ => trivial

theorem AreReadable.substituteAll (hbound : ∀ name u, bound name = some u → u.IsReadable) :
    ∀ {ts : List TypeExpr}, AreReadable ts → AreReadable (substituteAll bound ts)
  | [], _ => trivial
  | _ :: _, ⟨ht, hts⟩ => ⟨IsReadable.substitute hbound ht, AreReadable.substituteAll hbound hts⟩

end

mutual

/-- Types that mention no namespaces, put for names in such a type, make such a type. -/
theorem isUnqualified_substitute
    (hbound : ∀ name u, bound name = some u → u.isUnqualified = true) :
    ∀ {t : TypeExpr}, t.isUnqualified = true → (t.substitute bound).isUnqualified = true
  | .named qualifier name args, h => by
    obtain ⟨hnone, hargs⟩ := Bool.and_eq_true_iff.1 h
    rw [TypeExpr.substitute]
    split
    · cases hreplaced : bound name with
      | some u => exact hbound name u hreplaced
      | none => exact Bool.and_eq_true_iff.2 ⟨hnone, rfl⟩
    · exact Bool.and_eq_true_iff.2 ⟨hnone, areUnqualified_substituteAll hbound hargs⟩
  | .array element _, h => @isUnqualified_substitute hbound element h
  | .nullable inner, h => @isUnqualified_substitute hbound inner h
  | .tuple items, h => @areUnqualified_substituteAll hbound items h
  | .dynamic, _ => rfl

theorem areUnqualified_substituteAll
    (hbound : ∀ name u, bound name = some u → u.isUnqualified = true) :
    ∀ {ts : List TypeExpr}, areUnqualified ts = true →
      areUnqualified (substituteAll bound ts) = true
  | [], _ => rfl
  | _ :: _, h => by
    obtain ⟨ht, hts⟩ := Bool.and_eq_true_iff.1 h
    exact Bool.and_eq_true_iff.2
      ⟨isUnqualified_substitute hbound ht, areUnqualified_substituteAll hbound hts⟩

end

end ViewForge.TypeExpr
