import Mathlib.Data.List.Basic
import ViewForge.Proofs.Model.Parts
import ViewForge.Proofs.Model.Resolution

/-!
# A type's own reference

The types of a catalog that is built by insertion are apart: no stored type is a part of another
(`apart_ofList`). So a reference leads back to a type exactly if it means that very entry.

The reference of a stored type always means one of its namesakes. It leads back to the type unless
another is in its way (`reference_leads_back_iff`): one stored earlier whose namespace is that of
the type or ends in it, or, for a type without a namespace, one in the namespace of the context or
one stored earlier. Both happen (`reference_leads_astray`).
-/

namespace ViewForge

namespace TypeDecl

/-- Declarations of one full name and arity are parts of one type. -/
theorem isSameType_of_fullName {t u : TypeDecl} (hname : t.fullName = u.fullName)
    (harity : t.arity = u.arity) : t.isSameType u = true := by
  have hsame : ∀ cs : List Char, Text.sameIgnoringCase cs cs = true := by
    intro cs
    induction cs with
    | nil => rfl
    | cons c cs ih => rw [Text.sameIgnoringCase, ih, beq_self_eq_true, Bool.and_self]
  unfold isSameType Text.equalIgnoringCase
  rw [hname, harity, hsame, beq_self_eq_true, beq_self_eq_true, ite_self, Bool.and_self]

/-- Every declaration is a part of itself. -/
@[simp]
theorem isSameType_self (t : TypeDecl) : t.isSameType t = true := isSameType_of_fullName rfl rfl

end TypeDecl

namespace Catalog

/-! ## Catalogs built by insertion -/

@[simp]
theorem sameName_self (name : String) : sameName name name = true := beq_self_eq_true _

/-- Whether a declaration is a part of a stored type depends on how both are named. -/
theorem isPartOf_congr {t t' u u' : TypeDecl} (ht : t.SameNaming t') (hu : u.SameNaming u') :
    isPartOf t u = isPartOf t' u' := by
  unfold isPartOf TypeDecl.isSameType TypeDecl.fullName TypeDecl.scope?
  rw [ht.name, ht.scope, ht.arity, ht.ignoresCase, hu.name, hu.scope, hu.arity, hu.ignoresCase]

/-- Whether no type in a list is a part of one before it. -/
def Apart (l : List TypeDecl) : Prop :=
  l.Pairwise fun stored later => isPartOf later stored = false

/-- After an insertion there are the types from before, the new one, and one with it folded in. -/
theorem mem_insertInto {t u : TypeDecl} {l : List TypeDecl} (h : u ∈ insertInto t l) :
    u = t ∨ ∃ stored ∈ l, u.SameNaming stored := by
  induction l with
  | nil => exact .inl (List.mem_singleton.1 h)
  | cons stored rest ih =>
    rw [insertInto] at h
    split at h
    · rename_i hpart
      have hsame : stored.isSameType t = true := (Bool.and_eq_true_iff.1 hpart).2
      rcases List.mem_cons.1 h with rfl | hu
      · exact .inr ⟨stored, List.mem_cons_self, TypeDecl.sameNaming_merge hsame⟩
      · exact .inr ⟨u, List.mem_cons_of_mem _ hu, rfl, rfl, rfl, rfl⟩
    · rcases List.mem_cons.1 h with rfl | hu
      · exact .inr ⟨u, List.mem_cons_self, rfl, rfl, rfl, rfl⟩
      · rcases ih hu with rfl | ⟨found, hfound, hnaming⟩
        · exact .inl rfl
        · exact .inr ⟨found, List.mem_cons_of_mem _ hfound, hnaming⟩

/-- An insertion keeps types apart. -/
theorem Apart.insertInto {l : List TypeDecl} (h : Apart l) (t : TypeDecl) :
    Apart (insertInto t l) := by
  induction l with
  | nil => exact List.pairwise_singleton _ _
  | cons stored rest ih =>
    obtain ⟨hstored, hrest⟩ := List.pairwise_cons.1 h
    -- A merged entry names the type it named before; a new one comes last, and none before it is
    -- its part.
    rw [Catalog.insertInto]
    split
    · rename_i hpart
      have hsame : stored.isSameType t = true := (Bool.and_eq_true_iff.1 hpart).2
      refine List.pairwise_cons.2 ⟨fun later hlater => ?_, hrest⟩
      rw [isPartOf_congr ⟨rfl, rfl, rfl, rfl⟩ (TypeDecl.sameNaming_merge hsame)]
      exact hstored later hlater
    · rename_i hpart
      refine List.pairwise_cons.2 ⟨fun later hlater => ?_, ih hrest⟩
      rcases mem_insertInto hlater with rfl | ⟨found, hfound, hnaming⟩
      · exact Bool.eq_false_iff.2 hpart
      · rw [isPartOf_congr hnaming ⟨rfl, rfl, rfl, rfl⟩]
        exact hstored found hfound

/-- The types of a catalog that is built by insertion are apart. -/
theorem apart_ofList (declarations : List TypeDecl) : Apart (ofList declarations).types := by
  have hfold : ∀ (ts : List TypeDecl) (c : Catalog), Apart c.types →
      Apart (ts.foldl insert c).types := by
    intro ts
    induction ts with
    | nil => exact fun c hc => hc
    | cons t ts ih => exact fun c hc => ih (c.insert t) (hc.insertInto t)
  exact hfold declarations {} .nil

/-- Types that are apart and parts of one type under one name are one entry. -/
theorem Apart.eq_of_isSameType {l : List TypeDecl} (h : Apart l) {t u : TypeDecl} (ht : t ∈ l)
    (hu : u ∈ l) (hname : sameName t.name u.name = true) (hsame : t.isSameType u = true) :
    t = u := by
  have hpart : isPartOf u t = true := by
    unfold isPartOf
    rw [hname, hsame, Bool.and_self]
  have hpart' : isPartOf t u = true := by
    unfold isPartOf sameName at *
    rw [Bool.beq_comm, hname, TypeDecl.isSameType_comm, hsame, Bool.and_self]
  obtain ⟨i, hi, rfl⟩ := List.mem_iff_getElem.1 ht
  obtain ⟨j, hj, rfl⟩ := List.mem_iff_getElem.1 hu
  have hpairs := List.pairwise_iff_getElem.1 h
  -- That types are apart is said of the later one, so both orders are excluded in turn.
  rcases Nat.lt_trichotomy i j with hlt | rfl | hlt
  · rw [hpairs i j hi hj hlt] at hpart
    exact Bool.noConfusion hpart
  · rfl
  · rw [hpairs j i hj hi hlt] at hpart'
    exact Bool.noConfusion hpart'

/-- The first of the types that are apart to pass a test that one of them passes is that one exactly
if none before it passes. -/
theorem Apart.find?_eq {l : List TypeDecl} (h : Apart l) {i : Nat} {t : TypeDecl}
    (hi : l[i]? = some t) {p : TypeDecl → Bool} (hp : p t = true) :
    ∃ found, l.find? p = some found ∧ (found = t ↔ ∀ u ∈ l.take i, p u = false) := by
  obtain ⟨hlt, hat⟩ := List.getElem?_eq_some_iff.1 hi
  have hsplit : l = l.take i ++ t :: l.drop (i + 1) := by
    rw [← hat, List.getElem_cons_drop, List.take_append_drop]
  cases hfind : (l.take i).find? p with
  | none =>
    have hnone : ∀ u ∈ l.take i, p u = false := fun u hu =>
      Bool.eq_false_iff.2 (List.find?_eq_none.1 hfind u hu)
    refine ⟨t, ?_, fun _ => hnone, fun _ => rfl⟩
    rw [hsplit, List.find?_append, hfind, Option.none_or, List.find?_cons_of_pos hp]
  | some found =>
    have hpass : p found = true := List.find?_some hfind
    have hmem : found ∈ l.take i := List.mem_of_find?_eq_some hfind
    refine ⟨found, ?_, ?_, ?_⟩
    · rw [hsplit, List.find?_append, hfind, Option.some_or]
    · -- The entry itself does not stand before itself.
      rintro rfl
      rw [hsplit] at h
      have hapart := (List.pairwise_append.1 h).2.2 found hmem found List.mem_cons_self
      unfold isPartOf at hapart
      rw [sameName_self, TypeDecl.isSameType_self] at hapart
      exact Bool.noConfusion hapart
    · intro hnone
      rw [hnone found hmem] at hpass
      exact Bool.noConfusion hpass

/-! ## What a type's own reference means -/

/-- Among the namesakes of a name, the first of its spelling that passes a test is the first stored
type of the name and arity that passes it. -/
theorem find?_namesakes (c : Catalog) (name : String) (arity : Nat) (context : Option TypeDecl)
    (p : TypeDecl → Bool) :
    ((c.namesakes name arity context).find? fun u => u.name == name && p u) =
      c.types.find? fun u => u.name == name && (u.arity == arity && p u) := by
  unfold namesakes
  rw [List.find?_filter]
  refine congrArg (c.types.find? ·) (funext fun u => ?_)
  -- A type of the same spelling is a namesake in every context.
  cases hname : u.name == name with
  | false => simp
  | true =>
    have hsame : sameName u.name name = true := eq_of_beq hname ▸ sameName_self _
    simp only [hsame, ite_self, Bool.and_true, Bool.true_and, Bool.decide_and, Bool.decide_eq_true]

/-- A type is among the namesakes of its own name. -/
theorem mem_namesakes_self {c : Catalog} {t : TypeDecl} (ht : t ∈ c.types)
    (context : Option TypeDecl) : t ∈ c.namesakes t.name t.arity context := by
  unfold namesakes
  rw [List.mem_filter, sameName_self, beq_self_eq_true, beq_self_eq_true, ite_self]
  exact ⟨ht, rfl⟩

/-- A namesake has the same name up to letter case. -/
theorem sameName_of_mem_namesakes {c : Catalog} {name : String} {arity : Nat}
    {context : Option TypeDecl} {u : TypeDecl} (hu : u ∈ c.namesakes name arity context) :
    u ∈ c.types ∧ sameName u.name name = true := by
  unfold namesakes at hu
  obtain ⟨hmem, htest⟩ := List.mem_filter.1 hu
  refine ⟨hmem, ?_⟩
  obtain ⟨-, hname⟩ := Bool.and_eq_true_iff.1 htest
  split at hname
  · exact hname
  · rw [eq_of_beq hname, sameName_self]

/-- Whether a type is declared in the scope of a context. -/
def isNear (context : Option TypeDecl) (t : TypeDecl) : Bool :=
  context.any fun around => sharesScope around.ignoresCase around t

/-- Whether no other type stands in the way of the `i`-th type of a catalog when its own reference
is read in a context. For a type with a scope, such a type stands before it, has its name and arity
and a scope that is that of the type or ends in it. For a type without, it is any namesake in the
scope of the context, or one of its name and arity that stands before it. -/
def IsUnobstructed (c : Catalog) (context : Option TypeDecl) (i : Nat) (t : TypeDecl) : Prop :=
  match t.scope? with
  | some scope => ∀ u ∈ c.types.take i, u.name = t.name → u.arity = t.arity →
      scopeFits (context.any (·.ignoresCase)) scope u = false
  | none => isNear context t = true ∨
      (∀ u ∈ c.namesakes t.name t.arity context, isNear context u = false) ∧
        ∀ u ∈ c.types.take i, u.name = t.name → u.arity ≠ t.arity

/-- The scope of a type fits it. -/
theorem scopeFits_self {anyCase : Bool} {t : TypeDecl} {scope : String}
    (hscope : t.scope? = some scope) : scopeFits anyCase scope t = true := by
  have hown : t.scope = some scope := (Option.filter_eq_some_iff.1 hscope).1
  unfold scopeFits
  rw [hown]
  dsimp only
  rw [beq_self_eq_true, Bool.true_or]

/-- The reference of a type with a scope means the first stored type of its name and arity whose
scope is that scope or ends in it. -/
theorem resolve_reference_of_scope {c : Catalog} {t : TypeDecl} (ht : t ∈ c.types)
    (context : Option TypeDecl) {scope : String} (hscope : t.scope? = some scope) :
    c.resolve t.reference context = c.types.find? fun u => u.name == t.name &&
      (u.arity == t.arity && scopeFits (context.any (·.ignoresCase)) scope u) := by
  have harity : (t.parameters.map TypeExpr.bare).length = t.arity := List.length_map _
  have hfits := @scopeFits_self (context.any (·.ignoresCase)) _ _ hscope
  -- The type itself passes the first test, so that test decides.
  have hfound : (c.namesakes t.name t.arity context).find? (fun u => u.name == t.name &&
      scopeFits (context.any (·.ignoresCase)) scope u) ≠ none := by
    intro hnone
    have := List.find?_eq_none.1 hnone t (mem_namesakes_self ht context)
    rw [beq_self_eq_true, hfits, Bool.and_self] at this
    exact this rfl
  unfold TypeDecl.reference
  rw [resolve_named, harity, hscope, ← find?_namesakes, grades, search_cons]
  simp only [Option.any_some]
  cases hfirst : (c.namesakes t.name t.arity context).find? (fun u => u.name == t.name &&
      scopeFits (context.any (·.ignoresCase)) scope u) with
  | some found => rfl
  | none => exact absurd hfirst hfound

/-- The reference of a type without a scope means the first namesake in the scope of the context,
those of its spelling first, or else the first stored type of its name and arity. -/
theorem resolve_reference_of_no_scope {c : Catalog} {t : TypeDecl} (ht : t ∈ c.types)
    (context : Option TypeDecl) (hscope : t.scope? = none) :
    c.resolve t.reference context =
      ((c.types.find? fun u => u.name == t.name && (u.arity == t.arity && isNear context u)).or
        ((c.namesakes t.name t.arity context).find? fun u =>
          u.name != t.name && isNear context u)).or
        (c.types.find? fun u => u.name == t.name && (u.arity == t.arity && true)) := by
  have harity : (t.parameters.map TypeExpr.bare).length = t.arity := List.length_map _
  have hnear (u : TypeDecl) :
      context.any (sharesScope (context.any (·.ignoresCase)) · u) = isNear context u := by
    cases context <;> rfl
  have hnever (l : List TypeDecl) : l.find? (fun _ => false) = none :=
    List.find?_eq_none.2 fun _ _ => Bool.false_ne_true
  -- The type is a namesake of its own spelling, so the search never goes on to the other spellings.
  have hfound : (c.namesakes t.name t.arity context).find? (fun u => u.name == t.name) ≠ none := by
    intro hnone
    have := List.find?_eq_none.1 hnone t (mem_namesakes_self ht context)
    rw [beq_self_eq_true] at this
    exact this rfl
  unfold TypeDecl.reference
  rw [resolve_named, harity, hscope, ← find?_namesakes c t.name t.arity context,
    ← find?_namesakes c t.name t.arity context, grades]
  simp only [search_cons, Option.any_none, Bool.and_false, Bool.and_true, hnear, hnever,
    Option.none_or, Option.or_assoc]
  cases hfirst : (c.namesakes t.name t.arity context).find? (fun u => u.name == t.name) with
  | some found => simp only [Option.some_or]
  | none => exact absurd hfirst hfound

/-- The lower case of a text is empty only if the text is. -/
theorem eq_empty_of_lowercase {s : String} (h : Text.lowercase s = "") : s = "" := by
  -- Every character has at least one in its lower case.
  have hlower : ∀ cs : List Char, Text.lower cs = [] → cs = [] := by
    intro cs hcs
    cases cs with
    | nil => rfl
    | cons ch rest =>
      unfold Text.lower Text.lowerAfter at hcs
      have hfirst := (List.append_eq_nil_iff.1 hcs).1
      split at hfirst
      · exact nomatch hfirst
      · unfold Text.lowerChar at hfirst
        split at hfirst
        · exact nomatch hfirst
        · split at hfirst
          · exact nomatch hfirst
          · split at hfirst <;> exact nomatch hfirst
  unfold Text.lowercase at h
  have hnil : s.toList = [] := by
    apply hlower
    rw [← String.toList_ofList (l := Text.lower s.toList), h]
    rfl
  rw [← String.ofList_toList (s := s), hnil]

/-- Two types share a scope if both name one and the two are the same as names are compared. -/
theorem sharesScope_iff {anyCase : Bool} {around t : TypeDecl} :
    sharesScope anyCase around t = true ↔ ∃ scope scope', around.scope = some scope ∧
      t.scope = some scope' ∧ fold anyCase scope = fold anyCase scope' := by
  unfold sharesScope
  cases around.scope <;> cases t.scope <;> simp

/-- A type without a scope is in the scope of a context only together with types without a scope. -/
theorem scope?_eq_none_of_isNear {context : Option TypeDecl} {t u : TypeDecl}
    (hscope : t.scope? = none) (ht : isNear context t = true) (hu : isNear context u = true) :
    u.scope? = none := by
  have hempty {anyCase : Bool} {s : String} (h : fold anyCase s = "") : s = "" := by
    unfold fold at h
    split at h
    · exact eq_empty_of_lowercase h
    · exact h
  have hfold (anyCase : Bool) : fold anyCase "" = "" := by
    cases anyCase <;> rfl
  unfold isNear at ht hu
  obtain ⟨around, hcontext, ht⟩ := (Option.any_eq_true _ _).1 ht
  rw [hcontext, Option.any_some] at hu
  obtain ⟨sc, s, hc, hts, hs⟩ := sharesScope_iff.1 ht
  obtain ⟨sc', s', hc', hus, hs'⟩ := sharesScope_iff.1 hu
  obtain rfl : sc = sc' := Option.some.inj (hc.symm.trans hc')
  -- The scopes of all three are the empty text.
  unfold TypeDecl.scope? at hscope ⊢
  rw [hts, Option.filter_eq_none_iff] at hscope
  have hsEmpty : s = "" := by simpa using hscope s rfl
  rw [hsEmpty, hfold] at hs
  rw [hempty hs, hfold] at hs'
  rw [hus, hempty hs'.symm]
  rfl

/-- What is found under a name and arity has them, and passes the test. -/
theorem spelled_of_find? {l : List TypeDecl} {name : String} {arity : Nat} {p : TypeDecl → Bool}
    {found : TypeDecl}
    (h : (l.find? fun u => u.name == name && (u.arity == arity && p u)) = some found) :
    found ∈ l ∧ found.name = name ∧ found.arity = arity ∧ p found = true := by
  have htest := List.find?_some h
  simp only [Bool.and_eq_true, beq_iff_eq] at htest
  exact ⟨List.mem_of_find?_eq_some h, htest⟩

/-- Of types that are apart, a namesake of one is a part of it only if it is that one. -/
theorem Apart.isSameType_iff {l : List TypeDecl} (h : Apart l) {t found : TypeDecl} (ht : t ∈ l)
    (hfound : found ∈ l) (hname : sameName found.name t.name = true) :
    found.isSameType t = true ↔ found = t := by
  refine ⟨h.eq_of_isSameType hfound ht hname, ?_⟩
  rintro rfl
  exact TypeDecl.isSameType_self found

/-- Of types that are apart, the first of the name and arity of one to pass a test that this one
passes is the same type exactly if none of them before it passes. -/
theorem Apart.find?_spelled {l : List TypeDecl} (h : Apart l) {i : Nat} {t : TypeDecl}
    (hi : l[i]? = some t) {p : TypeDecl → Bool} (hp : p t = true) :
    ∃ found, (l.find? fun u => u.name == t.name && (u.arity == t.arity && p u)) = some found ∧
      (found.isSameType t = true ↔
        ∀ u ∈ l.take i, u.name = t.name → u.arity = t.arity → p u = false) := by
  have hpass : (t.name == t.name && (t.arity == t.arity && p t)) = true := by
    rw [beq_self_eq_true, beq_self_eq_true, hp, Bool.and_self, Bool.and_self]
  obtain ⟨found, hfound, hiff⟩ :=
    @Apart.find?_eq _ h _ _ hi (fun u => u.name == t.name && (u.arity == t.arity && p u)) hpass
  obtain ⟨hmem, hname, -⟩ := spelled_of_find? hfound
  refine ⟨found, hfound, ?_⟩
  rw [h.isSameType_iff (List.mem_of_getElem? hi) hmem (hname ▸ sameName_self _), hiff]
  simp

/-- Without a scope, the reference of a type in the scope of the context leads back. -/
theorem Apart.leads_back_of_near {c : Catalog} (h : Apart c.types) {context : Option TypeDecl}
    {i : Nat} {t : TypeDecl} (hi : c.types[i]? = some t) (hscope : t.scope? = none)
    (hnear : isNear context t = true) :
    ∃ found, c.resolve t.reference context = some found ∧ found.isSameType t = true := by
  obtain ⟨found, hfound, -⟩ := h.find?_spelled hi hnear
  rw [resolve_reference_of_no_scope (List.mem_of_getElem? hi) context hscope, hfound]
  refine ⟨found, rfl, ?_⟩
  -- Whatever is found in the scope of the context has the full name of the type.
  obtain ⟨-, hname, harity, hfoundNear⟩ := spelled_of_find? hfound
  have hfull : found.fullName = t.fullName := by
    unfold TypeDecl.fullName
    rw [scope?_eq_none_of_isNear hscope hnear hfoundNear, hscope]
    exact hname
  exact TypeDecl.isSameType_of_fullName hfull harity

/-- Without a scope, the reference of a type elsewhere leads back unless a namesake is in the scope
of the context, or one of its name and arity was stored before. -/
theorem Apart.leads_back_of_far {c : Catalog} (h : Apart c.types) {context : Option TypeDecl}
    {i : Nat} {t : TypeDecl} (hi : c.types[i]? = some t) (hscope : t.scope? = none)
    (hnear : isNear context t = false) :
    ∃ found, c.resolve t.reference context = some found ∧ (found.isSameType t = true ↔
      (∀ u ∈ c.namesakes t.name t.arity context, isNear context u = false) ∧
        ∀ u ∈ c.types.take i, u.name = t.name → u.arity ≠ t.arity) := by
  have ht : t ∈ c.types := List.mem_of_getElem? hi
  rw [resolve_reference_of_no_scope ht context hscope,
    ← find?_namesakes c t.name t.arity context (isNear context)]
  cases hnearest : ((c.namesakes t.name t.arity context).find? fun u =>
      u.name == t.name && isNear context u).or
        ((c.namesakes t.name t.arity context).find? fun u =>
          u.name != t.name && isNear context u) with
  | some found =>
    -- A namesake in the scope of the context is met first, and it is another type.
    have hfound : found ∈ c.namesakes t.name t.arity context ∧ isNear context found = true := by
      rcases Option.or_eq_some_iff.1 hnearest with hfind | ⟨-, hfind⟩
      · have htest := List.find?_some hfind
        exact ⟨List.mem_of_find?_eq_some hfind, (Bool.and_eq_true_iff.1 htest).2⟩
      · have htest := List.find?_some hfind
        exact ⟨List.mem_of_find?_eq_some hfind, (Bool.and_eq_true_iff.1 htest).2⟩
    obtain ⟨hmem, hname⟩ := sameName_of_mem_namesakes hfound.1
    refine ⟨found, rfl, iff_of_false ?_ fun hnone => ?_⟩
    · rw [h.isSameType_iff ht hmem hname]
      rintro rfl
      rw [hnear] at hfound
      exact Bool.noConfusion hfound.2
    · rw [hnone.1 found hfound.1] at hfound
      exact Bool.noConfusion hfound.2
  | none =>
    obtain ⟨hspelled, hother⟩ := Option.or_eq_none_iff.1 hnearest
    have hnone : ∀ u ∈ c.namesakes t.name t.arity context, isNear context u = false := by
      intro u hu
      have h₁ := List.find?_eq_none.1 hspelled u hu
      have h₂ := List.find?_eq_none.1 hother u hu
      cases hname : u.name == t.name with
      | true => simpa [hname] using h₁
      | false => simpa [bne, hname] using h₂
    obtain ⟨found, hfound, hiff⟩ := @Apart.find?_spelled _ h _ _ hi (fun _ => true) rfl
    refine ⟨found, hfound, hiff.trans ⟨fun hfirst => ⟨hnone, ?_⟩, fun hfirst => ?_⟩⟩
    · exact fun u hu hname harity => Bool.noConfusion (hfirst u hu hname harity)
    · exact fun u hu hname harity => absurd harity (hfirst.2 u hu hname)

/-- The reference of a stored type means some type in every context, and leads back to the type
exactly if none is in its way. -/
theorem reference_leads_back_iff (declarations : List TypeDecl) (context : Option TypeDecl)
    {i : Nat} {t : TypeDecl} (hi : (ofList declarations).types[i]? = some t) :
    ∃ found, (ofList declarations).resolve t.reference context = some found ∧
      (found.isSameType t = true ↔ (ofList declarations).IsUnobstructed context i t) := by
  have hapart := apart_ofList declarations
  generalize ofList declarations = c at hi hapart
  unfold IsUnobstructed
  -- With a scope the reference is qualified by it. Without one, the context decides whether the
  -- type is near.
  cases hscope : t.scope? with
  | some scope =>
    rw [resolve_reference_of_scope (List.mem_of_getElem? hi) context hscope]
    exact hapart.find?_spelled hi (scopeFits_self hscope)
  | none =>
    dsimp only
    cases hnear : isNear context t with
    | true =>
      obtain ⟨found, hfound, hsame⟩ := hapart.leads_back_of_near hi hscope hnear
      exact ⟨found, hfound, iff_of_true hsame (.inl rfl)⟩
    | false =>
      rw [or_iff_right Bool.false_ne_true]
      exact hapart.leads_back_of_far hi hscope hnear

/-- A class `Order` of a namespace, or of none. -/
def order (scope : Option String) : TypeDecl where
  name := "Order"
  scope := scope
  kind := .class

/-- An earlier namesake whose namespace does not end in that of the type is not in the way. -/
theorem reference_leads_back_beside :
    (ofList [order (some "Shop.Legacy"), order (some "Shop.Models")]).types[1]? =
        some (order (some "Shop.Models")) ∧
      ∃ found, (ofList [order (some "Shop.Legacy"), order (some "Shop.Models")]).resolve
          (order (some "Shop.Models")).reference (some (order (some "Shop.Legacy"))) = some found ∧
        found.isSameType (order (some "Shop.Models")) = true := by
  have hi : (ofList [order (some "Shop.Legacy"), order (some "Shop.Models")]).types[1]? =
      some (order (some "Shop.Models")) := by decide +kernel
  have hearlier : (ofList [order (some "Shop.Legacy"), order (some "Shop.Models")]).types.take 1 =
      [order (some "Shop.Legacy")] := by decide +kernel
  obtain ⟨found, hfound, hiff⟩ := reference_leads_back_iff
    [order (some "Shop.Legacy"), order (some "Shop.Models")] (some (order (some "Shop.Legacy"))) hi
  refine ⟨hi, found, hfound, hiff.2 ?_⟩
  show ∀ u ∈ _, _
  rw [hearlier]
  intro u hu _ _
  obtain rfl := List.mem_singleton.1 hu
  decide +kernel

/-- A reference leads to another type if a namesake stored earlier has a namespace that ends in that
of the type, or if the type has none and a namesake is stored earlier. -/
theorem reference_leads_astray :
    (order (some "Shop") ∈ (ofList [order (some "Old.Shop"), order (some "Shop")]).types ∧
      ∃ found, (ofList [order (some "Old.Shop"), order (some "Shop")]).resolve
          (order (some "Shop")).reference none = some found ∧
        found.isSameType (order (some "Shop")) = false) ∧
    (order none ∈ (ofList [order (some "Shop"), order none]).types ∧
      ∃ found, (ofList [order (some "Shop"), order none]).resolve
          (order none).reference none = some found ∧
        found.isSameType (order none) = false) := by
  refine ⟨⟨?_, order (some "Old.Shop"), ?_, ?_⟩, ?_, order (some "Shop"), ?_, ?_⟩ <;>
    decide +kernel

end Catalog

/-! ## Types without namesakes -/

/-- A reference means a type that is alone with its name and arity exactly if it has as many
arguments as the type has parameters. -/
theorem Model.resolve_eq_some_iff_of_alone {m : Model} {t : TypeDecl} (ht : t ∈ m.types)
    (halone : ∀ u ∈ m.types, Catalog.sameName u.name t.name = true → u.arity = t.arity → u = t)
    (qualifier : Option String) (args : List TypeExpr) (context : Option TypeDecl) :
    m.resolve (.named qualifier t.name args) context = some t ↔ args.length = t.arity := by
  refine ⟨fun h => (Model.arity_of_resolve h).symm, fun hlength => ?_⟩
  -- No layer means another type, and one layer has the type.
  have honly : ∀ c ∈ m.layers, ∀ u, c.resolve (.named qualifier t.name args) context = some u →
      u = t := by
    intro c hc u hu
    obtain ⟨i, hi, -⟩ := (c.resolve_named_eq_some_iff qualifier t.name args context u).1 hu
    have hmem := List.mem_of_getElem? hi
    obtain ⟨htypes, hname⟩ := Catalog.sameName_of_mem_namesakes hmem
    have harity : u.arity = args.length :=
      eq_of_beq (Bool.and_eq_true_iff.1 (List.mem_filter.1 hmem).2).1
    exact halone u (List.mem_flatMap.2 ⟨c, hc, htypes⟩) hname (harity.trans hlength)
  obtain ⟨c, hc, htypes⟩ := List.mem_flatMap.1 ht
  have hsome : (m.resolve (.named qualifier t.name args) context).isSome = true := by
    refine List.findSome?_isSome_iff.2 ⟨c, hc, ?_⟩
    rw [Option.isSome_iff_ne_none, Catalog.resolve_named]
    intro hnone
    have hself := Catalog.mem_namesakes_self htypes context
    rw [← hlength] at hself
    have hfail := search_eq_none_iff.1 hnone t hself (fun u => u.name == t.name)
      (by simp [Catalog.grades])
    exact Bool.noConfusion (hfail.symm.trans (beq_self_eq_true t.name))
  obtain ⟨u, hu⟩ := Option.isSome_iff_exists.1 hsome
  obtain ⟨c', hc', hfound⟩ := List.exists_of_findSome?_eq_some hu
  rw [hu, honly c' hc' u hfound]

end ViewForge
