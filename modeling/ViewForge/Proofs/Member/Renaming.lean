import ViewForge.Proofs.Member.Walk
import ViewForge.Proofs.Model.Correspondence
import ViewForge.Proofs.TypeExpr.Substitution

/-!
# Type parameters along a walk

What a type parameter is called does not show outside its class. A class whose parameters are
renamed, with their bare occurrences in its base list and its property types, mentions, seen from
the type at the start of a walk, the same types (`substitute_renaming`). So the walks over two
models that differ in such names visit classes that are seen alike (`SeenAlike`), and the exposed
members show the same (`parameters_bind_hygienically`).

The bindings of a class are those of the reference to it, as it is written, composed with those of
the class before (`Bindings.compose`); where this captures no name, a type seen from the start is
seen step by step.
-/

namespace ViewForge

open TypeExpr (bare)

/-! ## Bindings -/

namespace Bindings

variable {b b' : Bindings} {name : String} {t : TypeExpr}

theorem mem_of_lookup? (h : b.lookup? name = some t) : (name, t) ∈ b := by
  obtain ⟨entry, hfind, rfl⟩ := Option.map_eq_some_iff.1 h
  have hname := List.find?_some hfind
  obtain rfl : entry.1 = name := eq_of_beq hname
  exact List.mem_reverse.1 (List.mem_of_find?_eq_some hfind)

theorem lookup?_eq_none_iff : b.lookup? name = none ↔ name ∉ b.map (·.1) := by
  unfold lookup?
  rw [Option.map_eq_none_iff, List.find?_eq_none, List.mem_map]
  simp only [List.mem_reverse, beq_iff_eq, not_exists, not_and]

/-- Where no parameter has two entries, each entry counts. -/
theorem lookup?_eq_some_of_mem (hnodup : (b.map (·.1)).Nodup) (h : (name, t) ∈ b) :
    b.lookup? name = some t := by
  cases hfound : b.lookup? name with
  | none => exact absurd (List.mem_map_of_mem h) (lookup?_eq_none_iff.1 hfound)
  | some u =>
    have hentry := List.inj_on_of_nodup_map hnodup (mem_of_lookup? hfound) h rfl
    rw [(Prod.mk.inj hentry).2]

theorem map_fst_zip {names : List String} {ts : List TypeExpr} (h : ts.length = names.length) :
    (names.zip ts).map (·.1) = names :=
  List.map_fst_zip (Nat.le_of_eq h.symm)

/-- Bindings whose types are seen through others. -/
def compose (b b' : Bindings) : Bindings := b'.map fun (name, t) => (name, t.substitute b.lookup?)

theorem lookup?_compose (b b' : Bindings) (name : String) :
    (compose b b').lookup? name = (b'.lookup? name).map (TypeExpr.substitute b.lookup?) := by
  unfold compose
  conv_lhs => unfold lookup?
  rw [← List.map_reverse, List.find?_map, Option.map_map, lookup?, Option.map_map]
  rfl

/-- The bindings under which parameters are called by other names. -/
def renamed (names names' : List String) : Bindings := names.zip (names'.map bare)

end Bindings

/-- A type in which parameters have other names is, with the arguments for these, what the type was
with the arguments for the parameters, unless one of the new names stood there for something else. -/
theorem TypeExpr.substitute_renaming {names names' : List String} {args : List TypeExpr}
    (hnodup : names.Nodup) (hnodup' : names'.Nodup) (hlength : names'.length = names.length)
    (hargs : args.length = names.length) {t : TypeExpr}
    (hfresh : ∀ name ∈ t.bareNames, name ∈ names' → name ∈ names) :
    (t.substitute (Bindings.renamed names names').lookup?).substitute
        (Bindings.lookup? (names'.zip args)) =
      t.substitute (Bindings.lookup? (names.zip args)) := by
  have hkeys : (Bindings.renamed names names').map (·.1) = names :=
    Bindings.map_fst_zip ((List.length_map _).trans hlength)
  have hkeysArgs : (names.zip args).map (·.1) = names := Bindings.map_fst_zip hargs
  have hkeysArgs' : (names'.zip args).map (·.1) = names' :=
    Bindings.map_fst_zip (hargs.trans hlength.symm)
  rw [TypeExpr.substitute_substitute fun name hname hnone => ?_]
  · refine TypeExpr.substitute_congr fun name _ => ?_
    by_cases hmem : name ∈ names
    · -- The parameter, its new name and its argument stand at one place of the three lists.
      obtain ⟨i, hi, rfl⟩ := List.mem_iff_getElem.1 hmem
      have hi' : i < names'.length := hlength ▸ hi
      have hiArgs : i < args.length := hargs ▸ hi
      have hnew : (Bindings.renamed names names').lookup? names[i] = some (bare names'[i]) := by
        refine Bindings.lookup?_eq_some_of_mem (hkeys.symm ▸ hnodup) ?_
        refine List.mem_iff_getElem.2 ⟨i, ?_, ?_⟩
        · simp only [Bindings.renamed, List.length_zip, List.length_map]
          omega
        · simp only [Bindings.renamed, List.getElem_zip, List.getElem_map]
      have harg : Bindings.lookup? (names.zip args) names[i] = some args[i] := by
        refine Bindings.lookup?_eq_some_of_mem (hkeysArgs.symm ▸ hnodup) ?_
        refine List.mem_iff_getElem.2 ⟨i, ?_, List.getElem_zip⟩
        rw [List.length_zip]
        omega
      have harg' : Bindings.lookup? (names'.zip args) names'[i] = some args[i] := by
        refine Bindings.lookup?_eq_some_of_mem (hkeysArgs'.symm ▸ hnodup') ?_
        refine List.mem_iff_getElem.2 ⟨i, ?_, List.getElem_zip⟩
        rw [List.length_zip]
        omega
      rw [hnew, harg, Option.map_some, TypeExpr.substitute_bare, harg', Option.getD_some]
    · rw [Bindings.lookup?_eq_none_iff.2 (hkeys.symm ▸ hmem),
        Bindings.lookup?_eq_none_iff.2 (hkeysArgs.symm ▸ hmem), Option.map_none]
  · rw [Bindings.lookup?_eq_none_iff, hkeys] at hnone
    rw [Bindings.lookup?_eq_none_iff, hkeysArgs']
    exact fun hmem => hnone (hfresh name hname hmem)

/-! ## Renamed classes -/

/-- The type that a text denotes, seen through bindings. -/
def Bindings.seen (b : Bindings) (text : String) : Option TypeExpr :=
  (TypeExpr.parse? text).map (TypeExpr.substitute b.lookup?)

namespace TypeDecl

/-- The texts of a declaration that may denote types. -/
def typeTexts (t : TypeDecl) : List String := t.bases ++ t.properties.map (·.typeText)

/-- Whether no type that a declaration mentions is written with a namespace. -/
def IsPlain (t : TypeDecl) : Prop :=
  ∀ text ∈ t.typeTexts, ∀ u, TypeExpr.parse? text = some u → u.isUnqualified = true

/-- Whether a class is another with its type parameters renamed: each has a new name, and each text
denotes the type that it denoted, with the new names for the parameters. No new name stood for
something else in these types. -/
structure RenamesParameters (t t' : TypeDecl) : Prop where
  /-- All else stays as it is. -/
  rest : t' =
    { t with parameters := t'.parameters, bases := t'.bases, properties := t'.properties }
  /-- There are as many parameters. -/
  arity : t'.arity = t.arity
  /-- The parameters are different. -/
  nodup : t.parameters.Nodup
  /-- So are the new ones. -/
  nodup' : t'.parameters.Nodup
  /-- No new name is another name in the types. -/
  fresh : ∀ text ∈ t.typeTexts, ∀ u, TypeExpr.parse? text = some u →
    ∀ name ∈ u.bareNames, name ∈ t'.parameters → name ∈ t.parameters
  /-- The base types have the new names. -/
  bases : List.Forall₂ (fun text text' => TypeExpr.parse? text' =
    (Bindings.renamed t.parameters t'.parameters).seen text) t.bases t'.bases
  /-- The types of the properties have the new names. -/
  properties : List.Forall₂ (fun p p' : Property => p' = { p with typeText := p'.typeText } ∧
    TypeExpr.parse? p'.typeText =
      (Bindings.renamed t.parameters t'.parameters).seen p.typeText) t.properties t'.properties

/-- A class as it is, or with its type parameters renamed. -/
def RenamedAs (t t' : TypeDecl) : Prop := t' = t ∨ t.RenamesParameters t'

variable {t t' : TypeDecl}

theorem RenamedAs.sameNaming (h : t.RenamedAs t') : t.SameNaming t' := by
  rcases h with rfl | h
  · exact ⟨rfl, rfl, rfl, rfl⟩
  · exact ⟨by rw [h.rest], by rw [h.rest], h.arity.symm, by rw [h.rest]⟩

theorem RenamedAs.hasMembers (h : t.RenamedAs t') : t.hasMembers = t'.hasMembers := by
  rcases h with rfl | h
  · rfl
  · rw [h.rest]
    rfl

theorem SameNaming.fullName (h : t.SameNaming t') : t.fullName = t'.fullName := by
  unfold TypeDecl.fullName TypeDecl.scope?
  rw [h.name, h.scope]

end TypeDecl

namespace Member

variable {m m' : Model} {t t' : TypeDecl} {b b' : Bindings}

/-! ## Classes that are seen alike -/

/-- Whether a type can be read and mentions no namespace, so that it is read again as it is written
out. -/
structure IsSettled (t : TypeExpr) : Prop where
  /-- It can be read. -/
  readable : t.IsReadable
  /-- It mentions no namespace. -/
  unqualified : t.isUnqualified = true

/-- Whether two visits of a walk show the same: the types are named alike, and seen through the
bindings their texts denote the same types. These are read again as they are written out. -/
structure SeenAlike (v v' : TypeDecl × Bindings) : Prop where
  /-- The types are named alike. -/
  naming : v.1.SameNaming v'.1
  /-- The base types are the same. -/
  bases : List.Forall₂ (fun text text' => v.2.seen text = v'.2.seen text') v.1.bases v'.1.bases
  /-- The properties are the same up to the texts of their types, and these denote the same. -/
  properties : List.Forall₂ (fun p p' : Property => p' = { p with typeText := p'.typeText } ∧
    v.2.seen p.typeText = v'.2.seen p'.typeText) v.1.properties v'.1.properties
  /-- What is seen can be read again. -/
  settled : ∀ text ∈ v.1.typeTexts, ∀ u, v.2.seen text = some u → IsSettled u

/-- Settled types, put for names in a type that was read and mentions no namespace, make such a
type. -/
theorem isSettled_of_seen (hplain : t.IsPlain)
    (hb : ∀ name u, b.lookup? name = some u → IsSettled u) :
    ∀ text ∈ t.typeTexts, ∀ u, b.seen text = some u → IsSettled u := by
  intro text htext u hu
  obtain ⟨written, hwritten, rfl⟩ := Option.map_eq_some_iff.1 hu
  exact ⟨(TypeExpr.isReadable_of_parse? hwritten).substitute fun name u h => (hb name u h).readable,
    TypeExpr.isUnqualified_substitute (fun name u h => (hb name u h).unqualified)
      (hplain text htext written hwritten)⟩

/-- A text in which parameters have other names is seen with the arguments for these as the text
was. -/
theorem seen_renaming (h : t.RenamesParameters t') {args : List TypeExpr}
    (hargs : args.length = t.arity) {text text' : String} (htext : text ∈ t.typeTexts)
    (hparse : TypeExpr.parse? text' = (Bindings.renamed t.parameters t'.parameters).seen text) :
    Bindings.seen (t.parameters.zip args) text = Bindings.seen (t'.parameters.zip args) text' := by
  unfold Bindings.seen
  rw [hparse]
  unfold Bindings.seen
  cases hwritten : TypeExpr.parse? text with
  | none => rfl
  | some written =>
    have hrenamed := TypeExpr.substitute_renaming h.nodup h.nodup' h.arity hargs
      (h.fresh text htext written hwritten)
    rw [Option.map_some, Option.map_some, Option.map_some, hrenamed]

/-- A class and the same with its parameters renamed are seen alike with the same arguments. -/
theorem seenAlike_of_renamedAs (h : t.RenamedAs t') (hplain : t.IsPlain) {args : List TypeExpr}
    (hargs : args.length = t.arity) (hsettled : ∀ u ∈ args, IsSettled u) :
    SeenAlike (t, t.parameters.zip args) (t', t'.parameters.zip args) := by
  have hb : ∀ name u, Bindings.lookup? (t.parameters.zip args) name = some u → IsSettled u :=
    fun name u hu => hsettled u (List.of_mem_zip (Bindings.mem_of_lookup? hu)).2
  refine ⟨h.sameNaming, ?_, ?_, isSettled_of_seen hplain hb⟩
  · rcases h with rfl | h
    · exact List.forall₂_same.2 fun _ _ => rfl
    · refine ((List.forall₂_and_left _ _).2 ⟨fun _ hmem => hmem, h.bases⟩).imp ?_
      rintro text text' ⟨htext, hparse⟩
      exact seen_renaming h hargs (List.mem_append_left _ htext) hparse
  · rcases h with rfl | h
    · exact List.forall₂_same.2 fun _ _ => ⟨rfl, rfl⟩
    · refine ((List.forall₂_and_left _ _).2 ⟨fun _ hmem => hmem, h.properties⟩).imp ?_
      rintro p p' ⟨hp, hrest, hparse⟩
      exact ⟨hrest, seen_renaming h hargs
        (List.mem_append_right _ (List.mem_map_of_mem (f := (·.typeText)) hp)) hparse⟩

/-- Whether a name can be that of a type parameter: it is a word and not the spelling of a built-in
type or of the untyped marker. -/
structure IsParameterName (name : String) : Prop where
  /-- It is a word. -/
  isName : TypeExpr.IsName name
  /-- It is not the untyped marker. -/
  ne_dynamic : name ≠ "dynamic"
  /-- It is no spelling of a built-in type. -/
  builtinName? : TypeExpr.builtinName? name = none

/-- The name of a type parameter can be read. -/
theorem IsParameterName.isSettled {name : String} (h : IsParameterName name) :
    IsSettled (bare name) := by
  refine ⟨⟨h.isName, ?_, trivial⟩, rfl⟩
  unfold TypeExpr.ofName
  simp [h.builtinName?, h.ne_dynamic]

/-- A class with other names for its type parameters, also where its texts mention these. -/
def withParameters (names : List String) (t : TypeDecl) : TypeDecl :=
  let rewritten (text : String) : String :=
    (((Bindings.renamed t.parameters names).seen text).map TypeExpr.render).getD text
  { t with
    parameters := names
    bases := t.bases.map rewritten
    properties := t.properties.map fun p => { p with typeText := rewritten p.typeText } }

/-- A class can be given any other names for its parameters that are different and stand for nothing
else in its types. -/
theorem renamesParameters_withParameters (names : List String) (hplain : t.IsPlain)
    (harity : names.length = t.arity) (hnodup : t.parameters.Nodup) (hnodup' : names.Nodup)
    (hnames : ∀ name ∈ names, IsParameterName name)
    (hfresh : ∀ text ∈ t.typeTexts, ∀ u, TypeExpr.parse? text = some u →
      ∀ name ∈ u.bareNames, name ∈ names → name ∈ t.parameters) :
    t.RenamesParameters (withParameters names t) := by
  have hsettled := isSettled_of_seen (b := Bindings.renamed t.parameters names) hplain <| by
    intro name u hu
    obtain ⟨name', hname', rfl⟩ := List.mem_map.1 (List.of_mem_zip (Bindings.mem_of_lookup? hu)).2
    exact (hnames name' hname').isSettled
  -- A text that is rendered anew denotes the type that was seen in it, as the new names are
  -- readable.
  have hparse : ∀ text ∈ t.typeTexts, TypeExpr.parse?
      ((((Bindings.renamed t.parameters names).seen text).map TypeExpr.render).getD text) =
        (Bindings.renamed t.parameters names).seen text := by
    intro text htext
    cases hseen : (Bindings.renamed t.parameters names).seen text with
    | none => exact Option.map_eq_none_iff.1 hseen
    | some u =>
      have hu := hsettled text htext u hseen
      rw [Option.map_some, Option.getD_some, TypeExpr.parse?_render_of_isReadable hu.readable,
        TypeExpr.unqualified_eq_self hu.readable hu.unqualified]
  refine ⟨rfl, harity, hnodup, hnodup', hfresh, ?_, ?_⟩
  · refine List.forall₂_map_right_iff.2 (List.forall₂_same.2 fun text htext => ?_)
    exact hparse text (List.mem_append_left _ htext)
  · refine List.forall₂_map_right_iff.2 (List.forall₂_same.2 fun p hp => ⟨rfl, ?_⟩)
    exact hparse p.typeText (List.mem_append_right _ (List.mem_map_of_mem (f := (·.typeText)) hp))

/-! ## Walks -/

/-- The base class is what an entry of the base list means, seen through the bindings. -/
theorem exists_of_baseIn? {base : TypeDecl} {reference : TypeExpr} {texts : List String}
    (h : baseIn? m t b texts = some (base, reference)) :
    ∃ text ∈ texts, b.seen text = some reference ∧ m.resolve reference (some t) = some base := by
  induction texts with
  | nil => exact nomatch h
  | cons text rest ih =>
    unfold baseIn? at h
    split at h
    · exact (ih h).imp fun _ => And.imp_left (List.mem_cons_of_mem _)
    · rename_i written hwritten
      dsimp only at h
      split at h
      · exact nomatch h
      split at h
      · rename_i found hfound
        obtain ⟨rfl, rfl⟩ := Prod.mk.inj (Option.some.inj h)
        refine ⟨text, List.mem_cons_self, ?_, Option.eq_some_of_filter_eq_some hfound⟩
        rw [Bindings.seen, hwritten, Option.map_some]
      · exact (ih h).imp fun _ => And.imp_left (List.mem_cons_of_mem _)

/-- Base lists that are seen alike have corresponding base classes, with the same reference. -/
theorem rel_baseIn? (hm : Model.Correspond TypeDecl.RenamedAs m m') (hnaming : t.SameNaming t')
    {texts texts' : List String}
    (h : List.Forall₂ (fun text text' => b.seen text = b'.seen text') texts texts') :
    Option.Rel (fun found found' => found.1.RenamedAs found'.1 ∧ found.2 = found'.2)
      (baseIn? m t b texts) (baseIn? m' t' b' texts') := by
  induction h with
  | nil => exact .none
  | @cons text text' rest rest' hseen _ ih =>
    unfold baseIn?
    unfold Bindings.seen at hseen
    -- The entries are passed over in both lists up to the first that means a type with members in
    -- both.
    cases hwritten : TypeExpr.parse? text with
    | none =>
      rw [hwritten, Option.map_none, eq_comm, Option.map_eq_none_iff] at hseen
      rw [hseen]
      exact ih
    | some written =>
      rw [hwritten, Option.map_some, eq_comm, Option.map_eq_some_iff] at hseen
      obtain ⟨written', hwritten', hsame⟩ := hseen
      rw [hwritten']
      dsimp only
      rw [hsame]
      split
      · exact .none
      · have hfound := rel_filter (p := (·.hasMembers)) (q := (·.hasMembers))
          (Model.rel_resolve (fun _ _ => TypeDecl.RenamedAs.sameNaming) hm hnaming
            (written.substitute b.lookup?)) fun _ _ => TypeDecl.RenamedAs.hasMembers
        revert hfound
        generalize (m.resolve (written.substitute b.lookup?) (some t)).filter _ = found
        generalize (m'.resolve (written.substitute b.lookup?) (some t')).filter _ = found'
        rintro (hfound | _)
        · exact .some ⟨hfound, rfl⟩
        · exact ih

/-- The arguments in a type that can be read and mentions no namespace are such types. -/
theorem isSettled_of_mem_args {reference : TypeExpr} (h : IsSettled reference) :
    ∀ u ∈ reference.args, IsSettled u := by
  cases reference with
  | named qualifier name args =>
    obtain ⟨⟨-, -, hreadable⟩, hunqualified⟩ := h
    replace hunqualified := (Bool.and_eq_true_iff.1 hunqualified).2
    show ∀ u ∈ args, IsSettled u
    clear name qualifier
    induction args with
    | nil => exact List.forall_mem_nil _
    | cons arg args ih =>
      obtain ⟨harg, hargs⟩ := hreadable
      obtain ⟨hplain, hplains⟩ := Bool.and_eq_true_iff.1 hunqualified
      exact List.forall_mem_cons.2 ⟨⟨harg, hplain⟩, ih hargs hplains⟩
  | _ => exact List.forall_mem_nil _

/-- From types that are seen alike on, the walks visit types that are seen alike. -/
theorem forall₂_chainWith (hm : Model.Correspond TypeDecl.RenamedAs m m')
    (hplain : ∀ t ∈ m.types, t.IsPlain) : ∀ (fuel : Nat) (met : List String)
    {t t' : TypeDecl} {b b' : Bindings}, SeenAlike (t, b) (t', b') →
    List.Forall₂ SeenAlike (chainWith m fuel met t b) (chainWith m' fuel met t' b')
  | 0, _, _, _, _, _, _ => .nil
  | fuel + 1, met, t, t', b, b', h => by
    have hname : t.fullName = t'.fullName := h.naming.fullName
    have hbase := rel_baseIn? hm h.naming h.bases
    unfold chainWith base?
    rw [← hname]
    split
    · exact .nil
    refine .cons h ?_
    generalize hfound : baseIn? m t b t.bases = found at hbase
    generalize baseIn? m' t' b' t'.bases = found' at hbase
    rcases hbase with @⟨⟨base, reference⟩, ⟨base', _⟩, ⟨hrenamed, rfl⟩⟩ | _
    · -- The reference mentions what is seen in the base list, so its arguments are settled.
      obtain ⟨text, htext, hseen, hresolve⟩ := exists_of_baseIn? hfound
      have hsettled := h.settled text (List.mem_append_left _ htext) reference hseen
      exact forall₂_chainWith hm hplain fuel _ <|
        seenAlike_of_renamedAs hrenamed (hplain base (Model.mem_types_of_resolve hresolve))
          (Model.arity_of_resolve hresolve).symm (isSettled_of_mem_args hsettled)
    · exact .nil

/-! ## Members -/

/-- Whether two declared properties show the same. -/
structure ShownAlike (entry entry' : Property × TypeDecl × Bindings) : Prop where
  /-- The properties are the same up to the texts of their types. -/
  property : entry'.1 = { entry.1 with typeText := entry'.1.typeText }
  /-- The types that declare them are named alike. -/
  naming : entry.2.1.SameNaming entry'.2.1
  /-- The texts of their types are seen alike. -/
  seen : entry.2.2.seen entry.1.typeText = entry'.2.2.seen entry'.1.typeText
  /-- What is seen can be read again. -/
  settled : ∀ u, entry.2.2.seen entry.1.typeText = some u → IsSettled u

/-- Visits that are seen alike declare properties that show the same. -/
theorem forall₂_declared {visited visited' : List (TypeDecl × Bindings)}
    (h : List.Forall₂ SeenAlike visited visited') :
    List.Forall₂ ShownAlike (declared visited) (declared visited') := by
  induction h with
  | nil => exact .nil
  | @cons v v' rest rest' hv _ ih =>
    unfold declared at ih ⊢
    rw [List.flatMap_cons, List.flatMap_cons]
    refine List.rel_append ?_ ih
    rw [List.forall₂_map_left_iff, List.forall₂_map_right_iff]
    refine ((List.forall₂_and_left _ _).2 ⟨fun _ hmem => hmem, hv.properties⟩).imp ?_
    rintro p p' ⟨hp, hrest, hseen⟩
    exact ⟨hrest, hv.naming, hseen,
      hv.settled _ (List.mem_append_right _ (List.mem_map_of_mem (f := (·.typeText)) hp))⟩

/-- The first entries of their names correspond if all entries do. -/
theorem forall₂_firstOfName {l l' : List (Property × TypeDecl × Bindings)}
    (h : List.Forall₂ ShownAlike l l') (seen : List String) :
    List.Forall₂ ShownAlike (firstOfName seen l) (firstOfName seen l') := by
  induction h generalizing seen with
  | nil => exact .nil
  | @cons entry entry' rest rest' hentry _ ih =>
    have hname : entry'.1.name = entry.1.name := by rw [hentry.property]
    rw [firstOfName, firstOfName, hname]
    split
    · exact ih seen
    · exact .cons hentry (ih _)

/-- A property whose type, as it is seen, is read again as it is written out has that type. -/
theorem type?_bind_of_isSettled {p : Property}
    (h : ∀ u, b.seen p.typeText = some u → IsSettled u) : (bind b p).type? = b.seen p.typeText := by
  have htype : p.type? = TypeExpr.parse? p.typeText := rfl
  unfold Bindings.seen at h ⊢
  rw [← htype] at h ⊢
  unfold bind
  cases hdeclared : p.type? with
  | none => exact hdeclared
  | some declared =>
    have hsettled := h (declared.substitute b.lookup?) (by rw [hdeclared, Option.map_some])
    dsimp only
    rw [Option.map_some]
    split
    · rename_i hsame
      rw [hdeclared, hsame]
    · exact (TypeExpr.parse?_render_of_isReadable hsettled.readable).trans
        (congrArg some (TypeExpr.unqualified_eq_self hsettled.readable hsettled.unqualified))

/-- What a member shows: its name, the full name of the type that declares it, and its type as it is
written out. -/
def shown (member : Member) : String × String × Option String :=
  (member.property.name, member.declaring.fullName, member.property.type?.map TypeExpr.render)

theorem shown_ofEntry {entry entry' : Property × TypeDecl × Bindings}
    (h : ShownAlike entry entry') : (ofEntry entry).shown = (ofEntry entry').shown := by
  have htype := type?_bind_of_isSettled h.settled
  have htype' := type?_bind_of_isSettled (h.seen ▸ h.settled)
  unfold ofEntry shown
  rw [name_bind, name_bind, htype, htype', h.seen, h.naming.fullName, h.property]

/-- Models whose types correspond have as many types. -/
theorem length_types_of_correspond {R : TypeDecl → TypeDecl → Prop}
    (hm : Model.Correspond R m m') : m.types.length = m'.types.length := by
  unfold Model.types
  have hlayers : List.Forall₂ (fun c c' : Catalog => List.Forall₂ R c.types c'.types)
      m.layers m'.layers := hm
  generalize m.layers = layers at hlayers
  generalize m'.layers = layers' at hlayers
  induction hlayers with
  | nil => rfl
  | cons hc _ ih => rw [List.flatMap_cons, List.flatMap_cons, List.length_append,
      List.length_append, hc.length_eq, ih]

/-! ## Level by level -/

/-- Behind a type, a walk visits its base class, whose parameters stand for the arguments of the
reference to it. -/
theorem base?_of_walk {met : List String} {visited : List (TypeDecl × Bindings)}
    (h : Walk m met t b visited) {i : Nat} {u base : TypeDecl} {c c' : Bindings}
    (hi : visited[i]? = some (u, c)) (hnext : visited[i + 1]? = some (base, c')) :
    ∃ reference, base? m u c = some (base, reference) ∧
      c' = base.parameters.zip reference.args := by
  -- A walk goes on from its base class, so the step at `i` is the first one of a walk from there.
  induction h generalizing i with
  | again => exact nomatch hi
  | last => exact nomatch hnext
  | @next met t base₁ b reference rest _ hbase hrest ih =>
    cases i with
    | zero =>
      obtain ⟨rfl, rfl⟩ := Prod.mk.inj (Option.some.inj hi)
      have hfirst : rest[0]? = some (base, c') := hnext
      have hrest : ∃ more, rest = (base₁, base₁.parameters.zip reference.args) :: more := by
        cases hrest with
        | again => exact nomatch hfirst
        | last => exact ⟨_, rfl⟩
        | next => exact ⟨_, rfl⟩
      obtain ⟨more, rfl⟩ := hrest
      obtain ⟨rfl, rfl⟩ := Prod.mk.inj (Option.some.inj hfirst)
      exact ⟨reference, hbase, rfl⟩
    | succ i => exact ih hi hnext

/-- A reference that gives the arguments itself gives them, seen through bindings, composed with
these. -/
theorem zip_args_substitute {parameters : List String} {written : TypeExpr}
    (h : written.args.length = parameters.length) (b : Bindings) :
    parameters.zip (written.substitute b.lookup?).args =
      Bindings.compose b (parameters.zip written.args) := by
  have hmap (ts : List TypeExpr) :
      TypeExpr.substituteAll b.lookup? ts = ts.map (TypeExpr.substitute b.lookup?) := by
    induction ts with
    | nil => rfl
    | cons t ts ih => rw [TypeExpr.substituteAll, ih, List.map_cons]
  have hcompose : Bindings.compose b (parameters.zip written.args) =
      parameters.zip (written.args.map (TypeExpr.substitute b.lookup?)) := by
    rw [List.zip_map_right]
    rfl
  rw [hcompose]
  cases written with
  | named qualifier name args =>
    rw [TypeExpr.substitute]
    split
    · -- A bare name gives no arguments, so there are no parameters.
      rename_i hbare
      obtain rfl : args = [] := List.isEmpty_iff.1 (Bool.and_eq_true_iff.1 hbare).2
      rw [List.eq_nil_of_length_eq_zero h.symm, List.zip_nil_left, List.zip_nil_left]
    · exact congrArg _ (hmap args)
  | _ => rfl

/-- Type parameters are bound hygienically along the base classes of a type. In a model whose types
mention no namespaces, any classes may have their parameters renamed, each with the bare occurrences
in its base list and property types: the exposed members of the type have the same names, in the
same order, from types of the same names, and with the same types written out.

At every step of the walk, the bindings of the base class are those of the reference as it is
written, composed with the bindings of the class before; and a type in the base class that mentions
no other name bound there is the same seen from the start and seen level by level. -/
theorem parameters_bind_hygienically (m m' : Model) (excluded : List String) (d : TypeDecl)
    (hd : d.IsPlain) (hplain : ∀ t ∈ m.types, t.IsPlain)
    (hm : Model.Correspond TypeDecl.RenamedAs m m') :
    (exposed m excluded d).map shown = (exposed m' excluded d).map shown ∧
      ∀ (i : Nat) (t base : TypeDecl) (b b' : Bindings), (chain m d)[i]? = some (t, b) →
        (chain m d)[i + 1]? = some (base, b') →
        ∃ text ∈ t.bases, ∃ written, TypeExpr.parse? text = some written ∧
          b' = base.parameters.zip (written.substitute b.lookup?).args ∧
          (written.args.length = base.arity →
            b' = Bindings.compose b (base.parameters.zip written.args) ∧
            ∀ u : TypeExpr,
              (∀ name ∈ u.bareNames, name ∉ base.parameters → b.lookup? name = none) →
              u.substitute b'.lookup? =
                (u.substitute (Bindings.lookup? (base.parameters.zip written.args))).substitute
                  b.lookup?) := by
  constructor
  · have hstart : SeenAlike (d, []) (d, []) :=
      ⟨⟨rfl, rfl, rfl, rfl⟩, List.forall₂_same.2 fun _ _ => rfl,
        List.forall₂_same.2 fun _ _ => ⟨rfl, rfl⟩, isSettled_of_seen hd fun _ _ h => nomatch h⟩
    -- The two chains are related class by class, which goes through the entries and the filter to
    -- what is shown.
    have hchain : List.Forall₂ SeenAlike (chain m d) (chain m' d) := by
      unfold chain
      rw [← length_types_of_correspond hm]
      exact forall₂_chainWith hm hplain _ _ hstart
    have hfirst := forall₂_firstOfName (forall₂_declared hchain) []
    have hexposed := List.rel_filter (p := fun e => isExposed excluded e.1)
      (q := fun e => isExposed excluded e.1) (fun entry entry' hentry => by
        dsimp only
        rw [hentry.property]
        rfl) hfirst
    have hshown := hexposed.imp fun _ _ => shown_ofEntry
    unfold exposed
    rw [List.map_map, List.map_map, ← List.forall₂_eq_eq_eq, List.forall₂_map_left_iff,
      List.forall₂_map_right_iff]
    exact hshown
  · intro i t base b b' hi hnext
    obtain ⟨reference, hbase, rfl⟩ := base?_of_walk ((walk_iff d _).2 rfl) hi hnext
    obtain ⟨text, htext, hseen, -⟩ := exists_of_baseIn? hbase
    obtain ⟨written, hwritten, rfl⟩ := Option.map_eq_some_iff.1 hseen
    refine ⟨text, htext, written, hwritten, rfl, fun harity => ?_⟩
    have hcompose := zip_args_substitute harity b
    refine ⟨hcompose, fun u hfree => ?_⟩
    have hlookup : Bindings.lookup? (Bindings.compose b (base.parameters.zip written.args)) =
        fun name => (Bindings.lookup? (base.parameters.zip written.args) name).map
          (TypeExpr.substitute b.lookup?) :=
      funext (Bindings.lookup?_compose b _)
    rw [hcompose, hlookup, TypeExpr.substitute_substitute]
    intro name hname hnone
    rw [Bindings.lookup?_eq_none_iff, Bindings.map_fst_zip harity] at hnone
    exact hfree name hname hnone

/-- A class with two type parameters. -/
def pairs : TypeDecl where
  name := "Pairs"
  kind := .class
  parameters := ["T", "U"]
  properties :=
    [{ name := "Both", typeText := "Map<T, U>" }, { name := "Last", typeText := "U" }]

/-- A class between, which names its parameter as the base class does and gives it to the other. -/
def groups : TypeDecl where
  name := "Groups"
  kind := .class
  parameters := ["T"]
  bases := ["Pairs<List<T>, T>"]
  properties := [{ name := "Group", typeText := "T[]" }]

/-- A class that derives from both. -/
def orders : TypeDecl where
  name := "Orders"
  kind := .class
  bases := ["Groups<Order>"]

/-- The base classes may name their parameters otherwise. -/
theorem parameters_bind_hygienically_orders :
    (exposed ⟨[⟨[groups, pairs]⟩]⟩ [] orders).map shown =
        (exposed ⟨[⟨[withParameters ["Item"] groups, withParameters ["Key", "Value"] pairs]⟩]⟩ []
          orders).map shown ∧
      (exposed ⟨[⟨[groups, pairs]⟩]⟩ [] orders).map shown =
        [("Group", "Groups", some "Order[]"), ("Both", "Pairs", some "Map<List<Order>, Order>"),
          ("Last", "Pairs", some "Order")] := by
  have hplain (t : TypeDecl) (h : ∀ text ∈ t.typeTexts, ∀ u ∈ TypeExpr.parse? text,
      u.isUnqualified = true) : t.IsPlain := h
  have hgroups := hplain groups (by decide +kernel)
  have hpairs := hplain pairs (by decide +kernel)
  have hname : ∀ name ∈ ["Item", "Key", "Value"], IsParameterName name := by
    intro name hname
    have hall : ∀ name ∈ ["Item", "Key", "Value"], name.toList.isEmpty = false ∧
        name.toList.all TypeToken.isLetter = true ∧ name ≠ "dynamic" ∧
          TypeExpr.builtinName? name = none := by
      decide +kernel
    obtain ⟨hsome, hletters, hdynamic, hbuiltin⟩ := hall name hname
    exact ⟨TypeExpr.isName_of_all hsome hletters, hdynamic, hbuiltin⟩
  have hfresh (t : TypeDecl) (names : List String) (h : ∀ text ∈ t.typeTexts,
      ∀ u ∈ TypeExpr.parse? text, ∀ name ∈ u.bareNames, name ∈ names → name ∈ t.parameters) :
      ∀ text ∈ t.typeTexts, ∀ u, TypeExpr.parse? text = some u →
        ∀ name ∈ u.bareNames, name ∈ names → name ∈ t.parameters := h
  have hgroupsRenamed := renamesParameters_withParameters ["Item"] hgroups rfl
    (by decide) (by decide) (fun name h => hname name (by simp_all))
    (hfresh groups ["Item"] (by decide +kernel))
  have hpairsRenamed := renamesParameters_withParameters ["Key", "Value"] hpairs rfl
    (by decide) (by decide) (fun name h => hname name (List.mem_cons_of_mem _ h))
    (hfresh pairs ["Key", "Value"] (by decide +kernel))
  refine ⟨(parameters_bind_hygienically _ _ [] orders (hplain orders (by decide +kernel)) ?_
    (.cons (.cons (.inr hgroupsRenamed) (.cons (.inr hpairsRenamed) .nil)) .nil)).1,
    by decide +kernel⟩
  exact List.forall_mem_cons.2 ⟨hgroups, List.forall_mem_singleton.2 hpairs⟩

end Member

end ViewForge
