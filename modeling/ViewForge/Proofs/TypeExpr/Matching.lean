import ViewForge.Proofs.TypeExpr.Pattern
import ViewForge.Proofs.TypeExpr.Substitution

/-!
# Patterns with and without wildcards

A pattern without a wildcard has exactly the types of its own text (`hasShape_iff_render_eq`), which
names no namespaces. A type has the shape of the pattern it was made of by putting another for each
wildcard (`hasShape_substitute`).

That types of one text have one shape is unique readability of that text. It cannot be had from what
the text is read as: `Geometry.Single` and `float` are not of one text, but read without namespaces
they are one type. Behind an underscore no name is built in, so the tokens of the text are read with
an underscore in front of each word instead (`underscored`), and what they are read as is the type
but for its namespaces. What remains is that the untyped marker has the text of the name `dynamic`,
which a type can have behind a namespace only.
-/

namespace ViewForge

/-- A token with an underscore in front if it is a word. -/
def TypeToken.underscored : TypeToken → TypeToken
  | .word escaped letters blank => .word escaped ('_' :: letters) blank
  | other => other

namespace TypeExpr

/-- The types that a type is directly made of. -/
def children : TypeExpr → List TypeExpr
  | .named _ _ args => args
  | .array element _ => [element]
  | .nullable inner => [inner]
  | .tuple items => items
  | .dynamic => []

mutual

/-- The names in a type that stand behind a namespace. -/
def scopedNames : TypeExpr → List String
  | .named qualifier name args => (if qualifier.isSome then [name] else []) ++ scopedNamesAll args
  | .array element _ => element.scopedNames
  | .nullable inner => inner.scopedNames
  | .tuple items => scopedNamesAll items
  | .dynamic => []

/-- The names in types that stand behind a namespace. -/
def scopedNamesAll : List TypeExpr → List String
  | [] => []
  | t :: ts => t.scopedNames ++ scopedNamesAll ts

end

/-! ## From the shape to the text -/

/-- The bare names in the parts of a type are among its own. -/
theorem notMem_children {name : String} {p : TypeExpr} (h : name ∉ p.bareNames) :
    name ∉ bareNamesAll p.children := by
  cases p with
  | named qualifier own args =>
    rw [bareNames] at h
    split at h
    · rename_i hbare
      rw [children, List.isEmpty_iff.1 (Bool.and_eq_true_iff.1 hbare).2]
      exact List.not_mem_nil
    · exact h
  | array element rank => rwa [children, bareNamesAll, bareNamesAll, List.append_nil]
  | nullable inner => rwa [children, bareNamesAll, bareNamesAll, List.append_nil]
  | tuple items => exact h
  | dynamic => exact List.not_mem_nil

/-- What fits a pattern without wildcards has its shape. -/
theorem hasShape_of_fits {t p : TypeExpr} (hp : "T" ∉ p.bareNames) (h : t.fits p = true) :
    HasShape t p := by
  refine (fits_eq_true_iff.1 h).resolve_left fun hwild => hp ?_
  rw [isWildcard_eq_true_iff.1 hwild]
  exact List.mem_singleton_self "T"

mutual

/-- A type with the shape of a pattern has its text, if no wildcard stands below the root. -/
theorem HasShape.letters_eq {t p : TypeExpr} (hp : "T" ∉ bareNamesAll p.children)
    (h : HasShape t p) : t.letters = p.letters := by
  -- Below the root there is no wildcard, so each child has the shape of its pattern or is it.
  cases h with
  | @named _ _ _ args args' hargs =>
    have hempty : args.isEmpty = args'.isEmpty := by
      cases fitAll_eq_true_iff.1 hargs <;> rfl
    have hletters : lettersAll args = lettersAll args' := lettersAll_eq_of_fitAll hp hargs
    rw [letters_named, letters_named, hempty, hletters]
  | @array element element' _ hfits =>
    have helement : "T" ∉ element'.bareNames := by simpa [children, bareNamesAll] using hp
    have hshape := hasShape_of_fits helement hfits
    rw [letters_array, letters_array,
      HasShape.letters_eq (t := element) (notMem_children helement) hshape]
  | @nullable inner inner' hfits =>
    have hinner : "T" ∉ inner'.bareNames := by simpa [children, bareNamesAll] using hp
    have hshape := hasShape_of_fits hinner hfits
    rw [letters_nullable, letters_nullable,
      HasShape.letters_eq (t := inner) (notMem_children hinner) hshape]
  | @tuple items items' hitems =>
    have hletters : lettersAll items = lettersAll items' := lettersAll_eq_of_fitAll hp hitems
    rw [letters_tuple, letters_tuple, hletters]
  | dynamic => rfl
termination_by structural t

/-- Types that fit patterns without wildcards have their texts. -/
theorem lettersAll_eq_of_fitAll {ts ps : List TypeExpr} (hp : "T" ∉ bareNamesAll ps)
    (h : fitAll ts ps = true) : lettersAll ts = lettersAll ps := by
  cases fitAll_eq_true_iff.1 h with
  | nil => rfl
  | @cons t p ts ps hfits hfitAll =>
    rw [bareNamesAll, List.mem_append, not_or] at hp
    have hshape := hasShape_of_fits hp.1 hfits
    rw [lettersAll_cons, lettersAll_cons,
      HasShape.letters_eq (t := t) (notMem_children hp.1) hshape,
      lettersAll_eq_of_fitAll hp.2 (fitAll_eq_true_iff.2 hfitAll)]
termination_by structural ts

end

/-! ## Names behind an underscore -/

mutual

/-- A type without namespaces and with an underscore in front of each name. -/
def underscored : TypeExpr → TypeExpr
  | .named _ name args => .named none ("_" ++ name) (underscoredAll args)
  | .array element rank => .array element.underscored rank
  | .nullable inner => .nullable inner.underscored
  | .tuple items => .tuple (underscoredAll items)
  | .dynamic => bare "_dynamic"

/-- Types without namespaces and with an underscore in front of each name. -/
def underscoredAll : List TypeExpr → List TypeExpr
  | [] => []
  | t :: ts => t.underscored :: underscoredAll ts

end

theorem toList_underscore (name : String) : ("_" ++ name).toList = '_' :: name.toList := by
  rw [String.toList_append]
  rfl

/-- No name behind an underscore is built in. -/
theorem ofName_underscore (name : String) (args : List TypeExpr) :
    ofName none ("_" ++ name) args = .named none ("_" ++ name) args := by
  -- No word with a meaning of its own begins with an underscore.
  have hspelling : ∀ spelling ∈ builtinSpellings,
      Text.equalIgnoringCase spelling.1 ("_" ++ name) = false := by
    have hfirst : ∀ spelling ∈ builtinSpellings,
        spelling.1.toList.head?.any (·.toLower == '_') = false := by decide +kernel
    intro spelling hmem
    have hhead := hfirst spelling hmem
    rw [Text.equalIgnoringCase, toList_underscore]
    cases hspelled : spelling.1.toList with
    | nil => rfl
    | cons c cs =>
      rw [hspelled] at hhead
      exact Bool.and_eq_false_iff.2 (.inl hhead)
  have hbuiltin : builtinName? ("_" ++ name) = none := by
    rw [builtinName?, List.find?_eq_none.2, Option.map_none]
    exact fun spelling hmem => ne_true_of_eq_false (hspelling spelling hmem)
  have hother (word : String) (hword : word.toList.head? ≠ some '_') :
      ("_" ++ name == word) = false := by
    refine beq_eq_false_iff_ne.2 fun heq => hword ?_
    rw [← heq, toList_underscore]
    rfl
  have hdynamic := hother "dynamic" (by decide)
  have hnullable := hother "Nullable" (by decide)
  unfold ofName
  rw [hbuiltin, hdynamic, hnullable]
  rcases args with _ | ⟨arg, _ | ⟨second, args⟩⟩ <;> rfl

theorem isEmpty_underscoredAll (ts : List TypeExpr) : (underscoredAll ts).isEmpty = ts.isEmpty := by
  cases ts <;> rfl

mutual

/-- With an underscore in front of its names, a type can still be read. -/
theorem IsReadable.underscored : ∀ {t : TypeExpr}, t.IsReadable → t.underscored.IsReadable
  | .named _ name args, ⟨hname, _, hargs⟩ => by
    refine ⟨⟨?_, ?_⟩, ofName_underscore name _, AreReadable.underscoredAll hargs⟩
    · rw [toList_underscore]
      exact List.cons_ne_nil _ _
    · rw [toList_underscore]
      exact List.forall_mem_cons.2 ⟨by decide, hname.2⟩
  | .array _ _, ⟨hrank, helement⟩ => ⟨hrank, IsReadable.underscored helement⟩
  | .nullable inner, hinner => @IsReadable.underscored inner hinner
  | .tuple items, ⟨hsome, hitems⟩ => by
    refine ⟨?_, AreReadable.underscoredAll hitems⟩
    cases items with
    | nil => exact absurd rfl hsome
    | cons item items => exact List.cons_ne_nil _ _
  | .dynamic, _ => ⟨isName_of_all (by decide +kernel) (by decide +kernel),
      ofName_underscore "dynamic" [], trivial⟩

theorem AreReadable.underscoredAll : ∀ {ts : List TypeExpr}, AreReadable ts →
    AreReadable (underscoredAll ts)
  | [], _ => trivial
  | _ :: _, ⟨ht, hts⟩ => ⟨IsReadable.underscored ht, AreReadable.underscoredAll hts⟩

end

mutual

theorem isUnqualified_underscored : ∀ t : TypeExpr, t.underscored.isUnqualified = true
  | .named _ _ args => areUnqualified_underscoredAll args
  | .array element _ => isUnqualified_underscored element
  | .nullable inner => isUnqualified_underscored inner
  | .tuple items => areUnqualified_underscoredAll items
  | .dynamic => rfl

theorem areUnqualified_underscoredAll :
    ∀ ts : List TypeExpr, areUnqualified (underscoredAll ts) = true
  | [] => rfl
  | t :: ts => Bool.and_eq_true_iff.2
      ⟨isUnqualified_underscored t, areUnqualified_underscoredAll ts⟩

end

/-- What lists with a list between them become is what the lists become with what the one between
them becomes. -/
theorem map_intercalate {α β : Type} (f : α → β) (between : List α) : ∀ lists : List (List α),
    (between.intercalate lists).map f = (between.map f).intercalate (lists.map (List.map f))
  | [] => rfl
  | [l] => by rw [List.map_singleton, List.intercalate_singleton, List.intercalate_singleton]
  | l :: l' :: lists => by
    rw [List.intercalate_cons_cons, List.map_append, List.map_append,
      map_intercalate f between (l' :: lists), List.map_cons, List.map_cons, List.map_cons,
      List.intercalate_cons_cons]

mutual

/-- The tokens of a type with an underscore in front of each name are those of the type with an
underscore in front of each word. -/
theorem tokens_underscored : ∀ t : TypeExpr,
    t.underscored.tokens = t.tokens.map TypeToken.underscored
  | .named _ name args => by
    rw [underscored, tokens, tokens, toList_underscore, isEmpty_underscoredAll,
      tokensAll_underscoredAll args]
    cases args with
    | nil => rfl
    | cons arg args => simp [TypeToken.underscored, map_intercalate]
  | .array element rank => by
    rw [underscored, tokens, tokens, tokens_underscored element]
    simp [TypeToken.underscored]
  | .nullable inner => by
    rw [underscored, tokens, tokens, tokens_underscored inner]
    simp [TypeToken.underscored]
  | .tuple items => by
    rw [underscored, tokens, tokens, tokensAll_underscoredAll items]
    simp [TypeToken.underscored, map_intercalate]
  | .dynamic => by decide +kernel

theorem tokensAll_underscoredAll : ∀ ts : List TypeExpr,
    tokensAll (underscoredAll ts) = (tokensAll ts).map (List.map TypeToken.underscored)
  | [] => rfl
  | t :: ts => by
    rw [underscoredAll, tokensAll, tokensAll, List.map_cons, tokens_underscored t,
      tokensAll_underscoredAll ts]

end

/-! ## From the text to the shape -/

/-- The text of a type determines its tokens. -/
theorem tokens_eq_of_letters_eq {t p : TypeExpr} (ht : t.IsReadable) (hp : p.IsReadable)
    (h : t.letters = p.letters) : t.tokens = p.tokens := by
  have hscan := TypeToken.scan_eq_some_iff.2 (spells_tokens ht)
  have hscan' := TypeToken.scan_eq_some_iff.2 (spells_tokens hp)
  rw [h, hscan'] at hscan
  exact (Option.some.inj hscan).symm

/-- The text of a type determines the type but for its namespaces and the untyped marker, which has
the text of a name. -/
theorem underscored_eq_of_letters_eq {t p : TypeExpr} (ht : t.IsReadable) (hp : p.IsReadable)
    (h : t.letters = p.letters) : t.underscored = p.underscored := by
  have hread {u : TypeExpr} (hu : u.IsReadable) :
      ofTokens? u.underscored.tokens = some u.underscored := by
    have hself := unqualified_eq_self hu.underscored (isUnqualified_underscored u)
    have htype := isType_tokens hu.underscored
    rw [hself] at htype
    exact ofTokens?_eq_some_iff.2 htype
  have htokens : t.underscored.tokens = p.underscored.tokens := by
    rw [tokens_underscored, tokens_underscored, tokens_eq_of_letters_eq ht hp h]
  exact Option.some.inj ((hread ht).symm.trans (htokens ▸ hread hp))

/-- With an underscore in front of it the untyped marker is the same as a type called `dynamic`
behind a namespace, and as no other. -/
theorem eq_dynamic_of_underscored_eq {t : TypeExpr} (ht : t.IsReadable)
    (hscoped : "dynamic" ∉ t.scopedNames) (h : t.underscored = underscored .dynamic) :
    t = .dynamic := by
  cases t with
  | named qualifier name args =>
    obtain ⟨-, hname, hargs⟩ := TypeExpr.named.inj h
    obtain rfl : name = "dynamic" := (String.append_right_inj "_").1 hname
    obtain rfl : args = [] := by
      rw [← List.isEmpty_iff, ← isEmpty_underscoredAll, hargs, List.isEmpty_nil]
    cases qualifier with
    | none => exact nomatch (show TypeExpr.dynamic = .named none "dynamic" [] from ht.2.1)
    | some qualifier => exact absurd List.mem_cons_self hscoped
  | array | nullable | tuple => exact TypeExpr.noConfusion h
  | dynamic => rfl

mutual

/-- Types that are the same with an underscore in front of each name have one shape, if none of them
is called as the untyped marker behind a namespace. -/
theorem hasShape_of_underscored_eq : ∀ {t p : TypeExpr}, t.IsReadable → p.IsReadable →
    "dynamic" ∉ t.scopedNames → "dynamic" ∉ p.scopedNames → t.underscored = p.underscored →
    HasShape t p
  | .named _ _ _, p, ht, hp, htd, hpd, h => by
    cases p with
    | named _ _ _ =>
      obtain ⟨-, hname, hargs⟩ := TypeExpr.named.inj h
      rw [(String.append_right_inj "_").1 hname]
      exact .named (fitAll_of_underscoredAll_eq ht.2.2 hp.2.2
        (fun hmem => htd (List.mem_append_right _ hmem))
        (fun hmem => hpd (List.mem_append_right _ hmem)) hargs)
    | dynamic => exact nomatch eq_dynamic_of_underscored_eq ht htd h
    | array | nullable | tuple => exact TypeExpr.noConfusion h
  | .array element _, p, ht, hp, htd, hpd, h => by
    cases p with
    | array element' _ =>
      obtain ⟨helement, rfl⟩ := TypeExpr.array.inj h
      exact .array (fits_eq_true_iff.2 (.inr
        (@hasShape_of_underscored_eq element element' ht.2 hp.2 htd hpd helement)))
    | named | nullable | tuple | dynamic => exact TypeExpr.noConfusion h
  | .nullable inner, p, ht, hp, htd, hpd, h => by
    cases p with
    | nullable inner' =>
      exact .nullable (fits_eq_true_iff.2 (.inr
        (@hasShape_of_underscored_eq inner inner' ht hp htd hpd (TypeExpr.nullable.inj h))))
    | named | array | tuple | dynamic => exact TypeExpr.noConfusion h
  | .tuple _, p, ht, hp, htd, hpd, h => by
    cases p with
    | tuple _ =>
      exact .tuple (fitAll_of_underscoredAll_eq ht.2 hp.2 htd hpd (TypeExpr.tuple.inj h))
    | named | array | nullable | dynamic => exact TypeExpr.noConfusion h
  | .dynamic, p, _, hp, _, hpd, h => by
    obtain rfl := eq_dynamic_of_underscored_eq hp hpd h.symm
    exact .dynamic

theorem fitAll_of_underscoredAll_eq : ∀ {ts ps : List TypeExpr}, AreReadable ts → AreReadable ps →
    "dynamic" ∉ scopedNamesAll ts → "dynamic" ∉ scopedNamesAll ps →
    underscoredAll ts = underscoredAll ps → fitAll ts ps = true
  | [], [], _, _, _, _, _ => by rw [fitAll]
  | _ :: _, _ :: _, ⟨ht, hts⟩, ⟨hp, hps⟩, htd, hpd, h => by
    rw [scopedNamesAll, List.mem_append, not_or] at htd hpd
    obtain ⟨hfirst, hrest⟩ := List.cons.inj h
    rw [fitAll, Bool.and_eq_true]
    exact ⟨fits_eq_true_iff.2 (.inr (hasShape_of_underscored_eq ht hp htd.1 hpd.1 hfirst)),
      fitAll_of_underscoredAll_eq hts hps htd.2 hpd.2 hrest⟩

end

/-! ## From the pattern to its types -/

/-- Below the root a type fits what is no wildcard if it has its shape. -/
theorem fits_of_hasShape {t p : TypeExpr} (h : p.isWildcard = false → HasShape t p) :
    t.fits p = true := by
  rw [fits_eq_true_iff]
  cases hwild : p.isWildcard with
  | true => exact .inl rfl
  | false => exact .inr (h hwild)

variable {bound : String → Option TypeExpr}

mutual

/-- What is made of a pattern by putting types for its wildcards has its shape. -/
theorem hasShape_substitute (hbound : ∀ name, name ≠ "T" → bound name = none) :
    ∀ {p : TypeExpr}, p.isWildcard = false → HasShape (p.substitute bound) p
  | .named qualifier name args, h => by
    rw [substitute]
    split
    · rename_i hbare
      rw [Bool.and_eq_true, Option.isNone_iff_eq_none, List.isEmpty_iff] at hbare
      obtain ⟨rfl, rfl⟩ := hbare
      rw [hbound name (beq_eq_false_iff_ne.1 h)]
      exact .named (fitAll_substituteAll hbound [])
    · exact .named (fitAll_substituteAll hbound args)
  | .array element _, _ => .array (fits_of_hasShape (hasShape_substitute hbound))
  | .nullable inner, _ => .nullable (fits_of_hasShape (hasShape_substitute hbound))
  | .tuple items, _ => .tuple (fitAll_substituteAll hbound items)
  | .dynamic, _ => .dynamic

theorem fitAll_substituteAll (hbound : ∀ name, name ≠ "T" → bound name = none) :
    ∀ ps : List TypeExpr, fitAll (substituteAll bound ps) ps = true
  | [] => by rw [substituteAll, fitAll]
  | p :: ps => by
    have hfirst : (p.substitute bound).fits p = true :=
      fits_of_hasShape (@hasShape_substitute hbound p)
    rw [substituteAll, fitAll, hfirst, fitAll_substituteAll hbound ps, Bool.and_self]

end

/-! ## Matching -/

/-- A type that is read has the shape of a pattern that is read exactly if the two have one text, if
no wildcard stands below the root of the pattern and neither is called as the untyped marker behind
a namespace. A pattern that is not the wildcard matches what is made of it by putting one type for
each wildcard. -/
theorem hasShape_iff_render_eq :
    (∀ (text pattern : String) (t p : TypeExpr), parse? text = some t →
      parse? pattern = some p → "T" ∉ bareNamesAll p.children → "dynamic" ∉ t.scopedNames →
      "dynamic" ∉ p.scopedNames → (t.hasShape p = true ↔ t.render = p.render)) ∧
    ∀ p u : TypeExpr, p.isWildcard = false →
      (p.substitute fun name => if name = "T" then some u else none).hasShape p = true := by
  constructor
  · intro text pattern t p ht hp hplain htd hpd
    have hrender : t.render = p.render ↔ t.letters = p.letters :=
      ⟨fun h => String.ofList_injective h, congrArg String.ofList⟩
    rw [hasShape_eq_true_iff, hrender]
    constructor
    · exact HasShape.letters_eq hplain
    · intro hletters
      have ht := isReadable_of_parse? ht
      have hp := isReadable_of_parse? hp
      -- The texts have the same tokens. With an underscore in front of each word, the tokens are
      -- read to one type in which no name has a meaning of its own.
      have hsame := underscored_eq_of_letters_eq ht hp hletters
      exact hasShape_of_underscored_eq ht hp htd hpd hsame
  · intro p u hwild
    rw [hasShape_eq_true_iff]
    exact hasShape_substitute (fun name hname => if_neg hname) hwild

/-- A pattern matches a type that names a namespace, and what becomes of a wildcard in it. -/
theorem hasShape_iff_render_eq_map :
    let key : TypeExpr := .named (some "Shop") "Key" []
    let orders : TypeExpr := .named none "List" [bare "Order"]
    parse? "Map(Of Shop.Key, List(Of Order))" = some (.named none "Map" [key, orders]) ∧
      parse? "Map<Key, List<Order>>" = some (.named none "Map" [bare "Key", orders]) ∧
      (named none "Map" [key, orders]).hasShape (.named none "Map" [bare "Key", orders]) = true ∧
      (named none "List" [bare "Order"]).hasShape (.named none "List" [bare "T"]) = true := by
  intro key orders
  have htext : parse? "Map(Of Shop.Key, List(Of Order))" =
      some (.named none "Map" [key, orders]) := by decide +kernel
  have hpattern : parse? "Map<Key, List<Order>>" =
      some (.named none "Map" [bare "Key", orders]) := by decide +kernel
  obtain ⟨hmatch, hfilled⟩ := hasShape_iff_render_eq
  refine ⟨htext, hpattern, ?_, ?_⟩
  · have hrender : (named none "Map" [key, orders]).render =
        (named none "Map" [bare "Key", orders]).render := by decide +kernel
    exact (hmatch _ _ _ _ htext hpattern (by decide) (by decide) (by decide)).2 hrender
  · exact hfilled (.named none "List" [bare "T"]) (bare "Order") (by decide)

end TypeExpr

end ViewForge
