import ViewForge.Proofs.TypeExpr.Derivation

/-!
# Reading what was written

The text of a type names no namespaces, so it does not denote the type again but the type without
them, each name of which is taken anew: a type called `dynamic` or `Integer` behind a namespace is a
built-in one without it (`unqualified`). A type that was read, written out and read again is that
type (`parse?_render`), and so it comes back exactly if it mentions no namespace
(`unqualified_eq_self_iff`). After one such round nothing changes any more (`rendering_settles`).
-/

namespace ViewForge.TypeExpr

open Conventions (wide)

/-! ## Types without namespaces -/

mutual

/-- A type without the namespaces in it, each name taken anew. -/
def unqualified : TypeExpr → TypeExpr
  | .named _ name args => ofName none name (unqualifiedAll args)
  | .array element rank => .array element.unqualified rank
  | .nullable inner => .nullable inner.unqualified
  | .tuple items => .tuple (unqualifiedAll items)
  | .dynamic => .dynamic

/-- Types without the namespaces in them. -/
def unqualifiedAll : List TypeExpr → List TypeExpr
  | [] => []
  | t :: ts => t.unqualified :: unqualifiedAll ts

end

mutual

/-- Whether a type mentions no namespace. -/
def isUnqualified : TypeExpr → Bool
  | .named qualifier _ args => qualifier.isNone && areUnqualified args
  | .array element _ => element.isUnqualified
  | .nullable inner => inner.isUnqualified
  | .tuple items => areUnqualified items
  | .dynamic => true

/-- Whether types mention no namespace. -/
def areUnqualified : List TypeExpr → Bool
  | [] => true
  | t :: ts => t.isUnqualified && areUnqualified ts

end

/-! ## Types that are read -/

/-- Whether a text can stand as a word. -/
def IsName (name : String) : Prop :=
  name.toList ≠ [] ∧ ∀ c ∈ name.toList, TypeToken.isLetter c = true

theorem isName_of_all {name : String} (hsome : name.toList.isEmpty = false)
    (hletters : name.toList.all TypeToken.isLetter = true) : IsName name := by
  refine ⟨fun hnil => ?_, List.all_eq_true.1 hletters⟩
  rw [hnil] at hsome
  exact Bool.noConfusion hsome

mutual

/-- Whether a type can be read from a text: its names are words and taken for what they are, an
array has a dimension and a tuple an element. -/
def IsReadable : TypeExpr → Prop
  | .named qualifier name args =>
    IsName name ∧ ofName qualifier name args = .named qualifier name args ∧ AreReadable args
  | .array element rank => 0 < rank ∧ element.IsReadable
  | .nullable inner => inner.IsReadable
  | .tuple items => items ≠ [] ∧ AreReadable items
  | .dynamic => True

/-- Whether types can be read from a text. -/
def AreReadable : List TypeExpr → Prop
  | [] => True
  | t :: ts => t.IsReadable ∧ AreReadable ts

end

/-- The name of a built-in type is a word, and is its own. -/
theorem isReadable_keyword {name keyword : String} (h : builtinName? name = some keyword) :
    (bare keyword).IsReadable := by
  have hall : ∀ spelling ∈ builtinSpellings, spelling.2.toList.isEmpty = false ∧
      spelling.2.toList.all TypeToken.isLetter = true ∧
        ofName none spelling.2 [] = bare spelling.2 := by
    decide +kernel
  unfold builtinName? at h
  obtain ⟨spelling, hfound, rfl⟩ := Option.map_eq_some_iff.1 h
  obtain ⟨hsome, hletters, hown⟩ := hall spelling (List.mem_of_find?_eq_some hfound)
  exact ⟨isName_of_all hsome hletters, hown, trivial⟩

/-- What a name and arguments denote: the untyped marker, a built-in type, a nullable, or the name
as it stands. -/
theorem ofName_cases (qualifier : Option String) (name : String) (args : List TypeExpr) :
    ofName qualifier name args = .dynamic ∨
      (∃ keyword, builtinName? name = some keyword ∧
        ofName qualifier name args = bare keyword) ∨
      (∃ inner, args = [inner] ∧ ofName qualifier name args = .nullable inner) ∨
      ofName qualifier name args = .named qualifier name args := by
  -- Only a name without a namespace has a meaning of its own, by its arguments none or one.
  unfold ofName
  dsimp only
  split
  · split
    · exact .inl rfl
    · split
      · cases builtinName? name with
        | some keyword => exact .inr (.inl ⟨keyword, rfl, rfl⟩)
        | none => exact .inr (.inr (.inr rfl))
      · exact .inr (.inr (.inr rfl))
  · split
    · exact .inr (.inr (.inl ⟨_, rfl, rfl⟩))
    · exact .inr (.inr (.inr rfl))
  · exact .inr (.inr (.inr rfl))

/-- A word applied to arguments that can be read can be read. -/
theorem isReadable_ofName {qualifier : Option String} {name : String} {args : List TypeExpr}
    (hname : IsName name) (hargs : AreReadable args) : (ofName qualifier name args).IsReadable := by
  rcases ofName_cases qualifier name args with h | ⟨keyword, hbuiltin, h⟩ | ⟨inner, rfl, h⟩ | h
  · rw [h]
    trivial
  · rw [h]
    exact isReadable_keyword hbuiltin
  · rw [h]
    exact hargs.1
  · rw [h]
    exact ⟨hname, h, hargs⟩

/-- Whether all words among tokens are names. -/
def AreNames (tokens : List TypeToken) : Prop :=
  ∀ escaped letters blank, .word escaped letters blank ∈ tokens → IsName (String.ofList letters)

theorem AreNames.mono {tokens more : List TypeToken} (h : AreNames more)
    (hsubset : tokens ⊆ more) : AreNames tokens :=
  fun escaped letters blank hmem => h escaped letters blank (hsubset hmem)

/-- The words that a text spells are names. -/
theorem areNames_of_spells {cs : List Char} {tokens : List TypeToken}
    (h : TypeToken.Spells cs tokens) : AreNames tokens := by
  intro escaped letters blank hmem
  unfold IsName
  rw [String.toList_ofList]
  -- A word that is escaped is a name as well; what is no word adds none.
  induction h with
  | nil => exact nomatch hmem
  | blank _ _ ih => exact ih hmem
  | word hsome hletters _ _ ih =>
    rcases List.mem_cons.1 hmem with heq | hmem
    · obtain ⟨-, rfl, -⟩ := TypeToken.word.inj heq
      exact ⟨hsome, hletters⟩
    · exact ih hmem
  | escaped hsome hletters _ _ ih =>
    rcases List.mem_cons.1 hmem with heq | hmem
    · obtain ⟨-, rfl, -⟩ := TypeToken.word.inj heq
      exact ⟨hsome, hletters⟩
    · exact ih hmem
  | doubleColon _ ih => exact ih ((List.mem_cons.1 hmem).resolve_left fun heq => nomatch heq)
  | mark _ _ ih => exact ih ((List.mem_cons.1 hmem).resolve_left fun heq => nomatch heq)

/-- The segments behind the first are names. -/
theorem IsTail.isName {tokens : List TypeToken} {tail : List (Bool × String)}
    (h : IsTail tokens tail) (hnames : AreNames tokens) : ∀ segment ∈ tail, IsName segment.2 := by
  induction h with
  | nil => exact fun _ hmem => nomatch hmem
  | point htail ih =>
    have hword := hnames _ _ _ (List.mem_cons_of_mem _ List.mem_cons_self)
    have hrest := hnames.mono fun _ hmem => List.mem_cons_of_mem _ (List.mem_cons_of_mem _ hmem)
    exact List.forall_mem_cons.2 ⟨hword, ih hrest⟩
  | colons htail ih =>
    have hword := hnames _ _ _ (List.mem_cons_of_mem _ List.mem_cons_self)
    have hrest := hnames.mono fun _ hmem => List.mem_cons_of_mem _ (List.mem_cons_of_mem _ hmem)
    exact List.forall_mem_cons.2 ⟨hword, ih hrest⟩

/-- Without its anchors, a dotted name has segments, which were there before. -/
theorem withoutAnchors_facts (first : String) (tail : List (Bool × String)) :
    withoutAnchors first tail ≠ [] ∧
      ∀ segment ∈ withoutAnchors first tail, segment ∈ first :: tail.map (·.2) := by
  induction tail generalizing first with
  | nil => exact ⟨List.cons_ne_nil _ _, fun _ h => h⟩
  | cons second rest ih =>
    rw [withoutAnchors]
    split
    · obtain ⟨hsome, hsub⟩ := ih second.2
      exact ⟨hsome, fun segment h => List.mem_cons_of_mem _ (hsub segment h)⟩
    · exact ⟨List.cons_ne_nil _ _, fun _ h => h⟩

/-- A dotted name of words, applied to arguments that can be read, can be read. -/
theorem isReadable_ofSegments {segments : List String} {args : List TypeExpr}
    (hsome : segments ≠ []) (hnames : ∀ segment ∈ segments, IsName segment)
    (hargs : AreReadable args) : (ofSegments segments args).IsReadable := by
  have hlast : segments.getLastD "" ∈ segments := by
    rw [List.getLastD_eq_getLast?, List.getLast?_eq_some_getLast hsome]
    exact List.getLast_mem hsome
  exact isReadable_ofName (hnames _ hlast) hargs

/-- Suffixes keep a type readable. -/
theorem AreSuffixes.isReadable {tokens : List TypeToken} {t u : TypeExpr}
    (h : AreSuffixes tokens t u) (ht : t.IsReadable) : u.IsReadable := by
  induction h with
  | nil => exact ht
  | cons hfirst _ ih =>
    refine ih ?_
    cases hfirst with
    | nullable => exact ht
    | square commas => exact ⟨Nat.succ_pos commas, ht⟩
    | round commas => exact ⟨Nat.succ_pos commas, ht⟩

mutual

/-- A type that tokens derive can be read if their words are names. -/
theorem IsType.isReadable {tokens : List TypeToken} {t : TypeExpr} (h : IsType wide tokens t)
    (hnames : AreNames tokens) : t.IsReadable := by
  cases h with
  | suffixed hbase hsuffixes =>
    refine hsuffixes.isReadable ?_
    replace hnames := hnames.mono (List.subset_append_left _ _)
    cases hbase with
    | @named escaped blank letters dotted arguments tail args htail hargs =>
      have hfirst := hnames _ _ _ List.mem_cons_self
      replace hnames := hnames.mono (List.subset_cons_self _ _)
      have htailNames := htail.isName (hnames.mono (List.subset_append_left _ _))
      have hargsReadable := hargs.areReadable (hnames.mono (List.subset_append_right _ _))
      -- What is left of the segments without anchors are some of them, each a word of the tokens.
      obtain ⟨hsome, hsub⟩ := withoutAnchors_facts (String.ofList letters) tail
      refine isReadable_ofSegments hsome (fun segment hmem => ?_) hargsReadable
      rcases List.mem_cons.1 (hsub segment hmem) with rfl | hmem
      · exact hfirst
      · obtain ⟨entry, hentry, rfl⟩ := List.mem_map.1 hmem
        exact htailNames entry hentry
    | tuple hitems =>
      refine ⟨?_, hitems.areReadable (hnames.mono ?_)⟩
      · cases hitems <;> exact List.cons_ne_nil _ _
      · exact fun _ hmem => List.mem_cons_of_mem _ (List.mem_append_left _ hmem)
termination_by (tokens.length, 0)

theorem AreArguments.areReadable {tokens : List TypeToken} {args : List TypeExpr}
    (h : AreArguments wide tokens args) (hnames : AreNames tokens) : AreReadable args := by
  cases h with
  | none => trivial
  | angle hargs =>
    refine hargs.areReadable (hnames.mono ?_)
    exact fun _ hmem => List.mem_cons_of_mem _ (List.mem_append_left _ hmem)
  | round _ hargs =>
    refine hargs.areReadable (hnames.mono ?_)
    intro _ hmem
    exact List.mem_cons_of_mem _ (List.mem_cons_of_mem _ (List.mem_append_left _ hmem))
termination_by (tokens.length, 0)

theorem AreTypes.areReadable {tokens : List TypeToken} {ts : List TypeExpr}
    (h : AreTypes wide tokens ts) (hnames : AreNames tokens) : AreReadable ts := by
  cases h with
  | one ht => exact ⟨ht.isReadable hnames, trivial⟩
  | more ht hts =>
    refine ⟨ht.isReadable (hnames.mono (List.subset_append_left _ _)),
      hts.areReadable (hnames.mono ?_)⟩
    exact fun _ hmem => List.mem_append_right _ (List.mem_cons_of_mem _ hmem)
termination_by (tokens.length, 1)

theorem AreElements.areReadable {tokens : List TypeToken} {ts : List TypeExpr}
    (h : AreElements wide tokens ts) (hnames : AreNames tokens) : AreReadable ts := by
  cases h with
  | one ht => exact ⟨ht.isReadable hnames, trivial⟩
  | more ht hts =>
    refine ⟨ht.isReadable (hnames.mono (List.subset_append_left _ _)),
      hts.areReadable (hnames.mono ?_)⟩
    exact fun _ hmem => List.mem_append_right _ (List.mem_cons_of_mem _ hmem)
termination_by (tokens.length, 2)

theorem IsElement.isReadable {tokens : List TypeToken} {t : TypeExpr}
    (h : IsElement wide tokens t) (hnames : AreNames tokens) : t.IsReadable := by
  cases h with
  | unnamed ht => exact ht.isReadable hnames
  | named ht _ => exact ht.isReadable (hnames.mono (List.subset_append_left _ _))
termination_by (tokens.length, 1)

end

/-- What is read from a text can be read. -/
theorem isReadable_of_parse? {text : String} {t : TypeExpr} (h : parse? text = some t) :
    t.IsReadable := by
  obtain ⟨tokens, hspells, ht⟩ := parse?_eq_some_iff.1 h
  exact ht.isReadable (areNames_of_spells hspells)

/-! ## Namespaces -/

mutual

/-- Without its namespaces, a type mentions none. -/
theorem isUnqualified_unqualified : ∀ t : TypeExpr, t.unqualified.isUnqualified = true
  | .named _ name args => by
    have hargs := areUnqualified_unqualifiedAll args
    rw [unqualified]
    -- What a name denotes without its namespace has none: the arguments are the only place left for
    -- one.
    rcases ofName_cases none name (unqualifiedAll args) with
      h | ⟨keyword, -, h⟩ | ⟨inner, hinner, h⟩ | h
    · rw [h]
      rfl
    · rw [h]
      rfl
    · rw [h]
      rw [hinner] at hargs
      exact (Bool.and_eq_true_iff.1 hargs).1
    · rw [h]
      exact hargs
  | .array element _ => isUnqualified_unqualified element
  | .nullable inner => isUnqualified_unqualified inner
  | .tuple items => areUnqualified_unqualifiedAll items
  | .dynamic => rfl

theorem areUnqualified_unqualifiedAll :
    ∀ ts : List TypeExpr, areUnqualified (unqualifiedAll ts) = true
  | [] => rfl
  | t :: ts => by
    rw [unqualifiedAll, areUnqualified, isUnqualified_unqualified t,
      areUnqualified_unqualifiedAll ts]
    rfl

end

mutual

/-- A type that mentions no namespace is the same without. -/
theorem unqualified_eq_self : ∀ {t : TypeExpr}, t.IsReadable → t.isUnqualified = true →
    t.unqualified = t
  | .named qualifier name args, ⟨_, hown, hargs⟩, h => by
    obtain ⟨hnone, hplain⟩ := Bool.and_eq_true_iff.1 h
    obtain rfl := Option.isNone_iff_eq_none.1 hnone
    rw [unqualified, unqualifiedAll_eq_self hargs hplain]
    exact hown
  | .array _ rank, ⟨_, helement⟩, h => congrArg (array · rank) (unqualified_eq_self helement h)
  | .nullable _, hinner, h => congrArg nullable (unqualified_eq_self hinner h)
  | .tuple _, ⟨_, hitems⟩, h => congrArg tuple (unqualifiedAll_eq_self hitems h)
  | .dynamic, _, _ => rfl

theorem unqualifiedAll_eq_self : ∀ {ts : List TypeExpr}, AreReadable ts →
    areUnqualified ts = true → unqualifiedAll ts = ts
  | [], _, _ => rfl
  | _ :: _, ⟨ht, hts⟩, h => by
    obtain ⟨hfirst, hrest⟩ := Bool.and_eq_true_iff.1 h
    rw [unqualifiedAll, unqualified_eq_self ht hfirst, unqualifiedAll_eq_self hts hrest]

end

/-- A type is the same without its namespaces exactly if it mentions none. -/
theorem unqualified_eq_self_iff {t : TypeExpr} (h : t.IsReadable) :
    t.unqualified = t ↔ t.isUnqualified = true := by
  refine ⟨fun heq => ?_, unqualified_eq_self h⟩
  rw [← heq]
  exact isUnqualified_unqualified t

/-! ## The tokens of a written type -/

mutual

/-- The tokens of a type's text. -/
def tokens : TypeExpr → List TypeToken
  | .named _ name args =>
    .word false name.toList false ::
      if args.isEmpty then []
      else .mark '<' :: ([.mark ','].intercalate (tokensAll args) ++ [.mark '>'])
  | .array element rank =>
    element.tokens ++ .mark '[' :: (List.replicate (rank - 1) (.mark ',') ++ [.mark ']'])
  | .nullable inner => inner.tokens ++ [.mark '?']
  | .tuple items => .mark '(' :: ([.mark ','].intercalate (tokensAll items) ++ [.mark ')'])
  | .dynamic => [.word false "dynamic".toList false]

/-- The tokens of each of a list of types. -/
def tokensAll : List TypeExpr → List (List TypeToken)
  | [] => []
  | t :: ts => t.tokens :: tokensAll ts

end

theorem letters_named (qualifier : Option String) (name : String) (args : List TypeExpr) :
    (named qualifier name args).letters = name.toList ++
      if args.isEmpty then [] else '<' :: [',', ' '].intercalate (lettersAll args) ++ ['>'] :=
  rfl

theorem letters_array (element : TypeExpr) (rank : Nat) :
    (array element rank).letters =
      element.letters ++ '[' :: List.replicate (rank - 1) ',' ++ [']'] :=
  rfl

theorem letters_nullable (inner : TypeExpr) : (nullable inner).letters = inner.letters ++ ['?'] :=
  rfl

theorem letters_tuple (items : List TypeExpr) :
    (tuple items).letters = '(' :: [',', ' '].intercalate (lettersAll items) ++ [')'] :=
  rfl

theorem lettersAll_cons (t : TypeExpr) (ts : List TypeExpr) :
    lettersAll (t :: ts) = t.letters :: lettersAll ts :=
  rfl

/-- Whether a text begins with neither a letter nor white space, so that a word that stands before
it ends there. -/
def EndsBare (cs : List Char) : Prop :=
  ∀ c ∈ cs.head?, TypeToken.isLetter c = false ∧ Text.isBlank c = false

theorem EndsBare.mark {c : Char} (hc : TypeToken.isMark c = true) (cs : List Char) :
    EndsBare (c :: cs) := by
  rintro _ ⟨⟩
  obtain ⟨hblank, hletter, -⟩ := TypeToken.isMark_facts hc
  exact ⟨hletter, hblank⟩

/-- A name spells a word if the text goes on with something else. -/
theorem spells_name {name : String} (hname : IsName name) {cs : List Char}
    {rest : List TypeToken} (hend : EndsBare cs) (hrest : TypeToken.Spells cs rest) :
    TypeToken.Spells (name.toList ++ cs) (.word false name.toList false :: rest) := by
  have hblank : TypeToken.blankNext cs = false := by
    cases cs with
    | nil => rfl
    | cons c cs => exact (hend c rfl).2
  have hspells := TypeToken.Spells.word hname.1 hname.2 (fun c hc => (hend c hc).1) hrest
  rwa [hblank] at hspells

/-- Commas spell themselves. -/
theorem spells_commas {cs : List Char} {rest : List TypeToken} (hrest : TypeToken.Spells cs rest) :
    ∀ n, TypeToken.Spells (List.replicate n ',' ++ cs) (List.replicate n (.mark ',') ++ rest)
  | 0 => hrest
  | n + 1 => .mark (by decide) (spells_commas hrest n)

mutual

/-- The text of a type that can be read spells its tokens. -/
theorem spells_letters : ∀ {t : TypeExpr}, t.IsReadable → ∀ {cs : List Char}
    {rest : List TypeToken}, EndsBare cs → TypeToken.Spells cs rest →
      TypeToken.Spells (t.letters ++ cs) (t.tokens ++ rest)
  | .named _ name [], ⟨hname, _, _⟩, cs, rest, hend, hrest => by
    rw [letters_named, tokens, List.isEmpty_nil, if_pos rfl, if_pos rfl, List.append_nil]
    exact spells_name hname hend hrest
  | .named _ name (arg :: args), ⟨hname, _, hargs⟩, cs, rest, hend, hrest => by
    have hclose : TypeToken.isMark '>' = true := by decide
    have hopen : TypeToken.isMark '<' = true := by decide
    -- The closing bracket ends the last argument, whatever stands behind the type.
    have hinner := spells_lettersAll hargs (.mark hclose cs) (.mark hclose hrest)
    simpa [letters_named, tokens] using spells_name hname (.mark hopen _) (.mark hopen hinner)
  | .array element rank, ⟨_, helement⟩, cs, rest, hend, hrest => by
    have hclose : TypeToken.isMark ']' = true := by decide
    have hopen : TypeToken.isMark '[' = true := by decide
    have hcommas := spells_commas (.mark hclose hrest) (rank - 1)
    simpa [letters_array, tokens] using
      spells_letters helement (.mark hopen _) (.mark hopen hcommas)
  | .nullable inner, hinner, cs, rest, hend, hrest => by
    have hmark : TypeToken.isMark '?' = true := by decide
    simpa [letters_nullable, tokens] using
      @spells_letters inner hinner _ _ (.mark hmark cs) (.mark hmark hrest)
  | .tuple items, ⟨_, hitems⟩, cs, rest, hend, hrest => by
    have hclose : TypeToken.isMark ')' = true := by decide
    have hopen : TypeToken.isMark '(' = true := by decide
    have hinner := spells_lettersAll hitems (.mark hclose cs) (.mark hclose hrest)
    simpa [letters_tuple, tokens] using TypeToken.Spells.mark hopen hinner
  | .dynamic, _, cs, rest, hend, hrest => by
    have hname : IsName "dynamic" := isName_of_all (by decide +kernel) (by decide +kernel)
    exact spells_name hname hend hrest

theorem spells_lettersAll : ∀ {ts : List TypeExpr}, AreReadable ts → ∀ {cs : List Char}
    {rest : List TypeToken}, EndsBare cs → TypeToken.Spells cs rest →
      TypeToken.Spells ([',', ' '].intercalate (lettersAll ts) ++ cs)
        ([.mark ','].intercalate (tokensAll ts) ++ rest)
  | [], _, cs, rest, hend, hrest => hrest
  | [t], ⟨ht, _⟩, cs, rest, hend, hrest => by
    show TypeToken.Spells ([',', ' '].intercalate [t.letters] ++ cs)
      ([.mark ','].intercalate [t.tokens] ++ rest)
    rw [List.intercalate_singleton, List.intercalate_singleton]
    exact spells_letters ht hend hrest
  | t :: u :: ts, ⟨ht, hts⟩, cs, rest, hend, hrest => by
    rw [lettersAll_cons, lettersAll_cons, tokensAll, tokensAll, List.intercalate_cons_cons,
      List.intercalate_cons_cons]
    simp only [List.append_assoc]
    -- Behind the comma stands a blank, which is passed over.
    refine spells_letters ht (.mark (by decide) _) (.mark (by decide) (.blank (by decide) ?_))
    exact spells_lettersAll hts hend hrest

end

/-- The text of a type that can be read spells its tokens and no more. -/
theorem spells_tokens {t : TypeExpr} (h : t.IsReadable) : TypeToken.Spells t.letters t.tokens := by
  have hends : EndsBare [] := fun _ hmem => nomatch hmem
  have hspells := spells_letters h hends .nil
  rwa [List.append_nil, List.append_nil] at hspells

/-! ## Reading a written type -/

/-- Suffixes may be followed by one more. -/
theorem AreSuffixes.snoc {tokens last : List TypeToken} {t u v : TypeExpr}
    (h : AreSuffixes tokens t u) (hlast : IsSuffix last u v) :
    AreSuffixes (tokens ++ last) t v := by
  induction h with
  | nil =>
    rw [List.nil_append, ← List.append_nil last]
    exact .cons hlast .nil
  | cons hfirst _ ih =>
    rw [List.append_assoc]
    exact .cons hfirst (ih hlast)

/-- A type may be followed by a suffix. -/
theorem IsType.suffix {g : Conventions} {tokens last : List TypeToken} {t u : TypeExpr}
    (h : IsType g tokens t) (hlast : IsSuffix last t u) : IsType g (tokens ++ last) u := by
  cases h with
  | suffixed hbase hsuffixes =>
    rw [List.append_assoc]
    exact .suffixed hbase (hsuffixes.snoc hlast)

/-- Types may stand as the elements of a tuple, without names. -/
theorem AreTypes.areElements {g : Conventions} {tokens : List TypeToken} {ts : List TypeExpr}
    (h : AreTypes g tokens ts) : AreElements g tokens ts := by
  cases h with
  | one ht => exact .one (.unnamed ht)
  | more ht hts => exact .more (.unnamed ht) hts.areElements
termination_by tokens.length

/-- A name and its arguments derive what the two denote together. -/
theorem isType_applied {name : String} {arguments : List TypeToken} {args : List TypeExpr}
    (hargs : AreArguments wide arguments args) :
    IsType wide (.word false name.toList false :: arguments) (ofName none name args) := by
  have hsegments : withoutAnchors (String.ofList name.toList) [] = [name] := by
    rw [String.ofList_toList]
    rfl
  have htype := IsType.suffixed (@IsBase.named wide false false name.toList _ _ _ _ .nil hargs) .nil
  rw [List.append_nil, List.nil_append] at htype
  unfold wide at htype
  dsimp only at htype
  rw [hsegments] at htype
  exact htype

mutual

/-- The tokens of a type that can be read derive the type without its namespaces. -/
theorem isType_tokens : ∀ {t : TypeExpr}, t.IsReadable → IsType wide t.tokens t.unqualified
  | .named _ name [], _ => isType_applied .none
  | .named _ name (arg :: args), ⟨_, _, hargs⟩ =>
    isType_applied (.angle (areTypes_tokensAll hargs (List.cons_ne_nil arg args)))
  | .array element (commas + 1), ⟨_, helement⟩ =>
    (isType_tokens helement).suffix (.square commas)
  | .nullable inner, hinner => (@isType_tokens inner hinner).suffix .nullable
  | .tuple _, ⟨hsome, hitems⟩ => by
    have helements := (areTypes_tokensAll hitems hsome).areElements
    have htype := IsType.suffixed (.tuple helements) .nil
    rwa [List.append_nil] at htype
  | .dynamic, _ => by
    have hown : ofName none "dynamic" [] = .dynamic := by decide
    rw [tokens, unqualified, ← hown]
    exact isType_applied .none

theorem areTypes_tokensAll : ∀ {ts : List TypeExpr}, AreReadable ts → ts ≠ [] →
    AreTypes wide ([.mark ','].intercalate (tokensAll ts)) (unqualifiedAll ts)
  | [], _, hsome => absurd rfl hsome
  | [t], ⟨ht, _⟩, _ => by
    rw [tokensAll, tokensAll, List.intercalate_singleton]
    exact .one (isType_tokens ht)
  | t :: u :: ts, ⟨ht, hts⟩, _ => by
    rw [tokensAll, tokensAll, List.intercalate_cons_cons, List.append_assoc]
    exact .more (isType_tokens ht) (areTypes_tokensAll hts (List.cons_ne_nil u ts))

end

/-- What can be read, written out and read is the type without its namespaces. -/
theorem parse?_render_of_isReadable {t : TypeExpr} (hreadable : t.IsReadable) :
    parse? t.render = some t.unqualified := by
  rw [parse?_eq_some_iff]
  refine ⟨t.tokens, ?_, isType_tokens hreadable⟩
  rw [render, String.toList_ofList]
  exact spells_tokens hreadable

/-- What was read, written out and read again is the type without its namespaces. -/
theorem parse?_render {text : String} {t : TypeExpr} (h : parse? text = some t) :
    parse? t.render = some t.unqualified :=
  parse?_render_of_isReadable (isReadable_of_parse? h)

/-- A type that was read and written out is read as the type without its namespaces, so it comes
back exactly if it mentions none; and from the second reading on, type and text stay as they are. -/
theorem rendering_settles {text : String} {t : TypeExpr} (h : parse? text = some t) :
    parse? t.render = some t.unqualified ∧
      (t.unqualified = t ↔ t.isUnqualified = true) ∧
      (t.isUnqualified = true → parse? t.render = some t) ∧
      parse? t.unqualified.render = some t.unqualified := by
  have hread : parse? t.render = some t.unqualified := parse?_render h
  have hsame : t.unqualified = t ↔ t.isUnqualified = true :=
    unqualified_eq_self_iff (isReadable_of_parse? h)
  have htwice : t.unqualified.unqualified = t.unqualified :=
    unqualified_eq_self (isReadable_of_parse? hread) (isUnqualified_unqualified t)
  refine ⟨hread, hsame, fun hplain => ?_, ?_⟩
  · rw [hread, hsame.2 hplain]
  · rw [parse?_render hread, htwice]

/-- Behind a namespace, `Single` and `Nullable` are names like others; written out and read again
they are built in. -/
theorem rendering_settles_behind_namespace :
    parse? "Geometry.Nullable(Of Geometry.Single)()" = some (.array
        (.named (some "Geometry") "Nullable" [.named (some "Geometry") "Single" []]) 1) ∧
      parse? "Nullable<Single>[]" = some (.array (.nullable (bare "float")) 1) ∧
      parse? "float?[]" = some (.array (.nullable (bare "float")) 1) := by
  have hread : parse? "Geometry.Nullable(Of Geometry.Single)()" = some (.array
      (.named (some "Geometry") "Nullable" [.named (some "Geometry") "Single" []]) 1) := by
    decide +kernel
  obtain ⟨hagain, -, -, hstays⟩ := rendering_settles hread
  exact ⟨hread, hagain, hstays⟩

end ViewForge.TypeExpr
