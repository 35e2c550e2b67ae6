import ViewForge.Proofs.Draft.CSharp.Writing

/-!
# Declarations read in C#

What is read of the nodes that the grammar has for drafted properties, classes, structures and
enumerations. White space makes no nodes, so the nodes of a piece are its solid pieces; what is
looked for among them by a role or a kind is found in the piece that alone has it. So a property is
read with its modifiers and accessors (`property?_of_isNode`), and a type with what stands before
and in its body (`readsHead_of_isNode`, `readsHead_of_enum`).
-/

namespace ViewForge

open CSharp (Printed Label Node Source)
open CSharp.Printed

variable {s : Source} {n : Node} {ns : List Node}

/-! ## Pieces without white space -/

/-- If all pieces of a form pass a test, none is left out. -/
theorem filter_map_eq_self {α : Type} {piece : α → Printed} {q : Printed → Bool}
    (hpiece : ∀ a, q (piece a) = true) (as : List α) : (as.map piece).filter q = as.map piece :=
  List.filter_eq_self.2 (List.forall_mem_map.2 fun a _ => hpiece a)

section Filter

variable {q : Printed → Bool} (hblank : ∀ c, q (.blank c) = false)

include hblank

theorem filter_spacedPieces (ps : List Printed) : (spacedPieces ps).filter q = ps.filter q := by
  induction ps with
  | nil => rfl
  | cons p ps ih =>
    rw [spacedPieces, List.flatMap_cons, List.filter_append, ← spacedPieces, ih]
    simp [List.filter_cons, hblank]
    split <;> rfl

theorem filter_blanks (depth : Nat) (c : Char) :
    (List.replicate depth (.blank c)).filter q = [] := by
  rw [List.filter_replicate, hblank]
  rfl

theorem filter_linePieces (depth : Nat) (ps : List Printed) :
    (linePieces depth ps).filter q = ps.filter q := by
  rw [linePieces, List.filter_append, filter_blanks hblank, List.filter_append]
  simp [hblank]

theorem filter_listedPieces (hcomma : q (keyword ",") = false) (ps : List Printed) :
    (listedPieces ps).filter q = ps.filter q := by
  cases ps with
  | nil => rfl
  | cons p ps =>
    have hrest : (ps.flatMap fun r => [keyword ",", .blank ' ', r]).filter q = ps.filter q := by
      induction ps with
      | nil => rfl
      | cons r ps ih =>
        rw [List.flatMap_cons, List.filter_append, ih]
        simp [List.filter_cons, hblank, hcomma]
        split <;> rfl
    rw [listedPieces, List.filter_cons, List.filter_cons, hrest]

end Filter

theorem isSolid_blank (c : Char) : isSolid (.blank c) = false := rfl

theorem isNamed_blank (c : Char) : isNamed (.blank c) = false := rfl

theorem isSolid_keyword (word : String) (roles : List (Option String)) :
    isSolid (keyword word roles) = true := rfl

/-! ## Properties -/

/-- The modifiers of a node are those that are printed. -/
theorem modifiers_of_reads {words : List String} {ps : List Printed}
    (h : Reads s (words.map modifierPiece ++ ps) n.children)
    (hwords : ∀ w ∈ words, w.toList ≠ [] ∧ Text.trim w.toList = w.toList)
    (hps : ∀ p ∈ ps, "modifier" ∉ p.kinds) : s.modifiers n = words := by
  have hread := reads_ofKind "modifier" h fun p hp => by
    rcases List.mem_append.1 hp with hp | hp
    · obtain ⟨w, -, rfl⟩ := List.mem_map.1 hp
      exact .inl rfl
    · exact .inr (hps p hp)
  have hmods : (words.map modifierPiece).filter (·.kinds == ["modifier"]) =
      words.map modifierPiece := by
    rw [List.filter_eq_self]
    intro p hp
    obtain ⟨w, -, rfl⟩ := List.mem_map.1 hp
    rfl
  have hothers : ps.filter (·.kinds == ["modifier"]) = [] := by
    rw [List.filter_eq_nil_iff]
    intro p hp heq
    exact hps p hp (by rw [beq_iff_eq.1 heq]; exact List.mem_singleton_self _)
  rw [List.filter_append, hmods, hothers, List.append_nil] at hread
  have htexts := filterMap_of_reads hread fun w hw n hn =>
    text?_of_isNode hn (hwords w hw).1 (hwords w hw).2
  simp only [String.ofList_toList, List.map_id'] at htexts
  exact htexts

/-- The words of accessors and of their modifiers. -/
theorem accessorDraft_words (form : PropertyForm) : ∀ a ∈ form.accessors,
    a.word ∈ ["get", "set", "init"] ∧
      ∀ w ∈ a.modifiers, w.toList ≠ [] ∧ Text.trim w.toList = w.toList := by
  cases form <;> decide +kernel

/-- What an accessor ends with is a block or a semicolon. -/
theorem kinds_ending (a : AccessorDraft) :
    a.ending.isSolid = true ∧ ∀ k ∈ a.ending.kinds, k ∈ [";", "block"] := by
  unfold AccessorDraft.ending
  cases a.body with
  | none => exact ⟨rfl, List.forall_mem_singleton.2 (by decide)⟩
  | some body => exact ⟨rfl, List.forall_mem_singleton.2 (by decide)⟩

/-- The nodes of an accessor are its modifiers, its word and what it ends with. -/
theorem reads_accessor {a : AccessorDraft} (h : a.piece.isNode s n = true) :
    Reads s (a.modifiers.map modifierPiece ++ [keyword a.word [none, some "name"], a.ending])
      n.children := by
  have hbehind : (keyword a.word [none, some "name"] ::
      ((if a.body.isSome then [.blank ' '] else []) ++ [a.ending])).filter isSolid =
        [keyword a.word [none, some "name"], a.ending] := by
    cases a.body.isSome <;>
      simp [List.filter_cons, isSolid_blank, isSolid_keyword, (kinds_ending a).1]
  have hread := (isNode_node.1 h).2
  rwa [List.filter_append, filter_spacedPieces isSolid_blank,
    filter_map_eq_self fun _ => rfl, hbehind] at hread

/-- An accessor is read with its word and its modifiers. -/
theorem accessor_of_isNode {a : AccessorDraft} (hword : a.word ∈ ["get", "set", "init"])
    (hmods : ∀ w ∈ a.modifiers, w.toList ≠ [] ∧ Text.trim w.toList = w.toList)
    (h : a.piece.isNode s n = true) :
    n.accessorWord? = some a.word ∧ s.modifiers n = a.modifiers := by
  have hread := reads_accessor h
  have hending := (kinds_ending a).2
  -- Neither a modifier nor what the accessor ends with is of the kind of a word of accessors.
  have hwords : ∀ k ∈ ["modifier", ";", "block"], k ∉ ["get", "set", "init"] := by decide
  refine ⟨?_, modifiers_of_reads hread hmods ?_⟩
  · refine map_kind_find? (fun k => k == "get" || k == "set" || k == "init") hread
      (List.mem_append_right _ List.mem_cons_self) rfl (by simpa [or_assoc] using hword) ?_
    intro q hq k hk htest
    replace htest : k ∈ ["get", "set", "init"] := by simpa [or_assoc] using htest
    rw [List.mem_append, List.mem_pair] at hq
    rcases hq with hq | rfl | rfl
    · obtain ⟨w, -, rfl⟩ := List.mem_map.1 hq
      exact absurd htest (hwords k (List.mem_singleton.1 hk ▸ List.mem_cons_self))
    · exact List.mem_singleton.1 hk
    · exact absurd htest (hwords k (List.mem_cons_of_mem _ (hending k hk)))
  · intro p hp hmem
    rw [List.mem_pair] at hp
    rcases hp with rfl | rfl
    · rw [← List.mem_singleton.1 hmem] at hword
      exact absurd hword (by decide)
    · exact absurd (hending _ hmem) (by decide)

/-- Accessors are read as those of their form. -/
theorem accessors_of_isNode {form : PropertyForm} (h : form.piece.isNode s n = true) :
    s.accessors n = (form.hasGetter, form.hasSetter) := by
  have hread := reads_namedChildren (isNode_node.1 h).2
  have hnamed : (keyword "\x7b" :: .blank ' ' ::
      (spacedPieces (form.accessors.map AccessorDraft.piece) ++ [keyword "\x7d"])).filter isNamed =
        form.accessors.map AccessorDraft.piece := by
    rw [List.filter_cons_of_neg (by decide), List.filter_cons_of_neg (by decide),
      List.filter_append, filter_spacedPieces isNamed_blank, filter_map_eq_self fun _ => rfl]
    exact List.append_nil _
  rw [hnamed] at hread
  have hall := reads_ofKind "accessor_declaration" hread (List.forall_mem_map.2 fun a _ => .inl rfl)
  rw [filter_map_eq_self fun _ => rfl] at hall
  have hwords := accessorDraft_words form
  have hget := any_of_reads (fun n => n.accessorWord? == some "get")
    (fun a => a.word == "get") hall fun a ha n hn => by
      rw [(accessor_of_isNode (hwords a ha).1 (hwords a ha).2 hn).1]
      rfl
  have hset := any_of_reads (fun n =>
      (n.accessorWord? == some "set" || n.accessorWord? == some "init") &&
        !(s.modifiers n).any fun m => m == "private" || m == "protected")
    (fun a => (a.word == "set" || a.word == "init") &&
      !a.modifiers.any fun m => m == "private" || m == "protected") hall fun a ha n hn => by
      obtain ⟨hword, hmods⟩ := accessor_of_isNode (hwords a ha).1 (hwords a ha).2 hn
      rw [hword, hmods]
      rfl
  unfold Source.accessors
  dsimp only
  rw [hget, hset]
  cases form <;> decide

/-- What stands in a role is the text of the piece that is printed in it. -/
theorem roleText?_of_reads {role : String} {label : Label} {letters : List Char}
    {ps : List Printed} (h : Reads s ps n.children) (hmem : leaf label letters ∈ ps)
    (hrole : label.roles = [some role])
    (honly : ∀ q ∈ ps, some role ∈ q.roles → q = leaf label letters)
    (hsome : letters ≠ []) (htrim : Text.trim letters = letters) :
    s.roleText? n role = some (String.ofList letters) := by
  obtain ⟨c, hc, hread⟩ := exists_child? h hmem hrole honly
  rw [Source.roleText?, hc, Option.bind_some, text?_of_isNode hread hsome htrim]

/-- The name of what is declared is read. -/
theorem roleText?_name {ps : List Printed} {name : Identifier} (h : Reads s ps n.children)
    (hmem : name.piece ∈ ps) (honly : ∀ q ∈ ps, some "name" ∈ q.roles → q = name.piece) :
    s.roleText? n "name" = some name.text :=
  roleText?_of_reads h hmem rfl honly name.2.ne_nil name.2.trim_eq_self

/-- The words before a property tell from where it can be used and whether it is shared. -/
theorem accessOf_modifiers (p : PropertyDraft) :
    (∀ w ∈ p.modifiers, w.toList ≠ [] ∧ Text.trim w.toList = w.toList) ∧
      CSharp.accessOf p.modifiers false = p.visibility.access ∧
      p.modifiers.contains "static" = p.isShared := by
  unfold PropertyDraft.modifiers
  cases p.visibility <;> cases p.isShared <;> decide +kernel

/-- The nodes that a property is made of. -/
def propertyNodes (p : PropertyDraft) : List Printed :=
  p.modifiers.map modifierPiece ++ [p.type.piece [some "type"], p.name.piece, p.form.piece]

/-- What a node is to a property tells what the node is printed as. -/
theorem eq_of_propertyRole {p : PropertyDraft} {role : String} {q : Printed}
    (hq : q ∈ propertyNodes p) (hrole : some role ∈ q.roles) :
    (role = "type" ∧ q = p.type.piece [some "type"]) ∨ (role = "name" ∧ q = p.name.piece) ∨
      (role = "accessors" ∧ q = p.form.piece) := by
  simp only [propertyNodes, List.mem_append, List.mem_cons, List.not_mem_nil, or_false] at hq
  rcases hq with hq | rfl | rfl | rfl
  · obtain ⟨w, -, rfl⟩ := List.mem_map.1 hq
    exact nomatch List.mem_singleton.1 hrole
  · exact .inl ⟨Option.some.inj (List.mem_singleton.1 hrole), rfl⟩
  · exact .inr (.inl ⟨Option.some.inj (List.mem_singleton.1 hrole), rfl⟩)
  · exact .inr (.inr ⟨Option.some.inj (List.mem_singleton.1 hrole), rfl⟩)

/-- The nodes of a property are read. -/
theorem reads_property {p : PropertyDraft} (h : p.piece.isNode s n = true) :
    Reads s (propertyNodes p) n.children := by
  have hread := (isNode_node.1 h).2
  rw [List.filter_append, filter_spacedPieces isSolid_blank,
    filter_map_eq_self fun _ => rfl] at hread
  exact hread

/-- The modifiers of a property are read. -/
theorem modifiers_of_property {p : PropertyDraft} (h : Reads s (propertyNodes p) n.children) :
    s.modifiers n = p.modifiers := by
  refine modifiers_of_reads h (accessOf_modifiers p).1 fun q hq hkind => ?_
  simp only [List.mem_cons, List.not_mem_nil, or_false] at hq
  rcases hq with rfl | rfl | rfl
  · exact absurd hkind (by decide : "modifier" ∉ typeKinds)
  · exact absurd (List.mem_singleton.1 hkind) (by decide)
  · exact absurd (List.mem_singleton.1 hkind) (by decide)

/-- A property is read as it is drafted. -/
theorem property?_of_isNode {p : PropertyDraft} (h : p.piece.isNode s n = true) :
    s.property? false n = some (p.toProperty .csharp) := by
  have hread := reads_property h
  obtain ⟨-, haccess, hstatic⟩ := accessOf_modifiers p
  have hname : s.roleText? n "name" = some p.name.text :=
    roleText?_name hread (by simp [propertyNodes]) fun q hq hrole => by
      simpa using eq_of_propertyRole hq hrole
  have hmem : p.type.piece [some "type"] ∈ propertyNodes p := by simp [propertyNodes]
  have honly : ∀ q ∈ propertyNodes p, some "type" ∈ q.roles → q = p.type.piece [some "type"] :=
    fun q hq hrole => by simpa using eq_of_propertyRole hq hrole
  have htype : s.roleText? n "type" = some (p.type.text .csharp) :=
    roleText?_of_reads hread hmem rfl honly (TypePhrase.text_ne_nil .angled p.type.1)
      (TypePhrase.trim_text .angled p.type.1)
  obtain ⟨list, hlist, hlistread⟩ := exists_child? (p := p.form.piece) hread
    (by simp [propertyNodes]) rfl fun q hq hrole => by simpa using eq_of_propertyRole hq hrole
  unfold Source.property?
  rw [hname, htype, hlist, modifiers_of_property hread, Option.some_or]
  simp only [Option.bind_eq_bind, Option.bind_some, accessors_of_isNode hlistread, haccess, hstatic]
  rfl

/-! ## What stands before and in a body -/

/-- What stands in a body is read between its braces. -/
theorem body_of_isNode {kind : String} {depth : Nat} {inner : List Printed}
    (h : (bodyPiece kind depth inner).isNode s n = true) :
    Reads s (inner.filter isNamed) n.namedChildren := by
  have hread := reads_namedChildren (isNode_node.1 h).2
  rwa [List.filter_cons_of_neg (by decide), List.filter_cons_of_neg (by decide),
    List.filter_append, List.filter_append, filter_blanks isNamed_blank,
    List.filter_cons_of_neg (by decide), List.filter_nil, List.nil_append, List.append_nil] at hread

/-- Type parameters are read by their names. -/
theorem parameters_of_isNode {names : List Identifier}
    (h : (parameterPiece names).isNode s n = true) :
    (n.namedChildren.filter (·.kind == "type_parameter")).filterMap
      (fun c => (s.roleText? c "name").or (s.text? c)) = names.map (·.text) := by
  have hread := reads_namedChildren (isNode_node.1 h).2
  rw [List.filter_cons_of_neg (by decide), List.filter_append,
    filter_listedPieces isNamed_blank rfl, filter_map_eq_self fun _ => rfl,
    List.filter_cons_of_neg (by decide), List.filter_nil, List.append_nil] at hread
  have hall := reads_ofKind "type_parameter" hread (List.forall_mem_map.2 fun _ _ => .inl rfl)
  rw [filter_map_eq_self fun _ => rfl] at hall
  refine filterMap_of_reads hall fun name _ n hn => ?_
  have hname := roleText?_name (isNode_node.1 hn).2 List.mem_cons_self fun q hq _ =>
    List.mem_singleton.1 hq
  rw [hname, Option.some_or]

/-- Base types are read by their texts. -/
theorem bases_of_isNode {bases : List PhraseDraft} (h : (basePiece bases).isNode s n = true) :
    (n.namedChildren.filterMap fun base =>
      if base.kind = "argument_list" || base.kind = "comment" then none
      else if base.kind = "primary_constructor_base_type" then
        ((base.child? "type").or base.namedChildren.head?).bind s.text?
      else s.text? base) = bases.map (·.text .csharp) := by
  have hread := reads_namedChildren (isNode_node.1 h).2
  rw [List.filter_cons_of_neg (by decide), List.filter_cons_of_neg (by decide),
    filter_listedPieces isNamed_blank rfl, filter_map_eq_self fun _ => rfl] at hread
  refine filterMap_of_reads hread fun t _ n hn => ?_
  have hkinds : ∀ k ∈ typeKinds, (k = "argument_list" || k = "comment") = false ∧
      k ≠ "primary_constructor_base_type" := by
    decide
  obtain ⟨hcomment, hconstructor⟩ := hkinds n.kind (fits_of_isNode hn).2.1
  rw [hcomment, if_neg Bool.false_ne_true, if_neg hconstructor]
  exact text?_of_isNode hn (TypePhrase.text_ne_nil .angled t.1) (TypePhrase.trim_text .angled t.1)

/-- What is read of a node that declares a type, but for what its body declares. -/
structure ReadsHead (s : Source) (n : Node) (name : Identifier) (parameters : List Identifier)
    (bases : List PhraseDraft) (body : List Printed) : Prop where
  /-- It has the name. -/
  name : s.roleText? n "name" = some name.text
  /-- It has the type parameters. -/
  parameters : s.typeParameters n = parameters.map (·.text)
  /-- It has the base types. -/
  bases : s.baseTypes n = bases.map (·.text .csharp)
  /-- In its body stands what is printed there. -/
  body : Reads s body n.members

/-- The nodes that a declaration of a type is made of. -/
def headNodes (word : String) (name : Identifier) (parameters : List Identifier)
    (bases : List PhraseDraft) (body : Printed) : List Printed :=
  modifierPiece "public" :: keyword word :: name.piece ::
    (parameterPieces parameters ++
      ((if bases.isEmpty then [] else [basePiece bases]) ++ [body]))

section Head

variable {word kind role : String} {name : Identifier} {parameters : List Identifier}
  {bases : List PhraseDraft} {body q : Printed} {depth : Nat} {inner : List Printed}

theorem mem_headNodes :
    q ∈ headNodes word name parameters bases body ↔
      q = modifierPiece "public" ∨ q = keyword word ∨ q = name.piece ∨
        (parameters ≠ [] ∧ q = parameterPiece parameters) ∨
          (bases ≠ [] ∧ q = basePiece bases) ∨ q = body := by
  simp [headNodes, parameterPieces]

/-- What a node is to the declaration tells what the node is printed as. -/
theorem eq_of_role (hbody : body.roles = [some "body"])
    (hq : q ∈ headNodes word name parameters bases body) (hrole : some role ∈ q.roles) :
    (role = "name" ∧ q = name.piece) ∨
      (role = "type_parameters" ∧ parameters ≠ [] ∧ q = parameterPiece parameters) ∨
      role = "bases" ∨ (role = "body" ∧ q = body) := by
  rcases mem_headNodes.1 hq with rfl | rfl | rfl | ⟨hsome, rfl⟩ | ⟨-, rfl⟩ | rfl
  · exact nomatch List.mem_singleton.1 hrole
  · exact nomatch List.mem_singleton.1 hrole
  · exact .inl ⟨Option.some.inj (List.mem_singleton.1 hrole), rfl⟩
  · rcases List.mem_pair.1 hrole with hnone | hrole
    · exact nomatch hnone
    · exact .inr (.inl ⟨Option.some.inj hrole, hsome, rfl⟩)
  · rcases List.mem_pair.1 hrole with hnone | hrole
    · exact nomatch hnone
    · exact .inr (.inr (.inl (Option.some.inj hrole)))
  · rw [hbody, List.mem_singleton] at hrole
    exact .inr (.inr (.inr ⟨Option.some.inj hrole, rfl⟩))

/-- What the grammar calls the nodes of a declaration that are no lists of types. -/
def plainKinds : List String :=
  ["modifier", "class", "struct", "enum", "identifier", "declaration_list",
   "enum_member_declaration_list"]

/-- What the grammar calls a node of a declaration tells what the node is printed as. -/
theorem eq_of_kind (hword : word ∈ plainKinds) (hbody : ∀ k ∈ body.kinds, k ∈ plainKinds)
    (hq : q ∈ headNodes word name parameters bases body) (hkind : kind ∈ q.kinds) :
    kind ∈ plainKinds ∨
      (kind = "type_parameter_list" ∧ parameters ≠ [] ∧ q = parameterPiece parameters) ∨
      (kind = "base_list" ∧ bases ≠ [] ∧ q = basePiece bases) := by
  rcases mem_headNodes.1 hq with rfl | rfl | rfl | ⟨hsome, rfl⟩ | ⟨hsome, rfl⟩ | rfl
  · obtain rfl := List.mem_singleton.1 hkind
    exact .inl (by decide)
  · obtain rfl := List.mem_singleton.1 hkind
    exact .inl hword
  · obtain rfl := List.mem_singleton.1 hkind
    exact .inl (by decide)
  · exact .inr (.inl ⟨List.mem_singleton.1 hkind, hsome, rfl⟩)
  · exact .inr (.inr ⟨List.mem_singleton.1 hkind, hsome, rfl⟩)
  · exact .inl (hbody kind hkind)

/-- The type parameters of a declaration are read. -/
theorem typeParameters_of_reads (hword : word ∈ plainKinds)
    (hbody : ∀ k ∈ body.kinds, k ∈ plainKinds) (hrole : body.roles = [some "body"])
    (h : Reads s (headNodes word name parameters bases body) n.children) :
    s.typeParameters n = parameters.map (·.text) := by
  have hplain : "type_parameter_list" ∉ plainKinds := by decide
  unfold Source.typeParameters
  -- The list is looked for by its role and then by its kind; without one neither finds anything.
  by_cases hnone : parameters = []
  · have hchild : n.child? "type_parameters" = none := child?_eq_none h fun q hq hqr => by
      have := eq_of_role hrole hq hqr
      simp [hnone] at this
    have hof : n.childOf? "type_parameter_list" = none := childOf?_eq_none h fun q hq hqk => by
      have := eq_of_kind hword hbody hq hqk
      simp [hnone, hplain] at this
    rw [hchild, hof, hnone]
    rfl
  · obtain ⟨c, hc, hread⟩ := exists_child?_or "type_parameters" h
      (mem_headNodes.2 (.inr (.inr (.inr (.inl ⟨hnone, rfl⟩))))) rfl rfl fun q hq hfound => by
        rcases hfound with hqr | hqk
        · have := eq_of_role hrole hq hqr
          simpa [hnone] using this
        · have := eq_of_kind hword hbody hq hqk
          simpa [hnone, hplain] using this
    rw [hc]
    exact parameters_of_isNode hread

/-- The only list of base types is that of the declaration. -/
theorem filter_headNodes (hword : word ∈ plainKinds) (hbody : ∀ k ∈ body.kinds, k ∈ plainKinds) :
    ((headNodes word name parameters bases body).filter isNamed).filter
      (·.kinds == ["base_list"]) = if bases.isEmpty then [] else [basePiece bases] := by
  have hplain (p : Printed) (hp : ∀ k ∈ p.kinds, k ∈ plainKinds) :
      (p.kinds == ["base_list"]) = false := by
    rw [beq_eq_false_iff_ne]
    intro heq
    exact absurd (hp "base_list" (heq ▸ List.mem_singleton_self _)) (by decide)
  have hmodifier : ((modifierPiece "public").kinds == ["base_list"]) = false := rfl
  have hname : (name.piece.kinds == ["base_list"]) = false := rfl
  have hparameters : ((parameterPiece parameters).kinds == ["base_list"]) = false := rfl
  have hbases : ((basePiece bases).kinds == ["base_list"] && (basePiece bases).isNamed) = true :=
    rfl
  have hhead := hplain (keyword word) (List.forall_mem_singleton.2 hword)
  have hlast := hplain body hbody
  unfold headNodes parameterPieces
  rw [List.filter_filter]
  cases parameters.isEmpty <;> cases bases.isEmpty <;>
    simp [hmodifier, hname, hparameters, hbases, hhead, hlast]

/-- The base types of a declaration are read. -/
theorem baseTypes_of_reads (hword : word ∈ plainKinds) (hbody : ∀ k ∈ body.kinds, k ∈ plainKinds)
    (h : Reads s ((headNodes word name parameters bases body).filter isNamed) n.namedChildren) :
    s.baseTypes n = bases.map (·.text .csharp) := by
  have hlists := reads_ofKind "base_list" h fun q hq => by
    by_cases hkind : "base_list" ∈ q.kinds
    · rcases eq_of_kind hword hbody (List.mem_of_mem_filter hq) hkind with hmem | hmem | hmem
      · exact absurd hmem (by decide)
      · exact absurd hmem.1 (by decide)
      · rw [hmem.2.2]
        exact .inl rfl
    · exact .inr hkind
  rw [filter_headNodes hword hbody] at hlists
  unfold Source.baseTypes
  cases bases with
  | nil =>
    rw [List.forall₂_nil_left_iff.1 hlists]
    rfl
  | cons t ts =>
    obtain ⟨list, rest, hlist, hrest, heq⟩ := List.forall₂_cons_left_iff.1 hlists
    rw [heq, List.forall₂_nil_left_iff.1 hrest, List.flatMap_singleton]
    exact bases_of_isNode hlist

/-- What stands before and in the body of a declaration is read. -/
theorem readsHead_of_reads (hword : word ∈ plainKinds) (hkind : kind ∈ plainKinds)
    (h : Reads s (headNodes word name parameters bases (bodyPiece kind depth inner)) n.children) :
    ReadsHead s n name parameters bases (inner.filter isNamed) := by
  have hplain : ∀ k ∈ (bodyPiece kind depth inner).kinds, k ∈ plainKinds :=
    List.forall_mem_singleton.2 hkind
  have hbody : bodyPiece kind depth inner ∈
      headNodes word name parameters bases (bodyPiece kind depth inner) := by
    simp [mem_headNodes]
  have hsolid : (headNodes word name parameters bases (bodyPiece kind depth inner)).filter isSolid =
      headNodes word name parameters bases (bodyPiece kind depth inner) := by
    rw [List.filter_eq_self]
    intro q hq
    rcases mem_headNodes.1 hq with rfl | rfl | rfl | ⟨-, rfl⟩ | ⟨-, rfl⟩ | rfl <;> rfl
  have hnamed := reads_namedChildren (hsolid.symm ▸ h)
  refine ⟨?_, typeParameters_of_reads hword hplain rfl h,
    baseTypes_of_reads hword hplain hnamed, ?_⟩
  · refine roleText?_name h (mem_headNodes.2 (.inr (.inr (.inl rfl)))) fun q hq hrole => ?_
    simpa using eq_of_role rfl hq hrole
  · obtain ⟨b, hb, hread⟩ := exists_child? h hbody rfl fun q hq hrole => by
      simpa using eq_of_role rfl hq hrole
    rw [Node.members, Node.body?, hb]
    exact body_of_isNode hread

end Head

/-- Without white space a class or structure is made of the nodes of its declaration. -/
theorem filter_typeHead (head : TypeHead) (kind : String) (depth : Nat) (inner : List Printed) :
    (head.printed (bodyPiece kind depth inner)).filter isSolid =
      headNodes head.keyword head.name head.parameters head.baseTypes
        (bodyPiece kind depth inner) := by
  unfold TypeHead.printed headNodes parameterPieces basePieces
  cases head.parameters.isEmpty <;> cases head.baseTypes.isEmpty <;> rfl

/-- A class or structure is read with what stands before and in its body. -/
theorem readsHead_of_isNode {head : TypeHead} {depth : Nat} {inner : List Printed}
    (h : (head.piece (bodyPiece "declaration_list" depth inner)).isNode s n = true) :
    CSharp.typeKind? n.kind = some head.kind ∧
      ReadsHead s n head.name head.parameters head.baseTypes (inner.filter isNamed) := by
  obtain ⟨-, hkind, -⟩ := fits_of_isNode h
  have hread := (isNode_node.1 h).2
  have hword : head.keyword ∈ plainKinds := by
    unfold TypeHead.keyword
    cases head.isStructure <;> decide
  rw [filter_typeHead] at hread
  refine ⟨?_, readsHead_of_reads hword (by decide) hread⟩
  rw [List.mem_singleton.1 hkind]
  unfold TypeHead.nodeKind TypeHead.kind
  cases head.isStructure <;> rfl

/-- An enumeration is read with what stands before and in its body. -/
theorem readsHead_of_enum {name : Identifier} {depth : Nat} {members : List Identifier}
    (h : (enumPiece depth name members).isNode s n = true) :
    CSharp.typeKind? n.kind = some .enum ∧
      ReadsHead s n name [] [] ((memberPieces (depth + 1) members).filter isNamed) := by
  obtain ⟨-, hkind, -⟩ := fits_of_isNode h
  have hread := (isNode_node.1 h).2
  rw [List.mem_singleton.1 hkind]
  exact ⟨rfl, readsHead_of_reads (by decide : "enum" ∈ plainKinds)
    (by decide : "enum_member_declaration_list" ∈ plainKinds) hread⟩

end ViewForge
