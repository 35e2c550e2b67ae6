import ViewForge.Proofs.Draft.CSharp.Declaration

/-!
# Drafts read in C#

If a parser makes of a written draft the syntax tree that the grammar has for it, the walk over the
tree finds what the draft declares. What a type declares itself is read off the nodes of its
declaration (`decl_declared`), and by induction on the draft the types inside it follow
(`types_of_typeDraft`), those of a namespace (`types_of_space`) and those of a whole document
(`outline_fileDraft`).
-/

namespace ViewForge

open CSharp (Printed Node Source)
open CSharp.Printed

variable {s : Source} {n : Node} {ns : List Node}

/-! ## Types -/

/-- The parts of dotted names are the names. -/
theorem nameParts_joined {names : List Identifier} (hnames : names ≠ []) :
    CSharp.nameParts (String.ofList (['.'].intercalate (names.map (·.1)))) =
      names.map (·.text) := by
  have hpoint : ∀ letters ∈ names.map (·.1), '.' ∉ letters := by
    intro letters hletters hmem
    obtain ⟨name, -, rfl⟩ := List.mem_map.1 hletters
    exact Text.ne_of_isWord (name.2.letters '.' hmem) (by decide) rfl
  have hsome : names.map (·.1) ≠ [] := fun hnil => hnames (List.map_eq_nil_iff.1 hnil)
  rw [CSharp.nameParts, String.toList_ofList, List.splitOn_intercalate '.' hpoint hsome,
    List.map_map]
  refine List.map_congr_left fun name _ => ?_
  rw [Function.comp_apply, name.2.trim_eq_self]
  rfl

/-- A name has one part. -/
theorem nameParts_text (name : Identifier) : CSharp.nameParts name.text = [name.text] := by
  have hone := nameParts_joined (List.cons_ne_nil name [])
  rwa [List.map_singleton, List.intercalate_singleton, List.map_singleton] at hone

/-- A class, structure or enumeration is declared as what stands before its body says. -/
theorem decl_declared {kind : TypeKind} {name : Identifier} {parameters : List Identifier}
    {bases : List PhraseDraft} {body : List Printed} (path : List String)
    (hrecord : kind ≠ .record) (hinterface : kind ≠ .interface)
    (h : ReadsHead s n name parameters bases body) :
    (s.declared path kind name.text n).decl =
      { name := name.text, scope := CSharp.scopeOf path, kind
        bases := bases.map (·.text .csharp), parameters := parameters.map (·.text)
        properties := n.propertyMembers.filterMap (s.property? false)
        members := s.enumMembers n } := by
  have hnone : n.parameters kind = [] := if_neg hrecord
  have hproperties : (s.properties kind n).map (·.1) =
      n.propertyMembers.filterMap (s.property? false) := by
    rw [Source.properties, hnone, List.filterMap_nil, List.nil_append, List.map_filterMap]
    refine List.filterMap_congr fun c _ => ?_
    rw [Option.map_map, decide_eq_false hinterface]
    exact Option.map_id'
  rw [Source.declared, hproperties, h.bases, h.parameters]

/-- What stands in a body that begins with a property. -/
theorem filter_property (p : PropertyDraft) (more : BodyDraft) (depth : Nat) :
    ((BodyDraft.property p more).printed depth).filter isNamed =
      p.piece :: (more.printed depth).filter isNamed := by
  rw [BodyDraft.printed, List.filter_append, filter_linePieces isNamed_blank]
  rfl

/-- What stands in a body that begins with a type. -/
theorem filter_nested (t : TypeDraft) (more : BodyDraft) (depth : Nat) :
    ((BodyDraft.nested t more).printed depth).filter isNamed =
      t.piece depth :: (more.printed depth).filter isNamed := by
  rw [BodyDraft.printed, List.filter_append, filter_linePieces isNamed_blank]
  cases t <;> rfl

/-- A property is of one kind only, which is that of no type. -/
theorem kind_of_property {p : PropertyDraft} (h : p.piece.isNode s n = true) :
    n.kind = "property_declaration" := List.mem_singleton.1 (fits_of_isNode h).2.1

/-- A type is no property and no member of an enumeration. -/
theorem kind_of_typeDraft {t : TypeDraft} {depth : Nat} (h : (t.piece depth).isNode s n = true) :
    (CSharp.typeKind? n.kind).isSome = true ∧ n.kind ≠ "property_declaration" ∧
      n.kind ≠ "enum_member_declaration" ∧ n.kind ≠ "file_scoped_namespace_declaration" := by
  have hkind := (fits_of_isNode h).2.1
  cases t with
  | enum name members =>
    rw [List.mem_singleton.1 hkind]
    decide
  | type head body =>
    rw [List.mem_singleton.1 hkind]
    unfold TypeHead.nodeKind
    cases head.isStructure <;> decide

/-- The properties of a body are read as they are drafted, and it has no members of an
enumeration. -/
theorem properties_of_bodyDraft {depth : Nat} :
    ∀ {b : BodyDraft} {ns : List Node}, Reads s ((b.printed depth).filter isNamed) ns →
      (ns.filter (·.kind == "property_declaration")).filterMap (s.property? false) =
          b.properties .csharp ∧
        ns.filter (·.kind == "enum_member_declaration") = []
  | .done, ns, h => by
    rw [List.forall₂_nil_left_iff.1 h]
    exact ⟨rfl, rfl⟩
  | .property p more, ns, h => by
    rw [filter_property] at h
    obtain ⟨n, ns, hn, hmore, rfl⟩ := List.forall₂_cons_left_iff.1 h
    obtain ⟨hproperties, hmembers⟩ := properties_of_bodyDraft hmore
    have hkind := kind_of_property hn
    refine ⟨?_, ?_⟩
    · rw [List.filter_cons, if_pos (beq_iff_eq.2 hkind),
        List.filterMap_cons_some (property?_of_isNode hn), hproperties, BodyDraft.properties]
    · rw [List.filter_cons_of_neg (by rw [hkind]; decide), hmembers]
  | .nested t more, ns, h => by
    rw [filter_nested] at h
    obtain ⟨n, ns, hn, hmore, rfl⟩ := List.forall₂_cons_left_iff.1 h
    obtain ⟨hproperties, hmembers⟩ := properties_of_bodyDraft hmore
    obtain ⟨-, hproperty, hmember, -⟩ := kind_of_typeDraft hn
    rw [List.filter_cons_of_neg (by simpa using hproperty),
      List.filter_cons_of_neg (by simpa using hmember), BodyDraft.properties]
    exact ⟨hproperties, hmembers⟩

/-- What stands in the body of an enumeration. -/
theorem filter_memberPieces (depth : Nat) (members : List Identifier) :
    (memberPieces depth members).filter isNamed = members.map (·.memberPiece) := by
  induction members with
  | nil => rfl
  | cons m members ih =>
    rw [memberPieces, List.flatMap_cons, List.filter_append, filter_linePieces isNamed_blank,
      ← memberPieces, ih]
    rfl

/-- The members of an enumeration are read by their names, and in its body stands no property and
no type. -/
theorem members_of_enum {depth : Nat} {members : List Identifier}
    (h : Reads s ((memberPieces depth members).filter isNamed) ns) :
    (ns.filter (·.kind == "enum_member_declaration")).filterMap (s.roleText? · "name") =
        members.map (·.text) ∧
      ns.filter (·.kind == "property_declaration") = [] ∧
        (ns.filter fun c => (CSharp.typeKind? c.kind).isSome) = [] := by
  rw [filter_memberPieces] at h
  have hkind : ∀ c ∈ ns, c.kind = "enum_member_declaration" := fun c hc => by
    obtain ⟨p, hp, hread⟩ := (exists_of_mem h).1 c hc
    obtain ⟨m, -, rfl⟩ := List.mem_map.1 hp
    exact List.mem_singleton.1 (fits_of_isNode hread).2.1
  refine ⟨?_, List.filter_eq_nil_iff.2 fun c hc => ?_, List.filter_eq_nil_iff.2 fun c hc => ?_⟩
  · rw [List.filter_eq_self.2 fun c hc => beq_iff_eq.2 (hkind c hc)]
    refine filterMap_of_reads h fun m _ n hn => ?_
    exact roleText?_name (isNode_node.1 hn).2 List.mem_cons_self fun q hq _ =>
      List.mem_singleton.1 hq
  · rw [hkind c hc]
    decide
  · rw [hkind c hc]
    decide

mutual

/-- A type is read with the types inside it as they are drafted. -/
theorem types_of_typeDraft {depth : Nat} (path : List String) :
    ∀ {t : TypeDraft} {n : Node}, (t.piece depth).isNode s n = true →
      (s.types path n).map (·.decl) = t.decls .csharp (CSharp.scopeOf path)
  | .enum name members, n, h => by
    obtain ⟨hkind, hread⟩ := readsHead_of_enum h
    obtain ⟨hmembers, hproperties, htypes⟩ := members_of_enum hread.body
    have hnested : n.nestedTypes = [] := htypes
    have hdecl := decl_declared path (nofun : TypeKind.enum ≠ .record) nofun hread
    rw [s.types_of_type hkind hread.name, hnested, List.flatMap_nil, List.map_singleton, hdecl,
      Node.propertyMembers, hproperties, Source.enumMembers, hmembers]
    rfl
  | .type head body, n, h => by
    obtain ⟨hkind, hread⟩ := readsHead_of_isNode h
    obtain ⟨hproperties, hmembers⟩ := properties_of_bodyDraft hread.body
    have hinner := types_of_bodyDraft (path ++ [head.name.text]) hread.body
    have hdecl := decl_declared path (head.kind_ne nofun nofun : head.kind ≠ .record)
      (head.kind_ne nofun nofun) hread
    rw [scopeOf_append_singleton] at hinner
    rw [s.types_of_type hkind hread.name, nameParts_text, Node.nestedTypes, List.map_cons, hdecl,
      Node.propertyMembers, hproperties, Source.enumMembers, hmembers, hinner]
    rfl

/-- The types in a body are read as they are drafted. -/
theorem types_of_bodyDraft {depth : Nat} (path : List String) :
    ∀ {b : BodyDraft} {ns : List Node}, Reads s ((b.printed depth).filter isNamed) ns →
      ((ns.filter fun c => (CSharp.typeKind? c.kind).isSome).flatMap (s.types path)).map (·.decl) =
        b.decls .csharp (CSharp.scopeOf path)
  | .done, ns, h => by
    rw [List.forall₂_nil_left_iff.1 h]
    rfl
  | .property p more, ns, h => by
    rw [filter_property] at h
    obtain ⟨n, ns, hn, hmore, rfl⟩ := List.forall₂_cons_left_iff.1 h
    have htypes := types_of_bodyDraft path hmore
    rw [List.filter_cons_of_neg (by rw [kind_of_property hn]; decide), htypes, BodyDraft.decls]
  | .nested t more, ns, h => by
    rw [filter_nested] at h
    obtain ⟨n, ns, hn, hmore, rfl⟩ := List.forall₂_cons_left_iff.1 h
    have htypes := types_of_bodyDraft path hmore
    rw [List.filter_cons, if_pos (kind_of_typeDraft hn).1, List.flatMap_cons, List.map_append,
      types_of_typeDraft path hn, htypes, BodyDraft.decls]

end

/-! ## Documents -/

/-- The name of a namespace is that of its names with points between them. -/
theorem roleText?_space {depth : Nat} {names : List Identifier} {inner : List Printed}
    (hnames : names ≠ []) (h : (spacePiece depth names inner).isNode s n = true) :
    s.roleText? n "name" = some (String.ofList (['.'].intercalate (names.map (·.1)))) := by
  have hread : Reads s [keyword "namespace", spaceName names,
      bodyPiece "declaration_list" depth inner] n.children := (isNode_node.1 h).2
  have hsome : ['.'].intercalate (names.map (·.1)) ≠ [] := by
    match names, hnames with
    | [name], _ =>
      rw [List.map_singleton, List.intercalate_singleton]
      exact name.2.ne_nil
    | name :: second :: rest, _ =>
      rw [List.map_cons, List.map_cons, List.intercalate_cons_cons]
      simp
  have hblank : ∀ c ∈ ['.'].intercalate (names.map (·.1)), Text.isBlank c = false :=
    Text.forall_mem_intercalate (List.forall_mem_singleton.2 rfl)
      (List.forall_mem_map.2 fun name _ => name.2.isBlank_eq_false)
  have htrim := Text.trim_eq_self (fun c hc => hblank c (List.mem_of_mem_head? hc))
    (fun c hc => hblank c (List.mem_of_getLast? hc))
  refine roleText?_of_reads hread (List.mem_cons_of_mem _ List.mem_cons_self) rfl
    (fun q hq hrole => ?_) hsome htrim
  simp only [List.mem_cons, List.not_mem_nil, or_false] at hq
  rcases hq with rfl | rfl | rfl
  · exact nomatch List.mem_singleton.1 hrole
  · rfl
  · exact absurd (List.mem_singleton.1 hrole) (by decide)

/-- The types in a namespace are those in its body, behind its names. -/
theorem types_of_space (path : List String) {depth : Nat} {names : List Identifier}
    {inner : List Printed} (hnames : names ≠ [])
    (h : (spacePiece depth names inner).isNode s n = true) :
    ∃ ns, Reads s (inner.filter isNamed) ns ∧
      s.types path n = s.typesIn (path ++ names.map (·.text)) ns := by
  have hkind : n.kind = "namespace_declaration" := List.mem_singleton.1 (fits_of_isNode h).2.1
  have hpath : s.pathIn path n = path ++ names.map (·.text) := by
    rw [Source.pathIn, roleText?_space hnames h]
    dsimp only
    rw [nameParts_joined hnames]
  have hnamed : Reads s [spaceName names, bodyPiece "declaration_list" depth inner]
      n.namedChildren := reads_namedChildren (isNode_node.1 h).2
  -- Between its word and its end a namespace has two nodes: the name, in which no type is declared,
  -- and the body.
  obtain ⟨nameNode, rest, hleaf, hrest, heq⟩ := List.forall₂_cons_left_iff.1 hnamed
  obtain ⟨bodyNode, rest, hbody, hnil, rfl⟩ := List.forall₂_cons_left_iff.1 hrest
  obtain rfl := List.forall₂_nil_left_iff.1 hnil
  refine ⟨bodyNode.namedChildren, body_of_isNode hbody, ?_⟩
  have hbodyKind : bodyNode.kind = "declaration_list" :=
    List.mem_singleton.1 (fits_of_isNode hbody).2.1
  have hnameKind : nameNode.kind ≠ "file_scoped_namespace_declaration" := by
    rcases List.mem_pair.1 (fits_of_isNode hleaf).2.1 with hleafKind | hleafKind
    · rw [hleafKind]
      decide
    · rw [hleafKind]
      decide
  rw [s.types_of_other (by rw [hkind]; rfl), if_pos hkind, hpath, heq, Source.typesIn,
    if_neg hnameKind, types_of_isNode hleaf, List.nil_append, Source.typesIn,
    if_neg (by rw [hbodyKind]; decide), s.types_of_other (by rw [hbodyKind]; rfl),
    if_neg (by rw [hbodyKind]; decide), Source.typesIn, List.append_nil]

/-- What stands in a document is read as it is drafted. -/
theorem types_of_fileDraft (f : FileDraft) {depth : Nat} {path : List String} {ns : List Node}
    (h : Reads s ((f.printed depth).filter isNamed) ns) :
    (s.typesIn path ns).map (·.decl) = f.decls .csharp (CSharp.scopeOf path) := by
  induction f generalizing depth path ns with
  | done =>
    rw [List.forall₂_nil_left_iff.1 h, Source.typesIn]
    rfl
  | type t more ih =>
    have hfilter : ((FileDraft.type t more).printed depth).filter isNamed =
        t.piece depth :: (more.printed depth).filter isNamed := by
      rw [FileDraft.printed, List.filter_append, filter_linePieces isNamed_blank]
      cases t <;> rfl
    rw [hfilter] at h
    obtain ⟨n, ns, hn, hmore, rfl⟩ := List.forall₂_cons_left_iff.1 h
    rw [Source.typesIn, if_neg (kind_of_typeDraft hn).2.2.2, List.map_append,
      types_of_typeDraft path hn, ih hmore, FileDraft.decls]
  | space lead last inner more ihinner ihmore =>
    have hfilter : ((FileDraft.space lead last inner more).printed depth).filter isNamed =
        spacePiece depth (lead ++ [last]) (inner.printed (depth + 1)) ::
          (more.printed depth).filter isNamed := by
      rw [FileDraft.printed, List.filter_append, filter_linePieces isNamed_blank]
      rfl
    rw [hfilter] at h
    obtain ⟨n, ns, hn, hmore, rfl⟩ := List.forall₂_cons_left_iff.1 h
    have hkind : n.kind = "namespace_declaration" := List.mem_singleton.1 (fits_of_isNode hn).2.1
    obtain ⟨ms, hms, htypes⟩ := types_of_space path (List.concat_ne_nil last lead) hn
    rw [Source.typesIn, if_neg (by rw [hkind]; decide), List.map_append, htypes, ihinner hms,
      ihmore hmore, FileDraft.decls, scopeOf_append_eq_foldl]

/-- The types of a document written in C# are those that its draft declares. -/
theorem outline_fileDraft [CSharp.Parser] {f : FileDraft} (h : f.IsParsed) :
    (CSharp.outline f.csharpText).types.map (·.decl) = f.decls .csharp none :=
  types_of_fileDraft f (reads_namedChildren (areNodes_iff.1 h))

end ViewForge
