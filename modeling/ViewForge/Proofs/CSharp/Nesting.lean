import ViewForge.CSharp.Reader
import ViewForge.Proofs.CSharp.Tree
import ViewForge.Proofs.Outline.Nesting

/-!
# The nesting of C# outlines

If the nodes of a syntax tree lie in each other, child behind child, then so do the types and
members that are read off them. What a type declares itself stands in different places inside its
children (`pairwise_ownNodes`), and so do the types in its body, which is shorter than the type,
since the name of the type is not in it (`body_shorter`). By induction on the walk over the tree the
outline is tiled (`tiledIn_types`), and a caret between two characters of a property finds this
property (`outline_nests`).
-/

namespace ViewForge.CSharp

open Node

/-! ## Places of nodes -/

namespace Source

variable (s : Source) {n a b c : Node}

/-- Later bytes have no earlier characters. -/
theorem monotone_charOffset : Monotone s.offsets.charOffset := by
  rw [s.isMap]
  exact OffsetMap.monotone_charOffset_ofText s.text

/-- No place is behind the end of the text. -/
theorem charOffset_le (byte : Nat) : s.offsets.charOffset byte ≤ s.text.length := by
  rw [s.isMap]
  exact OffsetMap.charOffset_ofText_le s.text byte

/-- Nodes that are apart have places beside each other. -/
theorem span_beside (h : a.Apart b) : (s.span a).Beside (s.span b) :=
  h.imp (s.monotone_charOffset ·) (s.monotone_charOffset ·)

/-- A child has its place in that of its parent. -/
theorem span_within (h : n.IsOrdered) (hc : c ∈ n.children) : (s.span c).Within (s.span n) :=
  ⟨s.monotone_charOffset (h.within c hc).1, s.monotone_charOffset (h.within c hc).2⟩

/-- A node with a text has a place that is not empty. -/
theorem charOffset_lt_of_text? {text : String} (h : s.text? n = some text) :
    s.offsets.charOffset n.first < s.offsets.charOffset n.last := by
  obtain ⟨htext, hne⟩ := Option.filter_eq_some_iff.1 h
  obtain ⟨middle, hmiddle, rfl⟩ := Option.map_eq_some_iff.1 htext
  have hchars : middle ≠ [] := by
    rintro rfl
    exact absurd hne (by decide)
  obtain ⟨hfirst, hlast, hlt⟩ := boundaries_of_charsBetween? hmiddle hchars
  rw [s.isMap]
  exact OffsetMap.strictMonoOn_charOffset_ofText s.text hfirst hlast hlt

/-- The body of a type is shorter than the type, which also has a name. -/
theorem body_shorter (hordered : n.All IsOrdered) (hnamed : n.IsNamedByIdentifier)
    {kind : TypeKind} (hkind : typeKind? n.kind = some kind) {name : String}
    (hname : s.roleText? n "name" = some name) (hbody : n.body? = some b) :
    (s.span b).length < (s.span n).length := by
  obtain ⟨c, hc, htext⟩ := Option.bind_eq_some_iff.1 hname
  have hmemc := (mem_of_child? hc).1
  have hmemb := (mem_of_body? hbody).1
  have hne : c ≠ b := hnamed.ne_body (by rw [hkind, Option.isSome_some]) hc hbody
  have hlt := s.charOffset_lt_of_text? htext
  have hle : (s.span b).start ≤ (s.span b).stop :=
    s.monotone_charOffset (hordered.child hmemb).self.first_le
  have hinb := s.span_within hordered.self hmemb
  have hinc := s.span_within hordered.self hmemc
  have hbeside := s.span_beside (hordered.self.apart hmemc hmemb hne)
  unfold Span.length
  unfold Span.Within at hinb hinc
  unfold Span.Beside at hbeside
  unfold Source.span OffsetMap.span at *
  dsimp only at *
  omega

/-! ## What a type declares itself -/

/-- The nodes of a list for which something is found are in the order of the list. -/
theorem sublist_of_paired {α : Type} (f : Node → Option α) (cs : List Node) :
    ((cs.filterMap fun c => (f c).map (·, c)).map (·.2)).Sublist cs := by
  induction cs with
  | nil => exact .slnil
  | cons c cs ih =>
    rw [List.filterMap_cons]
    cases f c with
    | none => exact ih.cons c
    | some x => exact ih.cons_cons c

/-- The nodes of the properties and other members that a type declares itself. -/
def ownNodes (kind : TypeKind) (n : Node) : List Node :=
  (s.properties kind n).map (·.2) ++ n.otherMembers

theorem ownSpans_declared (path : List String) (kind : TypeKind) (name : String) (n : Node) :
    (s.declared path kind name n).ownSpans = (s.ownNodes kind n).map s.span := by
  unfold DeclaredType.ownSpans declared ownNodes
  rw [List.map_append, List.map_map]
  rfl

/-- They are the parameters and members of their kinds, in this order. -/
theorem ownNodes_sublist (kind : TypeKind) (n : Node) :
    (s.ownNodes kind n).Sublist (n.parameters kind ++ (n.propertyMembers ++ n.otherMembers)) := by
  unfold ownNodes properties
  rw [List.map_append, List.append_assoc]
  exact (sublist_of_paired _ _).append ((sublist_of_paired _ _).append (List.Sublist.refl _))

end Source

namespace Node

variable {kind : TypeKind} {n c d : Node}

/-- The parameters of a record stand in one of its children. -/
theorem exists_list_of_mem_parameters (h : c ∈ n.parameters kind) :
    ∃ list, n.childOf? "parameter_list" = some list ∧ c ∈ list.children := by
  unfold parameters at h
  split at h
  case isFalse => exact nomatch h
  case isTrue =>
    have hc := (List.mem_filter.1 h).1
    cases hlist : n.childOf? "parameter_list" with
    | none =>
      rw [hlist] at hc
      exact nomatch hc
    | some list =>
      rw [hlist] at hc
      exact ⟨list, rfl, mem_children_of_named hc⟩

/-- A parameter or a member of a type stands in one of its children. -/
theorem exists_child (h : c ∈ n.parameters kind ∨ c ∈ n.members) :
    ∃ p ∈ n.children, c ∈ p.children := by
  rcases h with h | h
  · obtain ⟨list, hlist, hc⟩ := exists_list_of_mem_parameters h
    exact ⟨list, (mem_of_childOf? hlist).1, hc⟩
  · obtain ⟨b, hbody, hc⟩ := exists_body_of_mem_members h
    exact ⟨b, (mem_of_body? hbody).1, hc⟩

/-- Different parameters and members of a type are apart. -/
theorem apart_of_parts (kind : TypeKind) (hn : n.All IsOrdered)
    (hc : c ∈ n.parameters kind ∨ c ∈ n.members)
    (hd : d ∈ n.parameters kind ∨ d ∈ n.members) (hne : c ≠ d) : c.Apart d := by
  obtain ⟨p, hp, hcp⟩ := exists_child hc
  obtain ⟨q, hq, hdq⟩ := exists_child hd
  exact apart_of_grandchildren hn hp hq hcp hdq hne

/-- The members of a type stand one behind the other. -/
theorem pairwise_members (hn : n.All IsOrdered) :
    n.members.Pairwise fun a b => a.last ≤ b.first := by
  unfold members
  cases hbody : n.body? with
  | none => exact .nil
  | some b => exact (hn.child (mem_of_body? hbody).1).self.ordered.sublist List.filter_sublist

/-- The parameters of a record stand one behind the other. -/
theorem pairwise_parameters (hn : n.All IsOrdered) :
    (n.parameters kind).Pairwise fun a b => a.last ≤ b.first := by
  unfold parameters
  split
  case isFalse => exact .nil
  case isTrue =>
    refine List.Pairwise.sublist List.filter_sublist ?_
    cases hlist : n.childOf? "parameter_list" with
    | none => exact .nil
    | some list =>
      exact (hn.child (mem_of_childOf? hlist).1).self.ordered.sublist List.filter_sublist

/-- The kind of a node that a type declares itself tells whether it is a parameter, a property or
another member, and it is no type. -/
theorem kind_of_part (kind : TypeKind) (n : Node) :
    (∀ c ∈ n.parameters kind, c.kind = "parameter") ∧
      (∀ c ∈ n.propertyMembers, c.kind = "property_declaration") ∧
      (∀ c ∈ n.otherMembers, c.kind ∈ otherMemberKinds) ∧
      ∀ c ∈ n.nestedTypes, (typeKind? c.kind).isSome = true := by
  refine ⟨fun c hc => ?_, fun c hc => ?_, fun c hc => ?_, fun c hc => (List.mem_filter.1 hc).2⟩
  · unfold parameters at hc
    split at hc
    case isFalse => exact nomatch hc
    case isTrue => exact beq_iff_eq.1 (List.mem_filter.1 hc).2
  · exact beq_iff_eq.1 (List.mem_filter.1 hc).2
  · exact List.contains_iff_mem.1 (List.mem_filter.1 hc).2

/-- A part of a type: a parameter or a member of any kind. -/
theorem mem_parts (h : c ∈ n.parameters kind ++ (n.propertyMembers ++ n.otherMembers)) :
    c ∈ n.parameters kind ∨ c ∈ n.members := by
  rw [List.mem_append, List.mem_append] at h
  exact h.imp id (Or.rec List.mem_of_mem_filter List.mem_of_mem_filter)

/-- What a type declares itself is no type. -/
theorem typeKind?_of_part (h : c ∈ n.parameters kind ++ (n.propertyMembers ++ n.otherMembers)) :
    typeKind? c.kind = none := by
  obtain ⟨hparameter, hproperty, hother, -⟩ := kind_of_part kind n
  have hkinds : ∀ k ∈ otherMemberKinds, typeKind? k = none := by decide
  rw [List.mem_append, List.mem_append] at h
  rcases h with h | h | h
  · rw [hparameter c h]
    rfl
  · rw [hproperty c h]
    rfl
  · exact hkinds _ (hother c h)

/-- The parts of a type are apart. -/
theorem pairwise_parts (hn : n.All IsOrdered) :
    (n.parameters kind ++ (n.propertyMembers ++ n.otherMembers)).Pairwise Apart := by
  obtain ⟨hparameter, hproperty, hother, -⟩ := kind_of_part kind n
  have hmembers (p : Node → Bool) : (n.members.filter p).Pairwise Apart :=
    ((pairwise_members hn).sublist List.filter_sublist).imp .inl
  -- Parts of different kinds are different, and so are the places where they stand.
  refine List.pairwise_append.2 ⟨(pairwise_parameters hn).imp .inl,
    List.pairwise_append.2 ⟨hmembers _, hmembers _, fun a ha b hb => ?_⟩, fun a ha b hb => ?_⟩
  · refine apart_of_parts kind hn (.inr (List.mem_of_mem_filter ha))
      (.inr (List.mem_of_mem_filter hb)) ?_
    rintro rfl
    have hmem := hother a hb
    rw [hproperty a ha] at hmem
    exact absurd hmem (by decide)
  · refine apart_of_parts kind hn (.inl ha) (mem_parts (List.mem_append_right _ hb)) ?_
    rintro rfl
    rcases List.mem_append.1 hb with hb | hb
    · exact absurd ((hparameter a ha).symm.trans (hproperty a hb)) (by decide)
    · have hmem := hother a hb
      rw [hparameter a ha] at hmem
      exact absurd hmem (by decide)

end Node

/-! ## Tiled outlines -/

namespace Source

variable (s : Source) {n : Node} {kind : TypeKind}

/-- A type that is read off an ordered tree is tidy. -/
theorem tidy_declared (hn : n.All IsOrdered) (path : List String) (kind : TypeKind)
    (name : String) : (s.declared path kind name n).Tidy where
  start_le := s.monotone_charOffset hn.self.first_le
  paired := by
    show ((s.properties kind n).map (·.1)).length = ((s.properties kind n).map _).length
    rw [List.length_map, List.length_map]
  own := by
    rw [ownSpans_declared]
    refine ⟨List.forall_mem_map.2 fun c hc => ?_, List.pairwise_map.2 ?_⟩
    · obtain ⟨p, hp, hcp⟩ := exists_child (mem_parts ((s.ownNodes_sublist kind n).subset hc))
      have hin := s.span_within hn.self hp
      have hin' := s.span_within (hn.child hp).self hcp
      exact ⟨Nat.le_trans hin.1 hin'.1,
        s.monotone_charOffset ((hn.child hp).child hcp).self.first_le,
        Nat.le_trans hin'.2 hin.2⟩
    · exact ((pairwise_parts hn).sublist (s.ownNodes_sublist kind n)).imp s.span_beside

/-- Types that are tiled in the first of several nodes and in the others are tiled together. -/
theorem tiledIn_cons {c : Node} {cs : List Node} {ts us : List DeclaredType} {first last : Nat}
    (hn : ∀ d ∈ c :: cs, d.All IsOrdered)
    (hordered : (c :: cs).Pairwise fun a b => a.last ≤ b.first)
    (hwithin : ∀ d ∈ c :: cs, first ≤ d.first ∧ d.last ≤ last)
    (hfirst : TiledIn (s.span c).start (s.span c).stop ts)
    (hrest : (∀ d ∈ cs, c.last ≤ d.first ∧ d.last ≤ last) →
      TiledIn (s.offsets.charOffset c.last) (s.offsets.charOffset last) us) :
    TiledIn (s.offsets.charOffset first) (s.offsets.charOffset last) (ts ++ us) := by
  obtain ⟨⟨hle, hlast⟩, hin⟩ := List.forall_mem_cons.1 hwithin
  have hc := (hn c List.mem_cons_self).self.first_le
  have htail := hrest fun d hd =>
    ⟨(List.pairwise_cons.1 hordered).1 d hd, (hin d hd).2⟩
  exact (hfirst.mono (s.monotone_charOffset hle) (Nat.le_refl _)).append htail
    (s.monotone_charOffset (Nat.le_trans hle hc)) (s.monotone_charOffset hlast)

/-- Types that are tiled in nodes, one behind the other, are tiled together. -/
theorem tiledIn_flatMap {types : Node → List DeclaredType} {cs : List Node}
    (hn : ∀ c ∈ cs, c.All IsOrdered) (hordered : cs.Pairwise fun a b => a.last ≤ b.first)
    (htypes : ∀ c ∈ cs, TiledIn (s.span c).start (s.span c).stop (types c)) {first last : Nat}
    (hwithin : ∀ c ∈ cs, first ≤ c.first ∧ c.last ≤ last) :
    TiledIn (s.offsets.charOffset first) (s.offsets.charOffset last) (cs.flatMap types) := by
  induction cs generalizing first with
  | nil => exact .nil
  | cons c cs ih =>
    rw [List.flatMap_cons]
    exact s.tiledIn_cons hn hordered hwithin (htypes c List.mem_cons_self)
      (ih (List.forall_mem_cons.1 hn).2 (List.pairwise_cons.1 hordered).2
        (List.forall_mem_cons.1 htypes).2)

/-- The types in the body of a type are tiled in the body. -/
theorem tiledIn_body (hn : n.All IsOrdered) {types : Node → List DeclaredType}
    (htypes : ∀ c ∈ n.nestedTypes, TiledIn (s.span c).start (s.span c).stop (types c)) {b : Node}
    (hbody : n.body? = some b) :
    TiledIn (s.span b).start (s.span b).stop (n.nestedTypes.flatMap types) := by
  refine s.tiledIn_flatMap (fun c hc => hn.member (List.mem_of_mem_filter hc))
    ((pairwise_members hn).sublist List.filter_sublist) htypes fun c hc =>
      (hn.child (mem_of_body? hbody).1).self.within c ?_
  obtain ⟨b', hbody', hmem⟩ := exists_body_of_mem_members (List.mem_of_mem_filter hc)
  exact Option.some.inj (hbody'.symm.trans hbody) ▸ hmem

/-- A type is tiled with the types in its body. -/
theorem tiledIn_type (hn : n.All IsOrdered) (hnamed : n.IsNamedByIdentifier) {kind : TypeKind}
    (hkind : typeKind? n.kind = some kind) {name : String}
    (hname : s.roleText? n "name" = some name) (path : List String)
    {types : Node → List DeclaredType}
    (htypes : ∀ c ∈ n.nestedTypes, TiledIn (s.span c).start (s.span c).stop (types c)) :
    TiledIn (s.span n).start (s.span n).stop
      (s.declared path kind name n :: n.nestedTypes.flatMap types) := by
  have htidy := s.tidy_declared hn path kind name
  cases hbody : n.body? with
  | none =>
    have hnone : n.nestedTypes = [] := by
      unfold nestedTypes members
      rw [hbody]
      rfl
    rw [hnone]
    exact .singleton htidy
  | some b =>
    have hin := s.span_within hn.self (mem_of_body? hbody).1
    refine (s.tiledIn_body hn htypes hbody).cons htidy hin.1 hin.2
      (s.body_shorter hn hnamed hkind hname hbody) ?_
    rw [ownSpans_declared]
    refine List.forall_mem_map.2 fun c hc u hu => ?_
    -- A type in the body lies in its node, which is no part of the type around it.
    have hpart := (s.ownNodes_sublist kind n).subset hc
    obtain ⟨d, hd, hu⟩ := List.mem_flatMap.1 hu
    have hne : c ≠ d := by
      rintro rfl
      have hsome := (List.mem_filter.1 hd).2
      rw [typeKind?_of_part hpart] at hsome
      exact Bool.false_ne_true hsome
    have hbeside := s.span_beside
      (apart_of_parts kind hn (mem_parts hpart) (.inr (List.mem_of_mem_filter hd)) hne)
    exact hbeside.of_within ((htypes d hd).within u hu)

/-- The types of a node, and those of nodes one behind the other, are tiled. -/
theorem tiledIn_types :
    (∀ (path : List String) (n : Node), n.All IsOrdered → n.All IsNamedByIdentifier →
      TiledIn (s.span n).start (s.span n).stop (s.types path n)) ∧
    ∀ (path : List String) (cs : List Node), (∀ c ∈ cs, c.All IsOrdered) →
      (∀ c ∈ cs, c.All IsNamedByIdentifier) → cs.Pairwise (fun a b => a.last ≤ b.first) →
      ∀ first last : Nat, (∀ c ∈ cs, first ≤ c.first ∧ c.last ≤ last) →
        TiledIn (s.offsets.charOffset first) (s.offsets.charOffset last) (s.typesIn path cs) := by
  -- What stands in a node that is no type is tiled between its ends.
  have hinside {path : List String} {n : Node} (hn : n.All IsOrdered)
      (hnamed : n.All IsNamedByIdentifier)
      (ih : (∀ c ∈ n.namedChildren, c.All IsOrdered) →
        (∀ c ∈ n.namedChildren, c.All IsNamedByIdentifier) →
        n.namedChildren.Pairwise (fun a b => a.last ≤ b.first) →
        ∀ first last : Nat, (∀ c ∈ n.namedChildren, first ≤ c.first ∧ c.last ≤ last) →
          TiledIn (s.offsets.charOffset first) (s.offsets.charOffset last)
            (s.typesIn path n.namedChildren)) :
      TiledIn (s.span n).start (s.span n).stop (s.typesIn path n.namedChildren) :=
    ih (fun _ hc => hn.child (mem_children_of_named hc))
      (fun _ hc => hnamed.child (mem_children_of_named hc))
      (hn.self.ordered.sublist List.filter_sublist) n.first n.last
      fun _ hc => hn.self.within _ (mem_children_of_named hc)
  refine types.mutual_induct s _ _ ?type ?unnamed ?other ?nil ?fileScoped ?cons
  case type =>
    intro path n kind hkind name hname ih hn hnamed
    rw [s.types_of_type hkind hname]
    exact s.tiledIn_type hn hnamed.self hkind hname path fun c hc =>
      ih c hc (hn.member (List.mem_of_mem_filter hc)) (hnamed.member (List.mem_of_mem_filter hc))
  case unnamed =>
    intro path n kind hkind hname _ _
    rw [types, hkind]
    dsimp only
    rw [hname]
    exact .nil
  case other =>
    intro path n hkind ih hn hnamed
    rw [s.types_of_other hkind]
    exact hinside hn hnamed ih
  case nil =>
    intro path _ _ _ first last _
    rw [typesIn]
    exact .nil
  case fileScoped =>
    intro path c cs hkind ihinner ih hn hnamed hordered first last hwithin
    rw [typesIn, if_pos hkind]
    exact s.tiledIn_cons hn hordered hwithin
      (hinside (hn c List.mem_cons_self) (hnamed c List.mem_cons_self) ihinner)
      (ih (List.forall_mem_cons.1 hn).2 (List.forall_mem_cons.1 hnamed).2
        (List.pairwise_cons.1 hordered).2 c.last last)
  case cons =>
    intro path c cs hkind ihfirst ih hn hnamed hordered first last hwithin
    rw [typesIn, if_neg hkind]
    exact s.tiledIn_cons hn hordered hwithin
      (ihfirst (hn c List.mem_cons_self) (hnamed c List.mem_cons_self))
      (ih (List.forall_mem_cons.1 hn).2 (List.forall_mem_cons.1 hnamed).2
        (List.pairwise_cons.1 hordered).2 c.last last)

end Source

/-! ## Documents -/

/-- The outline of a text is tiled if the nodes of its syntax tree lie in each other, child behind
child, and types are named by identifiers. -/
theorem tiledIn_outline [Parser] {text : String} (hordered : (Parser.parse text).All IsOrdered)
    (hnamed : (Parser.parse text).All IsNamedByIdentifier) :
    TiledIn 0 text.length (outline text).types := by
  have hchild {c : Node} (hc : c ∈ (Parser.parse text).namedChildren) := mem_children_of_named hc
  have htiled := (Source.ofText text).tiledIn_types.2 [] _ (fun _ hc => hordered.child (hchild hc))
    (fun _ hc => hnamed.child (hchild hc)) (hordered.self.ordered.sublist List.filter_sublist)
    _ _ fun _ hc => hordered.self.within _ (hchild hc)
  exact htiled.mono (Nat.zero_le _) ((Source.ofText text).charOffset_le _)

/-- The spans of an outline are in the text and nested, whatever parser makes the syntax tree, if
the nodes of the tree lie in each other, child behind child, and types are named by identifiers.
Each type lies in the text, its properties have a span each, and its members lie in it one beside
the other; any two types are one beside the other or nested; any two members of all types are one
beside the other. A caret between two characters of a property finds that property. -/
theorem outline_nests [Parser] {text : String} (hordered : (Parser.parse text).All IsOrdered)
    (hnamed : (Parser.parse text).All IsNamedByIdentifier) :
    (∀ t ∈ (outline text).types,
      (t.span.start ≤ t.span.stop ∧ t.span.stop ≤ text.length) ∧
      (t.placed.map (·.toProperty) = t.decl.properties ∧
        t.placed.map (·.span) = t.propertySpans) ∧
      (∀ s ∈ t.ownSpans, t.span.start ≤ s.start ∧ s.start ≤ s.stop ∧ s.stop ≤ t.span.stop) ∧
      t.ownSpans.Pairwise Span.Beside) ∧
    (outline text).types.Pairwise (fun a b =>
      a.span.Beside b.span ∨ a.span.Within b.span ∨ b.span.Within a.span) ∧
    ((outline text).types.flatMap DeclaredType.ownSpans).Pairwise Span.Beside ∧
    ∀ t ∈ (outline text).types, ∀ p ∈ t.placed, ∀ caret, p.span.start < caret →
      caret < p.span.stop → (outline text).locate caret = .property p t := by
  obtain ⟨htiled, hwithin⟩ := tiledIn_outline hordered hnamed
  refine ⟨fun t ht => ?_, htiled.beside_or_within, htiled.ownSpans_beside,
    fun t ht p hp caret => htiled.locate_property ht hp⟩
  have htidy := htiled.tidy t ht
  exact ⟨⟨htidy.start_le, (hwithin t ht).2⟩,
    ⟨DeclaredType.map_placed_property htidy.paired, DeclaredType.map_placed_span htidy.paired⟩,
    htidy.own.within, htidy.own.beside⟩

/-- A record with a type inside it, whose name has a letter of two bytes. -/
def nestedRecord : String := "record Äb(int X) { class B { int Y { get; } } }"

/-- The parameter of the record is found, though a type stands in the same record. -/
theorem outline_nests_record :
    (Parser.parse nestedRecord).All IsOrdered ∧
      (Parser.parse nestedRecord).All IsNamedByIdentifier ∧
      ∃ t ∈ (outline nestedRecord).types, ∃ p ∈ t.placed, p.span = ⟨10, 15⟩ ∧
        ∀ caret, 10 < caret → caret < 15 → (outline nestedRecord).locate caret = .property p t := by
  have hordered : (Parser.parse nestedRecord).All IsOrdered := by decide +kernel
  have hnamed : (Parser.parse nestedRecord).All IsNamedByIdentifier := by decide +kernel
  obtain ⟨t, ht, p, hp, hspan⟩ :
      ∃ t ∈ (outline nestedRecord).types, ∃ p ∈ t.placed, p.span = ⟨10, 15⟩ := by decide +kernel
  obtain ⟨-, -, -, hlocate⟩ := outline_nests hordered hnamed
  exact ⟨hordered, hnamed, t, ht, p, hp, hspan, fun caret hstart hstop =>
    hlocate t ht p hp caret (by rwa [hspan]) (by rwa [hspan])⟩

end ViewForge.CSharp
