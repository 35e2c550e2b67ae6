import ViewForge.CSharp.Outline
import ViewForge.Proofs.Model.Identity
import ViewForge.Proofs.Outline.OffsetMap

/-!
# What is known of syntax trees

No parser is looked into here. What a result needs of the tree that a parser makes is said of each
of its nodes (`Node.All`): its children lie in it one behind the other (`Node.IsOrdered`), and a
type is named by an identifier (`Node.IsNamedByIdentifier`).

Every type of an outline is declared by one node of the tree (`exists_declares_of_mem_outline`), so
what holds of the type of any node holds of all types of the outline: they are named as those of the
language (`isNamed_of_mem_outline`) and end within the text (`stop_le_of_mem_outline`).
-/

namespace ViewForge.CSharp

namespace Node

/-! ## The nodes of a tree -/

mutual

/-- A node and all that are inside it. -/
def nodes : Node → List Node
  | ⟨kind, isNamed, role, first, last, children⟩ =>
    ⟨kind, isNamed, role, first, last, children⟩ :: nodesIn children

/-- The nodes in a list and all that are inside them. -/
def nodesIn : List Node → List Node
  | [] => []
  | c :: cs => c.nodes ++ nodesIn cs

end

theorem nodes_eq (n : Node) : n.nodes = n :: nodesIn n.children := by
  cases n
  rw [nodes]

theorem mem_nodesIn {m : Node} : ∀ {cs : List Node}, m ∈ nodesIn cs ↔ ∃ c ∈ cs, m ∈ c.nodes
  | [] => by simp [nodesIn]
  | c :: cs => by
    rw [nodesIn, List.mem_append, mem_nodesIn]
    simp only [List.mem_cons, exists_eq_or_imp]

theorem mem_nodes_self (n : Node) : n ∈ n.nodes := by
  rw [nodes_eq]
  exact List.mem_cons_self

theorem nodes_subset_of_mem {n c : Node} (h : c ∈ n.children) : c.nodes ⊆ n.nodes := by
  intro m hm
  rw [nodes_eq n]
  exact List.mem_cons_of_mem _ (mem_nodesIn.2 ⟨c, h, hm⟩)

/-- A child of a node of a tree is a node of the tree. -/
theorem mem_nodes_of_mem_children {n m c : Node} (hm : m ∈ n.nodes) (hc : c ∈ m.children) :
    c ∈ n.nodes := by
  rw [nodes_eq] at hm
  rcases List.mem_cons.1 hm with rfl | hm
  · exact nodes_subset_of_mem hc c.mem_nodes_self
  · obtain ⟨d, hd, hm⟩ := mem_nodesIn.1 hm
    exact nodes_subset_of_mem hd (mem_nodes_of_mem_children hm hc)
termination_by sizeOf n
decreasing_by exact sizeOf_lt_of_mem hd

/-- A node has a property with all nodes inside it. -/
def All (p : Node → Prop) (n : Node) : Prop := ∀ m ∈ n.nodes, p m

instance (p : Node → Prop) [DecidablePred p] (n : Node) : Decidable (n.All p) :=
  inferInstanceAs (Decidable (∀ m ∈ n.nodes, p m))

variable {p : Node → Prop} {n c : Node}

theorem All.self (h : n.All p) : p n := h n n.mem_nodes_self

theorem All.child (h : n.All p) (hc : c ∈ n.children) : c.All p :=
  fun m hm => h m (nodes_subset_of_mem hc hm)

/-! ## Children -/

theorem mem_of_child? {role : String} (h : n.child? role = some c) :
    c ∈ n.children ∧ c.role = some role := by
  have hrole := List.find?_some h
  rw [beq_iff_eq] at hrole
  exact ⟨List.mem_of_find?_eq_some h, hrole⟩

theorem mem_children_of_named (h : c ∈ n.namedChildren) : c ∈ n.children := (List.mem_filter.1 h).1

theorem mem_of_childOf? {kind : String} (h : n.childOf? kind = some c) :
    c ∈ n.children ∧ c.kind = kind := by
  have hkind := List.find?_some h
  rw [beq_iff_eq] at hkind
  exact ⟨mem_children_of_named (List.mem_of_find?_eq_some h), hkind⟩

/-- The body of a type is one of its children, and no name of it. -/
theorem mem_of_body? {b : Node} (h : n.body? = some b) :
    b ∈ n.children ∧ (b.role = some "body" ∨
      b.kind = "declaration_list" ∨ b.kind = "enum_member_declaration_list") := by
  rw [body?, Option.or_eq_some_iff] at h
  rcases h with hrole | ⟨-, hkind⟩
  · obtain ⟨hb, hrole⟩ := mem_of_child? hrole
    exact ⟨hb, .inl hrole⟩
  · have hlist := List.find?_some hkind
    rw [Bool.or_eq_true, beq_iff_eq, beq_iff_eq] at hlist
    exact ⟨mem_children_of_named (List.mem_of_find?_eq_some hkind), .inr hlist⟩

/-- What stands in the body of a type is in one of its children. -/
theorem exists_body_of_mem_members {m : Node} (h : m ∈ n.members) :
    ∃ b, n.body? = some b ∧ m ∈ b.children := by
  unfold members at h
  cases hbody : n.body? with
  | none =>
    rw [hbody] at h
    exact nomatch h
  | some b =>
    rw [hbody] at h
    exact ⟨b, rfl, mem_children_of_named h⟩

theorem nodes_subset_of_mem_members {m : Node} (h : m ∈ n.members) : m.nodes ⊆ n.nodes := by
  obtain ⟨b, hbody, hmem⟩ := exists_body_of_mem_members h
  exact fun _ hd => nodes_subset_of_mem (mem_of_body? hbody).1 (nodes_subset_of_mem hmem hd)

theorem All.member (h : n.All p) {m : Node} (hm : m ∈ n.members) : m.All p :=
  fun d hd => h d (nodes_subset_of_mem_members hm hd)

/-! ## Nesting -/

/-- A node does not end before it begins, and its children lie in it one behind the other. -/
structure IsOrdered (n : Node) : Prop where
  /-- It ends where it begins or later. -/
  first_le : n.first ≤ n.last
  /-- Its children are in it. -/
  within : ∀ c ∈ n.children, n.first ≤ c.first ∧ c.last ≤ n.last
  /-- Each child ends before the next begins. -/
  ordered : n.children.Pairwise fun a b => a.last ≤ b.first

instance (n : Node) : Decidable n.IsOrdered :=
  decidable_of_iff (n.first ≤ n.last ∧ (∀ c ∈ n.children, n.first ≤ c.first ∧ c.last ≤ n.last) ∧
      n.children.Pairwise fun a b => a.last ≤ b.first)
    ⟨fun ⟨h, h', h''⟩ => ⟨h, h', h''⟩, fun ⟨h, h', h''⟩ => ⟨h, h', h''⟩⟩

/-- One of the nodes ends before the other begins. -/
def Apart (a b : Node) : Prop := a.last ≤ b.first ∨ b.last ≤ a.first

theorem Apart.symm {a b : Node} (h : a.Apart b) : b.Apart a := Or.symm h

/-- Different children of a node are apart. -/
theorem IsOrdered.apart (h : n.IsOrdered) {a b : Node} (ha : a ∈ n.children) (hb : b ∈ n.children)
    (hne : a ≠ b) : a.Apart b :=
  related_of_pairwise h.ordered ha hb hne

/-- Different nodes inside children of a node are apart. -/
theorem apart_of_grandchildren (h : n.All IsOrdered) {a b c d : Node} (ha : a ∈ n.children)
    (hb : b ∈ n.children) (hc : c ∈ a.children) (hd : d ∈ b.children) (hne : c ≠ d) :
    c.Apart d := by
  have hca := (h.child ha).self.within c hc
  have hdb := (h.child hb).self.within d hd
  by_cases hab : a = b
  · exact (h.child ha).self.apart hc (hab ▸ hd) hne
  · rcases h.self.apart ha hb hab with hle | hle
    · exact .inl (by omega)
    · exact .inr (by omega)

/-! ## Names -/

/-- If a node declares a type, its name is an identifier. -/
def IsNamedByIdentifier (n : Node) : Prop :=
  (typeKind? n.kind).isSome = true →
    ∀ c ∈ n.children, c.role = some "name" → c.kind = "identifier"

instance (n : Node) : Decidable n.IsNamedByIdentifier :=
  inferInstanceAs (Decidable (_ → ∀ c ∈ n.children, _))

/-- The name of a type is not its body. -/
theorem IsNamedByIdentifier.ne_body (h : n.IsNamedByIdentifier)
    (hkind : (typeKind? n.kind).isSome = true) (hc : n.child? "name" = some c) {b : Node}
    (hb : n.body? = some b) : c ≠ b := by
  rintro rfl
  obtain ⟨hmem, hrole⟩ := mem_of_child? hc
  have hidentifier := h hkind c hmem hrole
  rcases (mem_of_body? hb).2 with hbody | hlist
  · rw [hrole] at hbody
    exact absurd (Option.some.inj hbody) (by decide)
  · rw [hidentifier] at hlist
    exact absurd hlist (by decide)

end Node

namespace Source

variable (s : Source)

/-- If a node is an identifier, its text holds no point. -/
def IsPointless (n : Node) : Prop :=
  n.kind = "identifier" → ∀ name ∈ s.text? n, '.' ∉ name.toList

instance : DecidablePred s.IsPointless :=
  fun n => inferInstanceAs (Decidable (_ → ∀ name ∈ s.text? n, _))

/-! ## Where types come from -/

/-- A node that declares a type with a name declares the types in its body after it. -/
theorem types_of_type {path : List String} {n : Node} {kind : TypeKind} {name : String}
    (hkind : typeKind? n.kind = some kind) (hname : s.roleText? n "name" = some name) :
    s.types path n =
      s.declared path kind name n :: n.nestedTypes.flatMap (s.types (path ++ nameParts name)) := by
  rw [types, hkind]
  dsimp only
  rw [hname]
  dsimp only
  rw [List.flatMap_subtype fun _ _ => rfl, List.unattach_attach]

/-- A node that declares no type declares the types of the nodes in it. -/
theorem types_of_other {path : List String} {n : Node} (hkind : typeKind? n.kind = none) :
    s.types path n =
      s.typesIn (if n.kind = "namespace_declaration" then s.pathIn path n else path)
        n.namedChildren := by
  rw [types, hkind]

/-- A node declares a type behind a path. -/
def Declares (n : Node) (t : DeclaredType) : Prop :=
  ∃ path kind name, typeKind? n.kind = some kind ∧ s.roleText? n "name" = some name ∧
    t = s.declared path kind name n

/-- Every type that nodes declare is declared by one of them or of those inside them. -/
theorem exists_declares :
    (∀ (path : List String) (n : Node), ∀ t ∈ s.types path n, ∃ m ∈ n.nodes, s.Declares m t) ∧
      ∀ (path : List String) (cs : List Node), ∀ t ∈ s.typesIn path cs,
        ∃ c ∈ cs, ∃ m ∈ c.nodes, s.Declares m t := by
  refine types.mutual_induct s
    (fun path n => ∀ t ∈ s.types path n, ∃ m ∈ n.nodes, s.Declares m t)
    (fun path cs => ∀ t ∈ s.typesIn path cs, ∃ c ∈ cs, ∃ m ∈ c.nodes, s.Declares m t)
    ?type ?unnamed ?other ?nil ?fileScoped ?cons
  case type =>
    intro path n kind hkind name hname ih t ht
    rw [s.types_of_type hkind hname] at ht
    rcases List.mem_cons.1 ht with rfl | ht
    · exact ⟨n, Node.mem_nodes_self n, path, kind, name, hkind, hname, rfl⟩
    · obtain ⟨c, hc, ht⟩ := List.mem_flatMap.1 ht
      obtain ⟨m, hm, hdeclares⟩ := ih c hc t ht
      exact ⟨m, Node.nodes_subset_of_mem_members (List.mem_filter.1 hc).1 hm, hdeclares⟩
  case unnamed =>
    intro path n kind hkind hname t ht
    rw [types, hkind] at ht
    dsimp only at ht
    rw [hname] at ht
    exact nomatch ht
  case other =>
    intro path n hkind ih t ht
    rw [s.types_of_other hkind] at ht
    obtain ⟨c, hc, m, hm, hdeclares⟩ := ih t ht
    exact ⟨m, Node.nodes_subset_of_mem (Node.mem_children_of_named hc) hm, hdeclares⟩
  case nil =>
    intro path t ht
    rw [typesIn] at ht
    exact nomatch ht
  case fileScoped =>
    intro path c cs hkind ihinner ih t ht
    rw [typesIn, if_pos hkind] at ht
    rcases List.mem_append.1 ht with ht | ht
    · obtain ⟨d, hd, m, hm, hdeclares⟩ := ihinner t ht
      exact ⟨c, List.mem_cons_self, m,
        Node.nodes_subset_of_mem (Node.mem_children_of_named hd) hm, hdeclares⟩
    · obtain ⟨d, hd, h⟩ := ih t ht
      exact ⟨d, List.mem_cons_of_mem _ hd, h⟩
  case cons =>
    intro path c cs hkind ihfirst ih t ht
    rw [typesIn, if_neg hkind] at ht
    rcases List.mem_append.1 ht with ht | ht
    · obtain ⟨m, hm, hdeclares⟩ := ihfirst t ht
      exact ⟨c, List.mem_cons_self, m, hm, hdeclares⟩
    · obtain ⟨d, hd, h⟩ := ih t ht
      exact ⟨d, List.mem_cons_of_mem _ hd, h⟩

end Source

/-- Every type of an outline is declared by a node of the syntax tree. -/
theorem exists_declares_of_mem_outline [Parser] {text : String} {t : DeclaredType}
    (h : t ∈ (outline text).types) :
    ∃ n ∈ (Parser.parse text).nodes, (Source.ofText text).Declares n t := by
  obtain ⟨c, hc, m, hm, hdeclares⟩ := (Source.ofText text).exists_declares.2 [] _ t h
  exact ⟨m, Node.nodes_subset_of_mem (Node.mem_children_of_named hc) hm, hdeclares⟩

/-- The types of a document are named as those of the language: without points, and in one letter
case, if types are named by identifiers and identifiers hold no point. -/
theorem isNamed_of_mem_outline [Parser] {text : String}
    (hnamed : (Parser.parse text).All Node.IsNamedByIdentifier)
    (hpointless : (Parser.parse text).All (Source.ofText text).IsPointless) :
    ∀ t ∈ (outline text).types, t.decl.IsNamed false := by
  intro t ht
  obtain ⟨n, hn, path, kind, name, hkind, hname, rfl⟩ := exists_declares_of_mem_outline ht
  obtain ⟨c, hc, htext⟩ := Option.bind_eq_some_iff.1 hname
  obtain ⟨hmem, hrole⟩ := Node.mem_of_child? hc
  have hidentifier : c.kind = "identifier" :=
    hnamed n hn (by rw [hkind, Option.isSome_some]) c hmem hrole
  exact ⟨rfl, hpointless c (Node.mem_nodes_of_mem_children hn hmem) hidentifier name htext⟩

/-- The types of a document end within its text. -/
theorem stop_le_of_mem_outline [Parser] (text : String) :
    ∀ t ∈ (outline text).types, t.span.stop ≤ text.length := by
  intro t ht
  obtain ⟨n, -, path, kind, name, -, -, rfl⟩ := exists_declares_of_mem_outline ht
  exact OffsetMap.charOffset_ofText_le text n.last

end ViewForge.CSharp
