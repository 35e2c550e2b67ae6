import Mathlib.Data.List.Forall2
import ViewForge.Proofs.CSharp.Tree

/-!
# Printed syntax trees

A text that is written with its syntax tree in view is a row of nodes with white space between them
(`Printed`). A grammar does not say everything about a node: some have one of several kinds, and
what is inside a name or a type is left open here (`Label`, `Printed.leaf`). A parser reads the text
as it is printed if the nodes that it makes are the printed ones, one by one (`areNodes_iff`); then
what is looked for among the children of a node is found where it is printed (`exists_child?`,
`exists_childOf?`, `reads_filter`).
-/

namespace ViewForge.CSharp

/-! ## Printing -/

/-- What a grammar says of a node. -/
structure Label where
  /-- Whether it has a name for the node. -/
  isNamed : Bool := true
  /-- What it may call the node. -/
  kinds : List String
  /-- What the node may be to the one around it. -/
  roles : List (Option String) := [none]

/-- Whether a node is as a grammar says. -/
def Label.fits (l : Label) (n : Node) : Bool :=
  n.isNamed == l.isNamed && l.kinds.contains n.kind && l.roles.contains n.role

/-- A piece of a text: white space, or a node of the syntax tree. -/
inductive Printed where
  /-- White space. -/
  | blank (c : Char)
  /-- A node in which no type is declared; what it is made of is left open. -/
  | leaf (label : Label) (letters : List Char)
  /-- A node and what it is made of. -/
  | node (label : Label) (inner : List Printed)

namespace Printed

mutual

/-- The text of a piece. -/
def text : Printed → List Char
  | blank c => [c]
  | leaf _ letters => letters
  | node _ inner => textAll inner

/-- The text of pieces that follow each other. -/
def textAll : List Printed → List Char
  | [] => []
  | p :: ps => p.text ++ textAll ps

end

/-- What the grammar says of a piece; white space is no node. -/
def label? : Printed → Option Label
  | blank _ => none
  | leaf label _ | node label _ => some label

/-- Whether a piece is a node. -/
def isSolid (p : Printed) : Bool := p.label?.isSome

/-- Whether the grammar has a name for a piece. -/
def isNamed (p : Printed) : Bool := p.label?.any (·.isNamed)

/-- What the grammar may call a piece. -/
def kinds (p : Printed) : List String := (p.label?.map (·.kinds)).getD []

/-- What a piece may be to the one around it. -/
def roles (p : Printed) : List (Option String) := (p.label?.map (·.roles)).getD []

mutual

/-- Whether a node of the syntax tree of a text is a printed one. -/
def isNode (s : Source) : Printed → Node → Bool
  | blank _, _ => false
  | leaf label letters, n =>
    label.fits n && charsBetween? s.text.toList n.first n.last == some letters &&
      decide (n.All fun m => typeKind? m.kind = none)
  | node label inner, n => label.fits n && areNodes s inner n.children

/-- Whether nodes are the printed ones, in order. -/
def areNodes (s : Source) : List Printed → List Node → Bool
  | [], ns => ns.isEmpty
  | p :: ps, ns =>
    if p.isSolid then
      match ns with
      | [] => false
      | n :: ns => p.isNode s n && areNodes s ps ns
    else areNodes s ps ns

end

/-- A keyword or a mark. -/
def keyword (word : String) (roles : List (Option String) := [none]) : Printed :=
  leaf { isNamed := false, kinds := [word], roles } word.toList

/-- Nodes are the printed ones, one by one. -/
abbrev Reads (s : Source) : List Printed → List Node → Prop :=
  List.Forall₂ fun p n => p.isNode s n = true

/-! ## Nodes that are printed -/

variable {s : Source} {p : Printed} {ps : List Printed} {n : Node} {ns : List Node}

/-- Nodes are the printed ones if they are so one by one, white space left out. -/
theorem areNodes_iff : ∀ {ps : List Printed} {ns : List Node},
    areNodes s ps ns = true ↔ Reads s (ps.filter isSolid) ns
  | [], ns => by simp [areNodes]
  | p :: ps, ns => by
    rw [List.filter_cons]
    cases hp : p.isSolid with
    | false =>
      cases ns <;> simp only [areNodes, hp, Bool.false_eq_true, if_false, areNodes_iff]
    | true =>
      cases ns with
      | nil => simp [areNodes, hp]
      | cons n ns => simp [areNodes, hp, areNodes_iff]

theorem isNode_leaf {label : Label} {letters : List Char} :
    (leaf label letters).isNode s n = true ↔
      label.fits n = true ∧ charsBetween? s.text.toList n.first n.last = some letters ∧
        n.All fun m => typeKind? m.kind = none := by
  rw [isNode, Bool.and_eq_true, Bool.and_eq_true, beq_iff_eq, decide_eq_true_eq, and_assoc]

theorem isNode_node {label : Label} {inner : List Printed} :
    (node label inner).isNode s n = true ↔
      label.fits n = true ∧ Reads s (inner.filter isSolid) n.children := by
  rw [isNode, Bool.and_eq_true, areNodes_iff]

/-- A printed node is as the grammar says. -/
theorem fits_of_isNode (h : p.isNode s n = true) :
    n.isNamed = p.isNamed ∧ n.kind ∈ p.kinds ∧ n.role ∈ p.roles := by
  have hfits {label : Label} (h : label.fits n = true) :
      n.isNamed = label.isNamed ∧ n.kind ∈ label.kinds ∧ n.role ∈ label.roles := by
    unfold Label.fits at h
    rw [Bool.and_eq_true, Bool.and_eq_true, beq_iff_eq, List.contains_iff_mem,
      List.contains_iff_mem, and_assoc] at h
    exact h
  cases p with
  | blank c =>
    rw [isNode] at h
    exact nomatch h
  | leaf label letters => exact hfits (isNode_leaf.1 h).1
  | node label inner => exact hfits (isNode_node.1 h).1

/-! ## Looking for nodes -/

/-- Nodes that pass a test are those that are printed to pass it. -/
theorem reads_filter {q : Printed → Bool} {test : Node → Bool}
    (h : Reads s ps ns)
    (htest : ∀ p ∈ ps, ∀ n, p.isNode s n = true → test n = q p) :
    Reads s (ps.filter q) (ns.filter test) := by
  induction h with
  | nil => exact .nil
  | cons hpn _ ih =>
    obtain ⟨hp, hps⟩ := List.forall_mem_cons.1 htest
    rw [List.filter_cons, List.filter_cons, hp _ hpn]
    split
    · exact .cons hpn (ih hps)
    · exact ih hps

/-- The nodes with names are those that are printed so. -/
theorem reads_namedChildren
    (h : Reads s (ps.filter isSolid) n.children) :
    Reads s (ps.filter isNamed) n.namedChildren := by
  have hnamed := reads_filter h fun p _ n hn => (fits_of_isNode hn).1
  have hsolid (p : Printed) : (p.isNamed && p.isSolid) = p.isNamed := by
    cases p <;> simp [isSolid, isNamed, label?]
  simp only [List.filter_filter, hsolid] at hnamed
  exact hnamed

/-- The nodes of a kind are those that are printed as such. -/
theorem reads_ofKind (kind : String) (h : Reads s ps ns)
    (hkind : ∀ p ∈ ps, p.kinds = [kind] ∨ kind ∉ p.kinds) :
    Reads s (ps.filter (·.kinds == [kind])) (ns.filter (·.kind == kind)) := by
  refine reads_filter h fun p hp n hn => ?_
  have hmem := (fits_of_isNode hn).2.1
  rcases hkind p hp with hone | hnone
  · rw [hone, List.mem_singleton] at hmem
    rw [hone, hmem, beq_self_eq_true, beq_self_eq_true]
  · have hne : n.kind ≠ kind := fun heq => hnone (heq ▸ hmem)
    have hne' : p.kinds ≠ [kind] := fun heq => hnone (heq ▸ List.mem_singleton_self kind)
    rw [beq_eq_false_iff_ne.2 hne, beq_eq_false_iff_ne.2 hne']

/-- What is read of printed nodes one by one is read of them all. -/
theorem filterMap_of_reads {α β : Type} {piece : α → Printed} {read : Node → Option β} {g : α → β}
    {as : List α} (h : Reads s (as.map piece) ns)
    (hread : ∀ a ∈ as, ∀ n, (piece a).isNode s n = true → read n = some (g a)) :
    ns.filterMap read = as.map g := by
  induction as generalizing ns with
  | nil =>
    cases h
    rfl
  | cons a as ih =>
    obtain ⟨ha, has⟩ := List.forall_mem_cons.1 hread
    cases h with
    | cons hn hns => rw [List.filterMap_cons_some (ha _ hn), ih hns has, List.map_cons]

/-- Some of the printed nodes passes a test if one is printed to pass it. -/
theorem any_of_reads {α : Type} {piece : α → Printed} (test : Node → Bool) (q : α → Bool)
    {as : List α} (h : Reads s (as.map piece) ns)
    (htest : ∀ a ∈ as, ∀ n, (piece a).isNode s n = true → test n = q a) :
    ns.any test = as.any q := by
  induction as generalizing ns with
  | nil =>
    cases h
    rfl
  | cons a as ih =>
    obtain ⟨ha, has⟩ := List.forall_mem_cons.1 htest
    cases h with
    | cons hn hns => rw [List.any_cons, List.any_cons, ha _ hn, ih hns has]

/-- Every node is printed, and every printed one is there. -/
theorem exists_of_mem (h : Reads s ps ns) :
    (∀ n ∈ ns, ∃ p ∈ ps, p.isNode s n = true) ∧ ∀ p ∈ ps, ∃ n ∈ ns, p.isNode s n = true := by
  induction h with
  | nil => exact ⟨nofun, nofun⟩
  | @cons p n ps ns hpn _ ih =>
    refine ⟨List.forall_mem_cons.2 ⟨⟨p, List.mem_cons_self, hpn⟩, fun m hm => ?_⟩,
      List.forall_mem_cons.2 ⟨⟨n, List.mem_cons_self, hpn⟩, fun q hq => ?_⟩⟩
    · obtain ⟨q, hq, hqm⟩ := ih.1 m hm
      exact ⟨q, List.mem_cons_of_mem _ hq, hqm⟩
    · obtain ⟨m, hm, hqm⟩ := ih.2 q hq
      exact ⟨m, List.mem_cons_of_mem _ hm, hqm⟩

section Lookup

variable {role kind : String}

/-- If a printed node passes a test, the node that is found by the test is a printed one. -/
theorem exists_printed_of_find? (test : Node → Bool) (h : Reads s ps ns) (hp : p ∈ ps)
    (htest : ∀ c, p.isNode s c = true → test c = true) :
    ∃ c, ns.find? test = some c ∧ test c = true ∧ ∃ q ∈ ps, q.isNode s c = true := by
  obtain ⟨c, hc, hpc⟩ := (exists_of_mem h).2 p hp
  have hsome : (ns.find? test).isSome = true := List.find?_isSome.2 ⟨c, hc, htest c hpc⟩
  obtain ⟨d, hd⟩ := Option.isSome_iff_exists.1 hsome
  exact ⟨d, hd, List.find?_some hd, (exists_of_mem h).1 d (List.mem_of_find?_eq_some hd)⟩

/-- The node that is found by a test is the printed one, if only this one passes. -/
theorem exists_find? (test : Node → Bool) (h : Reads s ps ns) (hp : p ∈ ps)
    (htest : ∀ c, p.isNode s c = true → test c = true)
    (honly : ∀ q ∈ ps, ∀ c, q.isNode s c = true → test c = true → q = p) :
    ∃ c, ns.find? test = some c ∧ p.isNode s c = true := by
  obtain ⟨c, hfind, hpass, q, hq, hqc⟩ := exists_printed_of_find? test h hp htest
  exact ⟨c, hfind, honly q hq c hqc hpass ▸ hqc⟩

/-- No node is found by a test if none is printed that passes. -/
theorem find?_eq_none (test : Node → Bool) (h : Reads s ps ns)
    (hnone : ∀ q ∈ ps, ∀ c, q.isNode s c = true → test c = false) : ns.find? test = none := by
  rw [List.find?_eq_none]
  intro c hc
  obtain ⟨q, hq, hqc⟩ := (exists_of_mem h).1 c hc
  rw [hnone q hq c hqc]
  exact Bool.false_ne_true

/-- A child for which the grammar has a certain name is found among all children. -/
theorem childOf?_eq_find? (n : Node) (kind : String) :
    n.childOf? kind = n.children.find? fun c => c.isNamed && c.kind == kind := by
  rw [Node.childOf?, Node.namedChildren, List.find?_filter]
  simp only [Bool.decide_and, Bool.decide_eq_true]

/-- The child with a role is the one that is printed with this role. -/
theorem exists_child? (h : Reads s ps n.children)
    (hp : p ∈ ps) (hrole : p.roles = [some role])
    (honly : ∀ q ∈ ps, some role ∈ q.roles → q = p) :
    ∃ c, n.child? role = some c ∧ p.isNode s c = true := by
  refine exists_find? _ h hp (fun c hc => ?_) fun q hq c hqc hc => honly q hq ?_
  · have hmem := (fits_of_isNode hc).2.2
    rw [hrole, List.mem_singleton] at hmem
    exact beq_iff_eq.2 hmem
  · rw [← beq_iff_eq.1 hc]
    exact (fits_of_isNode hqc).2.2

/-- No child has a role with which none is printed. -/
theorem child?_eq_none (h : Reads s ps n.children)
    (hnone : ∀ q ∈ ps, some role ∉ q.roles) : n.child? role = none := by
  refine find?_eq_none _ h fun q hq c hqc => beq_eq_false_iff_ne.2 fun hc => hnone q hq ?_
  rw [← hc]
  exact (fits_of_isNode hqc).2.2

/-- The first child of a kind is the one that is printed as such. -/
theorem exists_childOf? (h : Reads s ps n.children)
    (hp : p ∈ ps) (hnamed : p.isNamed = true) (hkind : p.kinds = [kind])
    (honly : ∀ q ∈ ps, kind ∈ q.kinds → q = p) :
    ∃ c, n.childOf? kind = some c ∧ p.isNode s c = true := by
  rw [childOf?_eq_find?]
  refine exists_find? _ h hp (fun c hc => ?_) fun q hq c hqc hc => honly q hq ?_
  · obtain ⟨hcnamed, hmem, -⟩ := fits_of_isNode hc
    rw [hkind, List.mem_singleton] at hmem
    rw [hcnamed, hnamed, hmem, beq_self_eq_true, Bool.and_self]
  · rw [← beq_iff_eq.1 (Bool.and_eq_true_iff.1 hc).2]
    exact (fits_of_isNode hqc).2.1

/-- No child is of a kind as which none is printed. -/
theorem childOf?_eq_none (h : Reads s ps n.children)
    (hnone : ∀ q ∈ ps, kind ∉ q.kinds) : n.childOf? kind = none := by
  rw [childOf?_eq_find?]
  refine find?_eq_none _ h fun q hq c hqc => ?_
  have hne : c.kind ≠ kind := fun heq => hnone q hq (heq ▸ (fits_of_isNode hqc).2.1)
  rw [beq_eq_false_iff_ne.2 hne, Bool.and_false]

/-- The child that is looked for by a role, and by a kind if none has the role, is the one that is
printed as such. -/
theorem exists_child?_or (role : String) (h : Reads s ps n.children)
    (hp : p ∈ ps) (hnamed : p.isNamed = true) (hkind : p.kinds = [kind])
    (honly : ∀ q ∈ ps, some role ∈ q.roles ∨ kind ∈ q.kinds → q = p) :
    ∃ c, (n.child? role).or (n.childOf? kind) = some c ∧ p.isNode s c = true := by
  cases hc : n.child? role with
  | some c =>
    obtain ⟨hmem, hrole⟩ := Node.mem_of_child? hc
    obtain ⟨q, hq, hqc⟩ := (exists_of_mem h).1 c hmem
    exact ⟨c, rfl, honly q hq (.inl (hrole ▸ (fits_of_isNode hqc).2.2)) ▸ hqc⟩
  | none => exact exists_childOf? h hp hnamed hkind fun q hq hqk => honly q hq (.inr hqk)

/-- The first node that passes a test is of the kind of the printed one that passes it. -/
theorem map_kind_find? (test : String → Bool) (h : Reads s ps ns) (hp : p ∈ ps)
    (hkind : p.kinds = [kind]) (htest : test kind = true)
    (honly : ∀ q ∈ ps, ∀ k ∈ q.kinds, test k = true → k = kind) :
    (ns.find? fun c => test c.kind).map (·.kind) = some kind := by
  have hpass (c : Node) (hc : p.isNode s c = true) : test c.kind = true := by
    have hmem := (fits_of_isNode hc).2.1
    rw [hkind, List.mem_singleton] at hmem
    rwa [hmem]
  obtain ⟨c, hfind, hc, q, hq, hqc⟩ := exists_printed_of_find? (fun c => test c.kind) h hp hpass
  rw [hfind, Option.map_some, honly q hq _ (fits_of_isNode hqc).2.1 hc]

end Lookup

/-! ## Texts -/

variable {label : Label} {letters : List Char}

/-- A node that is printed as a text without white space around it has this text. -/
theorem text?_of_isNode (h : (leaf label letters).isNode s n = true) (hsome : letters ≠ [])
    (htrim : Text.trim letters = letters) : s.text? n = some (String.ofList letters) := by
  have hne : (String.ofList letters != "") = true := by
    rw [bne_iff_ne, ne_eq, ← String.toList_inj, String.toList_ofList]
    exact hsome
  rw [Source.text?, (isNode_leaf.1 h).2.1, Option.map_some, htrim, Option.filter_some, if_pos hne]

/-- In a node of which no more than the text is printed no type is declared. -/
theorem types_of_isNode (h : (leaf label letters).isNode s n = true) (path : List String) :
    s.types path n = [] := by
  rw [List.eq_nil_iff_forall_not_mem]
  intro t ht
  obtain ⟨m, hm, path', kind, name, hkind, -⟩ := s.exists_declares.1 path n t ht
  have hnone : typeKind? m.kind = none := (isNode_leaf.1 h).2.2 m hm
  rw [hkind] at hnone
  exact nomatch hnone

end Printed

end ViewForge.CSharp
