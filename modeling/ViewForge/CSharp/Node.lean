/-!
# Syntax trees of C#

A C# document is outlined on the syntax tree that a parser makes of its text. Any parser will do, as
long as it names nodes as the grammar does.
-/

namespace ViewForge.CSharp

/-- A node of a syntax tree. -/
structure Node where
  /-- What the grammar calls it; a token without a name is called as it is written. -/
  kind : String
  /-- Whether the grammar has a name for it. -/
  isNamed : Bool
  /-- What it is to the node around it. -/
  role : Option String
  /-- The byte offset of its first character. -/
  first : Nat
  /-- The byte offset behind its last character. -/
  last : Nat
  /-- The nodes that it is made of, in order. -/
  children : List Node
  deriving Repr

namespace Node

mutual

/-- Whether two trees are the same. -/
def decEq : (a b : Node) → Decidable (a = b)
  | ⟨kind, isNamed, role, first, last, children⟩,
      ⟨kind', isNamed', role', first', last', children'⟩ =>
    match decEqs children children' with
    | isTrue h =>
      decidable_of_iff
        (kind = kind' ∧ isNamed = isNamed' ∧ role = role' ∧ first = first' ∧ last = last')
        (by rw [h, mk.injEq]; simp only [and_true])
    | isFalse h => isFalse fun heq => h (congrArg Node.children heq)

/-- Whether several trees are the same. -/
def decEqs : (as bs : List Node) → Decidable (as = bs)
  | [], [] => isTrue rfl
  | [], _ :: _ => isFalse nofun
  | _ :: _, [] => isFalse nofun
  | a :: as, b :: bs =>
    match decEq a b, decEqs as bs with
    | isTrue h, isTrue h' => isTrue (by rw [h, h'])
    | isFalse h, _ => isFalse fun heq => h (List.cons.inj heq).1
    | _, isFalse h => isFalse fun heq => h (List.cons.inj heq).2

end

instance : DecidableEq Node := decEq

/-- The children for which the grammar has names. -/
def namedChildren (n : Node) : List Node := n.children.filter (·.isNamed)

/-- The first child with a role. -/
def child? (n : Node) (role : String) : Option Node := n.children.find? (·.role == some role)

/-- The first child for which the grammar has a certain name. -/
def childOf? (n : Node) (kind : String) : Option Node := n.namedChildren.find? (·.kind == kind)

/-- A child is smaller than its parent. -/
theorem sizeOf_lt_of_mem {n c : Node} (h : c ∈ n.children) : sizeOf c < sizeOf n := by
  have := List.sizeOf_lt_of_mem h
  cases n with
  | mk kind isNamed role first last children =>
    simp only [mk.sizeOf_spec]
    simp only at this
    omega

/-- The children with names are smaller than their parent. -/
theorem sizeOf_namedChildren_lt (n : Node) : sizeOf n.namedChildren < sizeOf n := by
  have hfilter (ns : List Node) : sizeOf (ns.filter (·.isNamed)) ≤ sizeOf ns := by
    induction ns with
    | nil => exact Nat.le_refl _
    | cons c cs ih =>
      rw [List.filter_cons]
      split
      · simp only [List.cons.sizeOf_spec]
        omega
      · simp only [List.cons.sizeOf_spec]
        omega
  have := hfilter n.children
  cases n with
  | mk kind isNamed role first last children =>
    simp only [mk.sizeOf_spec]
    unfold namedChildren
    simp only at this ⊢
    omega

end Node

/-- A parser of C#. It is given a text with no limit of time, so it always makes a tree. -/
class Parser where
  /-- The root of the syntax tree of a text. -/
  parse : String → Node

end ViewForge.CSharp
