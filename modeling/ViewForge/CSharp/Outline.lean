import ViewForge.CSharp.Node
import ViewForge.Outline.Basic
import ViewForge.Text.Blank

/-!
# Outlines of C#

The declared types of a source text in order, read off its syntax tree. Each type stands behind the
namespaces and types around it and comes before the types inside it. The tree has offsets of bytes,
which are turned into characters.
-/

namespace ViewForge.CSharp

/-! ## Scopes -/

/-- The scope that a path of names makes. -/
def scopeOf (path : List String) : Option String :=
  if path.isEmpty then none else some (".".intercalate path)

/-- The parts of a dotted name. -/
def nameParts (name : String) : List String :=
  (name.toList.splitOn '.').map fun part => String.ofList (Text.trim part)

/-! ## Kinds of nodes -/

/-- The kind of type that a kind of node declares. -/
def typeKind? : String → Option TypeKind
  | "class_declaration" => some .class
  | "struct_declaration" => some .struct
  | "record_declaration" => some .record
  | "record_struct_declaration" => some .record
  | "interface_declaration" => some .interface
  | "enum_declaration" => some .enum
  | _ => none

/-- The kinds of members that nothing is generated for. -/
def otherMemberKinds : List String :=
  ["method_declaration", "constructor_declaration", "destructor_declaration", "field_declaration",
   "event_field_declaration", "event_declaration", "indexer_declaration", "operator_declaration",
   "conversion_operator_declaration", "delegate_declaration"]

namespace Node

/-- The body of a type: the child with that role, or the first list of declarations. -/
def body? (n : Node) : Option Node :=
  (n.child? "body").or (n.namedChildren.find? fun c =>
    c.kind == "declaration_list" || c.kind == "enum_member_declaration_list")

/-- What stands in the body of a type. -/
def members (n : Node) : List Node := (n.body?.map (·.namedChildren)).getD []

/-- The parameters of a type of a kind, if it is a record. -/
def parameters (kind : TypeKind) (n : Node) : List Node :=
  if kind = .record then
    (((n.childOf? "parameter_list").map (·.namedChildren)).getD []).filter (·.kind == "parameter")
  else []

/-- The properties in the body of a type. -/
def propertyMembers (n : Node) : List Node := n.members.filter (·.kind == "property_declaration")

/-- The other members in the body of a type. -/
def otherMembers (n : Node) : List Node := n.members.filter (otherMemberKinds.contains ·.kind)

/-- The types in the body of a type. -/
def nestedTypes (n : Node) : List Node := n.members.filter fun c => (typeKind? c.kind).isSome

/-- The word of an accessor. -/
def accessorWord? (n : Node) : Option String :=
  (n.children.find? fun c => c.kind == "get" || c.kind == "set" || c.kind == "init").map (·.kind)

/-- A type in the body of another is smaller than it. -/
theorem sizeOf_lt_of_mem_nestedTypes {n c : Node} (h : c ∈ n.nestedTypes) :
    sizeOf c < sizeOf n := by
  have hc : c ∈ n.members := (List.mem_filter.1 h).1
  unfold members at hc
  cases hbody : n.body? with
  | none =>
    rw [hbody] at hc
    exact nomatch hc
  | some b =>
    rw [hbody] at hc
    have hb : b ∈ n.children := by
      rw [body?, Option.or_eq_some_iff] at hbody
      rcases hbody with hrole | ⟨-, hkind⟩
      · exact List.mem_of_find?_eq_some hrole
      · exact (List.mem_filter.1 (List.mem_of_find?_eq_some hkind)).1
    have hcb : c ∈ b.children := (List.mem_filter.1 hc).1
    exact Nat.lt_trans (sizeOf_lt_of_mem hcb) (sizeOf_lt_of_mem hb)

end Node

/-- From where a member with such modifiers can be used. -/
def accessOf (modifiers : List String) (inInterface : Bool) : Access :=
  if modifiers.contains "public" then .everywhere
  else if modifiers.contains "protected" && modifiers.contains "internal" then .derivedOrAssembly
  else if modifiers.contains "protected" then .derived
  else if modifiers.contains "internal" then .assembly
  else if inInterface then .everywhere
  else .inside

/-! ## Reading nodes -/

/-- A source text with the map from its bytes to its characters. -/
structure Source where
  /-- The text. -/
  text : String
  /-- The map. -/
  offsets : OffsetMap
  /-- The map is that of the text. -/
  isMap : offsets = OffsetMap.ofText text

namespace Source

/-- A text with its map. -/
def ofText (text : String) : Source := ⟨text, OffsetMap.ofText text, rfl⟩

variable (s : Source)

/-- The place of a node. -/
def span (n : Node) : Span := s.offsets.span n.first n.last

/-- The trimmed text of a node, unless it is empty. -/
def text? (n : Node) : Option String :=
  ((charsBetween? s.text.toList n.first n.last).map fun cs => String.ofList (Text.trim cs)).filter
    (· != "")

/-- The text of the child with a role. -/
def roleText? (n : Node) (role : String) : Option String := (n.child? role).bind s.text?

/-- The modifiers of a declaration. -/
def modifiers (n : Node) : List String :=
  (n.children.filter (·.kind == "modifier")).filterMap s.text?

/-- Whether the accessors in a list read and set a property. A setter that is private or protected
does not count. -/
def accessors (list : Node) : Bool × Bool :=
  let all := list.namedChildren.filter (·.kind == "accessor_declaration")
  let isHidden (n : Node) := (s.modifiers n).any fun m => m == "private" || m == "protected"
  (all.any (·.accessorWord? == some "get"),
    all.any fun n => (n.accessorWord? == some "set" || n.accessorWord? == some "init") &&
      !isHidden n)

/-- The property that a node declares. Without a list of accessors it can be read only. -/
def property? (inInterface : Bool) (n : Node) : Option Property := do
  let name ← s.roleText? n "name"
  let typeText ← s.roleText? n "type"
  let modifiers := s.modifiers n
  let (hasGetter, hasSetter) :=
    match (n.child? "accessors").or (n.childOf? "accessor_list") with
    | some list => s.accessors list
    | none => (true, false)
  pure { name, typeText, hasGetter, hasSetter, isStatic := modifiers.contains "static"
         access := accessOf modifiers inInterface }

/-- The property that a parameter of a record declares. -/
def parameter? (n : Node) : Option Property := do
  pure { name := ← s.roleText? n "name", typeText := ← s.roleText? n "type" }

/-- The base types of a type. Arguments behind a base type belong to no base type. -/
def baseTypes (n : Node) : List String :=
  (n.namedChildren.filter (·.kind == "base_list")).flatMap fun list =>
    list.namedChildren.filterMap fun base =>
      if base.kind = "argument_list" || base.kind = "comment" then none
      else if base.kind = "primary_constructor_base_type" then
        ((base.child? "type").or base.namedChildren.head?).bind s.text?
      else s.text? base

/-- The type parameters of a type. -/
def typeParameters (n : Node) : List String :=
  match (n.child? "type_parameters").or (n.childOf? "type_parameter_list") with
  | some list => (list.namedChildren.filter (·.kind == "type_parameter")).filterMap fun c =>
      (s.roleText? c "name").or (s.text? c)
  | none => []

/-! ## Types -/

/-- The properties that a type declares with their nodes: the parameters of a record, and then those
in the body. -/
def properties (kind : TypeKind) (n : Node) : List (Property × Node) :=
  ((n.parameters kind).filterMap fun c => (s.parameter? c).map (·, c)) ++
    n.propertyMembers.filterMap fun c => (s.property? (kind = .interface) c).map (·, c)

/-- The members of an enumeration. -/
def enumMembers (n : Node) : List String :=
  (n.members.filter (·.kind == "enum_member_declaration")).filterMap (s.roleText? · "name")

/-- The type that a node declares behind a path. -/
def declared (path : List String) (kind : TypeKind) (name : String) (n : Node) : DeclaredType where
  decl :=
    { name, scope := scopeOf path, kind, bases := s.baseTypes n, parameters := s.typeParameters n
      properties := (s.properties kind n).map (·.1), members := s.enumMembers n }
  span := s.span n
  propertySpans := (s.properties kind n).map fun p => s.span p.2
  memberSpans := n.otherMembers.map s.span

/-- The path inside a namespace. -/
def pathIn (path : List String) (n : Node) : List String :=
  match s.roleText? n "name" with
  | some name => path ++ nameParts name
  | none => path

mutual

/-- The types that a node and the nodes in it declare behind a path. -/
def types (path : List String) (n : Node) : List DeclaredType :=
  match typeKind? n.kind with
  | some kind =>
    match s.roleText? n "name" with
    | some name =>
      s.declared path kind name n ::
        n.nestedTypes.attach.flatMap fun ⟨c, _⟩ => types (path ++ nameParts name) c
    | none => []
  | none =>
    typesIn (if n.kind = "namespace_declaration" then s.pathIn path n else path) n.namedChildren
termination_by sizeOf n
decreasing_by
  · exact Node.sizeOf_lt_of_mem_nestedTypes ‹_›
  · exact n.sizeOf_namedChildren_lt

/-- The types that nodes declare one after the other. A namespace of the whole file holds for the
nodes behind it. -/
def typesIn (path : List String) : List Node → List DeclaredType
  | [] => []
  | c :: cs =>
    if c.kind = "file_scoped_namespace_declaration" then
      typesIn (s.pathIn path c) c.namedChildren ++ typesIn (s.pathIn path c) cs
    else types path c ++ typesIn path cs
termination_by cs => sizeOf cs
decreasing_by
  · have := c.sizeOf_namedChildren_lt
    simp only [List.cons.sizeOf_spec]
    omega
  · simp only [List.cons.sizeOf_spec]
    omega
  · simp only [List.cons.sizeOf_spec]
    omega
  · simp only [List.cons.sizeOf_spec]
    omega

end

end Source

/-- The outline of a document. -/
def outline [Parser] (text : String) : Outline :=
  ⟨(Source.ofText text).typesIn [] (Parser.parse text).namedChildren⟩

end ViewForge.CSharp
