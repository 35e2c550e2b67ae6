import ViewForge.Member.Shape
import ViewForge.Proofs.Member.Walk
import ViewForge.Proofs.TypeExpr.Written

/-!
# Members of a generic base class

A property that has the type of a parameter is inherited with the argument for it. The argument is
written out and read again, which drops its namespaces, and it is then looked up from the base class
and not from the class that gives it. So the inherited member is what the same property would be,
declared in the derived class with the argument as its type, exactly if the argument mentions no
namespace and the one name that decides its shape shows the same from both classes
(`inherits_as_declared_iff`). Otherwise it may be another (`inherits_otherwise`).
-/

namespace ViewForge

/-! ## What decides a shape -/

namespace Model

/-- Whether a reference means a type with the same members in two contexts, or none in either. -/
def SameMembers (m : Model) (context context' : Option TypeDecl) (reference : TypeExpr) : Prop :=
  (m.resolve reference context).filter (·.hasMembers) =
    (m.resolve reference context').filter (·.hasMembers)

/-- Whether a reference means enumerations of the same members in two contexts, or none in
either. -/
def SameEnum (m : Model) (context context' : Option TypeDecl) (reference : TypeExpr) : Prop :=
  ((m.resolve reference context).filter (·.isEnum)).map (·.members) =
    ((m.resolve reference context').filter (·.isEnum)).map (·.members)

/-- Whether a type that is not nullable shows the same in two contexts: its name does, or that of
its elements if it is a collection. Leaves are the same everywhere. -/
def SameMeaning (m : Model) (context context' : Option TypeDecl) (t : TypeExpr) : Prop :=
  match t.element? with
  | some element => element.withoutNullable.isLeaf = true ∨
      m.SameMembers context context' element.withoutNullable
  | none => t.isLeaf = true ∨ m.SameMembers context context' t ∧ m.SameEnum context context' t

end Model

/-- A reference means the same in two types of one scope that treat letter case alike. -/
theorem Catalog.resolve_eq_of_scope {context context' : TypeDecl}
    (hscope : context.scope = context'.scope) (hcase : context.ignoresCase = context'.ignoresCase)
    (c : Catalog) (reference : TypeExpr) :
    c.resolve reference (some context) = c.resolve reference (some context') := by
  have hshares : sharesScope context'.ignoresCase context =
      sharesScope context'.ignoresCase context' := by
    funext t
    unfold sharesScope
    rw [hscope]
  cases reference with
  | named qualifier name args =>
    unfold resolve
    simp only [Option.any_some, Option.bind_some, hcase, hshares]
  | _ => rfl

/-- Every type shows the same in two types of one scope that treat letter case alike. -/
theorem Model.sameMeaning_of_scope {context context' : TypeDecl}
    (hscope : context.scope = context'.scope) (hcase : context.ignoresCase = context'.ignoresCase)
    (m : Model) (t : TypeExpr) : m.SameMeaning (some context) (some context') t := by
  -- Of the context only its scope and its letter case are looked at.
  have hresolve (reference : TypeExpr) :
      m.resolve reference (some context) = m.resolve reference (some context') := by
    unfold resolve
    simp only [Catalog.resolve_eq_of_scope hscope hcase]
  have hmembers (reference : TypeExpr) :
      m.SameMembers (some context) (some context') reference := by
    unfold SameMembers
    rw [hresolve]
  have henum (reference : TypeExpr) : m.SameEnum (some context) (some context') reference := by
    unfold SameEnum
    rw [hresolve]
  unfold SameMeaning
  split
  · exact .inr (hmembers _)
  · exact .inr ⟨hmembers _, henum _⟩

namespace Shape

/-- Whether two shapes agree on the type and on all that it decides. -/
structure SameType (s s' : Shape) : Prop where
  /-- The types are the same. -/
  type? : s.type? = s'.type?
  /-- The categories are the same. -/
  category : s.category = s'.category
  /-- The types of the elements are the same. -/
  element? : s.element? = s'.element?
  /-- The members of the enumerations are the same. -/
  enumMembers : s.enumMembers = s'.enumMembers
  /-- The members behind the types are the same. -/
  inner : s.inner = s'.inner

/-- Whether nothing is known yet of what stands behind the type of a shape. -/
structure IsPlain (s : Shape) : Prop where
  /-- The category is the last resort. -/
  category : s.category = .user
  /-- There are no elements. -/
  element? : s.element? = none
  /-- There are no enumeration members. -/
  enumMembers : s.enumMembers = []
  /-- There are no members behind. -/
  inner : s.inner = .none

variable {m : Model} {context context' : Option TypeDecl}

/-- The members behind a type that was found, if it has members. -/
def innerOf : Option TypeDecl → Inner
  | some t => .members t
  | none => .none

theorem innerOf_inj {found found' : Option TypeDecl} : innerOf found = innerOf found' ↔
    found = found' := by
  cases found <;> cases found' <;> simp [innerOf]

/-- The same members stand behind the elements of a collection in two contexts if the type of the
elements shows the same there. -/
theorem innerOfElement_eq_iff (element : TypeExpr) :
    innerOfElement m context element = innerOfElement m context' element ↔
      element.withoutNullable.isLeaf = true ∨
        m.SameMembers context context' element.withoutNullable := by
  unfold innerOfElement
  generalize element.withoutNullable = u
  -- Only a name can stand for a type with members, unless the name is built in.
  cases u with
  | dynamic => exact iff_of_true rfl (.inr rfl)
  | array => exact iff_of_true rfl (.inr rfl)
  | tuple => exact iff_of_true rfl (.inr rfl)
  | nullable => exact iff_of_true rfl (.inr rfl)
  | named qualifier name args =>
    dsimp only [TypeExpr.isDynamic, TypeExpr.isArray]
    cases hleaf : (TypeExpr.named qualifier name args).isLeaf with
    | true => exact iff_of_true rfl (.inl rfl)
    | false =>
      rw [or_iff_right Bool.false_ne_true]
      exact innerOf_inj

/-- A shape refined by the type that its name means. -/
def withFound (s : Shape) : Option TypeDecl → Shape
  | some d =>
    if d.isEnum then { s with category := .enum, enumMembers := d.members }
    else if d.hasMembers then { s with inner := .members d }
    else s
  | none => s

/-- What a name means shows in the members of an enumeration or of a type with members. -/
theorem withFound_eq {s : Shape} (hs : s.IsPlain) (found : Option TypeDecl) :
    s.withFound found =
      { s with
        category := if ((found.filter (·.isEnum)).map (·.members)).isSome then .enum else .user
        enumMembers := ((found.filter (·.isEnum)).map (·.members)).getD []
        inner := innerOf (found.filter (·.hasMembers)) } := by
  obtain ⟨name, isReadOnly, category, type?, typeText, element?, enumMembers, inner⟩ := s
  obtain ⟨rfl, rfl, rfl, rfl⟩ := hs
  cases found with
  | none => rfl
  | some d =>
    -- An enumeration has no members of its own, so the two cannot both be found.
    have hkinds : d.isEnum = true → d.hasMembers = false := by
      unfold TypeDecl.isEnum TypeDecl.hasMembers
      cases d.kind <;> decide
    unfold withFound
    cases henum : d.isEnum with
    | true => simp [Option.filter_some, henum, hkinds henum, innerOf]
    | false => cases hmembers : d.hasMembers <;> simp [Option.filter_some, henum, hmembers, innerOf]

/-- Two shapes refined by what a name means in two contexts agree exactly if it shows the same. -/
theorem withFound_sameType_iff {s s' : Shape} (hs : s.IsPlain) (hs' : s'.IsPlain)
    (htype : s.type? = s'.type?) (found found' : Option TypeDecl) :
    (s.withFound found).SameType (s'.withFound found') ↔
      found.filter (·.hasMembers) = found'.filter (·.hasMembers) ∧
        (found.filter (·.isEnum)).map (·.members) =
          (found'.filter (·.isEnum)).map (·.members) := by
  rw [withFound_eq hs, withFound_eq hs']
  generalize (found.filter (·.isEnum)).map (·.members) = names
  generalize (found'.filter (·.isEnum)).map (·.members) = names'
  constructor
  · rintro ⟨-, hcategory, -, hnames, hinner⟩
    refine ⟨innerOf_inj.1 hinner, ?_⟩
    cases names <;> cases names' <;> simp_all
  · rintro ⟨hmembers, rfl⟩
    refine ⟨htype, rfl, ?_, rfl, innerOf_inj.2 hmembers⟩
    exact hs.element?.trans hs'.element?.symm

/-- Two shapes refined by one type in two contexts agree exactly if the type shows the same. -/
theorem refine_sameType_iff {s s' : Shape} (hs : s.IsPlain) (hs' : s'.IsPlain)
    (htype : s.type? = s'.type?) (t : TypeExpr) :
    (refine m context s t).SameType (refine m context' s' t) ↔
      m.SameMeaning context context' t := by
  have hsame : s.SameType s' :=
    ⟨htype, hs.category.trans hs'.category.symm, hs.element?.trans hs'.element?.symm,
      hs.enumMembers.trans hs'.enumMembers.symm, hs.inner.trans hs'.inner.symm⟩
  -- A collection is decided by its elements, any other name by itself.
  have hcollection (element : TypeExpr) :
      ({ s with category := .collection, element? := some element,
                inner := innerOfElement m context element } : Shape).SameType
        { s' with category := .collection, element? := some element,
                  inner := innerOfElement m context' element } ↔
      element.withoutNullable.isLeaf = true ∨
        m.SameMembers context context' element.withoutNullable := by
    rw [← innerOfElement_eq_iff]
    exact ⟨fun h => h.inner, fun h => ⟨htype, rfl, rfl, hsame.enumMembers, h⟩⟩
  cases t with
  | dynamic =>
    exact iff_of_true ⟨htype, rfl, hsame.element?, hsame.enumMembers, rfl⟩ (.inr ⟨rfl, rfl⟩)
  | tuple items => exact iff_of_true hsame (.inr ⟨rfl, rfl⟩)
  | nullable inner => exact iff_of_true hsame (.inr ⟨rfl, rfl⟩)
  | array element rank => exact hcollection element
  | named qualifier name args =>
    match args with
    | [element] => exact hcollection element
    | [] =>
      unfold refine
      dsimp only
      cases hleaf : (TypeExpr.named qualifier name []).isLeaf with
      | true =>
        refine iff_of_true ?_ (.inl hleaf)
        exact ⟨htype, rfl, hsame.element?, hsame.enumMembers, hsame.inner⟩
      | false =>
        refine (withFound_sameType_iff hs hs' htype _ _).trans ?_
        unfold Model.SameMeaning
        dsimp only [TypeExpr.element?]
        rw [hleaf, or_iff_right Bool.false_ne_true]
        rfl
    | first :: second :: rest =>
      refine (withFound_sameType_iff hs hs' htype _ _).trans ?_
      unfold Model.SameMeaning
      dsimp only [TypeExpr.element?, TypeExpr.isLeaf]
      rw [or_iff_right Bool.false_ne_true]
      rfl

/-- Refining keeps the type. -/
theorem type?_refine (s : Shape) (t : TypeExpr) : (refine m context s t).type? = s.type? := by
  unfold refine
  split
  · rfl
  · rfl
  · rfl
  · rfl
  · dsimp only
    split
    · rfl
    · split
      · rfl
      · split
        · split
          · rfl
          · split <;> rfl
        · rfl

/-- The shapes of two properties in two contexts agree exactly if the properties have one type and
it shows the same in both. -/
theorem ofProperty_sameType_iff {p p' : Property} {t t' : TypeExpr} (ht : p.type? = some t)
    (ht' : p'.type? = some t') :
    (ofProperty m context p).SameType (ofProperty m context' p') ↔
      t = t' ∧ m.SameMeaning context context' t.withoutNullable := by
  -- What refining starts from is the same but for the name, which is not compared.
  have hplain (q : Property) : IsPlain
      { name := q.name, isReadOnly := q.isReadOnly, type? := some t, typeText := t.render } :=
    ⟨rfl, rfl, rfl, rfl⟩
  unfold ofProperty
  rw [ht, ht']
  dsimp only
  constructor
  · intro h
    have htypes := h.type?
    rw [type?_refine, type?_refine] at htypes
    obtain rfl := Option.some.inj htypes
    exact ⟨rfl, (refine_sameType_iff (hplain p) (hplain p') rfl _).1 h⟩
  · rintro ⟨rfl, h⟩
    exact (refine_sameType_iff (hplain p) (hplain p') rfl _).2 h

end Shape

namespace Member

variable {m : Model} {excluded : List String}

/-! ## Members by name -/

/-- The first entries of their names are those that a search for their name finds. -/
theorem mem_firstOfName {seen : List String} {l : List (Property × TypeDecl × Bindings)}
    {entry : Property × TypeDecl × Bindings} :
    entry ∈ firstOfName seen l ↔
      entry.1.name ∉ seen ∧ l.find? (fun e => e.1.name == entry.1.name) = some entry := by
  induction l generalizing seen with
  | nil => simp [firstOfName]
  | cons first rest ih =>
    rw [firstOfName, List.find?_cons]
    by_cases hname : first.1.name = entry.1.name
    · -- The head is what the search finds; it stays unless its name was seen.
      rw [hname, beq_self_eq_true]
      dsimp only
      split
      · rename_i hseen
        have hmem : entry.1.name ∈ seen := List.contains_iff_mem.1 hseen
        rw [ih]
        exact iff_of_false (fun h => h.1 hmem) (fun h => h.1 hmem)
      · rename_i hseen
        have hmem : entry.1.name ∉ seen := fun h => hseen (List.contains_iff_mem.2 h)
        rw [List.mem_cons, ih]
        constructor
        · rintro (rfl | ⟨hfresh, -⟩)
          · exact ⟨hmem, rfl⟩
          · exact absurd List.mem_cons_self hfresh
        · rintro ⟨-, h⟩
          exact .inl (Option.some.inj h).symm
    · rw [beq_false_of_ne hname]
      dsimp only
      split
      · exact ih
      · have hne : entry ≠ first := fun h => hname (h ▸ rfl)
        rw [List.mem_cons, or_iff_right hne, ih, List.mem_cons, or_iff_right (Ne.symm hname)]

/-- A type has an exposed member of a name if the first property of that name along its base classes
is exposed, and the member is that property. -/
theorem exists_exposed_iff {t : TypeDecl} {name : String} {P : Member → Prop} :
    (∃ member ∈ exposed m excluded t, member.property.name = name ∧ P member) ↔
      ∃ entry, (declared (chain m t)).find? (fun e => e.1.name == name) = some entry ∧
        isExposed excluded entry.1 = true ∧ P (ofEntry entry) := by
  constructor
  · rintro ⟨member, hmember, rfl, hP⟩
    obtain ⟨entry, hentry, rfl⟩ := List.mem_map.1 hmember
    obtain ⟨hfirst, hexposed⟩ := List.mem_filter.1 hentry
    refine ⟨entry, ?_, hexposed, hP⟩
    rw [name_bind]
    exact (mem_firstOfName.1 hfirst).2
  · rintro ⟨entry, hfind, hexposed, hP⟩
    have htest := List.find?_some hfind
    have hname : entry.1.name = name := eq_of_beq htest
    refine ⟨ofEntry entry, List.mem_map.2 ⟨entry, List.mem_filter.2 ⟨?_, hexposed⟩, rfl⟩, ?_, hP⟩
    · rw [mem_firstOfName, hname]
      exact ⟨List.not_mem_nil, hfind⟩
    · exact (name_bind _ _).trans hname

/-- A type that declares no property of a name is passed over in the search for it. -/
theorem find?_declared_of_fresh {t : TypeDecl} {name : String}
    (h : ∀ q ∈ t.properties, q.name ≠ name) (b : Bindings) (rest : List (TypeDecl × Bindings)) :
    (declared ((t, b) :: rest)).find? (fun entry => entry.1.name == name) =
      (declared rest).find? (fun entry => entry.1.name == name) := by
  have hnone : (t.properties.map fun q => (q, t, b)).find?
      (fun entry => entry.1.name == name) = none := by
    rw [List.find?_eq_none]
    intro entry hentry
    obtain ⟨q, hq, rfl⟩ := List.mem_map.1 hentry
    exact fun htest => h q hq (eq_of_beq htest)
  unfold declared
  rw [List.flatMap_cons, List.find?_append, hnone, Option.none_or]

/-- A type that declares a property of a name ends the search for it. -/
theorem find?_declared_of_first {t : TypeDecl} {name : String} {p : Property}
    (h : t.properties.find? (·.name == name) = some p) (b : Bindings)
    (rest : List (TypeDecl × Bindings)) :
    (declared ((t, b) :: rest)).find? (fun entry => entry.1.name == name) = some (p, t, b) := by
  unfold declared
  rw [List.flatMap_cons, List.find?_append, List.find?_map]
  show ((t.properties.find? (·.name == name)).map _).or _ = _
  rw [h]
  rfl

/-! ## The base class -/

/-- The chain of a type goes on with its base class, unless that has the full name of the type. -/
theorem chain_of_base? {d base : TypeDecl} {reference : TypeExpr}
    (h : base? m d [] = some (base, reference)) :
    (d.fullName = base.fullName ∧ chain m d = [(d, [])]) ∨
      d.fullName ≠ base.fullName ∧
        ∃ rest, chain m d = (d, []) :: (base, base.parameters.zip reference.args) :: rest := by
  have hwalk := (walk_iff d _).2 (Eq.refl (chain m d))
  generalize chain m d = visited at hwalk
  cases hwalk with
  | again hmet => exact absurd hmet List.not_mem_nil
  | last _ hbase => exact nomatch h.symm.trans hbase
  | next _ hbase hrest =>
    obtain ⟨rfl, rfl⟩ := Prod.mk.inj (Option.some.inj (hbase.symm.trans h))
    cases hrest with
    | again hmet => exact .inl ⟨(List.mem_singleton.1 hmet).symm, rfl⟩
    | last hmet _ => exact .inr ⟨fun heq => hmet (heq ▸ List.mem_singleton_self _), [], rfl⟩
    | next hmet _ _ => exact .inr ⟨fun heq => hmet (heq ▸ List.mem_singleton_self _), _, rfl⟩

/-- A property that has the type of a parameter has, bound, the type that the parameter stands for
without its namespaces. -/
theorem type?_bind {p : Property} {parameter text : String} {x : TypeExpr}
    (htype : p.type? = some (.bare parameter)) (hx : TypeExpr.parse? text = some x) :
    (bind [(parameter, x)] p).type? = some x.unqualified := by
  have hbound : (TypeExpr.bare parameter).substitute (Bindings.lookup? [(parameter, x)]) = x := by
    simp [TypeExpr.bare, TypeExpr.substitute, Bindings.lookup?]
  unfold bind
  rw [htype]
  dsimp only
  rw [hbound]
  split
  · -- A parameter that stands for its own name is left as it is written.
    rename_i hown
    rw [htype, hown, TypeExpr.unqualified_eq_self (TypeExpr.isReadable_of_parse? htype) rfl]
  · exact TypeExpr.parse?_render hx

/-- Whether a type has a member of the name of a property, with the type and all that it decides
which the property would have if the type itself declared it with a type text. -/
def InheritsAsDeclared (m : Model) (excluded : List String) (d : TypeDecl) (p : Property)
    (text : String) : Prop :=
  ∃ member ∈ exposed m excluded d, member.property.name = p.name ∧
    (Shape.ofProperty m (some member.declaring) member.property).SameType
      (Shape.ofProperty m (some d) { p with typeText := text })

/-- A property with the type of the parameter of the base class is inherited as if it were declared
with the argument as its type, exactly if the base class has another full name, the argument
mentions no namespace and it shows the same from both classes. -/
theorem inherits_as_declared_iff (m : Model) (excluded : List String) {d base : TypeDecl}
    {reference x : TypeExpr} {parameter text : String} {p : Property}
    (hbase : base? m d [] = some (base, reference)) (hparameters : base.parameters = [parameter])
    (hargs : reference.args = [x]) (hx : TypeExpr.parse? text = some x)
    (hp : base.properties.find? (·.name == p.name) = some p)
    (htype : p.type? = some (.bare parameter)) (hexposed : isExposed excluded p = true)
    (hfresh : ∀ q ∈ d.properties, q.name ≠ p.name) :
    InheritsAsDeclared m excluded d p text ↔
      d.fullName ≠ base.fullName ∧ x.isUnqualified = true ∧
        m.SameMeaning (some base) (some d) x.withoutNullable := by
  unfold InheritsAsDeclared
  rw [exists_exposed_iff]
  rcases chain_of_base? hbase with ⟨hsame, hchain⟩ | ⟨hother, rest, hchain⟩
  · -- The walk ends before the base class, and the type itself has no such property.
    refine iff_of_false ?_ fun h => h.1 hsame
    rintro ⟨entry, hfind, -⟩
    rw [hchain, find?_declared_of_fresh hfresh] at hfind
    exact nomatch hfind
  · have hfind : (declared (chain m d)).find? (fun entry => entry.1.name == p.name) =
        some (p, base, [(parameter, x)]) := by
      rw [hchain, find?_declared_of_fresh hfresh, find?_declared_of_first hp, hparameters, hargs]
      rfl
    have hdeclared : ({ p with typeText := text } : Property).type? = some x := hx
    have hagree := @Shape.ofProperty_sameType_iff m (some base) (some d) _ _ _ _
      (type?_bind htype hx) hdeclared
    have hreadable := TypeExpr.isReadable_of_parse? hx
    constructor
    · rintro ⟨entry, hentry, -, hsame⟩
      obtain rfl := Option.some.inj (hfind.symm.trans hentry)
      obtain ⟨hback, hmeaning⟩ := hagree.1 hsame
      rw [hback] at hmeaning
      exact ⟨hother, (TypeExpr.unqualified_eq_self_iff hreadable).1 hback, hmeaning⟩
    · rintro ⟨-, hplain, hmeaning⟩
      have hback := TypeExpr.unqualified_eq_self hreadable hplain
      refine ⟨_, hfind, hexposed, hagree.2 ⟨hback, ?_⟩⟩
      rwa [hback]

/-- A class `Order` of a namespace, with one property. -/
def orderOf (scope property : String) : TypeDecl where
  name := "Order"
  scope := some scope
  kind := .class
  properties := [{ name := property, typeText := "int" }]

/-- A property whose type is a parameter. -/
def current : Property where
  name := "Current"
  typeText := "T"

/-- A generic class of a namespace with that property. -/
def editorBase (scope : String) : TypeDecl where
  name := "EditorBase"
  scope := some scope
  kind := .class
  parameters := ["T"]
  properties := [current]

/-- A class of the namespace `Shop` that derives from the generic class. -/
def editor (argument : String) : TypeDecl where
  name := "OrderEditor"
  scope := some "Shop"
  kind := .class
  bases := ["EditorBase<" ++ argument ++ ">"]

/-- Two namespaces with a class `Order` each, the generic class in one of them and the derived class
in `Shop`. -/
def twoOrders (scope argument : String) : Model :=
  ⟨[Catalog.ofList [orderOf "Ui" "Draft", orderOf "Shop" "Id", editorBase scope, editor argument]]⟩

/-- Within one namespace, a collection of nullable orders is inherited as if it were declared. -/
theorem inherits_as_declared_within :
    base? (twoOrders "Shop" "List<Order?>") (editor "List<Order?>") [] =
        some (editorBase "Shop", .named none "EditorBase"
          [.named none "List" [.nullable (.bare "Order")]]) ∧
      TypeExpr.parse? "List<Order?>" = some (.named none "List" [.nullable (.bare "Order")]) ∧
      InheritsAsDeclared (twoOrders "Shop" "List<Order?>") [] (editor "List<Order?>") current
        "List<Order?>" := by
  have hbase : base? (twoOrders "Shop" "List<Order?>") (editor "List<Order?>") [] =
      some (editorBase "Shop", .named none "EditorBase"
        [.named none "List" [.nullable (.bare "Order")]]) := by
    decide +kernel
  have hx : TypeExpr.parse? "List<Order?>" =
      some (.named none "List" [.nullable (.bare "Order")]) := by
    decide +kernel
  refine ⟨hbase, hx, (inherits_as_declared_iff _ [] hbase rfl rfl hx (by decide) (by decide +kernel)
    (by decide) (fun q hq => nomatch hq)).2 ⟨by decide +kernel, by decide, ?_⟩⟩
  refine Model.sameMeaning_of_scope ?_ ?_ _ _ <;> rfl

/-- From another namespace, the same name is another type, and so is a name whose namespace is
lost. -/
theorem inherits_otherwise :
    (base? (twoOrders "Ui" "Order") (editor "Order") [] =
        some (editorBase "Ui", .named none "EditorBase" [.bare "Order"]) ∧
      TypeExpr.parse? "Order" = some (.bare "Order") ∧
      ¬ InheritsAsDeclared (twoOrders "Ui" "Order") [] (editor "Order") current "Order") ∧
    (base? (twoOrders "Ui" "Shop.Order") (editor "Shop.Order") [] =
        some (editorBase "Ui", .named none "EditorBase" [.named (some "Shop") "Order" []]) ∧
      TypeExpr.parse? "Shop.Order" = some (.named (some "Shop") "Order" []) ∧
      ¬ InheritsAsDeclared (twoOrders "Ui" "Shop.Order") [] (editor "Shop.Order") current
        "Shop.Order") := by
  -- Either way the one member is an `Order` seen from `Ui`.
  have hmembers : ∀ argument ∈ ["Order", "Shop.Order"],
      (exposed (twoOrders "Ui" argument) [] (editor argument)).map
        (fun member => (member.property, member.declaring)) =
          [({ current with typeText := "Order" }, editorBase "Ui")] := by
    decide +kernel
  have hmember {argument : String} (hargument : argument ∈ ["Order", "Shop.Order"])
      {member : Member} (hmem : member ∈ exposed (twoOrders "Ui" argument) [] (editor argument)) :
      member.property = { current with typeText := "Order" } ∧
        member.declaring = editorBase "Ui" := by
    have hpair := List.mem_map_of_mem (f := fun member : Member =>
      (member.property, member.declaring)) hmem
    rw [hmembers argument hargument, List.mem_singleton] at hpair
    exact Prod.mk.inj hpair
  refine ⟨⟨by decide +kernel, by decide +kernel, ?_⟩, by decide +kernel, by decide +kernel, ?_⟩
  · rintro ⟨member, hmem, -, hsame⟩
    obtain ⟨hproperty, hdeclaring⟩ := hmember (by decide) hmem
    rw [hproperty, hdeclaring] at hsame
    exact absurd hsame.inner (by decide +kernel)
  · rintro ⟨member, hmem, -, hsame⟩
    obtain ⟨hproperty, hdeclaring⟩ := hmember (by decide) hmem
    rw [hproperty, hdeclaring] at hsame
    exact absurd hsame.inner (by decide +kernel)

end Member

end ViewForge
