import ViewForge.Proofs.VisualBasic.Origin
import ViewForge.Proofs.VisualBasic.Reach
import ViewForge.Proofs.VisualBasic.Words

/-!
# Accessors of Visual Basic properties

A property over several lines can be read if it has a `Get`, and set if it has a `Set` that is not
hidden. An accessor is known by the words on its line, whatever their case and the white space
between them (`accessorHeader?_eq_some_iff`), and what is read of a property is what its accessors
show one by one (`readAccessors_snd`, `foldl_add`).

Of the words before a `Set` only the last one counts. So `Protected Friend Set` shows a setter that
`Friend Protected Set` hides (`order_decides`), and a property is shown by the rule that neither
`Private` nor `Protected` may be among the words exactly where the last word decides alike
(`setter_shown_iff`).
-/

namespace ViewForge.VisualBasic

/-! ## Lines that open an accessor -/

/-- The word for an accessor. -/
def AccessorHeader.word (a : AccessorHeader) : String := if a.isGetter then "get" else "set"

/-- A text opens an accessor: words for its access, each with white space behind it, then `Get` or
`Set`, all in any letter case. -/
def IsAccessor (text : List Char) (a : AccessorHeader) : Prop :=
  ∃ word tail, WordsBefore accessorModifiers a.modifiers (Text.trimStart text) (word ++ tail) ∧
    Spells a.word word ∧ endsWord tail = true

/-- What is read as an accessor is one, and every accessor is read. -/
theorem accessorHeader?_eq_some_iff {text : List Char} {a : AccessorHeader} :
    accessorHeader? text = some a ↔ IsAccessor text a := by
  have hread {words : List (List Char)} {rest : List Char}
      (hmods : modifiers accessorModifiers (Text.trimStart text) = (words, rest)) :
      accessorHeader? text = (anyWord? ["get", "set"] rest).bind fun found =>
        if endsWord found.2 then some ⟨words, found.1 == "get"⟩ else none := by
    unfold accessorHeader?
    rw [hmods]
    rfl
  -- Reading gives the words back; the other way the modifiers stop where they do because no
  -- modifier begins `get` or `set`.
  constructor
  · intro h
    rw [hread rfl] at h
    obtain ⟨⟨word, tail⟩, hword, hheader⟩ := Option.bind_eq_some_iff.1 h
    obtain ⟨hmem, lead, hrest, hlead⟩ := spells_of_anyWord? hword
    dsimp only at hheader
    split at hheader
    case isFalse => exact nomatch hheader
    case isTrue hends =>
      obtain rfl := Option.some.inj hheader
      refine ⟨lead, tail, hrest ▸ wordsBefore_modifiers _, ?_, hends⟩
      have hwords : ∀ w ∈ ["get", "set"], (if (w == "get") = true then "get" else "set") = w := by
        decide
      unfold AccessorHeader.word
      dsimp only
      rwa [hwords word hmem]
  · rintro ⟨word, tail, hwords, hword, hends⟩
    have hfree : PrefixFree accessorModifiers := by unfold PrefixFree; decide
    have hlong : ∀ w ∈ accessorModifiers, w ≠ "" := by decide
    have hapart : ∀ w ∈ ["get", "set"], ∀ v ∈ accessorModifiers,
        ¬ v.toList <+: w.toList ∧ ¬ w.toList <+: v.toList := by
      decide
    have hmem : a.word ∈ ["get", "set"] := by
      unfold AccessorHeader.word
      cases a.isGetter <;> decide
    have hmods := modifiers_of_wordsBefore hfree hlong hwords
      (anyWord?_append_eq_none hword (hapart a.word hmem) tail)
    have hpair : PrefixFree ["get", "set"] := by unfold PrefixFree; decide
    have hget : (a.word == "get") = a.isGetter := by
      unfold AccessorHeader.word
      cases a.isGetter <;> decide
    rw [hread hmods, anyWord?_append hpair hmem hword, Option.bind_some, if_pos hends, hget]

/-! ## Accessors up to the end of a property -/

/-- The lines of a property behind its first one, up to the line that ends it. -/
def bodyOf (rest : List Line) : List Line :=
  rest.takeWhile fun l => !beginsEnd "property".toList (code l.text)

/-- The accessors that the lines of a property open, in order. -/
def accessorsIn (rest : List Line) : List AccessorHeader :=
  (bodyOf rest).filterMap fun l => accessorHeader? (code l.text)

/-- A line of a property opens an accessor. -/
def HasAccessor (rest : List Line) (a : AccessorHeader) : Prop :=
  ∃ l ∈ bodyOf rest, IsAccessor (code l.text) a

theorem mem_accessorsIn {rest : List Line} {a : AccessorHeader} :
    a ∈ accessorsIn rest ↔ HasAccessor rest a := by
  simp only [accessorsIn, HasAccessor, List.mem_filterMap, accessorHeader?_eq_some_iff]

/-- Lines that are passed over before a property's accessors change nothing. -/
theorem accessorsIn_append {skipped : List Line} (h : ∀ l ∈ skipped, isSkipped l.text = true)
    (rest : List Line) : accessorsIn (skipped ++ rest) = accessorsIn rest := by
  induction skipped with
  | nil => rfl
  | cons l skipped ih =>
    obtain ⟨hl, hskipped⟩ := List.forall_mem_cons.1 h
    unfold accessorsIn bodyOf
    rw [List.cons_append, List.takeWhile_cons, beginsEnd_of_isSkipped _ hl, Bool.not_false,
      if_pos rfl, List.filterMap_cons, accessorHeader?_of_isSkipped hl]
    exact ih hskipped

/-- The accessors are added one by one. -/
theorem readAccessors_snd (a : Accessors) (ls : List Line) :
    (readAccessors a ls).2 = (accessorsIn ls).foldl Accessors.add a := by
  induction ls generalizing a with
  | nil => rfl
  | cons l ls ih =>
    unfold accessorsIn bodyOf
    rw [readAccessors_cons, List.takeWhile_cons]
    cases beginsEnd "property".toList (code l.text) with
    | true => rfl
    | false =>
      rw [if_neg Bool.false_ne_true, Bool.not_false, if_pos rfl, List.filterMap_cons]
      dsimp only
      rw [ih]
      unfold Accessors.addLine
      cases accessorHeader? (code l.text) <;> rfl

/-! ## What the accessors show -/

/-- Whether a word hides a setter. -/
def isHiding (word : List Char) : Bool :=
  Text.sameIgnoringCase word "private".toList || Text.sameIgnoringCase word "protected".toList

/-- Whether `Private` or `Protected` is among the words before an accessor. -/
def AccessorHeader.isHidden (a : AccessorHeader) : Bool := a.modifiers.any isHiding

/-- Whether the last of the words before an accessor is `Private` or `Protected`. -/
def AccessorHeader.endsHiding (a : AccessorHeader) : Bool := a.modifiers.getLast?.any isHiding

theorem AccessorHeader.isHidden_of_endsHiding {a : AccessorHeader} (h : a.endsHiding = true) :
    a.isHidden = true := by
  obtain ⟨m, hm, hhides⟩ := (Option.any_eq_true _ _).1 h
  exact List.any_eq_true.2 ⟨m, List.mem_of_getLast? hm, hhides⟩

/-- An accessor shows a getter, or a setter if the last word before it does not hide this. -/
theorem Accessors.add_eq (a : Accessors) (header : AccessorHeader) :
    a.add header = ⟨a.getter || header.isGetter,
      a.setter || (!header.isGetter && !header.endsHiding)⟩ := by
  unfold Accessors.add AccessorHeader.endsHiding isHiding
  cases header.isGetter <;> simp

/-- Accessors show what one of them shows. -/
theorem foldl_add (headers : List AccessorHeader) (a : Accessors) :
    headers.foldl Accessors.add a = ⟨a.getter || headers.any (·.isGetter),
      a.setter || headers.any fun h => !h.isGetter && !h.endsHiding⟩ := by
  induction headers generalizing a with
  | nil => simp
  | cons header headers ih => simp [ih, Accessors.add_eq, Bool.or_assoc]

/-- Behind lines that are passed over an accessor comes. -/
def BeginsAccessors (rest : List Line) : Prop :=
  ∃ skipped first more a, rest = skipped ++ first :: more ∧
    (∀ l ∈ skipped, isSkipped l.text = true) ∧ IsAccessor (code first.text) a

/-- The accessors of a property are read if it goes on with one, and show what one of them shows. -/
theorem accessorsAfter?_of_begins {rest : List Line} (h : BeginsAccessors rest) :
    ∃ count, accessorsAfter? rest = some (count, (accessorsIn rest).foldl Accessors.add {}) := by
  obtain ⟨skipped, first, more, a, rfl, hskipped, ha⟩ := h
  have hheader := accessorHeader?_eq_some_iff.2 ha
  have hfirst : ∀ l ∈ (first :: more).head?, isSkipped l.text = false := by
    rintro _ ⟨⟩
    rw [Bool.eq_false_iff]
    intro hskip
    rw [accessorHeader?_of_isSkipped hskip] at hheader
    exact nomatch hheader
  obtain ⟨htake, hdrop⟩ := Text.span_append hskipped hfirst
  refine ⟨skipped.length + (readAccessors {} (first :: more)).1, ?_⟩
  rw [accessorsIn_append hskipped, ← readAccessors_snd]
  unfold accessorsAfter?
  simp only [hdrop, htake, hheader, Option.isSome_some, if_true]

/-- A property of a type of a kind is written over several lines: it is no declaration only, and an
accessor follows it. -/
structure IsExpanded (kind : TypeKind) (header : PropertyHeader) (rest : List Line) : Prop where
  /-- Properties of interfaces have no bodies. -/
  kind : kind ≠ .interface
  /-- Properties to be overridden have none. -/
  modifiers : hasModifier header.modifiers "mustoverride" = false
  /-- The next line of code opens an accessor. -/
  accessors : BeginsAccessors rest

/-- A property over several lines is read by its accessors. -/
theorem readProperty_of_isExpanded {kind : TypeKind} {header : PropertyHeader} {rest : List Line}
    (h : IsExpanded kind header rest) (line : Line) :
    (readProperty header kind line rest).1.hasGetter = (accessorsIn rest).any (·.isGetter) ∧
      (readProperty header kind line rest).1.hasSetter =
        (((accessorsIn rest).any fun a => !a.isGetter && !a.endsHiding) &&
          !hasModifier header.modifiers "readonly") := by
  obtain ⟨count, hcount⟩ := accessorsAfter?_of_begins h.accessors
  have hlines : (kind == .interface || hasModifier header.modifiers "mustoverride") = false := by
    rw [h.modifiers, Bool.or_false]
    exact beq_eq_false_iff_ne.2 h.kind
  unfold readProperty
  simp only [hlines, Bool.false_eq_true, if_false, hcount, foldl_add, Bool.false_or, and_self]

/-- By the last words before them a setter is shown exactly if by all words one is, just where one
has no hiding word before it or all have such a word last. -/
theorem shown_iff_shown_iff (rest : List Line) :
    ((∃ a, HasAccessor rest a ∧ a.isGetter = false ∧ a.endsHiding = false) ↔
        ∃ a, HasAccessor rest a ∧ a.isGetter = false ∧ a.isHidden = false) ↔
      (∃ a, HasAccessor rest a ∧ a.isGetter = false ∧ a.isHidden = false) ∨
        ∀ a, HasAccessor rest a → a.isGetter = false → a.endsHiding = true := by
  -- A setter without such words has none of them last.
  have hweaker {a : AccessorHeader} (ha : a.isHidden = false) : a.endsHiding = false := by
    rw [Bool.eq_false_iff] at ha ⊢
    exact fun h => ha (a.isHidden_of_endsHiding h)
  constructor
  · intro hiff
    by_cases hshown : ∃ a, HasAccessor rest a ∧ a.isGetter = false ∧ a.endsHiding = false
    · exact .inl (hiff.1 hshown)
    · refine .inr fun a ha hset => ?_
      rw [← Bool.not_eq_false]
      exact fun hends => hshown ⟨a, ha, hset, hends⟩
  · rintro (⟨a, ha, hset, hnone⟩ | hall)
    · exact iff_of_true ⟨a, ha, hset, hweaker hnone⟩ ⟨a, ha, hset, hnone⟩
    · have hnot : ¬ ∃ a, HasAccessor rest a ∧ a.isGetter = false ∧ a.endsHiding = false := by
        rintro ⟨a, ha, hset, hends⟩
        exact Bool.eq_false_iff.1 hends (hall a ha hset)
      refine iff_of_false hnot ?_
      rintro ⟨a, ha, hset, hnone⟩
      exact hnot ⟨a, ha, hset, hweaker hnone⟩

/-! ## Documents -/

/-- Every property over several lines can be read exactly if it has a `Get`, and set exactly if it
is not `ReadOnly` and has a `Set` whose last modifier is neither `Private` nor `Protected`. So it is
set by the rule that none of the modifiers may be one of them exactly if it is `ReadOnly`, one `Set`
has neither, or every `Set` has one of them last. -/
theorem setter_shown_iff {source : List Char} {t : DeclaredType} (ht : t ∈ (outline source).types)
    {p : PlacedProperty} (hp : p ∈ t.placed) :
    ∃ before line rest header,
      lines source = before ++ line :: rest ∧ p.span.start = line.span.start ∧
        propertyHeader? (code line.text) = some header ∧
        (IsExpanded t.decl.kind header rest →
          (p.hasGetter = true ↔ ∃ a, HasAccessor rest a ∧ a.isGetter = true) ∧
          (p.hasSetter = true ↔ hasModifier header.modifiers "readonly" = false ∧
            ∃ a, HasAccessor rest a ∧ a.isGetter = false ∧ a.endsHiding = false) ∧
          ((p.hasSetter = true ↔ hasModifier header.modifiers "readonly" = false ∧
              ∃ a, HasAccessor rest a ∧ a.isGetter = false ∧ a.isHidden = false) ↔
            hasModifier header.modifiers "readonly" = true ∨
              (∃ a, HasAccessor rest a ∧ a.isGetter = false ∧ a.isHidden = false) ∨
              ∀ a, HasAccessor rest a → a.isGetter = false → a.endsHiding = true)) := by
  obtain ⟨before, line, rest, header, hsplit, hheader, hproperty, hspan⟩ :=
    isReadFrom_of_placed source t ht p hp
  refine ⟨before, line, rest, header, hsplit, by rw [hspan, readProperty_span]; rfl, hheader,
    fun hexpanded => ?_⟩
  obtain ⟨hget, hset⟩ := readProperty_of_isExpanded hexpanded line
  have hgetter : p.hasGetter = true ↔ ∃ a, HasAccessor rest a ∧ a.isGetter = true := by
    rw [hproperty, hget, List.any_eq_true]
    simp only [mem_accessorsIn]
  have hsetter : p.hasSetter = true ↔ hasModifier header.modifiers "readonly" = false ∧
      ∃ a, HasAccessor rest a ∧ a.isGetter = false ∧ a.endsHiding = false := by
    rw [hproperty, hset, Bool.and_eq_true, List.any_eq_true, and_comm]
    simp only [mem_accessorsIn, Bool.and_eq_true, Bool.not_eq_true']
  refine ⟨hgetter, hsetter, ?_⟩
  rw [hsetter]
  -- A `ReadOnly` property has no setter by either rule, so the rules can differ only without it.
  cases hasModifier header.modifiers "readonly" with
  | true => simp
  | false => simpa only [true_and, Bool.false_eq_true, false_or] using shown_iff_shown_iff rest

/-- A class with a property over several lines, whose `Set` has some words before it. -/
def withSetter (words : String) : List Char :=
  ("Class A\nProperty P As Integer\nGet\nReturn 1\nEnd Get\n" ++ words ++
    " Set(value As Integer)\nEnd Set\nEnd Property\nEnd Class").toList

/-- The class as it is declared, if the property can be set or not. -/
def setterClass (hasSetter : Bool) : DeclaredType where
  decl :=
    { name := "A", kind := .class, ignoresCase := true
      properties := [{ name := "P", typeText := "Integer", hasSetter }] }
  span := ⟨0, 120⟩
  propertySpans := [⟨8, 110⟩]

theorem outline_friend : outline (withSetter "Protected Friend") = ⟨[setterClass true]⟩ := by
  decide +kernel

/-- The same two words before a `Set` show it in one order and hide it in the other. -/
theorem order_decides :
    outline (withSetter "Protected Friend") = ⟨[setterClass true]⟩ ∧
      outline (withSetter "Friend Protected") = ⟨[setterClass false]⟩ :=
  ⟨outline_friend, by decide +kernel⟩

/-- The first line of the property. -/
def friendLine : Line := ⟨"Property P As Integer".toList, 8, 29⟩

/-- The lines behind it, with the words `Protected Friend` before the `Set`. -/
def friendRest : List Line :=
  [⟨"Get".toList, 30, 33⟩, ⟨"Return 1".toList, 34, 42⟩, ⟨"End Get".toList, 43, 50⟩,
    ⟨"Protected Friend Set(value As Integer)".toList, 51, 89⟩, ⟨"End Set".toList, 90, 97⟩,
    ⟨"End Property".toList, 98, 110⟩, ⟨"End Class".toList, 111, 120⟩]

/-- The property is on the second line, and on no other. -/
theorem eq_of_lines_friend {before : List Line} {line : Line} {rest : List Line}
    (h : lines (withSetter "Protected Friend") = before ++ line :: rest)
    (hstart : line.span.start = 8) : line = friendLine ∧ rest = friendRest := by
  have hlines : lines (withSetter "Protected Friend") =
      [⟨"Class A".toList, 0, 7⟩] ++ friendLine :: friendRest := by
    decide +kernel
  rw [hlines] at h
  rcases before with _ | ⟨_, _ | ⟨_, before⟩⟩
  · rw [← (List.cons.inj h).1] at hstart
    exact absurd hstart (by decide)
  · obtain ⟨hline, hrest⟩ := List.cons.inj (List.cons.inj h).2
    exact ⟨hline.symm, hrest.symm⟩
  · have hmem : line ∈ friendRest := by
      rw [(List.cons.inj (List.cons.inj h).2).2]
      exact List.mem_append_right _ List.mem_cons_self
    exact absurd hstart ((by decide : ∀ l ∈ friendRest, l.span.start ≠ 8) line hmem)

/-- An accessor follows the property on the next line. -/
theorem beginsAccessors_friend : BeginsAccessors friendRest := by
  have hget : (accessorHeader? (code "Get".toList)).isSome = true := by decide +kernel
  obtain ⟨a, ha⟩ := Option.isSome_iff_exists.1 hget
  exact ⟨[], ⟨"Get".toList, 30, 33⟩, friendRest.tail, a, rfl, List.forall_mem_nil _,
    accessorHeader?_eq_some_iff.1 ha⟩

/-- The property of the class with the words `Protected Friend` before its `Set`. -/
def friendProperty : PlacedProperty :=
  { name := "P", typeText := "Integer", hasSetter := true, index := 0, span := ⟨8, 110⟩ }

/-- The property is written over several lines, and set though every `Set` has a hiding word. -/
theorem setter_shown_iff_friend :
    setterClass true ∈ (outline (withSetter "Protected Friend")).types ∧
      friendProperty ∈ (setterClass true).placed ∧
      ∃ header, propertyHeader? (code friendLine.text) = some header ∧
        IsExpanded .class header friendRest ∧
        (∃ a, HasAccessor friendRest a ∧ a.isGetter = false ∧ a.endsHiding = false) ∧
        ∀ a, HasAccessor friendRest a → a.isGetter = false → a.isHidden = true := by
  have hmem : setterClass true ∈ (outline (withSetter "Protected Friend")).types := by
    rw [outline_friend]
    exact List.mem_singleton.2 rfl
  have hplaced : friendProperty ∈ (setterClass true).placed := List.mem_singleton.2 rfl
  obtain ⟨before, line, rest, header, hsplit, hstart, hheader, hshown⟩ :=
    setter_shown_iff hmem hplaced
  -- The property's line is the only one that begins where it does, so the header read is its own.
  obtain ⟨rfl, rfl⟩ := eq_of_lines_friend hsplit hstart.symm
  have hwords : hasModifier header.modifiers "mustoverride" = false := by
    have hread : (propertyHeader? (code friendLine.text)).map
        (fun h => hasModifier h.modifiers "mustoverride") = some false := by
      decide +kernel
    rwa [hheader, Option.map_some, Option.some.injEq] at hread
  have hexpanded : IsExpanded .class header friendRest :=
    ⟨by decide, hwords, beginsAccessors_friend⟩
  have hhidden : ∀ a ∈ accessorsIn friendRest, a.isGetter = false → a.isHidden = true := by
    decide +kernel
  obtain ⟨-, hset, -⟩ := hshown hexpanded
  exact ⟨hmem, hplaced, header, hheader, hexpanded, (hset.1 rfl).2,
    fun a ha => hhidden a (mem_accessorsIn.2 ha)⟩

end ViewForge.VisualBasic
