import ViewForge.Proofs.Draft.VisualBasic.Writing

/-!
# The lines of drafts

Each line of a written draft is read as the declaration that it was written for: a line that opens
or ends a type or a namespace (`readLine_opening`, `readLine_end`, `readLine_space`,
`readLine_endSpace`), base types (`readLine_base`), a member of an enumeration (`readLine_member`)
and a property with the lines of its body (`readLine_property`). A property without a body takes no
further line, because the line behind it opens no accessor (`Quiet`).
-/

namespace ViewForge.VisualBasic

/-! ## Lines -/

variable {line : Line} {depth : Nat} {rest : List Line} {r : Reading}

/-- The words for types. -/
def draftWords : List String := ["Class", "Structure", "Enum"]

theorem mem_draftWords_word (head : TypeHead) : head.word ∈ draftWords := by
  unfold TypeHead.word
  cases head.isStructure <;> decide

/-- A word for a type is one for types only. -/
theorem draftWord_facts {word : String} (h : word ∈ draftWords) :
    word ∈ ownWords ∧ hasWord typeWords word = true ∧ lacksWord typeModifiers word = true ∧
      lacksWord accessorModifiers word = true ∧ lacksWord ["get", "set"] word = true := by
  have hall : ∀ w ∈ draftWords, w ∈ ownWords ∧ hasWord typeWords w = true ∧
      lacksWord typeModifiers w = true ∧ lacksWord accessorModifiers w = true ∧
      lacksWord ["get", "set"] w = true := by
    decide
  exact hall word h

theorem startsWord_identifier (name : Identifier) : StartsWord name.1 :=
  ⟨_, List.head?_eq_some_head name.2.ne_nil, name.2.letters _ (List.head_mem name.2.ne_nil)⟩

/-- A line that begins with a word of four letters or more is not passed over. -/
theorem isSkipped_wordText {w : String} (hw : w ∈ ownWords) (hlong : 4 ≤ w.toList.length)
    (ws : List String) (rest : List Char) : isSkipped (wordText (w :: ws) ++ rest) = false := by
  have hall : ∀ w ∈ ownWords, startsWord w = true ∧ w.toList.all Text.isWord = true := by
    decide
  refine isSkipped_eq_false (startsWord_wordText (hall w hw).1 ws rest) fun c hc => ?_
  rw [wordText_cons_append, List.take_append_of_le_length hlong] at hc
  exact List.all_eq_true.1 (hall w hw).2 c (List.mem_of_mem_take hc)

/-- A name can stand in a list. -/
theorem isItem_identifier (name : Identifier) : IsItem name.1 where
  unsplit := unsplit_of_forall fun c hc =>
    have hword := name.2.letters c hc
    ⟨Text.ne_of_isWord hword (by decide), Text.ne_of_isWord hword (by decide),
      Text.ne_of_isWord hword (by decide)⟩
  trimmed := name.2.trim_eq_self
  some := name.2.ne_nil

/-- The type parameters behind a name are found. -/
theorem typeParameterText?_parameterText (parameters : List Identifier) :
    ((typeParameterText? (parameterText parameters)).map splitList).getD [] =
      parameters.map (·.1) := by
  cases parameters with
  | nil => rfl
  | cons name names =>
    have hitems : ∀ u ∈ (name :: names).map (·.1), IsItem u :=
      List.forall_mem_map.2 fun name _ => isItem_identifier name
    -- Names, commas and spaces hold no parenthesis, so the list is closed by its own.
    have hplain : ∀ c ∈ listed ((name :: names).map (·.1)), (c != ')') = true := by
      refine Text.forall_mem_intercalate (List.all_eq_true.1 rfl)
        (List.forall_mem_map.2 fun name _ c hc => ?_)
      exact bne_iff_ne.2 (Text.ne_of_isWord (name.2.letters c hc) (by decide))
    have hclosing : ∀ c ∈ [')'].head?, (c != ')') = false := by
      rintro _ ⟨⟩
      rfl
    obtain ⟨htake, -⟩ := Text.span_append hplain hclosing
    have hof := afterWord?_wordText (v := "of") (w := "Of") (by decide) (by decide)
      (isCode_parameters name names).first
    have hfound : typeParameterText? (parameterText (name :: names)) =
        some (listed ((name :: names).map (·.1))) := by
      have hstart : typeParameterText? (parameterText (name :: names)) =
          (afterWord? "of" (wordText ["Of"] ++ (listed ((name :: names).map (·.1)) ++ [')']))).bind
            fun rest => if rest.contains ')' then some (rest.takeWhile (· != ')')) else none := rfl
      have hmem : ')' ∈ listed ((name :: names).map (·.1)) ++ [')'] :=
        List.mem_append_right _ List.mem_cons_self
      rw [hstart, hof, Option.bind_some, if_pos (List.contains_iff_mem.2 hmem), htake]
    rw [hfound, Option.map_some, Option.getD_some]
    exact splitList_listed hitems

theorem isSkipped_openingLine (word : String) (name : Identifier) (parameters : List Identifier) :
    isSkipped (openingLine word name parameters) = false :=
  isSkipped_wordText (by decide) (by decide) _ _

/-- The line that opens a type is read as such. -/
theorem readLine_opening {word : String} (hword : word ∈ draftWords) {name : Identifier}
    {parameters : List Identifier}
    (hline : line.text = indented depth (openingLine word name parameters)) :
    readLine line rest r = (openType
      ⟨word.toList, name.1, typeParameterText? (parameterText parameters)⟩ line r, 0) := by
  obtain ⟨hown, hhas, hmodifier, -, -⟩ := draftWord_facts hword
  -- The name ends where the type parameters or the line do.
  have hbehind : ∀ c ∈ (parameterText parameters).head?, Text.isWord c = false := by
    cases parameters with
    | nil => exact fun c hc => nomatch hc
    | cons p ps => rintro _ ⟨⟩; decide
  obtain ⟨hnamespace, hend, -⟩ := wordText_passes (w := "Public") (by decide) []
    (wordText [word] ++ (name.1 ++ parameterText parameters))
  have hpublic : ∀ m ∈ ["Public"], hasWord typeModifiers m = true := by decide
  have hheader : typeHeader? (openingLine word name parameters) =
      some ⟨word.toList, name.1, typeParameterText? (parameterText parameters)⟩ :=
    typeHeader?_wordText hpublic hmodifier hhas name.2.letters name.2.ne_nil hbehind
  rw [readLine_indented hline (isCode_openingLine hown name parameters)
    (isSkipped_openingLine word name parameters), hheader, openingLine, hnamespace, hend]
  rfl

/-- The line that ends a type is read as such. -/
theorem readLine_end {word : String} (hword : word ∈ draftWords)
    (hline : line.text = indented depth (endLine word)) :
    readLine line rest r = (r.close line.span.stop, 0) := by
  have hall : ∀ w ∈ draftWords, w ∈ ownWords ∧ isSkipped (endLine w) = false ∧
      (namespaceName? (endLine w)).isNone ∧ endsNamespace (endLine w) = false ∧
      (typeHeader? (endLine w)).isNone ∧ endsType (endLine w) = true := by
    decide
  obtain ⟨hown, hskip, hnamespace, hends, hheader, hend⟩ := hall word hword
  rw [readLine_indented hline (isCode_endLine hown) hskip, Option.isNone_iff_eq_none.1 hnamespace,
    hends, Option.isNone_iff_eq_none.1 hheader, hend]
  rfl

/-- The line that opens a namespace is read as such. -/
theorem readLine_space {names : List Identifier} (hnames : names ≠ [])
    (hline : line.text = indented depth (spaceLine names)) :
    readLine line rest r =
      ({ r with namespaces :=
          String.ofList (['.'].intercalate (names.map (·.1))) :: r.namespaces }, 0) := by
  have hskip : isSkipped (spaceLine names) = false := isSkipped_wordText (by decide) (by decide) _ _
  have hname : namespaceName? (spaceLine names) = some (['.'].intercalate (names.map (·.1))) := by
    have hcode := isCode_joined hnames
    have hword := afterWord?_wordText (v := "namespace") (w := "Namespace") (by decide) (by decide)
      hcode.first
    -- The name is read as far as letters and points go, which is all of it.
    have hdotted : ∀ c ∈ ['.'].intercalate (names.map (·.1)), isDotted c = true := by
      refine Text.forall_mem_intercalate (List.forall_mem_singleton.2 rfl)
        (List.forall_mem_map.2 fun name _ c hc => ?_)
      rw [isDotted, name.2.letters c hc]
      rfl
    obtain ⟨c, hc, -⟩ := hcode.first
    have hsome := List.isEmpty_eq_false_iff.2 (List.ne_nil_of_mem (List.mem_of_mem_head? hc))
    rw [namespaceName?, trimStart_eq_self (isCode_spaceLine hnames).first, spaceLine, hword]
    simp only [Option.bind_eq_bind, Option.bind_some, List.takeWhile_eq_self_iff.2 hdotted, hsome]
    rfl
  rw [readLine_indented hline (isCode_spaceLine hnames) hskip, hname]

/-- So is the line that ends it. -/
theorem readLine_endSpace (hline : line.text = indented depth (endLine "Namespace")) :
    readLine line rest r = ({ r with namespaces := r.namespaces.tail }, 0) := by
  have hskip : isSkipped (endLine "Namespace") = false := rfl
  have hname : namespaceName? (endLine "Namespace") = none := rfl
  have hends : endsNamespace (endLine "Namespace") = true := rfl
  rw [readLine_indented hline (isCode_endLine (by decide)) hskip, hname, hends]
  rfl

/-! ## Lines inside a type -/

namespace Reading

/-- A document in which one more type is open. -/
def withFrame (r : Reading) (frame : Frame) : Reading := { r with opened := frame :: r.opened }

/-- The scope inside an open type. -/
theorem scope_withFrame (r : Reading) (frame : Frame) :
    (r.withFrame frame).scope = within r.scope frame.declared.decl.name := by
  have hpath : (r.withFrame frame).scope = CSharp.scopeOf
      (r.namespaces.reverse ++ (r.opened.map (·.declared.decl.name)).reverse ++
        [frame.declared.decl.name]) := by
    rw [List.append_assoc, ← List.reverse_cons]
    rfl
  rw [hpath, scopeOf_append_singleton]
  rfl

end Reading

/-- A line inside a type that neither opens nor ends a construct is read as a member. -/
theorem readLine_inside {frame : Frame} {cs : List Char} (hline : line.text = indented depth cs)
    (hcode : IsCode cs) (hskip : isSkipped cs = false) (hnamespace : namespaceName? cs = none)
    (hends : endsNamespace cs = false) (hheader : typeHeader? cs = none)
    (hend : endsType cs = false) :
    readLine line rest (r.withFrame frame) =
      readMember frame.declared.decl.kind (indented depth cs) line rest (r.withFrame frame) := by
  rw [readLine_indented hline hcode hskip, hnamespace, hends, hheader, hend]
  rfl

/-- A line of base types is read as such. -/
theorem readLine_base {frame : Frame} (hkind : frame.declared.decl.kind ≠ .enum) {b : BaseLine}
    (hline : line.text = indented depth b.line) :
    readLine line rest (r.withFrame frame) =
      ((r.withFrame frame).change fun t =>
        { t with decl := { t.decl with
            bases := t.decl.bases ++ b.types.map (·.text .visualBasic) } }, 0) := by
  -- What is asked of the words for bases is decided for both of them at once.
  have hall (w : BaseWord) : w.word ∈ ownWords ∧ 4 ≤ w.word.toList.length ∧
      beginsDeclaration w.word = true ∧ lacksWord typeModifiers w.word = true ∧
      lacksWord typeWords w.word = true ∧ hasWord ["inherits", "implements"] w.word = true := by
    cases w <;> decide
  obtain ⟨hown, hlong, hbegins, hmodifier, htype, hbase⟩ := hall b.word
  have hskip : isSkipped b.line = false := isSkipped_wordText hown hlong _ _
  obtain ⟨hnamespace, hends, hend⟩ := wordText_passes hbegins []
    (listed (b.types.map fun t => t.1.text .round))
  have hheader : typeHeader? b.line = none :=
    typeHeader?_wordText_eq_none (List.forall_mem_nil _) hmodifier htype _ _
  have hitems : ∀ u ∈ b.types.map (fun t => t.1.text .round), IsItem u :=
    List.forall_mem_map.2 fun t _ => isItem_text t.1
  have htexts : ∀ u ∈ b.types.map (fun t => t.1.text .round), IsCode u :=
    List.forall_mem_map.2 fun t _ => isCode_text t
  have hbases : baseText? (indented depth b.line) =
      some (listed (b.types.map fun t => t.1.text .round)) := by
    have hlisted : IsCode (listed (b.types.map fun t => t.1.text .round)) :=
      isCode_intercalate isPlain_comma htexts
    rw [baseText?_indented]
    exact baseText?_wordText hbase hlisted.first
  have hsplit : splitList (listed (b.types.map fun t => t.1.text .round)) =
      b.types.map fun t => t.1.text .round :=
    splitList_listed hitems
  rw [readLine_inside hline (isCode_baseLine b) hskip hnamespace hends hheader hend, readMember,
    if_neg hkind, hbases]
  simp only [hsplit, List.map_map]
  rfl

/-- A line of an enumeration is read as its member. -/
theorem readLine_member {frame : Frame} (hkind : frame.declared.decl.kind = .enum) {m : Identifier}
    (hline : line.text = indented depth m.1) :
    readLine line rest (r.withFrame frame) =
      ((r.withFrame frame).change fun t =>
        { t with decl := { t.decl with members := t.decl.members ++ [m.text] } }, 0) := by
  have hword := m.2.letters
  have hskip : isSkipped m.1 = false :=
    isSkipped_eq_false (startsWord_identifier m) fun c hc => hword c (List.mem_of_mem_take hc)
  rw [readLine_inside hline (isCode_identifier m) hskip (namespaceName?_name hword)
    (endsNamespace_name hword) (typeHeader?_name hword m.2.ne_nil) (endsType_name hword),
    readMember, if_pos hkind, enumMemberName?_indented, enumMemberName?_name hword m.2.ne_nil]
  rfl

/-! ## Accessors -/

/-- Whether lines begin with one that shows that the property before them has no body. -/
def Quiet (ls : List Line) : Prop :=
  ∃ line more, ls = line :: more ∧ isSkipped line.text = false ∧
    accessorHeader? (code line.text) = none

theorem Quiet.accessorsAfter? {ls : List Line} (h : Quiet ls) : accessorsAfter? ls = none := by
  obtain ⟨line, more, rfl, hskip, hnone⟩ := h
  have hhead : ∀ l ∈ (line :: more).head?, isSkipped l.text = false := by
    rintro _ ⟨⟩
    exact hskip
  rw [VisualBasic.accessorsAfter?, (Text.span_of_head hhead).2]
  simp [hnone]

/-- Accessors are read if they begin in the next line. -/
theorem accessorsAfter?_cons (hskip : isSkipped line.text = false)
    (hsome : (accessorHeader? (code line.text)).isSome = true) :
    accessorsAfter? (line :: rest) = some (readAccessors {} (line :: rest)) := by
  have hhead : ∀ l ∈ (line :: rest).head?, isSkipped l.text = false := by
    rintro _ ⟨⟩
    exact hskip
  obtain ⟨htake, hdrop⟩ := Text.span_of_head hhead
  rw [accessorsAfter?, htake, hdrop]
  simp [hsome]

/-- A line of a body that is no accessor changes nothing. -/
theorem readAccessors_none {cs : List Char} (hline : line.text = indented depth cs)
    (hcode : IsCode cs) (hend : beginsEnd "property".toList cs = false)
    (hnone : accessorHeader? cs = none) (a : Accessors) :
    readAccessors a (line :: rest) =
      ((readAccessors a rest).1 + 1, (readAccessors a rest).2) := by
  rw [readAccessors, hline, code_indented hcode, beginsEnd_indented, hend, accessorHeader?_indented,
    hnone]
  rfl

/-- A line that opens an accessor adds it. -/
theorem readAccessors_some {cs : List Char} (hline : line.text = indented depth cs)
    (hcode : IsCode cs) (hend : beginsEnd "property".toList cs = false) {header : AccessorHeader}
    (hsome : accessorHeader? cs = some header) (a : Accessors) :
    readAccessors a (line :: rest) =
      ((readAccessors (a.add header) rest).1 + 1, (readAccessors (a.add header) rest).2) := by
  rw [readAccessors, hline, code_indented hcode, beginsEnd_indented, hend, accessorHeader?_indented,
    hsome]
  rfl

/-- The line that ends a property ends its accessors. -/
theorem readAccessors_end (hline : line.text = indented depth (endLine "Property"))
    (a : Accessors) : readAccessors a (line :: rest) = (1, a) := by
  have hcode : IsCode (endLine "Property") := isCode_endLine (by decide)
  have hend : beginsEnd "property".toList (endLine "Property") = true := rfl
  rw [readAccessors, hline, code_indented hcode, beginsEnd_indented, hend]
  rfl

/-- The lines of a getter show one. -/
theorem readAccessors_getter {ls : List Line} (hls : ls.map (·.text) = getterLines depth)
    (a : Accessors) :
    readAccessors a (ls ++ rest) =
      ((readAccessors { a with getter := true } rest).1 + ls.length,
        (readAccessors { a with getter := true } rest).2) := by
  obtain ⟨first, ls, rfl, hfirst, hls⟩ := List.map_eq_cons_iff.1 hls
  obtain ⟨second, ls, rfl, hsecond, hls⟩ := List.map_eq_cons_iff.1 hls
  obtain ⟨third, ls, rfl, hthird, hls⟩ := List.map_eq_cons_iff.1 hls
  obtain rfl := List.map_eq_nil_iff.1 hls
  have hget : accessorHeader? "Get".toList = some ⟨[], true⟩ := rfl
  rw [List.cons_append, readAccessors_some hfirst (isCode_ownWord (by decide)) rfl hget,
    List.cons_append, readAccessors_none hsecond isCode_return rfl rfl,
    List.cons_append, readAccessors_none hthird (isCode_endLine (by decide)) rfl rfl]
  rfl

/-- The lines of a setter show one, unless it is hidden. -/
theorem readAccessors_setter {ws : List String} (hws : ws = [] ∨ ws = ["Private"]) {ls : List Line}
    (hls : ls.map (·.text) = setterLines depth ws) (a : Accessors) :
    readAccessors a (ls ++ rest) =
      ((readAccessors { a with setter := a.setter || ws.isEmpty } rest).1 + ls.length,
        (readAccessors { a with setter := a.setter || ws.isEmpty } rest).2) := by
  obtain ⟨first, ls, rfl, hfirst, hls⟩ := List.map_eq_cons_iff.1 hls
  obtain ⟨second, ls, rfl, hsecond, hls⟩ := List.map_eq_cons_iff.1 hls
  obtain rfl := List.map_eq_nil_iff.1 hls
  -- There is no word before `Set` or the one that hides it, so each fact is one of two.
  have hset : accessorHeader? (wordText ws ++ "Set".toList) =
      some ⟨ws.map String.toList, false⟩ := by
    rcases hws with rfl | rfl <;> rfl
  have hadd : a.add ⟨ws.map String.toList, false⟩ =
      { a with setter := a.setter || ws.isEmpty } := by
    rcases hws with rfl | rfl <;> rfl
  have hown : ∀ w ∈ ws, w ∈ ownWords := by
    rcases hws with rfl | rfl <;> decide
  have hend : beginsEnd "property".toList (wordText ws ++ "Set".toList) = false := by
    rcases hws with rfl | rfl <;> rfl
  rw [List.cons_append, readAccessors_some hfirst (isCode_setLine hown) hend hset, hadd,
    List.cons_append, readAccessors_none hsecond (isCode_endLine (by decide)) rfl rfl]
  rfl

/-- The first line of a body opens an accessor. -/
theorem accessorLines_cons {form : PropertyForm} (hbody : form.hasBody = true) (depth : Nat) :
    ∃ cs ls, form.accessorLines depth = indented depth cs :: ls ∧ IsCode cs ∧
      isSkipped cs = false ∧ (accessorHeader? cs).isSome = true := by
  cases form with
  | auto | readOnlyAuto => exact nomatch hbody
  | getSet | getPrivateSet | getOnly =>
    exact ⟨"Get".toList, _, rfl, isCode_ownWord (by decide), rfl, rfl⟩
  | setOnly => exact ⟨"Set".toList, _, rfl, isCode_ownWord (by decide), rfl, rfl⟩

/-- The accessors of a body are read. -/
theorem readAccessors_accessorLines {form : PropertyForm} (hbody : form.hasBody = true)
    {ls : List Line} (hls : ls.map (·.text) = form.accessorLines depth) :
    readAccessors {} (ls ++ rest) =
      ((readAccessors ⟨form.hasGetter, form.hasSetter⟩ rest).1 + ls.length,
        (readAccessors ⟨form.hasGetter, form.hasSetter⟩ rest).2) := by
  cases form with
  | auto | readOnlyAuto => exact nomatch hbody
  | getSet =>
    -- The getter comes first, and the setter adds to it.
    obtain ⟨getter, setter, rfl, hgetter, hsetter⟩ := List.map_eq_append_iff.1 hls
    rw [List.append_assoc, readAccessors_getter hgetter, readAccessors_setter (.inl rfl) hsetter,
      List.length_append, Nat.add_assoc, Nat.add_comm setter.length]
    rfl
  | getPrivateSet =>
    obtain ⟨getter, setter, rfl, hgetter, hsetter⟩ := List.map_eq_append_iff.1 hls
    rw [List.append_assoc, readAccessors_getter hgetter, readAccessors_setter (.inr rfl) hsetter,
      List.length_append, Nat.add_assoc, Nat.add_comm setter.length]
    rfl
  | getOnly => exact readAccessors_getter hls {}
  | setOnly => exact readAccessors_setter (.inl rfl) hls {}

/-- The body of a property shows its accessors. -/
theorem accessorsAfter?_formLines {form : PropertyForm} (hbody : form.hasBody = true)
    {ls : List Line} (hls : ls.map (·.text) = form.lines depth) :
    accessorsAfter? (ls ++ rest) = some (ls.length, ⟨form.hasGetter, form.hasSetter⟩) := by
  rw [PropertyForm.lines, if_pos hbody] at hls
  obtain ⟨body, last, rfl, hlines, hlast⟩ := List.map_eq_append_iff.1 hls
  obtain ⟨final, nothing, rfl, hfinal, hnothing⟩ := List.map_eq_cons_iff.1 hlast
  obtain rfl := List.map_eq_nil_iff.1 hnothing
  -- A body has an accessor at least; its first line shows that the accessors begin.
  obtain ⟨cs, texts, htexts, hcode, hskip, hsome⟩ := accessorLines_cons hbody (depth + 1)
  obtain ⟨first, more, rfl, hfirst, -⟩ := List.map_eq_cons_iff.1 (hlines.trans htexts)
  have hskip' : isSkipped first.text = false := by rw [hfirst, isSkipped_indented, hskip]
  have hsome' : (accessorHeader? (code first.text)).isSome = true := by
    rw [hfirst, code_indented hcode, accessorHeader?_indented, hsome]
  have hread : readAccessors {} (first :: more ++ final :: rest) =
      (1 + (first :: more).length, ⟨form.hasGetter, form.hasSetter⟩) := by
    rw [readAccessors_accessorLines hbody hlines, readAccessors_end hfinal]
  calc accessorsAfter? (first :: more ++ [final] ++ rest)
      = accessorsAfter? (first :: (more ++ final :: rest)) := by
        rw [List.append_assoc, List.singleton_append, List.cons_append]
    _ = some (readAccessors {} (first :: more ++ final :: rest)) :=
        accessorsAfter?_cons hskip' hsome'
    _ = some ((first :: more ++ [final]).length, ⟨form.hasGetter, form.hasSetter⟩) := by
        rw [hread, List.length_append, Nat.add_comm]
        rfl

/-! ## Properties -/

/-- The words of a line of a property are modifiers. -/
theorem lead_words (p : PropertyDraft) : ∀ w ∈ p.lead, hasWord propertyModifiers w = true := by
  have hall : ∀ w ∈ accessWords ++ ("Shared" :: formWords), hasWord propertyModifiers w = true := by
    decide
  exact fun w hw => hall w (mem_leadWords p w hw)

theorem hasModifier_eq_false {ws : List String} {v : String}
    (h : ∀ w ∈ ws, Text.sameIgnoringCase w.toList v.toList = false) :
    hasModifier (ws.map String.toList) v = false := by
  rw [hasModifier, List.any_eq_false]
  exact List.forall_mem_map.2 fun w hw => by rw [h w hw]; exact Bool.false_ne_true

/-- A modifier is looked for in each part of the words. -/
theorem hasModifier_lead (p : PropertyDraft) (v : String) :
    hasModifier (p.lead.map String.toList) v =
      (hasModifier (p.visibility.lead.map String.toList) v ||
        (p.isShared && Text.sameIgnoringCase "Shared".toList v.toList) ||
        hasModifier (p.form.lead.map String.toList) v) := by
  rw [PropertyDraft.lead, hasModifier, List.map_append, List.map_append, List.any_append,
    List.any_append, ← Bool.or_assoc]
  cases p.isShared with
  | false => rfl
  | true =>
    rw [Bool.true_and, if_pos rfl, List.map_singleton, List.any_cons, List.any_nil, Bool.or_false]
    rfl

/-- The words of a line say from where the property can be used. -/
theorem accessOf_lead (p : PropertyDraft) :
    accessOf (p.lead.map String.toList) = p.visibility.access := by
  have hall : ∀ v ∈ ["public", "protected", "friend", "private"], ∀ w ∈ "Shared" :: formWords,
      Text.sameIgnoringCase w.toList v.toList = false := by
    decide
  -- The other words of the line say nothing about access.
  have hlead (v : String) (hv : v ∈ ["public", "protected", "friend", "private"]) :
      hasModifier (p.lead.map String.toList) v =
        hasModifier (p.visibility.lead.map String.toList) v := by
    have hshared := hall v hv "Shared" List.mem_cons_self
    have hform : hasModifier (p.form.lead.map String.toList) v = false :=
      hasModifier_eq_false fun w hw =>
        hall v hv w (List.mem_cons_of_mem _ (mem_formWords p.form w hw))
    rw [hasModifier_lead, hshared, hform, Bool.and_false, Bool.or_false, Bool.or_false]
  have haccess : accessOf (p.visibility.lead.map String.toList) = p.visibility.access := by
    cases p.visibility <;> decide
  rw [← haccess]
  unfold accessOf
  rw [hlead "public" (by decide), hlead "protected" (by decide), hlead "friend" (by decide),
    hlead "private" (by decide)]

/-- They say whether it belongs to the type. -/
theorem hasModifier_shared (p : PropertyDraft) :
    hasModifier (p.lead.map String.toList) "shared" = p.isShared := by
  have hall : ∀ w ∈ accessWords ++ formWords,
      Text.sameIgnoringCase w.toList "shared".toList = false := by
    decide
  have hvisibility : hasModifier (p.visibility.lead.map String.toList) "shared" = false :=
    hasModifier_eq_false fun w hw =>
      hall w (List.mem_append_left _ (mem_accessWords p.visibility w hw))
  have hform : hasModifier (p.form.lead.map String.toList) "shared" = false :=
    hasModifier_eq_false fun w hw => hall w (List.mem_append_right _ (mem_formWords p.form w hw))
  have hsame : Text.sameIgnoringCase "Shared".toList "shared".toList = true := by decide
  rw [hasModifier_lead, hvisibility, hform, hsame, Bool.and_true, Bool.false_or, Bool.or_false]

/-- They never say that it has no body of its own. -/
theorem hasModifier_mustOverride (p : PropertyDraft) :
    hasModifier (p.lead.map String.toList) "mustoverride" = false := by
  have hall : ∀ w ∈ accessWords ++ ("Shared" :: formWords),
      Text.sameIgnoringCase w.toList "mustoverride".toList = false := by
    decide
  exact hasModifier_eq_false fun w hw => hall w (mem_leadWords p w hw)

/-- They agree with the body of the property, or stand in for it if there is none. -/
theorem lead_accessors (p : PropertyDraft) :
    if p.form.hasBody then
      (p.form.hasSetter && !hasModifier (p.lead.map String.toList) "readonly") = p.form.hasSetter
    else
      (!hasModifier (p.lead.map String.toList) "writeonly") = p.form.hasGetter ∧
        (!hasModifier (p.lead.map String.toList) "readonly") = p.form.hasSetter := by
  have hall : ∀ v ∈ ["readonly", "writeonly"], ∀ w ∈ "Shared" :: accessWords,
      Text.sameIgnoringCase w.toList v.toList = false := by
    decide
  -- Only the words of the form can be `ReadOnly` or `WriteOnly`: no access and no `Shared` is.
  have hlead : ∀ v ∈ ["readonly", "writeonly"], hasModifier (p.lead.map String.toList) v =
      hasModifier (p.form.lead.map String.toList) v := by
    intro v hv
    have hshared := hall v hv "Shared" List.mem_cons_self
    have hvisibility : hasModifier (p.visibility.lead.map String.toList) v = false :=
      hasModifier_eq_false fun w hw =>
        hall v hv w (List.mem_cons_of_mem _ (mem_accessWords p.visibility w hw))
    rw [hasModifier_lead, hvisibility, hshared, Bool.and_false, Bool.false_or, Bool.false_or]
  rw [hlead "readonly" (by decide), hlead "writeonly" (by decide)]
  cases p.form <;> decide

/-- What stands behind the words of the line of a property. -/
def propertyTail (p : PropertyDraft) : List Char :=
  p.name.1 ++ ' ' :: (wordText ["As"] ++ p.type.1.text .round)

/-- The line of a property, with its words in two parts. -/
theorem line_eq (p : PropertyDraft) {mods ws : List String}
    (h : p.lead ++ ["Property"] = mods ++ ws) :
    p.line = wordText mods ++ (wordText ws ++ propertyTail p) := by
  rw [← wordText_append, ← h, wordText_append]
  rfl

/-- The line of a property begins with a word for access. -/
theorem exists_access_word (p : PropertyDraft) :
    ∃ w ws, p.line = wordText (w :: ws) ++ propertyTail p ∧ w ∈ accessWords := by
  have hwords : ∃ w ws, p.lead ++ ["Property"] = [] ++ w :: ws ∧ w ∈ accessWords := by
    unfold PropertyDraft.lead
    cases p.visibility <;> exact ⟨_, _, rfl, by decide⟩
  obtain ⟨w, ws, hwords, hw⟩ := hwords
  exact ⟨w, ws, line_eq p hwords, hw⟩

/-- Behind the words that a type can have too comes one that it cannot have. -/
theorem exists_form_word (p : PropertyDraft) :
    ∃ mods w ws, p.line = wordText mods ++ (wordText (w :: ws) ++ propertyTail p) ∧
      (∀ m ∈ mods, hasWord typeModifiers m = true) ∧ lacksWord typeModifiers w = true ∧
      lacksWord typeWords w = true := by
  have hall : ∀ w ∈ "Property" :: formWords,
      lacksWord typeModifiers w = true ∧ lacksWord typeWords w = true := by
    decide
  have hmodifiers : ∀ m ∈ "Shared" :: accessWords, hasWord typeModifiers m = true := by
    decide
  have hmods : ∀ m ∈ p.visibility.lead ++ (if p.isShared then ["Shared"] else []),
      m ∈ "Shared" :: accessWords := by
    cases p.visibility <;> cases p.isShared <;> decide
  have hsplit : p.lead ++ ["Property"] =
      (p.visibility.lead ++ if p.isShared then ["Shared"] else []) ++
        (p.form.lead ++ ["Property"]) := by
    simp only [PropertyDraft.lead, List.append_assoc]
  -- A form without a word of its own leaves `Property` itself, which no type can have either.
  have hform : ∃ w ws, p.form.lead ++ ["Property"] = w :: ws ∧ w ∈ "Property" :: formWords := by
    cases p.form <;> exact ⟨_, _, rfl, by decide⟩
  obtain ⟨w, ws, hform, hw⟩ := hform
  rw [hform] at hsplit
  exact ⟨_, w, ws, line_eq p hsplit, fun m hm => hmodifiers m (hmods m hm), hall w hw⟩

/-- Behind the words that an accessor can have too comes one that it cannot have. -/
theorem exists_shared_word (p : PropertyDraft) :
    ∃ mods w ws, p.line = wordText mods ++ (wordText (w :: ws) ++ propertyTail p) ∧
      (∀ m ∈ mods, hasWord accessorModifiers m = true) ∧ lacksWord accessorModifiers w = true ∧
      lacksWord ["get", "set"] w = true := by
  have hall : ∀ w ∈ "Shared" :: "Property" :: formWords,
      lacksWord accessorModifiers w = true ∧ lacksWord ["get", "set"] w = true := by
    decide
  have hmodifiers : ∀ m ∈ accessWords, hasWord accessorModifiers m = true := by decide
  have hwords : ∃ w ws, p.lead ++ ["Property"] = p.visibility.lead ++ w :: ws ∧
      w ∈ "Shared" :: "Property" :: formWords := by
    rw [PropertyDraft.lead, List.append_assoc]
    cases p.isShared <;> cases p.form <;> exact ⟨_, _, rfl, by decide⟩
  obtain ⟨w, ws, hwords, hw⟩ := hwords
  exact ⟨_, w, ws, line_eq p hwords,
    fun m hm => hmodifiers m (mem_accessWords p.visibility m hm), hall w hw⟩

/-- The line of a property and the lines of its body are read as the property. -/
theorem readProperty_draft (p : PropertyDraft) {kind : TypeKind}
    (hkind : kind = .class ∨ kind = .struct) {ls : List Line}
    (hls : ls.map (·.text) = p.form.lines depth) (hrest : Quiet rest) :
    readProperty ⟨p.lead.map String.toList, p.name.1, some ⟨false, p.type.1.text .round⟩⟩
        kind line (ls ++ rest) =
      (p.toProperty .visualBasic, spanOver line (ls ++ rest) ls.length, ls.length) := by
  have haccessors := lead_accessors p
  have htype : propertyType false (p.type.1.text .round) = p.type.1.text .round :=
    propertyType_text (isCode_text p.type).plain
  have hsome : (p.type.1.text .round).isEmpty = false :=
    List.isEmpty_eq_false_iff.2 (p.type.1.text_ne_nil .round)
  have hinterface : (kind == .interface) = false := by rcases hkind with rfl | rfl <;> rfl
  have hmodule : (kind == .module) = false := by rcases hkind with rfl | rfl <;> rfl
  unfold readProperty
  simp only [htype, hsome, hinterface, hmodule, hasModifier_mustOverride, hasModifier_shared,
    accessOf_lead, Bool.false_or, Bool.false_eq_true, if_false]
  cases hbody : p.form.hasBody with
  | true =>
    -- The lines of the body show the accessors.
    rw [hbody, if_pos rfl] at haccessors
    simp only [accessorsAfter?_formLines hbody hls, haccessors]
    rfl
  | false =>
    -- There are no such lines, and the next line opens no accessor: the words decide.
    rw [hbody] at haccessors
    obtain ⟨hgetter, hsetter⟩ := haccessors
    rw [PropertyForm.lines, hbody] at hls
    obtain rfl := List.map_eq_nil_iff.1 hls
    simp only [List.nil_append, hrest.accessorsAfter?, hgetter, hsetter]
    rfl

theorem isSkipped_propertyLine (p : PropertyDraft) : isSkipped p.line = false := by
  obtain ⟨w, ws, hline, hw⟩ := exists_access_word p
  have hall : ∀ w ∈ accessWords, w ∈ ownWords ∧ 4 ≤ w.toList.length := by decide
  rw [hline]
  exact isSkipped_wordText (hall w hw).1 (hall w hw).2 ws _

/-- The line of a property, before the lines of its body, is read as the property. -/
theorem readLine_property {frame : Frame} {p : PropertyDraft}
    (hkind : frame.declared.decl.kind = .class ∨ frame.declared.decl.kind = .struct)
    (hline : line.text = indented depth p.line) {ls : List Line}
    (hls : ls.map (·.text) = p.form.lines depth) (hrest : Quiet rest) :
    readLine line (ls ++ rest) (r.withFrame frame) =
      ((r.withFrame frame).change
        (·.addProperty (p.toProperty .visualBasic) (spanOver line (ls ++ rest) ls.length)),
        ls.length) := by
  obtain ⟨w, ws, hwords, hw⟩ := exists_access_word p
  have hall : ∀ w ∈ accessWords,
      beginsDeclaration w = true ∧ lacksWord ["inherits", "implements"] w = true := by
    decide
  obtain ⟨hbegins, hbase⟩ := hall w hw
  obtain ⟨hnamespace, hends, hend⟩ := wordText_passes hbegins ws (propertyTail p)
  rw [← hwords] at hnamespace hends hend
  -- A type could begin with the same words, up to the one that it cannot have.
  have hheader : typeHeader? p.line = none := by
    obtain ⟨mods, v, vs, hsplit, hmods, hmodifier, htype⟩ := exists_form_word p
    rw [hsplit]
    exact typeHeader?_wordText_eq_none hmods hmodifier htype vs _
  have hbases : baseText? p.line = none := by
    rw [hwords]
    exact baseText?_wordText_eq_none hbase ws _
  have hproperty : propertyHeader? p.line =
      some ⟨p.lead.map String.toList, p.name.1, some ⟨false, p.type.1.text .round⟩⟩ := by
    have hcode := isCode_text p.type
    exact propertyHeader?_wordText (lead_words p) p.name.2.letters p.name.2.ne_nil hcode.first
      (annotation?_eq_some (spacesBehind_spaced _) hcode.plain (p.type.1.text_ne_nil .round))
  have hnotEnum : frame.declared.decl.kind ≠ .enum := by
    rcases hkind with hkind | hkind <;> rw [hkind] <;> exact TypeKind.noConfusion
  rw [readLine_inside hline (isCode_propertyLine p) (isSkipped_propertyLine p) hnamespace hends
    hheader hend, readMember, if_neg hnotEnum, baseText?_indented, hbases, propertyHeader?_indented,
    hproperty]
  simp only [readProperty_draft p hkind hls hrest]

/-! ## Lines that show a property without a body -/

theorem quiet_cons {cs : List Char} (hline : line.text = indented depth cs) (hcode : IsCode cs)
    (hskip : isSkipped cs = false) (hnone : accessorHeader? cs = none) : Quiet (line :: rest) := by
  refine ⟨line, rest, rfl, ?_, ?_⟩
  · rw [hline, isSkipped_indented, hskip]
  · rw [hline, code_indented hcode, accessorHeader?_indented, hnone]

theorem quiet_end {word : String} (hword : word ∈ draftWords)
    (hline : line.text = indented depth (endLine word)) : Quiet (line :: rest) := by
  have hall : ∀ w ∈ draftWords, w ∈ ownWords ∧ isSkipped (endLine w) = false ∧
      (accessorHeader? (endLine w)).isNone := by
    decide
  obtain ⟨hown, hskip, hnone⟩ := hall word hword
  exact quiet_cons hline (isCode_endLine hown) hskip (Option.isNone_iff_eq_none.1 hnone)

theorem quiet_opening {word : String} (hword : word ∈ draftWords) {name : Identifier}
    {parameters : List Identifier}
    (hline : line.text = indented depth (openingLine word name parameters)) :
    Quiet (line :: rest) := by
  obtain ⟨hown, -, -, hmodifier, hnone⟩ := draftWord_facts hword
  have hpublic : ∀ m ∈ ["Public"], hasWord accessorModifiers m = true := by decide
  exact quiet_cons hline (isCode_openingLine hown name parameters)
    (isSkipped_openingLine word name parameters)
    (accessorHeader?_wordText_eq_none hpublic hmodifier hnone [] _)

theorem quiet_property {p : PropertyDraft} (hline : line.text = indented depth p.line) :
    Quiet (line :: rest) := by
  obtain ⟨mods, w, ws, hsplit, hmods, hmodifier, hnone⟩ := exists_shared_word p
  refine quiet_cons hline (isCode_propertyLine p) (isSkipped_propertyLine p) ?_
  rw [hsplit]
  exact accessorHeader?_wordText_eq_none hmods hmodifier hnone ws _

/-- The lines of a body are such lines if those behind it are. -/
theorem quiet_bodyDraft {b : BodyDraft} {ls : List Line} (hls : ls.map (·.text) = b.lines depth)
    (hrest : Quiet rest) : Quiet (ls ++ rest) := by
  cases b with
  | done =>
    obtain rfl := List.map_eq_nil_iff.1 hls
    exact hrest
  | property p more =>
    obtain ⟨first, ls, rfl, hfirst, -⟩ := List.map_eq_cons_iff.1 hls
    exact quiet_property hfirst
  | nested t more =>
    cases t with
    | enum name members =>
      obtain ⟨first, ls, rfl, hfirst, -⟩ := List.map_eq_cons_iff.1 hls
      exact quiet_opening (by decide) hfirst
    | type head body =>
      obtain ⟨first, ls, rfl, hfirst, -⟩ := List.map_eq_cons_iff.1 hls
      exact quiet_opening (mem_draftWords_word head) hfirst

end ViewForge.VisualBasic
