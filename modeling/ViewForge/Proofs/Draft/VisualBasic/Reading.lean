import ViewForge.Proofs.Draft.VisualBasic.Lines

/-!
# Drafts read in Visual Basic

Inside a type the lines of its body change the innermost open type only (`readsBody_bodyDraft`),
the lines of a whole type add it to what is closed, with the types inside it (`readsAs_typeDraft`),
and so a document declares what its draft does (`outline_fileDraft`).
-/

namespace ViewForge.VisualBasic

variable {depth : Nat} {ls more : List Line} {r : Reading}

/-- Lines that belong to a construct that was read before are passed over. -/
theorem readLines_length (ls more : List Line) (r : Reading) :
    readLines ls.length (ls ++ more) r = readLines 0 more r := by
  induction ls with
  | nil => rfl
  | cons line ls ih => exact ih

/-- A line that takes no further one is read before the others. -/
theorem readLines_cons {line : Line} {r' : Reading} (h : readLine line more r = (r', 0)) :
    readLines 0 (line :: more) r = readLines 0 more r' := by
  rw [readLines, h]

/-! ## The innermost open type -/

/-- Changes what an open type declares. -/
def Frame.change (f : TypeDecl → TypeDecl) (frame : Frame) : Frame :=
  { frame with declared := { frame.declared with decl := f frame.declared.decl } }

/-- The lines of base types add them. -/
theorem readLines_bases {bs : List BaseLine} {frame : Frame}
    (hkind : frame.declared.decl.kind ≠ .enum)
    (hls : ls.map (·.text) = bs.map fun b => indented depth b.line) :
    readLines 0 (ls ++ more) (r.withFrame frame) =
      readLines 0 more (r.withFrame (frame.change fun d =>
        { d with bases := d.bases ++ (bs.flatMap BaseLine.types).map (·.text .visualBasic) })) := by
  induction bs generalizing ls frame with
  | nil =>
    obtain rfl := List.map_eq_nil_iff.1 hls
    simp only [List.flatMap_nil, List.map_nil, List.append_nil]
    rfl
  | cons b bs ih =>
    obtain ⟨line, ls, rfl, hline, hmore⟩ := List.map_eq_cons_iff.1 hls
    rw [List.cons_append, readLines_cons (readLine_base hkind hline), List.flatMap_cons,
      List.map_append]
    simp only [← List.append_assoc]
    exact @ih ls (frame.change fun d =>
      { d with bases := d.bases ++ b.types.map (·.text .visualBasic) }) hkind hmore

/-- The lines of an enumeration add its members. -/
theorem readLines_members {ms : List Identifier} {frame : Frame}
    (hkind : frame.declared.decl.kind = .enum)
    (hls : ls.map (·.text) = ms.map fun m => indented depth m.1) :
    readLines 0 (ls ++ more) (r.withFrame frame) =
      readLines 0 more (r.withFrame (frame.change fun d =>
        { d with members := d.members ++ ms.map (·.text) })) := by
  induction ms generalizing ls frame with
  | nil =>
    obtain rfl := List.map_eq_nil_iff.1 hls
    simp only [List.map_nil, List.append_nil]
    rfl
  | cons m ms ih =>
    obtain ⟨line, ls, rfl, hline, hmore⟩ := List.map_eq_cons_iff.1 hls
    have hassoc (members : List String) : members ++ (m :: ms).map (·.text) =
        (members ++ [m.text]) ++ ms.map (·.text) := by
      rw [List.append_assoc]
      rfl
    rw [List.cons_append, readLines_cons (readLine_member hkind hline)]
    simp only [hassoc]
    exact @ih ls (frame.change fun d => { d with members := d.members ++ [m.text] }) hkind hmore

/-! ## Types -/

theorem kindOf_word (head : TypeHead) : kindOf head.word.toList = head.kind := by
  unfold TypeHead.word TypeHead.kind
  cases head.isStructure <;> decide +kernel

/-- The line that opens a type opens it with its name, scope, kind and parameters. -/
theorem readLines_opening {word : String} (hword : word ∈ draftWords) {name : Identifier}
    {parameters : List Identifier} {line : Line}
    (hline : line.text = indented depth (openingLine word name parameters)) :
    readLines 0 (line :: more) r = readLines 0 more (r.withFrame
      { declared := {
          decl := { name := name.text, scope := r.scope, kind := kindOf word.toList
                    parameters := parameters.map (·.text), ignoresCase := true }
          span := line.span } }) := by
  rw [readLines_cons (readLine_opening hword hline)]
  unfold openType
  simp only [typeParameterText?_parameterText, List.map_map]
  rfl

/-- The line that ends it puts it among the closed types. -/
theorem readLines_end {word : String} (hword : word ∈ draftWords) {frame : Frame} {line : Line}
    (hline : line.text = indented depth (endLine word)) :
    ∃ t, t.decl = frame.declared.decl ∧
      readLines 0 (line :: more) (r.withFrame frame) =
        readLines 0 more (r.addClosed (t :: frame.nested)) := by
  rw [readLines_cons (readLine_end hword hline)]
  exact ⟨{ frame.declared with span := { frame.declared.span with stop := line.span.stop } }, rfl,
    rfl⟩

/-- The lines of an enumeration add it to what is closed. -/
theorem readLines_enum {name : Identifier} {members : List Identifier}
    (hls : ls.map (·.text) = (TypeDraft.enum name members).lines depth) :
    ∃ ts, readLines 0 (ls ++ more) r = readLines 0 more (r.addClosed ts) ∧
      ts.map (·.decl) = (TypeDraft.enum name members).decls .visualBasic r.scope := by
  obtain ⟨first, behind, rfl, hfirst, hbehind⟩ := List.map_eq_cons_iff.1 hls
  obtain ⟨inner, last, rfl, hinner, hlast⟩ := List.map_eq_append_iff.1 hbehind
  obtain ⟨final, nothing, rfl, hfinal, hnothing⟩ := List.map_eq_cons_iff.1 hlast
  obtain rfl := List.map_eq_nil_iff.1 hnothing
  have hkind : kindOf "Enum".toList = .enum := by decide +kernel
  rw [List.cons_append, readLines_opening (by decide) hfirst, List.append_assoc,
    List.singleton_append, readLines_members hkind hinner]
  obtain ⟨t, ht, hclosed⟩ := readLines_end (by decide) hfinal
  refine ⟨_, hclosed, ?_⟩
  rw [List.map_cons, ht]
  simp only [Frame.change, hkind]
  rfl

/-- Whether lines, before others, change an open type into one with the properties and types of a
body. -/
def ReadsBody (b : BodyDraft) (ls more : List Line) : Prop :=
  ∀ (r : Reading) (frame : Frame),
    frame.declared.decl.kind = .class ∨ frame.declared.decl.kind = .struct →
    ∃ frame', readLines 0 (ls ++ more) (r.withFrame frame) = readLines 0 more (r.withFrame frame') ∧
      frame'.declared.decl = { frame.declared.decl with
        properties := frame.declared.decl.properties ++ b.properties .visualBasic } ∧
      frame'.nested.map (·.decl) = frame.nested.map (·.decl) ++
        b.decls .visualBasic (within r.scope frame.declared.decl.name)

/-- Whether lines add to what is closed the types that a draft declares. -/
def ReadsAs (t : TypeDraft) (ls : List Line) : Prop :=
  ∀ (r : Reading) (more : List Line),
    ∃ ts, readLines 0 (ls ++ more) r = readLines 0 more (r.addClosed ts) ∧
      ts.map (·.decl) = t.decls .visualBasic r.scope

/-- The lines before the body of a class or structure open it with its base types. -/
theorem readLines_head {head : TypeHead} {first : Line} {bases : List Line}
    (hfirst : first.text = indented depth (openingLine head.word head.name head.parameters))
    (hbases : bases.map (·.text) = head.bases.map fun b => indented (depth + 1) b.line) :
    readLines 0 (first :: (bases ++ more)) r = readLines 0 more (r.withFrame
      { declared := { decl := head.toDecl .visualBasic r.scope [], span := first.span } }) := by
  have hkind : kindOf head.word.toList ≠ .enum := by
    rw [kindOf_word]
    exact head.kind_ne (by decide) (by decide)
  rw [readLines_opening (mem_draftWords_word head) hfirst, readLines_bases hkind hbases]
  simp only [Frame.change, kindOf_word]
  rfl

/-- The lines of a class or structure, given those of its body. -/
theorem readsAs_type {head : TypeHead} {body : BodyDraft}
    (hbody : ∀ {inner more : List Line}, inner.map (·.text) = body.lines (depth + 1) → Quiet more →
      ReadsBody body inner more)
    (hls : ls.map (·.text) = (TypeDraft.type head body).lines depth) :
    ReadsAs (.type head body) ls := by
  intro r more
  -- The line that opens the type, its base types, its body and the line that ends it.
  obtain ⟨first, behind, rfl, hfirst, hbehind⟩ := List.map_eq_cons_iff.1 hls
  obtain ⟨bases, behind, rfl, hbases, hbehind⟩ := List.map_eq_append_iff.1 hbehind
  obtain ⟨inner, last, rfl, hinner, hlast⟩ := List.map_eq_append_iff.1 hbehind
  obtain ⟨final, nothing, rfl, hfinal, hnothing⟩ := List.map_eq_cons_iff.1 hlast
  obtain rfl := List.map_eq_nil_iff.1 hnothing
  have hword := mem_draftWords_word head
  obtain ⟨frame, hread, hdecl, hnested⟩ := hbody hinner (quiet_end hword hfinal) r
    { declared := { decl := head.toDecl .visualBasic r.scope [], span := first.span } }
    head.kind_eq_or
  obtain ⟨t, ht, hclosed⟩ := readLines_end hword hfinal
  refine ⟨t :: frame.nested, ?_, ?_⟩
  · calc readLines 0 (first :: (bases ++ (inner ++ [final])) ++ more) r
        = readLines 0 (first :: (bases ++ (inner ++ final :: more))) r := by
          rw [List.cons_append, List.append_assoc, List.append_assoc, List.singleton_append]
      _ = readLines 0 (inner ++ final :: more) (r.withFrame { declared := {
            decl := head.toDecl .visualBasic r.scope [], span := first.span } }) :=
          readLines_head hfirst hbases
      _ = readLines 0 (final :: more) (r.withFrame frame) := hread
      _ = readLines 0 more (r.addClosed (t :: frame.nested)) := hclosed
  · rw [List.map_cons, ht, hdecl, hnested]
    rfl

/-- A property before a body. -/
theorem readsBody_property {p : PropertyDraft} {b : BodyDraft} {first : Line}
    (hfirst : first.text = indented depth p.line) {body : List Line}
    (hbody : body.map (·.text) = p.form.lines depth) (hquiet : Quiet (ls ++ more))
    (hmore : ReadsBody b ls more) : ReadsBody (.property p b) (first :: (body ++ ls)) more := by
  intro r frame hkind
  let declared := frame.declared.addProperty (p.toProperty .visualBasic)
    (spanOver first (body ++ (ls ++ more)) body.length)
  obtain ⟨frame', hread, hdecl, hnested⟩ := hmore r { frame with declared } hkind
  -- The lines behind are a body or its end, so they show whether the property has one.
  have hfirst' : readLine first (body ++ (ls ++ more)) (r.withFrame frame) =
      (r.withFrame { frame with declared }, body.length) :=
    readLine_property hkind hfirst hbody hquiet
  refine ⟨frame', ?_, ?_, hnested⟩
  · calc readLines 0 (first :: (body ++ ls) ++ more) (r.withFrame frame)
        = readLines body.length (body ++ (ls ++ more)) (r.withFrame { frame with declared }) := by
          rw [List.cons_append, List.append_assoc, readLines, hfirst']
      _ = readLines 0 (ls ++ more) (r.withFrame { frame with declared }) :=
          readLines_length body (ls ++ more) _
      _ = readLines 0 more (r.withFrame frame') := hread
  · rw [hdecl, BodyDraft.properties]
    simp only [declared, DeclaredType.addProperty, List.append_assoc, List.singleton_append]

/-- A type before a body. -/
theorem readsBody_nested {t : TypeDraft} {b : BodyDraft} {inner : List Line} (ht : ReadsAs t inner)
    (hmore : ReadsBody b ls more) : ReadsBody (.nested t b) (inner ++ ls) more := by
  intro r frame hkind
  obtain ⟨ts, hclosed, hts⟩ := ht (r.withFrame frame) (ls ++ more)
  obtain ⟨frame', hread, hdecl, hnested⟩ :=
    hmore r { frame with nested := frame.nested ++ ts } hkind
  refine ⟨frame', ?_, hdecl, ?_⟩
  · calc readLines 0 (inner ++ ls ++ more) (r.withFrame frame)
        = readLines 0 (inner ++ (ls ++ more)) (r.withFrame frame) := by rw [List.append_assoc]
      _ = readLines 0 (ls ++ more) ((r.withFrame frame).addClosed ts) := hclosed
      _ = readLines 0 more (r.withFrame frame') := hread
  · rw [hnested, List.map_append, hts, Reading.scope_withFrame, List.append_assoc,
      BodyDraft.decls]

mutual

/-- The lines of a type add it, with the types inside it. -/
theorem readsAs_typeDraft : ∀ (depth : Nat) (t : TypeDraft) {ls : List Line},
    ls.map (·.text) = t.lines depth → ReadsAs t ls
  | _, .enum _ _, _, hls => fun _ _ => readLines_enum hls
  | depth, .type _ body, _, hls => readsAs_type (readsBody_bodyDraft (depth + 1) body) hls

/-- The lines of a body change the type that is open. -/
theorem readsBody_bodyDraft : ∀ (depth : Nat) (b : BodyDraft) {ls more : List Line},
    ls.map (·.text) = b.lines depth → Quiet more → ReadsBody b ls more
  | _, .done, ls, more, hls, _ => by
    intro r frame _
    obtain rfl := List.map_eq_nil_iff.1 hls
    refine ⟨frame, rfl, ?_, (List.append_nil _).symm⟩
    rw [BodyDraft.properties, List.append_nil]
  | depth, .property p b, ls, more, hls, hmore => by
    obtain ⟨first, behind, rfl, hfirst, hbehind⟩ := List.map_eq_cons_iff.1 hls
    obtain ⟨body, rest, rfl, hbody, hrest⟩ := List.map_eq_append_iff.1 hbehind
    exact readsBody_property hfirst hbody (quiet_bodyDraft hrest hmore)
      (readsBody_bodyDraft depth b hrest hmore)
  | depth, .nested t b, ls, more, hls, hmore => by
    obtain ⟨inner, behind, rfl, hinner, hbehind⟩ := List.map_eq_append_iff.1 hls
    exact readsBody_nested (readsAs_typeDraft depth t hinner)
      (readsBody_bodyDraft depth b hbehind hmore)

end

/-! ## Documents -/

/-- The names of a namespace as they are written together. -/
theorem ofList_joined (names : List Identifier) :
    String.ofList (['.'].intercalate (names.map (·.1))) = ".".intercalate (names.map (·.text)) := by
  rw [← String.toList_inj, String.toList_ofList, String.toList_intercalate, List.map_map]
  congr 1
  refine List.map_congr_left fun name _ => ?_
  exact String.toList_ofList.symm

/-- The lines of a document or namespace add its types to what is closed. -/
theorem readLines_fileDraft (f : FileDraft) (depth : Nat) (done : List DeclaredType)
    (namespaces : List String) {ls more : List Line} (hls : ls.map (·.text) = f.lines depth) :
    ∃ ts, readLines 0 (ls ++ more) ⟨done, [], namespaces⟩ =
        readLines 0 more ⟨done ++ ts, [], namespaces⟩ ∧
      ts.map (·.decl) = f.decls .visualBasic (CSharp.scopeOf namespaces.reverse) := by
  induction f generalizing depth done namespaces ls more with
  | done =>
    obtain rfl := List.map_eq_nil_iff.1 hls
    exact ⟨[], by rw [List.append_nil]; rfl, rfl⟩
  | type t f ih =>
    obtain ⟨first, behind, rfl, hfirst, hbehind⟩ := List.map_eq_append_iff.1 hls
    obtain ⟨ts, hread, hts⟩ := readsAs_typeDraft depth t hfirst ⟨done, [], namespaces⟩
      (behind ++ more)
    obtain ⟨us, hmore, hus⟩ := ih depth (done ++ ts) namespaces hbehind
    have hscope : (⟨done, [], namespaces⟩ : Reading).scope = CSharp.scopeOf namespaces.reverse :=
      congrArg CSharp.scopeOf (List.append_nil namespaces.reverse)
    refine ⟨ts ++ us, ?_, ?_⟩
    · calc readLines 0 (first ++ behind ++ more) ⟨done, [], namespaces⟩
          = readLines 0 (behind ++ more) ⟨done ++ ts, [], namespaces⟩ := by
            rw [List.append_assoc]
            exact hread
        _ = readLines 0 more ⟨done ++ (ts ++ us), [], namespaces⟩ := by
            rw [hmore, List.append_assoc]
    · rw [List.map_append, hts, hus, hscope, FileDraft.decls]
  | space lead last inner f ihinner ihmore =>
    obtain ⟨first, behind, rfl, hfirst, hbehind⟩ := List.map_eq_cons_iff.1 hls
    obtain ⟨body, behind, rfl, hbody, hbehind⟩ := List.map_eq_append_iff.1 hbehind
    obtain ⟨final, rest, rfl, hfinal, hrest⟩ := List.map_eq_cons_iff.1 hbehind
    have hnames : lead ++ [last] ≠ [] := by simp
    let joined := String.ofList (['.'].intercalate ((lead ++ [last]).map (·.1)))
    obtain ⟨ts, hread, hts⟩ := ihinner (depth + 1) done (joined :: namespaces) hbody
    obtain ⟨us, hmore, hus⟩ := ihmore depth (done ++ ts) namespaces hrest
    -- The scope holds the names of a namespace as one, the draft's scope one after the other.
    have hscope : CSharp.scopeOf (joined :: namespaces).reverse =
        (lead ++ [last]).foldl (fun scope name => within scope name.text)
          (CSharp.scopeOf namespaces.reverse) := by
      have hsome : (lead ++ [last]).map (·.text) ≠ [] := by simp
      have hjoined : joined = ".".intercalate ((lead ++ [last]).map (·.text)) := ofList_joined _
      rw [List.reverse_cons, scopeOf_append_singleton, hjoined,
        ← scopeOf_append namespaces.reverse hsome, scopeOf_append_eq_foldl]
    refine ⟨ts ++ us, ?_, ?_⟩
    · calc readLines 0 (first :: (body ++ final :: rest) ++ more) ⟨done, [], namespaces⟩
          = readLines 0 (body ++ final :: (rest ++ more)) ⟨done, [], joined :: namespaces⟩ := by
            rw [List.cons_append, readLines_cons (readLine_space hnames hfirst), List.append_assoc,
              List.cons_append]
        _ = readLines 0 (final :: (rest ++ more)) ⟨done ++ ts, [], joined :: namespaces⟩ := hread
        _ = readLines 0 (rest ++ more) ⟨done ++ ts, [], namespaces⟩ :=
            readLines_cons (readLine_endSpace hfinal)
        _ = readLines 0 more ⟨done ++ (ts ++ us), [], namespaces⟩ := by
            rw [hmore, List.append_assoc]
    · rw [List.map_append, hts, hus, hscope, FileDraft.decls]

/-- The types of a document written in Visual Basic are those that its draft declares. -/
theorem outline_fileDraft (f : FileDraft) :
    (outline ((f.lines 0).flatMap (· ++ ['\n']))).types.map (·.decl) =
      f.decls .visualBasic none := by
  have hls := texts_lines (plainLines_fileDraft 0 f)
  obtain ⟨ts, hread, hts⟩ := @readLines_fileDraft f 0 [] [] _ [] hls
  rw [List.append_nil] at hread
  rw [outline, hread]
  exact hts

end ViewForge.VisualBasic
