import ViewForge.Proofs.VisualBasic.Layout

/-!
# Where Visual Basic types come from

A line does little to the types of a document: it opens one, adds bases, members or a property to
the innermost open one, or says where this ends. What each of these keeps true of a single type
(`Invariant`) is therefore true of all types of the outline (`Invariant.of_mem_outline`). So each
type stands on a line that opens it and is declared as its header says
(`exists_header_of_mem_outline`), and each of its properties is what is read on the line that it
begins on (`isReadFrom_of_placed`).
-/

namespace ViewForge.VisualBasic

/-- The type parameters that a header lists. -/
def TypeHeader.parameterNames (header : TypeHeader) : List String :=
  ((header.parameters.map splitList).getD []).map String.ofList

/-- The declaration that a header makes, before the lines behind it are read. -/
def TypeHeader.decl (header : TypeHeader) (scope : Option String) : TypeDecl where
  name := String.ofList header.name
  scope := scope
  kind := kindOf header.word
  parameters := header.parameterNames
  ignoresCase := true

/-- What holds of a type when a line of a document opens it, and is kept by all that further lines
do to it. -/
structure Invariant (all : List Line) (p : DeclaredType → Prop) : Prop where
  /-- A line opens a type. -/
  opened {line : Line} {header : TypeHeader} (hline : line ∈ all)
    (hskip : isSkipped line.text = false) (hheader : typeHeader? (code line.text) = some header)
    (scope : Option String) : p { decl := header.decl scope, span := line.span }
  /-- A type ends. -/
  ending {t : DeclaredType} (h : p t) (stop : Nat) : p (t.endingAt stop)
  /-- A line adds base types. -/
  bases {t : DeclaredType} (h : p t) (bases : List String) :
    p { t with decl := { t.decl with bases } }
  /-- A line adds a member of an enumeration. -/
  members {t : DeclaredType} (h : p t) (members : List String) :
    p { t with decl := { t.decl with members } }
  /-- A property begins on a line. -/
  property {t : DeclaredType} (h : p t) {before rest : List Line} {line : Line}
    (hsplit : all = before ++ line :: rest) {header : PropertyHeader}
    (hheader : propertyHeader? (code line.text) = some header) :
    p (t.addProperty (readProperty header t.decl.kind line rest).1
      (readProperty header t.decl.kind line rest).2.1)
  /-- Another member is added. -/
  member {t : DeclaredType} (h : p t) (span : Span) : p (t.addMember span)

/-- All types that are read, closed or open, have a property. -/
structure Reading.Every (p : DeclaredType → Prop) (r : Reading) : Prop where
  /-- The closed types outside every open one. -/
  done : ∀ t ∈ r.done, p t
  /-- The open types. -/
  declared : ∀ frame ∈ r.opened, p frame.declared
  /-- The closed types inside the open ones. -/
  nested : ∀ frame ∈ r.opened, ∀ t ∈ frame.nested, p t

section Steps

variable {all : List Line} {p : DeclaredType → Prop} {r : Reading}

/-- Closed types that have the property are put behind others. -/
theorem Reading.Every.addClosed (h : r.Every p) {ts : List DeclaredType} (hts : ∀ t ∈ ts, p t) :
    (r.addClosed ts).Every p := by
  unfold Reading.addClosed
  split
  · exact ⟨List.forall_mem_append.2 ⟨h.done, hts⟩, h.declared, h.nested⟩
  · rename_i frame outer hopened
    obtain ⟨hdone, hdeclared, hnested⟩ := h
    rw [hopened] at hdeclared hnested
    obtain ⟨hframe, houter⟩ := List.forall_mem_cons.1 hdeclared
    obtain ⟨hinside, hothers⟩ := List.forall_mem_cons.1 hnested
    exact ⟨hdone, List.forall_mem_cons.2 ⟨hframe, houter⟩,
      List.forall_mem_cons.2 ⟨List.forall_mem_append.2 ⟨hinside, hts⟩, hothers⟩⟩

/-- The innermost open type is closed. -/
theorem Reading.Every.close (hp : Invariant all p) (h : r.Every p) (stop : Nat) :
    (r.close stop).Every p := by
  unfold Reading.close
  split
  · exact h
  · rename_i frame outer hopened
    obtain ⟨hdone, hdeclared, hnested⟩ := h
    rw [hopened] at hdeclared hnested
    obtain ⟨hframe, houter⟩ := List.forall_mem_cons.1 hdeclared
    obtain ⟨hinside, hothers⟩ := List.forall_mem_cons.1 hnested
    have hrest : ({ r with opened := outer } : Reading).Every p := ⟨hdone, houter, hothers⟩
    exact hrest.addClosed (List.forall_mem_cons.2 ⟨hp.ending hframe stop, hinside⟩)

/-- The innermost open type is changed. -/
theorem Reading.Every.change (h : r.Every p) {f : DeclaredType → DeclaredType}
    (hf : ∀ frame ∈ r.opened.head?, p frame.declared → p (f frame.declared)) :
    (r.change f).Every p := by
  unfold Reading.change
  split
  · exact h
  · rename_i frame outer hopened
    obtain ⟨hdone, hdeclared, hnested⟩ := h
    rw [hopened] at hdeclared hnested hf
    obtain ⟨hframe, houter⟩ := List.forall_mem_cons.1 hdeclared
    exact ⟨hdone, List.forall_mem_cons.2 ⟨hf frame rfl hframe, houter⟩,
      List.forall_mem_cons.2 (List.forall_mem_cons.1 hnested)⟩

/-- A construct inside the innermost open type is read. -/
theorem readMember_every (hp : Invariant all p) (h : r.Every p) {before rest : List Line}
    {line : Line} (hsplit : all = before ++ line :: rest) {frame : Frame} {outer : List Frame}
    (hopened : r.opened = frame :: outer) :
    (readMember frame.declared.decl.kind (code line.text) line rest r).1.Every p := by
  have hchange {f : DeclaredType → DeclaredType} (count : Nat)
      (hf : p frame.declared → p (f frame.declared)) : (r.change f, count).1.Every p := by
    refine h.change fun frame' hframe' => ?_
    rw [hopened] at hframe'
    exact Option.some.inj hframe' ▸ hf
  unfold readMember
  dsimp only
  split
  · split
    · exact hchange _ fun ht => hp.members ht _
    · exact h
  split
  · exact hchange _ fun ht => hp.bases ht _
  split
  · rename_i header hheader
    -- The property is read for the kind of the type that it is added to.
    exact hchange _ fun ht => hp.property ht hsplit hheader
  split
  · exact hchange _ fun ht => hp.member ht _
  split
  · exact hchange _ fun ht => hp.member ht _
  · exact h

/-- A construct is read. -/
theorem readLine_every (hp : Invariant all p) (h : r.Every p) {before rest : List Line}
    {line : Line} (hsplit : all = before ++ line :: rest) : (readLine line rest r).1.Every p := by
  have hline : line ∈ all := hsplit ▸ List.mem_append_right _ List.mem_cons_self
  -- Only the branch that opens a type brings in one that was not there; the others end the
  -- innermost or hand it on to its members.
  unfold readLine
  split
  · exact h
  rename_i hskip
  dsimp only
  split
  · exact ⟨h.done, h.declared, h.nested⟩
  split
  · exact ⟨h.done, h.declared, h.nested⟩
  split
  · rename_i header hheader
    have hopened := hp.opened hline (Bool.eq_false_iff.2 hskip) hheader r.scope
    exact ⟨h.done, List.forall_mem_cons.2 ⟨hopened, h.declared⟩,
      List.forall_mem_cons.2 ⟨List.forall_mem_nil _, h.nested⟩⟩
  split
  · exact h.close hp _
  split
  · exact h
  · rename_i frame outer hopened
    exact readMember_every hp h hsplit hopened

/-- The lines of a document are read to the end. -/
theorem readLines_every (hp : Invariant all p) (ls : List Line) (skip : Nat) {before : List Line}
    (hsplit : all = before ++ ls) (h : r.Every p) : (readLines skip ls r).Every p := by
  induction ls generalizing skip before r with
  | nil => cases skip <;> exact h
  | cons line rest ih =>
    have hnext : all = before ++ [line] ++ rest := by rw [hsplit, List.append_assoc]; rfl
    cases skip with
    | succ skip => exact ih skip hnext h
    | zero => exact ih _ hnext (readLine_every hp h hsplit)

end Steps

/-! ## Documents -/

/-- What lines keep true of a type is true of all types of a document. -/
theorem Invariant.of_mem_outline {source : List Char} {p : DeclaredType → Prop}
    (hp : Invariant (lines source) p) : ∀ t ∈ (outline source).types, p t := by
  have hread : (readLines 0 (lines source) {}).Every p :=
    readLines_every hp (lines source) 0 (List.nil_append _).symm
      ⟨List.forall_mem_nil _, List.forall_mem_nil _, List.forall_mem_nil _⟩
  rw [types_outline]
  unfold Reading.typesAt
  simp only [List.mem_append, List.mem_flatMap, List.mem_reverse, List.mem_cons]
  rintro t (ht | ⟨frame, hframe, rfl | ht⟩)
  · exact hread.done t ht
  · exact hp.ending (hread.declared frame hframe) _
  · exact hread.nested frame hframe t ht

/-- A type is declared as the header on a line says. -/
structure DeclaredBy (line : Line) (header : TypeHeader) (t : DeclaredType) : Prop where
  /-- It begins with the line. -/
  start : t.span.start = line.span.start
  /-- It has the name of the header. -/
  name : t.decl.name = String.ofList header.name
  /-- It is of the kind that the word stands for. -/
  kind : t.decl.kind = kindOf header.word
  /-- It has the type parameters of the header. -/
  parameters : t.decl.parameters = header.parameterNames

/-- Every type begins on a line that opens it. -/
theorem exists_header_of_mem_outline (source : List Char) :
    ∀ t ∈ (outline source).types, ∃ line ∈ lines source, ∃ header,
      isSkipped line.text = false ∧ typeHeader? (code line.text) = some header ∧
        DeclaredBy line header t := by
  -- Nothing behind the line of the header changes what the header says.
  refine Invariant.of_mem_outline ⟨fun hline hskip hheader _ => ?_, ?_, ?_, ?_, ?_, ?_⟩
  case refine_1 => exact ⟨_, hline, _, hskip, hheader, rfl, rfl, rfl, rfl⟩
  all_goals rintro t ⟨line, hline, header, hskip, hheader, h⟩
  all_goals
    intros
    exact ⟨line, hline, header, hskip, hheader, h.start, h.name, h.kind, h.parameters⟩

/-- A type that begins on a line is declared as the header there says. -/
theorem declaredBy_of_start {source : List Char} {line : Line} (hline : line ∈ lines source)
    {header : TypeHeader} (hheader : typeHeader? (code line.text) = some header) :
    ∀ t ∈ (outline source).types, t.span.start = line.span.start → DeclaredBy line header t := by
  intro t ht hstart
  obtain ⟨line', hline', header', -, hheader', h⟩ := exists_header_of_mem_outline source t ht
  obtain rfl := (linesIn_lines source).eq_of_start hline hline' (hstart.symm.trans h.start)
  obtain rfl := Option.some.inj (hheader.symm.trans hheader')
  exact h

/-- A property and its place are what is read on a line of a document, in a type of a kind. -/
def IsReadFrom (ls : List Line) (kind : TypeKind) (p : PlacedProperty) : Prop :=
  ∃ before line rest header, ls = before ++ line :: rest ∧
    propertyHeader? (code line.text) = some header ∧
    p.toProperty = (readProperty header kind line rest).1 ∧
    p.span = (readProperty header kind line rest).2.1

/-- Every property of a type is what is read on the line that it begins on. -/
theorem isReadFrom_of_placed (source : List Char) :
    ∀ t ∈ (outline source).types, ∀ p ∈ t.placed, IsReadFrom (lines source) t.decl.kind p := by
  -- The places are those of the properties as long as they are as many.
  have hinvariant : Invariant (lines source) fun t =>
      t.decl.properties.length = t.propertySpans.length ∧
        ∀ p ∈ t.placed, IsReadFrom (lines source) t.decl.kind p := by
    refine ⟨fun _ _ _ _ => ⟨rfl, fun _ hp => nomatch hp⟩, fun h _ => h, fun h _ => h,
      fun h _ => h, ?_, fun h _ => h⟩
    rintro t ⟨hlength, hplaced⟩ before rest line hsplit header hheader
    refine ⟨by simp [DeclaredType.addProperty, hlength], fun p hp => ?_⟩
    rw [DeclaredType.placed_addProperty hlength, List.mem_append] at hp
    rcases hp with hp | hp
    · exact hplaced p hp
    · obtain rfl := List.mem_singleton.1 hp
      exact ⟨before, line, rest, header, hsplit, hheader, rfl, rfl⟩
  exact fun t ht => (hinvariant.of_mem_outline t ht).2

end ViewForge.VisualBasic
