import ViewForge.Proofs.Draft.Basic
import ViewForge.Proofs.VisualBasic.Header
import ViewForge.Proofs.VisualBasic.TypeText

/-!
# Drafts written in Visual Basic

A draft is written in Visual Basic as lines, one declaration on each, bodies up to a line that ends
them (`FileDraft.lines`). Every line is plain text (`plain_fileDraft`), so the lines are found again
in the text that they make.
-/

namespace ViewForge

open VisualBasic (indented listed wordText)

/-! ## Writing -/

/-- The line that ends a construct. -/
def endLine (word : String) : List Char := wordText ["End"] ++ word.toList

/-- The words of a visibility in Visual Basic. -/
def Visibility.lead : Visibility → List String
  | everywhere => ["Public"]
  | derived => ["Protected"]
  | assembly => ["Friend"]
  | derivedOrAssembly => ["Protected", "Friend"]
  | derivedInAssembly => ["Private", "Protected"]
  | inside => ["Private"]

/-- The words before a property that say which of its accessors is missing. -/
def PropertyForm.lead : PropertyForm → List String
  | auto | getSet | getPrivateSet => []
  | readOnlyAuto | getOnly => ["ReadOnly"]
  | setOnly => ["WriteOnly"]

/-- The modifiers of a property in Visual Basic. -/
def PropertyDraft.lead (p : PropertyDraft) : List String :=
  p.visibility.lead ++ ((if p.isShared then ["Shared"] else []) ++ p.form.lead)

/-- The line of a property. -/
def PropertyDraft.line (p : PropertyDraft) : List Char :=
  wordText p.lead ++ (wordText ["Property"] ++ (p.name.1 ++
    ' ' :: (wordText ["As"] ++ p.type.1.text .round)))

/-- The lines of a getter. -/
def getterLines (depth : Nat) : List (List Char) :=
  [indented depth "Get".toList, indented (depth + 1) (wordText ["Return"] ++ "Nothing".toList),
   indented depth (endLine "Get")]

/-- The lines of a setter behind the words before it. -/
def setterLines (depth : Nat) (ws : List String) : List (List Char) :=
  [indented depth (wordText ws ++ "Set".toList), indented depth (endLine "Set")]

/-- The lines of the accessors of a form, if it has a body. -/
def PropertyForm.accessorLines (depth : Nat) : PropertyForm → List (List Char)
  | auto | readOnlyAuto => []
  | getSet => getterLines depth ++ setterLines depth []
  | getPrivateSet => getterLines depth ++ setterLines depth ["Private"]
  | getOnly => getterLines depth
  | setOnly => setterLines depth []

/-- Whether a property of a form has a body. -/
def PropertyForm.hasBody : PropertyForm → Bool
  | auto | readOnlyAuto => false
  | getSet | getPrivateSet | getOnly | setOnly => true

/-- The lines of a property behind its first. -/
def PropertyForm.lines (depth : Nat) (form : PropertyForm) : List (List Char) :=
  if form.hasBody then
    form.accessorLines (depth + 1) ++ [indented depth (endLine "Property")]
  else []

/-- The lines of a property. -/
def PropertyDraft.lines (depth : Nat) (p : PropertyDraft) : List (List Char) :=
  indented depth p.line :: p.form.lines depth

/-- The word for base types. -/
def BaseWord.word : BaseWord → String
  | inherits => "Inherits"
  | implements => "Implements"

/-- A line of base types. -/
def BaseLine.line (b : BaseLine) : List Char :=
  wordText [b.word.word] ++ listed (b.types.map fun t => t.1.text .round)

/-- The type parameters of a type. -/
def parameterText : List Identifier → List Char
  | [] => []
  | name :: names => '(' :: (wordText ["Of"] ++ (listed ((name :: names).map (·.1)) ++ [')']))

/-- The word for a class or structure. -/
def TypeHead.word (head : TypeHead) : String := if head.isStructure then "Structure" else "Class"

/-- The line that opens a type. -/
def openingLine (word : String) (name : Identifier) (parameters : List Identifier) : List Char :=
  wordText ["Public"] ++ (wordText [word] ++ (name.1 ++ parameterText parameters))

mutual

/-- The lines of a type. -/
def TypeDraft.lines (depth : Nat) : TypeDraft → List (List Char)
  | .enum name members =>
    indented depth (openingLine "Enum" name []) ::
      ((members.map fun m => indented (depth + 1) m.1) ++ [indented depth (endLine "Enum")])
  | .type head body =>
    indented depth (openingLine head.word head.name head.parameters) ::
      ((head.bases.map fun b => indented (depth + 1) b.line) ++
        (body.lines (depth + 1) ++ [indented depth (endLine head.word)]))

/-- The lines of a body. -/
def BodyDraft.lines (depth : Nat) : BodyDraft → List (List Char)
  | .done => []
  | .property p more => p.lines depth ++ more.lines depth
  | .nested t more => t.lines depth ++ more.lines depth

end

/-- The line that opens a namespace. -/
def spaceLine (names : List Identifier) : List Char :=
  wordText ["Namespace"] ++ ['.'].intercalate (names.map (·.1))

/-- The lines of a document or namespace. -/
def FileDraft.lines (depth : Nat) : FileDraft → List (List Char)
  | .done => []
  | .type t more => t.lines depth ++ more.lines depth
  | .space lead last inner more =>
    indented depth (spaceLine (lead ++ [last])) ::
      (inner.lines (depth + 1) ++ (indented depth (endLine "Namespace") :: more.lines depth))

namespace VisualBasic

/-! ## Written drafts are code -/

/-- The words that drafts are written with. -/
def ownWords : List String :=
  ["Public", "Protected", "Friend", "Private", "Shared", "ReadOnly", "WriteOnly", "Property",
   "Class", "Structure", "Enum", "Inherits", "Implements", "Namespace", "Get", "Set", "Return",
   "Nothing", "As", "Of", "End"]

/-- A word is code. -/
theorem isCode_of_isWord {cs : List Char} (hsome : cs ≠ []) (h : ∀ c ∈ cs, Text.isWord c = true) :
    IsCode cs where
  plain c hc := by
    rw [isPlain, h c hc]
    rfl
  first := ⟨_, List.head?_eq_some_head hsome,
    Text.isBlank_eq_false_of_isWord (h _ (List.head_mem hsome))⟩
  last := ⟨_, List.getLast?_eq_some_getLast hsome,
    Text.isBlank_eq_false_of_isWord (h _ (List.getLast_mem hsome))⟩

theorem isCode_identifier (name : Identifier) : IsCode name.1 :=
  isCode_of_isWord name.2.ne_nil name.2.letters

theorem isCode_ownWord {w : String} (h : w ∈ ownWords) : IsCode w.toList := by
  have hall : ∀ w ∈ ownWords, w.toList ≠ [] ∧ w.toList.all Text.isWord = true := by
    decide +kernel
  exact isCode_of_isWord (hall w h).1 (List.all_eq_true.1 (hall w h).2)

theorem isPlain_comma : ∀ c ∈ [',', ' '], isPlain c = true :=
  List.all_eq_true.1 (by decide)

/-- The text of a phrase is code. -/
theorem isCode_text (t : PhraseDraft) : IsCode (t.1.text .round) := by
  refine ⟨fun c hc => ?_, t.1.exists_first_text .round, t.1.exists_last_text .round⟩
  obtain ⟨p, hp, hmem⟩ := List.mem_flatMap.1 hc
  cases p with
  | word w =>
    rw [isPlain, (t.2 .round w hp).letters c hmem]
    rfl
  | of =>
    exact List.all_eq_true.1 (show ['O', 'f', ' '].all isPlain = true by decide) c hmem
  | comma =>
    exact isPlain_comma c hmem
  | mark d hd =>
    rw [List.mem_singleton.1 hmem, isPlain, hd, Bool.or_true]
    rfl

/-- Code with plain text between. -/
theorem IsCode.append {cs between ds : List Char} (hcs : IsCode cs)
    (hplain : ∀ c ∈ between, isPlain c = true) (hds : IsCode ds) :
    IsCode (cs ++ (between ++ ds)) := by
  obtain ⟨first, hfirst, hblank⟩ := hcs.first
  obtain ⟨last, hlast, hblank'⟩ := hds.last
  have hsome : cs ≠ [] := List.ne_nil_of_mem (List.mem_of_mem_head? hfirst)
  have hsome' : ds ≠ [] := List.ne_nil_of_mem (List.mem_of_getLast? hlast)
  refine ⟨?_, ⟨first, ?_, hblank⟩, ⟨last, ?_, hblank'⟩⟩
  · exact List.forall_mem_append.2 ⟨hcs.plain, List.forall_mem_append.2 ⟨hplain, hds.plain⟩⟩
  · rwa [List.head?_append_of_ne_nil _ hsome]
  · rwa [← List.append_assoc, List.getLast?_append_of_ne_nil _ hsome']

theorem IsCode.behind_words {ws : List String} {cs : List Char} (h : IsCode cs)
    (hws : ∀ w ∈ ws, w ∈ ownWords) : IsCode (wordText ws ++ cs) := by
  induction ws with
  | nil => exact h
  | cons w ws ih =>
    obtain ⟨hw, hws⟩ := List.forall_mem_cons.1 hws
    have htext : wordText (w :: ws) ++ cs = w.toList ++ ([' '] ++ (wordText ws ++ cs)) := by
      simp [wordText]
    rw [htext]
    exact (isCode_ownWord hw).append (List.forall_mem_singleton.2 rfl) (ih hws)

/-- Code with the same plain text between each two. -/
theorem isCode_intercalate {between t : List Char} {ts : List (List Char)}
    (hplain : ∀ c ∈ between, isPlain c = true) (h : ∀ u ∈ t :: ts, IsCode u) :
    IsCode (between.intercalate (t :: ts)) := by
  induction ts generalizing t with
  | nil =>
    rw [List.intercalate_singleton]
    exact h t List.mem_cons_self
  | cons u ts ih =>
    obtain ⟨ht, hts⟩ := List.forall_mem_cons.1 h
    rw [List.intercalate_cons_cons, List.append_assoc]
    exact ht.append hplain (ih hts)

/-- The words for access. -/
def accessWords : List String := ["Public", "Protected", "Friend", "Private"]

/-- The words for a missing accessor. -/
def formWords : List String := ["ReadOnly", "WriteOnly"]

theorem mem_accessWords (v : Visibility) : ∀ w ∈ v.lead, w ∈ accessWords := by
  cases v <;> decide

theorem mem_formWords (form : PropertyForm) : ∀ w ∈ form.lead, w ∈ formWords := by
  cases form <;> decide

/-- The words before a property. -/
theorem mem_leadWords (p : PropertyDraft) :
    ∀ w ∈ p.lead, w ∈ accessWords ++ ("Shared" :: formWords) := by
  have hshared : ∀ w ∈ if p.isShared then ["Shared"] else [], w ∈ "Shared" :: formWords := by
    cases p.isShared <;> decide
  refine List.forall_mem_append.2 ⟨fun w hw => ?_, List.forall_mem_append.2 ⟨fun w hw => ?_,
    fun w hw => ?_⟩⟩
  · exact List.mem_append_left _ (mem_accessWords p.visibility w hw)
  · exact List.mem_append_right _ (hshared w hw)
  · exact List.mem_append_right _ (List.mem_cons_of_mem _ (mem_formWords p.form w hw))

theorem isCode_propertyLine (p : PropertyDraft) : IsCode p.line := by
  have htype : IsCode (wordText ["As"] ++ p.type.1.text .round) :=
    (isCode_text p.type).behind_words (by decide)
  have hspace : ∀ c ∈ [' '], isPlain c = true := List.forall_mem_singleton.2 rfl
  have hname := (isCode_identifier p.name).append hspace htype
  have hown : ∀ w ∈ accessWords ++ ("Shared" :: formWords), w ∈ ownWords := by decide
  exact (hname.behind_words (by decide)).behind_words fun w hw => hown w (mem_leadWords p w hw)

theorem isCode_baseLine (b : BaseLine) : IsCode b.line := by
  have hword : ∀ w ∈ [b.word.word], w ∈ ownWords := by
    cases b.word <;> decide
  have htypes : ∀ u ∈ b.types.map (fun t => t.1.text .round), IsCode u :=
    List.forall_mem_map.2 fun t _ => isCode_text t
  exact (isCode_intercalate isPlain_comma htypes).behind_words hword

/-- Type parameters up to the parenthesis that closes them are code. -/
theorem isCode_parameters (name : Identifier) (names : List Identifier) :
    IsCode (listed ((name :: names).map (·.1)) ++ [')']) := by
  have hnames : ∀ u ∈ (name :: names).map (·.1), IsCode u :=
    List.forall_mem_map.2 fun name _ => isCode_identifier name
  have hlisted : IsCode (listed ((name :: names).map (·.1))) :=
    isCode_intercalate isPlain_comma hnames
  have hclose : IsCode [')'] :=
    ⟨List.forall_mem_singleton.2 rfl, ⟨')', rfl, rfl⟩, ⟨')', rfl, rfl⟩⟩
  exact hlisted.append (List.forall_mem_nil _) hclose

theorem isCode_openingLine {word : String} (hword : word ∈ ownWords) (name : Identifier)
    (parameters : List Identifier) : IsCode (openingLine word name parameters) := by
  have hname : IsCode (name.1 ++ parameterText parameters) := by
    cases parameters with
    | nil =>
      rw [parameterText, List.append_nil]
      exact isCode_identifier name
    | cons p ps =>
      have hof : ∀ w ∈ ["Of"], w ∈ ownWords := by decide
      have hopening : ∀ c ∈ ['('], isPlain c = true := List.forall_mem_singleton.2 rfl
      exact (isCode_identifier name).append hopening ((isCode_parameters p ps).behind_words hof)
  exact (hname.behind_words (List.forall_mem_singleton.2 hword)).behind_words (by decide)

theorem isCode_endLine {word : String} (h : word ∈ ownWords) : IsCode (endLine word) :=
  (isCode_ownWord h).behind_words (by decide)

theorem mem_ownWords_word (head : TypeHead) : head.word ∈ ownWords := by
  unfold TypeHead.word
  cases head.isStructure <;> decide

theorem isCode_joined {names : List Identifier} (h : names ≠ []) :
    IsCode (['.'].intercalate (names.map (·.1))) := by
  obtain ⟨name, names, rfl⟩ := List.exists_cons_of_ne_nil h
  have hnames : ∀ u ∈ (name :: names).map (·.1), IsCode u :=
    List.forall_mem_map.2 fun name _ => isCode_identifier name
  exact isCode_intercalate (List.forall_mem_singleton.2 rfl) hnames

theorem isCode_spaceLine {names : List Identifier} (h : names ≠ []) : IsCode (spaceLine names) :=
  (isCode_joined h).behind_words (by decide)

theorem isCode_return : IsCode (wordText ["Return"] ++ "Nothing".toList) :=
  (isCode_ownWord (by decide)).behind_words (by decide)

theorem isCode_setLine {ws : List String} (h : ∀ w ∈ ws, w ∈ ownWords) :
    IsCode (wordText ws ++ "Set".toList) :=
  (isCode_ownWord (by decide)).behind_words h

/-! ## Written drafts are plain -/

/-- Whether lines are made of plain characters. -/
def PlainLines (ls : List (List Char)) : Prop := ∀ l ∈ ls, ∀ c ∈ l, isPlain c = true

theorem plainLines_cons {depth : Nat} {cs : List Char} {ls : List (List Char)} (hcs : IsCode cs)
    (hls : PlainLines ls) : PlainLines (indented depth cs :: ls) :=
  List.forall_mem_cons.2 ⟨isPlain_indented hcs.plain depth, hls⟩

theorem PlainLines.append {ls ms : List (List Char)} (hls : PlainLines ls) (hms : PlainLines ms) :
    PlainLines (ls ++ ms) :=
  List.forall_mem_append.2 ⟨hls, hms⟩

theorem plainLines_nil : PlainLines [] := List.forall_mem_nil _

theorem plainLines_formLines (depth : Nat) (form : PropertyForm) :
    PlainLines (form.lines depth) := by
  have hend : PlainLines [indented depth (endLine "Property")] :=
    plainLines_cons (isCode_endLine (by decide)) plainLines_nil
  have hgetter : PlainLines (getterLines (depth + 1)) :=
    plainLines_cons (isCode_ownWord (by decide)) (plainLines_cons isCode_return
      (plainLines_cons (isCode_endLine (by decide)) plainLines_nil))
  have hsetter {ws : List String} (h : ∀ w ∈ ws, w ∈ ownWords) :
      PlainLines (setterLines (depth + 1) ws) :=
    plainLines_cons (isCode_setLine h)
      (plainLines_cons (isCode_endLine (by decide)) plainLines_nil)
  cases form with
  | auto | readOnlyAuto => exact plainLines_nil
  | getSet => exact (hgetter.append (hsetter (by decide))).append hend
  | getPrivateSet => exact (hgetter.append (hsetter (by decide))).append hend
  | getOnly => exact hgetter.append hend
  | setOnly => exact (hsetter (by decide)).append hend

mutual

theorem plainLines_typeDraft (depth : Nat) : ∀ t : TypeDraft, PlainLines (t.lines depth)
  | .enum name members => by
    have hmembers : PlainLines (members.map fun m => indented (depth + 1) m.1) :=
      List.forall_mem_map.2 fun m _ => isPlain_indented (isCode_identifier m).plain (depth + 1)
    have hend : PlainLines [indented depth (endLine "Enum")] :=
      plainLines_cons (isCode_endLine (by decide)) plainLines_nil
    exact plainLines_cons (isCode_openingLine (by decide) name []) (hmembers.append hend)
  | .type head body => by
    have hbases : PlainLines (head.bases.map fun b => indented (depth + 1) b.line) :=
      List.forall_mem_map.2 fun b _ => isPlain_indented (isCode_baseLine b).plain (depth + 1)
    have hend : PlainLines [indented depth (endLine head.word)] :=
      plainLines_cons (isCode_endLine (mem_ownWords_word head)) plainLines_nil
    exact plainLines_cons (isCode_openingLine (mem_ownWords_word head) _ _)
      (hbases.append ((plainLines_bodyDraft (depth + 1) body).append hend))

theorem plainLines_bodyDraft (depth : Nat) : ∀ b : BodyDraft, PlainLines (b.lines depth)
  | .done => plainLines_nil
  | .property p more =>
    (plainLines_cons (isCode_propertyLine p) (plainLines_formLines depth p.form)).append
      (plainLines_bodyDraft depth more)
  | .nested t more => (plainLines_typeDraft depth t).append (plainLines_bodyDraft depth more)

end

/-- A written document is made of plain lines. -/
theorem plainLines_fileDraft (depth : Nat) (f : FileDraft) : PlainLines (f.lines depth) := by
  induction f generalizing depth with
  | done => exact plainLines_nil
  | type t more ih => exact (plainLines_typeDraft depth t).append (ih depth)
  | space lead last inner more ihinner ihmore =>
    have hspace : IsCode (spaceLine (lead ++ [last])) := isCode_spaceLine (by simp)
    exact plainLines_cons hspace ((ihinner (depth + 1)).append
      (plainLines_cons (isCode_endLine (by decide)) (ihmore depth)))

end VisualBasic

end ViewForge
