import Mathlib.Data.List.Chain
import ViewForge.Markup.Layout
import ViewForge.Proofs.Text.Character
import ViewForge.Proofs.Text.Match

/-!
# Markup that reads back

What is read off a markup text is read again from the text of the event, whatever stands behind it
(`readsBack_of_readEvent?`). A tag ends at the same bracket, since what stands in it decides which
brackets are quoted (`tagEnd?_eq_some_iff`), and so does a document type, since what stands in it
decides how many are open (`doctypeEnd?_eq_some_iff`). Only texts between markup are cut by what
follows, so the texts of events that read back give those events again if no two texts stand side by
side (`reads_flatMap_source`).

`Reads` describes the events of a text without a bound on their number, and `events?` computes
exactly these (`events?_eq_some_iff`).
-/

namespace ViewForge.Markup

/-! ## Tags -/

/-- Whether a text can stand in a tag from a place on where `quote` is open: no closing bracket
stands outside quotes, and no quote stays open. -/
def IsTagText : Option Char → List Char → Prop
  | quote, [] => quote = none
  | none, c :: cs => c ≠ '>' ∧ IsTagText (if c = '"' || c = '\x27' then some c else none) cs
  | some quote, c :: cs => IsTagText (if c = quote then none else some quote) cs

/-- A tag ends at the first closing bracket that its quotes leave outside. -/
theorem tagEnd?_eq_some_iff {quote : Option Char} {cs content rest : List Char} :
    tagEnd? quote cs = some (content, rest) ↔
      IsTagText quote content ∧ cs = content ++ '>' :: rest := by
  induction cs generalizing quote content with
  | nil =>
    rw [tagEnd?]
    constructor
    · exact fun h => nomatch h
    · rintro ⟨-, h⟩
      exact absurd h.symm (List.append_ne_nil_of_right_ne_nil _ (List.cons_ne_nil _ _))
  | cons c cs ih =>
    -- Within quotes only their own end counts; outside, a bracket ends the tag.
    cases quote with
    | none =>
      rw [tagEnd?]
      by_cases hc : c = '>'
      · rw [if_pos hc, Option.some.injEq, Prod.mk.injEq]
        constructor
        · rintro ⟨rfl, rfl⟩
          exact ⟨rfl, by rw [hc, List.nil_append]⟩
        · rintro ⟨htext, hcs⟩
          cases content with
          | nil => exact ⟨rfl, (List.cons.inj hcs).2⟩
          | cons d content => exact absurd ((List.cons.inj hcs).1 ▸ hc) htext.1
      · rw [if_neg hc, Option.map_eq_some_iff]
        constructor
        · rintro ⟨⟨first, second⟩, hfirst, hpair⟩
          obtain ⟨rfl, rfl⟩ := Prod.mk.inj hpair
          obtain ⟨htext, rfl⟩ := ih.1 hfirst
          exact ⟨⟨hc, htext⟩, rfl⟩
        · rintro ⟨htext, hcs⟩
          cases content with
          | nil => exact absurd (List.cons.inj hcs).1 hc
          | cons d content =>
            obtain ⟨rfl, rfl⟩ := List.cons.inj hcs
            exact ⟨(content, rest), ih.2 ⟨htext.2, rfl⟩, rfl⟩
    | some quote =>
      rw [tagEnd?, Option.map_eq_some_iff]
      constructor
      · rintro ⟨⟨first, second⟩, hfirst, hpair⟩
        obtain ⟨rfl, rfl⟩ := Prod.mk.inj hpair
        obtain ⟨htext, rfl⟩ := ih.1 hfirst
        exact ⟨htext, rfl⟩
      · rintro ⟨htext, hcs⟩
        cases content with
        | nil => exact nomatch htext
        | cons d content =>
          obtain ⟨rfl, rfl⟩ := List.cons.inj hcs
          exact ⟨(content, rest), ih.2 ⟨htext, rfl⟩, rfl⟩

/-- The text of a tag is read off in front of the bracket that ends it. -/
theorem tagEnd?_append {content : List Char} (h : IsTagText none content) (rest : List Char) :
    tagEnd? none (content ++ '>' :: rest) = some (content, rest) :=
  tagEnd?_eq_some_iff.2 ⟨h, rfl⟩

/-- A quote that is open stays open over a text that does not hold it. -/
theorem not_isTagText_of_not_mem {quote : Char} {cs : List Char} (h : quote ∉ cs) :
    ¬ IsTagText (some quote) cs := by
  induction cs with
  | nil => exact fun htext => nomatch htext
  | cons c cs ih =>
    obtain ⟨hc, hcs⟩ := not_or.1 (fun hmem => h (List.mem_cons.2 hmem))
    rw [IsTagText, if_neg (Ne.symm hc)]
    exact ih hcs

/-- Characters that are neither a quote nor a closing bracket may stand in a tag. -/
theorem isTagText_append {run rest : List Char}
    (hrun : ∀ c ∈ run, c ≠ '>' ∧ c ≠ '"' ∧ c ≠ '\x27') (h : IsTagText none rest) :
    IsTagText none (run ++ rest) := by
  induction run with
  | nil => exact h
  | cons c run ih =>
    obtain ⟨⟨hclosing, hdouble, hsingle⟩, hrun'⟩ := List.forall_mem_cons.1 hrun
    refine ⟨hclosing, ?_⟩
    rw [decide_eq_false hdouble, decide_eq_false hsingle, Bool.or_self, if_neg Bool.false_ne_true]
    exact ih hrun'

/-- A quote is closed by the next of its kind. -/
theorem isTagText_quoted {quote : Char} {value rest : List Char} (hvalue : quote ∉ value)
    (h : IsTagText none rest) : IsTagText (some quote) (value ++ quote :: rest) := by
  induction value with
  | nil =>
    rw [List.nil_append, IsTagText, if_pos rfl]
    exact h
  | cons c value ih =>
    obtain ⟨hc, hvalue'⟩ := not_or.1 fun hmem => hvalue (List.mem_cons.2 hmem)
    rw [List.cons_append, IsTagText, if_neg (Ne.symm hc)]
    exact ih hvalue'

/-- Blanks at the end of a tag stand outside its quotes, so it is a tag without them. -/
theorem isTagText_of_append {quote : Option Char} {cs blanks : List Char}
    (hquote : ∀ q ∈ quote, q = '"' ∨ q = '\x27') (hblanks : ∀ c ∈ blanks, isMarkupBlank c = true)
    (h : IsTagText quote (cs ++ blanks)) : IsTagText quote cs := by
  induction cs generalizing quote with
  | nil =>
    cases quote with
    | none => rfl
    | some q =>
      -- A quote that is still open here would never be closed, since it is no blank.
      refine absurd h (not_isTagText_of_not_mem fun hmem => ?_)
      have hblank := hblanks q hmem
      rcases hquote q rfl with rfl | rfl <;> exact absurd hblank (by decide)
  | cons c cs ih =>
    cases quote with
    | none =>
      refine ⟨h.1, ih ?_ h.2⟩
      intro q hq
      split at hq
      case isTrue hc =>
        obtain rfl : c = q := Option.some.inj hq
        simpa using hc
      case isFalse => exact nomatch hq
    | some q =>
      refine ih ?_ h
      intro q' hq'
      split at hq'
      case isTrue => exact nomatch hq'
      case isFalse => exact hquote q' hq'

/-! ## Closing names -/

/-- A closing name is followed by nothing but blanks. -/
theorem exists_trimName_append (name : List Char) :
    ∃ blanks, name = trimName name ++ blanks ∧ ∀ c ∈ blanks, isMarkupBlank c = true := by
  unfold trimName
  split
  · exact ⟨[], (List.append_nil name).symm, fun _ h => nomatch h⟩
  · refine ⟨(name.reverse.takeWhile isMarkupBlank).reverse, ?_, ?_⟩
    · rw [← List.reverse_append, List.takeWhile_append_dropWhile, List.reverse_reverse]
    · intro c hc
      exact List.mem_takeWhile_imp (List.mem_reverse.1 hc)

/-- A closing name without the blanks behind it stays as it is. -/
theorem trimName_trimName (name : List Char) : trimName (trimName name) = trimName name := by
  by_cases hall : name.all isMarkupBlank = true
  · have htrim : trimName name = name := if_pos hall
    rw [htrim, htrim]
  · have htrim : trimName name = (name.reverse.dropWhile isMarkupBlank).reverse := if_neg hall
    have hdrop := (Text.span_of_head (Text.head_dropWhile isMarkupBlank name.reverse)).2
    rw [htrim]
    unfold trimName
    split
    · rfl
    · rw [List.reverse_reverse, hdrop]

/-- What stands in a closing tag can stand there without the blanks at its end. -/
theorem isTagText_trimName {name : List Char} (h : IsTagText none name) :
    IsTagText none (trimName name) := by
  obtain ⟨blanks, hname, hblanks⟩ := exists_trimName_append name
  rw [hname] at h
  exact isTagText_of_append (fun _ hq => nomatch hq) hblanks h

/-! ## Document types -/

/-- The number of brackets that are open behind a character. -/
def openBrackets (depth : Nat) (c : Char) : Nat :=
  if c = '<' then depth + 1 else if c = '>' then depth - 1 else depth

/-- Whether a text can stand in a document type from a place on where `depth` brackets are open:
each closing bracket in it has an opening one before it, and none stays open. -/
def IsDoctypeText : Nat → List Char → Prop
  | depth, [] => depth = 0
  | depth, c :: cs => ¬ (c = '>' ∧ depth = 0) ∧ IsDoctypeText (openBrackets depth c) cs

/-- A document type ends at the first closing bracket that none inside it opened. -/
theorem doctypeEnd?_eq_some_iff {depth : Nat} {cs content rest : List Char} :
    doctypeEnd? depth cs = some (content, rest) ↔
      IsDoctypeText depth content ∧ cs = content ++ '>' :: rest := by
  induction cs generalizing depth content with
  | nil =>
    rw [doctypeEnd?]
    constructor
    · exact fun h => nomatch h
    · rintro ⟨-, h⟩
      exact absurd h.symm (List.append_ne_nil_of_right_ne_nil _ (List.cons_ne_nil _ _))
  | cons c cs ih =>
    have hcond : (decide (c = '>') && decide (depth = 0)) = true ↔ c = '>' ∧ depth = 0 := by
      rw [Bool.and_eq_true, decide_eq_true_iff, decide_eq_true_iff]
    rw [doctypeEnd?]
    by_cases hend : c = '>' ∧ depth = 0
    · rw [if_pos (hcond.2 hend), Option.some.injEq, Prod.mk.injEq]
      constructor
      · rintro ⟨rfl, rfl⟩
        exact ⟨hend.2, by rw [hend.1, List.nil_append]⟩
      · rintro ⟨htext, hcs⟩
        cases content with
        | nil => exact ⟨rfl, (List.cons.inj hcs).2⟩
        | cons d content => exact absurd ((List.cons.inj hcs).1 ▸ hend) htext.1
    · rw [if_neg (fun h => hend (hcond.1 h))]
      show (doctypeEnd? (openBrackets depth c) cs).map _ = _ ↔ _
      rw [Option.map_eq_some_iff]
      constructor
      · rintro ⟨⟨first, second⟩, hfirst, hpair⟩
        obtain ⟨rfl, rfl⟩ := Prod.mk.inj hpair
        obtain ⟨htext, rfl⟩ := ih.1 hfirst
        exact ⟨⟨hend, htext⟩, rfl⟩
      · rintro ⟨htext, hcs⟩
        cases content with
        | nil =>
          -- The first bracket would end the document type only if no other were open.
          exact absurd ⟨(List.cons.inj hcs).1, htext⟩ hend
        | cons d content =>
          obtain ⟨rfl, rfl⟩ := List.cons.inj hcs
          exact ⟨(content, rest), ih.2 ⟨htext.2, rfl⟩, rfl⟩

/-- A blank is no bracket. -/
theorem openBrackets_of_isMarkupBlank {c : Char} (h : isMarkupBlank c = true) (depth : Nat) :
    c ≠ '>' ∧ openBrackets depth c = depth := by
  have hopening : c ≠ '<' := by
    rintro rfl
    exact absurd h (by decide)
  have hclosing : c ≠ '>' := by
    rintro rfl
    exact absurd h (by decide)
  rw [openBrackets, if_neg hopening, if_neg hclosing]
  exact ⟨hclosing, rfl⟩

/-- Blanks at the start of a document type do not matter. -/
theorem isDoctypeText_dropWhile {depth : Nat} {content : List Char}
    (h : IsDoctypeText depth content) :
    IsDoctypeText depth (content.dropWhile isMarkupBlank) := by
  induction content with
  | nil => exact h
  | cons c content ih =>
    rw [List.dropWhile_cons]
    split
    case isTrue hblank =>
      have hrest := h.2
      rw [(openBrackets_of_isMarkupBlank hblank depth).2] at hrest
      exact ih hrest
    case isFalse => exact h

/-! ## Events -/

/-- Whether an event is text between markup. -/
def Event.isText : Event → Bool
  | text _ => true
  | _ => false

/-- Whether an event is read again from its text. Text is, if there is some and it begins no markup,
up to the next markup; anything else is, whatever stands behind it. -/
def Event.ReadsBack : Event → Prop
  | text content => content ≠ [] ∧ '<' ∉ content
  | event => ∀ rest, readEvent? (event.source ++ rest) = some (event, rest)

/-- Markup reads back if it is read from its text, whatever stands behind it. -/
theorem Event.readsBack_iff {event : Event} (h : event.isText = false) :
    event.ReadsBack ↔ ∀ rest, readEvent? (event.source ++ rest) = some (event, rest) := by
  cases event with
  | text => exact Bool.noConfusion h
  | _ => exact Iff.rfl

/-- The text of a tag stands between its brackets, with the slash of an empty one. -/
theorem source_tagOf (content : List Char) : (tagOf content).source = '<' :: content ++ ['>'] := by
  unfold tagOf
  split
  case h_1 inner hslash =>
    have hcontent : content = inner.reverse ++ ['/'] := by
      rw [← List.reverse_reverse content, hslash, List.reverse_cons]
    rw [hcontent]
    show '<' :: (inner.reverse ++ ['/', '>']) = '<' :: (inner.reverse ++ ['/'] ++ ['>'])
    rw [List.append_assoc]
    rfl
  case h_2 => rfl

/-- A tag that does not end in a slash is a start tag. -/
theorem tagOf_eq_start {content : List Char} (h : content.getLast? ≠ some '/') :
    tagOf content = .start content := by
  unfold tagOf
  split
  case h_1 inner hslash =>
    rw [← List.head?_reverse, hslash] at h
    exact absurd rfl h
  case h_2 => rfl

/-- A tag is no text. -/
theorem isText_tagOf (content : List Char) : (tagOf content).isText = false := by
  unfold tagOf
  split <;> rfl

/-- Markup that begins with none of the three marks is a tag. -/
theorem readMarkup?_tag {cs : List Char} (h : ∀ c ∈ cs.head?, c ≠ '!' ∧ c ≠ '?' ∧ c ≠ '/') :
    readMarkup? cs = (tagEnd? none cs).map fun (content, rest) => (tagOf content, rest) := by
  unfold readMarkup?
  split
  · exact absurd rfl (h '!' rfl).1
  · exact absurd rfl (h '?' rfl).2.1
  · exact absurd rfl (h '/' rfl).2.2
  · rfl

/-- A tag that is read reads back. -/
theorem readsBack_tagOf {content : List Char} (htext : IsTagText none content)
    (hhead : ∀ c ∈ content.head?, c ≠ '!' ∧ c ≠ '?' ∧ c ≠ '/') : (tagOf content).ReadsBack := by
  have hread (rest : List Char) :
      readEvent? ((tagOf content).source ++ rest) = some (tagOf content, rest) := by
    -- Behind an empty tag stands its own bracket, which begins no other markup.
    have hstart : ∀ c ∈ (content ++ '>' :: rest).head?, c ≠ '!' ∧ c ≠ '?' ∧ c ≠ '/' := by
      cases content with
      | nil =>
        rintro c hc
        obtain rfl : '>' = c := Option.some.inj hc
        decide
      | cons d content => exact hhead
    calc readEvent? ((tagOf content).source ++ rest)
        = readMarkup? (content ++ '>' :: rest) := by
          rw [source_tagOf, List.append_assoc]
          rfl
      _ = some (tagOf content, rest) := by
          rw [readMarkup?_tag hstart, tagEnd?_append htext]
          rfl
  exact (Event.readsBack_iff (isText_tagOf content)).2 hread

/-- A start tag reads back if it does not begin as other markup does nor end in a slash. -/
theorem readsBack_start {content : List Char} (htext : IsTagText none content)
    (hhead : ∀ c ∈ content.head?, c ≠ '!' ∧ c ≠ '?' ∧ c ≠ '/')
    (hlast : content.getLast? ≠ some '/') : (Event.start content).ReadsBack := by
  rw [← tagOf_eq_start hlast]
  exact readsBack_tagOf htext hhead

/-- An end tag reads back from a name without blanks at its end. -/
theorem readsBack_close {name : List Char} (htext : IsTagText none name)
    (htrim : trimName name = name) : (Event.close name).ReadsBack := by
  intro rest
  show (tagEnd? none (name ++ ['>'] ++ rest)).map _ = _
  rw [List.append_assoc, List.singleton_append, tagEnd?_append htext]
  show some (Event.close (trimName name), rest) = _
  rw [htrim]

/-- A document type reads back from what stands in it behind blanks, which its text has one of. -/
theorem readsBack_doctype {content : List Char} (htext : IsDoctypeText 0 content)
    (hne : ¬ (content.dropWhile isMarkupBlank).isEmpty = true) :
    (Event.doctype (content.dropWhile isMarkupBlank)).ReadsBack := by
  intro rest
  have hkept := isDoctypeText_dropWhile htext
  have hhead : ∀ c ∈ (content.dropWhile isMarkupBlank).head?, isMarkupBlank c = false :=
    Text.head_dropWhile isMarkupBlank content
  generalize content.dropWhile isMarkupBlank = kept at hne hkept hhead ⊢
  -- One space is written where the blanks stood, and reading drops it again.
  have hspace : IsDoctypeText 0 (' ' :: kept) := ⟨by decide, hkept⟩
  have hend : doctypeEnd? 0 (' ' :: (kept ++ ['>'] ++ rest)) = some (' ' :: kept, rest) := by
    refine doctypeEnd?_eq_some_iff.2 ⟨hspace, ?_⟩
    rw [List.append_assoc]
    rfl
  have hdrop : (' ' :: kept).dropWhile isMarkupBlank = kept :=
    (List.dropWhile_cons_of_pos rfl).trans (Text.span_of_head hhead).2
  show ((doctypeEnd? 0 (' ' :: (kept ++ ['>'] ++ rest))).bind fun (content, rest) =>
    if (content.dropWhile isMarkupBlank).isEmpty then none
    else some (Event.doctype (content.dropWhile isMarkupBlank), rest)) = _
  rw [hend]
  show (if ((' ' :: kept).dropWhile isMarkupBlank).isEmpty then none
    else some (Event.doctype ((' ' :: kept).dropWhile isMarkupBlank), rest)) = _
  rw [hdrop, if_neg hne]

/-- A construct behind `<!` that is read reads back, and what stands behind it is no longer than the
text. -/
theorem readsBack_of_readDeclaration? {cs rest : List Char} {event : Event}
    (h : readDeclaration? cs = some (event, rest)) :
    event.isText = false ∧ event.ReadsBack ∧ rest.length ≤ cs.length := by
  unfold readDeclaration? at h
  -- A comment, a section of character data or a document type: each has its own end mark, which is
  -- written back.
  split at h
  case h_1 body hbody =>
    obtain ⟨⟨content, after⟩, hcut, hpair⟩ := Option.map_eq_some_iff.1 h
    obtain ⟨rfl, rfl⟩ := Prod.mk.inj hpair
    refine ⟨rfl, fun rest' => ?_, ?_⟩
    · show (Text.cut? ['-', '-', '>'] (content ++ ['-', '-', '>'] ++ rest')).map _ = _
      rw [List.append_assoc, Text.cut?_append hcut]
      rfl
    · rw [Text.eq_append_of_after? hbody, Text.eq_append_of_cut? hcut]
      simp only [List.length_append]
      omega
  case h_2 =>
    split at h
    case h_1 body hbody =>
      obtain ⟨⟨content, after⟩, hcut, hpair⟩ := Option.map_eq_some_iff.1 h
      obtain ⟨rfl, rfl⟩ := Prod.mk.inj hpair
      refine ⟨rfl, fun rest' => ?_, ?_⟩
      · show (Text.cut? [']', ']', '>'] (content ++ [']', ']', '>'] ++ rest')).map _ = _
        rw [List.append_assoc, Text.cut?_append hcut]
        rfl
      · rw [Text.eq_append_of_after? hbody, Text.eq_append_of_cut? hcut]
        simp only [List.length_append]
        omega
    case h_2 =>
      simp only [Option.bind_eq_bind, Option.bind_eq_some_iff] at h
      obtain ⟨body, hbody, ⟨content, after⟩, hend, h⟩ := h
      obtain ⟨htext, hcontent⟩ := doctypeEnd?_eq_some_iff.1 hend
      split at h
      case isTrue => exact nomatch h
      case isFalse hne =>
        obtain ⟨rfl, rfl⟩ := Prod.mk.inj (Option.some.inj h)
        refine ⟨rfl, readsBack_doctype htext hne, ?_⟩
        have hbodyLength := (Text.suffix_of_afterIgnoringCase? hbody).length_le
        rw [hcontent, List.length_append, List.length_cons] at hbodyLength
        show after.length ≤ cs.length
        omega

/-- A processing instruction ends at the first mark for it. -/
theorem readMarkup?_instruction {cs content rest : List Char} {c : Char}
    (h : Text.cut? ['?', '>'] ('?' :: cs) = some (c :: content, rest)) :
    readMarkup? ('?' :: cs) = some (.instruction content, rest) := by
  unfold readMarkup?
  simp only [h]

/-- Markup that is read reads back, and what stands behind it is no longer than the text. -/
theorem readsBack_of_readMarkup? {cs rest : List Char} {event : Event}
    (h : readMarkup? cs = some (event, rest)) :
    event.isText = false ∧ event.ReadsBack ∧ rest.length ≤ cs.length := by
  unfold readMarkup? at h
  split at h
  case h_1 body =>
    obtain ⟨htext, hback, hlength⟩ := readsBack_of_readDeclaration? h
    exact ⟨htext, hback, Nat.le_succ_of_le hlength⟩
  case h_2 body =>
    split at h
    case h_1 c content after hcut =>
      obtain ⟨rfl, rfl⟩ := Prod.mk.inj (Option.some.inj h)
      have hbody := Text.eq_append_of_cut? hcut
      obtain rfl : '?' = c := (List.cons.inj hbody).1
      refine ⟨rfl, fun rest' => ?_, ?_⟩
      · have hcut' := Text.cut?_append hcut rest'
        rw [List.cons_append] at hcut'
        show readMarkup? ('?' :: (content ++ ['?', '>'] ++ rest')) = _
        rw [List.append_assoc]
        exact readMarkup?_instruction hcut'
      · rw [hbody, List.length_append, List.length_append]
        omega
    case h_2 => exact nomatch h
  case h_3 body =>
    obtain ⟨⟨name, after⟩, htag, hpair⟩ := Option.map_eq_some_iff.1 h
    obtain ⟨rfl, rfl⟩ := Prod.mk.inj hpair
    obtain ⟨htext, rfl⟩ := tagEnd?_eq_some_iff.1 htag
    refine ⟨rfl, readsBack_close (isTagText_trimName htext) (trimName_trimName name), ?_⟩
    rw [List.length_cons, List.length_append, List.length_cons]
    omega
  case h_4 hdeclaration hinstruction hclose =>
    obtain ⟨⟨content, after⟩, htag, hpair⟩ := Option.map_eq_some_iff.1 h
    obtain ⟨rfl, rfl⟩ := Prod.mk.inj hpair
    obtain ⟨htext, rfl⟩ := tagEnd?_eq_some_iff.1 htag
    refine ⟨isText_tagOf content, readsBack_tagOf htext ?_, ?_⟩
    · -- The tag begins as the markup does, and that with none of the three marks.
      intro c hc
      cases content with
      | nil => exact nomatch hc
      | cons d content =>
        obtain rfl : d = c := Option.some.inj hc
        refine ⟨?_, ?_, ?_⟩
        · rintro rfl
          exact hdeclaration _ rfl
        · rintro rfl
          exact hinstruction _ rfl
        · rintro rfl
          exact hclose _ rfl
    · rw [List.length_append, List.length_cons]
      omega

/-- A text begins with markup exactly if it begins with an opening bracket. -/
theorem readEvent?_of_head {cs : List Char} (h : ∀ c ∈ cs.head?, c ≠ '<') :
    readEvent? cs = some (.text (cs.takeWhile (· != '<')), cs.dropWhile (· != '<')) := by
  cases cs with
  | nil => rfl
  | cons c cs =>
    have hc : c ≠ '<' := h c rfl
    unfold readEvent?
    split
    case h_1 heq => exact absurd (List.cons.inj heq).1 hc
    case h_2 => rfl

/-- What is read off a text reads back, something is read off, and text is read only up to the next
markup. -/
theorem readsBack_of_readEvent? {cs rest : List Char} {event : Event} (hcs : cs ≠ [])
    (h : readEvent? cs = some (event, rest)) :
    event.ReadsBack ∧ rest.length < cs.length ∧
      (event.isText = true → cs.head? ≠ some '<' ∧ ∀ c ∈ rest.head?, c = '<') := by
  cases cs with
  | nil => exact absurd rfl hcs
  | cons c cs =>
    -- Markup ends in a mark of its own; text goes as far as the next markup, so it has its first
    -- character.
    by_cases hc : c = '<'
    · obtain rfl := hc
      obtain ⟨htext, hback, hlength⟩ := readsBack_of_readMarkup? h
      refine ⟨hback, Nat.lt_succ_of_le hlength, fun h => ?_⟩
      rw [htext] at h
      exact Bool.noConfusion h
    · have hhead : ∀ d ∈ (c :: cs).head?, d ≠ '<' := by
        intro d hd
        obtain rfl : c = d := Option.some.inj hd
        exact hc
      rw [readEvent?_of_head hhead] at h
      obtain ⟨rfl, rfl⟩ := Prod.mk.inj (Option.some.inj h)
      have hfirst : (c != '<') = true := bne_iff_ne.2 hc
      rw [List.takeWhile_cons_of_pos (p := (· != '<')) hfirst,
        List.dropWhile_cons_of_pos (p := (· != '<')) hfirst]
      refine ⟨⟨List.cons_ne_nil _ _, ?_⟩, ?_, fun _ => ⟨fun h => hc (Option.some.inj h), ?_⟩⟩
      · intro hmem
        rcases List.mem_cons.1 hmem with h | hmem
        · exact hc h.symm
        · exact absurd (List.mem_takeWhile_imp hmem) (by decide)
      · exact Nat.lt_succ_of_le (List.length_dropWhile_le _ _)
      · intro d hd
        simpa using Text.head_dropWhile (· != '<') cs d hd

/-! ## The events of a text -/

/-- The events of a text: the first, and those of what stands behind it. -/
inductive Reads : List Char → List Event → Prop
  /-- An empty text has none. -/
  | nil : Reads [] []
  /-- An event is read off a text that is not empty. -/
  | cons {cs rest : List Char} {event : Event} {events : List Event} (hcs : cs ≠ [])
    (hevent : readEvent? cs = some (event, rest)) (hrest : Reads rest events) :
    Reads cs (event :: events)

/-- What a bounded number of steps reads are the events of the text. -/
theorem reads_of_eventsWith? {fuel : Nat} {cs : List Char} {events : List Event}
    (h : eventsWith? fuel cs = some events) : Reads cs events := by
  induction fuel generalizing cs events with
  | zero =>
    cases cs with
    | nil =>
      obtain rfl : [] = events := Option.some.inj h
      exact .nil
    | cons c cs => exact nomatch h
  | succ fuel ih =>
    cases cs with
    | nil =>
      obtain rfl : [] = events := Option.some.inj h
      exact .nil
    | cons c cs =>
      simp only [eventsWith?, Option.bind_eq_bind, Option.bind_eq_some_iff] at h
      obtain ⟨⟨event, rest⟩, hevent, others, hothers, hevents⟩ := h
      obtain rfl : event :: others = events := Option.some.inj hevents
      exact .cons (List.cons_ne_nil c cs) hevent (ih hothers)

/-- As many steps as the text has characters read all its events. -/
theorem Reads.eventsWith?_eq {cs : List Char} {events : List Event} (h : Reads cs events) :
    ∀ {fuel : Nat}, cs.length ≤ fuel → eventsWith? fuel cs = some events := by
  induction h with
  | nil =>
    intro fuel _
    unfold eventsWith?
    rfl
  | @cons cs rest event events hcs hevent hrest ih =>
    intro fuel hfuel
    obtain ⟨-, hlength, -⟩ := readsBack_of_readEvent? hcs hevent
    -- Every event takes a character, so a step less is enough for the rest.
    cases fuel with
    | zero => omega
    | succ fuel =>
      cases cs with
      | nil => exact absurd rfl hcs
      | cons c cs =>
        have hrest' : eventsWith? fuel rest = some events := ih (by omega)
        simp only [eventsWith?, hevent, hrest', Option.bind_eq_bind, Option.bind_some]
        rfl

/-- The events that a text is found to have are its events. -/
theorem events?_eq_some_iff {cs : List Char} {events : List Event} :
    events? cs = some events ↔ Reads cs events :=
  ⟨reads_of_eventsWith?, fun h => h.eventsWith?_eq (Nat.le_refl _)⟩

/-- Whether no two texts of a document stand side by side. -/
def TextsApart (events : List Event) : Prop :=
  events.IsChain fun event next => event.isText = true → next.isText = false

/-- The events of a text read back, and no two texts among them stand side by side. -/
theorem Reads.readBack {cs : List Char} {events : List Event} (h : Reads cs events) :
    (∀ event ∈ events, event.ReadsBack) ∧ TextsApart events := by
  induction h with
  | nil => exact ⟨fun _ h => absurd h List.not_mem_nil, .nil⟩
  | @cons cs rest event events hcs hevent hrest ih =>
    obtain ⟨hback, -, htext⟩ := readsBack_of_readEvent? hcs hevent
    refine ⟨List.forall_mem_cons.2 ⟨hback, ih.1⟩, ?_⟩
    cases hrest with
    | nil => exact .singleton _
    | @cons _ _ next others hne hnext _ =>
      refine .cons_cons ?_ ih.2
      -- What stands behind a text begins with a bracket, so the next event is none.
      intro h
      cases hnextText : next.isText with
      | false => rfl
      | true =>
        cases rest with
        | nil => exact absurd rfl hne
        | cons c rest =>
          have hbracket : c = '<' := (htext h).2 c rfl
          have hno := ((readsBack_of_readEvent? hne hnext).2.2 hnextText).1
          exact absurd (congrArg some hbracket) hno

/-- The text of markup begins with a bracket. -/
theorem head?_source {event : Event} (h : event.isText = false) (rest : List Char) :
    (event.source ++ rest).head? = some '<' := by
  cases event with
  | text => exact Bool.noConfusion h
  | _ => rfl

/-- Events that read back are the events of their texts one behind the other, if no two texts stand
side by side. -/
theorem reads_flatMap_source {events : List Event} (hback : ∀ event ∈ events, event.ReadsBack)
    (hapart : TextsApart events) : Reads (events.flatMap Event.source) events := by
  induction events with
  | nil => exact .nil
  | cons event events ih =>
    obtain ⟨hevent, hothers⟩ := List.forall_mem_cons.1 hback
    obtain ⟨hnext, hapart⟩ := List.isChain_cons.1 hapart
    have hrest := ih hothers hapart
    rw [List.flatMap_cons]
    cases htext : event.isText with
    | false =>
      refine .cons ?_ ((Event.readsBack_iff htext).1 hevent _) hrest
      intro hnil
      have hhead := head?_source htext (events.flatMap Event.source)
      rw [hnil] at hhead
      exact nomatch hhead
    | true =>
      cases event with
      | text content =>
        obtain ⟨hne, hno⟩ := hevent
        -- What stands behind the text is nothing, or begins with a bracket.
        have hbehind : ∀ c ∈ (events.flatMap Event.source).head?, (c != '<') = false := by
          cases events with
          | nil => exact fun _ h => nomatch h
          | cons next others =>
            rw [List.flatMap_cons, head?_source (hnext next rfl htext)]
            rintro c hc
            obtain rfl : '<' = c := Option.some.inj hc
            rfl
        have hcontent : ∀ c ∈ content, (c != '<') = true := Text.bne_of_notMem hno
        have hhead : ∀ c ∈ (content ++ events.flatMap Event.source).head?, c ≠ '<' := by
          cases content with
          | nil => exact absurd rfl hne
          | cons d content =>
            rintro c hc
            obtain rfl : d = c := Option.some.inj hc
            exact bne_iff_ne.1 (hcontent d List.mem_cons_self)
        obtain ⟨htake, hdrop⟩ := Text.span_append hcontent hbehind
        refine .cons (List.append_ne_nil_of_left_ne_nil hne _) ?_ hrest
        show readEvent? (content ++ events.flatMap Event.source) = _
        rw [readEvent?_of_head hhead, htake, hdrop]
      | _ => exact Bool.noConfusion htext

end ViewForge.Markup
