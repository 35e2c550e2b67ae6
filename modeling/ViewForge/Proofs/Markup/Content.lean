import ViewForge.Proofs.Markup.Reading

/-!
# Laid out markup keeps its content

A text of markup that is laid out reads to the same content: the same tags, texts and other
constructs in the same order, however many line breaks are put between them and however much layout
is dropped (`format_keeps_content`). A text that is not well formed stays as it is. So how a text is
laid out depends on its content alone, and laying out once more changes nothing but the indentation
(`format_by_content`).

`Laid` says all that laying out does to the events of a document: a text of layout is put before
markup, and never beside a text. So the laid out text is that of events that read back, and what it
reads to differs from the document in layout alone.
-/

namespace ViewForge.Markup

/-! ## Layout between events -/

/-- The events of a document, and those of the document with line breaks between them. Line breaks
stand only before markup and where one may stand, which `broken` tells. -/
inductive Laid : Bool → List Event → List Event → Prop
  /-- No events are left. -/
  | nil (broken : Bool) : Laid broken [] []
  /-- An event stays where it is. Behind a text no line breaks. -/
  | kept {broken broken' : Bool} {event : Event} {events laid : List Event}
    (hafter : broken' = true → event.isText = false) (hrest : Laid broken' events laid) :
    Laid broken (event :: events) (event :: laid)
  /-- Markup stands on a line of its own. -/
  | onLine {broken : Bool} {event : Event} {events laid : List Event} (size depth : Nat)
    (hmarkup : event.isText = false) (hrest : Laid broken events laid) :
    Laid true (event :: events) (.text (newLine size depth) :: event :: laid)

/-- Markup that is laid out stands on a line of its own if it may, and is kept otherwise. -/
theorem Laid.markup {broken : Bool} {event : Event} {events laid : List Event} (size depth : Nat)
    (hmarkup : event.isText = false) (hrest : Laid true events laid) :
    Laid broken (event :: events)
      ((if broken then [.text (newLine size depth)] else []) ++ event :: laid) := by
  cases broken with
  | false => exact .kept (fun _ => hmarkup) hrest
  | true => exact .onLine size depth hmarkup hrest

/-- The text of the layout before markup. -/
theorem flatMap_source_lead (broken : Bool) (size depth : Nat) :
    (if broken then [Event.text (newLine size depth)] else []).flatMap Event.source =
      if broken then newLine size depth else [] := by
  cases broken with
  | false => rfl
  | true => exact List.append_nil _

/-- A document is laid out as the text of its events with line breaks between them. -/
theorem exists_laid (size : Nat) (events : List Event) : ∀ (broken : Bool) (depth : Nat),
    ∃ laid, Laid broken events laid ∧
      layOut size broken depth events = laid.flatMap Event.source := by
  induction events with
  | nil => exact fun broken _ => ⟨[], .nil broken, rfl⟩
  | cons event events ih =>
    intro broken depth
    -- Texts and unparsed sections stay in their line, anything else differs in the depth alone.
    have hinline : ∃ laid, Laid broken (event :: events) laid ∧
        event.source ++ layOut size false depth events = laid.flatMap Event.source := by
      obtain ⟨laid, hlaid, htext⟩ := ih false depth
      exact ⟨event :: laid, .kept (fun h => Bool.noConfusion h) hlaid,
        by rw [List.flatMap_cons, htext]⟩
    have hmarkup (h : event.isText = false) (depth depth' : Nat) :
        ∃ laid, Laid broken (event :: events) laid ∧
          (if broken then newLine size depth else []) ++ event.source ++
            layOut size true depth' events = laid.flatMap Event.source := by
      obtain ⟨laid, hlaid, htext⟩ := ih true depth'
      refine ⟨_, .markup size depth h hlaid, ?_⟩
      rw [List.flatMap_append, List.flatMap_cons, flatMap_source_lead, htext, List.append_assoc]
    cases event with
    | text content => exact hinline
    | cdata content => exact hinline
    | start content => exact hmarkup rfl depth (depth + 1)
    | close name => exact hmarkup rfl (depth - 1) (depth - 1)
    | empty content => exact hmarkup rfl depth depth
    | comment content => exact hmarkup rfl depth depth
    | instruction content => exact hmarkup rfl depth depth
    | doctype content => exact hmarkup rfl depth depth

/-- A line break and the indentation behind it are layout. -/
theorem isLayout_newLine (size depth : Nat) : (Event.text (newLine size depth)).isLayout = true := by
  show ('\n' :: List.replicate (size * depth) ' ').all Text.isAsciiBlank = true
  rw [List.all_cons, List.all_replicate]
  split <;> rfl

namespace Laid

variable {broken : Bool} {events laid : List Event}

/-- Line breaks change nothing but the layout. -/
theorem filter_eq (h : Laid broken events laid) :
    laid.filter (!·.isLayout) = events.filter (!·.isLayout) := by
  induction h with
  | nil => rfl
  | kept _ _ ih => rw [List.filter_cons, List.filter_cons, ih]
  | onLine size depth _ _ ih =>
    rw [List.filter_cons_of_neg (by rw [isLayout_newLine]; exact Bool.false_ne_true),
      List.filter_cons, List.filter_cons, ih]

/-- Where no line may break, the first event stays the first. -/
theorem head?_eq (h : Laid false events laid) : laid.head? = events.head? := by
  cases h with
  | nil => rfl
  | kept => rfl

/-- Line breaks read back, so the events with them do. -/
theorem readBack (h : Laid broken events laid) (hback : ∀ event ∈ events, event.ReadsBack) :
    ∀ event ∈ laid, event.ReadsBack := by
  induction h with
  | nil => exact hback
  | kept _ _ ih =>
    obtain ⟨hevent, hothers⟩ := List.forall_mem_cons.1 hback
    exact List.forall_mem_cons.2 ⟨hevent, ih hothers⟩
  | onLine size depth _ _ ih =>
    obtain ⟨hevent, hothers⟩ := List.forall_mem_cons.1 hback
    have hline : (Event.text (newLine size depth)).ReadsBack := by
      refine ⟨List.cons_ne_nil _ _, fun hmem => ?_⟩
      rcases List.mem_cons.1 hmem with h | hmem
      · exact absurd h (by decide)
      · exact absurd (List.eq_of_mem_replicate hmem) (by decide)
    exact List.forall_mem_cons.2 ⟨hline, List.forall_mem_cons.2 ⟨hevent, ih hothers⟩⟩

/-- Line breaks do not stand beside texts. -/
theorem textsApart (h : Laid broken events laid) (hapart : TextsApart events) :
    TextsApart laid := by
  induction h with
  | nil => exact hapart
  | @kept _ broken' event events laid hafter hrest ih =>
    obtain ⟨hnext, hothers⟩ := List.isChain_cons.1 hapart
    refine List.isChain_cons.2 ⟨fun next hmem htext => ?_, ih hothers⟩
    -- Behind a text no line breaks, so the event behind it is the one that was there.
    cases broken' with
    | false => exact hnext next (hrest.head?_eq ▸ hmem) htext
    | true =>
      rw [hafter rfl] at htext
      exact Bool.noConfusion htext
  | @onLine _ event events laid size depth hmarkup hrest ih =>
    obtain ⟨-, hothers⟩ := List.isChain_cons.1 hapart
    refine List.isChain_cons.2 ⟨fun next hmem _ => ?_,
      List.isChain_cons.2 ⟨fun next _ htext => ?_, ih hothers⟩⟩
    · obtain rfl : event = next := Option.some.inj hmem
      exact hmarkup
    · rw [hmarkup] at htext
      exact Bool.noConfusion htext

end Laid

/-! ## Layout among events -/

/-- Layout is text. -/
theorem isText_of_isLayout {event : Event} (h : event.isLayout = true) : event.isText = true := by
  cases event with
  | text => rfl
  | _ => exact Bool.noConfusion h

/-- An event that is no text stays the first without layout. -/
theorem head?_filter {events : List Event} (h : ∀ event ∈ events.head?, event.isText = false) :
    (events.filter (!·.isLayout)).head? = events.head? := by
  cases events with
  | nil => rfl
  | cons event events =>
    have hkept : (!event.isLayout) = true := by
      cases hlayout : event.isLayout with
      | false => rfl
      | true =>
        have htext := h event rfl
        rw [isText_of_isLayout hlayout] at htext
        exact Bool.noConfusion htext
    rw [List.filter_cons, if_pos hkept]
    rfl

/-- Without layout the texts of a document stay apart: none stands beside layout. -/
theorem textsApart_filter {events : List Event} (h : TextsApart events) :
    TextsApart (events.filter (!·.isLayout)) := by
  induction events with
  | nil => exact h
  | cons event events ih =>
    obtain ⟨hnext, hothers⟩ := List.isChain_cons.1 h
    rw [List.filter_cons]
    split
    · refine List.isChain_cons.2 ⟨fun next hmem htext => ?_, ih hothers⟩
      have hmarkup : ∀ next ∈ events.head?, next.isText = false :=
        fun next hmem => hnext next hmem htext
      rw [head?_filter hmarkup] at hmem
      exact hmarkup next hmem
    · exact ih hothers

/-- Tags match one by one whatever layout stands between them. -/
theorem closesAll_filter (events : List Event) : ∀ opened : List (List Char),
    closesAll opened (events.filter (!·.isLayout)) = closesAll opened events := by
  induction events with
  | nil => exact fun _ => rfl
  | cons event events ih =>
    intro opened
    -- Layout is text, and texts neither open nor close; every other event is kept.
    cases event with
    | text content =>
      rw [List.filter_cons]
      split <;> exact ih opened
    | start content => exact ih (Event.tagName content :: opened)
    | close name =>
      cases opened with
      | nil => rfl
      | cons expected opened =>
        show (name == expected && closesAll opened (events.filter (!·.isLayout))) = _
        rw [ih opened]
        rfl
    | _ => exact ih opened

/-- A document is balanced as one with other layout is. -/
theorem balanced_eq_of_filter_eq {events events' : List Event}
    (h : events'.filter (!·.isLayout) = events.filter (!·.isLayout)) :
    balanced events' = balanced events := by
  unfold balanced
  rw [← closesAll_filter events, ← closesAll_filter events', h]

/-! ## Byte-order marks -/

/-- The first event that is text begins as the text does that it is read from. -/
theorem Reads.head?_content {cs content : List Char} {events : List Event}
    (h : Reads cs (.text content :: events)) : content.head? = cs.head? := by
  cases h with
  | cons hcs hevent _ =>
    obtain ⟨-, -, htext⟩ := readsBack_of_readEvent? hcs hevent
    -- What is text does not begin with markup, so it is read off as what stands before the next
    -- markup.
    have hhead : ∀ c ∈ cs.head?, c ≠ '<' := by
      rintro c hc rfl
      exact (htext rfl).1 hc
    rw [readEvent?_of_head hhead] at hevent
    have hcontent : cs.takeWhile (· != '<') = content :=
      Event.text.inj (Prod.mk.inj (Option.some.inj hevent)).1
    rw [← hcontent]
    cases cs with
    | nil => rfl
    | cons c cs =>
      have hc : (c != '<') = true := bne_iff_ne.2 (hhead c rfl)
      rw [List.takeWhile_cons_of_pos (p := (· != '<')) hc]
      rfl

/-- A text that does not begin with a byte-order mark does not do so laid out either: it begins with
a bracket, or as it did. -/
theorem head?_layOut_ne_mark {cs : List Char} {events : List Event} (h : Reads cs events)
    (hmark : cs.head? ≠ some '\ufeff') (size depth : Nat) :
    (layOut size false depth (events.filter (!·.isLayout))).head? ≠ some '\ufeff' := by
  obtain ⟨laid, hlaid, hout⟩ := exists_laid size (events.filter (!·.isLayout)) false depth
  have hfirst := hlaid.head?_eq
  obtain ⟨hback, hapart⟩ := h.readBack
  rw [hout]
  cases laid with
  | nil => exact fun h => nomatch h
  | cons event laid =>
    rw [List.flatMap_cons]
    cases hevent : event.isText with
    | false =>
      rw [head?_source hevent]
      decide
    | true =>
      -- The first text of the content is the first event: none stands behind layout.
      have hevents : events.head? = some event := by
        cases events with
        | nil => exact nomatch hfirst
        | cons first others =>
          rw [List.filter_cons] at hfirst
          split at hfirst
          · exact hfirst.symm
          · rename_i hlayout
            have hmarkup : ∀ next ∈ others.head?, next.isText = false := by
              refine fun next hmem => (List.isChain_cons.1 hapart).1 next hmem ?_
              refine isText_of_isLayout ?_
              simpa using hlayout
            rw [head?_filter hmarkup] at hfirst
            have hno := hmarkup event hfirst.symm
            rw [hevent] at hno
            exact Bool.noConfusion hno
      cases event with
      | text content =>
        cases events with
        | nil => exact nomatch hevents
        | cons first others =>
          obtain rfl : first = .text content := Option.some.inj hevents
          have hcontent := h.head?_content
          have hne : content ≠ [] := (hback _ List.mem_cons_self).1
          show (content ++ laid.flatMap Event.source).head? ≠ _
          rw [List.head?_append_of_ne_nil _ hne, hcontent]
          exact hmark
      | _ => exact Bool.noConfusion hevent

/-- A text without a byte-order mark has none to drop. -/
theorem dropMark_eq_self {cs : List Char} (h : cs.head? ≠ some '\ufeff') : dropMark cs = cs := by
  unfold dropMark
  split
  · exact absurd rfl h
  · rfl

/-! ## The content -/

/-- The events of a text are laid out as a text that reads to the same events but for layout. -/
theorem Reads.exists_layOut {cs : List Char} {events : List Event} (h : Reads cs events)
    (size : Nat) :
    ∃ events', Reads (layOut size false 0 (events.filter (!·.isLayout))) events' ∧
      events'.filter (!·.isLayout) = events.filter (!·.isLayout) := by
  obtain ⟨hback, hapart⟩ := h.readBack
  obtain ⟨laid, hlaid, hout⟩ := exists_laid size (events.filter (!·.isLayout)) false 0
  have hlaidBack := hlaid.readBack fun event hmem => hback event (List.mem_of_mem_filter hmem)
  have hlaidApart := hlaid.textsApart (textsApart_filter hapart)
  refine ⟨laid, ?_, ?_⟩
  · rw [hout]
    exact reads_flatMap_source hlaidBack hlaidApart
  · rw [hlaid.filter_eq, List.filter_filter]
    simp only [Bool.and_self]

/-- A text that does not begin with a byte-order mark stays as it is if it cannot be read, or its
tags do not match one by one. Otherwise it is laid out as a text that begins with no such mark
either, that can be read, whose tags match, and that reads to the same events but for layout. -/
theorem format_keeps_content (size : Nat) {cs : List Char} (hmark : cs.head? ≠ some '\ufeff') :
    ((events? cs = none ∨ ∃ events, events? cs = some events ∧ balanced events = false) →
      format size cs = cs) ∧
    ∀ events, events? cs = some events → balanced events = true →
      (format size cs).head? ≠ some '\ufeff' ∧
        ∃ events', events? (format size cs) = some events' ∧ balanced events' = true ∧
          events'.filter (!·.isLayout) = events.filter (!·.isLayout) := by
  -- Without the mark a text is well formed exactly if it can be read and its tags match.
  have hread : wellFormed? cs = (events? cs).filter balanced := by
    rw [wellFormed?, dropMark_eq_self hmark]
  refine ⟨fun hfault => ?_, fun events hevents hbalanced => ?_⟩
  · have hnone : wellFormed? cs = none := by
      rw [hread]
      rcases hfault with h | ⟨events, hevents, hbalanced⟩
      · rw [h]
        rfl
      · rw [hevents, Option.filter_some_eq_none.2]
        rw [hbalanced]
        exact Bool.false_ne_true
    rw [format, hnone]
  · have hformat : format size cs = layOut size false 0 (events.filter (!·.isLayout)) := by
      rw [format, hread, hevents, Option.filter_some_pos hbalanced]
    have hreads := events?_eq_some_iff.1 hevents
    obtain ⟨events', hreads', hcontent⟩ := hreads.exists_layOut size
    refine ⟨?_, events', ?_, ?_, hcontent⟩
    · rw [hformat]
      exact head?_layOut_ne_mark hreads hmark size 0
    · rw [hformat]
      exact events?_eq_some_iff.2 hreads'
    · rw [balanced_eq_of_filter_eq hcontent]
      exact hbalanced

/-- Nested elements with a quoted bracket, layout and text are laid out and keep their content. -/
theorem format_keeps_content_nested :
    "<A x='>'> <B/>\n<C>t</C ></A>".toList.head? ≠ some '\ufeff' ∧
      ∃ events', events? (format 4 "<A x='>'> <B/>\n<C>t</C ></A>".toList) = some events' ∧
        balanced events' = true ∧ events'.filter (!·.isLayout) =
          [.start "A x='>'".toList, .empty ['B'], .start ['C'], .text ['t'], .close ['C'],
            .close ['A']] := by
  have hmark : "<A x='>'> <B/>\n<C>t</C ></A>".toList.head? ≠ some '\ufeff' := by decide
  exact ⟨hmark, ((format_keeps_content 4 hmark).2
    [.start "A x='>'".toList, .text [' '], .empty ['B'], .text ['\n'], .start ['C'], .text ['t'],
      .close ['C'], .close ['A']] (by decide) (by decide)).2⟩

/-! ## Laying out again -/

/-- The content of a well-formed text: its events but for layout. -/
def content? (cs : List Char) : Option (List Event) :=
  (wellFormed? cs).map (·.filter (!·.isLayout))

/-- A text is laid out by its content, and stays as it is without any. -/
theorem format_eq_of_content? (size : Nat) (cs : List Char) :
    format size cs = ((content? cs).map (layOut size false 0)).getD cs := by
  unfold format content?
  cases wellFormed? cs with
  | none => rfl
  | some events => rfl

/-- Laying out keeps the content, and keeps a text without any from having one. -/
theorem content?_format {cs : List Char} (hmark : cs.head? ≠ some '\ufeff') (size : Nat) :
    content? (format size cs) = content? cs := by
  cases hread : wellFormed? cs with
  | none =>
    have hsame : format size cs = cs := by rw [format, hread]
    rw [hsame]
  | some events =>
    have hformat : format size cs = layOut size false 0 (events.filter (!·.isLayout)) := by
      rw [format, hread]
    obtain ⟨hevents, hbalanced⟩ := Option.filter_eq_some_iff.1 hread
    rw [dropMark_eq_self hmark, events?_eq_some_iff] at hevents
    obtain ⟨events', hreads', hcontent⟩ := hevents.exists_layOut size
    have hbalanced' : balanced events' = true := by
      rw [balanced_eq_of_filter_eq hcontent]
      exact hbalanced
    -- What is laid out begins with no mark either, so it is read as it stands.
    have hread' : wellFormed? (format size cs) = some events' := by
      rw [wellFormed?, hformat, dropMark_eq_self (head?_layOut_ne_mark hevents hmark size 0),
        events?_eq_some_iff.2 hreads', Option.filter_some_pos hbalanced']
    rw [content?, content?, hread', hread, Option.map_some, Option.map_some, hcontent]

/-- How a text that does not begin with a byte-order mark is laid out depends on its content alone.
Laid out once more, with whatever size, it is what it would have been at first; one that is not well
formed stays as it is however often it is laid out; and a well-formed one is laid out as another
text is exactly if the other has the same content. -/
theorem format_by_content {cs : List Char} (hmark : cs.head? ≠ some '\ufeff') :
    (∀ first second, format second (format first cs) = format second cs) ∧
    (wellFormed? cs = none →
      ∀ sizes : List Nat, sizes.foldl (fun text size => format size text) cs = cs) ∧
    ((wellFormed? cs).isSome = true → ∀ cs' : List Char, cs'.head? ≠ some '\ufeff' →
      ∀ size, format size cs = format size cs' ↔ content? cs = content? cs') := by
  -- Each part is what laying out makes of the content, which laying out keeps.
  refine ⟨fun first second => ?_, fun hnone sizes => ?_, fun hsome cs' hmark' size => ?_⟩
  · cases hcontent : content? cs with
    | none =>
      have hsame : format first cs = cs := by rw [format_eq_of_content?, hcontent]; rfl
      rw [hsame]
    | some content =>
      have hcontent' := (content?_format hmark first).trans hcontent
      rw [format_eq_of_content? second, format_eq_of_content? second cs, hcontent', hcontent]
      rfl
  · have hsame (size : Nat) : format size cs = cs := by rw [format, hnone]
    induction sizes with
    | nil => rfl
    | cons size sizes ih => rw [List.foldl_cons, hsame, ih]
  · constructor
    · intro heq
      rw [← content?_format hmark size, heq, content?_format hmark' size]
    · intro heq
      obtain ⟨events, hevents⟩ := Option.isSome_iff_exists.1 hsome
      have hcontent : content? cs = some (events.filter (!·.isLayout)) := by
        rw [content?, hevents, Option.map_some]
      rw [format_eq_of_content?, format_eq_of_content? size cs', ← heq, hcontent]
      rfl

/-- Nested elements laid out by four blanks and then by two stand as if by two at first, and as the
same elements do that had no layout. -/
theorem format_by_content_nested :
    "<A> <B/>\n<C>t</C ></A>".toList.head? ≠ some '\ufeff' ∧
      (wellFormed? "<A> <B/>\n<C>t</C ></A>".toList).isSome = true ∧
      "<A><B/><C>t</C></A>".toList.head? ≠ some '\ufeff' ∧
      format 2 (format 4 "<A> <B/>\n<C>t</C ></A>".toList) =
        "<A>\n  <B/>\n  <C>t</C>\n</A>".toList ∧
      format 2 "<A> <B/>\n<C>t</C ></A>".toList = format 2 "<A><B/><C>t</C></A>".toList := by
  have hmark : "<A> <B/>\n<C>t</C ></A>".toList.head? ≠ some '\ufeff' := by decide
  have hmark' : "<A><B/><C>t</C></A>".toList.head? ≠ some '\ufeff' := by decide
  have hsome : (wellFormed? "<A> <B/>\n<C>t</C ></A>".toList).isSome = true := by decide
  obtain ⟨hagain, -, halike⟩ := format_by_content hmark
  refine ⟨hmark, hsome, hmark', ?_, (halike hsome _ hmark' 2).2 (by decide)⟩
  rw [hagain 4 2]
  decide

end ViewForge.Markup
