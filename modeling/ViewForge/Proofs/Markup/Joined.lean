import ViewForge.Proofs.Markup.Content

/-!
# Markup texts one behind the other

What is read off a text is read off it also if more stands behind it, but for a text at its end,
which goes on (`readMarkup?_append`). So the events of texts one behind the other are the events of
each, in which texts that come to stand side by side are one (`Joins.append`). Each text that is
balanced stays so in any place, and elements around balanced events are balanced
(`balanced_append`, `balanced_element`).
-/

namespace ViewForge.Markup

/-! ## What stands behind -/

variable {cs rest : List Char} {event : Event} {events : List Event}

/-- A tag ends at the same bracket if more is put behind the text. -/
theorem tagEnd?_append_right {quote : Option Char} {content : List Char}
    (h : tagEnd? quote cs = some (content, rest)) (more : List Char) :
    tagEnd? quote (cs ++ more) = some (content, rest ++ more) := by
  obtain ⟨htext, rfl⟩ := tagEnd?_eq_some_iff.1 h
  exact tagEnd?_eq_some_iff.2 ⟨htext, by rw [List.append_assoc, List.cons_append]⟩

/-- A document type ends at the same bracket if more is put behind the text. -/
theorem doctypeEnd?_append_right {depth : Nat} {content : List Char}
    (h : doctypeEnd? depth cs = some (content, rest)) (more : List Char) :
    doctypeEnd? depth (cs ++ more) = some (content, rest ++ more) := by
  obtain ⟨htext, rfl⟩ := doctypeEnd?_eq_some_iff.1 h
  exact doctypeEnd?_eq_some_iff.2 ⟨htext, by rw [List.append_assoc, List.cons_append]⟩

/-- A construct behind `<!` is read off alike if more is put behind the text. Which of the three it
is stands at its start, so none of those before it comes up. -/
theorem readDeclaration?_append (h : readDeclaration? cs = some (event, rest))
    (more : List Char) : readDeclaration? (cs ++ more) = some (event, rest ++ more) := by
  unfold readDeclaration? at h ⊢
  cases hcomment : Text.after? ['-', '-'] cs with
  | some body =>
    rw [hcomment] at h
    obtain ⟨⟨content, after⟩, hcut, hpair⟩ := Option.map_eq_some_iff.1 h
    obtain ⟨rfl, rfl⟩ := Prod.mk.inj hpair
    rw [Text.after?_append_right hcomment more]
    dsimp only
    rw [Text.cut?_append_right hcut more]
    rfl
  | none =>
    rw [hcomment] at h
    have hnone (lead : List Char) (hlength : lead.length ≤ cs.length)
        (hlead : Text.after? lead cs = none) : Text.after? lead (cs ++ more) = none := by
      rw [← List.append_nil cs] at hlead
      exact Text.after?_append_eq_none hlength hlead more
    cases hcdata : Text.after? "[CDATA[".toList cs with
    | some body =>
      simp only [hcdata] at h
      obtain ⟨⟨content, after⟩, hcut, hpair⟩ := Option.map_eq_some_iff.1 h
      obtain ⟨rfl, rfl⟩ := Prod.mk.inj hpair
      have hlength : 2 ≤ cs.length := by
        rw [Text.eq_append_of_after? hcdata, List.length_append]
        exact Nat.le_add_right_of_le (by decide)
      rw [hnone ['-', '-'] hlength hcomment, Text.after?_append_right hcdata more]
      dsimp only
      rw [Text.cut?_append_right hcut more]
      rfl
    | none =>
      simp only [hcdata, Option.bind_eq_bind, Option.bind_eq_some_iff] at h
      obtain ⟨body, hbody, ⟨content, after⟩, hend, h⟩ := h
      obtain ⟨hlength, hmore⟩ := Text.afterIgnoringCase?_append_right hbody more
      have hseven : 7 + body.length = cs.length := hlength
      split at h
      case isTrue => exact nomatch h
      case isFalse hne =>
        obtain ⟨rfl, rfl⟩ := Prod.mk.inj (Option.some.inj h)
        rw [hnone ['-', '-'] (show 2 ≤ cs.length by omega) hcomment,
          hnone "[CDATA[".toList (show 7 ≤ cs.length by omega) hcdata]
        simp only [hmore, doctypeEnd?_append_right hend more, Option.bind_eq_bind,
          Option.bind_some, if_neg hne]

/-- Markup is read off alike if more is put behind the text. -/
theorem readMarkup?_append (h : readMarkup? cs = some (event, rest)) (more : List Char) :
    readMarkup? (cs ++ more) = some (event, rest ++ more) := by
  unfold readMarkup? at h
  split at h
  case h_1 body => exact readDeclaration?_append h more
  case h_2 body =>
    split at h
    case h_1 c content after hcut =>
      obtain ⟨rfl, rfl⟩ := Prod.mk.inj (Option.some.inj h)
      exact readMarkup?_instruction (Text.cut?_append_right hcut more)
    case h_2 => exact nomatch h
  case h_3 body =>
    obtain ⟨⟨name, after⟩, htag, hpair⟩ := Option.map_eq_some_iff.1 h
    obtain ⟨rfl, rfl⟩ := Prod.mk.inj hpair
    show (tagEnd? none (body ++ more)).map _ = _
    rw [tagEnd?_append_right htag more]
    rfl
  case h_4 hdeclaration hinstruction hclose =>
    obtain ⟨⟨content, after⟩, htag, hpair⟩ := Option.map_eq_some_iff.1 h
    obtain ⟨rfl, rfl⟩ := Prod.mk.inj hpair
    -- The tag has a character at least, which tells it from the other markup with more behind it
    -- too.
    have hhead : ∀ c ∈ (cs ++ more).head?, c ≠ '!' ∧ c ≠ '?' ∧ c ≠ '/' := by
      cases cs with
      | nil => exact nomatch htag
      | cons d body =>
        intro c hc
        obtain rfl : d = c := Option.some.inj hc
        exact ⟨fun heq => hdeclaration body (heq ▸ rfl), fun heq => hinstruction body (heq ▸ rfl),
          fun heq => hclose body (heq ▸ rfl)⟩
    rw [readMarkup?_tag hhead, tagEnd?_append_right htag more]
    rfl

/-- An event that is no text is read off alike if more is put behind the text. -/
theorem readEvent?_append (h : readEvent? cs = some (event, rest)) (hmarkup : event.isText = false)
    (more : List Char) : readEvent? (cs ++ more) = some (event, rest ++ more) := by
  have hopen : ∃ body, cs = '<' :: body := by
    by_contra hno
    have hhead : ∀ c ∈ cs.head?, c ≠ '<' := by
      rintro c hc rfl
      cases cs with
      | nil => exact nomatch hc
      | cons d body =>
        obtain rfl : d = '<' := Option.some.inj hc
        exact hno ⟨body, rfl⟩
    rw [readEvent?_of_head hhead] at h
    obtain ⟨rfl, -⟩ := Prod.mk.inj (Option.some.inj h)
    exact Bool.noConfusion hmarkup
  obtain ⟨body, rfl⟩ := hopen
  exact readMarkup?_append h more

/-! ## Texts side by side -/

/-- Events behind a text, which a text that comes first continues. -/
def withText (content : List Char) : List Event → List Event
  | .text next :: events => .text (content ++ next) :: events
  | events => if content.isEmpty then events else .text content :: events

/-- An event before others; a text joins one that comes first. -/
def Event.before : Event → List Event → List Event
  | .text content, events => withText content events
  | event, events => event :: events

/-- Events in which texts side by side are one. -/
def mergeTexts (events : List Event) : List Event := events.foldr Event.before []

/-- Markup stands before events as it is. -/
theorem Event.before_of_isText (h : event.isText = false) (events : List Event) :
    event.before events = event :: events := by
  cases event with
  | text => exact Bool.noConfusion h
  | _ => rfl

/-- A text that is not empty stands before events as it is if they do not begin with a text. -/
theorem withText_of_head {content : List Char} (hne : content ≠ [])
    (h : ∀ event ∈ events.head?, event.isText = false) :
    withText content events = .text content :: events := by
  unfold withText
  split
  case h_1 => exact Bool.noConfusion (h _ rfl)
  case h_2 => rw [if_neg (by rwa [List.isEmpty_iff])]

/-- An empty text is none. -/
theorem withText_nil (events : List Event) : withText [] events = events := by
  unfold withText
  split <;> rfl

/-- Events begin with a text or do not. -/
theorem head?_isText_or (events : List Event) :
    (∀ event ∈ events.head?, event.isText = false) ∨
      ∃ next others, events = .text next :: others := by
  cases events with
  | nil => exact .inl fun _ h => nomatch h
  | cons event events =>
    cases event with
    | text next => exact .inr ⟨next, events, rfl⟩
    | _ => exact .inl fun _ h => Option.some.inj h ▸ rfl

/-- A text before a text is both in one. -/
theorem withText_withText (first second : List Char) (events : List Event) :
    withText first (withText second events) = withText (first ++ second) events := by
  cases second with
  | nil => rw [withText_nil, List.append_nil]
  | cons c second =>
    rcases head?_isText_or events with hhead | ⟨next, others, rfl⟩
    · rw [withText_of_head (List.cons_ne_nil c second) hhead,
        withText_of_head (List.append_ne_nil_of_right_ne_nil _ (List.cons_ne_nil c second)) hhead]
      rfl
    · show Event.text (first ++ (c :: second ++ next)) :: others =
        Event.text (first ++ c :: second ++ next) :: others
      rw [List.append_assoc first]

/-- Texts may be joined first where more events stand behind. -/
theorem foldr_before_mergeTexts (events others : List Event) :
    (mergeTexts events).foldr Event.before others = events.foldr Event.before others := by
  induction events with
  | nil => rfl
  | cons event events ih =>
    rw [List.foldr_cons, ← ih]
    show (event.before (mergeTexts events)).foldr Event.before others = _
    cases event with
    | text content =>
      show (withText content (mergeTexts events)).foldr Event.before others =
        withText content ((mergeTexts events).foldr Event.before others)
      generalize mergeTexts events = merged
      -- A text that comes first among the others is joined with both, in either order.
      rcases head?_isText_or merged with hhead | ⟨next, rest, rfl⟩
      · cases content with
        | nil => rw [withText_nil, withText_nil]
        | cons c content =>
          rw [withText_of_head (List.cons_ne_nil c content) hhead]
          rfl
      · exact (withText_withText content next _).symm
    | _ => rfl

/-- Joining texts changes nothing in which tags match. -/
theorem closesAll_mergeTexts (events : List Event) :
    ∀ opened, closesAll opened (mergeTexts events) = closesAll opened events := by
  have htext (content : List Char) (events : List Event) (opened : List (List Char)) :
      closesAll opened (withText content events) = closesAll opened events := by
    unfold withText
    split
    · rfl
    · split <;> rfl
  induction events with
  | nil => exact fun _ => rfl
  | cons event events ih =>
    intro opened
    show closesAll opened (event.before (mergeTexts events)) = _
    -- Texts are joined with what is behind them, where nothing opens or closes.
    cases event with
    | text content => exact (htext content _ opened).trans (ih opened)
    | start content => exact ih _
    | close name =>
      cases opened with
      | nil => rfl
      | cons expected opened =>
        show (name == expected && closesAll opened (mergeTexts events)) = _
        rw [ih opened]
        rfl
    | _ => exact ih opened

/-! ## Joined texts -/

/-- A text reads to events, of which texts side by side are read as one. -/
def Joins (cs : List Char) (events : List Event) : Prop := Reads cs (mergeTexts events)

/-- A text without brackets goes on with the text that others begin with. -/
theorem Reads.withText {content : List Char} (hcontent : '<' ∉ content) (h : Reads cs events) :
    Reads (content ++ cs) (withText content events) := by
  cases content with
  | nil =>
    rw [withText_nil]
    exact h
  | cons c content =>
    have hhead : ∀ d ∈ (c :: content ++ cs).head?, d ≠ '<' := by
      rintro d hd rfl
      obtain rfl : c = '<' := Option.some.inj hd
      exact hcontent List.mem_cons_self
    have hall : ∀ d ∈ c :: content, (d != '<') = true := by
      intro d hd
      rw [bne_iff_ne]
      rintro rfl
      exact hcontent hd
    have hread := readEvent?_of_head hhead
    rw [List.takeWhile_append_of_pos hall, List.dropWhile_append_of_pos hall] at hread
    have hne : c :: content ++ cs ≠ [] := List.cons_ne_nil _ _
    cases h with
    | nil => exact .cons hne (by rw [hread, List.takeWhile_nil, List.append_nil]; rfl) .nil
    | @cons _ rest event events hcs hevent hrest =>
      by_cases hbracket : cs.head? = some '<'
      · -- The text ends before the bracket, and the first of the others is markup.
        have hmarkup : event.isText = false := by
          cases htext : event.isText with
          | false => rfl
          | true => exact absurd hbracket ((readsBack_of_readEvent? hcs hevent).2.2 htext).1
        have hspan : cs.takeWhile (· != '<') = [] ∧ cs.dropWhile (· != '<') = cs := by
          refine Text.span_of_head fun d hd => ?_
          obtain rfl : '<' = d := Option.some.inj (hbracket.symm.trans hd)
          rfl
        rw [hspan.1, hspan.2, List.append_nil] at hread
        have hfirst : ∀ e ∈ (event :: events).head?, e.isText = false := by
          intro e he
          obtain rfl : event = e := Option.some.inj he
          exact hmarkup
        rw [withText_of_head (List.cons_ne_nil c content) hfirst]
        exact .cons hne hread (.cons hcs hevent hrest)
      · have hfirst : ∀ d ∈ cs.head?, d ≠ '<' := by
          rintro d hd rfl
          exact hbracket hd
        rw [readEvent?_of_head hfirst] at hevent
        obtain ⟨rfl, rfl⟩ := Prod.mk.inj (Option.some.inj hevent)
        exact .cons hne hread hrest

/-- What two texts read to is read off them one behind the other. -/
theorem Reads.append {more : List Char} {others : List Event} (h : Reads cs events)
    (hmore : Reads more others) : Reads (cs ++ more) (events.foldr Event.before others) := by
  induction h with
  | nil => exact hmore
  | @cons cs rest event events hcs hevent hrest ih =>
    rw [List.foldr_cons]
    -- Markup ends in its own text. A last text goes on into the next one, so it is put before what
    -- that reads to.
    cases htext : event.isText with
    | false =>
      rw [Event.before_of_isText htext]
      exact .cons (List.append_ne_nil_of_left_ne_nil hcs _) (readEvent?_append hevent htext more) ih
    | true =>
      have hhead : ∀ c ∈ cs.head?, c ≠ '<' := by
        rintro c hc rfl
        exact ((readsBack_of_readEvent? hcs hevent).2.2 htext).1 hc
      rw [readEvent?_of_head hhead] at hevent
      obtain ⟨rfl, rfl⟩ := Prod.mk.inj (Option.some.inj hevent)
      have hcontent : '<' ∉ cs.takeWhile (· != '<') := fun hmem =>
        absurd (List.mem_takeWhile_imp hmem) (by decide)
      have happend := ih.withText hcontent
      rwa [← List.append_assoc, List.takeWhile_append_dropWhile] at happend

/-- A text reads to its events. -/
theorem Reads.joins (h : Reads cs events) : Joins cs events := by
  have happend := h.append .nil
  rwa [List.append_nil] at happend

/-- What a text is found to read to is what it reads to. -/
theorem joins_of_events? (h : events? cs = some events) : Joins cs events :=
  (events?_eq_some_iff.1 h).joins

/-- Texts one behind the other read to the events of each. -/
theorem Joins.append {more : List Char} {others : List Event} (h : Joins cs events)
    (hmore : Joins more others) : Joins (cs ++ more) (events ++ others) := by
  have happend := Reads.append h hmore
  rw [foldr_before_mergeTexts] at happend
  unfold Joins mergeTexts
  rwa [List.foldr_append]

/-- Texts with line breaks between them read to the events of each with those breaks between
them. -/
theorem joins_intercalate {texts : List (List Char)} {parts : List (List Event)}
    (h : List.Forall₂ Joins texts parts) :
    Joins (['\n'].intercalate texts) ([Event.text ['\n']].intercalate parts) := by
  have hbreak : Joins ['\n'] [.text ['\n']] := joins_of_events? (by decide)
  induction h with
  | nil => exact Reads.nil
  | @cons text part texts parts hfirst hrest ih =>
    cases hrest with
    | nil =>
      rw [List.intercalate_singleton, List.intercalate_singleton]
      exact hfirst
    | cons =>
      rw [List.intercalate_cons_cons, List.intercalate_cons_cons]
      exact (hfirst.append hbreak).append ih

/-- A start tag that reads back is read in front of a line break. -/
theorem joins_start {content : List Char} (h : (Event.start content).ReadsBack) :
    Joins ('<' :: content ++ ['>', '\n']) [.start content, .text ['\n']] := by
  have hbreak : (Event.text ['\n']).ReadsBack := ⟨by decide, by decide⟩
  have hreads : Reads ([Event.start content, .text ['\n']].flatMap Event.source)
      [.start content, .text ['\n']] :=
    reads_flatMap_source (List.forall_mem_cons.2 ⟨h, List.forall_mem_singleton.2 hbreak⟩)
      (List.isChain_pair.2 fun h => Bool.noConfusion h)
  have hsource : [Event.start content, .text ['\n']].flatMap Event.source =
      '<' :: content ++ ['>', '\n'] := by
    show '<' :: content ++ ['>'] ++ ['\n'] = _
    rw [List.append_assoc]
    rfl
  rw [hsource] at hreads
  exact hreads.joins

/-- An end tag that reads back is read behind a line break. -/
theorem joins_close {name : List Char} (h : (Event.close name).ReadsBack) :
    Joins (['\n', '<', '/'] ++ name ++ ['>']) [.text ['\n'], .close name] := by
  have hbreak : (Event.text ['\n']).ReadsBack := ⟨by decide, by decide⟩
  have hreads : Reads ([Event.text ['\n'], .close name].flatMap Event.source)
      [.text ['\n'], .close name] :=
    reads_flatMap_source (List.forall_mem_cons.2 ⟨hbreak, List.forall_mem_singleton.2 h⟩)
      (List.isChain_pair.2 fun _ => rfl)
  have hsource : [Event.text ['\n'], .close name].flatMap Event.source =
      ['\n', '<', '/'] ++ name ++ ['>'] := by
    show ['\n'] ++ ('<' :: '/' :: name ++ ['>'] ++ []) = _
    rw [List.append_nil]
    rfl
  rw [hsource] at hreads
  exact hreads.joins

/-- A byte-order mark at the start of texts on lines of their own is one at the start of the first
of them. -/
theorem dropMark_intercalate (texts : List (List Char)) :
    dropMark (['\n'].intercalate texts) = ['\n'].intercalate (texts.modifyHead dropMark) := by
  -- The first line is followed by a line feed, so a mark can only be its own.
  have happend (cs more : List Char) :
      dropMark (cs ++ ['\n'] ++ more) = dropMark cs ++ ['\n'] ++ more := by
    cases cs with
    | nil => rfl
    | cons c cs =>
      by_cases hmark : c = '\ufeff'
      · rw [hmark]
        rfl
      · have hkept (rest : List Char) : dropMark (c :: rest) = c :: rest :=
          dropMark_eq_self fun h => hmark (Option.some.inj h)
        rw [List.cons_append, List.cons_append, hkept, hkept]
        rfl
  cases texts with
  | nil => rfl
  | cons text texts =>
    cases texts with
    | nil => rw [List.modifyHead_cons, List.intercalate_singleton, List.intercalate_singleton]
    | cons next texts =>
      rw [List.modifyHead_cons, List.intercalate_cons_cons, List.intercalate_cons_cons, happend]

/-! ## Balanced events -/

/-- Balanced events close what they open, whatever is open before them. -/
theorem closesAll_append {inner : List (List Char)} (h : closesAll inner events = true)
    (opened : List (List Char)) (others : List Event) :
    closesAll (inner ++ opened) (events ++ others) = closesAll opened others := by
  induction events generalizing inner with
  | nil =>
    rw [List.isEmpty_iff.1 h]
    rfl
  | cons event events ih =>
    -- What the events close stands in `inner`, so `opened` is reached only behind them.
    cases event with
    | start content => exact ih h
    | close name =>
      cases inner with
      | nil => exact Bool.noConfusion h
      | cons expected inner =>
        obtain ⟨hname, hrest⟩ := Bool.and_eq_true_iff.1 h
        show (name == expected && closesAll (inner ++ opened) (events ++ others)) = _
        rw [hname, Bool.true_and, ih hrest]
    | _ => exact ih h

/-- Balanced events one behind the other are balanced. -/
theorem balanced_append {others : List Event} (h : balanced events = true)
    (hothers : balanced others = true) : balanced (events ++ others) = true := by
  rw [← hothers]
  exact closesAll_append h [] others

/-- Balanced events with balanced events between them are balanced. -/
theorem balanced_intercalate {parts : List (List Event)}
    (h : ∀ part ∈ parts, balanced part = true) :
    balanced ([Event.text ['\n']].intercalate parts) = true := by
  induction parts with
  | nil => rfl
  | cons part parts ih =>
    obtain ⟨hpart, hparts⟩ := List.forall_mem_cons.1 h
    cases parts with
    | nil =>
      rw [List.intercalate_singleton]
      exact hpart
    | cons next parts =>
      rw [List.intercalate_cons_cons]
      exact balanced_append (balanced_append hpart rfl) (ih hparts)

/-- An element is balanced if what stands in it is and its end tag has its name. -/
theorem balanced_element {content name : List Char} (hname : Event.tagName content = name)
    (h : balanced events = true) :
    balanced (.start content :: events ++ [.close name]) = true := by
  show closesAll ([] ++ [Event.tagName content]) (events ++ [.close name]) = true
  rw [closesAll_append h, hname]
  show (name == name && true) = true
  rw [beq_self_eq_true, Bool.and_self]

/-- A text that reads to balanced events is well formed. -/
theorem wellFormed?_of_joins (h : Joins (dropMark cs) events) (hbalanced : balanced events = true) :
    wellFormed? cs = some (mergeTexts events) := by
  have hmerged : balanced (mergeTexts events) = true :=
    (closesAll_mergeTexts events []).trans hbalanced
  rw [wellFormed?, events?_eq_some_iff.2 h, Option.filter_some_pos hmerged]

/-- A well-formed text reads to balanced events, with the byte-order mark at its start as text. -/
theorem exists_reads_of_wellFormed? (h : (wellFormed? cs).isSome = true) :
    ∃ events, Reads cs events ∧ balanced events = true := by
  obtain ⟨events, hread⟩ := Option.isSome_iff_exists.1 h
  obtain ⟨hevents, hbalanced⟩ := Option.filter_eq_some_iff.1 hread
  rw [events?_eq_some_iff] at hevents
  unfold dropMark at hevents
  split at hevents
  case h_1 rest =>
    have hmark : Reads (['\ufeff'] ++ rest) (withText ['\ufeff'] events) :=
      hevents.withText (by decide)
    refine ⟨_, hmark, ?_⟩
    rw [← hbalanced]
    unfold withText
    split
    · rfl
    · rfl
  case h_2 => exact ⟨events, hevents, hbalanced⟩

end ViewForge.Markup
