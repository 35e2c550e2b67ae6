import ViewForge.Proofs.Markup.Reading
import ViewForge.Proofs.Template.Cut
import ViewForge.Template.Name

/-!
# The element around a position

The element of a position is looked for backwards, from the last opening bracket, while the layout
reads tags forwards and lets quotes hide brackets (`InTag`). The two find the same element if no
bracket stands between the name of the tag and the position; with one there, the text between the
two alone decides (`enclosingElement_iff`).

Between tags the word for no element is the answer. Each event that is read leaves a text that is
closed, which no character of a following text changes: a tag, comment or any other markup ends in a
bracket, and a text holds no opening one (`closed_of_passes`).
-/

namespace ViewForge.Markup

/-! ## What is read off -/

variable {cs rest : List Char} {event : Event}

/-- A construct behind `<!` ends in a closing bracket. -/
theorem closing_suffix_of_readDeclaration? (h : readDeclaration? cs = some (event, rest)) :
    '>' :: rest <:+ cs := by
  -- A comment and a section of character data end alike, but for the mark before the bracket.
  have hmarked (mark : List Char) {lead body content after : List Char}
      (hbody : Text.after? lead cs = some body)
      (hcut : Text.cut? (mark ++ ['>']) body = some (content, after)) : '>' :: after <:+ cs := by
    rw [Text.eq_append_of_after? hbody, Text.eq_append_of_cut? hcut, List.append_assoc,
      List.singleton_append]
    exact ((List.suffix_append mark _).trans (List.suffix_append content _)).trans
      (List.suffix_append lead _)
  unfold readDeclaration? at h
  split at h
  case h_1 body hbody =>
    obtain ⟨⟨content, after⟩, hmark, hpair⟩ := Option.map_eq_some_iff.1 h
    obtain ⟨-, rfl⟩ := Prod.mk.inj hpair
    exact hmarked ['-', '-'] hbody hmark
  case h_2 =>
    split at h
    case h_1 body hbody =>
      obtain ⟨⟨content, after⟩, hmark, hpair⟩ := Option.map_eq_some_iff.1 h
      obtain ⟨-, rfl⟩ := Prod.mk.inj hpair
      exact hmarked [']', ']'] hbody hmark
    case h_2 =>
      simp only [Option.bind_eq_bind, Option.bind_eq_some_iff] at h
      obtain ⟨body, hbody, ⟨content, after⟩, hend, h⟩ := h
      obtain ⟨-, hcontent⟩ := doctypeEnd?_eq_some_iff.1 hend
      split at h
      case isTrue => exact nomatch h
      case isFalse =>
        obtain ⟨-, rfl⟩ := Prod.mk.inj (Option.some.inj h)
        rw [hcontent] at hbody
        exact (List.suffix_append content _).trans (Text.suffix_of_afterIgnoringCase? hbody)

/-- Markup ends in a closing bracket. -/
theorem closing_suffix_of_readMarkup? (h : readMarkup? cs = some (event, rest)) :
    '>' :: rest <:+ cs := by
  -- A declaration, an instruction, a closing tag and any other tag, each up to its bracket.
  unfold readMarkup? at h
  split at h
  case h_1 body => exact (closing_suffix_of_readDeclaration? h).trans (List.suffix_cons _ _)
  case h_2 body =>
    split at h
    case h_1 c content after hcut =>
      obtain ⟨-, rfl⟩ := Prod.mk.inj (Option.some.inj h)
      rw [Text.eq_append_of_cut? hcut]
      exact (List.suffix_append ['?'] _).trans (List.suffix_append (c :: content) _)
    case h_2 => exact nomatch h
  case h_3 body =>
    obtain ⟨⟨name, after⟩, htag, hpair⟩ := Option.map_eq_some_iff.1 h
    obtain ⟨-, rfl⟩ := Prod.mk.inj hpair
    rw [(tagEnd?_eq_some_iff.1 htag).2]
    exact (List.suffix_append name _).trans (List.suffix_cons _ _)
  case h_4 =>
    obtain ⟨⟨content, after⟩, htag, hpair⟩ := Option.map_eq_some_iff.1 h
    obtain ⟨-, rfl⟩ := Prod.mk.inj hpair
    rw [(tagEnd?_eq_some_iff.1 htag).2]
    exact List.suffix_append content _

/-- What is read off a text is markup, which ends in a closing bracket, or holds no opening one. -/
theorem used_of_readEvent? {used : List Char}
    (h : readEvent? (used ++ rest) = some (event, rest)) :
    used.getLast? = some '>' ∨ '<' ∉ used := by
  cases used with
  | nil => exact .inr List.not_mem_nil
  | cons c used =>
    -- Markup is read up to its closing bracket, text up to the next opening one.
    by_cases hc : c = '<'
    · subst hc
      obtain ⟨inside, hinside⟩ := closing_suffix_of_readMarkup? h
      have hused : used = inside ++ ['>'] := by
        have hwhole : used ++ rest = inside ++ ['>'] ++ rest := by
          rw [List.append_assoc]
          exact hinside.symm
        exact List.append_cancel_right hwhole
      rw [hused, ← List.cons_append, List.getLast?_append]
      exact .inl rfl
    · have hhead : ∀ d ∈ (c :: used ++ rest).head?, d ≠ '<' := by
        rintro d ⟨⟩
        exact hc
      rw [readEvent?_of_head hhead] at h
      have hrest := (Prod.mk.inj (Option.some.inj h)).2
      have hused : (c :: used ++ rest).takeWhile (· != '<') = c :: used := by
        have hwhole : (c :: used ++ rest).takeWhile (· != '<') ++ rest = c :: used ++ rest := by
          nth_rewrite 2 [← hrest]
          exact List.takeWhile_append_dropWhile
        exact List.append_cancel_right hwhole
      refine .inr fun hmem => ?_
      rw [← hused] at hmem
      exact absurd (List.mem_takeWhile_imp hmem) (by decide)

/-- What stands between the brackets of a tag is its content, with the slash of an empty one. -/
theorem inside_of_tagOf {inside content : List Char}
    (h : tagOf inside = .start content ∨ tagOf inside = .empty content) :
    inside = content ∨ inside = content ++ ['/'] := by
  have hsource := source_tagOf inside
  rcases h with h | h
  · rw [h] at hsource
    exact .inl (List.append_cancel_right (List.cons.inj hsource).2).symm
  · rw [h] at hsource
    have hwhole : content ++ ['/'] ++ ['>'] = inside ++ ['>'] := by
      rw [List.append_assoc]
      exact (List.cons.inj hsource).2
    exact .inr (List.append_cancel_right hwhole).symm

/-- What is read behind a bracket that no mark of other markup follows is a tag. -/
theorem eq_tagOf_of_readEvent? {inside : List Char}
    (hhead : ∀ c ∈ (inside ++ '>' :: rest).head?, c ≠ '!' ∧ c ≠ '?' ∧ c ≠ '/')
    (h : readEvent? ('<' :: inside ++ '>' :: rest) = some (event, rest)) :
    event = tagOf inside := by
  have hread : readMarkup? (inside ++ '>' :: rest) = some (event, rest) := h
  rw [readMarkup?_tag hhead] at hread
  obtain ⟨⟨content, after⟩, htag, hpair⟩ := Option.map_eq_some_iff.1 hread
  obtain ⟨rfl, rfl⟩ := Prod.mk.inj hpair
  rw [List.append_cancel_right (tagEnd?_eq_some_iff.1 htag).2]

/-- Reading a text event by event passes its beginning and comes to what stands behind it. -/
inductive Passes : List Char → List Char → Prop
  /-- Reading comes to the text itself. -/
  | start {cs : List Char} : Passes [] cs
  /-- It comes to what stands behind the next event. -/
  | event {front used rest : List Char} (event : Event) (hfront : Passes front (used ++ rest))
    (hevent : readEvent? (used ++ rest) = some (event, rest)) : Passes (front ++ used) rest

end ViewForge.Markup

namespace ViewForge.Template

open Markup (Event Passes isMarkupBlank readEvent? used_of_readEvent?)

/-! ## The last bracket -/

/-- Whether no tag is open at the end of a text: behind the last opening bracket stands a closing
one. -/
def Closed (cs : List Char) : Prop := '<' ∈ cs → '>' ∈ Text.behindLast '<' cs

/-- No element encloses the end of a text that is closed. -/
theorem Closed.enclosingElement_eq {cs : List Char} (h : Closed cs) :
    enclosingElement cs = defaultElement := by
  refine if_pos ?_
  rw [Bool.or_eq_true, Bool.not_eq_true', List.contains_eq_mem, List.contains_eq_mem,
    decide_eq_false_iff_not, decide_eq_true_iff]
  exact Decidable.not_or_of_imp h

/-- At the end of a text that is not closed stands the local name that the letters behind its last
opening bracket give, if there is one. -/
theorem enclosingElement_of_not_closed {cs : List Char} (h : ¬Closed cs)
    (hname : localName ((Text.behindLast '<' cs).takeWhile isElementLetter) ≠ []) :
    enclosingElement cs = localName ((Text.behindLast '<' cs).takeWhile isElementLetter) := by
  obtain ⟨hopening, hclosing⟩ := Classical.not_imp.1 h
  have hopen : ¬(!cs.contains '<' || (Text.behindLast '<' cs).contains '>') = true := by
    simp [hopening, hclosing]
  exact (if_neg hopen).trans (if_neg (by rwa [List.isEmpty_iff]))

/-- What encloses the end of a text is decided from its last opening bracket on. -/
theorem enclosingElement_append_of_mem {cs more : List Char} (h : '<' ∈ more) :
    enclosingElement (cs ++ more) = enclosingElement more := by
  have htail := Text.behindLast_append_of_mem h cs
  unfold Text.behindLast at htail
  have hopening : (cs ++ more).contains '<' = more.contains '<' := by
    simp [h]
  rw [enclosingElement, enclosingElement, htail, hopening]

/-- A text that is closed stays so before one without an opening bracket. -/
theorem Closed.append {cs more : List Char} (h : Closed cs) (hmore : '<' ∉ more) :
    Closed (cs ++ more) := by
  intro hmem
  rw [Text.behindLast_append hmore]
  exact List.mem_append_left _ (h ((List.mem_append.1 hmem).resolve_right hmore))

/-- A text that ends in a closing bracket is closed. -/
theorem closed_of_getLast? {cs : List Char} (h : cs.getLast? = some '>') : Closed cs := by
  intro _
  obtain ⟨before, rfl⟩ := List.getLast?_eq_some_iff.1 h
  rw [Text.behindLast_append (by decide)]
  exact List.mem_append_right _ List.mem_cons_self

/-- A text that is passed event by event is closed. -/
theorem closed_of_passes {front rest : List Char} (h : Passes front rest) : Closed front := by
  induction h with
  | start => exact fun hmem => absurd hmem List.not_mem_nil
  | @event front used rest event hfront hevent ih =>
    rcases used_of_readEvent? hevent with hlast | hopening
    · refine closed_of_getLast? ?_
      rw [List.getLast?_append, hlast]
      rfl
    · exact ih.append hopening

/-! ## Positions -/

/-- The beginning of a text is found by its bytes. -/
theorem takeBytes_byteSize (front rest : List Char) :
    takeBytes (byteSize front) (front ++ rest) = front := by
  induction front with
  | nil => cases rest <;> rfl
  | cons c front ih =>
    have hpos := c.utf8Size_pos
    rw [List.cons_append, byteSize_cons, takeBytes, Nat.add_sub_cancel_left, ih]
    omega

/-- Whether a byte offset of a template lies in a start tag or an empty tag behind its name, and
`part` stands between the two. The template is read event by event up to the tag, which ends where
the layout takes it to end. -/
inductive InTag (template : List Char) (offset : Nat) (name part : List Char) : Prop
  /-- The tag begins behind `front`, and `after` stands in it from the offset on. -/
  | intro (front after rest content : List Char) (tag : Event)
    (htemplate : template = front ++ ('<' :: (name ++ part ++ after) ++ '>' :: rest))
    (hoffset : offset = byteSize (front ++ '<' :: (name ++ part)))
    (hfront : Passes front ('<' :: (name ++ part ++ after) ++ '>' :: rest))
    (htag : readEvent? ('<' :: (name ++ part ++ after) ++ '>' :: rest) = some (tag, rest))
    (hcontent : tag = .start content ∨ tag = .empty content)
    (hname : Event.tagName content = name)

/-- Whether a byte offset of a template lies in a text between markup or at one of its ends. -/
inductive InText (template : List Char) (offset : Nat) : Prop
  /-- The text begins behind `front`, and `part` stands in it up to the offset. -/
  | intro (front part after rest : List Char)
    (htemplate : template = front ++ (part ++ after ++ rest))
    (hoffset : offset = byteSize (front ++ part))
    (hfront : Passes front (part ++ after ++ rest))
    (htext : readEvent? (part ++ after ++ rest) = some (.text (part ++ after), rest))

/-- A character of an element name is none of the characters that are not. -/
theorem ne_of_isElementLetter {c d : Char} (h : isElementLetter c = true)
    (hd : isElementLetter d = false) : c ≠ d := by
  rintro rfl
  rw [h] at hd
  exact Bool.noConfusion hd

/-- A blank is no character of an element name. -/
theorem isElementLetter_of_isMarkupBlank {c : Char} (h : isMarkupBlank c = true) :
    isElementLetter c = false := by
  simp only [isMarkupBlank, Bool.or_eq_true, beq_iff_eq] at h
  rcases h with ((rfl | rfl) | rfl) | rfl <;> decide +kernel

/-- What stands in a tag behind its name begins with no character of an element name. -/
theorem isElementLetter_behind_name {name behind content : List Char}
    (hinside : name ++ behind = content ∨ name ++ behind = content ++ ['/'])
    (hname : Event.tagName content = name) : ∀ c ∈ behind.head?, isElementLetter c = false := by
  have hcontent : content = name ++ content.dropWhile (!isMarkupBlank ·) := by
    rw [← hname]
    exact List.takeWhile_append_dropWhile.symm
  have hblank : ∀ c ∈ (content.dropWhile (!isMarkupBlank ·)).head?, isElementLetter c = false := by
    intro c hc
    have hblank := Text.head_dropWhile (!isMarkupBlank ·) content c hc
    exact isElementLetter_of_isMarkupBlank (by simpa using hblank)
  generalize content.dropWhile (!isMarkupBlank ·) = others at hcontent hblank
  rw [hcontent] at hinside
  -- What closes an element in one tag is a stroke, which is no character of a name either.
  rcases hinside with h | h
  · rwa [List.append_cancel_left h]
  · rw [List.append_assoc] at h
    rw [List.append_cancel_left h]
    cases others with
    | nil =>
      rintro c ⟨⟩
      decide +kernel
    | cons d others => exact hblank

/-- Where a text ends behind the name of an element in an opening bracket, the search finds that
element if no bracket stands behind the name. Otherwise it sees nothing but what stands there. -/
theorem enclosingElement_behind_name (front : List Char) {name part : List Char}
    (hletters : ∀ c ∈ name, isElementLetter c = true) (hlocal : localName name ≠ [])
    (hbehind : ∀ c ∈ part.head?, isElementLetter c = false) :
    ('<' ∉ part → '>' ∉ part →
      enclosingElement (front ++ '<' :: (name ++ part)) = localName name) ∧
    ('<' ∈ part ∨ '>' ∈ part →
      enclosingElement (front ++ '<' :: (name ++ part)) = enclosingElement part) := by
  have hnone {d : Char} (hd : isElementLetter d = false) (hpart : d ∉ part) : d ∉ name ++ part :=
    fun hmem => (List.mem_append.1 hmem).elim
      (fun hname => ne_of_isElementLetter (hletters d hname) hd rfl) hpart
  have htail (hopening : '<' ∉ part) :
      Text.behindLast '<' (front ++ '<' :: (name ++ part)) = name ++ part :=
    Text.behindLast_eq (hnone (by decide +kernel) hopening) front
  constructor
  · intro hopening hclosing
    have hopen : ¬Closed (front ++ '<' :: (name ++ part)) := by
      intro hclosed
      have hmem := hclosed (List.mem_append_right _ List.mem_cons_self)
      rw [htail hopening] at hmem
      exact hnone (by decide +kernel) hclosing hmem
    have hword : (Text.behindLast '<' (front ++ '<' :: (name ++ part))).takeWhile isElementLetter =
        name := by
      rw [htail hopening]
      exact (Text.span_append hletters hbehind).1
    rw [enclosingElement_of_not_closed hopen (by rwa [hword]), hword]
  · intro hbracket
    -- A bracket that opens in `part` is the last one. With one that closes only, the tag is closed
    -- before the end.
    by_cases hopening : '<' ∈ part
    · have hsplit : front ++ '<' :: (name ++ part) = (front ++ '<' :: name) ++ part := by simp
      rw [hsplit, enclosingElement_append_of_mem hopening]
    · have hclosed : Closed (front ++ '<' :: (name ++ part)) := by
        intro _
        rw [htail hopening]
        exact List.mem_append_right _ (hbracket.resolve_left hopening)
      have hpart : Closed part := fun hmem => absurd hmem hopening
      rw [hclosed.enclosingElement_eq, hpart.enclosingElement_eq]

/-- Up to an offset in a tag behind its name a template ends in the tag's bracket, its name and what
stands behind this, which goes on with no character of the name. -/
theorem InTag.takeBytes_eq {template name part : List Char} {offset : Nat}
    (h : InTag template offset name part) (hletters : ∀ c ∈ name, isElementLetter c = true)
    (hsome : name ≠ []) :
    (∃ front, takeBytes offset template = front ++ '<' :: (name ++ part)) ∧
      ∀ c ∈ part.head?, isElementLetter c = false := by
  obtain ⟨front, after, rest, content, tag, htemplate, hoffset, -, htag, hcontent, hname⟩ := h
  refine ⟨⟨front, ?_⟩, ?_⟩
  · have hcut : template = front ++ '<' :: (name ++ part) ++ (after ++ '>' :: rest) := by
      rw [htemplate]
      simp
    rw [hcut, hoffset, takeBytes_byteSize]
  -- A name begins with a letter, so the markup that is read there is a tag.
  · have hhead : ∀ c ∈ (name ++ part ++ after ++ '>' :: rest).head?,
        c ≠ '!' ∧ c ≠ '?' ∧ c ≠ '/' := by
      cases name with
      | nil => exact absurd rfl hsome
      | cons d name =>
        rintro c ⟨⟩
        have hd := hletters d List.mem_cons_self
        exact ⟨ne_of_isElementLetter hd (by decide +kernel),
          ne_of_isElementLetter hd (by decide +kernel),
          ne_of_isElementLetter hd (by decide +kernel)⟩
    rw [Markup.eq_tagOf_of_readEvent? hhead htag] at hcontent
    have hinside := Markup.inside_of_tagOf hcontent
    rw [List.append_assoc] at hinside
    intro c hc
    refine isElementLetter_behind_name hinside hname c ?_
    rw [List.head?_append, Option.mem_def.1 hc]
    rfl

/-- In a text between markup no element is found. -/
theorem InText.enclosingElement_eq {template : List Char} {offset : Nat}
    (h : InText template offset) :
    enclosingElement (takeBytes offset template) = defaultElement := by
  obtain ⟨front, part, after, rest, htemplate, hoffset, hfront, htext⟩ := h
  have hbefore : takeBytes offset template = front ++ part := by
    rw [htemplate, hoffset, List.append_assoc part, ← List.append_assoc front,
      takeBytes_byteSize]
  have hpart : '<' ∉ part := by
    by_cases hnil : part ++ after ++ rest = []
    · rw [List.append_assoc] at hnil
      rw [(List.append_eq_nil_iff.1 hnil).1]
      exact List.not_mem_nil
    · have hback := (Markup.readsBack_of_readEvent? hnil htext).1
      exact fun hmem => hback.2 (List.mem_append_left _ hmem)
  rw [hbefore]
  exact ((closed_of_passes hfront).append hpart).enclosingElement_eq

/-- The element that is found for an offset in a tag behind its name is that tag's exactly if no
bracket stands between the two, or the text between them happens to give the same word: with a
bracket there, that text alone gives the answer, whatever the tag. For an offset in a text between
markup it is the word for no element. -/
theorem enclosingElement_iff (template : List Char) (offset : Nat) :
    (∀ name part, InTag template offset name part →
      (∀ c ∈ name, isElementLetter c = true) → localName name ≠ [] →
        (enclosingElement (takeBytes offset template) = localName name ↔
          ('<' ∉ part ∧ '>' ∉ part) ∨ enclosingElement part = localName name) ∧
        ('<' ∈ part ∨ '>' ∈ part →
          enclosingElement (takeBytes offset template) = enclosingElement part)) ∧
    (InText template offset →
      enclosingElement (takeBytes offset template) = defaultElement) := by
  refine ⟨fun name part htag hletters hlocal => ?_, InText.enclosingElement_eq⟩
  have hsome : name ≠ [] := by
    rintro rfl
    exact hlocal rfl
  obtain ⟨⟨front, hbefore⟩, hbehind⟩ := htag.takeBytes_eq hletters hsome
  obtain ⟨hfound, hhidden⟩ := enclosingElement_behind_name front hletters hlocal hbehind
  rw [hbefore]
  refine ⟨?_, hhidden⟩
  -- Without a bracket in `part` the tag is found, with one `part` alone is searched.
  by_cases hbracket : '<' ∈ part ∨ '>' ∈ part
  · rw [hhidden hbracket]
    exact ⟨.inr, fun h => h.resolve_left fun hnone => hbracket.elim hnone.1 hnone.2⟩
  · have hnone := not_or.1 hbracket
    exact ⟨fun _ => .inl hnone, fun _ => hfound hnone.1 hnone.2⟩

/-- An offset in the second tag of a template and one in the text before it. -/
theorem enclosingElement_iff_row :
    InTag "<A/>ü<c:Row.Tag B=\"$xname$\"/>".toList 20 "c:Row.Tag".toList " B=\"".toList ∧
    (∀ c ∈ "c:Row.Tag".toList, isElementLetter c = true) ∧ localName "c:Row.Tag".toList ≠ [] ∧
    InText "<A/>ü<c:Row.Tag B=\"$xname$\"/>".toList 6 ∧
    enclosingElement (takeBytes 20 "<A/>ü<c:Row.Tag B=\"$xname$\"/>".toList) =
      localName "c:Row.Tag".toList ∧
    enclosingElement (takeBytes 6 "<A/>ü<c:Row.Tag B=\"$xname$\"/>".toList) = defaultElement := by
  have hrest : "ü<c:Row.Tag B=\"$xname$\"/>".toList =
      ['ü'] ++
        ('<' :: ("c:Row.Tag".toList ++ " B=\"".toList ++ "$xname$\"/".toList) ++ ['>']) := by
    decide +kernel
  have hfirst : Passes ([] ++ "<A/>".toList) "ü<c:Row.Tag B=\"$xname$\"/>".toList :=
    .event (.empty ['A']) .start (by decide +kernel)
  rw [hrest] at hfirst
  have htag : InTag "<A/>ü<c:Row.Tag B=\"$xname$\"/>".toList 20 "c:Row.Tag".toList
      " B=\"".toList :=
    .intro _ _ _ "c:Row.Tag B=\"$xname$\"".toList _ (by decide +kernel) (by decide +kernel)
      (.event (.text ['ü']) hfirst (by decide +kernel)) (by decide +kernel) (.inr rfl)
      (by decide +kernel)
  have htext : InText "<A/>ü<c:Row.Tag B=\"$xname$\"/>".toList 6 :=
    .intro _ ['ü'] [] _ (by decide +kernel) (by decide +kernel) hfirst (by decide +kernel)
  have hletters : ∀ c ∈ "c:Row.Tag".toList, isElementLetter c = true :=
    List.all_eq_true.1 (by decide +kernel)
  have hlocal : localName "c:Row.Tag".toList ≠ [] := by decide +kernel
  have hfound := ((enclosingElement_iff _ _).1 _ _ htag hletters hlocal).1.2
    (.inl (by decide +kernel))
  exact ⟨htag, hletters, hlocal, htext, hfound, (enclosingElement_iff _ _).2 htext⟩

/-- A closing bracket in a quoted value hides the tag that it stands in. -/
theorem quotedBracket_hides_tag :
    InTag "<TextBlock Text=\"a > b\" x:Name=\"$xname$\" />".toList 32
      "TextBlock".toList " Text=\"a > b\" x:Name=\"".toList ∧
    (∀ c ∈ "TextBlock".toList, isElementLetter c = true) ∧
    localName "TextBlock".toList = "TextBlock".toList ∧
    enclosingElement (takeBytes 32 "<TextBlock Text=\"a > b\" x:Name=\"$xname$\" />".toList) =
      "Element".toList :=
  ⟨.intro [] "$xname$\" /".toList [] "TextBlock Text=\"a > b\" x:Name=\"$xname$\" ".toList _
      (by decide +kernel) (by decide +kernel) .start (by decide +kernel) (.inr rfl)
      (by decide +kernel),
    List.all_eq_true.1 (by decide +kernel), by decide +kernel, by decide +kernel⟩

end ViewForge.Template
