import ViewForge.Proofs.Markup.Joined
import ViewForge.Proofs.Render.Call

/-!
# The element around a class is well formed

A grouping is empty, a word for a grid, or the name of an element with attributes. The text of a
class is then its members inside one element or none, and is well formed if the text of each member
is (`classText_wellFormed`): the start tag ends at the bracket that is put behind it, since quotes
in it are closed, and the end tag has the name that the start tag is read to have, since what ends
the first word of the grouping also ends that name.

`Container.around` gives the events of such a text, and `Container.wrap_eq` its text; both are made
of the same parts.
-/

namespace ViewForge.Render

open Markup (Event Joins IsTagText dropMark events? events?_eq_some_iff isMarkupBlank mergeTexts
  wellFormed?)

/-! ## Groupings as they are written -/

/-- A name of an element: letters, digits and the three marks that may stand in a name. -/
def IsElementName (name : List Char) : Prop :=
  name ≠ [] ∧ ∀ c ∈ name, Template.isElementLetter c = true

/-- A character of an attribute's name. -/
def isAttributeLetter (c : Char) : Bool :=
  !Text.isBlank c && c != '=' && c != '"' && c != '\x27' && c != '<' && c != '>'

/-- An attribute with the blanks before and inside it. -/
structure Attribute where
  /-- The blanks before it. -/
  lead : List Char
  /-- Its name. -/
  name : List Char
  /-- The blanks before the equals sign. -/
  before : List Char
  /-- The blanks behind the equals sign. -/
  after : List Char
  /-- The quote around its value. -/
  quote : Char
  /-- Its value. -/
  value : List Char

namespace Attribute

/-- The text of an attribute up to its value. -/
def key (a : Attribute) : List Char := a.lead ++ a.name ++ a.before ++ '=' :: a.after

/-- The text of an attribute. -/
def text (a : Attribute) : List Char := a.key ++ a.quote :: a.value ++ [a.quote]

/-- Whether an attribute is one: blanks are blanks, it has a name, and a quote that does not stand
in its value. -/
structure IsProper (a : Attribute) : Prop where
  /-- Blanks stand before it. -/
  lead : ∀ c ∈ a.lead, isMarkupBlank c = true
  /-- It has a name. -/
  name_ne : a.name ≠ []
  /-- The name is one of an attribute. -/
  name : ∀ c ∈ a.name, isAttributeLetter c = true
  /-- Blanks stand before the equals sign. -/
  before : ∀ c ∈ a.before, isMarkupBlank c = true
  /-- Blanks stand behind the equals sign. -/
  after : ∀ c ∈ a.after, isMarkupBlank c = true
  /-- The quote is single or double. -/
  quote : a.quote = '"' ∨ a.quote = '\x27'
  /-- It ends the value. -/
  value : a.quote ∉ a.value

end Attribute

/-- What a grouping puts around the members of a class. -/
inductive Container where
  /-- Nothing. -/
  | nothing
  /-- A grid with a row for each row counted, in two columns or without any. -/
  | grid (twoColumns : Bool)
  /-- An element with its attributes. -/
  | element (name : List Char) (attributes : List Attribute)

namespace Container

/-- Whether a text without brackets and white space around it asks for a container. -/
def IsSpelled : Container → List Char → Prop
  | nothing, cs => cs = []
  | grid twoColumns, cs =>
    Text.sameIgnoringCase cs (if twoColumns then twoColumnGrouping else gridGrouping).toList = true
  | element name attributes, cs =>
    cs = name ++ attributes.flatMap Attribute.text ∧ IsElementName name ∧
      (∀ a ∈ attributes, a.IsProper) ∧ ∀ a ∈ attributes.head?, a.lead ≠ []

/-- Whether a grouping asks for a container: without white space around it, it is a text that does,
with white space around that and angle brackets around it all or without any. -/
def IsAskedFor (container : Container) (grouping : String) : Prop :=
  ∃ inner, (Text.trim grouping.toList = inner ∨ Text.trim grouping.toList = '<' :: inner ++ ['>']) ∧
    container.IsSpelled (Text.trim inner)

end Container

/-! ## Trimming -/

/-- A letter of an element's name is no white space, no bracket, no quote and no mark that begins
other markup. -/
theorem facts_of_isElementLetter {c : Char} (h : Template.isElementLetter c = true) :
    Text.isBlank c = false ∧ c ∉ "<>!?/\"'-".toList := by
  constructor
  · cases hblank : Text.isBlank c with
    | false => rfl
    | true =>
      have hno : Template.isElementLetter c = false :=
        Text.eq_false_of_isBlank (by decide +kernel) hblank
      rw [h] at hno
      exact Bool.noConfusion hno
  · intro hmem
    have hno : ∀ d ∈ "<>!?/\"'-".toList, (!Template.isElementLetter d) = true :=
      List.all_eq_true.1 (by decide)
    have hnot := hno c hmem
    rw [h] at hnot
    exact Bool.noConfusion hnot

/-- A name with attributes ends with a letter of the name or with a quote. -/
theorem getLast?_element {name : List Char} {attributes : List Attribute}
    (hname : IsElementName name) (hproper : ∀ a ∈ attributes, a.IsProper) :
    ∀ c ∈ (name ++ attributes.flatMap Attribute.text).getLast?,
      Template.isElementLetter c = true ∨ c = '"' ∨ c = '\x27' := by
  intro c hc
  rcases List.eq_nil_or_concat attributes with rfl | ⟨others, a, rfl⟩
  · rw [List.flatMap_nil, List.append_nil] at hc
    exact .inl (hname.2 c (List.mem_of_getLast? hc))
  · rw [List.concat_eq_append] at hc hproper
    rw [List.flatMap_append, List.flatMap_singleton, Attribute.text, ← List.append_assoc,
      ← List.append_assoc, List.getLast?_concat] at hc
    obtain rfl : a.quote = c := Option.some.inj hc
    exact .inr (hproper a (List.mem_append_right _ List.mem_cons_self)).quote

/-- A text that asks for a container begins with no opening bracket and ends with no closing one. -/
theorem Container.IsSpelled.ends {container : Container} {cs : List Char}
    (h : container.IsSpelled cs) : cs.head? ≠ some '<' ∧ cs.getLast? ≠ some '>' := by
  cases container with
  | nothing =>
    obtain rfl : cs = [] := h
    exact ⟨by decide, by decide⟩
  | grid twoColumns =>
    -- Letter case does not touch brackets, so the ends can be seen on the word in small letters.
    have hlower := Text.map_toLower_of_sameIgnoringCase h
    constructor
    · intro hc
      have hhead : (cs.map Char.toLower).head? = some '<' := by
        rw [List.head?_map, hc]
        rfl
      rw [hlower] at hhead
      cases twoColumns <;> exact absurd hhead (by decide)
    · intro hc
      have hlast : (cs.map Char.toLower).getLast? = some '>' := by
        rw [List.getLast?_map, hc]
        rfl
      rw [hlower] at hlast
      cases twoColumns <;> exact absurd hlast (by decide)
  | element name attributes =>
    obtain ⟨rfl, ⟨hne, hletters⟩, hproper, -⟩ := h
    have hname (c : Char) (hc : c ∈ name) := (facts_of_isElementLetter (hletters c hc)).2
    constructor
    · intro hc
      rw [List.head?_append_of_ne_nil _ hne] at hc
      exact hname '<' (List.mem_of_mem_head? hc) (by decide)
    · intro hc
      have hend := getLast?_element ⟨hne, hletters⟩ hproper '>' hc
      exact absurd hend (by decide)

/-- A grouping that asks for a container is trimmed to a text that does. -/
theorem Container.IsAskedFor.spelled {container : Container} {grouping : String}
    (h : container.IsAskedFor grouping) : container.IsSpelled (trimGrouping grouping) := by
  obtain ⟨inner, htrim, hspelled⟩ := h
  obtain ⟨hfirst, hlast⟩ := hspelled.ends
  -- The text inside has no bracket at either end, as it has none without the white space there.
  obtain ⟨hfirst, hlast⟩ := Text.ends_ne_of_trim (by decide) (by decide) hfirst hlast
  have hdrop {d : Char} {cs : List Char} (h : cs.head? ≠ some d) :
      cs.dropWhile (· == d) = cs := by
    refine (Text.span_of_head fun c hc => beq_false_of_ne ?_).2
    rintro rfl
    exact h hc
  have hend : inner.reverse.dropWhile (· == '>') = inner.reverse :=
    hdrop (by rwa [List.head?_reverse])
  have htrimmed : trimGrouping grouping = Text.trim inner := by
    unfold trimGrouping
    dsimp only
    rcases htrim with htrim | htrim
    · rw [htrim, hdrop hfirst, hend, List.reverse_reverse]
    · have hopen : (inner ++ ['>']).head? ≠ some '<' := by
        rw [List.head?_append]
        cases hhead : inner.head? with
        | none => decide
        | some c => exact fun heq => hfirst (hhead.trans heq)
      rw [htrim]
      show Text.trim (((('<' :: (inner ++ ['>'])).dropWhile (· == '<')).reverse.dropWhile
        (· == '>')).reverse) = _
      rw [List.dropWhile_cons_of_pos (by decide), hdrop hopen, List.reverse_append]
      show Text.trim ((('>' :: inner.reverse).dropWhile (· == '>')).reverse) = _
      rw [List.dropWhile_cons_of_pos (by decide), hend, List.reverse_reverse]
  rw [htrimmed]
  exact hspelled

/-! ## The text around the members -/

/-- What stands before the members of a class. -/
def Container.head (rows : Nat) : Container → List Char
  | nothing => []
  | grid twoColumns =>
    "<Grid>\n".toList ++ rowDefinitions rows ++ (if twoColumns then columnDefinitions else [])
  | element name attributes =>
    '<' :: (name ++ attributes.flatMap Attribute.text) ++ ['>', '\n']

/-- What stands behind the members of a class. -/
def Container.foot : Container → List Char
  | nothing => []
  | grid _ => "\n</Grid>".toList
  | element name _ => ['\n', '<', '/'] ++ name ++ ['>']

/-- A word for a grid is none for the other, and is not empty. -/
theorem sameIgnoringCase_grid {twoColumns : Bool} {cs : List Char}
    (h : (Container.grid twoColumns).IsSpelled cs) :
    cs ≠ [] ∧ Text.sameIgnoringCase cs twoColumnGrouping.toList = twoColumns ∧
      (twoColumns || Text.sameIgnoringCase cs gridGrouping.toList) = true := by
  have hlower := Text.map_toLower_of_sameIgnoringCase h
  refine ⟨?_, ?_, ?_⟩
  · rintro rfl
    cases twoColumns <;> exact absurd hlower (by decide)
  -- The two words differ in small letters, so a text cannot be both.
  · cases twoColumns with
    | true => exact h
    | false =>
      rw [Bool.eq_false_iff]
      intro hother
      rw [Text.map_toLower_of_sameIgnoringCase hother] at hlower
      exact absurd hlower (by decide)
  · cases twoColumns with
    | true => rfl
    | false => exact h

/-- No element with attributes is a word for a grid: that word has a hyphen and no quote. -/
theorem sameIgnoringCase_element {name : List Char} {attributes : List Attribute} {cs : List Char}
    (h : (Container.element name attributes).IsSpelled cs) (twoColumns : Bool) :
    Text.sameIgnoringCase cs (if twoColumns then twoColumnGrouping else gridGrouping).toList =
      false := by
  obtain ⟨rfl, ⟨-, hletters⟩, hproper, -⟩ := h
  rw [Bool.eq_false_iff]
  intro hsame
  have hlower := Text.map_toLower_of_sameIgnoringCase hsame
  -- A bare name has no hyphen, which both words have; a name with attributes has a quote, which
  -- neither has.
  cases attributes with
  | nil =>
    rw [List.flatMap_nil, List.append_nil] at hlower
    have hhyphen : '-' ∈ name.map Char.toLower := by
      rw [hlower]
      cases twoColumns <;> decide
    obtain ⟨c, hc, hcase⟩ := List.mem_map.1 hhyphen
    obtain rfl := Text.eq_of_toLower (by decide) hcase
    exact (facts_of_isElementLetter (hletters _ hc)).2 (by decide)
  | cons a attributes =>
    have hquote : a.quote.toLower ∈
        (name ++ (a :: attributes).flatMap Attribute.text).map Char.toLower := by
      refine List.mem_map_of_mem ?_
      simp [Attribute.text]
    rw [hlower] at hquote
    rcases (hproper a List.mem_cons_self).quote with heq | heq
    · rw [heq] at hquote
      cases twoColumns <;> exact absurd hquote (by decide)
    · rw [heq] at hquote
      cases twoColumns <;> exact absurd hquote (by decide)

/-- A blank of markup is white space. -/
theorem isBlank_of_isMarkupBlank {c : Char} (h : isMarkupBlank c = true) :
    Text.isBlank c = true := by
  unfold isMarkupBlank at h
  simp only [Bool.or_eq_true, beq_iff_eq] at h
  rcases h with ((rfl | rfl) | rfl) | rfl <;> decide

/-- The first word of a name with attributes is the name, where the name of a tag ends too. -/
theorem headD_words_element {name : List Char} {attributes : List Attribute} {cs : List Char}
    (h : (Container.element name attributes).IsSpelled cs) :
    (Text.words cs).headD cs = name ∧ Event.tagName cs = name := by
  obtain ⟨rfl, ⟨hne, hletters⟩, hproper, hlead⟩ := h
  have hblank (c : Char) (hc : c ∈ name) : Text.isBlank c = false :=
    (facts_of_isElementLetter (hletters c hc)).1
  have hmarkup (c : Char) (hc : c ∈ name) : (!isMarkupBlank c) = true := by
    rw [Bool.not_eq_true', Bool.eq_false_iff]
    intro hb
    have := isBlank_of_isMarkupBlank hb
    rw [hblank c hc] at this
    exact Bool.noConfusion this
  have hkept : (!name.isEmpty) = true := by
    rw [Bool.not_eq_true', List.isEmpty_eq_false_iff]
    exact hne
  unfold Text.words Event.tagName
  -- Behind a bare name nothing follows; else the first attribute begins with the white space at
  -- which both readings of the name end.
  cases attributes with
  | nil =>
    rw [List.flatMap_nil, List.append_nil, List.splitOnP_eq_singleton hblank,
      List.filter_cons_of_pos (p := fun word : List Char => !word.isEmpty) hkept]
    exact ⟨rfl, List.takeWhile_eq_self_iff.2 hmarkup⟩
  | cons a attributes =>
    have hlead' : a.lead ≠ [] := hlead a rfl
    obtain ⟨b, lead, hb⟩ := List.exists_cons_of_ne_nil hlead'
    have hbmarkup : isMarkupBlank b = true :=
      (hproper a List.mem_cons_self).lead b (by rw [hb]; exact List.mem_cons_self)
    have htext : ∃ rest, (a :: attributes).flatMap Attribute.text = b :: rest := by
      rw [List.flatMap_cons, Attribute.text, Attribute.key, hb]
      exact ⟨_, rfl⟩
    obtain ⟨rest, hrest⟩ := htext
    rw [hrest, List.splitOnP_append_cons_of_forall_mem hblank b (isBlank_of_isMarkupBlank hbmarkup),
      List.filter_cons_of_pos (p := fun word : List Char => !word.isEmpty) hkept,
      List.takeWhile_append_of_pos (p := (!isMarkupBlank ·)) hmarkup,
      List.takeWhile_cons_of_neg (by rw [hbmarkup]; exact Bool.false_ne_true), List.append_nil]
    exact ⟨rfl, rfl⟩

/-- The text of a class stands between what a container puts before and behind it. -/
theorem Container.wrap_eq {container : Container} {grouping : String}
    (h : container.IsAskedFor grouping) (rows : Nat) (body : List Char) :
    wrap grouping rows body = container.head rows ++ body ++ container.foot := by
  have hspelled := h.spelled
  unfold wrap
  generalize trimGrouping grouping = cs at hspelled
  cases container with
  | nothing =>
    obtain rfl : cs = [] := hspelled
    exact (List.append_nil body).symm
  | grid twoColumns =>
    obtain ⟨hne, hcolumns, hgrid⟩ := sameIgnoringCase_grid hspelled
    have hempty : cs.isEmpty = false := List.isEmpty_eq_false_iff.2 hne
    dsimp only
    rw [hempty, if_neg Bool.false_ne_true, hcolumns, if_pos hgrid]
    rfl
  | element name attributes =>
    -- An element is neither of the words for a grid, so its own branch is taken.
    have hone : Text.sameIgnoringCase cs gridGrouping.toList = false :=
      sameIgnoringCase_element hspelled false
    have htwo : Text.sameIgnoringCase cs twoColumnGrouping.toList = false :=
      sameIgnoringCase_element hspelled true
    have hfirst := (headD_words_element hspelled).1
    obtain ⟨rfl, ⟨hne, -⟩, -⟩ := hspelled
    have hempty : (name ++ attributes.flatMap Attribute.text).isEmpty = false :=
      List.isEmpty_eq_false_iff.2 (List.append_ne_nil_of_left_ne_nil hne _)
    dsimp only
    rw [hempty, if_neg Bool.false_ne_true, hone, htwo, Bool.or_self, if_neg Bool.false_ne_true,
      hfirst]
    show _ = '<' :: (name ++ attributes.flatMap Attribute.text) ++ ['>', '\n'] ++ body ++
      (['\n', '<', '/'] ++ name ++ ['>'])
    simp only [List.append_assoc]

/-! ## Start and end tags -/

/-- Attributes can stand in a tag: their quotes are closed. -/
theorem isTagText_attributes {attributes : List Attribute} (h : ∀ a ∈ attributes, a.IsProper) :
    IsTagText none (attributes.flatMap Attribute.text) := by
  have hblank (c : Char) (hc : isMarkupBlank c = true) : c ≠ '>' ∧ c ≠ '"' ∧ c ≠ '\x27' := by
    refine ⟨?_, ?_, ?_⟩ <;> rintro rfl <;> exact absurd hc (by decide)
  induction attributes with
  | nil => rfl
  | cons a attributes ih =>
    obtain ⟨ha, hothers⟩ := List.forall_mem_cons.1 h
    -- Before its value an attribute has neither a quote nor a closing bracket, so the value opens
    -- at its own quote.
    have hkey : ∀ c ∈ a.key, c ≠ '>' ∧ c ≠ '"' ∧ c ≠ '\x27' := by
      intro c hc
      simp only [Attribute.key, List.mem_append, List.mem_cons] at hc
      rcases hc with ((hc | hc) | hc) | rfl | hc
      · exact hblank c (ha.lead c hc)
      · have hletter := ha.name c hc
        refine ⟨?_, ?_, ?_⟩ <;> rintro rfl <;> exact absurd hletter (by decide)
      · exact hblank c (ha.before c hc)
      · decide
      · exact hblank c (ha.after c hc)
    have htext : (a :: attributes).flatMap Attribute.text =
        a.key ++ a.quote :: (a.value ++ a.quote :: attributes.flatMap Attribute.text) := by
      rw [List.flatMap_cons, Attribute.text, List.append_assoc, List.append_assoc,
        List.cons_append, List.singleton_append]
    have hquoted : IsTagText (some a.quote)
        (a.value ++ a.quote :: attributes.flatMap Attribute.text) :=
      Markup.isTagText_quoted ha.value (ih hothers)
    rw [htext]
    refine Markup.isTagText_append hkey ⟨?_, ?_⟩
    · rcases ha.quote with heq | heq <;> rw [heq] <;> decide
    · have hisQuote : (a.quote = '"' || a.quote = '\x27') = true := by
        rcases ha.quote with heq | heq <;> rw [heq] <;> rfl
      rw [if_pos hisQuote]
      exact hquoted

/-- A name of an element can stand in a tag, where it has no blanks to lose at its end. -/
theorem IsElementName.isTagText {name : List Char} (h : IsElementName name) (rest : List Char)
    (hrest : IsTagText none rest) : IsTagText none (name ++ rest) := by
  refine Markup.isTagText_append (fun c hc => ?_) hrest
  have hno := (facts_of_isElementLetter (h.2 c hc)).2
  refine ⟨?_, ?_, ?_⟩ <;> rintro rfl <;> exact hno (by decide)

/-- A name of an element has no blanks at its end. -/
theorem trimName_eq_self {name : List Char} (h : IsElementName name) :
    Markup.trimName name = name := by
  obtain ⟨blanks, hname, hblanks⟩ := Markup.exists_trimName_append name
  cases blanks with
  | nil => rwa [List.append_nil, eq_comm] at hname
  | cons b blanks =>
    have hmem : b ∈ name := by
      rw [hname]
      exact List.mem_append_right _ List.mem_cons_self
    have hno := (facts_of_isElementLetter (h.2 b hmem)).1
    rw [isBlank_of_isMarkupBlank (hblanks b List.mem_cons_self)] at hno
    exact Bool.noConfusion hno

/-- The start tag of a name with attributes, and a line break, are read as such. -/
theorem joins_startTag {name : List Char} {attributes : List Attribute} (hname : IsElementName name)
    (hproper : ∀ a ∈ attributes, a.IsProper) :
    Joins ('<' :: (name ++ attributes.flatMap Attribute.text) ++ ['>', '\n'])
      [.start (name ++ attributes.flatMap Attribute.text), .text ['\n']] := by
  have htext := hname.isTagText _ (isTagText_attributes hproper)
  have hhead : ∀ c ∈ (name ++ attributes.flatMap Attribute.text).head?,
      c ≠ '!' ∧ c ≠ '?' ∧ c ≠ '/' := by
    intro c hc
    rw [List.head?_append_of_ne_nil _ hname.1] at hc
    have hno := (facts_of_isElementLetter (hname.2 c (List.mem_of_mem_head? hc))).2
    refine ⟨?_, ?_, ?_⟩ <;> rintro rfl <;> exact hno (by decide)
  have hlast : (name ++ attributes.flatMap Attribute.text).getLast? ≠ some '/' := fun hc =>
    absurd (getLast?_element hname hproper '/' hc) (by decide)
  exact Markup.joins_start (Markup.readsBack_start htext hhead hlast)

/-- A line break and the end tag of a name are read as such. -/
theorem joins_endTag {name : List Char} (hname : IsElementName name) :
    Joins (['\n', '<', '/'] ++ name ++ ['>']) [.text ['\n'], .close name] := by
  have htext := hname.isTagText [] rfl
  rw [List.append_nil] at htext
  exact Markup.joins_close (Markup.readsBack_close htext (trimName_eq_self hname))

/-! ## The events around the members -/

/-- An element with a line break behind its start tag. -/
def block (content name : List Char) (events : List Event) : List Event :=
  .start content :: .text ['\n'] :: events ++ [.close name]

/-- A text between tags that are read as such, each on a line of its own, is read to a block. -/
theorem joins_block {content name : List Char} {before text after : List Char}
    {events : List Event} (hbefore : Joins before [.start content, .text ['\n']])
    (htext : Joins text events) (hafter : Joins after [.text ['\n'], .close name]) :
    Joins (before ++ text ++ after) (block content name (events ++ [.text ['\n']])) := by
  have hall := (hbefore.append htext).append hafter
  have hevents : [.start content, .text ['\n']] ++ events ++ [.text ['\n'], .close name] =
      block content name (events ++ [.text ['\n']]) := by
    unfold block
    simp only [List.append_assoc, List.cons_append, List.nil_append]
  rwa [hevents] at hall

/-- The definition of a row, on a line of its own. -/
def rowEvents : List Event :=
  [.empty "RowDefinition Height=\"Auto\" ".toList, .text ['\n']]

/-- The definitions of rows. -/
def rowsEvents (rows : Nat) : List Event :=
  if rows = 0 then []
  else
    block "Grid.RowDefinitions".toList "Grid.RowDefinitions".toList
      (List.replicate rows rowEvents).flatten ++ [.text ['\n']]

/-- The definitions of two columns. -/
def columnsEvents : List Event :=
  block "Grid.ColumnDefinitions".toList "Grid.ColumnDefinitions".toList
    [.empty "ColumnDefinition Width=\"Auto\" ".toList, .text ['\n'],
     .empty "ColumnDefinition Width=\"*\" ".toList, .text ['\n']] ++ [.text ['\n']]

/-- The events of a class: those of its members inside its container. -/
def Container.around (rows : Nat) (body : List Event) : Container → List Event
  | nothing => body
  | grid twoColumns =>
    block "Grid".toList "Grid".toList
      (rowsEvents rows ++ (if twoColumns then columnsEvents else []) ++ body ++ [.text ['\n']])
  | element name attributes =>
    block (name ++ attributes.flatMap Attribute.text) name (body ++ [.text ['\n']])

/-- A block is balanced if what stands in it is and its end tag has its name. -/
theorem balanced_block {content name : List Char} {events : List Event}
    (hname : Event.tagName content = name) (h : Markup.balanced events = true) :
    Markup.balanced (block content name events) = true := by
  have hbreak : Markup.balanced [Event.text ['\n']] = true := rfl
  exact Markup.balanced_element hname (Markup.balanced_append hbreak h)

/-- The definitions of rows are read as such. -/
theorem joins_rowDefinitions (rows : Nat) : Joins (rowDefinitions rows) (rowsEvents rows) := by
  -- Each line ends in a line feed that is an event of its own, so lines that follow one another are
  -- read one by one.
  have hrow : Joins "<RowDefinition Height=\"Auto\" />\n".toList rowEvents :=
    Markup.joins_of_events? (by decide)
  have hrows (n : Nat) :
      Joins (List.replicate n "<RowDefinition Height=\"Auto\" />\n".toList).flatten
        (List.replicate n rowEvents).flatten := by
    induction n with
    | zero => exact .nil
    | succ n ih =>
      rw [List.replicate_succ, List.replicate_succ, List.flatten_cons, List.flatten_cons]
      exact hrow.append ih
  have hopen : Joins "<Grid.RowDefinitions>\n".toList
      [.start "Grid.RowDefinitions".toList, .text ['\n']] := Markup.joins_of_events? (by decide)
  have hclose : Joins "</Grid.RowDefinitions>\n".toList
      [.close "Grid.RowDefinitions".toList, .text ['\n']] := Markup.joins_of_events? (by decide)
  unfold rowDefinitions rowsEvents
  split
  · exact .nil
  · have hall := (hopen.append (hrows rows)).append hclose
    unfold block
    rwa [List.append_assoc _ [Event.close _]]

/-- The definitions of columns are read as such. -/
theorem joins_columnDefinitions : Joins columnDefinitions columnsEvents :=
  Markup.joins_of_events? (by decide +kernel)

/-- The definitions of rows are balanced. -/
theorem balanced_rowsEvents (rows : Nat) : Markup.balanced (rowsEvents rows) = true := by
  have hrows (n : Nat) : Markup.balanced (List.replicate n rowEvents).flatten = true := by
    induction n with
    | zero => rfl
    | succ n ih =>
      rw [List.replicate_succ, List.flatten_cons]
      exact Markup.balanced_append rfl ih
  unfold rowsEvents
  split
  · rfl
  · have hname : Event.tagName "Grid.RowDefinitions".toList = "Grid.RowDefinitions".toList := by
      decide
    exact Markup.balanced_append (balanced_block hname (hrows rows)) rfl

/-- The text of a class reads to the events of its members inside its container. -/
theorem Container.joins_wrap {container : Container} {grouping : String}
    (h : container.IsAskedFor grouping) (rows : Nat) {body : List Char} {events : List Event}
    (hbody : Joins body events) :
    Joins (wrap grouping rows body) (container.around rows events) := by
  have hspelled := h.spelled
  rw [container.wrap_eq h]
  cases container with
  | nothing =>
    show Joins (body ++ []) events
    rwa [List.append_nil]
  | grid twoColumns =>
    have hopen : Joins "<Grid>\n".toList [.start "Grid".toList, .text ['\n']] :=
      Markup.joins_of_events? (by decide)
    have hclose : Joins "\n</Grid>".toList [.text ['\n'], .close "Grid".toList] :=
      Markup.joins_of_events? (by decide)
    have hcolumns : Joins (if twoColumns then columnDefinitions else [])
        (if twoColumns then columnsEvents else []) := by
      cases twoColumns with
      | true => exact joins_columnDefinitions
      | false => exact .nil
    -- The pieces of the head are bracketed to the left in the text and to the right in the block.
    have htext (start inner : List Char) : start ++ rowDefinitions rows ++ inner ++ body =
        start ++ (rowDefinitions rows ++ inner ++ body) := by
      simp only [List.append_assoc]
    have hinside := ((joins_rowDefinitions rows).append hcolumns).append hbody
    have hall := joins_block hopen hinside hclose
    rw [← htext] at hall
    exact hall
  | element name attributes =>
    obtain ⟨-, hname, hproper, -⟩ := hspelled
    exact joins_block (joins_startTag hname hproper) hbody (joins_endTag hname)

/-- Balanced events inside a container are balanced. -/
theorem Container.IsSpelled.balanced_around {container : Container} {cs : List Char}
    (h : container.IsSpelled cs) (rows : Nat) {events : List Event}
    (hevents : Markup.balanced events = true) :
    Markup.balanced (container.around rows events) = true := by
  cases container with
  | nothing => exact hevents
  | grid twoColumns =>
    have hcolumns : Markup.balanced (if twoColumns then columnsEvents else []) = true := by
      cases twoColumns <;> decide
    have hname : Event.tagName "Grid".toList = "Grid".toList := by decide
    exact balanced_block hname (Markup.balanced_append (Markup.balanced_append
      (Markup.balanced_append (balanced_rowsEvents rows) hcolumns) hevents) rfl)
  | element name attributes =>
    have hname := (headD_words_element h).2
    obtain ⟨rfl, -⟩ := h
    exact balanced_block hname (Markup.balanced_append hevents rfl)

/-! ## The text of a class -/

/-- The texts of the members that a class shows. -/
def fragments (c : Setting) (t : TypeDecl) : List (List Char) :=
  groupLetters ((Call.wholeType t).render c).1

/-- The texts that a class shows: those of its members, or the comment that stands for none. -/
def shownTexts (c : Setting) (t : TypeDecl) : List (List Char) :=
  if (fragments c t).isEmpty then [noMembers] else fragments c t

/-- The texts that are read inside a container: a byte-order mark is not read at the very start of
a class, and is text inside an element. -/
def Container.inside (texts : List (List Char)) : Container → List (List Char)
  | nothing => texts.modifyHead dropMark
  | _ => texts

/-- The text of a class is made of the texts that it shows, on lines of their own. -/
theorem classText_eq (c : Setting) (t : TypeDecl) :
    classText c t = wrap c.profile.grouping ((Call.wholeType t).rows c)
      (['\n'].intercalate (shownTexts c t)) := by
  unfold classText shownTexts fragments Call.rows Call.render
  dsimp only
  cases (renderProperties c (Member.exposed c.model c.generation.excluded t) {}).1 with
  | nil => exact congrArg _ List.intercalate_singleton.symm
  | cons => rfl

/-- A byte-order mark at the start of a class is one at the start of the first text in no
container. -/
theorem Container.dropMark_wrap {container : Container} {grouping : String}
    (h : container.IsAskedFor grouping) (rows : Nat) (texts : List (List Char)) :
    dropMark (wrap grouping rows (['\n'].intercalate texts)) =
      wrap grouping rows (['\n'].intercalate (container.inside texts)) := by
  rw [container.wrap_eq h, container.wrap_eq h]
  cases container with
  | nothing =>
    show dropMark (['\n'].intercalate texts ++ []) =
      ['\n'].intercalate (texts.modifyHead dropMark) ++ []
    rw [List.append_nil, List.append_nil, Markup.dropMark_intercalate]
  | grid =>
    exact Markup.dropMark_eq_self fun h => absurd (Option.some.inj h) (by decide)
  | element =>
    exact Markup.dropMark_eq_self fun h => absurd (Option.some.inj h) (by decide)

/-- Each text inside a container is read to balanced events if the texts are well formed. -/
theorem Container.exists_parts (container : Container) {texts : List (List Char)}
    (h : ∀ text ∈ texts, (wellFormed? text).isSome = true) :
    ∃ parts, List.Forall₂ (fun text events => events? text = some events ∧
      Markup.balanced events = true) (container.inside texts) parts := by
  have hall (texts : List (List Char)) (h : ∀ text ∈ texts, (wellFormed? text).isSome = true) :
      ∃ parts, List.Forall₂ (fun text events => events? text = some events ∧
        Markup.balanced events = true) texts parts := by
    induction texts with
    | nil => exact ⟨[], .nil⟩
    | cons text texts ih =>
      obtain ⟨htext, htexts⟩ := List.forall_mem_cons.1 h
      obtain ⟨events, hreads, hbalanced⟩ := Markup.exists_reads_of_wellFormed? htext
      obtain ⟨parts, hparts⟩ := ih htexts
      exact ⟨events :: parts, .cons ⟨events?_eq_some_iff.2 hreads, hbalanced⟩ hparts⟩
  -- Without a container the first text begins the document, where a byte-order mark is dropped; the
  -- others are read as they are.
  cases container with
  | nothing =>
    cases texts with
    | nil => exact ⟨[], .nil⟩
    | cons text texts =>
      obtain ⟨htext, htexts⟩ := List.forall_mem_cons.1 h
      obtain ⟨events, hread⟩ := Option.isSome_iff_exists.1 htext
      obtain ⟨parts, hparts⟩ := hall texts htexts
      exact ⟨events :: parts, .cons (Option.filter_eq_some_iff.1 hread) hparts⟩
  | grid => exact hall texts h
  | element => exact hall texts h

/-- The text of a class is well formed if the text of each member is, so the output for the class is
laid out: with the events of the members, a line break between those of each two, inside what the
grouping asks for, and with the comment for no members in their place if there are none. -/
theorem classText_wellFormed {container : Container} {c : Setting} (t : TypeDecl)
    (hcontainer : container.IsAskedFor c.profile.grouping)
    (hfragments : ∀ fragment ∈ fragments c t, (wellFormed? fragment).isSome = true) :
    ∃ parts, List.Forall₂ (fun text events => events? text = some events ∧
        Markup.balanced events = true) (container.inside (shownTexts c t)) parts ∧
      let events := mergeTexts (container.around ((Call.wholeType t).rows c)
        ([Event.text ['\n']].intercalate parts))
      wellFormed? (classText c t) = some events ∧
        ∀ indent, (classOutput c indent t).markup =
          String.ofList (Markup.layOut indent false 0 (events.filter (!·.isLayout))) := by
  have hshown : ∀ text ∈ shownTexts c t, (wellFormed? text).isSome = true := by
    unfold shownTexts
    split
    · exact List.forall_mem_singleton.2 (by decide +kernel)
    · exact hfragments
  obtain ⟨parts, hparts⟩ := container.exists_parts hshown
  have hbody : Joins (['\n'].intercalate (container.inside (shownTexts c t)))
      ([Event.text ['\n']].intercalate parts) :=
    Markup.joins_intercalate (hparts.imp fun _ _ h => Markup.joins_of_events? h.1)
  have hbalanced : Markup.balanced ([Event.text ['\n']].intercalate parts) = true := by
    refine Markup.balanced_intercalate fun part hpart => ?_
    obtain ⟨i, hi, rfl⟩ := List.mem_iff_getElem.1 hpart
    exact (hparts.get (hparts.length_eq ▸ hi) hi).2
  -- Balanced texts between line breaks are balanced, and the container closes what it opens; so the
  -- whole is read as the events of its parts.
  have hread : wellFormed? (classText c t) = some (mergeTexts (container.around
      ((Call.wholeType t).rows c) ([Event.text ['\n']].intercalate parts))) := by
    refine Markup.wellFormed?_of_joins ?_ (hcontainer.spelled.balanced_around _ hbalanced)
    rw [classText_eq, container.dropMark_wrap hcontainer]
    exact container.joins_wrap hcontainer _ hbody
  refine ⟨parts, hparts, hread, fun indent => ?_⟩
  show String.ofList (Markup.format indent (classText c t)) = _
  rw [Markup.format, hread]

/-- A panel with an attribute whose value holds a closing bracket. -/
def panel : Container :=
  .element "StackPanel".toList
    [{ lead := [' '], name := "Tag".toList, before := [], after := [], quote := '"'
       value := "a>b".toList }]

/-- A profile whose grouping asks for that panel, in angle brackets. -/
def panelled : Setting where
  profile :=
    { name := "Panel", grouping := " <StackPanel Tag=\"a>b\"> "
      fallback := "<$name$ Row=\"$incint$\" />" }
  model := ⟨[]⟩

/-- A class with two properties. -/
def couple : TypeDecl :=
  { name := "Couple", kind := .class
    properties :=
      [{ name := "First", typeText := "Int" }, { name := "Second", typeText := "Int" }] }

/-- The panel stands once around the two properties, although its start tag has a bracket inside. -/
theorem classText_wellFormed_panel :
    panel.IsAskedFor panelled.profile.grouping ∧
      (∀ fragment ∈ fragments panelled couple, (wellFormed? fragment).isSome = true) ∧
      ∃ parts, List.Forall₂ (fun text events => events? text = some events ∧
          Markup.balanced events = true)
          ["<First Row=\"0\" />".toList, "<Second Row=\"1\" />".toList] parts ∧
        (classOutput panelled 2 couple).markup = String.ofList (Markup.layOut 2 false 0
          ((mergeTexts (panel.around 2 ([Event.text ['\n']].intercalate parts))).filter
            (!·.isLayout))) := by
  have hproper : ∀ a ∈ ([⟨[' '], "Tag".toList, [], [], '"', "a>b".toList⟩] : List Attribute),
      a.IsProper := by
    refine List.forall_mem_singleton.2 ?_
    constructor
    case lead => exact List.all_eq_true.1 (by decide)
    case name_ne => exact List.cons_ne_nil _ _
    case name => exact List.all_eq_true.1 (by decide)
    case before => exact List.forall_mem_nil _
    case after => exact List.forall_mem_nil _
    case quote => exact .inl rfl
    case value => decide
  have hasked : panel.IsAskedFor panelled.profile.grouping := by
    have hname : IsElementName "StackPanel".toList :=
      ⟨List.cons_ne_nil _ _, List.all_eq_true.1 (by decide +kernel)⟩
    refine ⟨"StackPanel Tag=\"a>b\"".toList, .inr (by decide +kernel), ?_, hname, hproper, ?_⟩
    · decide +kernel
    · decide +kernel
  have hfragments : ∀ fragment ∈ fragments panelled couple,
      (wellFormed? fragment).isSome = true := by
    decide +kernel
  obtain ⟨parts, hparts, -, hmarkup⟩ := classText_wellFormed couple hasked hfragments
  have hshown : panel.inside (shownTexts panelled couple) =
      ["<First Row=\"0\" />".toList, "<Second Row=\"1\" />".toList] := by
    decide +kernel
  have hrows : (Call.wholeType couple).rows panelled = 2 := by
    decide +kernel
  rw [hshown] at hparts
  rw [hrows] at hmarkup
  exact ⟨hasked, hfragments, parts, hparts, hmarkup 2⟩

end ViewForge.Render
