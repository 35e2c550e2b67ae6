import ViewForge.Proofs.Text.Character
import ViewForge.Template.Name

/-!
# Names spaced into words

Spacing a name into words adds blanks and takes underscores away, and nothing else
(`letters_spaceAfter`). A name that is spaced is settled: no underscore is left, each blank stands
alone between two letters, and wherever a word starts a blank stands before it (`Settled`). Each
letter that is passed keeps this of the text so far (`Spacing.step`), since what stands behind it in
the text is what stands behind it in the name, or a blank, which starts no word. Spacing leaves a
settled text as it is, so spacing a name again changes nothing (`spacedName_settles`).
-/

namespace ViewForge.Template

open Text (isBlank isUppercase isLowercase trimEnd)

/-! ## Passing one letter -/

/-- Whether a text, last character first, ends in a character other than a blank. -/
def endsOpen (done : List Char) : Bool := !done.isEmpty && done.head? != some ' '

theorem endsOpen_eq_true_iff {done : List Char} :
    endsOpen done = true ↔ ∃ p ∈ done.head?, p ≠ ' ' := by
  unfold endsOpen
  cases done with
  | nil => simp
  | cons p before => simp

/-- The text so far, last character first, behind one more character of the name. -/
def spacePast (done : List Char) (previous : Option Char) (c : Char) (next : Option Char) :
    List Char :=
  if c = '_' then if endsOpen done then ' ' :: done else done
  else if isUppercase c && endsOpen done && previous.any (startsWord · next) then c :: ' ' :: done
  else c :: done

theorem spaceAfter_cons (done : List Char) (previous : Option Char) (c : Char) (rest : List Char) :
    spaceAfter done previous (c :: rest) =
      spaceAfter (spacePast done previous c rest.head?) (some c) rest := by
  rw [spaceAfter]
  unfold spacePast
  show (if c = '_' then spaceAfter (if endsOpen done then ' ' :: done else done) (some c) rest
    else spaceAfter (c :: if isUppercase c && endsOpen done &&
      previous.any (startsWord · rest.head?) then ' ' :: done else done) (some c) rest) = _
  split
  · rfl
  · split <;> rfl

/-! ## Letters -/

/-- The characters of a text that are no blanks. -/
def letters (cs : List Char) : List Char := cs.filter (· != ' ')

theorem letters_spacePast {c : Char} (hc : c ≠ ' ') (done : List Char)
    (previous next : Option Char) :
    letters (spacePast done previous c next) = [c].filter (· != '_') ++ letters done := by
  have hkept : (c != ' ') = true := bne_iff_ne.2 hc
  unfold spacePast
  split
  case isTrue hunderscore =>
    subst hunderscore
    split <;> rfl
  case isFalse hletter =>
    have hc' : (c != '_') = true := bne_iff_ne.2 hletter
    split <;> simp [letters, hkept, hc']

/-- Spacing keeps the characters of a name but for its underscores. -/
theorem letters_spaceAfter {cs : List Char} (hcs : ' ' ∉ cs) (done : List Char)
    (previous : Option Char) :
    letters (spaceAfter done previous cs) = (cs.filter (· != '_')).reverse ++ letters done := by
  induction cs generalizing done previous with
  | nil => rfl
  | cons c cs ih =>
    obtain ⟨hc, hcs⟩ := List.ne_and_not_mem_of_not_mem_cons hcs
    have hreverse : ((c :: cs).filter (· != '_')).reverse =
        (cs.filter (· != '_')).reverse ++ [c].filter (· != '_') := by
      rw [← List.singleton_append, List.filter_append, List.reverse_append]
      cases hc' : c != '_' <;> simp [hc']
    rw [spaceAfter_cons, ih hcs, letters_spacePast hc.symm, hreverse, List.append_assoc]

/-! ## Settled texts -/

/-- Whether spacing leaves a text as it is, which is given last character first, with `next` behind
it: it has no underscore, a blank stands only behind a character other than a blank, and no word
starts behind such a character. -/
def Settled : Option Char → List Char → Prop
  | _, [] => True
  | next, c :: before =>
    (c ≠ '_' ∧ (c = ' ' → endsOpen before = true) ∧
      (isUppercase c = true → ∀ p ∈ before.head?, p ≠ ' ' → startsWord p next = false)) ∧
      Settled (some c) before

/-- What stands behind a text matters only if it is a small letter. -/
theorem Settled.of_next {next next' : Option Char} {done : List Char} (h : Settled next done)
    (hnext : next'.any isLowercase = true → next.any isLowercase = true) : Settled next' done := by
  cases done with
  | nil => trivial
  | cons c before =>
    obtain ⟨⟨hc, hblank, hword⟩, hbefore⟩ := h
    refine ⟨⟨hc, hblank, fun hupper p hp hopen => ?_⟩, hbefore⟩
    have hnone := hword hupper p hp hopen
    unfold startsWord at hnone ⊢
    cases hnext' : next'.any isLowercase with
    | true => rwa [hnext hnext'] at hnone
    | false =>
      rw [Bool.or_eq_false_iff] at hnone ⊢
      exact ⟨hnone.1, Bool.and_false _⟩

/-- A blank settles whatever stands before it, if that ends in a character other than a blank. -/
theorem Settled.blank {c next : Option Char} {done : List Char} (h : Settled c done)
    (hopen : endsOpen done = true) : Settled next (' ' :: done) := by
  refine ⟨⟨by decide, fun _ => hopen, fun hupper => ?_⟩, h.of_next fun hlower => ?_⟩
  · exact absurd hupper (by decide +kernel)
  · exact absurd hlower (by decide +kernel)

/-- What stands behind a text that ends in no character other than a blank is of no matter. -/
theorem Settled.of_closed {next next' : Option Char} {done : List Char} (h : Settled next done)
    (hclosed : ¬endsOpen done = true) : Settled next' done := by
  cases done with
  | nil => trivial
  | cons c before =>
    have hc : c = ' ' := by
      by_contra hc
      exact hclosed (endsOpen_eq_true_iff.2 ⟨c, rfl, hc⟩)
    subst hc
    obtain ⟨⟨-, hopen, -⟩, hbefore⟩ := h
    exact hbefore.blank (hopen rfl)

/-- The beginning of a settled text is settled before what stands behind it. -/
theorem Settled.of_append {next : Option Char} {after done : List Char}
    (h : Settled next (after ++ done)) : Settled (after.getLast?.or next) done := by
  induction after generalizing next with
  | nil => exact h
  | cons c after ih =>
    have hrest := ih h.2
    rwa [Option.or_some, ← List.getLast?_cons] at hrest

/-- A settled text stays so without what is trimmed off its end. -/
theorem Settled.dropWhile {next : Option Char} {done : List Char} (h : Settled next done)
    (p : Char → Bool) : Settled none (done.dropWhile p) := by
  induction done generalizing next with
  | nil => trivial
  | cons c done ih =>
    rw [List.dropWhile_cons]
    split
    · exact ih h.2
    · exact h.of_next fun hnone => Bool.noConfusion hnone

/-- No two blanks of a settled text stand together. -/
theorem Settled.not_double {next : Option Char} {done : List Char} (h : Settled next done) :
    ¬[' ', ' '] <:+: done := by
  induction done generalizing next with
  | nil => simp
  | cons c done ih =>
    rw [List.infix_cons_iff, not_or]
    refine ⟨fun hdouble => ?_, ih h.2⟩
    obtain ⟨rfl, hsecond⟩ := List.cons_prefix_cons.1 hdouble
    obtain ⟨p, hp, hopen⟩ := endsOpen_eq_true_iff.1 (h.1.2.1 rfl)
    obtain ⟨rest, rfl⟩ := hsecond
    exact hopen (Option.some.inj hp).symm

/-- A settled text does not begin with a blank. -/
theorem Settled.getLast?_ne {next : Option Char} {done : List Char} (h : Settled next done) :
    done.getLast? ≠ some ' ' := by
  induction done generalizing next with
  | nil => exact fun hblank => nomatch hblank
  | cons c done ih =>
    cases done with
    | nil =>
      intro hblank
      obtain ⟨p, hp, -⟩ := endsOpen_eq_true_iff.1 (h.1.2.1 (Option.some.inj hblank))
      exact nomatch hp
    | cons d done =>
      rw [List.getLast?_cons_cons]
      exact ih h.2

/-- Spacing leaves a settled text as it is. -/
theorem Settled.spaceAfter_eq {rest done : List Char} (h : Settled none (rest.reverse ++ done)) :
    spaceAfter done done.head? rest = rest.reverse ++ done := by
  induction rest generalizing done with
  | nil => rfl
  | cons c rest ih =>
    rw [List.reverse_cons, List.append_assoc, List.singleton_append] at h ⊢
    have hhere : Settled rest.head? (c :: done) := by
      have hhere := h.of_append
      rwa [List.getLast?_reverse, Option.or_none] at hhere
    obtain ⟨⟨hc, -, hword⟩, -⟩ := hhere
    -- At no letter of a settled text does a word start that has no space before it.
    have hpast : spacePast done done.head? c rest.head? = c :: done := by
      unfold spacePast
      rw [if_neg hc, if_neg]
      intro hstart
      rw [Bool.and_eq_true, Bool.and_eq_true] at hstart
      obtain ⟨⟨hupper, hopen⟩, hstart⟩ := hstart
      obtain ⟨p, hp, hp'⟩ := endsOpen_eq_true_iff.1 hopen
      rw [Option.mem_def.1 hp, Option.any_some, hword hupper p hp hp'] at hstart
      exact Bool.noConfusion hstart
    rw [spaceAfter_cons, hpast]
    exact ih h

/-! ## Spacing a name -/

/-- What is known of a text so far, last character first, behind the character `previous` of the
name and before `next`. -/
structure Spacing (done : List Char) (previous next : Option Char) : Prop where
  /-- It is settled. -/
  settled : Settled next done
  /-- It ends as the name does that is passed, unless it ends in a blank. -/
  linked : endsOpen done = true → done.head? = previous

/-- One more character leaves a settled text. -/
theorem Spacing.step {done : List Char} {previous : Option Char} {c : Char} (hc : c ≠ ' ')
    (h : Spacing done previous (some c)) (next : Option Char) :
    Spacing (spacePast done previous c next) (some c) next := by
  obtain ⟨hsettled, hlinked⟩ := h
  unfold spacePast
  split
  case isTrue hunderscore =>
    -- Behind an underscore the text ends in a blank or is empty, so no word starts there.
    split
    case isTrue hopen => exact ⟨hsettled.blank hopen, fun hopen' => Bool.noConfusion hopen'⟩
    case isFalse hclosed =>
      exact ⟨hsettled.of_closed hclosed, fun hopen => absurd hopen hclosed⟩
  case isFalse hletter =>
    split
    case isTrue hstart =>
      rw [Bool.and_eq_true, Bool.and_eq_true] at hstart
      refine ⟨⟨⟨hletter, fun hblank => absurd hblank hc, fun _ p hp hp' => ?_⟩,
        hsettled.blank hstart.1.2⟩, fun _ => rfl⟩
      exact absurd (Option.some.inj hp).symm hp'
    case isFalse hstart =>
      refine ⟨⟨⟨hletter, fun hblank => absurd hblank hc, fun hupper p hp hp' => ?_⟩, hsettled⟩,
        fun _ => rfl⟩
      have hopen : endsOpen done = true := endsOpen_eq_true_iff.2 ⟨p, hp, hp'⟩
      have hprevious : previous = some p := (hlinked hopen).symm.trans hp
      rw [hupper, hopen, hprevious, Option.any_some, Bool.true_and, Bool.true_and,
        Bool.not_eq_true] at hstart
      exact hstart

/-- Spacing the rest of a name leaves a settled text. -/
theorem Spacing.settled_spaceAfter {cs done : List Char} {previous : Option Char}
    (hcs : ' ' ∉ cs) (h : Spacing done previous cs.head?) :
    Settled none (spaceAfter done previous cs) := by
  induction cs generalizing done previous with
  | nil => exact h.settled
  | cons c cs ih =>
    obtain ⟨hc, hcs⟩ := List.ne_and_not_mem_of_not_mem_cons hcs
    rw [spaceAfter_cons]
    exact ih hcs (h.step hc.symm cs.head?)

/-- Trimming takes only spaces off the end of a text whose white space is spaces. -/
theorem letters_dropWhile {done : List Char} (h : ∀ c ∈ letters done, isBlank c = false) :
    letters (done.dropWhile isBlank) = letters done := by
  induction done with
  | nil => rfl
  | cons c done ih =>
    rw [List.dropWhile_cons]
    split
    case isFalse => rfl
    case isTrue hblank =>
      -- What is trimmed is white space, and of this the text has only spaces, which are no letters.
      have hspace : (c != ' ') = false := by
        rw [bne_eq_false_iff_eq]
        by_contra hc
        have hkept : c ∈ letters (c :: done) :=
          List.mem_filter.2 ⟨List.mem_cons_self, bne_iff_ne.2 hc⟩
        rw [h c hkept] at hblank
        exact Bool.noConfusion hblank
      have hdone : letters (c :: done) = letters done := List.filter_cons_of_neg (by simp [hspace])
      rw [hdone] at h ⊢
      exact ih h

/-- A name without white space is spaced without loss: without the spaces it is the name without its
underscores. No space stands at either end or beside another, and spacing it again changes
nothing. -/
theorem spacedName_settles (name : List Char) (hname : ∀ c ∈ name, isBlank c = false) :
    (spacedName name).filter (· != ' ') = name.filter (· != '_') ∧
      (spacedName name).head? ≠ some ' ' ∧ (spacedName name).getLast? ≠ some ' ' ∧
      ¬[' ', ' '] <:+: spacedName name ∧ spacedName (spacedName name) = spacedName name := by
  have hspace : ' ' ∉ name := fun hmem => absurd (hname ' ' hmem) (by decide +kernel)
  have hletters : letters (spaceAfter [] none name) = (name.filter (· != '_')).reverse := by
    rw [letters_spaceAfter hspace]
    exact List.append_nil _
  have hsettled : Settled none (spaceAfter [] none name) :=
    Spacing.settled_spaceAfter hspace ⟨trivial, fun hopen => Bool.noConfusion hopen⟩
  -- The spaced name is built from its end, so what is trimmed there stands first in `kept`.
  obtain ⟨kept, hkept⟩ : ∃ kept, (spaceAfter [] none name).dropWhile isBlank = kept := ⟨_, rfl⟩
  have hspaced : spacedName name = kept.reverse := by
    rw [spacedName, trimEnd, List.reverse_reverse, hkept]
  have hkeptSettled : Settled none kept := hkept ▸ hsettled.dropWhile isBlank
  have hends : ∀ c ∈ kept.head?, isBlank c = false := hkept ▸ Text.head_dropWhile isBlank _
  rw [hspaced]
  refine ⟨?_, ?_, ?_, ?_, ?_⟩
  · have hnone : ∀ c ∈ letters (spaceAfter [] none name), isBlank c = false := fun c hc => by
      rw [hletters, List.mem_reverse, List.mem_filter] at hc
      exact hname c hc.1
    have hkeptLetters : letters kept = (name.filter (· != '_')).reverse := by
      rw [← hkept, letters_dropWhile hnone, hletters]
    rw [List.filter_reverse]
    exact List.reverse_eq_iff.2 hkeptLetters
  · rw [List.head?_reverse]
    exact hkeptSettled.getLast?_ne
  · rw [List.getLast?_reverse]
    exact fun hblank => absurd (hends ' ' hblank) (by decide +kernel)
  · rw [← List.reverse_infix, List.reverse_reverse]
    exact hkeptSettled.not_double
  · have hagain : spaceAfter [] none kept.reverse = kept := by
      have hagain : spaceAfter [] none kept.reverse = kept.reverse.reverse ++ [] :=
        Settled.spaceAfter_eq (by rwa [List.reverse_reverse, List.append_nil])
      rwa [List.reverse_reverse, List.append_nil] at hagain
    rw [spacedName, trimEnd, List.reverse_reverse, hagain, (Text.span_of_head hends).2]

theorem spacedName_settles_mixed :
    (∀ c ∈ "_my_HTMLParser2Élan_".toList, isBlank c = false) ∧
      spacedName "_my_HTMLParser2Élan_".toList = "my HTML Parser2 Élan".toList ∧
      spacedName (spacedName "_my_HTMLParser2Élan_".toList) =
        spacedName "_my_HTMLParser2Élan_".toList := by
  have hall : "_my_HTMLParser2Élan_".toList.all (!isBlank ·) = true := by decide +kernel
  have hname : ∀ c ∈ "_my_HTMLParser2Élan_".toList, isBlank c = false := fun c hc => by
    simpa using List.all_eq_true.1 hall c hc
  obtain ⟨-, -, -, -, hagain⟩ := spacedName_settles _ hname
  exact ⟨hname, by decide +kernel, hagain⟩

end ViewForge.Template
