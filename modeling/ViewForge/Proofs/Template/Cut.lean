import Mathlib.Data.List.Chain
import ViewForge.Proofs.Template.Parts

/-!
# How a template is cut

Cutting a template into parts loses nothing and misses nothing (`parts_exact`). The letters of the
parts are those of the template, each marker stands at the offset that it is given, and no marker is
left in a text; a marker that is spelled somewhere is among the parts unless it begins inside one
that is. Filling the parts in asks for the value of each marker once, in the order in which they
stand, and copies the rest.

The cutting is followed from an offset of the template on. It passes a marker as a whole and
anything else by a letter, and `cutInduction` is the induction along these two steps.
-/

namespace ViewForge.Template

/-! ## Spellings -/

/-- No dollar sign stands in the word of a marker. -/
theorem dollar_notMem_word (m : Marker) : '$' ∉ m.word := by cases m <;> decide +kernel

/-- The marker of a word. -/
def markerOf? (word : List Char) : Option Marker := Marker.all.find? (·.word == word)

theorem markerOf?_word (m : Marker) : markerOf? m.word = some m := by cases m <;> decide +kernel

/-- Two texts that begin with spellings of markers begin with the same one. -/
theorem spelling_append_inj {m m' : Marker} {rest rest' : List Char}
    (h : m.spelling ++ rest = m'.spelling ++ rest') : m = m' ∧ rest = rest' := by
  have hword (m : Marker) (rest : List Char) :
      (m.word ++ '$' :: rest).takeWhile (· != '$') = m.word := by
    refine (Text.span_append (Text.bne_of_notMem (dollar_notMem_word m)) ?_).1
    rintro c ⟨⟩
    rfl
  have hbehind : m.word ++ '$' :: rest = m'.word ++ '$' :: rest' := by
    simpa [Marker.spelling] using h
  have hsame : m.word = m'.word := by rw [← hword m rest, hbehind, hword m' rest']
  have hmarker : some m = some m' := by rw [← markerOf?_word m, hsame, markerOf?_word m']
  rw [hsame] at hbehind
  exact ⟨Option.some.inj hmarker, (List.cons.inj (List.append_cancel_left hbehind)).2⟩

/-- A marker leads a text exactly if the text begins with its spelling. -/
theorem leading?_eq_some_iff {cs rest : List Char} {m : Marker} :
    Marker.leading? cs = some (m, rest) ↔ cs = m.spelling ++ rest := by
  refine ⟨eq_append_of_leading?, ?_⟩
  rintro rfl
  have hmem : m ∈ Marker.all := by cases m <;> decide
  cases hlead : Marker.leading? (m.spelling ++ rest) with
  | some found =>
    obtain ⟨rfl, rfl⟩ := spelling_append_inj (eq_append_of_leading? hlead)
    rfl
  | none =>
    have hnone := List.findSome?_eq_none_iff.1 hlead m hmem
    rw [Text.after?_append] at hnone
    exact nomatch hnone

theorem leading?_spelling (m : Marker) (rest : List Char) :
    Marker.leading? (m.spelling ++ rest) = some (m, rest) := leading?_eq_some_iff.2 rfl

/-- The number of bytes of a text. -/
def byteSize : List Char → Nat
  | [] => 0
  | c :: cs => c.utf8Size + byteSize cs

@[simp]
theorem byteSize_nil : byteSize [] = 0 := rfl

@[simp]
theorem byteSize_cons (c : Char) (cs : List Char) :
    byteSize (c :: cs) = c.utf8Size + byteSize cs := rfl

@[simp]
theorem byteSize_append (cs cs' : List Char) :
    byteSize (cs ++ cs') = byteSize cs + byteSize cs' := by
  induction cs with
  | nil => rw [List.nil_append, byteSize_nil, Nat.zero_add]
  | cons c cs ih => rw [List.cons_append, byteSize_cons, byteSize_cons, ih, Nat.add_assoc]

/-- A text that is not empty has bytes. -/
theorem byteSize_pos {cs : List Char} (h : cs ≠ []) : 0 < byteSize cs := by
  obtain ⟨c, cs, rfl⟩ := List.exists_cons_of_ne_nil h
  have := c.utf8Size_pos
  rw [byteSize_cons]
  omega

/-- The spelling of a marker is one of ASCII. -/
theorem byteSize_spelling (m : Marker) : byteSize m.spelling = m.spelling.length := by
  cases m <;> decide +kernel

theorem spelling_ne_nil (m : Marker) : m.spelling ≠ [] := List.cons_ne_nil _ _

/-! ## Cutting from an offset on -/

/-- The parts of a text that begins at a byte offset. -/
def partsFrom (offset : Nat) (cs : List Char) : List Part := partsWith cs.length offset cs

/-- More fuel than a text is long changes nothing. -/
theorem partsWith_congr {fuel fuel' offset : Nat} {cs : List Char} (h : cs.length ≤ fuel)
    (h' : cs.length ≤ fuel') : partsWith fuel offset cs = partsWith fuel' offset cs := by
  induction fuel generalizing fuel' offset cs with
  | zero =>
    obtain rfl := List.eq_nil_of_length_eq_zero (Nat.le_zero.1 h)
    cases fuel' <;> rfl
  | succ fuel ih =>
    cases cs with
    | nil => cases fuel' <;> rfl
    | cons c cs =>
      rw [List.length_cons] at h h'
      obtain ⟨fuel', rfl⟩ : ∃ n, fuel' = n + 1 := ⟨fuel' - 1, by omega⟩
      rw [partsWith, partsWith]
      -- Each step passes a character at least, which leaves enough fuel for the rest on both sides.
      split
      · rename_i m rest hlead
        have hlength := congrArg List.length (eq_append_of_leading? hlead)
        have hpos := List.length_pos_of_ne_nil (spelling_ne_nil m)
        rw [List.length_cons, List.length_append] at hlength
        exact congrArg (Part.marker m offset :: ·) (ih (by omega) (by omega))
      · exact congrArg (Part.cons c) (ih (by omega) (by omega))

@[simp]
theorem partsFrom_nil (offset : Nat) : partsFrom offset [] = [] := rfl

/-- Cutting passes a marker as a whole. -/
theorem partsFrom_spelling (offset : Nat) (m : Marker) (rest : List Char) :
    partsFrom offset (m.spelling ++ rest) =
      .marker m offset :: partsFrom (offset + byteSize m.spelling) rest := by
  have hlead := leading?_spelling m rest
  rw [byteSize_spelling]
  obtain ⟨c, cs, htext⟩ := List.exists_cons_of_ne_nil (spelling_ne_nil m)
  have hfuel : rest.length ≤ (cs ++ rest).length := by
    rw [List.length_append]
    omega
  calc partsFrom offset (m.spelling ++ rest)
      = partsWith ((cs ++ rest).length + 1) offset (c :: (cs ++ rest)) := by rw [htext]; rfl
    _ = .marker m offset :: partsWith (cs ++ rest).length (offset + m.spelling.length) rest := by
      rw [partsWith, ← List.cons_append, ← htext, hlead]
    _ = .marker m offset :: partsFrom (offset + m.spelling.length) rest :=
      congrArg (Part.marker m offset :: ·) (partsWith_congr hfuel (Nat.le_refl _))

/-- Cutting passes a letter at which no marker begins. -/
theorem partsFrom_cons {c : Char} {cs : List Char} (h : Marker.leading? (c :: cs) = none)
    (offset : Nat) :
    partsFrom offset (c :: cs) = Part.cons c (partsFrom (offset + c.utf8Size) cs) := by
  rw [partsFrom, List.length_cons, partsWith, h]
  rfl

/-- The induction along the cutting of a text: it passes the spelling of a marker or a letter at
which none begins. -/
@[elab_as_elim]
theorem cutInduction {motive : Nat → List Char → Prop} (nil : ∀ offset, motive offset [])
    (spelling : ∀ offset (m : Marker) rest, motive (offset + byteSize m.spelling) rest →
      motive offset (m.spelling ++ rest))
    (letter : ∀ offset c cs, Marker.leading? (c :: cs) = none → motive (offset + c.utf8Size) cs →
      motive offset (c :: cs)) (offset : Nat) (cs : List Char) : motive offset cs := by
  induction hlength : cs.length using Nat.strong_induction_on generalizing offset cs with
  | _ n ih =>
    cases cs with
    | nil => exact nil offset
    | cons c cs =>
      cases hlead : Marker.leading? (c :: cs) with
      | none => exact letter offset c cs hlead (ih _ (by simp [← hlength]) _ _ rfl)
      | some found =>
        obtain ⟨m, rest⟩ := found
        have htext := eq_append_of_leading? hlead
        -- The spelling of a marker is not empty, so what stands behind it is shorter.
        have hshorter : rest.length < n := by
          have hpos := List.length_pos_of_ne_nil (spelling_ne_nil m)
          rw [← hlength, htext, List.length_append]
          omega
        rw [htext]
        exact spelling offset m rest (ih _ hshorter _ _ rfl)

/-! ## What parts say -/

/-- The letters of a part as they stand in the template. -/
def Part.letters : Part → List Char
  | .text letters => letters
  | .marker m _ => m.spelling

/-- Whether a part is text. -/
def Part.isText : Part → Bool
  | .text _ => true
  | .marker .. => false

/-- The letters of parts. -/
def lettersOf (parts : List Part) : List Char := parts.flatMap Part.letters

@[simp]
theorem lettersOf_cons (p : Part) (parts : List Part) :
    lettersOf (p :: parts) = p.letters ++ lettersOf parts := List.flatMap_cons

/-- The text that comes first among parts. -/
def leadText : List Part → List Char
  | .text letters :: _ => letters
  | _ => []

/-- The parts behind a text that comes first. -/
def behindText : List Part → List Part
  | .text _ :: parts => parts
  | parts => parts

/-- A letter in front of parts joins the text that comes first. -/
theorem Part.cons_eq_text (c : Char) (parts : List Part) :
    Part.cons c parts = .text (c :: leadText parts) :: behindText parts := by
  match parts with
  | [] => rfl
  | .text _ :: _ => rfl
  | .marker .. :: _ => rfl

/-- Parts are those behind a text that comes first, with that text in front if there is one. -/
theorem eq_behindText_or (parts : List Part) :
    parts = .text (leadText parts) :: behindText parts ∨
      parts = behindText parts ∧ leadText parts = [] := by
  match parts with
  | [] => exact .inr ⟨rfl, rfl⟩
  | .text _ :: _ => exact .inl rfl
  | .marker .. :: _ => exact .inr ⟨rfl, rfl⟩

theorem lettersOf_eq_leadText (parts : List Part) :
    lettersOf parts = leadText parts ++ lettersOf (behindText parts) := by
  match parts with
  | [] => rfl
  | .text _ :: _ => rfl
  | .marker .. :: _ => rfl

@[simp]
theorem lettersOf_partCons (c : Char) (parts : List Part) :
    lettersOf (Part.cons c parts) = c :: lettersOf parts := by
  rw [Part.cons_eq_text, lettersOf_cons, lettersOf_eq_leadText parts]
  rfl

/-- A marker behind some parts stands behind those to which a letter was put in front. -/
theorem exists_of_partCons_eq {c : Char} {parts before after : List Part} {m : Marker}
    {offset : Nat} (h : Part.cons c parts = before ++ .marker m offset :: after) :
    ∃ before', parts = before' ++ .marker m offset :: after ∧
      lettersOf before = c :: lettersOf before' := by
  rw [Part.cons_eq_text] at h
  cases before with
  | nil => exact nomatch h
  | cons first before =>
    obtain ⟨rfl, hbehind⟩ := List.cons.inj h
    rcases eq_behindText_or parts with hparts | ⟨hparts, hlead⟩
    · exact ⟨.text (leadText parts) :: before, hparts.trans (congrArg (_ :: ·) hbehind), rfl⟩
    · refine ⟨before, hparts.trans hbehind, ?_⟩
      rw [hlead]
      rfl

theorem mem_partCons_marker {c : Char} {parts : List Part} {m : Marker} {offset : Nat} :
    .marker m offset ∈ Part.cons c parts ↔ .marker m offset ∈ parts := by
  match parts with
  | [] => simp [Part.cons]
  | .text _ :: _ => simp [Part.cons]
  | .marker .. :: _ => simp [Part.cons]

/-! ## Nothing is lost -/

/-- The letters of the parts are the text that is cut. -/
@[simp]
theorem lettersOf_partsFrom (offset : Nat) (cs : List Char) :
    lettersOf (partsFrom offset cs) = cs := by
  induction offset, cs using cutInduction with
  | nil => rfl
  | spelling offset m rest ih =>
    rw [partsFrom_spelling, lettersOf_cons, ih]
    rfl
  | letter offset c cs hnone ih => rw [partsFrom_cons hnone, lettersOf_partCons, ih]

/-- A marker is given the offset at which it stands. -/
theorem offset_of_partsFrom_eq {offset place : Nat} {cs : List Char} {before after : List Part}
    {m : Marker} (h : partsFrom offset cs = before ++ .marker m place :: after) :
    place = offset + byteSize (lettersOf before) := by
  induction offset, cs using cutInduction generalizing before with
  | nil => simp at h
  | spelling offset m' rest ih =>
    rw [partsFrom_spelling] at h
    cases before with
    | nil =>
      obtain ⟨hfirst, -⟩ := List.cons.inj h
      exact (Part.marker.inj hfirst).2.symm
    | cons first before =>
      obtain ⟨rfl, hrest⟩ := List.cons.inj h
      have hplace := ih hrest
      rw [lettersOf_cons, byteSize_append, Part.letters]
      omega
  -- A letter joins the text behind it, so the parts before the marker are the same but for that
  -- letter.
  | letter offset c cs hnone ih =>
    rw [partsFrom_cons hnone] at h
    obtain ⟨before', hbefore, hletters⟩ := exists_of_partCons_eq h
    have hplace := ih hbefore
    rw [hletters, byteSize_cons]
    omega

/-- Texts do not follow each other, as a letter joins the text behind it. -/
theorem isChain_partsFrom (offset : Nat) (cs : List Char) :
    (partsFrom offset cs).IsChain fun p q => p.isText = true → q.isText = false := by
  induction offset, cs using cutInduction with
  | nil => exact .nil
  | spelling offset m rest ih =>
    rw [partsFrom_spelling]
    exact List.isChain_cons.2 ⟨fun _ _ => nofun, ih⟩
  | letter offset c cs hnone ih =>
    rw [partsFrom_cons hnone]
    -- Only a text at the head takes the letter in; before a marker it is a text of its own.
    match hparts : partsFrom (offset + c.utf8Size) cs with
    | [] => exact .singleton _
    | .marker m place :: parts =>
      rw [hparts] at ih
      exact .cons_cons (fun _ => rfl) ih
    | .text letters :: parts =>
      rw [hparts] at ih
      obtain ⟨hnext, hrest⟩ := List.isChain_cons.1 ih
      exact List.isChain_cons.2 ⟨hnext, hrest⟩

/-! ## Nothing is missed -/

/-- No marker is spelled in a text among parts. -/
theorem not_spelling_infix {offset : Nat} {cs letters : List Char}
    (h : .text letters ∈ partsFrom offset cs) (m : Marker) : ¬ m.spelling <:+: letters := by
  induction offset, cs using cutInduction generalizing letters with
  | nil => exact nomatch h
  | spelling offset m' rest ih =>
    rw [partsFrom_spelling] at h
    exact ih ((List.mem_cons.1 h).resolve_left Part.noConfusion)
  | letter offset c cs hnone ih =>
    have hletters := lettersOf_partsFrom (offset + c.utf8Size) cs
    rw [partsFrom_cons hnone, Part.cons_eq_text] at h
    generalize hparts : partsFrom (offset + c.utf8Size) cs = parts at h ih hletters
    have hbehind : ∀ p ∈ behindText parts, p ∈ parts := by
      rcases eq_behindText_or parts with hsplit | ⟨hsplit, -⟩
      · exact fun p hp => hsplit ▸ List.mem_cons_of_mem _ hp
      · exact fun p hp => hsplit ▸ hp
    obtain hfirst | hrest := List.mem_cons.1 h
    · obtain rfl := Part.text.inj hfirst
      intro hspelled
      rcases List.infix_cons_iff.1 hspelled with ⟨rest, hlead⟩ | hinside
      · -- The spelling would lead the template here.
        have htext : c :: cs = m.spelling ++ (rest ++ lettersOf (behindText parts)) := by
          rw [← List.append_assoc, hlead, List.cons_append, ← lettersOf_eq_leadText, hletters]
        rw [htext, leading?_spelling] at hnone
        exact nomatch hnone
      · rcases eq_behindText_or parts with hsplit | ⟨-, hnil⟩
        · exact ih (hsplit ▸ List.mem_cons_self) hinside
        · rw [hnil] at hinside
          exact spelling_ne_nil m (List.infix_nil.1 hinside)
    · exact ih (hbehind _ hrest)

/-- Whether parts account for a marker at an offset: it is one of them, or it begins inside a marker
that is one of them and begins before it. -/
def AccountsFor (parts : List Part) (m : Marker) (place : Nat) : Prop :=
  .marker m place ∈ parts ∨
    ∃ m' before, .marker m' before ∈ parts ∧ before < place ∧
      place < before + byteSize m'.spelling

theorem AccountsFor.mono {parts parts' : List Part} {m : Marker} {place : Nat}
    (h : AccountsFor parts m place)
    (hmem : ∀ m' before, .marker m' before ∈ parts → .marker m' before ∈ parts') :
    AccountsFor parts' m place := by
  refine h.imp (hmem m place) ?_
  rintro ⟨m', before, hparts, hplaces⟩
  exact ⟨m', before, hmem m' before hparts, hplaces⟩

/-- The parts of a text account for each marker that is spelled in it. -/
theorem accountsFor_partsFrom (offset : Nat) {cs before after : List Char} {m : Marker}
    (h : cs = before ++ (m.spelling ++ after)) :
    AccountsFor (partsFrom offset cs) m (offset + byteSize before) := by
  induction offset, cs using cutInduction generalizing before with
  | nil => exact absurd h.symm (by simp [spelling_ne_nil])
  | spelling offset m' rest ih =>
    rw [partsFrom_spelling]
    have hbehind (inside : List Char) (hrest : rest = inside ++ (m.spelling ++ after)) :
        AccountsFor (.marker m' offset :: partsFrom (offset + byteSize m'.spelling) rest) m
          (offset + byteSize (m'.spelling ++ inside)) := by
      rw [byteSize_append, ← Nat.add_assoc]
      exact (ih hrest).mono fun _ _ => List.mem_cons_of_mem _
    rcases List.append_eq_append_iff.1 h with ⟨inside, hbefore, hrest⟩ | ⟨inside, hspelling, hrest⟩
    · exact hbefore ▸ hbehind inside hrest
    · match before, inside with
      | [], _ =>
        -- It is the first marker.
        obtain ⟨rfl, -⟩ := spelling_append_inj h
        exact .inl List.mem_cons_self
      | before, [] =>
        have hsame : before = m'.spelling ++ [] := by
          rw [hspelling, List.append_nil, List.append_nil]
        exact hsame ▸ hbehind [] hrest.symm
      | first :: before, last :: inside =>
        -- It begins inside the first marker.
        have hfirst := byteSize_pos (List.cons_ne_nil first before)
        have hlast := byteSize_pos (List.cons_ne_nil last inside)
        refine .inr ⟨m', offset, List.mem_cons_self, by omega, ?_⟩
        rw [hspelling, byteSize_append]
        omega
  | letter offset c cs hnone ih =>
    rw [partsFrom_cons hnone]
    cases before with
    | nil =>
      rw [h, List.nil_append, leading?_spelling] at hnone
      exact nomatch hnone
    | cons first before =>
      obtain ⟨rfl, hrest⟩ := List.cons.inj h
      rw [byteSize_cons, ← Nat.add_assoc]
      exact (ih hrest).mono fun _ _ => mem_partCons_marker.2

/-- Whether parts cut a template exactly. -/
structure IsCut (template : List Char) (parts : List Part) : Prop where
  /-- Put together, the parts are the template. -/
  letters : lettersOf parts = template
  /-- The offset of a marker is the number of bytes before it. -/
  offset (before after : List Part) (m : Marker) (place : Nat)
    (h : parts = before ++ .marker m place :: after) : place = byteSize (lettersOf before)
  /-- No text is empty. -/
  text_ne_nil (letters : List Char) (h : .text letters ∈ parts) : letters ≠ []
  /-- No text follows a text. -/
  texts_apart : parts.IsChain fun p q => p.isText = true → q.isText = false
  /-- No marker is spelled in a text. -/
  text_unmarked (letters : List Char) (h : .text letters ∈ parts) (m : Marker) :
    ¬ m.spelling <:+: letters
  /-- A marker that is spelled in the template is one of the parts, unless it begins inside another
  that is. -/
  accounted (before after : List Char) (m : Marker)
    (h : template = before ++ (m.spelling ++ after)) : AccountsFor parts m (byteSize before)

theorem isCut_parts (template : List Char) : IsCut template (parts template) where
  letters := lettersOf_partsFrom 0 template
  offset before after m place h := by rw [offset_of_partsFrom_eq h, Nat.zero_add]
  text_ne_nil _ h := ne_nil_of_text_mem_partsWith h
  texts_apart := isChain_partsFrom 0 template
  text_unmarked _ h := not_spelling_infix h
  accounted before after m h := by
    have haccounts := accountsFor_partsFrom 0 h
    rwa [Nat.zero_add] at haccounts

/-! ## Filling in -/

/-- The markers among parts with their offsets. -/
def markersOf : List Part → List (Marker × Nat)
  | [] => []
  | .text _ :: parts => markersOf parts
  | .marker m offset :: parts => (m, offset) :: markersOf parts

variable {σ : Type}

/-- What `value` answers for one marker after the other, and the state that it leaves. -/
def answers (value : Marker → Nat → σ → List Char × σ) :
    List (Marker × Nat) → σ → List (List Char) × σ
  | [], s => ([], s)
  | (m, offset) :: ms, s =>
    let (letters, s) := value m offset s
    let (rest, s) := answers value ms s
    (letters :: rest, s)

/-- The text of parts with answers in place of the markers, the first for the first. -/
def weave : List Part → List (List Char) → List Char
  | [], _ => []
  | .text letters :: parts, answers => letters ++ weave parts answers
  | .marker .. :: parts, answers => answers.headD [] ++ weave parts answers.tail

/-- Filling in asks for each marker once, in order, and puts the answers in their places. -/
theorem fill_eq (value : Marker → Nat → σ → List Char × σ) (parts : List Part) (s : σ) :
    fill value parts s =
      (weave parts (answers value (markersOf parts) s).1,
        (answers value (markersOf parts) s).2) := by
  induction parts generalizing s with
  | nil => rfl
  | cons p parts ih =>
    cases p with
    | text letters => rw [fill, ih, markersOf, weave]
    | marker m offset =>
      rw [fill, markersOf, answers]
      dsimp only
      rw [ih]
      rfl

/-- Parts with a letter in front hold the same markers. -/
theorem markersOf_partCons (c : Char) (parts : List Part) :
    markersOf (Part.cons c parts) = markersOf parts := by
  match parts with
  | [] => rfl
  | .text _ :: _ => rfl
  | .marker .. :: _ => rfl

/-- The markers of a text stand one behind the other, none before the offset of the text. -/
theorem markersOf_partsFrom (offset : Nat) (cs : List Char) :
    (∀ entry ∈ markersOf (partsFrom offset cs), offset ≤ entry.2) ∧
      (markersOf (partsFrom offset cs)).Pairwise fun entry later => entry.2 < later.2 := by
  induction offset, cs using cutInduction with
  | nil => exact ⟨nofun, .nil⟩
  | spelling offset m rest ih =>
    obtain ⟨hbehind, hordered⟩ := ih
    -- The spelling takes a byte at least, so the next marker stands later.
    have hpos := byteSize_pos (spelling_ne_nil m)
    rw [partsFrom_spelling, markersOf]
    refine ⟨?_, List.pairwise_cons.2 ⟨fun later hlater => ?_, hordered⟩⟩
    · rintro entry (_ | ⟨_, hentry⟩)
      · exact Nat.le_refl _
      · have := hbehind entry hentry
        omega
    · have := hbehind later hlater
      dsimp only
      omega
  | letter offset c cs hnone ih =>
    obtain ⟨hbehind, hordered⟩ := ih
    rw [partsFrom_cons hnone, markersOf_partCons]
    refine ⟨fun entry hentry => ?_, hordered⟩
    have := hbehind entry hentry
    omega

/-- The parts of a template cut it exactly: nothing of it is lost, and no marker in it is missed.
Their markers stand one behind the other, and filling in asks for the value of each of them once, in
that order, puts the answers in their places and copies the texts. -/
theorem parts_exact (template : List Char) :
    IsCut template (parts template) ∧
      (markersOf (parts template)).Pairwise (fun entry later => entry.2 < later.2) ∧
      ∀ (value : Marker → Nat → σ → List Char × σ) (s : σ),
        fill value (parts template) s =
          (weave (parts template) (answers value (markersOf (parts template)) s).1,
            (answers value (markersOf (parts template)) s).2) :=
  ⟨isCut_parts template, (markersOf_partsFrom 0 template).2,
    fun value s => fill_eq value (parts template) s⟩

/-- Dollar signs that stand alone or belong to two words are text. -/
example : parts "$5 $foo$name$é$type$$".toList =
    [.text "$5 $foo".toList, .marker .name 7, .text "é".toList, .marker .type 15,
      .text "$".toList] := by
  decide +kernel

end ViewForge.Template
