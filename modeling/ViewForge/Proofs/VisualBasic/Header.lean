import ViewForge.Proofs.Text.Match
import ViewForge.Proofs.VisualBasic.Code
import ViewForge.VisualBasic.Header

/-!
# Lines that begin with words

A line that begins with words of the language, a space behind each, is judged by these words alone:
which vocabulary has the first (`anyWord?_wordText`), up to where they are modifiers
(`modifiers_wordText`), and so which declaration the line opens. A line that is a single name opens
nothing (`typeHeader?_name`), whatever the name.
-/

namespace ViewForge.VisualBasic

/-- Whether a text begins with a word character. -/
def StartsWord (cs : List Char) : Prop := ∃ c ∈ cs.head?, Text.isWord c = true

theorem StartsWord.isBlank {cs : List Char} (h : StartsWord cs) :
    ∃ c ∈ cs.head?, Text.isBlank c = false := by
  obtain ⟨c, hc, hword⟩ := h
  exact ⟨c, hc, Text.isBlank_eq_false_of_isWord hword⟩

theorem StartsWord.append {cs : List Char} (h : StartsWord cs) (rest : List Char) :
    StartsWord (cs ++ rest) := by
  obtain ⟨c, hc, hword⟩ := h
  have hsome : cs ≠ [] := List.ne_nil_of_mem (List.mem_of_mem_head? hc)
  exact ⟨c, by rwa [List.head?_append_of_ne_nil _ hsome], hword⟩

/-- A text that begins with no white space is not trimmed at its start. -/
theorem trimStart_eq_self {cs : List Char} (h : ∃ c ∈ cs.head?, Text.isBlank c = false) :
    Text.trimStart cs = cs := by
  obtain ⟨c, hc, hblank⟩ := h
  exact (Text.span_of_head fun d hd => Option.mem_unique hc hd ▸ hblank).2

/-- A line of which the first four characters are none but word characters is not passed over. -/
theorem isSkipped_eq_false {cs : List Char} (hstarts : StartsWord cs)
    (h : ∀ c ∈ cs.take 4, Text.isWord c = true) : isSkipped cs = false := by
  have hremark : Text.sameIgnoringCase (cs.take 4) ['r', 'e', 'm', ' '] = false := by
    rw [Bool.eq_false_iff]
    intro hsame
    have hspace : ' ' ∈ (cs.take 4).map Char.toLower := by
      rw [Text.map_toLower_of_sameIgnoringCase hsame]
      decide
    obtain ⟨c, hc, hlower⟩ := List.mem_map.1 hspace
    exact Text.ne_of_isWord (h c hc) (by decide) (Text.eq_of_toLower (by decide) hlower)
  obtain ⟨c, hc, hword⟩ := hstarts
  rw [isSkipped, trimStart_eq_self (StartsWord.isBlank ⟨c, hc, hword⟩)]
  split
  case h_1 => exact nomatch hc
  case h_2 => exact absurd (Option.some.inj hc).symm (Text.ne_of_isWord hword (by decide))
  case h_3 => exact hremark

/-- A declaration without attributes is read as it stands. -/
theorem behindAttributes?_eq_self {α : Type} (read : List Char → Option α) {cs : List Char}
    (h : StartsWord cs) : behindAttributes? read cs = read cs := by
  have hattributes : afterAttributes cs = [cs] := by
    obtain ⟨c, hc, hword⟩ := h
    rw [afterAttributes, trimStart_eq_self (StartsWord.isBlank ⟨c, hc, hword⟩)]
    split
    case h_1 rest =>
      have hopening : c ≠ '<' := Text.ne_of_isWord hword (by decide)
      exact absurd (Option.some.inj hc).symm hopening
    case h_2 => rfl
  rw [behindAttributes?, hattributes, List.findSome?_cons, List.findSome?_nil]
  cases read cs <;> rfl

/-- A name ends where no word character stands. -/
theorem name?_append {name rest : List Char} (hname : ∀ c ∈ name, Text.isWord c = true)
    (hsome : name ≠ []) (hrest : ∀ c ∈ rest.head?, Text.isWord c = false) :
    name? (name ++ rest) = some (name, rest) := by
  obtain ⟨htake, hdrop⟩ := Text.span_append hname hrest
  rw [name?, htake, hdrop]
  simp [hsome]

/-! ## Words with a space behind -/

/-- Words with a space behind each. -/
def wordText (ws : List String) : List Char := ws.flatMap fun w => w.toList ++ [' ']

theorem wordText_append (vs ws : List String) (rest : List Char) :
    wordText (vs ++ ws) ++ rest = wordText vs ++ (wordText ws ++ rest) := by
  rw [wordText, List.flatMap_append, List.append_assoc]
  rfl

theorem wordText_cons_append (w : String) (ws : List String) (rest : List Char) :
    wordText (w :: ws) ++ rest = w.toList ++ ' ' :: (wordText ws ++ rest) := by
  simp [wordText]

/-- Whether a word begins with a word character. -/
def startsWord (w : String) : Bool := w.toList.head?.any Text.isWord

theorem startsWord_wordText {w : String} (hw : startsWord w = true) (ws : List String)
    (rest : List Char) : StartsWord (wordText (w :: ws) ++ rest) := by
  rw [wordText_cons_append]
  exact StartsWord.append ((Option.any_eq_true _ _).1 hw) _

theorem startsWord_append {ws : List String} (hws : ∀ w ∈ ws, startsWord w = true)
    {rest : List Char} (hrest : StartsWord rest) : StartsWord (wordText ws ++ rest) := by
  cases ws with
  | nil => exact hrest
  | cons w ws => exact startsWord_wordText (hws w List.mem_cons_self) ws rest

/-- A word of the language is looked for before a space as if nothing came behind. -/
theorem afterLetters?_append_space {word : List Char} (hword : ' ' ∉ word) (cs rest : List Char) :
    afterLetters? word (cs ++ ' ' :: rest) =
      (afterLetters? word cs).map (· ++ ' ' :: rest) := by
  induction word generalizing cs with
  | nil => rfl
  | cons l word ih =>
    have hl : ' ' ≠ l := List.ne_of_not_mem_cons hword
    have hmore : ' ' ∉ word := List.not_mem_of_not_mem_cons hword
    cases cs with
    | nil => exact if_neg hl
    | cons c cs =>
      rw [List.cons_append, afterLetters?, afterLetters?, ih hmore]
      split <;> rfl

/-- Behind a word of the language comes what stands behind the space. -/
theorem afterWord?_wordText {v w : String} (hv : ' ' ∉ v.toList)
    (hw : afterLetters? v.toList w.toList = some []) {rest : List Char}
    (hrest : ∃ c ∈ rest.head?, Text.isBlank c = false) :
    afterWord? v (wordText [w] ++ rest) = some rest := by
  rw [afterWord?, wordText_cons_append, afterLetters?_append_space hv, hw]
  exact congrArg some (trimStart_eq_self hrest)

/-- Whether no word of a vocabulary holds a space. -/
def Spaceless (vocabulary : List String) : Prop := ∀ v ∈ vocabulary, ' ' ∉ v.toList

section Vocabulary

variable {vocabulary : List String} (hvocabulary : Spaceless vocabulary)

include hvocabulary

theorem anyWord?_wordText (w : String) (ws : List String) (rest : List Char) :
    anyWord? vocabulary (wordText (w :: ws) ++ rest) =
      (anyWord? vocabulary w.toList).map fun found =>
        (found.1, found.2 ++ ' ' :: (wordText ws ++ rest)) := by
  rw [wordText_cons_append]
  induction vocabulary with
  | nil => rfl
  | cons v vocabulary ih =>
    obtain ⟨hv, hvs⟩ := List.forall_mem_cons.1 hvocabulary
    have hmore := ih hvs
    unfold anyWord? at hmore ⊢
    rw [List.findSome?_cons, List.findSome?_cons, afterLetters?_append_space hv, hmore]
    cases afterLetters? v.toList w.toList <;> rfl

end Vocabulary

/-- Whether a vocabulary has no word that a word begins with. -/
def lacksWord (vocabulary : List String) (w : String) : Bool :=
  startsWord w && (anyWord? vocabulary w.toList).isNone

/-- Whether a vocabulary has a word, whatever the case of its letters. -/
def hasWord (vocabulary : List String) (w : String) : Bool :=
  startsWord w && (anyWord? vocabulary w.toList).any fun (v, rest) =>
    rest.isEmpty && v.length == w.toList.length

theorem startsWord_of_lacksWord {vocabulary : List String} {w : String}
    (hw : lacksWord vocabulary w = true) : startsWord w = true :=
  (Bool.and_eq_true_iff.1 hw).1

theorem startsWord_of_hasWord {vocabulary : List String} {w : String}
    (hw : hasWord vocabulary w = true) : startsWord w = true :=
  (Bool.and_eq_true_iff.1 hw).1

section Vocabulary

variable {vocabulary : List String} (hvocabulary : Spaceless vocabulary)

include hvocabulary

theorem anyWord?_of_lacksWord {w : String} (hw : lacksWord vocabulary w = true)
    (ws : List String) (rest : List Char) :
    anyWord? vocabulary (wordText (w :: ws) ++ rest) = none := by
  rw [anyWord?_wordText hvocabulary, Option.isNone_iff_eq_none.1 (Bool.and_eq_true_iff.1 hw).2]
  rfl

theorem anyWord?_of_hasWord {w : String} (hw : hasWord vocabulary w = true) (ws : List String)
    (rest : List Char) : ∃ v, anyWord? vocabulary (wordText (w :: ws) ++ rest) =
      some (v, ' ' :: (wordText ws ++ rest)) ∧
      (wordText (w :: ws) ++ rest).take v.length = w.toList := by
  obtain ⟨⟨v, tail⟩, hv, hwhole⟩ := (Option.any_eq_true _ _).1 (Bool.and_eq_true_iff.1 hw).2
  obtain ⟨htail, hlength⟩ := Bool.and_eq_true_iff.1 hwhole
  obtain rfl : tail = [] := List.isEmpty_iff.1 htail
  refine ⟨v, by rw [anyWord?_wordText hvocabulary, hv]; rfl, ?_⟩
  rw [wordText_cons_append, beq_iff_eq.1 hlength, List.take_left]

/-- Words of a vocabulary are read up to a text that begins with none. -/
theorem modifiers_wordText {ws : List String} {rest : List Char}
    (hws : ∀ w ∈ ws, hasWord vocabulary w = true) (hnone : anyWord? vocabulary rest = none)
    (hrest : StartsWord rest) :
    modifiers vocabulary (wordText ws ++ rest) = (ws.map String.toList, rest) := by
  -- Each word takes one unit of fuel, and has a letter and a space at least.
  have hfuel : ∀ fuel, (wordText ws).length < fuel →
      modifiersWith vocabulary fuel (wordText ws ++ rest) = (ws.map String.toList, rest) := by
    induction ws with
    | nil =>
      intro fuel hfuel
      obtain ⟨fuel, rfl⟩ : ∃ n, fuel = n + 1 := ⟨fuel - 1, by omega⟩
      rw [wordText, List.flatMap_nil, List.nil_append, modifiersWith, hnone, List.map_nil]
    | cons w ws ih =>
      intro fuel hfuel
      obtain ⟨hw, hws⟩ := List.forall_mem_cons.1 hws
      obtain ⟨v, hv, htake⟩ := anyWord?_of_hasWord hvocabulary hw ws rest
      have hfirst : StartsWord (wordText ws ++ rest) :=
        startsWord_append (fun u hu => startsWord_of_hasWord (hws u hu)) hrest
      have hblanks : afterBlanks? (' ' :: (wordText ws ++ rest)) = some (wordText ws ++ rest) :=
        congrArg some (trimStart_eq_self hfirst.isBlank)
      have hshort : (wordText (w :: ws)).length = w.toList.length + 1 + (wordText ws).length := by
        rw [wordText, List.flatMap_cons, List.length_append, List.length_append]
        rfl
      obtain ⟨fuel, rfl⟩ : ∃ n, fuel = n + 1 := ⟨fuel - 1, by omega⟩
      have hmore := ih hws fuel (by omega)
      rw [modifiersWith, hv]
      simp only [hblanks, hmore, htake, List.map_cons]
  obtain ⟨c, hc, -⟩ := hrest
  have hsome : rest ≠ [] := List.ne_nil_of_mem (List.mem_of_mem_head? hc)
  have hlength : 0 < rest.length := List.length_pos_iff.2 hsome
  exact hfuel _ (by rw [List.length_append]; omega)

end Vocabulary

/-! ## What such a line opens -/

/-- Whether a word is the first of lines that neither open a namespace nor end a construct. -/
def beginsDeclaration (w : String) : Bool :=
  startsWord w && (afterLetters? "namespace".toList w.toList).isNone &&
    (afterLetters? "end".toList w.toList).isNone

/-- Such a line neither opens a namespace nor ends a construct. -/
theorem wordText_passes {w : String} (hw : beginsDeclaration w = true) (ws : List String)
    (rest : List Char) :
    namespaceName? (wordText (w :: ws) ++ rest) = none ∧
      endsNamespace (wordText (w :: ws) ++ rest) = false ∧
      endsType (wordText (w :: ws) ++ rest) = false := by
  obtain ⟨hboth, hend⟩ := Bool.and_eq_true_iff.1 hw
  obtain ⟨hstarts, hnamespace⟩ := Bool.and_eq_true_iff.1 hboth
  have htrim := trimStart_eq_self (startsWord_wordText hstarts ws rest).isBlank
  -- No blank is in `v`, so whether the line begins with it is decided by the first word of the
  -- line.
  have hword (v : String) (hv : ' ' ∉ v.toList) (hnone : (afterLetters? v.toList w.toList).isNone) :
      afterWord? v (wordText (w :: ws) ++ rest) = none := by
    rw [afterWord?, wordText_cons_append, afterLetters?_append_space hv,
      Option.isNone_iff_eq_none.1 hnone]
    rfl
  have hnamespace' := hword "namespace" (by decide) hnamespace
  have hend' := hword "end" (by decide) hend
  refine ⟨?_, ?_, ?_⟩
  · rw [namespaceName?, htrim, hnamespace']
    rfl
  · rw [endsNamespace, htrim, hend']
    rfl
  · rw [endsType, htrim, hend']
    rfl

theorem spaceless_typeModifiers : Spaceless typeModifiers := by unfold Spaceless; decide +kernel

theorem spaceless_typeWords : Spaceless typeWords := by unfold Spaceless; decide +kernel

section TypeHeader

variable {mods : List String} {w : String}
  (hmods : ∀ m ∈ mods, hasWord typeModifiers m = true)
  (hmodifier : lacksWord typeModifiers w = true)

include hmods hmodifier

/-- Modifiers before a word that is none and not for a type open no type. -/
theorem typeHeader?_wordText_eq_none (hword : lacksWord typeWords w = true) (ws : List String)
    (rest : List Char) : typeHeader? (wordText mods ++ (wordText (w :: ws) ++ rest)) = none := by
  have hrest := startsWord_wordText (startsWord_of_lacksWord hword) ws rest
  have hline := startsWord_append (fun m hm => startsWord_of_hasWord (hmods m hm)) hrest
  rw [typeHeader?, behindAttributes?_eq_self _ hline,
    modifiers_wordText spaceless_typeModifiers hmods
      (anyWord?_of_lacksWord spaceless_typeModifiers hmodifier ws rest) hrest]
  simp only [anyWord?_of_lacksWord spaceless_typeWords hword]
  rfl

/-- Modifiers before a word for a type and a name open the type of that name. -/
theorem typeHeader?_wordText (hword : hasWord typeWords w = true) {name tail : List Char}
    (hname : ∀ c ∈ name, Text.isWord c = true) (hsome : name ≠ [])
    (htail : ∀ c ∈ tail.head?, Text.isWord c = false) :
    typeHeader? (wordText mods ++ (wordText [w] ++ (name ++ tail))) =
      some ⟨w.toList, name, typeParameterText? tail⟩ := by
  have hrest := startsWord_wordText (startsWord_of_hasWord hword) [] (name ++ tail)
  have hline := startsWord_append (fun m hm => startsWord_of_hasWord (hmods m hm)) hrest
  obtain ⟨v, hv, htake⟩ := anyWord?_of_hasWord spaceless_typeWords hword [] (name ++ tail)
  have hstarts : StartsWord name :=
    ⟨_, List.head?_eq_some_head hsome, hname _ (List.head_mem hsome)⟩
  have hblanks : afterBlanks? (' ' :: (wordText [] ++ (name ++ tail))) = some (name ++ tail) :=
    congrArg some (trimStart_eq_self (hstarts.append tail).isBlank)
  -- No attributes are skipped, the modifiers stop at the word for a type, and the name at its tail.
  rw [typeHeader?, behindAttributes?_eq_self _ hline,
    modifiers_wordText spaceless_typeModifiers hmods
      (anyWord?_of_lacksWord spaceless_typeModifiers hmodifier [] (name ++ tail)) hrest]
  simp only [hv, htake, Option.bind_eq_bind, Option.bind_some, hblanks,
    name?_append hname hsome htail]
  rfl

end TypeHeader

/-- Modifiers before a word that is none and not for an accessor open no accessor. -/
theorem accessorHeader?_wordText_eq_none {mods : List String} {w : String}
    (hmods : ∀ m ∈ mods, hasWord accessorModifiers m = true)
    (hmodifier : lacksWord accessorModifiers w = true) (hword : lacksWord ["get", "set"] w = true)
    (ws : List String) (rest : List Char) :
    accessorHeader? (wordText mods ++ (wordText (w :: ws) ++ rest)) = none := by
  have hmodifiers : Spaceless accessorModifiers := by unfold Spaceless; decide
  have haccessors : Spaceless ["get", "set"] := by unfold Spaceless; decide
  have hrest := startsWord_wordText (startsWord_of_lacksWord hword) ws rest
  have hline := startsWord_append (fun m hm => startsWord_of_hasWord (hmods m hm)) hrest
  rw [accessorHeader?, trimStart_eq_self hline.isBlank,
    modifiers_wordText hmodifiers hmods
      (anyWord?_of_lacksWord hmodifiers hmodifier ws rest) hrest]
  simp only [anyWord?_of_lacksWord haccessors hword]
  rfl

theorem spaceless_baseWords : Spaceless ["inherits", "implements"] := by unfold Spaceless; decide

/-- A word for base types, and the text behind it. -/
theorem baseText?_wordText {w : String} (hw : hasWord ["inherits", "implements"] w = true)
    {text : List Char} (htext : ∃ c ∈ text.head?, Text.isBlank c = false) :
    baseText? (wordText [w] ++ text) = some text := by
  have hline := startsWord_wordText (startsWord_of_hasWord hw) [] text
  obtain ⟨v, hv, -⟩ := anyWord?_of_hasWord spaceless_baseWords hw [] text
  have hblanks : afterBlanks? (' ' :: (wordText [] ++ text)) = some text :=
    congrArg some (trimStart_eq_self htext)
  obtain ⟨c, hc, -⟩ := htext
  have hsome : text ≠ [] := List.ne_nil_of_mem (List.mem_of_mem_head? hc)
  rw [baseText?, trimStart_eq_self hline.isBlank, hv]
  simp [hblanks, hsome]

theorem baseText?_wordText_eq_none {w : String}
    (hw : lacksWord ["inherits", "implements"] w = true) (ws : List String) (rest : List Char) :
    baseText? (wordText (w :: ws) ++ rest) = none := by
  have hline := startsWord_wordText (startsWord_of_lacksWord hw) ws rest
  rw [baseText?, trimStart_eq_self hline.isBlank,
    anyWord?_of_lacksWord spaceless_baseWords hw]
  rfl

/-- Modifiers, a name and a type open a property. -/
theorem propertyHeader?_wordText {mods : List String}
    (hmods : ∀ m ∈ mods, hasWord propertyModifiers m = true) {name text : List Char}
    (hname : ∀ c ∈ name, Text.isWord c = true) (hsome : name ≠ [])
    (htext : ∃ c ∈ text.head?, Text.isBlank c = false) {a : Annotation}
    (ha : annotation? text = some a) :
    propertyHeader?
        (wordText mods ++ (wordText ["Property"] ++ (name ++ ' ' :: (wordText ["As"] ++ text)))) =
      some ⟨mods.map String.toList, name, some a⟩ := by
  have hmodifiers : Spaceless propertyModifiers := by unfold Spaceless; decide +kernel
  have hnone : lacksWord propertyModifiers "Property" = true := by decide +kernel
  have hrest := startsWord_wordText (startsWord_of_lacksWord hnone) []
    (name ++ ' ' :: (wordText ["As"] ++ text))
  have hline := startsWord_append (fun m hm => startsWord_of_hasWord (hmods m hm)) hrest
  have hstarts : StartsWord name :=
    ⟨_, List.head?_eq_some_head hsome, hname _ (List.head_mem hsome)⟩
  have hproperty := afterWord?_wordText (v := "property") (w := "Property") (by decide) (by decide)
    (hstarts.append (' ' :: (wordText ["As"] ++ text))).isBlank
  have hcut : name? (name ++ ' ' :: (wordText ["As"] ++ text)) =
      some (name, ' ' :: (wordText ["As"] ++ text)) :=
    name?_append hname hsome (by rintro _ ⟨⟩; decide)
  -- `As` stands behind the name, so the name is not cut.
  have htail : propertyTail? (' ' :: (wordText ["As"] ++ text)) = some (some a) := by
    have hstart : propertyTail? (' ' :: (wordText ["As"] ++ text)) =
        ((afterWord? "as" (wordText ["As"] ++ text)).bind annotation?).map some := rfl
    have has := afterWord?_wordText (v := "as") (w := "As") (by decide) (by decide) htext
    rw [hstart, has, Option.bind_some, ha, Option.map_some]
  rw [propertyHeader?, behindAttributes?_eq_self _ hline,
    modifiers_wordText hmodifiers hmods
      (anyWord?_of_lacksWord hmodifiers hnone [] _) hrest]
  simp only [hproperty, Option.bind_eq_bind, Option.bind_some, propertyNameAndType?, hcut, htail]
  rfl

/-! ## Lines without white space -/

/-- A word of the language is found where its letters stand. -/
theorem exists_of_afterLetters? {word cs rest : List Char} (h : afterLetters? word cs = some rest) :
    ∃ lead, cs = lead ++ rest ∧ lead.map foldLetter = word := by
  induction word generalizing cs with
  | nil =>
    obtain rfl : cs = rest := Option.some.inj h
    exact ⟨[], rfl, rfl⟩
  | cons l word ih =>
    cases cs with
    | nil => exact nomatch h
    | cons c cs =>
      rw [afterLetters?] at h
      split at h
      case isTrue hl =>
        obtain ⟨lead, rfl, hlead⟩ := ih h
        exact ⟨c :: lead, rfl, by rw [List.map_cons, hl, hlead]⟩
      case isFalse => exact nomatch h

theorem suffix_of_afterLetters? {word cs rest : List Char} (h : afterLetters? word cs = some rest) :
    rest <:+ cs := by
  obtain ⟨lead, hcs, -⟩ := exists_of_afterLetters? h
  exact ⟨lead, hcs.symm⟩

theorem suffix_of_anyWord? {vocabulary : List String} {cs rest : List Char} {w : String}
    (h : anyWord? vocabulary cs = some (w, rest)) : rest <:+ cs := by
  obtain ⟨v, -, hv⟩ := List.exists_of_findSome?_eq_some h
  obtain ⟨rest', hrest, hpair⟩ := Option.map_eq_some_iff.1 hv
  exact (Prod.mk.inj hpair).2 ▸ suffix_of_afterLetters? hrest

section Name

variable {name : List Char} (h : ∀ c ∈ name, Text.isWord c = true)

include h

theorem trimStart_name : Text.trimStart name = name :=
  (Text.span_of_head fun c hc =>
    Text.isBlank_eq_false_of_isWord (h c (List.mem_of_mem_head? hc))).2

/-- No white space stands anywhere in a name. -/
theorem afterBlanks?_name {rest : List Char} (hrest : rest <:+ name) :
    afterBlanks? rest = none := by
  cases rest with
  | nil => rfl
  | cons c rest =>
    have hword := h c (hrest.subset List.mem_cons_self)
    rw [afterBlanks?, Text.isBlank_eq_false_of_isWord hword]
    rfl

theorem afterWord?_name (word : String) : afterWord? word name = none := by
  rw [afterWord?, Option.bind_eq_none_iff]
  exact fun rest hrest => afterBlanks?_name h (suffix_of_afterLetters? hrest)

theorem namespaceName?_name : namespaceName? name = none := by
  rw [namespaceName?, trimStart_name h, afterWord?_name h]
  rfl

theorem endsNamespace_name : endsNamespace name = false := by
  rw [endsNamespace, trimStart_name h, afterWord?_name h]
  rfl

theorem endsType_name : endsType name = false := by
  rw [endsType, trimStart_name h, afterWord?_name h]
  rfl

theorem modifiers_name (vocabulary : List String) : modifiers vocabulary name = ([], name) := by
  rw [modifiers]
  cases name.length with
  | zero => rfl
  | succ fuel =>
    rw [modifiersWith]
    cases hword : anyWord? vocabulary name with
    | none => rfl
    | some found =>
      obtain ⟨w, rest⟩ := found
      simp only [afterBlanks?_name h (suffix_of_anyWord? hword)]

theorem typeHeader?_name (hsome : name ≠ []) : typeHeader? name = none := by
  have hstarts : StartsWord name := ⟨_, List.head?_eq_some_head hsome, h _ (List.head_mem hsome)⟩
  rw [typeHeader?, behindAttributes?_eq_self _ hstarts, modifiers_name h]
  cases hword : anyWord? typeWords name with
  | none => simp only [hword]; rfl
  | some found =>
    obtain ⟨w, rest⟩ := found
    simp only [hword, Option.bind_eq_bind, Option.bind_some,
      afterBlanks?_name h (suffix_of_anyWord? hword), Option.bind_none]

/-- A name alone can be a member of an enumeration. -/
theorem enumMemberName?_name (hsome : name ≠ []) : enumMemberName? name = some name := by
  have hstarts : StartsWord name := ⟨_, List.head?_eq_some_head hsome, h _ (List.head_mem hsome)⟩
  have hcut : name? name = some (name, []) := by
    have hnothing : ∀ c ∈ ([] : List Char).head?, Text.isWord c = false := fun c hc => nomatch hc
    have hwhole := name?_append h hsome hnothing
    rwa [List.append_nil] at hwhole
  rw [enumMemberName?, behindAttributes?_eq_self _ hstarts, hcut]
  rfl

end Name

end ViewForge.VisualBasic
