import ViewForge.Proofs.Text.Recasing
import ViewForge.VisualBasic.Scan

/-!
# Lines of Visual Basic in another case

Every reader of a line takes the same from it whatever the case of its letters is: what it finds in
a line that is mapped to another case is what it finds in the line, mapped likewise. Whether a line
is skipped, which words and modifiers are on it and where they end are the same; names and type
texts follow the map.
-/

namespace ViewForge.VisualBasic

/-- A header whose letters are mapped. -/
def TypeHeader.map (n : Char → Char) (header : TypeHeader) : TypeHeader :=
  ⟨header.word.map n, header.name.map n, header.parameters.map (List.map n)⟩

def Annotation.map (n : Char → Char) (a : Annotation) : Annotation := ⟨a.isNew, a.text.map n⟩

def PropertyHeader.map (n : Char → Char) (header : PropertyHeader) : PropertyHeader :=
  ⟨header.modifiers.map (List.map n), header.name.map n, header.annotation.map fun a => a.map n⟩

def AccessorHeader.map (n : Char → Char) (header : AccessorHeader) : AccessorHeader :=
  ⟨header.modifiers.map (List.map n), header.isGetter⟩

def BlockHeader.map (n : Char → Char) (header : BlockHeader) : BlockHeader :=
  ⟨header.modifiers.map (List.map n), header.word.map n⟩

variable {n : Char → Char} (h : Text.Recases n)

include h

/-! ## Lines and words -/

theorem isSkipped_map (cs : List Char) : isSkipped (cs.map n) = isSkipped cs := by
  unfold isSkipped
  rw [h.trimStart_map]
  obtain hnil | ⟨rest, hcs, hmap⟩ | ⟨c, rest, hcs, hc, hn⟩ :=
    h.head_cases '\x27' (by decide) (Text.trimStart cs)
  · rw [hnil]
    rfl
  · rw [hmap, hcs]
    rfl
  · have hsame := h.sameIgnoringCase_map ((c :: rest).take 4) ['r', 'e', 'm', ' ']
    rw [List.map_take, List.map_cons] at hsame
    simpa [hcs, hc, hn] using hsame

theorem beforeComment_map (quoted : Bool) (cs : List Char) :
    beforeComment quoted (cs.map n) = (beforeComment quoted cs).map n := by
  induction cs generalizing quoted with
  | nil => rfl
  | cons c cs ih =>
    have hquote := h.eq_mark_iff '"' (by decide) c
    have hmark := h.eq_mark_iff '\x27' (by decide) c
    simp only [List.map_cons, beforeComment, hquote, hmark, ih]
    split <;> rfl

theorem code_map (cs : List Char) : code (cs.map n) = (code cs).map n := by
  rw [code, beforeComment_map h, h.trimEnd_map, code]

theorem foldLetter_map (c : Char) : foldLetter (n c) = foldLetter c := by
  unfold foldLetter
  rw [h c]
  simp only [h.eq_mark_iff '\u017f' (by decide), h.eq_mark_iff '\u212a' (by decide)]

theorem afterLetters?_map (word cs : List Char) :
    afterLetters? word (cs.map n) = (afterLetters? word cs).map (List.map n) := by
  induction word generalizing cs with
  | nil => rfl
  | cons l word ih =>
    cases cs with
    | nil => rfl
    | cons c cs =>
      rw [List.map_cons, afterLetters?, afterLetters?, foldLetter_map h, ih]
      split <;> rfl

theorem anyWord?_map (vocabulary : List String) (cs : List Char) :
    anyWord? vocabulary (cs.map n) = (anyWord? vocabulary cs).map (Prod.map id (List.map n)) := by
  unfold anyWord?
  rw [List.map_findSome?]
  congr 1
  funext word
  rw [Function.comp_apply, afterLetters?_map h, Option.map_map, Option.map_map]
  rfl

theorem afterBlanks?_map (cs : List Char) :
    afterBlanks? (cs.map n) = (afterBlanks? cs).map (List.map n) := by
  cases cs with
  | nil => rfl
  | cons c cs =>
    rw [List.map_cons, afterBlanks?, afterBlanks?, h.isBlank, h.trimStart_map]
    split <;> rfl

theorem afterWord?_map (word : String) (cs : List Char) :
    afterWord? word (cs.map n) = (afterWord? word cs).map (List.map n) := by
  unfold afterWord?
  rw [afterLetters?_map h]
  cases afterLetters? word.toList cs with
  | none => rfl
  | some rest => exact afterBlanks?_map h rest

theorem endsWord_map (cs : List Char) : endsWord (cs.map n) = endsWord cs := by
  cases cs with
  | nil => rfl
  | cons c cs => rw [List.map_cons, endsWord, endsWord, h.isWord]

theorem name?_map (cs : List Char) :
    name? (cs.map n) = (name? cs).map (Prod.map (List.map n) (List.map n)) := by
  obtain ⟨htake, hdrop⟩ := Text.span_map h.isWord cs
  unfold name?
  dsimp only
  rw [htake, hdrop, List.isEmpty_map]
  split <;> rfl

theorem modifiersWith_map (vocabulary : List String) (fuel : Nat) (cs : List Char) :
    modifiersWith vocabulary fuel (cs.map n) =
      Prod.map (List.map (List.map n)) (List.map n) (modifiersWith vocabulary fuel cs) := by
  induction fuel generalizing cs with
  | zero => rfl
  | succ fuel ih =>
    -- A word is found or not, up to case, and the same number of letters is taken.
    unfold modifiersWith
    rw [anyWord?_map h]
    cases anyWord? vocabulary cs with
    | none => rfl
    | some found =>
      obtain ⟨word, rest⟩ := found
      dsimp only [Option.map_some, Prod.map]
      rw [afterBlanks?_map h]
      cases afterBlanks? rest with
      | none => rfl
      | some rest =>
        dsimp only [Option.map_some]
        rw [ih, ← List.map_take]
        rfl

theorem modifiers_map (vocabulary : List String) (cs : List Char) :
    modifiers vocabulary (cs.map n) =
      Prod.map (List.map (List.map n)) (List.map n) (modifiers vocabulary cs) := by
  rw [modifiers, List.length_map, modifiersWith_map h, modifiers]

theorem hasModifier_map (mods : List (List Char)) (word : String) :
    hasModifier (mods.map (List.map n)) word = hasModifier mods word := by
  rw [hasModifier, List.any_map, hasModifier]
  exact congrArg mods.any (funext fun m => h.sameIgnoringCase_map m _)

theorem tailsAfter_map (cs : List Char) :
    afterAttributes.tailsAfter (cs.map n) = (afterAttributes.tailsAfter cs).map (List.map n) := by
  induction cs with
  | nil => rfl
  | cons c cs ih =>
    rw [List.map_cons, afterAttributes.tailsAfter, afterAttributes.tailsAfter, ih]
    simp only [h.eq_mark_iff '>' (by decide)]
    split <;> rfl

theorem afterAttributes_map (cs : List Char) :
    afterAttributes (cs.map n) = (afterAttributes cs).map (List.map n) := by
  unfold afterAttributes
  rw [h.trimStart_map]
  obtain hnil | ⟨rest, hcs, hmap⟩ | ⟨c, rest, hcs, hc, hn⟩ :=
    h.head_cases '<' (by decide) (Text.trimStart cs)
  · rw [hnil]
    rfl
  · rw [hmap, hcs]
    simp only [tailsAfter_map h, ← List.map_reverse, List.map_map]
    exact List.map_congr_left fun cs _ => h.trimStart_map cs
  · simp [hcs, hc, hn]

/-- A declaration is read behind its attributes as it is read, if the reader follows the map. -/
theorem behindAttributes?_map {α : Type} {read : List Char → Option α} {g : α → α}
    (hread : ∀ cs, read (cs.map n) = (read cs).map g) (cs : List Char) :
    behindAttributes? read (cs.map n) = (behindAttributes? read cs).map g := by
  unfold behindAttributes?
  rw [afterAttributes_map h, List.findSome?_map, List.map_findSome?]
  exact congrArg (List.findSome? · _) (funext hread)

/-! ## Headers -/

theorem namespaceName?_map (cs : List Char) :
    namespaceName? (cs.map n) = (namespaceName? cs).map (List.map n) := by
  have hdotted (c : Char) : isDotted (n c) = isDotted c := by
    rw [isDotted, h.isWord, h.beq_mark (by decide), isDotted]
  unfold namespaceName?
  rw [h.trimStart_map, afterWord?_map h]
  cases afterWord? "namespace" (Text.trimStart cs) with
  | none => rfl
  | some rest =>
    simp only [Option.map_some, Option.bind_eq_bind, Option.bind_some, List.isEmpty_map,
      (Text.span_map hdotted rest).1]
    split <;> rfl

theorem endsNamespace_map (cs : List Char) : endsNamespace (cs.map n) = endsNamespace cs := by
  unfold endsNamespace
  rw [h.trimStart_map, afterWord?_map h]
  cases afterWord? "end" (Text.trimStart cs) with
  | none => rfl
  | some rest =>
    rw [Option.map_some, Option.bind_some, Option.bind_some, afterLetters?_map h, Option.any_map]
    exact congrArg (Option.any · _) (funext (endsWord_map h))

theorem contains_map (mark : Char) (hmark : mark.isAlpha = false) (cs : List Char) :
    (cs.map n).contains mark = cs.contains mark := by
  rw [Bool.eq_iff_iff, List.contains_iff_mem, List.contains_iff_mem, List.mem_map]
  refine ⟨?_, fun hmem => ⟨mark, hmem, (h.eq_mark_iff mark hmark _).2 rfl⟩⟩
  rintro ⟨c, hc, hn⟩
  exact (h.eq_mark_iff mark hmark c).1 hn ▸ hc

theorem typeParameterText?_map (cs : List Char) :
    typeParameterText? (cs.map n) = (typeParameterText? cs).map (List.map n) := by
  unfold typeParameterText?
  rw [h.trimStart_map]
  obtain hnil | ⟨rest, hcs, hmap⟩ | ⟨c, rest, hcs, hc, hn⟩ :=
    h.head_cases '(' (by decide) (Text.trimStart cs)
  · rw [hnil]
    rfl
  · rw [hmap, hcs]
    simp only [h.trimStart_map, afterWord?_map h]
    cases afterWord? "of" (Text.trimStart rest) with
    | none => rfl
    | some rest =>
      have hclose (c : Char) : (n c != ')') = (c != ')') := by
        rw [bne, h.beq_mark (by decide), bne]
      simp only [Option.map_some, Option.bind_eq_bind, Option.bind_some,
        contains_map h ')' (by decide), (Text.span_map (p := (· != ')')) hclose rest).1]
      split <;> rfl
  · simp [hcs, hc, hn]

theorem typeHeader?_map (cs : List Char) :
    typeHeader? (cs.map n) = (typeHeader? cs).map (TypeHeader.map n) := by
  refine behindAttributes?_map h (fun cs => ?_) cs
  rw [modifiers_map h]
  dsimp only [Prod.map]
  rw [anyWord?_map h]
  cases anyWord? typeWords (modifiers typeModifiers cs).2 with
  | none => rfl
  | some found =>
    obtain ⟨word, rest⟩ := found
    simp only [Option.map_some, Prod.map, Option.bind_eq_bind, Option.bind_some, id_eq]
    rw [afterBlanks?_map h]
    cases afterBlanks? rest with
    | none => rfl
    | some rest =>
      simp only [Option.map_some, Option.bind_some]
      rw [name?_map h]
      cases name? rest with
      | none => rfl
      | some found =>
        obtain ⟨name, rest⟩ := found
        simp only [Option.map_some, Prod.map, Option.bind_some, typeParameterText?_map h,
          ← List.map_take]
        rfl

theorem endsType_map (cs : List Char) : endsType (cs.map n) = endsType cs := by
  unfold endsType
  rw [h.trimStart_map, afterWord?_map h]
  cases afterWord? "end" (Text.trimStart cs) with
  | none => rfl
  | some rest =>
    rw [Option.map_some, Option.bind_some, Option.bind_some, anyWord?_map h, Option.any_map]
    exact congrArg (Option.any · _) (funext fun found => endsWord_map h found.2)

theorem baseText?_map (cs : List Char) :
    baseText? (cs.map n) = (baseText? cs).map (List.map n) := by
  unfold baseText?
  rw [h.trimStart_map, anyWord?_map h]
  cases anyWord? ["inherits", "implements"] (Text.trimStart cs) with
  | none => rfl
  | some found =>
    simp only [Option.map_some, Prod.map, Option.bind_eq_bind, Option.bind_some]
    rw [afterBlanks?_map h]
    cases afterBlanks? found.2 with
    | none => rfl
    | some rest =>
      simp only [Option.map_some, Option.bind_some, List.isEmpty_map]
      split <;> rfl

theorem annotation?_map (cs : List Char) :
    annotation? (cs.map n) = (annotation? cs).map fun a => a.map n := by
  unfold annotation?
  rw [afterWord?_map h]
  cases afterWord? "new" cs with
  | none =>
    simp only [Option.map_none, List.isEmpty_map]
    split <;> rfl
  | some rest =>
    simp only [Option.map_some, List.isEmpty_map]
    split <;> rfl

theorem afterParentheses_map (cs : List Char) :
    afterParentheses (cs.map n) = (afterParentheses cs).map n := by
  obtain rfl | ⟨rest, rfl, hmap⟩ | ⟨c, rest, rfl, hc, hn⟩ :=
    h.head_cases '(' (by decide) cs
  · rfl
  · rw [hmap]
    simp only [afterParentheses, h.trimStart_map]
    obtain hnil | ⟨rest', hcs, hmap'⟩ | ⟨c, rest', hcs, hc, hn⟩ :=
      h.head_cases ')' (by decide) (Text.trimStart rest)
    · rw [hnil, hmap]
      rfl
    · rw [hmap', hcs]
      rfl
    · simp [hcs, hc, hn, ← hmap]
  · simp [afterParentheses, hc, hn]

theorem propertyTail?_map (cs : List Char) :
    propertyTail? (cs.map n) = (propertyTail? cs).map (Option.map fun a => a.map n) := by
  unfold propertyTail?
  rw [h.trimStart_map, afterParentheses_map h, h.trimStart_map]
  cases Text.trimStart (afterParentheses (Text.trimStart cs)) with
  | nil => rfl
  | cons c cs =>
    rw [List.map_cons]
    dsimp only
    rw [← List.map_cons, afterWord?_map h]
    cases afterWord? "as" (c :: cs) with
    | none => rfl
    | some rest =>
      rw [Option.map_some, Option.bind_some, Option.bind_some, annotation?_map h]
      cases annotation? rest <;> rfl

theorem propertyNameAndType?_map (cs : List Char) :
    propertyNameAndType? (cs.map n) =
      (propertyNameAndType? cs).map (Prod.map (List.map n) (Option.map fun a => a.map n)) := by
  unfold propertyNameAndType?
  rw [name?_map h]
  cases name? cs with
  | none => rfl
  | some found =>
    obtain ⟨name, rest⟩ := found
    simp only [Option.map_some, Prod.map, Option.bind_eq_bind, Option.bind_some]
    rw [propertyTail?_map h]
    cases propertyTail? rest with
    | some annotation => rfl
    | none =>
      simp only [Option.map_none]
      rw [← List.map_reverse]
      -- The name is cut before a last `As` in any case.
      match name.reverse with
      | [] => rfl
      | [s] => rfl
      | s :: a :: lead =>
        simp only [List.map_cons, foldLetter_map h, List.isEmpty_map]
        split
        case isFalse => rfl
        case isTrue =>
          rw [afterBlanks?_map h]
          cases afterBlanks? rest with
          | none => rfl
          | some rest =>
            simp only [Option.map_some, Option.bind_some, annotation?_map h]
            cases annotation? rest with
            | none => rfl
            | some annotation => simp [Prod.map]

theorem propertyHeader?_map (cs : List Char) :
    propertyHeader? (cs.map n) = (propertyHeader? cs).map (PropertyHeader.map n) := by
  refine behindAttributes?_map h (fun cs => ?_) cs
  rw [modifiers_map h]
  dsimp only [Prod.map]
  rw [afterWord?_map h]
  cases afterWord? "property" (modifiers propertyModifiers cs).2 with
  | none => rfl
  | some rest =>
    simp only [Option.map_some, Option.bind_eq_bind, Option.bind_some]
    rw [propertyNameAndType?_map h]
    cases propertyNameAndType? rest <;> rfl

theorem accessorHeader?_map (cs : List Char) :
    accessorHeader? (cs.map n) = (accessorHeader? cs).map (AccessorHeader.map n) := by
  unfold accessorHeader?
  rw [h.trimStart_map, modifiers_map h]
  dsimp only [Prod.map]
  rw [anyWord?_map h]
  cases anyWord? ["get", "set"] (modifiers accessorModifiers (Text.trimStart cs)).2 with
  | none => rfl
  | some found =>
    simp only [Option.map_some, Prod.map, Option.bind_eq_bind, Option.bind_some, endsWord_map h]
    split <;> rfl

theorem blockHeader?_map (cs : List Char) :
    blockHeader? (cs.map n) = (blockHeader? cs).map (BlockHeader.map n) := by
  refine behindAttributes?_map h (fun cs => ?_) cs
  rw [modifiers_map h]
  dsimp only [Prod.map]
  rw [anyWord?_map h]
  cases anyWord? blockWords (modifiers blockModifiers cs).2 with
  | none => rfl
  | some found =>
    simp only [Option.map_some, Prod.map, Option.bind_eq_bind, Option.bind_some, endsWord_map h,
      ← List.map_take, id_eq]
    split <;> rfl

theorem isField_map (cs : List Char) : isField (cs.map n) = isField cs := by
  unfold isField
  rw [behindAttributes?_map h (g := id), Option.map_id]
  · rfl
  · intro cs
    rw [modifiers_map h, Option.map_id]
    obtain ⟨mods, rest⟩ := modifiers fieldModifiers cs
    rcases mods with _ | ⟨word, _ | ⟨other, mods⟩⟩
    · rfl
    · simp only [Prod.map, List.map_cons, List.map_nil, name?_map h, Option.isSome_map, id]
    · rfl

theorem enumMemberName?_map (cs : List Char) :
    enumMemberName? (cs.map n) = (enumMemberName? cs).map (List.map n) := by
  refine behindAttributes?_map h (fun cs => ?_) cs
  rw [name?_map h]
  cases name? cs with
  | none => rfl
  | some found =>
    obtain ⟨name, rest⟩ := found
    simp only [Option.map_some, Prod.map, Option.bind_eq_bind, Option.bind_some, h.trimStart_map]
    obtain hnil | ⟨rest', hcs, hmap⟩ | ⟨c, rest', hcs, hc, hn⟩ :=
      h.head_cases '=' (by decide) (Text.trimStart rest)
    · rw [hnil]
      rfl
    · rw [hmap, hcs]
      rfl
    · simp [hcs, hc, hn]

omit h in
/-- The case of a word does not matter for the line that ends it. -/
theorem beginsEnd_toLower (word cs : List Char) :
    beginsEnd (word.map Char.toLower) cs = beginsEnd word cs := by
  unfold beginsEnd
  rw [← Text.Recases.toLower.afterIgnoringCase?_map_lead (_ ++ word), List.map_append]
  rfl

theorem beginsEnd_map (word cs : List Char) : beginsEnd word (cs.map n) = beginsEnd word cs := by
  rw [beginsEnd, h.trimStart_map, h.afterIgnoringCase?_map, Option.isSome_map, beginsEnd]

/-! ## What headers mean -/

theorem kindOf_map (word : List Char) : kindOf (word.map n) = kindOf word := by
  simp only [kindOf, h.sameIgnoringCase_map]

theorem accessOf_map (mods : List (List Char)) :
    accessOf (mods.map (List.map n)) = accessOf mods := by
  simp only [accessOf, hasModifier_map h]

theorem Accessors.add_map (a : Accessors) (header : AccessorHeader) :
    a.add (header.map n) = a.add header := by
  simp only [Accessors.add, AccessorHeader.map, List.getLast?_map, Option.any_map,
    h.sameIgnoringCase_map]

/-! ## Type texts -/

theorem piecesFrom_map (depth : Nat) (piece cs : List Char) :
    piecesFrom depth (piece.map n) (cs.map n) = (piecesFrom depth piece cs).map (List.map n) := by
  induction cs generalizing depth piece with
  | nil => simp [piecesFrom]
  | cons c cs ih =>
    simp only [List.map_cons, piecesFrom, h.eq_mark_iff ',' (by decide),
      h.eq_mark_iff '(' (by decide), h.eq_mark_iff ')' (by decide)]
    split
    · rw [List.map_cons, List.map_reverse, ← ih]
      rfl
    · rw [← ih]
      rfl

theorem splitList_map (cs : List Char) :
    splitList (cs.map n) = (splitList cs).map (List.map n) := by
  have hpieces : piecesFrom 0 [] (cs.map n) = (piecesFrom 0 [] cs).map (List.map n) :=
    piecesFrom_map h 0 [] cs
  have htrim : Text.trim ∘ List.map n = List.map n ∘ Text.trim := funext h.trim_map
  have hempty : (fun t : List Char => !t.isEmpty) ∘ List.map n = fun t => !t.isEmpty :=
    funext fun t => congrArg Bool.not List.isEmpty_map
  rw [splitList, hpieces, List.map_map, htrim, ← List.map_map, List.filter_map, hempty, splitList]

theorem beforeValue_map (depth : Nat) (cs : List Char) :
    beforeValue depth (cs.map n) = (beforeValue depth cs).map n := by
  induction cs generalizing depth with
  | nil => rfl
  | cons c cs ih =>
    simp only [List.map_cons, beforeValue, h.eq_mark_iff '=' (by decide),
      h.eq_mark_iff '(' (by decide), h.eq_mark_iff ')' (by decide), ih]
    split <;> rfl

theorem beforeImplements_map (cs : List Char) :
    beforeImplements (cs.map n) = (beforeImplements cs).map n := by
  unfold beforeImplements
  rw [h.map_toLower_map]
  cases Text.cut? " implements ".toList (cs.map Char.toLower) with
  | none => rfl
  | some found => exact List.map_take.symm

theorem dropArguments_map (cs : List Char) :
    dropArguments (cs.map n) = (dropArguments cs).map n := by
  -- The parentheses are kept by the case, so both are cut at the same place.
  have hopen (c : Char) : (n c != '(') = (c != '(') := by
    rw [bne, h.beq_mark (by decide), bne]
  have hinside := (Text.span_map (p := (· != '(')) hopen cs.reverse).1
  unfold dropArguments
  rw [← List.map_reverse]
  obtain hnil | ⟨rest, hcs, hmap⟩ | ⟨c, rest, hcs, hc, hn⟩ :=
    h.head_cases ')' (by decide) cs.reverse
  · rw [hnil]
    rfl
  · rw [hinside, hmap, hcs]
    simp only [contains_map h '(' (by decide), ← List.map_reverse, h.trimStart_map,
      ← List.map_take, h.sameIgnoringCase_map, List.length_map, h.trim_map]
    split
    · split <;> rfl
    · rfl
  · simp [hcs, hc, hn]

theorem propertyType_map (isNew : Bool) (cs : List Char) :
    propertyType isNew (cs.map n) = (propertyType isNew cs).map n := by
  simp only [propertyType, beforeValue_map h, h.trim_map, beforeImplements_map h,
    dropArguments_map h]
  split <;> rfl

end ViewForge.VisualBasic
