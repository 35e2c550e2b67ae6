import ViewForge.Proofs.TypeExpr.Grammar

/-!
# Reading is derivation

A text is read as a type exactly if it derives that type in the wide grammar, so it derives at most
one (`parse?_iff_derives`). The narrow grammar is another one (`narrow_derives_otherwise`).

Every reader takes tokens off the front. That what it takes derives what it returns is shown by
recursion on the fuel (`readType_sound`). The other way, a derivation is read off the front if what
follows cannot go on with it; nothing that may stand behind a type can (`EndsType`), and fuel for
two steps a token is enough (`IsType.read`).
-/

namespace ViewForge.TypeExpr

open Conventions (wide narrow)

/-! ## Dimensions -/

/-- Commas up to the bracket that closes them are read. -/
theorem readRank_commas {close : Char} (hclose : close ≠ ',') (commas : Nat)
    (rest : List TypeToken) :
    readRank close (List.replicate commas (.mark ',') ++ .mark close :: rest) =
      some (commas + 1, rest) := by
  induction commas with
  | zero => exact if_pos rfl
  | succ commas ih =>
    rw [List.replicate_succ, List.cons_append, readRank, if_neg hclose.symm, if_pos rfl, ih]
    rfl

/-- What is read as the dimensions of an array are commas, one less than there are dimensions, and
the bracket that closes them. -/
theorem eq_append_of_readRank {close : Char} {rank : Nat} {tokens rest : List TypeToken}
    (h : readRank close tokens = some (rank, rest)) :
    ∃ commas, rank = commas + 1 ∧
      tokens = List.replicate commas (.mark ',') ++ .mark close :: rest := by
  fun_induction readRank close tokens generalizing rank with
  | case1 behind =>
    obtain ⟨rfl, rfl⟩ := Prod.mk.inj (Option.some.inj h)
    exact ⟨0, rfl, rfl⟩
  | case2 behind _ ih =>
    obtain ⟨⟨others, rest'⟩, hread, hpair⟩ := Option.map_eq_some_iff.1 h
    obtain ⟨rfl, rfl⟩ := Prod.mk.inj hpair
    obtain ⟨commas, rfl, rfl⟩ := ih hread
    exact ⟨commas + 1, rfl, rfl⟩
  | case3 => exact nomatch h
  | case4 => exact nomatch h

/-! ## What may follow -/

/-- Whether a token may stand behind a type: the name of an element, a comma, or what closes a
list. -/
def followsType : TypeToken → Bool
  | .word .. => true
  | .doubleColon => false
  | .mark c => c == ',' || c == '>' || c == ')'

/-- Whether a type ends where a list of tokens begins. -/
def EndsType (rest : List TypeToken) : Prop := ∀ token ∈ rest.head?, followsType token = true

/-- Whether a name ends where a list of tokens begins, and has no arguments if it has had none. -/
def EndsName : List TypeToken → Prop
  | .doubleColon :: _ => False
  | .mark '.' :: _ => False
  | .mark '<' :: _ => False
  | .mark '(' :: token :: _ => token.opensArguments = false
  | _ => True

/-- Whether the segments of a name end where a list of tokens begins. -/
def EndsSegments : List TypeToken → Prop
  | .doubleColon :: _ => False
  | .mark '.' :: _ => False
  | _ => True

theorem EndsName.endsSegments {rest : List TypeToken} (h : EndsName rest) : EndsSegments rest := by
  unfold EndsSegments
  split
  · exact h.elim
  · exact h.elim
  · trivial

theorem EndsType.endsName {rest : List TypeToken} (h : EndsType rest) : EndsName rest := by
  unfold EndsName
  split
  · exact absurd (h _ rfl) (by decide)
  · exact absurd (h _ rfl) (by decide)
  · exact absurd (h _ rfl) (by decide)
  · exact absurd (h _ rfl) (by decide)
  · trivial

/-- A name ends before a suffix. -/
theorem IsSuffix.endsName {suffix rest : List TypeToken} {t u : TypeExpr}
    (h : IsSuffix suffix t u) : EndsName (suffix ++ rest) := by
  cases h with
  | nullable => trivial
  | square commas => trivial
  | round commas => cases commas <;> rfl

theorem AreSuffixes.endsName {suffixes rest : List TypeToken} {t u : TypeExpr}
    (h : AreSuffixes suffixes t u) (hrest : EndsType rest) : EndsName (suffixes ++ rest) := by
  cases h with
  | nil => exact hrest.endsName
  | cons hfirst hmore =>
    rw [List.append_assoc]
    exact hfirst.endsName

/-- A name ends before its arguments. -/
theorem AreArguments.endsSegments {arguments rest : List TypeToken} {args : List TypeExpr}
    (h : AreArguments wide arguments args) (hrest : EndsName rest) :
    EndsSegments (arguments ++ rest) := by
  cases h with
  | none => exact hrest.endsSegments
  | angle hargs => trivial
  | round hword hargs => trivial

/-! ## Derivations are read -/

/-- Suffixes are read up to the end of the type. -/
theorem AreSuffixes.read {suffixes rest : List TypeToken} {t u : TypeExpr}
    (h : AreSuffixes suffixes t u) (hrest : EndsType rest) :
    ∀ fuel, suffixes.length ≤ fuel → readSuffixes fuel t (suffixes ++ rest) = (u, rest) := by
  induction h with
  | @nil t =>
    intro fuel _
    rw [List.nil_append]
    unfold readSuffixes
    split
    · exact absurd (hrest _ rfl) (by decide)
    · exact absurd (hrest _ rfl) (by decide)
    · exact absurd (hrest _ rfl) (by decide)
    · rfl
  | @cons first more t u v hfirst hmore ih =>
    intro fuel hfuel
    rw [List.length_append] at hfuel
    rw [List.append_assoc]
    cases fuel with
    | zero => cases hfirst <;> simp at hfuel
    | succ fuel =>
      -- Each suffix begins with a mark of its own and takes one step, however many commas it has.
      cases hfirst with
      | nullable =>
        rw [List.singleton_append, readSuffixes]
        exact ih fuel (by simp at hfuel; omega)
      | square commas =>
        rw [List.cons_append, List.append_assoc, List.singleton_append, readSuffixes,
          readRank_commas (by decide)]
        exact ih fuel (by simp at hfuel; omega)
      | round commas =>
        rw [List.cons_append, List.append_assoc, List.singleton_append, readSuffixes,
          readRank_commas (by decide)]
        exact ih fuel (by simp at hfuel; omega)

/-- Where a name ends, no segment is read. -/
theorem readSegments_of_endsSegments {done : List String} {rest : List TypeToken}
    (hrest : EndsSegments rest) : readSegments done rest = some (done, rest) := by
  unfold readSegments
  split
  · exact hrest.elim
  · exact hrest.elim
  · exact hrest.elim
  · exact hrest.elim
  · rfl

/-- Behind two segments or more, all others are read. -/
theorem IsTail.readSegments_append {tokens rest : List TypeToken} {tail : List (Bool × String)}
    (h : IsTail tokens tail) (hrest : EndsSegments rest) :
    ∀ done : List String, 2 ≤ done.length →
      readSegments done (tokens ++ rest) = some (done ++ tail.map (·.2), rest) := by
  induction h with
  | nil =>
    intro done _
    rw [List.nil_append, readSegments_of_endsSegments hrest, List.map_nil, List.append_nil]
  | @point escaped blank letters tokens tail htail ih =>
    intro done hdone
    rw [List.cons_append, List.cons_append, readSegments, ih _ (by simp; omega), List.append_assoc]
    rfl
  | @colons escaped blank letters tokens tail htail ih =>
    intro done hdone
    -- An anchor is dropped only if it is the one segment before the colons, which two segments rule
    -- out.
    have hmany : done ≠ ["global"] := by
      rintro rfl
      simp at hdone
    rw [List.cons_append, List.cons_append, readSegments, if_neg hmany, ih _ (by simp; omega),
      List.append_assoc]
    rfl

/-- The segments of a name are read without the anchors at its start. -/
theorem IsTail.readSegments {tokens rest : List TypeToken} {tail : List (Bool × String)}
    (h : IsTail tokens tail) (hrest : EndsSegments rest) (first : String) :
    readSegments [first] (tokens ++ rest) = some (withoutAnchors first tail, rest) := by
  induction h generalizing first with
  | nil => exact readSegments_of_endsSegments hrest
  | @point escaped blank letters tokens tail htail ih =>
    rw [List.cons_append, List.cons_append, TypeExpr.readSegments,
      htail.readSegments_append hrest _ (by simp)]
    rfl
  | @colons escaped blank letters tokens tail htail ih =>
    rw [List.cons_append, List.cons_append, TypeExpr.readSegments, withoutAnchors]
    by_cases hanchor : first = "global"
    · rw [if_pos (by rw [hanchor]), hanchor, List.nil_append, ih]
      rfl
    · have hfalse : (true && first == "global") = false := by simpa using hanchor
      rw [if_neg (by simpa using hanchor), htail.readSegments_append hrest _ (by simp), hfalse]
      rfl

/-- A type derives no empty list of tokens. -/
theorem IsType.length_pos {g : Conventions} {tokens : List TypeToken} {t : TypeExpr}
    (h : IsType g tokens t) : 0 < tokens.length := by
  cases h with
  | suffixed hbase _ => cases hbase <;> simp

/-- A name that a tuple element may have is passed over. -/
theorem skipElementName_of_namesElement {name : TypeToken} (h : name.namesElement = true)
    (rest : List TypeToken) : skipElementName (name :: rest) = rest := by
  rw [skipElementName, if_pos h]

mutual

/-- A type is read off the front of its tokens and what may follow it. -/
theorem IsType.read {tokens rest : List TypeToken} {t : TypeExpr} (h : IsType wide tokens t)
    (hrest : EndsType rest) (fuel : Nat) (hfuel : 2 * tokens.length ≤ fuel) :
    readType fuel (tokens ++ rest) = some (t, rest) := by
  have hpos := h.length_pos
  obtain ⟨fuel, rfl⟩ : ∃ n, fuel = n + 1 := ⟨fuel - 1, by omega⟩
  cases h with
  | @suffixed base suffixes u t hbase hsuffixes =>
    have hsuffixesRead : readSuffixes (suffixes ++ rest).length u (suffixes ++ rest) = (t, rest) :=
      hsuffixes.read hrest _ (by rw [List.length_append]; omega)
    -- The base is read first, and suffixes up to where the type ends.
    cases hbase with
    | @named escaped blank letters dotted arguments tail args htail hargs =>
      have hname := hsuffixes.endsName hrest
      have hargsRead : readArguments fuel (arguments ++ (suffixes ++ rest)) =
          some (args, suffixes ++ rest) :=
        hargs.read hname fuel (by simp at hfuel; omega)
      have hsegments := htail.readSegments (hargs.endsSegments hname) (String.ofList letters)
      rw [List.cons_append, List.cons_append, List.append_assoc, List.append_assoc, readType,
        hsegments]
      show (readArguments fuel (arguments ++ (suffixes ++ rest))).bind _ = _
      rw [hargsRead]
      show some (readSuffixes (suffixes ++ rest).length _ (suffixes ++ rest)) = _
      rw [← hsuffixesRead]
      rfl
    | @tuple elements items hitems =>
      have hitemsRead : readElements fuel (elements ++ .mark ')' :: (suffixes ++ rest)) =
          some (items, suffixes ++ rest) :=
        hitems.read fuel (by simp at hfuel; omega)
      rw [List.append_assoc, List.cons_append, List.append_assoc, List.singleton_append, readType,
        hitemsRead]
      exact congrArg some hsuffixesRead
termination_by (tokens.length, 0)

/-- Arguments are read off the front of their tokens up to where the name ends. -/
theorem AreArguments.read {tokens rest : List TypeToken} {args : List TypeExpr}
    (h : AreArguments wide tokens args) (hrest : EndsName rest) (fuel : Nat)
    (hfuel : 2 * tokens.length ≤ fuel) :
    readArguments fuel (tokens ++ rest) = some (args, rest) := by
  -- What opens arguments tells their form: nothing, an angle bracket, or a parenthesis and a word.
  cases h with
  | none =>
    rw [List.nil_append]
    unfold readArguments
    split
    · exact hrest.elim
    · rename_i token _
      have hopens : token.opensArguments = false := hrest
      rw [hopens, if_neg Bool.false_ne_true]
    · rfl
  | @angle inner args hargs =>
    obtain ⟨fuel, rfl⟩ : ∃ n, fuel = n + 1 := ⟨fuel - 1, by simp at hfuel; omega⟩
    rw [List.cons_append, List.append_assoc, List.singleton_append, readArguments]
    exact hargs.read (by decide) (by decide) fuel (by simp at hfuel; omega)
  | @round word inner args hword hargs =>
    obtain ⟨fuel, rfl⟩ : ∃ n, fuel = n + 1 := ⟨fuel - 1, by simp at hfuel; omega⟩
    have hopens : word.opensArguments = true := hword
    rw [List.cons_append, List.cons_append, List.append_assoc, List.singleton_append, readArguments,
      if_pos hopens]
    exact hargs.read (by decide) (by decide) fuel (by simp at hfuel; omega)
termination_by (tokens.length, 0)

/-- Types separated by commas are read up to the bracket that closes them. -/
theorem AreTypes.read {tokens rest : List TypeToken} {ts : List TypeExpr} {close : Char}
    (h : AreTypes wide tokens ts) (hcomma : close ≠ ',')
    (hclose : followsType (.mark close) = true) (fuel : Nat)
    (hfuel : 2 * tokens.length + 1 ≤ fuel) :
    readList fuel close (tokens ++ .mark close :: rest) = some (ts, rest) := by
  obtain ⟨fuel, rfl⟩ : ∃ n, fuel = n + 1 := ⟨fuel - 1, by omega⟩
  -- The last type is followed by the closing bracket, any other by a comma; both end a type.
  cases h with
  | @one tokens t ht =>
    have hends : EndsType (.mark close :: rest) := by
      rintro token ⟨⟩
      exact hclose
    rw [readList, ht.read hends fuel (by omega)]
    show (if close = ',' then _ else if close = close then some ([t], rest) else none) = _
    rw [if_neg hcomma, if_pos rfl]
  | @more tokens more t ts ht hts =>
    have hends : EndsType (.mark ',' :: (more ++ .mark close :: rest)) := by
      rintro token ⟨⟩
      rfl
    rw [List.append_assoc, List.cons_append, readList,
      ht.read hends fuel (by simp at hfuel; omega)]
    show Option.map _ (readList fuel close (more ++ .mark close :: rest)) = _
    rw [hts.read hcomma hclose fuel (by simp at hfuel; omega)]
    rfl
termination_by (tokens.length, 1)

/-- The type of an element is read, and its name passed over, up to the mark behind it. -/
theorem IsElement.read {tokens : List TypeToken} {t : TypeExpr} (h : IsElement wide tokens t)
    (c : Char) (rest : List TypeToken) (hc : followsType (.mark c) = true) (fuel : Nat)
    (hfuel : 2 * tokens.length ≤ fuel) :
    ∃ after, readType fuel (tokens ++ .mark c :: rest) = some (t, after) ∧
      skipElementName after = .mark c :: rest := by
  cases h with
  | unnamed ht =>
    refine ⟨.mark c :: rest, ht.read ?_ fuel hfuel, rfl⟩
    rintro token ⟨⟩
    exact hc
  | @named tokens name t ht hname =>
    rw [List.append_assoc, List.singleton_append]
    refine ⟨name :: .mark c :: rest, ht.read ?_ fuel (by simp at hfuel; omega),
      skipElementName_of_namesElement hname _⟩
    rintro token ⟨⟩
    -- Only a word names an element.
    cases name with
    | word => rfl
    | doubleColon => exact nomatch hname
    | mark => exact nomatch hname
termination_by (tokens.length, 1)

/-- The elements of a tuple are read up to the closing parenthesis. -/
theorem AreElements.read {tokens rest : List TypeToken} {ts : List TypeExpr}
    (h : AreElements wide tokens ts) (fuel : Nat) (hfuel : 2 * tokens.length + 1 ≤ fuel) :
    readElements fuel (tokens ++ .mark ')' :: rest) = some (ts, rest) := by
  obtain ⟨fuel, rfl⟩ : ∃ n, fuel = n + 1 := ⟨fuel - 1, by omega⟩
  -- An element may have a name behind its type, which is passed over to the comma or the
  -- parenthesis.
  cases h with
  | one ht =>
    obtain ⟨after, hread, hskip⟩ := ht.read ')' rest rfl fuel (by omega)
    rw [readElements, hread]
    show (match skipElementName after with
      | .mark ',' :: rest => _
      | .mark ')' :: rest => _
      | _ => _) = _
    rw [hskip]
    rfl
  | @more tokens more t ts ht hts =>
    obtain ⟨after, hread, hskip⟩ :=
      ht.read ',' (more ++ .mark ')' :: rest) rfl fuel (by simp at hfuel; omega)
    rw [List.append_assoc, List.cons_append, readElements, hread]
    show (match skipElementName after with
      | .mark ',' :: rest => _
      | .mark ')' :: rest => _
      | _ => _) = _
    rw [hskip]
    show Option.map _ (readElements fuel (more ++ .mark ')' :: rest)) = _
    rw [hts.read fuel (by simp at hfuel; omega)]
    rfl
termination_by (tokens.length, 2)

end

/-! ## What is read is derived -/

/-- What is taken off as suffixes makes the type that is returned. -/
theorem readSuffixes_sound (fuel : Nat) (t : TypeExpr) (tokens : List TypeToken) :
    ∃ suffixes, tokens = suffixes ++ (readSuffixes fuel t tokens).2 ∧
      AreSuffixes suffixes t (readSuffixes fuel t tokens).1 := by
  -- A question mark or a bracket with commas is taken off; everything else ends the suffixes.
  fun_induction readSuffixes fuel t tokens with
  | case1 fuel t rest ih =>
    obtain ⟨suffixes, hrest, hsuffixes⟩ := ih
    exact ⟨.mark '?' :: suffixes, congrArg _ hrest, .cons .nullable hsuffixes⟩
  | case2 fuel t rest rank after hrank ih =>
    obtain ⟨commas, rfl, rfl⟩ := eq_append_of_readRank hrank
    obtain ⟨suffixes, hafter, hsuffixes⟩ := ih
    refine ⟨_, ?_, .cons (.square commas) hsuffixes⟩
    simp only [List.cons_append, List.append_assoc, List.nil_append, ← hafter]
  | case4 fuel t rest rank after hrank ih =>
    obtain ⟨commas, rfl, rfl⟩ := eq_append_of_readRank hrank
    obtain ⟨suffixes, hafter, hsuffixes⟩ := ih
    refine ⟨_, ?_, .cons (.round commas) hsuffixes⟩
    simp only [List.cons_append, List.append_assoc, List.nil_append, ← hafter]
  | case3 => exact ⟨[], rfl, .nil⟩
  | case5 => exact ⟨[], rfl, .nil⟩
  | case6 => exact ⟨[], rfl, .nil⟩

/-- What is taken off as segments are the segments of a name, up to their end. -/
theorem readSegments_sound : ∀ (done : List String) (tokens : List TypeToken)
    {segments : List String} {rest : List TypeToken},
    readSegments done tokens = some (segments, rest) →
      ∃ dotted tail, tokens = dotted ++ rest ∧ IsTail dotted tail ∧ EndsSegments rest := by
  intro done tokens
  -- A point or colons with a word behind go on with the name; without a word the reading fails.
  fun_induction readSegments done tokens with
  | case1 done escaped letters blank tokens ih =>
    intro segments rest h
    obtain ⟨dotted, tail, rfl, htail, hends⟩ := ih h
    exact ⟨_, _, rfl, .point htail, hends⟩
  | case2 done escaped letters blank tokens ih =>
    intro segments rest h
    obtain ⟨dotted, tail, rfl, htail, hends⟩ := ih h
    exact ⟨_, _, rfl, .colons htail, hends⟩
  | case3 => exact fun h => nomatch h
  | case4 => exact fun h => nomatch h
  | case5 done tokens _ _ hpoint hcolons =>
    intro segments rest h
    obtain ⟨rfl, rfl⟩ := Prod.mk.inj (Option.some.inj h)
    refine ⟨[], [], rfl, .nil, ?_⟩
    unfold EndsSegments
    split
    · exact hcolons _ rfl
    · exact hpoint _ rfl
    · trivial

/-- A type and the name behind it, if there is one, are an element. -/
theorem IsType.skipElementName_sound {g : Conventions} {tokens : List TypeToken} {t : TypeExpr}
    (h : IsType g tokens t) (after : List TypeToken) :
    ∃ name, after = name ++ skipElementName after ∧ IsElement g (tokens ++ name) t := by
  have hunnamed : IsElement g (tokens ++ []) t := by
    rw [List.append_nil]
    exact .unnamed h
  cases after with
  | nil => exact ⟨[], rfl, hunnamed⟩
  | cons token rest =>
    rw [skipElementName]
    split
    · rename_i hname
      exact ⟨[token], rfl, .named h hname⟩
    · exact ⟨[], rfl, hunnamed⟩

mutual

/-- What is taken off as a type derives it. -/
theorem readType_sound : ∀ (fuel : Nat) (tokens : List TypeToken) {t : TypeExpr}
    {rest : List TypeToken}, readType fuel tokens = some (t, rest) →
      ∃ used, tokens = used ++ rest ∧ IsType wide used t
  | 0, tokens, t, rest, h => by
    unfold readType at h
    exact nomatch h
  | fuel + 1, tokens, t, rest, h => by
    unfold readType at h
    split at h
    · rename_i n fuel tokens hfuel
      obtain rfl := Nat.succ.inj hfuel
      obtain ⟨⟨items, after⟩, hitems, hread⟩ := Option.map_eq_some_iff.1 h
      obtain ⟨elements, rfl, helements⟩ := readElements_sound _ _ hitems
      obtain ⟨suffixes, hafter, hsuffixes⟩ := readSuffixes_sound after.length (.tuple items) after
      dsimp only at hread
      rw [hread] at hafter hsuffixes
      refine ⟨_, ?_, .suffixed (.tuple helements) hsuffixes⟩
      rw [List.append_assoc, List.cons_append, List.append_assoc, List.singleton_append, ← hafter]
    · rename_i n fuel escaped letters blank tokens hfuel
      obtain rfl := Nat.succ.inj hfuel
      obtain ⟨⟨segments, after⟩, hsegments, hbehind⟩ := Option.bind_eq_some_iff.1 h
      obtain ⟨⟨args, after'⟩, hargs, hread⟩ := Option.bind_eq_some_iff.1 hbehind
      obtain ⟨dotted, tail, rfl, htail, hends⟩ := readSegments_sound _ _ hsegments
      obtain ⟨arguments, rfl, harguments⟩ := readArguments_sound _ _ hargs
      -- The segments are those of the grammar, as they are read the same way.
      rw [htail.readSegments hends] at hsegments
      obtain ⟨rfl, -⟩ := Prod.mk.inj (Option.some.inj hsegments)
      obtain ⟨suffixes, hafter, hsuffixes⟩ := readSuffixes_sound after'.length
        (ofSegments (withoutAnchors (String.ofList letters) tail) args) after'
      have hpair : readSuffixes after'.length
          (ofSegments (withoutAnchors (String.ofList letters) tail) args) after' = (t, rest) :=
        Option.some.inj hread
      rw [hpair] at hafter hsuffixes
      refine ⟨.word escaped letters blank :: (dotted ++ arguments) ++ suffixes, ?_,
        .suffixed (.named htail harguments) hsuffixes⟩
      rw [show after' = suffixes ++ rest from hafter]
      simp only [List.cons_append, List.append_assoc]
    · exact nomatch h

/-- What is taken off as arguments derives them. -/
theorem readArguments_sound : ∀ (fuel : Nat) (tokens : List TypeToken) {args : List TypeExpr}
    {rest : List TypeToken}, readArguments fuel tokens = some (args, rest) →
      ∃ used, tokens = used ++ rest ∧ AreArguments wide used args
  | 0, tokens, args, rest, h => by
    unfold readArguments at h
    obtain ⟨rfl, rfl⟩ := Prod.mk.inj (Option.some.inj h)
    exact ⟨[], rfl, .none⟩
  | fuel + 1, tokens, args, rest, h => by
    unfold readArguments at h
    split at h
    · rename_i n fuel tokens hfuel
      obtain rfl := Nat.succ.inj hfuel
      obtain ⟨inner, rfl, hinner⟩ := readList_sound _ _ _ h
      refine ⟨_, ?_, .angle hinner⟩
      rw [List.cons_append, List.append_assoc, List.singleton_append]
    · rename_i n fuel word tokens hfuel
      obtain rfl := Nat.succ.inj hfuel
      split at h
      · rename_i hword
        obtain ⟨inner, rfl, hinner⟩ := readList_sound _ _ _ h
        refine ⟨_, ?_, .round hword hinner⟩
        rw [List.cons_append, List.cons_append, List.append_assoc, List.singleton_append]
      · obtain ⟨rfl, rfl⟩ := Prod.mk.inj (Option.some.inj h)
        exact ⟨[], rfl, .none⟩
    · obtain ⟨rfl, rfl⟩ := Prod.mk.inj (Option.some.inj h)
      exact ⟨[], rfl, .none⟩

/-- What is taken off as types derives them, and the closing bracket stands behind it. -/
theorem readList_sound : ∀ (fuel : Nat) (close : Char) (tokens : List TypeToken)
    {ts : List TypeExpr} {rest : List TypeToken}, readList fuel close tokens = some (ts, rest) →
      ∃ used, tokens = used ++ .mark close :: rest ∧ AreTypes wide used ts
  | 0, _, _, _, _, h => by
    unfold readList at h
    exact nomatch h
  | fuel + 1, close, tokens, ts, rest, h => by
    unfold readList at h
    obtain ⟨⟨t, after⟩, ht, hread⟩ := Option.bind_eq_some_iff.1 h
    obtain ⟨used, rfl, hused⟩ := readType_sound _ _ ht
    split at hread
    · rename_i t c after hpair
      obtain ⟨rfl, rfl⟩ := Prod.mk.inj hpair
      split at hread
      · rename_i hcomma
        subst hcomma
        obtain ⟨⟨more, after'⟩, hmore, hpair⟩ := Option.map_eq_some_iff.1 hread
        obtain ⟨rfl, rfl⟩ := Prod.mk.inj hpair
        obtain ⟨tokens, rfl, htokens⟩ := readList_sound _ _ _ hmore
        refine ⟨_, ?_, .more hused htokens⟩
        rw [List.append_assoc, List.cons_append]
      · split at hread
        · rename_i hclose
          subst hclose
          obtain ⟨rfl, rfl⟩ := Prod.mk.inj (Option.some.inj hread)
          exact ⟨used, rfl, .one hused⟩
        · exact nomatch hread
    · exact nomatch hread

/-- What is taken off as elements derives them, and the closing parenthesis stands behind it. -/
theorem readElements_sound : ∀ (fuel : Nat) (tokens : List TypeToken)
    {ts : List TypeExpr} {rest : List TypeToken}, readElements fuel tokens = some (ts, rest) →
      ∃ used, tokens = used ++ .mark ')' :: rest ∧ AreElements wide used ts
  | 0, _, _, _, h => by
    unfold readElements at h
    exact nomatch h
  | fuel + 1, tokens, ts, rest, h => by
    unfold readElements at h
    obtain ⟨⟨t, after⟩, ht, hread⟩ := Option.bind_eq_some_iff.1 h
    obtain ⟨used, rfl, hused⟩ := readType_sound _ _ ht
    obtain ⟨name, hname, helement⟩ := hused.skipElementName_sound after
    dsimp only at hread
    split at hread
    · rename_i rest' hskip
      obtain ⟨⟨more, after'⟩, hmore, hpair⟩ := Option.map_eq_some_iff.1 hread
      obtain ⟨rfl, rfl⟩ := Prod.mk.inj hpair
      obtain ⟨tokens, rfl, htokens⟩ := readElements_sound _ _ hmore
      refine ⟨_, ?_, .more helement htokens⟩
      rw [hname, hskip]
      simp only [List.append_assoc, List.cons_append]
    · rename_i rest' hskip
      obtain ⟨rfl, rfl⟩ := Prod.mk.inj (Option.some.inj hread)
      refine ⟨_, ?_, .one helement⟩
      rw [List.append_assoc, ← hskip, ← hname]
    · exact nomatch hread

end

/-! ## Texts -/

/-- The tokens of a type as a whole are those that derive it. -/
theorem ofTokens?_eq_some_iff {tokens : List TypeToken} {t : TypeExpr} :
    ofTokens? tokens = some t ↔ IsType wide tokens t := by
  unfold ofTokens?
  constructor
  · intro h
    split at h
    · rename_i t' hread
      obtain rfl := Option.some.inj h
      obtain ⟨used, rfl, hused⟩ := readType_sound _ _ hread
      rw [List.append_nil]
      exact hused
    · exact nomatch h
  · intro h
    have hnil : EndsType [] := fun _ h => nomatch h
    have hread := h.read hnil (2 * tokens.length + 2) (by omega)
    rw [List.append_nil] at hread
    rw [hread]

/-- The type of a text is the one that it derives. -/
theorem parse?_eq_some_iff {text : String} {t : TypeExpr} :
    parse? text = some t ↔ wide.Derives text t := by
  unfold parse? ofLetters? Conventions.Derives
  rw [Option.bind_eq_some_iff]
  simp only [TypeToken.scan_eq_some_iff, ofTokens?_eq_some_iff]

/-- A text is read as a type exactly if it derives that type. It derives at most one, by one list of
tokens, and if it derives none nothing is read. -/
theorem parse?_iff_derives (text : String) :
    (∀ t, parse? text = some t ↔ wide.Derives text t) ∧
      (∀ tokens tokens' t t', TypeToken.Spells text.toList tokens → IsType wide tokens t →
        TypeToken.Spells text.toList tokens' → IsType wide tokens' t' →
          tokens = tokens' ∧ t = t') ∧
      (parse? text = none ↔ ∀ t, ¬ wide.Derives text t) := by
  refine ⟨fun t => parse?_eq_some_iff, ?_, ?_⟩
  · intro tokens tokens' t t' hspells ht hspells' ht'
    have hscan := TypeToken.scan_eq_some_iff.2 hspells
    rw [TypeToken.scan_eq_some_iff.2 hspells'] at hscan
    obtain rfl := Option.some.inj hscan
    have hread := ofTokens?_eq_some_iff.2 ht
    rw [ofTokens?_eq_some_iff.2 ht'] at hread
    exact ⟨rfl, (Option.some.inj hread).symm⟩
  · rw [Option.eq_none_iff_forall_ne_some]
    exact forall_congr' fun t => not_congr parse?_eq_some_iff

/-- Behind a name, a parenthesis with a word that opens no arguments derives nothing. -/
theorem not_isType_of_not_opens {g : Conventions} {escaped blank : Bool} {letters : List Char}
    {word : TypeToken} {rest : List TypeToken} (hword : g.opens word = false)
    (hmark : ∀ c, word ≠ .mark c) (t : TypeExpr) :
    ¬ IsType g (.word escaped letters blank :: .mark '(' :: word :: rest) t := by
  intro h
  generalize htokens :
    TypeToken.word escaped letters blank :: .mark '(' :: word :: rest = tokens at h
  obtain ⟨hbase, hsuffixes⟩ := h
  -- A tuple begins otherwise. Behind the name the parenthesis is no segment, opens no arguments
  -- with that word, and has no comma to be a suffix.
  cases hbase with
  | tuple => exact TypeToken.noConfusion (List.cons.inj htokens).1
  | named htail hargs =>
    have hbehind := (List.cons.inj htokens).2
    cases htail with
    | point => exact absurd (List.cons.inj hbehind).1 (by decide)
    | colons => exact absurd (List.cons.inj hbehind).1 (by decide)
    | nil =>
      cases hargs with
      | angle => exact absurd (List.cons.inj hbehind).1 (by decide)
      | round hopens =>
        obtain rfl := (List.cons.inj (List.cons.inj hbehind).2).1
        rw [hword] at hopens
        exact Bool.noConfusion hopens
      | none =>
        cases hsuffixes with
        | nil => exact nomatch hbehind
        | cons hfirst =>
          cases hfirst with
          | nullable => exact absurd (List.cons.inj hbehind).1 (by decide)
          | square => exact absurd (List.cons.inj hbehind).1 (by decide)
          | round commas =>
            have hsecond := (List.cons.inj hbehind).2
            cases commas with
            | zero => exact hmark _ (List.cons.inj hsecond).1
            | succ commas => exact hmark _ (List.cons.inj hsecond).1

/-- The narrow grammar derives another type, or none, where `Of` is written in another case or two
anchors stand before a name. -/
theorem narrow_derives_otherwise :
    (parse? "List(of Order)" = some (.named none "List" [bare "Order"]) ∧
      ∀ t, ¬ narrow.Derives "List(of Order)" t) ∧
    (parse? "global::global::Order" = some (bare "Order") ∧
      narrow.Derives "global::global::Order" (.named (some "global") "Order" [])) := by
  have hlower : TypeToken.scan "List(of Order)".toList = some [.word false "List".toList false,
      .mark '(', .word false "of".toList true, .word false "Order".toList false, .mark ')'] := by
    decide +kernel
  have hanchors : TypeToken.scan "global::global::Order".toList =
      some [.word false "global".toList false, .doubleColon, .word false "global".toList false,
        .doubleColon, .word false "Order".toList false] := by
    decide +kernel
  -- What a text derives is asked of its tokens, which the scan gives.
  refine ⟨⟨by decide +kernel, ?_⟩, by decide +kernel, ?_⟩
  · rintro t ⟨tokens, hspells, ht⟩
    rw [← TypeToken.scan_eq_some_iff, hlower] at hspells
    obtain rfl := Option.some.inj hspells
    refine not_isType_of_not_opens (by decide) ?_ t ht
    exact fun c hmark => nomatch hmark
  · refine ⟨_, TypeToken.scan_eq_some_iff.1 hanchors, ?_⟩
    exact .suffixed (.named (.colons (.colons .nil)) .none) .nil

end ViewForge.TypeExpr
