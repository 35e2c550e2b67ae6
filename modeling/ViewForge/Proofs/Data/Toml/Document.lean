import ViewForge.Data.Toml.Document
import ViewForge.Data.Toml.Writer
import ViewForge.Proofs.Data.Toml.Scalar
import ViewForge.Proofs.Data.Toml.Text
import ViewForge.Proofs.Text.Character

/-!
# Documents of TOML, written and read

The lines of a document are read as the statements that they were written for
(`statements?_writeLines`), if their keys need no quotes and their leaves can be written. Whatever
follows the end of a line, a leaf in front of it comes back (`readValue?_write`), and so does the
line (`readStatement?_body`).
-/

namespace ViewForge.Data.Toml

/-! ## What is not skipped -/

/-- Whether neither a blank nor a comment nor a line break begins a text. -/
def IsSolid (cs : List Char) : Prop :=
  ∀ c ∈ cs.head?, isBlank c = false ∧ c ≠ '#' ∧ c ≠ '\n' ∧ c ≠ '\r'

section Solid

variable {cs : List Char}

theorem isSolid_cons {c : Char} (h : isBlank c = false ∧ c ≠ '#' ∧ c ≠ '\n' ∧ c ≠ '\r')
    (cs : List Char) : IsSolid (c :: cs) :=
  fun _ hc => Option.some.inj hc ▸ h

/-- A character that may stand in a key is none of those that may not. -/
theorem ne_of_isBare {c x : Char} (hc : isBare c = true) (hx : isBare x = false) : c ≠ x := by
  intro heq
  rw [← heq, hc] at hx
  exact Bool.noConfusion hx

theorem isSolid_of_isBare {c : Char} (h : isBare c = true) (cs : List Char) :
    IsSolid (c :: cs) := by
  refine isSolid_cons ⟨?_, ne_of_isBare h rfl, ne_of_isBare h rfl, ne_of_isBare h rfl⟩ cs
  unfold isBlank
  rw [beq_false_of_ne (ne_of_isBare h rfl), beq_false_of_ne (ne_of_isBare h rfl)]
  rfl

theorem isBare_of_isDigit {c : Char} (h : c.isDigit = true) : isBare c = true := by
  unfold isBare Char.isAlphanum
  rw [h, Bool.or_true]
  rfl

theorem skipComment_of_isSolid (h : IsSolid cs) : skipComment cs = cs := by
  unfold skipComment
  split
  · exact absurd rfl (h _ rfl).2.1
  · rfl

theorem afterBreak?_of_isSolid (h : IsSolid cs) : afterBreak? cs = none := by
  unfold afterBreak?
  split
  · exact absurd rfl (h _ rfl).2.2.1
  · exact absurd rfl (h _ rfl).2.2.2
  · rfl

theorem isBlank_of_mem_spaces (n : Nat) : ∀ c ∈ List.replicate n ' ', isBlank c = true :=
  fun _ hc => List.eq_of_mem_replicate hc ▸ rfl

/-- Blanks are skipped up to what is solid. -/
theorem skipBlanks_append (blanks : List Char) (hblanks : ∀ c ∈ blanks, isBlank c = true)
    (h : IsSolid cs) : skipBlanks (blanks ++ cs) = cs :=
  (Text.span_append hblanks fun c hc => (h c hc).1).2

theorem skipBlanks_of_isSolid (h : IsSolid cs) : skipBlanks cs = cs :=
  skipBlanks_append [] (fun _ hc => nomatch hc) h

theorem skipLines_append (blanks : List Char) (hblanks : ∀ c ∈ blanks, isBlank c = true)
    (h : IsSolid cs) (fuel : Nat) : skipLines (fuel + 1) (blanks ++ cs) = cs := by
  rw [skipLines, skipBlanks_append blanks hblanks h, skipComment_of_isSolid h,
    afterBreak?_of_isSolid h]

theorem skipLines_of_isSolid (h : IsSolid cs) : skipLines cs.length cs = cs := by
  cases cs with
  | nil => rfl
  | cons c cs => exact skipLines_append [] (fun _ hc => nomatch hc) h cs.length

/-- The end of a line and the blanks behind it are skipped. -/
theorem skipLines_break (blanks : List Char) (hblanks : ∀ c ∈ blanks, isBlank c = true)
    (h : IsSolid cs) (hne : cs ≠ []) :
    skipLines ('\n' :: (blanks ++ cs)).length ('\n' :: (blanks ++ cs)) = cs := by
  obtain ⟨fuel, hfuel⟩ : ∃ fuel, (blanks ++ cs).length = fuel + 1 := by
    have hpos := List.length_pos_iff.2 hne
    exact ⟨(blanks ++ cs).length - 1, by rw [List.length_append]; omega⟩
  have hbreak : skipLines (fuel + 1 + 1) ('\n' :: (blanks ++ cs)) =
      skipLines (fuel + 1) (blanks ++ cs) := rfl
  rw [List.length_cons, hfuel, hbreak, skipLines_append blanks hblanks h]

end Solid

/-! ## Values -/

theorem eq_of_mem_quotes {q : Char} (h : q ∈ ['"', '\x27']) : q = '"' ∨ q = '\x27' := by
  rwa [List.mem_cons, List.mem_singleton] at h

/-- A quote begins each string. -/
theorem writeText_eq_cons (cs : List Char) :
    ∃ q ∈ ['"', '\x27'], ∃ more, writeText cs = q :: more := by
  have hquote : (formOf cs).quote ∈ ['"', '\x27'] := by cases formOf cs <;> decide
  refine ⟨(formOf cs).quote, hquote, ?_⟩
  unfold writeText writeForm Form.delimiter
  split <;> exact ⟨_, rfl⟩

theorem isSolid_writeText (cs rest : List Char) : IsSolid (writeText cs ++ rest) := by
  obtain ⟨q, hq, more, heq⟩ := writeText_eq_cons cs
  rw [heq]
  refine isSolid_cons ?_ _
  rcases eq_of_mem_quotes hq with rfl | rfl <;> decide

section Values

variable {rest : List Char}

/-- What is neither a bracket nor a brace begins a value without parts. -/
theorem readValue?_of_ne {c : Char} (hbracket : c ≠ '[') (hbrace : c ≠ '\x7b') (fuel room : Nat)
    (cs : List Char) : readValue? (fuel + 1) room (c :: cs) = readScalar? (c :: cs) := by
  rw [readValue?]
  · exact fun _ heq => hbracket (List.cons.inj heq).1
  · exact fun _ heq => hbrace (List.cons.inj heq).1

/-- What begins neither of the flags is a text, a time or a number. -/
theorem readScalar?_of_ne {c : Char} (htrue : c ≠ 't') (hfalse : c ≠ 'f') (cs : List Char) :
    readScalar? (c :: cs) = match readText? (c :: cs) with
      | some (letters, rest) => some (.text (String.ofList letters), rest)
      | none =>
        match readMoment? (c :: cs) with
        | some (spelling, rest) => some (.moment (String.ofList spelling), rest)
        | none => (readNumber? (c :: cs)).map fun (n, rest) => (n.value, rest) := by
  unfold readScalar?
  split
  · rename_i heq
    exact absurd (List.cons.inj heq).1 htrue
  · rename_i heq
    exact absurd (List.cons.inj heq).1 hfalse
  · rfl

/-- A string comes back as a value. -/
theorem readValue?_writeText (s : String) (hrest : ∀ q ∈ ['"', '\x27'], rest.head? ≠ some q)
    (fuel room : Nat) :
    readValue? (fuel + 1) room (writeText s.toList ++ rest) = some (.text s, rest) := by
  have hread := readText?_writeText s.toList hrest
  obtain ⟨q, hq, more, heq⟩ := writeText_eq_cons s.toList
  have hne : q ≠ '[' ∧ q ≠ '\x7b' ∧ q ≠ 't' ∧ q ≠ 'f' := by
    rcases eq_of_mem_quotes hq with rfl | rfl <;> decide
  rw [heq, List.cons_append] at hread ⊢
  rw [readValue?_of_ne hne.1 hne.2.1, readScalar?_of_ne hne.2.2.1 hne.2.2.2, hread]
  dsimp only
  rw [String.ofList_toList]

theorem readText?_of_isDigit {d : Char} (h : d.isDigit = true) (cs : List Char) :
    readText? (d :: cs) = none := by
  unfold readText?
  split
  · rename_i heq
    exact absurd (List.cons.inj heq).1 (ne_of_isDigit h rfl)
  · rename_i heq
    exact absurd (List.cons.inj heq).1 (ne_of_isDigit h rfl)
  · rename_i heq
    exact absurd (List.cons.inj heq).1 (ne_of_isDigit h rfl)
  · rename_i heq
    exact absurd (List.cons.inj heq).1 (ne_of_isDigit h rfl)
  · rfl

/-- A number comes back at the end of a line. -/
theorem readValue?_toDigits {n : Nat} (h : Text.isInt64 n = true) (fuel room : Nat) :
    readValue? (fuel + 1) room (Nat.toDigits 10 n ++ '\n' :: rest) =
      some (.integer n, '\n' :: rest) := by
  have hread := readNumber?_toDigits h rest
  have hmoment : readMoment? (Nat.toDigits 10 n ++ '\n' :: rest) = none :=
    readMoment?_digits fun _ => isDigit_of_mem_toDigits
  obtain ⟨d, ds, heq⟩ := List.exists_cons_of_ne_nil (Nat.toDigits_ne_nil (n := n) (b := 10))
  have hd : d.isDigit = true := isDigit_of_mem_toDigits (heq ▸ List.mem_cons_self)
  rw [heq, List.cons_append] at hread hmoment ⊢
  rw [readValue?_of_ne (ne_of_isDigit hd rfl) (ne_of_isDigit hd rfl),
    readScalar?_of_ne (ne_of_isDigit hd rfl) (ne_of_isDigit hd rfl), readText?_of_isDigit hd,
    hmoment, hread]
  rfl

theorem isSolid_bracket (cs : List Char) : IsSolid (']' :: cs) := isSolid_cons (by decide) cs

theorem isSolid_comma (cs : List Char) : IsSolid (',' :: cs) := isSolid_cons (by decide) cs

/-- Neither a comma nor a bracket is a quote. -/
theorem head?_ne_quote {c : Char} (h : c ∉ ['"', '\x27']) (cs : List Char) :
    ∀ q ∈ ['"', '\x27'], (c :: cs).head? ≠ some q :=
  fun _ hq heq => h (Option.some.inj heq ▸ hq)

/-- The closing bracket ends the items. -/
theorem readItems?_bracket (fuel room : Nat) (rest : List Char) :
    readItems? (fuel + 1) room (']' :: rest) = some ([], rest) := by
  rw [readItems?, skipLines_of_isSolid (isSolid_bracket rest)]
  rfl

/-- A string is read as the first of some items. -/
theorem readItems?_writeText {cs more : List Char} {s : String}
    (hskip : skipLines cs.length cs = writeText s.toList ++ more)
    (hmore : ∀ q ∈ ['"', '\x27'], more.head? ≠ some q) (fuel room : Nat) :
    readItems? (fuel + 2) room cs =
      match skipLines more.length more with
      | ',' :: rest =>
        (readItems? (fuel + 1) room rest).map fun (items, rest) => (.text s :: items, rest)
      | ']' :: rest => some ([.text s], rest)
      | _ => none := by
  have hread := readValue?_writeText s hmore fuel room
  obtain ⟨q, hq, behind, heq⟩ := writeText_eq_cons s.toList
  rw [readItems?, hskip]
  rw [heq, List.cons_append] at hread ⊢
  -- A written string begins with a quote, which closes no array.
  split
  · rename_i hbracket
    rw [(List.cons.inj hbracket).1] at hq
    exact absurd hq (by decide)
  · rw [hread]
    rfl

theorem readItems?_comma {cs more : List Char} {s : String}
    (hskip : skipLines cs.length cs = writeText s.toList ++ ',' :: more) (fuel room : Nat) :
    readItems? (fuel + 2) room cs =
      (readItems? (fuel + 1) room more).map fun (items, rest) => (.text s :: items, rest) := by
  rw [readItems?_writeText hskip (head?_ne_quote (by decide) more),
    skipLines_of_isSolid (isSolid_comma more)]
  rfl

theorem readItems?_last {cs more : List Char} {s : String}
    (hskip : skipLines cs.length cs = writeText s.toList ++ ']' :: more) (fuel room : Nat) :
    readItems? (fuel + 2) room cs = some ([.text s], more) := by
  rw [readItems?_writeText hskip (head?_ne_quote (by decide) more),
    skipLines_of_isSolid (isSolid_bracket more)]
  rfl

/-- The items of a list with a line for each come back. -/
theorem readItems?_items (items : List String) {fuel : Nat} (hfuel : items.length < fuel)
    (room : Nat) :
    readItems? fuel room (items.flatMap writeItem ++ '\n' :: ']' :: rest) =
      some (items.map .text, rest) := by
  induction items generalizing fuel with
  | nil =>
    obtain ⟨fuel, rfl⟩ := Nat.exists_eq_succ_of_ne_zero (Nat.ne_zero_of_lt hfuel)
    have hskip := skipLines_break [] (fun _ hc => nomatch hc) (isSolid_bracket rest)
      (List.cons_ne_nil _ _)
    rw [List.nil_append] at hskip
    rw [List.flatMap_nil, List.nil_append, readItems?, hskip]
    rfl
  | cons s items ih =>
    -- One unit of fuel is for the bracket or comma behind the item, one for the item itself.
    obtain ⟨fuel, rfl⟩ : ∃ k, fuel = k + 2 := by
      rw [List.length_cons] at hfuel
      exact ⟨fuel - 2, by omega⟩
    have hitems := ih (Nat.lt_of_succ_lt_succ hfuel)
    generalize hmore : items.flatMap writeItem ++ '\n' :: ']' :: rest = more at hitems
    have hline : (s :: items).flatMap writeItem ++ '\n' :: ']' :: rest =
        '\n' :: ([' ', ' ', ' ', ' '] ++ (writeText s.toList ++ ',' :: more)) := by
      rw [List.flatMap_cons, List.append_assoc, hmore]
      unfold writeItem
      simp only [List.append_assoc, List.cons_append, List.nil_append]
    have hsolid := isSolid_writeText s.toList (',' :: more)
    have hsome : writeText s.toList ++ ',' :: more ≠ [] :=
      List.append_ne_nil_of_right_ne_nil _ (List.cons_ne_nil _ _)
    have hskip := skipLines_break [' ', ' ', ' ', ' '] (isBlank_of_mem_spaces 4) hsolid hsome
    rw [hline, readItems?_comma hskip, hitems]
    rfl

/-- Each item of a list has a line. -/
theorem length_le_flatMap_writeItem (items : List String) :
    items.length ≤ (items.flatMap writeItem).length := by
  induction items with
  | nil => exact Nat.le_refl 0
  | cons s items ih =>
    rw [List.flatMap_cons, List.length_append, List.length_cons]
    have hpos : 0 < (writeItem s).length := Nat.succ_pos _
    omega

theorem isSolid_write (leaf : Leaf) (rest : List Char) : IsSolid (leaf.write ++ rest) := by
  cases leaf with
  | text s => exact isSolid_writeText s.toList rest
  | number n =>
    obtain ⟨d, ds, heq⟩ := List.exists_cons_of_ne_nil (Nat.toDigits_ne_nil (n := n) (b := 10))
    have hd : isBare d = true :=
      isBare_of_isDigit (isDigit_of_mem_toDigits (heq ▸ List.mem_cons_self))
    show IsSolid (Nat.toDigits 10 n ++ rest)
    rw [heq]
    exact isSolid_of_isBare hd _
  | flag b => cases b <;> exact isSolid_cons (by decide) _
  | texts items =>
    match items with
    | [] | [_] | _ :: _ :: _ => exact isSolid_cons (by decide) _

/-- An opening bracket begins a list. -/
theorem readValue?_bracket (fuel room : Nat) (cs : List Char) :
    readValue? (fuel + 1) (room + 1) ('[' :: cs) =
      (readItems? fuel room cs).map fun (items, rest) => (.array false items, rest) := by
  rw [readValue?]

/-- A list comes back in each of its three layouts. -/
theorem readValue?_texts (items : List String) {fuel : Nat}
    (hfuel : (Leaf.texts items).write.length ≤ fuel) (room : Nat) (rest : List Char) :
    readValue? (fuel + 1) (room + 1) ((Leaf.texts items).write ++ rest) =
      some (.array false (items.map .text), rest) := by
  -- No item is written as two brackets, one between them, and more on a line each.
  match items with
  | [] =>
    obtain ⟨fuel, rfl⟩ : ∃ k, fuel = k + 1 := by
      refine ⟨fuel - 1, ?_⟩
      have hlength : 2 ≤ fuel := hfuel
      omega
    have hitems := readItems?_bracket fuel room rest
    exact (readValue?_bracket _ _ _).trans (congrArg _ hitems)
  | [s] =>
    have hwritten : (Leaf.texts [s]).write ++ rest =
        '[' :: (writeText s.toList ++ ']' :: rest) := by
      simp only [Leaf.write, List.cons_append, List.append_assoc, List.nil_append]
    obtain ⟨fuel, rfl⟩ : ∃ k, fuel = k + 2 := by
      refine ⟨fuel - 2, ?_⟩
      simp only [Leaf.write, List.length_append, List.length_cons, List.length_nil] at hfuel
      omega
    have hskip := skipLines_of_isSolid (isSolid_writeText s.toList (']' :: rest))
    rw [hwritten, readValue?_bracket, readItems?_last hskip]
    rfl
  | s :: t :: items =>
    have hwritten : (Leaf.texts (s :: t :: items)).write ++ rest =
        '[' :: ((s :: t :: items).flatMap writeItem ++ '\n' :: ']' :: rest) := by
      simp only [Leaf.write, List.cons_append, List.append_assoc, List.nil_append]
    have hlength := length_le_flatMap_writeItem (s :: t :: items)
    have hfuel : (s :: t :: items).length < fuel := by
      simp only [Leaf.write, List.length_append, List.length_cons, List.length_nil] at hfuel
      omega
    rw [hwritten, readValue?_bracket, readItems?_items _ hfuel]
    rfl

/-- A leaf comes back at the end of a line. -/
theorem readValue?_write {leaf : Leaf} (hfits : leaf.fits = true) {fuel : Nat}
    (hfuel : leaf.write.length < fuel) {room : Nat} (hroom : 0 < room) (rest : List Char) :
    readValue? fuel room (leaf.write ++ '\n' :: rest) = some (leaf.value, '\n' :: rest) := by
  obtain ⟨fuel, rfl⟩ := Nat.exists_eq_succ_of_ne_zero (Nat.ne_zero_of_lt hfuel)
  obtain ⟨room, rfl⟩ := Nat.exists_eq_succ_of_ne_zero (Nat.ne_zero_of_lt hroom)
  cases leaf with
  | text s => exact readValue?_writeText s (head?_ne_quote (by decide) rest) fuel _
  | number n => exact readValue?_toDigits hfits fuel _
  | flag b => cases b <;> rfl
  | texts items => exact readValue?_texts items (Nat.le_of_lt_succ hfuel) room _

end Values

/-! ## Keys -/

/-- Whether a key needs no quotes. -/
def IsBareKey (key : String) : Prop := key.toList ≠ [] ∧ key.toList.all isBare = true

instance (key : String) : Decidable (IsBareKey key) :=
  inferInstanceAs (Decidable (_ ∧ _))

section Keys

variable {key : String} {rest : List Char}

/-- A key that needs no quotes begins with one of its characters. -/
theorem IsBareKey.eq_cons (h : IsBareKey key) :
    ∃ c cs, key.toList = c :: cs ∧ isBare c = true := by
  obtain ⟨c, cs, heq⟩ := List.exists_cons_of_ne_nil h.1
  exact ⟨c, cs, heq, List.all_eq_true.1 h.2 c (heq ▸ List.mem_cons_self)⟩

theorem IsBareKey.isSolid (h : IsBareKey key) (rest : List Char) :
    IsSolid (key.toList ++ rest) := by
  obtain ⟨c, cs, heq, hc⟩ := h.eq_cons
  rw [heq]
  exact isSolid_of_isBare hc _

/-- A key comes back in front of what may not stand in it. -/
theorem readKey?_append (h : IsBareKey key) (hrest : ∀ c ∈ rest.head?, isBare c = false) :
    readKey? (key.toList ++ rest) = some (key, rest) := by
  obtain ⟨htake, hdrop⟩ := Text.span_append (List.all_eq_true.1 h.2) hrest
  unfold readKey?
  dsimp only
  rw [htake, hdrop, String.ofList_toList, if_neg (by rw [List.isEmpty_iff]; exact h.1)]

/-- The keys of a dotted key come back in front of what may not stand in it. -/
theorem readKeys?_append {path : List String} (hpath : ∀ k ∈ path, IsBareKey k)
    (hkey : IsBareKey key) (hrest : ∀ c ∈ rest.head?, isBare c = false)
    (hdot : (skipBlanks rest).head? ≠ some '.') {fuel : Nat} (hfuel : path.length < fuel) :
    readKeys? fuel (Line.writePath path key ++ rest) =
      some (path ++ [key], skipBlanks rest) := by
  induction path generalizing fuel with
  | nil =>
    obtain ⟨fuel, rfl⟩ := Nat.exists_eq_succ_of_ne_zero (Nat.ne_zero_of_lt hfuel)
    have hwritten : Line.writePath [] key ++ rest = key.toList ++ rest := rfl
    rw [hwritten, readKeys?, skipBlanks_of_isSolid (hkey.isSolid rest),
      readKey?_append hkey hrest, Option.bind_eq_bind, Option.bind_some]
    dsimp only
    split
    · rename_i heq
      rw [heq] at hdot
      exact absurd rfl hdot
    · rfl
  | cons k path ih =>
    obtain ⟨fuel, rfl⟩ := Nat.exists_eq_succ_of_ne_zero (Nat.ne_zero_of_lt hfuel)
    obtain ⟨hk, hpath⟩ := List.forall_mem_cons.1 hpath
    have hwritten : Line.writePath (k :: path) key ++ rest =
        k.toList ++ '.' :: (Line.writePath path key ++ rest) := by
      simp only [Line.writePath, List.flatMap_cons, List.append_assoc, List.cons_append,
        List.nil_append]
    have hkeys := ih hpath (Nat.lt_of_succ_lt_succ hfuel)
    -- From here on only the point matters of what stands behind the first key.
    generalize Line.writePath path key ++ rest = more at hwritten hkeys
    have hpoint : skipBlanks ('.' :: more) = '.' :: more :=
      skipBlanks_of_isSolid (isSolid_cons (by decide) more)
    have hread : readKey? (k.toList ++ '.' :: more) = some (k, '.' :: more) :=
      readKey?_append hk fun c hc => Option.some.inj hc ▸ rfl
    rw [hwritten, readKeys?, skipBlanks_of_isSolid (hk.isSolid _), hread, Option.bind_eq_bind,
      Option.bind_some]
    dsimp only
    rw [hpoint]
    show (readKeys? fuel more).map _ = _
    rw [hkeys]
    rfl

/-- A character of a key begins a dotted key. -/
theorem writePath_eq_cons {path : List String} (hkeys : ∀ k ∈ path ++ [key], IsBareKey k) :
    ∃ c cs, Line.writePath path key = c :: cs ∧ isBare c = true := by
  cases path with
  | nil => exact (hkeys key List.mem_cons_self).eq_cons
  | cons k path =>
    obtain ⟨c, cs, heq, hc⟩ := (hkeys k List.mem_cons_self).eq_cons
    refine ⟨c, cs ++ '.' :: Line.writePath path key, ?_, hc⟩
    simp only [Line.writePath, List.flatMap_cons, heq, List.append_assoc, List.cons_append,
      List.nil_append]

/-- Each key of a path is written with a point. -/
theorem length_le_writePath (path : List String) (key : String) :
    path.length ≤ (Line.writePath path key).length := by
  induction path with
  | nil => exact Nat.zero_le _
  | cons k path ih =>
    simp only [Line.writePath, List.flatMap_cons, List.length_append, List.length_cons,
      List.length_nil] at ih ⊢
    omega

/-- A dotted key that is not too long comes back. -/
theorem readPath?_append {path : List String} (hkeys : ∀ k ∈ path ++ [key], IsBareKey k)
    (hlength : (path ++ [key]).length < maxKeys) (hrest : ∀ c ∈ rest.head?, isBare c = false)
    (hdot : (skipBlanks rest).head? ≠ some '.') :
    readPath? (Line.writePath path key ++ rest) = some ((path, key), skipBlanks rest) := by
  obtain ⟨hpath, hkey⟩ := List.forall_mem_append.1 hkeys
  have hfuel : path.length < (Line.writePath path key ++ rest).length + 1 := by
    have hle := length_le_writePath path key
    rw [List.length_append]
    omega
  unfold readPath?
  rw [readKeys?_append hpath (hkey key List.mem_cons_self) hrest hdot hfuel,
    Option.bind_eq_bind, Option.bind_some]
  dsimp only
  rw [if_pos hlength, List.dropLast_concat, List.getLastD_concat]

end Keys

/-! ## Lines -/

namespace Line

/-- The keys of a line. -/
def keys : Line → List String
  | entry key _ => [key]
  | header path key | arrayHeader path key => path ++ [key]

/-- Whether the keys of a line need no quotes and are not too many. -/
def IsSound (l : Line) : Prop := (∀ k ∈ l.keys, IsBareKey k) ∧ l.keys.length < maxKeys

instance (l : Line) : Decidable l.IsSound := inferInstanceAs (Decidable (_ ∧ _))

/-- A line without the empty line in front of it and without its end. -/
def body : Line → List Char
  | entry key leaf => key.toList ++ [' ', '=', ' '] ++ leaf.write
  | header path key => '[' :: writePath path key ++ [']']
  | arrayHeader path key => '[' :: '[' :: writePath path key ++ [']', ']']

end Line

section Lines

variable {l : Line}

/-- The keys of a header come back in front of its closing bracket. -/
theorem readPath?_bracket {path : List String} {key : String}
    (hkeys : ∀ k ∈ path ++ [key], IsBareKey k) (hlength : (path ++ [key]).length < maxKeys)
    (rest : List Char) :
    readPath? (Line.writePath path key ++ ']' :: rest) = some ((path, key), ']' :: rest) := by
  have hskip : skipBlanks (']' :: rest) = ']' :: rest :=
    skipBlanks_of_isSolid (isSolid_bracket rest)
  have hrest : ∀ c ∈ (']' :: rest).head?, isBare c = false := fun _ hc => Option.some.inj hc ▸ rfl
  have hdot : (skipBlanks (']' :: rest)).head? ≠ some '.' := by
    rw [hskip]
    exact fun heq => absurd (Option.some.inj heq) (by decide)
  rw [readPath?_append hkeys hlength hrest hdot, hskip]

/-- The key of an entry comes back in front of its value. -/
theorem readPath?_equals {key : String} (hkey : IsBareKey key) (rest : List Char) :
    readPath? (key.toList ++ ' ' :: '=' :: rest) = some (([], key), '=' :: rest) := by
  have hskip : skipBlanks (' ' :: '=' :: rest) = '=' :: rest :=
    skipBlanks_append [' '] (isBlank_of_mem_spaces 1) (isSolid_cons (by decide) rest)
  have hrest : ∀ c ∈ (' ' :: '=' :: rest).head?, isBare c = false :=
    fun _ hc => Option.some.inj hc ▸ rfl
  have hdot : (skipBlanks (' ' :: '=' :: rest)).head? ≠ some '.' := by
    rw [hskip]
    exact fun heq => absurd (Option.some.inj heq) (by decide)
  have hkeys : ∀ k ∈ [] ++ [key], IsBareKey k := List.forall_mem_singleton.2 hkey
  have hlength : ([] ++ [key]).length < maxKeys := by
    show 1 < maxKeys
    decide
  have hread := readPath?_append hkeys hlength hrest hdot
  rwa [hskip] at hread

/-- An entry comes back from its line. -/
theorem readStatement?_entry {key : String} {leaf : Leaf} (hkey : IsBareKey key)
    (hfits : leaf.fits = true) (rest : List Char) :
    readStatement? (key.toList ++ ' ' :: '=' :: ' ' :: (leaf.write ++ '\n' :: rest)) =
      some (.entry [] key leaf.value, rest) := by
  have hpath := readPath?_equals hkey (' ' :: (leaf.write ++ '\n' :: rest))
  have hskip : skipBlanks (' ' :: (leaf.write ++ '\n' :: rest)) = leaf.write ++ '\n' :: rest :=
    skipBlanks_append [' '] (isBlank_of_mem_spaces 1) (isSolid_write leaf _)
  have hfuel : leaf.write.length < 2 * (' ' :: (leaf.write ++ '\n' :: rest)).length + 2 := by
    rw [List.length_cons, List.length_append]
    omega
  have hvalue := readValue?_write hfits hfuel (by decide : 0 < maxNesting) rest
  -- No bracket begins a key, so the line is read as no header.
  obtain ⟨c, cs, heq, hc⟩ := hkey.eq_cons
  rw [heq, List.cons_append] at hpath ⊢
  unfold readStatement?
  split
  · rename_i h
    exact absurd (List.cons.inj h).1 (ne_of_isBare hc rfl)
  · rename_i h
    exact absurd (List.cons.inj h).1 (ne_of_isBare hc rfl)
  · rw [hpath, Option.bind_eq_bind, Option.bind_some]
    show (readValue? _ maxNesting (skipBlanks _)).bind _ = _
    rw [hskip, hvalue]
    rfl

/-- The header of a table comes back from its line: no second bracket follows the first. -/
theorem readStatement?_header {path : List String} {key : String}
    (hkeys : ∀ k ∈ path ++ [key], IsBareKey k) (hlength : (path ++ [key]).length < maxKeys)
    (rest : List Char) :
    readStatement? ('[' :: (Line.writePath path key ++ ']' :: '\n' :: rest)) =
      some (.header path key, rest) := by
  have hpath := readPath?_bracket hkeys hlength ('\n' :: rest)
  obtain ⟨c, cs, heq, hc⟩ := writePath_eq_cons hkeys
  rw [heq, List.cons_append] at hpath ⊢
  unfold readStatement?
  split
  · rename_i h
    exact absurd (List.cons.inj (List.cons.inj h).2).1 (ne_of_isBare hc rfl)
  · rename_i h
    rw [← (List.cons.inj h).2, hpath]
    rfl
  · rename_i h
    exact absurd rfl (h _)

/-- A line comes back as the statement that it was written for. -/
theorem readStatement?_body (hsound : l.IsSound) (hfits : l.fits = true) (rest : List Char) :
    readStatement? (l.body ++ '\n' :: rest) = some (l.statement, rest) := by
  obtain ⟨hkeys, hlength⟩ := hsound
  cases l with
  | entry key leaf =>
    rw [Line.body, List.append_assoc, List.append_assoc]
    exact readStatement?_entry (hkeys key List.mem_cons_self) hfits rest
  | header path key =>
    rw [Line.body, List.append_assoc]
    exact readStatement?_header hkeys hlength rest
  | arrayHeader path key =>
    rw [Line.body, List.append_assoc]
    show readStatement? ('[' :: '[' :: (Line.writePath path key ++ ']' :: ']' :: '\n' :: rest)) = _
    rw [readStatement?, readPath?_bracket hkeys hlength]
    rfl

/-- A key or a bracket begins a line. -/
theorem body_eq_cons (hsound : l.IsSound) :
    ∃ c cs, l.body = c :: cs ∧ (isBare c = true ∨ c = '[') := by
  cases l with
  | entry key leaf =>
    obtain ⟨c, cs, heq, hc⟩ := (hsound.1 key List.mem_cons_self).eq_cons
    refine ⟨c, cs ++ [' ', '=', ' '] ++ leaf.write, ?_, .inl hc⟩
    rw [Line.body, heq, List.cons_append, List.cons_append]
  | header path key => exact ⟨_, _, rfl, .inr rfl⟩
  | arrayHeader path key => exact ⟨_, _, rfl, .inr rfl⟩

theorem isSolid_body (hsound : l.IsSound) (rest : List Char) : IsSolid (l.body ++ rest) := by
  obtain ⟨c, cs, heq, hc⟩ := body_eq_cons hsound
  rw [heq]
  rcases hc with hbare | rfl
  · exact isSolid_of_isBare hbare _
  · exact isSolid_cons (by decide) _

/-- An empty line may stand in front of a line. -/
theorem write_append (l : Line) (rest : List Char) :
    l.write ++ rest = l.body ++ '\n' :: rest ∨
      l.write ++ rest = '\n' :: (l.body ++ '\n' :: rest) := by
  cases l with
  | entry key leaf =>
    left
    simp only [Line.write, Line.body, List.append_assoc, List.cons_append, List.nil_append]
  | header path key =>
    right
    simp only [Line.write, Line.body, List.append_assoc, List.cons_append, List.nil_append]
  | arrayHeader path key =>
    right
    simp only [Line.write, Line.body, List.append_assoc, List.cons_append, List.nil_append]

/-- The empty line in front of a line is skipped. -/
theorem skipLines_write (hsound : l.IsSound) (rest : List Char) :
    skipLines (l.write ++ rest).length (l.write ++ rest) = l.body ++ '\n' :: rest := by
  have hsolid := isSolid_body hsound ('\n' :: rest)
  rcases write_append l rest with heq | heq
  · rw [heq, skipLines_of_isSolid hsolid]
  · rw [heq]
    exact skipLines_break [] (fun _ hc => nomatch hc) hsolid (by simp)

/-- Lines come back as the statements that they were written for. -/
theorem readStatements?_write {lines : List Line} (hsound : ∀ l ∈ lines, l.IsSound)
    (hfits : ∀ l ∈ lines, l.fits = true) {fuel : Nat}
    (hfuel : (lines.flatMap Line.write).length < fuel) :
    readStatements? fuel (lines.flatMap Line.write) = some (lines.map Line.statement) := by
  induction lines generalizing fuel with
  | nil =>
    obtain ⟨fuel, rfl⟩ := Nat.exists_eq_succ_of_ne_zero (Nat.ne_zero_of_lt hfuel)
    rfl
  | cons l lines ih =>
    obtain ⟨hl, hlines⟩ := List.forall_mem_cons.1 hsound
    obtain ⟨hlfits, hlinesfit⟩ := List.forall_mem_cons.1 hfits
    obtain ⟨fuel, rfl⟩ := Nat.exists_eq_succ_of_ne_zero (Nat.ne_zero_of_lt hfuel)
    -- Each line takes at least one character of the text, so the fuel lasts for the others.
    have hshorter : (lines.flatMap Line.write).length < fuel := by
      have hpos : 0 < l.write.length := by
        cases l <;> simp only [Line.write, List.length_append, List.length_cons] <;> omega
      rw [List.flatMap_cons, List.length_append] at hfuel
      omega
    have hrest := ih hlines hlinesfit hshorter
    have hread := readStatement?_body hl hlfits (lines.flatMap Line.write)
    have hcomment := skipComment_of_isSolid (isSolid_body hl ('\n' :: lines.flatMap Line.write))
    obtain ⟨c, cs, heq, -⟩ := body_eq_cons hl
    rw [List.flatMap_cons, readStatements?, skipLines_write hl]
    rw [heq, List.cons_append] at hread hcomment ⊢
    dsimp only
    rw [hcomment, if_neg (by simp), hread, Option.bind_eq_bind, Option.bind_some, hrest]
    rfl

theorem dropMark_of_ne {c : Char} (h : c ≠ '\ufeff') (cs : List Char) :
    dropMark (c :: cs) = c :: cs := by
  unfold dropMark
  split
  · rename_i heq
    exact absurd (List.cons.inj heq).1 h
  · rfl

/-- No byte-order mark is written. -/
theorem dropMark_write {lines : List Line} (hsound : ∀ l ∈ lines, l.IsSound) :
    dropMark (lines.flatMap Line.write) = lines.flatMap Line.write := by
  cases lines with
  | nil => rfl
  | cons l lines =>
    obtain ⟨c, cs, heq, hc⟩ := body_eq_cons (hsound l List.mem_cons_self)
    have hmark : c ≠ '\ufeff' := by
      rcases hc with hbare | rfl
      · exact ne_of_isBare hbare (by decide)
      · decide
    rw [List.flatMap_cons]
    rcases write_append l (lines.flatMap Line.write) with hwritten | hwritten
    · rw [hwritten, heq, List.cons_append]
      exact dropMark_of_ne hmark _
    · rw [hwritten]
      exact dropMark_of_ne (by decide) _

/-- The text of a document comes back as the statements that its lines were written for. -/
theorem statements?_writeLines {lines : List Line} (hsound : ∀ l ∈ lines, l.IsSound)
    (hfits : ∀ l ∈ lines, l.fits = true) :
    statements? (writeLines lines) = some (lines.map Line.statement) := by
  unfold statements? writeLines
  rw [String.toList_ofList, dropMark_write hsound]
  exact readStatements?_write hsound hfits (Nat.lt_succ_self _)

end Lines

end ViewForge.Data.Toml
