import Mathlib.Data.List.Infix
import ViewForge.Proofs.VisualBasic.Header
import ViewForge.VisualBasic.TypeText

/-!
# Types of properties that are constructed

Behind `As New` the type of a property stands with the arguments of its constructor, and a value or
an `Implements` clause may follow on the line. The text is cut three times: at the first equals
sign outside parentheses, which is never in the type or the arguments (`beforeValue_append`), at the
first ` Implements `, wherever this stands (`beforeImplements_cases`), and at the last opening
parenthesis (`dropArguments_parentheses`).

The last cut counts no parentheses, so what is kept of `List(New Foo(1))` is `List(New Foo`
(`nestedCall_kept`). A type is kept alone exactly if no parentheses stand in the arguments and the
other two cuts find nothing in them (`propertyType_eq_iff`).
-/

namespace ViewForge.VisualBasic

/-- Each closing parenthesis of a text has its opening one before it, and each opening one its
closing one behind it. -/
def Balanced (cs : List Char) : Prop :=
  (∀ lead ∈ cs.inits, lead.count ')' ≤ lead.count '(') ∧ cs.count ')' = cs.count '('

instance (cs : List Char) : Decidable (Balanced cs) := inferInstanceAs (Decidable (_ ∧ _))

/-- A dotted name, with or without a list in parentheses behind it, such as type arguments. -/
inductive IsTypeText : List Char → Prop
  | name {name : List Char} (hname : ∀ c ∈ name, isDotted c = true) (hsome : name ≠ []) :
      IsTypeText name
  | applied {name args : List Char} (hname : ∀ c ∈ name, isDotted c = true) (hsome : name ≠ [])
      (hargs : Balanced args) : IsTypeText (name ++ '(' :: (args ++ [')']))

/-- What may follow a type on its line: nothing, a value, or an `Implements` clause. -/
inductive IsClause : List Char → Prop
  | nothing : IsClause []
  | value {blanks : List Char} (h : ∀ c ∈ blanks, Text.isBlank c = true) (value : List Char) :
      IsClause (blanks ++ '=' :: value)
  | implements {word name : List Char} (hword : word.map Char.toLower = "implements".toList)
      (hname : ∃ c ∈ name.head?, Text.isBlank c = false ∧ c ≠ '=') :
      IsClause (' ' :: (word ++ ' ' :: name))

/-- Whether the text in parentheses is a list of type arguments. -/
def beginsOf (cs : List Char) : Bool :=
  Text.sameIgnoringCase ((Text.trimStart cs).take 3) ['o', 'f', ' ']

/-! ## Values -/

/-- No value begins where a parenthesis is open. -/
theorem beforeValue_append {cs : List Char} {depth : Nat}
    (h : ∀ lead ∈ cs.inits, lead.count ')' < depth + lead.count '(') (rest : List Char) :
    beforeValue depth (cs ++ rest) =
      cs ++ beforeValue (depth + cs.count '(' - cs.count ')') rest := by
  induction cs generalizing depth with
  | nil => rfl
  | cons c cs ih =>
    have hopen : 0 < depth := by
      have hfirst := h [] ((List.mem_inits _ _).2 List.nil_prefix)
      rwa [List.count_nil, List.count_nil] at hfirst
    -- What the first character opens or closes is open or closed for all behind it.
    have hnext (l : List Char) :
        (if c = '(' then depth + 1 else if c = ')' then depth - 1 else depth) + l.count '(' +
          (c :: l).count ')' = depth + (c :: l).count '(' + l.count ')' := by
      simp only [List.count_cons, beq_iff_eq]
      by_cases hopening : c = '('
      · simp [hopening]
        omega
      · by_cases hclosing : c = ')' <;> simp [hopening, hclosing]
        omega
    have hrest (lead : List Char) (hlead : lead ∈ cs.inits) :
        (c :: lead).count ')' < depth + (c :: lead).count '(' :=
      h (c :: lead) ((List.mem_inits _ _).2 (List.cons_prefix_cons.2
        ⟨rfl, (List.mem_inits _ _).1 hlead⟩))
    rw [List.cons_append, beforeValue, decide_eq_false (Nat.ne_of_gt hopen), Bool.and_false,
      if_neg Bool.false_ne_true, List.cons_append, List.cons_inj_right, ih fun lead hlead => ?_]
    · have hall := hnext cs
      congr 2
      omega
    · have hone := hnext lead
      have hlt := hrest lead hlead
      omega

/-- A list in parentheses holds no value. -/
theorem beforeValue_parentheses {args : List Char} (h : Balanced args) (rest : List Char) :
    beforeValue 0 ('(' :: (args ++ ')' :: rest)) = '(' :: (args ++ ')' :: beforeValue 0 rest) := by
  have hargs : beforeValue 1 (args ++ ')' :: rest) = args ++ beforeValue 1 (')' :: rest) := by
    rw [beforeValue_append fun lead hlead => ?_, h.2, Nat.add_sub_cancel]
    have hle := h.1 lead hlead
    omega
  calc beforeValue 0 ('(' :: (args ++ ')' :: rest))
      = '(' :: beforeValue 1 (args ++ ')' :: rest) := rfl
    _ = '(' :: (args ++ beforeValue 1 (')' :: rest)) := by rw [hargs]
    _ = '(' :: (args ++ ')' :: beforeValue 0 rest) := rfl

/-- A text without parentheses and equals signs holds none. -/
theorem beforeValue_plain {cs : List Char} (h : ∀ c ∈ cs, c ≠ '=' ∧ c ≠ '(' ∧ c ≠ ')')
    (rest : List Char) : beforeValue 0 (cs ++ rest) = cs ++ beforeValue 0 rest := by
  induction cs with
  | nil => rfl
  | cons c cs ih =>
    obtain ⟨⟨hequals, hopening, hclosing⟩, hcs⟩ := List.forall_mem_cons.1 h
    rw [List.cons_append, beforeValue, decide_eq_false hequals, if_neg hopening,
      if_neg hclosing, ih hcs]
    rfl

/-- Characters of a class without parentheses and equals signs are none of these. -/
theorem plain_of_class {p : Char → Bool} (hp : (p '=' || p '(' || p ')') = false) {cs : List Char}
    (h : ∀ c ∈ cs, p c = true) : ∀ c ∈ cs, c ≠ '=' ∧ c ≠ '(' ∧ c ≠ ')' := by
  rw [Bool.or_eq_false_iff, Bool.or_eq_false_iff] at hp
  have hne {c d : Char} (hd : p d = false) (hc : p c = true) : c ≠ d := by
    rintro rfl
    rw [hc] at hd
    exact Bool.noConfusion hd
  exact fun c hc => ⟨hne hp.1.1 (h c hc), hne hp.1.2 (h c hc), hne hp.2 (h c hc)⟩

section Parts

variable {t args tail : List Char}

/-- A value that follows a type with the arguments of its constructor begins behind these. -/
theorem IsTypeText.beforeValue_eq (ht : IsTypeText t) (hargs : Balanced args) :
    beforeValue 0 (t ++ '(' :: (args ++ ')' :: tail)) =
      t ++ '(' :: (args ++ ')' :: beforeValue 0 tail) := by
  cases ht with
  | name hname =>
    rw [beforeValue_plain (plain_of_class (by decide) hname), beforeValue_parentheses hargs]
  | applied hname _ htypes =>
    simp only [List.append_assoc, List.cons_append, List.nil_append]
    rw [beforeValue_plain (plain_of_class (by decide) hname), beforeValue_parentheses htypes,
      beforeValue_parentheses hargs]

/-- No white space surrounds a type. -/
theorem IsTypeText.ends (ht : IsTypeText t) : (∃ c ∈ t.head?, Text.isBlank c = false) ∧
    ∃ c ∈ t.getLast?, Text.isBlank c = false := by
  have hdotted {c : Char} (hc : isDotted c = true) : Text.isBlank c = false := by
    rw [isDotted, Bool.or_eq_true] at hc
    rcases hc with hword | hpoint
    · exact Text.isBlank_eq_false_of_isWord hword
    · rw [beq_iff_eq.1 hpoint]
      decide
  -- A name is blank nowhere; an applied one begins with its name and ends with its parenthesis.
  cases ht with
  | name hname hsome =>
    exact ⟨⟨_, List.head?_eq_some_head hsome, hdotted (hname _ (List.head_mem hsome))⟩,
      ⟨_, List.getLast?_eq_some_getLast hsome, hdotted (hname _ (List.getLast_mem hsome))⟩⟩
  | @applied name args hname hsome _ =>
    have hhead : (name ++ '(' :: (args ++ [')'])).head? = some (name.head hsome) := by
      rw [List.head?_append_of_ne_nil _ hsome, List.head?_eq_some_head hsome]
    have hlast : (name ++ '(' :: (args ++ [')'])).getLast? = some ')' := by
      rw [← List.cons_append, ← List.append_assoc]
      exact List.getLast?_concat
    exact ⟨⟨_, hhead, hdotted (hname _ (List.head_mem hsome))⟩, ⟨_, hlast, by decide⟩⟩

/-- No white space is trimmed from a type, alone or with the arguments of its constructor. -/
theorem IsTypeText.trim_eq (ht : IsTypeText t) (args : List Char) :
    Text.trim t = t ∧ Text.trim (t ++ '(' :: (args ++ [')'])) = t ++ '(' :: (args ++ [')']) := by
  obtain ⟨⟨first, hfirst, hblank⟩, last, hlast, hblank'⟩ := ht.ends
  have hsome : t ≠ [] := List.ne_nil_of_mem (List.mem_of_mem_head? hfirst)
  constructor
  · exact Text.trim_eq_self (fun c hc => Option.mem_unique hfirst hc ▸ hblank)
      fun c hc => Option.mem_unique hlast hc ▸ hblank'
  · refine Text.trim_eq_self (fun c hc => ?_) fun c hc => ?_
    · rw [List.head?_append_of_ne_nil _ hsome] at hc
      exact Option.mem_unique hfirst hc ▸ hblank
    · rw [← List.cons_append, ← List.append_assoc, List.getLast?_concat] at hc
      rw [← Option.some.inj hc]
      decide

end Parts

/-! ## Clauses -/

/-- An `Implements` clause behind a closing parenthesis is cut off, and nothing before it unless
another stands there. -/
theorem beforeImplements_append {front clause rest : List Char}
    (h : clause.map Char.toLower = " implements ".toList ++ rest) :
    beforeImplements (front ++ ')' :: clause) = beforeImplements (front ++ [')']) := by
  have hmap : (front ++ ')' :: clause).map Char.toLower =
      front.map Char.toLower ++ ')' :: (" implements ".toList ++ rest) := by
    rw [List.map_append, List.map_cons, h]
    rfl
  have hcore : (front ++ [')']).map Char.toLower = front.map Char.toLower ++ [')'] := by
    rw [List.map_append]
    rfl
  unfold beforeImplements
  rw [hmap, hcore]
  -- A clause before the parenthesis is found first in both texts. Otherwise the one behind it is:
  -- no clause straddles the parenthesis, as none has one.
  cases hcut : Text.cut? " implements ".toList (front.map Char.toLower ++ [')']) with
  | some cut =>
    obtain ⟨before, after⟩ := cut
    have hlength := congrArg List.length (Text.eq_append_of_cut? hcut)
    rw [List.length_append, List.length_map, List.length_append, List.length_singleton] at hlength
    have hlonger := Text.cut?_append_right hcut (" implements ".toList ++ rest)
    rw [List.append_assoc, List.singleton_append] at hlonger
    have hwhole : front ++ ')' :: clause = (front ++ [')']) ++ clause := by
      rw [List.append_assoc, List.singleton_append]
    rw [hlonger, hwhole]
    exact List.take_append_of_le_length (by rw [List.length_append, List.length_singleton]; omega)
  | none =>
    rw [Text.cut?_append_of_none (by decide) hcut]
    dsimp only
    rw [List.length_append, List.length_map, List.take_length_add_append]
    rfl

/-- A text without an `Implements` clause is kept, and of one with a clause what stands before
it. -/
theorem beforeImplements_cases (cs : List Char) :
    (¬ " implements ".toList <:+: cs.map Char.toLower ∧ beforeImplements cs = cs) ∨
      (" implements ".toList <:+: cs.map Char.toLower ∧
        ∃ rest, cs = beforeImplements cs ++ ' ' :: rest) := by
  rw [← Text.occursIn_eq_true_iff, Text.occursIn]
  unfold beforeImplements
  cases hcut : Text.cut? " implements ".toList (cs.map Char.toLower) with
  | none => exact .inl ⟨Bool.false_ne_true, rfl⟩
  | some cut =>
    refine .inr ⟨rfl, ?_⟩
    obtain ⟨before, after⟩ := cut
    -- The cut is found in the lower-case text; of the text itself it has the same length.
    obtain ⟨lead, behind, rfl, hlead, hbehind⟩ :=
      List.map_eq_append_iff.1 (Text.eq_append_of_cut? hcut)
    obtain ⟨c, rest, rfl, hc, -⟩ := List.map_eq_cons_iff.1 hbehind
    obtain rfl := Text.eq_of_toLower (d := ' ') (by decide) hc
    refine ⟨rest, ?_⟩
    dsimp only
    rw [← hlead, List.length_map, List.take_left]

section Clauses

variable {front clause : List Char}

/-- Behind a parenthesis a text is trimmed at its end alone. -/
theorem trim_append_closing (hfirst : ∃ c ∈ front.head?, Text.isBlank c = false)
    (rest : List Char) : Text.trim (front ++ ')' :: rest) = front ++ ')' :: Text.trimEnd rest := by
  obtain ⟨c, hc, hblank⟩ := hfirst
  have hsome : front ≠ [] := List.ne_nil_of_mem (List.mem_of_mem_head? hc)
  have hlast : ∃ c ∈ (front ++ [')']).getLast?, Text.isBlank c = false :=
    ⟨')', List.getLast?_concat, by decide⟩
  have hend := Text.trimEnd_append hlast rest
  rw [List.append_assoc, List.append_assoc] at hend
  rw [Text.trim, trimStart_eq_self ⟨c, by rwa [List.head?_append_of_ne_nil _ hsome], hblank⟩]
  exact hend

/-- The word of an `Implements` clause neither begins a value nor opens or closes a parenthesis. -/
theorem plain_implements {word : List Char} (hword : word.map Char.toLower = "implements".toList) :
    ∀ d ∈ ' ' :: (word ++ [' ']), d ≠ '=' ∧ d ≠ '(' ∧ d ≠ ')' := by
  have hletters : ((' ' :: (word ++ [' '])).map Char.toLower).all
      (fun d => d != '=' && d != '(' && d != ')') = true := by
    rw [List.map_cons, List.map_append, hword]
    decide
  intro d hd
  have hlower := List.all_eq_true.1 hletters _ (List.mem_map_of_mem hd)
  refine ⟨?_, ?_, ?_⟩ <;> rintro rfl <;> exact absurd hlower (by decide)

/-- What follows a type with the arguments of its constructor is no part of its type. -/
theorem IsClause.trim_eq (hclause : IsClause clause)
    (hfirst : ∃ c ∈ front.head?, Text.isBlank c = false) :
    Text.trim (beforeImplements (Text.trim (front ++ ')' :: beforeValue 0 clause))) =
      Text.trim (beforeImplements (front ++ [')'])) := by
  have htrim := trim_append_closing hfirst
  cases hclause with
  | nothing => rw [beforeValue, htrim]; rfl
  | @value blanks h value =>
    have hblanks : beforeValue 0 (blanks ++ '=' :: value) = blanks := by
      rw [beforeValue_plain (plain_of_class (by decide) h)]
      exact List.append_nil blanks
    have hnone : Text.trimEnd blanks = [] := by
      rw [Text.trimEnd, List.reverse_eq_nil_iff, List.dropWhile_eq_nil_iff]
      exact fun c hc => h c (List.mem_reverse.1 hc)
    rw [hblanks, htrim, hnone]
  | @implements word name hword hname =>
    obtain ⟨c, hc, hblank, hequals⟩ := hname
    obtain ⟨more, rfl⟩ := List.head?_eq_some_iff.1 hc
    -- The first character of the name stays, and with it the space before it.
    obtain ⟨name, hvalue⟩ : ∃ name, beforeValue 0 (c :: more) = c :: name := by
      rw [beforeValue, decide_eq_false hequals]
      exact ⟨_, rfl⟩
    have hclause : beforeValue 0 (' ' :: (word ++ ' ' :: c :: more)) =
        (' ' :: (word ++ [' '])) ++ [c] ++ name := by
      have hall := beforeValue_plain (plain_implements hword) (c :: more)
      rw [hvalue] at hall
      simpa using hall
    have hlast : ∃ d ∈ ((' ' :: (word ++ [' '])) ++ [c]).getLast?, Text.isBlank d = false :=
      ⟨c, List.getLast?_concat, hblank⟩
    have hmark : (' ' :: (word ++ [' ']) ++ [c] ++ Text.trimEnd name).map Char.toLower =
        " implements ".toList ++ (c :: Text.trimEnd name).map Char.toLower := by
      simp [hword]
    rw [hclause, htrim, Text.trimEnd_append hlast, beforeImplements_append hmark]

end Clauses

/-! ## Arguments -/

/-- The parenthesis behind the arguments is no part of their first three characters. -/
theorem beginsOf_append (args : List Char) : beginsOf (args ++ [')']) = beginsOf args := by
  have htrim : Text.trimStart (args ++ [')']) = Text.trimStart args ++ [')'] := by
    rw [Text.trimStart, List.dropWhile_append]
    split
    · rename_i hnil
      rw [Text.trimStart, List.isEmpty_iff.1 hnil]
      rfl
    · rfl
  unfold beginsOf
  rw [htrim]
  generalize Text.trimStart args = cs
  rcases cs with _ | ⟨a, _ | ⟨b, _ | ⟨c, cs⟩⟩⟩
  · rfl
  · simp [Text.sameIgnoringCase]
  · simp [Text.sameIgnoringCase]
  · rfl

/-- The arguments in the last parentheses are dropped unless they are types. -/
theorem dropArguments_parentheses {args : List Char} (h : '(' ∉ args) (before : List Char) :
    dropArguments (before ++ '(' :: (args ++ [')'])) =
      if beginsOf args then before ++ '(' :: (args ++ [')']) else Text.trim before := by
  -- The last parenthesis is looked for from the end, before which stand only the arguments.
  have hreverse : (before ++ '(' :: (args ++ [')'])).reverse =
      (')' :: args.reverse) ++ '(' :: before.reverse := by
    simp
  have hrun : ∀ c ∈ ')' :: args.reverse, (c != '(') = true := by
    intro c hc
    rw [bne_iff_ne]
    rintro rfl
    rcases List.mem_cons.1 hc with hc | hc
    · exact absurd hc (by decide)
    · exact h (List.mem_reverse.1 hc)
  have hinside : ((before ++ '(' :: (args ++ [')'])).reverse.takeWhile (· != '(')).reverse =
      args ++ [')'] := by
    rw [hreverse, (Text.span_append hrun (by simp)).1, List.reverse_cons, List.reverse_reverse]
  have hlength : (before ++ '(' :: (args ++ [')'])).length - (args ++ [')']).length - 1 =
      before.length := by
    simp only [List.length_append, List.length_cons, List.length_nil]
    omega
  have hcontains : (before ++ '(' :: (args ++ [')'])).contains '(' = true := by simp
  unfold dropArguments
  rw [hinside]
  dsimp only
  rw [hlength, hcontains, List.take_left, ← beginsOf_append args, hreverse]
  rfl

/-- Nothing else is dropped. -/
theorem dropArguments_cases (cs : List Char) : dropArguments cs = cs ∨
    ∃ before args, cs = before ++ '(' :: (args ++ [')']) ∧ '(' ∉ args ∧
      dropArguments cs = Text.trim before := by
  cases hreverse : cs.reverse with
  | nil => exact .inl (by rw [dropArguments, hreverse])
  | cons c rest =>
    by_cases hc : c = ')'
    · subst hc
      have hcs : cs = rest.reverse ++ [')'] := by
        rw [← List.reverse_reverse cs, hreverse, List.reverse_cons]
      -- The text is cut only where it ends with `)` and has a `(`; the first one from the end opens
      -- the arguments.
      by_cases hopening : '(' ∈ rest
      · obtain ⟨args, before, hrest, hargs⟩ := List.eq_append_cons_of_mem hopening
        have hcs' : cs = before.reverse ++ '(' :: (args.reverse ++ [')']) := by
          rw [hcs, hrest]
          simp
        have hargs' : '(' ∉ args.reverse := fun hmem => hargs (List.mem_reverse.1 hmem)
        have hdrop := dropArguments_parentheses hargs' before.reverse
        rw [← hcs'] at hdrop
        split at hdrop
        · exact .inl hdrop
        · exact .inr ⟨_, _, hcs', hargs', hdrop⟩
      · have hcontains : cs.contains '(' = false := by
          rw [hcs]
          simp [hopening]
        exact .inl (by rw [dropArguments, hreverse, hcontains]; rfl)
    · refine .inl ?_
      rw [dropArguments, hreverse]
      split
      · rename_i heq
        exact absurd (List.cons.inj heq).1 hc
      · rfl

/-- Dropping arguments makes nothing longer. -/
theorem length_dropArguments_le (cs : List Char) : (dropArguments cs).length ≤ cs.length := by
  rcases dropArguments_cases cs with h | ⟨before, args, hcs, -, h⟩
  · rw [h]
  · have hle := Text.length_trim_le before
    have hlength := congrArg List.length hcs
    rw [List.length_append] at hlength
    rw [h]
    omega

/-! ## Types -/

section Types

variable {t args clause : List Char}

/-- The type is read from what stands before the clause. -/
theorem propertyType_constructed (ht : IsTypeText t) (hargs : Balanced args)
    (hclause : IsClause clause) :
    propertyType true (t ++ '(' :: (args ++ ')' :: clause)) =
      dropArguments (Text.trim (beforeImplements (t ++ '(' :: (args ++ [')'])))) := by
  obtain ⟨⟨c, hc, hblank⟩, -⟩ := ht.ends
  have hfront : ∃ c ∈ (t ++ '(' :: args).head?, Text.isBlank c = false := by
    refine ⟨c, ?_, hblank⟩
    rwa [List.head?_append_of_ne_nil _ (List.ne_nil_of_mem (List.mem_of_mem_head? hc))]
  have htrim := hclause.trim_eq hfront
  simp only [List.append_assoc, List.cons_append] at htrim
  unfold propertyType
  rw [ht.beforeValue_eq hargs, htrim]
  rfl

/-- Where parentheses follow a type, the type is left only if the last of them hold what is dropped:
no others stand in what follows it. -/
theorem count_of_dropArguments {behind : List Char}
    (h : dropArguments (Text.trim (t ++ '(' :: behind)) = t) :
    behind.count '(' = 0 ∧ 0 < behind.count ')' := by
  have hopening := Text.count_trim (c := '(') (by decide)
  have hclosing := Text.count_trim (c := ')') (by decide)
  have hopen := hopening (t ++ '(' :: behind)
  have hclose := hclosing (t ++ '(' :: behind)
  rw [List.count_append, List.count_cons_self] at hopen
  rw [List.count_append, List.count_cons_of_ne (by decide)] at hclose
  -- Parentheses are counted before and after: what is dropped has one of each and no other `(`.
  rcases dropArguments_cases (Text.trim (t ++ '(' :: behind)) with
    hsame | ⟨before, args, hcs, hargs, hdrop⟩
  · rw [← hsame, h] at hopen
    omega
  · rw [hdrop] at h
    have hbefore := hopening before
    have hbefore' := hclosing before
    rw [h] at hbefore hbefore'
    rw [hcs, List.count_append, List.count_cons_self, List.count_append,
      List.count_eq_zero_of_not_mem hargs] at hopen
    rw [hcs, List.count_append, List.count_cons_of_ne (by decide), List.count_append,
      List.count_singleton_self] at hclose
    have hnone : [')'].count '(' = 0 := by decide
    omega

/-- What stands before an `Implements` clause in the arguments, or in the type, is no type. -/
theorem dropArguments_trim_ne (hargs : Balanced args) {before rest : List Char}
    (h : t ++ '(' :: (args ++ [')']) = before ++ ' ' :: rest) :
    dropArguments (Text.trim before) ≠ t := by
  intro hdrop
  rcases List.append_eq_append_iff.1 h with ⟨more, rfl, hmore⟩ | ⟨more, rfl, hmore⟩
  · -- The clause begins behind the parenthesis that opens the arguments, where each closing one
    -- follows another that opens.
    obtain ⟨lead, rfl⟩ : ∃ lead, more = '(' :: lead := by
      cases more with
      | nil => exact absurd (List.cons.inj hmore).1 (by decide)
      | cons c more => exact ⟨more, by rw [(List.cons.inj hmore).1]⟩
    have hlead : lead <+: args := by
      rcases List.append_eq_append_iff.1 (List.cons.inj hmore).2 with ⟨m, -, hm⟩ | ⟨m, hm, -⟩
      · have hspace : ' ' ∈ [')'] := hm ▸ List.mem_append_right m List.mem_cons_self
        exact absurd hspace (by decide)
      · exact ⟨m, hm.symm⟩
    have hle := hargs.1 lead ((List.mem_inits _ _).2 hlead)
    obtain ⟨hnone, hsome⟩ := count_of_dropArguments hdrop
    omega
  · -- It begins within the type, so what is left is shorter than the type.
    have hne : more ≠ [] := by
      rintro rfl
      exact absurd (List.cons.inj hmore).1 (by decide)
    have hlength := List.length_pos_iff.2 hne
    have hshort := congrArg List.length hdrop
    have hle := length_dropArguments_le (Text.trim before)
    have htrim := Text.length_trim_le before
    rw [List.length_append] at hshort
    omega

/-- Behind `New` a type is kept without the arguments of its constructor and what may follow them
exactly if no parentheses stand in the arguments, they do not begin with `Of` and a space, with or
without white space before it, and no ` Implements ` stands in the type or in the arguments. -/
theorem propertyType_eq_iff (ht : IsTypeText t) (hargs : Balanced args)
    (hclause : IsClause clause) :
    propertyType true (t ++ '(' :: (args ++ ')' :: clause)) = t ↔
      '(' ∉ args ∧ beginsOf args = false ∧
        ¬ " implements ".toList <:+: (t ++ '(' :: (args ++ [')'])).map Char.toLower := by
  rw [propertyType_constructed ht hargs hclause]
  -- Without a clause inside, the arguments alone decide; what stands before one is never the type.
  rcases beforeImplements_cases (t ++ '(' :: (args ++ [')'])) with
    ⟨hnone, hbefore⟩ | ⟨hsome, rest, hrest⟩
  · obtain ⟨htype, hcore⟩ := ht.trim_eq args
    have hlength : (t ++ '(' :: (args ++ [')'])).length ≠ t.length := by
      rw [List.length_append, List.length_cons]
      omega
    rw [hbefore, hcore, and_iff_left hnone]
    constructor
    · intro hdrop
      have hargs' : '(' ∉ args := by
        have hcount := (count_of_dropArguments (hcore.symm ▸ hdrop)).1
        rw [List.count_append, Nat.add_eq_zero_iff] at hcount
        exact List.count_eq_zero.1 hcount.1
      refine ⟨hargs', ?_⟩
      rw [dropArguments_parentheses hargs'] at hdrop
      split at hdrop
      · exact absurd (congrArg List.length hdrop) hlength
      · rename_i hof
        exact Bool.eq_false_iff.2 hof
    · rintro ⟨hargs', hof⟩
      rw [dropArguments_parentheses hargs', hof, if_neg Bool.false_ne_true, htype]
  · exact iff_of_false (dropArguments_trim_ne hargs hrest) fun h => h.2.2 hsome

/-- A list of type arguments is kept, and the arguments behind it and the clause are dropped. -/
theorem propertyType_eq_iff_list :
    IsTypeText "List(Of String)".toList ∧ Balanced "{a, b}".toList ∧
      IsClause " Implements IHasItems.Items".toList ∧
      propertyType true "List(Of String)({a, b}) Implements IHasItems.Items".toList =
        "List(Of String)".toList := by
  have htype : IsTypeText "List(Of String)".toList :=
    @IsTypeText.applied "List".toList "Of String".toList (List.all_eq_true.1 (by decide))
      (by decide) (by decide)
  have hclause : IsClause " Implements IHasItems.Items".toList :=
    @IsClause.implements "Implements".toList "IHasItems.Items".toList (by decide)
      ⟨'I', by decide, by decide, by decide⟩
  have hargs : Balanced "{a, b}".toList := by decide
  refine ⟨htype, hargs, hclause, (propertyType_eq_iff htype hargs hclause).2 ?_⟩
  decide +kernel

/-- Arguments in which parentheses stand are kept up to the last of these. -/
theorem nestedCall_kept :
    IsTypeText "List".toList ∧ Balanced "New Foo(1)".toList ∧
      propertyType true "List(New Foo(1))".toList = "List(New Foo".toList :=
  ⟨.name (List.all_eq_true.1 (by decide)) (by decide), by decide, by decide +kernel⟩

end Types

end ViewForge.VisualBasic
