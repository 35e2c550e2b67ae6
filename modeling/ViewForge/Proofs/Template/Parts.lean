import ViewForge.Proofs.Text.Character
import ViewForge.Proofs.Text.Match
import ViewForge.Template.Part

/-!
# Literal parts of a template

The scan for unknown markers and the cutting of a template into parts go over the template in step:
both pass a marker as a whole and anything else by a character, as long as no unknown marker is
found. So if none is found, no literal part holds a word of small letters between dollar signs
(`not_holdsWord_of_unknownMarkers`).
-/

namespace ViewForge.Template

/-! ## Cutting -/

/-- A character goes to the front of the text that comes first among parts, or is a text of its own
in front of them. -/
theorem Part.cons_eq (c : Char) (parts : List Part) :
    (∃ letters rest, parts = .text letters :: rest ∧
      Part.cons c parts = .text (c :: letters) :: rest) ∨
    Part.cons c parts = .text [c] :: parts := by
  unfold Part.cons
  split
  case h_1 letters rest => exact .inl ⟨letters, rest, rfl, rfl⟩
  case h_2 => exact .inr rfl

/-- The texts among the parts of a template are not empty. -/
theorem ne_nil_of_text_mem_partsWith {fuel offset : Nat} {cs letters : List Char}
    (h : .text letters ∈ partsWith fuel offset cs) : letters ≠ [] := by
  induction fuel generalizing offset cs with
  | zero => exact nomatch h
  | succ fuel ih =>
    cases cs with
    | nil => exact nomatch h
    | cons c cs =>
      rw [partsWith] at h
      split at h
      case h_1 => exact ih ((List.mem_cons.1 h).resolve_left Part.noConfusion)
      case h_2 =>
        -- A letter begins a text or joins the one behind it, which has that letter then.
        obtain ⟨others, rest, hparts, hcons⟩ | hcons :=
          Part.cons_eq c (partsWith fuel (offset + c.utf8Size) cs)
        · rw [hcons] at h
          obtain hfirst | hrest := List.mem_cons.1 h
          · rw [Part.text.inj hfirst]
            exact List.cons_ne_nil _ _
          · exact ih (hparts ▸ List.mem_cons_of_mem _ hrest)
        · rw [hcons] at h
          obtain hfirst | hrest := List.mem_cons.1 h
          · rw [Part.text.inj hfirst]
            exact List.cons_ne_nil _ _
          · exact ih hrest

/-- The first part of a text that begins with no marker is the start of that text. -/
theorem prefix_of_partsWith {fuel offset : Nat} {cs letters : List Char} {parts : List Part}
    (h : partsWith fuel offset cs = .text letters :: parts) : letters <+: cs := by
  induction fuel generalizing offset cs letters parts with
  | zero => exact nomatch h
  | succ fuel ih =>
    cases cs with
    | nil => exact nomatch h
    | cons c cs =>
      rw [partsWith] at h
      split at h
      case h_1 => exact nomatch h
      case h_2 =>
        -- The letter stands before a text that goes on behind it, or is the whole text.
        obtain ⟨others, rest, hparts, hcons⟩ | hcons :=
          Part.cons_eq c (partsWith fuel (offset + c.utf8Size) cs)
        · rw [hcons] at h
          rw [← Part.text.inj (List.cons.inj h).1]
          exact List.cons_prefix_cons.2 ⟨rfl, ih hparts⟩
        · rw [hcons] at h
          rw [← Part.text.inj (List.cons.inj h).1]
          exact List.cons_prefix_cons.2 ⟨rfl, List.nil_prefix⟩

/-! ## Words between dollar signs -/

/-- Whether a text begins with a word of small letters of ASCII and a dollar sign behind it. -/
def StartsWord (cs : List Char) : Prop :=
  ∃ word after, cs = word ++ '$' :: after ∧ word ≠ [] ∧ ∀ c ∈ word, c.isLower = true

/-- Whether a text holds a word of small letters of ASCII between dollar signs. -/
def HoldsWord (cs : List Char) : Prop := ∃ before rest, cs = before ++ '$' :: rest ∧ StartsWord rest

/-- A word in a text is one behind its first character or begins with that character. -/
theorem holdsWord_cons {c : Char} {cs : List Char} (h : HoldsWord (c :: cs)) :
    HoldsWord cs ∨ c = '$' ∧ StartsWord cs := by
  obtain ⟨before, rest, htext, hword⟩ := h
  cases before with
  | nil =>
    obtain ⟨hc, hcs⟩ := List.cons.inj htext
    exact .inr ⟨hc, hcs ▸ hword⟩
  | cons b before => exact .inl ⟨before, rest, (List.cons.inj htext).2, hword⟩

/-- No text of one character holds a word. -/
theorem not_holdsWord_singleton (c : Char) : ¬ HoldsWord [c] := by
  intro h
  rcases holdsWord_cons h with ⟨before, rest, htext, -⟩ | ⟨-, word, after, htext, -⟩
  · exact List.append_ne_nil_of_right_ne_nil _ (List.cons_ne_nil _ _) htext.symm
  · exact List.append_ne_nil_of_right_ne_nil _ (List.cons_ne_nil _ _) htext.symm

/-- A text begins with a word if the start of it does. -/
theorem StartsWord.of_prefix {cs more : List Char} (h : StartsWord cs) (hmore : cs <+: more) :
    StartsWord more := by
  obtain ⟨word, after, rfl, hword⟩ := h
  obtain ⟨rest, rfl⟩ := hmore
  exact ⟨word, after ++ rest, by rw [List.append_assoc, List.cons_append], hword⟩

/-! ## Scanning -/

/-- A marker that leads a text is spelled at its start. -/
theorem eq_append_of_leading? {cs rest : List Char} {m : Marker}
    (h : Marker.leading? cs = some (m, rest)) : cs = m.spelling ++ rest := by
  obtain ⟨m', -, hfound⟩ := List.exists_of_findSome?_eq_some h
  obtain ⟨rest', hafter, hpair⟩ := Option.map_eq_some_iff.1 hfound
  obtain ⟨rfl, rfl⟩ := Prod.mk.inj hpair
  exact Text.eq_append_of_after? hafter

/-- No unknown marker is found in a text without dollar signs. -/
theorem unknownWith_of_not_mem {fuel : Nat} {cs : List Char} (h : '$' ∉ cs) :
    unknownWith fuel cs = [] := by
  induction fuel generalizing cs with
  | zero => rfl
  | succ fuel ih =>
    cases cs with
    | nil => rfl
    | cons c cs =>
      have hc : c ≠ '$' := fun hc => h (hc ▸ List.mem_cons_self)
      rw [unknownWith, if_neg hc]
      exact ih fun hmem => h (List.mem_cons_of_mem c hmem)

/-- If no unknown marker is found from a character on at which no marker begins, none is found
behind it, and the character does not begin one. -/
theorem unknownWith_cons {fuel : Nat} {c : Char} {cs : List Char}
    (hnone : Marker.leading? (c :: cs) = none) (h : unknownWith (fuel + 1) (c :: cs) = []) :
    unknownWith fuel cs = [] ∧ ¬ (c = '$' ∧ StartsWord cs) := by
  rw [unknownWith, hnone] at h
  by_cases hc : c = '$'
  · rw [if_pos hc] at h
    dsimp only at h
    -- Behind a dollar sign the text up to the next one is looked at. Without a next one no word is
    -- closed; if it were a word, it would be reported.
    split at h
    case h_1 hdrop =>
      have hclosed : '$' ∉ cs := fun hmem =>
        absurd (List.dropWhile_eq_nil_iff.1 hdrop '$' hmem) (by decide)
      refine ⟨unknownWith_of_not_mem hclosed, ?_⟩
      rintro ⟨-, word, after, rfl, -⟩
      exact hclosed (List.mem_append_right _ List.mem_cons_self)
    case h_2 hdrop =>
      split at h
      case isTrue => exact nomatch h
      case isFalse hword =>
        refine ⟨h, ?_⟩
        rintro ⟨-, word, after, rfl, hne, hsmall⟩
        have hrun : ∀ c ∈ word, (c != '$') = true := by
          intro c hmem
          rw [bne_iff_ne]
          rintro rfl
          exact absurd (hsmall _ hmem) (by decide)
        have hend : ∀ c ∈ ('$' :: after).head?, (c != '$') = false := by
          intro c hc
          obtain rfl : '$' = c := Option.some.inj hc
          rfl
        have hinner := (Text.span_append hrun hend).1
        rw [hinner] at hword
        refine hword (Bool.and_eq_true_iff.2 ⟨?_, List.all_eq_true.2 hsmall⟩)
        rw [Bool.not_eq_true', List.isEmpty_eq_false_iff]
        exact hne
  · rw [if_neg hc] at h
    exact ⟨h, fun hword => hc hword.1⟩

/-- If no unknown marker is found in a text, no literal part of it holds a word between dollar
signs. -/
theorem not_holdsWord_of_unknownWith {fuel offset : Nat} {cs letters : List Char}
    (h : unknownWith fuel cs = []) (hpart : .text letters ∈ partsWith fuel offset cs) :
    ¬ HoldsWord letters := by
  induction fuel generalizing offset cs letters with
  | zero => exact nomatch hpart
  | succ fuel ih =>
    cases cs with
    | nil => exact nomatch hpart
    | cons c cs =>
      rw [partsWith] at hpart
      split at hpart
      case h_1 m rest hlead =>
        -- Both pass the marker.
        have hc : c = '$' := (List.cons.inj (eq_append_of_leading? hlead)).1
        have hrest : unknownWith fuel rest = [] := by
          rw [unknownWith, if_pos hc, hlead] at h
          exact h
        obtain hmarker | hpart := List.mem_cons.1 hpart
        · exact nomatch hmarker
        · exact ih hrest hpart
      case h_2 hlead =>
        -- Both pass one character, which goes to the front of the part that follows, if any.
        obtain ⟨hrest, hstart⟩ := unknownWith_cons hlead h
        obtain ⟨others, parts, hparts, hcons⟩ | hcons :=
          Part.cons_eq c (partsWith fuel (offset + c.utf8Size) cs)
        · rw [hcons] at hpart
          obtain hfirst | hpart := List.mem_cons.1 hpart
          · intro hword
            rw [Part.text.inj hfirst] at hword
            rcases holdsWord_cons hword with hword | ⟨hc, hword⟩
            · exact ih hrest (hparts ▸ List.mem_cons_self) hword
            · exact hstart ⟨hc, hword.of_prefix (prefix_of_partsWith hparts)⟩
          · exact ih hrest (hparts ▸ List.mem_cons_of_mem _ hpart)
        · rw [hcons] at hpart
          obtain hfirst | hpart := List.mem_cons.1 hpart
          · rw [Part.text.inj hfirst]
            exact not_holdsWord_singleton c
          · exact ih hrest hpart

/-- No literal part of a template without unknown markers holds a word of small letters between
dollar signs. -/
theorem not_holdsWord_of_unknownMarkers {template letters : List Char}
    (h : unknownMarkers template = []) (hpart : .text letters ∈ parts template) :
    ¬ HoldsWord letters :=
  not_holdsWord_of_unknownWith h hpart

end ViewForge.Template
