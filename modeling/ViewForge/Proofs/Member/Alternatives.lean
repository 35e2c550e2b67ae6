import ViewForge.Proofs.Member.Shadowing
import ViewForge.Proofs.Text.Character

/-!
# Rules with alternatives

A rule with several type patterns and name fragments is short for rules with one pattern and at most
one fragment each (`Rule.spelledOut`). A piece of a list of alternatives is a list of itself alone
(`alternatives_of_mem`), so the rules that are spelled out ask for what they are spelled out from,
and one of them fits a member exactly if the rule does (`any_fits_spelledOut`). In a list of rules
that is spelled out, each rule stands where the one stands that it comes from, so the choice comes
from the same rule and gives the same template (`spelledOut_chooses_alike`).
-/

namespace ViewForge

/-! ## Lists of alternatives -/

/-- A text that is trimmed does not change if it is trimmed again. -/
theorem Text.trim_trim (cs : List Char) : trim (trim cs) = trim cs := by
  refine trim_eq_self ?_ ?_
  · -- What is trimmed at its end begins as it did before.
    intro c hc
    obtain ⟨behind, hbehind⟩ := trimEnd_prefix (trimStart cs)
    refine head_dropWhile isBlank cs c ?_
    rw [trim] at hc
    show c ∈ (trimStart cs).head?
    rw [← hbehind, List.head?_append, Option.mem_def.1 hc]
    rfl
  · intro c hc
    rw [trim, trimEnd, List.getLast?_reverse] at hc
    exact head_dropWhile isBlank _ c hc

/-- No piece of a list that is split holds what the list is split at. -/
theorem notMem_of_mem_splitOn {a : Char} {cs piece : List Char} (h : piece ∈ cs.splitOn a) :
    a ∉ piece := by
  induction cs generalizing piece with
  | nil =>
    rw [List.splitOn_nil, List.mem_singleton] at h
    exact h ▸ List.not_mem_nil
  | cons c cs ih =>
    rw [List.splitOn_cons_eq_if_modifyHead] at h
    split at h
    case isTrue =>
      rcases List.mem_cons.1 h with rfl | h
      · exact List.not_mem_nil
      · exact ih h
    case isFalse hc =>
      -- The character goes in front of the first piece.
      obtain ⟨first, others, hsplit⟩ := List.exists_cons_of_ne_nil (List.splitOn_ne_nil a cs)
      rw [hsplit] at h ih
      rcases List.mem_cons.1 h with rfl | h
      · rw [List.mem_cons, not_or]
        exact ⟨fun hac => hc (beq_iff_eq.2 hac.symm), ih List.mem_cons_self⟩
      · exact ih (List.mem_cons_of_mem _ h)

/-- A piece of a list of alternatives is a list of itself alone: it holds no bar, is trimmed and is
not empty. -/
theorem alternatives_of_mem {list piece : String} (h : piece ∈ alternatives list) :
    alternatives piece = [piece] := by
  unfold alternatives at h
  simp only [List.mem_map, List.mem_filter] at h
  obtain ⟨_, ⟨⟨cut, hcut, rfl⟩, hsome⟩, rfl⟩ := h
  have hbar : '|' ∉ Text.trim cut := by
    obtain ⟨before, after, hparts, -⟩ := Text.exists_trim_append cut
    intro hmem
    refine notMem_of_mem_splitOn hcut ?_
    rw [hparts]
    exact List.mem_append_left _ (List.mem_append_right _ hmem)
  unfold alternatives
  rw [String.toList_ofList, List.splitOn_eq_singleton hbar, List.map_singleton, Text.trim_trim,
    List.filter_cons_of_pos (p := fun piece : List Char => !piece.isEmpty) hsome, List.filter_nil,
    List.map_singleton]

/-- An empty list of alternatives has none. -/
theorem alternatives_empty : alternatives "" = [] := rfl

/-! ## Rules that are spelled out -/

namespace Rule

/-- The name fragments to choose from: those that a rule asks for, or the empty text, which asks for
nothing. -/
def fragments (r : Rule) : List String :=
  if r.nameAlternatives.isEmpty then [""] else r.nameAlternatives

/-- The rules that a rule is short for: one for each pair of a type pattern and a name fragment, or
for each type pattern alone if no fragment is asked for. -/
def spelledOut (r : Rule) : List Rule :=
  r.typeAlternatives.flatMap fun type =>
    r.fragments.map fun fragment => { r with types := type, nameContains := fragment }

variable {r single : Rule}

theorem mem_spelledOut : single ∈ r.spelledOut ↔ ∃ type ∈ r.typeAlternatives,
    ∃ fragment ∈ r.fragments, single = { r with types := type, nameContains := fragment } := by
  simp only [spelledOut, List.mem_flatMap, List.mem_map, eq_comm]

/-- A fragment to choose is asked for alone, unless none is asked for. -/
theorem alternatives_of_mem_fragments {fragment : String} (h : fragment ∈ r.fragments) :
    alternatives fragment = if r.nameAlternatives.isEmpty then [] else [fragment] := by
  unfold fragments at h
  split at h
  case isTrue hnone =>
    rw [if_pos hnone, List.mem_singleton.1 h]
    exact alternatives_empty
  case isFalse hsome =>
    rw [if_neg hsome]
    exact alternatives_of_mem h

/-- Each rule that is spelled out has one type pattern and at most one name fragment: they are the
pairs of the patterns and fragments of the rule, or its patterns alone if it has no fragments. The
read-only state and the template are those of the rule. -/
theorem map_spelledOut (r : Rule) :
    (r.spelledOut.map fun single =>
      (single.typeAlternatives, single.nameAlternatives, single.ifReadOnly, single.output)) =
      r.typeAlternatives.flatMap fun type =>
        if r.nameAlternatives.isEmpty then [([type], [], r.ifReadOnly, r.output)]
        else r.nameAlternatives.map fun fragment =>
          ([type], [fragment], r.ifReadOnly, r.output) := by
  unfold spelledOut
  rw [List.map_flatMap]
  refine List.flatMap_congr fun type htype => ?_
  -- Spelled-out patterns and fragments hold no `|`, so each is its own only alternative.
  have hpair (fragment : String) (h : fragment ∈ r.fragments) :
      (alternatives type, alternatives fragment, r.ifReadOnly, r.output) =
        ([type], if r.nameAlternatives.isEmpty then [] else [fragment], r.ifReadOnly,
          r.output) := by
    rw [alternatives_of_mem htype, alternatives_of_mem_fragments h]
  rw [List.map_map]
  refine (List.map_congr_left hpair).trans ?_
  unfold fragments
  split <;> rfl

/-- A name fits the fragments of a rule exactly if it fits one of those to choose from. -/
theorem exists_fitsName_fragments_iff {name : String} :
    (∃ fragment ∈ r.fragments, fitsName (alternatives fragment) name = true) ↔
      fitsName r.nameAlternatives name = true := by
  have hchoice (fragment : String) :
      (fragment ∈ r.fragments ∧ fitsName (alternatives fragment) name = true) ↔
        fragment ∈ r.fragments ∧
          fitsName (if r.nameAlternatives.isEmpty then [] else [fragment]) name = true :=
    and_congr_right fun h => by rw [alternatives_of_mem_fragments h]
  simp only [hchoice]
  unfold fragments
  split
  case isTrue hnone =>
    rw [List.isEmpty_iff.1 hnone]
    exact iff_of_true ⟨"", List.mem_singleton.2 rfl, rfl⟩ rfl
  case isFalse hsome =>
    unfold fitsName
    simp [hsome]

/-- A rule fits a member exactly if one of those does that are spelled out from it: each of its
patterns meets each of its fragments. -/
theorem any_fits_spelledOut (r : Rule) (s : Shape) : r.spelledOut.any (Rule.fits s) = r.fits s := by
  rw [Bool.eq_iff_iff, List.any_eq_true]
  -- A spelled-out rule has one pattern and one fragment of the rule, and every pair of them is
  -- spelled out.
  constructor
  · rintro ⟨single, hsingle, hfits⟩
    obtain ⟨type, htype, fragment, hfragment, rfl⟩ := mem_spelledOut.1 hsingle
    obtain ⟨⟨hreadOnly, hname⟩, pattern, hpattern, hfit⟩ := fits_eq_true_iff.1 hfits
    obtain rfl : pattern = type := by
      have halone : pattern ∈ alternatives type := hpattern
      rwa [alternatives_of_mem htype, List.mem_singleton] at halone
    exact fits_eq_true_iff.2 ⟨⟨hreadOnly, exists_fitsName_fragments_iff.1 ⟨_, hfragment, hname⟩⟩,
      _, htype, hfit⟩
  · intro hfits
    obtain ⟨⟨hreadOnly, hname⟩, type, htype, hfit⟩ := fits_eq_true_iff.1 hfits
    obtain ⟨fragment, hfragment, hname⟩ := exists_fitsName_fragments_iff.2 hname
    refine ⟨_, mem_spelledOut.2 ⟨type, htype, fragment, hfragment, rfl⟩, ?_⟩
    have halone : type ∈ alternatives type := by
      rw [alternatives_of_mem htype]
      exact List.mem_singleton.2 rfl
    exact fits_eq_true_iff.2 ⟨⟨hreadOnly, hname⟩, type, halone, hfit⟩

end Rule

/-! ## Lists of rules -/

/-- The rules that are spelled out from a list of rules, each with the place of the rule that it
comes from. -/
def spelledOutFrom (rules : List Rule) : List (Rule × Nat) :=
  rules.zipIdx.flatMap fun (r, place) => r.spelledOut.map fun single => (single, place)

/-- What is the same for all of a list is that of the one that is found, if one is. -/
theorem map_find?_eq_ite {α β : Type} {l : List α} {p : α → Bool} {g : α → β} {b : β}
    (h : ∀ a ∈ l, g a = b) : (l.find? p).map g = if l.any p then some b else none := by
  cases hfound : l.find? p with
  | none =>
    have hnone : l.any p = false := List.any_eq_false.2 (List.find?_eq_none.1 hfound)
    rw [hnone]
    rfl
  | some a =>
    have hmem := List.mem_of_find?_eq_some hfound
    have hany : l.any p = true := List.any_eq_true.2 ⟨a, hmem, List.find?_some hfound⟩
    rw [hany, Option.map_some, h a hmem]
    rfl

/-- A rule gives the template and the place of itself wherever one that is spelled out from it fits
a member. -/
theorem Rule.map_find?_spelledOut {β : Type} (r : Rule) (s : Shape) {g : Rule → β} {b : β}
    (h : ∀ single ∈ r.spelledOut, g single = b) :
    (r.spelledOut.find? (Rule.fits s)).map g = if r.fits s then some b else none := by
  rw [map_find?_eq_ite h, any_fits_spelledOut]

section Choice

variable (rules : List Rule) (s : Shape)

/-- The first of the rules spelled out that fits a member is the first that fits it among those of
the first rule that has one. -/
theorem find?_spelledOutFrom :
    (spelledOutFrom rules).find? (fun (single, _) => single.fits s) =
      rules.zipIdx.findSome? fun (r, place) =>
        (r.spelledOut.find? (Rule.fits s)).map fun single => (single, place) := by
  unfold spelledOutFrom
  simp only [List.find?_flatMap, List.find?_map]
  rfl

/-- The places do not matter for the rule that is chosen. -/
theorem chooseRule_spelledOut :
    chooseRule (rules.flatMap Rule.spelledOut) s =
      ((spelledOutFrom rules).find? fun (single, _) => single.fits s).map (·.1) := by
  calc chooseRule (rules.flatMap Rule.spelledOut) s
      = rules.findSome? fun r => r.spelledOut.find? (Rule.fits s) := List.find?_flatMap
    _ = (rules.zipIdx.map (·.1)).findSome? fun r => r.spelledOut.find? (Rule.fits s) := by
        rw [List.zipIdx_map_fst]
    _ = ((spelledOutFrom rules).find? fun (single, _) => single.fits s).map (·.1) := by
        rw [find?_spelledOutFrom, List.findSome?_map, List.map_findSome?]
        congr 1
        funext ⟨r, place⟩
        show r.spelledOut.find? (Rule.fits s) = _
        simp [Function.comp_def]

/-- The rule that is chosen comes from the rule that is chosen without spelling out. -/
theorem place_spelledOut :
    ((spelledOutFrom rules).find? fun (single, _) => single.fits s).map (·.2) =
      chosenPlace? rules s := by
  calc ((spelledOutFrom rules).find? fun (single, _) => single.fits s).map (·.2)
      = rules.zipIdx.findSome? fun (r, place) => if r.fits s then some place else none := by
        rw [find?_spelledOutFrom, List.map_findSome?]
        congr 1
        funext ⟨r, place⟩
        show ((r.spelledOut.find? (Rule.fits s)).map _).map _ = _
        rw [Option.map_map]
        exact r.map_find?_spelledOut s fun _ _ => rfl
    _ = chosenPlace? rules s := List.findIdx?_eq_findSome?_zipIdx.symm

/-- The rule that is chosen gives the template that is chosen without spelling out. -/
theorem output_spelledOut :
    (chooseRule (rules.flatMap Rule.spelledOut) s).map (·.output) =
      (chooseRule rules s).map (·.output) := by
  have houtput (r : Rule) : ∀ single ∈ r.spelledOut, single.output = r.output := by
    intro single hsingle
    obtain ⟨_, _, _, _, rfl⟩ := Rule.mem_spelledOut.1 hsingle
    rfl
  -- Rule by rule: those spelled out from one rule stand together, and give its template if one of
  -- them fits.
  calc (chooseRule (rules.flatMap Rule.spelledOut) s).map (·.output)
      = rules.findSome? fun r => (r.spelledOut.find? (Rule.fits s)).map (·.output) := by
        rw [chooseRule, List.find?_flatMap, List.map_findSome?]
        rfl
    _ = rules.findSome? fun r => if r.fits s then some r.output else none := by
        simp only [Rule.map_find?_spelledOut _ s (houtput _)]
    _ = (chooseRule rules s).map (·.output) := by
        rw [chooseRule, List.find?_eq_findSome?_guard, List.map_findSome?]
        congr 1
        funext r
        unfold Option.guard
        simp only [Function.comp_def]
        split <;> rfl

end Choice

/-- Each rule spelled out is one rule for each of its type patterns with each of its name fragments,
or with none if it has none, in the place of the rule. For every member a rule is chosen from the
list of these exactly if one is chosen from the rules themselves; it comes from that rule, and the
templates are the same. -/
theorem spelledOut_chooses_alike (rules : List Rule) (s : Shape) :
    (∀ r : Rule, (r.spelledOut.map fun single =>
      (single.typeAlternatives, single.nameAlternatives, single.ifReadOnly, single.output)) =
      r.typeAlternatives.flatMap fun type =>
        if r.nameAlternatives.isEmpty then [([type], [], r.ifReadOnly, r.output)]
        else r.nameAlternatives.map fun fragment =>
          ([type], [fragment], r.ifReadOnly, r.output)) ∧
      let chosen := (spelledOutFrom rules).find? fun (single, _) => single.fits s
      chooseRule (rules.flatMap Rule.spelledOut) s = chosen.map (·.1) ∧
        chosen.map (·.2) = chosenPlace? rules s ∧
        (chooseRule (rules.flatMap Rule.spelledOut) s).map (·.output) =
          (chooseRule rules s).map (·.output) :=
  ⟨Rule.map_spelledOut, chooseRule_spelledOut rules s, place_spelledOut rules s,
    output_spelledOut rules s⟩

example :
    (Rule.spelledOut
      { types := " string | int ||", nameContains := "Pass| |pwd", output := "<Box/>" }).map
        (fun single => (single.types, single.nameContains)) =
      [("string", "Pass"), ("string", "pwd"), ("int", "Pass"), ("int", "pwd")] := by
  decide +kernel

end ViewForge
