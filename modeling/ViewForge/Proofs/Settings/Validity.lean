import Mathlib.Data.List.Find
import ViewForge.Member.Choice
import ViewForge.Proofs.Template.Parts
import ViewForge.Proofs.Text.LetterCase
import ViewForge.Settings.Basic

/-!
# Valid settings

What settings are checked for is what generation relies on, although the checks are made elsewhere
and in other terms. Names of profiles differ in their lower-case forms, so a name finds one profile
at most in any case (`length_filter_name_le_one`), and the same one in any order
(`find?_eq_of_perm`). A type pattern passes the check exactly if it does not mean its own text
(`isRaw_ofText`). A template without unknown markers has no literal part that looks like a marker
(`Template.not_holdsWord_of_unknownMarkers`). `validate_eq_ok_iff` says what valid settings are, and
`safe_of_validate` what follows for generation.
-/

namespace ViewForge

/-! ## Patterns and templates -/

/-- Whether a pattern means the text that is no type. -/
def TypePattern.isRaw : TypePattern → Bool
  | raw _ => true
  | _ => false

/-- The type patterns that a rule is tried with. -/
def Rule.patterns (r : Rule) : List TypePattern := r.typeAlternatives.map TypePattern.ofText

/-- The templates of a profile: those in its slots and those of its rules. -/
def Profile.templates (p : Profile) : List String :=
  [p.fallback, p.nestedFallback, p.enumMember] ++ p.rules.map (·.output)

/-- A pattern means its own text if it is no word for a pattern and no type. -/
theorem isRaw_ofText (text : String) : (TypePattern.ofText text).isRaw =
    (!isReservedPattern text && (TypeExpr.parse? text).isNone) := by
  unfold TypePattern.ofText isReservedPattern
  split
  case isTrue h => rw [h]; rfl
  case isFalse h =>
    rw [Bool.not_eq_true] at h
    rw [h, Bool.false_or]
    split
    case isTrue h => rw [h]; rfl
    case isFalse h =>
      rw [Bool.not_eq_true] at h
      rw [h]
      cases TypeExpr.parse? text <;> rfl

/-- A rule has no fault exactly if it has patterns, all of which mean types or kinds of types, and a
template that is not blank and has no unknown markers. -/
theorem Rule.faults_eq_nil_iff (r : Rule) : r.faults = [] ↔
    r.patterns ≠ [] ∧ (∀ pattern ∈ r.patterns, pattern.isRaw = false) ∧
      isBlankText r.output = false ∧ unknownMarkersOf r.output = [] := by
  have hraw : (r.typeAlternatives.filter fun p =>
      !isReservedPattern p && (TypeExpr.parse? p).isNone) = [] ↔
      ∀ pattern ∈ r.patterns, pattern.isRaw = false := by
    simp only [patterns, List.forall_mem_map, List.filter_eq_nil_iff, isRaw_ofText,
      Bool.not_eq_true]
  unfold faults
  simp only [List.append_eq_nil_iff, List.map_eq_nil_iff, hraw, and_assoc]
  simp [patterns, List.isEmpty_iff]

/-- A profile has no fault exactly if its name is not blank, the templates in its slots have no
unknown markers, and its rules have no faults. -/
theorem Profile.faults_eq_nil_iff (p : Profile) : p.faults = [] ↔
    isBlankText p.name = false ∧ (∀ slot, unknownMarkersOf (p.template slot) = []) ∧
      ∀ rule ∈ p.rules, rule.faults = [] := by
  -- The three slots are all there are, and the place of a rule has no part in its faults.
  have hslots : (∀ slot ∈ [Slot.fallback, .nestedFallback, .enumMember],
      unknownMarkersOf (p.template slot) = []) ↔
      ∀ slot, unknownMarkersOf (p.template slot) = [] := by
    refine ⟨fun h slot => h slot ?_, fun h slot _ => h slot⟩
    cases slot <;> decide
  have hrules : (∀ pair ∈ p.rules.zipIdx, pair.1.faults = []) ↔
      ∀ rule ∈ p.rules, rule.faults = [] := by
    have hmap := List.forall_mem_map (f := Prod.fst) (l := p.rules.zipIdx)
      (P := fun rule : Rule => rule.faults = [])
    rw [List.zipIdx_map_fst] at hmap
    exact hmap.symm
  unfold faults
  simp only [List.append_eq_nil_iff, List.flatMap_eq_nil_iff, List.map_eq_nil_iff]
  rw [hslots, hrules, and_assoc]
  cases isBlankText p.name <;> simp

/-- The templates of a profile without faults have no unknown markers. -/
theorem Profile.unknownMarkersOf_templates {p : Profile} (h : p.faults = []) :
    ∀ template ∈ p.templates, unknownMarkersOf template = [] := by
  obtain ⟨-, hslots, hrules⟩ := p.faults_eq_nil_iff.1 h
  refine List.forall_mem_append.2 ⟨?_, List.forall_mem_map.2 fun rule hrule => ?_⟩
  · intro template htemplate
    simp only [List.mem_cons, List.not_mem_nil, or_false] at htemplate
    rcases htemplate with rfl | rfl | rfl
    · exact hslots .fallback
    · exact hslots .nestedFallback
    · exact hslots .enumMember
  · exact (rule.faults_eq_nil_iff.1 (hrules rule hrule)).2.2.2

/-! ## Names of profiles -/

/-- No name repeats an earlier one exactly if the names differ in their lower-case forms, from one
another and from the earlier ones. -/
theorem Settings.repeatedName?_eq_none_iff {seen names : List String} :
    repeatedName? seen names = none ↔
      (names.map Text.lowercase).Nodup ∧ ∀ name ∈ names, Text.lowercase name ∉ seen := by
  induction names generalizing seen with
  | nil => simp [repeatedName?]
  | cons name names ih =>
    show (if seen.contains (Text.lowercase name) then some name
      else repeatedName? (Text.lowercase name :: seen) names) = none ↔ _
    split
    case isTrue h =>
      refine ⟨fun hsome => absurd hsome (Option.some_ne_none name), fun hnone => ?_⟩
      exact absurd (List.contains_iff_mem.1 h) (hnone.2 name List.mem_cons_self)
    -- That a later name is not `name` is said of the names in one half and of those seen in the
    -- other.
    case isFalse h =>
      rw [List.contains_iff_mem] at h
      rw [ih, List.map_cons, List.nodup_cons, List.forall_mem_cons]
      constructor
      · rintro ⟨hnodup, hseen⟩
        refine ⟨⟨fun hmem => ?_, hnodup⟩, h, fun other hother hmem => ?_⟩
        · obtain ⟨other, hother, heq⟩ := List.mem_map.1 hmem
          exact hseen other hother (heq ▸ List.mem_cons_self)
        · exact hseen other hother (List.mem_cons_of_mem _ hmem)
      · rintro ⟨⟨hfirst, hnodup⟩, -, hseen⟩
        refine ⟨hnodup, fun other hother hmem => ?_⟩
        rcases List.mem_cons.1 hmem with heq | hmem
        · exact hfirst (heq ▸ List.mem_map_of_mem hother)
        · exact hseen other hother hmem

/-- Of profiles whose names differ in their lower-case forms, a name is that of one at most up to
the case of letters of ASCII. -/
theorem length_filter_name_le_one {profiles : List Profile}
    (h : ((profiles.map (·.name)).map Text.lowercase).Nodup) (name : String) :
    (profiles.filter fun p => Text.equalIgnoringCase p.name name).length ≤ 1 := by
  let found := profiles.filter fun p => Text.equalIgnoringCase p.name name
  have hfound : (found.map fun p => Text.lowercase p.name).Nodup := by
    rw [List.map_map] at h
    exact h.sublist (List.filter_sublist.map _)
  have hsame : (found.map fun p => Text.lowercase p.name) =
      List.replicate found.length (Text.lowercase name) := by
    rw [List.eq_replicate_iff]
    refine ⟨List.length_map _, List.forall_mem_map.2 fun p hp => ?_⟩
    exact Text.lowercase_eq_of_equalIgnoringCase (List.mem_filter.1 hp).2
  rw [hsame] at hfound
  exact List.nodup_replicate.1 hfound

/-- What at most one element satisfies is found at the same element in any order. -/
theorem find?_eq_of_perm {α : Type} {p : α → Bool} {l l' : List α} (hperm : l'.Perm l)
    (hone : (l.filter p).length ≤ 1) : l'.find? p = l.find? p := by
  refine (List.find?_eq_find?_of_perm hperm.symm fun a ha b hb => ?_).symm
  have ha' : a ∈ l.filter p := List.mem_filter.2 ha
  have hb' : b ∈ l.filter p := List.mem_filter.2 hb
  obtain ⟨c, hc⟩ := List.length_eq_one_iff.1
    (Nat.le_antisymm hone (List.length_pos_of_mem ha'))
  rw [hc, List.mem_singleton] at ha' hb'
  rw [ha', hb']

/-! ## Valid settings -/

namespace Settings

variable {s : Settings}

/-- A check that fails is the end of it, and one that passes leaves it to the others. -/
theorem check_eq_ok_iff {failed : Prop} [Decidable failed] {fault : SettingsFault}
    {others : Except SettingsFault Unit} :
    (if failed then .error fault else others) = .ok () ↔ ¬ failed ∧ others = .ok () := by
  by_cases h : failed <;> simp [h]

/-- Settings are valid exactly if there are profiles, with names that differ in their lower-case
forms and without faults, one of them is active, and the knobs are in range. -/
theorem validate_eq_ok_iff : s.validate = .ok () ↔
    s.profiles ≠ [] ∧ (s.profileNames.map Text.lowercase).Nodup ∧ (∃ p, s.active = .ok p) ∧
      s.formatting.indentSize ≤ maxIndent ∧ s.generation.maxDepth ≠ 0 ∧
      ∀ p ∈ s.profiles, p.faults = [] := by
  have hnames : repeatedName? [] s.profileNames = none ↔
      (s.profileNames.map Text.lowercase).Nodup := by
    rw [repeatedName?_eq_none_iff]
    exact and_iff_left fun _ _ => List.not_mem_nil
  have hmessages : s.profiles.flatMap (·.faultMessages) = [] ↔ ∀ p ∈ s.profiles, p.faults = [] := by
    simp only [List.flatMap_eq_nil_iff, Profile.faultMessages, List.map_eq_nil_iff]
  rw [← hnames, ← hmessages]
  unfold validate
  dsimp only [bind, Except.bind, throw, throwThe, MonadExceptOf.throw, pure, Except.pure]
  -- The check of names and the choice of the active profile stand between the others, so these are
  -- split where they come up.
  rw [check_eq_ok_iff, List.isEmpty_iff]
  cases repeatedName? [] s.profileNames with
  | some name => simp
  | none =>
    cases s.active with
    | error fault => simp
    | ok p =>
      dsimp only
      rw [check_eq_ok_iff, check_eq_ok_iff, check_eq_ok_iff, Bool.not_eq_true',
        List.isEmpty_eq_false_iff, not_not]
      simp

/-- Settings that are safe to generate with. -/
structure IsSafe (s : Settings) : Prop where
  /-- One of the profiles is active. -/
  active : ∃ p ∈ s.profiles, s.active = .ok p
  /-- A name is that of one profile at most. -/
  unique : ∀ name, (s.profiles.filter fun p => Text.equalIgnoringCase p.name name).length ≤ 1
  /-- What profile a name finds and which one is active does not depend on their order. -/
  unordered : ∀ profiles, profiles.Perm s.profiles →
    (∀ name, ({ s with profiles } : Settings).profile? name = s.profile? name) ∧
      ({ s with profiles } : Settings).active = s.active
  /-- The rules have patterns, none of which means its own text. -/
  patterns : ∀ p ∈ s.profiles, ∀ rule ∈ p.rules,
    rule.patterns ≠ [] ∧ ∀ pattern ∈ rule.patterns, ∀ text, pattern ≠ .raw text
  /-- No literal part of a template holds a word of small letters between dollar signs. -/
  literals : ∀ p ∈ s.profiles, ∀ template ∈ p.templates, ∀ letters,
    .text letters ∈ Template.parts template.toList → ¬ Template.HoldsWord letters
  /-- The indentation is in range. -/
  indentSize : s.formatting.indentSize ≤ 16
  /-- Members are followed to some depth. -/
  maxDepth : 1 ≤ s.generation.maxDepth

/-- A profile is active if its name is found. -/
theorem active_eq_ok_iff {p : Profile} :
    s.active = .ok p ↔ s.profile? s.activeProfile = some p := by
  unfold active
  cases s.profile? s.activeProfile <;> simp

/-- Valid settings are safe to generate with. -/
theorem safe_of_validate (h : s.validate = .ok ()) : s.IsSafe := by
  obtain ⟨-, hnames, ⟨p, hactive⟩, hindent, hdepth, hfaults⟩ := validate_eq_ok_iff.1 h
  have hone := length_filter_name_le_one hnames
  -- A name stands for one profile at most, so the order of the profiles has no say in what is
  -- found.
  have hfound (name : String) (profiles : List Profile) (hperm : profiles.Perm s.profiles) :
      ({ s with profiles } : Settings).profile? name = s.profile? name :=
    find?_eq_of_perm hperm (hone name)
  constructor
  case active =>
    exact ⟨p, List.mem_of_find?_eq_some (active_eq_ok_iff.1 hactive), hactive⟩
  case unique => exact hone
  case unordered =>
    intro profiles hperm
    refine ⟨fun name => hfound name profiles hperm, ?_⟩
    rw [hactive, active_eq_ok_iff, ← active_eq_ok_iff.1 hactive]
    exact hfound s.activeProfile profiles hperm
  case patterns =>
    intro p hp rule hrule
    have hnone := (p.faults_eq_nil_iff.1 (hfaults p hp)).2.2 rule hrule
    obtain ⟨hne, hraw, -⟩ := rule.faults_eq_nil_iff.1 hnone
    refine ⟨hne, fun pattern hpattern text heq => ?_⟩
    have hno := hraw pattern hpattern
    rw [heq] at hno
    exact Bool.noConfusion hno
  case literals =>
    intro p hp template htemplate letters hpart
    have hnone := Profile.unknownMarkersOf_templates (hfaults p hp) template htemplate
    exact Template.not_holdsWord_of_unknownMarkers (List.map_eq_nil_iff.1 hnone) hpart
  case indentSize => exact hindent
  case maxDepth => exact Nat.pos_of_ne_zero hdepth

/-- Settings with two profiles whose names differ beyond ASCII, of which the first is active under
its name in another case. -/
def twoStreets : Settings where
  activeProfile := "STRAßE"
  profiles :=
    [{ name := "Straße", fallback := "$name$ for $5$"
       rules := [{ types := "Enum | List(Of String)", output := "$name$: $type$" }] },
     { name := "Strasse" }]

/-- Both profiles are kept apart, and a price between dollar signs is text. -/
theorem safe_of_validate_twoStreets : twoStreets.validate = .ok () ∧ twoStreets.IsSafe := by
  have hvalid : twoStreets.validate = .ok () := by
    rw [validate_eq_ok_iff]
    refine ⟨by decide, by decide +kernel, ⟨_, active_eq_ok_iff.2 (Eq.refl _)⟩, by decide, by decide,
      by decide +kernel⟩
  exact ⟨hvalid, safe_of_validate hvalid⟩

end Settings

end ViewForge
