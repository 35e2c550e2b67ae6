import ViewForge.Proofs.Data.Loose
import ViewForge.Proofs.Settings.Faults
import ViewForge.Settings.Loading

/-!
# Two ways to name the active profile

The profile to generate with may be named by a variable of the environment, or when settings are
asked for. The one is a layer over the file, is taken for the value that it denotes and spelled by
that value; the other takes the place of the active profile once settings are read. Both end alike
unless that shows: in the name itself, or because the file alone cannot be read as settings
(`overrides_agree_iff`).

The variable changes one entry of the layers (`exists_layered_eq_table`), so settings that can be
read without it are read with it as well, and differ in the active profile only
(`load_append_of_load`).
-/

namespace ViewForge

open Data (Address Loose)

/-! ## Layers -/

namespace Data.Address

/-- What an address begins with is a key. -/
def IsKeyed (a : Address) : Prop :=
  ∃ name, (a.lead = [] ∧ a.last = .key name) ∨ a.lead.head? = some (.key name)

/-- The first step that a text spells is a key. -/
theorem parse_isKeyed (s : String) : (parse s).IsKeyed := by
  unfold parse
  dsimp only
  split
  case h_1 steps _ =>
    cases steps with
    | nil => exact ⟨_, .inl ⟨rfl, rfl⟩⟩
    | cons step steps => exact ⟨_, .inr rfl⟩
  -- A text that spells no address is a key as it stands.
  case h_2 => exact ⟨s, .inl ⟨rfl, rfl⟩⟩

/-- What is put under a key is put into a table. -/
theorem exists_set_eq_table {a : Address} (h : a.IsKeyed) (value root : Loose) :
    ∃ entries, a.set value root = .table entries := by
  obtain ⟨lead, last⟩ := a
  obtain ⟨name, ⟨rfl, rfl⟩ | hhead⟩ := h
  · exact ⟨_, rfl⟩
  · cases lead with
    | nil => exact nomatch hhead
    | cons step steps =>
      obtain rfl := Option.some.inj hhead
      exact ⟨_, rfl⟩

/-- A value that is or spells a text is put in the place of another, and not merged with it. -/
theorem putMerged_of_text? {value : Loose} {name : String} (h : value.text? = some name)
    (key : String) (entries : Loose.Entries) :
    putMerged key value entries = put (Text.lowercase key) value entries := by
  cases value with
  | table => exact nomatch h
  | _ => rfl

end Data.Address

namespace Settings

/-- Entries overlaid on a table make a table. -/
theorem exists_overlay_eq_table {root : Loose} {layers : Loose.Entries} (h : root = .table layers)
    (entries : Loose.Entries) : ∃ layers, overlay root entries = .table layers := by
  induction entries generalizing root layers with
  | nil => exact ⟨layers, h⟩
  | cons entry entries ih =>
    obtain ⟨_, hset⟩ := Address.exists_set_eq_table (Address.parse_isKeyed entry.1) entry.2 root
    exact ih hset

theorem overlay_append (root : Loose) (entries entries' : Loose.Entries) :
    overlay root (entries ++ entries') = overlay (overlay root entries) entries' :=
  List.foldl_append

/-- The variable of the environment that names the active profile. -/
def activeVariable : String := "XAMLGEN_ACTIVE_PROFILE"

/-- The variable stands for what its text is taken for, under the name of the active profile. -/
theorem ofEnvironment_append (environment : List (String × String)) (x : String) :
    ofEnvironment (environment ++ [(activeVariable, x)]) =
      ofEnvironment environment ++ [("active_profile", Loose.guess x)] := by
  unfold ofEnvironment
  rw [List.filterMap_append]
  rfl

/-- The layer of a file, if there is nothing in its place or a text that can be read. -/
def layerOf? : SettingsFile → Option Loose.Entries
  | .missing => some []
  | .unusable => none
  | .text extension content => SettingsFile.entries? extension content

/-- The layers of a file and an environment, over that of the defaults. -/
def layered (entries : Loose.Entries) (environment : List (String × String)) : Loose :=
  overlay (overlay defaultLayer entries) (ofEnvironment environment)

/-- What layers are read as. -/
def ofLayers (layers : Loose) : Except Failure Settings :=
  match read? Loose.reader layers with
  | some s => .ok s
  | none => .error (.config "Failed to deserialize settings")

/-- Settings are read from the layers, if the file has one. -/
theorem load_eq (file : SettingsFile) (environment : List (String × String)) :
    load file environment =
      match layerOf? file with
      | some entries => ofLayers (layered entries environment)
      | none => .error (.config "Failed to build settings") := by
  cases file with
  | missing => rfl
  | unusable => rfl
  | text extension content =>
    unfold load layerOf?
    dsimp only
    cases SettingsFile.entries? extension content <;> rfl

/-- The layers are a table, and the variable puts its value into it. -/
theorem exists_layered_eq_table (entries : Loose.Entries)
    (environment : List (String × String)) :
    ∃ layers, layered entries environment = .table layers ∧
      ∀ x, layered entries (environment ++ [(activeVariable, x)]) =
        .table (Data.put "active_profile" (Loose.guess x) layers) := by
  have hfile : ∃ layers, overlay defaultLayer entries = .table layers :=
    exists_overlay_eq_table rfl entries
  obtain ⟨_, hfile⟩ := hfile
  obtain ⟨layers, hlayers⟩ := exists_overlay_eq_table hfile (ofEnvironment environment)
  refine ⟨layers, hlayers, fun x => ?_⟩
  obtain ⟨name, hname⟩ := Loose.exists_text?_guess x
  calc layered entries (environment ++ [(activeVariable, x)])
      = overlay (.table layers) [("active_profile", Loose.guess x)] := by
        rw [layered, ofEnvironment_append, overlay_append, hlayers]
    _ = .table (Address.putMerged "active_profile" (Loose.guess x) layers) := rfl
    _ = _ := by rw [Address.putMerged_of_text? hname]; rfl

/-- A text in the place of the active profile makes it active, and changes nothing else. -/
theorem read?_put_active {layers : Loose.Entries} {s : Settings}
    (h : read? Loose.reader (.table layers) = some s) {value : Loose} {name : String}
    (hname : value.text? = some name) :
    read? Loose.reader (.table (Data.put "active_profile" value layers)) =
      some { s with activeProfile := name } := by
  have hother (field : String) (hne : field ≠ "active_profile") :
      (Data.put "active_profile" value layers).lookup field = layers.lookup field :=
    Data.lookup_put_of_ne hne value layers
  simp only [read?, Loose.reader, Loose.fields?, Option.bind_eq_bind, Option.bind_some,
    Option.bind_eq_some_iff, Option.pure_def, Option.some.injEq] at h ⊢
  obtain ⟨active, hactive, formatting, hformatting, generation, hgeneration, profiles, hprofiles,
    rfl⟩ := h
  -- Each field is read by its own name, and only one name was put.
  refine ⟨name, ?_, formatting, ?_, generation, ?_, profiles, ?_, rfl⟩
  · rw [Data.lookup_put_self]
    exact hname
  · rw [hother "formatting" (by decide)]
    exact hformatting
  · rw [hother "generation" (by decide)]
    exact hgeneration
  · rw [hother "profiles" (by decide)]
    exact hprofiles

/-- With the variable, settings that can be read are the same but for the active profile, which is
what the variable's value is spelled as. -/
theorem load_append_of_load {file : SettingsFile} {environment : List (String × String)}
    {s : Settings} (h : load file environment = .ok s) {x name : String}
    (hname : (Loose.guess x).text? = some name) :
    load file (environment ++ [(activeVariable, x)]) = .ok { s with activeProfile := name } := by
  rw [load_eq] at h ⊢
  -- The variable's layer is put over those of the file and the environment, which are read already.
  cases hfile : layerOf? file with
  | none =>
    rw [hfile] at h
    exact nomatch h
  | some entries =>
    rw [hfile] at h
    obtain ⟨layers, hlayers, hvariable⟩ := exists_layered_eq_table entries environment
    dsimp only at h ⊢
    rw [hlayers] at h
    rw [hvariable]
    unfold ofLayers at h ⊢
    cases hread : read? Loose.reader (.table layers) with
    | none =>
      rw [hread] at h
      exact nomatch h
    | some t =>
      rw [hread] at h
      rw [read?_put_active hread hname]
      exact congrArg (fun t : Settings => Except.ok { t with activeProfile := name })
        (Except.ok.inj h)

/-- Settings fail to be read for one reason, whatever the environment. -/
theorem failure_unique {file : SettingsFile} {environment environment' : List (String × String)}
    {failure failure' : Failure} (h : load file environment = .error failure)
    (h' : load file environment' = .error failure') : failure = failure' := by
  have hreading (layers : Loose) {failure : Failure} (h : ofLayers layers = .error failure) :
      .config "Failed to deserialize settings" = failure := by
    unfold ofLayers at h
    split at h
    · exact nomatch h
    · exact Except.error.inj h
  -- Whether there are layers at all is up to the file alone.
  rw [load_eq] at h h'
  cases hfile : layerOf? file with
  | none =>
    rw [hfile] at h h'
    exact (Except.error.inj h).symm.trans (Except.error.inj h')
  | some entries =>
    rw [hfile] at h h'
    exact (hreading _ h).symm.trans (hreading _ h')

/-! ## Two ways to name the active profile -/

variable {s : Settings}

/-- Settings that are refused if they are not valid. -/
def checked (s : Settings) : Except Refusal Settings :=
  match s.validate with
  | .ok () => .ok s
  | .error fault => .error (.during "Invalid settings" (.failed (.config fault.message)))

/-- Settings are read, given the active profile that is asked for, and then checked. -/
theorem loadValid_eq (file : SettingsFile) (environment : List (String × String))
    (profile : Option String) :
    loadValid file environment profile =
      match load file environment with
      | .ok s => checked { s with activeProfile := profile.getD s.activeProfile }
      | .error failure => .error (.during "Failed to load settings" (.failed failure)) := by
  unfold loadValid
  cases load file environment <;> rfl

/-- Settings that cannot be read are not refused as those that are not valid. -/
theorem checked_ne_unread (s : Settings) (failure : Failure) :
    checked s ≠ .error (.during "Failed to load settings" (.failed failure)) := by
  unfold checked
  cases s.validate with
  | ok => exact nofun
  | error fault =>
    intro h
    have hactivity := (Refusal.during.inj (Except.error.inj h)).1
    exact absurd hactivity (by decide)

/-- The same settings under two names of the active profile end alike exactly if the names are the
same or the settings are refused for one fault. -/
theorem checked_eq_iff {name name' : String} :
    checked { s with activeProfile := name } = checked { s with activeProfile := name' } ↔
      name = name' ∨ ∃ fault,
        ({ s with activeProfile := name } : Settings).validate = .error fault ∧
          ({ s with activeProfile := name' } : Settings).validate = .error fault := by
  constructor
  · intro h
    unfold checked at h
    cases hleft : ({ s with activeProfile := name } : Settings).validate with
    | ok =>
      cases hright : ({ s with activeProfile := name' } : Settings).validate with
      | ok =>
        rw [hleft, hright] at h
        exact .inl (congrArg activeProfile (Except.ok.inj h))
      | error =>
        rw [hleft, hright] at h
        exact nomatch h
    | error fault =>
      cases hright : ({ s with activeProfile := name' } : Settings).validate with
      | ok =>
        rw [hleft, hright] at h
        exact nomatch h
      | error fault' =>
        rw [hleft, hright] at h
        have hmessage : fault.message = fault'.message := by
          have hcause := (Refusal.during.inj (Except.error.inj h)).2
          exact Failure.config.inj (Refusal.failed.inj hcause)
        -- Refusals carry messages only, which here tell the faults apart.
        obtain rfl := fault_unique hleft hright hmessage
        exact .inr ⟨fault, rfl, rfl⟩
  · rintro (rfl | ⟨fault, hleft, hright⟩)
    · rfl
    · unfold checked
      rw [hleft, hright]

/-- Naming the active profile by a variable and asking for it end alike exactly if, whenever
settings can be read with the variable, they can be read without it, and the name is kept by what
the variable is taken for or settings of either name are refused for the same fault. Digits that
denote an integer of 64 bits are kept exactly if no zero leads them. -/
theorem overrides_agree_iff (file : SettingsFile) (environment : List (String × String))
    (x : String) :
    (loadValid file (environment ++ [(activeVariable, x)]) none =
          loadValid file environment (some x) ↔
        ∀ s, load file (environment ++ [(activeVariable, x)]) = .ok s →
          (∃ t, load file environment = .ok t) ∧
            (Loose.IsKept x ∨
              ∃ fault, s.validate = .error fault ∧
                ({ s with activeProfile := x } : Settings).validate = .error fault)) ∧
      (x.toList ≠ [] → (∀ c ∈ x.toList, c.isDigit = true) →
        Text.isInt64 (Text.digitsValue x.toList) = true →
        (Loose.IsKept x ↔ x = "0" ∨ x.toList.head? ≠ some '0')) := by
  refine ⟨?_, Loose.isKept_digits_iff⟩
  obtain ⟨name, hname⟩ := Loose.exists_text?_guess x
  have hkept : Loose.IsKept x ↔ name = x := by rw [Loose.IsKept, hname, Option.some_inj]
  rw [loadValid_eq, loadValid_eq, hkept]
  -- The variable comes before settings are read and the other name after, so what matters first is
  -- whether they can be read without it.
  cases hplain : load file environment with
  | error failure =>
    cases hvariable : load file (environment ++ [(activeVariable, x)]) with
    | error failure' =>
      obtain rfl := failure_unique hplain hvariable
      refine ⟨fun _ s h => ?_, fun _ => rfl⟩
      cases h
    | ok s =>
      refine ⟨fun h => absurd h (checked_ne_unread _ _), fun h => ?_⟩
      obtain ⟨⟨t, ht⟩, -⟩ := h s rfl
      cases ht
  | ok t =>
    rw [load_append_of_load hplain hname]
    dsimp only
    rw [Option.getD_none, Option.getD_some, checked_eq_iff]
    constructor
    · rintro h s hs
      obtain rfl := Except.ok.inj hs
      exact ⟨⟨t, rfl⟩, h⟩
    · intro h
      exact (h _ rfl).2

/-- A name of digits that no zero leads is the same either way. -/
theorem overrides_agree_twelve :
    loadValid .missing [(activeVariable, "12")] none = loadValid .missing [] (some "12") := by
  obtain ⟨hagree, hdigits⟩ := overrides_agree_iff .missing [] "12"
  have hall : ∀ c ∈ "12".toList, c.isDigit = true := List.all_eq_true.1 (by decide)
  have hkept : Loose.IsKept "12" := (hdigits (by decide) hall (by decide)).2 (.inr (by decide))
  have hplain : load .missing [] = .ok {} := by decide +kernel
  exact hagree.2 fun _ _ => ⟨⟨{}, hplain⟩, .inl hkept⟩

/-- A profile that is named by digits after a zero is found if it is asked for, and not by the
variable. -/
theorem leadingZero_dropped :
    loadValid (.text "toml" "[[profiles]]\nname = \"007\"") [(activeVariable, "007")] none =
        .error (.during "Invalid settings"
          (.failed (.config "Active profile '7' not found. Available: [\"007\"]"))) ∧
      loadValid (.text "toml" "[[profiles]]\nname = \"007\"") [] (some "007") =
        .ok { activeProfile := "007", profiles := [{ name := "007" }] } := by
  decide +kernel

end Settings

end ViewForge
