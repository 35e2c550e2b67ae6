import ViewForge.Proofs.Data.Toml.Document
import ViewForge.Proofs.Data.Toml.Table
import ViewForge.Settings.Written

/-!
# Settings, written and read

Settings come back from the text that they are written as (`Settings.ofToml_toToml`). Their lines
build a table for each record (`ofStatements?_lines`), with the tables of profiles in an array and
those of rules in an array of the profile, and each record is read from its table. Lists without
items have no tables: a line of their own says that they are there, so that no default takes their
place.
-/

namespace ViewForge

open Data (Reader Toml)
open Data.Toml (Entries IsBareKey Leaf Line Progress entryOf focus_document itemsAt)

/-! ## Tables -/

/-- The line of a list without items. -/
def emptyAt (key : String) (isEmpty : Bool) : Entries :=
  if isEmpty then [(key, .array false [])] else []

/-- The entries of a rule's table. -/
def Rule.entries (r : Rule) : Entries :=
  [("type", .text r.types), ("name_contains", .text r.nameContains),
    ("if_read_only", .flag r.ifReadOnly), ("output", .text r.output)]

namespace Profile

/-- The entries of the texts of a profile. -/
def textEntries (p : Profile) : Entries :=
  [("name", .text p.name), ("class_grouping", .text p.grouping),
    ("fallback_output", .text p.fallback), ("sub_property_output", .text p.nestedFallback),
    ("enum_member_output", .text p.enumMember)]

/-- The entries of a profile's table in front of its rules. -/
def ownEntries (p : Profile) : Entries := p.textEntries ++ emptyAt "mappings" p.rules.isEmpty

/-- The entries of a profile's table. -/
def entries (p : Profile) : Entries :=
  p.ownEntries ++ itemsAt "mappings" (p.rules.map fun r => .table .header r.entries)

end Profile

/-- The entries of the layout's table. -/
def Formatting.entries (f : Formatting) : Entries := [("indent_size", .integer f.indentSize)]

/-- The entries of the table of generation. -/
def Generation.entries (g : Generation) : Entries :=
  [("max_sub_property_depth", .integer g.maxDepth),
    ("excluded_properties", .array false (g.excluded.map .text))]

namespace Settings

/-- The entries of settings in front of their tables. -/
def ownEntries (s : Settings) : Entries :=
  [("active_profile", .text s.activeProfile)] ++ emptyAt "profiles" s.profiles.isEmpty

/-- The entries of the tables of settings. -/
def tableEntries (s : Settings) : Entries :=
  [("formatting", .table .header s.formatting.entries),
    ("generation", .table .header s.generation.entries)]

/-- The entries of settings in front of their profiles. -/
def plainEntries (s : Settings) : Entries := s.ownEntries ++ s.tableEntries

/-- The entries of settings. -/
def entries (s : Settings) : Entries :=
  s.plainEntries ++ itemsAt "profiles" (s.profiles.map fun p => .table .header p.entries)

end Settings

/-! ## Lines build tables -/

/-- The statements of a profile: its header, its own entries, and its rules one by one. -/
theorem Profile.map_statement_lines (p : Profile) : p.lines.map Line.statement =
    (.arrayHeader [] "profiles" :: p.ownEntries.map entryOf) ++
      (p.rules.map Rule.entries).flatMap fun entries =>
        .arrayHeader ["profiles"] "mappings" :: entries.map entryOf := by
  unfold Profile.lines Profile.ownEntries Profile.textEntries emptyAt
  rw [List.flatMap_map]
  cases p.rules with
  | nil => rfl
  | cons r rules =>
    rw [List.map_append, if_neg (by simp), List.map_flatMap]
    rfl

/-- The lines of a profile put its table into the array of profiles. -/
theorem Profile.foldlM_lines (p : Profile) {base : Entries}
    (hbase : "profiles" ∉ base.map Prod.fst) (current : List String) (items : List Toml) :
    ∃ current', (p.lines.map Line.statement).foldlM Progress.add
        ⟨base ++ itemsAt "profiles" items, current⟩ =
      some ⟨base ++ itemsAt "profiles" (items ++ [.table .header p.entries]), current'⟩ := by
  have hkeys : (p.ownEntries.map Prod.fst).Nodup := by
    unfold Profile.ownEntries Profile.textEntries emptyAt
    split <;> simp
  have hrulekeys : ∀ entries ∈ p.rules.map Rule.entries, (entries.map Prod.fst).Nodup := by
    refine List.forall_mem_map.2 fun r _ => ?_
    simp [Rule.entries]
  have hown := focus_document.itemSection hbase current items hkeys
  rw [p.map_statement_lines, List.foldlM_append, hown, Option.bind_eq_bind, Option.bind_some]
  have hnil : p.ownEntries ++ itemsAt "mappings" [] = p.ownEntries := List.append_nil _
  unfold Profile.entries
  -- Without rules nothing follows; with rules no line of an empty list has taken their key.
  by_cases hrules : p.rules = []
  · rw [hrules, List.map_nil, List.map_nil, hnil]
    exact ⟨_, rfl⟩
  · have hmappings : "mappings" ∉ p.ownEntries.map Prod.fst := by
      unfold Profile.ownEntries Profile.textEntries emptyAt
      rw [if_neg (by rwa [List.isEmpty_iff])]
      simp
    obtain ⟨current', hsections⟩ := (focus_document.item hbase items).itemSections hmappings
      ["profiles"] [] hrulekeys
    rw [hnil, List.map_map] at hsections
    exact ⟨current', hsections⟩

/-- The lines of profiles put their tables into the array of profiles in order. -/
theorem foldlM_profileLines (profiles : List Profile) {base : Entries}
    (hbase : "profiles" ∉ base.map Prod.fst) (current : List String) (items : List Toml) :
    ∃ current', ((profiles.flatMap Profile.lines).map Line.statement).foldlM Progress.add
        ⟨base ++ itemsAt "profiles" items, current⟩ =
      some ⟨base ++ itemsAt "profiles"
        (items ++ profiles.map fun p => .table .header p.entries), current'⟩ := by
  induction profiles generalizing items current with
  | nil => exact ⟨current, by rw [List.map_nil, List.append_nil]; rfl⟩
  | cons p profiles ih =>
    obtain ⟨current₁, hfirst⟩ := p.foldlM_lines hbase current items
    obtain ⟨current₂, hrest⟩ := ih current₁ (items ++ [.table .header p.entries])
    refine ⟨current₂, ?_⟩
    rw [List.flatMap_cons, List.map_append, List.foldlM_append, hfirst, Option.bind_eq_bind,
      Option.bind_some, hrest, List.map_cons, List.append_assoc, List.singleton_append]

namespace Settings

/-- The statements of settings: their own entries, two tables, and their profiles one by one. -/
theorem map_statement_lines (s : Settings) : s.lines.map Line.statement =
    s.ownEntries.map entryOf ++
      ((.header [] "formatting" :: s.formatting.entries.map entryOf) ++
        (.header [] "generation" :: s.generation.entries.map entryOf)) ++
      (s.profiles.flatMap Profile.lines).map Line.statement := by
  unfold lines ownEntries emptyAt
  rw [List.map_append]
  split <;> rfl

/-- The entries of settings and their two tables are built in front of the profiles. -/
theorem foldlM_plain (s : Settings) :
    (s.ownEntries.map entryOf ++
      ((.header [] "formatting" :: s.formatting.entries.map entryOf) ++
        (.header [] "generation" :: s.generation.entries.map entryOf))).foldlM Progress.add {} =
      some ⟨s.plainEntries, ["generation"]⟩ := by
  -- A section ends where the next header stands, so the three are built one after the other.
  have hown : (s.ownEntries.map entryOf).foldlM Progress.add {} = some ⟨s.ownEntries, []⟩ := by
    refine focus_document.add_entries [] ?_
    unfold ownEntries emptyAt
    split <;> simp
  have hformatting : (.header [] "formatting" :: s.formatting.entries.map entryOf).foldlM
      Progress.add ⟨s.ownEntries, []⟩ =
      some ⟨s.ownEntries ++ [("formatting", .table .header s.formatting.entries)],
        ["formatting"]⟩ := by
    refine focus_document.tableSection ?_ (by simp [Formatting.entries])
    unfold ownEntries emptyAt
    split <;> simp
  have hgeneration : (.header [] "generation" :: s.generation.entries.map entryOf).foldlM
      Progress.add ⟨s.ownEntries ++ [("formatting", .table .header s.formatting.entries)],
        ["formatting"]⟩ = some ⟨s.plainEntries, ["generation"]⟩ := by
    have hplain : s.plainEntries = s.ownEntries ++
        [("formatting", .table .header s.formatting.entries)] ++
        [("generation", .table .header s.generation.entries)] := by
      rw [List.append_assoc]
      rfl
    rw [hplain]
    refine focus_document.tableSection ?_ (by simp [Generation.entries])
    unfold ownEntries emptyAt
    split <;> simp
  rw [List.foldlM_append, hown, Option.bind_eq_bind, Option.bind_some, List.foldlM_append,
    hformatting, Option.bind_eq_bind, Option.bind_some, hgeneration]

/-- The lines of settings build the table of their entries. -/
theorem ofStatements?_lines (s : Settings) :
    Toml.ofStatements? (s.lines.map Line.statement) = some (.table .header s.entries) := by
  have hprofiles : ∃ current, ((s.profiles.flatMap Profile.lines).map Line.statement).foldlM
      Progress.add ⟨s.plainEntries, ["generation"]⟩ = some ⟨s.entries, current⟩ := by
    have hnil : s.plainEntries ++ itemsAt "profiles" [] = s.plainEntries := List.append_nil _
    unfold entries
    -- As for rules: there is a line of an empty list or there are tables, never both.
    by_cases hsome : s.profiles = []
    · rw [hsome, List.map_nil, hnil]
      exact ⟨_, rfl⟩
    · have hnew : "profiles" ∉ s.plainEntries.map Prod.fst := by
        unfold plainEntries ownEntries tableEntries emptyAt
        rw [if_neg (by rwa [List.isEmpty_iff])]
        simp
      have hfold := foldlM_profileLines s.profiles hnew ["generation"] []
      rwa [hnil, List.nil_append] at hfold
  obtain ⟨current, hprofiles⟩ := hprofiles
  unfold Toml.ofStatements?
  rw [map_statement_lines, List.foldlM_append, foldlM_plain, Option.bind_eq_bind,
    Option.bind_some, hprofiles]
  rfl

end Settings

/-! ## Tables are read as records -/

/-- Items that are read back one by one are read back as a list. -/
theorem items?_map {α : Type} {write : α → Toml} {read : Toml → Option α}
    (h : ∀ x, read (write x) = some x) (isExtensible : Bool) (xs : List α) :
    Toml.reader.items? read (.array isExtensible (xs.map write)) = some xs := by
  have hread : read ∘ write = some := funext h
  show (xs.map write).mapM read = some xs
  rw [List.mapM_map, hread]
  exact (List.mapM_pure (f := id)).trans (congrArg some (List.map_id xs))

/-- A list is found at its line, or at its tables behind other entries. -/
theorem lookup_list {α : Type} {key : String} (before between : Entries)
    (hbefore : key ∉ before.map Prod.fst) (hbetween : key ∉ between.map Prod.fst)
    (write : α → Toml) (xs : List α) :
    (before ++ emptyAt key xs.isEmpty ++ between ++ itemsAt key (xs.map write)).lookup key =
      some (.array (!xs.isEmpty) (xs.map write)) := by
  rw [List.lookup_append, List.lookup_append, List.lookup_append,
    Data.lookup_eq_none_of_notMem hbefore, Data.lookup_eq_none_of_notMem hbetween]
  cases xs with
  | nil => simp [emptyAt, itemsAt]
  | cons x xs => simp [emptyAt, itemsAt]

/-- A rule is read from its table. -/
theorem Rule.read?_entries (r : Rule) :
    Rule.read? Toml.reader (.table .header r.entries) = some r := rfl

/-- A profile is read from its table. -/
theorem Profile.read?_entries (p : Profile) :
    Profile.read? Toml.reader (.table .header p.entries) = some p := by
  have hrules : p.entries.lookup "mappings" =
      some (.array (!p.rules.isEmpty) (p.rules.map fun r => .table .header r.entries)) := by
    have hbefore : "mappings" ∉ p.textEntries.map Prod.fst := by simp [textEntries]
    have hlookup := lookup_list p.textEntries [] hbefore List.not_mem_nil
      (fun r => .table .header r.entries) p.rules
    rwa [List.append_nil] at hlookup
  have hfields : Profile.read? Toml.reader (.table .header p.entries) =
      (Reader.orElse [] (Toml.reader.items? (Rule.read? Toml.reader))
        (p.entries.lookup "mappings")).bind fun rules => some { p with rules } := rfl
  rw [hfields, hrules]
  show (Toml.reader.items? _ _).bind _ = _
  rw [items?_map Rule.read?_entries]
  rfl

/-- The layout is read from its table. -/
theorem Formatting.read?_entries (f : Formatting) :
    Formatting.read? Toml.reader (.table .header f.entries) = some f := rfl

/-- The knobs of generation are read from their table. -/
theorem Generation.read?_entries (g : Generation) :
    Generation.read? Toml.reader (.table .header g.entries) = some g := by
  have hfields : Generation.read? Toml.reader (.table .header g.entries) =
      (Toml.reader.items? Toml.reader.text? (.array false (g.excluded.map .text))).bind
        fun excluded => some { g with excluded } := rfl
  have htexts : Toml.reader.items? Toml.reader.text? (.array false (g.excluded.map .text)) =
      some g.excluded := items?_map (fun s => (rfl : Toml.reader.text? (.text s) = some s)) false _
  rw [hfields, htexts]
  rfl

namespace Settings

/-- Settings are read from their table. -/
theorem read?_entries (s : Settings) :
    Settings.read? Toml.reader (.table .header s.entries) = some s := by
  have hformatting : s.entries.lookup "formatting" =
      some (.table .header s.formatting.entries) := by
    unfold entries plainEntries ownEntries emptyAt
    split <;> rfl
  have hgeneration : s.entries.lookup "generation" =
      some (.table .header s.generation.entries) := by
    unfold entries plainEntries ownEntries emptyAt
    split <;> rfl
  have hprofiles : s.entries.lookup "profiles" =
      some (.array (!s.profiles.isEmpty) (s.profiles.map fun p => .table .header p.entries)) := by
    have hbetween : "profiles" ∉ s.tableEntries.map Prod.fst := by simp [tableEntries]
    exact lookup_list [("active_profile", .text s.activeProfile)] s.tableEntries (by simp) hbetween
      (fun p => .table .header p.entries) s.profiles
  -- All four fields are there, so none of the defaults is read.
  have hfields : Settings.read? Toml.reader (.table .header s.entries) =
      (Reader.orElse {} (Formatting.read? Toml.reader) (s.entries.lookup "formatting")).bind
        fun formatting =>
          (Reader.orElse {} (Generation.read? Toml.reader) (s.entries.lookup "generation")).bind
            fun generation =>
              (Reader.orElse Profile.builtIn (Toml.reader.items? (Profile.read? Toml.reader))
                (s.entries.lookup "profiles")).bind
                fun profiles => some ⟨s.activeProfile, formatting, generation, profiles⟩ := rfl
  rw [hfields, hformatting, hgeneration, hprofiles]
  show (Formatting.read? _ _).bind _ = _
  rw [Formatting.read?_entries, Option.bind_some]
  show (Generation.read? _ _).bind _ = _
  rw [Generation.read?_entries, Option.bind_some]
  show (Toml.reader.items? _ _).bind _ = _
  rw [items?_map Profile.read?_entries]
  rfl

end Settings

/-! ## Round trip -/

theorem isSound_entry {key : String} (h : IsBareKey key) (leaf : Leaf) :
    (Line.entry key leaf).IsSound :=
  ⟨List.forall_mem_singleton.2 h, (by decide : 1 < Data.Toml.maxKeys)⟩

/-- The keys of a rule's lines need no quotes. -/
theorem Rule.isSound_of_mem_lines (r : Rule) : ∀ l ∈ r.lines, l.IsSound := by
  simp only [Rule.lines, List.forall_mem_cons]
  exact ⟨by decide, isSound_entry (by decide) _, isSound_entry (by decide) _,
    isSound_entry (by decide) _, isSound_entry (by decide) _, fun _ h => nomatch h⟩

/-- The keys of a profile's lines need no quotes. -/
theorem Profile.isSound_of_mem_lines (p : Profile) : ∀ l ∈ p.lines, l.IsSound := by
  unfold Profile.lines
  simp only [List.forall_mem_append, List.forall_mem_cons]
  refine ⟨⟨by decide, isSound_entry (by decide) _, isSound_entry (by decide) _,
    isSound_entry (by decide) _, isSound_entry (by decide) _, isSound_entry (by decide) _,
    fun _ h => nomatch h⟩, ?_⟩
  split
  · exact List.forall_mem_singleton.2 (isSound_entry (by decide) _)
  · intro l hl
    obtain ⟨r, -, hl⟩ := List.mem_flatMap.1 hl
    exact r.isSound_of_mem_lines l hl

namespace Settings

/-- The keys of the lines of settings need no quotes. -/
theorem isSound_of_mem_lines (s : Settings) : ∀ l ∈ s.lines, l.IsSound := by
  unfold lines
  simp only [List.forall_mem_append, List.forall_mem_cons]
  refine ⟨⟨⟨⟨isSound_entry (by decide) _, fun _ h => nomatch h⟩, ?_⟩, by decide,
    isSound_entry (by decide) _, by decide, isSound_entry (by decide) _,
    isSound_entry (by decide) _, fun _ h => nomatch h⟩, ?_⟩
  · split
    · exact List.forall_mem_singleton.2 (isSound_entry (by decide) _)
    · exact fun _ h => nomatch h
  · intro l hl
    obtain ⟨p, -, hl⟩ := List.mem_flatMap.1 hl
    exact p.isSound_of_mem_lines l hl

/-- Only the two numbers of settings may not fit. -/
theorem all_fits_lines (s : Settings) : s.lines.all Line.fits =
    (Text.isInt64 s.formatting.indentSize && Text.isInt64 s.generation.maxDepth) := by
  -- A profile holds texts and switches only, which always fit.
  have hprofiles : (s.profiles.flatMap Profile.lines).all Line.fits = true := by
    rw [List.all_flatMap, List.all_eq_true]
    intro p _
    unfold Profile.lines
    rw [List.all_append, Bool.and_eq_true]
    refine ⟨rfl, ?_⟩
    split
    · rfl
    · rw [List.all_flatMap, List.all_eq_true]
      exact fun _ _ => rfl
  have hempty (isEmpty : Bool) : (if isEmpty then [Line.entry "profiles" (.texts [])] else []).all
      Line.fits = true := by
    cases isEmpty <;> rfl
  unfold lines
  rw [List.all_append, List.all_append, List.all_append, hprofiles, hempty]
  simp [Line.fits, Leaf.fits]

/-- Settings are written if their numbers have at most 63 bits. -/
theorem toToml_eq_ok_iff {s : Settings} {text : String} : s.toToml = .ok text ↔
    (Text.isInt64 s.formatting.indentSize = true ∧ Text.isInt64 s.generation.maxDepth = true) ∧
      Data.Toml.writeLines s.lines = text := by
  unfold toToml
  rw [all_fits_lines, ← Bool.and_eq_true]
  split
  · rename_i h
    rw [h, Except.ok.injEq, eq_self, true_and]
  · rename_i h
    simp [h]

/-- Settings come back from the text that they are written as. -/
theorem ofToml_toToml {s : Settings} {text : String} (h : s.toToml = .ok text) :
    ofToml text = .ok s := by
  obtain ⟨hnumbers, rfl⟩ := toToml_eq_ok_iff.1 h
  have hfits : ∀ l ∈ s.lines, l.fits = true := by
    rw [← List.all_eq_true, all_fits_lines, Bool.and_eq_true]
    exact hnumbers
  have hparse : Toml.parse? (Data.Toml.writeLines s.lines) = some (.table .header s.entries) := by
    unfold Toml.parse?
    rw [Data.Toml.statements?_writeLines s.isSound_of_mem_lines hfits, Option.bind_some,
      s.ofStatements?_lines]
  unfold ofToml
  rw [hparse, Option.bind_some, s.read?_entries]

/-- Quotes, backslashes, line breaks, control characters and lists without items come back. -/
theorem ofToml_toToml_odd_texts :
    let s : Settings := {
      activeProfile := "a\"b\\c"
      formatting := { indentSize := 9223372036854775807 }
      generation := { maxDepth := 0, excluded := [] }
      profiles := [
        { name := "a\"b\\c", grouping := "\"\"\"\x27\x27\x27", fallback := "\n\r\n\t\x7f\x01" },
        { name := "it\x27s", enumMember := "ä\n\\ \n", rules := [
          { types := "\x27\x27\x27\\", output := "" }, { types := "\u2028", output := "]#" }] }] }
    ∃ text, s.toToml = .ok text ∧ ofToml text = .ok s :=
  ⟨_, rfl, ofToml_toToml rfl⟩

end Settings

end ViewForge
