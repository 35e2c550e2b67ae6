import ViewForge.Data.Toml.Basic

/-!
# Tables from statements

A header turns to a table, and the entries behind it fill that table and change nothing else. Where
a table stands in a document is said by what is around it (`Focus`); a header and its entries then
put a filled table into the table at the end of their path (`Focus.tableSection`,
`Focus.itemSection`), one behind the others under the key of an array (`Focus.itemSections`).
-/

namespace ViewForge.Data

/-! ## Values under keys -/

section Keyed

variable {α : Type} {key : String} {base : List (String × α)}

theorem lookup_eq_none_of_notMem (h : key ∉ base.map Prod.fst) : base.lookup key = none := by
  rw [List.lookup_eq_none_iff]
  exact fun entry hentry => bne_iff_ne.2 fun heq => h (heq ▸ List.mem_map_of_mem hentry)

theorem lookup_append_self (h : key ∉ base.map Prod.fst) (value : α) :
    (base ++ [(key, value)]).lookup key = some value := by
  rw [List.lookup_append, lookup_eq_none_of_notMem h, List.lookup_cons_self, Option.none_or]

/-- A value under a new key is put behind the others. -/
theorem put_of_notMem (h : key ∉ base.map Prod.fst) (value : α) :
    put key value base = base ++ [(key, value)] := by
  induction base with
  | nil => rfl
  | cons entry base ih =>
    obtain ⟨hne, hnot⟩ := List.ne_and_not_mem_of_not_mem_cons h
    rw [put, if_neg fun heq => hne (eq_of_beq heq).symm, ih hnot]
    rfl

/-- The value under the last key is replaced. -/
theorem put_append_self (h : key ∉ base.map Prod.fst) (old value : α) :
    put key value (base ++ [(key, old)]) = base ++ [(key, value)] := by
  induction base with
  | nil => exact if_pos (beq_self_eq_true key)
  | cons entry base ih =>
    obtain ⟨hne, hnot⟩ := List.ne_and_not_mem_of_not_mem_cons h
    rw [List.cons_append, put, if_neg fun heq => hne (eq_of_beq heq).symm, ih hnot]
    rfl

end Keyed

namespace Toml

variable {path current : List String} {key : String} {around : Entries → Entries}
  {base inner : Entries}

/-! ## Where a table stands -/

/-- A change at the end of a path in two parts is a change at the end of the second part, at the
end of the first. -/
theorem changeAt_append (isDotted : Bool) (change : Change) (path path' : List String) :
    changeAt isDotted change (path ++ path') =
      changeAt isDotted (changeAt isDotted change path') path := by
  induction path with
  | nil => rfl
  | cons k path ih =>
    funext kind entries
    rw [List.cons_append, changeAt, changeAt, ih]

/-- Whether the table at the end of a path has the entries `inner` in a document with the entries
`around inner`, whichever they are: a change there changes them and nothing else. -/
def Focus (path : List String) (around : Entries → Entries) : Prop :=
  ∀ change inner,
    changeAt false change path .header (around inner) = (change .header inner).map around

/-- The document is around its own entries. -/
theorem focus_document : Focus [] fun entries => entries := by
  intro change inner
  rw [Option.map_id']
  rfl

/-- An extensible array under a key; an empty one is not there. -/
def itemsAt (key : String) (items : List Toml) : Entries :=
  if items.isEmpty then [] else [(key, .array true items)]

theorem itemsAt_concat (key : String) (items : List Toml) (item : Toml) :
    itemsAt key (items ++ [item]) = [(key, .array true (items ++ [item]))] :=
  if_neg (by rw [List.isEmpty_iff]; exact List.concat_ne_nil item items)

/-- The last table of an array stands in the table that has the array. -/
theorem Focus.item (h : Focus path around) (hbase : key ∉ base.map Prod.fst)
    (items : List Toml) :
    Focus (path ++ [key]) fun inner =>
      around (base ++ itemsAt key (items ++ [.table .header inner])) := by
  intro change inner
  have hchange : changeAt false change [key] .header
      (base ++ itemsAt key (items ++ [.table .header inner])) =
      (change .header inner).map fun inner =>
        base ++ itemsAt key (items ++ [.table .header inner]) := by
    -- The change goes to the last table, and the array is put back in its place.
    simp only [itemsAt_concat]
    rw [changeAt, lookup_append_self hbase]
    dsimp only
    rw [List.getLast?_concat, List.dropLast_concat, Option.map_eq_bind]
    simp only [put_append_self hbase]
    rfl
  rw [changeAt_append, h, hchange, Option.map_map]
  rfl

/-- A table under a key stands in the table that has it. -/
theorem Focus.table (h : Focus path around) (hbase : key ∉ base.map Prod.fst) :
    Focus (path ++ [key]) fun inner => around (base ++ [(key, .table .header inner)]) := by
  intro change inner
  have hchange : changeAt false change [key] .header (base ++ [(key, .table .header inner)]) =
      (change .header inner).map fun inner => base ++ [(key, .table .header inner)] := by
    rw [changeAt, lookup_append_self hbase, Option.map_eq_bind]
    simp only [put_append_self hbase]
    rfl
  rw [changeAt_append, h, hchange, Option.map_map]
  rfl

/-! ## Entries -/

/-- The statement of an entry under a plain key. -/
def entryOf (entry : String × Toml) : Statement := .entry [] entry.1 entry.2

/-- An entry is added to the table at hand. -/
theorem Focus.add_entryOf (h : Focus path around) {entry : String × Toml}
    (hkey : entry.1 ∉ inner.map Prod.fst) :
    Progress.add ⟨around inner, path⟩ (entryOf entry) =
      some ⟨around (inner ++ [entry]), path⟩ := by
  have hadd : addEntry [] entry.1 entry.2 .header inner = some (inner ++ [entry]) := by
    show addValue false entry.1 entry.2 .header inner = _
    unfold addValue
    rw [lookup_eq_none_of_notMem hkey]
    rfl
  unfold entryOf Progress.add
  dsimp only
  rw [h, hadd]
  rfl

/-- Entries under different keys are added to the table at hand one by one. -/
theorem Focus.add_entries (h : Focus path around) (inner : Entries) {entries : Entries}
    (hkeys : ((inner ++ entries).map Prod.fst).Nodup) :
    (entries.map entryOf).foldlM Progress.add ⟨around inner, path⟩ =
      some ⟨around (inner ++ entries), path⟩ := by
  induction entries generalizing inner with
  | nil => rw [List.append_nil]; rfl
  | cons entry entries ih =>
    have hkey : entry.1 ∉ inner.map Prod.fst := by
      rw [List.map_append, List.nodup_append] at hkeys
      exact fun hmem => hkeys.2.2 _ hmem _ List.mem_cons_self rfl
    -- The entry that was added is one of those from whose keys the next must differ.
    have hsplit : inner ++ entry :: entries = inner ++ [entry] ++ entries :=
      List.append_cons inner entry entries
    rw [List.map_cons, List.foldlM_cons, h.add_entryOf hkey, Option.bind_eq_bind,
      Option.bind_some, hsplit]
    exact ih _ (hsplit ▸ hkeys)

/-! ## Headers -/

/-- A header opens a table under a new key. -/
theorem Focus.add_header (h : Focus path around) (hbase : key ∉ base.map Prod.fst) :
    Progress.add ⟨around base, current⟩ (.header path key) =
      some ⟨around (base ++ [(key, .table .header [])]), path ++ [key]⟩ := by
  have hopen : openTable key .header base = some (base ++ [(key, .table .header [])]) := by
    unfold openTable
    rw [lookup_eq_none_of_notMem hbase, put_of_notMem hbase]
  unfold Progress.add
  dsimp only
  rw [h, hopen]
  rfl

/-- The header of an array's table opens one more table of the array. -/
theorem Focus.add_arrayHeader (h : Focus path around) (hbase : key ∉ base.map Prod.fst)
    (items : List Toml) :
    Progress.add ⟨around (base ++ itemsAt key items), current⟩ (.arrayHeader path key) =
      some ⟨around (base ++ itemsAt key (items ++ [.table .header []])), path ++ [key]⟩ := by
  have hopen : openItem key .header (base ++ itemsAt key items) =
      some (base ++ itemsAt key (items ++ [.table .header []])) := by
    rw [itemsAt_concat]
    unfold openItem
    -- The first table of the array makes the key, each other one finds the array under it.
    rcases List.eq_nil_or_concat items with rfl | ⟨items, item, rfl⟩
    · have hnil : base ++ itemsAt key [] = base := List.append_nil base
      rw [hnil, lookup_eq_none_of_notMem hbase, put_of_notMem hbase]
      rfl
    · rw [List.concat_eq_append, itemsAt_concat, lookup_append_self hbase]
      dsimp only
      rw [put_append_self hbase]
  unfold Progress.add
  dsimp only
  rw [h, hopen]
  rfl

/-! ## Sections -/

/-- A header and its entries put a table under a new key. -/
theorem Focus.tableSection (h : Focus path around) (hbase : key ∉ base.map Prod.fst)
    {entries : Entries} (hkeys : (entries.map Prod.fst).Nodup) :
    (.header path key :: entries.map entryOf).foldlM Progress.add ⟨around base, current⟩ =
      some ⟨around (base ++ [(key, .table .header entries)]), path ++ [key]⟩ := by
  rw [List.foldlM_cons, h.add_header hbase, Option.bind_eq_bind, Option.bind_some]
  exact (h.table hbase).add_entries [] hkeys

/-- The header of an array's table and its entries put one more table into the array. -/
theorem Focus.itemSection (h : Focus path around) (hbase : key ∉ base.map Prod.fst)
    (current : List String) (items : List Toml) {entries : Entries}
    (hkeys : (entries.map Prod.fst).Nodup) :
    (.arrayHeader path key :: entries.map entryOf).foldlM Progress.add
        ⟨around (base ++ itemsAt key items), current⟩ =
      some ⟨around (base ++ itemsAt key (items ++ [.table .header entries])), path ++ [key]⟩ := by
  rw [List.foldlM_cons, h.add_arrayHeader hbase, Option.bind_eq_bind, Option.bind_some]
  exact (h.item hbase items).add_entries [] hkeys

/-- Headers of an array's tables with their entries put the tables into the array in order. -/
theorem Focus.itemSections (h : Focus path around) (hbase : key ∉ base.map Prod.fst)
    (current : List String) (items : List Toml) {tables : List Entries}
    (hkeys : ∀ entries ∈ tables, (entries.map Prod.fst).Nodup) :
    ∃ current',
      (tables.flatMap fun entries => .arrayHeader path key :: entries.map entryOf).foldlM
          Progress.add ⟨around (base ++ itemsAt key items), current⟩ =
        some ⟨around (base ++ itemsAt key (items ++ tables.map (.table .header))), current'⟩ := by
  induction tables generalizing items current with
  | nil => exact ⟨current, by rw [List.map_nil, List.append_nil]; rfl⟩
  | cons entries tables ih =>
    obtain ⟨hentries, htables⟩ := List.forall_mem_cons.1 hkeys
    obtain ⟨current', htail⟩ :=
      ih (path ++ [key]) (items ++ [.table .header entries]) htables
    refine ⟨current', ?_⟩
    rw [List.flatMap_cons, List.foldlM_append, h.itemSection hbase current items hentries,
      Option.bind_eq_bind, Option.bind_some, htail, List.map_cons, List.append_assoc,
      List.singleton_append]

end Toml

end ViewForge.Data
