import ViewForge.Data.Binary64
import ViewForge.Data.Keyed

/-!
# TOML documents

A document is a list of statements, which build a tree of tables: an entry adds a value to the table
at hand, a header turns to another table. A table is defined once. Which statements may still reach
into it depends on how it came about.
-/

namespace ViewForge.Data

/-- How a table came about. -/
inductive TableKind where
  /-- As a value, written at once. -/
  | closed
  /-- By a header of its own. -/
  | header
  /-- By the header of a table inside it. -/
  | implicit
  /-- By the dotted key of an entry inside it. -/
  | dotted
  deriving Repr, DecidableEq

/-- A value of TOML. Dates and times are kept in their normal spelling. An array is extensible if
headers add its tables one by one. -/
inductive Toml where
  | text (value : String)
  | integer (value : Int)
  | real (value : Binary64)
  | flag (value : Bool)
  | moment (spelling : String)
  | array (extensible : Bool) (items : List Toml)
  | table (kind : TableKind) (entries : List (String × Toml))
  deriving Repr, Inhabited

namespace Toml

/-- The entries of a table. -/
abbrev Entries := List (String × Toml)

/-- A statement of a document. Its key stands in a table at the end of a path. -/
inductive Statement where
  /-- A value under a key; the path is that of a dotted key. -/
  | entry (path : List String) (key : String) (value : Toml)
  /-- The header of a table. -/
  | header (path : List String) (key : String)
  /-- The header of one more table of an array. -/
  | arrayHeader (path : List String) (key : String)
  deriving Repr

/-- What is done to the table at the end of a path. -/
abbrev Change := TableKind → Entries → Option Entries

/-- Changes the table at the end of a path, which goes through the last table of an extensible
array. Missing tables are made. A dotted path makes dotted tables and does not pass tables with
headers of their own; no path passes tables that are values. -/
def changeAt (isDotted : Bool) (change : Change) : List String → Change
  | [], kind, entries => change kind entries
  | key :: path, _, entries =>
    match entries.lookup key with
    | none => do
      let kind := if isDotted then .dotted else .implicit
      let inner ← changeAt isDotted change path kind []
      some (put key (.table kind inner) entries)
    | some (.table kind inner) => do
      if kind = .closed || (isDotted && kind = .header) then none
      let inner ← changeAt isDotted change path kind inner
      some (put key (.table kind inner) entries)
    | some (.array true items) =>
      match items.getLast? with
      | some (.table kind inner) => do
        let inner ← changeAt isDotted change path kind inner
        some (put key (.array true (items.dropLast ++ [.table kind inner])) entries)
      | _ => none
    | some _ => none

/-- Adds a value under a new key. A dotted table takes entries from dotted keys only, any other from
plain keys only. -/
def addValue (isDotted : Bool) (key : String) (value : Toml) : Change := fun kind entries =>
  if (kind == .dotted) == isDotted && (entries.lookup key).isNone then
    some (entries ++ [(key, value)])
  else none

/-- Adds an entry, whose key may be dotted. -/
def addEntry (path : List String) (key : String) (value : Toml) : Change :=
  changeAt true (addValue (!path.isEmpty) key value) path

/-- Opens a table under a new key, or one that only headers of tables inside it have made. -/
def openTable (key : String) : Change := fun _ entries =>
  match entries.lookup key with
  | none => some (put key (.table .header []) entries)
  | some (.table .implicit inner) => some (put key (.table .header inner) entries)
  | some _ => none

/-- Opens one more table of an extensible array, which is made if the key is new. -/
def openItem (key : String) : Change := fun _ entries =>
  match entries.lookup key with
  | none => some (put key (.array true [.table .header []]) entries)
  | some (.array true items) => some (put key (.array true (items ++ [.table .header []])) entries)
  | some _ => none

/-- A document as far as it is read. -/
structure Progress where
  /-- The entries of the document. -/
  entries : Entries := []
  /-- The path of the table at hand. -/
  current : List String := []

/-- A document with one more statement. -/
def Progress.add (p : Progress) : Statement → Option Progress
  | .entry path key value =>
    (changeAt false (addEntry path key value) p.current .header p.entries).map fun entries =>
      { p with entries }
  | .header path key =>
    (changeAt false (openTable key) path .header p.entries).map (⟨·, path ++ [key]⟩)
  | .arrayHeader path key =>
    (changeAt false (openItem key) path .header p.entries).map (⟨·, path ++ [key]⟩)

/-- The table that statements build. -/
def ofStatements? (statements : List Statement) : Option Toml :=
  (statements.foldlM Progress.add {}).map fun p => .table .header p.entries

/-- The table that is written as a value with entries in braces. -/
def ofEntries? (entries : List (List String × String × Toml)) : Option Toml :=
  (entries.foldlM (fun done (path, key, value) => addEntry path key value .header done) []).map
    (.table .closed)

end Toml

end ViewForge.Data
