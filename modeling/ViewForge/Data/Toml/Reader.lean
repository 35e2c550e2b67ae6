import ViewForge.Data.Reader
import ViewForge.Data.Toml.Document

/-!
# Reading records from TOML

A record may also be written as an array of the values of its first fields; further items are
passed over. A date or time is a record without fields.
-/

namespace ViewForge.Data.Toml

/-- The text that a value is. -/
def text? : Toml → Option String
  | text s => some s
  | _ => none

/-- The natural number that a value is. -/
def natural? : Toml → Option Nat
  | integer n => if 0 ≤ n then some n.toNat else none
  | _ => none

/-- The truth value that a value is. -/
def flag? : Toml → Option Bool
  | flag b => some b
  | _ => none

/-- The items of an array. -/
def list? : Toml → Option (List Toml)
  | array _ items => some items
  | _ => none

/-- The fields of a record. -/
def fields? (names : List String) : Toml → Option (String → Option Toml)
  | table _ entries => some fun name => entries.lookup name
  | array _ items => some (Reader.inOrder names items)
  | moment _ => some fun _ => none
  | _ => none

/-- How TOML is read. -/
def reader : Reader Toml where
  text? := text?
  natural? := natural?
  flag? := flag?
  list? := list?
  fields? := fields?

end ViewForge.Data.Toml
