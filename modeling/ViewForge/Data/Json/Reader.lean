import ViewForge.Data.Json
import ViewForge.Data.Reader

/-!
# Reading records from JSON

JSON is read strictly: a number is not a text, and a record names no field twice. A record may also
be written as an array of the values of its first fields.
-/

namespace ViewForge.Data.Json

/-- The text that a value is. -/
def text? : Json → Option String
  | string s => s
  | _ => none

/-- The natural number that a value is, written without point and exponent. -/
def natural? : Json → Option Nat
  | number n => n.natural?
  | _ => none

/-- The truth value that a value is. -/
def flag? : Json → Option Bool
  | bool b => some b
  | _ => none

/-- The items of an array. -/
def list? : Json → Option (List Json)
  | array items => some items
  | _ => none

/-- Whether a name is used at most once as a key. -/
def isUnique (members : List (Option String × Json)) (name : String) : Bool :=
  ((members.filter fun (key, _) => key == some name).length ≤ 1 : Bool)

/-- The fields of a record. All keys must be texts, and no field may be repeated; other members are
passed over. -/
def fields? (names : List String) : Json → Option (String → Option Json)
  | object members =>
    if members.all (fun (key, _) => key.isSome) && names.all (isUnique members) then
      some fun name => members.lookup (some name)
    else none
  | array items => if items.length ≤ names.length then some (Reader.inOrder names items) else none
  | _ => none

/-- How JSON is read. -/
def reader : Reader Json where
  text? := text?
  natural? := natural?
  flag? := flag?
  list? := list?
  fields? := fields?

/-- The value of a field that may be null. -/
def orNull {β : Type} (read : Json → Option β) : Json → Option (Option β)
  | null => some none
  | value => (read value).map some

/-- The word of a choice without content: a text, or an object with the word as its only key and
null as its value. -/
def word? : Json → Option String
  | string s => s
  | object [(key, null)] => key
  | _ => none

end ViewForge.Data.Json
