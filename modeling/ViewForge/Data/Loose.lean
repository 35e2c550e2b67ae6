import ViewForge.Data.Json
import ViewForge.Data.Reader
import ViewForge.Data.Toml.Basic
import ViewForge.Text.LetterCase

/-!
# Loose values

Values gathered from sources of different formats, in which a text may stand for a number or a flag
and a number for a text. They are read as what is asked for wherever that makes sense.
-/

namespace ViewForge.Data

/-- A loose value. -/
inductive Loose where
  | nothing
  | flag (value : Bool)
  | integer (value : Int)
  | real (value : Binary64)
  | text (value : String)
  | list (items : List Loose)
  | table (entries : List (String × Loose))
  deriving Repr, Inhabited

namespace Loose

/-- The entries of a table. -/
abbrev Entries := List (String × Loose)

/-! ## From other formats -/

/-- The value of a number of JSON: an integer if it is written as one and has 64 bits. -/
def ofNumber (n : JsonNumber) : Loose :=
  let value : Int := if n.negative then -n.wholeValue else n.wholeValue
  if n.isInteger && Text.isInt64 value && !(n.negative && value = 0) then .integer value
  else .real n.real

mutual

/-- The value of a JSON value whose strings are formed. -/
def ofJson : Json → Loose
  | .null => .nothing
  | .bool b => .flag b
  | .number n => ofNumber n
  | .string s => .text (s.getD "")
  | .array items => .list (ofJsons items)
  | .object members => .table (ofMembers [] members)

/-- The values of JSON values. -/
def ofJsons : List Json → List Loose
  | [] => []
  | j :: js => ofJson j :: ofJsons js

/-- Entries with those of an object; the last of several members under a key counts. -/
def ofMembers (done : Entries) : List (Option String × Json) → Entries
  | [] => done
  | (key, j) :: members => ofMembers (put (key.getD "") (ofJson j) done) members

end

mutual

/-- The value of a TOML value. -/
def ofToml : Toml → Loose
  | .text s => .text s
  | .integer n => .integer n
  | .real x => .real x
  | .flag b => .flag b
  | .moment spelling => .text spelling
  | .array _ items => .list (ofTomls items)
  | .table _ entries => .table (ofEntries entries)

/-- The values of TOML values. -/
def ofTomls : List Toml → List Loose
  | [] => []
  | t :: ts => ofToml t :: ofTomls ts

/-- The entries of a TOML table. -/
def ofEntries : List (String × Toml) → Entries
  | [] => []
  | (key, t) :: entries => (key, ofToml t) :: ofEntries entries

end

/-- What a text denotes: a truth value in any case, an integer of 64 bits, a number, or itself. -/
def guess (s : String) : Loose :=
  let word := Text.lowercase s
  if word == "true" then .flag true
  else if word == "false" then .flag false
  else
    match (Text.integer? s.toList).filter Text.isInt64 with
    | some n => .integer n
    | none =>
      match Binary64.parse? s.toList with
      | some x => .real x
      | none => .text s

/-! ## Reading -/

/-- The words for true. -/
def trueWords : List String := ["true", "on", "yes"]

/-- The words for false. -/
def falseWords : List String := ["false", "off", "no"]

/-- The text that a value is or that spells it. -/
def text? : Loose → Option String
  | text s => some s
  | flag b => some (if b then "true" else "false")
  | integer n => some (toString n)
  | real x => some x.text
  | _ => none

/-- The natural number of a text: one of a truth value's words, or decimal digits. -/
def naturalOf? (s : String) : Option Nat :=
  let word := Text.lowercase s
  if trueWords.contains word then some 1
  else if falseWords.contains word then some 0
  else Text.word64? s.toList

/-- The natural number that a value is, is near to, or spells. -/
def natural? : Loose → Option Nat
  | integer n => if 0 ≤ n then some n.toNat else none
  | text s => naturalOf? s
  | flag b => some (if b then 1 else 0)
  | real x => some x.toWord
  | _ => none

/-- The truth value that a value is or stands for; numbers other than zero are true. -/
def flag? : Loose → Option Bool
  | flag b => some b
  | integer n => some (n != 0)
  | real x => some (!x.isZero)
  | text s =>
    let word := Text.lowercase s
    if word == "1" || trueWords.contains word then some true
    else if word == "0" || falseWords.contains word then some false
    else none
  | _ => none

/-- The items of a list. -/
def list? : Loose → Option (List Loose)
  | list items => some items
  | _ => none

/-- The fields of a record, which may be a list of the values of its first fields. -/
def fields? (names : List String) : Loose → Option (String → Option Loose)
  | table entries => some fun name => entries.lookup name
  | list items => some (Reader.inOrder names items)
  | _ => none

/-- How loose values are read. -/
def reader : Reader Loose where
  text? := text?
  natural? := natural?
  flag? := flag?
  list? := list?
  fields? := fields?

end Loose

end ViewForge.Data
