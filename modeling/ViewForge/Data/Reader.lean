/-!
# Reading records

A record has one reading for all data formats. What the formats differ in is how strictly they say
that a value is a text, a number, a flag, a list or a record, and that is what a reader holds.
-/

namespace ViewForge.Data

/-- How the values of a format are read. -/
structure Reader (α : Type) where
  /-- The text that a value is. -/
  text? : α → Option String
  /-- The natural number that a value is. -/
  natural? : α → Option Nat
  /-- The truth value that a value is. -/
  flag? : α → Option Bool
  /-- The items of a value that is a list. -/
  list? : α → Option (List α)
  /-- The values of the fields of a record, whose names are given in their order. -/
  fields? : List String → α → Option (String → Option α)

namespace Reader

variable {α β : Type}

/-- The fields of a record that is written as a list of their values in order. -/
def inOrder (names : List String) (values : List α) (name : String) : Option α :=
  (names.zip values).lookup name

/-- The value of a field that must be there. -/
def required (read : α → Option β) (field : Option α) : Option β := field.bind read

/-- The value of a field, or a default if the field is not there. -/
def orElse (default : β) (read : α → Option β) : Option α → Option β
  | none => some default
  | some value => read value

/-- The list that a value is, with each of its items read. -/
def items? (r : Reader α) (read : α → Option β) (value : α) : Option (List β) :=
  (r.list? value).bind (·.mapM read)

end Reader

end ViewForge.Data
