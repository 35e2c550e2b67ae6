import ViewForge.Data.Loose

/-!
# Addresses

An address leads through keys and indices to a place in a tree of loose values. A table that is put
in a place is merged with the table there; keys are put in lower case.
-/

namespace ViewForge.Data

/-- A step into a value. -/
inductive Step where
  /-- To the value under a key. -/
  | key (name : String)
  /-- To the item at an index, which counts from the end if it is negative. -/
  | index (n : Int)
  deriving Repr, DecidableEq

/-- A way to a place: the steps to what holds the place, and the last step. -/
structure Address where
  /-- The steps before the last. -/
  lead : List Step
  /-- The last step. -/
  last : Step
  deriving Repr, DecidableEq

namespace Address

/-! ## Reading -/

/-- A character of a key in an address. -/
def isKeyLetter (c : Char) : Bool := c.isAlphanum || c == ' ' || c == '_' || c == '-'

/-- The integer in brackets of which the first is left out, and the text after them. -/
def readIndex? (cs : List Char) : Option (Int × List Char) := do
  let inner := cs.takeWhile (· != ']')
  let digits := ((inner.dropWhile (· == ' ')).reverse.dropWhile (· == ' ')).reverse
  if digits.head? == some '+' then none
  let n ← (Text.integer? digits).filter Text.isInt64
  match cs.dropWhile (· != ']') with
  | _ :: rest => some (n, rest)
  | [] => none

/-- The steps after the first that a text spells. The fuel is at least the length of the text. -/
def readSteps? : Nat → List Char → Option (List Step)
  | _, [] => some []
  | fuel + 1, '.' :: cs =>
    let name := cs.takeWhile isKeyLetter
    if name.isEmpty then none
    else (readSteps? fuel (cs.dropWhile isKeyLetter)).map (.key (String.ofList name) :: ·)
  | fuel + 1, '[' :: cs => do
    let (n, rest) ← readIndex? cs
    (readSteps? fuel rest).map (.index n :: ·)
  | _, _ => none

/-- The address that a text spells. A text that spells none is itself a key. -/
def parse (s : String) : Address :=
  let cs := s.toList
  let name := cs.takeWhile isKeyLetter
  let rest := cs.dropWhile isKeyLetter
  match (if name.isEmpty then none else readSteps? rest.length rest) with
  | some steps =>
    let all := .key (String.ofList name) :: steps
    ⟨all.dropLast, all.getLastD (.key s)⟩
  | none => ⟨[], .key s⟩

/-! ## Changing values -/

/-- The entries of a table; any other value gives way to an empty table. -/
def entriesOf : Loose → Loose.Entries
  | .table entries => entries
  | _ => []

/-- The items of a list; any other value gives way to an empty list. -/
def itemsOf : Loose → List Loose
  | .list items => items
  | _ => []

mutual

/-- Entries with a value put under a key in lower case; a table is merged with the table there. -/
def putMerged (key : String) : Loose → Loose.Entries → Loose.Entries
  | .table incoming, entries =>
    let key := Text.lowercase key
    put key (merge incoming ((entries.lookup key).getD (.table []))) entries
  | value, entries => put (Text.lowercase key) value entries

/-- A value with entries merged into it. -/
def merge : List (String × Loose) → Loose → Loose
  | [], value => value
  | (key, v) :: incoming, value => merge incoming (.table (putMerged key v (entriesOf value)))

end

/-- A list with an item changed, behind as many empty items as are missing. -/
def changeItem (n : Int) (change : Loose → Loose) (items : List Loose) : List Loose :=
  let i := if n < 0 then items.length - n.natAbs else n.toNat
  let items := items ++ List.replicate (i + 1 - items.length) .nothing
  items.modify i change

/-- A value in which the place at the end of steps is changed. -/
def changeAt (change : Loose → Loose) : List Step → Loose → Loose
  | [], value => change value
  | .key name :: steps, value =>
    let entries := entriesOf value
    .table (put name (changeAt change steps ((entries.lookup name).getD .nothing)) entries)
  | .index n :: steps, value => .list (changeItem n (changeAt change steps) (itemsOf value))

/-- A value with another put in the place that an address leads to. -/
def set (a : Address) (value : Loose) (root : Loose) : Loose :=
  changeAt (fun holder =>
    match a.last with
    | .key name => .table (putMerged name value (entriesOf holder))
    | .index n => .list (changeItem n (fun _ => value) (itemsOf holder))) a.lead root

end Address

end ViewForge.Data
