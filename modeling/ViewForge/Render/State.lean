/-!
# The state of a call

One call of generation counts rows, hands out element names, remembers the name given last in the
current group and knows which types it is inside of.
-/

namespace ViewForge.Render

/-- What a call of generation keeps from one marker to the next. -/
structure State where
  /-- The value that the counter gives next, which is also the number of values given. -/
  next : Nat := 0
  /-- The value that the counter gave last. -/
  last : Option Nat := none
  /-- The element names handed out, latest first. -/
  claimed : List String := []
  /-- The element name given before in the current group. -/
  previous : Option String := none
  /-- The types that are being expanded, outermost last. -/
  expanding : List String := []
  deriving Repr, DecidableEq

/-- The least number from `k` on whose digits after a base make a name that is not claimed. The fuel
is at least the number of claimed names. -/
def freeSuffix (claimed : List String) (base : String) : Nat → Nat → Nat
  | 0, k => k
  | fuel + 1, k =>
    if claimed.contains (base ++ toString k) then freeSuffix claimed base fuel (k + 1) else k

namespace State

/-- The value of the counter, which then advances. -/
def count (s : State) : Nat × State := (s.next, { s with next := s.next + 1, last := some s.next })

/-- The value that the counter gave last, zero at first. -/
def repeated (s : State) : Nat := s.last.getD 0

/-- A name that was not handed out before: the base, or the base with the least number from one on
that makes it new. -/
def claim (s : State) (base : String) : String × State :=
  let name :=
    if s.claimed.contains base then
      base ++ toString (freeSuffix s.claimed base s.claimed.length 1)
    else base
  (name, { s with claimed := name :: s.claimed })

/-- The state in which a nested group begins: no name was given in it. -/
def beginGroup (s : State) : State := { s with previous := none }

/-- The state after a nested group: the name from before the group counts again. -/
def endGroup (s : State) (before : Option String) : State := { s with previous := before }

/-- The state inside a type, unless the type is already being expanded or too many are. -/
def enter? (s : State) (name : String) (maxDepth : Nat) : Option State :=
  if s.expanding.length ≥ maxDepth || s.expanding.contains name then none
  else some { s with expanding := name :: s.expanding }

/-- The state outside the innermost type. -/
def leave (s : State) : State := { s with expanding := s.expanding.tail }

end State

end ViewForge.Render
