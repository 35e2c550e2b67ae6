/-!
# Values under keys

Lists of values under keys, in the order in which the keys were first used.
-/

namespace ViewForge.Data

variable {α : Type}

/-- Entries with a value under a key, in the place of the value that was there or at the end. -/
def put (key : String) (value : α) : List (String × α) → List (String × α)
  | [] => [(key, value)]
  | (k, v) :: rest => if k == key then (key, value) :: rest else (k, v) :: put key value rest

/-- The value under a key is the one that was put there last. -/
theorem lookup_put_self (key : String) (value : α) (entries : List (String × α)) :
    (put key value entries).lookup key = some value := by
  induction entries with
  | nil => exact List.lookup_cons_self
  | cons entry rest ih =>
    rw [put]
    split
    case isTrue => exact List.lookup_cons_self
    case isFalse hne =>
      have hne : (key == entry.1) = false := by rwa [BEq.comm, Bool.eq_false_iff]
      rw [List.lookup_cons, hne]
      exact ih

/-- The values under other keys stay as they are. -/
theorem lookup_put_of_ne {key other : String} (h : other ≠ key) (value : α)
    (entries : List (String × α)) :
    (put key value entries).lookup other = entries.lookup other := by
  have hother : (other == key) = false := beq_eq_false_iff_ne.2 h
  induction entries with
  | nil => rw [put, List.lookup_cons, hother]
  | cons entry rest ih =>
    rw [put]
    split
    case isTrue heq =>
      have hentry : (other == entry.1) = false := by rwa [beq_iff_eq.1 heq]
      rw [List.lookup_cons, List.lookup_cons, hother, hentry]
    case isFalse =>
      rw [List.lookup_cons, List.lookup_cons, ih]

end ViewForge.Data
