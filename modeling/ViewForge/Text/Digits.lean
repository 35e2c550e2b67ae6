/-!
# Decimal integers

Digits, and the integers of 64 bits that they spell.
-/

namespace ViewForge.Text

/-- The number of words of 64 bits. -/
def wordCount : Nat := Nat.pow 2 64

/-- The value of decimal digits. -/
def digitsValue (ds : List Char) : Nat := ds.foldl (fun n c => 10 * n + (c.toNat - 48)) 0

/-- The value of decimal digits, of which there must be some. -/
def digits? (ds : List Char) : Option Nat :=
  if ds.isEmpty || !ds.all Char.isDigit then none else some (digitsValue ds)

/-- The natural number below `2 ^ 64` that digits spell, perhaps behind a plus sign. -/
def word64? (cs : List Char) : Option Nat :=
  let digits := match cs with
    | '+' :: ds => ds
    | ds => ds
  (digits? digits).filter (· < wordCount)

/-- The integer that digits spell, perhaps behind a sign. -/
def integer? (cs : List Char) : Option Int :=
  match cs with
  | '+' :: ds => (digits? ds).map (Int.ofNat ·)
  | '-' :: ds => (digits? ds).map (- Int.ofNat ·)
  | ds => (digits? ds).map (Int.ofNat ·)

/-- Whether an integer has 64 bits. -/
def isInt64 (n : Int) : Bool := -(wordCount : Int) ≤ 2 * n && 2 * n < (wordCount : Int)

end ViewForge.Text
