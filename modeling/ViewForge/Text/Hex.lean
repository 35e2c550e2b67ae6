/-!
# Hexadecimal digits
-/

namespace ViewForge.Text

/-- The value of a hexadecimal digit. -/
def hexValue? (c : Char) : Option Nat :=
  if c.isDigit then some (c.toNat - '0'.toNat)
  else if 'a' ≤ c && c ≤ 'f' then some (c.toNat - 'a'.toNat + 10)
  else if 'A' ≤ c && c ≤ 'F' then some (c.toNat - 'A'.toNat + 10)
  else none

/-- The value of digits in a base up to sixteen that follow others of a given value. -/
def digitsValue? (base : Nat) : Nat → List Char → Option Nat
  | n, [] => some n
  | n, c :: cs => do
    let d ← hexValue? c
    if d < base then digitsValue? base (n * base + d) cs else none

/-- Whether a number is the code of a character. -/
def isCode (n : Nat) : Bool := n < 0xd800 || (0xe000 ≤ n && n < 0x110000)

/-- The two lower-case hexadecimal digits of a number below 256. -/
def hex2 (n : Nat) : List Char := [Nat.digitChar (n / 16), Nat.digitChar (n % 16)]

end ViewForge.Text
