import ViewForge.Text.Digits

/-!
# Binary floating point

Double-precision numbers as a sign, a mantissa and a power of two. A decimal is read as the nearest
of them, ties to the even mantissa, and written with the fewest digits that read back, without an
exponent. All arithmetic is exact.
-/

namespace ViewForge.Data

/-- A double-precision number. A finite one is `mantissa * 2 ^ exponent`. -/
inductive Binary64 where
  | finite (negative : Bool) (mantissa : Nat) (exponent : Int)
  | infinite (negative : Bool)
  | nan
  deriving Repr, DecidableEq

namespace Binary64

/-- The quotient rounded to the nearest integer, a tie to the even one. -/
def roundEven (num den : Nat) : Nat :=
  let q := num / den
  let r := num % den
  if 2 * r < den then q else if 2 * r > den then q + 1 else if q % 2 = 0 then q else q + 1

/-- A positive fraction times a power of two, as a fraction. -/
def scaleTwo (num den : Nat) (e : Int) : Nat × Nat :=
  if e ≥ 0 then (num * Nat.pow 2 e.toNat, den) else (num, den * Nat.pow 2 (-e).toNat)

/-- A positive fraction times a power of ten, as a fraction. -/
def scaleTen (num den : Nat) (e : Int) : Nat × Nat :=
  if e ≥ 0 then (num * Nat.pow 10 e.toNat, den) else (num, den * Nat.pow 10 (-e).toNat)

/-- The least mantissa of 53 bits. -/
def leastMantissa : Nat := Nat.pow 2 52

/-- The exponent at which the mantissa of a positive fraction has 53 bits, or the least exponent. -/
def exponentOf (num den : Nat) : Int :=
  let guess : Int := (Nat.log2 num : Int) - (Nat.log2 den : Int) - 52
  let (n, d) := scaleTwo num den (-guess)
  let e :=
    if n < d * leastMantissa then guess - 1
    else if n ≥ 2 * d * leastMantissa then guess + 1
    else guess
  max e (-1074)

/-- The number nearest to a positive fraction. -/
def ofFraction (negative : Bool) (num den : Nat) : Binary64 :=
  let e := exponentOf num den
  let (n, d) := scaleTwo num den (-e)
  let m := roundEven n d
  let (m, e) := if m = 2 * leastMantissa then (leastMantissa, e + 1) else (m, e)
  if m = 0 then .finite negative 0 0
  else if e > 971 then .infinite negative
  else .finite negative m e

/-- The number nearest to `digits * 10 ^ exponent`. -/
def ofDecimal (negative : Bool) (digits : Nat) (exponent : Int) : Binary64 :=
  if digits = 0 then .finite negative 0 0
  else
    let magnitude : Int := (Nat.toDigits 10 digits).length + exponent
    if magnitude > 400 then .infinite negative
    else if magnitude < -400 then .finite negative 0 0
    else
      let (num, den) := scaleTen digits 1 exponent
      ofFraction negative num den

/-! ## Writing -/

/-- The number of digits before the point of a positive fraction; not positive below one tenth. The
fuel bounds the search from a guess. -/
def pointOf (num den : Nat) : Nat → Int → Int
  | 0, k => k
  | fuel + 1, k =>
    let (n, d) := scaleTen num den (-k)
    if n ≥ d then pointOf num den fuel (k + 1)
    else if n * 10 < d then pointOf num den fuel (k - 1)
    else k

/-- Of the two neighbours with so many digits, the nearer that reads back as a number, or the other
one if only that reads back: its digits and the power of ten that they count. -/
def neighbour? (x : Binary64) (num den : Nat) (point : Int) (count : Nat) : Option (Nat × Int) :=
  let e : Int := point - count
  let (n, d) := scaleTen num den (-e)
  let low := n / d
  let near := roundEven n d
  let far := if near = low then low + 1 else low
  if ofDecimal false near e = x then some (near, e)
  else if ofDecimal false far e = x then some (far, e)
  else none

/-- The fewest digits that read back as a positive number, and the power of ten that they count. -/
def shortest (mantissa : Nat) (exponent : Int) : Nat × Int :=
  let (num, den) := scaleTwo mantissa 1 exponent
  let point := pointOf num den 700 0
  let x := Binary64.finite false mantissa exponent
  (((List.range 17).findSome? fun i => neighbour? x num den point (i + 1)).getD (mantissa, 0))

/-- Digits without the zeros at their end, and the power of ten that they count. The fuel is at
least the number of digits. -/
def dropZeros : Nat → Nat → Int → Nat × Int
  | 0, digits, e => (digits, e)
  | fuel + 1, digits, e =>
    if digits % 10 = 0 then dropZeros fuel (digits / 10) (e + 1) else (digits, e)

/-- A number in positional notation with the fewest digits that read back. -/
def text : Binary64 → String
  | .nan => "NaN"
  | .infinite negative => if negative then "-inf" else "inf"
  | .finite negative mantissa exponent =>
    let sign := if negative then "-" else ""
    if mantissa = 0 then sign ++ "0"
    else
      let (digits, e) := shortest mantissa exponent
      let (digits, e) := dropZeros 20 digits e
      let ds := Nat.toDigits 10 digits
      let point : Int := ds.length + e
      let zeros (n : Int) : List Char := List.replicate n.toNat '0'
      sign ++ String.ofList (
        if e ≥ 0 then ds ++ zeros e
        else if point ≤ 0 then ['0', '.'] ++ zeros (-point) ++ ds
        else ds.take point.toNat ++ ['.'] ++ ds.drop point.toNat)

/-! ## Reading -/

/-- The number that unsigned decimal text denotes: digits with or without a point, and perhaps an
exponent. -/
def parseUnsigned? (negative : Bool) (cs : List Char) : Option Binary64 :=
  let whole := cs.takeWhile Char.isDigit
  let rest := cs.dropWhile Char.isDigit
  let (part, rest) := match rest with
    | '.' :: rest => (rest.takeWhile Char.isDigit, rest.dropWhile Char.isDigit)
    | rest => ([], rest)
  if whole.isEmpty && part.isEmpty then none
  else
    let exponent? := match rest with
      | [] => some 0
      | c :: rest => if c = 'e' || c = 'E' then Text.integer? rest else none
    exponent?.map fun e => ofDecimal negative (Text.digitsValue (whole ++ part)) (e - part.length)

/-- The number that a text denotes: decimal text, `inf`, `infinity` or `nan` in any case, perhaps
with a sign. -/
def parse? (cs : List Char) : Option Binary64 :=
  let (negative, cs) := match cs with
    | '+' :: cs => (false, cs)
    | '-' :: cs => (true, cs)
    | cs => (false, cs)
  let word := String.ofList (cs.map Char.toLower)
  if word == "inf" || word == "infinity" then some (.infinite negative)
  else if word == "nan" then some .nan
  else parseUnsigned? negative cs

/-- The nearest natural number below `2 ^ 64`, a tie away from zero; numbers out of range go to the
nearest end and what is no number to zero. -/
def toWord : Binary64 → Nat
  | .nan => 0
  | .infinite negative => if negative then 0 else Text.wordCount - 1
  | .finite negative mantissa exponent =>
    let (num, den) := scaleTwo mantissa 1 exponent
    if negative then 0 else min ((2 * num + den) / (2 * den)) (Text.wordCount - 1)

/-- Whether a number is zero. -/
def isZero : Binary64 → Bool
  | .finite _ 0 _ => true
  | _ => false

end Binary64

end ViewForge.Data
