import ViewForge.Data.Binary64
import ViewForge.Data.Toml.Text

/-!
# Numbers and times of TOML

Integers of 64 bits in four bases, binary floating-point numbers, and dates and times in one
normal spelling. Underscores may stand between digits.
-/

namespace ViewForge.Data.Toml

/-- The digits at the start of a text, without the underscores between them, and the text after
them. -/
def readDigits (isDigit : Char → Bool) : List Char → List Char × List Char
  | [] => ([], [])
  | '_' :: c :: cs =>
    if isDigit c then
      let (digits, rest) := readDigits isDigit cs
      (c :: digits, rest)
    else ([], '_' :: c :: cs)
  | c :: cs =>
    if isDigit c then
      let (digits, rest) := readDigits isDigit cs
      (c :: digits, rest)
    else ([], c :: cs)

/-- Digits as `readDigits` reads them, of which there is at least one and no underscore in front. -/
def readDigits? (isDigit : Char → Bool) : List Char → Option (List Char × List Char)
  | c :: cs => if isDigit c then some (readDigits isDigit (c :: cs)) else none
  | [] => none

/-- The whole part of a number: a zero, or digits that begin with no zero. -/
def readWhole? : List Char → Option (List Char × List Char)
  | '0' :: cs => some (['0'], cs)
  | cs => readDigits? Char.isDigit cs

/-- A number of TOML. -/
inductive Number where
  | integer (n : Int)
  | real (x : Binary64)
  deriving Repr, DecidableEq

/-- An integer in a base, whose mark is left out, and the text after it. -/
def readBased? (base : Nat) (cs : List Char) : Option (Number × List Char) := do
  let (digits, rest) ← readDigits? (fun c => (Text.hexValue? c).any (· < base)) cs
  let n ← Text.digitsValue? base 0 digits
  if Text.isInt64 n then some (.integer n, rest) else none

/-- The fraction behind a whole part, if there is one. -/
def readFraction? : List Char → Option (List Char × List Char)
  | '.' :: cs => readDigits? Char.isDigit cs
  | cs => some ([], cs)

/-- The exponent behind a mantissa, if there is one. -/
def readExponent? : List Char → Option (Int × List Char)
  | c :: cs =>
    if c = 'e' || c = 'E' then
      let (sign, cs) : Int × List Char := match cs with
        | '+' :: cs => (1, cs)
        | '-' :: cs => (-1, cs)
        | cs => (1, cs)
      (readDigits? Char.isDigit cs).map fun (digits, rest) =>
        (sign * (Text.digitsValue digits : Int), rest)
    else some (0, c :: cs)
  | [] => some (0, [])

/-- A decimal number behind its sign, and the text after it. -/
def readDecimal? (negative : Bool) (cs : List Char) : Option (Number × List Char) := do
  let (whole, rest) ← readWhole? cs
  match rest with
  | c :: _ =>
    if c = '.' || c = 'e' || c = 'E' then
      let (fraction, rest) ← readFraction? rest
      let (exponent, rest) ← readExponent? rest
      let x := Binary64.ofDecimal negative (Text.digitsValue (whole ++ fraction))
        (exponent - fraction.length)
      if x = .infinite false then none else some (.real x, rest)
    else integer whole rest
  | [] => integer whole rest
where
  /-- The integer of decimal digits. -/
  integer (digits rest : List Char) : Option (Number × List Char) :=
    let n : Int := Text.digitsValue digits
    let n := if negative then -n else n
    if Text.isInt64 n then some (.integer n, rest) else none

/-- A number behind its sign: infinite, no number, or decimal. -/
def readSigned? (negative : Bool) : List Char → Option (Number × List Char)
  | 'i' :: 'n' :: 'f' :: cs => some (.real (.infinite negative), cs)
  | 'n' :: 'a' :: 'n' :: cs => some (.real .nan, cs)
  | cs => readDecimal? negative cs

/-- The number at the start of a text, and the text after it. -/
def readNumber? : List Char → Option (Number × List Char)
  | '0' :: 'x' :: cs => readBased? 16 cs
  | '0' :: 'o' :: cs => readBased? 8 cs
  | '0' :: 'b' :: cs => readBased? 2 cs
  | '+' :: cs => readSigned? false cs
  | '-' :: cs => readSigned? true cs
  | cs => readSigned? false cs

/-! ## Dates and times -/

/-- The number of exactly so many decimal digits at the start of a text, and the text after it. -/
def readFixed? (count : Nat) (cs : List Char) : Option (Nat × List Char) :=
  let digits := cs.take count
  if digits.length = count && digits.all Char.isDigit then
    some (Text.digitsValue digits, cs.drop count)
  else none

/-- A number with at least so many digits. -/
def padded (width n : Nat) : List Char :=
  let digits := Nat.toDigits 10 n
  List.replicate (width - digits.length) '0' ++ digits

/-- The number of days of a month. -/
def daysOf (year month : Nat) : Nat :=
  if month = 2 then
    if year % 4 = 0 && (year % 100 != 0 || year % 400 = 0) then 29 else 28
  else if month = 4 || month = 6 || month = 9 || month = 11 then 30
  else 31

/-- What follows a character at the start of a text. -/
def after? (x : Char) : List Char → Option (List Char)
  | c :: cs => if c = x then some cs else none
  | [] => none

/-- A date in its normal spelling, and the text after it. -/
def readDate? (cs : List Char) : Option (List Char × List Char) := do
  let (year, cs) ← readFixed? 4 cs
  let (month, cs) ← readFixed? 2 (← after? '-' cs)
  let (day, cs) ← readFixed? 2 (← after? '-' cs)
  if 1 ≤ month && month ≤ 12 && 1 ≤ day && day ≤ daysOf year month then
    some (padded 4 year ++ '-' :: padded 2 month ++ '-' :: padded 2 day, cs)
  else none

/-- The fraction of a second: nine digits count, and zeros at the end do not show. -/
def readSecondFraction : List Char → List Char × List Char
  | '.' :: c :: cs =>
    if c.isDigit then
      let digits := (c :: cs).takeWhile Char.isDigit
      let shown := ((digits.take 9).reverse.dropWhile (· == '0')).reverse
      (if shown.isEmpty then [] else '.' :: shown, (c :: cs).dropWhile Char.isDigit)
    else ([], '.' :: c :: cs)
  | cs => ([], cs)

/-- A time of day in its normal spelling, and the text after it. -/
def readTime? (cs : List Char) : Option (List Char × List Char) := do
  let (hour, cs) ← readFixed? 2 cs
  let (minute, cs) ← readFixed? 2 (← after? ':' cs)
  let (second, cs) ← readFixed? 2 (← after? ':' cs)
  let (fraction, cs) := readSecondFraction cs
  if hour ≤ 23 && minute ≤ 59 && second ≤ 60 then
    some (padded 2 hour ++ ':' :: padded 2 minute ++ ':' :: padded 2 second ++ fraction, cs)
  else none

/-- An offset from universal time in its normal spelling, and the text after it. -/
def readOffset? : List Char → Option (List Char × List Char)
  | [] => none
  | c :: cs =>
    if c = 'Z' || c = 'z' then some (['Z'], cs)
    else if c = '+' || c = '-' then do
      let (hour, cs) ← readFixed? 2 cs
      let (minute, cs) ← readFixed? 2 (← after? ':' cs)
      let sign := if hour = 0 && minute = 0 then '+' else c
      if hour ≤ 23 && minute ≤ 59 then
        some (sign :: padded 2 hour ++ ':' :: padded 2 minute, cs)
      else none
    else none

/-- The time of day behind a date, with an offset if there is one. -/
def readTimePart? : List Char → Option (List Char × List Char)
  | c :: cs =>
    if c = 'T' || c = 't' || c = ' ' then do
      let (time, rest) ← readTime? cs
      match readOffset? rest with
      | some (offset, rest) => some ('T' :: time ++ offset, rest)
      | none => some ('T' :: time, rest)
    else none
  | [] => none

/-- A date, a time of day or both in the normal spelling, and the text after it. -/
def readMoment? (cs : List Char) : Option (List Char × List Char) :=
  match readDate? cs with
  | some (date, rest) =>
    match readTimePart? rest with
    | some (time, rest) => some (date ++ time, rest)
    | none => some (date, rest)
  | none => readTime? cs

end ViewForge.Data.Toml
