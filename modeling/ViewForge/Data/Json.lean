import ViewForge.Data.Binary64
import ViewForge.Text.Hex

/-!
# JSON

Reading JSON texts. Numbers keep the form in which they are written, and members of an object keep
their order and their repetitions; what a number or a repeated member means is left to who asks.
-/

namespace ViewForge.Data

/-- The parts of a number as it is written. -/
structure JsonNumber where
  /-- Whether a minus sign comes first. -/
  negative : Bool
  /-- The digits before the point. -/
  whole : List Char
  /-- The digits after the point; none if there is no point. -/
  fraction : List Char
  /-- The exponent, if there is one. -/
  exponent : Option Int
  deriving Repr, DecidableEq

/-- A JSON value. A string that cannot be formed, because half of a surrogate pair stands alone in
it, is kept as `none`. -/
inductive Json where
  | null
  | bool (value : Bool)
  | number (value : JsonNumber)
  | string (value : Option String)
  | array (items : List Json)
  | object (members : List (Option String × Json))
  deriving Repr, Inhabited

namespace JsonNumber

/-- Whether a number is written without point and exponent. -/
def isInteger (n : JsonNumber) : Bool := n.fraction.isEmpty && n.exponent.isNone

/-- The value of the digits before the point. -/
def wholeValue (n : JsonNumber) : Nat := Text.digitsValue n.whole

/-- The natural number below `2 ^ 64` that is written. -/
def natural? (n : JsonNumber) : Option Nat :=
  if n.isInteger && !n.negative && n.wholeValue < Text.wordCount then some n.wholeValue else none

/-- The nearest binary number. -/
def real (n : JsonNumber) : Binary64 :=
  Binary64.ofDecimal n.negative (Text.digitsValue (n.whole ++ n.fraction))
    (n.exponent.getD 0 - n.fraction.length)

/-- Whether a number is in the range of the numbers that can be held. -/
def inRange (n : JsonNumber) : Bool :=
  match n.real with
  | .infinite _ => false
  | _ => true

end JsonNumber

namespace Json

/-- White space of JSON. -/
def isSpace (c : Char) : Bool := c == ' ' || c == '\t' || c == '\n' || c == '\r'

/-- A text without the white space at its start. -/
def skipSpace (cs : List Char) : List Char := cs.dropWhile isSpace

/-! ## Strings -/

/-- The value of four hexadecimal digits. -/
def hex4? (a b c d : Char) : Option Nat := Text.digitsValue? 16 0 [a, b, c, d]

/-- What an escape of one letter stands for. -/
def escaped? (c : Char) : Option Char :=
  match c with
  | '"' => some '"'
  | '\\' => some '\\'
  | '/' => some '/'
  | 'b' => some '\x08'
  | 'f' => some '\x0c'
  | 'n' => some '\n'
  | 'r' => some '\r'
  | 't' => some '\t'
  | _ => none

/-- A unit of a string: a character, or half of a surrogate pair. -/
inductive Unit16 where
  | char (c : Char)
  | high (u : Nat)
  | low (u : Nat)
  deriving Repr, DecidableEq

/-- The unit that an escape in hexadecimal digits stands for. -/
def Unit16.ofCode (u : Nat) : Unit16 :=
  if 0xd800 ≤ u && u < 0xdc00 then .high u
  else if 0xdc00 ≤ u && u < 0xe000 then .low u
  else .char (Char.ofNat u)

/-- The units of a string up to its closing quote, and the text after it. -/
def readUnits : List Char → Option (List Unit16 × List Char)
  | '"' :: rest => some ([], rest)
  | '\\' :: 'u' :: a :: b :: c :: d :: rest => do
    let u ← hex4? a b c d
    let (units, rest) ← readUnits rest
    pure (Unit16.ofCode u :: units, rest)
  | '\\' :: e :: rest => do
    let c ← escaped? e
    let (units, rest) ← readUnits rest
    pure (.char c :: units, rest)
  | c :: rest =>
    if c.toNat < 0x20 || c = '\\' then none
    else (readUnits rest).map fun (units, rest) => (.char c :: units, rest)
  | [] => none

/-- The characters that units form; none if half of a pair stands alone. -/
def joinUnits : List Unit16 → Option (List Char)
  | [] => some []
  | .char c :: rest => (joinUnits rest).map (c :: ·)
  | .high h :: .low l :: rest =>
    (joinUnits rest).map (Char.ofNat (0x10000 + (h - 0xd800) * 0x400 + (l - 0xdc00)) :: ·)
  | _ => none

/-- The string up to its closing quote, and the text after it. -/
def readString (cs : List Char) : Option (Option String × List Char) :=
  (readUnits cs).map fun (units, rest) => ((joinUnits units).map String.ofList, rest)

/-! ## Numbers -/

/-- A number and the text after it. -/
def readNumber (cs : List Char) : Option (JsonNumber × List Char) := do
  let (negative, cs) := match cs with
    | '-' :: cs => (true, cs)
    | cs => (false, cs)
  let whole := cs.takeWhile Char.isDigit
  let rest := cs.dropWhile Char.isDigit
  if whole.isEmpty || (whole.length > 1 && whole.head? == some '0') then none
  let (fraction, rest) ← match rest with
    | '.' :: rest =>
      let digits := rest.takeWhile Char.isDigit
      if digits.isEmpty then none else some (digits, rest.dropWhile Char.isDigit)
    | rest => some ([], rest)
  let (exponent, rest) ← match rest with
    | c :: rest' =>
      if c = 'e' || c = 'E' then
        let (sign, rest') : Int × List Char := match rest' with
          | '+' :: rest' => (1, rest')
          | '-' :: rest' => (-1, rest')
          | rest' => (1, rest')
        let digits := rest'.takeWhile Char.isDigit
        if digits.isEmpty then none
        else
          some (some (sign * (Text.digitsValue digits : Int)), rest'.dropWhile Char.isDigit)
      else some (none, rest)
    | [] => some (none, [])
  pure (⟨negative, whole, fraction, exponent⟩, rest)

/-! ## Values -/

/-- What follows a word at the start of a text. -/
def afterWord? : List Char → List Char → Option (List Char)
  | [], cs => some cs
  | w :: word, c :: cs => if w = c then afterWord? word cs else none
  | _ :: _, [] => none

mutual

/-- A value and the text after it. The fuel is more than the length of the text. -/
def readValue : Nat → List Char → Option (Json × List Char)
  | fuel + 1, cs =>
    match skipSpace cs with
    | '"' :: rest => (readString rest).map fun (s, rest) => (.string s, rest)
    | '[' :: rest =>
      match skipSpace rest with
      | ']' :: rest => some (.array [], rest)
      | rest => (readItems fuel rest).map fun (items, rest) => (.array items, rest)
    | '{' :: rest =>
      match skipSpace rest with
      | '}' :: rest => some (.object [], rest)
      | rest => (readMembers fuel rest).map fun (members, rest) => (.object members, rest)
    | 'n' :: rest => (afterWord? ['u', 'l', 'l'] rest).map fun rest => (.null, rest)
    | 't' :: rest => (afterWord? ['r', 'u', 'e'] rest).map fun rest => (.bool true, rest)
    | 'f' :: rest => (afterWord? ['a', 'l', 's', 'e'] rest).map fun rest => (.bool false, rest)
    | rest => (readNumber rest).map fun (n, rest) => (.number n, rest)
  | 0, _ => none

/-- The items of an array, of which there are some, up to its closing bracket. -/
def readItems : Nat → List Char → Option (List Json × List Char)
  | fuel + 1, cs => do
    let (item, rest) ← readValue fuel cs
    match skipSpace rest with
    | ',' :: rest => (readItems fuel rest).map fun (items, rest) => (item :: items, rest)
    | ']' :: rest => some ([item], rest)
    | _ => none
  | 0, _ => none

/-- The members of an object, of which there are some, up to its closing brace. -/
def readMembers : Nat → List Char → Option (List (Option String × Json) × List Char)
  | fuel + 1, cs =>
    match skipSpace cs with
    | '"' :: rest => do
      let (key, rest) ← readString rest
      match skipSpace rest with
      | ':' :: rest => do
        let (value, rest) ← readValue fuel rest
        match skipSpace rest with
        | ',' :: rest =>
          (readMembers fuel rest).map fun (members, rest) => ((key, value) :: members, rest)
        | '}' :: rest => some ([(key, value)], rest)
        | _ => none
      | _ => none
    | _ => none
  | 0, _ => none

end

/-- The value that a text denotes; nothing may follow it but white space. -/
def parse? (text : String) : Option Json :=
  let cs := text.toList
  match readValue (2 * cs.length + 1) cs with
  | some (value, rest) => if (skipSpace rest).isEmpty then some value else none
  | none => none

/-! ## Well-formed values -/

mutual

/-- Whether every string of a value is formed and every number in range, and the value nests at
most so deep. -/
def isSound : Nat → Json → Bool
  | _, null => true
  | _, bool _ => true
  | _, number n => n.inRange
  | _, string s => s.isSome
  | 0, array _ => false
  | 0, object _ => false
  | depth + 1, array items => allSound depth items
  | depth + 1, object members => allMembersSound depth members

/-- Whether all values of a list are sound. -/
def allSound : Nat → List Json → Bool
  | _, [] => true
  | depth, j :: js => isSound depth j && allSound depth js

/-- Whether all members of an object are sound. -/
def allMembersSound : Nat → List (Option String × Json) → Bool
  | _, [] => true
  | depth, (key, j) :: members => key.isSome && isSound depth j && allMembersSound depth members

end

/-- The deepest nesting of a value that is read as a whole. -/
def maxDepth : Nat := 127

end Json

end ViewForge.Data
