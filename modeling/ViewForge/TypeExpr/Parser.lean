import ViewForge.TypeExpr.Basic
import ViewForge.TypeExpr.Token

/-!
# Reading type expressions

A recursive descent over the tokens of a type, one grammar for both spellings. Each reader returns
what it read and the tokens that follow.
-/

namespace ViewForge.TypeExpr

/-- The commas of an array suffix up to its closing bracket, counted from one. -/
def readRank (close : Char) : List TypeToken → Option (Nat × List TypeToken)
  | .mark c :: rest =>
    if c = close then some (1, rest)
    else if c = ',' then (readRank close rest).map fun (rank, rest) => (rank + 1, rest)
    else none
  | _ => none

/-- The suffixes `?`, `[,]` and `(,)` after a type, as many as there are. -/
def readSuffixes : Nat → TypeExpr → List TypeToken → TypeExpr × List TypeToken
  | fuel + 1, t, .mark '?' :: rest => readSuffixes fuel (.nullable t) rest
  | fuel + 1, t, .mark '[' :: rest =>
    match readRank ']' rest with
    | some (rank, rest) => readSuffixes fuel (.array t rank) rest
    | none => (t, .mark '[' :: rest)
  | fuel + 1, t, .mark '(' :: rest =>
    match readRank ')' rest with
    | some (rank, rest) => readSuffixes fuel (.array t rank) rest
    | none => (t, .mark '(' :: rest)
  | _, t, rest => (t, rest)

/-- The segments of a dotted name after its first, which is given. A first segment `global` before
`::` only anchors the name and is dropped. -/
def readSegments : List String → List TypeToken → Option (List String × List TypeToken)
  | done, .mark '.' :: .word _ letters _ :: rest =>
    readSegments (done ++ [String.ofList letters]) rest
  | done, .doubleColon :: .word _ letters _ :: rest =>
    readSegments ((if done = ["global"] then [] else done) ++ [String.ofList letters]) rest
  | _, .mark '.' :: _ => none
  | _, .doubleColon :: _ => none
  | done, rest => some (done, rest)

/-- The name that dotted segments and arguments denote. -/
def ofSegments (segments : List String) (args : List TypeExpr) : TypeExpr :=
  let scope := segments.dropLast
  ofName (if scope.isEmpty then none else some (".".intercalate scope))
    (segments.getLastD "") args

/-- The name of a tuple element, which is dropped. -/
def skipElementName : List TypeToken → List TypeToken
  | t :: rest => if t.namesElement then rest else t :: rest
  | [] => []

mutual

/-- A type: a tuple or a name, and its suffixes. -/
def readType : Nat → List TypeToken → Option (TypeExpr × List TypeToken)
  | fuel + 1, .mark '(' :: rest =>
    (readElements fuel rest).map fun (items, rest) => readSuffixes rest.length (.tuple items) rest
  | fuel + 1, .word _ letters _ :: rest => do
    let (segments, rest) ← readSegments [String.ofList letters] rest
    let (args, rest) ← readArguments fuel rest
    pure (readSuffixes rest.length (ofSegments segments args) rest)
  | _, _ => none

/-- The arguments after a name, in angle brackets or behind `(Of`, if there are any. -/
def readArguments : Nat → List TypeToken → Option (List TypeExpr × List TypeToken)
  | fuel + 1, .mark '<' :: rest => readList fuel '>' rest
  | fuel + 1, .mark '(' :: word :: rest =>
    if word.opensArguments then readList fuel ')' rest
    else some ([], .mark '(' :: word :: rest)
  | _, rest => some ([], rest)

/-- Types separated by commas, up to a closing bracket. -/
def readList : Nat → Char → List TypeToken → Option (List TypeExpr × List TypeToken)
  | fuel + 1, close, tokens => do
    match ← readType fuel tokens with
    | (t, .mark c :: rest) =>
      if c = ',' then (readList fuel close rest).map fun (ts, rest) => (t :: ts, rest)
      else if c = close then some ([t], rest)
      else none
    | _ => none
  | 0, _, _ => none

/-- The elements of a tuple, each with or without a name, up to the closing parenthesis. -/
def readElements : Nat → List TypeToken → Option (List TypeExpr × List TypeToken)
  | fuel + 1, tokens => do
    let (t, rest) ← readType fuel tokens
    match skipElementName rest with
    | .mark ',' :: rest => (readElements fuel rest).map fun (ts, rest) => (t :: ts, rest)
    | .mark ')' :: rest => some ([t], rest)
    | _ => none
  | 0, _ => none

end

/-- The type that a list of tokens denotes as a whole. -/
def ofTokens? (tokens : List TypeToken) : Option TypeExpr :=
  match readType (2 * tokens.length + 2) tokens with
  | some (t, []) => some t
  | _ => none

/-- The type that a text denotes, if it denotes one. -/
def ofLetters? (cs : List Char) : Option TypeExpr := (TypeToken.scan cs).bind ofTokens?

/-- The type that a text denotes, if it denotes one. -/
def parse? (text : String) : Option TypeExpr := ofLetters? text.toList

end ViewForge.TypeExpr
