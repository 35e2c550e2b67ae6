import ViewForge.CSharp.Token

/-!
# How far a construct reaches

Bracketed groups, types, expressions and bodies are passed over by their brackets and marks. Each
function returns the byte offset behind the construct's last token and the tokens after it.
-/

namespace ViewForge.CSharp

/-- Passes over a bracketed group. `depth` brackets are open; at the start none is, and the next
token opens the group. -/
def pastGroup? : Nat → List Token → Option (Nat × List Token)
  | _, [] => none
  | depth, t :: ts =>
    if t.opens then pastGroup? (depth + 1) ts
    else if t.closes then
      if depth ≤ 1 then some (t.last, ts) else pastGroup? (depth - 1) ts
    else pastGroup? depth ts

/-- The tokens after a bracketed group of which `depth` brackets are open, none if it does not
end. -/
def pastGroup (depth : Nat) (ts : List Token) : List Token :=
  match pastGroup? depth ts with
  | some (_, rest) => rest
  | none => []

/-- Passes over type arguments or parameters in angle brackets. `depth` brackets are open. -/
def pastAngles? : Nat → List Token → Option (Nat × List Token)
  | _, [] => none
  | depth, t :: ts =>
    if t.isMark '<' then pastAngles? (depth + 1) ts
    else if t.isMark '>' then
      if depth ≤ 1 then some (t.last, ts) else pastAngles? (depth - 1) ts
    else pastAngles? depth ts

/-- Passes over tokens up to a semicolon outside brackets, `depth` of which are open. -/
def pastSemicolon? : Nat → List Token → Option (Nat × List Token)
  | _, [] => none
  | depth, t :: ts =>
    if t.opens then pastSemicolon? (depth + 1) ts
    else if t.closes then if depth = 0 then none else pastSemicolon? (depth - 1) ts
    else if t.isMark ';' && depth = 0 then some (t.last, ts)
    else pastSemicolon? depth ts

/-- Passes over the rest of a member: to a semicolon, over a block, or over an arrow and its
expression. If `valued`, an equals sign begins an expression too. `depth` brackets are open. -/
def pastBody? (valued : Bool) : Nat → List Token → Option (Nat × List Token)
  | _, [] => none
  | depth, t :: ts =>
    if depth = 0 && t.isMark '{' then pastGroup? 1 ts
    else if depth = 0 && (t.lexeme == .arrow || (valued && t.isMark '=')) then pastSemicolon? 0 ts
    else if depth = 0 && t.isMark ';' then some (t.last, ts)
    else if t.opens then pastBody? valued (depth + 1) ts
    else if t.closes then if depth = 0 then none else pastBody? valued (depth - 1) ts
    else pastBody? valued depth ts

/-- Passes over tokens up to the end of a branch of conditional compilation, in which `depth`
others are open, with its last directive. -/
def pastConditional? : Nat → List Token → Option (List Token)
  | _, [] => none
  | depth, t :: ts =>
    match t.lexeme with
    | .directive word =>
      if word = "if".toList then pastConditional? (depth + 1) ts
      else if word = "endif".toList then
        if depth = 0 then some ts else pastConditional? (depth - 1) ts
      else pastConditional? depth ts
    | _ => pastConditional? depth ts

/-! ## Types -/

/-- The type arguments behind a segment of a name, if there are any: the offset behind them and the
tokens after them. The word `operator` has none, an angle bracket behind it is what it names. -/
def pastArguments (segment : Token) : List Token → Nat × List Token
  | t :: ts =>
    if t.isMark '<' && !segment.isWord "operator" then
      (pastAngles? 0 (t :: ts)).getD (segment.last, t :: ts)
    else (segment.last, t :: ts)
  | [] => (segment.last, [])

/-- The segments of a dotted name with their type arguments. Returns the last segment, the offset
behind the name and the tokens after it. The fuel is at least the number of tokens. -/
def pastName? : Nat → List Token → Option (Token × Nat × List Token)
  | fuel + 1, t :: ts =>
    match t.lexeme with
    | .word _ =>
      let (stop, rest) := pastArguments t ts
      match rest with
      | a :: more =>
        if a.isMark '.' then pastName? fuel more
        else
          match more with
          | b :: more =>
            if a.isMark ':' && b.isMark ':' then pastName? fuel more else some (t, stop, rest)
          | [] => some (t, stop, rest)
      | [] => some (t, stop, [])
    | _ => none
  | _, _ => none

/-- Passes over the suffixes of a type: nullable marks, pointers and array ranks. The fuel is at
least the number of tokens. -/
def pastSuffixes : Nat → Nat → List Token → Nat × List Token
  | fuel + 1, stop, t :: ts =>
    if t.isMark '?' || t.isMark '*' then pastSuffixes fuel t.last ts
    else if t.isMark '[' then
      match pastGroup? 1 ts with
      | some (stop, rest) => pastSuffixes fuel stop rest
      | none => (stop, t :: ts)
    else (stop, t :: ts)
  | _, stop, ts => (stop, ts)

/-- The words that may stand before a type and belong to it. -/
def typeLeads : List (List Char) := ["ref".toList, "readonly".toList, "scoped".toList]

/-- Whether a token is one of several words. -/
def Token.isOneOf (t : Token) (words : List (List Char)) : Bool :=
  match t.lexeme with
  | .word letters => words.contains letters
  | _ => false

/-- Passes over a type without leading words. -/
def pastBareType? (ts : List Token) : Option (Nat × List Token) :=
  match ts with
  | [] => none
  | t :: rest =>
    let base :=
      if t.isMark '(' then pastGroup? 1 rest
      else if t.isWord "delegate" then
        pastAngles? 0 (rest.dropWhile fun u => !u.isMark '<')
      else (pastName? ts.length ts).map fun (_, stop, rest) => (stop, rest)
    base.map fun (stop, rest) => pastSuffixes rest.length stop rest

/-- Passes over a type with its leading words. -/
def pastType? (ts : List Token) : Option (Nat × List Token) :=
  pastBareType? (ts.dropWhile (·.isOneOf typeLeads))

end ViewForge.CSharp
