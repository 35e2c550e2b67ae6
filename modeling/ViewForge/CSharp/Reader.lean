import ViewForge.CSharp.Extent
import ViewForge.CSharp.Node

/-!
# Reading declarations of C#

The parser that the program runs with. It makes the syntax tree of a text as far as declarations go:
namespaces, types with what stands before and in their bodies, and the branches of conditional
compilation. Attributes, statements and the insides of types and bodies are passed over and have no
nodes.
-/

namespace ViewForge.CSharp

/-! ## Nodes of tokens -/

namespace Token

/-- Whether a token is a word of any kind. -/
def isAnyWord (t : Token) : Bool :=
  match t.lexeme with
  | .word _ => true
  | _ => false

/-- A token without a name in the grammar: a keyword or a mark. -/
def plain (t : Token) (role : Option String) : Node :=
  let kind := match t.lexeme with
    | .word letters | .directive letters => String.ofList letters
    | .mark c => String.singleton c
    | .arrow => "=>"
    | .literal => "literal"
  ⟨kind, false, role, t.first, t.last, []⟩

/-- A name. -/
def identifier (t : Token) : Node := ⟨"identifier", true, some "name", t.first, t.last, []⟩

/-- A modifier. -/
def modifier (t : Token) : Node := ⟨"modifier", true, none, t.first, t.last, [t.plain none]⟩

/-- What a token opens, up to the last of the nodes behind it. -/
def group (t : Token) (kind : String) (role : Option String) (inner : List Node) : Node :=
  ⟨kind, true, role, t.first, (inner.getLast?.map (·.last)).getD t.last, t.plain none :: inner⟩

end Token

/-- The types that have keywords. -/
def predefinedTypes : List (List Char) :=
  ["bool", "byte", "char", "decimal", "double", "float", "int", "long", "object", "sbyte", "short",
   "string", "uint", "ulong", "ushort", "void"].map String.toList

/-- What the grammar calls a type that is made of tokens. -/
def typeNodeKind (ts : List Token) : String :=
  match ts.getLast? with
  | none => "type"
  | some t =>
    if t.isMark '?' then "nullable_type"
    else if t.isMark '*' then "pointer_type"
    else if t.isMark ']' then "array_type"
    else if t.isMark ')' then "tuple_type"
    else if t.isMark '>' then "generic_name"
    else if ts.length > 1 then "qualified_name"
    else if t.isOneOf predefinedTypes then "predefined_type"
    else "identifier"

/-- The type that tokens begin with, which ends at an offset with others behind it. -/
def typeNode (role : Option String) (ts : List Token) (last : Nat) (rest : List Token) : Node :=
  let inner := ts.take (ts.length - rest.length)
  ⟨typeNodeKind inner, true, role, (inner.head?.map (·.first)).getD last, last, []⟩

/-! ## Parts of declarations -/

/-- The words that modify a declaration. -/
def modifierWords : List (List Char) :=
  ["abstract", "async", "const", "extern", "file", "fixed", "internal", "new", "override",
   "partial", "private", "protected", "public", "readonly", "required", "sealed", "static",
   "unsafe", "virtual", "volatile"].map String.toList

/-- The words that modify a parameter. -/
def parameterWords : List (List Char) :=
  ["ref", "out", "in", "this", "scoped", "readonly", "params"].map String.toList

/-- Passes over the branches of conditional compilation, with their last directive, if they hold
attribute lists only. The fuel is at least the number of tokens. -/
def pastAttributeBranches? : Nat → List Token → Option (List Token)
  | fuel + 1, t :: ts =>
    if t.isMark '[' then (pastGroup? 1 ts).bind fun (_, rest) => pastAttributeBranches? fuel rest
    else if t.lexeme == .directive "endif".toList then some ts
    else if t.lexeme == .directive "elif".toList || t.lexeme == .directive "else".toList then
      pastAttributeBranches? fuel ts
    else none
  | _, _ => none

/-- The word of the directive that begins here and around declarations or members. -/
def branchWord? : List Token → Option (List Char)
  | t :: ts =>
    match t.lexeme with
    | .directive word =>
      let attributes := ts.head?.any (·.isMark '[') && (pastAttributeBranches? ts.length ts).isSome
      if word = "if".toList && attributes then none else some word
    | _ => none
  | [] => none

/-- The tokens after the attribute lists at the start, some of which may be in branches of
conditional compilation. The fuel is at least the number of tokens. -/
def pastAttributes : Nat → List Token → List Token
  | fuel + 1, t :: ts =>
    if t.isMark '[' then
      match pastGroup? 1 ts with
      | some (_, rest) => pastAttributes fuel rest
      | none => t :: ts
    else if t.lexeme == .directive "if".toList && ts.head?.any (·.isMark '[') then
      match pastAttributeBranches? fuel ts with
      | some rest => pastAttributes fuel rest
      | none => t :: ts
    else t :: ts
  | _, ts => ts

/-- The modifiers at the start and the tokens after them. -/
def readModifiers (ts : List Token) : List Token × List Token :=
  ts.span (·.isOneOf modifierWords)

/-- What the grammar calls the declaration of a type that begins here, its words, and the tokens
from its name on. -/
def declarationAt? : List Token → Option (String × List Token × List Token)
  | t :: u :: rest =>
    if !u.isAnyWord then none
    else if t.isWord "class" then some ("class_declaration", [t], u :: rest)
    else if t.isWord "struct" then some ("struct_declaration", [t], u :: rest)
    else if t.isWord "interface" then some ("interface_declaration", [t], u :: rest)
    else if t.isWord "enum" then some ("enum_declaration", [t], u :: rest)
    else if t.isWord "record" then
      if (u.isWord "class" || u.isWord "struct") && rest.head?.any (·.isAnyWord) then
        some ("record_declaration", [t, u], rest)
      else some ("record_declaration", [t], u :: rest)
    else if t.isWord "ref" then
      if u.isWord "struct" then some ("struct_declaration", [t, u], rest)
      else if u.isWord "partial" && rest.head?.any (·.isWord "struct") then
        some ("struct_declaration", t :: u :: rest.take 1, rest.tail)
      else none
    else none
  | _ => none

/-- The type parameters up to the closing angle bracket, with commas and bracket, and the tokens
after it. The last word of each is its name; the offset at which the next begins and its last word
are given. `depth` brackets of attributes are open. -/
def readTypeParameters (depth : Nat) (next : Option (Nat × Token)) :
    List Token → List Node × List Token
  | [] => (parameter next, [])
  | t :: ts =>
    if t.opens then readTypeParameters (depth + 1) next ts
    else if t.closes then readTypeParameters (depth - 1) next ts
    else if depth > 0 then readTypeParameters depth next ts
    else if t.isMark '>' then (parameter next ++ [t.plain none], ts)
    else if t.isMark ',' then
      let (others, rest) := readTypeParameters depth none ts
      (parameter next ++ t.plain none :: others, rest)
    else if t.isAnyWord then
      readTypeParameters depth (some ((next.map (·.1)).getD t.first, t)) ts
    else readTypeParameters depth next ts
where
  parameter (next : Option (Nat × Token)) : List Node :=
    (next.map fun (first, name) =>
      ⟨"type_parameter", true, none, first, name.last, [name.identifier]⟩).toList

/-- The base types, with the commas between them, and the tokens after them. The fuel is at least
the number of tokens. -/
def readBases : Nat → List Token → List Node × List Token
  | fuel + 1, t :: ts =>
    match pastBareType? (t :: ts) with
    | none => ([], t :: ts)
    | some (last, rest) =>
      let (base, rest) : Node × List Token := match rest with
        | u :: more =>
          if u.isMark '(' then
            let (last', more) := (pastGroup? 1 more).getD (u.last, [])
            (⟨"primary_constructor_base_type", true, none, t.first, last',
              [typeNode (some "type") (t :: ts) last rest,
                ⟨"argument_list", true, none, u.first, last', []⟩]⟩, more)
          else (typeNode none (t :: ts) last rest, rest)
        | [] => (typeNode none (t :: ts) last [], [])
      match rest with
      | u :: more =>
        if u.isMark ',' then
          let (bases, rest) := readBases fuel more
          (base :: u.plain none :: bases, rest)
        else ([base], rest)
      | [] => ([base], [])
  | _, ts => ([], ts)

/-- Passes over the default value of a parameter, up to a comma or closing bracket outside brackets,
`depth` of which are open; `last` is the offset behind the tokens passed. -/
def pastDefault : Nat → Nat → List Token → Nat × List Token
  | _, last, [] => (last, [])
  | depth, last, t :: ts =>
    if depth = 0 && (t.isMark ',' || t.closes) then (last, t :: ts)
    else if t.opens then pastDefault (depth + 1) t.last ts
    else if t.closes then pastDefault (depth - 1) t.last ts
    else pastDefault depth t.last ts

/-- The parameter that begins here and the tokens after it. One that takes any number of arguments
has no node. -/
def readParameter (first : Nat) (ts : List Token) : List Node × List Token :=
  let ts := pastAttributes ts.length ts
  let (words, ts) := ts.span (·.isOneOf parameterWords)
  match pastBareType? ts with
  | some (typeLast, name :: rest) =>
    let (last, behind) := pastDefault 0 name.last rest
    if words.any (·.isWord "params") || !name.isAnyWord then ([], behind)
    else
      ([⟨"parameter", true, none, first, last,
        [typeNode (some "type") ts typeLast (name :: rest), name.identifier]⟩], behind)
  | _ => ([], (pastDefault 0 first ts).2)

/-- The parameters up to the closing parenthesis, with commas and parenthesis, and the tokens after
it. The fuel is more than the number of tokens. -/
def readParameters : Nat → List Token → List Node × List Token
  | fuel + 1, t :: ts =>
    if t.closes then ([t.plain none], ts)
    else if t.isMark ',' then
      let (others, rest) := readParameters fuel ts
      (t.plain none :: others, rest)
    else
      let (parameter, rest) := readParameter t.first (t :: ts)
      let (others, rest) := readParameters fuel rest
      (parameter ++ others, rest)
  | _, ts => ([], ts)

/-- What a member ends with: a semicolon, a block or an arrow and an expression. -/
def bodyNode (t : Token) (last : Nat) : Node :=
  if t.isMark ';' then t.plain none
  else if t.isMark '{' then ⟨"block", true, some "body", t.first, last, []⟩
  else ⟨"arrow_expression_clause", true, some "body", t.first, last, []⟩

/-- The accessors up to the closing brace. The offset at which the next begins and its modifiers are
given. The fuel is at least the number of tokens. -/
def readAccessors : Nat → Option Nat → List Token → List Token → List Node
  | fuel + 1, first, words, t :: ts =>
    let start := first.getD t.first
    if t.closes then []
    else if t.isMark '[' then readAccessors fuel (some start) words (pastGroup 1 ts)
    else if t.isWord "get" || t.isWord "set" || t.isWord "init" then
      let (last, rest) := (pastBody? false 0 ts).getD (t.last, [])
      let body := (ts.head?.map (bodyNode · last)).toList
      ⟨"accessor_declaration", true, none, start, last,
        words.map (·.modifier) ++ t.plain (some "name") :: body⟩ ::
          readAccessors fuel none [] rest
    else readAccessors fuel (some start) (words ++ [t]) ts
  | _, _, _, _ => []

/-- What follows the name of a property: an accessor list with or without an initial value, or an
arrow and an expression. Returns its node, the offset behind the property and the tokens after
it. -/
def readPropertyBody? (ts : List Token) : Option (Node × Nat × List Token) :=
  match ts with
  | [] => none
  | t :: rest =>
    if t.isMark '{' then do
      let (last, after) ← pastGroup? 1 rest
      let closing : Node := ⟨"\x7d", false, none, last - 1, last, []⟩
      let list := t.group "accessor_list" (some "accessors")
        (readAccessors rest.length none [] rest ++ [closing])
      match after with
      | u :: more =>
        if u.isMark '=' then do
          let (last, after) ← pastSemicolon? 0 more
          pure (list, last, after)
        else pure (list, last, after)
      | [] => pure (list, last, [])
    else if t.lexeme == .arrow then do
      let (last, after) ← pastSemicolon? 0 rest
      pure (⟨"arrow_expression_clause", true, some "value", t.first, last, []⟩, last, after)
    else none

/-! ## Members -/

/-- The member that begins after its attributes and modifiers, and the tokens after it. -/
def readMember? (first : Nat) (words ts : List Token) : Option (Node × List Token) :=
  let modifiers := words.map (·.modifier)
  let other (kind : String) (reach : Option (Nat × List Token)) : Option (Node × List Token) :=
    reach.map fun (last, rest) => (⟨kind, true, none, first, last, modifiers⟩, rest)
  let block (kind : String) (ts : List Token) := other kind (pastBody? false 0 ts)
  let statement (kind : String) (ts : List Token) := other kind (pastSemicolon? 0 ts)
  match ts with
  | [] => none
  | t :: rest =>
    if t.isWord "delegate" && !rest.head?.any (·.isMark '*') then
      statement "delegate_declaration" rest
    else if t.isWord "event" then other "event_declaration" (pastBody? true 0 rest)
    else if t.isMark '~' then block "destructor_declaration" rest
    else if t.isWord "implicit" || t.isWord "explicit" then
      block "conversion_operator_declaration" rest
    else if t.isAnyWord && !t.isOneOf typeLeads && rest.head?.any (·.isMark '(') then
      block "constructor_declaration" rest
    else do
      let (typeLast, afterType) ← pastType? ts
      let (name, _, afterName) ← pastName? afterType.length afterType
      let next ← afterName.head?
      if name.isWord "operator" then block "operator_declaration" afterName
      else if name.isWord "this" then block "indexer_declaration" afterName
      else if next.isMark '(' then block "method_declaration" afterName
      else
        match readPropertyBody? afterName with
        | some (body, last, rest) =>
          pure (⟨"property_declaration", true, none, first, last,
            modifiers ++ [typeNode (some "type") ts typeLast afterType, name.identifier, body]⟩,
            rest)
        | none => statement "field_declaration" afterName

/-- The members of an enumeration up to its closing brace, with commas and brace, and the tokens
after it. The fuel is more than the number of tokens. -/
def readEnumMembers : Nat → List Token → Option (List Node × List Token)
  | fuel + 1, t :: ts =>
    if t.isMark '}' then some ([t.plain none], ts)
    else if t.lexeme == .directive "if".toList then
      (pastConditional? 0 ts).bind (readEnumMembers fuel)
    else if t.isMark '[' then
      (pastGroup? 1 ts).bind fun (_, rest) => readEnumMembers fuel rest
    else if t.isAnyWord then do
      let (last, rest) := pastDefault 0 t.last ts
      let (others, rest) ← readEnumMembers fuel rest
      pure (⟨"enum_member_declaration", true, none, t.first, last, [t.identifier]⟩ :: others, rest)
    else do
      let (others, rest) ← readEnumMembers fuel ts
      pure (t.plain none :: others, rest)
  | _, _ => none

/-- A semicolon directly behind a closing brace belongs to the declaration that the brace ends.
Given is the offset behind the brace; returned are the offset behind the declaration and the tokens
after it. -/
def withSemicolon (last : Nat) : List Token → Nat × List Token
  | t :: ts => if t.isMark ';' && t.first == last then (t.last, ts) else (last, t :: ts)
  | [] => (last, [])

mutual

/-- The type whose name comes next. Its declaration begins at an offset with modifiers and words. -/
def readType? : Nat → String → Nat → List Node → List Token → Option (Node × List Token)
  | fuel + 1, kind, first, lead, name :: ts => do
    let (parameters, ts) : List Node × List Token := match ts with
      | t :: rest =>
        if t.isMark '<' then
          let (inner, rest) := readTypeParameters 0 none rest
          ([t.group "type_parameter_list" none inner], rest)
        else ([], ts)
      | [] => ([], [])
    let (fields, ts) : List Node × List Token := match ts with
      | t :: rest =>
        if t.isMark '(' then
          let (inner, rest) := readParameters (ts.length + 1) rest
          ([t.group "parameter_list" none inner], rest)
        else ([], ts)
      | [] => ([], [])
    let (bases, ts) : List Node × List Token := match ts with
      | t :: rest =>
        if t.isMark ':' then
          let (inner, rest) := readBases ts.length rest
          ([t.group "base_list" none inner], rest)
        else ([], ts)
      | [] => ([], [])
    let head := lead ++ name.identifier :: (parameters ++ fields ++ bases)
    match ts.dropWhile fun t => !t.isMark '{' && !t.isMark ';' with
    | t :: rest =>
      if t.isMark ';' then pure (⟨kind, true, none, first, t.last, head ++ [t.plain none]⟩, rest)
      else do
        let (bodyKind, inner, rest) ←
          if kind = "enum_declaration" then do
            let (inner, rest) ← readEnumMembers (rest.length + 1) rest
            pure ("enum_member_declaration_list", inner, rest)
          else do
            let (inner, rest) ← readMembers? fuel rest
            pure ("declaration_list", inner, rest)
        let body := t.group bodyKind (some "body") inner
        let (last, rest) := withSemicolon body.last rest
        pure (⟨kind, true, none, first, last, head ++ [body]⟩, rest)
    | [] => none
  | _, _, _, _, _ => none

/-- The members of a type up to its closing brace, with the brace, and the tokens after it. -/
def readMembers? : Nat → List Token → Option (List Node × List Token)
  | fuel + 1, t :: ts =>
    if t.isMark '}' then some ([t.plain none], ts)
    else if branchWord? (t :: ts) = some "if".toList then
      (pastConditional? 0 ts).bind (readMembers? fuel)
    else
      let (words, body) := readModifiers (pastAttributes (ts.length + 1) (t :: ts))
      match declarationAt? body with
      | some (kind, keywords, rest) => do
        let lead := words.map (·.modifier) ++ keywords.map (·.plain none)
        let (type, rest) ← readType? fuel kind t.first lead rest
        let (others, rest) ← readMembers? fuel rest
        pure (type :: others, rest)
      | none =>
        match readMember? t.first words body with
        | some (member, rest) => do
          let (others, rest) ← readMembers? fuel rest
          pure (member :: others, rest)
        | none => readMembers? fuel ts
  | _, _ => none

end

/-! ## Files -/

/-- Passes over a statement: to a semicolon or over a block. `depth` brackets are open. -/
def pastStatement : Nat → List Token → List Token
  | _, [] => []
  | depth, t :: ts =>
    if depth = 0 && t.isMark ';' then ts
    else if depth = 0 && t.isMark '{' then pastGroup 1 ts
    else if t.opens then pastStatement (depth + 1) ts
    else if t.closes then if depth = 0 then t :: ts else pastStatement (depth - 1) ts
    else pastStatement depth ts

/-- Whether an attribute list for the whole file begins here. -/
def isFileAttribute : List Token → Bool
  | t :: u :: v :: _ =>
    t.isMark '[' && (u.isWord "assembly" || u.isWord "module") && v.isMark ':'
  | _ => false

/-- The name of a namespace, from its first token up to an offset. -/
def namespaceName (first : Token) (last : Nat) : Node :=
  ⟨if last = first.last then "identifier" else "qualified_name", true, some "name", first.first,
    last, []⟩

/-- The nodes up to the end of the file, block or branch, and the tokens from there on. The fuel is
more than the number of tokens. -/
def readItems : Nat → List Token → List Node × List Token
  | fuel + 1, t :: ts =>
    if t.isMark '}' then ([], t :: ts)
    else
      match branchWord? (t :: ts) with
      | some word =>
        if word = "if".toList then
          let (inner, rest) := readItems fuel ts
          let closing := (rest.head?.map (·.plain none)).toList
          let (others, rest) := readItems fuel rest.tail
          (t.group "preproc_if" none (inner ++ closing) :: others, rest)
        else if word = "endif".toList then ([], t :: ts)
        else
          let (inner, rest) := readItems fuel ts
          ([t.group "preproc_else" (some "alternative") inner], rest)
      | none =>
        if isFileAttribute (t :: ts) then readItems fuel (pastGroup 1 ts)
        else
          let (words, body) := readModifiers (pastAttributes (ts.length + 1) (t :: ts))
          match declarationAt? body with
          | some (kind, keywords, rest) =>
            let lead := words.map (·.modifier) ++ keywords.map (·.plain none)
            match readType? (rest.length + 1) kind t.first lead rest with
            | some (type, rest) =>
              let (others, rest) := readItems fuel rest
              (type :: others, rest)
            | none => readItems fuel ts
          | none =>
            if t.isWord "namespace" then
              match pastName? ts.length ts, ts with
              | some (_, last, u :: rest), first :: _ =>
                let name := namespaceName first last
                if u.isMark ';' then
                  let (others, rest) := readItems fuel rest
                  (t.group "file_scoped_namespace_declaration" none [name, u.plain none] :: others,
                    rest)
                else
                  let (inner, rest) := readItems fuel rest
                  let closing := (rest.head?.map (·.plain none)).toList
                  let (others, rest) := readItems fuel rest.tail
                  let body := u.group "declaration_list" (some "body") (inner ++ closing)
                  (t.group "namespace_declaration" none [name, body] :: others, rest)
              | _, _ => readItems fuel ts
            else
              match pastStatement 0 body with
              | [] => ([], [])
              | u :: rest =>
                if rest.length < ts.length then readItems fuel (u :: rest)
                else readItems fuel ts
  | _, ts => ([], ts)

/-- The syntax tree of a text. -/
def readTree (text : String) : Node :=
  let ts := tokens text.toList
  ⟨"compilation_unit", true, none, 0, text.utf8ByteSize, (readItems (2 * ts.length + 2) ts).1⟩

instance : Parser := ⟨readTree⟩

end ViewForge.CSharp
