import ViewForge.VisualBasic.Line

/-!
# Lines that declare something

How the lines of Visual Basic that matter to an outline are recognised: namespaces, types, base
lists, properties, accessors, other members and members of enumerations.
-/

namespace ViewForge.VisualBasic

/-- The words before a type. -/
def typeModifiers : List String :=
  ["public", "private", "protected", "friend", "partial", "mustinherit", "notinheritable",
   "shadows", "shared"]

/-- The words before a property. -/
def propertyModifiers : List String :=
  ["public", "private", "protected", "friend", "shared", "readonly", "writeonly", "overridable",
   "overrides", "overloads", "shadows", "mustoverride", "notoverridable", "default", "iterator",
   "async", "partial"]

/-- The words before an accessor. -/
def accessorModifiers : List String := ["public", "private", "protected", "friend"]

/-- The words before a member that may be a block. -/
def blockModifiers : List String :=
  ["public", "private", "protected", "friend", "shared", "overridable", "overrides", "overloads",
   "shadows", "mustoverride", "notoverridable", "async", "iterator", "partial", "static",
   "narrowing", "widening", "default", "readonly", "writeonly", "custom"]

/-- The words before a field. -/
def fieldModifiers : List String :=
  ["public", "private", "protected", "friend", "shared", "readonly", "dim", "const", "withevents",
   "shadows", "declare"]

/-- The words for a type. -/
def typeWords : List String := ["class", "structure", "interface", "enum", "module"]

/-- The words for a member that may be a block. -/
def blockWords : List String := ["sub", "function", "operator", "property", "event"]

/-- What follows a word of the language and white space at the start of a text. -/
def afterWord? (word : String) (cs : List Char) : Option (List Char) :=
  (afterLetters? word.toList cs).bind afterBlanks?

/-! ## Namespaces and types -/

/-- A character of a dotted name. -/
def isDotted (c : Char) : Bool := Text.isWord c || c == '.'

/-- The name of the namespace that a line opens. -/
def namespaceName? (cs : List Char) : Option (List Char) := do
  let rest ← afterWord? "namespace" (Text.trimStart cs)
  let name := rest.takeWhile isDotted
  if name.isEmpty then none else some name

/-- Whether a line ends a namespace. -/
def endsNamespace (cs : List Char) : Bool :=
  ((afterWord? "end" (Text.trimStart cs)).bind (afterLetters? "namespace".toList)).any endsWord

/-- The line that opens a type. -/
structure TypeHeader where
  /-- The word for its kind as it is written. -/
  word : List Char
  /-- The name. -/
  name : List Char
  /-- The text of the type parameters. -/
  parameters : Option (List Char)

/-- The text of the type parameters behind a name: what stands after `(Of` up to the next closing
parenthesis. -/
def typeParameterText? (cs : List Char) : Option (List Char) :=
  match Text.trimStart cs with
  | '(' :: rest => do
    let rest ← afterWord? "of" (Text.trimStart rest)
    if rest.contains ')' then some (rest.takeWhile (· != ')')) else none
  | _ => none

/-- The type that a line opens. -/
def typeHeader? : List Char → Option TypeHeader :=
  behindAttributes? fun cs => do
    let start := (modifiers typeModifiers cs).2
    let (word, rest) ← anyWord? typeWords start
    let rest ← afterBlanks? rest
    let (name, rest) ← name? rest
    pure ⟨start.take word.length, name, typeParameterText? rest⟩

/-- Whether a line ends a type. -/
def endsType (cs : List Char) : Bool :=
  ((afterWord? "end" (Text.trimStart cs)).bind (anyWord? typeWords)).any fun (_, rest) =>
    endsWord rest

/-- The text of the base types that a line names. -/
def baseText? (cs : List Char) : Option (List Char) := do
  let (_, rest) ← anyWord? ["inherits", "implements"] (Text.trimStart cs)
  let rest ← afterBlanks? rest
  if rest.isEmpty then none else some rest

/-! ## Members -/

/-- The type of a property as it is written after `As`. -/
structure Annotation where
  /-- Whether `New` comes before the type. -/
  isNew : Bool
  /-- The text of the type and what follows it. -/
  text : List Char

/-- The line that opens a property. -/
structure PropertyHeader where
  /-- The modifiers as they are written. -/
  modifiers : List (List Char)
  /-- The name. -/
  name : List Char
  /-- The type, if there is one. -/
  annotation : Option Annotation

/-- The type text after `As` and white space. -/
def annotation? (cs : List Char) : Option Annotation :=
  match afterWord? "new" cs with
  | some rest => if rest.isEmpty then none else some ⟨true, rest⟩
  | none => if cs.isEmpty then none else some ⟨false, cs⟩

/-- A text without a pair of parentheses at its start that holds nothing. -/
def afterParentheses (cs : List Char) : List Char :=
  match cs with
  | '(' :: rest =>
    match Text.trimStart rest with
    | ')' :: rest => rest
    | _ => cs
  | _ => cs

/-- What follows the name of a property: nothing, or `As` and a type. -/
def propertyTail? (cs : List Char) : Option (Option Annotation) :=
  match Text.trimStart (afterParentheses (Text.trimStart cs)) with
  | [] => some none
  | rest => ((afterWord? "as" rest).bind annotation?).map some

/-- The name of a property and what follows it. A name that runs into `As` is cut there if nothing
else makes a declaration of the line. -/
def propertyNameAndType? (cs : List Char) : Option (List Char × Option Annotation) := do
  let (name, rest) ← name? cs
  match propertyTail? rest with
  | some annotation => some (name, annotation)
  | none =>
    match name.reverse with
    | s :: a :: lead =>
      if foldLetter a = 'a' && foldLetter s = 's' && !lead.isEmpty then do
        let annotation ← (afterBlanks? rest).bind annotation?
        pure (lead.reverse, some annotation)
      else none
    | _ => none

/-- The property that a line opens. -/
def propertyHeader? : List Char → Option PropertyHeader :=
  behindAttributes? fun cs => do
    let (mods, rest) := modifiers propertyModifiers cs
    let rest ← afterWord? "property" rest
    let (name, annotation) ← propertyNameAndType? rest
    pure ⟨mods, name, annotation⟩

/-- The line that opens an accessor. -/
structure AccessorHeader where
  /-- The modifiers as they are written. -/
  modifiers : List (List Char)
  /-- Whether it is the getter. -/
  isGetter : Bool

/-- The accessor that a line opens. -/
def accessorHeader? (cs : List Char) : Option AccessorHeader := do
  let (mods, rest) := modifiers accessorModifiers (Text.trimStart cs)
  let (word, rest) ← anyWord? ["get", "set"] rest
  if endsWord rest then some ⟨mods, word == "get"⟩ else none

/-- The line that opens a member that may be a block. -/
structure BlockHeader where
  /-- The modifiers as they are written. -/
  modifiers : List (List Char)
  /-- The word for the member as it is written. -/
  word : List Char

/-- The member that may be a block that a line opens. -/
def blockHeader? : List Char → Option BlockHeader :=
  behindAttributes? fun cs => do
    let (mods, rest) := modifiers blockModifiers cs
    let (word, after) ← anyWord? blockWords rest
    if endsWord after then some ⟨mods, rest.take word.length⟩ else none

/-- Whether a line declares a field: a modifier, then another or a name. -/
def isField (cs : List Char) : Bool :=
  (behindAttributes? (fun cs =>
    match modifiers fieldModifiers cs with
    | ([], _) => none
    | ([_], rest) => if (name? rest).isSome then some () else none
    | (_ :: _ :: _, _) => some ()) cs).isSome

/-- The name of the member of an enumeration that a line declares. -/
def enumMemberName? : List Char → Option (List Char) :=
  behindAttributes? fun cs => do
    let (name, rest) ← name? cs
    match Text.trimStart rest with
    | [] => some name
    | '=' :: _ => some name
    | _ => none

/-- Whether a line begins with `End`, a blank and a word, in any case of ASCII letters. -/
def beginsEnd (word : List Char) (cs : List Char) : Bool :=
  (Text.afterIgnoringCase? (['e', 'n', 'd', ' '] ++ word) (Text.trimStart cs)).isSome

/-- Whether a modifier is among those of a line. -/
def hasModifier (mods : List (List Char)) (word : String) : Bool :=
  mods.any fun m => Text.sameIgnoringCase m word.toList

end ViewForge.VisualBasic
