import ViewForge.Outline.Basic
import ViewForge.VisualBasic.Header
import ViewForge.VisualBasic.TypeText

/-!
# Outlines of Visual Basic

A document is read line by line. Types that are open stand on a stack, each with the types that
were closed inside it; a line that ends a type closes the innermost one, whatever its kind, and
types that are still open at the end run to the last line.
-/

namespace ViewForge.VisualBasic

/-- An open type. -/
structure Frame where
  /-- The type so far. -/
  declared : DeclaredType
  /-- The types inside it that are closed, in order. -/
  nested : List DeclaredType := []

/-- A document while it is read. -/
structure Reading where
  /-- The closed types outside every open one, in order. -/
  done : List DeclaredType := []
  /-- The open types, innermost first. -/
  opened : List Frame := []
  /-- The open namespaces, innermost first. -/
  namespaces : List String := []

namespace Reading

/-- Puts closed types behind those of the innermost open type, or of the document. -/
def addClosed (ts : List DeclaredType) (r : Reading) : Reading :=
  match r.opened with
  | [] => { r with done := r.done ++ ts }
  | frame :: rest => { r with opened := { frame with nested := frame.nested ++ ts } :: rest }

/-- Closes the innermost open type at an offset. -/
def close (stop : Nat) (r : Reading) : Reading :=
  match r.opened with
  | [] => r
  | frame :: rest =>
    let t := { frame.declared with span := { frame.declared.span with stop } }
    addClosed (t :: frame.nested) { r with opened := rest }

/-- Changes the innermost open type. -/
def change (f : DeclaredType → DeclaredType) (r : Reading) : Reading :=
  match r.opened with
  | [] => r
  | frame :: rest => { r with opened := { frame with declared := f frame.declared } :: rest }

/-- The scope of a type that opens here: the open namespaces and types, outermost first. -/
def scope (r : Reading) : Option String :=
  let path := r.namespaces.reverse ++ (r.opened.map (·.declared.decl.name)).reverse
  if path.isEmpty then none else some (".".intercalate path)

end Reading

/-- The kind that a word stands for. -/
def kindOf (word : List Char) : TypeKind :=
  let isWord (w : String) := Text.sameIgnoringCase word w.toList
  if isWord "structure" then .struct
  else if isWord "interface" then .interface
  else if isWord "enum" then .enum
  else if isWord "module" then .module
  else .class

/-- From where a member with such modifiers can be used. -/
def accessOf (mods : List (List Char)) : Access :=
  let isProtected := hasModifier mods "protected"
  let isFriend := hasModifier mods "friend"
  if hasModifier mods "public" then .everywhere
  else if isProtected && isFriend then .derivedOrAssembly
  else if isProtected then .derived
  else if isFriend then .assembly
  else if hasModifier mods "private" then .inside
  else .everywhere

/-- Opens a type on a line. -/
def openType (header : TypeHeader) (line : Line) (r : Reading) : Reading :=
  let decl : TypeDecl :=
    { name := String.ofList header.name
      scope := r.scope
      kind := kindOf header.word
      parameters := ((header.parameters.map splitList).getD []).map String.ofList
      ignoresCase := true }
  { r with opened := { declared := { decl, span := line.span } } :: r.opened }

/-! ## Members over several lines -/

/-- What the accessors of a property show. -/
structure Accessors where
  /-- Whether there is a getter. -/
  getter : Bool := false
  /-- Whether there is a setter that can be used from outside. -/
  setter : Bool := false

/-- The accessors with one more. The last of a setter's modifiers decides whether it is hidden. -/
def Accessors.add (a : Accessors) (header : AccessorHeader) : Accessors :=
  if header.isGetter then { a with getter := true }
  else
    let hidden := header.modifiers.getLast?.any fun m =>
      Text.sameIgnoringCase m "private".toList || Text.sameIgnoringCase m "protected".toList
    { a with setter := a.setter || !hidden }

/-- Reads accessors up to the line that ends the property, or to the last line. Returns them with
the number of lines read. -/
def readAccessors (a : Accessors) : List Line → Nat × Accessors
  | [] => (0, a)
  | line :: rest =>
    let text := code line.text
    if beginsEnd "property".toList text then (1, a)
    else
      let a := match accessorHeader? text with
        | some header => a.add header
        | none => a
      let (count, a) := readAccessors a rest
      (count + 1, a)

/-- The accessors of a property in the lines after its first, if these begin with an accessor, and
the number of lines they take. -/
def accessorsAfter? (rest : List Line) : Option (Nat × Accessors) :=
  let skipped := rest.takeWhile fun line => isSkipped line.text
  match rest.dropWhile fun line => isSkipped line.text with
  | [] => none
  | line :: more =>
    if (accessorHeader? (code line.text)).isSome then
      let (count, a) := readAccessors {} (line :: more)
      some (skipped.length + count, a)
    else none

/-- The number of lines up to the first that ends a block of a word, if there is one. -/
def linesToEnd? (word : List Char) (rest : List Line) : Option Nat :=
  (rest.findIdx? fun line => beginsEnd word (code line.text)).map (· + 1)

/-- The number of lines after its first that a member takes. -/
def blockLength (header : BlockHeader) (inInterface : Bool) (rest : List Line) : Nat :=
  let isBlock :=
    if Text.sameIgnoringCase header.word "event".toList then
      hasModifier header.modifiers "custom"
    else !inInterface && !hasModifier header.modifiers "mustoverride"
  if isBlock then (linesToEnd? header.word rest).getD 0 else 0

/-- The span from a line to the line so many lines after it. -/
def spanOver (line : Line) (rest : List Line) (count : Nat) : Span :=
  ⟨line.span.start, (((line :: rest)[count]?).getD line).span.stop⟩

/-- A property as its first line and the lines after it declare it, with its span and the number of
further lines that it takes. -/
def readProperty (header : PropertyHeader) (kind : TypeKind) (line : Line) (rest : List Line) :
    Property × Span × Nat :=
  let mods := header.modifiers
  let typeText := match header.annotation with
    | some a => propertyType a.isNew a.text
    | none => []
  let readOnly := hasModifier mods "readonly"
  let oneLine := kind == .interface || hasModifier mods "mustoverride"
  let expanded := if oneLine then none else accessorsAfter? rest
  let (count, getter, setter) := match expanded with
    | some (count, a) => (count, a.getter, a.setter && !readOnly)
    | none => (0, !hasModifier mods "writeonly", !readOnly)
  let p : Property :=
    { name := String.ofList header.name
      typeText := if typeText.isEmpty then "Object" else String.ofList typeText
      isStatic := kind == .module || hasModifier mods "shared"
      hasGetter := getter
      hasSetter := setter
      access := accessOf mods }
  (p, spanOver line rest count, count)

/-! ## Lines -/

/-- Reads a line inside a type of a kind; returns the number of further lines that its construct
takes. -/
def readMember (kind : TypeKind) (text : List Char) (line : Line) (rest : List Line) (r : Reading) :
    Reading × Nat :=
  if kind = .enum then
    match enumMemberName? text with
    | some name =>
      (r.change fun t =>
        { t with decl := { t.decl with members := t.decl.members ++ [String.ofList name] } }, 0)
    | none => (r, 0)
  else
    match baseText? text with
    | some bases =>
      (r.change fun t =>
        { t with
          decl := { t.decl with bases := t.decl.bases ++ (splitList bases).map String.ofList } }, 0)
    | none =>
      match propertyHeader? text with
      | some header =>
        let (p, span, count) := readProperty header kind line rest
        (r.change (·.addProperty p span), count)
      | none =>
        match blockHeader? text with
        | some header =>
          let count := blockLength header (kind == .interface) rest
          (r.change (·.addMember (spanOver line rest count)), count)
        | none => if isField text then (r.change (·.addMember line.span), 0) else (r, 0)

/-- Reads the construct that begins on a line; returns the number of further lines that it takes. -/
def readLine (line : Line) (rest : List Line) (r : Reading) : Reading × Nat :=
  if isSkipped line.text then (r, 0)
  else
    let text := code line.text
    match namespaceName? text with
    | some name => ({ r with namespaces := String.ofList name :: r.namespaces }, 0)
    | none =>
      if endsNamespace text then ({ r with namespaces := r.namespaces.tail }, 0)
      else
        match typeHeader? text with
        | some header => (openType header line r, 0)
        | none =>
          if endsType text then (r.close line.span.stop, 0)
          else
            match r.opened with
            | [] => (r, 0)
            | frame :: _ => readMember frame.declared.decl.kind text line rest r

/-- Reads lines, the first `skip` of which belong to a construct that was read before. -/
def readLines : Nat → List Line → Reading → Reading
  | _, [], r => r
  | skip + 1, _ :: rest, r => readLines skip rest r
  | 0, line :: rest, r =>
    let (r, skip) := readLine line rest r
    readLines skip rest r

/-- The offset behind the last line. -/
def lastOffset (ls : List Line) : Nat := (ls.getLast?.map (·.span.stop)).getD 0

/-- The outline of a document. -/
def outline (source : List Char) : Outline :=
  let ls := lines source
  let r := readLines 0 ls {}
  ⟨(r.opened.foldl (fun r _ => r.close (lastOffset ls)) r).done⟩

end ViewForge.VisualBasic
