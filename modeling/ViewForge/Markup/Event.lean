import ViewForge.Text.Match

/-!
# Markup events

A text of markup is read as a sequence of tags, texts, comments and other constructs. Names,
attributes and entities are not looked into: each event carries what stands between its delimiters.
-/

namespace ViewForge.Markup

/-- One construct of a markup text. -/
inductive Event where
  /-- A start tag with everything between its angle brackets. -/
  | start (content : List Char)
  /-- An empty-element tag with everything before its slash. -/
  | empty (content : List Char)
  /-- An end tag with its name. -/
  | close (name : List Char)
  /-- Text between markup. -/
  | text (content : List Char)
  /-- A section of unparsed text. -/
  | cdata (content : List Char)
  /-- A comment. -/
  | comment (content : List Char)
  /-- A processing instruction or an XML declaration. -/
  | instruction (content : List Char)
  /-- A document type, from its name on. -/
  | doctype (content : List Char)
  deriving Repr, DecidableEq

/-- A space, tab, line feed or carriage return. -/
def isMarkupBlank (c : Char) : Bool := c == ' ' || c == '\t' || c == '\n' || c == '\r'

namespace Event

/-- The text of an event. -/
def source : Event → List Char
  | start content => '<' :: content ++ ['>']
  | empty content => '<' :: content ++ ['/', '>']
  | close name => '<' :: '/' :: name ++ ['>']
  | text content => content
  | cdata content => "<![CDATA[".toList ++ content ++ "]]>".toList
  | comment content => "<!--".toList ++ content ++ "-->".toList
  | instruction content => '<' :: '?' :: content ++ ['?', '>']
  | doctype content => "<!DOCTYPE ".toList ++ content ++ ['>']

/-- The name of a tag: everything up to its first blank. -/
def tagName (content : List Char) : List Char := content.takeWhile (!isMarkupBlank ·)

/-- Text that holds ASCII white space alone, which is layout and not content. -/
def isLayout : Event → Bool
  | text content => content.all Text.isAsciiBlank
  | _ => false

end Event

/-! ## Reading -/

/-- The text of a tag up to its closing angle bracket, and the text after that. The bracket is the
first one outside quotes; `quote` is the quote that is open. -/
def tagEnd? : Option Char → List Char → Option (List Char × List Char)
  | _, [] => none
  | none, c :: cs =>
    if c = '>' then some ([], cs)
    else
      (tagEnd? (if c = '"' || c = '\x27' then some c else none) cs).map
        fun (content, rest) => (c :: content, rest)
  | some quote, c :: cs =>
    (tagEnd? (if c = quote then none else some quote) cs).map
      fun (content, rest) => (c :: content, rest)

/-- The text of a document type up to its closing angle bracket, and the text after that; brackets
inside it are balanced and `depth` of them are open. -/
def doctypeEnd? : Nat → List Char → Option (List Char × List Char)
  | _, [] => none
  | depth, c :: cs =>
    if c = '>' && depth = 0 then some ([], cs)
    else
      let depth := if c = '<' then depth + 1 else if c = '>' then depth - 1 else depth
      (doctypeEnd? depth cs).map fun (content, rest) => (c :: content, rest)

/-- A name without the blanks after it; a name of blanks alone stays. -/
def trimName (name : List Char) : List Char :=
  if name.all isMarkupBlank then name
  else (name.reverse.dropWhile isMarkupBlank).reverse

/-- The tag that the text between angle brackets is: empty if it ends in a slash. -/
def tagOf (content : List Char) : Event :=
  match content.reverse with
  | '/' :: inner => .empty inner.reverse
  | _ => .start content

/-- The construct after `<!`: a comment, an unparsed section or a document type. -/
def readDeclaration? (cs : List Char) : Option (Event × List Char) :=
  match Text.after? ['-', '-'] cs with
  | some body =>
    (Text.cut? ['-', '-', '>'] body).map fun (content, rest) => (.comment content, rest)
  | none =>
    match Text.after? "[CDATA[".toList cs with
    | some body =>
      (Text.cut? [']', ']', '>'] body).map fun (content, rest) => (.cdata content, rest)
    | none => do
      let body ← Text.afterIgnoringCase? "doctype".toList cs
      let (content, rest) ← doctypeEnd? 0 body
      let content := content.dropWhile isMarkupBlank
      if content.isEmpty then none else some (.doctype content, rest)

/-- The construct after `<` and the text after it. -/
def readMarkup? : List Char → Option (Event × List Char)
  | '!' :: cs => readDeclaration? cs
  | '?' :: cs =>
    match Text.cut? ['?', '>'] ('?' :: cs) with
    | some (_ :: content, rest) => some (.instruction content, rest)
    | _ => none
  | '/' :: cs => (tagEnd? none cs).map fun (name, rest) => (.close (trimName name), rest)
  | cs => (tagEnd? none cs).map fun (content, rest) => (tagOf content, rest)

/-- The next event of a text that is not empty, and the text after it. -/
def readEvent? : List Char → Option (Event × List Char)
  | '<' :: cs => readMarkup? cs
  | cs => some (.text (cs.takeWhile (· != '<')), cs.dropWhile (· != '<'))

/-- The events of a text, if all of it can be read. The fuel is at least its length. -/
def eventsWith? : Nat → List Char → Option (List Event)
  | _, [] => some []
  | 0, _ :: _ => none
  | fuel + 1, cs => do
    let (event, rest) ← readEvent? cs
    let events ← eventsWith? fuel rest
    pure (event :: events)

/-- The events of a text, if all of it can be read. -/
def events? (cs : List Char) : Option (List Event) := eventsWith? cs.length cs

/-- Whether every end tag closes the latest open start tag by its name, and none stays open; the
names of the open tags are given, latest first. -/
def closesAll : List (List Char) → List Event → Bool
  | opened, [] => opened.isEmpty
  | opened, .start content :: events => closesAll (Event.tagName content :: opened) events
  | opened, .close name :: events =>
    match opened with
    | expected :: opened => name == expected && closesAll opened events
    | [] => false
  | opened, _ :: events => closesAll opened events

/-- Whether start and end tags match one by one. -/
def balanced (events : List Event) : Bool := closesAll [] events

end ViewForge.Markup
