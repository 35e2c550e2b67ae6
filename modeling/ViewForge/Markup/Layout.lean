import ViewForge.Markup.Event

/-!
# Indented markup

Markup is laid out with one construct a line, indented by its depth. Texts and unparsed sections
keep their place: no line break is put before or after them. A text that is not well formed is left
as it is.
-/

namespace ViewForge.Markup

/-- A line break and the indentation of a depth. -/
def newLine (size depth : Nat) : List Char := '\n' :: List.replicate (size * depth) ' '

/-- The events of a document as indented text. `broken` tells whether the next construct starts a
line, `depth` how many elements are open. -/
def layOut (size : Nat) : Bool → Nat → List Event → List Char
  | _, _, [] => []
  | broken, depth, event :: events =>
    let lead (depth : Nat) := if broken then newLine size depth else []
    match event with
    | .text _ | .cdata _ => event.source ++ layOut size false depth events
    | .start _ => lead depth ++ event.source ++ layOut size true (depth + 1) events
    | .close _ => lead (depth - 1) ++ event.source ++ layOut size true (depth - 1) events
    | _ => lead depth ++ event.source ++ layOut size true depth events

/-- A text without the byte-order mark at its start. -/
def dropMark : List Char → List Char
  | '\ufeff' :: cs => cs
  | cs => cs

/-- The events of a well-formed text. -/
def wellFormed? (cs : List Char) : Option (List Event) := (events? (dropMark cs)).filter balanced

/-- A text of markup laid out with `size` blanks a level; a text that is not well formed stays as
it is. -/
def format (size : Nat) (cs : List Char) : List Char :=
  match wellFormed? cs with
  | some events => layOut size false 0 (events.filter (!·.isLayout))
  | none => cs

end ViewForge.Markup
