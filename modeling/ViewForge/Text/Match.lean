import ViewForge.Text.Blank

/-!
# Comparing and finding text

Comparison that ignores the case of ASCII letters, what follows a leading text, and where a text
stands inside another.
-/

namespace ViewForge.Text

/-- Equality of texts up to the case of ASCII letters. -/
def sameIgnoringCase : List Char → List Char → Bool
  | [], [] => true
  | a :: as, b :: bs => a.toLower == b.toLower && sameIgnoringCase as bs
  | _, _ => false

/-- Equality of strings up to the case of ASCII letters. -/
def equalIgnoringCase (a b : String) : Bool := sameIgnoringCase a.toList b.toList

/-- What follows a leading text. -/
def after? (lead : List Char) (cs : List Char) : Option (List Char) :=
  match lead, cs with
  | [], cs => some cs
  | l :: lead, c :: cs => if l = c then after? lead cs else none
  | _ :: _, [] => none

/-- What follows a leading text, up to the case of ASCII letters. -/
def afterIgnoringCase? (lead : List Char) (cs : List Char) : Option (List Char) :=
  match lead, cs with
  | [], cs => some cs
  | l :: lead, c :: cs =>
    if l.toLower = c.toLower then afterIgnoringCase? lead cs else none
  | _ :: _, [] => none

/-- The text before the first place where `mark` stands, and the text after it. -/
def cut? (mark : List Char) : List Char → Option (List Char × List Char)
  | [] => if mark.isEmpty then some ([], []) else none
  | c :: cs =>
    match after? mark (c :: cs) with
    | some rest => some ([], rest)
    | none => (cut? mark cs).map fun (before, rest) => (c :: before, rest)

/-- Whether a text stands somewhere inside another. -/
def occursIn (mark cs : List Char) : Bool := (cut? mark cs).isSome

end ViewForge.Text
