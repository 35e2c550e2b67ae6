/-!
# Carets

A caret is given as an offset, or as a line and a column that are counted from one. Lines end with
a line feed, and a caret may stand before the carriage returns at the end of its line but not
behind them.
-/

namespace ViewForge

/-- A place in a document between two characters. -/
inductive Caret where
  /-- The number of characters before it. -/
  | offset (n : Nat)
  /-- The line and the column, both counted from one. -/
  | lineColumn (line column : Nat)
  deriving Repr, DecidableEq

/-- Why a line and a column are no place of a text. -/
inductive CaretFault where
  /-- Lines and columns are counted from one. -/
  | zero
  /-- The line has too few characters. -/
  | column (column line width : Nat)
  /-- There are too few lines. -/
  | line (line : Nat)
  deriving Repr, DecidableEq

/-- The message that reports a fault. -/
def CaretFault.message : CaretFault → String
  | zero => "line and column are one-based"
  | column c l width =>
    "column " ++ toString c ++ " is past the end of line " ++ toString l ++ " (" ++
      toString width ++ " characters)"
  | line l => "line " ++ toString l ++ " is past the end of the document"

namespace Caret

/-- The lines of a text, each with its line feed. -/
def lines : List Char → List (List Char)
  | [] => []
  | c :: cs =>
    if c = '\n' then [c] :: lines cs
    else
      match lines cs with
      | [] => [[c]]
      | line :: rest => (c :: line) :: rest

/-- The number of characters of a line without what ends it. -/
def width (line : List Char) : Nat :=
  (line.reverse.dropWhile fun c => c == '\n' || c == '\r').length

/-- The offset of a line and column in a text. Behind the last line there is one more, which is
empty and begins where the text ends. -/
def offsetOf (text : List Char) (line column : Nat) : Except CaretFault Nat :=
  if line = 0 || column = 0 then .error .zero
  else
    let all := lines text
    match all[line - 1]? with
    | some found =>
      if column > width found + 1 then .error (.column column line (width found))
      else .ok ((all.take (line - 1)).flatten.length + column - 1)
    | none => if column = 1 && line = all.length + 1 then .ok text.length else .error (.line line)

/-- The offset of a caret in a text. -/
def resolve (text : List Char) : Caret → Except CaretFault Nat
  | offset n => .ok n
  | lineColumn line column => offsetOf text line column

end Caret

end ViewForge
