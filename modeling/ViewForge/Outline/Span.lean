/-!
# Spans

Places in a text, counted in characters.
-/

namespace ViewForge

/-- A range of characters from `start` up to `stop`. -/
structure Span where
  /-- The offset of the first character. -/
  start : Nat
  /-- The offset behind the last character. -/
  stop : Nat
  deriving Repr, DecidableEq, Inhabited

namespace Span

/-- A caret is in a span from just before its first character to just after its last. -/
def contains (s : Span) (caret : Nat) : Bool := s.start ≤ caret && caret ≤ s.stop

/-- Whether a span shares a caret with the carets from `first` to `last`. -/
def meets (s : Span) (first last : Nat) : Bool := s.start ≤ last && first ≤ s.stop

/-- The number of characters. -/
def length (s : Span) : Nat := s.stop - s.start

/-- Whether a span holds no character. -/
def isEmpty (s : Span) : Bool := s.length == 0

end Span

end ViewForge
