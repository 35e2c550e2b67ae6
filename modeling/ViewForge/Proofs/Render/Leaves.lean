import ViewForge.Render.Expansion

/-!
# The leaves of renderings

A rendering is a tree, since a marker may become a group of renderings. Its leaves are its pieces
without the groups, in the order in which they stand in the text (`letters_renderingLeaves`), so
that a statement about the text from left to right is one about the list of leaves.

`Piece.Fills` says what a piece may stand for: it tells apart the values of the counter, which come
from the two markers of the counter and from nothing else. `GroupFills` says of renderings that
each of them has one piece for each part of a template of the profile.
-/

namespace ViewForge.Render

/-! ## Leaves -/

/-- The line feed between two renderings of a group. -/
def lineFeed : Piece := .literal ['\n']

mutual

/-- The leaves of a piece. -/
def Piece.leaves : Piece → List Piece
  | .group renderings => [lineFeed].intercalate (groupLeaves renderings)
  | .literal letters => [.literal letters]
  | .value text => [.value text]
  | .counted n => [.counted n]
  | .repeated n => [.repeated n]
  | .elementName name => [.elementName name]
  | .previousName name => [.previousName name]

/-- The leaves of a rendering. -/
def renderingLeaves : List Piece → List Piece
  | [] => []
  | piece :: pieces => piece.leaves ++ renderingLeaves pieces

/-- The leaves of each rendering of a group. -/
def groupLeaves : List (List Piece) → List (List Piece)
  | [] => []
  | rendering :: rest => renderingLeaves rendering :: groupLeaves rest

end

/-- The leaves of renderings one below the other. -/
def joinedLeaves (renderings : List Rendering) : List Piece :=
  [lineFeed].intercalate (groupLeaves renderings)

/-- The text of leaves. -/
def leafLetters (leaves : List Piece) : List Char := leaves.flatMap Piece.letters

/-- The text of leaves put between others is put between the texts of those. -/
theorem leafLetters_intercalate (between : List Piece) (lists : List (List Piece)) :
    leafLetters (between.intercalate lists) =
      (leafLetters between).intercalate (lists.map leafLetters) := by
  unfold leafLetters
  induction lists with
  | nil => rfl
  | cons first rest ih =>
    cases rest with
    | nil => rw [List.map_singleton, List.intercalate_singleton, List.intercalate_singleton]
    | cons second rest =>
      rw [List.intercalate_cons_cons, List.flatMap_append, List.flatMap_append, ih]
      simp only [List.map_cons, List.intercalate_cons_cons]

mutual

/-- The leaves of a piece have its text. -/
theorem letters_leaves : (piece : Piece) → leafLetters piece.leaves = piece.letters
  | .group renderings => by
    rw [Piece.leaves, Piece.letters, leafLetters_intercalate, letters_groupLeaves renderings]
    rfl
  | .literal letters => List.append_nil letters
  | .value text => List.append_nil text.toList
  | .counted n => List.append_nil (toString n).toList
  | .repeated n => List.append_nil (toString n).toList
  | .elementName name => List.append_nil name.toList
  | .previousName name => List.append_nil (name.getD "").toList

/-- The leaves of a rendering have its text. -/
theorem letters_renderingLeaves :
    (pieces : List Piece) → leafLetters (renderingLeaves pieces) = renderingLetters pieces
  | [] => rfl
  | piece :: pieces => by
    rw [renderingLeaves, renderingLetters, ← letters_leaves piece,
      ← letters_renderingLeaves pieces]
    exact List.flatMap_append

/-- The leaves of the renderings of a group have their texts. -/
theorem letters_groupLeaves : (renderings : List (List Piece)) →
    (groupLeaves renderings).map leafLetters = groupLetters renderings
  | [] => rfl
  | rendering :: rest => by
    rw [groupLeaves, groupLetters, List.map_cons, letters_renderingLeaves rendering,
      letters_groupLeaves rest]

end

/-- The leaves of renderings one below the other have their text. -/
theorem letters_joinedLeaves (renderings : List Rendering) :
    leafLetters (joinedLeaves renderings) = joined renderings := by
  unfold joinedLeaves joined
  rw [leafLetters_intercalate, letters_groupLeaves]
  rfl

/-! ## What the pieces stand for -/

/-- The templates of a profile. -/
def templates (p : Profile) : List String :=
  p.fallback :: p.nestedFallback :: p.enumMember :: p.rules.map (·.output)

mutual

/-- Whether a piece is what a part of a template may become. Values of the counter stand for its
two markers and for nothing else, and a group stands for a marker that expands members. -/
def Piece.Fills (profile : Profile) (part : Template.Part) : Piece → Prop
  | .literal letters => part = .text letters
  | .counted _ => ∃ offset, part = .marker .counter offset
  | .repeated _ => ∃ offset, part = .marker .lastCounter offset
  | .elementName _ => ∃ offset, part = .marker .elementName offset
  | .previousName _ => ∃ offset, part = .marker .previousElementName offset
  | .value _ => ∃ m offset, part = .marker m offset ∧
      m ∉ [Marker.counter, .lastCounter, .elementName, .previousElementName]
  | .group renderings =>
    (∃ m offset, part = .marker m offset ∧ m ∈ [Marker.subProperties, .enumMembers]) ∧
      GroupFills profile renderings

/-- Whether pieces are what the parts of a template may become, one by one. -/
def PartsFill (profile : Profile) : List Template.Part → List Piece → Prop
  | [], [] => True
  | part :: parts, piece :: pieces => piece.Fills profile part ∧ PartsFill profile parts pieces
  | _, _ => False

/-- Whether each rendering is what some template of the profile may become. -/
def GroupFills (profile : Profile) : List (List Piece) → Prop
  | [] => True
  | rendering :: rest =>
    (∃ template ∈ templates profile, PartsFill profile (Template.parts template.toList) rendering) ∧
      GroupFills profile rest

end

/-- The template of a member is one of the profile's. -/
theorem templateFor_mem (c : Setting) (nested : Bool) (member : Shape) :
    templateFor c nested member ∈ templates c.profile := by
  unfold templateFor templates chooseRule
  cases hrule : c.profile.rules.find? (Rule.fits member) with
  | some rule =>
    have hmem := List.mem_map_of_mem (f := (·.output)) (List.mem_of_find?_eq_some hrule)
    exact List.mem_cons_of_mem _ (List.mem_cons_of_mem _ (List.mem_cons_of_mem _ hmem))
  | none =>
    cases nested with
    | true => exact List.mem_cons_of_mem _ List.mem_cons_self
    | false => exact List.mem_cons_self

end ViewForge.Render
