import ViewForge.Template.Marker

/-!
# Parts of a template

A template is cut into literal text and markers. Anything else between dollar signs is text;
a word of small letters between dollar signs that is no marker is reported as unknown.
-/

namespace ViewForge.Template

/-- A piece of a template. -/
inductive Part where
  /-- Text that is copied as it stands. -/
  | text (letters : List Char)
  /-- A marker and the byte offset at which it begins. -/
  | marker (m : Marker) (offset : Nat)
  deriving Repr, DecidableEq

/-- A character in front of parts; it joins a text that comes first. -/
def Part.cons (c : Char) : List Part → List Part
  | .text letters :: parts => .text (c :: letters) :: parts
  | parts => .text [c] :: parts

/-- The parts of a text that begins at a byte offset. The fuel is at least its length. -/
def partsWith : Nat → Nat → List Char → List Part
  | 0, _, _ => []
  | _, _, [] => []
  | fuel + 1, offset, c :: cs =>
    match Marker.leading? (c :: cs) with
    | some (m, rest) => .marker m offset :: partsWith fuel (offset + m.spelling.length) rest
    | none => Part.cons c (partsWith fuel (offset + c.utf8Size) cs)

/-- The parts of a template. -/
def parts (template : List Char) : List Part := partsWith template.length 0 template

/-- Whether a template holds a marker. -/
def mentions (template : List Char) (m : Marker) : Bool :=
  (parts template).any fun
    | .marker m' _ => m' == m
    | .text _ => false

/-- The words of small letters between dollar signs that are no markers. The fuel is at least the
length of the text. -/
def unknownWith : Nat → List Char → List (List Char)
  | 0, _ => []
  | _, [] => []
  | fuel + 1, c :: cs =>
    if c = '$' then
      match Marker.leading? (c :: cs) with
      | some (_, rest) => unknownWith fuel rest
      | none =>
        let inner := cs.takeWhile (· != '$')
        match cs.dropWhile (· != '$') with
        | [] => []
        | _ :: rest =>
          if !inner.isEmpty && inner.all Char.isLower then
            ('$' :: inner ++ ['$']) :: unknownWith fuel rest
          else unknownWith fuel cs
    else unknownWith fuel cs

/-- The words of small letters between dollar signs that are no markers, in order. -/
def unknownMarkers (template : List Char) : List (List Char) :=
  unknownWith template.length template

/-- The text of parts in which each marker is replaced, from left to right, by what `value` gives
for it; `value` also passes a state on. -/
def fill {σ : Type} (value : Marker → Nat → σ → List Char × σ) : List Part → σ → List Char × σ
  | [], s => ([], s)
  | .text letters :: parts, s =>
    let (rest, s) := fill value parts s
    (letters ++ rest, s)
  | .marker m offset :: parts, s =>
    let (letters, s) := value m offset s
    let (rest, s) := fill value parts s
    (letters ++ rest, s)

end ViewForge.Template
