import ViewForge.Outline.Span

/-!
# From bytes to characters

Spans count characters, where a text that is stored has bytes. The characters of a text begin at
increasing byte offsets, and how many of them begin before an offset is found among these by
halving.
-/

namespace ViewForge

/-! ## Where characters begin -/

/-- The byte offsets at which characters begin, the first of them at the given one. -/
def startsFrom (offset : Nat) : List Char → List Nat
  | [] => []
  | c :: cs => offset :: startsFrom (offset + c.utf8Size) cs

/-- A text has the bytes of its first character and those of the others. -/
theorem utf8ByteSize_ofList_cons (c : Char) (cs : List Char) :
    (String.ofList (c :: cs)).utf8ByteSize = c.utf8Size + (String.ofList cs).utf8ByteSize := by
  rw [← List.singleton_append, String.ofList_append, String.utf8ByteSize_append,
    ← String.singleton_eq_ofList, String.utf8ByteSize_singleton]

/-- Characters begin within their text. -/
theorem startsFrom_bounds {offset start : Nat} {cs : List Char}
    (h : start ∈ startsFrom offset cs) :
    offset ≤ start ∧ start < offset + (String.ofList cs).utf8ByteSize := by
  induction cs generalizing offset with
  | nil => exact nomatch h
  | cons c cs ih =>
    have hpos := c.utf8Size_pos
    rw [utf8ByteSize_ofList_cons]
    rcases List.mem_cons.1 h with rfl | h
    · omega
    · have := ih h
      omega

/-- Each character begins before the next. -/
theorem startsFrom_increasing (offset : Nat) (cs : List Char) :
    (startsFrom offset cs).Pairwise (· < ·) := by
  induction cs generalizing offset with
  | nil => exact .nil
  | cons c cs ih =>
    refine List.pairwise_cons.2 ⟨fun start hstart => ?_, ih _⟩
    have := c.utf8Size_pos
    have := (startsFrom_bounds hstart).1
    omega

/-! ## Halving -/

/-- The first index from `low` on of an item that fails a test, or `high` if there is none before,
in an array in which the items that pass stand before those that fail. -/
def partitionPoint {α : Type} (items : Array α) (test : α → Bool) (low high : Nat)
    (hhigh : high ≤ items.size) : Nat :=
  if hlow : low < high then
    let middle := low + (high - low) / 2
    have hmiddle : middle < items.size := by omega
    if test items[middle] then partitionPoint items test (middle + 1) high hhigh
    else partitionPoint items test low middle (by omega)
  else low
termination_by high - low

/-! ## The map -/

/-- Where the characters of a text begin. -/
structure OffsetMap where
  /-- The byte offset at which each character begins. -/
  starts : Array Nat
  /-- The number of bytes of the text. -/
  byteLength : Nat
  /-- Each character begins before the next. -/
  increasing : starts.toList.Pairwise (· < ·)
  /-- Characters begin within the text. -/
  bounded : ∀ start ∈ starts, start < byteLength

namespace OffsetMap

/-- The map of a text. -/
def ofText (text : String) : OffsetMap where
  starts := (startsFrom 0 text.toList).toArray
  byteLength := text.utf8ByteSize
  increasing := startsFrom_increasing 0 text.toList
  bounded start hstart := by
    have h := (startsFrom_bounds (List.mem_toArray.1 hstart)).2
    rwa [Nat.zero_add, String.ofList_toList] at h

/-- The character offset of a byte offset; inside a character that of the next one. -/
def charOffset (m : OffsetMap) (byte : Nat) : Nat :=
  if byte ≥ m.byteLength then m.starts.size
  else partitionPoint m.starts (· < byte) 0 m.starts.size (Nat.le_refl _)

/-- The span of the characters in a range of bytes. -/
def span (m : OffsetMap) (first last : Nat) : Span := ⟨m.charOffset first, m.charOffset last⟩

/-- The number of characters. -/
def charLength (m : OffsetMap) : Nat := m.starts.size

end OffsetMap

/-! ## Ranges of bytes -/

/-- A text without its first bytes, if a character ends with them. -/
def dropBytes? : Nat → List Char → Option (List Char)
  | 0, cs => some cs
  | _ + 1, [] => none
  | bytes + 1, c :: cs =>
    if c.utf8Size ≤ bytes + 1 then dropBytes? (bytes + 1 - c.utf8Size) cs else none

/-- The first bytes of a text, if a character ends with them. -/
def takeBytes? : Nat → List Char → Option (List Char)
  | 0, _ => some []
  | _ + 1, [] => none
  | bytes + 1, c :: cs =>
    if c.utf8Size ≤ bytes + 1 then (takeBytes? (bytes + 1 - c.utf8Size) cs).map (c :: ·) else none

/-- The characters of a text between two byte offsets, if both stand between characters. -/
def charsBetween? (cs : List Char) (first last : Nat) : Option (List Char) :=
  (dropBytes? first cs).bind (takeBytes? (last - first))

/-- The number of characters that begin before a byte offset. -/
def charsBefore (byte : Nat) (cs : List Char) : Nat :=
  (OffsetMap.ofText (String.ofList cs)).charOffset byte

end ViewForge
