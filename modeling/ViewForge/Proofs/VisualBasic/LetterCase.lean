import ViewForge.Proofs.VisualBasic.Parallel

/-!
# Documents in another letter case

A document in which letters of ASCII stand in another case has the same lines in the same places up
to case (`respaced_of_map_eq`), so it is read side by side with the first, and declares the same
types in the same places (`outline_of_sameIgnoringCase`).
-/

namespace ViewForge.VisualBasic

section Lines

variable {n : Char → Char} (hn : Text.Recases n)

include hn

theorem rawLines_map (cs : List Char) : rawLines (cs.map n) = (rawLines cs).map (List.map n) := by
  induction cs with
  | nil => rfl
  | cons c cs ih =>
    have hbreak : n c = '\n' ↔ c = '\n' := hn.eq_mark_iff '\n' (by decide) c
    rw [List.map_cons, rawLines, rawLines, ih]
    by_cases hc : c = '\n'
    · rw [if_pos hc, if_pos (hbreak.2 hc)]
      rfl
    · rw [if_neg hc, if_neg fun h => hc (hbreak.1 h)]
      cases rawLines cs <;> rfl

theorem dropBreak_map (raw : List Char) : dropBreak (raw.map n) = (dropBreak raw).map n := by
  have hbreak (c : Char) : (n c == '\n' || n c == '\r') = (c == '\n' || c == '\r') := by
    rw [hn.beq_mark (by decide), hn.beq_mark (by decide)]
  rw [dropBreak, dropBreak, ← List.map_reverse, (Text.span_map hbreak raw.reverse).2,
    List.map_reverse]

/-- Lines that are the same up to case stand in the same places. -/
theorem respaced_of_map_eq {raws raws' : List (List Char)}
    (h : raws'.map (List.map n) = raws.map (List.map n)) (offset : Nat) :
    Respaced n id (place offset raws) (place offset raws') := by
  induction raws generalizing raws' offset with
  | nil =>
    rw [List.map_nil, List.map_eq_nil_iff] at h
    rw [h]
    exact .nil
  | cons raw raws ih =>
    obtain ⟨raw', raws', rfl, hraw, hraws⟩ := List.map_eq_cons_iff.1 h
    have htext : (dropBreak raw').map n = (dropBreak raw).map n :=
      Text.image_eq_of_image_eq (dropBreak_map hn) hraw
    have hlength : (dropBreak raw').length = (dropBreak raw).length := by
      simpa using congrArg List.length htext
    -- Line feeds are kept by the case, so the lines and their breaks have the same lengths and the
    -- offsets go on together.
    have hoffset : raw'.length = raw.length := by simpa using congrArg List.length hraw
    refine .keep ⟨htext, ?_⟩ ?_
    · show Span.mk offset (offset + (dropBreak raw').length) = _
      rw [hlength]
      rfl
    · rw [hoffset]
      exact ih hraws _

end Lines

/-- The outline of a document does not depend on letter case: the types, their members and flags and
all places are the same in any case, and names and texts are the same up to case. -/
theorem outline_of_sameIgnoringCase {source source' : List Char}
    (h : Text.sameIgnoringCase source source' = true) :
    List.Forall₂ (DeclaredType.Like (fun a b => Text.equalIgnoringCase a b = true) Eq)
      (outline source).types (outline source').types := by
  have hn := Text.Recases.toLower
  have hraws : (rawLines source').map (List.map Char.toLower) =
      (rawLines source).map (List.map Char.toLower) := by
    rw [← rawLines_map hn, ← rawLines_map hn, Text.sameIgnoringCase_iff.1 h]
  have hlike := outline_like hn (respaced_of_map_eq hn hraws 0)
  refine hlike.imp fun t t' ht => ht.imp (fun a b hab => ?_) fun s s' hs => hs.symm
  exact Text.sameIgnoringCase_iff.2 hab

/-- A property in capital letters is that property. -/
theorem outline_capitals :
    Text.sameIgnoringCase "Class A\nProperty B As Integer\nEnd Class".toList
        "CLASS A\nPROPERTY B AS INTEGER\nEND CLASS".toList = true ∧
      List.Forall₂ (DeclaredType.Like (fun a b => Text.equalIgnoringCase a b = true) Eq)
        (outline "Class A\nProperty B As Integer\nEnd Class".toList).types
        (outline "CLASS A\nPROPERTY B AS INTEGER\nEND CLASS".toList).types := by
  have hsame : Text.sameIgnoringCase "Class A\nProperty B As Integer\nEnd Class".toList
      "CLASS A\nPROPERTY B AS INTEGER\nEND CLASS".toList = true := by decide
  exact ⟨hsame, outline_of_sameIgnoringCase hsame⟩

end ViewForge.VisualBasic
