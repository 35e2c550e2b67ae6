import ViewForge.Proofs.Model.Identity
import ViewForge.Proofs.VisualBasic.Origin

/-!
# The names and the extent of Visual Basic types

The name of a type is a run of word characters, whatever line opens it, so it holds no point
(`pointless_of_typeHeader?`); and no construct that is read afterwards changes it. The types of a
document are thus named as those of the language (`isNamed_of_mem_outline`), and they end within its
text (`stop_le_of_mem_outline`).
-/

namespace ViewForge.VisualBasic

/-! ## Names -/

/-- The name of a type that a line opens holds no point. -/
theorem pointless_of_typeHeader? {text : List Char} {header : TypeHeader}
    (h : typeHeader? text = some header) : '.' ∉ header.name := by
  obtain ⟨cs, -, hread⟩ := List.exists_of_findSome?_eq_some h
  obtain ⟨word, -, hread⟩ := Option.bind_eq_some_iff.1 hread
  obtain ⟨rest, -, hread⟩ := Option.bind_eq_some_iff.1 hread
  obtain ⟨name, hname, hread⟩ := Option.bind_eq_some_iff.1 hread
  rw [← Option.some.inj hread]
  unfold name? at hname
  dsimp only at hname
  split at hname
  · exact nomatch hname
  · rw [← Option.some.inj hname]
    intro hmem
    have hword : Text.isWord '.' = true := List.mem_takeWhile_imp hmem
    exact absurd hword (by decide)

/-! ## Extent -/

/-- The raw lines of a text are the text. -/
theorem flatten_rawLines (cs : List Char) : (rawLines cs).flatten = cs := by
  induction cs with
  | nil => rfl
  | cons c cs ih =>
    unfold rawLines
    split
    · rw [List.flatten_cons, ih, List.singleton_append]
    · cases h : rawLines cs with
      | nil =>
        rw [h] at ih
        rw [← ih]
        rfl
      | cons line more =>
        rw [h, List.flatten_cons] at ih
        show c :: line ++ more.flatten = c :: cs
        rw [List.cons_append, ih]

/-- Lines placed from an offset on end within their text. -/
theorem lastOffset_place_le (raws : List (List Char)) (first : Nat) :
    lastOffset (place first raws) ≤ first + raws.flatten.length := by
  induction raws generalizing first with
  | nil => exact Nat.zero_le _
  | cons raw rest ih =>
    rw [List.flatten_cons, List.length_append]
    cases rest with
    | nil =>
      have hle := length_dropBreak_le raw
      show first + (dropBreak raw).length ≤ _
      omega
    | cons raw' rest =>
      have hlast : lastOffset (place first (raw :: raw' :: rest)) =
          lastOffset (place (first + raw.length) (raw' :: rest)) := lastOffset_cons_cons _ _ _
      have hle := ih (first + raw.length)
      omega

/-! ## Documents -/

/-- The types of a document are named as those of the language: without points, and in any letter
case. -/
theorem isNamed_of_mem_outline (source : List Char) :
    ∀ t ∈ (outline source).types, t.decl.IsNamed true := by
  refine Invariant.of_mem_outline ⟨fun _ _ hheader _ => ⟨rfl, ?_⟩, fun h _ => h,
    fun h _ => ⟨h.ignoresCase, h.pointless⟩, fun h _ => ⟨h.ignoresCase, h.pointless⟩,
    fun h _ _ _ _ _ _ => ⟨h.ignoresCase, h.pointless⟩, fun h _ => h⟩
  show '.' ∉ (String.ofList _).toList
  rw [String.toList_ofList]
  exact pointless_of_typeHeader? hheader

/-- The types of a document end within its text. -/
theorem stop_le_of_mem_outline (source : List Char) :
    ∀ t ∈ (outline source).types, t.span.stop ≤ source.length := by
  have hread := before_lines source
  have hlast : lastOffset (lines source) ≤ 0 + (rawLines source).flatten.length :=
    lastOffset_place_le _ 0
  rw [flatten_rawLines] at hlast
  rw [types_outline]
  intro t ht
  have hstop := (hread.known _ t ht).stop_lt
  omega

end ViewForge.VisualBasic
