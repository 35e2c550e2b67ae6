import Mathlib.Data.Finset.Card
import Mathlib.Order.CompletePartialOrder
import Mathlib.Order.Interval.Set.Disjoint
import Mathlib.Order.Interval.Set.LinearOrder
import Mathlib.Order.Monotone.Basic
import ViewForge.Outline.OffsetMap
import ViewForge.Proofs.Outline.Nesting

/-!
# Ranges of bytes as spans

Going from byte offsets to characters loses nothing of the order of places: the way back is exact at
the boundaries of characters, an offset inside a character goes on to the next one, and ranges of
bytes that share no byte, or of which one holds the other, become spans that stand to each other in
the same way (`OffsetMap.ofText_isExact`).

All of it follows from what the search among the beginnings of the characters finds: a number is
less than the character offset of a byte exactly if it is the number of a character that begins
before that byte (`OffsetMap.lt_charOffset_ofText_iff`).
-/

namespace ViewForge

/-! ## The search -/

/-- If the items that pass stand before those that fail, the indices before the partition point are
those of the items that pass. -/
theorem lt_partitionPoint_iff {α : Type} {items : Array α} {test : α → Bool}
    (hparted : ∀ (i j : Nat) (hi : i < items.size) (hj : j < items.size), i ≤ j →
      test items[j] = true → test items[i] = true)
    {low high : Nat} {hhigh : high ≤ items.size} (hle : low ≤ high)
    (hbelow : ∀ (i : Nat) (hi : i < items.size), i < low → test items[i] = true)
    (habove : ∀ (i : Nat) (hi : i < items.size), high ≤ i → test items[i] = false) (k : Nat) :
    k < partitionPoint items test low high hhigh ↔
      ∃ hk : k < items.size, test items[k] = true := by
  fun_induction partitionPoint items test low high hhigh with
  | case1 low high hhigh hlow middle hmiddle hpass ih =>
    -- The items up to the middle pass with it.
    refine ih (by omega) (fun i hi hlt => ?_) habove
    exact hparted i middle hi hmiddle (by omega) hpass
  | case2 low high hhigh hlow middle hmiddle hfail ih =>
    -- The items from the middle on fail with it.
    refine ih (by omega) hbelow fun i hi hge => ?_
    rw [Bool.eq_false_iff]
    exact fun hpass => hfail (hparted middle i hmiddle hi hge hpass)
  | case3 low high hhigh hlow =>
    refine ⟨fun hk => ⟨by omega, hbelow k (by omega) hk⟩, fun ⟨hk, hpass⟩ => ?_⟩
    by_contra hge
    rw [habove k hk (by omega)] at hpass
    exact Bool.noConfusion hpass

namespace OffsetMap

/-- A number is less than a character offset exactly if it is that of a character that begins before
the byte offset. -/
theorem lt_charOffset_iff (m : OffsetMap) (byte k : Nat) :
    k < m.charOffset byte ↔ ∃ hk : k < m.starts.size, m.starts[k] < byte := by
  unfold charOffset
  split
  case isTrue hend =>
    -- From the end of the text on there is nothing to search for.
    refine ⟨fun hk => ⟨hk, ?_⟩, fun ⟨hk, _⟩ => hk⟩
    exact Nat.lt_of_lt_of_le (m.bounded _ (Array.getElem_mem hk)) hend
  case isFalse =>
    rw [lt_partitionPoint_iff ?_ (Nat.zero_le _) (fun _ _ h => absurd h (Nat.not_lt_zero _))
      (fun _ hi hge => absurd hi (Nat.not_lt.2 hge))]
    · simp only [decide_eq_true_eq]
    · intro i j hi hj hij hpass
      rw [decide_eq_true_eq] at hpass ⊢
      rcases Nat.lt_or_eq_of_le hij with hlt | rfl
      · exact Nat.lt_trans (List.pairwise_iff_getElem.1 m.increasing i j hi hj hlt) hpass
      · exact hpass

end OffsetMap

/-! ## Where characters begin -/

/-- The byte offset at which a character begins; behind the last one, that of the end. -/
def startOf (text : String) (k : Nat) : Nat := (String.ofList (text.toList.take k)).utf8ByteSize

/-- The byte offsets between two characters, before the first and behind the last. -/
def boundaries (text : String) : Set Nat := {byte | String.Pos.Raw.IsValid text ⟨byte⟩}

/-- Each character begins behind the bytes of those before it. -/
theorem getElem?_startsFrom (offset : Nat) (cs : List Char) (k : Nat) :
    (startsFrom offset cs)[k]? =
      if k < cs.length then some (offset + (String.ofList (cs.take k)).utf8ByteSize) else none := by
  induction cs generalizing offset k with
  | nil => rfl
  | cons c cs ih =>
    cases k with
    | zero => simp [startsFrom]
    | succ k =>
      rw [startsFrom, List.getElem?_cons_succ, ih, List.take_succ_cons, utf8ByteSize_ofList_cons,
        Nat.add_assoc]
      simp only [List.length_cons, Nat.add_lt_add_iff_right]

theorem length_startsFrom (offset : Nat) (cs : List Char) :
    (startsFrom offset cs).length = cs.length := by
  induction cs generalizing offset with
  | nil => rfl
  | cons c cs ih => rw [startsFrom, List.length_cons, List.length_cons, ih]

/-- A character begins before those behind it, and before the end. -/
theorem startOf_lt_startOf {text : String} {j k : Nat} (hjk : j < k) (hj : j < text.length) :
    startOf text j < startOf text k := by
  rw [← String.length_toList] at hj
  obtain ⟨n, rfl⟩ := Nat.exists_eq_add_of_lt hjk
  have hbetween : (String.ofList ((text.toList.drop j).take (n + 1))).utf8ByteSize ≠ 0 := by
    rw [List.drop_eq_getElem_cons hj, List.take_succ_cons, utf8ByteSize_ofList_cons]
    have := (text.toList[j]).utf8Size_pos
    omega
  unfold startOf
  rw [Nat.add_assoc, List.take_add, String.ofList_append, String.utf8ByteSize_append]
  omega

/-- A boundary is where a character begins, or the end. -/
theorem exists_eq_startOf {text : String} {byte : Nat} (h : byte ∈ boundaries text) :
    ∃ k ≤ text.length, byte = startOf text k := by
  obtain ⟨k, hk⟩ := String.Pos.Raw.isValid_iff_exists_take_toList.1 h
  rcases Nat.le_total k text.length with hle | hge
  · exact ⟨k, hle, hk⟩
  · refine ⟨text.length, Nat.le_refl _, hk.trans ?_⟩
    rw [← String.length_toList] at hge
    rw [startOf, ← String.length_toList, List.take_length, List.take_of_length_le hge]

/-! ## Characters between byte offsets -/

/-- A text without bytes has no characters. -/
theorem eq_nil_of_utf8ByteSize {cs : List Char} (h : (String.ofList cs).utf8ByteSize = 0) :
    cs = [] := by
  cases cs with
  | nil => rfl
  | cons c cs =>
    have := c.utf8Size_pos
    rw [utf8ByteSize_ofList_cons] at h
    omega

/-- Bytes can be dropped if they are those of some first characters, which are then dropped. -/
theorem dropBytes?_eq_some_iff {bytes : Nat} {cs rest : List Char} :
    dropBytes? bytes cs = some rest ↔
      ∃ front, cs = front ++ rest ∧ bytes = (String.ofList front).utf8ByteSize := by
  fun_induction dropBytes? bytes cs with
  | case1 cs =>
    refine ⟨fun h => ⟨[], Option.some.inj h, rfl⟩, fun ⟨front, hcs, hbytes⟩ => ?_⟩
    rw [eq_nil_of_utf8ByteSize hbytes.symm] at hcs
    rw [hcs, List.nil_append]
  | case2 bytes =>
    refine ⟨nofun, fun ⟨front, hcs, hbytes⟩ => ?_⟩
    rw [(List.append_eq_nil_iff.1 hcs.symm).1] at hbytes
    exact nomatch hbytes
  | case3 bytes c cs hle ih =>
    rw [ih]
    constructor
    · rintro ⟨front, hcs, hbytes⟩
      exact ⟨c :: front, congrArg (c :: ·) hcs, by rw [utf8ByteSize_ofList_cons]; omega⟩
    · rintro ⟨_ | ⟨c', front⟩, hcs, hbytes⟩
      · exact nomatch hbytes
      · obtain ⟨rfl, htail⟩ := List.cons.inj hcs
        rw [utf8ByteSize_ofList_cons] at hbytes
        exact ⟨front, htail, by omega⟩
  | case4 bytes c cs hlt =>
    refine ⟨nofun, ?_⟩
    rintro ⟨_ | ⟨c', front⟩, hcs, hbytes⟩
    · exact nomatch hbytes
    · rw [utf8ByteSize_ofList_cons, ← (List.cons.inj hcs).1] at hbytes
      omega

/-- Bytes can be taken if they are those of some first characters, which are then taken. -/
theorem takeBytes?_eq_some_iff {bytes : Nat} {cs front : List Char} :
    takeBytes? bytes cs = some front ↔
      (∃ rest, cs = front ++ rest) ∧ bytes = (String.ofList front).utf8ByteSize := by
  fun_induction takeBytes? bytes cs generalizing front with
  | case1 cs =>
    refine ⟨fun h => ?_, fun ⟨_, hbytes⟩ => ?_⟩
    · obtain rfl := Option.some.inj h
      exact ⟨⟨cs, rfl⟩, rfl⟩
    · rw [eq_nil_of_utf8ByteSize hbytes.symm]
  | case2 bytes =>
    refine ⟨nofun, fun ⟨⟨rest, hcs⟩, hbytes⟩ => ?_⟩
    rw [(List.append_eq_nil_iff.1 hcs.symm).1] at hbytes
    exact nomatch hbytes
  | case3 bytes c cs hle ih =>
    rw [Option.map_eq_some_iff]
    constructor
    · rintro ⟨front, hfront, rfl⟩
      obtain ⟨⟨rest, hcs⟩, hbytes⟩ := ih.1 hfront
      exact ⟨⟨rest, congrArg (c :: ·) hcs⟩, by rw [utf8ByteSize_ofList_cons]; omega⟩
    · rintro ⟨⟨rest, hcs⟩, hbytes⟩
      cases front with
      | nil => exact nomatch hbytes
      | cons c' front =>
        obtain ⟨rfl, htail⟩ := List.cons.inj hcs
        rw [utf8ByteSize_ofList_cons] at hbytes
        exact ⟨front, ih.2 ⟨⟨rest, htail⟩, by omega⟩, rfl⟩
  | case4 bytes c cs hlt =>
    refine ⟨nofun, ?_⟩
    rintro ⟨⟨rest, hcs⟩, hbytes⟩
    cases front with
    | nil => exact nomatch hbytes
    | cons c' front =>
      rw [utf8ByteSize_ofList_cons, ← (List.cons.inj hcs).1] at hbytes
      omega

/-- What stands between two byte offsets stands behind as many bytes as the first says, and has as
many as there are between them. -/
theorem charsBetween?_eq_some_iff {cs middle : List Char} {first last : Nat} :
    charsBetween? cs first last = some middle ↔
      ∃ front back, cs = front ++ (middle ++ back) ∧
        first = (String.ofList front).utf8ByteSize ∧
        last - first = (String.ofList middle).utf8ByteSize := by
  unfold charsBetween?
  rw [Option.bind_eq_some_iff]
  constructor
  · rintro ⟨rest, hdrop, htake⟩
    obtain ⟨front, hcs, hfirst⟩ := dropBytes?_eq_some_iff.1 hdrop
    obtain ⟨⟨back, rfl⟩, hlast⟩ := takeBytes?_eq_some_iff.1 htake
    exact ⟨front, back, hcs, hfirst, hlast⟩
  · rintro ⟨front, back, hcs, hfirst, hlast⟩
    exact ⟨middle ++ back, dropBytes?_eq_some_iff.2 ⟨front, hcs, hfirst⟩,
      takeBytes?_eq_some_iff.2 ⟨⟨back, rfl⟩, hlast⟩⟩

/-- Byte offsets between which characters stand are boundaries, one behind the other. -/
theorem boundaries_of_charsBetween? {text : String} {middle : List Char} {first last : Nat}
    (h : charsBetween? text.toList first last = some middle) (hmiddle : middle ≠ []) :
    first ∈ boundaries text ∧ last ∈ boundaries text ∧ first < last := by
  obtain ⟨front, back, hcs, hfirst, hlast⟩ := charsBetween?_eq_some_iff.1 h
  have hlt : first < last := by
    refine Nat.lt_of_sub_pos (Nat.pos_of_ne_zero fun hzero => hmiddle ?_)
    exact eq_nil_of_utf8ByteSize (hlast.symm.trans hzero)
  have hvalid (front back : List Char) (hcs : text.toList = front ++ back) :
      (String.ofList front).utf8ByteSize ∈ boundaries text :=
    String.Pos.Raw.isValid_iff_exists_take_toList.2
      ⟨front.length, by rw [hcs, List.take_left' rfl]⟩
  refine ⟨hfirst ▸ hvalid front _ hcs, ?_, hlt⟩
  have hsum : last = (String.ofList (front ++ middle)).utf8ByteSize := by
    rw [String.ofList_append, String.utf8ByteSize_append]
    omega
  exact hsum ▸ hvalid (front ++ middle) back (by rw [hcs, List.append_assoc])

/-! ## From bytes to characters -/

/-- Non-empty ranges without a common offset follow one another. -/
theorem le_or_le_of_disjoint_Ico {first last first' last' : Nat} (h : first < last)
    (h' : first' < last') (hdisjoint : Disjoint (Set.Ico first last) (Set.Ico first' last')) :
    last ≤ first' ∨ last' ≤ first := by
  rw [Set.Ico_disjoint_Ico] at hdisjoint
  omega

namespace OffsetMap

variable {text : String} {byte k : Nat}

/-- What is expected of the way from the byte offsets of a text to its characters. -/
structure IsExact (m : OffsetMap) (text : String) : Prop where
  /-- The map has the characters of the text. -/
  charLength : m.charLength = text.length
  /-- A character offset is the number of characters that begin before the byte offset. -/
  card : ∀ byte, m.charOffset byte =
    ((Finset.range text.length).filter fun k => startOf text k < byte).card
  /-- A later byte has no earlier character. -/
  monotone : Monotone m.charOffset
  /-- Boundaries keep their order and stay apart. -/
  strictMono : StrictMonoOn m.charOffset (boundaries text)
  /-- The way to a character and back leads to the same character. -/
  charOffset_startOf : ∀ k ≤ text.length, m.charOffset (startOf text k) = k
  /-- The way from a boundary and back leads to the same boundary. -/
  startOf_charOffset : ∀ byte ∈ boundaries text, startOf text (m.charOffset byte) = byte
  /-- An offset inside a character goes on to the next one. -/
  inside : ∀ k < text.length, ∀ byte, startOf text k < byte → byte < startOf text (k + 1) →
    m.charOffset byte = k + 1
  /-- Ranges without a common byte become spans beside each other. -/
  beside : ∀ first last first' last', first < last → first' < last' →
    Disjoint (Set.Ico first last) (Set.Ico first' last') →
    (m.span first last).Beside (m.span first' last')
  /-- A range that lies in another becomes a span that lies in that of the other. -/
  within : ∀ first last first' last', first < last → first' < last' →
    Set.Ico first last ⊆ Set.Ico first' last' →
    (m.span first last).Within (m.span first' last')
  /-- A range of whole characters becomes a span that holds some. -/
  nonempty : ∀ first ∈ boundaries text, ∀ last ∈ boundaries text, first < last →
    (m.span first last).isEmpty = false

/-- A number is less than a character offset exactly if it is that of a character of the text that
begins before the byte offset. -/
theorem lt_charOffset_ofText_iff :
    k < (ofText text).charOffset byte ↔ k < text.length ∧ startOf text k < byte := by
  have hstarts : (ofText text).starts[k]? =
      if k < text.length then some (startOf text k) else none := by
    have h := getElem?_startsFrom 0 text.toList k
    rw [Nat.zero_add, String.length_toList] at h
    exact (List.getElem?_toArray ..).trans h
  rw [lt_charOffset_iff]
  constructor
  · rintro ⟨hk, hlt⟩
    rw [Array.getElem?_eq_getElem hk] at hstarts
    split at hstarts
    case isTrue hlength => exact ⟨hlength, Option.some.inj hstarts ▸ hlt⟩
    case isFalse => exact nomatch hstarts
  · rintro ⟨hlength, hlt⟩
    rw [if_pos hlength] at hstarts
    obtain ⟨hk, hstart⟩ := Array.getElem?_eq_some_iff.1 hstarts
    exact ⟨hk, hstart ▸ hlt⟩

/-- A character offset is known from the characters that begin before the byte offset. -/
theorem charOffset_ofText_eq (hk : k ≤ text.length) (hbefore : ∀ j < k, startOf text j < byte)
    (hbehind : k < text.length → byte ≤ startOf text k) : (ofText text).charOffset byte = k := by
  refine Nat.le_antisymm (Nat.le_of_not_lt fun hlt => ?_) (Nat.le_of_not_lt fun hlt => ?_)
  · obtain ⟨hlength, hstart⟩ := lt_charOffset_ofText_iff.1 hlt
    have := hbehind hlength
    omega
  · have hstart := hbefore _ hlt
    exact Nat.lt_irrefl _ (lt_charOffset_ofText_iff.2 ⟨by omega, hstart⟩)

/-- The beginning of a character leads to it. -/
theorem charOffset_ofText_startOf (hk : k ≤ text.length) :
    (ofText text).charOffset (startOf text k) = k :=
  charOffset_ofText_eq hk (fun _ hj => startOf_lt_startOf hj (by omega)) fun _ => Nat.le_refl _

/-- There are no more characters than the text has. -/
theorem charOffset_ofText_le (text : String) (byte : Nat) :
    (ofText text).charOffset byte ≤ text.length :=
  Nat.le_of_not_lt fun hlt => Nat.lt_irrefl _ (lt_charOffset_ofText_iff.1 hlt).1

/-- Later bytes have no earlier characters. -/
theorem monotone_charOffset_ofText (text : String) : Monotone (ofText text).charOffset := by
  intro byte byte' hle
  refine Nat.le_of_not_lt fun hlt => ?_
  obtain ⟨hlength, hstart⟩ := lt_charOffset_ofText_iff.1 hlt
  exact Nat.lt_irrefl _ (lt_charOffset_ofText_iff.2 ⟨hlength, by omega⟩)

/-- Of two boundaries, the earlier has the earlier character. -/
theorem strictMonoOn_charOffset_ofText (text : String) :
    StrictMonoOn (ofText text).charOffset (boundaries text) := by
  intro byte hbyte byte' hbyte' hlt
  obtain ⟨j, hj, rfl⟩ := exists_eq_startOf hbyte
  obtain ⟨k, hk, rfl⟩ := exists_eq_startOf hbyte'
  rw [charOffset_ofText_startOf hj, charOffset_ofText_startOf hk]
  by_contra hge
  rcases Nat.lt_or_eq_of_le (Nat.le_of_not_lt hge) with hkj | rfl
  · have hstarts : startOf text k < startOf text j := startOf_lt_startOf hkj (by omega)
    omega
  · exact Nat.lt_irrefl _ hlt

/-- The map of a text leads from its byte offsets to its characters. -/
theorem ofText_isExact (text : String) : (ofText text).IsExact text where
  charLength := by
    rw [OffsetMap.charLength, ofText, List.size_toArray, length_startsFrom, String.length_toList]
  card byte := by
    have hfilter : ((Finset.range text.length).filter fun k => startOf text k < byte) =
        Finset.range ((ofText text).charOffset byte) := by
      ext k
      rw [Finset.mem_filter, Finset.mem_range, Finset.mem_range, lt_charOffset_ofText_iff]
    rw [hfilter, Finset.card_range]
  monotone := monotone_charOffset_ofText text
  strictMono := strictMonoOn_charOffset_ofText text
  charOffset_startOf k hk := charOffset_ofText_startOf hk
  startOf_charOffset byte hbyte := by
    obtain ⟨k, hk, rfl⟩ := exists_eq_startOf hbyte
    rw [charOffset_ofText_startOf hk]
  inside k hk byte hstart hstop := by
    refine charOffset_ofText_eq hk (fun j hj => ?_) fun _ => Nat.le_of_lt hstop
    rcases Nat.lt_or_eq_of_le (Nat.le_of_lt_succ hj) with hjk | rfl
    · have hstarts : startOf text j < startOf text k := startOf_lt_startOf hjk (by omega)
      exact Nat.lt_trans hstarts hstart
    · exact hstart
  beside first last first' last' h h' hdisjoint := by
    have hmono := monotone_charOffset_ofText text
    exact (le_or_le_of_disjoint_Ico h h' hdisjoint).imp (hmono ·) (hmono ·)
  within first last first' last' h _ hsubset := by
    have hmono := monotone_charOffset_ofText text
    obtain ⟨hfirst, hlast⟩ := (Set.Ico_subset_Ico_iff h).1 hsubset
    exact ⟨hmono hfirst, hmono hlast⟩
  nonempty first hfirst last hlast hlt := by
    have hstrict := strictMonoOn_charOffset_ofText text hfirst hlast hlt
    rw [Span.isEmpty, beq_eq_false_iff_ne]
    exact Nat.sub_ne_zero_of_lt hstrict

example : [0, 1, 2, 3, 4, 5, 7, 8, 9].map (ofText "añb€c").charOffset =
    [0, 1, 2, 2, 3, 4, 4, 5, 5] := by decide +kernel

end OffsetMap

end ViewForge
