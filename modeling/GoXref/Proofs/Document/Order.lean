import GoXref.Proofs.Document.Before

/-!
# `GoXref.Proofs.Document.Order`: positions and offsets have one order

The text before a position (`Document.before?`) is a front of the document, so
positions can be told apart by what stands before them, and the length of a
front orders fronts in either unit.

* `before?_isPrefix_of_le`: a position further on has no less text before it.
* `length_before?_lt`: it has more, if neither column runs past its line.
* `exists_inRange_of_cut`: wherever the text is cut, save inside a break, there
  is a position.
* `offset?_order_isomorphism`: offsets of the positions in range, in order, are
  all lengths of fronts that do not end inside a break, in order.
-/

set_option autoImplicit false

namespace GoXref

/-! ### Lengths of fronts -/

namespace OffsetUnit

/-- Lengths of texts one after the other add up. -/
theorem measure_append (unit : OffsetUnit) (s t : Text) :
    unit.measure (s ++ t) = unit.measure s + unit.measure t := by
  cases unit with
  | characters => exact List.length_append
  | octets => exact Utf8.size_append s t

/-- A text that is not empty has a length. -/
theorem measure_pos (unit : OffsetUnit) {t : Text} (h : t ≠ []) : 0 < unit.measure t := by
  have hlength : 0 < t.length := List.length_pos_iff.mpr h
  cases unit with
  | characters => exact hlength
  | octets => exact Nat.lt_of_lt_of_le hlength (Utf8.length_le_size t)

/-- A front of a text is no longer than the text. -/
theorem measure_le_of_isPrefix (unit : OffsetUnit) {s t : Text} (h : s <+: t) :
    unit.measure s ≤ unit.measure t := by
  obtain ⟨rest, rfl⟩ := h
  rw [measure_append]
  exact Nat.le_add_right _ _

/-- A front of a text is shorter in either unit if it has fewer characters. -/
theorem measure_lt_of_isPrefix (unit : OffsetUnit) {s t : Text} (h : s <+: t)
    (hlt : s.length < t.length) : unit.measure s < unit.measure t := by
  obtain ⟨rest, rfl⟩ := h
  have hrest : rest ≠ [] := by
    rintro rfl
    simp at hlt
  rw [measure_append]
  exact Nat.lt_add_of_pos_right (measure_pos unit hrest)

/-- A front of a text that is as long as the text is the text. -/
theorem eq_of_isPrefix_of_measure_eq (unit : OffsetUnit) {s t : Text} (h : s <+: t)
    (heq : unit.measure s = unit.measure t) : s = t := by
  rcases Nat.lt_or_ge s.length t.length with hlt | hge
  · have hmeasure := measure_lt_of_isPrefix unit h hlt
    omega
  · exact h.eq_of_length_le hge

/-- Two fronts of a text of the same length, in either unit, are the same. -/
theorem eq_of_measure_eq (unit : OffsetUnit) {s s' t : Text} (hs : s <+: t) (hs' : s' <+: t)
    (heq : unit.measure s = unit.measure s') : s = s' := by
  rcases List.prefix_or_prefix_of_prefix hs hs' with h | h
  · exact eq_of_isPrefix_of_measure_eq unit h heq
  · exact (eq_of_isPrefix_of_measure_eq unit h heq.symm).symm

end OffsetUnit

/-! ### Positions in order -/

/-- The line of a position lies no further on than that of a later one. -/
theorem Position.toNat_line_le {p q : Position} (h : p ≤ q) : p.line.toNat ≤ q.line.toNat := by
  rcases h with (hlt | ⟨hsame, -⟩) | rfl
  · exact Nat.le_of_lt (UInt32.lt_iff_toNat_lt.mp hlt)
  · exact Nat.le_of_eq (congrArg UInt32.toNat hsame)
  · exact Nat.le_refl _

/-- Of two positions one lies before the other, or they are the same. -/
theorem Position.lt_trichotomy (p q : Position) : p < q ∨ p = q ∨ q < p := by
  obtain ⟨line, column⟩ := p
  obtain ⟨line', column'⟩ := q
  show (line < line' ∨ line = line' ∧ column < column') ∨ _ ∨
    (line' < line ∨ line' = line ∧ column' < column)
  simp only [mk.injEq, UInt32.lt_iff_toNat_lt, ← UInt32.toNat_inj]
  omega

namespace Document

variable {d : Document} {p q : Position}

/-! ### Text before positions in order -/

/-- A position is in range if its line is there, and its column lies in the
line's body or at its end. -/
def InRange (d : Document) (p : Position) : Prop :=
  ∃ line, d.lines[p.line.toNat]? = some line ∧ p.column.toNat ≤ (Text.body line).length

/-- A line in front of another starts and ends before the other starts. -/
theorem flatten_take_append_isPrefix {ls : List Text} {i j : Nat} {line : Text}
    (hi : ls[i]? = some line) (hij : i < j) :
    (ls.take i).flatten ++ line <+: (ls.take j).flatten := by
  have hsucc : (ls.take i).flatten ++ line = (ls.take (i + 1)).flatten := by
    rw [List.take_add_one, hi]
    simp
  obtain ⟨rest, hrest⟩ := List.take_prefix_take_left (l := ls) (show i + 1 ≤ j from hij)
  rw [hsucc, ← hrest, List.flatten_append]
  exact List.prefix_append _ _

/-- A position has no less text before it than one that does not lie further on. -/
theorem before?_isPrefix_of_le {before before' : Text} (hle : p ≤ q)
    (hp : d.before? p = some before) (hq : d.before? q = some before') : before <+: before' := by
  obtain ⟨line, hline, rfl⟩ := Option.map_eq_some_iff.mp hp
  obtain ⟨line', hline', rfl⟩ := Option.map_eq_some_iff.mp hq
  rcases hle with (hlt | ⟨hsame, hcolumn⟩) | rfl
  · -- All of the first position's line stands before the second position.
    have hbody : (Text.body line).take p.column.toNat <+: line :=
      (List.take_prefix _ _).trans (List.takeWhile_prefix _)
    have hlines := flatten_take_append_isPrefix hline (UInt32.lt_iff_toNat_lt.mp hlt)
    exact ((List.prefix_append_right_inj _).mpr hbody).trans
      (hlines.trans (List.prefix_append _ _))
  · obtain rfl : line = line' := Option.some.inj (hline.symm.trans (hsame ▸ hline'))
    rw [hsame, List.prefix_append_right_inj]
    exact List.take_prefix_take_left (Nat.le_of_lt (UInt32.lt_iff_toNat_lt.mp hcolumn))
  · obtain rfl : line = line' := Option.some.inj (hline.symm.trans hline')
    exact List.prefix_refl _

/-- A position in range has less text before it than one further on that is in
range, too. -/
theorem length_before?_lt {before before' : Text} (hlt : p < q) (hp : d.InRange p)
    (hq : d.InRange q) (hbefore : d.before? p = some before)
    (hbefore' : d.before? q = some before') : before.length < before'.length := by
  obtain ⟨line, hline, hcolumn⟩ := hp
  obtain ⟨line', hline', hcolumn'⟩ := hq
  rw [before?, hline, Option.map_some, Option.some.injEq] at hbefore
  rw [before?, hline', Option.map_some, Option.some.injEq] at hbefore'
  rw [← hbefore, ← hbefore', List.length_append, List.length_append, List.length_take_of_le hcolumn,
    List.length_take_of_le hcolumn']
  rcases hlt with hlt | ⟨hsame, hlt⟩
  · -- The break of the first position's line lies between the two.
    have hlt : p.line.toNat < q.line.toNat := UInt32.lt_iff_toNat_lt.mp hlt
    have hbreak : (Text.body line).length < line.length :=
      (Text.lined_lines d.text).length_body_lt hline
        (Nat.lt_of_le_of_lt hlt (List.getElem?_eq_some_iff.mp hline').1)
    have hlines := (flatten_take_append_isPrefix hline hlt).length_le
    rw [List.length_append] at hlines
    omega
  · rw [hsame]
    exact Nat.add_lt_add_left (UInt32.lt_iff_toNat_lt.mp hlt) _

/-- A position in range is told by the text before it. -/
theorem InRange.eq_of_before?_eq {before : Text} (hp : d.InRange p) (hq : d.InRange q)
    (hbefore : d.before? p = some before) (hbefore' : d.before? q = some before) : p = q := by
  rcases p.lt_trichotomy q with hlt | heq | hgt
  · exact absurd (length_before?_lt hlt hp hq hbefore hbefore') (Nat.lt_irrefl _)
  · exact heq
  · exact absurd (length_before?_lt hgt hq hp hbefore' hbefore) (Nat.lt_irrefl _)

/-! ### Cuts and positions -/

/-- Wherever the text is cut, save inside a break, there is a position in range
with the front before it. Lines and columns have to be such that 32 bits can
name them. -/
theorem exists_inRange_of_cut (hlines : d.lines.length ≤ UInt32.size)
    (hbodies : ∀ line ∈ d.lines, (Text.body line).length < UInt32.size) {front back : Text}
    (hcut : d.text = front ++ back) (hbreak : ¬ Text.CutsBreak front back) :
    ∃ p, d.InRange p ∧ d.before? p = some front := by
  obtain ⟨i, line, k, hi, hk, rfl⟩ :=
    (Text.lined_lines d.text).exists_cut ((Text.flatten_lines d.text).trans hcut) hbreak
  have hline : (UInt32.ofNat i).toNat = i :=
    UInt32.toNat_ofNat_of_lt' (Nat.lt_of_lt_of_le (List.getElem?_eq_some_iff.mp hi).1 hlines)
  have hcolumn : (UInt32.ofNat k).toNat = k :=
    UInt32.toNat_ofNat_of_lt' (Nat.lt_of_le_of_lt hk (hbodies line (List.mem_of_getElem? hi)))
  refine ⟨⟨UInt32.ofNat i, UInt32.ofNat k⟩, ⟨line, ?_, ?_⟩, ?_⟩
  · rw [hline]
    exact hi
  · rw [hcolumn]
    exact hk
  · rw [before?, hline, hcolumn]
    exact congrArg (Option.map _) hi

/-- The text before a position never ends inside a break. -/
theorem not_cutsBreak_of_before? {front back : Text} (hcut : d.text = front ++ back)
    (hbefore : d.before? p = some front) : ¬ Text.CutsBreak front back := by
  obtain ⟨line, hline, rfl⟩ := Option.map_eq_some_iff.mp hbefore
  exact (Text.lined_lines d.text).not_cutsBreak hline ((Text.flatten_lines d.text).trans hcut)

/-- A front has the length that is a position's offset exactly if it is the
text before the position. -/
theorem offset?_eq_measure_front_iff {unit : OffsetUnit} {front : Text}
    (hfront : front <+: d.text) :
    d.offset? unit p = some (unit.measure front) ↔ d.before? p = some front := by
  rw [offset?_eq_measure, Option.map_eq_some_iff]
  constructor
  · rintro ⟨before, hbefore, hmeasure⟩
    rw [hbefore, unit.eq_of_measure_eq (before?_isPrefix hbefore) hfront hmeasure]
  · exact fun hbefore => ⟨front, hbefore, rfl⟩

/-- Positions and offsets have one order, in characters as in octets.

A position has no offset exactly if its line is not there. Of two positions the
one further on has no smaller offset, and a greater one if both are in range.
Wherever the text is cut in two, the length of the front is the offset of
exactly one position in range; but if the cut parts a carriage return from the
line feed behind it, of no position at all. In characters these lengths are all
numbers up to the length of the text. -/
theorem offset?_order_isomorphism (d : Document) (unit : OffsetUnit) :
    (∀ p, d.offset? unit p = none ↔ Text.breakCount d.text + 1 ≤ p.line.toNat) ∧
    (∀ p q, p ≤ q → q.line.toNat < Text.breakCount d.text + 1 →
      ∃ a b, d.offset? unit p = some a ∧ d.offset? unit q = some b ∧ a ≤ b ∧
        (p < q → d.InRange p → d.InRange q → a < b)) ∧
    (d.lines.length ≤ UInt32.size → (∀ line ∈ d.lines, (Text.body line).length < UInt32.size) →
      ∀ front back, d.text = front ++ back →
        (¬ Text.CutsBreak front back →
          ∃ p, (d.InRange p ∧ d.offset? unit p = some (unit.measure front)) ∧
            ∀ q, d.InRange q ∧ d.offset? unit q = some (unit.measure front) → q = p) ∧
        (Text.CutsBreak front back → ∀ p, d.offset? unit p ≠ some (unit.measure front))) := by
  have hlength : d.lines.length = Text.breakCount d.text + 1 := Text.length_lines d.text
  rw [← hlength]
  refine ⟨?_, ?_, ?_⟩
  · intro p
    rw [offset?_eq_measure, Option.map_eq_none_iff, ← Option.not_isSome_iff_eq_none,
      isSome_before?_iff, Nat.not_lt]
  · intro p q hle hq
    have hp : p.line.toNat < d.lines.length := Nat.lt_of_le_of_lt (Position.toNat_line_le hle) hq
    obtain ⟨before, hbefore⟩ := Option.isSome_iff_exists.mp (isSome_before?_iff.mpr hp)
    obtain ⟨before', hbefore'⟩ := Option.isSome_iff_exists.mp (isSome_before?_iff.mpr hq)
    have hfront : before <+: before' := before?_isPrefix_of_le hle hbefore hbefore'
    refine ⟨unit.measure before, unit.measure before', ?_, ?_,
      unit.measure_le_of_isPrefix hfront, ?_⟩
    · rw [offset?_eq_measure, hbefore, Option.map_some]
    · rw [offset?_eq_measure, hbefore', Option.map_some]
    · exact fun hlt hp hq =>
        unit.measure_lt_of_isPrefix hfront (length_before?_lt hlt hp hq hbefore hbefore')
  · intro hlines hbodies front back hcut
    have hoffset : ∀ p, d.offset? unit p = some (unit.measure front) ↔ d.before? p = some front :=
      fun p => offset?_eq_measure_front_iff ⟨back, hcut.symm⟩
    simp only [hoffset, ne_eq]
    constructor
    · intro hbreak
      obtain ⟨p, hp, hbefore⟩ := exists_inRange_of_cut hlines hbodies hcut hbreak
      exact ⟨p, ⟨hp, hbefore⟩, fun q ⟨hq, hbefore'⟩ => hq.eq_of_before?_eq hp hbefore' hbefore⟩
    · exact fun hbreak p hbefore => not_cutsBreak_of_before? hcut hbefore hbreak

/-- Breaks of one, two and three octets, with nothing between the first two, and
nothing behind the last. -/
def mixedBreaks : Document := ⟨[], "é\r\r\nb\u2028".toList⟩

/-- `offset?_order_isomorphism` in octets for that text. The first line ends at
2 and the second starts at 3; 4 lies inside the second break, and is skipped. -/
theorem offset?_order_isomorphism_mixedBreaks :
    mixedBreaks.lines.length ≤ UInt32.size ∧
    (∀ line ∈ mixedBreaks.lines, (Text.body line).length < UInt32.size) ∧
    mixedBreaks.offset? .octets ⟨4, 0⟩ = none ∧
    (∃ a b, mixedBreaks.offset? .octets ⟨0, 1⟩ = some a ∧
      mixedBreaks.offset? .octets ⟨1, 0⟩ = some b ∧ a < b) ∧
    (∃ p, (mixedBreaks.InRange p ∧ mixedBreaks.offset? .octets p = some 3) ∧
      ∀ q, mixedBreaks.InRange q ∧ mixedBreaks.offset? .octets q = some 3 → q = p) ∧
    ∀ p, mixedBreaks.offset? .octets p ≠ some 4 := by
  have hlines : mixedBreaks.lines.length ≤ UInt32.size := by decide +kernel
  have hbodies : ∀ line ∈ mixedBreaks.lines, (Text.body line).length < UInt32.size := by
    decide +kernel
  have hfirst : mixedBreaks.InRange ⟨0, 1⟩ := ⟨"é\r".toList, rfl, by decide⟩
  have hsecond : mixedBreaks.InRange ⟨1, 0⟩ := ⟨"\r\n".toList, rfl, by decide⟩
  obtain ⟨hnone, horder, hcuts⟩ := offset?_order_isomorphism mixedBreaks .octets
  obtain ⟨a, b, ha, hb, -, hlt⟩ := horder ⟨0, 1⟩ ⟨1, 0⟩ (by decide) (by decide)
  refine ⟨hlines, hbodies, (hnone ⟨4, 0⟩).mpr (by decide), ?_, ?_, ?_⟩
  · exact ⟨a, b, ha, hb, hlt (by decide) hfirst hsecond⟩
  · refine (hcuts hlines hbodies "é\r".toList "\r\nb\u2028".toList rfl).1 ?_
    exact fun h => absurd h.2 (by decide)
  · exact (hcuts hlines hbodies "é\r\r".toList "\nb\u2028".toList rfl).2 ⟨rfl, rfl⟩

end Document

end GoXref
