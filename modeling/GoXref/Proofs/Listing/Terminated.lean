import Mathlib.Data.Nat.Find
import GoXref.Proofs.Listing.Violation

/-!
# `GoXref.Proofs.Listing.Terminated`: a line feed at the end of a listing

A tool ends its last line with a line feed. To a reader this is one row more,
the empty one behind the line feed. It is no location, so a lenient reader is
not affected. To a strict reader it is a companion, though, as good as any: a
location in the last line has none of its own, and gets this one.

* `rows_append_lf`: the one row more.
* `violates_append_nil_iff`: with an empty row behind them, the rows break the
  rules where they did before, except in the last one.
* `EndsAlone`: the listings that are affected. The only fault is a location in
  the last row.
* `read_append_lf`: what both readers make of a line feed at the end.
-/

set_option autoImplicit false

namespace GoXref.Listing

/-! ### The empty row -/

/-- A line feed at the end is one row more, an empty one. -/
theorem rows_append_lf (listing : Text) : rows (listing ++ ['\n']) = rows listing ++ [[]] :=
  rows_append_cons listing []

/-- The rows in front of the empty one keep their numbers. -/
theorem row?_append_nil {rows : List Text} {p : Nat} (hp : p ≤ rows.length) :
    row? (rows ++ [[]]) p = row? rows p := by
  cases p with
  | zero => rfl
  | succ p => exact List.getElem?_append_left hp

/-- The last row is the one whose number is the number of rows. -/
theorem row?_length (rows : List Text) : row? rows rows.length = rows.getLast? := by
  rw [List.getLast?_eq_getElem?]
  cases rows with
  | nil => rfl
  | cons first rest => rfl

/-- No location is in the empty row, and none is behind it. -/
theorem locationAt?_append_nil (rows : List Text) (p : Nat) :
    locationAt? (rows ++ [[]]) p = locationAt? rows p := by
  unfold locationAt?
  by_cases hp : p ≤ rows.length
  · rw [row?_append_nil hp]
  · -- Past the given rows there is the empty one or nothing, and neither is read.
    obtain ⟨p, rfl⟩ := Nat.exists_eq_succ_of_ne_zero (by omega : p ≠ 0)
    have hnone : row? rows (p + 1) = none := row?_eq_none_iff.mpr (by omega)
    have hempty : row? (rows ++ [[]]) (p + 1) = [([] : Text)][p - rows.length]? :=
      List.getElem?_append_right (by omega)
    rw [hnone, hempty]
    cases p - rows.length with
    | zero => rfl
    | succ k => rfl

/-- The locations in the odd rows are the same with an empty row behind them. -/
theorem primaryLocations_append_nil (rows : List Text) :
    primaryLocations (rows ++ [[]]) = primaryLocations rows := by
  -- The row that is added would be read at its own number only, and it is empty.
  have hlast : locationAt? rows (rows.length + 1) = none := by
    rw [locationAt?, row?_eq_none_iff.mpr (Nat.le_refl _), Option.bind_none]
  unfold primaryLocations
  simp only [locationAt?_append_nil, List.length_append, List.length_singleton, List.range_succ,
    List.map_append, List.filterMap_append, List.map_cons, List.map_nil, List.filterMap_cons,
    List.filterMap_nil, hlast, ite_self, List.append_nil]

/-! ### The rules -/

/-- With an empty row behind them, the rows break the rules where they did
before, except in the last one: the empty row is its companion now, and that is
no bare location. -/
theorem violates_append_nil_iff (rows : List Text) (p : Nat) :
    Violates (rows ++ [[]]) p ↔ Violates rows p ∧ p ≠ rows.length := by
  unfold Violates
  rw [locationAt?_append_nil, locationAt?_append_nil, List.length_append, List.length_singleton]
  by_cases hlocation : (locationAt? rows p).isSome
  · -- A row with a location is one of the given ones.
    obtain ⟨l, hl⟩ := Option.isSome_iff_exists.mp hlocation
    obtain ⟨primary, hrow, -⟩ := Option.bind_eq_some_iff.mp hl
    have hle : p ≤ rows.length := le_length_of_row? hrow
    rcases Nat.lt_or_eq_of_le hle with hlt | rfl
    · rw [row?_append_nil hlt]
      have hne : p ≠ rows.length := Nat.ne_of_lt hlt
      have hne' : p ≠ rows.length + 1 := by omega
      simp only [hne, hne', ne_eq, not_false_eq_true, and_true]
    · -- The companion of the last row is the empty one.
      have hcompanion : row? (rows ++ [[]]) (rows.length + 1) = some [] := by
        show (rows ++ [[]])[rows.length]? = some []
        rw [List.getElem?_append_right (Nat.le_refl _), Nat.sub_self]
        rfl
      rw [hcompanion]
      simp [Location.isBare]
  · simp [hlocation]

/-- The only row that breaks the rules is the last one: a location in an odd
row, with nothing behind it. -/
def EndsAlone (rows : List Text) : Prop :=
  Violates rows rows.length ∧ ∀ p < rows.length, ¬ Violates rows p

instance (rows : List Text) : Decidable (EndsAlone rows) :=
  inferInstanceAs (Decidable (_ ∧ ∀ p < rows.length, ¬ Violates rows p))

/-- Rows whose only fault is in the last one have no fault with an empty row
behind them. -/
theorem EndsAlone.not_violates {rows : List Text} (h : EndsAlone rows) (p : Nat) :
    ¬ Violates (rows ++ [[]]) p := by
  rw [violates_append_nil_iff]
  rintro ⟨hp, hne⟩
  obtain ⟨-, primary, hrow, -⟩ := hp.exists_row
  have hle : p ≤ rows.length := le_length_of_row? hrow
  exact h.2 p (by omega) hp

/-! ### The two readers -/

/-- To a lenient reader a line feed at the end makes no difference. -/
theorem read_lenient_append_lf (listing : Text) :
    read .lenient (listing ++ ['\n']) = read .lenient listing := by
  rw [read_lenient, read_lenient, rows_append_lf, primaryLocations_append_nil]

/-- A strict reader that objects to the last row alone reports that row. -/
theorem read_strict_of_endsAlone {listing : Text} (h : EndsAlone (rows listing)) :
    ∃ line, (rows listing).getLast? = some line ∧ read .strict listing
      = .error (.malformedListing (rows listing).length line Pair.noCompanion) := by
  obtain ⟨line, hline, hfault⟩ := findSome?_fault?_of_violates h.1 h.2
  rw [reported, if_pos rfl] at hline hfault
  rw [complaint, if_pos rfl] at hfault
  rw [row?_length] at hline
  exact ⟨line, hline, read_strict_of_some hfault⟩

/-- A strict reader objects to the same row with a line feed at the end, if this
is not the last one. -/
theorem read_strict_append_lf_of_violates {listing : Text} {p : Nat}
    (hp : Violates (rows listing) p) (hleast : ∀ q < p, ¬ Violates (rows listing) q)
    (hne : p ≠ (rows listing).length) :
    read .strict (listing ++ ['\n']) = read .strict listing := by
  obtain ⟨-, primary, hrow, -⟩ := hp.exists_row
  have hlt : p < (rows listing).length := Nat.lt_of_le_of_ne (le_length_of_row? hrow) hne
  have hne' : p ≠ (rows listing ++ [[]]).length := by
    rw [List.length_append, List.length_singleton]
    omega
  -- The same row is the first to break the rules, and its companion is reported.
  obtain ⟨line, hline, hfault⟩ := findSome?_fault?_of_violates hp hleast
  obtain ⟨line', hline', hfault'⟩ := findSome?_fault?_of_violates
    ((violates_append_nil_iff _ p).mpr ⟨hp, hne⟩)
    fun q hq h => hleast q hq ((violates_append_nil_iff _ q).mp h).1
  rw [reported, if_neg hne] at hline hfault
  rw [reported, if_neg hne'] at hline' hfault'
  rw [complaint, if_neg hne] at hfault
  rw [complaint, if_neg hne'] at hfault'
  rw [row?_append_nil hlt, hline] at hline'
  obtain rfl := Option.some.inj hline'
  rw [read_strict_of_some hfault]
  refine read_strict_of_some ?_
  rw [pairs, rows_append_lf]
  exact hfault'

/-- A strict reader takes the empty row for the companion of a location in the
last row. Otherwise a line feed at the end makes no difference to it. -/
theorem read_strict_append_lf (listing : Text) :
    read .strict (listing ++ ['\n'])
      = if EndsAlone (rows listing) then read .lenient listing else read .strict listing := by
  have hextended : (∀ p, ¬ Violates (rows listing ++ [[]]) p) →
      read .strict (listing ++ ['\n']) = read .lenient listing := by
    intro hnone
    rw [← read_lenient_append_lf]
    refine read_strict_of_none ?_
    rw [pairs, rows_append_lf]
    exact (findSome?_fault?_eq_none_iff _).mpr hnone
  by_cases hexists : ∃ p, Violates (rows listing) p
  · -- The first row that breaks the rules is the last one, or it is not.
    have hp := Nat.find_spec hexists
    have hleast := fun q => Nat.find_min hexists (m := q)
    by_cases hlast : Nat.find hexists = (rows listing).length
    · rw [hlast] at hp hleast
      have halone : EndsAlone (rows listing) := ⟨hp, hleast⟩
      rw [if_pos halone]
      exact hextended halone.not_violates
    · have halone : ¬ EndsAlone (rows listing) := by
        intro h
        have hle : Nat.find hexists ≤ (rows listing).length := Nat.find_min' hexists h.1
        exact h.2 _ (Nat.lt_of_le_of_ne hle hlast) hp
      rw [if_neg halone]
      exact read_strict_append_lf_of_violates hp hleast hlast
  · have hnone : ∀ p, ¬ Violates (rows listing) p := fun p hp => hexists ⟨p, hp⟩
    rw [if_neg fun halone => hnone _ halone.1]
    rw [hextended fun p hp => hnone p ((violates_append_nil_iff _ p).mp hp).1]
    exact (read_strict_of_none ((findSome?_fault?_eq_none_iff _).mpr hnone)).symm

/-- What a line feed at the end of a listing changes. To a lenient reader it
makes no difference. Nor does it to a strict one, unless a location in the last
row, which has no companion, is the only fault of the listing: without the line
feed this row is reported, and with it all the locations are read. -/
theorem read_append_lf (listing : Text) :
    read .lenient (listing ++ ['\n']) = read .lenient listing ∧
    read .strict (listing ++ ['\n'])
      = (if EndsAlone (rows listing) then read .lenient listing else read .strict listing) ∧
    (EndsAlone (rows listing) → ∃ line, (rows listing).getLast? = some line ∧ read .strict listing
      = .error (.malformedListing (rows listing).length line Pair.noCompanion)) ∧
    (read .strict (listing ++ ['\n']) = read .strict listing ↔ ¬ EndsAlone (rows listing)) := by
  refine ⟨read_lenient_append_lf listing, read_strict_append_lf listing,
    read_strict_of_endsAlone, ?_⟩
  rw [read_strict_append_lf]
  by_cases halone : EndsAlone (rows listing)
  · -- One of the two readings fails, and the other does not.
    obtain ⟨line, -, hfault⟩ := read_strict_of_endsAlone halone
    simp [halone, hfault, read_lenient]
  · simp [halone]

/-- A line feed behind `a.go:1:1`, which has no companion, hides this. -/
theorem read_append_lf_lone :
    read .strict "a.go:1:1".toList
      = .error (.malformedListing 1 "a.go:1:1".toList Pair.noCompanion) ∧
    read .strict ("a.go:1:1".toList ++ ['\n']) = .ok [⟨"a.go".toList, 1, 1⟩] := ⟨rfl, rfl⟩

end GoXref.Listing
