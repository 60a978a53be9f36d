import GoXref.Listing

/-!
# `GoXref.Proofs.Listing.Violation`: a listing by its row numbers

`Listing.read` walks over pairs of rows. Here the same reading is said
without pairs, by the numbers of the rows, counted from one: which rows are
read, which of them break the rules, and what is reported.

* `getElem?_pairsFrom`: the pairs by number. Every other fact about the walk
  is read off this one.
* `Violates`: a location in an odd row whose companion is missing, or is a
  bare location that no location follows.
* `read_by_row_numbers`: a lenient reader takes the locations of the odd rows
  and never fails. A strict reader does the same unless a row violates, and
  then reports the first that does.
-/

set_option autoImplicit false

namespace GoXref.Listing

/-! ### Rows -/

/-- A line feed parts the rows in front of it from those behind it. -/
theorem rows_append_cons (front back : Text) :
    rows (front ++ '\n' :: back) = rows front ++ rows back := by
  rw [rows, List.splitOn_append_cons_self, List.map_append]
  rfl

/-- A text without a line feed is one row. -/
theorem rows_of_notMem {line : Text} (h : '\n' ∉ line) : rows line = [stripReturn line] := by
  rw [rows, List.splitOn_eq_singleton h, List.map_singleton]

/-- The row of a number, counted from one. -/
def row? (rows : List Text) : Nat → Option Text
  | 0 => none
  | p + 1 => rows[p]?

/-- The location in the row of a number. -/
def locationAt? (rows : List Text) (p : Nat) : Option Location :=
  (row? rows p).bind Location.parse?

/-- The locations in the odd rows, in order. -/
def primaryLocations (rows : List Text) : List Location :=
  ((List.range rows.length).map (· + 1)).filterMap fun p =>
    if p % 2 = 1 then locationAt? rows p else none

/-- An odd row breaks the rules if it holds a location, and either no row
follows it, or the next row is a bare location with no location in the row
behind it. -/
def Violates (rows : List Text) (p : Nat) : Prop :=
  p % 2 = 1 ∧ (locationAt? rows p).isSome ∧
    (p = rows.length ∨
      (∃ companion ∈ row? rows (p + 1), Location.isBare companion) ∧
        locationAt? rows (p + 2) = none)

instance (rows : List Text) (p : Nat) : Decidable (Violates rows p) :=
  inferInstanceAs (Decidable (_ ∧ _ ∧ (_ ∨ _ ∧ _)))

/-- The number of the row that a violation at `p` is reported for: the row
itself if it is the last one, and else its companion. -/
def reported (rows : List Text) (p : Nat) : Nat := if p = rows.length then p else p + 1

/-- What is reported for a violation at `p`. -/
def complaint (rows : List Text) (p : Nat) : Text :=
  if p = rows.length then Pair.noCompanion else Pair.outOfStep

/-- There is a row for every number up to the number of rows. -/
theorem row?_eq_none_iff {rows : List Text} {p : Nat} :
    row? rows (p + 1) = none ↔ rows.length ≤ p := List.getElem?_eq_none_iff

/-- The number of a row is at most the number of rows. -/
theorem le_length_of_row? {rows : List Text} {p : Nat} {line : Text}
    (h : row? rows p = some line) : p ≤ rows.length := by
  cases p with
  | zero => exact Nat.zero_le _
  | succ p => exact (List.getElem?_eq_some_iff.mp h).1

/-! ### Pairs by number -/

/-- Pair `k` starts at row `2 * k`, counted from zero. It has the row behind
it as its companion, if there is one, and looks ahead at the row after. -/
theorem getElem?_pairsFrom (n : Nat) (rows : List Text) (k : Nat) :
    (pairsFrom n rows)[k]? = rows[2 * k]?.map fun primary =>
      ⟨n + 2 * k, primary, rows[2 * k + 1]?, rows[2 * k + 2]?⟩ := by
  -- Along the recursion of `pairsFrom`: a pair takes two rows, so `k` falls by
  -- one where the row's index falls by two.
  induction n, rows using pairsFrom.induct generalizing k with
  | case1 n => rfl
  | case2 n primary =>
      cases k with
      | zero => rfl
      | succ k => simp [pairsFrom, Nat.mul_succ]
  | case3 n primary companion rest ih =>
      cases k with
      | zero => simp [pairsFrom, List.head?_eq_getElem?]
      | succ k =>
          have hnumber : n + 2 + 2 * k = n + 2 * (k + 1) := by omega
          rw [pairsFrom, List.getElem?_cons_succ, ih, hnumber]
          rfl

/-- The pair that a row starts. -/
def pairAt (rows : List Text) (p : Nat) (primary : Text) : Pair :=
  ⟨p, primary, row? rows (p + 1), row? rows (p + 2)⟩

/-- The pairs of a listing start at its odd rows. -/
theorem getElem?_pairsFrom_one (rows : List Text) (k : Nat) :
    (pairsFrom 1 rows)[k]? = (row? rows (2 * k + 1)).map (pairAt rows (2 * k + 1)) := by
  rw [getElem?_pairsFrom, Nat.add_comm 1]
  rfl

/-- An odd row starts a pair. -/
theorem getElem?_pairsFrom_of_odd {rows : List Text} {p : Nat} {primary : Text}
    (hodd : p % 2 = 1) (hrow : row? rows p = some primary) :
    (pairsFrom 1 rows)[p / 2]? = some (pairAt rows p primary) := by
  rw [getElem?_pairsFrom_one, show 2 * (p / 2) + 1 = p by omega, hrow, Option.map_some]

/-- The locations of the pairs are those of the odd rows. -/
theorem filterMap_pairsFrom (n : Nat) (rows : List Text) :
    (pairsFrom n rows).filterMap Pair.location? = primaryLocations rows := by
  induction n, rows using pairsFrom.induct with
  | case1 n => rfl
  | case2 n primary => rfl
  | case3 n primary companion rest ih =>
      have hrange : List.range (primary :: companion :: rest).length
          = 0 :: 1 :: (List.range rest.length).map (· + 2) := by
        simp [List.range_succ_eq_map]
      -- Two rows further down the parity is the same.
      have hshift : ∀ p, (if (p + 2 + 1) % 2 = 1
            then locationAt? (primary :: companion :: rest) (p + 2 + 1) else none)
          = if (p + 1) % 2 = 1 then locationAt? rest (p + 1) else none := by
        intro p
        rw [show (p + 2 + 1) % 2 = (p + 1) % 2 by omega]
        rfl
      rw [pairsFrom, List.filterMap_cons, ih]
      simp only [primaryLocations, hrange, List.map_cons, List.map_map, List.filterMap_cons,
        List.filterMap_map, Function.comp_def, hshift]
      rfl

/-! ### Violations -/

/-- A row that violates the rules is there, and its number is odd. -/
theorem Violates.exists_row {rows : List Text} {p : Nat} (h : Violates rows p) :
    p % 2 = 1 ∧ ∃ primary, row? rows p = some primary ∧ (Location.parse? primary).isSome := by
  obtain ⟨hodd, hlocation, -⟩ := h
  obtain ⟨l, hl⟩ := Option.isSome_iff_exists.mp hlocation
  obtain ⟨primary, hrow, hparse⟩ := Option.bind_eq_some_iff.mp hl
  exact ⟨hodd, primary, hrow, Option.isSome_of_eq_some hparse⟩

/-- The pair that an odd row starts is objected to exactly if the row
violates the rules. -/
theorem fault?_pairAt_eq_none_iff {rows : List Text} {p : Nat} {primary : Text}
    (hodd : p % 2 = 1) (hrow : row? rows p = some primary) :
    (pairAt rows p primary).fault? = none ↔ ¬ Violates rows p := by
  have hlocation : locationAt? rows p = Location.parse? primary := by
    rw [locationAt?, hrow, Option.bind_some]
  unfold Violates pairAt Pair.fault? Pair.location?
  rw [hlocation]
  cases hparse : Location.parse? primary with
  | none => simp
  | some l =>
      -- Without a companion the row is the last one, and with one it is not: only
      -- one of the two rules can be broken.
      cases hcompanion : row? rows (p + 1) with
      | none =>
          have hlast : p = rows.length := by
            have hle := le_length_of_row? hrow
            have hge := row?_eq_none_iff.mp hcompanion
            omega
          simp only [hodd, Option.isSome_some, true_and]
          simp [hlast]
      | some companion =>
          have hlast : p ≠ rows.length := by
            have hle := le_length_of_row? hcompanion
            omega
          simp [hodd, hlast, locationAt?]

/-- What is objected to in the pair that a violating row starts. -/
theorem fault?_pairAt_of_violates {rows : List Text} {p : Nat} {primary : Text}
    (hrow : row? rows p = some primary) (h : Violates rows p) :
    ∃ line, row? rows (reported rows p) = some line ∧ (pairAt rows p primary).fault?
      = some (.malformedListing (reported rows p) line (complaint rows p)) := by
  obtain ⟨-, hlocation, hbroken⟩ := h
  obtain ⟨l, hparse⟩ := Option.isSome_iff_exists.mp hlocation
  rw [locationAt?, hrow, Option.bind_some] at hparse
  unfold reported complaint
  rcases hbroken with hlast | ⟨hbare, hnext⟩
  · have hcompanion : row? rows (p + 1) = none := row?_eq_none_iff.mpr (Nat.le_of_eq hlast.symm)
    rw [if_pos hlast, if_pos hlast]
    refine ⟨primary, hrow, ?_⟩
    simp only [pairAt, Pair.fault?, Pair.location?, hparse, hcompanion]
  · obtain ⟨companion, hcompanion, hbare'⟩ := hbare
    rw [Option.mem_def] at hcompanion
    have hlast : p ≠ rows.length := by
      have hle := le_length_of_row? hcompanion
      omega
    have hbind : (row? rows (p + 2)).bind Location.parse? = none := hnext
    rw [if_neg hlast, if_neg hlast]
    refine ⟨companion, hcompanion, ?_⟩
    simp only [pairAt, Pair.fault?, Pair.location?, hparse, hcompanion, hbare', hbind,
      Option.isNone_none, Bool.and_self, if_true]

/-- Nothing is objected to in a listing exactly if no row violates the
rules. -/
theorem findSome?_fault?_eq_none_iff (rows : List Text) :
    (pairsFrom 1 rows).findSome? Pair.fault? = none ↔ ∀ p, ¬ Violates rows p := by
  rw [List.findSome?_eq_none_iff]
  constructor
  · -- A violating row starts a pair, and that pair would be objected to.
    intro hall p hp
    obtain ⟨hodd, primary, hrow, -⟩ := hp.exists_row
    have hmem := List.mem_of_getElem? (getElem?_pairsFrom_of_odd hodd hrow)
    exact (fault?_pairAt_eq_none_iff hodd hrow).mp (hall _ hmem) hp
  · -- A pair is started by some odd row, which does not violate.
    intro hnone pair hmem
    obtain ⟨k, hk⟩ := List.mem_iff_getElem?.mp hmem
    rw [getElem?_pairsFrom_one] at hk
    obtain ⟨primary, hrow, rfl⟩ := Option.map_eq_some_iff.mp hk
    exact (fault?_pairAt_eq_none_iff (by omega) hrow).mpr (hnone _)

/-- The first row that violates the rules is the one objected to. -/
theorem findSome?_fault?_of_violates {rows : List Text} {p : Nat} (hp : Violates rows p)
    (hleast : ∀ q < p, ¬ Violates rows q) :
    ∃ line, row? rows (reported rows p) = some line ∧
      (pairsFrom 1 rows).findSome? Pair.fault?
        = some (.malformedListing (reported rows p) line (complaint rows p)) := by
  obtain ⟨hodd, primary, hrow, -⟩ := hp.exists_row
  obtain ⟨line, hline, hfault⟩ := fault?_pairAt_of_violates hrow hp
  obtain ⟨hlt, hget⟩ := List.getElem?_eq_some_iff.mp (getElem?_pairsFrom_of_odd hodd hrow)
  have hsplit : pairsFrom 1 rows = (pairsFrom 1 rows).take (p / 2)
      ++ pairAt rows p primary :: (pairsFrom 1 rows).drop (p / 2 + 1) := by
    rw [← hget, ← List.drop_eq_getElem_cons hlt, List.take_append_drop]
  refine ⟨line, hline, List.findSome?_eq_some_iff.mpr ⟨_, _, _, hsplit, hfault, ?_⟩⟩
  -- The pairs in front start at smaller odd rows, and none of these violates.
  intro pair hmem
  obtain ⟨j, hj⟩ := List.mem_iff_getElem?.mp hmem
  rw [List.getElem?_take, getElem?_pairsFrom_one] at hj
  obtain ⟨hjlt, hj⟩ := Option.ite_none_right_eq_some.mp hj
  obtain ⟨primary', hrow', rfl⟩ := Option.map_eq_some_iff.mp hj
  exact (fault?_pairAt_eq_none_iff (by omega) hrow').mpr (hleast _ (by omega))

/-! ### The two readers -/

/-- A lenient reader takes the locations of the odd rows. -/
theorem read_lenient (listing : Text) :
    read .lenient listing = .ok (primaryLocations (rows listing)) := by
  rw [← filterMap_pairsFrom 1]
  rfl

/-- A strict reader reads as a lenient one does, if it objects to nothing. -/
theorem read_strict_of_none {listing : Text}
    (h : (pairs listing).findSome? Pair.fault? = none) :
    read .strict listing = read .lenient listing := by
  simp only [read, fault?, h]

/-- A strict reader reports what it objects to. -/
theorem read_strict_of_some {listing : Text} {fault : Fault}
    (h : (pairs listing).findSome? Pair.fault? = some fault) :
    read .strict listing = .error fault := by
  simp only [read, fault?, h]

/-- What is objected to in a pair is the form of the listing, for one of two reasons. -/
theorem malformed_of_pair {pair : Pair} {fault : Fault} (h : pair.fault? = some fault) :
    ∃ number line reason, fault = .malformedListing number line reason ∧
      (reason = Pair.noCompanion ∨ reason = Pair.outOfStep) := by
  unfold Pair.fault? at h
  split at h
  · exact nomatch h
  · split at h
    · exact ⟨_, _, _, (Option.some.inj h).symm, .inl rfl⟩
    · split at h
      · exact ⟨_, _, _, (Option.some.inj h).symm, .inr rfl⟩
      · exact nomatch h

/-- A reader only ever reports the form of the listing. -/
theorem malformed_of_read {policy : Policy} {listing : Text} {fault : Fault}
    (h : read policy listing = .error fault) :
    ∃ number line reason, fault = .malformedListing number line reason ∧
      (reason = Pair.noCompanion ∨ reason = Pair.outOfStep) := by
  cases policy with
  | lenient =>
      rw [read_lenient] at h
      exact nomatch h
  | strict =>
      cases hfault : (pairs listing).findSome? Pair.fault? with
      | none =>
          rw [read_strict_of_none hfault, read_lenient] at h
          exact nomatch h
      | some reported =>
          rw [read_strict_of_some hfault] at h
          obtain rfl := Except.error.inj h
          obtain ⟨pair, -, hpair⟩ := List.exists_of_findSome?_eq_some hfault
          exact malformed_of_pair hpair

/-- A strict reader succeeds exactly if no row violates the rules. -/
theorem read_strict_eq_ok_iff (listing : Text) :
    (∃ locations, read .strict listing = .ok locations)
      ↔ ∀ p, ¬ Violates (rows listing) p := by
  rw [← findSome?_fault?_eq_none_iff]
  constructor
  · rintro ⟨locations, hread⟩
    cases hfault : (pairs listing).findSome? Pair.fault? with
    | none => exact hfault
    | some fault =>
        rw [read_strict_of_some hfault] at hread
        exact nomatch hread
  · intro hnone
    exact ⟨_, (read_strict_of_none hnone).trans (read_lenient listing)⟩

/-- What the two readers make of a listing, by the numbers of its rows. The
lenient one succeeds with the locations of the odd rows. The strict one
succeeds if no row violates the rules, with the same locations. Otherwise it
reports the first violation: the row itself if it is the last one, and else
the row behind it. -/
theorem read_by_row_numbers (listing : Text) :
    read .lenient listing = .ok (primaryLocations (rows listing)) ∧
    ((∃ locations, read .strict listing = .ok locations)
      ↔ ∀ p, ¬ Violates (rows listing) p) ∧
    ((∀ p, ¬ Violates (rows listing) p) → read .strict listing = read .lenient listing) ∧
    ∀ p, Violates (rows listing) p → (∀ q < p, ¬ Violates (rows listing) q) →
      ∃ line, row? (rows listing) (reported (rows listing) p) = some line ∧
        read .strict listing = .error (.malformedListing (reported (rows listing) p) line
          (complaint (rows listing) p)) := by
  refine ⟨read_lenient listing, read_strict_eq_ok_iff listing, ?_, ?_⟩
  · intro hnone
    exact read_strict_of_none ((findSome?_fault?_eq_none_iff _).mpr hnone)
  · intro p hp hleast
    obtain ⟨line, hline, hfault⟩ := findSome?_fault?_of_violates hp hleast
    exact ⟨line, hline, read_strict_of_some hfault⟩

-- Row 2 is a bare location, but row 3 is a location too, so only row 3 violates.
example : (List.range 6).filter (fun p =>
    Violates (rows "a:1:1\nb:2:2\nc:3:3\nd:4:4\n".toList) p) = [3] := by decide +kernel

end GoXref.Listing
