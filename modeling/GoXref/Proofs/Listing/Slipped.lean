import GoXref.Proofs.Listing.InStep
import GoXref.Proofs.Location.Bare

/-!
# `GoXref.Proofs.Listing.Slipped`: a companion line is lost

If one companion line is missing from a listing, all the lines behind it slip by
one: every later location stands where a companion is expected, and every later
companion where a location is. A strict reader notices this at the first line out
of place, the location that took the place of the lost companion. It is a bare
location, and the next first row is a companion.

* `Hit`: what is printed for one match.
* `rows_slipped`: the rows of the listing with one companion missing. Those in
  front of the gap are in step, and those behind it are not.
* `filterMap_pairsFrom_slipped`: nothing is read from the rows behind the gap.
* `read_lost_companion`: what both readers make of the listing.
-/

set_option autoImplicit false

namespace GoXref.Listing

/-- What is printed for one match: a line that is a location and nothing else, and
a companion line, which is none. -/
structure Hit where
  /-- The location as printed. -/
  line : Text
  /-- The location. -/
  location : Location
  /-- The line behind it. -/
  companion : Text
  /-- There is nothing but the location on its line. -/
  isBare_line : Location.isBare line = true
  /-- Its numbers can be read. -/
  parse?_line : Location.parse? line = some location
  /-- The companion stays on one line. -/
  lf_notMem_companion : '\n' ∉ companion
  /-- The companion has no location. -/
  parse?_companion : Location.parse? (stripReturn companion) = none

namespace Hit

/-- The lines that are printed for a match. -/
def lines (h : Hit) : List Text := [h.line, h.companion]

/-- The rows that are read off them. -/
def rows (h : Hit) : List Text := [h.line, stripReturn h.companion]

/-- A location does not end in a carriage return. -/
theorem stripReturn_line (h : Hit) : stripReturn h.line = h.line := by
  obtain ⟨file, line, column, -, -, -, hcolumn, hparts⟩ := Location.isBare_iff.mp h.isBare_line
  have hdigits : h.line = (file ++ ':' :: (line ++ [':'])) ++ column := by
    rw [hparts]
    simp
  rw [hdigits, stripReturn_append_of_areDigits _ hcolumn]

/-- The rows are the lines without the carriage returns at their ends. -/
theorem map_stripReturn_lines (h : Hit) : h.lines.map stripReturn = h.rows := by
  rw [lines, rows, List.map_cons, List.map_cons, List.map_nil, stripReturn_line]

/-- No line of a match runs over its end. -/
theorem lf_notMem_lines (h : Hit) : ∀ line ∈ h.lines, '\n' ∉ line :=
  List.forall_mem_cons.mpr ⟨Location.lf_notMem_of_isBare h.isBare_line,
    List.forall_mem_singleton.mpr h.lf_notMem_companion⟩

end Hit

/-- The listing of some matches, without the companion of match `k`. Matches are
counted from zero, so this is line `2 * k + 1`. -/
def slipped (hits : List Hit) (k : Nat) : Text :=
  printed ((hits.flatMap Hit.lines).eraseIdx (2 * k + 1))

/-! ### The rows -/

/-- Each match takes two lines. -/
theorem length_flatMap_lines (hits : List Hit) :
    (hits.flatMap Hit.lines).length = 2 * hits.length := by
  induction hits with
  | nil => rfl
  | cons h hits ih =>
      rw [List.flatMap_cons, List.length_append, ih, List.length_cons]
      show 2 + 2 * hits.length = _
      omega

/-- Without the companion of a match its location has the next location behind
it. -/
theorem eraseIdx_flatMap_lines (front back : List Hit) (lost : Hit) :
    ((front ++ lost :: back).flatMap Hit.lines).eraseIdx (2 * front.length + 1)
      = front.flatMap Hit.lines ++ lost.line :: back.flatMap Hit.lines := by
  rw [List.flatMap_append, List.eraseIdx_append_of_length_le, length_flatMap_lines,
    Nat.add_sub_cancel_left]
  · rfl
  · rw [length_flatMap_lines]
    omega

/-- The rows of a listing with one companion missing: those of the matches in
front, the location that has lost its companion, and those of the other matches. -/
theorem rows_slipped (front back : List Hit) (lost : Hit) :
    rows (slipped (front ++ lost :: back) front.length)
      = front.flatMap Hit.rows ++ lost.line :: (back.flatMap Hit.rows ++ [[]]) := by
  have hlf : ∀ line ∈ front.flatMap Hit.lines ++ lost.line :: back.flatMap Hit.lines,
      '\n' ∉ line := by
    intro line hline
    rcases List.mem_append.mp hline with hfront | hback
    · obtain ⟨h, -, hmem⟩ := List.mem_flatMap.mp hfront
      exact h.lf_notMem_lines line hmem
    · rcases List.mem_cons.mp hback with rfl | hback
      · exact Location.lf_notMem_of_isBare lost.isBare_line
      · obtain ⟨h, -, hmem⟩ := List.mem_flatMap.mp hback
        exact h.lf_notMem_lines line hmem
  rw [slipped, eraseIdx_flatMap_lines, rows_printed hlf, List.map_append, List.map_cons,
    List.map_flatMap, List.map_flatMap, lost.stripReturn_line]
  simp only [Hit.map_stripReturn_lines, List.append_assoc, List.cons_append]

/-! ### Behind the gap -/

/-- Nothing is read from rows that are out of step: each pair starts with a
companion. -/
theorem filterMap_pairsFrom_slipped (n : Nat) {companion : Text} (hits : List Hit)
    (hcompanion : Location.parse? companion = none) :
    (pairsFrom n (companion :: (hits.flatMap Hit.rows ++ [[]]))).filterMap Pair.location? = [] := by
  -- The companion of each match starts the pair of the next location.
  induction hits generalizing n companion with
  | nil => simp [pairsFrom, Pair.location?, hcompanion]
  | cons h hits ih =>
      show (pairsFrom n (companion :: h.line ::
        stripReturn h.companion :: (hits.flatMap Hit.rows ++ [[]]))).filterMap Pair.location? = []
      rw [pairsFrom, List.filterMap_cons, ih _ h.parse?_companion]
      simp only [Pair.location?, hcompanion]

/-! ### The two readers -/

section Readers

variable (front back : List Hit) (lost next : Hit)

/-- A lenient reader takes the locations up to the gap, and none behind it. -/
theorem read_lenient_slipped :
    read .lenient (slipped (front ++ lost :: next :: back) front.length)
      = .ok ((front ++ [lost]).map Hit.location) := by
  have hfront : front.filterMap (fun h => Location.parse? h.line) = front.map Hit.location := by
    simp only [Hit.parse?_line, List.filterMap_eq_map']
  have hpairs := filterMap_pairsFrom_flatMap Hit.line (fun h => stripReturn h.companion) 1 front
    (lost.line :: ((next :: back).flatMap Hit.rows ++ [[]]))
  rw [read_lenient, rows_slipped, ← filterMap_pairsFrom 1]
  refine congrArg Except.ok (hpairs.trans ?_)
  -- The pair at the gap has the lost location, and then the rows are out of step.
  show _ ++ (pairsFrom (1 + 2 * front.length) (lost.line :: next.line ::
    (stripReturn next.companion :: (back.flatMap Hit.rows ++ [[]])))).filterMap Pair.location? = _
  rw [hfront, pairsFrom, List.filterMap_cons,
    filterMap_pairsFrom_slipped _ back next.parse?_companion]
  simp only [Pair.location?, lost.parse?_line, List.map_append, List.map_cons, List.map_nil]

/-- A strict reader objects to the location in the place of the lost companion. -/
theorem read_strict_slipped :
    read .strict (slipped (front ++ lost :: next :: back) front.length)
      = .error (.malformedListing (2 * (front.length + 1)) next.line Pair.outOfStep) := by
  -- The rows in front are in step, so the first objection is at the gap or behind it.
  have hpairs := findSome?_pairsFrom_flatMap Hit.line (fun h => stripReturn h.companion) 1
    front (lost.line :: ((next :: back).flatMap Hit.rows ++ [[]]))
    (fun h _ => Option.isSome_of_eq_some h.parse?_line)
    (Option.isSome_of_eq_some lost.parse?_line)
  have hnumber : 1 + 2 * front.length + 1 = 2 * (front.length + 1) := by omega
  apply read_strict_of_some
  rw [pairs, rows_slipped]
  refine hpairs.trans ?_
  show (pairsFrom (1 + 2 * front.length) (lost.line :: next.line ::
    (stripReturn next.companion :: (back.flatMap Hit.rows ++ [[]])))).findSome? Pair.fault? = _
  rw [pairsFrom, List.findSome?_cons]
  simp only [Pair.fault?, Pair.location?, lost.parse?_line, next.isBare_line, List.head?_cons,
    Option.bind_some, next.parse?_companion, Option.isNone_none, Bool.and_self, if_true, hnumber]

end Readers

/-- Some matches are printed, two lines for each, and the companion of match `k` is
lost, which is not the last one. A strict reader reports the line of the next match,
which has taken the place of the companion. A lenient reader reads the locations up to
match `k` and none of those behind it. Matches are counted from zero, and lines from
one. -/
theorem read_lost_companion {hits : List Hit} {k : Nat} {next : Hit}
    (hnext : hits[k + 1]? = some next) :
    read .strict (slipped hits k)
      = .error (.malformedListing (2 * (k + 1)) next.line Pair.outOfStep) ∧
    read .lenient (slipped hits k) = .ok ((hits.take (k + 1)).map Hit.location) := by
  obtain ⟨hlt, rfl⟩ := List.getElem?_eq_some_iff.mp hnext
  have hlength : (hits.take k).length = k := List.length_take_of_le (by omega)
  have hsplit : hits = hits.take k ++ hits[k] :: hits[k + 1] :: hits.drop (k + 2) := by
    rw [← List.drop_eq_getElem_cons hlt, ← List.drop_eq_getElem_cons, List.take_append_drop]
  have hstrict := read_strict_slipped (hits.take k) (hits.drop (k + 2)) hits[k] hits[k + 1]
  have hlenient := read_lenient_slipped (hits.take k) (hits.drop (k + 2)) hits[k] hits[k + 1]
  rw [← hsplit, hlength] at hstrict hlenient
  refine ⟨hstrict, ?_⟩
  rw [hlenient, List.take_add_one, List.getElem?_eq_getElem (by omega)]
  rfl

/-- Three matches. A number is written with leading zeros, and one companion looks
like a location whose number is too large. -/
def threeHits : List Hit :=
  [⟨"a.go:007:1".toList, ⟨"a.go".toList, 7, 1⟩, "\tgreet()\r".toList, by decide +kernel, rfl,
      by decide, rfl⟩,
    ⟨"b:2:c.go:3:4".toList, ⟨"b:2:c.go".toList, 3, 4⟩, "see:1:99999999999".toList,
      by decide +kernel, rfl, by decide, rfl⟩,
    ⟨"/d.go:5:6".toList, ⟨"/d.go".toList, 5, 6⟩, [], by decide +kernel, rfl, by decide, rfl⟩]

/-- `read_lost_companion` for these matches, without the second companion. -/
theorem read_lost_companion_second :
    threeHits[1 + 1]? = some threeHits[2] ∧
    slipped threeHits 1 = "a.go:007:1\n\tgreet()\r\nb:2:c.go:3:4\n/d.go:5:6\n\n".toList ∧
    read .strict (slipped threeHits 1)
      = .error (.malformedListing 4 "/d.go:5:6".toList Pair.outOfStep) ∧
    read .lenient (slipped threeHits 1)
      = .ok [⟨"a.go".toList, 7, 1⟩, ⟨"b:2:c.go".toList, 3, 4⟩] := by
  have hnext : threeHits[1 + 1]? = some threeHits[2] := rfl
  exact ⟨hnext, rfl, read_lost_companion hnext⟩

end GoXref.Listing
