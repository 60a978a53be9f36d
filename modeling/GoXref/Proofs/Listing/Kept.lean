import Mathlib.Data.List.Forall2
import GoXref.Proofs.Listing.Violation
import GoXref.Proofs.Location.Reading

/-!
# `GoXref.Proofs.Listing.Kept`: the rows that a reading keeps

A reader that succeeds returns locations, and the question is which rows of the
listing they stand for. An odd row can have the form of a location and still
have none: its numbers may be too large for 32 bits, or written in digits that
are not ASCII. Such a row is passed over like any other text.

* `oddRows`: the rows that can hold a location.
* `read_keeps_readable`: the locations stand for the readable odd rows, one for
  one and in order. They stand for all odd rows that have the form of a location
  exactly if all of these are readable.
* `read_drops_unreadable`: a listing where one is not.
-/

set_option autoImplicit false

namespace GoXref.Listing

open Location (Matches IsReadable)

/-- The odd rows, counted from one, in order. -/
def oddRows (rows : List Text) : List Text :=
  ((List.range rows.length).map (· + 1)).filterMap fun p =>
    if p % 2 = 1 then row? rows p else none

/-- The locations stand for the lines, one for one and in order. -/
def StandFor (locations : List Location) (lines : List Text) : Prop :=
  List.Forall₂ (fun line l => Location.parse? line = some l) lines locations

/-- The locations in the odd rows are read off them. -/
theorem primaryLocations_eq_filterMap (rows : List Text) :
    primaryLocations rows = (oddRows rows).filterMap Location.parse? := by
  rw [primaryLocations, oddRows, List.filterMap_filterMap]
  congr 1
  funext p
  split
  · rfl
  · rfl

/-- A reader of either kind that succeeds returns the locations in the odd rows. -/
theorem eq_primaryLocations_of_read {policy : Policy} {listing : Text}
    {locations : List Location} (h : read policy listing = .ok locations) :
    locations = primaryLocations (rows listing) := by
  unfold read at h
  split at h
  · exact nomatch h
  · rw [← filterMap_pairsFrom 1]
    exact (Except.ok.inj h).symm

/-- What is read off some lines stands for the readable ones among them. -/
theorem standFor_filterMap (lines : List Text) :
    StandFor (lines.filterMap Location.parse?) (lines.filter (IsReadable ·)) := by
  induction lines with
  | nil => exact .nil
  | cons line lines ih =>
      cases hparse : Location.parse? line with
      | some l =>
          have hreadable : IsReadable line :=
            Location.isSome_parse?_iff.mp (Option.isSome_of_eq_some hparse)
          rw [List.filterMap_cons_some hparse, List.filter_cons_of_pos (by simpa using hreadable)]
          exact .cons hparse ih
      | none =>
          have hunreadable : ¬ IsReadable line := by
            rw [← Location.isSome_parse?_iff, hparse]
            exact Bool.false_ne_true
          rw [List.filterMap_cons_none hparse,
            List.filter_cons_of_neg (by simpa using hunreadable)]
          exact ih

/-- Lines that locations stand for are readable. -/
theorem StandFor.isReadable {locations : List Location} {lines : List Text}
    (h : StandFor locations lines) : ∀ line ∈ lines, IsReadable line := by
  induction h with
  | nil => simp
  | cons hparse _ ih =>
      exact List.forall_mem_cons.mpr
        ⟨Location.isSome_parse?_iff.mp (Option.isSome_of_eq_some hparse), ih⟩

/-- The locations that a reader returns, of either kind, if it succeeds. They
stand for the readable odd rows. A row that has the form of a location without
being readable is dropped, so that they stand for all the odd rows of that form
exactly if there is no such row. -/
theorem read_keeps_readable {policy : Policy} {listing : Text} {locations : List Location}
    (h : read policy listing = .ok locations) :
    StandFor locations ((oddRows (rows listing)).filter (IsReadable ·)) ∧
    (StandFor locations ((oddRows (rows listing)).filter (Matches ·)) ↔
      ∀ line ∈ oddRows (rows listing), Matches line → IsReadable line) := by
  obtain rfl := eq_primaryLocations_of_read h
  rw [primaryLocations_eq_filterMap]
  have hkept := standFor_filterMap (oddRows (rows listing))
  refine ⟨hkept, ?_⟩
  constructor
  · intro hall line hmem hmatches
    exact hall.isReadable line (List.mem_filter.mpr ⟨hmem, by simpa using hmatches⟩)
  · -- If every row of the form is readable, the two filters keep the same rows.
    intro hreadable
    have hfilter : (oddRows (rows listing)).filter (Matches ·)
        = (oddRows (rows listing)).filter (IsReadable ·) := by
      apply List.filter_congr
      intro line hmem
      exact decide_eq_decide.mpr ⟨hreadable line hmem, IsReadable.matches⟩
    rwa [hfilter]

/-- Three pairs. The line number of the second location is too large, and the
third pair has no location. -/
def mixed : Text := "a.go:1:2\n-\nb.go:4294967296:1\n-\nnote\n-\n".toList

/-- `read_keeps_readable` for these pairs. -/
theorem read_keeps_readable_mixed :
    read .strict mixed
      = .ok [⟨"a.go".toList, 1, 2⟩] ∧
    StandFor [⟨"a.go".toList, 1, 2⟩] ["a.go:1:2".toList] ∧
    ¬ StandFor [⟨"a.go".toList, 1, 2⟩] ["a.go:1:2".toList, "b.go:4294967296:1".toList] := by
  have hread : read .strict mixed
      = .ok [⟨"a.go".toList, 1, 2⟩] := rfl
  obtain ⟨hkept, hall⟩ := read_keeps_readable hread
  have hreadable : (oddRows (rows mixed)).filter
      (IsReadable ·) = ["a.go:1:2".toList] := by decide +kernel
  have hmatches : (oddRows (rows mixed)).filter
      (Matches ·) = ["a.go:1:2".toList, "b.go:4294967296:1".toList] := by decide +kernel
  rw [hreadable] at hkept
  rw [hmatches] at hall
  refine ⟨hread, hkept, ?_⟩
  rw [hall]
  decide +kernel

/-- Two odd rows that have the form of a location and are dropped. In the first
one the line number does not fit 32 bits, and a strict reader does not even miss
its companion. In the second one it is written in digits that are not ASCII. -/
theorem read_drops_unreadable :
    (oddRows (rows "a.go:4294967296:1".toList)).filter (Matches ·) = ["a.go:4294967296:1".toList] ∧
    read .strict "a.go:4294967296:1".toList = .ok [] ∧
    read .lenient "a.go:4294967296:1".toList = .ok [] ∧
    (oddRows (rows "a.go:٣:1\n-\n".toList)).filter (Matches ·) = ["a.go:٣:1".toList] ∧
    read .strict "a.go:٣:1\n-\n".toList = .ok [] ∧
    read .lenient "a.go:٣:1\n-\n".toList = .ok [] :=
  ⟨by decide +kernel, rfl, rfl, by decide +kernel, rfl, rfl⟩

end GoXref.Listing
