import GoXref.Proofs.Listing.InStep
import GoXref.Proofs.Location

/-!
# `GoXref.Proofs.Listing.Written`: reading undoes writing

A listing is written entry by entry: a location on one line, a companion on
the next. The file name of a location may hold anything but a line feed, and
so may a companion.

* `rows_write`: the rows of a written listing are its lines, and one empty
  row behind the last line feed.
* `read_write`: the reader gives back the locations that were written. A
  strict reader objects in one case only: the last companion is a bare
  location. Every other companion has the location of the next entry behind
  it, which shows that the pairs are in step.
-/

set_option autoImplicit false

namespace GoXref.Listing

/-- A location and its companion line. Both can be written on one line. -/
structure Entry where
  /-- The location. -/
  location : Location
  /-- The line behind it. -/
  companion : Text
  /-- There is no location without a file name. -/
  file_ne_nil : location.file ≠ []
  /-- The file name stays on one line. -/
  lf_notMem_file : '\n' ∉ location.file
  /-- The companion stays on one line. -/
  lf_notMem_companion : '\n' ∉ companion

/-- The rows that are read off an entry. -/
def Entry.rows (e : Entry) : List Text := [e.location.toText, stripReturn e.companion]

/-- The listing of some entries, two lines for each. -/
def write (entries : List Entry) : Text :=
  entries.flatMap fun e => e.location.toText ++ '\n' :: (e.companion ++ ['\n'])

/-! ### The rows -/

/-- A written location ends in a digit. -/
theorem stripReturn_toText (l : Location) : stripReturn l.toText = l.toText := by
  have htext : l.toText = (l.file ++ ':' :: (Text.decimal l.line.toNat ++ [':']))
      ++ Text.decimal l.column.toNat := by simp [Location.toText]
  rw [htext, stripReturn_append_of_areDigits _ (Location.areDigits_decimal _)]

/-- The rows of a written listing, entry by entry, and the empty row behind
the last line feed. -/
theorem rows_write (entries : List Entry) :
    rows (write entries) = entries.flatMap Entry.rows ++ [[]] := by
  have hwrite : write entries
      = printed (entries.flatMap fun e => [e.location.toText, e.companion]) := by
    simp [write, printed, List.flatMap_assoc]
  have hlines : ∀ line ∈ entries.flatMap fun e => [e.location.toText, e.companion],
      '\n' ∉ line := by
    intro line hline
    obtain ⟨e, -, he⟩ := List.mem_flatMap.mp hline
    simp only [List.mem_cons, List.not_mem_nil, or_false] at he
    rcases he with rfl | rfl
    · exact Location.lf_notMem_toText e.lf_notMem_file
    · exact e.lf_notMem_companion
  have hrows : ∀ e : Entry, [e.location.toText, e.companion].map stripReturn = e.rows := by
    intro e
    rw [List.map_cons, List.map_cons, List.map_nil, stripReturn_toText]
    rfl
  rw [hwrite, rows_printed hlines, List.map_flatMap]
  simp only [hrows]

/-! ### The pairs -/

/-- The location of an entry is read back from its first row. -/
theorem Entry.parse?_toText (e : Entry) : Location.parse? e.location.toText = some e.location := by
  have h : Location.parse? (e.location.toText ++ []) = some e.location :=
    Location.parse?_toText_append e.file_ne_nil e.lf_notMem_file List.not_mem_nil
      (fun c hc => nomatch hc)
  rwa [List.append_nil] at h

/-- The pairs of a written listing have the locations of its entries. -/
theorem filterMap_pairsFrom_rows (n : Nat) (entries : List Entry) :
    (pairsFrom n (entries.flatMap Entry.rows ++ [[]])).filterMap Pair.location?
      = entries.map Entry.location := by
  have hpairs := filterMap_pairsFrom_flatMap (fun e : Entry => e.location.toText)
    (fun e => stripReturn e.companion) n entries [[]]
  have hlocations : entries.filterMap (fun e => Location.parse? e.location.toText)
      = entries.map Entry.location := by
    simp only [Entry.parse?_toText, List.filterMap_eq_map']
  -- The row behind the entries is no location.
  exact hpairs.trans (by rw [hlocations]; exact List.append_nil _)

/-- What a strict reader objects to in an entry that no location follows, if
its companion is row `number`. -/
def Entry.fault? (number : Nat) (e : Entry) : Option Fault :=
  if Location.isBare (stripReturn e.companion) then
    some (.malformedListing number (stripReturn e.companion) Pair.outOfStep)
  else none

/-- Only in its last entry can a written listing be objected to. -/
theorem findSome?_pairsFrom_rows (n : Nat) (entries : List Entry) :
    (pairsFrom (n + 1) (entries.flatMap Entry.rows ++ [[]])).findSome? Pair.fault?
      = entries.getLast?.bind (Entry.fault? (n + 2 * entries.length)) := by
  rcases List.eq_nil_or_concat entries with rfl | ⟨front, last, rfl⟩
  · rfl
  · rw [List.concat_eq_append, List.flatMap_append, List.append_assoc, List.getLast?_concat,
      Option.bind_some]
    -- All entries but the last have the location of the next one behind them.
    have hfront := findSome?_pairsFrom_flatMap (fun e : Entry => e.location.toText)
      (fun e => stripReturn e.companion) (n + 1) front
      (last.location.toText :: stripReturn last.companion :: [[]])
      (fun e _ => Option.isSome_of_eq_some e.parse?_toText)
      (Option.isSome_of_eq_some last.parse?_toText)
    refine hfront.trans ?_
    -- Behind the last companion there is the empty row only.
    have hnumber : n + 1 + 2 * front.length + 1 = n + 2 * (front ++ [last]).length := by
      rw [List.length_append, List.length_singleton]
      omega
    rw [pairsFrom, List.findSome?_cons, Entry.fault?, ← hnumber]
    simp only [Pair.fault?, Pair.location?, last.parse?_toText]
    cases hbare : Location.isBare (stripReturn last.companion) with
    | true => rfl
    | false => rfl

/-! ### The round trip -/

/-- Reading undoes writing. A lenient reader gives back the locations that
were written, in order. So does a strict reader, unless the last companion,
without one carriage return at its end, is a bare location: the listing is
then refused at that companion, which is its last line. -/
theorem read_write (entries : List Entry) :
    read .lenient (write entries) = .ok (entries.map Entry.location) ∧
    read .strict (write entries) = match entries.getLast? with
      | none => .ok []
      | some last =>
        if Location.isBare (stripReturn last.companion) then
          .error (.malformedListing (2 * entries.length) (stripReturn last.companion)
            Pair.outOfStep)
        else .ok (entries.map Entry.location) := by
  have hlenient : read .lenient (write entries) = .ok (entries.map Entry.location) := by
    rw [← filterMap_pairsFrom_rows 1 entries, ← rows_write]
    rfl
  have hfault : (pairs (write entries)).findSome? Pair.fault?
      = entries.getLast?.bind (Entry.fault? (2 * entries.length)) := by
    rw [pairs, rows_write, findSome?_pairsFrom_rows 0, Nat.zero_add]
  refine ⟨hlenient, ?_⟩
  cases hlast : entries.getLast? with
  | none =>
      rw [hlast] at hfault
      rw [read_strict_of_none hfault, hlenient, List.getLast?_eq_none_iff.mp hlast]
      rfl
  | some last =>
      rw [hlast, Option.bind_some, Entry.fault?] at hfault
      by_cases hbare : Location.isBare (stripReturn last.companion) = true
      · rw [if_pos hbare] at hfault
        simp only [hbare, if_true]
        exact read_strict_of_some hfault
      · rw [if_neg hbare] at hfault
        simp only [hbare]
        exact (read_strict_of_none hfault).trans hlenient

-- The file name looks like a location of its own, and the companion is one.
example : ∃ e : Entry,
    read .lenient (write [e, e]) = .ok [e.location, e.location] ∧
    read .strict (write [e, e]) = .error (.malformedListing 4 e.companion Pair.outOfStep) :=
  ⟨⟨⟨"a:1:2".toList, 3, 4⟩, "b:5:6".toList, by decide, by decide, by decide⟩, rfl, rfl⟩

end GoXref.Listing
