import GoXref.Proofs.Listing.Terminated
import GoXref.Proofs.Text.Lossy
import GoXref.Search

/-!
# `GoXref.Proofs.Listing.Companion`: what companion lines can change

The search tool prints octets. They are read as text whatever they are, and the
text is then cut into rows. A companion row says nothing to a lenient reader. To a
strict one it matters whether there is one, and whether it is a bare location.

* `read_lenient_congr`: the odd rows alone make up what a lenient reader returns.
* `read_strict_congr`: and what a strict reader does, if no companion is a bare
  location.
* `row?_decodeLossy`: a row is read from its own line of the output, so no octet of
  one line can change another row.
* `read_of_same_primaries`: two runs of the tool whose outputs differ in companion
  lines alone.
-/

set_option autoImplicit false

namespace GoXref

open Utf8 (decodeLossy)

namespace Listing

/-! ### Odd rows -/

/-- No companion is a bare location. -/
def NoBareCompanion (rows : List Text) : Prop :=
  ∀ p, p % 2 = 0 → ∀ companion ∈ row? rows p, Location.isBare companion = false

/-- Rows with the same odd rows have the same locations in them. -/
theorem primaryLocations_congr {rows rows' : List Text} (hlength : rows.length = rows'.length)
    (hodd : ∀ p, p % 2 = 1 → row? rows p = row? rows' p) :
    primaryLocations rows = primaryLocations rows' := by
  unfold primaryLocations
  rw [hlength]
  congr 1
  funext p
  by_cases hp : p % 2 = 1
  · rw [if_pos hp, if_pos hp, locationAt?, locationAt?, hodd p hp]
  · rw [if_neg hp, if_neg hp]

/-- If no companion is a bare location, only the last row can break the rules. -/
theorem Violates.eq_length {rows : List Text} {p : Nat} (h : Violates rows p)
    (hbare : NoBareCompanion rows) : p = rows.length := by
  obtain ⟨hodd, -, hlast | ⟨⟨companion, hcompanion, hisBare⟩, -⟩⟩ := h
  · exact hlast
  · rw [hbare (p + 1) (by omega) companion hcompanion] at hisBare
    exact nomatch hisBare

/-- It does if it is odd and holds a location. -/
theorem endsAlone_iff {rows : List Text} (hbare : NoBareCompanion rows) :
    EndsAlone rows ↔ rows.length % 2 = 1 ∧ (locationAt? rows rows.length).isSome := by
  constructor
  · rintro ⟨⟨hodd, hlocation, -⟩, -⟩
    exact ⟨hodd, hlocation⟩
  · rintro ⟨hodd, hlocation⟩
    refine ⟨⟨hodd, hlocation, .inl rfl⟩, ?_⟩
    intro p hp hviolates
    exact absurd (hviolates.eq_length hbare) (Nat.ne_of_lt hp)

/-- If it does not, a strict reader reads as a lenient one does. -/
theorem read_strict_of_not_endsAlone {listing : Text} (hbare : NoBareCompanion (rows listing))
    (halone : ¬ EndsAlone (rows listing)) : read .strict listing = read .lenient listing := by
  refine read_strict_of_none ((findSome?_fault?_eq_none_iff _).mpr ?_)
  intro p hp
  obtain rfl := hp.eq_length hbare
  exact halone ⟨hp, fun q hq hviolates => absurd (hviolates.eq_length hbare) (Nat.ne_of_lt hq)⟩

/-- Listings with the same odd rows are the same to a lenient reader. -/
theorem read_lenient_congr {listing listing' : Text}
    (hlength : (rows listing).length = (rows listing').length)
    (hodd : ∀ p, p % 2 = 1 → row? (rows listing) p = row? (rows listing') p) :
    read .lenient listing = read .lenient listing' := by
  rw [read_lenient, read_lenient, primaryLocations_congr hlength hodd]

/-- They are the same to a strict reader, too, if no companion in either is a bare
location. -/
theorem read_strict_congr {listing listing' : Text}
    (hlength : (rows listing).length = (rows listing').length)
    (hodd : ∀ p, p % 2 = 1 → row? (rows listing) p = row? (rows listing') p)
    (hbare : NoBareCompanion (rows listing)) (hbare' : NoBareCompanion (rows listing')) :
    read .strict listing = read .strict listing' := by
  have hsame : EndsAlone (rows listing) ↔ EndsAlone (rows listing') := by
    rw [endsAlone_iff hbare, endsAlone_iff hbare', hlength]
    refine and_congr_right fun hp => ?_
    rw [locationAt?, locationAt?, hodd _ hp]
  by_cases halone : EndsAlone (rows listing)
  · -- Both readings fail at the last row, which is odd and so the same in both.
    obtain ⟨line, hline, hfault⟩ := read_strict_of_endsAlone halone
    obtain ⟨line', hline', hfault'⟩ := read_strict_of_endsAlone (hsame.mp halone)
    have hlast := hodd _ ((endsAlone_iff hbare).mp halone).1
    rw [row?_length, hline, hlength, row?_length, hline'] at hlast
    obtain rfl := Option.some.inj hlast
    rw [hfault, hfault', hlength]
  · rw [read_strict_of_not_endsAlone hbare halone,
      read_strict_of_not_endsAlone hbare' fun h => halone (hsame.mpr h),
      read_lenient_congr hlength hodd]

/-! ### Octets -/

/-- The rows of what the tool printed, line by line. -/
theorem rows_decodeLossy (out : Bytes) :
    rows (decodeLossy out) = (out.splitOn 0x0A).map fun line => stripReturn (decodeLossy line) := by
  rw [rows, Utf8.splitOn_decodeLossy, List.map_map]
  rfl

/-- The printed line of a number, counted from one. -/
def printedLine? (out : Bytes) : Nat → Option Bytes
  | 0 => none
  | p + 1 => (out.splitOn 0x0A)[p]?

/-- What is read in a row is what was printed in its line. -/
theorem row?_decodeLossy (out : Bytes) (p : Nat) :
    row? (rows (decodeLossy out)) p
      = (printedLine? out p).map fun line => stripReturn (decodeLossy line) := by
  cases p with
  | zero => rfl
  | succ p =>
      show (rows (decodeLossy out))[p]? = _
      rw [rows_decodeLossy, List.getElem?_map]
      rfl

/-- There is one row more than there are line feeds. -/
theorem length_rows_decodeLossy (out : Bytes) :
    (rows (decodeLossy out)).length = out.count 0x0A + 1 := by
  rw [rows_decodeLossy, List.length_map, Pieces.length_splitOn]

/-- Two outputs with as many lines, of which the odd ones are the same. The others
may hold any octets. -/
structure SamePrimaries (out out' : Bytes) : Prop where
  /-- There are as many line feeds in one as in the other. -/
  count_eq : out.count 0x0A = out'.count 0x0A
  /-- An odd line is the same in both. -/
  line_eq : ∀ p, p % 2 = 1 → printedLine? out p = printedLine? out' p

/-- No even line is read as a bare location. -/
def PrintsNoBareCompanion (out : Bytes) : Prop :=
  ∀ p, p % 2 = 0 → ∀ line ∈ printedLine? out p,
    Location.isBare (stripReturn (decodeLossy line)) = false

/-- So no companion is one. -/
theorem PrintsNoBareCompanion.noBareCompanion {out : Bytes} (h : PrintsNoBareCompanion out) :
    NoBareCompanion (rows (decodeLossy out)) := by
  intro p hp companion hcompanion
  rw [Option.mem_def, row?_decodeLossy] at hcompanion
  obtain ⟨line, hline, rfl⟩ := Option.map_eq_some_iff.mp hcompanion
  exact h p hp line hline

namespace SamePrimaries

variable {out out' : Bytes}

/-- The two outputs have as many rows. -/
theorem length_rows (h : SamePrimaries out out') :
    (rows (decodeLossy out)).length = (rows (decodeLossy out')).length := by
  rw [length_rows_decodeLossy, length_rows_decodeLossy, h.count_eq]

/-- Their odd rows are the same. -/
theorem row_eq (h : SamePrimaries out out') (p : Nat) (hp : p % 2 = 1) :
    row? (rows (decodeLossy out)) p = row? (rows (decodeLossy out')) p := by
  rw [row?_decodeLossy, row?_decodeLossy, h.line_eq p hp]

end SamePrimaries

end Listing

/-! ### Runs of the tool -/

/-- The tool at `program` is run for a query, and prints these octets. How it ends,
and what else it has to say, is left open. -/
def Host.Prints (h : Host) (program : Text) (q : Query) (out : Bytes) : Prop :=
  ∃ run, h.run program q.arguments = .ok run ∧ run.stdout = out

/-- The listing is what the tool printed, read as text. -/
theorem Host.Prints.outcome {h : Host} {program : Text} {q : Query} {out : Bytes}
    (hprints : h.Prints program q out) :
    (h.search program q).outcome = .ok (.listing (decodeLossy out)) := by
  obtain ⟨run, hrun, rfl⟩ := hprints
  rw [search, hrun]

namespace Listing

/-- Companion lines never leak into the matches, even if they are no text. Let two
runs of the tool, on any machines and for any queries, print outputs with as many
lines, of which the odd ones are the same. A lenient reader takes the same locations
from both. A strict reader comes to the same result, too, if neither output has a
bare location in an even line. -/
theorem read_of_same_primaries {h h' : Host} {program program' : Text} {q q' : Query}
    {out out' : Bytes} (hprints : h.Prints program q out)
    (hprints' : h'.Prints program' q' out') (hsame : SamePrimaries out out') :
    ∃ text text', (h.search program q).outcome = .ok (.listing text) ∧
      (h'.search program' q').outcome = .ok (.listing text') ∧
      (∃ locations, read .lenient text = .ok locations ∧ read .lenient text' = .ok locations) ∧
      (PrintsNoBareCompanion out → PrintsNoBareCompanion out' →
        read .strict text = read .strict text') := by
  refine ⟨decodeLossy out, decodeLossy out', hprints.outcome, hprints'.outcome, ?_, ?_⟩
  · refine ⟨_, read_lenient _, ?_⟩
    rw [← read_lenient, read_lenient_congr hsame.length_rows hsame.row_eq]
  · intro hbare hbare'
    exact read_strict_congr hsame.length_rows hsame.row_eq hbare.noBareCompanion
      hbare'.noBareCompanion

/-- A machine with one program, which prints these octets. -/
def printer (out : Bytes) : Host where
  tree := ⟨[(["t".toList], .program [] ⟨out, [], .exited 0⟩)]⟩
  directory := []
  environment := []

/-- The query it is run for. -/
def printedQuery : Query := ⟨"/a.go".toList, 0, "/".toList⟩

/-- Any octets can be printed. -/
theorem printer_prints (out : Bytes) : (printer out).Prints "/t".toList printedQuery out :=
  ⟨_, rfl, rfl⟩

/-- The line `a:1:1` and a companion. -/
def companioned (companion : Bytes) : Bytes :=
  [0x61, 0x3A, 0x31, 0x3A, 0x31, 0x0A] ++ companion ++ [0x0A]

section
variable {companion companion' : Bytes} (h : 0x0A ∉ companion)
include h

/-- It has these lines, the last of which is empty. -/
theorem splitOn_companioned :
    (companioned companion).splitOn 0x0A = [[0x61, 0x3A, 0x31, 0x3A, 0x31], companion, []] := by
  show ([0x61, 0x3A, 0x31, 0x3A, 0x31] ++ 0x0A :: (companion ++ [0x0A])).splitOn 0x0A = _
  rw [List.splitOn_append_cons_self_of_not_mem (by decide),
    List.splitOn_append_cons_self_of_not_mem h]
  rfl

/-- Only the companion tells two of them apart. -/
theorem samePrimaries_companioned (h' : 0x0A ∉ companion') :
    SamePrimaries (companioned companion) (companioned companion') := by
  constructor
  case count_eq =>
    have hlength := Pieces.length_splitOn (a := (0x0A : UInt8)) (companioned companion)
    have hlength' := Pieces.length_splitOn (a := (0x0A : UInt8)) (companioned companion')
    rw [splitOn_companioned h] at hlength
    rw [splitOn_companioned h'] at hlength'
    exact Nat.succ.inj (hlength.symm.trans hlength')
  case line_eq =>
    intro p hp
    match p with
    | 1 => simp only [printedLine?, splitOn_companioned h, splitOn_companioned h']; rfl
    | p + 3 => simp only [printedLine?, splitOn_companioned h, splitOn_companioned h']; rfl

/-- It has no bare location in an even line if the companion is none. -/
theorem printsNoBareCompanion_companioned
    (hbare : Location.isBare (stripReturn (decodeLossy companion)) = false) :
    PrintsNoBareCompanion (companioned companion) := by
  intro p hp line hline
  match p with
  | 2 =>
      simp only [printedLine?, splitOn_companioned h] at hline
      obtain rfl := Option.some.inj hline
      exact hbare
  | p + 4 =>
      simp only [printedLine?, splitOn_companioned h] at hline
      exact nomatch hline

end

/-- `read_of_same_primaries` where one companion breaks off within a character, right in
front of its line feed, and the other one is an octet that is in no text. -/
theorem read_of_same_primaries_broken :
    SamePrimaries (companioned [0x62, 0x3A, 0xE2, 0x82]) (companioned [0xFF]) ∧
    PrintsNoBareCompanion (companioned [0x62, 0x3A, 0xE2, 0x82]) ∧
    PrintsNoBareCompanion (companioned [0xFF]) ∧
    ∃ text text',
      ((printer (companioned [0x62, 0x3A, 0xE2, 0x82])).search "/t".toList printedQuery).outcome
        = .ok (.listing text) ∧
      ((printer (companioned [0xFF])).search "/t".toList printedQuery).outcome
        = .ok (.listing text') ∧
      read .strict text = read .strict text' := by
  have hsame : SamePrimaries (companioned [0x62, 0x3A, 0xE2, 0x82]) (companioned [0xFF]) :=
    samePrimaries_companioned (by decide) (by decide)
  have hbare : PrintsNoBareCompanion (companioned [0x62, 0x3A, 0xE2, 0x82]) :=
    printsNoBareCompanion_companioned (by decide) (by decide)
  have hbare' : PrintsNoBareCompanion (companioned [0xFF]) :=
    printsNoBareCompanion_companioned (by decide) (by decide)
  obtain ⟨text, text', htext, htext', -, hstrict⟩ :=
    read_of_same_primaries (printer_prints _) (printer_prints _) hsame
  exact ⟨hsame, hbare, hbare', text, text', htext, htext', hstrict hbare hbare'⟩

end Listing

end GoXref
