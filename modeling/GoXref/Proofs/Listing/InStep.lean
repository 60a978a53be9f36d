import GoXref.Proofs.Listing.Violation
import GoXref.Proofs.Location.Reading

/-!
# `GoXref.Proofs.Listing.InStep`: pairs of rows, one behind the other

A listing is printed line by line, and a tool prints two lines for every match.
As long as no line is lost, each location stands in the first row of a pair. Here
such rows are read in front of any other rows, so that what a listing starts with
can be read apart from how it ends.

* `rows_printed`: the rows of printed lines, and one empty row behind the last
  line feed.
* `filterMap_pairsFrom_flatMap`: the locations of the pairs come first, and then
  those of the rows behind them.
* `findSome?_pairsFrom_flatMap`: nothing is objected to in pairs that all have a
  location, if there is a location behind them too.
-/

set_option autoImplicit false

namespace GoXref.Listing

/-- Lines as a program prints them, each with a line feed behind it. -/
def printed (lines : List Text) : Text := lines.flatMap fun line => line ++ ['\n']

/-- The rows of printed lines are the lines, without the carriage returns at
their ends, and the empty row behind the last line feed. -/
theorem rows_printed {lines : List Text} (h : ∀ line ∈ lines, '\n' ∉ line) :
    rows (printed lines) = lines.map stripReturn ++ [[]] := by
  induction lines with
  | nil => rfl
  | cons line lines ih =>
      obtain ⟨hline, hlines⟩ := List.forall_mem_cons.mp h
      have hprinted : printed (line :: lines) = line ++ '\n' :: printed lines := by
        simp [printed]
      rw [hprinted, rows_append_cons, rows_of_notMem hline, ih hlines]
      rfl

/-- A line that ends in a digit has no carriage return at its end. -/
theorem stripReturn_append_of_areDigits (front : Text) {digits : Text}
    (h : Location.AreDigits digits) : stripReturn (front ++ digits) = front ++ digits := by
  have hlast : (front ++ digits).getLast? = some (digits.getLast h.1) := by
    rw [List.getLast?_append, List.getLast?_eq_some_getLast h.1, Option.some_or]
  unfold stripReturn
  split
  · rename_i hreturn
    have hdigit := h.2 _ (List.getLast_mem h.1)
    rw [Option.some.inj (hlast.symm.trans hreturn)] at hdigit
    exact absurd hdigit (by decide)
  · rfl

/-- A pair takes two rows. -/
theorem number_cons {α : Type} (n : Nat) (a : α) (as : List α) :
    n + 2 + 2 * as.length = n + 2 * (a :: as).length := by
  rw [List.length_cons]
  omega

section InStep

variable {α : Type} (primary companion : α → Text)

/-- The locations of some pairs of rows come in front of those of the rows behind
them. -/
theorem filterMap_pairsFrom_flatMap (n : Nat) (as : List α) (back : List Text) :
    (pairsFrom n (as.flatMap (fun a => [primary a, companion a]) ++ back)).filterMap
        Pair.location?
      = as.filterMap (fun a => Location.parse? (primary a))
        ++ (pairsFrom (n + 2 * as.length) back).filterMap Pair.location? := by
  induction as generalizing n with
  | nil => rfl
  | cons a as ih =>
      show (pairsFrom n (primary a :: companion a ::
        (as.flatMap (fun a => [primary a, companion a]) ++ back))).filterMap Pair.location? = _
      rw [pairsFrom, List.filterMap_cons, ih, number_cons n a as, List.filterMap_cons]
      cases hparse : Location.parse? (primary a) with
      | none => simp only [Pair.location?, hparse]
      | some l => simp only [Pair.location?, hparse, List.cons_append]

/-- Nothing is objected to in pairs of rows that start with a location each, if
the row behind them is a location too: whatever a companion is, the next first row
shows that the pairs are in step. -/
theorem findSome?_pairsFrom_flatMap (n : Nat) (as : List α) (back : List Text)
    (has : ∀ a ∈ as, (Location.parse? (primary a)).isSome)
    (hback : (back.head?.bind Location.parse?).isSome) :
    (pairsFrom n (as.flatMap (fun a => [primary a, companion a]) ++ back)).findSome?
        Pair.fault?
      = (pairsFrom (n + 2 * as.length) back).findSome? Pair.fault? := by
  induction as generalizing n with
  | nil => rfl
  | cons a as ih =>
      obtain ⟨ha, has⟩ := List.forall_mem_cons.mp has
      obtain ⟨l, hparse⟩ := Option.isSome_iff_exists.mp ha
      -- The row behind the pair is the next location, or the one behind them all.
      have hnext : ((as.flatMap (fun a => [primary a, companion a]) ++ back).head?.bind
          Location.parse?).isNone = false := by
        rw [Option.isNone_eq_false_iff]
        cases as with
        | nil => exact hback
        | cons a' as => exact has a' List.mem_cons_self
      show (pairsFrom n (primary a :: companion a ::
        (as.flatMap (fun a => [primary a, companion a]) ++ back))).findSome? Pair.fault? = _
      rw [pairsFrom, List.findSome?_cons, ih _ has, number_cons n a as]
      simp only [Pair.fault?, Pair.location?, hparse, hnext, Bool.and_false, Bool.false_eq_true,
        if_false]

end InStep

end GoXref.Listing
