import GoXref.Proofs.Listing.Violation
import GoXref.Proofs.Text.Pieces

/-!
# `GoXref.Proofs.Listing.Returns`: lines that end in a carriage return and a line feed

A tool may end its lines with a line feed alone, or put a carriage return in front of
each. `Listing.stripReturn` takes one carriage return off the end of every line, so the
reader should not see which of the two it was. It takes off one only, though: a line
that had a carriage return at its end before keeps that one in the longer form, and
loses it in the shorter.

* `withReturns`: the longer form of a listing.
* `rows_withReturns_iff`: the rows are the same exactly if no line feed had a carriage
  return in front of it already. The last row has no line feed behind it, so nothing is
  put there, and nothing is asked of it.
* `read_withReturns`: so the reader does the same, for a listing without carriage
  returns: the same locations or the same objection, and the same lines skipped.
-/

set_option autoImplicit false

namespace GoXref.Listing

/-- The listing with a carriage return in front of every line feed. -/
def withReturns (listing : Text) : Text :=
  listing.flatMap fun c => if c = '\n' then ['\r', '\n'] else [c]

/-! ### One line -/

/-- Nothing is put into a line. -/
theorem withReturns_append {line : Text} (h : '\n' ∉ line) (t : Text) :
    withReturns (line ++ t) = line ++ withReturns t := by
  induction line with
  | nil => rfl
  | cons c line ih =>
      have hc : c ≠ '\n' := fun heq => h (heq ▸ List.mem_cons_self)
      show (if c = '\n' then ['\r', '\n'] else [c]) ++ withReturns (line ++ t) = _
      rw [if_neg hc, ih fun hmem => h (List.mem_cons_of_mem _ hmem)]
      rfl

/-- What was put at the end of a line is taken off. -/
theorem stripReturn_append_return (line : Text) : stripReturn (line ++ ['\r']) = line := by
  simp [stripReturn]

/-- A line is left alone exactly if it has no carriage return at its end. -/
theorem stripReturn_eq_self_iff (line : Text) :
    stripReturn line = line ↔ line.getLast? ≠ some '\r' := by
  rcases List.eq_nil_or_concat line with rfl | ⟨front, last, rfl⟩
  · exact iff_of_true rfl nofun
  · by_cases hlast : last = '\r'
    · subst hlast
      rw [List.concat_eq_append, stripReturn_append_return]
      simp
    · simp [stripReturn, hlast]

/-! ### All lines -/

/-- The rows of a listing are the same with a carriage return in front of every line
feed, exactly if no line in front of a line feed has one at its end already. -/
theorem rows_withReturns_iff (listing : Text) :
    rows (withReturns listing) = rows listing ↔
      ∀ line ∈ (listing.splitOn '\n').dropLast, line.getLast? ≠ some '\r' := by
  induction listing using Pieces.splitOn_induction (a := '\n') with
  | single line hline =>
      -- There is no line feed, so both sides are the line itself.
      have hsame := withReturns_append hline []
      rw [List.append_nil] at hsame
      rw [hsame]
      exact iff_of_true (List.append_nil _ ▸ rfl) nofun
  | cons line rest hline ih =>
      have hreturn : '\n' ∉ line ++ ['\r'] := by simp [hline]
      have hlf : withReturns ('\n' :: rest) = '\r' :: '\n' :: withReturns rest := rfl
      have hrows : rows (withReturns (line ++ '\n' :: rest)) = line :: rows (withReturns rest) := by
        rw [withReturns_append hline, hlf, List.append_cons, rows_append_cons,
          rows_of_notMem hreturn, stripReturn_append_return]
        rfl
      have hne : rest.splitOn '\n' ≠ [] := List.splitOn_ne_nil _ _
      rw [hrows, rows_append_cons, rows_of_notMem hline, List.singleton_append, List.cons.injEq, ih,
        List.dropLast_cons_of_ne_nil hne, List.forall_mem_cons, eq_comm, stripReturn_eq_self_iff]

/-- No line ends in a carriage return if the listing has none. -/
theorem rows_withReturns {listing : Text} (h : '\r' ∉ listing) :
    rows (withReturns listing) = rows listing := by
  rw [rows_withReturns_iff]
  intro line hline hlast
  have hpiece : line ∈ listing.splitOn '\n' := List.dropLast_subset _ hline
  exact h (Pieces.subset_of_mem_splitOn hpiece (List.mem_of_getLast? hlast))

/-- A carriage return in front of every line feed makes no difference to a reader, if
the listing has none of its own. It takes the same locations in the same order, or
objects to the same row for the same reason; and it skips the same lines on the way. -/
theorem read_withReturns {listing : Text} (h : '\r' ∉ listing) (policy : Policy) :
    read policy (withReturns listing) = read policy listing ∧
    skips policy (withReturns listing) = skips policy listing := by
  have hpairs : pairs (withReturns listing) = pairs listing := by
    rw [pairs, rows_withReturns h, pairs]
  constructor
  · simp only [read, fault?, hpairs]
  · simp only [skips, hpairs]

/-- `read_withReturns` for a listing that goes out of step in its fourth line, and breaks
off in its sixth. -/
theorem read_withReturns_slipped :
    '\r' ∉ "a:1:1\n\tx\nb:2:2\nc:3:3\n-\nd:4:4".toList ∧
    withReturns "a:1:1\n\tx\nb:2:2\nc:3:3\n-\nd:4:4".toList
      = "a:1:1\r\n\tx\r\nb:2:2\r\nc:3:3\r\n-\r\nd:4:4".toList ∧
    read .strict "a:1:1\r\n\tx\r\nb:2:2\r\nc:3:3\r\n-\r\nd:4:4".toList
      = .error (.malformedListing 4 "c:3:3".toList Pair.outOfStep) ∧
    read .lenient "a:1:1\r\n\tx\r\nb:2:2\r\nc:3:3\r\n-\r\nd:4:4".toList
      = .ok [⟨"a".toList, 1, 1⟩, ⟨"b".toList, 2, 2⟩] := by
  have hnone : '\r' ∉ "a:1:1\n\tx\nb:2:2\nc:3:3\n-\nd:4:4".toList := by decide
  have hform : withReturns "a:1:1\n\tx\nb:2:2\nc:3:3\n-\nd:4:4".toList
      = "a:1:1\r\n\tx\r\nb:2:2\r\nc:3:3\r\n-\r\nd:4:4".toList := by decide
  refine ⟨hnone, hform, ?_, ?_⟩
  · rw [← hform, (read_withReturns hnone .strict).1]
    rfl
  · rw [← hform, (read_withReturns hnone .lenient).1]
    rfl

-- A carriage return that was there before is kept behind the companion, which is then no
-- bare location to a strict reader.
example : (read .strict "a:1:1\nb:2:2\r\n".toList).toOption = none ∧
    (read .strict (withReturns "a:1:1\nb:2:2\r\n".toList)).toOption
      = some [⟨"a".toList, 1, 1⟩] := ⟨rfl, rfl⟩

end GoXref.Listing
