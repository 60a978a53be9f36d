/-!
# `GoXref.Unicode.Ranges`: character classes as range tables

A class of characters is a list of closed ranges of code points, ascending
and apart. The tables beside this file hold the classes that the library
consults, each with the Unicode version it was taken from.

* `Ranges.contains`: membership. A look-up stops at the first range that
  ends at or after the code point, so ASCII costs a few steps at most.
* `Ranges.isAscending`: the order the look-up relies on.
* `Ranges.contains_iff`: in that order the look-up finds every member.
-/

set_option autoImplicit false

namespace GoXref.Unicode

/-- Closed ranges of code points, each a least and a greatest member. -/
abbrev Ranges := List (Nat × Nat)

/-- Whether a code point lies in one of the ranges. -/
def Ranges.contains : Ranges → Nat → Bool
  | [], _ => false
  | (lo, hi) :: rest, n => if n ≤ hi then decide (lo ≤ n) else Ranges.contains rest n

/-- Whether the ranges stand in order, each nonempty and with a gap
before the next. -/
def Ranges.isAscending : Ranges → Bool
  | [] => true
  | [(lo, hi)] => decide (lo ≤ hi)
  | (lo, hi) :: (lo', hi') :: rest =>
      decide (lo ≤ hi) && decide (hi + 1 < lo') && Ranges.isAscending ((lo', hi') :: rest)

namespace Ranges

/-- Without its first range a list of ranges keeps its order. -/
theorem isAscending_tail {r : Nat × Nat} {rest : Ranges} (h : isAscending (r :: rest)) :
    isAscending rest := by
  cases rest with
  | nil => rfl
  | cons s rest =>
    simp only [isAscending, Bool.and_eq_true] at h
    exact h.2

/-- Every range lies behind the ones before it. -/
theorem lt_of_isAscending {r : Nat × Nat} {rest : Ranges} (h : isAscending (r :: rest)) :
    ∀ s ∈ rest, r.2 < s.1 := by
  induction rest generalizing r with
  | nil => simp
  | cons t rest ih =>
    simp only [isAscending, Bool.and_eq_true, decide_eq_true_eq] at h
    obtain ⟨⟨-, hgap⟩, htail⟩ := h
    intro s hs
    rcases List.mem_cons.1 hs with rfl | hs
    · omega
    · have ht : t.1 ≤ t.2 := by
        cases rest <;> simp_all [isAscending]
      have := ih htail s hs
      omega

/-- In ranges that stand in order the look-up finds every member. -/
theorem contains_iff {ranges : Ranges} (h : ranges.isAscending) (n : Nat) :
    ranges.contains n ↔ ∃ r ∈ ranges, r.1 ≤ n ∧ n ≤ r.2 := by
  induction ranges with
  | nil => simp [Ranges.contains]
  | cons r rest ih =>
    by_cases hn : n ≤ r.2
    · have hrest : ∀ s ∈ rest, ¬ s.1 ≤ n := fun s hs => by
        have := lt_of_isAscending h s hs
        omega
      simp only [Ranges.contains, hn, if_true, decide_eq_true_eq, List.mem_cons, exists_eq_or_imp,
        and_true]
      exact ⟨Or.inl, fun hor => hor.elim id fun ⟨s, hs, hle, _⟩ => absurd hle (hrest s hs)⟩
    · simp only [Ranges.contains, hn, if_false, List.mem_cons, exists_eq_or_imp, and_false,
        false_or]
      exact ih (isAscending_tail h)

end Ranges

end GoXref.Unicode
