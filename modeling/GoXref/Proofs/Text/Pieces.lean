import GoXref.Text.Basic

/-!
# `GoXref.Proofs.Text.Pieces`: what stands between separators

Paths are cut at slashes, and listings at line feeds, in octets as well as in
characters. `List.splitOn` makes the cut. Without a separator there is one
piece, and otherwise the first separator parts the first piece from the rest:

* `splitOn_induction`: an induction over these two cases.
* `notMem_of_mem_splitOn`, `subset_of_mem_splitOn`: no piece holds a separator, nor
  anything else that is not in the list.
* `length_splitOn`: there is one piece more than there are separators.
-/

set_option autoImplicit false

namespace GoXref.Pieces

variable {α : Type} [BEq α] [LawfulBEq α] {a : α}

/-- To prove something of a list and its pieces, prove it of one piece, and of a
piece in front of a list of which it holds. -/
@[elab_as_elim]
theorem splitOn_induction {motive : List α → List (List α) → Prop} (l : List α)
    (single : ∀ piece, a ∉ piece → motive piece [piece])
    (cons : ∀ piece rest, a ∉ piece → motive rest (rest.splitOn a) →
      motive (piece ++ a :: rest) (piece :: rest.splitOn a)) : motive l (l.splitOn a) := by
  by_cases ha : a ∈ l
  · obtain ⟨piece, rest, rfl, hpiece⟩ := List.eq_append_cons_of_mem ha
    rw [List.splitOn_append_cons_self_of_not_mem hpiece]
    exact cons piece rest hpiece (splitOn_induction rest single cons)
  · rw [List.splitOn_eq_singleton ha]
    exact single l ha
termination_by l.length

/-- No piece holds a separator. -/
theorem notMem_of_mem_splitOn {l piece : List α} (h : piece ∈ l.splitOn a) : a ∉ piece := by
  induction l using splitOn_induction with
  | single l hl =>
      rw [List.mem_singleton.mp h]
      exact hl
  | cons first rest hfirst ih =>
      rcases List.mem_cons.mp h with rfl | hrest
      · exact hfirst
      · exact ih hrest

/-- What is in a piece is in the list. -/
theorem subset_of_mem_splitOn {l piece : List α} (h : piece ∈ l.splitOn a) : piece ⊆ l := by
  induction l using splitOn_induction with
  | single l hl =>
      rw [List.mem_singleton.mp h]
      exact List.Subset.refl l
  | cons first rest hfirst ih =>
      rcases List.mem_cons.mp h with rfl | hrest
      · exact List.subset_append_left _ _
      · have hback : rest ⊆ a :: rest := List.subset_cons_self _ _
        exact fun b hb => List.mem_append_right _ (hback (ih hrest hb))

/-- There is one piece more than there are separators. -/
theorem length_splitOn (l : List α) : (l.splitOn a).length = l.count a + 1 := by
  induction l using splitOn_induction (a := a) with
  | single l hl => rw [List.length_singleton, List.count_eq_zero_of_not_mem hl]
  | cons first rest hfirst ih =>
      rw [List.length_cons, ih, List.count_append, List.count_cons_self,
        List.count_eq_zero_of_not_mem hfirst, Nat.zero_add]

end GoXref.Pieces
