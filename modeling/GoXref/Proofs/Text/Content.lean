import GoXref.Proofs.Text.Lines

/-!
# `GoXref.Proofs.Text.Content`: the content of a line and its break

`Text.content` takes characters from the end of a line as long as they belong to
breaks. Of a text of its own it would take any run of them, so it rests on
`Text.lines` that a line has only one break to lose.

* `exists_eq_content_append`: what is taken from any text.
* `not_cutsBreak_lines`: no line starts inside a break.
* `content_own_break`: what is taken from a line is its break, whole and alone, and
  nothing from the last line.
-/

set_option autoImplicit false

namespace GoXref.Text

/-- The content of any text is what stands in front of the run of break characters
at its end. It does not end in one itself. -/
theorem exists_eq_content_append (line : Text) :
    ∃ run, line = content line ++ run ∧ (∀ c ∈ run, isBreak c = true) ∧
      ∀ c ∈ (content line).getLast?, isBreak c = false := by
  refine ⟨(line.reverse.takeWhile isBreak).reverse, ?_, ?_, ?_⟩
  · rw [content, ← List.reverse_append, List.takeWhile_append_dropWhile, List.reverse_reverse]
  · intro c hc
    exact List.all_eq_true.mp List.all_takeWhile c (List.mem_reverse.mp hc)
  · intro c hc
    have hhead := List.head?_dropWhile_not isBreak line.reverse
    rw [content, List.getLast?_reverse] at hc
    rw [Option.mem_def.mp hc] at hhead
    exact hhead

/-- Where a line ends and the next one starts, no break is cut. -/
theorem not_cutsBreak_lines (t : Text) (i : Nat) :
    ¬ CutsBreak ((lines t).take i).flatten ((lines t).drop i).flatten := by
  cases hline : (lines t)[i]? with
  | none =>
      -- Behind the last line there is nothing.
      rw [List.drop_eq_nil_of_le (List.getElem?_eq_none_iff.mp hline)]
      exact fun h => nomatch h.2
  | some line =>
      -- The cut lies in front of the body of line `i`.
      have hcut : (lines t).flatten
          = (((lines t).take i).flatten ++ (body line).take 0) ++ ((lines t).drop i).flatten := by
        rw [List.take_zero, List.append_nil, ← List.flatten_append, List.take_append_drop]
      have hbody := (lined_lines t).not_cutsBreak hline hcut
      rwa [List.take_zero, List.append_nil] at hbody

/-- A line is its content and its own break. The content has no break character, and
the break is one: CR LF or a single character. Only the last line has none. The lines
one after the other are the text, and no line starts with the second half of the
break in front of it.

All this is due to the lines. Of any text the content loses all the break characters
at the end, however many there are. -/
theorem content_own_break :
    (∀ (t : Text) (i : Nat) (line : Text), (lines t)[i]? = some line →
      (∀ c ∈ content line, isBreak c = false) ∧
      ∃ ending, line = content line ++ ending ∧
        ((i + 1 = (lines t).length ∧ ending = []) ∨
          (i + 1 < (lines t).length ∧ IsEnding ending))) ∧
    (∀ t : Text, (lines t).flatten = t ∧
      ∀ i, ¬ CutsBreak ((lines t).take i).flatten ((lines t).drop i).flatten) ∧
    ∀ line : Text, ∃ run, line = content line ++ run ∧ (∀ c ∈ run, isBreak c = true) ∧
      ∀ c ∈ (content line).getLast?, isBreak c = false := by
  refine ⟨?_, fun t => ⟨flatten_lines t, not_cutsBreak_lines t⟩, exists_eq_content_append⟩
  intro t i line hi
  obtain ⟨front, ending, rfl, hfront, hending, hlast⟩ := (lined_lines t).exists_eq_append hi
  rw [content_append hfront hending]
  exact ⟨hfront, ending, rfl, hlast⟩

/-- `content_own_break` for a text whose breaks stand side by side, and for its end
taken alone, which is no line and loses all of it. -/
theorem content_own_break_adjacent :
    (lines "a\n\r\r\n\u2028".toList)[2]? = some "\r\n".toList ∧
    (∃ ending, "\r\n".toList = content "\r\n".toList ++ ending ∧
      ((2 + 1 = (lines "a\n\r\r\n\u2028".toList).length ∧ ending = []) ∨
        (2 + 1 < (lines "a\n\r\r\n\u2028".toList).length ∧ IsEnding ending))) ∧
    (∃ run, "a\n\r\r\n\u2028".toList = content "a\n\r\r\n\u2028".toList ++ run ∧
      ∀ c ∈ run, isBreak c = true) ∧
    content "a\n\r\r\n\u2028".toList = "a".toList := by
  have hline : (lines "a\n\r\r\n\u2028".toList)[2]? = some "\r\n".toList := by decide
  obtain ⟨hown, -, hrun⟩ := content_own_break
  obtain ⟨run, heq, hall, -⟩ := hrun "a\n\r\r\n\u2028".toList
  exact ⟨hline, (hown _ 2 _ hline).2, ⟨run, heq, hall⟩, by decide⟩

end GoXref.Text
