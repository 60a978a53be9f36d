import GoXref.Proofs.Document.Word
import GoXref.Proofs.Text.Lines

/-!
# `GoXref.Proofs.Document.WordSpan`: the span of the word at a position

`Document.wordAt?` answers with columns of 32 bits, on the line of the position.
Here its answer is said by the line's text: there is a word exactly if a word
character stands beside the cursor, and the span is the only one that is a maximal
run of word characters at the cursor.

* `TouchesWord`: a word character stands beside a column.
* `WordRun.start_lt_stop_iff`: the run at a column is not empty exactly if the
  column touches a word.
* `IsWordSpan`: the span of a word, by its columns.
* `IsWordSpan.exists_cut`: the characters it covers.
* `wordAt?_maximal_run`: all of this for the word at a position.
-/

set_option autoImplicit false

namespace GoXref

namespace Document

/-- A word character stands directly in front of a column or right at it. -/
def TouchesWord (content : Text) (column : Nat) : Prop :=
  (0 < column ∧ ∃ c ∈ content[column - 1]?, isWordChar c = true) ∨
    ∃ c ∈ content[column]?, isWordChar c = true

/-- A run of word characters at a column is not empty exactly if the column
touches a word. -/
theorem WordRun.start_lt_stop_iff {content : Text} {column start stop : Nat}
    (h : WordRun content column start stop) : start < stop ↔ TouchesWord content column := by
  have hstart := h.start_le
  have hstop := h.le_stop
  have hlength := h.stop_le
  constructor
  · intro hlt
    by_cases hfront : start < column
    · -- The character in front of the cursor is in the run.
      have hget : content[column - 1]? = some content[column - 1] :=
        List.getElem?_eq_getElem (by omega)
      exact .inl ⟨by omega, _, hget, h.isWordChar (column - 1) (by omega) (by omega) _ hget⟩
    · -- The run starts at the cursor.
      have hget : content[column]? = some content[column] := List.getElem?_eq_getElem (by omega)
      exact .inr ⟨_, hget, h.isWordChar column (by omega) (by omega) _ hget⟩
  · intro htouches
    rcases Nat.lt_or_ge start stop with hlt | hempty
    · exact hlt
    · -- An empty run stands at the cursor, with no word character on either side.
      obtain rfl : start = column := by omega
      obtain rfl : stop = start := by omega
      rcases htouches with ⟨hpos, c, hc, hword⟩ | ⟨c, hc, hword⟩
      · rw [h.before hpos c hc] at hword
        exact nomatch hword
      · rw [h.after c hc] at hword
        exact nomatch hword

/-- The span of the word at a position: on its line, not empty, and from end to
end of the run of word characters at its column. A column behind the content of
the line counts as its end. -/
structure IsWordSpan (content : Text) (p : Position) (s : Span) : Prop where
  /-- The word starts on the line of the position. -/
  start_line : s.start.line = p.line
  /-- It stops on the same line. -/
  stop_line : s.stop.line = p.line
  /-- It has a character. -/
  start_lt_stop : s.start.column < s.stop.column
  /-- It is the run at the cursor. -/
  run : WordRun content (min p.column.toNat content.length) s.start.column.toNat
    s.stop.column.toNat

/-- There is one span at most. -/
theorem IsWordSpan.unique {content : Text} {p : Position} {s s' : Span}
    (h : IsWordSpan content p s) (h' : IsWordSpan content p s') : s = s' := by
  obtain ⟨hstart, hstop⟩ := h.run.unique h'.run
  obtain ⟨⟨line, start⟩, ⟨line', stop⟩⟩ := s
  obtain ⟨⟨line₁, start₁⟩, ⟨line₁', stop₁⟩⟩ := s'
  obtain rfl : start = start₁ := UInt32.toNat_inj.mp hstart
  obtain rfl : stop = stop₁ := UInt32.toNat_inj.mp hstop
  rw [show line = line₁ from h.start_line.trans h'.start_line.symm,
    show line' = line₁' from h.stop_line.trans h'.stop_line.symm]

/-- The width of the span leads from its start to its stop. -/
theorem IsWordSpan.start_add_width {content : Text} {p : Position} {s : Span}
    (h : IsWordSpan content p s) :
    s.start.column.toNat + s.width.toNat = s.stop.column.toNat := by
  have hlt : s.start.column.toNat < s.stop.column.toNat := UInt32.lt_iff_toNat_lt.mp h.start_lt_stop
  rw [s.toNat_width]
  exact Nat.add_sub_cancel' (Nat.le_of_lt hlt)

/-- The span covers as many characters as its width says, all of them word
characters. They are a part of the content, between what stands in front of the
start and what stands behind the stop. -/
theorem IsWordSpan.exists_cut {content : Text} {p : Position} {s : Span}
    (h : IsWordSpan content p s) :
    ∃ before word after, content = before ++ word ++ after ∧
      before.length = s.start.column.toNat ∧ word.length = s.width.toNat ∧ word ≠ [] ∧
      ∀ c ∈ word, isWordChar c = true := by
  have hlt : s.start.column.toNat < s.stop.column.toNat := UInt32.lt_iff_toNat_lt.mp h.start_lt_stop
  have hstop := h.run.stop_le
  have hwidth := h.start_add_width
  have hlength : ((content.drop s.start.column.toNat).take s.width.toNat).length
      = s.width.toNat := by
    rw [List.length_take, List.length_drop]
    omega
  refine ⟨content.take s.start.column.toNat,
    (content.drop s.start.column.toNat).take s.width.toNat,
    (content.drop s.start.column.toNat).drop s.width.toNat, ?_, ?_, hlength, ?_, ?_⟩
  · rw [List.append_assoc, List.take_append_drop, List.take_append_drop]
  · exact List.length_take_of_le (by omega)
  · intro hnil
    rw [hnil, List.length_nil] at hlength
    omega
  · intro c hc
    obtain ⟨i, hi⟩ := List.mem_iff_getElem?.mp hc
    rw [List.getElem?_take] at hi
    obtain ⟨hi_lt, hi⟩ := Option.ite_none_right_eq_some.mp hi
    rw [List.getElem?_drop] at hi
    exact h.run.isWordChar (s.start.column.toNat + i) (by omega) (by omega) c hi

/-! ### The word at a position -/

variable {d : Document} {p : Position}

/-- Without a line there is no word. -/
theorem wordAt?_of_line_none (hline : d.lines[p.line.toNat]? = none) : d.wordAt? p = none := by
  rw [wordAt?, lineContent?, hline]
  rfl

/-- The word at a position of a line that is there. -/
theorem wordAt?_of_line {line : Text} {start stop : Nat}
    (hline : d.lines[p.line.toNat]? = some line)
    (hrun : WordRun (Text.body line) (min p.column.toNat (Text.body line).length) start stop) :
    d.wordAt? p = if start = stop then none
      else some ⟨⟨p.line, UInt32.ofNat start⟩, ⟨p.line, UInt32.ofNat stop⟩⟩ := by
  have hcontent : d.lineContent? p.line.toNat = some (Text.body line) := by
    rw [lineContent?, hline, Option.map_some, Text.content_eq_body (List.mem_of_getElem? hline)]
  exact wordAt?_of_wordRun hcontent hrun

/-- The run at the cursor, in columns of 32 bits, is the span of a word if it is
not empty and 32 bits can name its columns. -/
theorem isWordSpan_of_wordRun {content : Text} {start stop : Nat} (hsize : stop < UInt32.size)
    (hrun : WordRun content (min p.column.toNat content.length) start stop) (hlt : start < stop) :
    IsWordSpan content p ⟨⟨p.line, UInt32.ofNat start⟩, ⟨p.line, UInt32.ofNat stop⟩⟩ := by
  have hstart : (UInt32.ofNat start).toNat = start :=
    UInt32.toNat_ofNat_of_lt' (Nat.lt_trans hlt hsize)
  have hstop : (UInt32.ofNat stop).toNat = stop := UInt32.toNat_ofNat_of_lt' hsize
  refine ⟨rfl, rfl, ?_, ?_⟩
  · rw [UInt32.lt_iff_toNat_lt, hstart, hstop]
    exact hlt
  · rw [hstart, hstop]
    exact hrun

/-- The word at a position is the span of the word there. -/
theorem wordAt?_eq_some_iff_of_line {line : Text} {s : Span}
    (hline : d.lines[p.line.toNat]? = some line)
    (hlength : (Text.body line).length < UInt32.size) :
    d.wordAt? p = some s ↔ IsWordSpan (Text.body line) p s := by
  have hrun := wordRun_wordColumns (Nat.min_le_right p.column.toNat (Text.body line).length)
  have hle : (wordColumns (Text.body line) (min p.column.toNat (Text.body line).length)).1
      ≤ (wordColumns (Text.body line) (min p.column.toNat (Text.body line).length)).2 :=
    Nat.le_trans hrun.start_le hrun.le_stop
  have hsize := Nat.lt_of_le_of_lt hrun.stop_le hlength
  rw [wordAt?_of_line hline hrun]
  constructor
  · intro h
    obtain ⟨hne, hs⟩ := Option.ite_none_left_eq_some.mp h
    obtain rfl := Option.some.inj hs
    exact isWordSpan_of_wordRun hsize hrun (Nat.lt_of_le_of_ne hle hne)
  · intro h
    -- The run is unique, and that of the span is not empty.
    obtain ⟨hstart, hstop⟩ := h.run.unique hrun
    have hlt := UInt32.lt_iff_toNat_lt.mp h.start_lt_stop
    rw [hstart, hstop] at hlt
    rw [if_neg (Nat.ne_of_lt hlt)]
    exact congrArg some ((isWordSpan_of_wordRun hsize hrun hlt).unique h)

/-- There is no word at a position of a line exactly if the column, at most that
of the line's end, touches none. -/
theorem wordAt?_eq_none_iff_of_line {line : Text} (hline : d.lines[p.line.toNat]? = some line) :
    d.wordAt? p = none
      ↔ ¬ TouchesWord (Text.body line) (min p.column.toNat (Text.body line).length) := by
  have hrun := wordRun_wordColumns (Nat.min_le_right p.column.toNat (Text.body line).length)
  have hle := Nat.le_trans hrun.start_le hrun.le_stop
  rw [wordAt?_of_line hline hrun, ← hrun.start_lt_stop_iff]
  constructor
  · intro h hlt
    rw [if_neg (Nat.ne_of_lt hlt)] at h
    exact nomatch h
  · intro hlt
    rw [if_pos (Nat.le_antisymm hle (Nat.not_lt.mp hlt))]

/-- The word at a position, if its line has less than `2 ^ 32` characters in front
of its break. There is none exactly if the line does not exist, or if no word
character stands beside the cursor, where a column behind the line counts as its
end. Otherwise it is the span that is a maximal run of word characters at the
cursor, and the only one. It covers as many characters of the line as its width
says, and neither they nor those in front of them belong to a break. -/
theorem wordAt?_maximal_run (hlength : ∀ line, d.lines[p.line.toNat]? = some line →
      (Text.body line).length < UInt32.size) :
    (d.wordAt? p = none ↔ d.lines[p.line.toNat]? = none ∨
      ∃ line, d.lines[p.line.toNat]? = some line ∧
        ¬ TouchesWord (Text.body line) (min p.column.toNat (Text.body line).length)) ∧
    (∀ s, d.wordAt? p = some s ↔
      ∃ line, d.lines[p.line.toNat]? = some line ∧ IsWordSpan (Text.body line) p s) ∧
    ∀ s, d.wordAt? p = some s → ∃ before word after,
      d.lines[p.line.toNat]? = some (before ++ word ++ after) ∧
      before.length = s.start.column.toNat ∧ word.length = s.width.toNat ∧ word ≠ [] ∧
      (∀ c ∈ word, isWordChar c = true) ∧ ∀ c ∈ before ++ word, Text.isBreak c = false := by
  cases hline : d.lines[p.line.toNat]? with
  | none => simp [wordAt?_of_line_none hline]
  | some line =>
      have hlength := hlength line hline
      refine ⟨?_, ?_, ?_⟩
      · simp [wordAt?_eq_none_iff_of_line hline]
      · intro s
        simp [wordAt?_eq_some_iff_of_line hline hlength]
      · intro s hs
        have hspan := (wordAt?_eq_some_iff_of_line hline hlength).mp hs
        obtain ⟨before, word, after, hbody, hbefore, hword, hne, hall⟩ := hspan.exists_cut
        -- The line goes on with its break behind the body.
        obtain ⟨ending, hending⟩ : Text.body line <+: line := List.takeWhile_prefix _
        refine ⟨before, word, after ++ ending, ?_, hbefore, hword, hne, hall, ?_⟩
        · rw [← hending, hbody, List.append_assoc]
        · intro c hc
          have hmem : c ∈ Text.body line := by
            rw [hbody]
            exact List.mem_append_left _ hc
          exact Text.isBreak_of_mem_body hmem

/-- A document whose first line ends in a word, with a break of two characters
behind it. -/
def measured : Document where
  path := "a.go".toList
  text := "x := größe_1\r\ny".toList

/-- `wordAt?_maximal_run` far behind the end of that line. The cursor counts as
standing directly behind the last letter. -/
theorem wordAt?_maximal_run_clamped :
    (∀ line, measured.lines[(⟨0, 99⟩ : Position).line.toNat]? = some line →
      (Text.body line).length < UInt32.size) ∧
    measured.wordAt? ⟨0, 99⟩ = some ⟨⟨0, 5⟩, ⟨0, 12⟩⟩ ∧
    (∃ line, measured.lines[(⟨0, 99⟩ : Position).line.toNat]? = some line ∧
      IsWordSpan (Text.body line) ⟨0, 99⟩ ⟨⟨0, 5⟩, ⟨0, 12⟩⟩) ∧
    ∃ before word after,
      measured.lines[(⟨0, 99⟩ : Position).line.toNat]? = some (before ++ word ++ after) ∧
      before.length = 5 ∧ word.length = 7 ∧ word ≠ [] ∧
      (∀ c ∈ word, isWordChar c = true) ∧ ∀ c ∈ before ++ word, Text.isBreak c = false := by
  have hline : measured.lines[(⟨0, 99⟩ : Position).line.toNat]? = some "x := größe_1\r\n".toList :=
    rfl
  have hlength : ∀ line, measured.lines[(⟨0, 99⟩ : Position).line.toNat]? = some line →
      (Text.body line).length < UInt32.size := by
    intro line h
    obtain rfl := Option.some.inj (hline.symm.trans h)
    decide
  have hword : measured.wordAt? ⟨0, 99⟩ = some ⟨⟨0, 5⟩, ⟨0, 12⟩⟩ := by decide +kernel
  obtain ⟨-, hspan, hcut⟩ := wordAt?_maximal_run hlength
  exact ⟨hlength, hword, (hspan _).mp hword, hcut _ hword⟩

end Document

end GoXref
