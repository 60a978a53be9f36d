import GoXref.Proofs.Document.Before
import GoXref.Proofs.Document.WordSpan

/-!
# `GoXref.Proofs.Document.WithinWord`: the cursor within a word

The word at a position is found by two scans from the cursor, and the offset of a
position by adding up lines. Both can be said of every column of the word, from its
start to its stop, and they speak of the same characters.

* `WordRun.of_within`: the run at a column is the run at every column that it
  touches.
* `WordRun.eq_or_apart`: so two runs of one line are the same, or there is a
  character between them.
* `IsWordSpan.apart`, `wordAt?_of_touches`: the same for the words of a document.
* `exists_slice`: the word is what stands in the text between the offsets of its two
  ends.
-/

set_option autoImplicit false

namespace GoXref.Document

/-! ### Runs -/

section Runs

variable {content : Text} {column column' start stop start' stop' : Nat}

/-- The run at a column is the run at every column that it touches. -/
theorem WordRun.of_within (h : WordRun content column start stop) (hstart : start ≤ column')
    (hstop : column' ≤ stop) : WordRun content column' start stop :=
  { h with start_le := hstart, le_stop := hstop }

/-- Two runs of one line are the same, or they do not even touch. -/
theorem WordRun.eq_or_apart (h : WordRun content column start stop)
    (h' : WordRun content column' start' stop') :
    (start = start' ∧ stop = stop') ∨ stop < start' ∨ stop' < start := by
  have hle := Nat.le_trans h.start_le h.le_stop
  have hle' := Nat.le_trans h'.start_le h'.le_stop
  rcases Nat.lt_or_ge stop start' with hlt | hge
  · exact .inr (.inl hlt)
  rcases Nat.lt_or_ge stop' start with hlt | hge'
  · exact .inr (.inr hlt)
  · -- Both touch the column where the later one starts.
    have hshared : WordRun content (max start start') start stop :=
      h.of_within (Nat.le_max_left _ _) (Nat.max_le.mpr ⟨hle, hge⟩)
    have hshared' : WordRun content (max start start') start' stop' :=
      h'.of_within (Nat.le_max_right _ _) (Nat.max_le.mpr ⟨hge', hle'⟩)
    exact .inl (hshared.unique hshared')

end Runs

/-! ### Spans -/

namespace IsWordSpan

variable {content : Text} {p q : Position} {s s' : Span}

/-- The word at a position is the word at every column of its line from its start to
its stop. -/
theorem of_within (h : IsWordSpan content p s) (hline : q.line = p.line)
    (hstart : s.start.column ≤ q.column) (hstop : q.column ≤ s.stop.column) :
    IsWordSpan content q s := by
  have hstart := UInt32.le_iff_toNat_le.mp hstart
  have hstop := UInt32.le_iff_toNat_le.mp hstop
  -- The column lies in the content, so it counts as it is.
  have hmin : min q.column.toNat content.length = q.column.toNat :=
    Nat.min_eq_left (Nat.le_trans hstop h.run.stop_le)
  constructor
  case start_line => rw [h.start_line, hline]
  case stop_line => rw [h.stop_line, hline]
  case start_lt_stop => exact h.start_lt_stop
  case run =>
    rw [hmin]
    exact h.run.of_within hstart hstop

/-- Two words of one line are the same, or there is a character between them. -/
theorem apart (h : IsWordSpan content p s) (h' : IsWordSpan content q s')
    (hline : q.line = p.line) (hne : s' ≠ s) :
    s.stop.column < s'.start.column ∨ s'.stop.column < s.start.column := by
  rw [UInt32.lt_iff_toNat_lt, UInt32.lt_iff_toNat_lt]
  rcases h.run.eq_or_apart h'.run with ⟨hstart, -⟩ | happart
  · -- The other word is that at the start of the first one, too.
    have hstart := UInt32.toNat_inj.mp hstart
    have hstop := UInt32.le_of_lt h'.start_lt_stop
    have hat : IsWordSpan content ⟨p.line, s.start.column⟩ s' :=
      h'.of_within hline.symm (hstart ▸ UInt32.le_refl _) (hstart ▸ hstop)
    have hat' : IsWordSpan content ⟨p.line, s.start.column⟩ s :=
      h.of_within rfl (UInt32.le_refl _) (UInt32.le_of_lt h.start_lt_stop)
    exact absurd (hat.unique hat') hne
  · exact happart

end IsWordSpan

/-! ### The word at a position -/

variable {d : Document} {p q : Position} {s : Span}

/-- The cursor stands on the line of a span, from its start to its stop. -/
def Touches (s : Span) (q : Position) : Prop :=
  q.line = s.start.line ∧ s.start.column ≤ q.column ∧ q.column ≤ s.stop.column

instance (s : Span) (q : Position) : Decidable (Touches s q) :=
  inferInstanceAs (Decidable (_ ∧ _ ∧ _))

/-- Where there is a word, there is a line. -/
theorem exists_line_of_wordAt? (hword : d.wordAt? p = some s) :
    ∃ line, d.lines[p.line.toNat]? = some line := by
  cases hline : d.lines[p.line.toNat]? with
  | none =>
      rw [wordAt?_of_line_none hline] at hword
      exact nomatch hword
  | some line => exact ⟨line, rfl⟩

section
variable {line : Text} (hline : d.lines[p.line.toNat]? = some line)
include hline

/-- A word is found from every column of it. -/
theorem wordAt?_of_touches (hlength : (Text.body line).length < UInt32.size)
    (hspan : IsWordSpan (Text.body line) p s) (hq : Touches s q) : d.wordAt? q = some s := by
  obtain ⟨hqline, hstart, hstop⟩ := hq
  have hqline : q.line = p.line := hqline.trans hspan.start_line
  rw [wordAt?_eq_some_iff_of_line (hqline ▸ hline) hlength]
  exact hspan.of_within hqline hstart hstop

/-- At a column of a word, the offset in characters is that of the line's start and the
column together. -/
theorem offset?_of_touches (hspan : IsWordSpan (Text.body line) p s) (hq : Touches s q) :
    d.offset? .characters q = some (d.lineStart p.line.toNat + q.column.toNat) := by
  obtain ⟨hqline, -, hstop⟩ := hq
  have hcolumn : q.column.toNat ≤ (Text.body line).length :=
    Nat.le_trans (UInt32.le_iff_toNat_le.mp hstop) hspan.run.stop_le
  rw [offset?_eq_measure, before?, hqline, hspan.start_line, hline, Option.map_some,
    Option.map_some]
  show some ((d.lines.take p.line.toNat).flatten ++ (Text.body line).take q.column.toNat).length
    = _
  rw [List.length_append, List.length_take_of_le hcolumn]
  rfl

/-- Between the offsets of its ends stand the characters of the word. -/
theorem exists_slice (hspan : IsWordSpan (Text.body line) p s) :
    ∃ i j before word after, d.offset? .characters s.start = some i ∧
      d.offset? .characters s.stop = some j ∧ j = i + s.width.toNat ∧
      (d.text.drop i).take (j - i) = word ∧ line = before ++ word ++ after ∧
      before.length = s.start.column.toNat ∧ word.length = s.width.toNat ∧
      ∀ c ∈ word, isWordChar c = true := by
  have hle : s.start.column ≤ s.stop.column := UInt32.le_of_lt hspan.start_lt_stop
  have hstart : Touches s s.start := ⟨rfl, UInt32.le_refl _, hle⟩
  have hstop : Touches s s.stop :=
    ⟨hspan.stop_line.trans hspan.start_line.symm, hle, UInt32.le_refl _⟩
  have hwidth := hspan.start_add_width
  obtain ⟨before, word, after, hbody, hbefore, hword, -, hall⟩ := hspan.exists_cut
  obtain ⟨ending, hending⟩ : Text.body line <+: line := List.takeWhile_prefix _
  have hcut : line = before ++ word ++ (after ++ ending) := by
    rw [← hending, hbody, List.append_assoc]
  refine ⟨_, _, before, word, after ++ ending, offset?_of_touches hline hspan hstart,
    offset?_of_touches hline hspan hstop, by omega, ?_, hcut, hbefore, hword, hall⟩
  -- The first offset counts what stands in front of the word, and the two of them
  -- differ by its length.
  have htext : d.text = ((d.lines.take p.line.toNat).flatten ++ before)
      ++ (word ++ (after ++ ending ++ (d.lines.drop (p.line.toNat + 1)).flatten)) := by
    rw [text_eq_append hline]
    simp only [hcut, List.append_assoc]
  have hfront : ((d.lines.take p.line.toNat).flatten ++ before).length
      = d.lineStart p.line.toNat + s.start.column.toNat := by
    rw [List.length_append, hbefore]
    rfl
  rw [htext, List.drop_left' hfront]
  exact List.take_left' (by omega)

end

end GoXref.Document
