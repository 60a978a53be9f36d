import GoXref.Finder
import GoXref.Proofs.Document.WithinWord

/-!
# `GoXref.Proofs.Document.Narrowing`: words that run past the last column

The word at a position is found in columns without a bound, and its span has columns
of 32 bits. The word starts at the cursor or to its left, so 32 bits can name its
start. They need not be able to name its stop, which is then taken modulo
`UInt32.size`: the span can be empty, or end in front of the cursor.

* `exists_wordRun_of_wordAt?`: the word behind a span, in columns without a bound.
* `Encloses`: a span that is not empty and touches a column.
* `wordAt?_narrowed`: what becomes of the word, and when its span encloses the
  cursor. A word that stops at a column of 32 bits is left as it is.
* `wordAt?_narrowed_past`: two words of one line that do not fit.
-/

set_option autoImplicit false

namespace GoXref.Document

/-- A span covers a column, or stands directly beside it, and is not empty. -/
def Encloses (s : Span) (column : Nat) : Prop :=
  s.start.column < s.stop.column ∧ s.start.column.toNat ≤ column ∧ column ≤ s.stop.column.toNat

instance (s : Span) (column : Nat) : Decidable (Encloses s column) :=
  inferInstanceAs (Decidable (_ ∧ _ ∧ _))

variable {d : Document} {p : Position} {s : Span}

/-- Behind the span of a position there is a run of word characters at the cursor. Its
columns are those of the span, before they are narrowed. -/
theorem exists_wordRun_of_wordAt? (hword : d.wordAt? p = some s) :
    ∃ line start stop, d.lines[p.line.toNat]? = some line ∧
      WordRun (Text.body line) (min p.column.toNat (Text.body line).length) start stop ∧
      start < stop ∧ s = ⟨⟨p.line, UInt32.ofNat start⟩, ⟨p.line, UInt32.ofNat stop⟩⟩ := by
  obtain ⟨line, hline⟩ := exists_line_of_wordAt? hword
  have hrun := wordRun_wordColumns (Nat.min_le_right p.column.toNat (Text.body line).length)
  rw [wordAt?_of_line hline hrun, Option.ite_none_left_eq_some, Option.some.injEq] at hword
  obtain ⟨hne, hs⟩ := hword
  have hle := Nat.le_trans hrun.start_le hrun.le_stop
  exact ⟨line, _, _, hline, hrun, Nat.lt_of_le_of_ne hle hne, hs.symm⟩

/-- Of the columns of a run at the cursor the start is left as it is, and the stop is
taken modulo `UInt32.size`. -/
theorem toNat_columns_of_wordRun {content : Text} {start stop : Nat}
    (hrun : WordRun content (min p.column.toNat content.length) start stop) :
    (UInt32.ofNat start).toNat = start ∧ (UInt32.ofNat stop).toNat = stop % UInt32.size := by
  -- The run starts no further right than the cursor, whose column has 32 bits.
  have hstart : start < UInt32.size :=
    Nat.lt_of_le_of_lt (Nat.le_trans hrun.start_le (Nat.min_le_left _ _)) p.column.toNat_lt_size
  exact ⟨UInt32.toNat_ofNat_of_lt' hstart, UInt32.toNat_ofNat'⟩

/-- What becomes of the word at a position, on lines of any length. It is a run of word
characters at the cursor, and its span is on the line of the position. The start of the
span is that of the run, and its stop that of the run modulo `UInt32.size`. So it depends
on this remainder whether the span encloses the cursor, and whether its width is zero.
If the run stops before `UInt32.size`, the span is that of the word, and encloses the
cursor; and if it does not, the span is not that of the word. -/
theorem wordAt?_narrowed (hword : d.wordAt? p = some s) :
    ∃ line start stop, d.lines[p.line.toNat]? = some line ∧
      WordRun (Text.body line) (min p.column.toNat (Text.body line).length) start stop ∧
      start < stop ∧ s.start.line = p.line ∧ s.stop.line = p.line ∧
      s.start.column.toNat = start ∧ s.stop.column.toNat = stop % UInt32.size ∧
      (Encloses s (min p.column.toNat (Text.body line).length) ↔
        start < stop % UInt32.size ∧
          min p.column.toNat (Text.body line).length ≤ stop % UInt32.size) ∧
      (Finder.width d p ≠ 0 ↔ start < stop % UInt32.size) ∧
      (stop < UInt32.size → Encloses s (min p.column.toNat (Text.body line).length) ∧
        Finder.width d p ≠ 0) ∧
      (IsWordSpan (Text.body line) p s ↔ stop < UInt32.size) := by
  obtain ⟨line, start, stop, hline, hrun, hlt, rfl⟩ := exists_wordRun_of_wordAt? hword
  obtain ⟨hstart, hstop⟩ := toNat_columns_of_wordRun hrun
  have hencloses : Encloses ⟨⟨p.line, UInt32.ofNat start⟩, ⟨p.line, UInt32.ofNat stop⟩⟩
      (min p.column.toNat (Text.body line).length) ↔
        start < stop % UInt32.size ∧
          min p.column.toNat (Text.body line).length ≤ stop % UInt32.size := by
    rw [Encloses, UInt32.lt_iff_toNat_lt, hstart, hstop]
    exact and_congr_right fun _ => and_iff_right hrun.start_le
  have hwidth : Finder.width d p ≠ 0 ↔ start < stop % UInt32.size := by
    rw [Finder.width, hword, ne_eq, ← UInt32.toNat_inj, Span.toNat_width, hstart, hstop]
    exact Nat.sub_ne_zero_iff_lt
  refine ⟨line, start, stop, hline, hrun, hlt, rfl, rfl, hstart, hstop, hencloses, hwidth, ?_, ?_⟩
  · intro hsize
    have hmod : stop % UInt32.size = stop := Nat.mod_eq_of_lt hsize
    rw [hencloses, hwidth, hmod]
    exact ⟨⟨hlt, hrun.le_stop⟩, hlt⟩
  · constructor
    · intro hspan
      -- The run of the span stops where it says, and there is one run only.
      obtain ⟨-, hsame⟩ := hrun.unique hspan.run
      rw [hsame]
      exact UInt32.toNat_lt_size _
    · exact fun hsize => isWordSpan_of_wordRun hsize hrun hlt

/-! ### A long word -/

/-- A document with nothing but a word of `n` letters. -/
def letters (n : Nat) : Document := ⟨"a.go".toList, List.replicate n 'a'⟩

/-- The word of such a document, narrowed. -/
theorem wordAt?_letters {n : Nat} {column : UInt32} (hpos : 0 < n) (hcolumn : column.toNat ≤ n) :
    (letters n).wordAt? ⟨0, column⟩ = some ⟨⟨0, 0⟩, ⟨0, UInt32.ofNat n⟩⟩ := by
  have hletter : ∀ c ∈ List.replicate n 'a', c = 'a' := fun c hc => List.eq_of_mem_replicate hc
  have hlines : (letters n).lines = [List.replicate n 'a'] :=
    Text.lines_eq_singleton fun c hc => by rw [hletter c hc]; decide
  have hbody : Text.body (List.replicate n 'a') = List.replicate n 'a' :=
    Text.body_eq_self fun c hc => by rw [hletter c hc]; decide
  have hline : (letters n).lines[(⟨0, column⟩ : Position).line.toNat]?
      = some (List.replicate n 'a') := by
    rw [hlines]
    rfl
  -- The whole line is the run, from wherever it is looked for.
  have hrun : WordRun (Text.body (List.replicate n 'a'))
      (min column.toNat (Text.body (List.replicate n 'a')).length) 0 n := by
    rw [hbody, List.length_replicate, Nat.min_eq_left hcolumn]
    refine ⟨Nat.zero_le _, hcolumn, Nat.le_of_eq List.length_replicate.symm, ?_, ?_, ?_⟩
    · intro i _ _ c hc
      rw [hletter c (List.mem_of_getElem? hc)]
      decide +kernel
    · exact fun h => absurd h (Nat.lt_irrefl 0)
    · intro c hc
      rw [List.getElem?_eq_none (Nat.le_of_eq List.length_replicate)] at hc
      exact nomatch hc
  rw [wordAt?_of_line hline hrun, if_neg (Nat.ne_of_lt hpos)]
  rfl

/-- `wordAt?_narrowed` for a word of five letters more than 32 bits can count. The span
encloses the cursor and is not that of the word. -/
theorem wordAt?_narrowed_reaching :
    (letters (UInt32.size + 5)).wordAt? ⟨0, 3⟩ = some ⟨⟨0, 0⟩, ⟨0, 5⟩⟩ ∧
    Finder.width (letters (UInt32.size + 5)) ⟨0, 3⟩ ≠ 0 ∧
    ∃ line start stop,
      (letters (UInt32.size + 5)).lines[(⟨0, 3⟩ : Position).line.toNat]? = some line ∧
      WordRun (Text.body line) (min 3 (Text.body line).length) start stop ∧ 0 = start ∧
      5 = stop % UInt32.size ∧
      (IsWordSpan (Text.body line) ⟨0, 3⟩ ⟨⟨0, 0⟩, ⟨0, 5⟩⟩ ↔ stop < UInt32.size) := by
  have hword : (letters (UInt32.size + 5)).wordAt? ⟨0, 3⟩ = some ⟨⟨0, 0⟩, ⟨0, 5⟩⟩ :=
    wordAt?_letters (Nat.succ_pos _) (by decide)
  obtain ⟨line, start, stop, hline, hrun, -, -, -, hstart, hstop, -, hwidth, -, hspan⟩ :=
    wordAt?_narrowed hword
  refine ⟨hword, hwidth.mpr ?_, line, start, stop, hline, hrun, hstart, hstop, hspan⟩
  rw [← hstart, ← hstop]
  decide

/-- Words that stop past the last column of 32 bits. With as many letters as there are
columns, the word has a span of no width, though the cursor stands on it. With one more,
the span ends in front of the cursor. -/
theorem wordAt?_narrowed_past :
    (letters UInt32.size).wordAt? ⟨0, 0⟩ = some ⟨⟨0, 0⟩, ⟨0, 0⟩⟩ ∧
    ¬ Encloses ⟨⟨0, 0⟩, ⟨0, 0⟩⟩ 0 ∧ Finder.width (letters UInt32.size) ⟨0, 0⟩ = 0 ∧
    (letters (UInt32.size + 1)).wordAt? ⟨0, 2⟩ = some ⟨⟨0, 0⟩, ⟨0, 1⟩⟩ ∧
    ¬ Encloses ⟨⟨0, 0⟩, ⟨0, 1⟩⟩ 2 := by
  have hnothing : (letters UInt32.size).wordAt? ⟨0, 0⟩ = some ⟨⟨0, 0⟩, ⟨0, 0⟩⟩ :=
    wordAt?_letters (by decide) (by decide)
  have hfront : (letters (UInt32.size + 1)).wordAt? ⟨0, 2⟩ = some ⟨⟨0, 0⟩, ⟨0, 1⟩⟩ :=
    wordAt?_letters (Nat.succ_pos _) (by decide)
  refine ⟨hnothing, by decide, ?_, hfront, by decide⟩
  rw [Finder.width, hnothing]
  rfl

end GoXref.Document
