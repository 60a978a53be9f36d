import GoXref.Document

/-!
# `GoXref.Proofs.Document.Word`: the word under the cursor

`Document.wordColumns` scans from the cursor to the left and to the right.
Here its result is said without scans: it is the only stretch of word
characters that touches the cursor and cannot be made longer.

* `WordRun`: the stretch, by the characters in it and beside it.
* `wordRun_wordColumns`: the two scans end at such a stretch.
* `WordRun.unique`: there is no other one.
* `wordAt?_of_wordRun`: the word of a position is the run, if it is not empty.
-/

set_option autoImplicit false

namespace GoXref.Document

/-- The columns from `start` up to `stop` hold word characters only, they
touch `column`, and no word character stands directly beside them. If neither
neighbour of `column` is a word character, the run is empty. -/
structure WordRun (content : Text) (column start stop : Nat) : Prop where
  /-- The run starts at the cursor or to its left. -/
  start_le : start ≤ column
  /-- The run stops at the cursor or to its right. -/
  le_stop : column ≤ stop
  /-- The run lies in the line. -/
  stop_le : stop ≤ content.length
  /-- The run holds word characters. -/
  isWordChar : ∀ i, start ≤ i → i < stop → ∀ c ∈ content[i]?, isWordChar c = true
  /-- The character in front of the run is no word character. -/
  before : 0 < start → ∀ c ∈ content[start - 1]?, Document.isWordChar c = false
  /-- The character behind the run is no word character. -/
  after : ∀ c ∈ content[stop]?, Document.isWordChar c = false

/-! ### One scan -/

section Scan

variable {α : Type} {p : α → Bool} {l : List α}

/-- A scan stops at the first element that fails. -/
theorem length_takeWhile : (l.takeWhile p).length = l.findIdx fun a => !p a := by
  rw [List.takeWhile_eq_take_findIdx_not, List.length_take]
  exact Nat.min_eq_left List.findIdx_le_length

/-- What a scan passes over does not fail. -/
theorem of_lt_length_takeWhile {i : Nat} (h : i < (l.takeWhile p).length) :
    ∀ a ∈ l[i]?, p a = true := by
  intro a ha
  rw [length_takeWhile] at h
  obtain ⟨hi, rfl⟩ := List.getElem?_eq_some_iff.mp ha
  simpa using List.not_of_lt_findIdx h

/-- Where a scan stops, it fails. -/
theorem at_length_takeWhile : ∀ a ∈ l[(l.takeWhile p).length]?, p a = false := by
  intro a ha
  rw [length_takeWhile] at ha
  obtain ⟨hi, rfl⟩ := List.getElem?_eq_some_iff.mp ha
  simpa using List.findIdx_getElem (w := hi)

end Scan

/-! ### Both scans -/

/-- The scan to the left reads the content backwards from the cursor. -/
theorem getElem?_reverse_take {content : Text} {column i : Nat} (hcolumn : column ≤ content.length)
    (hi : i < column) : (content.take column).reverse[i]? = content[column - 1 - i]? := by
  have hlength : (content.take column).length = column := List.length_take_of_le hcolumn
  rw [List.getElem?_reverse (by omega), hlength, List.getElem?_take_of_lt (by omega)]

/-- The two scans end at a run of word characters that touches the cursor. -/
theorem wordRun_wordColumns {content : Text} {column : Nat} (hcolumn : column ≤ content.length) :
    WordRun content column (wordColumns content column).1 (wordColumns content column).2 := by
  unfold wordColumns
  have hleft : ((content.take column).reverse.takeWhile Document.isWordChar).length ≤ column := by
    have hle := (List.takeWhile_prefix Document.isWordChar
      (l := (content.take column).reverse)).length_le
    rwa [List.length_reverse, List.length_take_of_le hcolumn] at hle
  have hright : ((content.drop column).takeWhile Document.isWordChar).length
      ≤ content.length - column := by
    have hle := (List.takeWhile_prefix Document.isWordChar (l := content.drop column)).length_le
    rwa [List.length_drop] at hle
  refine ⟨Nat.sub_le _ _, Nat.le_add_right _ _, by omega, ?_, ?_, ?_⟩
  · intro i hstart hstop c hc
    rcases Nat.lt_or_ge i column with hi | hi
    · -- The scan to the left meets column `i` as its element `column - 1 - i`.
      have hpassed : column - 1 - i
          < ((content.take column).reverse.takeWhile Document.isWordChar).length := by omega
      have hback : column - 1 - (column - 1 - i) = i := by omega
      apply of_lt_length_takeWhile hpassed
      rwa [getElem?_reverse_take hcolumn (by omega), hback]
    · -- The scan to the right meets it as its element `i - column`.
      have hpassed : i - column
          < ((content.drop column).takeWhile Document.isWordChar).length := by omega
      have hback : column + (i - column) = i := by omega
      apply of_lt_length_takeWhile hpassed
      rwa [List.getElem?_drop, hback]
  · intro hpos c hc
    apply at_length_takeWhile
    rw [getElem?_reverse_take hcolumn (by omega)]
    rwa [Nat.sub_right_comm] at hc
  · intro c hc
    apply at_length_takeWhile
    rwa [List.getElem?_drop]

/-! ### There is one run only -/

/-- No run that touches the column starts further left than another. -/
theorem WordRun.start_le_start {content : Text} {column start stop start' stop' : Nat}
    (h : WordRun content column start stop) (h' : WordRun content column start' stop') :
    start ≤ start' := by
  rcases Nat.lt_or_ge start' start with hlt | hge
  · -- The character in front of the shorter run lies in the longer one.
    have hcolumn := h.start_le
    have hstop := h'.le_stop
    have hlength := h'.stop_le
    have hget : content[start - 1]? = some content[start - 1] := List.getElem?_eq_getElem (by omega)
    have hin := h'.isWordChar (start - 1) (by omega) (by omega) _ hget
    have hout := h.before (by omega) _ hget
    rw [hin] at hout
    exact nomatch hout
  · exact hge

/-- No run that touches the column stops further right than another. -/
theorem WordRun.stop_le_stop {content : Text} {column start stop start' stop' : Nat}
    (h : WordRun content column start stop) (h' : WordRun content column start' stop') :
    stop' ≤ stop := by
  rcases Nat.lt_or_ge stop stop' with hlt | hge
  · -- The character behind the shorter run lies in the longer one.
    have hcolumn := h'.start_le
    have hstop := h.le_stop
    have hlength := h'.stop_le
    have hget : content[stop]? = some content[stop] := List.getElem?_eq_getElem (by omega)
    have hin := h'.isWordChar stop (by omega) hlt _ hget
    have hout := h.after _ hget
    rw [hin] at hout
    exact nomatch hout
  · exact hge

/-- Two runs that touch the same column are the same. -/
theorem WordRun.unique {content : Text} {column start stop start' stop' : Nat}
    (h : WordRun content column start stop) (h' : WordRun content column start' stop') :
    start = start' ∧ stop = stop' :=
  ⟨Nat.le_antisymm (h.start_le_start h') (h'.start_le_start h),
    Nat.le_antisymm (h'.stop_le_stop h) (h.stop_le_stop h')⟩

/-- The word at a position is the run that touches its column, unless the run
is empty. A column behind the line's content counts as its end. -/
theorem wordAt?_of_wordRun {d : Document} {p : Position} {content : Text} {start stop : Nat}
    (hcontent : d.lineContent? p.line.toNat = some content)
    (hrun : WordRun content (min p.column.toNat content.length) start stop) :
    d.wordAt? p = if start = stop then none
      else some ⟨⟨p.line, UInt32.ofNat start⟩, ⟨p.line, UInt32.ofNat stop⟩⟩ := by
  obtain ⟨hstart, hstop⟩ := hrun.unique (wordRun_wordColumns (Nat.min_le_right _ _))
  rw [wordAt?, hcontent, hstart, hstop]

end GoXref.Document
