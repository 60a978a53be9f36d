import GoXref.Proofs.Location.Reading

/-!
# `GoXref.Proofs.Location`: a written location is read back

`Location.toText` writes `file:line:column`, and `Location.parse?` looks for
the longest file name that leaves two fields behind it. The file name may
hold colons and digits of its own, so the question is why the reader stops
at the two fields that were written.

* `two_le_count_of_split?`: a text that can be cut has two colons behind its
  first character. What follows a written file name has one only, so no cut
  lies behind the written one.
* `split?_fields_eq_none`: two fields alone cannot be cut, if no colon follows them.
* `split?_append`, `split?_append_fields`: so a file name in front of them is cut
  off there.
* `split?_toText_append`, `parse?_toText_append`: the location is cut and read
  back, whatever its file name holds, if what follows has no colon and does not
  go on with a digit.
* `lf_notMem_of_parse?`: no file name that is read runs over the end of a line.
-/

set_option autoImplicit false

namespace GoXref.Location

open Unicode

/-! ### Digits -/

/-- An ASCII digit is a decimal digit. -/
theorem isDecimalDigit_of_isDigit {c : Char} (h : c.isDigit = true) :
    isDecimalDigit c = true := by
  simp only [Char.isDigit, Bool.and_eq_true, decide_eq_true_eq] at h
  have hlo : 0x30 ≤ c.toNat := UInt32.le_iff_toNat_le.mp h.1
  have hhi : c.toNat ≤ 0x39 := UInt32.le_iff_toNat_le.mp h.2
  -- The ASCII digits are the first range of the table.
  show (if c.toNat ≤ 0x39 then decide (0x30 ≤ c.toNat) else _) = true
  rw [if_pos hhi]
  exact decide_eq_true hlo

/-- A number in decimal has ASCII digits only. -/
theorem isDigit_of_mem_decimal {n : Nat} {c : Char} (h : c ∈ Text.decimal n) :
    c.isDigit = true :=
  Nat.isDigit_of_mem_toDigits (by decide) (by decide) h

/-- A number in decimal has decimal digits only. -/
theorem isDecimalDigit_of_mem_decimal {n : Nat} {c : Char} (h : c ∈ Text.decimal n) :
    isDecimalDigit c = true :=
  isDecimalDigit_of_isDigit (isDigit_of_mem_decimal h)

/-- A number in decimal has a digit. -/
theorem decimal_ne_nil (n : Nat) : Text.decimal n ≠ [] := Nat.toDigits_ne_nil

/-- A number in decimal is a run of digits. -/
theorem areDigits_decimal (n : Nat) : AreDigits (Text.decimal n) :=
  ⟨decimal_ne_nil n, fun _ hc => isDecimalDigit_of_mem_decimal hc⟩

/-- The digits of a 32-bit number have that number as their value. -/
theorem value?_decimal (n : UInt32) : value? (Text.decimal n.toNat) = some n := by
  have hall : (Text.decimal n.toNat).all Char.isDigit = true :=
    List.all_eq_true.mpr fun c hc => isDigit_of_mem_decimal hc
  have hval : Nat.ofDigitChars 10 (Text.decimal n.toNat) 0 = n.toNat :=
    Nat.ofDigitChars_ten_toDigits
  have hlt : n.toNat < UInt32.size := n.toNat_lt_size
  simp only [value?, hall, hval, hlt, decide_true, Bool.and_self, if_true]
  rw [UInt32.ofNat_toNat]

/-- A written location stays on one line, if its file name does. -/
theorem lf_notMem_toText {l : Location} (h : '\n' ∉ l.file) : '\n' ∉ l.toText := by
  have hdecimal : ∀ n, '\n' ∉ Text.decimal n := by
    intro n
    exact notMem_of_areDigits (areDigits_decimal n) rfl
  simp [toText, h, hdecimal]

/-! ### The cut -/

/-- A text that can be cut has two colons behind its first character. -/
theorem two_le_count_of_split? {t : Text} {parts : LocationParts} (h : split? t = some parts) :
    2 ≤ t.tail.count ':' := by
  have hreading := LocationParts.isReadingOf_of_split? h
  -- The file name has the first character, so both colons lie behind it.
  obtain ⟨c, file, hfile⟩ := List.exists_cons_of_ne_nil hreading.file_ne_nil
  rw [hreading.text_eq, hfile, List.cons_append, List.tail_cons]
  simp only [List.count_append, List.count_cons_self]
  omega

/-- A file name in front of two fields is cut off there, if no cut lies
behind it. -/
theorem split?_append {file t line column rest : Text} (hne : file ≠ []) (hlf : '\n' ∉ file)
    (hfields : fields? t = some (line, column, rest)) (hnone : split? t = none) :
    split? (file ++ t) = some ⟨file, line, column, rest⟩ := by
  -- The reader tries the tail first. In the file name the tail has the written
  -- cut, and at its last character there is none but that.
  induction file with
  | nil => exact absurd rfl hne
  | cons c file ih =>
      have hc : c ≠ '\n' := fun h => hlf (h ▸ List.mem_cons_self)
      cases file with
      | nil => exact split?_cons_of_none hc hnone hfields
      | cons c' file =>
          exact split?_cons_of_some hc (ih (by simp) fun h => hlf (List.mem_cons_of_mem _ h))

/-- Two fields without a file name cannot be cut if no colon follows them. -/
theorem split?_fields_eq_none {line column rest : Text} (hline : AreDigits line)
    (hcolumn : AreDigits column) (hcolon : ':' ∉ rest) :
    split? (':' :: (line ++ ':' :: (column ++ rest))) = none := by
  -- There is one colon only behind the first character.
  have hcount : (line ++ ':' :: (column ++ rest)).count ':' = 1 := by
    rw [List.count_append, List.count_cons_self, List.count_append,
      List.count_eq_zero_of_not_mem (notMem_of_areDigits hline isDecimalDigit_colon),
      List.count_eq_zero_of_not_mem (notMem_of_areDigits hcolumn isDecimalDigit_colon),
      List.count_eq_zero_of_not_mem hcolon]
  rw [Option.eq_none_iff_forall_ne_some]
  intro parts hparts
  have htwo := two_le_count_of_split? hparts
  rw [List.tail_cons, hcount] at htwo
  omega

/-- A file name is cut off in front of two fields if no colon follows them. It does
not matter which colons and digits the file name holds. -/
theorem split?_append_fields {file line column rest : Text} (hne : file ≠ [])
    (hlf : '\n' ∉ file) (hline : AreDigits line) (hcolumn : AreDigits column)
    (hcolon : ':' ∉ rest) (hrest : EndsDigits rest) :
    split? (file ++ ':' :: (line ++ ':' :: (column ++ rest)))
      = some ⟨file, line, column, rest⟩ :=
  split?_append hne hlf (fields?_append hline hcolumn hrest)
    (split?_fields_eq_none hline hcolumn hcolon)

/-- The file name of a location that is read holds no line feed. -/
theorem lf_notMem_of_parse? {t : Text} {l : Location} (h : parse? t = some l) :
    '\n' ∉ l.file := by
  unfold parse? at h
  split at h
  · exact nomatch h
  · rename_i parts hcut
    split at h
    · obtain rfl := Option.some.inj h
      exact (LocationParts.isReadingOf_of_split? hcut).lf_notMem_file
    · exact nomatch h

/-! ### Written locations -/

/-- A written location is cut where it was put together, whatever colons and
digits its file name holds. What follows it must not look like more of it: no
colon, and no digit at once. -/
theorem split?_toText_append {l : Location} {rest : Text} (hne : l.file ≠ [])
    (hlf : '\n' ∉ l.file) (hcolon : ':' ∉ rest) (hrest : EndsDigits rest) :
    split? (l.toText ++ rest)
      = some ⟨l.file, Text.decimal l.line.toNat, Text.decimal l.column.toNat, rest⟩ := by
  have htext : l.toText ++ rest = l.file ++ ':' :: (Text.decimal l.line.toNat
      ++ ':' :: (Text.decimal l.column.toNat ++ rest)) := by
    simp [toText]
  rw [htext]
  exact split?_append_fields hne hlf (areDigits_decimal _) (areDigits_decimal _) hcolon hrest

/-- A written location is read back. -/
theorem parse?_toText_append {l : Location} {rest : Text} (hne : l.file ≠ [])
    (hlf : '\n' ∉ l.file) (hcolon : ':' ∉ rest) (hrest : EndsDigits rest) :
    parse? (l.toText ++ rest) = some l := by
  rw [parse?, split?_toText_append hne hlf hcolon hrest]
  simp only [value?_decimal]

end GoXref.Location
