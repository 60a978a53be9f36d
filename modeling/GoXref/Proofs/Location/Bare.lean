import GoXref.Proofs.Location.Reading

/-!
# `GoXref.Proofs.Location.Bare`: lines that are a location and nothing else

`Location.isBare` tries every character of a line as the last one of the file
name. Here a bare location is said by its parts: a file name without white space,
and two fields that take up the rest of the line.

* `isFields_iff`: two fields and nothing more.
* `isBare_iff`: a bare location by its parts.
* `lf_notMem_of_isBare`: it stays on one line.
-/

set_option autoImplicit false

namespace GoXref.Location

open Unicode

/-- Two fields and nothing more are a colon, digits, a colon and digits. -/
theorem isFields_iff {t : Text} :
    isFields t = true
      ↔ ∃ line column, AreDigits line ∧ AreDigits column ∧ t = ':' :: (line ++ ':' :: column) := by
  constructor
  · intro h
    unfold isFields at h
    split at h
    · rename_i line column hfields
      obtain ⟨rfl, hline, hcolumn, -⟩ := fields?_eq_some_iff.mp hfields
      exact ⟨line, column, hline, hcolumn, by rw [List.append_nil]⟩
    · exact nomatch h
  · rintro ⟨line, column, hline, hcolumn, rfl⟩
    have hends : EndsDigits [] := fun c hc => nomatch hc
    have hfields := fields?_append hline hcolumn hends
    rw [List.append_nil] at hfields
    rw [isFields, hfields]

/-- A bare location is a file name without white space, a colon, digits, a colon
and digits. -/
theorem isBare_iff {t : Text} :
    isBare t = true
      ↔ ∃ file line column, file ≠ [] ∧ (∀ c ∈ file, isBlank c = false) ∧ AreDigits line ∧
        AreDigits column ∧ t = file ++ ':' :: (line ++ ':' :: column) := by
  constructor
  · intro h
    induction t with
    | nil => exact nomatch h
    | cons c t ih =>
        rw [isBare, Bool.and_eq_true, Bool.or_eq_true, Bool.not_eq_true'] at h
        obtain ⟨hc, hfields | hbare⟩ := h
        · -- The file name ends here.
          obtain ⟨line, column, hline, hcolumn, rfl⟩ := isFields_iff.mp hfields
          exact ⟨[c], line, column, by simp, by simpa using hc, hline, hcolumn, rfl⟩
        · obtain ⟨file, line, column, -, hfile, hline, hcolumn, rfl⟩ := ih hbare
          exact ⟨c :: file, line, column, by simp, List.forall_mem_cons.mpr ⟨hc, hfile⟩, hline,
            hcolumn, rfl⟩
  · rintro ⟨file, line, column, hne, hfile, hline, hcolumn, rfl⟩
    induction file with
    | nil => exact absurd rfl hne
    | cons c file ih =>
        obtain ⟨hc, hfile⟩ := List.forall_mem_cons.mp hfile
        rw [List.cons_append, isBare, hc]
        cases file with
        | nil =>
            have hfields := isFields_iff.mpr ⟨line, column, hline, hcolumn, rfl⟩
            rw [List.nil_append, hfields]
            rfl
        | cons c' file =>
            rw [ih (by simp) hfile, Bool.or_true]
            rfl

/-- A bare location stays on one line. -/
theorem lf_notMem_of_isBare {t : Text} (h : isBare t = true) : '\n' ∉ t := by
  obtain ⟨file, line, column, -, hfile, hline, hcolumn, rfl⟩ := isBare_iff.mp h
  have hlf : '\n' ∉ file := fun hmem => absurd (hfile _ hmem) (by decide)
  have hline_lf : '\n' ∉ line := notMem_of_areDigits hline rfl
  have hcolumn_lf : '\n' ∉ column := notMem_of_areDigits hcolumn rfl
  simp [hlf, hline_lf, hcolumn_lf]

end GoXref.Location
