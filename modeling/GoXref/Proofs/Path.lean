import GoXref.Path

/-!
# `GoXref.Proofs.Path`: what the text of a path is made of

Joining two paths, folding one and taking its parent move components around,
and put slashes between them. They make no character of their own, and a path
that starts at the root goes on to.

* `mem_fold_parts`: folding adds no component.
* `notMem_resolve`, `notMem_parent`: a character other than a slash that is not
  in a path is not in what is made of it.
* `isAbsolute_resolve`: seen from an absolute directory, every path is absolute.
-/

set_option autoImplicit false

namespace GoXref.Path

variable {c : Char}

/-! ### Pieces -/

/-- A character other than the one between the pieces is in one of them. -/
theorem mem_intercalate_iff {sep : Char} (hc : c ≠ sep) {pieces : List Text} :
    c ∈ [sep].intercalate pieces ↔ ∃ piece ∈ pieces, c ∈ piece := by
  induction pieces with
  | nil => simp [List.intercalate_nil]
  | cons piece pieces ih =>
      cases pieces with
      | nil => simp [List.intercalate_singleton]
      | cons next pieces =>
          rw [List.intercalate_cons_cons, List.mem_append, List.mem_append, ih]
          simp [hc]

/-- The components of a text have the text's characters. -/
theorem notMem_of_mem_parts (hc : c ≠ '/') {t part : Text} (ht : c ∉ t)
    (hpart : part ∈ (ofText t).parts) : c ∉ part := by
  intro h
  have hpiece : part ∈ t.splitOn '/' := (List.mem_filter.mp hpart).1
  have htext : ['/'].intercalate (t.splitOn '/') = t := List.intercalate_splitOn '/'
  rw [← htext, mem_intercalate_iff hc] at ht
  exact ht ⟨part, hpiece, h⟩

/-- The text of a path has the characters of its components, and slashes. -/
theorem notMem_toText (hc : c ≠ '/') {p : Path} (hparts : ∀ part ∈ p.parts, c ∉ part) :
    c ∉ p.toText := by
  have hpieces : c ∉ ['/'].intercalate p.parts := by
    rw [mem_intercalate_iff hc]
    rintro ⟨part, hpart, h⟩
    exact hparts part hpart h
  unfold toText
  split
  · exact List.not_mem_cons_of_ne_of_not_mem hc hpieces
  · exact hpieces

/-! ### Folding -/

/-- A component that is there after one is added is that one, or was there. -/
theorem mem_push {absolute : Bool} {folded : List Text} {part part' : Text}
    (h : part' ∈ push absolute folded part) : part' = part ∨ part' ∈ folded := by
  unfold push at h
  split at h
  · rename_i hup
    split at h
    · split at h
      · exact nomatch h
      · exact .inl ((List.mem_singleton.mp h).trans hup.symm)
    · split at h
      · rw [← hup] at h
        exact List.mem_cons.mp h
      · exact .inr (List.mem_cons_of_mem _ h)
  · exact List.mem_cons.mp h

/-- A component that is there after some are added is one of them, or was
there. -/
theorem mem_foldl_push {absolute : Bool} {parts folded : List Text} {part' : Text}
    (h : part' ∈ parts.foldl (push absolute) folded) : part' ∈ parts ∨ part' ∈ folded := by
  induction parts generalizing folded with
  | nil => exact .inr h
  | cons part parts ih =>
      rcases ih h with hparts | hpush
      · exact .inl (List.mem_cons_of_mem _ hparts)
      · rcases mem_push hpush with rfl | hfolded
        · exact .inl List.mem_cons_self
        · exact .inr hfolded

/-- Folding adds no component. -/
theorem mem_fold_parts {p : Path} {part : Text} (h : part ∈ p.fold.parts) : part ∈ p.parts := by
  rcases mem_foldl_push (List.mem_reverse.mp h) with hparts | hnil
  · exact hparts
  · exact nomatch hnil

/-! ### Paths made of paths -/

/-- A joined path has the characters of the two, and slashes. -/
theorem notMem_join (hc : c ≠ '/') {base file : Text} (hbase : c ∉ base) (hfile : c ∉ file) :
    c ∉ join base file := by
  unfold join
  split
  · exact hfile
  · split
    · simp [hbase, hfile]
    · simp [hc, hbase, hfile]

/-- A path seen from a directory has the characters of the two, and slashes. -/
theorem notMem_resolve (hc : c ≠ '/') {base file : Text} (hbase : c ∉ base) (hfile : c ∉ file) :
    c ∉ resolve base file :=
  notMem_toText hc fun _ hpart =>
    notMem_of_mem_parts hc (notMem_join hc hbase hfile) (mem_fold_parts hpart)

/-- The directory that holds a path has the path's characters. -/
theorem notMem_parent (hc : c ≠ '/') {t : Text} (ht : c ∉ t) : c ∉ parent t := by
  unfold parent
  split
  · exact List.not_mem_nil
  · exact notMem_toText hc fun _ hpart =>
      notMem_of_mem_parts hc ht (List.dropLast_subset _ hpart)

/-! ### Absolute paths -/

/-- The text of an absolute path is absolute. -/
theorem isAbsolute_toText {p : Path} (h : p.absolute = true) : isAbsolute p.toText = true := by
  rw [toText, if_pos h]
  rfl

/-- Whatever is joined to an absolute path gives one. -/
theorem isAbsolute_join {base : Text} (h : isAbsolute base = true) (file : Text) :
    isAbsolute (join base file) = true := by
  unfold join
  split
  · assumption
  · -- The base is not empty, and what stands behind it changes nothing in front.
    obtain ⟨rest, rfl⟩ : ∃ rest, base = '/' :: rest :=
      List.head?_eq_some_iff.mp (of_decide_eq_true h)
    split <;> rfl

/-- A relative path is joined behind the base, with a slash between them if the base
does not end in one. -/
theorem join_of_ne_nil {base file : Text} (hbase : base ≠ [])
    (hrelative : isAbsolute file = false) :
    join base file = (if base.getLast? = some '/' then base else base ++ ['/']) ++ file := by
  rw [join, hrelative, if_neg Bool.false_ne_true]
  by_cases hlast : base.getLast? = some '/'
  · rw [if_pos hlast, if_pos (by simp [hlast])]
  · rw [if_neg hlast, if_neg (by simp [hbase, hlast]), List.append_assoc]
    rfl

/-- A relative path is joined behind a slash, which may be the base's own. -/
theorem join_cases {base file : Text} (hbase : base ≠ []) (hrelative : isAbsolute file = false) :
    join base file = base ++ '/' :: file ∨
      ∃ front, base = front ++ ['/'] ∧ join base file = front ++ '/' :: file := by
  rw [join_of_ne_nil hbase hrelative]
  by_cases hlast : base.getLast? = some '/'
  · obtain ⟨front, rfl⟩ := List.getLast?_eq_some_iff.mp hlast
    refine .inr ⟨front, rfl, ?_⟩
    rw [if_pos hlast, List.append_assoc, List.singleton_append]
  · rw [if_neg hlast, List.append_assoc]
    exact .inl rfl

/-- A path stands at the end of whatever it is joined to. -/
theorem isSuffix_join (base file : Text) : file <:+ join base file := by
  unfold join
  split
  · exact List.suffix_rfl
  split
  · exact List.suffix_append _ _
  · exact (List.suffix_cons '/' file).trans (List.suffix_append _ _)

/-- A character that is not in the base stands in a joined path exactly if it
stands in the path that is joined to it. -/
theorem mem_join_iff (hc : c ≠ '/') {base : Text} (hbase : c ∉ base) (file : Text) :
    c ∈ join base file ↔ c ∈ file :=
  ⟨fun hmem => Decidable.byContradiction fun hfile => notMem_join hc hbase hfile hmem,
    fun hmem => (isSuffix_join base file).subset hmem⟩

/-- Seen from an absolute directory, every path is absolute. -/
theorem isAbsolute_resolve {base : Text} (h : isAbsolute base = true) (file : Text) :
    isAbsolute (resolve base file) = true :=
  isAbsolute_toText (isAbsolute_join h file)

/-- The directory that holds an absolute path is absolute, if the path names
anything below the root. -/
theorem isAbsolute_parent {t : Text} (h : isAbsolute t = true) (hparts : (ofText t).parts ≠ []) :
    isAbsolute (parent t) = true := by
  unfold parent
  split
  · rename_i hnil
    exact absurd hnil hparts
  · exact isAbsolute_toText h

/-- An absolute path is not empty. -/
theorem ne_nil_of_isAbsolute {t : Text} (h : isAbsolute t = true) : t ≠ [] := by
  rintro rfl
  exact nomatch h

end GoXref.Path
