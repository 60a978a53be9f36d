import GoXref.Proofs.Path
import GoXref.Proofs.Text.Pieces

/-!
# `GoXref.Proofs.Path.Normal`: paths with nothing left to fold

What `..` does in `Path.push` depends on the component before it, so folded
components have one shape: some `..` that lead out of where a relative path
starts, and behind them names only. When components of this shape are folded
again, nothing is taken back. A folded path can therefore be written down, read
and folded on, as if the first folding had never been done.

* `ofText_toText`: the components of a path can be read back from its text.
* `ofText_join`: the components of a joined path are those of the two.
* `isFolded_fold`, `fold_of_isFolded`: folding leaves the shape, and leaves it
  alone.
* `resolve_append_slash`: seen from a directory in one hop or in two, a path is
  the same.
-/

set_option autoImplicit false

namespace GoXref.Path

/-! ### Components and their text -/

/-- The components a text can have: none is empty or `.`, and none holds a
slash. -/
def IsProper (p : Path) : Prop := ∀ part ∈ p.parts, isPart part = true ∧ '/' ∉ part

/-- The components of a text are such components. -/
theorem isProper_ofText (t : Text) : (ofText t).IsProper := by
  intro part hpart
  obtain ⟨hpiece, hcounts⟩ := List.mem_filter.mp hpart
  exact ⟨hcounts, Pieces.notMem_of_mem_splitOn hpiece⟩

/-- A slash parts components. -/
theorem parts_append_slash (front back : Text) :
    (ofText (front ++ '/' :: back)).parts = (ofText front).parts ++ (ofText back).parts := by
  simp only [ofText, List.splitOn_append_cons_self, List.filter_append]

/-- What stands behind a text that is not empty does not make it absolute. -/
theorem isAbsolute_append {front : Text} (hne : front ≠ []) (back : Text) :
    isAbsolute (front ++ back) = isAbsolute front := by
  cases front with
  | nil => exact absurd rfl hne
  | cons c front => rfl

/-- Both together, of a slash behind a text that is not empty. -/
theorem ofText_append_slash {front : Text} (hne : front ≠ []) (back : Text) :
    ofText (front ++ '/' :: back)
      = ⟨isAbsolute front, (ofText front).parts ++ (ofText back).parts⟩ := by
  rw [← parts_append_slash, ← isAbsolute_append hne ('/' :: back)]
  rfl

/-- The components of a joined path are those of the base and those of the file.
A file from the root has its own only. -/
theorem ofText_join (base file : Text) :
    ofText (join base file) = if isAbsolute file then ofText file
      else ⟨isAbsolute base, (ofText base).parts ++ (ofText file).parts⟩ := by
  cases habsolute : isAbsolute file with
  | true => rw [join, if_pos habsolute, if_pos rfl]
  | false =>
      rw [if_neg Bool.false_ne_true]
      by_cases hbase : base = []
      · -- An empty base adds no slash, and has no components.
        subst hbase
        have hjoin : join [] file = file := by simp [join, habsolute]
        rw [hjoin, ofText, habsolute]
        rfl
      · have hparts : (ofText (join base file)).parts
            = (ofText base).parts ++ (ofText file).parts := by
          rcases join_cases hbase habsolute with h | ⟨front, rfl, h⟩
          · rw [h, parts_append_slash]
          · -- The slash at the end of the base has no component behind it.
            have hnil : (ofText []).parts = [] := rfl
            rw [h, parts_append_slash, parts_append_slash, hnil, List.append_nil]
        have hstart : isAbsolute (join base file) = isAbsolute base := by
          unfold join
          rw [habsolute, if_neg Bool.false_ne_true]
          split <;> exact isAbsolute_append hbase _
        show (⟨isAbsolute (join base file), (ofText (join base file)).parts⟩ : Path) = _
        rw [hparts, hstart]

/-- Components with slashes between them are the pieces of their text. The text
of no components at all is one empty piece. -/
theorem parts_intercalate {parts : List Text}
    (hproper : ∀ part ∈ parts, isPart part = true ∧ '/' ∉ part) :
    (ofText (['/'].intercalate parts)).parts = parts := by
  by_cases hne : parts = []
  · subst hne
    rfl
  · show ((['/'].intercalate parts).splitOn '/').filter isPart = parts
    rw [List.splitOn_intercalate '/' (fun part hpart => (hproper part hpart).2) hne,
      List.filter_eq_self]
    exact fun part hpart => (hproper part hpart).1

/-- A text of components does not start with a slash. -/
theorem isAbsolute_intercalate {parts : List Text}
    (hproper : ∀ part ∈ parts, isPart part = true ∧ '/' ∉ part) :
    isAbsolute (['/'].intercalate parts) = false := by
  cases parts with
  | nil => rfl
  | cons part rest =>
      obtain ⟨hcounts, hslash⟩ := hproper part List.mem_cons_self
      cases part with
      | nil => exact absurd hcounts (by decide)
      | cons c part =>
          have hc : c ≠ '/' := fun h => hslash (h ▸ List.mem_cons_self)
          cases rest <;> simp [isAbsolute, hc]

/-- A path can be read back from its text. -/
theorem ofText_toText {p : Path} (hproper : p.IsProper) : ofText p.toText = p := by
  obtain ⟨absolute, parts⟩ := p
  have hparts : (ofText (['/'].intercalate parts)).parts = parts := parts_intercalate hproper
  cases absolute with
  | true =>
      have hslash := parts_append_slash [] (['/'].intercalate parts)
      rw [hparts] at hslash
      exact congrArg (Path.mk true) hslash
  | false =>
      show (⟨isAbsolute (['/'].intercalate parts),
        (ofText (['/'].intercalate parts)).parts⟩ : Path) = _
      rw [hparts, isAbsolute_intercalate hproper]

/-! ### Folding -/

/-- A path with nothing left to work off: every `..` stands in front of all names,
and a path from the root has none. -/
def IsFolded (p : Path) : Prop :=
  ∃ n names, p.parts = List.replicate n up ++ names ∧ up ∉ names ∧ (p.absolute = true → n = 0)

/-- The same of components in reverse, as `push` adds to them. -/
def IsStack (absolute : Bool) (folded : List Text) : Prop :=
  ∃ n names, folded = names ++ List.replicate n up ∧ up ∉ names ∧ (absolute = true → n = 0)

/-- Adding a component keeps the shape. -/
theorem IsStack.push {absolute : Bool} {folded : List Text} (h : IsStack absolute folded)
    (part : Text) : IsStack absolute (push absolute folded part) := by
  obtain ⟨n, names, rfl, hnames, hroot⟩ := h
  unfold Path.push
  by_cases hpart : part = up
  · rw [if_pos hpart]
    match names, n with
    | name :: names, n =>
        -- A name is taken back.
        have hname : name ≠ up := fun h => hnames (h ▸ List.mem_cons_self)
        simp only [List.cons_append, if_neg hname]
        exact ⟨n, names, rfl, fun h => hnames (List.mem_cons_of_mem _ h), hroot⟩
    | [], 0 =>
        cases absolute with
        | true => exact ⟨0, [], rfl, List.not_mem_nil, fun _ => rfl⟩
        | false => exact ⟨1, [], rfl, List.not_mem_nil, nofun⟩
    | [], n + 1 =>
        -- Behind `..` there is one more, and the path does not start at the root.
        simp only [List.nil_append, List.replicate_succ, if_true]
        exact ⟨n + 2, [], rfl, List.not_mem_nil, fun h => nomatch hroot h⟩
  · rw [if_neg hpart]
    refine ⟨n, part :: names, rfl, ?_, hroot⟩
    simp [Ne.symm hpart, hnames]

/-- So does adding any number of them. -/
theorem IsStack.foldl_push {absolute : Bool} {folded : List Text} (h : IsStack absolute folded)
    (parts : List Text) : IsStack absolute (parts.foldl (Path.push absolute) folded) := by
  induction parts generalizing folded with
  | nil => exact h
  | cons part parts ih => exact ih (h.push part)

/-- A folded path has nothing left to work off. -/
theorem isFolded_fold (p : Path) : p.fold.IsFolded := by
  have hnil : IsStack p.absolute [] := ⟨0, [], rfl, List.not_mem_nil, fun _ => rfl⟩
  obtain ⟨n, names, hstack, hnames, hroot⟩ := hnil.foldl_push p.parts
  refine ⟨n, names.reverse, ?_, by simpa using hnames, hroot⟩
  show (p.parts.foldl (push p.absolute) []).reverse = _
  rw [hstack, List.reverse_append, List.reverse_replicate]

/-- Names are added one by one, whatever is there. -/
theorem foldl_push_names {absolute : Bool} {names : List Text} (hnames : up ∉ names)
    (folded : List Text) : names.foldl (push absolute) folded = names.reverse ++ folded := by
  induction names generalizing folded with
  | nil => rfl
  | cons name names ih =>
      rw [List.mem_cons, not_or] at hnames
      have hpush : push absolute folded name = name :: folded := if_neg (Ne.symm hnames.1)
      rw [List.foldl_cons, hpush, ih hnames.2, List.reverse_cons, List.append_assoc]
      rfl

/-- In a relative path `..` is added behind others. -/
theorem foldl_push_ups (n : Nat) :
    (List.replicate n up).foldl (push false) [] = List.replicate n up := by
  induction n with
  | zero => rfl
  | succ n ih =>
      rw [List.replicate_succ', List.foldl_append, ih, ← List.replicate_succ']
      cases n <;> rfl

/-- A path with nothing left to work off is left alone. -/
theorem fold_of_isFolded {p : Path} (h : p.IsFolded) : p.fold = p := by
  obtain ⟨absolute, parts⟩ := p
  obtain ⟨n, names, rfl, hnames, hroot⟩ := h
  have hups : (List.replicate n up).foldl (push absolute) [] = List.replicate n up := by
    cases absolute with
    | true =>
        rw [hroot rfl]
        rfl
    | false => exact foldl_push_ups n
  show (⟨absolute, ((List.replicate n up ++ names).foldl (push absolute) []).reverse⟩ : Path) = _
  rw [List.foldl_append, hups, foldl_push_names hnames, List.reverse_append, List.reverse_reverse,
    List.reverse_replicate]

/-- Folding adds no component that a text cannot have. -/
theorem IsProper.fold {p : Path} (h : p.IsProper) : p.fold.IsProper :=
  fun part hpart => h part (mem_fold_parts hpart)

/-- A path is folded on from the path that was folded so far. -/
theorem fold_append (p : Path) (more : List Text) :
    fold ⟨p.absolute, p.fold.parts ++ more⟩ = fold ⟨p.absolute, p.parts ++ more⟩ := by
  -- Folding again brings the components to the same point.
  have hagain : p.fold.parts.foldl (push p.absolute) [] = p.parts.foldl (push p.absolute) [] :=
    List.reverse_inj.mp (congrArg parts (fold_of_isFolded (isFolded_fold p)))
  simp only [fold, List.foldl_append] at hagain ⊢
  rw [hagain]

/-! ### Paths seen from a directory -/

/-- The path that a file is seen as is the folded path of the two. -/
theorem ofText_resolve (base file : Text) :
    ofText (resolve base file) = (ofText (join base file)).fold :=
  ofText_toText (isProper_ofText _).fold

/-- Seen from a directory, a path in two parts is the second part seen from the
first. The first must not be empty, or the slash between them would be the root,
and the second must not start at the root itself. -/
theorem resolve_append_slash (base : Text) {first second : Text} (hfirst : first ≠ [])
    (hsecond : isAbsolute second = false) :
    resolve base (first ++ '/' :: second) = resolve (resolve base first) second := by
  have hone : ofText (join base (first ++ '/' :: second))
      = ⟨(ofText (join base first)).absolute,
        (ofText (join base first)).parts ++ (ofText second).parts⟩ := by
    rw [ofText_join, ofText_join, isAbsolute_append hfirst, ofText_append_slash hfirst]
    cases habsolute : isAbsolute first with
    | true => simp [ofText, habsolute]
    | false => simp
  have htwo : ofText (join (resolve base first) second)
      = ⟨(ofText (join base first)).absolute,
        (ofText (join base first)).fold.parts ++ (ofText second).parts⟩ := by
    have habsolute : isAbsolute (resolve base first) = (ofText (join base first)).absolute :=
      congrArg absolute (ofText_resolve base first)
    rw [ofText_join, hsecond, if_neg Bool.false_ne_true, ofText_resolve, habsolute]
  show (ofText (join base (first ++ '/' :: second))).fold.toText
    = (ofText (join (resolve base first) second)).fold.toText
  rw [hone, htwo, fold_append]

/-- `resolve_append_slash` where the first hop ends above the base. The second
hop leads further up and down again. -/
theorem resolve_append_slash_above :
    "..//./..".toList ≠ [] ∧ isAbsolute "x/../../b.go".toList = false ∧
    resolve "ws".toList ("..//./..".toList ++ '/' :: "x/../../b.go".toList)
      = resolve (resolve "ws".toList "..//./..".toList) "x/../../b.go".toList ∧
    resolve "ws".toList "..//./..".toList = "..".toList ∧
    resolve "..".toList "x/../../b.go".toList = "../../b.go".toList :=
  ⟨by decide, by decide, resolve_append_slash _ (by decide) (by decide), by decide, by decide⟩

end GoXref.Path
