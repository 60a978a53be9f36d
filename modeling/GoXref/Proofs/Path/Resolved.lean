import GoXref.Proofs.Path.Normal

/-!
# `GoXref.Proofs.Path.Resolved`: what a path seen from a directory looks like

`Path.resolve` looks at no file system. That its result leads where the path
does is a fact about trees: from a directory that was entered by its name, `..`
leads back, if there are no links.

* `IsNormal`: a text in normal form, said of all the pieces between its slashes.
* `IsNormal.resolve_eq`: such a text is left as it is.
* `Tree`, `Tree.walk`: any tree without links, and walks in it. A walk can fail
  on the way, and it can end at a file.
* `walk_push`, `walk_fold`: what has been folded leads as far as what has been
  walked, one component at a time.
* `resolve_normal_form`: the form of a resolved path, and where it leads.
-/

set_option autoImplicit false

namespace GoXref

namespace Path

/-! ### Pieces -/

/-- The pieces of a text between its slashes. The empty text has none. -/
def between (t : Text) : List Text := if t = [] then [] else t.splitOn '/'

/-- The pieces of a path. The slash that an absolute path starts with has no piece
in front of it. -/
def pieces (t : Text) : List Text := between (if isAbsolute t then t.tail else t)

/-- The pieces of a text spell it. -/
theorem intercalate_between (t : Text) : ['/'].intercalate (between t) = t := by
  unfold between
  by_cases ht : t = []
  · rw [if_pos ht, ht]
    rfl
  · rw [if_neg ht]
    exact List.intercalate_splitOn '/'

/-- The components of a text are the pieces that count. -/
theorem filter_between (t : Text) : (between t).filter isPart = (ofText t).parts := by
  unfold between
  by_cases ht : t = []
  · rw [if_pos ht, ht]
    rfl
  · rw [if_neg ht]
    rfl

/-- If the pieces of a text all count, they are its components. -/
theorem between_intercalate {parts : List Text}
    (hproper : ∀ part ∈ parts, isPart part = true ∧ '/' ∉ part) :
    between (['/'].intercalate parts) = parts := by
  by_cases hne : parts = []
  · subst hne
    rfl
  · have hsplit : (['/'].intercalate parts).splitOn '/' = parts :=
      List.splitOn_intercalate '/' (fun part hpart => (hproper part hpart).2) hne
    have htext : ['/'].intercalate parts ≠ [] := by
      -- The empty text would have an empty piece.
      intro hnil
      rw [hnil] at hsplit
      exact absurd (hproper [] (hsplit ▸ List.mem_cons_self)).1 (by decide)
    rw [between, if_neg htext, hsplit]

/-- A path is spelled by its pieces. -/
theorem toText_pieces (t : Text) : toText ⟨isAbsolute t, pieces t⟩ = t := by
  unfold toText pieces
  cases habsolute : isAbsolute t with
  | true =>
      obtain ⟨rest, rfl⟩ : ∃ rest, t = '/' :: rest :=
        List.head?_eq_some_iff.mp (of_decide_eq_true habsolute)
      simp [intercalate_between]
  | false => simp [intercalate_between]

/-- The components of a path are the pieces that count. -/
theorem parts_eq_filter_pieces (t : Text) : (ofText t).parts = (pieces t).filter isPart := by
  unfold pieces
  rw [filter_between]
  cases habsolute : isAbsolute t with
  | true =>
      obtain ⟨rest, rfl⟩ : ∃ rest, t = '/' :: rest :=
        List.head?_eq_some_iff.mp (of_decide_eq_true habsolute)
      exact parts_append_slash [] rest
  | false => rfl

/-- The pieces of a written path are its components. -/
theorem pieces_toText {p : Path} (hproper : p.IsProper) : pieces p.toText = p.parts := by
  obtain ⟨absolute, parts⟩ := p
  unfold pieces toText
  cases absolute with
  | true => exact between_intercalate hproper
  | false =>
      have hrelative : isAbsolute (['/'].intercalate parts) = false := isAbsolute_intercalate hproper
      simp only [Bool.false_eq_true, if_false, hrelative]
      exact between_intercalate hproper

/-- A slash at the end has an empty piece behind it. -/
theorem nil_mem_pieces {t : Text} (hlast : t.getLast? = some '/') (hroot : t ≠ ['/']) :
    [] ∈ pieces t := by
  have hbetween (front : Text) : [] ∈ between (front ++ ['/']) := by
    rw [between, if_neg (by simp), List.splitOn_append_cons_self]
    simp
  obtain ⟨front, rfl⟩ := List.getLast?_eq_some_iff.mp hlast
  cases front with
  | nil => exact absurd rfl hroot
  | cons c front =>
      unfold pieces
      split
      · exact hbetween front
      · exact hbetween (c :: front)

/-! ### Normal form -/

/-- A path in normal form. -/
structure IsNormal (t : Text) : Prop where
  /-- No piece is empty or `.`. -/
  piece_ne : ∀ piece ∈ pieces t, piece ≠ [] ∧ piece ≠ ['.']
  /-- There is no slash at the end, unless it is that of the root. -/
  eq_root : t.getLast? = some '/' → t = ['/']
  /-- Every `..` stands in front of all names, and an absolute path has none. -/
  ups : ∃ n names, pieces t = List.replicate n up ++ names ∧ up ∉ names ∧
    (isAbsolute t = true → n = 0)

/-- A folded path is written in normal form. -/
theorem isNormal_toText {p : Path} (hproper : p.IsProper) (hfolded : p.IsFolded) :
    IsNormal p.toText := by
  have hpieces := pieces_toText hproper
  have habsolute : isAbsolute p.toText = p.absolute := congrArg absolute (ofText_toText hproper)
  have hcounts : ∀ piece ∈ pieces p.toText, piece ≠ [] ∧ piece ≠ ['.'] := by
    intro piece hpiece
    have hpart := (hproper piece (hpieces ▸ hpiece)).1
    simpa [isPart] using hpart
  refine ⟨hcounts, ?_, ?_⟩
  · intro hlast
    apply Decidable.byContradiction
    intro hroot
    exact (hcounts [] (nil_mem_pieces hlast hroot)).1 rfl
  · rw [hpieces, habsolute]
    exact hfolded

/-- A path in normal form is left as it is, from the empty base, and from any base
if it is absolute. -/
theorem IsNormal.resolve_eq {t base : Text} (h : IsNormal t)
    (hbase : base = [] ∨ isAbsolute t = true) : resolve base t = t := by
  have hjoin : join base t = t := by
    rcases hbase with rfl | habsolute
    · simp [join]
    · rw [join, if_pos habsolute]
  -- All the pieces count, so they are the components, and there is nothing to fold.
  have hparts : (ofText t).parts = pieces t := by
    rw [parts_eq_filter_pieces, List.filter_eq_self]
    intro piece hpiece
    simpa [isPart] using h.piece_ne piece hpiece
  have hpath : ofText t = ⟨isAbsolute t, pieces t⟩ := by
    rw [← hparts]
    rfl
  have hfold : (ofText t).fold = ofText t := by
    rw [hpath]
    exact fold_of_isFolded h.ups
  rw [resolve, hjoin, hfold, hpath, toText_pieces]

end Path

/-! ### Walks -/

/-- A tree without links, as a walk meets it. Nothing is above or below a file. -/
structure Tree (Place : Type) where
  /-- Where absolute paths start. -/
  root : Place
  /-- Where `..` leads to. -/
  above? : Place → Option Place
  /-- Where a name leads to. -/
  below? : Place → Text → Option Place
  /-- At the root, `..` stays at the root. -/
  above?_root : above? root = some root
  /-- From where a name led to, `..` leads back. -/
  eq_of_below? : ∀ outer name inner, below? outer name = some inner →
    ∀ place, above? inner = some place → place = outer

namespace Tree

variable {Place : Type} (tree : Tree Place)

/-- Where a component leads to. -/
def step (place : Place) (part : Text) : Option Place :=
  if part = Path.up then tree.above? place else tree.below? place part

/-- Where the components of a path lead to. -/
def walk (place : Place) (p : Path) : Option Place :=
  p.parts.foldlM tree.step (if p.absolute then tree.root else place)

variable {tree} {absolute : Bool} {folded : List Text} {place between stop : Place}

/-- A walk over one component more takes one step more. -/
theorem walk_concat (parts : List Text) (part : Text) :
    tree.walk place ⟨absolute, parts ++ [part]⟩
      = (tree.walk place ⟨absolute, parts⟩).bind fun between => tree.step between part := by
  simp [walk, List.foldlM_append]

/-- If some components are folded, and one is added, they lead one step further. -/
theorem walk_push {part : Text} (hwalk : tree.walk place ⟨absolute, folded.reverse⟩ = some between)
    (hstep : tree.step between part = some stop) :
    tree.walk place ⟨absolute, (Path.push absolute folded part).reverse⟩ = some stop := by
  -- Where the component is kept, it is one more of them.
  have hkept : tree.walk place ⟨absolute, (part :: folded).reverse⟩ = some stop := by
    rw [List.reverse_cons, walk_concat, hwalk]
    exact hstep
  unfold Path.push
  by_cases hpart : part = Path.up
  · subst hpart
    rw [if_pos rfl]
    cases folded with
    | nil =>
        cases absolute with
        | true =>
            -- The walk is at the root, and stays there.
            obtain rfl : tree.root = between := Option.some.inj hwalk
            exact tree.above?_root.symm.trans hstep
        | false => exact hkept
    | cons last above =>
        by_cases hlast : last = Path.up
        · subst hlast
          simpa using hkept
        · -- The last name led to where the walk is, so `..` leads back.
          rw [List.reverse_cons, walk_concat, Option.bind_eq_some_iff] at hwalk
          obtain ⟨outer, houter, hname⟩ := hwalk
          rw [step, if_neg hlast] at hname
          have hback : stop = outer := tree.eq_of_below? _ _ _ hname _ hstep
          simp only [if_neg hlast, hback, houter]
  · rw [if_neg hpart]
    exact hkept

/-- So do any number of components. -/
theorem walk_foldl_push {parts : List Text}
    (hwalk : tree.walk place ⟨absolute, folded.reverse⟩ = some between)
    (hrest : parts.foldlM tree.step between = some stop) :
    tree.walk place ⟨absolute, (parts.foldl (Path.push absolute) folded).reverse⟩ = some stop := by
  induction parts generalizing folded between with
  | nil => rw [← hrest]; exact hwalk
  | cons part parts ih =>
      rw [List.foldlM_cons] at hrest
      obtain ⟨next, hstep, hrest⟩ := Option.bind_eq_some_iff.mp hrest
      exact ih (walk_push hwalk hstep) hrest

/-- A folded path leads where the path leads. -/
theorem walk_fold {p : Path} (hwalk : tree.walk place p = some stop) :
    tree.walk place p.fold = some stop := by
  have hnone : tree.walk place ⟨p.absolute, ([] : List Text).reverse⟩
      = some (if p.absolute then tree.root else place) := rfl
  exact walk_foldl_push hnone hwalk

/-- The tree in which every name leads on. A place is the names that lead to it. -/
def ofNames : Tree (List Text) where
  root := []
  above? := fun place => some place.dropLast
  below? := fun place name => some (place ++ [name])
  above?_root := rfl
  eq_of_below? := by
    intro outer name inner hinner place hplace
    obtain rfl := Option.some.inj hinner
    simpa using hplace.symm

end Tree

namespace Path

/-! ### Resolved paths -/

/-- What `resolve` makes of a base and a file. It is in normal form, and absolute
if one of the two is. In any tree without links it leads to where the joined path
leads to, if that leads anywhere: folding leaves out steps on which the joined path
may fail. And it is not changed by resolving it again. -/
theorem resolve_normal_form (base file : Text) :
    IsNormal (resolve base file) ∧
    (isAbsolute (resolve base file) = true ↔ isAbsolute base = true ∨ isAbsolute file = true) ∧
    (∀ (Place : Type) (tree : Tree Place) (place stop : Place),
      tree.walk place (ofText (join base file)) = some stop →
      tree.walk place (ofText (resolve base file)) = some stop) ∧
    resolve [] (resolve base file) = resolve base file ∧
    (isAbsolute (resolve base file) = true →
      ∀ base', resolve base' (resolve base file) = resolve base file) := by
  have hnormal : IsNormal (resolve base file) :=
    isNormal_toText (isProper_ofText _).fold (isFolded_fold _)
  refine ⟨hnormal, ?_, ?_, ?_, ?_⟩
  · have habsolute : isAbsolute (resolve base file) = (ofText (join base file)).absolute :=
      congrArg absolute (ofText_resolve base file)
    rw [habsolute, ofText_join]
    cases hfile : isAbsolute file with
    | true => simp [ofText, hfile]
    | false => simp
  · intro Place tree place stop hwalk
    rw [ofText_resolve]
    exact tree.walk_fold hwalk
  · exact hnormal.resolve_eq (.inl rfl)
  · intro habsolute base'
    exact hnormal.resolve_eq (.inr habsolute)

/-- `resolve_normal_form` where `..` leads out of the base and, higher up, stays at
the root. -/
theorem resolve_normal_form_above :
    resolve "a//b/.".toList "../../../c/./d/../".toList = "../c".toList ∧
    IsNormal "../c".toList ∧
    Tree.ofNames.walk ["x".toList, "y".toList]
      (ofText (join "a//b/.".toList "../../../c/./d/../".toList))
        = some ["x".toList, "c".toList] ∧
    Tree.ofNames.walk ["x".toList, "y".toList] (ofText "../c".toList)
      = some ["x".toList, "c".toList] ∧
    resolve "/ws".toList "../../c".toList = "/c".toList ∧
    isAbsolute "/c".toList = true ∧
    resolve "pkg".toList "/c".toList = "/c".toList := by
  have hrelative : resolve "a//b/.".toList "../../../c/./d/../".toList = "../c".toList := by decide
  have habsolute : resolve "/ws".toList "../../c".toList = "/c".toList := by decide
  have hjoined : Tree.ofNames.walk ["x".toList, "y".toList]
      (ofText (join "a//b/.".toList "../../../c/./d/../".toList))
        = some ["x".toList, "c".toList] := by decide
  obtain ⟨hnormal, -, hwalk, -⟩ :=
    resolve_normal_form "a//b/.".toList "../../../c/./d/../".toList
  obtain ⟨-, -, -, -, hagain⟩ := resolve_normal_form "/ws".toList "../../c".toList
  have hresolved := hwalk _ Tree.ofNames ["x".toList, "y".toList] _ hjoined
  rw [hrelative] at hnormal hresolved
  rw [habsolute] at hagain
  exact ⟨hrelative, hnormal, hjoined, hresolved, habsolute, by decide, hagain (by decide) _⟩

end Path

end GoXref
