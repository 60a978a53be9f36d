import GoXref.Proofs.Host

/-!
# `GoXref.Proofs.Host.CurrentPath`: a relative path and its full path

A relative path is walked from the current directory. Its full path is walked
from the root, first to the current directory, and then on in the same way. So
both lead to the same file, unless the full path is too long for the system.

* `Host.Settled`: the current directory is there.
* `walk_splitOn_join`: the two walks.
* `read_join`: the same is read at both paths.
* `openDocument_join`: the same document is opened, or opening fails in the same
  way.
-/

set_option autoImplicit false

namespace GoXref

/-! ### Walks -/

namespace FileTree

variable {t : FileTree} {place place' : List Text}

/-- One walk after another. -/
theorem walk_append {pieces : List Text} (hwalk : t.walk place pieces = .ok place')
    (rest : List Text) : t.walk place (pieces ++ rest) = t.walk place' rest := by
  have happend : t.walk place (pieces ++ rest)
      = t.walk place pieces >>= fun place => t.walk place rest := List.foldlM_append
  rw [happend, hwalk]
  rfl

/-- A walk over one piece is a step. -/
theorem walk_singleton (piece : Text) : t.walk place [piece] = t.step place piece := bind_pure _

/-- An empty piece leads nowhere else. -/
theorem eq_of_step_nil (hstep : t.step place [] = .ok place') : place = place' := by
  unfold step at hstep
  split at hstep
  · exact nomatch hstep
  · exact Except.ok.inj hstep
  · exact nomatch hstep

/-- So a walk that goes through can leave it out. -/
theorem walk_of_walk_append_nil {pieces : List Text}
    (hwalk : t.walk place (pieces ++ [[]]) = .ok place') : t.walk place pieces = .ok place' := by
  cases hpieces : t.walk place pieces with
  | error e =>
      have happend : t.walk place (pieces ++ [[]])
          = t.walk place pieces >>= fun place => t.walk place [[]] := List.foldlM_append
      rw [happend, hpieces] at hwalk
      exact nomatch hwalk
  | ok last =>
      rw [walk_append hpieces, walk_singleton] at hwalk
      rw [eq_of_step_nil hwalk]

end FileTree

namespace Host

/-- The current directory is there, and its path leads to it. -/
structure Settled (h : Host) : Prop where
  /-- A directory is there. -/
  isDirectory : h.tree.node? h.directory = some .directory
  /-- It is where the path leads from the root. -/
  walk : h.tree.walk [] (h.currentPath.splitOn '/') = .ok h.directory

variable {h : Host} {path : Text}

/-- So the machine can say what the path is. -/
theorem Settled.current (hsettled : h.Settled) : h.current = .ok h.currentPath :=
  if_pos hsettled.isDirectory

/-- The full path of a relative path leads from the root to where the relative
path leads from the current directory. -/
theorem walk_splitOn_join (hsettled : h.Settled) (hrelative : Path.isAbsolute path = false) :
    h.tree.walk [] ((Path.join h.currentPath path).splitOn '/')
      = h.tree.walk h.directory (path.splitOn '/') := by
  have hne : h.currentPath ≠ [] := Path.ne_nil_of_isAbsolute h.isAbsolute_currentPath
  obtain hjoin | ⟨front, hfront, hjoin⟩ := Path.join_cases hne hrelative
  · rw [hjoin, List.splitOn_append_cons_self]
    exact FileTree.walk_append hsettled.walk _
  · -- The slash is the last of the current path, so an empty piece stands behind it.
    have hwalk := hsettled.walk
    rw [hfront, List.splitOn_append_cons_self] at hwalk
    rw [hjoin, List.splitOn_append_cons_self]
    exact FileTree.walk_append (FileTree.walk_of_walk_append_nil hwalk) _

/-! ### Full paths -/

/-- Whether a path can be given in full: it is in full, or its full path is not
too long for the system. -/
def InReach (h : Host) (path : Text) : Prop :=
  Path.isAbsolute path = true ∨ Utf8.size (Path.join h.currentPath path) < pathLimit

instance (h : Host) (path : Text) : Decidable (h.InReach path) :=
  inferInstanceAs (Decidable (_ ∨ _))

/-- A path and its full path lead to the same. -/
theorem find_join (hsettled : h.Settled) (hne : path ≠ []) (hreach : h.InReach path) :
    h.find (Path.join h.currentPath path) = h.find path := by
  cases habsolute : Path.isAbsolute path with
  | true => rw [Path.join, if_pos habsolute]
  | false =>
      have hfull : Utf8.size (Path.join h.currentPath path) < pathLimit := by
        rw [InReach, habsolute] at hreach
        exact hreach.resolve_left Bool.false_ne_true
      have hsize : Utf8.size path ≤ Utf8.size (Path.join h.currentPath path) := by
        obtain ⟨front, hfront⟩ := Path.isSuffix_join h.currentPath path
        rw [← hfront, Utf8.size_append]
        exact Nat.le_add_left _ _
      have hjoin : Path.isAbsolute (Path.join h.currentPath path) = true :=
        Path.isAbsolute_join h.isAbsolute_currentPath path
      unfold find origin
      rw [if_neg (Path.ne_nil_of_isAbsolute hjoin), if_neg (Nat.not_le.mpr hfull), if_pos hjoin,
        if_neg hne, if_neg (Nat.not_le.mpr (Nat.lt_of_le_of_lt hsize hfull)),
        if_neg (ne_true_of_eq_false habsolute), walk_splitOn_join hsettled habsolute]

/-- A file has the same content at either path. -/
theorem read_join (hsettled : h.Settled) (hnul : '\x00' ∉ h.currentPath) (hne : path ≠ [])
    (hreach : h.InReach path) : h.read (Path.join h.currentPath path) = h.read path := by
  have hcontains : (Path.join h.currentPath path).contains '\x00' = path.contains '\x00' := by
    rw [Bool.eq_iff_iff, List.contains_iff_mem, List.contains_iff_mem]
    exact Path.mem_join_iff (by decide) hnul path
  unfold read
  rw [hcontains, find_join hsettled hne hreach]

/-- What opening a file comes to, at whichever path it is read: a document with
the same text, or a fault of the same kind. -/
theorem openDocument_of_read_eq {path' : Text} (hread : h.read path' = h.read path) :
    (∃ text, h.openDocument path = .ok ⟨path, text⟩ ∧ h.openDocument path' = .ok ⟨path', text⟩) ∨
      ∃ fault fault', h.openDocument path = .error fault ∧ h.openDocument path' = .error fault' ∧
        fault'.kind = fault.kind := by
  unfold openDocument
  rw [hread]
  cases h.read path with
  | error cause => exact .inr ⟨_, _, rfl, rfl, rfl⟩
  | ok content =>
      cases hdecode : Utf8.decode content with
      | error e =>
          exact .inr ⟨.notText e, .notText e, by simp only [hdecode], by simp only [hdecode], rfl⟩
      | ok text => exact .inl ⟨text, by simp only [hdecode], by simp only [hdecode]⟩

/-- A file that is not opened is not read, or not text. -/
theorem kind_of_openDocument {fault : Fault} (hopen : h.openDocument path = .error fault) :
    fault.kind = "Io".toList ∨ fault.kind = "Utf8".toList := by
  unfold openDocument at hopen
  split at hopen
  · obtain rfl := Except.error.inj hopen
    exact .inl rfl
  · split at hopen
    · obtain rfl := Except.error.inj hopen
      exact .inr rfl
    · exact nomatch hopen

/-- At a full path out of reach there is nothing to be read. -/
theorem openDocument_join_of_not_inReach (hreach : ¬ h.InReach path) :
    ∃ cause, h.openDocument (Path.join h.currentPath path)
      = .error (.io (Path.join h.currentPath path) cause) := by
  rw [InReach, not_or, Nat.not_lt] at hreach
  have hne : Path.join h.currentPath path ≠ [] :=
    Path.ne_nil_of_isAbsolute (Path.isAbsolute_join h.isAbsolute_currentPath path)
  have hread : ∃ cause, h.read (Path.join h.currentPath path) = .error cause := by
    unfold read find
    rw [if_neg hne, if_pos hreach.2]
    split
    · exact ⟨_, rfl⟩
    · exact ⟨_, rfl⟩
  obtain ⟨cause, hcause⟩ := hread
  exact ⟨cause, by rw [openDocument, hcause]⟩

end Host

end GoXref
