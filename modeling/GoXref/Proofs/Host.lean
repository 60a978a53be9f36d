import GoXref.Host
import GoXref.Proofs.Path
import GoXref.Proofs.Text.Utf8

/-!
# `GoXref.Proofs.Host`: documents that can be opened

A document is opened from a file, which is found by walking the tree.

* `openDocument_eq_ok_iff`: the text of a document is the one whose octets the
  file holds.
* `parts_ne_nil_of_openDocument`: its path names something below the root,
  because the root is a directory, and a directory is not read.
-/

set_option autoImplicit false

namespace GoXref

/-- From a directory, pieces that are no components lead nowhere else. -/
theorem FileTree.walk_of_parts_eq_nil {tree : FileTree} {place : List Text} {pieces : List Text}
    (hplace : tree.node? place = some .directory) (hpieces : pieces.filter Path.isPart = []) :
    tree.walk place pieces = .ok place := by
  induction pieces with
  | nil => rfl
  | cons piece pieces ih =>
      rw [List.filter_eq_nil_iff, List.forall_mem_cons] at hpieces
      have hstep : tree.step place piece = .ok place := by
        simp only [step, hplace, hpieces.1]
        rfl
      rw [walk, List.foldlM_cons, hstep]
      exact ih (List.filter_eq_nil_iff.mpr hpieces.2)

namespace Host

variable {h : Host} {path : Text}

/-! ### Files -/

/-- What can be read is there, and no directory. -/
theorem exists_find_of_read {content : Bytes} (hread : h.read path = .ok content) :
    ∃ node, h.find path = .ok node ∧ node ≠ .directory := by
  unfold read at hread
  split at hread
  · exact nomatch hread
  · split at hread
    · exact nomatch hread
    · exact nomatch hread
    · rename_i hfind
      exact ⟨_, hfind, by simp⟩
    · rename_i hfind
      exact ⟨_, hfind, by simp⟩

/-- A path that names nothing below the root leads to the root. -/
theorem eq_directory_of_find {node : Node} (hroot : h.tree.node? [] = some .directory)
    (habsolute : Path.isAbsolute path = true) (hparts : (Path.ofText path).parts = [])
    (hfind : h.find path = .ok node) : node = .directory := by
  have hwalk := FileTree.walk_of_parts_eq_nil hroot hparts
  unfold find origin at hfind
  simp only [habsolute, if_true, hwalk, hroot] at hfind
  split at hfind
  · exact nomatch hfind
  · split at hfind
    · exact nomatch hfind
    · exact (Except.ok.inj hfind).symm

/-! ### Documents -/

/-- A file that can be read is opened exactly as the text that its octets are
those of. -/
theorem openDocument_eq_ok_iff {content : Bytes} (hread : h.read path = .ok content)
    {d : Document} :
    h.openDocument path = .ok d ↔ d.path = path ∧ Utf8.encode d.text = content := by
  simp only [openDocument, hread]
  rw [← Utf8.decode_eq_ok_iff]
  cases hdecode : Utf8.decode content with
  | error e => simp
  | ok t =>
      obtain ⟨path', text⟩ := d
      simp [eq_comm]

/-- A file that can be read is opened exactly if its octets are those of a
text. -/
theorem exists_openDocument_iff {content : Bytes} (hread : h.read path = .ok content) :
    (∃ d, h.openDocument path = .ok d) ↔ ∃ t, Utf8.encode t = content := by
  constructor
  · rintro ⟨d, hopen⟩
    exact ⟨d.text, ((openDocument_eq_ok_iff hread).mp hopen).2⟩
  · rintro ⟨t, hencode⟩
    exact ⟨⟨path, t⟩, (openDocument_eq_ok_iff hread).mpr ⟨rfl, hencode⟩⟩

/-- A document that is opened has the path it is opened at, and its file can be
read. -/
theorem exists_read_of_openDocument {d : Document} (hopen : h.openDocument path = .ok d) :
    d.path = path ∧ ∃ content, h.read path = .ok content := by
  unfold openDocument at hopen
  split at hopen
  · exact nomatch hopen
  · split at hopen
    · exact nomatch hopen
    · obtain rfl := Except.ok.inj hopen
      exact ⟨rfl, _, ‹_›⟩

/-- The absolute path of a document names something below the root, because the
root is a directory. -/
theorem parts_ne_nil_of_openDocument {d : Document} (hroot : h.tree.node? [] = some .directory)
    (habsolute : Path.isAbsolute path = true) (hopen : h.openDocument path = .ok d) :
    (Path.ofText path).parts ≠ [] := by
  intro hparts
  obtain ⟨-, content, hread⟩ := exists_read_of_openDocument hopen
  obtain ⟨node, hfind, hnode⟩ := exists_find_of_read hread
  exact hnode (eq_directory_of_find hroot habsolute hparts hfind)

/-- The path of the current directory is absolute. -/
theorem isAbsolute_currentPath (h : Host) : Path.isAbsolute h.currentPath = true :=
  Path.isAbsolute_toText rfl

/-- It is the only one that the machine gives for the current directory. -/
theorem eq_currentPath_of_current {directory : Text} (hcurrent : h.current = .ok directory) :
    directory = h.currentPath := by
  unfold current at hcurrent
  split at hcurrent
  · exact (Except.ok.inj hcurrent).symm
  · exact nomatch hcurrent

end Host

end GoXref
