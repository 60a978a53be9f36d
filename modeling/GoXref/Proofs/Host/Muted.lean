import GoXref.Search
import GoXref.Settings

/-!
# `GoXref.Proofs.Host.Muted`: how a program ends makes no difference to its answer

Programs are muted: each one prints what it did on its standard output, and
nothing on its standard error, and it ends as if all was well. Files and
programs are still where they were, and the search tool still gives the same
answer, after a run with the same arguments. Two machines that are the same
when muted differ in no more than what this takes away.

* `Host.muted`: the muted machine.
* `current_muted`: the current directory.
* `find_muted`: what lies at a path, by one lemma for each step on the way.
* `run_muted`: what a program leaves behind.
* `outcome_search_muted`: the answer of the search tool.
-/

set_option autoImplicit false

namespace GoXref

/-- A run that says nothing on the standard error and ends as if all was
well. -/
def Run.muted (r : Run) : Run := ⟨r.stdout, [], .exited 0⟩

/-- A node whose runs are muted. -/
def Node.muted : Node → Node
  | .program content run => .program content run.muted
  | node => node

/-! ### Files -/

namespace FileTree

/-- A tree whose programs are muted. -/
def muted (t : FileTree) : FileTree := ⟨t.leaves.map fun leaf => (leaf.1, leaf.2.muted)⟩

variable (t : FileTree) (place : List Text)

/-- There is the same at a place, but muted. -/
theorem node?_muted : t.muted.node? place = (t.node? place).map Node.muted := by
  unfold node? muted
  simp only [List.find?_map, List.any_map, Function.comp_def]
  cases t.leaves.find? fun leaf => decide (leaf.1 = place) with
  | some leaf => rfl
  | none =>
      -- No leaf is there, so there is a directory or nothing.
      simp only [Option.map_none]
      split
      · rfl
      · rfl

/-- A directory stays one, and nothing else becomes one. -/
theorem node?_muted_eq_directory_iff :
    t.muted.node? place = some .directory ↔ t.node? place = some .directory := by
  rw [node?_muted]
  cases t.node? place with
  | none => simp
  | some node => cases node <;> simp [Node.muted]

/-- A piece of a path leads to the same place. -/
theorem step_muted (piece : Text) : t.muted.step place piece = t.step place piece := by
  unfold step
  rw [node?_muted, node?_muted, Option.isSome_map]
  cases t.node? place with
  | none => rfl
  | some node => cases node <;> rfl

/-- A path leads to the same place. -/
theorem walk_muted (pieces : List Text) : t.muted.walk place pieces = t.walk place pieces := by
  have hstep : t.muted.step = t.step := by
    funext place piece
    exact step_muted t place piece
  rw [walk, walk, hstep]

end FileTree

namespace Host

/-- The machine with its programs muted. -/
def muted (h : Host) : Host := { h with tree := h.tree.muted }

variable (h : Host) (path : Text)

/-- The current directory is still there, or still gone. -/
theorem current_muted : h.muted.current = h.current := by
  have hiff : h.muted.tree.node? h.muted.directory = some .directory
      ↔ h.tree.node? h.directory = some .directory := FileTree.node?_muted_eq_directory_iff _ _
  unfold current
  by_cases hthere : h.tree.node? h.directory = some .directory
  · rw [if_pos hthere, if_pos (hiff.mpr hthere)]
    rfl
  · rw [if_neg hthere, if_neg (mt hiff.mp hthere)]

/-- The same lies at a path, but muted. -/
theorem find_muted : h.muted.find path = (h.find path).map Node.muted := by
  unfold find
  split
  · rfl
  split
  · rfl
  have hwalk : h.muted.tree.walk (h.muted.origin path) (path.splitOn '/')
      = h.tree.walk (h.origin path) (path.splitOn '/') := FileTree.walk_muted _ _ _
  rw [hwalk]
  cases h.tree.walk (h.origin path) (path.splitOn '/') with
  | error e => rfl
  | ok place =>
      have hnode : h.muted.tree.node? place = (h.tree.node? place).map Node.muted :=
        FileTree.node?_muted _ _
      simp only [hnode]
      cases h.tree.node? place with
      | none => rfl
      | some node => rfl

/-- A file has the same content. -/
theorem read_muted : h.muted.read path = h.read path := by
  unfold read
  rw [find_muted]
  cases h.find path with
  | error e => rfl
  | ok node => cases node <;> rfl

/-- A file is the same document. -/
theorem openDocument_muted : h.muted.openDocument path = h.openDocument path := by
  rw [openDocument, read_muted, openDocument]

/-! ### Programs -/

/-- There is a program where there was one. -/
theorem isProgram_muted : h.muted.isProgram path = h.isProgram path := by
  unfold isProgram
  rw [find_muted]
  cases h.find path with
  | error e => rfl
  | ok node => cases node <;> rfl

/-- The search by name ends at the same path. -/
theorem findProgram?_muted (name : Text) : h.muted.findProgram? name = h.findProgram? name := by
  have hprogram : h.muted.isProgram = h.isProgram := funext h.isProgram_muted
  unfold findProgram?
  rw [hprogram]
  rfl

/-- The file at a path runs as it did, but muted. -/
theorem start_muted : h.muted.start path = (h.start path).map Run.muted := by
  unfold start
  rw [find_muted]
  cases h.find path with
  | error e => rfl
  | ok node => cases node <;> rfl

/-- The same one of some candidates is started. -/
theorem startFirst_muted (last : SystemError) (candidates : List Text) :
    h.muted.startFirst last candidates = (h.startFirst last candidates).map Run.muted := by
  induction candidates generalizing last with
  | nil => rfl
  | cons path rest ih =>
      rw [startFirst, startFirst, start_muted]
      cases h.start path with
      | ok run => rfl
      | error e =>
          simp only [Except.map]
          split
          · exact ih e
          · split
            · exact ih _
            · rfl

/-- The same program is started. -/
theorem launch_muted (program : Text) :
    h.muted.launch program = (h.launch program).map Run.muted := by
  unfold launch
  split
  · exact start_muted h program
  · exact startFirst_muted h _ _

/-- A program runs as it did, but muted. -/
theorem run_muted (program : Text) (arguments : List Text) :
    h.muted.run program arguments = (h.run program arguments).map Run.muted := by
  unfold run
  split
  · rfl
  · rw [launch_muted]
    cases h.launch program with
    | error e => rfl
    | ok run =>
        simp only [Except.map]
        split <;> rfl

/-! ### The search tool -/

/-- The search tool is at the same path. -/
theorem executable_muted (s : Settings) : s.executable h.muted = s.executable h := by
  unfold Settings.executable
  rw [findProgram?_muted]

/-- The search tool gives the same answer. -/
theorem outcome_search_muted (program : Text) (q : Query) :
    (h.muted.search program q).outcome = (h.search program q).outcome := by
  unfold search
  rw [run_muted]
  cases h.run program q.arguments with
  | ok run => rfl
  | error cause => rfl

end Host

end GoXref
