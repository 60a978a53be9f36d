import GoXref.Program
import GoXref.Proofs.Finder.Found
import GoXref.Proofs.Host

/-!
# `GoXref.Proofs.Program.Run`: a run of the program and its command

The arguments of a run name a command. What the run leaves behind follows from
the answer of the command. A search is a request for its subject: the document at
the full path of its file, in a workspace.

* `Finder.query?_find`: the query that a request puts to the tool.
* `Program.run_eq`, `Program.exit_run`: a run, and its exit status.
* `Program.FailsAs`: the kind of fault that a command fails with.
* `Program.find_of_subject`, `Program.find_of_no_subject`: a search, if it has a
  subject and if it has none.
* `Program.exists_of_subject`, `Program.subject_eq`: the paths of a subject.
-/

set_option autoImplicit false

namespace GoXref

/-- The query of a report is that of a request, if there is one. -/
theorem Finder.query?_find (f : Finder) (d : Document) (r : Request) :
    (f.find d r).query? = f.query? d r := by
  have hcalls : (f.find d r).query? = (f.find d r).calls.findSome? Call.query? := rfl
  rw [hcalls, ← List.head?_filterMap, queries_find]
  cases f.query? d r <;> rfl

namespace Program

variable {h : Host} {t : Target} {o : FindOptions}

/-! ### Runs -/

section
variable {arguments : List Text} {verbose : Bool} {c : Command}

/-- A run carries out the command that its arguments name. -/
theorem run_eq (harguments : Invocation.ofArguments arguments = .ok ⟨verbose, c⟩) :
    run h arguments = { Outcome.ofReport (isJson c) (execute h c).answer
      (log h verbose (execute h c).events) with ran? := ran? h c } := by
  rw [run, harguments]

/-- The exit status tells whether the command failed, and the tool is run as far as
the command comes to it. -/
theorem exit_run (harguments : Invocation.ofArguments arguments = .ok ⟨verbose, c⟩) :
    ((run h arguments).exit = 0 ↔ ∃ output, (execute h c).answer = .ok output) ∧
      ((run h arguments).exit = 1 ↔ ∃ fault, (execute h c).answer = .error fault) ∧
      (run h arguments).ran? = ran? h c := by
  rw [run_eq harguments]
  cases (execute h c).answer with
  | ok output => exact ⟨⟨fun _ => ⟨output, rfl⟩, fun _ => rfl⟩, ⟨nofun, nofun⟩, rfl⟩
  | error fault =>
      refine ⟨⟨?_, nofun⟩, ⟨fun _ => ⟨fault, rfl⟩, fun _ => ?_⟩, rfl⟩
      · cases isJson c <;> exact nofun
      · cases isJson c <;> rfl

end

/-! ### Faults -/

/-- Whether a command fails with a fault of a kind. -/
def FailsAs (report : Report Text) (kind : Text) : Prop :=
  ∃ fault, report.answer = .error fault ∧ fault.kind = kind

/-- A command that fails, fails as its fault says. -/
theorem failsAs_iff {report : Report Text} {fault : Fault} (hfault : report.answer = .error fault)
    (kind : Text) : FailsAs report kind ↔ fault.kind = kind := by
  constructor
  · rintro ⟨fault', hfault', rfl⟩
    rw [Except.error.inj (hfault.symm.trans hfault')]
  · exact fun hkind => ⟨fault, hfault, hkind⟩

/-! ### Searches -/

/-- A search without a subject fails for what keeps it from having one. -/
theorem find_of_no_subject {fault : Fault} (hsubject : subject h t o = .error fault) :
    find h t o = ⟨.error fault, []⟩ := by
  rw [find, hsubject]

/-- A search with a subject makes a request: it puts the answer into its format, shows
the messages, and puts the query to the tool. -/
theorem find_of_subject {d : Document} {root : Text} (hsubject : subject h t o = .ok (d, root)) :
    (find h t o).answer
        = ((finder h t o root).find d ⟨t.position, o.includeDeclaration⟩).answer.map
            (rendering o.json) ∧
      (find h t o).notices
        = ((finder h t o root).find d ⟨t.position, o.includeDeclaration⟩).notices ∧
      (find h t o).query?
        = (finder h t o root).query? d ⟨t.position, o.includeDeclaration⟩ := by
  rw [← Finder.query?_find]
  rw [find, hsubject]
  exact ⟨rfl, rfl, rfl⟩

/-! ### Subjects -/

/-- A computation in two parts goes through if both do. -/
theorem exists_of_bind_eq_ok {α β : Type} {first : Except Fault α} {next : α → Except Fault β}
    {value : β} (hbind : first >>= next = .ok value) :
    ∃ a, first = .ok a ∧ next a = .ok value := by
  cases first with
  | error fault => exact nomatch hbind
  | ok a => exact ⟨a, rfl, hbind⟩

/-- The current directory, if it is there. -/
theorem eq_currentPath_of_currentDirectory {directory : Text}
    (hdirectory : currentDirectory h = .ok directory) : directory = h.currentPath := by
  unfold currentDirectory at hdirectory
  split at hdirectory
  · rename_i path hcurrent
    rw [← Except.ok.inj hdirectory]
    exact Host.eq_currentPath_of_current hcurrent
  · exact nomatch hdirectory

/-- A path in full is absolute. -/
theorem isAbsolute_of_inFull {path full : Text} (hfull : inFull h path = .ok full) :
    Path.isAbsolute full = true := by
  unfold inFull at hfull
  split at hfull
  · rename_i habsolute
    rw [← Except.ok.inj hfull]
    exact habsolute
  · cases hdirectory : currentDirectory h with
    | error fault =>
        rw [hdirectory] at hfull
        exact nomatch hfull
    | ok directory =>
        rw [hdirectory, eq_currentPath_of_currentDirectory hdirectory] at hfull
        rw [← Except.ok.inj hfull]
        exact Path.isAbsolute_join h.isAbsolute_currentPath path

/-- The document of a search is opened at an absolute path. -/
theorem exists_of_subject {d : Document} {root : Text} (hsubject : subject h t o = .ok (d, root)) :
    ∃ path, Path.isAbsolute path = true ∧ h.openDocument path = .ok d := by
  obtain ⟨path, hfull, hrest⟩ := exists_of_bind_eq_ok hsubject
  obtain ⟨d', hopen, hrest⟩ := exists_of_bind_eq_ok hrest
  obtain ⟨root', -, hpair⟩ := exists_of_bind_eq_ok hrest
  obtain ⟨rfl, -⟩ := Prod.mk.inj (Except.ok.inj hpair)
  exact ⟨path, isAbsolute_of_inFull hfull, hopen⟩

/-- The full path of the file of a target, below the path of the current directory. -/
def fullPath (h : Host) (t : Target) : Text := Path.join h.currentPath t.file

/-- The full path of the root of the workspace. -/
def rootPath (h : Host) (o : FindOptions) : Text :=
  match o.root? with
  | some root => Path.join h.currentPath root
  | none => h.currentPath

/-- If the current directory is there, a search is about the document and the root at these
paths. -/
theorem subject_eq (hcurrent : h.current = .ok h.currentPath) :
    subject h t o = (h.openDocument (fullPath h t)).map fun d => (d, rootPath h o) := by
  have hfull (path : Text) : inFull h path = .ok (Path.join h.currentPath path) := by
    unfold inFull currentDirectory Path.join
    rw [hcurrent]
    split
    · rfl
    · rfl
  have hroot : root h o = .ok (rootPath h o) := by
    unfold root rootPath
    cases o.root? with
    | some root => exact hfull root
    | none => rw [currentDirectory, hcurrent]
  rw [subject, hfull, hroot]
  show (h.openDocument (fullPath h t) >>= fun d => pure (d, rootPath h o)) = _
  cases h.openDocument (fullPath h t) with
  | error fault => rfl
  | ok d => rfl

end Program

end GoXref
