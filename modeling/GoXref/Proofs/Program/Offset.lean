import GoXref.Proofs.Document.Order
import GoXref.Proofs.Host.CurrentPath
import GoXref.Proofs.Host.Run
import GoXref.Proofs.Path.Drive
import GoXref.Proofs.Program.Run

/-!
# `GoXref.Proofs.Program.Offset`: the offset that is printed and handed on

One command prints the offset of a position, and the other hands it to the
search tool. They open the file in two ways: the first at its path as it is
given, the second at its full path. Both come to the same offset, or to a fault
of the same kind, unless the full path is too long for the system.

* `Host.Sound`: what holds of every machine that runs a program.
* `Program.answer_offset_cases`: what there is to print, whatever the path.
* `Program.offset_cases`: both commands side by side, step by step.
* `Program.HandedOn`: what their runs have to do with each other.
* `offset_handed_on`: they have, within the limits of the system.
-/

set_option autoImplicit false

namespace GoXref

/-! ### Machines -/

/-- The octets of a file or a program, none of a directory. -/
def Node.content : Node → Bytes
  | .directory => []
  | .file content => content
  | .program content _ => content

/-- What holds of every machine that runs a program: it runs in a directory that
is there, no path holds a NUL character, and 64 bits count the octets of a
file. -/
structure Host.Sound (h : Host) : Prop where
  /-- The path of the current directory leads to it. -/
  settled : h.Settled
  /-- It holds no NUL character. -/
  nul_notMem : '\x00' ∉ h.currentPath
  /-- The octets of every file can be counted. -/
  length_lt : ∀ leaf ∈ h.tree.leaves, leaf.2.content.length < 2 ^ 64

/-- What lies at a place is a directory, or a leaf of the tree. -/
theorem FileTree.exists_leaf_of_node? {tree : FileTree} {place : List Text} {node : Node}
    (hnode : tree.node? place = some node) (hne : node ≠ .directory) :
    ∃ leaf ∈ tree.leaves, leaf.2 = node := by
  unfold node? at hnode
  split at hnode
  · rename_i leaf hleaf
    exact ⟨leaf, List.mem_of_find?_eq_some hleaf, Option.some.inj hnode⟩
  · split at hnode
    · exact absurd (Option.some.inj hnode).symm hne
    · exact nomatch hnode

/-- What is read is what some leaf of the tree holds. -/
theorem Host.exists_leaf_of_read {h : Host} {path : Text} {content : Bytes}
    (hread : h.read path = .ok content) : ∃ leaf ∈ h.tree.leaves, leaf.2.content = content := by
  have hfind : ∃ node, h.find path = .ok node ∧ node ≠ .directory ∧ node.content = content := by
    unfold read at hread
    split at hread
    · exact nomatch hread
    · split at hread
      · exact nomatch hread
      · exact nomatch hread
      · rename_i content' hfile
        exact ⟨.file content', hfile, nofun, Except.ok.inj hread⟩
      · rename_i content' run hprogram
        exact ⟨.program content' run, hprogram, nofun, Except.ok.inj hread⟩
  obtain ⟨node, hfind, hne, rfl⟩ := hfind
  unfold find at hfind
  split at hfind
  · exact nomatch hfind
  split at hfind
  · exact nomatch hfind
  split at hfind
  · exact nomatch hfind
  split at hfind
  · rename_i hnode
    obtain rfl := Except.ok.inj hfind
    obtain ⟨leaf, hleaf, heq⟩ := FileTree.exists_leaf_of_node? hnode hne
    exact ⟨leaf, hleaf, congrArg Node.content heq⟩
  · exact nomatch hfind

/-- The offset of a position in a file is a number that 64 bits can name: it does
not go beyond the octets of the file. -/
theorem Host.Sound.offset_lt {h : Host} (hsound : h.Sound) {d : Document} {path : Text}
    (hopen : h.openDocument path = .ok d) {unit : OffsetUnit} {p : Position} {n : Nat}
    (hoffset : d.offset? unit p = some n) : n < 2 ^ 64 := by
  obtain ⟨-, content, hread⟩ := exists_read_of_openDocument hopen
  obtain ⟨leaf, hleaf, hcontent⟩ := exists_leaf_of_read hread
  have hencode : Utf8.encode d.text = content := ((openDocument_eq_ok_iff hread).mp hopen).2
  rw [Document.offset?_eq_measure] at hoffset
  obtain ⟨before, hbefore, rfl⟩ := Option.map_eq_some_iff.mp hoffset
  have hmeasure : unit.measure d.text ≤ Utf8.size d.text := by
    cases unit with
    | characters => exact Utf8.length_le_size d.text
    | octets => exact Nat.le_refl _
  calc unit.measure before ≤ unit.measure d.text :=
        OffsetUnit.measure_le_of_isPrefix unit (Document.before?_isPrefix hbefore)
    _ ≤ Utf8.size d.text := hmeasure
    _ = leaf.2.content.length := by rw [hcontent, ← hencode, Utf8.size]
    _ < 2 ^ 64 := hsound.length_lt leaf hleaf

namespace Program

variable {h : Host} {t : Target} {o : FindOptions}

/-! ### The two commands -/

/-- The offset that a command prints is that of the document at its path as it is
given. -/
theorem offset_of_open {d : Document} (hopen : h.openDocument t.file = .ok d) :
    (offset h t).answer = (d.offset t.unit t.position).map Text.decimal := by
  rw [offset, hopen]

/-- A search whose tool fails, fails as the tool does. -/
theorem answer_find_of_tool {q : Query} {fault : Fault} (hquery : (find h t o).query? = some q)
    (hfault : (tool h t o q).outcome = .error fault) : (find h t o).answer = .error fault := by
  cases hsubject : subject h t o with
  | error cause =>
      rw [find_of_no_subject hsubject] at hquery
      exact nomatch hquery
  | ok about =>
      obtain ⟨d, root⟩ := about
      obtain ⟨hanswer, -, hquery'⟩ := find_of_subject hsubject
      rw [hquery'] at hquery
      have houtcome : (finder h t o root).outcome? d ⟨t.position, o.includeDeclaration⟩
          = some (.error fault) := by
        rw [Finder.outcome?, hquery, Option.map_some]
        exact congrArg some hfault
      rw [hanswer, Finder.answer_find, houtcome]
      rfl

/-- The tool gets absolute paths. -/
theorem isAbsolute_arguments (h : Host) (t : Target) (o : FindOptions) :
    Path.isAbsolute (fullPath h t) ∧ Path.isAbsolute (rootPath h o) := by
  refine ⟨Path.isAbsolute_join h.isAbsolute_currentPath t.file, ?_⟩
  unfold rootPath
  cases o.root? with
  | none => exact h.isAbsolute_currentPath
  | some root => exact Path.isAbsolute_join h.isAbsolute_currentPath root

/-- The kinds of faults that there is no offset for. -/
def offsetFaults : List Text := ["Io".toList, "Utf8".toList, "InvalidPosition".toList]

/-- There is an offset, or the file is not read, is not text, or has no such line. -/
theorem answer_offset_cases (h : Host) (t : Target) :
    (∃ n, (offset h t).answer = .ok (Text.decimal n)) ∨
      ∃ fault, (offset h t).answer = .error fault ∧ fault.kind ∈ offsetFaults := by
  cases hopen : h.openDocument t.file with
  | error fault =>
      have hanswer : (offset h t).answer = .error fault := by rw [offset, hopen]
      have hmem : fault.kind ∈ offsetFaults := by
        rcases Host.kind_of_openDocument hopen with hio | hutf8
        · exact hio ▸ .head _
        · exact hutf8 ▸ .tail _ (.head _)
      exact .inr ⟨fault, hanswer, hmem⟩
  | ok d =>
      have hanswer : (offset h t).answer = (d.offset t.unit t.position).map Text.decimal :=
        offset_of_open hopen
      cases hoffset : d.offset? t.unit t.position with
      | none =>
          rw [Document.offset, hoffset] at hanswer
          exact .inr ⟨_, hanswer, .tail _ (.tail _ (.head _))⟩
      | some n =>
          rw [Document.offset, hoffset] at hanswer
          exact .inl ⟨n, hanswer⟩

section
variable {text : Text} (hcurrent : h.current = .ok h.currentPath)
  (hopen : h.openDocument t.file = .ok ⟨t.file, text⟩)
  (hfull : h.openDocument (fullPath h t) = .ok ⟨fullPath h t, text⟩)
include hcurrent hfull

/-- The search is about the document at the full path. -/
theorem subject_of_open : subject h t o = .ok (⟨fullPath h t, text⟩, rootPath h o) := by
  rw [subject_eq hcurrent, hfull]
  rfl

include hopen

/-- If the line is not there, both commands say so. -/
theorem noLine_of_offset?
    (hoffset : (⟨t.file, text⟩ : Document).offset? t.unit t.position = none) :
    (offset h t).answer
        = .error (.invalidPosition t.file t.position (Text.lines text).length) ∧
      (find h t o).answer
        = .error (.invalidPosition (fullPath h t) t.position (Text.lines text).length) ∧
      (find h t o).query? = none := by
  obtain ⟨hanswer, -, hquery⟩ := find_of_subject (subject_of_open (o := o) hcurrent hfull)
  have hnone : (finder h t o (rootPath h o)).query? ⟨fullPath h t, text⟩
      ⟨t.position, o.includeDeclaration⟩ = none := congrArg (Option.map _) hoffset
  refine ⟨?_, ?_, hquery.trans hnone⟩
  · rw [offset_of_open hopen, Document.offset, hoffset]
    rfl
  · rw [hanswer, Finder.answer_find, Finder.outcome?, hnone]
    rfl

/-- If it is, one command prints the offset and the other asks for it. -/
theorem query_of_offset? {n : Nat}
    (hoffset : (⟨t.file, text⟩ : Document).offset? t.unit t.position = some n) :
    (offset h t).answer = .ok (Text.decimal n) ∧
      (find h t o).query? = some ⟨fullPath h t, n, rootPath h o⟩ := by
  have habsolute := (isAbsolute_arguments h t o).1
  have hquery : (find h t o).query?
      = some ⟨Path.forwardSlashes (fullPath h t), n, rootPath h o⟩ :=
    (find_of_subject (subject_of_open hcurrent hfull)).2.2.trans (congrArg (Option.map _) hoffset)
  rw [hquery, Path.forwardSlashes_of_isAbsolute habsolute, offset_of_open hopen, Document.offset,
    hoffset]
  exact ⟨rfl, rfl⟩

end

/-- Both commands side by side. Either they fail with faults of the same kind, and
nothing is asked of the tool; or one prints a number, and the other puts it into
its query. -/
theorem offset_cases (hsound : h.Sound) (hfile : t.file ≠ []) (hreach : h.InReach t.file) :
    (∃ fault fault', (offset h t).answer = .error fault ∧ (find h t o).answer = .error fault' ∧
        fault'.kind = fault.kind ∧ (find h t o).query? = none) ∨
      ∃ n, n < 2 ^ 64 ∧ (offset h t).answer = .ok (Text.decimal n) ∧
        Host.Passes (fullPath h t) ∧
        (find h t o).query? = some ⟨fullPath h t, n, rootPath h o⟩ := by
  have hcurrent : h.current = .ok h.currentPath := hsound.settled.current
  have hread : h.read (fullPath h t) = h.read t.file :=
    Host.read_join hsound.settled hsound.nul_notMem hfile hreach
  obtain ⟨text, hopen, hfull⟩ | ⟨fault, fault', hopen, hfull, hkind⟩ :=
    Host.openDocument_of_read_eq hread
  · -- The file is text, so all depends on whether the line is there.
    cases hoffset : (⟨t.file, text⟩ : Document).offset? t.unit t.position with
    | none =>
        obtain ⟨hanswer, hanswer', hquery⟩ :=
          noLine_of_offset? (o := o) hcurrent hopen hfull hoffset
        exact .inl ⟨_, _, hanswer, hanswer', rfl, hquery⟩
    | some n =>
        obtain ⟨hanswer, hquery⟩ := query_of_offset? (o := o) hcurrent hopen hfull hoffset
        obtain ⟨-, content, hcontent⟩ := Host.exists_read_of_openDocument hfull
        exact .inr ⟨n, hsound.offset_lt hopen hoffset, hanswer, Host.passes_of_read hcontent,
          hquery⟩
  · -- The file is not read, or not text.
    have hfind : find h t o = ⟨.error fault', []⟩ := find_of_no_subject (by
      rw [subject_eq hcurrent, hfull]
      rfl)
    rw [offset, hopen, hfind]
    exact .inl ⟨fault, fault', rfl, rfl, hkind, rfl⟩

/-! ### Their runs -/

/-- A number is printed on a line. -/
theorem run_offset {arguments : List Text} {verbose : Bool} {n : Nat}
    (harguments : Invocation.ofArguments arguments = .ok ⟨verbose, .offset t⟩)
    (hanswer : (offset h t).answer = .ok (Text.decimal n)) :
    (run h arguments).exit = 0 ∧ (run h arguments).stdout = line (Text.decimal n) := by
  have hexecute : (execute h (.offset t)).answer = .ok (Text.decimal n) := hanswer
  refine ⟨(exit_run harguments).1.mpr ⟨_, hexecute⟩, ?_⟩
  rw [run_eq harguments, hexecute]
  exact if_neg (Location.decimal_ne_nil n)

/-- A run prints an offset, or fails for the sake of the file or the position. -/
theorem run_offset_cases {arguments : List Text} {verbose : Bool}
    (harguments : Invocation.ofArguments arguments = .ok ⟨verbose, .offset t⟩) :
    ((run h arguments).exit = 0 ∧ ∃ n, (run h arguments).stdout = line (Text.decimal n)) ∨
      ((run h arguments).exit = 1 ∧ ∃ kind ∈ offsetFaults, FailsAs (offset h t) kind) := by
  obtain ⟨n, hanswer⟩ | ⟨fault, hanswer, hmem⟩ := answer_offset_cases h t
  · obtain ⟨hexit, hstdout⟩ := run_offset harguments hanswer
    exact .inl ⟨hexit, n, hstdout⟩
  · obtain ⟨-, herror, -⟩ := exit_run (h := h) harguments
    exact .inr ⟨herror.mpr ⟨fault, hanswer⟩, fault.kind, hmem, fault, hanswer, rfl⟩

/-- The tool is run with the arguments of a query, if the root can be handed to
it. -/
theorem ran?_of_query {run : Run} (htool : h.run ((settings h t o).executable h) [] = .ok run)
    {n : Nat} (hn : n < 2 ^ 64) (hfull : Host.Passes (fullPath h t))
    (hroot : Host.Passes (rootPath h o))
    (hquery : (find h t o).query? = some ⟨fullPath h t, n, rootPath h o⟩) :
    ran? h (.find t o) = some ["-file".toList, fullPath h t, "-offset".toList, Text.decimal n,
      "-root".toList, rootPath h o] := by
  rw [ran?, hquery, Option.bind_some]
  refine Host.ran?_search_of_passes htool fun a ha => ?_
  simp only [Query.arguments, List.mem_cons, List.not_mem_nil, or_false] at ha
  rcases ha with rfl | rfl | rfl | rfl | rfl | rfl
  · decide
  · exact hfull
  · decide
  · exact Host.passes_decimal hn
  · decide
  · exact hroot

/-- If the root cannot be handed to it, the tool is not run, and the search fails
for that. -/
theorem find_of_root_refused {run : Run}
    (htool : h.run ((settings h t o).executable h) [] = .ok run) {n : Nat}
    (hroot : ¬ Host.Passes (rootPath h o))
    (hquery : (find h t o).query? = some ⟨fullPath h t, n, rootPath h o⟩) :
    FailsAs (find h t o) "ToolFailed".toList ∧ ran? h (.find t o) = none := by
  have hmem : rootPath h o ∈ (Query.mk (fullPath h t) n (rootPath h o)).arguments :=
    List.mem_of_getElem? (i := 5) rfl
  obtain ⟨hran, cause, houtcome⟩ := Host.search_of_not_passes htool hmem hroot
  refine ⟨⟨_, answer_find_of_tool hquery houtcome, rfl⟩, ?_⟩
  rw [ran?, hquery, Option.bind_some]
  exact hran

/-- What a run that prints an offset has to do with a run that searches for
references, and with the arguments that the search tool gets from it. -/
structure HandedOn (h : Host) (t : Target) (o : FindOptions) (asked searched : Outcome) :
    Prop where
  /-- The tool gets absolute paths. -/
  absolute : Path.isAbsolute (fullPath h t) ∧ Path.isAbsolute (rootPath h o)
  /-- The tool is run exactly if an offset is printed. -/
  run_iff : Host.Passes (rootPath h o) → (asked.exit = 0 ↔ searched.ran?.isSome)
  /-- It is this offset that the tool gets, with the two paths, and no other
  argument. -/
  arguments_iff : Host.Passes (rootPath h o) → ∀ n,
    (asked.exit = 0 ∧ asked.stdout = line (Text.decimal n)) ↔
      searched.ran? = some ["-file".toList, fullPath h t, "-offset".toList, Text.decimal n,
        "-root".toList, rootPath h o]
  /-- If there is no offset, both fail in the same way, the search before it comes to
  the tool. -/
  fails_iff : ∀ kind ∈ offsetFaults,
    (asked.exit = 1 ∧ FailsAs (offset h t) kind) ↔
      (searched.exit = 1 ∧ FailsAs (find h t o) kind ∧ searched.ran? = none)
  /-- A root that cannot be handed to a program keeps the tool from running. -/
  root_refused : ¬ Host.Passes (rootPath h o) → asked.exit = 0 →
    searched.exit = 1 ∧ FailsAs (find h t o) "ToolFailed".toList ∧ searched.ran? = none

namespace HandedOn

variable {asked searched : Outcome}

/-- Without an offset nothing is handed on. -/
theorem of_faults {fault fault' : Fault} (hoffset : (offset h t).answer = .error fault)
    (hfind : (find h t o).answer = .error fault') (hkind : fault'.kind = fault.kind)
    (hasked : asked.exit = 1) (hsearched : searched.exit = 1) (hran : searched.ran? = none) :
    HandedOn h t o asked searched := by
  have hne : asked.exit ≠ 0 := by
    rw [hasked]
    decide
  constructor
  case absolute => exact isAbsolute_arguments h t o
  case run_iff =>
    intro _
    rw [hran, Option.isSome_none]
    exact ⟨fun hexit => absurd hexit hne, nofun⟩
  case arguments_iff =>
    intro _ n
    rw [hran]
    exact ⟨fun hexit => absurd hexit.1 hne, nofun⟩
  case fails_iff =>
    intro kind _
    rw [failsAs_iff hoffset, failsAs_iff hfind, hkind]
    exact ⟨fun ⟨_, heq⟩ => ⟨hsearched, heq, hran⟩, fun ⟨_, heq, _⟩ => ⟨hasked, heq⟩⟩
  case root_refused => exact fun _ hexit => absurd hexit hne

/-- An offset is handed on, if the root can be. -/
theorem of_number {n : Nat} (hasked : asked.exit = 0)
    (hstdout : asked.stdout = line (Text.decimal n))
    (hran : Host.Passes (rootPath h o) → searched.ran? = some ["-file".toList, fullPath h t,
      "-offset".toList, Text.decimal n, "-root".toList, rootPath h o])
    (hrefused : ¬ Host.Passes (rootPath h o) →
      searched.exit = 1 ∧ FailsAs (find h t o) "ToolFailed".toList ∧ searched.ran? = none) :
    HandedOn h t o asked searched := by
  have hne : asked.exit ≠ 1 := by
    rw [hasked]
    decide
  constructor
  case absolute => exact isAbsolute_arguments h t o
  case run_iff =>
    intro hroot
    rw [hran hroot, Option.isSome_some]
    exact ⟨fun _ => rfl, fun _ => hasked⟩
  case arguments_iff =>
    intro hroot m
    rw [hran hroot, hstdout]
    -- Both sides say that the two numbers are written in the same way.
    constructor
    · rintro ⟨-, hline⟩
      rw [List.append_cancel_right hline]
    · intro harguments
      have hdecimal : Text.decimal n = Text.decimal m := by
        injection harguments with harguments
        injection harguments with _ harguments
        injection harguments with _ harguments
        injection harguments with _ harguments
        injection harguments
      exact ⟨hasked, congrArg line hdecimal⟩
  case fails_iff =>
    intro kind hkind
    refine ⟨fun ⟨hexit, _⟩ => absurd hexit hne, fun ⟨_, hfails, hnone⟩ => ?_⟩
    by_cases hroot : Host.Passes (rootPath h o)
    · rw [hran hroot] at hnone
      exact nomatch hnone
    · -- A tool that does not start fails in a way of its own.
      obtain ⟨-, ⟨fault, hanswer, hfault⟩, -⟩ := hrefused hroot
      have heq : "ToolFailed".toList = kind :=
        hfault.symm.trans ((failsAs_iff hanswer kind).mp hfails)
      have hnotMem : "ToolFailed".toList ∉ offsetFaults := by decide
      exact absurd (heq ▸ hkind) hnotMem
  case root_refused => exact fun hroot _ => hrefused hroot

end HandedOn

/-- Two runs are related in this way, if the tool can be run and the full path is
in reach. -/
theorem handedOn {asked searched : List Text} {verbose verbose' : Bool} (hsound : h.Sound)
    (htool : ∃ run, h.run ((settings h t o).executable h) [] = .ok run) (hfile : t.file ≠ [])
    (hreach : h.InReach t.file)
    (hasked : Invocation.ofArguments asked = .ok ⟨verbose, .offset t⟩)
    (hsearched : Invocation.ofArguments searched = .ok ⟨verbose', .find t o⟩) :
    HandedOn h t o (run h asked) (run h searched) := by
  obtain ⟨-, herror, -⟩ := exit_run (h := h) hasked
  obtain ⟨-, herror', hran⟩ := exit_run (h := h) hsearched
  obtain ⟨run, hrun⟩ := htool
  obtain ⟨fault, fault', hoffset, hfind, hkind, hquery⟩ | ⟨n, hn, hoffset, hfull, hquery⟩ :=
    offset_cases (o := o) hsound hfile hreach
  · have hnone : (Program.run h searched).ran? = none := by
      rw [hran, ran?, hquery]
      rfl
    exact .of_faults hoffset hfind hkind (herror.mpr ⟨fault, hoffset⟩)
      (herror'.mpr ⟨fault', hfind⟩) hnone
  · obtain ⟨hexit, hstdout⟩ := run_offset hasked hoffset
    refine .of_number hexit hstdout (fun hroot => ?_) (fun hroot => ?_)
    · rw [hran]
      exact ran?_of_query hrun hn hfull hroot hquery
    · obtain ⟨⟨fault, hanswer, hkind⟩, hnone⟩ := find_of_root_refused hrun hroot hquery
      exact ⟨herror'.mpr ⟨fault, hanswer⟩, ⟨fault, hanswer, hkind⟩, hran.trans hnone⟩

/-- A search of a file whose full path is out of reach fails, since the file cannot
be read there. -/
theorem find_of_not_inReach {searched : List Text} {verbose : Bool}
    (hcurrent : h.current = .ok h.currentPath) (hreach : ¬ h.InReach t.file)
    (hsearched : Invocation.ofArguments searched = .ok ⟨verbose, .find t o⟩) :
    (run h searched).exit = 1 ∧ FailsAs (find h t o) "Io".toList ∧
      (run h searched).ran? = none := by
  obtain ⟨-, herror, hran⟩ := exit_run (h := h) hsearched
  obtain ⟨cause, hopen⟩ := Host.openDocument_join_of_not_inReach hreach
  have hsubject : subject h t o = .error (.io (fullPath h t) cause) := by
    rw [subject_eq hcurrent, fullPath, hopen]
    rfl
  have hfind : find h t o = ⟨.error (.io (fullPath h t) cause), []⟩ := find_of_no_subject hsubject
  have hanswer : (find h t o).answer = .error (.io (fullPath h t) cause) := by rw [hfind]
  refine ⟨herror.mpr ⟨_, hanswer⟩, ⟨_, hanswer, rfl⟩, ?_⟩
  rw [hran, ran?, hfind]
  rfl

end Program

/-- The offset that one command prints is the one that the other hands to the
search tool, whatever the files are.

The first command prints a number, or it fails for the sake of the file or the
position. The tool can be run. The two commands name the same file, in full or from
the current directory, and the same position. If the full path is not too long for the
system, and the root can be handed to a program, then one prints a number exactly
if the other runs the tool, and this number is in the tool's arguments, between
the two absolute paths. One fails for the sake of the file or the position exactly
if the other does so, without running the tool. If the root cannot be handed on, a
search that comes to the tool fails there.

If the full path is too long, a search fails before it comes to the tool, whatever
is printed. -/
theorem offset_handed_on {h : Host} {t : Target} {o : FindOptions} {asked searched : List Text}
    {verbose verbose' : Bool} (hsound : h.Sound)
    (htool : ∃ run, h.run ((Program.settings h t o).executable h) [] = .ok run)
    (hfile : t.file ≠ [])
    (hasked : Invocation.ofArguments asked = .ok ⟨verbose, .offset t⟩)
    (hsearched : Invocation.ofArguments searched = .ok ⟨verbose', .find t o⟩) :
    (((Program.run h asked).exit = 0 ∧
          ∃ n, (Program.run h asked).stdout = Program.line (Text.decimal n)) ∨
        ((Program.run h asked).exit = 1 ∧
          ∃ kind ∈ Program.offsetFaults, Program.FailsAs (Program.offset h t) kind)) ∧
    (h.InReach t.file →
      Program.HandedOn h t o (Program.run h asked) (Program.run h searched)) ∧
    (¬ h.InReach t.file →
      (Program.run h searched).exit = 1 ∧ Program.FailsAs (Program.find h t o) "Io".toList ∧
        (Program.run h searched).ran? = none) :=
  ⟨Program.run_offset_cases hasked,
    fun hreach => Program.handedOn hsound htool hfile hreach hasked hsearched,
    fun hreach => Program.find_of_not_inReach hsound.settled.current hreach hsearched⟩

/-- A machine with one file of one letter, and a search tool that prints nothing. -/
def letterHost : Host where
  tree := ⟨[(["ws".toList, "a.go".toList], .file [0x66]),
    (["go".toList, "bin".toList, toolName], .program [] ⟨[], [], .exited 0⟩)]⟩
  directory := ["ws".toList]
  environment := []

/-- A cursor in a file, behind the end of its first line. -/
def letterTarget (file : Text) : Target := ⟨file, ⟨0, 9⟩, .characters⟩

/-- The options of a search from some root. -/
def letterOptions (root : Text) : FindOptions :=
  ⟨some root, some "/go".toList, .strict, false, false⟩

/-- The arguments that ask for the offset of the cursor. -/
def letterAsked (file : Text) : List Text :=
  ["offset".toList, "--file".toList, file, "--line".toList, "0".toList, "--column".toList,
    "9".toList]

/-- The arguments that search at the cursor. -/
def letterSearched (file root : Text) : List Text :=
  ["find".toList, "--file".toList, file, "--line".toList, "0".toList, "--column".toList,
    "9".toList, "--gopath".toList, "/go".toList, "--root".toList, root]

/-- The machine is sound. -/
theorem sound_letterHost : letterHost.Sound where
  settled := ⟨rfl, rfl⟩
  nul_notMem := by decide
  length_lt := by decide

/-- `offset_handed_on` for the file as it is named from its directory. -/
theorem offset_handed_on_letter :
    letterHost.Sound ∧
    (∃ run, letterHost.run ((Program.settings letterHost (letterTarget "a.go".toList)
      (letterOptions "/".toList)).executable letterHost) [] = .ok run) ∧
    (letterTarget "a.go".toList).file ≠ [] ∧
    Invocation.ofArguments (letterAsked "a.go".toList)
      = .ok ⟨false, .offset (letterTarget "a.go".toList)⟩ ∧
    Invocation.ofArguments (letterSearched "a.go".toList "/".toList)
      = .ok ⟨false, .find (letterTarget "a.go".toList) (letterOptions "/".toList)⟩ ∧
    letterHost.InReach "a.go".toList ∧
    (Program.run letterHost (letterAsked "a.go".toList)).stdout = "1\n".toList ∧
    (Program.run letterHost (letterSearched "a.go".toList "/".toList)).ran?
      = some ["-file".toList, "/ws/a.go".toList, "-offset".toList, "1".toList, "-root".toList,
        "/".toList] := by
  have htool : ∃ run, letterHost.run ((Program.settings letterHost (letterTarget "a.go".toList)
      (letterOptions "/".toList)).executable letterHost) [] = .ok run := ⟨_, rfl⟩
  have hfile : (letterTarget "a.go".toList).file ≠ [] := nofun
  have hasked : Invocation.ofArguments (letterAsked "a.go".toList)
      = .ok ⟨false, .offset (letterTarget "a.go".toList)⟩ := rfl
  have hsearched : Invocation.ofArguments (letterSearched "a.go".toList "/".toList)
      = .ok ⟨false, .find (letterTarget "a.go".toList) (letterOptions "/".toList)⟩ := rfl
  have hreach : letterHost.InReach "a.go".toList := by decide
  have hexit : (Program.run letterHost (letterAsked "a.go".toList)).exit = 0 ∧
      (Program.run letterHost (letterAsked "a.go".toList)).stdout = "1\n".toList :=
    Program.run_offset (n := 1) hasked rfl
  have hhanded := (offset_handed_on sound_letterHost htool hfile hasked hsearched).2.1 hreach
  exact ⟨sound_letterHost, htool, hfile, hasked, hsearched, hreach, hexit.2,
    (hhanded.arguments_iff (by decide) 1).mp hexit⟩

/-- A long way to the file: it stays in the directory all along. -/
def dotted : Text := (List.replicate 2045 "./".toList).flatten ++ "a.go".toList

/-- A root with a long name. -/
def longRoot : Text := List.replicate 131070 'r'

/-- The limits of the system are needed. An offset is printed for a path that is
short enough as it is given, but not in full; and for a root that is short enough
as it is given, but not in full. The search tool is run neither time, though it can
be. -/
theorem offset_not_handed_on :
    letterHost.Sound ∧
    (∀ file root, ∃ run, letterHost.run ((Program.settings letterHost (letterTarget file)
      (letterOptions root)).executable letterHost) [] = .ok run) ∧
    (Invocation.ofArguments (letterAsked dotted) = .ok ⟨false, .offset (letterTarget dotted)⟩ ∧
      Invocation.ofArguments (letterSearched dotted "/".toList)
        = .ok ⟨false, .find (letterTarget dotted) (letterOptions "/".toList)⟩ ∧
      (Program.run letterHost (letterAsked dotted)).exit = 0 ∧
      (Program.run letterHost (letterAsked dotted)).stdout = "1\n".toList ∧
      (Program.run letterHost (letterSearched dotted "/".toList)).ran? = none) ∧
    (Invocation.ofArguments (letterAsked "a.go".toList)
        = .ok ⟨false, .offset (letterTarget "a.go".toList)⟩ ∧
      Invocation.ofArguments (letterSearched "a.go".toList longRoot)
        = .ok ⟨false, .find (letterTarget "a.go".toList) (letterOptions longRoot)⟩ ∧
      (Program.run letterHost (letterAsked "a.go".toList)).exit = 0 ∧
      (Program.run letterHost (letterAsked "a.go".toList)).stdout = "1\n".toList ∧
      (Program.run letterHost (letterSearched "a.go".toList longRoot)).ran? = none) := by
  have htool (file root : Text) : ∃ run,
      letterHost.run ((Program.settings letterHost (letterTarget file)
        (letterOptions root)).executable letterHost) [] = .ok run := ⟨_, rfl⟩
  -- The full path of the file is too long.
  have hdotted : Invocation.ofArguments (letterSearched dotted "/".toList)
      = .ok ⟨false, .find (letterTarget dotted) (letterOptions "/".toList)⟩ := rfl
  have hexit : (Program.run letterHost (letterAsked dotted)).exit = 0 ∧
      (Program.run letterHost (letterAsked dotted)).stdout = "1\n".toList := by
    decide +kernel
  have hreach : ¬ letterHost.InReach dotted := by decide +kernel
  have hran := (Program.find_of_not_inReach sound_letterHost.settled.current hreach hdotted).2.2
  -- The root is too long with the current directory in front.
  have hasked : Invocation.ofArguments (letterAsked "a.go".toList)
      = .ok ⟨false, .offset (letterTarget "a.go".toList)⟩ := rfl
  have hsearched : Invocation.ofArguments (letterSearched "a.go".toList longRoot)
      = .ok ⟨false, .find (letterTarget "a.go".toList) (letterOptions longRoot)⟩ := rfl
  have hexit' : (Program.run letterHost (letterAsked "a.go".toList)).exit = 0 ∧
      (Program.run letterHost (letterAsked "a.go".toList)).stdout = "1\n".toList :=
    Program.run_offset (n := 1) hasked rfl
  have hroot : ¬ Host.Passes (Program.rootPath letterHost (letterOptions longRoot)) := by
    intro hpasses
    have hjoin : Program.rootPath letterHost (letterOptions longRoot)
        = "/ws/".toList ++ longRoot := rfl
    have hlength : ("/ws/".toList ++ longRoot).length = 131074 := by
      rw [List.length_append, longRoot, List.length_replicate]
      rfl
    have hsize := Nat.lt_of_le_of_lt (Utf8.length_le_size _) hpasses.2
    rw [hjoin, hlength] at hsize
    exact absurd hsize (by decide)
  have hfile : (letterTarget "a.go".toList).file ≠ [] := nofun
  have hreach' : letterHost.InReach (letterTarget "a.go".toList).file := by decide
  have hhanded :=
    Program.handedOn sound_letterHost (htool _ _) hfile hreach' hasked hsearched
  exact ⟨sound_letterHost, htool, ⟨rfl, hdotted, hexit.1, hexit.2, hran⟩,
    ⟨hasked, hsearched, hexit'.1, hexit'.2, (hhanded.root_refused hroot hexit'.1).2.2⟩⟩

end GoXref
