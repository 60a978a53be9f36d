import GoXref.Proofs.Host.Muted
import GoXref.Proofs.Payload
import GoXref.Proofs.Program.Run

/-!
# `GoXref.Proofs.Program.Formats`: a search says the same in either format

A search prints plain lines or a JSON document. What it found is settled before
that, so the exit status is the same, and the document tells what the plain
output is: a line for every occurrence in it, or the message of its fault.

How the search tool ended, and what it printed on its standard error, makes no
difference to either.

* `Program.lookup`: what a search finds, before it is put into a format.
* `Program.run_json`, `Program.run_plain_ok`, `Program.run_plain_error`: what is
  left behind, read off what was found.
* `Program.lookup_muted`: a search finds the same on a muted machine.
* `formats_say_the_same`: both formats together, and muted machines.
-/

set_option autoImplicit false

namespace GoXref

/-! ### The standard error -/

namespace Program

/-- Where no records are shown, the events of a command print its messages, a
line each. -/
theorem flatMap_eventText_none (events : List Event) :
    events.flatMap (eventText none) = ((callsOf events).filterMap Call.message?).flatMap line := by
  induction events with
  | nil => rfl
  | cons event events ih =>
      rw [List.flatMap_cons, ih]
      cases event with
      | record r => rfl
      | call c => cases c <;> rfl

/-! ### What is found -/

variable (h : Host) (t : Target) (o : FindOptions)

/-- What a search finds, before it is put into a format. -/
def lookup : Except Fault Found :=
  match subject h t o with
  | .error fault => .error fault
  | .ok (d, root) => ((finder h t o root).find d ⟨t.position, o.includeDeclaration⟩).answer

/-- A search answers with what it finds, in its format. -/
theorem answer_find_eq (json : Bool) :
    (find h t { o with json := json }).answer = (lookup h t o).map (rendering json) := by
  -- The format has no part in what the search is about.
  have hformat : subject h t { o with json := json } = subject h t o := rfl
  unfold lookup
  cases hsubject : subject h t o with
  | error fault => exact congrArg Report.answer (find_of_no_subject (hformat.trans hsubject))
  | ok about => exact (find_of_subject (hformat.trans hsubject)).1

/-- A search fails exactly if it finds nothing but a fault. -/
theorem answer_find_eq_error_iff (json : Bool) (fault : Fault) :
    (find h t { o with json := json }).answer = .error fault ↔ lookup h t o = .error fault := by
  rw [answer_find_eq]
  cases lookup h t o with
  | error fault' =>
      rw [Except.map, Except.error.injEq, Except.error.injEq]
  | ok found => exact ⟨nofun, nofun⟩

/-- A search that fails shows no message on its way: there is one only if the
tool is missing, and that is no fault. -/
theorem log_eq_nil_of_lookup {fault : Fault} (hfault : lookup h t o = .error fault) :
    log h false (find h t o).events = [] := by
  have hlog : log h false (find h t o).events = (find h t o).notices.flatMap line :=
    flatMap_eventText_none _
  have hnotices : (find h t o).notices = [] := by
    cases hsubject : subject h t o with
    | error cause =>
        rw [find_of_no_subject hsubject]
        rfl
    | ok about =>
        rw [(find_of_subject hsubject).2.1, Finder.notices_find]
        simp only [lookup, hsubject, Finder.answer_find] at hfault
        split
        · rename_i houtcome
          rw [houtcome] at hfault
          exact nomatch hfault
        · rfl
  rw [hlog, hnotices]
  rfl

end Program

/-! ### The outcome of a search -/

/-- The document of what a search finds. -/
def Payload.ofLookup : Except Fault Found → Json
  | .ok found => Payload.found found
  | .error fault => Payload.failed fault

/-- The exit status of what a search finds. -/
def Outcome.exitOf : Except Fault Found → UInt8
  | .ok _ => 0
  | .error _ => Outcome.failure

/-- The exit status is zero exactly if there is no fault. -/
theorem Outcome.exitOf_eq_zero_iff (found : Except Fault Found) :
    exitOf found = 0 ↔ ∃ found', found = .ok found' := by
  cases found with
  | ok found => exact ⟨fun _ => ⟨found, rfl⟩, fun _ => rfl⟩
  | error fault => exact ⟨nofun, nofun⟩

/-- It is one exactly if there is a fault. -/
theorem Outcome.exitOf_eq_one_iff (found : Except Fault Found) :
    exitOf found = 1 ↔ ∃ fault, found = .error fault := by
  cases found with
  | ok found => exact ⟨nofun, nofun⟩
  | error fault => exact ⟨fun _ => ⟨fault, rfl⟩, fun _ => rfl⟩

/-- What is printed on the way shows neither in the exit status nor on the standard
output. -/
theorem Outcome.ofReport_log (json : Bool) (answer : Except Fault Text) (log log' : Text) :
    (ofReport json answer log).exit = (ofReport json answer log').exit ∧
      (ofReport json answer log).stdout = (ofReport json answer log').stdout := by
  cases answer with
  | ok output => exact ⟨rfl, rfl⟩
  | error fault => cases json <;> exact ⟨rfl, rfl⟩

/-- The document tells which of the two it is. -/
theorem Payload.readStatus?_ofLookup (found : Except Fault Found) :
    (readStatus? (ofLookup found) = some "ok".toList ↔ Outcome.exitOf found = 0) ∧
      (readStatus? (ofLookup found) = some "error".toList ↔ Outcome.exitOf found = 1) := by
  cases found with
  | ok found =>
      have hstatus : readStatus? (Payload.found found) = some "ok".toList := rfl
      simp [ofLookup, hstatus, Outcome.exitOf]
  | error fault =>
      have hstatus : readStatus? (Payload.failed fault) = some "error".toList := rfl
      simp [ofLookup, hstatus, Outcome.exitOf, Outcome.failure]

namespace Program

variable {h : Host} {t : Target} {o : FindOptions} {arguments : List Text}

/-- What a search leaves behind that shows no records. -/
theorem run_find_eq {json : Bool}
    (harguments : Invocation.ofArguments arguments
      = .ok ⟨false, .find t { o with json := json }⟩) :
    run h arguments = { Outcome.ofReport json ((lookup h t o).map (rendering json))
      (log h false (find h t { o with json := json }).events) with
        ran? := ran? h (.find t { o with json := json }) } := by
  rw [← answer_find_eq]
  exact run_eq harguments

/-- With JSON output the document of what is found is printed, and the exit
status goes with it. -/
theorem run_json
    (harguments : Invocation.ofArguments arguments
      = .ok ⟨false, .find t { o with json := true }⟩) :
    (run h arguments).exit = Outcome.exitOf (lookup h t o) ∧
      ∀ doc, Json.Denotes (run h arguments).stdout doc ↔ doc = Payload.ofLookup (lookup h t o) := by
  have hlf : Json.Blank ['\n'] := by
    intro c hc
    rw [List.mem_singleton.mp hc]
    rfl
  rw [run_find_eq harguments]
  cases lookup h t o with
  | ok found => exact ⟨rfl, fun doc => Json.denotes_pretty_iff hlf⟩
  | error fault => exact ⟨rfl, fun doc => Json.denotes_compact_iff hlf⟩

/-- Texts joined into lines, of which some has a character, are not empty. -/
theorem joinLines_ne_nil {text : Text} (htext : text ≠ []) (texts : List Text) :
    Text.joinLines (text :: texts) ≠ [] := by
  cases texts with
  | nil => rwa [Text.joinLines, List.intercalate_singleton]
  | cons next texts =>
      rw [Text.joinLines, List.intercalate_cons_cons, List.append_assoc]
      exact List.append_ne_nil_of_left_ne_nil htext _

/-- With a line feed behind them, joined texts are a line each. -/
theorem line_joinLines_cons (text : Text) (texts : List Text) :
    line (Text.joinLines (text :: texts)) = (text :: texts).flatMap line := by
  induction texts generalizing text with
  | nil => rw [Text.joinLines, List.intercalate_singleton, List.flatMap_singleton]
  | cons next texts ih =>
      rw [List.flatMap_cons, ← ih, Text.joinLines, List.intercalate_cons_cons, line, line, line,
        Text.joinLines, List.append_assoc]

/-- With plain output every occurrence that is found is printed on a line of its
own. -/
theorem run_plain_ok {found : Found}
    (harguments : Invocation.ofArguments arguments
      = .ok ⟨false, .find t { o with json := false }⟩)
    (hfound : lookup h t o = .ok found) :
    (run h arguments).exit = 0 ∧
      (run h arguments).stdout = (found.getD []).flatMap fun o => line o.toText := by
  rw [run_find_eq harguments, hfound]
  refine ⟨rfl, ?_⟩
  rw [← List.flatMap_map]
  show (if Text.joinLines ((found.getD []).map Occurrence.toText) = [] then []
    else line (Text.joinLines ((found.getD []).map Occurrence.toText))) = _
  cases found.getD [] with
  | nil => rfl
  | cons o rest =>
      have hne : o.toText ≠ [] := List.append_ne_nil_of_right_ne_nil _ (List.cons_ne_nil _ _)
      rw [List.map_cons, if_neg (joinLines_ne_nil hne _)]
      exact line_joinLines_cons _ _

/-- With plain output a fault is all that is printed, and on the standard
error. -/
theorem run_plain_error {fault : Fault}
    (harguments : Invocation.ofArguments arguments
      = .ok ⟨false, .find t { o with json := false }⟩)
    (hfault : lookup h t o = .error fault) :
    (run h arguments).exit = 1 ∧ (run h arguments).stdout = [] ∧
      (run h arguments).stderr = line ("Error: ".toList ++ fault.message) := by
  rw [run_find_eq harguments, hfault,
    log_eq_nil_of_lookup h t { o with json := false } hfault]
  exact ⟨rfl, rfl, rfl⟩

/-! ### Muted machines -/

variable (h : Host) (t : Target) (o : FindOptions)

/-- The search tool says the same on a muted machine. -/
theorem outcome?_finder_muted (root : Text) (d : Document) (r : Request) :
    (finder h.muted t o root).outcome? d r = (finder h t o root).outcome? d r := by
  have htool (q : Query) : (tool h.muted t o q).outcome = (tool h t o q).outcome := by
    show (h.muted.search ((settings h t o).executable h.muted) q).outcome = _
    rw [Host.outcome_search_muted, Host.executable_muted]
    rfl
  unfold Finder.outcome?
  rw [show (finder h.muted t o root).query? d r = (finder h t o root).query? d r from rfl]
  exact congrArg (Option.map · _) (funext htool)

/-- A search is about the same on a muted machine. -/
theorem subject_muted : subject h.muted t o = subject h t o := by
  have hcurrent : currentDirectory h.muted = currentDirectory h := by
    unfold currentDirectory
    rw [Host.current_muted]
  have hfull : inFull h.muted = inFull h := by
    funext path
    unfold inFull
    rw [hcurrent]
  have hopen : h.muted.openDocument = h.openDocument := funext h.openDocument_muted
  unfold subject root
  rw [hfull, hcurrent, hopen]

/-- So it finds the same. -/
theorem lookup_muted : lookup h.muted t o = lookup h t o := by
  unfold lookup
  rw [subject_muted]
  cases subject h t o with
  | error fault => rfl
  | ok about =>
      obtain ⟨d, root⟩ := about
      show ((finder h.muted t o root).find d _).answer = ((finder h t o root).find d _).answer
      rw [Finder.answer_find, Finder.answer_find, outcome?_finder_muted]
      rfl

/-- A command has the same answer on a muted machine. -/
theorem answer_execute_muted (c : Command) :
    (execute h.muted c).answer = (execute h c).answer := by
  cases c with
  | find t o =>
      have hanswer := answer_find_eq h.muted t o o.json
      rw [lookup_muted, ← answer_find_eq] at hanswer
      exact hanswer
  | offset t =>
      show (offset h.muted t).answer = (offset h t).answer
      rw [offset, Host.openDocument_muted, offset]

/-- A run has the same exit status on a muted machine, and the same standard
output. -/
theorem run_muted (arguments : List Text) :
    (run h.muted arguments).exit = (run h arguments).exit ∧
      (run h.muted arguments).stdout = (run h arguments).stdout := by
  unfold run
  cases Invocation.ofArguments arguments with
  | error refusal => exact ⟨rfl, rfl⟩
  | ok invocation =>
      simp only [answer_execute_muted]
      exact Outcome.ofReport_log _ _ _ _

/-! ### Both formats -/

/-- What the runs of a search that show no records leave behind in either format:
the exit status `exit`, and with JSON output the document `doc`. -/
structure Reported (h : Host) (t : Target) (o : FindOptions) (exit : UInt8) (doc : Json) :
    Prop where
  /-- The exit status is zero or one. -/
  exit_cases : exit = 0 ∨ exit = 1
  /-- It is one exactly if the search failed, in whichever format. -/
  exit_eq_one_iff : ∀ json, exit = 1 ↔
    ∃ fault, (find h t { o with json := json }).answer = .error fault
  /-- The document says that all is well exactly if the exit status is zero. -/
  status_ok_iff : Payload.readStatus? doc = some "ok".toList ↔ exit = 0
  /-- And it tells of an error exactly if it is one. -/
  status_error_iff : Payload.readStatus? doc = some "error".toList ↔ exit = 1
  /-- With JSON output the standard output is the document, and no other. -/
  json : ∀ arguments,
    Invocation.ofArguments arguments = .ok ⟨false, .find t { o with json := true }⟩ →
    (run h arguments).exit = exit ∧
      ∀ doc', Json.Denotes (run h arguments).stdout doc' ↔ doc' = doc
  /-- With plain output the exit status is the same. -/
  plain : ∀ arguments,
    Invocation.ofArguments arguments = .ok ⟨false, .find t { o with json := false }⟩ →
    (run h arguments).exit = exit
  /-- If all is well, the plain output has a line for every occurrence that is read
  off the document. -/
  plain_ok : exit = 0 → ∃ found, Payload.readFound? doc = some found ∧
    ∀ arguments,
      Invocation.ofArguments arguments = .ok ⟨false, .find t { o with json := false }⟩ →
      (run h arguments).stdout = (found.getD []).flatMap fun (o, _) => line o.toText
  /-- If not, there is only the message that is read off the document, and it goes
  to the standard error. -/
  plain_error : exit = 1 → ∃ message, Payload.readMessage? doc = some message ∧
    ∀ arguments,
      Invocation.ofArguments arguments = .ok ⟨false, .find t { o with json := false }⟩ →
      (run h arguments).stdout = [] ∧
        (run h arguments).stderr = line ("Error: ".toList ++ message)

/-- Every search is reported in either format. -/
theorem reported :
    Reported h t o (Outcome.exitOf (lookup h t o)) (Payload.ofLookup (lookup h t o)) where
  exit_cases := by
    cases lookup h t o with
    | ok found => exact .inl rfl
    | error fault => exact .inr rfl
  exit_eq_one_iff json := by
    rw [Outcome.exitOf_eq_one_iff]
    exact exists_congr fun fault => (answer_find_eq_error_iff h t o json fault).symm
  status_ok_iff := (Payload.readStatus?_ofLookup _).1
  status_error_iff := (Payload.readStatus?_ofLookup _).2
  json _ harguments := run_json harguments
  plain _ harguments := by
    cases hlookup : lookup h t o with
    | ok found => exact (run_plain_ok harguments hlookup).1
    | error fault => exact (run_plain_error harguments hlookup).1
  plain_ok hexit := by
    obtain ⟨found, hfound⟩ := (Outcome.exitOf_eq_zero_iff _).mp hexit
    rw [hfound]
    refine ⟨_, Payload.readFound?_found found, fun arguments harguments => ?_⟩
    -- The URIs that the document adds are not printed.
    rw [(run_plain_ok harguments hfound).2]
    cases found with
    | none => rfl
    | some occurrences =>
        rw [Option.map_some, Option.getD_some, Option.getD_some, List.flatMap_map]
  plain_error hexit := by
    obtain ⟨fault, hfault⟩ := (Outcome.exitOf_eq_one_iff _).mp hexit
    rw [hfault]
    exact ⟨_, Payload.readMessage?_failed fault,
      fun arguments harguments => (run_plain_error harguments hfault).2⟩

end Program

/-- A search says the same in either format. It has one exit status and one
document. The status is one if the search failed, and else zero. With JSON output
the document is all that is printed on the standard output. Plain output has a
line for every occurrence in the document, or is empty, with the message of the
document on the standard error.

How the programs of the machine end, and what they print on their standard error,
makes no difference to the exit status of a run, nor to its standard output. -/
theorem formats_say_the_same :
    (∀ (h : Host) (t : Target) (o : FindOptions),
      ∃ exit doc, Program.Reported h t o exit doc) ∧
    ∀ (h h' : Host) (arguments : List Text), h.muted = h'.muted →
      (Program.run h arguments).exit = (Program.run h' arguments).exit ∧
      (Program.run h arguments).stdout = (Program.run h' arguments).stdout := by
  refine ⟨fun h t o => ⟨_, _, Program.reported h t o⟩, ?_⟩
  intro h h' arguments hmuted
  rw [← (Program.run_muted h arguments).1, ← (Program.run_muted h arguments).2, hmuted]
  exact Program.run_muted h' arguments

/-- A machine with one file, and a search tool that prints one location and ends
as told. -/
def endingHost (stderr : Bytes) (ending : Ending) : Host where
  tree := ⟨[(["ws".toList, "a.go".toList], .file (Utf8.encode "func".toList)),
    (["go".toList, "bin".toList, toolName],
      .program [] ⟨Utf8.encode "b.go:1:2\n-\n".toList, stderr, ending⟩)]⟩
  directory := ["ws".toList]
  environment := [("GOPATH".toList, "/go".toList)]

/-- A search at the second letter of the file. -/
def endingArguments : List Text :=
  ["find", "--file", "a.go", "--line", "0", "--column", "1"].map String.toList

/-- The cursor of that search. -/
def endingTarget : Target := ⟨"a.go".toList, ⟨0, 1⟩, .characters⟩

/-- Its options, with JSON output or plain output. -/
def endingOptions (json : Bool) : FindOptions := ⟨none, none, .strict, false, json⟩

/-- `formats_say_the_same` for a tool that is killed, and one that ends well. -/
theorem formats_say_the_same_killed :
    Invocation.ofArguments endingArguments
      = .ok ⟨false, .find endingTarget (endingOptions false)⟩ ∧
    Invocation.ofArguments (endingArguments ++ ["--json".toList])
      = .ok ⟨false, .find endingTarget (endingOptions true)⟩ ∧
    (endingHost [0x6F] (.killed 9)).muted = (endingHost [] (.exited 0)).muted ∧
    (∃ doc found,
      (∀ doc', Json.Denotes (Program.run (endingHost [0x6F] (.killed 9))
        (endingArguments ++ ["--json".toList])).stdout doc' ↔ doc' = doc) ∧
      Payload.readFound? doc = some found ∧
      "/ws/b.go:1:2-6\n".toList
        = (found.getD []).flatMap fun (o, _) => Program.line o.toText) ∧
    (Program.run (endingHost [0x6F] (.killed 9)) endingArguments).stdout
      = (Program.run (endingHost [] (.exited 0)) endingArguments).stdout := by
  have hplain : Invocation.ofArguments endingArguments
      = .ok ⟨false, .find endingTarget (endingOptions false)⟩ := rfl
  have hjson : Invocation.ofArguments (endingArguments ++ ["--json".toList])
      = .ok ⟨false, .find endingTarget (endingOptions true)⟩ := rfl
  have hmuted : (endingHost [0x6F] (.killed 9)).muted = (endingHost [] (.exited 0)).muted := rfl
  have hlookup : Program.lookup (endingHost [0x6F] (.killed 9)) endingTarget (endingOptions false)
      = .ok (some [⟨"/ws/b.go".toList, ⟨⟨1, 2⟩, ⟨1, 6⟩⟩⟩]) := rfl
  obtain ⟨hexit, hstdout⟩ := Program.run_plain_ok hplain hlookup
  obtain ⟨exit, doc, hreported⟩ := formats_say_the_same.1 (endingHost [0x6F] (.killed 9))
    endingTarget (endingOptions false)
  obtain rfl : 0 = exit := hexit.symm.trans (hreported.plain _ hplain)
  obtain ⟨found, hfound, hlines⟩ := hreported.plain_ok rfl
  exact ⟨hplain, hjson, hmuted, ⟨doc, found, (hreported.json _ hjson).2, hfound,
    hstdout.symm.trans (hlines _ hplain)⟩,
    (formats_say_the_same.2 _ _ endingArguments hmuted).2⟩

end GoXref
