import GoXref.Command.Draft
import GoXref.Command.Usage
import GoXref.Finder
import GoXref.Log.Filter
import GoXref.Payload
import GoXref.Text.Terminal

/-!
# `GoXref.Program`: the command line program

A run of the program reads its arguments, the files of its host and the
environment, and leaves two texts and an exit status behind.

* `Program.inFull`: a path as it is handed on, in full.
* `Program.find`, `Program.offset`: the two commands.
* `Outcome.ofReport`: what a command leaves behind. A fault goes to the
  standard error, or as JSON to the standard output.
* `Program.run`: the whole program.
-/

set_option autoImplicit false

namespace GoXref

/-- What a run of the program leaves behind. -/
structure Outcome where
  /-- The exit status. -/
  exit : UInt8
  /-- What is printed on the standard output. -/
  stdout : Text
  /-- What is printed on the standard error. -/
  stderr : Text
  /-- The arguments of the search tool, `none` if it was not started. -/
  ran? : Option (List Text) := none
deriving DecidableEq, Repr

namespace Program

/-! ### The commands -/

/-- The settings that the command line and the environment give. -/
def settings (h : Host) (t : Target) (o : FindOptions) : Settings :=
  let chosen := match o.gopath? with
    | some root => Settings.ofRoot root
    | none => Settings.ofGopath (h.environmentValue? rootVariable)
  { chosen with unit := t.unit, policy := o.policy }

/-- The path of the current directory, or the fault of one that is gone. -/
def currentDirectory (h : Host) : Except Fault Text :=
  match h.current with
  | .ok path => .ok path
  | .error cause => .error (.io ".".toList cause)

/-- A path in full. One that is not absolute is below the current directory. -/
def inFull (h : Host) (path : Text) : Except Fault Text :=
  if Path.isAbsolute path then .ok path
  else (currentDirectory h).map fun directory => Path.join directory path

/-- The root of the workspace. -/
def root (h : Host) (o : FindOptions) : Except Fault Text :=
  match o.root? with
  | some root => inFull h root
  | none => currentDirectory h

/-- The search tool. -/
def tool (h : Host) (t : Target) (o : FindOptions) : Query → Search :=
  h.search ((settings h t o).executable h)

/-- The finder for a search in a workspace. -/
def finder (h : Host) (t : Target) (o : FindOptions) (root : Text) : Finder :=
  ⟨Editor.ofDirectory root, tool h t o, settings h t o⟩

/-- What a search is about: the document with the cursor, and the root of the
workspace. The file is named by its full path from here on. -/
def subject (h : Host) (t : Target) (o : FindOptions) : Except Fault (Document × Text) := do
  let d ← h.openDocument (← inFull h t.file)
  pure (d, ← root h o)

/-- The first record of a search. -/
def announcement (d : Document) (root : Text) : Event :=
  .record ⟨.debug, .program, "Finding references in ".toList ++ d.path ++ " (root ".toList
    ++ root ++ [')']⟩

/-- The output for the occurrences that were found. -/
def rendering (json : Bool) (found : Found) : Text :=
  if json then (Payload.found found).pretty
  else Text.joinLines ((found.getD []).map Occurrence.toText)

/-- Finds references. -/
def find (h : Host) (t : Target) (o : FindOptions) : Report Text :=
  match subject h t o with
  | .error fault => ⟨.error fault, []⟩
  | .ok (d, root) =>
    let report := (finder h t o root).find d ⟨t.position, o.includeDeclaration⟩
    ⟨report.answer.map (rendering o.json), announcement d root :: report.events⟩

/-- Prints the offset. -/
def offset (h : Host) (t : Target) : Report Text :=
  match h.openDocument t.file with
  | .error fault => ⟨.error fault, []⟩
  | .ok d => ⟨(d.offset t.unit t.position).map Text.decimal, []⟩

/-- Carries out a command. -/
def execute (h : Host) : Command → Report Text
  | .find t o => find h t o
  | .offset t => offset h t

/-- The arguments of the search tool, if a command comes to starting it. -/
def ran? (h : Host) : Command → Option (List Text)
  | .find t o => (find h t o).query?.bind fun q => (tool h t o q).ran?
  | .offset _ => none

/-- Whether a command's faults are printed as JSON. -/
def isJson : Command → Bool
  | .find _ o => o.json
  | .offset _ => false

/-! ### What is printed -/

/-- The environment variable that says which records are shown. -/
def filterVariable : String := "RUST_LOG"

/-- The specification of the filter. -/
def specification (h : Host) : Text := (h.environmentValue? filterVariable).getD []

/-- A text with a line feed behind it. -/
def line (t : Text) : Text := t ++ ['\n']

/-- The text for what is wrong with the specification of the filter. -/
def complaints (h : Host) : Text :=
  (LogFilter.complaints (specification h)).flatMap fun e =>
    line ("warning: ".toList ++ e.message ++ ", ignoring it".toList)

/-- The text for a record, if it is shown. No control reaches a terminal, and
a line feed inside a sequence that is not finished does not either. -/
def recordText (filter? : Option LogFilter) (r : LogRecord) : Text :=
  match filter? with
  | none => []
  | some filter => if filter.shows r then Terminal.plain (line r.toText) else []

/-- The text for an event. A message for the user is recorded and shown. -/
def eventText (filter? : Option LogFilter) : Event → Text
  | .record r => recordText filter? r
  | .call (.inform message) => recordText filter? ⟨.info, .workspace, message⟩ ++ line message
  | .call _ => []

end Program

namespace Outcome

/-- The exit status of a command that failed. -/
def failure : UInt8 := 1

/-- What a finished command leaves behind. `log` is the text printed on the
way. -/
def ofReport (json : Bool) (answer : Except Fault Text) (log : Text) : Outcome :=
  match answer with
  | .ok output => ⟨0, if output = [] then [] else Program.line output, log, none⟩
  | .error fault =>
    if json then ⟨failure, Program.line (Payload.failed fault).compact, log, none⟩
    else ⟨failure, [], log ++ Program.line ("Error: ".toList ++ fault.message), none⟩

/-- What is left behind if the arguments are refused. -/
def ofRefusal (refusal : Refusal) : Outcome :=
  match refusal with
  | .help scope => ⟨refusal.exitStatus, Program.line (Usage.help scope), [], none⟩
  | .version => ⟨refusal.exitStatus, Program.line Usage.versionLine, [], none⟩
  | _ => ⟨refusal.exitStatus, [], Program.line ("error: ".toList ++ refusal.message), none⟩

end Outcome

namespace Program

/-- What a command prints on the standard error on its way. -/
def log (h : Host) (verbose : Bool) (events : List Event) : Text :=
  if verbose then
    complaints h ++ events.flatMap (eventText (some (LogFilter.ofSpecification (specification h))))
  else events.flatMap (eventText none)

/-- A run of the program. -/
def run (h : Host) (arguments : List Text) : Outcome :=
  match Invocation.ofArguments arguments with
  | .error refusal => Outcome.ofRefusal refusal
  | .ok ⟨verbose, command⟩ =>
    let report := execute h command
    { Outcome.ofReport (isJson command) report.answer (log h verbose report.events) with
      ran? := ran? h command }

end Program

end GoXref
