import GoXref.Host
import GoXref.Log
import GoXref.Query

/-!
# `GoXref.Search`: one run of the search tool

What the tool prints on its standard output is its answer, whichever way it
ends. That the tool is missing is an answer too; any other reason not to
start is a fault.

* `Host.search`: the outcome of a run, the records made on the way, and the
  arguments if the tool was started.
-/

set_option autoImplicit false

namespace GoXref

/-- What comes of a query. -/
inductive Answer where
  /-- The tool ran and printed this. -/
  | listing (text : Text)
  /-- There is no such tool. -/
  | notInstalled
deriving DecidableEq, Repr

/-- One run of the search tool, or the attempt at one. -/
structure Search where
  /-- What came of it. -/
  outcome : Except Fault Answer
  /-- The records made on the way. -/
  records : List LogRecord := []
  /-- The arguments of the run, `none` if the tool did not start. -/
  ran? : Option (List Text) := none

namespace Search

/-- The record made before the tool is started. -/
def announcement (program : Text) (q : Query) : LogRecord :=
  ⟨.debug, .tool, "Running ".toList ++ program ++ ' ' :: [' '].intercalate q.arguments⟩

/-- The record of a run that did not end as if all was well. -/
def warning? (run : Run) : Option LogRecord :=
  if run.ending.isSuccess then none
  else some ⟨.warn, .tool, toolName ++ " exited with ".toList ++ run.ending.toText
    ++ ": ".toList ++ Text.trim (Utf8.decodeLossy run.stderr)⟩

/-- The record of a missing tool. -/
def missing (program : Text) : LogRecord :=
  ⟨.debug, .tool, toolName ++ " not found at ".toList ++ program⟩

end Search

/-- Puts a query to the search tool at `program`. -/
def Host.search (h : Host) (program : Text) (q : Query) : Search :=
  match h.run program q.arguments with
  | .ok run =>
    ⟨.ok (.listing (Utf8.decodeLossy run.stdout)),
      Search.announcement program q :: (Search.warning? run).toList, some q.arguments⟩
  | .error cause =>
    if cause.isNotFound then
      ⟨.ok .notInstalled, [Search.announcement program q, Search.missing program], none⟩
    else ⟨.error (.toolFailed program cause), [Search.announcement program q], none⟩

end GoXref
