import GoXref.Fault
import GoXref.Document
import GoXref.Settings

/-!
# `GoXref.Query`: what the search tool is asked

A query names the file, the distance of the cursor from its start, and the
root of the workspace. The file is named with forward slashes.

* `Document.offset`: the distance, or the fault of a line that is not there.
* `Query.ofPosition`: the query for a position in a document.
* `Query.arguments`: the tool's arguments.
-/

set_option autoImplicit false

namespace GoXref

/-- The distance of a position from the start of the document. -/
def Document.offset (d : Document) (unit : OffsetUnit) (p : Position) : Except Fault Nat :=
  match d.offset? unit p with
  | some offset => .ok offset
  | none => .error (.invalidPosition d.path p d.lines.length)

/-- What the search tool is asked. -/
structure Query where
  /-- The file that holds the cursor. -/
  file : Text
  /-- The distance of the cursor from the start of the file. -/
  offset : Nat
  /-- The root of the workspace. -/
  root : Text
deriving DecidableEq, Repr

namespace Query

/-- The query for a position in a document. -/
def ofPosition (s : Settings) (root : Text) (d : Document) (p : Position) : Except Fault Query :=
  match d.offset s.unit p with
  | .ok offset => .ok ⟨Path.forwardSlashes d.path, offset, root⟩
  | .error fault => .error fault

/-- The arguments that put a query to the search tool. -/
def arguments (q : Query) : List Text :=
  ["-file".toList, q.file, "-offset".toList, Text.decimal q.offset, "-root".toList, q.root]

end Query

end GoXref
