import GoXref.Finder

/-!
# `GoXref.Session`: several requests from one editor

A session holds what a request depends on: the document, whether there are
unsaved edits, what comes of saving, and the search tool. Between requests
the editor may change any of it. A request changes one thing only: if its
save went through, nothing is unsaved afterwards.

* `Session.request`: the report of a request in the state as it is.
* `Session.advance`: the state after a step.
* `Session.reports`: the reports of the requests among the steps, in order.
-/

set_option autoImplicit false

namespace GoXref

/-- The state of an editor session. -/
structure Session where
  /-- The root of the workspace. -/
  root : Text
  /-- How lookups are made. -/
  settings : Settings
  /-- The document with the cursor. -/
  document : Document
  /-- Whether there are unsaved edits. -/
  dirty : Bool
  /-- What comes of saving. -/
  saving : Except Fault Unit
  /-- The search tool. -/
  tool : Query → Search

/-- What can happen in a session. -/
inductive Step where
  /-- The document is replaced. -/
  | document (d : Document)
  /-- Edits are made, or saved elsewhere. -/
  | dirty (value : Bool)
  /-- Saving starts to work, or to fail. -/
  | saving (result : Except Fault Unit)
  /-- The search tool is replaced. -/
  | tool (answer : Query → Search)
  /-- A request is made. -/
  | find (r : Request)

namespace Session

/-- The editor as a request meets it. -/
def editor (s : Session) : Editor := ⟨s.root, s.dirty, s.saving⟩

/-- The finder as a request meets it. -/
def finder (s : Session) : Finder := ⟨s.editor, s.tool, s.settings⟩

/-- The report of a request in the state as it is. -/
def request (s : Session) (r : Request) : Report Found := s.finder.find s.document r

/-- The state after all documents were told to be saved. -/
def save (s : Session) : Session :=
  match s.saving with
  | .ok _ => { s with dirty := false }
  | .error _ => s

/-- The state after a step. -/
def advance (s : Session) : Step → Session
  | .document d => { s with document := d }
  | .dirty value => { s with dirty := value }
  | .saving result => { s with saving := result }
  | .tool answer => { s with tool := answer }
  | .find _ => if s.dirty then s.save else s

/-- The report of a step, if it is a request. -/
def report? (s : Session) : Step → Option (Report Found)
  | .find r => some (s.request r)
  | _ => none

/-- The reports of the requests among the steps, in order. -/
def reports (s : Session) : List Step → List (Report Found)
  | [] => []
  | step :: rest => (s.report? step).toList ++ (s.advance step).reports rest

end Session

end GoXref
