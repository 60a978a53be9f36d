import GoXref.Occurrence
import GoXref.Search

/-!
# `GoXref.Finder`: one request for references

A request is answered in four steps. Unsaved edits are saved, as far as that
works. The position becomes a query, the query goes to the search tool, and
the tool's listing becomes a list of occurrences, each as wide as the word
under the cursor.

The answer comes with the events on the way: the calls made to the editor
and the tool, and the records, in order.

* `Finder.saving`: the events of the first step.
* `Finder.conclude`: what becomes of the tool's answer.
* `Finder.find`: the whole request.
-/

set_option autoImplicit false

namespace GoXref

/-- What the editor says when it is asked. -/
structure Editor where
  /-- The root of the workspace. -/
  root : Text
  /-- Whether a document has unsaved edits. -/
  dirty : Bool
  /-- What comes of saving all documents. -/
  saving : Except Fault Unit

namespace Editor

/-- The editor of a plain directory, where nothing is ever unsaved. -/
def ofDirectory (root : Text) : Editor := ⟨root, false, .ok ()⟩

end Editor

/-- What is asked for. -/
structure Request where
  /-- The place of the cursor. -/
  position : Position
  /-- Whether the declaration is wanted too. The search tool has no such
  switch, so the answer is the same either way. -/
  includeDeclaration : Bool := true
deriving DecidableEq, Repr

/-- A call made on the way. -/
inductive Call where
  /-- The editor is asked whether there are unsaved edits. -/
  | anyDirty
  /-- The editor is told to save. -/
  | saveAll
  /-- The search tool is asked. -/
  | search (q : Query)
  /-- The editor is told to show a message. -/
  | inform (message : Text)
deriving DecidableEq, Repr

/-- What happens on the way. -/
inductive Event where
  /-- A call is made. -/
  | call (c : Call)
  /-- A record is made. -/
  | record (r : LogRecord)
deriving DecidableEq, Repr

/-- An answered request, and what happened on the way. -/
structure Report (α : Type) where
  /-- The answer. -/
  answer : Except Fault α
  /-- What happened on the way. -/
  events : List Event

namespace Report

variable {α : Type}

/-- The calls made on the way. -/
def calls (r : Report α) : List Call :=
  r.events.filterMap fun event =>
    match event with
    | .call c => some c
    | .record _ => none

/-- The records made on the way. -/
def records (r : Report α) : List LogRecord :=
  r.events.filterMap fun event =>
    match event with
    | .call _ => none
    | .record record => some record

/-- The messages shown on the way. -/
def notices (r : Report α) : List Text :=
  r.calls.filterMap fun c =>
    match c with
    | .inform message => some message
    | _ => none

/-- The query put to the search tool, if it came to that. -/
def query? (r : Report α) : Option Query :=
  r.calls.findSome? fun c =>
    match c with
    | .search q => some q
    | _ => none

end Report

/-- The occurrences that were found, `none` if the search tool is missing. -/
abbrev Found := Option (List Occurrence)

/-- The parts a request is answered with. -/
structure Finder where
  /-- The editor. -/
  editor : Editor
  /-- The search tool. -/
  tool : Query → Search
  /-- How lookups are made. -/
  settings : Settings

namespace Finder

/-- A debug record of the finder. -/
def debug (message : Text) : Event := .record ⟨.debug, .finder, message⟩

/-- Saving unsaved edits. A failure is recorded and then left alone. -/
def saving (e : Editor) : List Event :=
  .call .anyDirty ::
    if e.dirty then
      debug "Saving dirty documents before searching".toList :: .call .saveAll ::
        match e.saving with
        | .ok _ => []
        | .error fault =>
          [.record ⟨.warn, .finder,
            "Save before search failed, searching anyway: ".toList ++ fault.message⟩]
    else []

/-- The number of columns of the word under the cursor, zero if there is
none. -/
def width (d : Document) (p : Position) : UInt32 :=
  match d.wordAt? p with
  | some word => word.width
  | none => 0

/-- The record of a cursor that is on no word. -/
def noWord (d : Document) (p : Position) : List Event :=
  match d.wordAt? p with
  | some _ => []
  | none =>
    [debug ("No word at ".toList ++ Text.decimal p.line.toNat ++ ':' :: Text.decimal p.column.toNat
      ++ ", references will be empty ranges".toList)]

/-- The occurrences at the locations of a listing, for a word of `width`
columns in the file of the query. -/
def occurrences (q : Query) (width : UInt32) (locations : List Location) : List Occurrence :=
  locations.map (Occurrence.ofLocation (Path.parent q.file) width)

/-- The record of a request that went through. -/
def success (q : Query) (count : Nat) : Event :=
  debug ("Found ".toList ++ Text.decimal count ++ " references from ".toList ++ q.file
    ++ " at offset ".toList ++ Text.decimal q.offset)

/-- What becomes of the tool's answer to a query. -/
def conclude (policy : Policy) (q : Query) (width : UInt32) : Except Fault Answer → Report Found
  | .error fault => ⟨.error fault, []⟩
  | .ok .notInstalled => ⟨.ok none, [.call (.inform installNotice)]⟩
  | .ok (.listing text) =>
    let skips := (Listing.skips policy text).map Event.record
    match Listing.read policy text with
    | .error fault => ⟨.error fault, skips⟩
    | .ok locations =>
      ⟨.ok (some (occurrences q width locations)), skips ++ [success q locations.length]⟩

/-- Answers a request for a document. -/
def find (f : Finder) (d : Document) (r : Request) : Report Found :=
  let before := saving f.editor ++ noWord d r.position
  match Query.ofPosition f.settings f.editor.root d r.position with
  | .error fault => ⟨.error fault, before⟩
  | .ok q =>
    let search := f.tool q
    let after := conclude f.settings.policy q (width d r.position) search.outcome
    ⟨after.answer,
      before ++ .call (.search q) :: search.records.map Event.record ++ after.events⟩

end Finder

end GoXref
