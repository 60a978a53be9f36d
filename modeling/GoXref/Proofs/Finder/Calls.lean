import GoXref.Proofs.Listing.Violation
import GoXref.Proofs.Session

/-!
# `GoXref.Proofs.Finder.Calls`: the calls that a request makes

A request calls the editor and the search tool in a fixed order. Which calls
are made depends on three answers only: whether there are unsaved edits,
whether the document has the line, and whether the tool is there. What comes
of saving and what the tool prints make no difference.

* `Finder.protocol`: the calls, said from these answers.
* `Finder.answer_find`: the answer, case by case over what the tool says.
* `Finder.Obeys`: what holds of one report: its calls are those of the
  protocol, and its answer tells how far the request came.
* `find_obeys_protocol`: every report obeys, and the calls of several requests are
  those of each of them, one after the other.
-/

set_option autoImplicit false

namespace GoXref

/-! ### Calls among events -/

/-- The calls among some events. -/
def callsOf (events : List Event) : List Call :=
  events.filterMap fun event =>
    match event with
    | .call c => some c
    | .record _ => none

/-- The calls of a report are those among its events. -/
theorem Report.calls_eq {α : Type} (r : Report α) : r.calls = callsOf r.events := rfl

@[simp] theorem callsOf_nil : callsOf [] = [] := rfl

@[simp] theorem callsOf_call (c : Call) (events : List Event) :
    callsOf (.call c :: events) = c :: callsOf events := rfl

@[simp] theorem callsOf_record (r : LogRecord) (events : List Event) :
    callsOf (.record r :: events) = callsOf events := rfl

@[simp] theorem callsOf_append (before after : List Event) :
    callsOf (before ++ after) = callsOf before ++ callsOf after := List.filterMap_append

/-- Records are no calls. -/
@[simp] theorem callsOf_map_record (records : List LogRecord) :
    callsOf (records.map Event.record) = [] := by
  induction records with
  | nil => rfl
  | cons r records ih => rw [List.map_cons, callsOf_record, ih]

/-- The calls among some events are those that some event makes. -/
theorem mem_callsOf_iff {c : Call} {events : List Event} :
    c ∈ callsOf events ↔ .call c ∈ events := by
  rw [callsOf, List.mem_filterMap]
  constructor
  · rintro ⟨event, hevent, hcall⟩
    cases event with
    | call c' => rwa [← Option.some.inj hcall]
    | record r => exact nomatch hcall
  · exact fun h => ⟨_, h, rfl⟩

/-- The message that a call shows, if it shows one. -/
def Call.message? : Call → Option Text
  | .inform message => some message
  | _ => none

/-- The messages of a report are those of its calls. -/
theorem Report.notices_eq {α : Type} (r : Report α) :
    r.notices = r.calls.filterMap Call.message? := rfl

/-! ### The line of a request -/

/-- A position has an offset exactly if its line is there. -/
theorem Document.isSome_offset?_iff (d : Document) (unit : OffsetUnit) (p : Position) :
    (d.offset? unit p).isSome ↔ p.line.toNat < d.lines.length := by
  simp only [offset?, charIndex?, lineContent?, Option.isSome_map, isSome_getElem?]

namespace Finder

/-- The query of a request, if the document has the line. -/
def query? (f : Finder) (d : Document) (r : Request) : Option Query :=
  (d.offset? f.settings.unit r.position).map fun offset =>
    ⟨Path.forwardSlashes d.path, offset, f.editor.root⟩

/-- What the search tool says to a request, if it is asked. -/
def outcome? (f : Finder) (d : Document) (r : Request) : Option (Except Fault Answer) :=
  (f.query? d r).map fun q => (f.tool q).outcome

/-- There is a query exactly if the line is there. -/
theorem isSome_query?_iff (f : Finder) (d : Document) (r : Request) :
    (f.query? d r).isSome ↔ r.position.line.toNat < d.lines.length := by
  rw [query?, Option.isSome_map, Document.isSome_offset?_iff]

/-- A query is made, or the missing line is reported. -/
theorem ofPosition_eq (f : Finder) (d : Document) (r : Request) :
    Query.ofPosition f.settings f.editor.root d r.position = match f.query? d r with
      | some q => .ok q
      | none => .error (.invalidPosition d.path r.position d.lines.length) := by
  unfold Query.ofPosition Document.offset query?
  cases d.offset? f.settings.unit r.position with
  | none => rfl
  | some offset => rfl

/-! ### One request -/

/-- The calls of the first step: the editor is asked for unsaved edits, and
told to save if there are any. -/
def savingCalls (e : Editor) : List Call := .anyDirty :: if e.dirty then [.saveAll] else []

/-- The message that a missing tool is answered with. -/
def notice : Option (Except Fault Answer) → List Call
  | some (.ok .notInstalled) => [.inform installNotice]
  | _ => []

/-- The calls of a request, in order: those of saving; the tool is asked if
the line is there; and a message is shown if the tool is missing. -/
def protocol (f : Finder) (d : Document) (r : Request) : List Call :=
  savingCalls f.editor ++ (f.query? d r).toList.map Call.search ++ notice (f.outcome? d r)

/-- Saving takes one call or two. -/
theorem callsOf_saving (e : Editor) : callsOf (saving e) = savingCalls e := by
  unfold saving savingCalls
  cases e.dirty with
  | false => rfl
  | true =>
      cases e.saving with
      | ok _ => rfl
      | error fault => rfl

/-- A cursor that is on no word takes no call. -/
theorem callsOf_noWord (d : Document) (p : Position) : callsOf (noWord d p) = [] := by
  unfold noWord
  cases d.wordAt? p with
  | none => rfl
  | some word => rfl

/-- After the tool's answer a missing tool alone takes a call. -/
theorem callsOf_conclude (policy : Policy) (q : Query) (width : UInt32)
    (outcome : Except Fault Answer) :
    callsOf (conclude policy q width outcome).events = notice (some outcome) := by
  cases outcome with
  | error fault => rfl
  | ok answer =>
      cases answer with
      | notInstalled => rfl
      | listing text =>
          cases hread : Listing.read policy text with
          | error fault =>
              simp only [conclude, hread, callsOf_map_record]
              rfl
          | ok locations =>
              simp only [conclude, hread, callsOf_append, callsOf_map_record]
              rfl

/-- The calls of a request are those of the protocol. -/
theorem calls_find (f : Finder) (d : Document) (r : Request) :
    (f.find d r).calls = f.protocol d r := by
  rw [Report.calls_eq]
  unfold find protocol outcome?
  rw [ofPosition_eq]
  cases f.query? d r with
  | none =>
      -- Without a query the request ends after saving.
      show callsOf (saving f.editor ++ noWord d r.position) = _ ++ [] ++ []
      rw [callsOf_append, callsOf_saving, callsOf_noWord, List.append_nil, List.append_nil]
  | some q =>
      simp only [callsOf_append, callsOf_saving, callsOf_noWord, callsOf_call,
        callsOf_map_record, callsOf_conclude, Option.toList_some, Option.map_some,
        List.map_cons, List.map_nil, List.append_nil]

/-- The answer to a request, by what the search tool says. If it is not
asked, the line is missing. A fault of the tool is handed on, and so is what
a reader objects to in its listing. -/
theorem answer_find (f : Finder) (d : Document) (r : Request) :
    (f.find d r).answer = match f.outcome? d r with
      | none => .error (.invalidPosition d.path r.position d.lines.length)
      | some (.error fault) => .error fault
      | some (.ok .notInstalled) => .ok none
      | some (.ok (.listing text)) =>
        match Listing.read f.settings.policy text with
        | .error fault => .error fault
        | .ok locations => .ok (some (locations.map (Occurrence.ofLocation
            (Path.parent (Path.forwardSlashes d.path)) (width d r.position)))) := by
  -- The directory that `find` resolves against is that of the query's file.
  have hfile : ∀ q ∈ f.query? d r, q.file = Path.forwardSlashes d.path := by
    intro q hq
    obtain ⟨offset, -, rfl⟩ := Option.map_eq_some_iff.mp hq
    rfl
  unfold find outcome?
  rw [ofPosition_eq]
  cases hq : f.query? d r with
  | none => rfl
  | some q =>
      rw [← hfile q hq]
      show (conclude _ q _ (f.tool q).outcome).answer = _
      cases houtcome : (f.tool q).outcome with
      | error fault => simp only [conclude, Option.map_some, houtcome]
      | ok answer =>
          cases answer with
          | notInstalled => simp only [conclude, Option.map_some, houtcome]
          | listing text =>
              simp only [conclude, Option.map_some, houtcome]
              cases Listing.read f.settings.policy text with
              | error fault => rfl
              | ok locations => rfl

/-- Saving shows no message, and asks nothing of the tool. -/
theorem mem_savingCalls {e : Editor} {c : Call} (h : c ∈ savingCalls e) :
    c = .anyDirty ∨ c = .saveAll := by
  unfold savingCalls at h
  cases hdirty : e.dirty with
  | false => simp_all
  | true => simp_all

/-- What is looked for among the calls of saving is not there, if it is
neither of the two. -/
theorem filterMap_savingCalls {α : Type} {g : Call → Option α} (hdirty : g .anyDirty = none)
    (hsave : g .saveAll = none) (e : Editor) : (savingCalls e).filterMap g = [] := by
  rw [List.filterMap_eq_nil_iff]
  intro c hc
  rcases mem_savingCalls hc with rfl | rfl
  · exact hdirty
  · exact hsave

/-- The messages of a request: one if the tool is missing, and else none. -/
theorem notices_find (f : Finder) (d : Document) (r : Request) :
    (f.find d r).notices = match f.outcome? d r with
      | some (.ok .notInstalled) => [installNotice]
      | _ => [] := by
  have hsaving : (savingCalls f.editor).filterMap Call.message? = [] :=
    filterMap_savingCalls rfl rfl f.editor
  have hsearch : ((f.query? d r).toList.map Call.search).filterMap Call.message? = [] := by
    cases f.query? d r <;> rfl
  rw [Report.notices_eq, calls_find, protocol, List.filterMap_append, List.filterMap_append,
    hsaving, hsearch]
  unfold notice
  split <;> rfl

/-- The tool is asked the query of the request, and no other. -/
theorem search_mem_protocol_iff (f : Finder) (d : Document) (r : Request) (q : Query) :
    .search q ∈ f.protocol d r ↔ f.query? d r = some q := by
  have hsaving : .search q ∉ savingCalls f.editor := by
    intro h
    rcases mem_savingCalls h with h | h <;> exact nomatch h
  have hnotice : .search q ∉ notice (f.outcome? d r) := by
    unfold notice
    split <;> simp
  rw [protocol, List.mem_append, List.mem_append, or_iff_left hnotice, or_iff_right hsaving]
  simp [eq_comm]

/-! ### What holds of a report -/

/-- Every fault of the search tool says that the tool failed. -/
def FailsAsTool (f : Finder) : Prop :=
  ∀ q fault, (f.tool q).outcome = .error fault → ∃ program cause, fault = .toolFailed program cause

/-- The faults of a program that is run as the search tool say so. -/
theorem failsAsTool_search (h : Host) (program : Text) (e : Editor) (s : Settings) :
    FailsAsTool ⟨e, h.search program, s⟩ := by
  intro q fault hfault
  replace hfault : (h.search program q).outcome = .error fault := hfault
  unfold Host.search at hfault
  split at hfault
  · exact nomatch hfault
  · split at hfault
    · exact nomatch hfault
    · exact ⟨_, _, (Except.error.inj hfault).symm⟩

/-- What holds of the report of a request. -/
structure Obeys (f : Finder) (d : Document) (r : Request) (report : Report Found) : Prop where
  /-- The calls are those of the protocol, in its order. -/
  calls : report.calls = f.protocol d r
  /-- The tool is asked exactly if the line is there. -/
  search_iff : (∃ q, .search q ∈ report.calls) ↔ r.position.line.toNat < d.lines.length
  /-- There is no list of occurrences exactly if the tool is missing. -/
  missing_iff : report.answer = .ok none ↔ f.outcome? d r = some (.ok .notInstalled)
  /-- The position is refused without a search exactly if the line is not
  there. -/
  noLine_iff :
    (report.answer = .error (.invalidPosition d.path r.position d.lines.length)
      ∧ ¬ ∃ q, .search q ∈ report.calls) ↔ d.lines.length ≤ r.position.line.toNat
  /-- A fault of the tool is the answer, and no message is shown. -/
  fault_of_tool : ∀ fault, f.outcome? d r = some (.error fault) →
    report.answer = .error fault ∧ report.notices = []
  /-- Every fault is that of the line, of the tool, or of the listing. -/
  error_iff : ∀ fault, report.answer = .error fault ↔
    (d.lines.length ≤ r.position.line.toNat
        ∧ fault = .invalidPosition d.path r.position d.lines.length)
      ∨ f.outcome? d r = some (.error fault)
      ∨ ∃ text, f.outcome? d r = some (.ok (.listing text))
        ∧ Listing.read f.settings.policy text = .error fault
  /-- The kind of fault tells where the request ended, if the tool's faults
  can be told from the others. -/
  kind_iff : f.FailsAsTool →
    ((∃ file position count, report.answer = .error (.invalidPosition file position count))
        ↔ d.lines.length ≤ r.position.line.toNat)
      ∧ ((∃ program cause, report.answer = .error (.toolFailed program cause))
        ↔ ∃ fault, f.outcome? d r = some (.error fault))

/-- There is no outcome exactly if the line is not there. -/
theorem outcome?_eq_none_iff (f : Finder) (d : Document) (r : Request) :
    f.outcome? d r = none ↔ d.lines.length ≤ r.position.line.toNat := by
  rw [outcome?, Option.map_eq_none_iff, ← Option.not_isSome_iff_eq_none, isSome_query?_iff,
    Nat.not_lt]

/-- A fault is that of the line, of the tool, or of the listing. -/
theorem answer_eq_error_iff (f : Finder) (d : Document) (r : Request) (fault : Fault) :
    (f.find d r).answer = .error fault ↔
      (d.lines.length ≤ r.position.line.toNat
          ∧ fault = .invalidPosition d.path r.position d.lines.length)
        ∨ f.outcome? d r = some (.error fault)
        ∨ ∃ text, f.outcome? d r = some (.ok (.listing text))
          ∧ Listing.read f.settings.policy text = .error fault := by
  rw [answer_find, ← outcome?_eq_none_iff]
  cases houtcome : f.outcome? d r with
  | none => simp [eq_comm]
  | some outcome =>
      cases outcome with
      | error fault' => simp
      | ok answer =>
          cases answer with
          | notInstalled => simp
          | listing text =>
              cases hread : Listing.read f.settings.policy text with
              | error fault' => simp [hread]
              | ok locations => simp [hread]

/-- There is no list of occurrences exactly if the tool is missing. -/
theorem answer_eq_none_iff (f : Finder) (d : Document) (r : Request) :
    (f.find d r).answer = .ok none ↔ f.outcome? d r = some (.ok .notInstalled) := by
  rw [answer_find]
  cases houtcome : f.outcome? d r with
  | none => simp
  | some outcome =>
      cases outcome with
      | error fault => simp
      | ok answer =>
          cases answer with
          | notInstalled => simp
          | listing text =>
              cases hread : Listing.read f.settings.policy text with
              | error fault => simp [hread]
              | ok locations => simp [hread]

/-- The tool is asked exactly if the line is there. -/
theorem search_mem_calls_iff (f : Finder) (d : Document) (r : Request) :
    (∃ q, .search q ∈ (f.find d r).calls) ↔ r.position.line.toNat < d.lines.length := by
  rw [calls_find, ← isSome_query?_iff, Option.isSome_iff_exists]
  exact exists_congr fun q => search_mem_protocol_iff f d r q

/-- What the tool says to a request fails as the tool does. -/
theorem toolFailed_of_outcome? {f : Finder} (h : f.FailsAsTool) {d : Document} {r : Request}
    {fault : Fault} (hfault : f.outcome? d r = some (.error fault)) :
    ∃ program cause, fault = .toolFailed program cause := by
  obtain ⟨q, -, hq⟩ := Option.map_eq_some_iff.mp hfault
  exact h q fault hq

/-- If the tool's faults can be told from the others, a position is refused
exactly if its line is not there. -/
theorem invalidPosition_iff_of_failsAsTool {f : Finder} (h : f.FailsAsTool) (d : Document)
    (r : Request) :
    (∃ file position count, (f.find d r).answer = .error (.invalidPosition file position count))
      ↔ d.lines.length ≤ r.position.line.toNat := by
  constructor
  · rintro ⟨file, position, count, hanswer⟩
    -- Neither the tool nor a listing can be the origin of such a fault.
    rcases (answer_eq_error_iff f d r _).mp hanswer with hline | hfault | ⟨text, -, hread⟩
    · exact hline.1
    · obtain ⟨program, cause, heq⟩ := toolFailed_of_outcome? h hfault
      exact nomatch heq
    · obtain ⟨number, line, reason, heq, -⟩ := Listing.malformed_of_read hread
      exact nomatch heq
  · intro hline
    exact ⟨_, _, _, (answer_eq_error_iff f d r _).mpr (.inl ⟨hline, rfl⟩)⟩

/-- If the tool's faults can be told from the others, a request fails as the
tool does exactly if the tool failed. -/
theorem toolFailed_iff_of_failsAsTool {f : Finder} (h : f.FailsAsTool) (d : Document)
    (r : Request) :
    (∃ program cause, (f.find d r).answer = .error (.toolFailed program cause))
      ↔ ∃ fault, f.outcome? d r = some (.error fault) := by
  constructor
  · rintro ⟨program, cause, hanswer⟩
    -- Neither a missing line nor a listing can be the origin of such a fault.
    rcases (answer_eq_error_iff f d r _).mp hanswer with hline | hfault | ⟨text, -, hread⟩
    · exact nomatch hline.2
    · exact ⟨_, hfault⟩
    · obtain ⟨number, line, reason, heq, -⟩ := Listing.malformed_of_read hread
      exact nomatch heq
  · rintro ⟨fault, hfault⟩
    obtain ⟨program, cause, rfl⟩ := toolFailed_of_outcome? h hfault
    exact ⟨program, cause, (answer_eq_error_iff f d r _).mpr (.inr (.inl hfault))⟩

/-- The report of every request obeys. -/
theorem obeys_find (f : Finder) (d : Document) (r : Request) : f.Obeys d r (f.find d r) where
  calls := calls_find f d r
  search_iff := search_mem_calls_iff f d r
  missing_iff := answer_eq_none_iff f d r
  noLine_iff := by
    rw [search_mem_calls_iff, Nat.not_lt, answer_find]
    refine ⟨fun h => h.2, fun h => ⟨?_, h⟩⟩
    rw [(outcome?_eq_none_iff f d r).mpr h]
  fault_of_tool := by
    intro fault hfault
    rw [answer_find, notices_find, hfault]
    exact ⟨rfl, rfl⟩
  error_iff := answer_eq_error_iff f d r
  kind_iff := fun h =>
    ⟨invalidPosition_iff_of_failsAsTool h d r, toolFailed_iff_of_failsAsTool h d r⟩

end Finder

/-! ### Sequences of requests -/

/-- The calls of several requests, one after the other. -/
theorem Finder.flatMap_calls_find (requests : List (Finder × Document × Request)) :
    (requests.map fun (f, d, r) => f.find d r).flatMap Report.calls
      = requests.flatMap fun (f, d, r) => f.protocol d r := by
  rw [List.flatMap_map]
  congr 1
  funext ⟨f, d, r⟩
  exact calls_find f d r

/-- The report of every request obeys the protocol, whatever the editor, the
tool, the document and the request are.

So the calls of any requests, one after the other, are those of the protocol, one
after the other. Everything may change between two requests. In a session it is
the steps that say what changes: each request is made in the state that the steps
before it have led to. There the document, what comes of saving and the tool are
those that were last put in place, and there are unsaved edits exactly if some were
there or were made, and have stayed unsaved since. -/
theorem find_obeys_protocol :
    (∀ (f : Finder) (d : Document) (r : Request), f.Obeys d r (f.find d r)) ∧
    (∀ requests : List (Finder × Document × Request),
      (requests.map fun (f, d, r) => f.find d r).flatMap Report.calls
        = requests.flatMap fun (f, d, r) => f.protocol d r) ∧
    ∀ (s : Session) (steps : List Step),
      (s.reports steps).flatMap Report.calls
        = ((s.requests steps).flatMap fun (s', r) => s'.finder.protocol s'.document r) ∧
      s.LeadsTo steps (steps.foldl Session.advance s) := by
  refine ⟨Finder.obeys_find, Finder.flatMap_calls_find, ?_⟩
  intro s steps
  refine ⟨?_, s.leadsTo_foldl_advance steps⟩
  -- The requests of a session are some of all that there are.
  have hcalls := Finder.flatMap_calls_find
    ((s.requests steps).map fun (s', r) => (s'.finder, s'.document, r))
  rw [List.map_map] at hcalls
  rw [Session.reports_eq_map]
  exact hcalls.trans (List.flatMap_map _ _ _)

end GoXref
