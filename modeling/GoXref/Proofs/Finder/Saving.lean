import GoXref.Proofs.Finder.Found

/-!
# `GoXref.Proofs.Finder.Saving`: saving makes no difference to what is found

Before a request looks anything up, it has unsaved edits saved, as far as that
works. The editor's answers on the way, and the request's switch for
declarations, reach neither the tool nor the answer.

* `Finder.lookup`: a request without its first step. It is not told about
  unsaved edits, saving or the switch.
* `find_eq_lookup`: a request is saving, and then this.
* `Session.shown_reports`: the same over a whole session: what it shows depends
  on the steps that have nothing to do with saving.
* `saving_indifferent`: two requests that differ in nothing else are the same
  but for the events of saving, and so are sessions.
-/

set_option autoImplicit false

namespace GoXref

/-- The events of saving: the two calls to the editor, and the two records. -/
inductive Event.OfSaving : Event → Prop where
  /-- The editor is asked whether there are unsaved edits. -/
  | asked : OfSaving (.call .anyDirty)
  /-- It is recorded that there are. -/
  | announced : OfSaving (Finder.debug "Saving dirty documents before searching".toList)
  /-- The editor is told to save. -/
  | told : OfSaving (.call .saveAll)
  /-- It is recorded that this did not work. -/
  | failed (fault : Fault) : OfSaving (.record ⟨.warn, .finder,
      "Save before search failed, searching anyway: ".toList ++ fault.message⟩)

/-- What a report shows to others than the editor's saving: the answer, the
queries that the tool got, and the messages. -/
def Report.shown {α : Type} (report : Report α) : Except Fault α × List Query × List Text :=
  (report.answer, report.calls.filterMap Call.query?, report.notices)

/-! ### One request -/

namespace Finder

/-- A request after its first step. Of the editor it knows the root alone, and
of the request the position. -/
def lookup (root : Text) (tool : Query → Search) (settings : Settings) (d : Document)
    (p : Position) : Report Found :=
  match Query.ofPosition settings root d p with
  | .error fault => ⟨.error fault, noWord d p⟩
  | .ok q =>
    let search := tool q
    let after := conclude settings.policy q (width d p) search.outcome
    ⟨after.answer,
      noWord d p ++ (.call (.search q) :: search.records.map Event.record ++ after.events)⟩

/-- A request saves, and then looks up. -/
theorem find_eq_lookup (f : Finder) (d : Document) (r : Request) :
    f.find d r = ⟨(lookup f.editor.root f.tool f.settings d r.position).answer,
      saving f.editor ++ (lookup f.editor.root f.tool f.settings d r.position).events⟩ := by
  unfold find lookup
  cases Query.ofPosition f.settings f.editor.root d r.position with
  | error fault => rfl
  | ok q => simp only [List.append_assoc]

/-- Every event of saving is one of the four. -/
theorem ofSaving_of_mem_saving (e : Editor) : ∀ event ∈ saving e, event.OfSaving := by
  unfold saving
  refine List.forall_mem_cons.mpr ⟨.asked, ?_⟩
  split
  · refine List.forall_mem_cons.mpr ⟨.announced, List.forall_mem_cons.mpr ⟨.told, ?_⟩⟩
    split
    · exact fun event hevent => nomatch hevent
    · exact List.forall_mem_singleton.mpr (.failed _)
  · exact fun event hevent => nomatch hevent

/-- After saving, the tool is asked, and a message is shown if it is missing. -/
theorem calls_lookup (f : Finder) (d : Document) (r : Request) :
    (lookup f.editor.root f.tool f.settings d r.position).calls
      = (f.query? d r).toList.map Call.search ++ notice (f.outcome? d r) := by
  have hcalls := calls_find f d r
  rw [find_eq_lookup, Report.calls_eq, callsOf_append, callsOf_saving, protocol,
    List.append_assoc, List.append_cancel_left_eq] at hcalls
  exact hcalls

/-- After saving, the editor is neither asked for unsaved edits nor told to
save. -/
theorem call_notMem_lookup (f : Finder) (d : Document) (r : Request) {c : Call}
    (hc : c = .anyDirty ∨ c = .saveAll) :
    .call c ∉ (lookup f.editor.root f.tool f.settings d r.position).events := by
  rw [← mem_callsOf_iff, ← Report.calls_eq, calls_lookup, List.mem_append, List.mem_map]
  rintro (⟨q, -, hsearch⟩ | hnotice)
  · rcases hc with rfl | rfl <;> exact nomatch hsearch
  · unfold notice at hnotice
    split at hnotice
    · obtain rfl := List.mem_singleton.mp hnotice
      rcases hc with hc | hc <;> exact nomatch hc
    · exact nomatch hnotice

/-- What a request shows is what it shows after saving. -/
theorem shown_find (f : Finder) (d : Document) (r : Request) :
    (f.find d r).shown = (lookup f.editor.root f.tool f.settings d r.position).shown := by
  have hqueries : (savingCalls f.editor).filterMap Call.query? = [] :=
    filterMap_savingCalls rfl rfl f.editor
  have hmessages : (savingCalls f.editor).filterMap Call.message? = [] :=
    filterMap_savingCalls rfl rfl f.editor
  rw [find_eq_lookup]
  simp only [Report.shown, Report.notices_eq, Report.calls_eq, callsOf_append, callsOf_saving,
    List.filterMap_append, hqueries, hmessages, List.nil_append]

end Finder

/-! ### A session -/

/-- What a step is to the search: nothing if it has to do with saving, and for
a request the position alone. -/
def Step.essence? : Step → Option Step
  | .dirty _ => none
  | .saving _ => none
  | .find r => some (.find { position := r.position })
  | step => some step

namespace Session

/-- The session with nothing unsaved. -/
def saved (s : Session) : Session := { s with dirty := false, saving := .ok () }

/-- What a request shows does not depend on what is unsaved. -/
theorem shown_request (s : Session) (r : Request) :
    (s.request r).shown = (s.saved.request { position := r.position }).shown := by
  rw [request, request, Finder.shown_find, Finder.shown_find]
  rfl

/-- A request changes no more than what is unsaved. -/
theorem saved_advance_find (s : Session) (r : Request) : (s.advance (.find r)).saved = s.saved := by
  show (if s.dirty then s.save else s).saved = s.saved
  unfold save
  cases s.dirty with
  | false => rfl
  | true => cases s.saving <;> rfl

/-- What a session shows is what it shows with nothing unsaved, and without the
steps that have to do with saving. -/
theorem shown_reports (s : Session) (steps : List Step) :
    (s.reports steps).map Report.shown
      = (s.saved.reports (steps.filterMap Step.essence?)).map Report.shown := by
  -- On the steps, for every state at the start. A step that stays does the same
  -- to the two states, and one that goes does nothing to the second.
  induction steps generalizing s with
  | nil => rfl
  | cons step rest ih =>
      rw [reports, List.map_append, ih]
      cases step with
      | document d => rfl
      | dirty value => rfl
      | saving result => rfl
      | tool answer => rfl
      | find r =>
          rw [saved_advance_find]
          show (s.request r).shown :: _ = (s.saved.request { position := r.position }).shown :: _
          rw [shown_request]
          rfl

end Session

/-- Saving makes no difference, and neither does the switch for declarations.

Two requests that agree in document, position, settings, root and tool get the
same answer, put the same query to the tool, and show the same messages. Their
events are those of saving, which may differ, and then the same for both,
without another call to ask for unsaved edits or to save.

So a session shows what it would show with nothing unsaved at its start, and
without the steps that change what is unsaved or what comes of saving. -/
theorem saving_indifferent :
    (∀ (root : Text) (tool : Query → Search) (settings : Settings) (d : Document) (p : Position)
      (dirty dirty' : Bool) (saving saving' : Except Fault Unit)
      (includeDeclaration includeDeclaration' : Bool),
      let report := Finder.find ⟨⟨root, dirty, saving⟩, tool, settings⟩ d ⟨p, includeDeclaration⟩
      let report' := Finder.find ⟨⟨root, dirty', saving'⟩, tool, settings⟩ d
        ⟨p, includeDeclaration'⟩
      report.answer = report'.answer ∧
      report.calls.filterMap Call.query? = report'.calls.filterMap Call.query? ∧
      report.notices = report'.notices ∧
      ∃ before before' after, report.events = before ++ after ∧ report'.events = before' ++ after ∧
        (∀ event ∈ before ++ before', event.OfSaving) ∧
        Event.call .anyDirty ∉ after ∧ Event.call .saveAll ∉ after) ∧
    ∀ (s : Session) (steps : List Step),
      (s.reports steps).map Report.shown
        = (s.saved.reports (steps.filterMap Step.essence?)).map Report.shown := by
  constructor
  · intro root tool settings d p dirty dirty' saving saving' switch switch' report report'
    have hfind := Finder.find_eq_lookup ⟨⟨root, dirty, saving⟩, tool, settings⟩ d ⟨p, switch⟩
    have hfind' := Finder.find_eq_lookup ⟨⟨root, dirty', saving'⟩, tool, settings⟩ d ⟨p, switch'⟩
    have hshown : report.shown = report'.shown :=
      (Finder.shown_find ⟨⟨root, dirty, saving⟩, tool, settings⟩ d ⟨p, switch⟩).trans
        (Finder.shown_find ⟨⟨root, dirty', saving'⟩, tool, settings⟩ d ⟨p, switch'⟩).symm
    have hcall {c : Call} (hc : c = .anyDirty ∨ c = .saveAll) :=
      Finder.call_notMem_lookup ⟨⟨root, dirty, saving⟩, tool, settings⟩ d ⟨p, switch⟩ hc
    simp only [Report.shown, Prod.mk.injEq] at hshown
    obtain ⟨hanswer, hqueries, hnotices⟩ := hshown
    refine ⟨hanswer, hqueries, hnotices, Finder.saving ⟨root, dirty, saving⟩,
      Finder.saving ⟨root, dirty', saving'⟩, (Finder.lookup root tool settings d p).events,
      congrArg Report.events hfind, congrArg Report.events hfind', ?_,
      hcall (.inl rfl), hcall (.inr rfl)⟩
    exact List.forall_mem_append.mpr
      ⟨Finder.ofSaving_of_mem_saving _, Finder.ofSaving_of_mem_saving _⟩
  · exact Session.shown_reports

end GoXref
