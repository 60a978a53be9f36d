import GoXref.Session

/-!
# `GoXref.Proofs.Session`: the state that a session is in

A session is a list of steps from some state. Its reports are those of the requests
among the steps, and each request is made in the state that the steps before it have
led to. Here that state is said without going through the steps one by one.

The document, what comes of saving and the search tool are as they were last changed.
Edits stay unsaved from the step that makes them on, as long as every request made
since then has tried to save them and failed.

* `Session.requests`, `Session.reports_eq_map`: the requests, and their reports.
* `Session.part_foldl_advance`: a part of the state that some steps replace.
* `Session.dirty_foldl_advance_iff`: whether there are unsaved edits.
* `Session.leadsTo_foldl_advance`: the whole state.
-/

set_option autoImplicit false

namespace GoXref

/-! ### What a step changes -/

namespace Step

/-- The document that a step puts in place. -/
def document? : Step → Option Document
  | .document d => some d
  | _ => none

/-- What a step makes come of saving. -/
def saving? : Step → Option (Except Fault Unit)
  | .saving result => some result
  | _ => none

/-- The search tool that a step puts in place. -/
def tool? : Step → Option (Query → Search)
  | .tool answer => some answer
  | _ => none

end Step

namespace Session

/-! ### Requests -/

/-- The requests among some steps, each with the state that it is made in. -/
def requests (s : Session) (steps : List Step) : List (Session × Request) :=
  (List.range steps.length).filterMap fun i =>
    match (steps[i]? : Option Step) with
    | some (.find r) => some ((steps.take i).foldl advance s, r)
    | _ => none

/-- The first step makes its request in the state at the start, and the
others make theirs in the states after it. -/
theorem requests_cons (s : Session) (step : Step) (rest : List Step) :
    s.requests (step :: rest) = (match step with
      | .find r => [(s, r)]
      | _ => []) ++ (s.advance step).requests rest := by
  unfold requests
  rw [List.length_cons, List.range_succ_eq_map, List.filterMap_cons, List.filterMap_map]
  cases step <;> rfl

/-- The reports of a session are those of its requests, each made in the
state that the steps before it have led to. -/
theorem reports_eq_map (s : Session) (steps : List Step) :
    s.reports steps = (s.requests steps).map fun (s', r) => s'.request r := by
  -- On the steps, for every state at the start: the rest starts where the first
  -- step has led to.
  induction steps generalizing s with
  | nil => rfl
  | cons step rest ih =>
      rw [reports, requests_cons, List.map_append, ih]
      cases step <;> rfl

/-! ### Parts that are replaced -/

/-- A part of the state that some steps replace, and that no other step changes, is as
the last of these steps has left it. -/
theorem part_foldl_advance {α : Type} {part : Session → α} {change? : Step → Option α}
    (hstep : ∀ s step, part (advance s step) = (change? step).getD (part s)) (s : Session)
    (steps : List Step) :
    part (steps.foldl advance s) = (steps.filterMap change?).getLast?.getD (part s) := by
  induction steps generalizing s with
  | nil => rfl
  | cons step rest ih =>
      rw [List.foldl_cons, ih, hstep]
      cases hchange : change? step with
      | none => rw [List.filterMap_cons_none hchange, Option.getD_none]
      | some value =>
          -- The step is the last to replace the part, unless one of the rest does.
          rw [List.filterMap_cons_some hchange, List.getLast?_cons, Option.getD_some,
            Option.getD_some]

/-- A part that no step changes is as it was. -/
theorem part_foldl_advance_of_unchanged {α : Type} {part : Session → α}
    (hstep : ∀ s step, part (advance s step) = part s) (s : Session) (steps : List Step) :
    part (steps.foldl advance s) = part s := by
  have hpart := @part_foldl_advance α part (fun _ => none) hstep s steps
  rwa [List.filterMap_eq_nil_iff.mpr fun _ _ => rfl] at hpart

/-- What a step does to all that is not about unsaved edits. A request does nothing
to it. -/
theorem advance_parts (s : Session) (step : Step) :
    (s.advance step).root = s.root ∧ (s.advance step).settings = s.settings ∧
      (s.advance step).document = step.document?.getD s.document ∧
      (s.advance step).saving = step.saving?.getD s.saving ∧
      (s.advance step).tool = step.tool?.getD s.tool := by
  cases step with
  | find r =>
      have hrequest :
          s.advance (.find r) = s ∨ s.advance (.find r) = { s with dirty := false } := by
        simp only [advance, save]
        split
        · split
          · exact .inr rfl
          · exact .inl rfl
        · exact .inl rfl
      rcases hrequest with hsame | hsaved
      · rw [hsame]
        simp [Step.document?, Step.saving?, Step.tool?]
      · rw [hsaved]
        simp [Step.document?, Step.saving?, Step.tool?]
  | _ => simp [advance, Step.document?, Step.saving?, Step.tool?]

/-! ### Unsaved edits -/

/-- After a step there are unsaved edits if it has made some, or if there were some
before and the step neither says that they are saved nor is a request that saves them. -/
theorem dirty_advance_iff (s : Session) (step : Step) :
    (s.advance step).dirty = true ↔ step = .dirty true ∨
      (s.dirty = true ∧ step ≠ .dirty false ∧
        ∀ r, step = .find r → ∃ fault, s.saving = .error fault) := by
  cases step with
  | document d => simp [advance]
  | dirty value => simp [advance]
  | saving result => simp [advance]
  | tool answer => simp [advance]
  | find r =>
      cases hdirty : s.dirty with
      | false => simp [advance, hdirty]
      | true => cases hsaving : s.saving <;> simp [advance, save, hdirty, hsaving]

/-- Edits that are there stay unsaved over some steps. -/
structure StaysUnsaved (s : Session) (steps : List Step) : Prop where
  /-- No step says that they are saved. -/
  notMem : .dirty false ∉ steps
  /-- No request saves them: saving fails in the state that it is made in. -/
  saving_fails : ∀ request ∈ s.requests steps, ∃ fault, request.1.saving = .error fault

/-- Edits stay unsaved over a step and those behind it. -/
theorem staysUnsaved_cons_iff (s : Session) (step : Step) (rest : List Step) :
    s.StaysUnsaved (step :: rest) ↔
      (step ≠ .dirty false ∧ ∀ r, step = .find r → ∃ fault, s.saving = .error fault) ∧
        (s.advance step).StaysUnsaved rest := by
  have hrequests : (∀ request ∈ s.requests (step :: rest),
        ∃ fault, request.1.saving = .error fault) ↔
      (∀ r, step = .find r → ∃ fault, s.saving = .error fault) ∧
        ∀ request ∈ (s.advance step).requests rest, ∃ fault, request.1.saving = .error fault := by
    rw [requests_cons, List.forall_mem_append]
    cases step <;> simp
  have hnotMem : .dirty false ∉ step :: rest ↔ step ≠ .dirty false ∧ .dirty false ∉ rest := by
    rw [List.mem_cons, not_or, ne_comm]
  constructor
  · rintro ⟨hsaved, hfails⟩
    rw [hnotMem] at hsaved
    rw [hrequests] at hfails
    exact ⟨⟨hsaved.1, hfails.1⟩, ⟨hsaved.2, hfails.2⟩⟩
  · rintro ⟨⟨hsaved, hfails⟩, hrest⟩
    exact ⟨hnotMem.mpr ⟨hsaved, hrest.notMem⟩, hrequests.mpr ⟨hfails, hrest.saving_fails⟩⟩

/-- There are unsaved edits after some steps exactly if there were some at the start, or
a step has made some, and they have stayed unsaved since. -/
theorem dirty_foldl_advance_iff (s : Session) (steps : List Step) :
    (steps.foldl advance s).dirty = true ↔
      (s.dirty = true ∧ s.StaysUnsaved steps) ∨
        ∃ before after, steps = before ++ .dirty true :: after ∧
          ((before.foldl advance s).advance (.dirty true)).StaysUnsaved after := by
  -- On the steps, for every state at the start: edits that are there behind the first step
  -- were made by it, or were there before.
  induction steps generalizing s with
  | nil =>
      have hstays : s.StaysUnsaved [] := ⟨List.not_mem_nil, List.forall_mem_nil _⟩
      simp [hstays]
  | cons step rest ih =>
      rw [List.foldl_cons, ih, dirty_advance_iff, staysUnsaved_cons_iff]
      constructor
      · rintro (⟨rfl | ⟨hdirty, hsaved, hfails⟩, hrest⟩ | ⟨before, after, rfl, hafter⟩)
        · exact .inr ⟨[], rest, rfl, hrest⟩
        · exact .inl ⟨hdirty, ⟨hsaved, hfails⟩, hrest⟩
        · exact .inr ⟨step :: before, after, rfl, hafter⟩
      · rintro (⟨hdirty, ⟨hsaved, hfails⟩, hrest⟩ | ⟨before, after, hsteps, hafter⟩)
        · exact .inl ⟨.inr ⟨hdirty, hsaved, hfails⟩, hrest⟩
        · cases before with
          | nil =>
              obtain ⟨rfl, rfl⟩ := List.cons.inj hsteps
              exact .inl ⟨.inl rfl, hafter⟩
          | cons first before =>
              obtain ⟨rfl, rfl⟩ := List.cons.inj hsteps
              exact .inr ⟨before, after, rfl, hafter⟩

/-! ### The whole state -/

/-- What some steps make of the state of a session. -/
structure LeadsTo (s : Session) (steps : List Step) (s' : Session) : Prop where
  /-- The workspace stays the same. -/
  root : s'.root = s.root
  /-- So do the settings. -/
  settings : s'.settings = s.settings
  /-- The document is the last that was put in place. -/
  document : s'.document = (steps.filterMap Step.document?).getLast?.getD s.document
  /-- Saving works or fails as it was last made to. -/
  saving : s'.saving = (steps.filterMap Step.saving?).getLast?.getD s.saving
  /-- The search tool is the last that was put in place. -/
  tool : s'.tool = (steps.filterMap Step.tool?).getLast?.getD s.tool
  /-- There are unsaved edits exactly if there were some at the start, or a step has made
  some, and they have stayed unsaved since. -/
  dirty_iff : s'.dirty = true ↔
    (s.dirty = true ∧ s.StaysUnsaved steps) ∨
      ∃ before after, steps = before ++ .dirty true :: after ∧
        ((before.foldl advance s).advance (.dirty true)).StaysUnsaved after

/-- The state that some steps lead to. -/
theorem leadsTo_foldl_advance (s : Session) (steps : List Step) :
    s.LeadsTo steps (steps.foldl advance s) where
  root := part_foldl_advance_of_unchanged (fun s step => (advance_parts s step).1) s steps
  settings := part_foldl_advance_of_unchanged (fun s step => (advance_parts s step).2.1) s steps
  document := part_foldl_advance (fun s step => (advance_parts s step).2.2.1) s steps
  saving := part_foldl_advance (fun s step => (advance_parts s step).2.2.2.1) s steps
  tool := part_foldl_advance (fun s step => (advance_parts s step).2.2.2.2) s steps
  dirty_iff := dirty_foldl_advance_iff s steps

end Session

end GoXref
