import ContraGate.Gateway
import ContraGate.GraphTheorems

/-!
# The workflow refines the protocol

`Protocol` is the workflow without its heap: the abstract state of the record, where the
task is, the endpoints in flight and the log. `machine_step` says that every step of the
workflow is a `ProtocolStep`; with it, an invariant of the protocol is one of the workflow
(`exec_protocol`). Which record the task works on is settled once, by `WellFormed`.
-/

/-- The state of one workflow, without the heap. -/
structure Protocol where
  view : TaskView
  task : TaskAt
  endpoints : List WorkflowStatus
  log : List Event

/-- One step of the protocol. -/
inductive ProtocolStep (s : Protocol) : GatewayAction → Protocol → Prop
  | task {input : TaskInput} {v : TaskView} {t : TaskAt} {events : List Event}
    (h : TaskStep s.view input s.task v t events) :
    ProtocolStep s (.task input) { s with view := v, task := t, log := events ++ s.log }
  | decide {a : GatewayAction} (d : Decision) (now : Time) :
    ProtocolStep s a
      { s with
        view := { s.view with toView := (s.view.decide d now).1 }
        log := .decided d (s.view.decide d now).2 :: s.log }
  | submit {a : GatewayAction} (d : Decision) (now : Time) :
    ProtocolStep s a
      { s with
        view := { s.view with toView := (s.view.decide d now).1 }
        endpoints := if (s.view.decide d now).2.isSome then
          s.endpoints ++ [Gateway.decisionStatus d.decision] else s.endpoints
        log := .decided d (s.view.decide d now).2 :: s.log }
  | ignored {a : GatewayAction} : ProtocolStep s a s
  | endpointStatus {i : ℕ} {now : Time} {status : WorkflowStatus}
    (h : s.endpoints[i]? = some status) :
    ProtocolStep s (.endpointStatus i now)
      { s with
        view := { s.view with toView := s.view.updateStatus status }
        endpoints := s.endpoints.eraseIdx i }

/-- A task that has built its contract had done so before, or comes from the intake. -/
theorem TaskStep.built {v v' : TaskView} {input : TaskInput} {t t' : TaskAt}
    {events : List Event} (h : TaskStep v input t v' t' events) (hbuilt : t'.built = true) :
    t.built = true ∨ t = .intake := by
  cases h <;> simp_all [TaskAt.built]

namespace Gateway

variable {cfg : PipelineConfig} {approvalId : String} {manifest : Py.Dict}
  {s t : Gateway} {a : GatewayAction}

/-- The protocol state of a workflow. -/
def abstract (cfg : PipelineConfig) (approvalId : String) (s : Gateway) : Protocol where
  view := s.mem.taskView cfg.toExecutionConfig approvalId pipelineContract
  task := s.task
  endpoints := s.endpoints
  log := s.log

/-- The workflow has a record, and its task works on that record or on none. -/
structure WellFormed (approvalId : String) (s : Gateway) : Prop where
  record : ∃ r, s.mem.store approvalId = some r
  link : Graph.Linked approvalId pipelineContract s.mem s.task
  fresh : s.task.Fresh (s.mem.store (s.mem.contracts pipelineContract).operationId)

theorem Started.wellFormed (h : Started approvalId s) : WellFormed approvalId s where
  record := by
    obtain ⟨r, hr, -⟩ := h.record
    exact ⟨r, hr⟩
  link hbuilt := by simp [h.task, TaskAt.built] at hbuilt
  fresh := by rw [h.task]; trivial

/-- It has a stored contract. -/
theorem WellFormed.stored_ne_none (h : WellFormed approvalId s) :
    (s.abstract cfg approvalId).view.stored ≠ none := by
  obtain ⟨r, hr⟩ := h.record
  have hview := Memory.view_of_store (c := pipelineContract) hr
  intro hnone
  rw [show (s.abstract cfg approvalId).view.stored =
    (s.mem.view approvalId pipelineContract).stored from rfl, hview] at hnone
  cases hnone

/-- An operation that keeps the store and the identities keeps the workflow well-formed. -/
theorem WellFormed.of_kept (h : WellFormed approvalId s) {m : Memory} (hm : s.mem.Kept m)
    (endpoints : List WorkflowStatus) (log : List Event) :
    WellFormed approvalId { s with mem := m, endpoints := endpoints, log := log } where
  record := by rw [hm.store]; exact h.record
  link hbuilt := by
    dsimp only
    rw [hm.store, hm.identity]
    exact h.link hbuilt
  fresh := by
    dsimp only
    rw [hm.store, hm.identity]
    exact h.fresh

/-- The contract that the intake builds has the record's id or a fresh one. -/
theorem linked_of_intake {input : TaskInput} {o : Resumed TaskAt}
    (hfreshId : ∀ id now, input = .generatedId id now → s.FreshId cfg approvalId manifest id now)
    (h : Graph.runTask cfg approvalId manifest pipelineContract s.mem .intake input = some o) :
    Graph.Linked approvalId pipelineContract o.mem o.pc := by
  intro hbuilt
  have hstore := (Graph.runTask_frame h).1
  cases input with
  | generatedId id now =>
    rcases Graph.runTask_intake h with hfailed | ⟨c, hc, hmem⟩
    · rw [hfailed] at hbuilt
      cases hbuilt
    · rw [hstore, hmem]
      exact hfreshId id now rfl c hc
  | _ => simp [Graph.runTask] at h

/-- The task is resumed, and the intake draws a fresh id. -/
theorem resumeTask_of_step {input : TaskInput}
    (hstep : (machine cfg approvalId manifest).step s (.task input) = some t) :
    s.resumeTask cfg approvalId manifest input = some t ∧
      ∀ id now, input = .generatedId id now → s.FreshId cfg approvalId manifest id now := by
  cases input with
  | generatedId id now =>
    simp only [machine] at hstep
    split at hstep
    · rename_i hfreshId
      refine ⟨hstep, fun id' now' heq => ?_⟩
      obtain ⟨rfl, rfl⟩ := TaskInput.generatedId.inj heq
      exact hfreshId
    · cases hstep
  | _ => exact ⟨hstep, nofun⟩

/-- A step of the task keeps the workflow well-formed. -/
theorem wellFormed_resumeTask (h : WellFormed approvalId s) {input : TaskInput}
    (hfreshId : ∀ id now, input = .generatedId id now → s.FreshId cfg approvalId manifest id now)
    (hstep : s.resumeTask cfg approvalId manifest input = some t) :
    WellFormed approvalId t ∧
      ProtocolStep (s.abstract cfg approvalId) (.task input) (t.abstract cfg approvalId) := by
  obtain ⟨o, ho, rfl⟩ := Option.map_eq_some_iff.mp hstep
  obtain ⟨r, hr⟩ := h.record
  have htask := Graph.runTask_taskStep hr h.link h.fresh ho
  obtain ⟨hstore, hidentity⟩ := Graph.runTask_frame ho
  refine ⟨⟨⟨r, hstore ▸ hr⟩, ?_, Graph.runTask_fresh h.fresh ho⟩, .task htask⟩
  by_cases hintake : s.task = .intake
  · rw [hintake] at ho
    exact linked_of_intake hfreshId ho
  · intro hbuilt
    have hid := hidentity.resolve_left hintake
    dsimp only
    rw [hstore, hid]
    exact h.link ((htask.built hbuilt).resolve_right hintake)

/-- A decision, abstractly. -/
theorem abstract_decide (s : Gateway) (d : Decision) (now : Time) :
    (s.decide approvalId d now).abstract cfg approvalId =
      { s.abstract cfg approvalId with
        view := { (s.abstract cfg approvalId).view with
          toView := ((s.abstract cfg approvalId).view.decide d now).1 }
        log := .decided d ((s.abstract cfg approvalId).view.decide d now).2 :: s.log } := by
  obtain ⟨hview, hevent⟩ := s.mem.view_decide approvalId pipelineContract d now
  unfold decide abstract
  dsimp only
  rw [(s.mem.kept_decide approvalId d now).taskView, hview, hevent]
  rfl

theorem accepted_decided (d : Decision) (w : Option DecisionFields) :
    accepted (.decided d w) = w.isSome := by
  cases w <;> rfl

/-- A decision at an endpoint, abstractly. -/
theorem abstract_submit (s : Gateway) (d : Decision) (now : Time) :
    (s.submit approvalId d now).abstract cfg approvalId =
      { (s.decide approvalId d now).abstract cfg approvalId with
        endpoints := if ((s.abstract cfg approvalId).view.decide d now).2.isSome then
          s.endpoints ++ [decisionStatus d.decision] else s.endpoints } := by
  obtain ⟨-, hevent⟩ := s.mem.view_decide approvalId pipelineContract d now
  unfold submit decide abstract
  dsimp only
  rw [hevent, accepted_decided]
  rfl

/-- An endpoint's second call, abstractly. -/
theorem abstract_updateStatus (s : Gateway) (status : WorkflowStatus) (now : Time)
    (endpoints : List WorkflowStatus) :
    ({ s with
      mem := WorkflowStore.updateStatus s.mem approvalId status now
      endpoints } : Gateway).abstract cfg approvalId =
      { s.abstract cfg approvalId with
        view := { (s.abstract cfg approvalId).view with
          toView := (s.abstract cfg approvalId).view.updateStatus status }
        endpoints } := by
  unfold abstract
  dsimp only
  rw [(s.mem.kept_updateStatus approvalId status now).taskView, Memory.view_updateStatus]
  rfl

theorem wellFormed_submit (h : WellFormed approvalId s) (d : Decision) (now : Time) :
    WellFormed approvalId (s.submit approvalId d now) ∧
      ProtocolStep (s.abstract cfg approvalId) a
        ((s.submit approvalId d now).abstract cfg approvalId) := by
  refine ⟨h.of_kept (s.mem.kept_decide approvalId d now) _ _, ?_⟩
  rw [abstract_submit, abstract_decide]
  exact .submit d now

/-- **The workflow refines the protocol**: every step keeps it well-formed, and is a step of
the protocol. -/
theorem machine_step (h : WellFormed approvalId s)
    (hstep : (machine cfg approvalId manifest).step s a = some t) :
    WellFormed approvalId t ∧
      ProtocolStep (s.abstract cfg approvalId) a (t.abstract cfg approvalId) := by
  cases a with
  | task input =>
    obtain ⟨hresume, hfreshId⟩ := resumeTask_of_step hstep
    exact wellFormed_resumeTask h hfreshId hresume
  | recordDecision d now =>
    obtain rfl := Option.some.inj hstep
    refine ⟨h.of_kept (s.mem.kept_decide approvalId d now) _ _, ?_⟩
    rw [abstract_decide]
    exact .decide d now
  -- the endpoints submit a decision, or answer without one
  | postDecision d now =>
    obtain rfl := Option.some.inj hstep
    split
    · exact wellFormed_submit h d now
    · exact ⟨h, .ignored⟩
  | viewSubmission approve reason approverId now =>
    obtain rfl := Option.some.inj hstep
    split
    · exact wellFormed_submit h _ now
    · exact ⟨h, .ignored⟩
  | endpointStatus i now =>
    obtain ⟨status, hstatus, rfl⟩ := Option.map_eq_some_iff.mp hstep
    refine ⟨h.of_kept (s.mem.kept_updateStatus approvalId status now) _ s.log, ?_⟩
    rw [abstract_updateStatus]
    exact .endpointStatus hstatus

/-- What every guarded step of the protocol preserves holds after every guarded run of the
workflow. -/
theorem exec_protocol {I : Protocol → Prop} {G : Gateway → GatewayAction → Prop}
    (hstep : ∀ (s : Gateway) (a : GatewayAction) (t : Gateway), WellFormed approvalId s →
      I (s.abstract cfg approvalId) → G s a →
      (machine cfg approvalId manifest).step s a = some t →
      ProtocolStep (s.abstract cfg approvalId) a (t.abstract cfg approvalId) →
      I (t.abstract cfg approvalId))
    {actions : List GatewayAction} (hwf : WellFormed approvalId s)
    (hI : I (s.abstract cfg approvalId))
    (hguard : (machine cfg approvalId manifest).Guarded G s actions)
    (hrun : (machine cfg approvalId manifest).exec s actions = some t) :
    WellFormed approvalId t ∧ I (t.abstract cfg approvalId) := by
  refine (machine cfg approvalId manifest).exec_invariant
    (I := fun s => WellFormed approvalId s ∧ I (s.abstract cfg approvalId))
    (fun s a t hs hG hst => ?_) ⟨hwf, hI⟩ hguard hrun
  obtain ⟨hwf', hprotocol⟩ := machine_step hs.1 hst
  exact ⟨hwf', hstep s a t hs.1 hs.2 hG hst hprotocol⟩

/-- A submitted workflow has just started. -/
theorem submitWorkflow_started {m : Memory} {generatedId : String} {now : Time}
    (h : submitWorkflow cfg manifest m generatedId now = some s) :
    ∃ approvalId, Started approvalId s := by
  obtain ⟨c, hc, rfl⟩ := Option.map_eq_some_iff.mp h
  have hfresh := (Intake.runIntake_fresh hc).1
  refine ⟨c.operationId, ⟨?_, ?_, rfl, rfl, rfl⟩⟩
  · refine ⟨m.nextRecord, ?_, ?_, ?_⟩ <;> simp [WorkflowStore.create]
  · simpa [WorkflowStore.create] using hfresh

end Gateway
