import ContraGate.ContractWrites
import ContraGate.ManifestBinding
import ContraGate.StandingApproval

/-!
# What one workflow asks the target for

The target is called at most once, with the call that was intercepted, and under a standing
approval (`Gateway.callsAsApproved`).
-/

/-- The workflow has just been submitted: its record holds the manifest that the task runs on. -/
structure Gateway.Submitted (approvalId : String) (manifest : Py.Dict) (s : Gateway) : Prop
    extends Gateway.Started approvalId s where
  stored : ∀ r, s.mem.store approvalId = some r →
    (s.mem.records r).toolCallManifest = some manifest

/-- The call that EXECUTION is to make for an intercepted one. -/
def ToolCallManifest.original (call : ToolCallManifest) : ToolCall where
  targetUrl := .str call.targetMcpUrl
  toolName := call.toolName
  sql := .str call.sql
  tenantId := call.tenantId

/-- What a workflow may ask the target for, by what has happened to it. -/
structure CallsAsApproved (call : ToolCall) (log : List Event) : Prop where
  approved : CallsApproved log
  once : log.countP Event.isSent ≤ 1
  intercepted : ∀ c, .sent c ∈ log → c = call

/-! ## At most once -/

/-- The task may still call the target. -/
def TaskAt.mayCall : TaskAt → Bool
  | statusRunning | intake | riskGate _ | routeRiskGate | agent _ | humanReview _
  | routeHumanReview | execution .start | execution (.got _) => true
  | _ => false

/-- A stretch calls nobody and does not bring the call back, or it makes the only call. -/
theorem TaskStep.calls {v v' : TaskView} {input : TaskInput} {t t' : TaskAt} {events : List Event}
    (h : TaskStep v input t v' t' events) :
    events.countP Event.isSent = 0 ∧ (t'.mayCall = true → t.mayCall = true) ∨
      events.countP Event.isSent = 1 ∧ t.mayCall = true ∧ t'.mayCall = false := by
  cases h with
  | executionSends => exact .inr ⟨rfl, rfl, rfl⟩
  | review hlinked hreview =>
    refine .inl ⟨List.countP_eq_zero.mpr fun e he => ?_, fun _ => rfl⟩
    rcases hreview.events e he with rfl | rfl <;> simp [Event.isSent]
  | reviewUnlinked hunlinked hevents =>
    refine .inl ⟨List.countP_eq_zero.mpr fun e he => ?_, fun _ => rfl⟩
    rcases hevents e he with rfl | rfl <;> simp [Event.isSent]
  | _ => exact .inl ⟨rfl, by simp [TaskAt.mayCall]⟩

/-- The target has been called once at most, and not at all while it may still be called. -/
structure CalledOnce (t : TaskAt) (log : List Event) : Prop where
  once : log.countP Event.isSent ≤ 1
  before : t.mayCall = true → log.countP Event.isSent = 0

theorem calledOnce_protocolStep {p q : Protocol} {a : GatewayAction}
    (h : CalledOnce p.task p.log) (hstep : ProtocolStep p a q) : CalledOnce q.task q.log := by
  cases hstep with
  | task htask =>
    dsimp only
    rcases htask.calls with ⟨hnone, hback⟩ | ⟨hone, hmay, hmay'⟩
    · constructor
      · rw [List.countP_append, hnone, zero_add]
        exact h.once
      · intro hmay
        rw [List.countP_append, hnone, h.before (hback hmay)]
    · constructor
      · rw [List.countP_append, hone, h.before hmay]
      · intro hcontra
        rw [hmay'] at hcontra
        cases hcontra
  | decide d now | submit d now => exact ⟨h.once, h.before⟩
  | ignored | endpointStatus => exact h

/-! ## The intercepted call -/

/-- No write to a contract changes what the operation is. -/
theorem ContractWrite.identity {cfg : PipelineConfig} {manifest : Py.Dict}
    {stored : Option HandoffContract} {t : TaskAt} {a : GatewayAction} {c c' : HandoffContract}
    (h : ContractWrite cfg manifest stored t a c c') : c'.toIdentity = c.toIdentity := by
  cases h with
  | policy ht happly | noPolicy ht happly => exact (RiskGate.applyPolicyResult_spec happly).1
  | agent ht hallowed =>
    rename_i node write
    cases write <;> rfl
  | update hf =>
    unfold WorkflowStore.merged
    split <;> rfl
  | audited ht =>
    unfold Graph.finishAudit
    dsimp only
    split <;> rfl
  | _ => rfl

namespace Graph

/-- A call is made by EXECUTION, and read off the manifest of the record that it holds. -/
theorem runTask_sent {cfg : PipelineConfig} {approvalId : String} {manifest : Py.Dict}
    {contract : Ref} {m : Memory} {t : TaskAt} {input : TaskInput} {o : Resumed TaskAt}
    {v v' : TaskView} {call : ToolCall} (htask : TaskStep v input t v' o.pc o.events)
    (h : runTask cfg approvalId manifest contract m t input = some o)
    (hcall : .sent call ∈ o.events) :
    ∃ r, t = .execution (.got (some r)) ∧
      call = Execution.toolCall cfg.toExecutionConfig ((m.records r).toolCallManifest.getD [])
        (m.contracts contract) := by
  generalize hpc : o.pc = pc, hevents : o.events = events at htask hcall
  cases htask with
  | executionSends hlinked hexecuted call' =>
    rename_i r
    refine ⟨r, rfl, ?_⟩
    cases input with
    | execution input =>
      obtain ⟨o', ho', rfl⟩ := Option.map_eq_some_iff.mp h
      rcases Execution.runExecution_cases ho' with
        ⟨r', now, hgot, -, -, -, rfl⟩ | ⟨_, _, hstoring, -⟩ | hquiet
      · cases hgot
        obtain rfl : call = call' := by simpa using hcall
        simpa [within] using hevents.symm
      · cases hstoring
      · have hsent := hquiet.events
        rw [show o'.events = [.sent call'] from hevents] at hsent
        cases hsent
    | _ => cases h
  | review hlinked hreview => rcases hreview.events _ hcall with heq | heq <;> cases heq
  | reviewUnlinked hunlinked hnone => rcases hnone _ hcall with heq | heq <;> cases heq
  | _ => simp at hcall

end Graph

namespace Gateway

variable {cfg : PipelineConfig} {approvalId : String} {manifest : Py.Dict} {s t : Gateway}
  {a : GatewayAction}

/-- The record holds the manifest, the pipeline's contract the tenant, and whoever is called is
called as intercepted. -/
structure Serves (approvalId : String) (manifest : Py.Dict) (call : ToolCall) (s : Gateway) :
    Prop where
  manifest : ∀ r, s.mem.store approvalId = some r →
    (s.mem.records r).toolCallManifest = some manifest
  tenant : s.task.built = true → (s.mem.contracts pipelineContract).tenantId = call.tenantId
  sent : ∀ c, .sent c ∈ s.log → c = call

/-- The pipeline's contract is for the tenant of the manifest. -/
theorem tenant_step {tenantId : String} (hwf : WellFormed approvalId s)
    (h : s.task.built = true → (s.mem.contracts pipelineContract).tenantId = tenantId)
    (hintake : ∀ (id : String) (now : Time) (c : HandoffContract),
      Intake.runIntake cfg.toIntakeConfig manifest id now = some c → c.tenantId = tenantId)
    (hstep : (machine cfg approvalId manifest).step s a = some t) (hbuilt : t.task.built = true) :
    (t.mem.contracts pipelineContract).tenantId = tenantId := by
  rcases built_step hwf hstep hbuilt with hbuilt' | ⟨id, now, c, hc, hown⟩
  · cases (machine_memory hwf hstep).1 with
    | same hsame => rw [hsame, h hbuilt']
    | intake ht =>
      rw [ht] at hbuilt'
      cases hbuilt'
    | write hx hw hsame =>
      rename_i x c'
      rw [hsame]
      by_cases hown : pipelineContract = x
      · subst hown
        rw [Function.update_self, ← h hbuilt']
        exact congrArg Identity.tenantId hw.identity
      · rw [Function.update_of_ne hown, h hbuilt']
  · rw [hown, hintake id now c hc]

/-- A call that is made is the intercepted one. -/
theorem sent_step {call : ToolCall} (hwf : WellFormed approvalId s)
    (h : Serves approvalId manifest call s)
    (hcall : ∀ contract : HandoffContract, contract.tenantId = call.tenantId →
      Execution.toolCall cfg.toExecutionConfig manifest contract = call)
    (hstep : (machine cfg approvalId manifest).step s a = some t) :
    ∀ c, .sent c ∈ t.log → c = call := by
  intro c hc
  have hdecided {d : Decision} {now : Time}
      (hc : .sent c ∈ (WorkflowStore.decide s.mem approvalId d now).2 :: s.log) : c = call := by
    rcases List.mem_cons.mp hc with heq | hc
    · rw [(s.mem.view_decide approvalId pipelineContract d now).2] at heq
      cases heq
    · exact h.sent c hc
  cases a with
  | task input =>
    obtain ⟨o, ho, rfl⟩ := Option.map_eq_some_iff.mp (resumeTask_of_step hstep).1
    rcases List.mem_append.mp hc with hc | hc
    · obtain ⟨r₀, hr₀⟩ := hwf.record
      have htask := Graph.runTask_taskStep hr₀ hwf.link hwf.fresh ho
      obtain ⟨r, hexecution, rfl⟩ := Graph.runTask_sent htask ho hc
      have hlink := hwf.link
      have hfresh := hwf.fresh
      have htenant := h.tenant
      rw [hexecution] at hlink hfresh htenant
      -- the record it holds is that of the workflow
      have hgot : some r = s.mem.store (s.mem.contracts pipelineContract).operationId := hfresh
      rcases hlink rfl with hid | hnone
      · rw [hid] at hgot
        rw [h.manifest r hgot.symm, Option.getD_some]
        exact hcall _ (htenant rfl)
      · rw [hnone] at hgot
        cases hgot
    · exact h.sent c hc
  | recordDecision d now =>
    obtain rfl := Option.some.inj hstep
    exact hdecided hc
  | postDecision d now =>
    obtain rfl := Option.some.inj hstep
    split at hc
    · exact hdecided hc
    · exact h.sent c hc
  | viewSubmission approve reason approverId now =>
    obtain rfl := Option.some.inj hstep
    split at hc
    · exact hdecided hc
    · exact h.sent c hc
  | endpointStatus i now =>
    obtain ⟨status, -, rfl⟩ := Option.map_eq_some_iff.mp hstep
    exact h.sent c hc

theorem serves_step {call : ToolCall} (hwf : WellFormed approvalId s)
    (h : Serves approvalId manifest call s)
    (hcall : ∀ contract : HandoffContract, contract.tenantId = call.tenantId →
      Execution.toolCall cfg.toExecutionConfig manifest contract = call)
    (hintake : ∀ (id : String) (now : Time) (c : HandoffContract),
      Intake.runIntake cfg.toIntakeConfig manifest id now = some c → c.tenantId = call.tenantId)
    (hstep : (machine cfg approvalId manifest).step s a = some t) :
    Serves approvalId manifest call t where
  manifest r hr := by
    rw [machine_store hstep] at hr
    rw [((machine_memory hwf hstep).2 r).toolCallManifest, h.manifest r hr]
  tenant := tenant_step hwf h.tenant hintake hstep
  sent := sent_step hwf h hcall hstep

/-- The intake of the graph takes the tenant of the call. -/
theorem tenantId_of_bound {call : ToolCallManifest} {id : String} {now : Time} {c : HandoffContract}
    (h : Intake.runIntake cfg.toIntakeConfig (call.bound cfg.toExecutionConfig approvalId) id now =
      some c) : c.tenantId = call.tenantId := by
  obtain ⟨_, _, tenantId, _, _, -, -, -, htenant, -, -, rfl⟩ := Intake.runIntake_eq_some h
  exact (Option.some.inj htenant).symm

/-- Every call was made under a standing approval. -/
theorem callsApproved_exec (h : Started approvalId s) {actions : List GatewayAction}
    (hrun : (machine cfg approvalId manifest).exec s actions = some t) : CallsApproved t.log := by
  have hprotocol := exec_protocol (I := fun p => StandingApproval.Inv p.view p.task p.log)
    (G := fun _ _ => True)
    (fun s _ _ _ hI _ _ hstep => StandingApproval.inv_protocolStep hI (s.mem.view_coherent _ _)
      hstep)
    h.wellFormed h.standingApproval (Machine.guarded_of_forall _ (fun _ _ => trivial) _ _) hrun
  exact hprotocol.2.calls

/-- The target was called once at most. -/
theorem calledOnce_exec (h : Started approvalId s) {actions : List GatewayAction}
    (hrun : (machine cfg approvalId manifest).exec s actions = some t) :
    CalledOnce t.task t.log := by
  have hprotocol := exec_protocol (I := fun p => CalledOnce p.task p.log) (G := fun _ _ => True)
    (fun _ _ _ _ hI _ _ hstep => calledOnce_protocolStep hI hstep)
    h.wellFormed ⟨by simp [abstract, h.log], by simp [abstract, h.log]⟩
    (Machine.guarded_of_forall _ (fun _ _ => trivial) _ _) hrun
  exact hprotocol.2

/-- **One workflow calls as it was approved:** once at most, with the intercepted call, under a
standing approval. -/
theorem callsAsApproved {call : ToolCallManifest} (hsql : call.sql ≠ "")
    (h : Submitted approvalId (call.bound cfg.toExecutionConfig approvalId) s)
    {actions : List GatewayAction}
    (hrun : (machine cfg approvalId (call.bound cfg.toExecutionConfig approvalId)).exec s actions =
      some t) : CallsAsApproved call.original t.log := by
  have hcall (contract : HandoffContract) (htenant : contract.tenantId = call.original.tenantId) :
      Execution.toolCall cfg.toExecutionConfig (call.bound cfg.toExecutionConfig approvalId)
        contract = call.original := by
    rw [Execution.toolCall_of_same hsql (.refl _), htenant, ToolCallManifest.original]
  have hserves : WellFormed approvalId t ∧
      Serves approvalId (call.bound cfg.toExecutionConfig approvalId) call.original t := by
    refine Machine.exec_preserves _
      (I := fun s => WellFormed approvalId s ∧
        Serves approvalId (call.bound cfg.toExecutionConfig approvalId) call.original s)
      (fun s a t hs hstep => ?_)
      ⟨h.wellFormed, ⟨h.stored, fun hbuilt => ?_, fun c hc => ?_⟩⟩ hrun
    · exact ⟨(machine_step hs.1 hstep).1,
        serves_step hs.1 hs.2 hcall (fun _ _ _ => tenantId_of_bound) hstep⟩
    · rw [h.task] at hbuilt
      cases hbuilt
    · rw [h.log] at hc
      cases hc
  exact ⟨callsApproved_exec h.toStarted hrun, (calledOnce_exec h.toStarted hrun).once, hserves.2.sent⟩

end Gateway

/-- An intake that takes a call has found a statement in it. -/
theorem Intake.sql_ne_empty {cfg : IntakeConfig} {call : ToolCallManifest} {hash id : String}
    {now : Time} {c : HandoffContract}
    (h : runIntake cfg (call.withHash hash) id now = some c) : call.sql ≠ "" := by
  obtain ⟨_, _, _, _, _, hsql, -⟩ := runIntake_eq_some h
  intro hempty
  have hsqlOf : sqlOf (call.withHash hash) = .null := by
    have hget : (call.withHash hash).get "sql" = .str call.sql := rfl
    unfold sqlOf
    rw [hget, hempty]
    rfl
  rw [hsqlOf] at hsql
  cases hsql
