import ContraGate.AuditFeedback
import ContraGate.ContractWrites
import ContraGate.DatabaseRows

/-!
# A workflow and its row survive a restart

`_load_from_db` validates a contract that was never validated as a whole: most of its fields were
assigned one by one. What makes it load is an invariant of the workflow, `Reloadable`: every reason
is long enough for the validator, and what the servers sent has the declared types and is finite.
-/

/-- The contract comes back from its row. -/
structure HandoffContract.Reloadable (c : HandoffContract) : Prop where
  wellTyped : c.WellTyped
  reasonAccepted : c.reasonAccepted = true

/-! ## What the servers send -/

/-- The fields of a policy result have the types that the contract declares for them. -/
def RiskGate.wellTypedPolicy (v : Py.Json) : Bool :=
  match v.dict? with
  | some policy =>
    (match policy.getD "has_hard_violation" (.bool false) with
      | .bool _ => true
      | _ => false) &&
    (policy.get "auto_reject_reason").isText && (policy.get "required_tier").isText
  | none => true

/-- What an agent writes has the declared types, and its numbers are finite. -/
def AgentWrite.wellTyped : AgentWrite → Bool
  | analyzer outputs =>
    outputs.intentSummary.str?.isSome && outputs.estimatedPrimaryRows.isInt &&
      outputs.rowConfidence.isFiniteFloat
  | contextSim outputs =>
    (outputs.historicalPrecedents.all fun o =>
      o.similarityScore.isFinite && o.jaccardScore.isFinite && o.rerankScore.isFinite) &&
    outputs.actualPrimaryRows.all Py.Number.isInt && outputs.sandboxTriggerLog.isObjects
  | contractAgent outputs => outputs.riskScore.isFinite
  | provenance _ => true

/-- The decision endpoints are the only callers of `record_decision`, and what servers and agents
give is well-typed and finite. -/
def Gateway.wellTyped (s : Gateway) : GatewayAction → Bool
  | .task (.riskGate ⟨.result v, _⟩) =>
    match s.task with
    | .riskGate (.evaluating _) => RiskGate.wellTypedPolicy v
    | _ => true
  | .task (.agentWrites write) => write.wellTyped
  | .recordDecision _ _ => false
  | _ => true

namespace HandoffContract.Reloadable

variable {c c' source : HandoffContract} {now : Time}

/-- Only the fields that are assigned without validation matter. -/
theorem of_groups (h : c.Reloadable) (hanalyzer : c'.toAnalyzerOutputs = c.toAnalyzerOutputs)
    (hsim : c'.toContextSimOutputs = c.toContextSimOutputs)
    (hagent : c'.toContractAgentOutputs = c.toContractAgentOutputs)
    (hpolicy : c'.toPolicyGateOutputs = c.toPolicyGateOutputs)
    (hdelta : c'.blastRadiusAccuracyDelta = c.blastRadiusAccuracyDelta)
    (hreason : c'.reasonAccepted = true) : c'.Reloadable where
  wellTyped := by
    obtain ⟨⟨h1, h2, h3, h4, h5, h6, h7, h8, h9, h10, h11⟩, -⟩ := h
    constructor
    · rw [hanalyzer]
      exact h1
    · rw [hanalyzer]
      exact h2
    · rw [hanalyzer]
      exact h3
    · rw [hsim]
      exact h4
    · rw [hsim]
      exact h5
    · rw [hsim]
      exact h6
    · rw [hagent]
      exact h7
    · rw [hpolicy]
      exact h8
    · rw [hpolicy]
      exact h9
    · rw [hpolicy]
      exact h10
    · rw [hdelta]
      exact h11
  reasonAccepted := hreason

theorem addProvenance (h : c.Reloadable) (now : Time) (agent fieldWritten : String) (llm : Bool) :
    (c.addProvenance now agent fieldWritten llm).Reloadable :=
  h.of_groups rfl rfl rfl rfl rfl h.reasonAccepted

/-- Another approval state. -/
theorem withState (h : c.Reloadable) (state : ApprovalState) :
    Reloadable { c with approvalState := state } :=
  h.of_groups rfl rfl rfl rfl rfl h.reasonAccepted

/-- Decision fields that the validator accepts. -/
theorem withDecision (h : c.Reloadable) {fields : DecisionFields}
    (hfields : fields.reasonAccepted = true) :
    Reloadable { c with toDecisionFields := fields } :=
  h.of_groups rfl rfl rfl rfl rfl hfields

/-- The text of a timeout is long enough for any decision. -/
theorem timeOut (h : c.Reloadable) (now : Time) : (HumanReview.timeOut now c).Reloadable := by
  refine h.of_groups rfl rfl rfl rfl rfl ?_
  have hlength : ¬ "Human review timed out — auto-rejected by ContraGate.".length < 10 := by decide
  simp [DecisionFields.reasonAccepted, HumanReview.timeOut, hlength]

/-- A reason of ten characters is accepted. -/
theorem reasonAccepted_write {d : Decision} (hd : 10 ≤ d.reason.length) (now : Time)
    (fields : DecisionFields) : (d.write now fields).reasonAccepted = true := by
  have hlength : ¬ d.reason.length < 10 := Nat.not_lt.mpr hd
  simp [DecisionFields.reasonAccepted, Decision.write, hlength]

/-- The contract that the intake builds. -/
theorem of_intake {cfg : IntakeConfig} {manifest : Py.Dict} {generatedId : String}
    (h : Intake.runIntake cfg manifest generatedId now = some c) : c.Reloadable := by
  obtain ⟨_, _, _, _, _, _, _, _, _, _, _, rfl⟩ := Intake.runIntake_eq_some h
  exact ⟨⟨rfl, rfl, rfl, nofun, nofun, rfl, rfl, ⟨false, rfl⟩, rfl, rfl, nofun⟩, rfl⟩

/-- The policy result of a well-typed reply. -/
theorem applyPolicyResult {cost : Py.Float} {v : Py.Json} (h : c.Reloadable)
    (hv : RiskGate.wellTypedPolicy v = true)
    (hc : RiskGate.applyPolicyResult cost v now c = some c') : c'.Reloadable := by
  simp only [RiskGate.applyPolicyResult, Option.bind_eq_bind, Option.bind_eq_some_iff,
    Option.some.injEq] at hc
  obtain ⟨policy, hpolicy, violations, -, rfl⟩ := hc
  simp only [RiskGate.wellTypedPolicy, hpolicy, Bool.and_eq_true] at hv
  obtain ⟨⟨hhard, hreason⟩, htier⟩ := hv
  have htriggered : ∃ b : Bool, policy.getD "has_hard_violation" (.bool false) = .bool b := by
    split at hhard
    · rename_i b hb
      exact ⟨b, hb⟩
    · cases hhard
  refine .addProvenance ?_ _ _ _ _
  have htyped := h.wellTyped
  split_ifs
  all_goals
    exact ⟨{ htyped with
      riskScore := rfl, autoRejectTriggered := htriggered, autoRejectReason := hreason,
      requiredTierFromPolicy := htier }, h.reasonAccepted⟩

/-- What an agent writes. -/
theorem agentWrite (h : c.Reloadable) {write : AgentWrite} (hwrite : write.wellTyped = true) :
    (write.apply c).Reloadable := by
  have htyped := h.wellTyped
  cases write with
  | analyzer outputs =>
    simp only [AgentWrite.wellTyped, Bool.and_eq_true] at hwrite
    obtain ⟨⟨hsummary, hrows⟩, hconfidence⟩ := hwrite
    exact ⟨{ htyped with
      intentSummary := hsummary, estimatedPrimaryRows := hrows, rowConfidence := hconfidence },
      h.reasonAccepted⟩
  | contextSim outputs =>
    simp only [AgentWrite.wellTyped, Bool.and_eq_true] at hwrite
    obtain ⟨⟨hprecedents, hrows⟩, hlog⟩ := hwrite
    exact ⟨{ htyped with
      historicalPrecedents := List.all_eq_true.mp hprecedents,
      actualPrimaryRows := (Option.all_eq_true _ _).mp hrows, sandboxTriggerLog := hlog },
      h.reasonAccepted⟩
  | contractAgent outputs => exact ⟨{ htyped with riskScore := hwrite }, h.reasonAccepted⟩
  | provenance entries => exact h.of_groups rfl rfl rfl rfl rfl h.reasonAccepted

/-- The end of AUDIT. -/
theorem finishAudit {cfg : PipelineConfig} {toFloat : ℚ → ℚ}
    (hfeedback : cfg.feedback = Audit.triggerFeedbackLoopStub toFloat) (h : c.Reloadable) :
    (Graph.finishAudit cfg now c).Reloadable := by
  unfold Graph.finishAudit
  refine .addProvenance ?_ _ _ _ _
  split
  · rename_i delta confidence hsome
    rw [hfeedback] at hsome
    obtain ⟨hdelta, hconfidence⟩ :=
      Audit.isFinite_triggerFeedbackLoopStub toFloat h.wellTyped.estimatedPrimaryRows
        h.wellTyped.actualPrimaryRows h.wellTyped.rowConfidence hsome
    refine ⟨{ h.wellTyped with
      rowConfidence := hconfidence, blastRadiusAccuracyDelta := ?_ }, h.reasonAccepted⟩
    rintro x ⟨⟩
    exact hdelta
  · exact h

end HandoffContract.Reloadable

open HandoffContract in
/-- Every write keeps a contract reloadable. -/
theorem ContractWrite.reloadable {cfg : PipelineConfig} {manifest : Py.Dict} {toFloat : ℚ → ℚ}
    (hfeedback : cfg.feedback = Audit.triggerFeedbackLoopStub toFloat)
    {stored : Option HandoffContract} {s : Gateway} {a : GatewayAction} {c c' : HandoffContract}
    (hguard : s.wellTyped a = true) (hstored : ∀ f ∈ stored, f.Reloadable) (hc : c.Reloadable)
    (h : ContractWrite cfg manifest stored s.task a c c') : c'.Reloadable := by
  cases h with
  | policy ht h =>
    refine hc.applyPolicyResult ?_ h
    simpa [Gateway.wellTyped, ht] using hguard
  | noPolicy ht h => exact hc.applyPolicyResult rfl h
  | agent ht hallowed => exact hc.agentWrite hguard
  | notified ht hpoint hstate => exact hc.addProvenance _ _ _ _
  | reenter ht hpoint hreply hstate => exact (hc.addProvenance _ _ _ _).withState _
  | merge ht hpoint hf hdecided => exact hc.withDecision (hstored _ hf).reasonAccepted
  | reviewed ht hpoint => exact hc.addProvenance _ _ _ _
  | polled ht hpoint hf hdecided =>
    exact .addProvenance (hc.withDecision (hstored _ hf).reasonAccepted) _ _ _ _
  | timeOut ht hpoint hdeadline => exact .addProvenance (hc.timeOut _) _ _ _ _
  | update hf =>
    unfold WorkflowStore.merged
    split
    · exact hc.withDecision (hstored _ hf).reasonAccepted
    · exact hc
  | skipped ht | called ht => exact hc.of_groups rfl rfl rfl rfl rfl hc.reasonAccepted
  | stale ht =>
    refine .addProvenance ?_ _ _ _ _
    exact hc.of_groups rfl rfl rfl rfl rfl hc.reasonAccepted
  | executed ht => exact hc.addProvenance _ _ _ _
  | audited ht => exact hc.finishAudit hfeedback
  | decide hd hpending =>
    -- the endpoints have checked the length of the reason
    refine hc.withDecision (Reloadable.reasonAccepted_write ?_ _ _)
    cases a with
    | task input => cases hd
    | endpointStatus i now => cases hd
    | recordDecision d now => cases hguard
    | postDecision d now =>
      simp only [GatewayAction.decision?] at hd
      split at hd
      · rename_i hvalid
        obtain ⟨rfl, rfl⟩ := Prod.mk.inj (Option.some.inj hd)
        simp only [Gateway.validDecision, Bool.and_eq_true, decide_eq_true_eq] at hvalid
        exact hvalid.1
      · cases hd
    | viewSubmission approve reason approverId now =>
      simp only [GatewayAction.decision?] at hd
      split at hd
      · rename_i hreason
        obtain ⟨rfl, rfl⟩ := Prod.mk.inj (Option.some.inj hd)
        exact hreason
      · cases hd

/-! ## The record -/

/-- EXECUTION puts its results together itself. -/
theorem Execution.runExecution_storing {cfg : ExecutionConfig} {contract : Ref} {m : Memory}
    {pc : ExecutionAt} {input : ExecutionInput} {o : Resumed ExecutionAt} {result : Py.Dict}
    (h : Execution.runExecution cfg contract m pc input = some o)
    (hstoring : o.pc = .storing result) : result ≠ [] := by
  unfold Execution.runExecution at h
  split at h
  case h_3 =>
    obtain rfl := Option.some.inj h
    unfold Execution.checkAndCall at hstoring
    dsimp only at hstoring
    split at hstoring
    · cases hstoring
    · split at hstoring <;> cases hstoring
  case h_4 | h_5 =>
    obtain rfl := Option.some.inj h
    rw [← ExecutionAt.storing.inj hstoring]
    exact List.cons_ne_nil _ _
  case h_9 => cases h
  all_goals
    obtain rfl := Option.some.inj h
    cases hstoring

/-- A result that is about to be stored comes from EXECUTION. -/
theorem Graph.runTask_storing {cfg : PipelineConfig} {approvalId : String} {manifest : Py.Dict}
    {contract : Ref} {m : Memory} {t : TaskAt} {input : TaskInput} {o : Resumed TaskAt}
    {result : Py.Dict} (h : Graph.runTask cfg approvalId manifest contract m t input = some o)
    (hstoring : o.pc = .execution (.storing result)) : result ≠ [] := by
  unfold Graph.runTask at h
  split at h
  -- every other node goes somewhere else
  case h_3 =>
    obtain ⟨o', -, rfl⟩ := Option.map_eq_some_iff.mp h
    unfold Graph.within Graph.afterRiskGate at hstoring
    dsimp only at hstoring
    split at hstoring <;> cases hstoring
  case h_8 =>
    obtain ⟨o', -, rfl⟩ := Option.map_eq_some_iff.mp h
    unfold Graph.within Graph.afterHumanReview at hstoring
    dsimp only at hstoring
    split at hstoring <;> cases hstoring
  case h_10 =>
    obtain ⟨o', ho', rfl⟩ := Option.map_eq_some_iff.mp h
    unfold Graph.within Graph.afterExecution at hstoring
    dsimp only at hstoring
    split at hstoring
    · cases hstoring
    · cases hstoring
    · exact Execution.runExecution_storing ho' (TaskAt.execution.inj hstoring)
  case h_6 node now =>
    obtain rfl := Option.some.inj h
    cases node <;> cases hstoring
  case h_2 | h_4 | h_9 =>
    split at h <;> obtain rfl := Option.some.inj h <;> cases hstoring
  case h_5 =>
    split at h
    · obtain rfl := Option.some.inj h
      cases hstoring
    · cases h
  case h_18 => cases h
  all_goals
    obtain rfl := Option.some.inj h
    cases hstoring

namespace Gateway

variable {cfg : PipelineConfig} {approvalId : String} {manifest : Py.Dict} {created : Time}
  {s t : Gateway} {a : GatewayAction}

/-- The record of the workflow, created at this time; neither of its JSON values is an empty
object. -/
structure RecordKept (approvalId : String) (created : Time) (record : WorkflowRecord) : Prop where
  operationId : record.operationId = approvalId
  approvalId : record.approvalId = approvalId
  createdAt : record.createdAt = created
  toolCallManifest : record.toolCallManifest ≠ some []
  executionResult : record.executionResult ≠ some []

/-- The record is kept, and so is what EXECUTION is about to store. -/
structure RecordHeld (approvalId : String) (created : Time) (s : Gateway) : Prop where
  record : ∀ r, s.mem.store approvalId = some r →
    RecordKept approvalId created (s.mem.records r)
  result : ∀ result, s.task = .execution (.storing result) → result ≠ []

/-- What EXECUTION is about to store is never empty. -/
theorem result_ne_nil (hresult : ∀ result, s.task = .execution (.storing result) → result ≠ [])
    (hstep : (machine cfg approvalId manifest).step s a = some t) :
    ∀ result, t.task = .execution (.storing result) → result ≠ [] := by
  cases a with
  | task input =>
    obtain ⟨o, ho, rfl⟩ := Option.map_eq_some_iff.mp (resumeTask_of_step hstep).1
    intro result hstoring
    exact Graph.runTask_storing ho hstoring
  | recordDecision d now =>
    obtain rfl := Option.some.inj hstep
    exact hresult
  | postDecision d now =>
    obtain rfl := Option.some.inj hstep
    split <;> exact hresult
  | viewSubmission approve reason approverId now =>
    obtain rfl := Option.some.inj hstep
    split <;> exact hresult
  | endpointStatus i now =>
    obtain ⟨status, -, rfl⟩ := Option.map_eq_some_iff.mp hstep
    exact hresult

theorem RecordHeld.step (h : RecordHeld approvalId created s) (hwf : WellFormed approvalId s)
    (hstep : (machine cfg approvalId manifest).step s a = some t) :
    RecordHeld approvalId created t := by
  have hrecords := (machine_memory hwf hstep).2
  have hstore := machine_store hstep
  refine ⟨fun r hr => ?_, result_ne_nil h.result hstep⟩
  have hkept := h.record r (hstore ▸ hr)
  have hrecord := hrecords r
  refine ⟨hrecord.operationId.trans hkept.operationId, hrecord.approvalId.trans hkept.approvalId,
    hrecord.createdAt.trans hkept.createdAt, ?_, ?_⟩
  · rw [hrecord.toolCallManifest]
    exact hkept.toolCallManifest
  · rcases hrecord.executionResult with hsame | ⟨result, hresult, hstoring⟩
    · rw [hsame]
      exact hkept.executionResult
    · rw [hresult]
      exact fun heq => h.result result hstoring (Option.some.inj heq)

end Gateway
