import ContraGate.GatewayTheorems

/-!
# What a step writes to a contract

A step of the workflow writes to at most one contract object: the pipeline's own or, for a
decision, the stored one. `ContractWrite` lists the writes, one constructor for each place in the
source, and `machine_memory` says the list is complete. So what holds of a contract fresh from the
intake and is preserved by every write, holds of the stored contract and of the pipeline's: a step
keeps it (`Holds.step`).
-/

/-- A task that has built its contract had done so before, or comes from the intake. -/
theorem ProtocolStep.built {p q : Protocol} {a : GatewayAction} (h : ProtocolStep p a q)
    (hbuilt : q.task.built = true) : p.task.built = true ∨ p.task = .intake := by
  cases h with
  | task h => exact h.built hbuilt
  | _ => exact .inl hbuilt

/-- The decision that an action submits to `record_decision`. The endpoints submit none when the
request is invalid. -/
def GatewayAction.decision? : GatewayAction → Option (Decision × Time)
  | .task _ | .endpointStatus _ _ => none
  | .recordDecision d now => some (d, now)
  | .postDecision d now => if Gateway.validDecision d then some (d, now) else none
  | .viewSubmission approve reason approverId now =>
    if 10 ≤ reason.length then some (Gateway.viewDecision approve reason approverId, now) else none

open HumanReview in
/-- How an action may change a contract `c` into another one, when the task is at `t` and `stored`
is the contract in the store. -/
inductive ContractWrite (cfg : PipelineConfig) (manifest : Py.Dict)
    (stored : Option HandoffContract) (t : TaskAt) :
    GatewayAction → HandoffContract → HandoffContract → Prop
  | policy {cost : Py.Float} {v : Py.Json} {now : Time} {c c' : HandoffContract}
    (ht : t = .riskGate (.evaluating cost))
    (h : RiskGate.applyPolicyResult cost v now c = some c') :
    ContractWrite cfg manifest stored t (.task (.riskGate ⟨.result v, now⟩)) c c'
  | noPolicy {cost : Py.Float} {message : String} {now : Time} {c c' : HandoffContract}
    (ht : t = .riskGate (.evaluating cost))
    (h : RiskGate.applyPolicyResult cost RiskGate.safeDefaults now c = some c') :
    ContractWrite cfg manifest stored t (.task (.riskGate ⟨.mcpCallError message, now⟩)) c c'
  | agent {node : AgentNode} {write : AgentWrite} {c : HandoffContract} (ht : t = .agent node)
    (hallowed : write.allowedIn node = true) :
    ContractWrite cfg manifest stored t (.task (.agentWrites write)) c (write.apply c)
  | notified {pc : ReviewPc} {r : TargetReply} {now : Time} {c : HandoffContract}
    (ht : t = .humanReview pc) (hpoint : pc.point = .notifying)
    (hstate : c.approvalState ≠ .modified) :
    ContractWrite cfg manifest stored t (.task (.review (.notified r now))) c
      (c.addProvenance now "HUMAN_REVIEW" "approval_notification_sent")
  | reenter {pc : ReviewPc} {r : TargetReply} {now : Time} {c : HandoffContract}
    (ht : t = .humanReview pc) (hpoint : pc.point = .notifying) (hreply : r ≠ .otherError)
    (hstate : c.approvalState = .modified) :
    ContractWrite cfg manifest stored t (.task (.review (.notified r now))) c
      { c.addProvenance now "HUMAN_REVIEW" "approval_notification_sent" with
        approvalState := .pending }
  | merge {pc : ReviewPc} {record : Option Ref} {now : Time} {c f : HandoffContract}
    (ht : t = .humanReview pc) (hpoint : pc.point = .firstGot record) (hf : stored = some f)
    (hdecided : f.approvalState ≠ .pending) :
    ContractWrite cfg manifest stored t (.task (.review (.resume now))) c (copyDecision f c)
  | reviewed {pc : ReviewPc} {now : Time} {c : HandoffContract} (ht : t = .humanReview pc)
    (hpoint : pc.point = .merged ∨ pc.point = .pollGot none) :
    ContractWrite cfg manifest stored t (.task (.review (.resume now))) c
      (addReviewProvenance now c)
  | polled {pc : ReviewPc} {record : Option Ref} {now : Time} {c f : HandoffContract}
    (ht : t = .humanReview pc) (hpoint : pc.point = .pollGot record) (hf : stored = some f)
    (hdecided : f.approvalState ≠ .pending) :
    ContractWrite cfg manifest stored t (.task (.review (.resume now))) c
      (addReviewProvenance now (copyDecision f c))
  | timeOut {pc : ReviewPc} {now : Time} {c : HandoffContract} (ht : t = .humanReview pc)
    (hpoint : pc.point = .waiting) (hdeadline : pc.deadline ≤ now) :
    ContractWrite cfg manifest stored t (.task (.review (.resume now))) c
      (addReviewProvenance now (HumanReview.timeOut now c))
  | update {input : TaskInput} {c f : HandoffContract} (hf : stored = some f) :
    ContractWrite cfg manifest stored t (.task input) c (WorkflowStore.merged f c)
  | skipped {record : Option Ref} {now : Time} {c : HandoffContract}
    (ht : t = .execution (.got record)) :
    ContractWrite cfg manifest stored t (.task (.execution (.resume now))) c
      { c with executionSuccess := some true }
  | stale {record : Option Ref} {now : Time} {c : HandoffContract}
    (ht : t = .execution (.got record)) :
    ContractWrite cfg manifest stored t (.task (.execution (.resume now))) c
      ({ c with executionSuccess := some false }.addProvenance now "EXECUTION" "execution_success")
  | called {r : TargetReply} {now : Time} {success : Bool} {c : HandoffContract}
    (ht : t = .execution .calling) :
    ContractWrite cfg manifest stored t (.task (.execution (.reply r now))) c
      { c with executionSuccess := some success, executionTimestamp := some now }
  | executed {now : Time} {c : HandoffContract} (ht : t = .execution .stored) :
    ContractWrite cfg manifest stored t (.task (.execution (.resume now))) c
      (c.addProvenance now "EXECUTION" "execution_success,execution_timestamp")
  | audited {r : TargetReply} {now : Time} {c : HandoffContract} (ht : t = .audit .remembering) :
    ContractWrite cfg manifest stored t (.task (.auditReply r now)) c
      (Graph.finishAudit cfg now c)
  | decide {a : GatewayAction} {d : Decision} {now : Time} {c : HandoffContract}
    (hd : a.decision? = some (d, now)) (hpending : c.approvalState = .pending) :
    ContractWrite cfg manifest stored t a c
      { c with toDecisionFields := d.write now c.toDecisionFields }

/-- What a step does to the contract objects. Only a decision writes to another object than the
pipeline's. -/
inductive ContractStep (cfg : PipelineConfig) (approvalId : String) (manifest : Py.Dict)
    (m : Memory) (t : TaskAt) (a : GatewayAction) (m' : Memory) : Prop
  | same (h : m'.contracts = m.contracts)
  | intake {id : String} {now : Time} {c' : HandoffContract} (ht : t = .intake)
    (ha : a = .task (.generatedId id now))
    (hc : Intake.runIntake cfg.toIntakeConfig manifest id now = some c')
    (h : m'.contracts = Function.update m.contracts Gateway.pipelineContract c')
  | write {x : Ref} {c' : HandoffContract}
    (hx : x = Gateway.pipelineContract ∨ a.decision?.isSome = true)
    (hw : ContractWrite cfg manifest (m.contract? approvalId) t a (m.contracts x) c')
    (h : m'.contracts = Function.update m.contracts x c')

/-- What a step leaves of a record. It may get another status and another time, the pipeline's
contract object, and the result that EXECUTION has at hand. -/
structure RecordStep (t : TaskAt) (old new : WorkflowRecord) : Prop where
  operationId : new.operationId = old.operationId
  approvalId : new.approvalId = old.approvalId
  toolCallManifest : new.toolCallManifest = old.toolCallManifest
  createdAt : new.createdAt = old.createdAt
  contract : new.contract = old.contract ∨
    (new.contract = Gateway.pipelineContract ∧ t.built = true)
  executionResult : new.executionResult = old.executionResult ∨
    ∃ result, new.executionResult = some result ∧ t = .execution (.storing result)

theorem RecordStep.refl (t : TaskAt) (record : WorkflowRecord) : RecordStep t record record :=
  ⟨rfl, rfl, rfl, rfl, .inl rfl, .inl rfl⟩

/-- What a step does to the contracts and the records. -/
def MemoryStep (cfg : PipelineConfig) (approvalId : String) (manifest : Py.Dict)
    (m : Memory) (t : TaskAt) (a : GatewayAction) (m' : Memory) : Prop :=
  ContractStep cfg approvalId manifest m t a m' ∧
    ∀ q, RecordStep t (m.records q) (m'.records q)

namespace MemoryStep

variable {cfg : PipelineConfig} {approvalId : String} {manifest : Py.Dict} {m : Memory}
  {t : TaskAt} {a : GatewayAction} {r : Ref}

theorem refl : MemoryStep cfg approvalId manifest m t a m :=
  ⟨.same rfl, fun _ => .refl t _⟩

/-- The task writes to its own contract. -/
theorem own {f : HandoffContract → HandoffContract}
    (hw : ContractWrite cfg manifest (m.contract? approvalId) t a
      (m.contracts Gateway.pipelineContract) (f (m.contracts Gateway.pipelineContract))) :
    MemoryStep cfg approvalId manifest m t a
      (m.modifyContract Gateway.pipelineContract f) :=
  ⟨.write (.inl rfl) hw rfl, fun _ => .refl t _⟩

/-- One record is changed in place, after the contracts. -/
theorem recordStep_modifyRecord {m' : Memory} (hm : m'.records = m.records) (q : Ref)
    {f : WorkflowRecord → WorkflowRecord} (hf : RecordStep t (m.records q) (f (m.records q)))
    (q' : Ref) : RecordStep t (m.records q') ((m'.modifyRecord q f).records q') := by
  by_cases hq : q' = q
  · subst hq
    rw [Memory.modifyRecord_self, hm]
    exact hf
  · rw [m'.modifyRecord_of_ne _ hq, hm]
    exact .refl t _

theorem updateStatus (id : String) (status : WorkflowStatus) (now : Time) :
    MemoryStep cfg approvalId manifest m t a (WorkflowStore.updateStatus m id status now) := by
  cases h : m.store id with
  | none =>
    rw [WorkflowStore.updateStatus, h]
    exact refl
  | some q =>
    rw [WorkflowStore.updateStatus_eq h]
    exact ⟨.same rfl, recordStep_modifyRecord rfl q ⟨rfl, rfl, rfl, rfl, .inl rfl, .inl rfl⟩⟩

theorem setExecutionResult (id : String) {result : Py.Dict} (now : Time)
    (ht : t = .execution (.storing result)) :
    MemoryStep cfg approvalId manifest m t a
      (WorkflowStore.setExecutionResult m id result now) := by
  cases h : m.store id with
  | none =>
    rw [WorkflowStore.setExecutionResult, h]
    exact refl
  | some q =>
    rw [WorkflowStore.setExecutionResult_eq h]
    exact ⟨.same rfl,
      recordStep_modifyRecord rfl q ⟨rfl, rfl, rfl, rfl, .inl rfl, .inr ⟨result, rfl, ht⟩⟩⟩

/-- The task puts its contract into the store, under the id of the record or one without. -/
theorem updateContract (hrecord : m.store approvalId = some r) (hbuilt : t.built = true)
    {id : String} (hid : id = approvalId ∨ m.store id = none) (input : TaskInput) (now : Time) :
    MemoryStep cfg approvalId manifest m t (.task input)
      (WorkflowStore.updateContract m id Gateway.pipelineContract now) := by
  rcases hid with rfl | hnone
  · rw [WorkflowStore.updateContract_eq hrecord]
    refine ⟨.write (.inl rfl) (.update (Memory.contract?_of_store hrecord)) rfl, ?_⟩
    refine recordStep_modifyRecord (m.modifyContract_records _ _) r ?_
    exact ⟨rfl, rfl, rfl, rfl, .inr ⟨rfl, hbuilt⟩, .inl rfl⟩
  · rw [WorkflowStore.updateContract, hnone]
    exact refl

/-- A decision that is accepted writes to the stored contract. -/
theorem decide {d : Decision} {now : Time} (hd : a.decision? = some (d, now)) :
    MemoryStep cfg approvalId manifest m t a (WorkflowStore.decide m approvalId d now).1 := by
  unfold WorkflowStore.decide
  cases h : m.store approvalId with
  | none =>
    simp only [WorkflowStore.recordDecision, h]
    exact refl
  | some q =>
    by_cases hpending : (m.contracts (m.records q).contract).approvalState = .pending
    · rw [WorkflowStore.recordDecision_of_pending h hpending]
      refine ⟨.write (.inr (by rw [hd]; rfl)) (.decide hd hpending) rfl, ?_⟩
      dsimp only
      refine recordStep_modifyRecord (m.modifyContract_records _ _) q ?_
      exact ⟨rfl, rfl, rfl, rfl, .inl rfl, .inl rfl⟩
    · rw [WorkflowStore.recordDecision_of_decided (Memory.contract?_of_store h) hpending]
      exact refl

end MemoryStep

/-! ## Every stretch of the task -/

namespace Graph

variable {cfg : PipelineConfig} {approvalId : String} {manifest : Py.Dict} {m : Memory} {t : TaskAt}
  {input : TaskInput} {r : Ref}

open Gateway

section Review

variable {deadline : Time} {input : ReviewInput} {o : Resumed ReviewPc}

/-- HUMAN_REVIEW has notified the approver. -/
theorem notifying_contracts
    (h : HumanReview.runHumanReview pipelineContract m ⟨deadline, .notifying⟩ input = some o) :
    MemoryStep cfg approvalId manifest m (.humanReview ⟨deadline, .notifying⟩)
      (.task (.review input)) o.mem := by
  cases input with
  | resume now => cases h
  | notified reply now =>
    have hover (hreply : reply ≠ .otherError) :
        MemoryStep cfg approvalId manifest m (.humanReview ⟨deadline, .notifying⟩)
          (.task (.review (.notified reply now))) o.mem := by
      simp only [HumanReview.runHumanReview] at h
      rw [Memory.modifyContract_self] at h
      split at h
      · rename_i hmodified
        obtain rfl := Option.some.inj h
        dsimp only
        rw [Memory.modifyContract_twice]
        refine .own ?_
        exact .reenter rfl rfl hreply hmodified
      · rename_i hother
        obtain rfl := Option.some.inj h
        dsimp only
        refine .own ?_
        exact .notified rfl rfl hother
    cases reply with
    | otherError =>
      obtain rfl := Option.some.inj h
      exact .refl
    | _ => exact hover TargetReply.noConfusion

/-- It takes over a decision that a `get` has returned, or finds the contract pending. -/
theorem got_contracts {q : Ref} (hstored : m.contract? approvalId =
      some (m.contracts (m.records q).contract)) :
    ((HumanReview.runHumanReview pipelineContract m ⟨deadline, .firstGot (some q)⟩ input = some o) →
      MemoryStep cfg approvalId manifest m (.humanReview ⟨deadline, .firstGot (some q)⟩)
        (.task (.review input)) o.mem) ∧
    ((HumanReview.runHumanReview pipelineContract m ⟨deadline, .pollGot (some q)⟩ input = some o) →
      MemoryStep cfg approvalId manifest m (.humanReview ⟨deadline, .pollGot (some q)⟩)
        (.task (.review input)) o.mem) := by
  cases input with
  | notified reply now => exact ⟨nofun, nofun⟩
  | resume now =>
    refine ⟨fun h => ?_, fun h => ?_⟩ <;> simp only [HumanReview.runHumanReview] at h
    · split at h
      · obtain rfl := Option.some.inj h
        exact .refl
      · rename_i hdecided
        obtain rfl := Option.some.inj h
        dsimp only
        refine .own ?_
        exact .merge rfl rfl hstored hdecided
    · split at h
      · obtain rfl := Option.some.inj h
        exact .refl
      · rename_i hdecided
        obtain rfl := Option.some.inj h
        dsimp only
        refine .own ?_
        exact .polled rfl rfl hstored hdecided

end Review

/-- A stretch of HUMAN_REVIEW. -/
theorem runHumanReview_contracts {pc : ReviewPc} {input : ReviewInput} {o : Resumed ReviewPc}
    (hrecord : m.store approvalId = some r)
    (hlink : (m.contracts pipelineContract).operationId = approvalId ∨
      m.store (m.contracts pipelineContract).operationId = none)
    (hfresh : pc.point.Fresh (m.store (m.contracts pipelineContract).operationId))
    (h : HumanReview.runHumanReview pipelineContract m pc input = some o) :
    MemoryStep cfg approvalId manifest m (.humanReview pc) (.task (.review input)) o.mem := by
  obtain ⟨deadline, point⟩ := pc
  have hbuilt : TaskAt.built (.humanReview ⟨deadline, point⟩) = true := rfl
  -- a record that a `get` has returned is that of the workflow
  have hstored {q : Ref} (hq : some q = m.store (m.contracts pipelineContract).operationId) :
      m.contract? approvalId = some (m.contracts (m.records q).contract) := by
    have hid := hlink.resolve_right (by rw [← hq]; exact Option.some_ne_none q)
    rw [hid] at hq
    exact Memory.contract?_of_store hq.symm
  cases point with
  | notifying => exact notifying_contracts h
  | firstGot record =>
    cases record with
    | none =>
      cases input with
      | notified reply now => cases h
      | resume now =>
        obtain rfl := Option.some.inj h
        exact .refl
    | some q => exact (got_contracts (hstored hfresh)).1 h
  | pollGot record =>
    cases record with
    | none =>
      cases input with
      | notified reply now => cases h
      | resume now =>
        obtain rfl := Option.some.inj h
        dsimp only
        refine .own ?_
        exact .reviewed rfl (.inr rfl)
    | some q => exact (got_contracts (hstored hfresh)).2 h
  -- the test of the loop
  | waiting =>
    cases input with
    | notified reply now => cases h
    | resume now =>
      simp only [HumanReview.runHumanReview] at h
      split at h
      · obtain rfl := Option.some.inj h
        exact .refl
      · rename_i hdeadline
        obtain rfl := Option.some.inj h
        dsimp only
        refine .own ?_
        exact .timeOut rfl rfl (Int.not_lt.mp hdeadline)
  | merged =>
    cases input with
    | notified reply now => cases h
    | resume now =>
      obtain rfl := Option.some.inj h
      dsimp only
      refine .own ?_
      exact .reviewed rfl (.inl rfl)
  -- store calls of the reset, the merge and the first entry
  | resetContract | mergeContract _ | persistContract =>
    cases input with
    | notified reply now => cases h
    | resume now =>
      obtain rfl := Option.some.inj h
      exact .updateContract hrecord hbuilt hlink _ _
  | resetStatus | mergeStatus _ | persistStatus =>
    cases input with
    | notified reply now => cases h
    | resume now =>
      obtain rfl := Option.some.inj h
      exact .updateStatus _ _ _
  | firstGet | sleeping =>
    cases input with
    | notified reply now => cases h
    | resume now =>
      obtain rfl := Option.some.inj h
      exact .refl
  | returned | raised => cases input <;> cases h

/-- A stretch of RISK_GATE. -/
theorem runRiskGate_contracts {pc : RiskGateAt} {input : RiskGateInput} {o : Resumed RiskGateAt}
    (h : RiskGate.runRiskGate cfg.toRiskGateConfig pipelineContract m pc input = some o) :
    MemoryStep cfg approvalId manifest m (.riskGate pc) (.task (.riskGate input)) o.mem := by
  unfold RiskGate.runRiskGate at h
  split at h
  case h_1 =>
    split at h <;> obtain rfl := Option.some.inj h <;> exact .refl
  -- the policy is applied, or that raises
  case h_3 =>
    obtain rfl := Option.some.inj h
    unfold RiskGate.runRiskGate.apply
    split
    · rename_i c hc
      refine .own (f := fun _ => c) ?_
      exact .policy rfl hc
    · exact .refl
  case h_4 =>
    obtain rfl := Option.some.inj h
    unfold RiskGate.runRiskGate.apply
    split
    · rename_i c hc
      refine .own (f := fun _ => c) ?_
      exact .noPolicy rfl hc
    · exact .refl
  case h_7 => cases h
  all_goals
    obtain rfl := Option.some.inj h
    exact .refl

/-- A stretch of EXECUTION. -/
theorem runExecution_contracts {pc : ExecutionAt} {input : ExecutionInput}
    {o : Resumed ExecutionAt}
    (h : Execution.runExecution cfg.toExecutionConfig pipelineContract m pc input = some o) :
    MemoryStep cfg approvalId manifest m (.execution pc) (.task (.execution input)) o.mem := by
  unfold Execution.runExecution at h
  split at h
  case h_3 =>
    obtain rfl := Option.some.inj h
    unfold Execution.checkAndCall
    dsimp only
    split
    · dsimp only
      refine .own ?_
      exact .skipped rfl
    · split
      · exact .refl
      · dsimp only
        refine .own ?_
        exact .stale rfl
  case h_4 | h_5 =>
    obtain rfl := Option.some.inj h
    dsimp only
    refine .own ?_
    exact .called rfl
  case h_7 =>
    obtain rfl := Option.some.inj h
    exact .setExecutionResult _ _ rfl
  case h_8 =>
    obtain rfl := Option.some.inj h
    dsimp only
    refine .own ?_
    exact .executed rfl
  case h_9 => cases h
  all_goals
    obtain rfl := Option.some.inj h
    exact .refl

/-- Every stretch of the task. -/
theorem runTask_contracts {o : Resumed TaskAt} (hrecord : m.store approvalId = some r)
    (hlink : Linked approvalId pipelineContract m t)
    (hfresh : t.Fresh (m.store (m.contracts pipelineContract).operationId))
    (h : runTask cfg approvalId manifest pipelineContract m t input = some o) :
    MemoryStep cfg approvalId manifest m t (.task input) o.mem := by
  unfold runTask at h
  split at h
  case h_1 | h_16 | h_17 =>
    obtain rfl := Option.some.inj h
    exact .updateStatus _ _ _
  case h_2 =>
    split at h
    · rename_i c hc
      obtain rfl := Option.some.inj h
      exact ⟨.intake rfl rfl hc rfl, fun _ => .refl _ _⟩
    · obtain rfl := Option.some.inj h
      exact .refl
  case h_3 =>
    obtain ⟨o', ho', rfl⟩ := Option.map_eq_some_iff.mp h
    exact runRiskGate_contracts ho'
  case h_4 | h_9 =>
    split at h <;> obtain rfl := Option.some.inj h <;> exact .refl
  case h_5 =>
    split at h
    · rename_i hallowed
      obtain rfl := Option.some.inj h
      dsimp only
      refine .own ?_
      exact .agent rfl hallowed
    · cases h
  case h_8 =>
    obtain ⟨o', ho', rfl⟩ := Option.map_eq_some_iff.mp h
    exact runHumanReview_contracts hrecord (hlink rfl) hfresh ho'
  case h_10 =>
    obtain ⟨o', ho', rfl⟩ := Option.map_eq_some_iff.mp h
    exact runExecution_contracts ho'
  case h_13 =>
    obtain rfl := Option.some.inj h
    dsimp only
    refine .own ?_
    exact .audited rfl
  case h_14 =>
    obtain rfl := Option.some.inj h
    exact .updateContract hrecord rfl (.inl rfl) _ _
  case h_18 => cases h
  all_goals
    obtain rfl := Option.some.inj h
    exact .refl

end Graph

namespace Gateway

variable {cfg : PipelineConfig} {approvalId : String} {manifest : Py.Dict} {s t : Gateway}
  {a : GatewayAction}

/-- **Every step writes to the contracts and the records as listed.** -/
theorem machine_memory (h : WellFormed approvalId s)
    (hstep : (machine cfg approvalId manifest).step s a = some t) :
    MemoryStep cfg approvalId manifest s.mem s.task a t.mem := by
  cases a with
  | task input =>
    obtain ⟨r, hr⟩ := h.record
    obtain ⟨o, ho, rfl⟩ := Option.map_eq_some_iff.mp (resumeTask_of_step hstep).1
    exact Graph.runTask_contracts hr h.link h.fresh ho
  | recordDecision d now =>
    obtain rfl := Option.some.inj hstep
    exact .decide rfl
  | postDecision d now =>
    obtain rfl := Option.some.inj hstep
    split
    · rename_i hvalid
      exact .decide (if_pos hvalid)
    · exact .refl
  | viewSubmission approve reason approverId now =>
    obtain rfl := Option.some.inj hstep
    split
    · rename_i hreason
      exact .decide (if_pos hreason)
    · exact .refl
  | endpointStatus i now =>
    obtain ⟨status, -, rfl⟩ := Option.map_eq_some_iff.mp hstep
    exact .updateStatus _ _ _

/-- No step changes what is stored under which id. -/
theorem machine_store (hstep : (machine cfg approvalId manifest).step s a = some t) :
    t.mem.store = s.mem.store := by
  cases a with
  | task input =>
    obtain ⟨o, ho, rfl⟩ := Option.map_eq_some_iff.mp (resumeTask_of_step hstep).1
    exact (Graph.runTask_frame ho).1
  | recordDecision d now =>
    obtain rfl := Option.some.inj hstep
    exact (s.mem.kept_decide approvalId d now).store
  | postDecision d now =>
    obtain rfl := Option.some.inj hstep
    split
    · exact (s.mem.kept_decide approvalId d now).store
    · rfl
  | viewSubmission approve reason approverId now =>
    obtain rfl := Option.some.inj hstep
    split
    · exact (s.mem.kept_decide approvalId _ now).store
    · rfl
  | endpointStatus i now =>
    obtain ⟨status, -, rfl⟩ := Option.map_eq_some_iff.mp hstep
    exact WorkflowStore.updateStatus_store status

/-- The pipeline's contract is built by the intake. -/
theorem built_step (hwf : WellFormed approvalId s)
    (hstep : (machine cfg approvalId manifest).step s a = some t) (hbuilt : t.task.built = true) :
    s.task.built = true ∨ ∃ (id : String) (now : Time) (c : HandoffContract),
      Intake.runIntake cfg.toIntakeConfig manifest id now = some c ∧
        t.mem.contracts pipelineContract = c := by
  have hprotocol := (machine_step hwf hstep).2
  rcases hprotocol.built hbuilt with hbuilt' | hintake
  · exact .inl hbuilt'
  · have hintake : s.task = .intake := hintake
    cases a with
    | task input =>
      obtain ⟨o, ho, rfl⟩ := Option.map_eq_some_iff.mp (resumeTask_of_step hstep).1
      rw [hintake] at ho
      cases input with
      | generatedId id now =>
        rcases Graph.runTask_intake ho with hfailed | ⟨c, hc, hmem⟩
        · dsimp only at hbuilt
          rw [hfailed] at hbuilt
          cases hbuilt
        · exact .inr ⟨id, now, c, hc, hmem⟩
      | _ => simp [Graph.runTask] at ho
    -- the other actions leave the task where it is
    | recordDecision d now =>
      obtain rfl := Option.some.inj hstep
      exact .inl hbuilt
    | postDecision d now =>
      obtain rfl := Option.some.inj hstep
      refine .inl ?_
      split at hbuilt <;> exact hbuilt
    | viewSubmission approve reason approverId now =>
      obtain rfl := Option.some.inj hstep
      refine .inl ?_
      split at hbuilt <;> exact hbuilt
    | endpointStatus i now =>
      obtain ⟨status, -, rfl⟩ := Option.map_eq_some_iff.mp hstep
      exact .inl hbuilt

/-- The stored contract has the property, and the pipeline's has it once it is built. -/
structure Holds (approvalId : String) (P : HandoffContract → Prop) (s : Gateway) : Prop where
  stored : ∀ c ∈ s.mem.contract? approvalId, P c
  pipeline : s.task.built = true → P (s.mem.contracts pipelineContract)

/-- What one step does to a contract object with the property. -/
theorem Holds.step {P : HandoffContract → Prop} (h : Holds approvalId P s)
    (hwf : WellFormed approvalId s)
    (hintake : ∀ (id : String) (now : Time) (c : HandoffContract),
      Intake.runIntake cfg.toIntakeConfig manifest id now = some c → P c)
    (hwrite : ∀ (x : Ref) (c' : HandoffContract),
      x = pipelineContract ∨ a.decision?.isSome = true → P (s.mem.contracts x) →
      ContractWrite cfg manifest (s.mem.contract? approvalId) s.task a (s.mem.contracts x) c' →
      P c')
    (hstep : (machine cfg approvalId manifest).step s a = some t) : Holds approvalId P t := by
  obtain ⟨hcontracts, hrecords⟩ := machine_memory hwf hstep
  have hstore := machine_store hstep
  obtain ⟨r, hr⟩ := hwf.record
  have hr' : t.mem.store approvalId = some r := hstore ▸ hr
  have hstored : P (s.mem.contracts (s.mem.records r).contract) :=
    h.stored _ (Memory.contract?_of_store hr)
  -- an object with the property keeps it
  have hkeeps (y : Ref) (hy : P (s.mem.contracts y)) : P (t.mem.contracts y) := by
    cases hcontracts with
    | same hsame => exact hsame ▸ hy
    | intake ht ha hc hsame =>
      rw [hsame]
      by_cases hown : y = pipelineContract
      · rw [hown, Function.update_self]
        exact hintake _ _ _ hc
      · rw [Function.update_of_ne hown]
        exact hy
    | write hx hw hsame =>
      rename_i x c'
      rw [hsame]
      by_cases hown : y = x
      · rw [hown, Function.update_self]
        exact hwrite x c' hx (hown ▸ hy) hw
      · rw [Function.update_of_ne hown]
        exact hy
  constructor
  · rw [Memory.contract?_of_store hr']
    rintro c ⟨⟩
    rcases (hrecords r).contract with hsame | ⟨hown, hbuilt⟩
    · rw [hsame]
      exact hkeeps _ hstored
    · rw [hown]
      exact hkeeps _ (h.pipeline hbuilt)
  · intro hbuilt
    rcases built_step hwf hstep hbuilt with hbuilt' | ⟨id, now, c, hc, hown⟩
    · exact hkeeps _ (h.pipeline hbuilt')
    · rw [hown]
      exact hintake id now c hc

end Gateway
