import ContraGate.GatewayTheorems
import ContraGate.Proxy

/-!
# The shared memory as one workflow sees it

`Memory.seenBy w` is the memory with nothing in it but the record and the two contracts of the
workflow `w`, under the names that these have in a `Gateway`. While the workflow owns these objects
(`Workflow.Owns`), an operation on its id acts on what it sees as on the whole memory
(`seenBy_updateStatus` and so on), an operation on other objects cannot be seen, and so a stretch of
its task is a stretch on what it sees (`runTask_seenBy`).
-/

/-- The name that a contract of the workflow has in its `Gateway`. -/
def Workflow.rename (w : Workflow) (c : Ref) : Ref :=
  if c = w.pipeline then Gateway.pipelineContract else Gateway.initialContract

namespace Memory

/-- The contracts of one workflow. -/
def contractsSeenBy (w : Workflow) (contracts : Ref → HandoffContract) : Ref → HandoffContract :=
  Function.update (Function.update (fun _ => sampleContract) Gateway.initialContract
    (contracts w.initial)) Gateway.pipelineContract (contracts w.pipeline)

/-- The record of one workflow. -/
def recordsSeenBy (w : Workflow) (records : Ref → WorkflowRecord) : Ref → WorkflowRecord :=
  Function.update (Memory.blank sampleContract).records w.record
    { records w.record with contract := w.rename (records w.record).contract }

/-- The objects of one workflow. -/
def seenBy (w : Workflow) (m : Memory) : Memory where
  contracts := contractsSeenBy w m.contracts
  records := recordsSeenBy w m.records
  store := Function.update (fun _ => none) w.approvalId (m.store w.approvalId)
  nextRecord := 0

end Memory

/-- The workflow has its record in the store, and the contract of the record is one of its own. -/
structure Workflow.Owns (w : Workflow) (m : Memory) : Prop where
  record : m.store w.approvalId = some w.record
  contract : (m.records w.record).contract = w.initial ∨
    (m.records w.record).contract = w.pipeline
  distinct : w.initial ≠ w.pipeline

/-- What an operation has to leave alone for the workflow to own its objects still. -/
theorem Workflow.Owns.of_eq {w : Workflow} {m m' : Memory} (h : w.Owns m) (hstore : m'.store = m.store)
    (hcontract : (m'.records w.record).contract = (m.records w.record).contract) : w.Owns m' where
  record := by rw [hstore, h.record]
  contract := by rw [hcontract]; exact h.contract
  distinct := h.distinct

namespace Memory

variable {w : Workflow} {m : Memory} {c r : Ref} {now : Time}

theorem seenBy_pipeline (w : Workflow) (m : Memory) :
    (m.seenBy w).contracts Gateway.pipelineContract = m.contracts w.pipeline := by
  simp [seenBy, contractsSeenBy]

theorem seenBy_initial (w : Workflow) (m : Memory) :
    (m.seenBy w).contracts Gateway.initialContract = m.contracts w.initial := by
  simp [seenBy, contractsSeenBy, Gateway.initialContract, Gateway.pipelineContract]

theorem seenBy_store (w : Workflow) (m : Memory) :
    (m.seenBy w).store w.approvalId = m.store w.approvalId := by
  simp [seenBy]

theorem seenBy_record (w : Workflow) (m : Memory) :
    (m.seenBy w).records w.record =
      { m.records w.record with contract := w.rename (m.records w.record).contract } := by
  simp [seenBy, recordsSeenBy]

/-- A contract of the workflow, under its name. -/
theorem seenBy_contract (hc : c = w.initial ∨ c = w.pipeline) :
    (m.seenBy w).contracts (w.rename c) = m.contracts c := by
  unfold Workflow.rename
  split_ifs with hpipeline
  · rw [hpipeline, seenBy_pipeline]
  · rw [seenBy_initial, hc.resolve_right hpipeline]

/-- The contract that is stored for the workflow. -/
theorem stored_seenBy (h : w.Owns m) :
    (m.seenBy w).contracts ((m.seenBy w).records w.record).contract =
      m.contracts (m.records w.record).contract := by
  rw [seenBy_record]
  exact seenBy_contract h.contract

/-! ## Changes of one object -/

theorem contractsSeenBy_update (hdistinct : w.initial ≠ w.pipeline)
    (hc : c = w.initial ∨ c = w.pipeline) (contracts : Ref → HandoffContract) (x : HandoffContract) :
    contractsSeenBy w (Function.update contracts c x) =
      Function.update (contractsSeenBy w contracts) (w.rename c) x := by
  have hnames : Gateway.initialContract ≠ Gateway.pipelineContract := by decide
  unfold contractsSeenBy Workflow.rename
  by_cases hpipeline : c = w.pipeline
  · subst hpipeline
    rw [if_pos rfl, Function.update_self, Function.update_of_ne hdistinct, Function.update_idem]
  · obtain rfl : c = w.initial := hc.resolve_right hpipeline
    rw [if_neg hpipeline, Function.update_self, Function.update_of_ne hdistinct.symm,
      Function.update_comm hnames.symm, Function.update_idem, Function.update_comm hnames]

theorem seenBy_modifyContract (hdistinct : w.initial ≠ w.pipeline)
    (hc : c = w.initial ∨ c = w.pipeline) (f : HandoffContract → HandoffContract) :
    (m.modifyContract c f).seenBy w = (m.seenBy w).modifyContract (w.rename c) f := by
  unfold seenBy modifyContract
  dsimp only
  rw [contractsSeenBy_update hdistinct hc, ← seenBy_contract hc]
  rfl

/-- The graph writes to its contract. -/
theorem seenBy_modifyPipeline (hdistinct : w.initial ≠ w.pipeline)
    (f : HandoffContract → HandoffContract) :
    (m.modifyContract w.pipeline f).seenBy w =
      (m.seenBy w).modifyContract Gateway.pipelineContract f := by
  rw [seenBy_modifyContract hdistinct (.inr rfl) f, Workflow.rename, if_pos rfl]

theorem seenBy_modifyRecord {f g : WorkflowRecord → WorkflowRecord}
    (hfg : ∀ x : WorkflowRecord, { f x with contract := w.rename (f x).contract } =
      g { x with contract := w.rename x.contract }) :
    (m.modifyRecord w.record f).seenBy w = (m.seenBy w).modifyRecord w.record g := by
  unfold seenBy modifyRecord recordsSeenBy
  dsimp only
  rw [Function.update_self, hfg, Function.update_self, Function.update_idem]

/-! ## The store operations -/

theorem seenBy_updateStatus (h : w.Owns m) (status : WorkflowStatus) (now : Time) :
    (WorkflowStore.updateStatus m w.approvalId status now).seenBy w =
      WorkflowStore.updateStatus (m.seenBy w) w.approvalId status now := by
  have hseen : (m.seenBy w).store w.approvalId = some w.record := by rw [seenBy_store, h.record]
  rw [WorkflowStore.updateStatus_eq h.record, WorkflowStore.updateStatus_eq hseen]
  exact seenBy_modifyRecord fun _ => rfl

theorem seenBy_setExecutionResult (h : w.Owns m) (result : Py.Dict) (now : Time) :
    (WorkflowStore.setExecutionResult m w.approvalId result now).seenBy w =
      WorkflowStore.setExecutionResult (m.seenBy w) w.approvalId result now := by
  have hseen : (m.seenBy w).store w.approvalId = some w.record := by rw [seenBy_store, h.record]
  rw [WorkflowStore.setExecutionResult_eq h.record, WorkflowStore.setExecutionResult_eq hseen]
  exact seenBy_modifyRecord fun _ => rfl

theorem seenBy_updateContract (h : w.Owns m) (now : Time) :
    (WorkflowStore.updateContract m w.approvalId w.pipeline now).seenBy w =
      WorkflowStore.updateContract (m.seenBy w) w.approvalId Gateway.pipelineContract now := by
  have hseen : (m.seenBy w).store w.approvalId = some w.record := by rw [seenBy_store, h.record]
  rw [WorkflowStore.updateContract_eq h.record, WorkflowStore.updateContract_eq hseen,
    stored_seenBy h, ← seenBy_modifyPipeline h.distinct]
  refine seenBy_modifyRecord fun x => ?_
  simp only [Workflow.rename, if_true]

theorem seenBy_decision? (h : w.Owns m) :
    (m.seenBy w).decision? w.approvalId = m.decision? w.approvalId := by
  have hseen : (m.seenBy w).store w.approvalId = some w.record := by rw [seenBy_store, h.record]
  rw [decision?, decision?, contract?_of_store hseen, contract?_of_store h.record, stored_seenBy h]

/-- A decision is accepted or refused for what the workflow sees. -/
theorem seenBy_decide (h : w.Owns m) (d : Decision) (now : Time) :
    WorkflowStore.decide (m.seenBy w) w.approvalId d now =
      ((WorkflowStore.decide m w.approvalId d now).1.seenBy w,
        (WorkflowStore.decide m w.approvalId d now).2) := by
  have hseen : (m.seenBy w).store w.approvalId = some w.record := by rw [seenBy_store, h.record]
  have hstored := stored_seenBy h
  unfold WorkflowStore.decide
  by_cases hpending : (m.contracts (m.records w.record).contract).approvalState = .pending
  · have hrun := WorkflowStore.recordDecision_of_pending h.record hpending d now
    have hrun' := WorkflowStore.recordDecision_of_pending hseen (hstored ▸ hpending) d now
    -- both write the decision to the stored contract, and stamp the record
    have hmem : (WorkflowStore.recordDecision (m.seenBy w) w.approvalId d now).1 =
        (WorkflowStore.recordDecision m w.approvalId d now).1.seenBy w := by
      rw [hrun, hrun', seenBy_record]
      dsimp only
      rw [← seenBy_modifyContract h.distinct h.contract]
      symm
      apply seenBy_modifyRecord
      intro x
      rfl
    have howns : w.Owns (WorkflowStore.recordDecision m w.approvalId d now).1 :=
      h.of_eq (WorkflowStore.recordDecision_store d) (by rw [hrun]; simp)
    dsimp only
    rw [hmem, seenBy_decision? howns, hrun, hrun']
  · have hrun := WorkflowStore.recordDecision_of_decided (contract?_of_store h.record) hpending d now
    have hrun' := WorkflowStore.recordDecision_of_decided (contract?_of_store hseen)
      (hstored ▸ hpending) d now
    rw [hrun, hrun']
    rfl

end Memory

/-- What a stretch leaves, as the workflow sees it. -/
def Resumed.seenBy {κ : Type} (w : Workflow) (o : Resumed κ) : Resumed κ where
  mem := o.mem.seenBy w
  pc := o.pc
  events := o.events

namespace Graph

variable {w : Workflow} {m : Memory} {now : Time}

open Gateway Memory

theorem runRiskGate_seenBy (hdistinct : w.initial ≠ w.pipeline) (cfg : RiskGateConfig)
    (pc : RiskGateAt) (input : RiskGateInput) :
    RiskGate.runRiskGate cfg pipelineContract (m.seenBy w) pc input =
      (RiskGate.runRiskGate cfg w.pipeline m pc input).map (Resumed.seenBy w) := by
  have happly (cost : Py.Float) (policyResult : Py.Json) (now : Time) :
      RiskGate.runRiskGate.apply pipelineContract (m.seenBy w) cost policyResult now =
        (RiskGate.runRiskGate.apply w.pipeline m cost policyResult now).seenBy w := by
    unfold RiskGate.runRiskGate.apply
    rw [seenBy_pipeline]
    split
    · rw [← seenBy_modifyPipeline hdistinct]
      rfl
    · rfl
  obtain ⟨reply, now⟩ := input
  cases pc with
  | explaining =>
    cases reply with
    | result explain =>
      simp only [RiskGate.runRiskGate]
      split <;> rfl
    | _ => rfl
  | evaluating cost =>
    cases reply with
    | otherError => rfl
    | _ =>
      simp only [RiskGate.runRiskGate, happly]
      rfl
  | _ => rfl

theorem checkAndCall_seenBy (h : w.Owns m) (cfg : ExecutionConfig) (now : Time) :
    Execution.checkAndCall cfg pipelineContract (m.seenBy w) ((m.seenBy w).records w.record) now =
      (Execution.checkAndCall cfg w.pipeline m (m.records w.record) now).seenBy w := by
  unfold Execution.checkAndCall
  rw [seenBy_record, seenBy_pipeline]
  dsimp only
  split
  · rw [← seenBy_modifyPipeline h.distinct]
    rfl
  · split
    · rfl
    · rw [← seenBy_modifyPipeline h.distinct]
      rfl

theorem runExecution_seenBy (h : w.Owns m)
    (hid : (m.contracts w.pipeline).operationId = w.approvalId) (cfg : ExecutionConfig)
    {pc : ExecutionAt} (hfresh : pc.Fresh (some w.record)) (input : ExecutionInput) :
    Execution.runExecution cfg pipelineContract (m.seenBy w) pc input =
      (Execution.runExecution cfg w.pipeline m pc input).map (Resumed.seenBy w) := by
  have hown (f : HandoffContract → HandoffContract) :=
    (seenBy_modifyPipeline (m := m) h.distinct f).symm
  have hget : WorkflowStore.get (m.seenBy w)
      ((m.seenBy w).contracts pipelineContract).operationId =
        WorkflowStore.get m (m.contracts w.pipeline).operationId := by
    rw [seenBy_pipeline, hid]
    exact seenBy_store w m
  cases input with
  | resume now =>
    cases pc with
    | start => simp only [Execution.runExecution, hget, Option.map_some, Resumed.seenBy]
    | got record =>
      obtain rfl : record = some w.record := hfresh
      simp only [Execution.runExecution, checkAndCall_seenBy h, Option.map_some]
    | storing result =>
      simp only [Execution.runExecution, seenBy_pipeline, hid, ← seenBy_setExecutionResult h]
      rfl
    | stored =>
      simp only [Execution.runExecution, hown]
      rfl
    | _ => rfl
  | reply r now =>
    cases pc with
    | calling =>
      cases r with
      | otherError => rfl
      | _ =>
        simp only [Execution.runExecution, hown]
        rfl
    | got record => cases record <;> rfl
    | _ => rfl

theorem runHumanReview_seenBy (h : w.Owns m)
    (hid : (m.contracts w.pipeline).operationId = w.approvalId) {pc : ReviewPc}
    (hfresh : pc.point.Fresh (some w.record)) (input : ReviewInput) :
    HumanReview.runHumanReview pipelineContract (m.seenBy w) pc input =
      (HumanReview.runHumanReview w.pipeline m pc input).map (Resumed.seenBy w) := by
  have hown (m : Memory) (f : HandoffContract → HandoffContract) :=
    (seenBy_modifyPipeline (m := m) h.distinct f).symm
  have hstored := stored_seenBy h
  have hstatus := seenBy_updateStatus h
  have hcontract := seenBy_updateContract h
  have hget : WorkflowStore.get (m.seenBy w) w.approvalId = WorkflowStore.get m w.approvalId :=
    seenBy_store w m
  obtain ⟨deadline, point⟩ := pc
  cases input with
  | notified r now =>
    cases point with
    | notifying =>
      cases r with
      | otherError => rfl
      | _ =>
        simp only [HumanReview.runHumanReview, hown, seenBy_pipeline, modifyContract_self]
        split <;> rfl
    | firstGot record => cases record <;> rfl
    | pollGot record => cases record <;> rfl
    | _ => rfl
  | resume now =>
    cases point with
    | notifying | returned | raised => rfl
    | resetContract | persistContract | mergeContract pre =>
      simp only [HumanReview.runHumanReview, seenBy_pipeline, hid, ← hcontract]
      rfl
    | resetStatus | persistStatus | mergeStatus pre =>
      simp only [HumanReview.runHumanReview, seenBy_pipeline, hid, ← hstatus]
      rfl
    | firstGet | sleeping =>
      simp only [HumanReview.runHumanReview, seenBy_pipeline, hid, hget]
      rfl
    | firstGot record =>
      obtain rfl : record = some w.record := hfresh
      simp only [HumanReview.runHumanReview, hstored, hown]
      split <;> rfl
    | merged =>
      simp only [HumanReview.runHumanReview, hown]
      rfl
    | waiting =>
      simp only [HumanReview.runHumanReview, hown]
      split <;> rfl
    | pollGot record =>
      obtain rfl : record = some w.record := hfresh
      simp only [HumanReview.runHumanReview, hstored, hown]
      split <;> rfl

/-- **A stretch of the task is a stretch on what its workflow sees.** -/
theorem runTask_seenBy {cfg : PipelineConfig} {manifest : Py.Dict} {t : TaskAt} {input : TaskInput}
    {o : Resumed TaskAt} (h : w.Owns m)
    (hlink : t.built = true → (m.contracts w.pipeline).operationId = w.approvalId)
    (hfresh : t.Fresh (some w.record))
    (hrun : runTask cfg w.approvalId manifest w.pipeline m t input = some o) :
    runTask cfg w.approvalId manifest pipelineContract (m.seenBy w) t input =
      some (o.seenBy w) := by
  have hown (f : HandoffContract → HandoffContract) :=
    (seenBy_modifyPipeline (m := m) h.distinct f).symm
  -- a node runs within the task
  have hwithin {κ : Type} {after : κ → TaskAt} {node node' : Option (Resumed κ)}
      (hnode : node' = node.map (Resumed.seenBy w)) (ho : node.map (within after) = some o) :
      node'.map (within after) = some (o.seenBy w) := by
    obtain ⟨o', ho', rfl⟩ := Option.map_eq_some_iff.mp ho
    rw [hnode, ho']
    rfl
  unfold runTask at hrun
  split at hrun
  case h_1 | h_16 | h_17 =>
    obtain rfl := Option.some.inj hrun
    simp only [runTask, ← seenBy_updateStatus h]
    rfl
  case h_2 =>
    simp only [runTask]
    split at hrun <;> obtain rfl := Option.some.inj hrun
    · simp only [hown]
      rfl
    · rfl
  case h_3 => exact hwithin (runRiskGate_seenBy h.distinct _ _ _) hrun
  case h_4 | h_9 =>
    simp only [runTask, seenBy_pipeline]
    split at hrun <;> obtain rfl := Option.some.inj hrun <;> rfl
  case h_5 =>
    simp only [runTask, hown]
    split at hrun
    · rename_i hallowed
      obtain rfl := Option.some.inj hrun
      rw [if_pos hallowed]
      rfl
    · cases hrun
  case h_8 => exact hwithin (runHumanReview_seenBy h (hlink rfl) hfresh _) hrun
  case h_10 => exact hwithin (runExecution_seenBy h (hlink rfl) _ hfresh _) hrun
  case h_12 =>
    obtain rfl := Option.some.inj hrun
    simp only [runTask]
    rfl
  case h_13 =>
    obtain rfl := Option.some.inj hrun
    simp only [runTask, hown]
    rfl
  case h_14 =>
    obtain rfl := Option.some.inj hrun
    simp only [runTask, ← seenBy_updateContract h]
    rfl
  case h_15 =>
    obtain rfl := Option.some.inj hrun
    simp only [runTask, seenBy_pipeline]
    rfl
  case h_18 => cases hrun
  all_goals
    obtain rfl := Option.some.inj hrun
    rfl

end Graph
