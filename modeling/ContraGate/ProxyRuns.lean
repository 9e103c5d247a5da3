import ContraGate.ProxyViews
import ContraGate.StartWorkflow
import ContraGate.TaskFootprint

/-!
# Every workflow of the proxy runs as if it were alone

A step for one approval id writes to the record of that id and to one contract, the pipeline's own
or the stored one (`Memory.Touches`), and these belong to no other workflow. So what another
workflow sees does not change, and what the workflow itself sees makes the same step.
-/

namespace Memory

variable {m m' : Memory} {id : String} {c : Ref}

/-- What another workflow sees is not touched. -/
theorem Touches.seenBy_eq (h : Touches id c m m') {w : Workflow} (hrecord : m.store id ≠ some w.record)
    (hinitial : w.initial ≠ c) (hpipeline : w.pipeline ≠ c) : m'.seenBy w = m.seenBy w := by
  unfold seenBy contractsSeenBy recordsSeenBy
  rw [h.store, h.records w.record hrecord, h.contracts w.initial hinitial,
    h.contracts w.pipeline hpipeline]

/-- The workflow still owns its objects when its own ones are touched. -/
theorem Touches.owns {w : Workflow} (h : Touches w.approvalId c m m') (howns : w.Owns m)
    (hc : c = w.initial ∨ c = w.pipeline) : w.Owns m' where
  record := by rw [h.store, howns.record]
  contract := by
    rcases h.stored w.record with heq | heq
    · rw [heq]
      exact howns.contract
    · rw [heq]
      exact hc
  distinct := howns.distinct

end Memory

/-- Without a contract the task holds no record. -/
theorem TaskAt.fresh_of_unbuilt {t : TaskAt} (h : t.built = false) (record : Option Ref) :
    t.Fresh record := by
  cases t with
  | humanReview | execution => cases h
  | _ => trivial

/-- What a step is for the workflow of one approval id. -/
def ProxyAction.seenBy (approvalId : String) : ProxyAction → Option GatewayAction
  | .submit .. => none
  | .workflow id a => if id = approvalId then some a else none

namespace Proxy

/-- The workflow `w` of the proxy, as a system of its own. -/
def gateway (w : Workflow) (s : Proxy) : Gateway where
  mem := s.mem.seenBy w
  task := s.tasks w.approvalId
  endpoints := s.endpoints w.approvalId
  log := s.log w.approvalId

/-- The workflow runs in the proxy: it owns its objects and nobody else does, its contract carries
its id, and it has come to where it is by itself. -/
structure Runs (cfg : PipelineConfig) (s : Proxy) (w : Workflow) : Prop where
  owns : w.Owns s.mem
  named : w.approvalId ≠ ""
  initial : w.initial < s.nextContract
  pipeline : w.pipeline < s.nextContract
  linked : (s.tasks w.approvalId).built = true →
    (s.mem.contracts w.pipeline).operationId = w.approvalId
  alone : ∀ id r, id ≠ w.approvalId → s.mem.store id = some r → r ≠ w.record ∧
    w.initial ≠ (s.mem.records r).contract ∧ w.pipeline ≠ (s.mem.records r).contract
  reached : ∃ s₀ actions, Gateway.Started w.approvalId s₀ ∧
    (Gateway.machine cfg w.approvalId (w.manifest cfg.toExecutionConfig)).exec s₀ actions =
      some (s.gateway w)

/-- The invariant of the proxy. -/
structure Sound (cfg : PipelineConfig) (s : Proxy) : Prop where
  constructed : ∀ id r, s.mem.store id = some r →
    r < s.mem.nextRecord ∧ (s.mem.records r).contract < s.nextContract
  idle : ∀ id, s.mem.store id = none → s.endpoints id = []
  runs : ∀ id w, s.workflows id = some w → w.approvalId = id ∧ s.Runs cfg w
  apart : ∀ id w id' w', s.workflows id = some w → s.workflows id' = some w' → id ≠ id' →
    w.initial ≠ w'.pipeline ∧ w.pipeline ≠ w'.pipeline

variable {cfg : PipelineConfig} {s t : Proxy} {id : String} {w : Workflow} {a : GatewayAction}
  {c : Ref}

theorem Booted.sound (h : s.Booted) : s.Sound cfg where
  constructed := h.constructed
  idle id _ := h.endpoints id
  runs id w hw := by rw [h.workflows] at hw; cases hw
  apart id w id' w' hw := by rw [h.workflows] at hw; cases hw

/-! ## A step of the workflow itself -/

/-- What has been reached is well-formed. -/
theorem Runs.wellFormed (h : s.Runs cfg w) : Gateway.WellFormed w.approvalId (s.gateway w) := by
  obtain ⟨s₀, actions, hstarted, hrun⟩ := h.reached
  exact Machine.exec_preserves _ (fun _ _ _ hwf hstep => (Gateway.machine_step hwf hstep).1)
    hstarted.wellFormed hrun

theorem Runs.fresh (h : s.Runs cfg w) : (s.tasks w.approvalId).Fresh (some w.record) := by
  cases hbuilt : (s.tasks w.approvalId).built with
  | false => exact TaskAt.fresh_of_unbuilt hbuilt _
  | true =>
    have hfresh := h.wellFormed.fresh
    simp only [gateway] at hfresh
    rwa [Memory.seenBy_pipeline, h.linked hbuilt, Memory.seenBy_store, h.owns.record] at hfresh

/-- The intake of the graph finds the approval id in the manifest. -/
theorem Runs.operationId (h : s.Runs cfg w) {drawn : String} {now : Time} {c : HandoffContract}
    (hc : Intake.runIntake cfg.toIntakeConfig (w.manifest cfg.toExecutionConfig) drawn now =
      some c) : c.operationId = w.approvalId := by
  have hget : (w.manifest cfg.toExecutionConfig).get "operation_id" = .str w.approvalId := rfl
  have hid := Intake.runIntake_operationId hc
  rw [hget, if_pos (by simpa [Py.Json.truthy] using h.named)] at hid
  exact (Py.Json.str.inj hid).symm

theorem gateway_resumeTask (h : s.Runs cfg w) {input : TaskInput}
    (hw : s.workflows w.approvalId = some w)
    (hstep : s.resumeTask cfg w.approvalId input = some t) :
    (s.gateway w).resumeTask cfg w.approvalId (w.manifest cfg.toExecutionConfig) input =
      some (t.gateway w) := by
  rw [resumeTask, hw, Option.bind_some] at hstep
  obtain ⟨o, ho, rfl⟩ := Option.map_eq_some_iff.mp hstep
  have hseen := Graph.runTask_seenBy h.owns h.linked h.fresh ho
  simp only [Gateway.resumeTask, gateway, hseen, Option.map_some, Resumed.seenBy,
    Function.update_self]

theorem gateway_submitDecision (h : s.Runs cfg w) (d : Decision) (now : Time) :
    (s.gateway w).submit w.approvalId d now =
      (s.submitDecision w.approvalId d now).gateway w := by
  have hseen := Memory.seenBy_decide h.owns d now
  simp only [Gateway.submit, submitDecision, gateway, hseen, Function.update_self]

/-- **Its own steps are those of the workflow as a system of its own.** -/
theorem own_step (h : s.Runs cfg w) (hw : s.workflows w.approvalId = some w)
    (hstep : (machine cfg).step s (.workflow w.approvalId a) = some t) :
    (Gateway.machine cfg w.approvalId (w.manifest cfg.toExecutionConfig)).step (s.gateway w) a =
      some (t.gateway w) := by
  cases a with
  | task input =>
    have hresume := gateway_resumeTask h hw hstep
    cases input with
    | generatedId drawn now =>
      have hfreshId : (s.gateway w).FreshId cfg w.approvalId (w.manifest cfg.toExecutionConfig)
          drawn now := fun c hc => .inl (h.operationId hc)
      simp only [Gateway.machine, if_pos hfreshId]
      exact hresume
    | _ => exact hresume
  | recordDecision d now =>
    obtain rfl := Option.some.inj hstep
    have hseen := Memory.seenBy_decide h.owns d now
    simp only [Gateway.machine, Gateway.decide, decide, gateway, hseen, Function.update_self]
  | postDecision d now =>
    obtain rfl := Option.some.inj hstep
    simp only [Gateway.machine, gateway_submitDecision h]
    split <;> rfl
  | viewSubmission approve reason approverId now =>
    obtain rfl := Option.some.inj hstep
    simp only [Gateway.machine, gateway_submitDecision h]
    split <;> rfl
  | endpointStatus i now =>
    obtain ⟨status, hstatus, rfl⟩ := Option.map_eq_some_iff.mp hstep
    simp only [Gateway.machine, gateway, hstatus, Option.map_some, Function.update_self,
      Memory.seenBy_updateStatus h.owns]

/-! ## What a step leaves alone -/

/-- The contract that a step for an approval id may write to. -/
inductive Writes (s : Proxy) (id : String) : Ref → Prop
  | pipeline {w : Workflow} (hw : s.workflows id = some w) : Writes s id w.pipeline
  | stored {r : Ref} (hr : s.mem.store id = some r) : Writes s id (s.mem.records r).contract

/-- What a step for an approval id does to the proxy. -/
structure StepFor (id : String) (s t : Proxy) : Prop where
  nextContract : t.nextContract = s.nextContract
  workflows : t.workflows = s.workflows
  others : ∀ id', id' ≠ id →
    t.tasks id' = s.tasks id' ∧ t.endpoints id' = s.endpoints id' ∧ t.log id' = s.log id'
  idle : s.mem.store id = none → t.endpoints id = s.endpoints id
  memory : t.mem = s.mem ∨ ∃ c, s.Writes id c ∧ s.mem.Touches id c t.mem

theorem stepFor_submitDecision (s : Proxy) (id : String) (d : Decision) (now : Time) :
    StepFor id s (s.submitDecision id d now) where
  nextContract := rfl
  workflows := rfl
  others id' hid := by simp [submitDecision, hid]
  idle hnone := by simp [submitDecision, WorkflowStore.decide, WorkflowStore.recordDecision, hnone,
    Gateway.accepted]
  memory := by
    cases hr : s.mem.store id with
    | none => exact .inl (by simp [submitDecision, WorkflowStore.decide,
        WorkflowStore.recordDecision, hr])
    | some r => exact .inr ⟨_, .stored hr, Memory.touches_decide hr d now⟩

/-- Every step for an approval id writes within its objects. -/
theorem stepFor_of_step (h : s.Sound cfg)
    (hstep : (machine cfg).step s (.workflow id a) = some t) : StepFor id s t := by
  have hignored : StepFor id s s :=
    ⟨rfl, rfl, fun _ _ => ⟨rfl, rfl, rfl⟩, fun _ => rfl, .inl rfl⟩
  cases a with
  | task input =>
    obtain ⟨w, hw, hrun⟩ := Option.bind_eq_some_iff.mp hstep
    obtain ⟨o, ho, rfl⟩ := Option.map_eq_some_iff.mp hrun
    obtain ⟨rfl, hruns⟩ := h.runs id w hw
    refine ⟨rfl, rfl, fun id' hid => by simp [hid], fun _ => rfl, .inr ⟨_, .pipeline hw, ?_⟩⟩
    exact Graph.runTask_touches hruns.linked ho
  | recordDecision d now =>
    obtain rfl := Option.some.inj hstep
    refine ⟨rfl, rfl, fun id' hid => by simp [decide, hid], fun _ => rfl, ?_⟩
    exact (stepFor_submitDecision s id d now).memory
  | postDecision d now =>
    obtain rfl := Option.some.inj hstep
    split
    · exact stepFor_submitDecision s id d now
    · exact hignored
  | viewSubmission approve reason approverId now =>
    obtain rfl := Option.some.inj hstep
    split
    · exact stepFor_submitDecision s id _ now
    · exact hignored
  | endpointStatus i now =>
    obtain ⟨status, hstatus, rfl⟩ := Option.map_eq_some_iff.mp hstep
    refine ⟨rfl, rfl, fun id' hid => by simp [hid], fun hnone => ?_, ?_⟩
    · rw [h.idle id hnone] at hstatus
      cases hstatus
    · cases hr : s.mem.store id with
      | none => exact .inl (by simp [WorkflowStore.updateStatus, hr])
      | some r => exact .inr ⟨_, .stored hr, s.mem.touches_updateStatus id _ status now⟩

/-- What is written is constructed. -/
theorem Writes.lt (h : s.Sound cfg) (hc : s.Writes id c) : c < s.nextContract := by
  cases hc with
  | pipeline hw => exact (h.runs id _ hw).2.pipeline
  | stored hr => exact (h.constructed id _ hr).2

/-- What is written belongs to no other workflow. -/
theorem Writes.ne (h : s.Sound cfg) (hc : s.Writes id c) (hw : s.workflows w.approvalId = some w)
    (hid : id ≠ w.approvalId) : w.initial ≠ c ∧ w.pipeline ≠ c := by
  cases hc with
  | pipeline hw' => exact h.apart w.approvalId w id _ hw hw' hid.symm
  | stored hr => exact ((h.runs _ w hw).2.alone id _ hid hr).2

/-- **Another workflow sees nothing of the step.** -/
theorem other_step (h : s.Sound cfg) (hw : s.workflows w.approvalId = some w)
    (hid : id ≠ w.approvalId) (hstep : StepFor id s t) : t.gateway w = s.gateway w := by
  obtain ⟨htask, hendpoints, hlog⟩ := hstep.others w.approvalId hid.symm
  have hmem : t.mem.seenBy w = s.mem.seenBy w := by
    rcases hstep.memory with hsame | ⟨c, hc, htouches⟩
    · rw [hsame]
    · obtain ⟨hinitial, hpipeline⟩ := hc.ne h hw hid
      refine htouches.seenBy_eq (fun hrecord => ?_) hinitial hpipeline
      exact ((h.runs _ w hw).2.alone id _ hid hrecord).1 rfl
  simp only [gateway, hmem, htask, hendpoints, hlog]

/-! ## The invariant along a run -/

theorem StepFor.store (h : StepFor id s t) : t.mem.store = s.mem.store := by
  rcases h.memory with hsame | ⟨c, -, htouches⟩
  · rw [hsame]
  · exact htouches.store

/-- A record still has its contract, or the one that the step writes to. -/
theorem StepFor.stored (h : StepFor id s t) (r : Ref) :
    (t.mem.records r).contract = (s.mem.records r).contract ∨
      s.Writes id (t.mem.records r).contract := by
  rcases h.memory with hsame | ⟨c, hc, htouches⟩
  · exact .inl (by rw [hsame])
  · exact (htouches.stored r).imp_right fun heq => by rwa [heq]

/-- The record of another id has its contract. -/
theorem StepFor.stored_other (h : StepFor id s t) {r : Ref} (hr : s.mem.store id ≠ some r) :
    (t.mem.records r).contract = (s.mem.records r).contract := by
  rcases h.memory with hsame | ⟨c, hc, htouches⟩
  · rw [hsame]
  · rw [htouches.records r hr]

/-- The workflow that makes the step goes on running. -/
theorem runs_own (h : s.Sound cfg) (hw : s.workflows w.approvalId = some w)
    (hstep : (machine cfg).step s (.workflow w.approvalId a) = some t) : t.Runs cfg w := by
  have hruns := (h.runs _ w hw).2
  have hfor := stepFor_of_step h hstep
  have hown := own_step hruns hw hstep
  have hlinked : (t.tasks w.approvalId).built = true →
      (t.mem.contracts w.pipeline).operationId = w.approvalId := by
    intro hbuilt
    have hcontract (s : Proxy) : ((s.gateway w).mem.contracts Gateway.pipelineContract) =
        s.mem.contracts w.pipeline := Memory.seenBy_pipeline w s.mem
    rcases Gateway.operationId_step hruns.wellFormed hown hbuilt with ⟨hbefore, hsame⟩ |
        ⟨drawn, now, -, hc⟩
    · rw [hcontract, hcontract] at hsame
      rw [hsame]
      exact hruns.linked hbefore
    · rw [hcontract] at hc
      exact hruns.operationId hc
  refine ⟨?_, hruns.named, ?_, ?_, hlinked, fun id r hid hr => ?_, ?_⟩
  · rcases hfor.memory with hsame | ⟨c, hc, htouches⟩
    · rw [hsame]
      exact hruns.owns
    · refine htouches.owns hruns.owns ?_
      cases hc with
      | pipeline hw' =>
        obtain rfl := Option.some.inj (hw.symm.trans hw')
        exact .inr rfl
      | stored hr =>
        obtain rfl := Option.some.inj (hruns.owns.record.symm.trans hr)
        exact hruns.owns.contract
  · rw [hfor.nextContract]
    exact hruns.initial
  · rw [hfor.nextContract]
    exact hruns.pipeline
  · rw [hfor.store] at hr
    have halone := hruns.alone id r hid hr
    rwa [hfor.stored_other fun hrecord => halone.1 (Option.some.inj (hrecord.symm.trans
      hruns.owns.record))]
  · obtain ⟨s₀, actions, hstarted, hrun⟩ := hruns.reached
    refine ⟨s₀, actions ++ [a], hstarted, (Machine.exec_append_eq_some _).mpr ⟨_, hrun, ?_⟩⟩
    exact (Machine.exec_cons_eq_some _).mpr ⟨_, hown, rfl⟩

/-- Another workflow goes on running. -/
theorem runs_other (h : s.Sound cfg) (hw : s.workflows w.approvalId = some w)
    (hid : id ≠ w.approvalId) (hstep : StepFor id s t) : t.Runs cfg w := by
  have hruns := (h.runs _ w hw).2
  have hgateway := other_step h hw hid hstep
  have hrecord : s.mem.store id ≠ some w.record := fun hr =>
    (hruns.alone id _ hid hr).1 rfl
  refine ⟨⟨?_, ?_, hruns.owns.distinct⟩, hruns.named, ?_, ?_, ?_, fun id' r hid' hr => ?_, ?_⟩
  · rw [hstep.store]
    exact hruns.owns.record
  · rw [hstep.stored_other hrecord]
    exact hruns.owns.contract
  · rw [hstep.nextContract]
    exact hruns.initial
  · rw [hstep.nextContract]
    exact hruns.pipeline
  · intro hbuilt
    rw [(hstep.others w.approvalId hid.symm).1] at hbuilt
    have hcontract := congrArg (fun g => g.mem.contracts Gateway.pipelineContract) hgateway
    dsimp only [gateway] at hcontract
    rw [Memory.seenBy_pipeline, Memory.seenBy_pipeline] at hcontract
    rw [hcontract]
    exact hruns.linked hbuilt
  · rw [hstep.store] at hr
    have halone := hruns.alone id' r hid' hr
    refine ⟨halone.1, ?_⟩
    rcases hstep.stored r with hsame | hwrites
    · rw [hsame]
      exact halone.2
    · exact hwrites.ne h hw hid
  · rw [hgateway]
    exact hruns.reached

theorem sound_workflow (h : s.Sound cfg) (hstep : (machine cfg).step s (.workflow id a) = some t) :
    t.Sound cfg := by
  have hfor := stepFor_of_step h hstep
  refine ⟨fun id' r hr => ?_, fun id' hnone => ?_, fun id' w hw => ?_, fun id₁ w₁ id₂ w₂ h₁ h₂ => ?_⟩
  · rw [hfor.store] at hr
    obtain ⟨hlt, hcontract⟩ := h.constructed id' r hr
    have hnext : t.mem.nextRecord = s.mem.nextRecord := by
      rcases hfor.memory with hsame | ⟨c, -, htouches⟩
      · rw [hsame]
      · exact htouches.nextRecord
    refine ⟨by rwa [hnext], ?_⟩
    rw [hfor.nextContract]
    rcases hfor.stored r with hsame | hwrites
    · rwa [hsame]
    · exact hwrites.lt h
  · rw [hfor.store] at hnone
    by_cases hid : id' = id
    · subst hid
      rw [hfor.idle hnone]
      exact h.idle id' hnone
    · rw [(hfor.others id' hid).2.1]
      exact h.idle id' hnone
  · rw [hfor.workflows] at hw
    obtain ⟨rfl, -⟩ := h.runs id' w hw
    refine ⟨rfl, ?_⟩
    by_cases hid : id = w.approvalId
    · subst hid
      exact runs_own h hw hstep
    · exact runs_other h hw hid hfor
  · rw [hfor.workflows] at h₁ h₂
    exact h.apart id₁ w₁ id₂ w₂ h₁ h₂

/-! ## A new workflow -/

/-- The workflow that a call gets. -/
def newWorkflow (s : Proxy) (call : ToolCallManifest) (id : String) : Workflow where
  approvalId := id
  call := call
  record := s.mem.nextRecord
  initial := s.nextContract
  pipeline := s.nextContract + 1

/-- The proxy with the workflow in it. -/
def withWorkflow (cfg : PipelineConfig) (s : Proxy) (call : ToolCallManifest) (c : HandoffContract)
    (now : Time) : Proxy :=
  let w := s.newWorkflow call c.operationId
  { s with
    mem := WorkflowStore.create (s.mem.modifyContract w.initial fun _ => c) w.initial
      (w.manifest cfg.toExecutionConfig) now
    nextContract := s.nextContract + 2
    workflows := Function.update s.workflows w.approvalId (some w)
    tasks := Function.update s.tasks w.approvalId .statusRunning
    log := Function.update s.log w.approvalId [] }

/-- What `submit` does: the intake raises, or there is a new workflow with a new id. -/
theorem submit_cases {call : ToolCallManifest} {hex : String} {now : Time}
    (h : s.submit cfg call hex now = some t) :
    t = s ∨ ∃ c, Intake.runIntake cfg.toIntakeConfig
        (call.withHash (cfg.manifestHash call.toDict)) ("cg_" ++ hex) now = some c ∧
      c.operationId = "cg_" ++ hex ∧ s.mem.store c.operationId = none ∧
      t = s.withWorkflow cfg call c now := by
  unfold submit at h
  split at h
  · exact .inl (Option.some.inj h).symm
  · rename_i c hc
    dsimp only at h
    split at h
    · rename_i hnone
      refine .inr ⟨c, hc, ?_, hnone, (Option.some.inj h).symm⟩
      exact Intake.runIntake_operationId hc
    · cases h

section

variable {call : ToolCallManifest} {contract : HandoffContract} {now : Time}

/-- The workflow starts as a system of its own does. -/
theorem gateway_started (hfresh : contract.toDecisionFields = {})
    (hnone : s.mem.store contract.operationId = none) (h : s.Sound cfg) :
    Gateway.Started contract.operationId
      ((s.withWorkflow cfg call contract now).gateway (s.newWorkflow call contract.operationId)) where
  record := by
    refine ⟨s.mem.nextRecord, ?_, ?_, ?_⟩
    all_goals simp [gateway, withWorkflow, newWorkflow, Memory.seenBy, Memory.recordsSeenBy,
      WorkflowStore.create, Workflow.rename]
  undecided := by
    simp [gateway, withWorkflow, newWorkflow, Memory.seenBy_initial, WorkflowStore.create, hfresh]
  task := by simp [gateway, withWorkflow, newWorkflow]
  endpoints := by simpa [gateway, withWorkflow, newWorkflow] using h.idle _ hnone
  log := by simp [gateway, withWorkflow, newWorkflow]

/-- What was there is seen as before. -/
theorem seenBy_withWorkflow (h : s.Sound cfg) (hnone : s.mem.store contract.operationId = none)
    (hw : s.workflows w.approvalId = some w) :
    (s.withWorkflow cfg call contract now).gateway w = s.gateway w := by
  have hruns := (h.runs _ w hw).2
  have hid : w.approvalId ≠ contract.operationId := fun heq => by
    rw [← heq, hruns.owns.record] at hnone
    cases hnone
  have hrecord : w.record ≠ s.mem.nextRecord := (h.constructed _ _ hruns.owns.record).1.ne
  have hmem : (s.withWorkflow cfg call contract now).mem.seenBy w = s.mem.seenBy w := by
    simp [withWorkflow, newWorkflow, Memory.seenBy, Memory.contractsSeenBy, Memory.recordsSeenBy,
      WorkflowStore.create, Memory.modifyContract, hid, hrecord, hruns.initial.ne,
      hruns.pipeline.ne]
  simp only [gateway, hmem]
  simp [withWorkflow, newWorkflow, hid]

/-- A record is an old one, or that of the new workflow. -/
theorem store_withWorkflow {r : Ref}
    (hr : (s.withWorkflow cfg call contract now).mem.store id = some r) :
    (id = contract.operationId ∧ r = s.mem.nextRecord ∧
      ((s.withWorkflow cfg call contract now).mem.records r).contract = s.nextContract) ∨
    id ≠ contract.operationId ∧ s.mem.store id = some r := by
  by_cases hid : id = contract.operationId
  · subst hid
    simp only [withWorkflow, newWorkflow, WorkflowStore.create, Memory.modifyContract_self,
      Function.update_self, Option.some.injEq] at hr
    subst hr
    exact .inl ⟨rfl, rfl, by simp [withWorkflow, newWorkflow, WorkflowStore.create]⟩
  · refine .inr ⟨hid, ?_⟩
    simpa [withWorkflow, newWorkflow, WorkflowStore.create, hid] using hr

/-- An old record is left as it is. -/
theorem records_withWorkflow (h : s.Sound cfg) {r : Ref} (hr : s.mem.store id = some r) :
    (s.withWorkflow cfg call contract now).mem.records r = s.mem.records r := by
  have hne : r ≠ s.mem.nextRecord := (h.constructed id r hr).1.ne
  simp [withWorkflow, newWorkflow, WorkflowStore.create, hne]

theorem runs_newWorkflow (h : s.Sound cfg) (hfresh : contract.toDecisionFields = {})
    (hnamed : contract.operationId ≠ "") (hnone : s.mem.store contract.operationId = none) :
    (s.withWorkflow cfg call contract now).Runs cfg (s.newWorkflow call contract.operationId) := by
  refine ⟨⟨?_, ?_, ?_⟩, hnamed, ?_, ?_, ?_, fun id r hid hr => ?_,
    ⟨_, [], gateway_started hfresh hnone h, rfl⟩⟩
  · simp [withWorkflow, newWorkflow, WorkflowStore.create]
  · simp [withWorkflow, newWorkflow, WorkflowStore.create]
  · simp [newWorkflow]
  · simp [newWorkflow, withWorkflow]
  · simp [newWorkflow, withWorkflow]
  · simp [newWorkflow, withWorkflow, TaskAt.built]
  · rcases store_withWorkflow hr with ⟨heq, -⟩ | ⟨-, hr⟩
    · exact absurd heq hid
    · obtain ⟨hrecord, hcontract⟩ := h.constructed id r hr
      rw [records_withWorkflow h hr]
      dsimp only [newWorkflow]
      exact ⟨hrecord.ne, hcontract.ne', (hcontract.trans (Nat.lt_succ_self _)).ne'⟩

theorem runs_withWorkflow (h : s.Sound cfg) (hnone : s.mem.store contract.operationId = none)
    (hw : s.workflows w.approvalId = some w) :
    (s.withWorkflow cfg call contract now).Runs cfg w := by
  have hruns := (h.runs _ w hw).2
  have hgateway : (s.withWorkflow cfg call contract now).gateway w = s.gateway w :=
    seenBy_withWorkflow h hnone hw
  have hid : w.approvalId ≠ contract.operationId := fun heq => by
    rw [← heq, hruns.owns.record] at hnone
    cases hnone
  have hstore : (s.withWorkflow cfg call contract now).mem.store w.approvalId = some w.record := by
    simpa [withWorkflow, newWorkflow, WorkflowStore.create, hid] using hruns.owns.record
  have hrecord := (h.constructed _ _ hruns.owns.record).1
  refine ⟨⟨hstore, ?_, hruns.owns.distinct⟩, hruns.named, ?_, ?_, ?_, fun id r hid hr => ?_, ?_⟩
  · rw [records_withWorkflow h hruns.owns.record]
    exact hruns.owns.contract
  · exact hruns.initial.trans (Nat.lt_add_of_pos_right (by decide))
  · exact hruns.pipeline.trans (Nat.lt_add_of_pos_right (by decide))
  · intro hbuilt
    have hpipeline : w.pipeline ≠ s.nextContract := hruns.pipeline.ne
    simp only [withWorkflow, newWorkflow, Function.update_of_ne hid] at hbuilt
    simpa [withWorkflow, newWorkflow, WorkflowStore.create, Memory.modifyContract, hpipeline] using
      hruns.linked hbuilt
  · rcases store_withWorkflow hr with ⟨-, rfl, hcontract⟩ | ⟨-, hr⟩
    · rw [hcontract]
      exact ⟨hrecord.ne', hruns.initial.ne, hruns.pipeline.ne⟩
    · rw [records_withWorkflow h hr]
      exact hruns.alone id r hid hr
  · rw [hgateway]
    exact hruns.reached

theorem sound_withWorkflow (h : s.Sound cfg) (hfresh : contract.toDecisionFields = {})
    (hnamed : contract.operationId ≠ "") (hnone : s.mem.store contract.operationId = none) :
    (s.withWorkflow cfg call contract now).Sound cfg := by
  have hworkflows {id : String} {w : Workflow}
      (hw : (s.withWorkflow cfg call contract now).workflows id = some w) :
      (id = contract.operationId ∧ w = s.newWorkflow call contract.operationId) ∨
        s.workflows id = some w := by
    by_cases hid : id = contract.operationId
    · subst hid
      exact .inl ⟨rfl, by simpa [withWorkflow, newWorkflow] using hw.symm⟩
    · exact .inr (by simpa [withWorkflow, newWorkflow, hid] using hw)
  refine ⟨fun id r hr => ?_, fun id hid => ?_, fun id w hw => ?_, fun id w id' w' hw hw' hne => ?_⟩
  · rcases store_withWorkflow hr with ⟨-, rfl, hcontract⟩ | ⟨-, hr⟩
    · rw [hcontract]
      simp [withWorkflow, WorkflowStore.create]
    · obtain ⟨hrecord, hcontract⟩ := h.constructed id r hr
      rw [records_withWorkflow h hr]
      exact ⟨hrecord.trans (Nat.lt_succ_self _),
        hcontract.trans (Nat.lt_add_of_pos_right (by decide))⟩
  · refine h.idle id ?_
    by_cases heq : id = contract.operationId
    · rwa [heq]
    · simpa [withWorkflow, newWorkflow, WorkflowStore.create, heq] using hid
  · rcases hworkflows hw with ⟨rfl, rfl⟩ | hw
    · exact ⟨rfl, runs_newWorkflow h hfresh hnamed hnone⟩
    · obtain ⟨rfl, -⟩ := h.runs id w hw
      exact ⟨rfl, runs_withWorkflow h hnone hw⟩
  · rcases hworkflows hw with ⟨rfl, rfl⟩ | hw <;> rcases hworkflows hw' with ⟨rfl, rfl⟩ | hw'
    · exact absurd rfl hne
    · have hlt := (h.runs _ _ hw').2.pipeline
      exact ⟨hlt.ne', (hlt.trans (Nat.lt_succ_self _)).ne'⟩
    · have hinitial := (h.runs _ _ hw).2.initial
      have hpipeline := (h.runs _ _ hw).2.pipeline
      exact ⟨(hinitial.trans (Nat.lt_succ_self _)).ne, (hpipeline.trans (Nat.lt_succ_self _)).ne⟩
    · exact h.apart id w id' w' hw hw' hne

end

/-- Every step keeps the invariant. -/
theorem sound_step {action : ProxyAction} (h : s.Sound cfg)
    (hstep : (machine cfg).step s action = some t) : t.Sound cfg := by
  cases action with
  | submit call hex now =>
    rcases submit_cases hstep with rfl | ⟨c, hc, hid, hnone, rfl⟩
    · exact h
    · refine sound_withWorkflow h (Intake.runIntake_fresh hc).1 ?_ hnone
      rw [hid]
      simp
  | workflow id a => exact sound_workflow h hstep

end Proxy
