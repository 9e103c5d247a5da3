import ContraGate.FieldOwnership
import ContraGate.GatewayTheorems
import ContraGate.Library.Components
import ContraGate.Pipeline

/-!
# The graph with its agents refines the graph

What an agent does to the contract is a sequence of writes that its node may make
(`AgentCall.run_writes`). So a run of the pipeline is a run of the workflow in which the agents may
write anything (`refines`), and every result about the runs of the latter is one about the former.
-/

/-! ## What an agent does is a sequence of writes of its node -/

/-- Contracts with the same fields are the same. -/
theorem ContractField.ext {c c' : HandoffContract} (h : ∀ f : ContractField, f.get c = f.get c') :
    c = c' := by
  rw [← ContractField.build_get c, ← ContractField.build_get c', funext h]

namespace HandoffContract

variable {c c' : HandoffContract}

/-- The provenance that an agent has added. -/
theorem Owned.added {owned : List String} (h : Owned owned c c') :
    c.workflowProvenance ++ c'.workflowProvenance.drop c.workflowProvenance.length =
      c'.workflowProvenance :=
  List.prefix_iff_eq_append.mp h.provenance

/-- A contract that takes over what the agent may write is the one it has written. -/
theorem Owned.eq_of_get {owned : List String} (h : Owned owned c c') {taken : HandoffContract}
    (hown : ∀ f : ContractField, f.name ∈ owned ++ ["workflow_provenance"] → f.get taken = f.get c')
    (hother : ∀ f : ContractField, f.name ∉ owned ++ ["workflow_provenance"] →
      f.get taken = f.get c) : taken = c' := by
  refine ContractField.ext fun f => ?_
  by_cases hf : f.name ∈ owned ++ ["workflow_provenance"]
  · exact hown f hf
  · rw [hother f hf, h.others f hf]

theorem Owned.analyzer (h : Owned AnalyzerAgent.ownedFields c c') :
    { c with
      toAnalyzerOutputs := c'.toAnalyzerOutputs
      workflowProvenance := c'.workflowProvenance } = c' := by
  refine h.eq_of_get (fun f hf => ?_) fun f hf => ?_
  · cases f <;> first | rfl | exact absurd hf (by decide)
  · cases f with
    | promptInjectionRisk => exact h.others .promptInjectionRisk hf
    | _ => first | rfl | exact absurd (by decide) hf

theorem Owned.contextSim (h : Owned ContextSimAgent.contextSimFields c c') :
    { c with
      toContextSimOutputs := c'.toContextSimOutputs
      workflowProvenance := c'.workflowProvenance } = c' := by
  refine h.eq_of_get (fun f hf => ?_) fun f hf => ?_
  · cases f <;> first | rfl | exact absurd hf (by decide)
  · cases f <;> first | rfl | exact absurd (by decide) hf

theorem Owned.contractAgent (h : Owned ContractAgent.contractFields c c') :
    { c with
      toContractAgentOutputs := c'.toContractAgentOutputs
      workflowProvenance := c'.workflowProvenance } = c' := by
  refine h.eq_of_get (fun f hf => ?_) fun f hf => ?_
  · cases f <;> first | rfl | exact absurd hf (by decide)
  · cases f <;> first | rfl | exact absurd (by decide) hf

end HandoffContract

/-- The writes of a call: the fields of its node, and the entries of the provenance. -/
theorem AgentCall.run_writes (agents : AgentSettings) (now : Time) (c : HandoffContract)
    (call : AgentCall) :
    ∃ writes : List AgentWrite, (∀ write ∈ writes, write.allowedIn call.node = true) ∧
      writes.foldl (fun c write => write.apply c) c = (call.run agents now c).1 := by
  cases call with
  | runAnalysis reader reply written =>
    dsimp only [run]
    cases hanalyze : AnalyzerAgent.analyze agents.analyzer reader reply now c with
    | none =>
      refine ⟨[.analyzer written], List.forall_mem_singleton.mpr rfl, rfl⟩
    | some c' =>
      have howned := AnalyzerAgent.analyze_owned hanalyze
      refine ⟨[.analyzer c'.toAnalyzerOutputs,
        .provenance (c'.workflowProvenance.drop c.workflowProvenance.length)], ?_, ?_⟩
      · simp [AgentWrite.allowedIn, node]
      · simp only [List.foldl_cons, List.foldl_nil, AgentWrite.apply, howned.added]
        exact howned.analyzer
  | runContextSim memory first second =>
    have howned := ContextSimAgent.run_owned memory first second now c
    refine ⟨[.contextSim (ContextSimAgent.run memory first second now c).toContextSimOutputs,
      .provenance ((ContextSimAgent.run memory first second now c).workflowProvenance.drop
        c.workflowProvenance.length)], ?_, ?_⟩
    · simp [AgentWrite.allowedIn, node]
    · simp only [List.foldl_cons, List.foldl_nil, AgentWrite.apply, howned.added]
      exact howned.contextSim
  | runContract first second hex written =>
    dsimp only [run]
    cases hrun : ContractAgent.run agents.formats first second hex now c with
    | none =>
      refine ⟨[.contractAgent written], List.forall_mem_singleton.mpr rfl, rfl⟩
    | some c' =>
      have howned := ContractAgent.run_owned hrun
      refine ⟨[.contractAgent c'.toContractAgentOutputs,
        .provenance (c'.workflowProvenance.drop c.workflowProvenance.length)], ?_, ?_⟩
      · simp [AgentWrite.allowedIn, node]
      · simp only [List.foldl_cons, List.foldl_nil, AgentWrite.apply, howned.added]
        exact howned.contractAgent

namespace Pipeline

open Gateway

variable {cfg : PipelineConfig} {agents : AgentSettings} {approvalId : String} {manifest : Py.Dict}
  {s t : Gateway} {actions : List PipelineAction}

/-- An agent's writes, as a run of the workflow. -/
theorem exec_writes {node : AgentNode} (htask : s.task = .agent node) {writes : List AgentWrite}
    (hallowed : ∀ write ∈ writes, write.allowedIn node = true) :
    (Gateway.machine cfg approvalId manifest).exec s
        (writes.map fun write => .task (.agentWrites write)) =
      some { s with mem := s.mem.modifyContract pipelineContract fun c =>
        writes.foldl (fun c write => write.apply c) c } := by
  induction writes generalizing s with
  | nil => simp
  | cons write writes ih =>
    obtain ⟨hwrite, hrest⟩ := List.forall_mem_cons.mp hallowed
    have hstep : (Gateway.machine cfg approvalId manifest).step s (.task (.agentWrites write)) =
        some { s with mem := s.mem.modifyContract pipelineContract write.apply } := by
      simp [Gateway.machine, resumeTask, htask, Graph.runTask, hwrite]
    rw [List.map_cons, Machine.exec_cons, hstep, Option.bind_some]
    have hnext := ih (s := { s with mem := s.mem.modifyContract pipelineContract write.apply })
      htask hrest
    rwa [Memory.modifyContract_twice] at hnext

/-- What happens beside the agents. -/
def beside (a : GatewayAction) : Option GatewayAction := if a.ofAgent then none else some a

/-- What happens beside the agents, in a step of the pipeline. -/
def label : PipelineAction → List GatewayAction
  | .agent .. => []
  | .other a => [a]

/-- A node that runs its agent, as a run of the workflow. -/
theorem exec_runNode {call : AgentCall} (htask : s.task = .agent call.node) (now : Time) :
    ∃ actions, (Gateway.machine cfg approvalId manifest).exec s actions =
      some (runNode cfg agents s call now) ∧ actions.filterMap beside = [] := by
  obtain ⟨writes, hallowed, hfold⟩ :=
    call.run_writes agents now (s.mem.contracts pipelineContract)
  have hwrites : (Gateway.machine cfg approvalId manifest).exec s
      (writes.map fun write => .task (.agentWrites write)) = some _ := exec_writes htask hallowed
  have hbeside : (writes.map fun write => GatewayAction.task (.agentWrites write)).filterMap
      beside = [] := by simp [beside, GatewayAction.ofAgent]
  -- behind its writes the agent returns or raises
  refine ⟨(writes.map fun write => .task (.agentWrites write)) ++ [.task (if (call.run agents now
    (s.mem.contracts pipelineContract)).2 then .agentReturns now else .agentRaises)], ?_, ?_⟩
  · rw [Machine.exec_append_eq_some]
    refine ⟨_, hwrites, Machine.exec_cons_eq_some _ |>.mpr ⟨_, ?_, rfl⟩⟩
    unfold runNode
    cases hreturns : (call.run agents now (s.mem.contracts pipelineContract)).2 <;>
      simp [Gateway.machine, resumeTask, htask, Graph.runTask, Memory.modifyContract, hfold,
        hreturns]
  · rw [List.filterMap_append, hbeside, List.nil_append]
    split <;> rfl

/-- What a step is: a node runs its agent, or the workflow makes a step of another kind. -/
theorem step_cases {a : PipelineAction}
    (h : (machine cfg agents approvalId manifest).step s a = some t) :
    (∃ call now, a = .agent call now ∧ s.task = .agent call.node ∧
      t = runNode cfg agents s call now) ∨
    ∃ b, a = .other b ∧ b.ofAgent = false ∧
      (Gateway.machine cfg approvalId manifest).step s b = some t := by
  cases a with
  | agent call now =>
    simp only [machine] at h
    split at h
    · rename_i node htask
      split at h
      · rename_i hnode
        exact .inl ⟨call, now, rfl, hnode ▸ htask, (Option.some.inj h).symm⟩
      · cases h
    · cases h
  | other b =>
    simp only [machine] at h
    split at h
    · cases h
    · rename_i hother
      exact .inr ⟨b, rfl, Bool.eq_false_iff.mpr hother, h⟩

/-- The pipeline refines the workflow in which the agents may write anything. -/
theorem refines (cfg : PipelineConfig) (agents : AgentSettings) (approvalId : String)
    (manifest : Py.Dict) :
    (machine cfg agents approvalId manifest).Refines (Gateway.machine cfg approvalId manifest)
      (fun _ => True) id label beside where
  invariant _ _ := trivial
  run := by
    rintro s a t - hstep
    rcases step_cases hstep with ⟨call, now, rfl, htask, rfl⟩ | ⟨b, rfl, hother, hb⟩
    · exact exec_runNode htask now
    · refine ⟨[b], Machine.exec_cons_eq_some _ |>.mpr ⟨t, hb, rfl⟩, ?_⟩
      simp [beside, hother, label]

/-- A run of the pipeline keeps the workflow well-formed. -/
theorem wellFormed_exec (h : WellFormed approvalId s)
    (hrun : (machine cfg agents approvalId manifest).exec s actions = some t) :
    WellFormed approvalId t := by
  obtain ⟨actions', hrun', -⟩ := (refines cfg agents approvalId manifest).exec trivial hrun
  exact Machine.exec_preserves _ (fun _ _ _ hwf hstep => (machine_step hwf hstep).1) h hrun'

/-- **Every run of the pipeline is a run of the workflow** in which the agents may write anything
into the fields of their node, with the same decisions, replies and steps of the task beside the
agents, in the same order, and the same state at the end. -/
theorem exec_gateway
    (hrun : (machine cfg agents approvalId manifest).exec s actions = some t) :
    ∃ actions', (Gateway.machine cfg approvalId manifest).exec s actions' = some t ∧
      actions'.filterMap beside = actions.flatMap label :=
  (refines cfg agents approvalId manifest).exec trivial hrun

/-- The sample run ends. -/
theorem exists_toReview : ∃ t,
    (machine sampleConfig sampleAgents "cg_1" sampleManifest).exec sample toReview = some t ∧
      t.task.built = true := by
  have hruns : ((machine sampleConfig sampleAgents "cg_1" sampleManifest).exec sample
      toReview).any (·.task.built) = true := by decide +kernel
  rwa [Option.any_eq_true] at hruns

theorem exec_gateway_toReview : ∃ t actions,
    (machine sampleConfig sampleAgents "cg_1" sampleManifest).exec sample toReview = some t ∧
      (Gateway.machine sampleConfig "cg_1" sampleManifest).exec sample actions = some t ∧
      actions.filterMap beside = toReview.flatMap label := by
  obtain ⟨t, hrun, -⟩ := exists_toReview
  obtain ⟨actions, hactions⟩ := exec_gateway hrun
  exact ⟨t, actions, hrun, hactions⟩

end Pipeline
