import ContraGate.ContractWrites
import ContraGate.PipelineTheorems
import ContraGate.TargetCalls

/-!
# Nothing is executed without an assembled contract

The Contract Agent is the last of the three, and the review comes behind it. What it leaves in the
contract stays there until the operation has been executed, whatever is decided and however often
the review is repeated: the tier, the score and the rollback plan are those that the rules give for
the facts beside them, and the document is about these facts.
-/

namespace HandoffContract

/-- The contract is one that the Contract Agent has assembled. -/
structure Assembled (formats : ContractFormats) (c : HandoffContract) : Prop where
  /-- Tier, score and rollback plan are what the rules give. -/
  classified : ∃ riskTier riskScore, RiskRules.classifyRisk c = some (riskTier, riskScore) ∧
    ContractAgent.classify riskTier riskScore c = c
  assembled : c.contractAssembled = true
  document : ∃ first second hex now document,
    ContractAgent.approvalContract formats first second hex now c = some document ∧
      c.approvalContractJson = formats.dumpJson document

/-- Two contracts say the same about the operation. -/
structure SameFindings (c c' : HandoffContract) : Prop where
  identity : c'.toIdentity = c.toIdentity
  analyzer : c'.toAnalyzerOutputs = c.toAnalyzerOutputs
  contextSim : c'.toContextSimOutputs = c.toContextSimOutputs
  contractAgent : c'.toContractAgentOutputs = c.toContractAgentOutputs
  policy : c'.toPolicyGateOutputs = c.toPolicyGateOutputs

theorem SameFindings.refl (c : HandoffContract) : SameFindings c c := ⟨rfl, rfl, rfl, rfl, rfl⟩

/-- What is said of the operation is all that the assembly reads. -/
theorem Assembled.of_sameFindings {formats : ContractFormats} {c c' : HandoffContract}
    (h : c.Assembled formats) (hsame : SameFindings c c') : c'.Assembled formats := by
  obtain ⟨identity', analyzer', contextSim', contractAgent', policy', decision', execution',
    provenance'⟩ := c'
  obtain ⟨rfl, rfl, rfl, rfl, rfl⟩ := hsame
  obtain ⟨⟨riskTier, riskScore, hrisk, hclassified⟩, hassembled, first, second, hex, now, document,
    hdocument, hjson⟩ := h
  refine ⟨⟨riskTier, riskScore, hrisk, ?_⟩, hassembled, first, second, hex, now, document, ?_, hjson⟩
  · have houtputs : (ContractAgent.classify riskTier riskScore c).toContractAgentOutputs =
        c.toContractAgentOutputs := congrArg toContractAgentOutputs hclassified
    exact congrArg (fun outputs => (⟨c.toIdentity, c.toAnalyzerOutputs, c.toContextSimOutputs,
      outputs, c.toPolicyGateOutputs, decision', execution', provenance'⟩ : HandoffContract))
      houtputs
  · obtain ⟨c', hassemble⟩ := ContractAgent.approvalContract_eq_some_iff.mp hdocument
    obtain ⟨tier, score, hrisk', hbuild, -⟩ := ContractAgent.assemble_eq_some_iff.mp hassemble
    exact ContractAgent.approvalContract_eq_some_iff.mpr
      ⟨_, ContractAgent.assemble_eq_some_iff.mpr ⟨tier, score, hrisk', hbuild, rfl⟩⟩

end HandoffContract

theorem ContractAgent.run_assembled {formats : ContractFormats} {first second : LlmReply}
    {hex : String} {now : Time} {c c' : HandoffContract}
    (h : run formats first second hex now c = some c') : c'.Assembled formats := by
  obtain ⟨document, hassemble⟩ := run_eq_some_iff.mp h
  obtain ⟨riskTier, riskScore, hrisk, hdocument, rfl⟩ := assemble_eq_some_iff.mp hassemble
  -- the rules and the document read nothing of what the agent has written
  exact ⟨⟨riskTier, riskScore, hrisk, rfl⟩, rfl, first, second, hex, now, document,
    approvalContract_eq_some_iff.mpr
      ⟨_, assemble_eq_some_iff.mpr ⟨riskTier, riskScore, hrisk, hdocument, rfl⟩⟩, rfl⟩

/-! ## What happens behind the agents -/

/-- The task is behind the Contract Agent, in the review or the execution. -/
def TaskAt.reviewed : TaskAt → Bool
  | humanReview _ | routeHumanReview | execution _ => true
  | _ => false

/-- A write in the review or the execution says nothing new of the operation. -/
theorem ContractWrite.sameFindings {cfg : PipelineConfig} {manifest : Py.Dict}
    {stored : Option HandoffContract} {t : TaskAt} {a : GatewayAction} {c c' : HandoffContract}
    (h : ContractWrite cfg manifest stored t a c c') (hreviewed : t.reviewed = true) :
    c.SameFindings c' := by
  cases h with
  | policy ht | noPolicy ht | agent ht | audited ht =>
    rw [ht] at hreviewed
    cases hreviewed
  | update hf =>
    unfold WorkflowStore.merged
    split <;> exact ⟨rfl, rfl, rfl, rfl, rfl⟩
  | _ => exact ⟨rfl, rfl, rfl, rfl, rfl⟩

namespace Graph

/-- The review is entered from the Contract Agent only. -/
theorem runTask_reviewed {cfg : PipelineConfig} {approvalId : String} {manifest : Py.Dict}
    {contract : Ref} {m : Memory} {t : TaskAt} {input : TaskInput} {o : Resumed TaskAt}
    (h : runTask cfg approvalId manifest contract m t input = some o)
    (hagent : GatewayAction.ofAgent (.task input) = false) (hreviewed : o.pc.reviewed = true) :
    t.reviewed = true := by
  unfold runTask at h
  split at h
  case h_6 => cases hagent
  case h_8 | h_9 | h_10 => rfl
  case h_3 =>
    obtain ⟨o', ho', rfl⟩ := Option.map_eq_some_iff.mp h
    dsimp only [within] at hreviewed
    unfold afterRiskGate at hreviewed
    split at hreviewed <;> cases hreviewed
  case h_2 | h_4 | h_5 =>
    split at h <;> first | (obtain rfl := Option.some.inj h; cases hreviewed) | cases h
  case h_18 => cases h
  all_goals
    obtain rfl := Option.some.inj h
    cases hreviewed

end Graph

namespace Pipeline

open Gateway

variable {cfg : PipelineConfig} {agents : AgentSettings} {approvalId : String} {manifest : Py.Dict}
  {s t u : Gateway} {actions : List PipelineAction}

/-- What happens beside the agents does not enter the review. -/
theorem reviewed_step {b : GatewayAction} (hother : b.ofAgent = false)
    (hstep : (Gateway.machine cfg approvalId manifest).step s b = some t)
    (hreviewed : t.task.reviewed = true) : s.task.reviewed = true := by
  cases b with
  | task input =>
    obtain ⟨o, ho, rfl⟩ := Option.map_eq_some_iff.mp (resumeTask_of_step hstep).1
    exact Graph.runTask_reviewed ho hother hreviewed
  | recordDecision d now =>
    obtain rfl := Option.some.inj hstep
    exact hreviewed
  | postDecision d now =>
    obtain rfl := Option.some.inj hstep
    split at hreviewed <;> exact hreviewed
  | viewSubmission approve reason approverId now =>
    obtain rfl := Option.some.inj hstep
    split at hreviewed <;> exact hreviewed
  | endpointStatus i now =>
    obtain ⟨status, -, rfl⟩ := Option.map_eq_some_iff.mp hstep
    exact hreviewed

/-- Behind the agents the contract says the same after every step. -/
theorem sameFindings_step {b : GatewayAction} (hwf : WellFormed approvalId s)
    (hstep : (Gateway.machine cfg approvalId manifest).step s b = some t)
    (hreviewed : s.task.reviewed = true) :
    (s.mem.contracts pipelineContract).SameFindings (t.mem.contracts pipelineContract) := by
  cases (machine_memory hwf hstep).1 with
  | same hsame =>
    rw [hsame]
    exact .refl _
  | intake ht =>
    rw [ht] at hreviewed
    cases hreviewed
  | write hx hw hsame =>
    rename_i x c'
    rw [hsame]
    by_cases hown : pipelineContract = x
    · subst hown
      rw [Function.update_self]
      exact hw.sameFindings hreviewed
    · rw [Function.update_of_ne hown]
      exact .refl _

/-- An agent that returns into the review has assembled the contract. -/
theorem runNode_assembled {call : AgentCall} {now : Time}
    (hreviewed : (runNode cfg agents s call now).task.reviewed = true) :
    ((runNode cfg agents s call now).mem.contracts pipelineContract).Assembled agents.formats := by
  cases call with
  | runAnalysis | runContextSim =>
    simp only [runNode, AgentCall.node, Graph.afterAgent] at hreviewed
    split at hreviewed <;> cases hreviewed
  | runContract first second hex written =>
    unfold runNode AgentCall.run at hreviewed ⊢
    dsimp only at hreviewed ⊢
    cases hrun : ContractAgent.run agents.formats first second hex now
        (s.mem.contracts pipelineContract) with
    | none =>
      rw [hrun] at hreviewed
      cases hreviewed
    | some c' =>
      simp only [Memory.modifyContract_self]
      exact ContractAgent.run_assembled hrun

theorem assembled_step {a : PipelineAction} (hwf : WellFormed approvalId s)
    (h : s.task.reviewed = true →
      (s.mem.contracts pipelineContract).Assembled agents.formats)
    (hstep : (machine cfg agents approvalId manifest).step s a = some t)
    (hreviewed : t.task.reviewed = true) :
    (t.mem.contracts pipelineContract).Assembled agents.formats := by
  rcases step_cases hstep with ⟨call, now, rfl, -, rfl⟩ | ⟨b, rfl, hother, hb⟩
  · exact runNode_assembled hreviewed
  · have hbefore := reviewed_step hother hb hreviewed
    exact (h hbefore).of_sameFindings (sameFindings_step hwf hb hbefore)

/-- In the review and the execution the contract is assembled. -/
theorem assembled_exec (hstarted : Started approvalId s)
    (hrun : (machine cfg agents approvalId manifest).exec s actions = some t)
    (hreviewed : t.task.reviewed = true) :
    (t.mem.contracts pipelineContract).Assembled agents.formats := by
  have hinvariant := Machine.exec_preserves (machine cfg agents approvalId manifest)
    (I := fun s => WellFormed approvalId s ∧ (s.task.reviewed = true →
      (s.mem.contracts pipelineContract).Assembled agents.formats))
    (fun s a t hs hstep => by
      have hone : (machine cfg agents approvalId manifest).exec s [a] = some t := by
        rw [Machine.exec_cons, hstep]
        rfl
      exact ⟨wellFormed_exec hs.1 hone, assembled_step hs.1 hs.2 hstep⟩)
    ⟨hstarted.wellFormed, fun h => by rw [hstarted.task] at h; cases h⟩ hrun
  exact hinvariant.2 hreviewed

end Pipeline

/-! ## The execution -/

/-- Whoever calls the target is in the execution. -/
theorem TaskStep.reviewed_of_sent {v v' : TaskView} {input : TaskInput} {t t' : TaskAt}
    {events log : List Event} {call : ToolCall} (h : TaskStep v input t v' t' events)
    (hsent : events ++ log = .sent call :: log) : t.reviewed = true := by
  have hevents : events = [.sent call] := List.append_cancel_right hsent
  cases h with
  | executionSends => rfl
  | review hlinked hreview =>
    rcases hreview.events (.sent call) (by simp [hevents]) with heq | heq <;> cases heq
  | reviewUnlinked hunlinked hnone =>
    rcases hnone (.sent call) (by simp [hevents]) with heq | heq <;> cases heq
  | _ => simp at hevents

theorem ProtocolStep.reviewed_of_sent {p q : Protocol} {a : GatewayAction} {call : ToolCall}
    (h : ProtocolStep p a q) (hsent : q.log = .sent call :: p.log) : p.task.reviewed = true := by
  cases h with
  | task htask => exact htask.reviewed_of_sent hsent
  | decide | submit => simp at hsent
  | ignored | endpointStatus => exact absurd hsent (List.cons_ne_self _ _).symm

namespace Pipeline

open Gateway

variable {cfg : PipelineConfig} {agents : AgentSettings} {approvalId : String} {manifest : Py.Dict}
  {s t u : Gateway} {actions : List PipelineAction}

/-- **Nothing is executed without an assembled contract.** In every run of the pipeline, whatever
the servers and the LLM reply and whatever is decided when, the target is called on a contract that
carries the tier, the score, the rollback plan and the document that the Contract Agent makes of
the facts in it, and under a standing approval. -/
theorem executes_assembled {a : PipelineAction} {call : ToolCall} (hstarted : Started approvalId s)
    (hrun : (machine cfg agents approvalId manifest).exec s actions = some t)
    (hstep : (machine cfg agents approvalId manifest).step t a = some u)
    (hsent : u.log = .sent call :: t.log) :
    (t.mem.contracts pipelineContract).Assembled agents.formats ∧ StandingApproval t.log := by
  have hreviewed : t.task.reviewed = true := by
    rcases step_cases hstep with ⟨call', now, -, -, rfl⟩ | ⟨b, -, -, hb⟩
    · exact absurd hsent (List.cons_ne_self _ _).symm
    · exact (machine_step (wellFormed_exec hstarted.wellFormed hrun) hb).2.reviewed_of_sent hsent
  have hlast : (machine cfg agents approvalId manifest).exec s (actions ++ [a]) = some u := by
    rw [Machine.exec_append_eq_some]
    refine ⟨t, hrun, ?_⟩
    rw [Machine.exec_cons, hstep]
    rfl
  obtain ⟨actions', hrun', -⟩ := (refines cfg agents approvalId manifest).exec trivial hlast
  exact ⟨assembled_exec hstarted hrun hreviewed,
    callsApproved_exec hstarted hrun' [] call t.log hsent⟩

/-- The approval comes while the review is polling. -/
def approved : List PipelineAction :=
  toReview ++
    [.other (.task (.review (.notified (.result .null) 1))), .other (.task (.review (.resume 1))),
      .other (.task (.review (.resume 1))), .other (.task (.review (.resume 1))),
      .other (.task (.review (.resume 1))),
      .other (.postDecision (sampleDecision "APPROVE") 2), .other (.endpointStatus 0 2),
      .other (.task (.review (.resume 3))), .other (.task (.review (.resume 3))),
      .other (.task (.review (.resume 3))), .other (.task (.resume 3)),
      .other (.task (.execution (.resume 3)))]

/-- EXECUTION is about to call the target. -/
def aboutToCall (cfg : ExecutionConfig) (s : Gateway) : Bool :=
  match s.task with
  | .execution (.got (some r)) =>
    !(s.mem.records r).executionCompleted &&
      Execution.manifestIntact cfg ((s.mem.records r).toolCallManifest.getD [])
  | _ => false

theorem step_aboutToCall (h : aboutToCall cfg.toExecutionConfig s = true) (now : Time) :
    ∃ t call, (machine cfg agents approvalId manifest).step s
        (.other (.task (.execution (.resume now)))) = some t ∧ t.log = .sent call :: s.log := by
  unfold aboutToCall at h
  split at h
  · rename_i r htask
    simp only [Bool.and_eq_true, Bool.not_eq_true'] at h
    simp [machine, GatewayAction.ofAgent, Gateway.machine, resumeTask, htask, Graph.runTask,
      Execution.runExecution, Execution.checkAndCall, h.1, h.2, Graph.within]
  · cases h

theorem executes_assembled_approved : ∃ t u call,
    (machine sampleConfig sampleAgents "cg_1" sampleManifest).exec sample approved = some t ∧
      (machine sampleConfig sampleAgents "cg_1" sampleManifest).step t
        (.other (.task (.execution (.resume 3)))) = some u ∧ u.log = .sent call :: t.log ∧
      (t.mem.contracts pipelineContract).Assembled sampleAgents.formats ∧
      StandingApproval t.log := by
  have hruns : ((machine sampleConfig sampleAgents "cg_1" sampleManifest).exec sample
      approved).any (aboutToCall sampleConfig.toExecutionConfig) = true := by decide +kernel
  rw [Option.any_eq_true] at hruns
  obtain ⟨t, hrun, hready⟩ := hruns
  obtain ⟨u, call, hstep, hsent⟩ := step_aboutToCall hready 3
  exact ⟨t, u, call, hrun, hstep, hsent, executes_assembled sample_started hrun hstep hsent⟩

end Pipeline
