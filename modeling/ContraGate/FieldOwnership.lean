import ContraGate.AnalyzerTheorems
import ContraGate.ContextSim
import ContraGate.ContractAgent
import ContraGate.ContractFields

/-!
# Which fields the agents write

The contract passes through the three agents as one mutable object. Each of them writes the
fields that it owns, appends to the provenance and leaves the rest as it is.
-/

namespace HandoffContract

/-- What an agent that owns these fields may do to a contract. -/
structure Owned (owned : List String) (c c' : HandoffContract) : Prop where
  others : ChangesOnly (owned ++ ["workflow_provenance"]) c c'
  provenance : c.workflowProvenance <+: c'.workflowProvenance
  identity : c'.toIdentity = c.toIdentity
  policy : c'.toPolicyGateOutputs = c.toPolicyGateOutputs
  decision : c'.toDecisionFields = c.toDecisionFields

namespace Owned

variable {owned : List String} {c c' c'' : HandoffContract}

theorem refl (owned : List String) (c : HandoffContract) : Owned owned c c :=
  ⟨.refl _ c, List.prefix_rfl, rfl, rfl, rfl⟩

theorem trans (h : Owned owned c c') (h' : Owned owned c' c'') : Owned owned c c'' where
  others := h.others.trans h'.others
  provenance := h.provenance.trans h'.provenance
  identity := h'.identity.trans h.identity
  policy := h'.policy.trans h.policy
  decision := h'.decision.trans h.decision

/-- Every agent may append to the provenance. -/
theorem addProvenance (owned : List String) (c : HandoffContract) (now : Time)
    (agent fieldWritten : String) (llm : Bool) :
    Owned owned c (c.addProvenance now agent fieldWritten llm) where
  others := by
    intro f hf
    -- the provenance itself may change, no other field does
    cases f with
    | workflowProvenance => exact absurd (List.mem_append_right _ (List.mem_singleton.mpr rfl)) hf
    | _ => rfl
  provenance := List.prefix_append _ _
  identity := rfl
  policy := rfl
  decision := rfl

end Owned

end HandoffContract

open HandoffContract

/-! ## The Analyzer Agent -/

namespace AnalyzerAgent

/-- `_ANALYSIS_FIELDS` and the field for the recovery SQL, which is never filled. -/
def ownedFields : List String := analysisFields ++ ["automated_recovery_sql"]

theorem parsed_owned (cfg : AnalyzerConfig) (c : HandoffContract) :
    Owned ownedFields c (parsed cfg c) := by
  unfold parsed
  -- what is read off the statement is never evaluated here
  generalize AnalyzerTools.parseSqlIntent cfg c.rawSql = parse
  generalize AnalyzerTools.classifyOperationType cfg c.rawSql = opType
  refine ⟨?_, List.prefix_rfl, rfl, rfl, rfl⟩
  intro f hf
  cases f with
  | operationType | primaryTable | condition => exact absurd (by decide) hf
  | _ => rfl

theorem writeReversibility_owned {cfg : AnalyzerConfig} {op : OperationType} {softDelete : Bool}
    {analysis : TriggerAnalysis} {c c' : HandoffContract}
    (h : writeReversibility cfg op softDelete analysis c = some c') : Owned ownedFields c c' := by
  unfold writeReversibility at h
  split at h
  case h_3 => cases h
  all_goals
    obtain rfl := Option.some.inj h
    refine ⟨?_, List.prefix_rfl, rfl, rfl, rfl⟩
    intro f hf
    cases f with
    | reversibility | reversibilityReason | automatedRecoverySql =>
      exact absurd (by decide) hf
    | _ => rfl

/-- What the reader's replies give goes into fields of the analysis. -/
theorem write_owned {cfg : AnalyzerConfig} {facts : ReaderFacts} {c c' : HandoffContract}
    (h : facts.write cfg c = some c') : Owned ownedFields c c' := by
  obtain ⟨written, hwritten, h⟩ := Option.bind_eq_some_iff.mp h
  obtain rfl := Option.some.inj h
  have hfields : Owned ownedFields c { c with
      estimatedPrimaryRows := facts.rows
      rowConfidence := facts.confidence
      externalTriggers := facts.external
      cascade := facts.cascade } := by
    refine ⟨?_, List.prefix_rfl, rfl, rfl, rfl⟩
    intro f hf
    cases f with
    | estimatedPrimaryRows | rowConfidence | externalTriggers | cascade =>
      exact absurd (by decide) hf
    | _ => rfl
  have howned : Owned ownedFields c written :=
    hfields.trans (writeReversibility_owned hwritten)
  refine howned.trans ⟨?_, List.prefix_rfl, rfl, rfl, rfl⟩
  intro f hf
  cases f with
  | permanentComponents => exact absurd (by decide) hf
  | _ => rfl

theorem analyze_owned {cfg : AnalyzerConfig} {reader : PostgresTools} {reply : LlmReply}
    {now : Time} {c c' : HandoffContract} (h : analyze cfg reader reply now c = some c') :
    Owned ownedFields c c' := by
  unfold analyze at h
  split_ifs at h
  · obtain rfl := Option.some.inj h
    exact .refl _ c
  · obtain ⟨facts, hfacts, rfl⟩ := Option.map_eq_some_iff.mp h
    obtain ⟨learned, -, hwrite⟩ := facts_of_gatherFacts hfacts
    have howned : Owned ownedFields c facts :=
      (parsed_owned cfg c).trans (write_owned hwrite)
    generalize getIntentSummary cfg reply facts = summary
    refine Owned.trans ?_ (.addProvenance _ _ _ _ _ _)
    refine howned.trans ⟨?_, List.prefix_rfl, rfl, rfl, rfl⟩
    intro f hf
    cases f with
    | intentSummary => exact absurd (by decide) hf
    | _ => rfl

end AnalyzerAgent

/-! ## The Context and Simulation Agent -/

namespace ContextSimAgent

/-- `_CONTEXT_SIM_FIELDS`. -/
def contextSimFields : List String :=
  ["retrieval_available", "historical_precedents", "simulation_available", "simulation_executed",
   "actual_primary_rows", "actual_cascade", "sandbox_trigger_log", "simulation_timeout",
   "sequence_gap_warning"]

theorem retrieval_owned (c : HandoffContract) (result : RetrievalResult) :
    Owned contextSimFields c (RetrievalClient.applyToContract c result) := by
  refine ⟨?_, List.prefix_rfl, rfl, rfl, rfl⟩
  intro f hf
  cases f with
  | retrievalAvailable | historicalPrecedents => exact absurd (by decide) hf
  | _ => rfl

theorem sandbox_owned (c : HandoffContract) (result : SimulationResult) :
    Owned contextSimFields c (SandboxClient.applyToContract c result) := by
  unfold SandboxClient.applyToContract
  dsimp only
  split
  all_goals
    refine ⟨?_, List.prefix_rfl, rfl, rfl, rfl⟩
    intro f hf
    cases f with
    | simulationAvailable | simulationExecuted | simulationTimeout | actualPrimaryRows
    | actualCascade | sandboxTriggerLog => first | rfl | exact absurd (by decide) hf
    | _ => rfl

theorem run_owned (memory : MemoryTools) (first second : SandboxTools) (now : Time)
    (c : HandoffContract) : Owned contextSimFields c (run memory first second now c) := by
  unfold run
  extract_lets retrieval simulation c₁ c₂ c₃
  have h₂ : Owned contextSimFields c c₂ :=
    (retrieval_owned c retrieval).trans (sandbox_owned c₁ simulation)
  have h₃ : Owned contextSimFields c₂ c₃ := by
    unfold c₃
    split
    · refine ⟨?_, List.prefix_rfl, rfl, rfl, rfl⟩
      intro f hf
      cases f with
      | sequenceGapWarning => exact absurd (by decide) hf
      | _ => rfl
    · exact .refl _ c₂
  exact (h₂.trans h₃).trans (.addProvenance _ _ _ _ _ _)

end ContextSimAgent

/-! ## The Contract Agent -/

namespace ContractAgent

/-- The fields that `run` says it writes. -/
def contractFields : List String :=
  ["risk_tier", "risk_score", "rollback_plan", "intent_summary_prose", "approval_contract_json",
   "contract_assembled"]

theorem classify_owned (riskTier : RiskTier) (riskScore : ℚ) (c : HandoffContract) :
    Owned contractFields c (classify riskTier riskScore c) := by
  refine ⟨?_, List.prefix_rfl, rfl, rfl, rfl⟩
  intro f hf
  cases f with
  | riskTier | riskScore | rollbackPlan => exact absurd (by decide) hf
  | _ => rfl

theorem run_owned {formats : ContractFormats} {first second : LlmReply} {hex : String} {now : Time}
    {c c' : HandoffContract} (h : run formats first second hex now c = some c') :
    Owned contractFields c c' := by
  obtain ⟨document, h⟩ := run_eq_some_iff.mp h
  obtain ⟨riskTier, riskScore, -, -, rfl⟩ := assemble_eq_some_iff.mp h
  refine Owned.trans ?_ (.addProvenance _ _ _ _ _ _)
  refine (classify_owned riskTier riskScore c).trans ⟨?_, List.prefix_rfl, rfl, rfl, rfl⟩
  intro f hf
  cases f with
  | intentSummaryProse | approvalContractJson | contractAssembled =>
    exact absurd (by decide) hf
  | _ => rfl

end ContractAgent

/-! ## The three agents -/

/-- Whatever the servers and the LLM reply, each agent that returns has changed fields that it
owns, and none of the statement, the identity, the policy outputs or the decision. -/
theorem agents_write_owned_fields :
    (∀ cfg reader reply now c c', AnalyzerAgent.analyze cfg reader reply now c = some c' →
      Owned AnalyzerAgent.ownedFields c c') ∧
    (∀ memory first second now c,
      Owned ContextSimAgent.contextSimFields c
        (ContextSimAgent.run memory first second now c)) ∧
    (∀ formats first second hex now c c',
      ContractAgent.run formats first second hex now c = some c' →
      Owned ContractAgent.contractFields c c') :=
  ⟨fun _ _ _ _ _ _ h => AnalyzerAgent.analyze_owned h, ContextSimAgent.run_owned,
    fun _ _ _ _ _ _ _ h => ContractAgent.run_owned h⟩

/-- A `DELETE`, as it comes to the agents. -/
def deletingContract : HandoffContract where
  operationId := "op"
  tenantId := "t"
  submittedBy := "a"
  sourceType := .externalAgent
  submissionTimestamp := 0
  rawSql := "DELETE FROM users WHERE id = 1"

/-- The agents while all servers and the LLM are down. -/
theorem analyze_owned_reader_down :
    (∃ c', AnalyzerAgent.analyze .ascii (fun _ _ => .mcpCallError "down") none 0
        deletingContract = some c' ∧ c'.rawSql = "DELETE FROM users WHERE id = 1") ∧
    ∃ c', ContractAgent.run .plain none none "" 0 deletingContract = some c' ∧
      c'.rawSql = "DELETE FROM users WHERE id = 1" := by
  have hanalyzed : (AnalyzerAgent.analyze .ascii (fun _ _ => .mcpCallError "down") none 0
      deletingContract).isSome = true := by decide
  have hassembled : (ContractAgent.run .plain none none "" 0 deletingContract).isSome = true := by
    decide
  obtain ⟨analyzed, ha⟩ := Option.isSome_iff_exists.mp hanalyzed
  obtain ⟨assembled, hs⟩ := Option.isSome_iff_exists.mp hassembled
  have howned := agents_write_owned_fields.1 _ _ _ _ _ _ ha
  have howned' := agents_write_owned_fields.2.2 _ _ _ _ _ _ _ hs
  exact ⟨⟨analyzed, ha, congrArg Identity.rawSql howned.identity⟩,
    assembled, hs, congrArg Identity.rawSql howned'.identity⟩
