import ContraGate.FailClosed

/-!
# The components that cannot be undone

`classify_reversibility` lists the non-transactional triggers among the permanent components of a
partial operation. The analyzer derives the list once more, with `identify_permanent_components`,
which knows permanent operations only, and so a partial one is left without components.
-/

namespace AnalyzerAgent

variable {cfg : AnalyzerConfig} {reader : PostgresTools}

/-! ## What should be listed -/

/-- Each of the triggers is named by a component. -/
def Named (components : List String) (triggers : List ExternalTrigger) : Prop :=
  ∀ t ∈ triggers, ∃ component ∈ components, ReversibilityRules.Names component t.triggerName

/-- An operation with parts that cannot be undone lists its triggers, in the contract and in
section 2 of every document that is built from it. -/
def KeepsComponents (c : HandoffContract) : Prop :=
  c.reversibility ∈ [some .partiallyReversible, some .permanent] →
    Named c.permanentComponents c.externalTriggers ∧
    ∀ (later : LaterAgents) (c' : HandoffContract) (document : ApprovalContract),
      later.result c = some (c', document) →
      Named document.sections.whatCannotBeUndone.permanentComponents c.externalTriggers

/-- The replies for the table make an operation that could be undone by itself a partial one, and
list a trigger. -/
structure PartialWithTriggers (reader : PostgresTools) (p : HandoffContract) : Prop where
  table : p.primaryTable ≠ ""
  undoable : p.operationType ∈ [OperationType.select, .insert] ∨
    p.operationType ∈ [OperationType.delete, .update] ∧
      checkSoftDelete reader p.primaryTable = some true
  triggers : ∃ reply analysis external, detectTriggers reader p.primaryTable = some reply ∧
    AnalyzerTools.buildTriggerAnalysisFromMcp p.primaryTable reply = some analysis ∧
    analysis.hasPermanentSideEffects = true ∧
    AnalyzerTools.buildExternalTriggers reply = some external ∧ external ≠ []

/-! ## The class of the operation -/

/-- When the class is `PARTIAL`. -/
theorem analyzedClass_partial_iff {opType : OperationType} {hasSoftDelete effects : Bool} :
    (analyzedClass opType hasSoftDelete effects).getD .permanent = .partiallyReversible ↔
      effects = true ∧ (opType ∈ [OperationType.select, .insert] ∨
        opType ∈ [OperationType.delete, .update] ∧ hasSoftDelete = true) := by
  cases opType <;> cases hasSoftDelete <;> cases effects <;> decide

/-! ## The list of the analyzer -/

theorem named_of_permanent {opType : OperationType} {table : String}
    {external : List ExternalTrigger} {cascade : List CascadeEntry} :
    Named (AnalyzerTools.identifyPermanentComponents (some .permanent) opType table external
      cascade) external := by
  intro t ht
  refine ⟨s!"External {t.extension} trigger: {t.triggerName}", ?_, ?_⟩
  · unfold AnalyzerTools.identifyPermanentComponents
    rw [if_neg (not_not.mpr rfl)]
    refine List.mem_append_left _ (List.mem_append_left _ (List.mem_append_right _ ?_))
    exact List.mem_map_of_mem ht
  · refine ⟨(s!"External {t.extension} trigger: ").toList, [], ?_⟩
    rw [List.append_nil, ← String.toList_append]
    rfl

theorem named_nil_iff {external : List ExternalTrigger} : Named [] external ↔ external = [] := by
  unfold Named
  constructor
  · intro h
    rw [List.eq_nil_iff_forall_not_mem]
    intro t ht
    obtain ⟨component, hmem, -⟩ := h t ht
    cases hmem
  · rintro rfl t ht
    cases ht

/-- Section 2 shows the components of the contract. -/
theorem section2_permanentComponents {later : LaterAgents} {c c' : HandoffContract}
    {document : ApprovalContract} (h : later.result c = some (c', document)) :
    document.sections.whatCannotBeUndone.permanentComponents = c.permanentComponents := by
  obtain ⟨riskTier, riskScore, -, hdocument, -⟩ := ContractAgent.assemble_eq_some_iff.mp h
  obtain ⟨_, _, -, -, rfl⟩ := ContractBuilder.buildApprovalContract_eq_some hdocument
  change (later.simulated c).permanentComponents = _
  unfold LaterAgents.simulated ContextSimAgent.run SandboxClient.applyToContract
  dsimp only
  split_ifs <;> rfl

theorem keepsComponents_iff_named {c : HandoffContract} :
    KeepsComponents c ↔
      (c.reversibility ∈ [some .partiallyReversible, some .permanent] →
        Named c.permanentComponents c.externalTriggers) := by
  unfold KeepsComponents
  refine forall_congr' fun _ => ⟨And.left, fun h => ⟨h, fun later c' document hlater => ?_⟩⟩
  rw [section2_permanentComponents hlater]
  exact h

/-- After an analysis the list falls short exactly for a partial operation with triggers. -/
theorem keepsComponents_write_iff {facts : ReaderFacts} {p written : HandoffContract}
    (hwrite : facts.write cfg p = some written) :
    KeepsComponents written ↔
      ¬ (written.reversibility = some .partiallyReversible ∧ facts.external ≠ []) := by
  rw [keepsComponents_iff_named]
  obtain ⟨classified, hclassified, hwrite⟩ := Option.bind_eq_some_iff.mp hwrite
  obtain rfl := Option.some.inj hwrite
  obtain ⟨reversibility, _, _, rfl⟩ := exists_of_writeReversibility _ hclassified
  dsimp only
  rcases reversibility with - | (- | - | - | -)
  · simp
  · simp
  · simp
  · rw [show AnalyzerTools.identifyPermanentComponents (some .partiallyReversible) _ _ _ _ = [] from
      rfl, named_nil_iff]
    simp
  · simp [named_of_permanent]

/-! ## The analysis -/

/-- Without a table no side effects are reported. -/
theorem hasPermanentSideEffects_of_unknown {facts : ReaderFacts} {p : HandoffContract}
    (hfacts : facts.Of cfg reader p) (htable : p.primaryTable = "") :
    facts.triggerAnalysis.hasPermanentSideEffects = false := by
  have hreply := hfacts.triggerResult
  have hanalysis := hfacts.triggerAnalysis
  rw [if_neg (not_not.mpr htable)] at hreply
  rw [← Option.some.inj hreply] at hanalysis
  rw [← Option.some.inj hanalysis]
  rfl

/-- The facts of a known table, with the triggers before their calls are estimated. -/
theorem ReaderFacts.Of.external_of_known {facts : ReaderFacts} {p : HandoffContract}
    (hfacts : facts.Of cfg reader p) (htable : p.primaryTable ≠ "") :
    detectTriggers reader p.primaryTable = some facts.triggerResult ∧
      ∃ external, AnalyzerTools.buildExternalTriggers facts.triggerResult = some external ∧
        AnalyzerTools.estimateApiFanout external facts.rows = some facts.external := by
  have hreply := hfacts.triggerResult
  have hexternal := hfacts.external
  rw [if_pos htable] at hreply hexternal
  obtain ⟨external, hbuilt, hfanout⟩ := Option.bind_eq_some_iff.mp hexternal
  exact ⟨hreply, external, hbuilt, hfanout⟩

theorem partialWithTriggers_iff {facts : ReaderFacts} {p written : HandoffContract}
    (hfacts : facts.Of cfg reader p) (hwrite : facts.write cfg p = some written) :
    PartialWithTriggers reader p ↔
      written.reversibility = some .partiallyReversible ∧ facts.external ≠ [] := by
  have hclass : written.reversibility = some .partiallyReversible ↔
      facts.triggerAnalysis.hasPermanentSideEffects = true ∧
        (p.operationType ∈ [OperationType.select, .insert] ∨
          p.operationType ∈ [OperationType.delete, .update] ∧ facts.hasSoftDelete = true) := by
    obtain ⟨classified, hclassified, hwrite⟩ := Option.bind_eq_some_iff.mp hwrite
    obtain rfl := Option.some.inj hwrite
    rw [writeReversibility_eq hclassified, Option.some_inj]
    exact analyzedClass_partial_iff
  have hsoft : p.primaryTable ≠ "" → p.operationType ∈ [OperationType.delete, .update] →
      checkSoftDelete reader p.primaryTable = some facts.hasSoftDelete := by
    intro htable hop
    have hsoft := hfacts.hasSoftDelete
    rwa [if_pos ⟨htable, hop⟩] at hsoft
  rw [hclass]
  constructor
  · rintro ⟨htable, hundoable, reply, analysis, external, hreply, hanalysis, heffects, hbuilt, hne⟩
    obtain ⟨hreply', external', hbuilt', hfanout⟩ := hfacts.external_of_known htable
    obtain rfl := Option.some.inj (hreply'.symm.trans hreply)
    obtain rfl := Option.some.inj (hbuilt'.symm.trans hbuilt)
    obtain rfl := Option.some.inj (hfacts.triggerAnalysis.symm.trans hanalysis)
    refine ⟨⟨heffects, hundoable.imp_right fun h => ⟨h.1, ?_⟩⟩, ?_⟩
    · exact Option.some.inj ((hsoft htable h.1).symm.trans h.2)
    · exact fun h => hne ((AnalyzerTools.estimateApiFanout_eq_nil_iff hfanout).mp h)
  · rintro ⟨⟨heffects, hundoable⟩, hne⟩
    have htable : p.primaryTable ≠ "" := fun htable => by
      rw [hasPermanentSideEffects_of_unknown hfacts htable] at heffects
      cases heffects
    obtain ⟨hreply, external, hbuilt, hfanout⟩ := hfacts.external_of_known htable
    refine ⟨htable, hundoable.imp_right fun h => ⟨h.1, ?_⟩, facts.triggerResult,
      facts.triggerAnalysis, external, hreply, hfacts.triggerAnalysis, heffects, hbuilt, ?_⟩
    · rw [hsoft htable h.1, h.2]
    · exact fun h => hne ((AnalyzerTools.estimateApiFanout_eq_nil_iff hfanout).mpr h)

/-- **The components name the triggers unless the operation is partial**: an analysis that is not
skipped leaves the list empty for such an operation, and it has triggers. -/
theorem keepsComponents_iff {reply : LlmReply} {now : Time} {c c' : HandoffContract}
    (h : analyze cfg reader reply now c = some c') :
    KeepsComponents c' ↔
      skips c = true ∧ KeepsComponents c ∨
        skips c = false ∧ ¬ PartialWithTriggers reader (parsed cfg c) := by
  cases hskips : skips c with
  | true =>
    rw [analyze_of_skips hskips] at h
    obtain rfl := Option.some.inj h
    simp
  | false =>
    obtain ⟨facts, written, entry, hfacts, hwrite, rfl⟩ := facts_of_analyze hskips h
    -- the summary and the provenance are other fields
    have hsame : ∀ (summary : Py.Json) (provenance : List ProvenanceEntry),
        KeepsComponents { written with
          intentSummary := summary, workflowProvenance := provenance } ↔
          KeepsComponents written := by
      intro summary provenance
      rw [keepsComponents_iff_named, keepsComponents_iff_named]
    rw [hsame, keepsComponents_write_iff hwrite, ← partialWithTriggers_iff hfacts hwrite]
    simp

/-! ## Two operations -/

/-- A trigger that calls a webhook. -/
def webhookTrigger : Py.Json :=
  .obj [("trigger_name", .str "notify_billing"), ("table_name", .str "orders"),
    ("event", .str "INSERT"), ("timing", .str "AFTER"), ("function_name", .str "notify_billing"),
    ("invokes_non_transactional", .bool true), ("non_transactional_extension", .str "pg_net")]

/-- A reader that knows the trigger. -/
def webhookReader : PostgresTools := fun tool _ =>
  if tool = "list_triggers" then
    .result (.obj [("triggers", .arr [webhookTrigger]),
      ("non_transactional_triggers", .arr [webhookTrigger]),
      ("has_permanent_side_effects", .bool true)])
  else .mcpCallError "down"

def orderContract (rawSql : String) : HandoffContract where
  operationId := "cg_1"
  tenantId := "demo_tenant"
  submittedBy := "agent"
  sourceType := .externalAgent
  submissionTimestamp := 0
  rawSql

/-- A `DELETE` that cannot be undone names the trigger. -/
theorem keepsComponents_iff_delete :
    ∃ c', analyze .ascii webhookReader none 0 (orderContract "DELETE FROM orders") = some c' ∧
      KeepsComponents c' := by
  have hreturns : (analyze .ascii webhookReader none 0
      (orderContract "DELETE FROM orders")).isSome = true := by decide
  obtain ⟨c', h⟩ := Option.isSome_iff_exists.mp hreturns
  refine ⟨c', h, (keepsComponents_iff h).mpr (.inr ⟨by decide, ?_⟩)⟩
  intro hpartial
  have hundoable := hpartial.undoable
  revert hundoable
  decide

/-- An `INSERT` with the trigger is partial, and lists nothing. -/
theorem insert_drops_trigger :
    ¬ ∀ (cfg : AnalyzerConfig) (reader : PostgresTools) (reply : LlmReply) (now : Time)
      (c c' : HandoffContract), analyze cfg reader reply now c = some c' → KeepsComponents c' := by
  intro hall
  have hreturns : (analyze .ascii webhookReader none 0
      (orderContract "INSERT INTO orders VALUES (1)")).map (fun c' =>
        (c'.reversibility, c'.permanentComponents, c'.externalTriggers.map (·.triggerName))) =
      some (some .partiallyReversible, [], ["notify_billing"]) := by decide
  obtain ⟨c', h, hfields⟩ := Option.map_eq_some_iff.mp hreturns
  simp only [Prod.mk.injEq] at hfields
  obtain ⟨hclass, hcomponents, htriggers⟩ := hfields
  have hnamed := ((hall _ _ _ _ _ _ h) (by rw [hclass]; decide)).1
  rw [hcomponents, named_nil_iff] at hnamed
  rw [hnamed] at htriggers
  cases htriggers

end AnalyzerAgent
