import ContraGate.Analyzer
import ContraGate.ContractWrites
import ContraGate.DecisionAgreement

/-!
# The rounds after a MODIFY

When HUMAN_REVIEW routes `modified` the analysis starts again, and `reanalysis_count` and
`stale_fields` are to tell it so. The schema has the two fields and the guards read them, but no
node, endpoint or agent writes them: along every run they keep the values of a new contract. So
the bookkeeping is right as long as no round is repeated, and wrong in every repeated one.
-/

/-- The fields of the bookkeeping are those of a new contract. -/
structure HandoffContract.NeverRepeated (c : HandoffContract) : Prop where
  reanalysisCount : c.reanalysisCount = 0
  staleFields : c.staleFields = []

/-! ## Nothing writes the fields -/

theorem RiskGate.applyPolicyResult_toProvenance {cost : Py.Float} {policyResult : Py.Json}
    {now : Time} {c c' : HandoffContract}
    (h : RiskGate.applyPolicyResult cost policyResult now c = some c') :
    c'.reanalysisCount = c.reanalysisCount ∧ c'.staleFields = c.staleFields := by
  simp only [RiskGate.applyPolicyResult, Option.bind_eq_bind, Option.bind_eq_some_iff] at h
  obtain ⟨_, _, _, _, h⟩ := h
  obtain rfl := Option.some.inj h
  dsimp only [HandoffContract.addProvenance]
  split_ifs <;> exact ⟨rfl, rfl⟩

/-- No write to a contract changes the fields of the bookkeeping. -/
theorem ContractWrite.bookkeeping {cfg : PipelineConfig} {manifest : Py.Dict}
    {stored : Option HandoffContract} {t : TaskAt} {a : GatewayAction} {c c' : HandoffContract}
    (h : ContractWrite cfg manifest stored t a c c') :
    c'.reanalysisCount = c.reanalysisCount ∧ c'.staleFields = c.staleFields := by
  cases h with
  | policy ht happly | noPolicy ht happly => exact RiskGate.applyPolicyResult_toProvenance happly
  | agent ht hallowed =>
    rename_i node write
    cases write <;> exact ⟨rfl, rfl⟩
  | update hf =>
    unfold WorkflowStore.merged
    split <;> exact ⟨rfl, rfl⟩
  | audited ht =>
    unfold Graph.finishAudit
    dsimp only
    split <;> exact ⟨rfl, rfl⟩
  | _ => exact ⟨rfl, rfl⟩

theorem Intake.runIntake_neverRepeated {cfg : IntakeConfig} {manifest : Py.Dict}
    {generatedId : String} {now : Time} {c : HandoffContract}
    (h : Intake.runIntake cfg manifest generatedId now = some c) : c.NeverRepeated := by
  obtain ⟨_, _, _, _, _, _, _, _, _, _, _, rfl⟩ := Intake.runIntake_eq_some h
  exact ⟨rfl, rfl⟩

namespace Gateway

variable {cfg : PipelineConfig} {approvalId : String} {manifest : Py.Dict} {s t : Gateway}
  {a : GatewayAction}

/-- The pipeline's contract keeps the fields of a new one, in every step. -/
theorem neverRepeated_step (hwf : WellFormed approvalId s)
    (h : s.task.built = true → (s.mem.contracts pipelineContract).NeverRepeated)
    (hstep : (machine cfg approvalId manifest).step s a = some t) (hbuilt : t.task.built = true) :
    (t.mem.contracts pipelineContract).NeverRepeated := by
  rcases built_step hwf hstep hbuilt with hbuilt' | ⟨id, now, c, hc, hown⟩
  · have hbefore := h hbuilt'
    cases (machine_memory hwf hstep).1 with
    | same hsame => exact hsame ▸ hbefore
    | intake ht ha hc hsame =>
      rw [hsame, Function.update_self]
      exact Intake.runIntake_neverRepeated hc
    | write hx hw hsame =>
      rename_i x c'
      rw [hsame]
      by_cases hown : pipelineContract = x
      · subst hown
        obtain ⟨hcount, hstale⟩ := hw.bookkeeping
        rw [Function.update_self]
        exact ⟨hcount.trans hbefore.reanalysisCount, hstale.trans hbefore.staleFields⟩
      · rw [Function.update_of_ne hown]
        exact hbefore
  · rw [hown]
    exact Intake.runIntake_neverRepeated hc

/-! ## The bookkeeping -/

/-- The step takes the edge `modified` back to the analysis. -/
def repeatsAnalysis (s : Gateway) (a : GatewayAction) : Bool :=
  match s.task, a with
  | .routeHumanReview, .task (.resume _) =>
    Guards.routeFromHumanReview (s.mem.contracts pipelineContract) = .modified
  | _, _ => false

/-- The step takes the edge `full_pipeline` to the first analysis. -/
def startsAnalysis (s : Gateway) (a : GatewayAction) : Bool :=
  match s.task, a with
  | .routeRiskGate, .task (.resume _) =>
    Guards.routeFromRiskGate (s.mem.contracts pipelineContract) = .fullPipeline
  | _, _ => false

/-- How many decisions of a log are accepted MODIFYs. -/
def modifyCount (log : List Event) : ℕ :=
  log.countP fun e =>
    match e with
    | .decided d (some _) => d.decision = "MODIFY"
    | _ => false

/-- The contract that goes into a repeated analysis. -/
structure CountsRound (s : Gateway) : Prop where
  reanalysisCount :
    (s.mem.contracts pipelineContract).reanalysisCount = modifyCount s.log
  staleFields : (s.mem.contracts pipelineContract).staleFields ≠ []
  selective :
    AnalyzerAgent.needsSelectiveReanalysis (s.mem.contracts pipelineContract) = true

/-- An analysis that the step begins is a selective one exactly if it is not the first. -/
structure Bookkept (s : Gateway) (a : GatewayAction) : Prop where
  repeated : s.repeatsAnalysis a = true → s.CountsRound
  first : s.startsAnalysis a = true →
    AnalyzerAgent.needsSelectiveReanalysis (s.mem.contracts pipelineContract) = false

theorem built_of_repeatsAnalysis (h : s.repeatsAnalysis a = true) : s.task.built = true := by
  unfold repeatsAnalysis at h
  split at h
  · rename_i htask
    rw [htask]
    rfl
  · cases h

theorem built_of_startsAnalysis (h : s.startsAnalysis a = true) : s.task.built = true := by
  unfold startsAnalysis at h
  split at h
  · rename_i htask
    rw [htask]
    rfl
  · cases h

/-- With the fields of a new contract a first round is told right, and a repeated one wrong. -/
theorem bookkept_iff
    (h : s.task.built = true → (s.mem.contracts pipelineContract).NeverRepeated) :
    Bookkept s a ↔ s.repeatsAnalysis a = false := by
  constructor
  · intro hkept
    by_contra hrepeats
    have hrepeats := eq_true_of_ne_false hrepeats
    exact (hkept.repeated hrepeats).staleFields (h (built_of_repeatsAnalysis hrepeats)).staleFields
  · intro hfirst
    refine ⟨fun hrepeats => ?_, fun hstarts => ?_⟩
    · rw [hfirst] at hrepeats
      cases hrepeats
    · have hcount := (h (built_of_startsAnalysis hstarts)).reanalysisCount
      unfold AnalyzerAgent.needsSelectiveReanalysis
      rw [hcount]
      rfl

/-- **The bookkeeping is right along a run exactly if no step of it takes the edge `modified`.** -/
theorem bookkeeping_iff (h : Started approvalId s) (actions : List GatewayAction) :
    (machine cfg approvalId manifest).Guarded Bookkept s actions ↔
      (machine cfg approvalId manifest).Guarded (fun s a => s.repeatsAnalysis a = false) s
        actions := by
  refine (machine cfg approvalId manifest).guarded_congr
    (I := fun s => WellFormed approvalId s ∧
      (s.task.built = true → (s.mem.contracts pipelineContract).NeverRepeated))
    (fun s a t hs hstep => ?_) (fun s a hs => bookkept_iff hs.2) ⟨h.wellFormed, ?_⟩ actions
  · exact ⟨(machine_step hs.1 hstep).1, neverRepeated_step hs.1 hs.2 hstep⟩
  · intro hbuilt
    rw [h.task] at hbuilt
    cases hbuilt

/-- A review that ends with an APPROVE repeats nothing. -/
theorem bookkeeping_iff_approved :
    (machine sampleConfig "cg_1" sampleManifest).Guarded Bookkept sample approvedReview :=
  (bookkeeping_iff sample_started approvedReview).mpr (Machine.guarded_of_guardedBy _ rfl)

/-- After a MODIFY the analysis starts again with the count at zero and nothing stale. -/
theorem modify_not_counted :
    ¬ ∀ actions : List GatewayAction,
      (machine sampleConfig "cg_1" sampleManifest).Guarded Bookkept sample actions := by
  intro hall
  have hrun : ∃ t, (machine sampleConfig "cg_1" sampleManifest).exec sample
      (modifiedThenTimedOut.take 18) = some t ∧ t.repeatsAnalysis (.task (.resume 3)) = true ∧
      (t.mem.contracts pipelineContract).staleFields = [] := ⟨_, rfl, rfl, rfl⟩
  obtain ⟨t, hrun, hrepeats, hstale⟩ := hrun
  have hguard := (machine sampleConfig "cg_1" sampleManifest).guarded_of_append
    (hall (modifiedThenTimedOut.take 18 ++ [.task (.resume 3)])) hrun
  exact (hguard.1.repeated hrepeats).staleFields hstale

end Gateway
