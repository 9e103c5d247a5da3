import ContraGate.ContractWrites
import ContraGate.Library.PyDict

/-!
# `POST /v1/workflows` (`start_workflow` in `orchestrator/main.py`)

The endpoint runs the intake on the manifest, answers with the id of the contract, and starts the
graph, whose own intake node runs on the same manifest. The two agree on the id only through the
key `operation_id`: without it each draws an id of its own, and the key that the endpoint writes
for a given approval id is read by neither.
-/

/-- The body of `POST /v1/workflows`. -/
structure StartWorkflowRequest where
  manifest : Py.Dict
  approvalId : Option String := none

namespace StartWorkflowRequest

/-- The manifest that the workflow runs on. -/
def boundManifest (body : StartWorkflowRequest) : Py.Dict :=
  match body.approvalId with
  | some id =>
    if id = "" then body.manifest else body.manifest.set "_override_operation_id" (.str id)
  | none => body.manifest

/-- The manifest names the operation, and no other approval id is asked for. -/
structure NamesOperation (body : StartWorkflowRequest) : Prop where
  named : (body.manifest.get "operation_id").truthy = true
  approval : ∀ id, body.approvalId = some id → body.manifest.get "operation_id" = .str id

theorem get_operation_id (body : StartWorkflowRequest) :
    body.boundManifest.get "operation_id" = body.manifest.get "operation_id" := by
  unfold boundManifest Py.Dict.get
  split
  · split
    · rfl
    · rw [Py.Dict.lookup_set, if_neg (by decide)]
  · rfl

end StartWorkflowRequest

/-- A workflow that the endpoint has started. -/
structure StartedWorkflow where
  /-- `operation_id` of the response. -/
  operationId : String
  /-- What the background task runs on. -/
  manifest : Py.Dict
  gateway : Gateway

namespace Orchestrator

/-- `start_workflow`; `none` when the intake raises. -/
def startWorkflow (cfg : PipelineConfig) (m : Memory) (body : StartWorkflowRequest)
    (generatedId : String) (now : Time) : Option StartedWorkflow :=
  (Gateway.submitWorkflow cfg body.boundManifest m generatedId now).map fun gateway =>
    { operationId := (gateway.mem.records m.nextRecord).approvalId
      manifest := body.boundManifest
      gateway }

end Orchestrator

/-- The id of the response is that of the run: of the contract that the graph carries, under which
its nodes find the record; and it is the approval id if one was given. -/
structure StartedWorkflow.Identifies (w : StartedWorkflow) (body : StartWorkflowRequest)
    (t : Gateway) : Prop where
  contract : (t.mem.contracts Gateway.pipelineContract).operationId = w.operationId
  found : (t.mem.store (t.mem.contracts Gateway.pipelineContract).operationId).isSome = true
  approval : ∀ id, body.approvalId = some id → w.operationId = id

/-! ## The id that an intake gives -/

/-- The intake takes the id of the manifest, or the one it has drawn. -/
theorem Intake.runIntake_operationId {cfg : IntakeConfig} {manifest : Py.Dict}
    {generatedId : String} {now : Time} {c : HandoffContract}
    (h : runIntake cfg manifest generatedId now = some c) :
    if (manifest.get "operation_id").truthy then manifest.get "operation_id" = .str c.operationId
    else c.operationId = generatedId := by
  obtain ⟨_, _, _, operationId, _, -, -, -, -, hid, -, rfl⟩ := runIntake_eq_some h
  unfold Py.Json.or at hid
  split at hid
  · rename_i hnamed
    rw [if_pos hnamed]
    cases hv : manifest.get "operation_id" with
    | str s =>
      rw [hv] at hid
      exact congrArg Py.Json.str (Option.some.inj hid)
    | _ =>
      rw [hv] at hid
      cases hid
  · rename_i hunnamed
    rw [if_neg hunnamed]
    exact (Option.some.inj hid).symm

namespace Gateway

variable {cfg : PipelineConfig} {approvalId : String} {manifest : Py.Dict} {s t : Gateway}
  {a : GatewayAction}

/-- The graph's contract comes from the intake node, and keeps its id. -/
theorem operationId_step (hwf : WellFormed approvalId s)
    (hstep : (machine cfg approvalId manifest).step s a = some t) (hbuilt : t.task.built = true) :
    (s.task.built = true ∧ (t.mem.contracts pipelineContract).operationId =
        (s.mem.contracts pipelineContract).operationId) ∨
      ∃ (id : String) (now : Time), a = .task (.generatedId id now) ∧
        Intake.runIntake cfg.toIntakeConfig manifest id now =
          some (t.mem.contracts pipelineContract) := by
  have hkept {m : Memory} (hm : s.mem.Kept m) : (m.contracts pipelineContract).operationId =
      (s.mem.contracts pipelineContract).operationId :=
    congrArg Identity.operationId (hm.identity _)
  cases a with
  | task input =>
    have hprotocol := (machine_step hwf hstep).2
    obtain ⟨o, ho, rfl⟩ := Option.map_eq_some_iff.mp (resumeTask_of_step hstep).1
    by_cases hintake : s.task = .intake
    · rw [hintake] at ho
      cases input with
      | generatedId id now =>
        rcases Graph.runTask_intake ho with hfailed | ⟨c, hc, hmem⟩
        · dsimp only at hbuilt
          rw [hfailed] at hbuilt
          cases hbuilt
        · exact .inr ⟨id, now, rfl, hc.trans (congrArg some hmem.symm)⟩
      | _ => simp [Graph.runTask] at ho
    · refine .inl ⟨(hprotocol.built hbuilt).resolve_right hintake, ?_⟩
      exact congrArg Identity.operationId ((Graph.runTask_frame ho).2.resolve_left hintake)
  | recordDecision d now =>
    obtain rfl := Option.some.inj hstep
    exact .inl ⟨hbuilt, hkept (s.mem.kept_decide approvalId d now)⟩
  | postDecision d now =>
    obtain rfl := Option.some.inj hstep
    by_cases hvalid : validDecision d = true
    · rw [if_pos hvalid] at hbuilt ⊢
      exact .inl ⟨hbuilt, hkept (s.mem.kept_decide approvalId d now)⟩
    · rw [if_neg hvalid] at hbuilt ⊢
      exact .inl ⟨hbuilt, rfl⟩
  | viewSubmission approve reason approverId now =>
    obtain rfl := Option.some.inj hstep
    by_cases hreason : 10 ≤ reason.length
    · rw [if_pos hreason] at hbuilt ⊢
      exact .inl ⟨hbuilt, hkept (s.mem.kept_decide approvalId _ now)⟩
    · rw [if_neg hreason] at hbuilt ⊢
      exact .inl ⟨hbuilt, rfl⟩
  | endpointStatus i now =>
    obtain ⟨status, -, rfl⟩ := Option.map_eq_some_iff.mp hstep
    exact .inl ⟨hbuilt, hkept (s.mem.kept_updateStatus approvalId status now)⟩

/-- What every id has that the intake node can give, the contract's id has along the run. -/
theorem operationId_exec {P : String → Prop} {actions : List GatewayAction}
    (hwf : WellFormed approvalId s) (hunbuilt : s.task.built = false)
    (hintake : ∀ (id : String) (now : Time) (c : HandoffContract),
      .task (.generatedId id now) ∈ actions →
      Intake.runIntake cfg.toIntakeConfig manifest id now = some c → P c.operationId)
    (hrun : (machine cfg approvalId manifest).exec s actions = some t)
    (hbuilt : t.task.built = true) :
    WellFormed approvalId t ∧ P (t.mem.contracts pipelineContract).operationId := by
  have hinvariant := (machine cfg approvalId manifest).exec_invariant
    (I := fun s => WellFormed approvalId s ∧
      (s.task.built = true → P (s.mem.contracts pipelineContract).operationId))
    (G := fun _ a => a ∈ actions)
    (fun s a t hs hmem hstep => by
      refine ⟨(machine_step hs.1 hstep).1, fun hbuilt => ?_⟩
      rcases operationId_step hs.1 hstep hbuilt with ⟨hbuilt', hsame⟩ | ⟨id, now, rfl, hc⟩
      · rw [hsame]
        exact hs.2 hbuilt'
      · exact hintake id now _ hmem hc)
    ⟨hwf, fun h => by rw [hunbuilt] at h; cases h⟩
    (Machine.guarded_of_mem _ (fun a ha _ => ha) s) hrun
  exact ⟨hinvariant.1, hinvariant.2 hbuilt⟩

end Gateway

/-! ## The response and the run -/

namespace Orchestrator

open Gateway

variable {cfg : PipelineConfig} {m : Memory} {body : StartWorkflowRequest} {generatedId : String}
  {now : Time} {w : StartedWorkflow}

/-- What the endpoint has started: the id of the response is that of its own intake. -/
theorem startWorkflow_spec (h : startWorkflow cfg m body generatedId now = some w) :
    w.manifest = body.boundManifest ∧ Started w.operationId w.gateway ∧
      ∃ c, Intake.runIntake cfg.toIntakeConfig body.boundManifest generatedId now = some c ∧
        c.operationId = w.operationId := by
  obtain ⟨gateway, hsubmit, rfl⟩ := Option.map_eq_some_iff.mp h
  obtain ⟨c, hc, rfl⟩ := Option.map_eq_some_iff.mp hsubmit
  have hfresh := (Intake.runIntake_fresh hc).1
  have hid : (Memory.records (WorkflowStore.create (m.modifyContract initialContract fun _ => c)
      initialContract body.boundManifest now) m.nextRecord).approvalId = c.operationId := by
    simp [WorkflowStore.create]
  refine ⟨rfl, ?_, c, hc, hid.symm⟩
  dsimp only
  rw [hid]
  refine ⟨⟨m.nextRecord, ?_, ?_, ?_⟩, ?_, rfl, rfl, rfl⟩
  · simp [WorkflowStore.create]
  · simp [WorkflowStore.create]
  · simp [WorkflowStore.create]
  · simpa [WorkflowStore.create] using hfresh

/-- **The id of the response identifies the run exactly when the manifest names the operation and
no other approval id is given.** If so, then in every state of every run from the intake node on;
if not, then in none, as soon as the intake node has drawn another id than the endpoint. -/
theorem startWorkflow_identifies_iff {actions : List GatewayAction} {t : Gateway}
    (hstart : startWorkflow cfg m body generatedId now = some w)
    (hrun : (machine cfg w.operationId w.manifest).exec w.gateway actions = some t)
    (hbuilt : t.task.built = true) :
    (body.NamesOperation → w.Identifies body t) ∧
      ((∀ id now, .task (.generatedId id now) ∈ actions → id ≠ w.operationId) →
        (w.Identifies body t ↔ body.NamesOperation)) := by
  obtain ⟨hmanifest, hstarted, c, hc, hresponse⟩ := startWorkflow_spec hstart
  have hunbuilt : w.gateway.task.built = false := by rw [hstarted.task]; rfl
  have hgiven := Intake.runIntake_operationId hc
  rw [body.get_operation_id, hresponse] at hgiven
  rw [hmanifest] at hrun
  have hnames : body.NamesOperation → w.Identifies body t := by
    intro hnames
    rw [if_pos hnames.named] at hgiven
    -- every intake on this manifest gives the id that it names
    have hintake (id : String) (now' : Time) (c' : HandoffContract)
        (hc' : Intake.runIntake cfg.toIntakeConfig body.boundManifest id now' = some c') :
        c'.operationId = w.operationId := by
      have hgiven' := Intake.runIntake_operationId hc'
      rw [body.get_operation_id, if_pos hnames.named, hgiven] at hgiven'
      exact (Py.Json.str.inj hgiven').symm
    obtain ⟨hwf, hsame⟩ := operationId_exec (P := fun id => id = w.operationId)
      hstarted.wellFormed hunbuilt (fun id now' c' _ hc' => hintake id now' c' hc') hrun hbuilt
    obtain ⟨r, hr⟩ := hwf.record
    refine ⟨hsame, by rw [hsame, hr]; rfl, fun id hid => ?_⟩
    exact Py.Json.str.inj (hgiven.symm.trans (hnames.approval id hid))
  refine ⟨hnames, fun hdraws => ⟨fun hidentifies => ?_, hnames⟩⟩
  by_cases hnamed : (body.manifest.get "operation_id").truthy = true
  · rw [if_pos hnamed] at hgiven
    refine ⟨hnamed, fun id hid => ?_⟩
    rw [hgiven, hidentifies.approval id hid]
  · -- the contract has an id that the intake node has drawn
    have hintake (id : String) (now' : Time) (c' : HandoffContract)
        (hmem : .task (.generatedId id now') ∈ actions)
        (hc' : Intake.runIntake cfg.toIntakeConfig body.boundManifest id now' = some c') :
        c'.operationId ≠ w.operationId := by
      have hgiven' := Intake.runIntake_operationId hc'
      rw [body.get_operation_id, if_neg hnamed] at hgiven'
      rw [hgiven']
      exact hdraws id now' hmem
    obtain ⟨-, hother⟩ := operationId_exec (P := fun id => id ≠ w.operationId)
      hstarted.wellFormed hunbuilt hintake hrun hbuilt
    exact absurd hidentifies.contract hother

/-- A manifest that names its operation, submitted for that approval id. -/
def namedRequest : StartWorkflowRequest where
  manifest := [("sql", .str "DELETE FROM t"), ("operation_id", .str "cg_1")]
  approvalId := some "cg_1"

/-- A manifest with nothing but a statement. -/
def bareRequest : StartWorkflowRequest where
  manifest := [("sql", .str "DELETE FROM t")]

theorem startWorkflow_identifies_iff_named :
    ∃ w t, startWorkflow sampleConfig (.blank sampleContract) namedRequest "cg_2" 0 = some w ∧
      (machine sampleConfig w.operationId w.manifest).exec w.gateway
        [.task (.resume 1), .task (.generatedId "cg_3" 1)] = some t ∧
      w.Identifies namedRequest t := by
  obtain ⟨w, t, hstart, hrun, hbuilt⟩ : ∃ w t,
      startWorkflow sampleConfig (.blank sampleContract) namedRequest "cg_2" 0 = some w ∧
      (machine sampleConfig w.operationId w.manifest).exec w.gateway
        [.task (.resume 1), .task (.generatedId "cg_3" 1)] = some t ∧
      t.task.built = true := ⟨_, _, rfl, rfl, rfl⟩
  have hnames : namedRequest.NamesOperation :=
    ⟨rfl, fun id hid => by rw [← Option.some.inj hid]; rfl⟩
  exact ⟨w, t, hstart, hrun, (startWorkflow_identifies_iff hstart hrun hbuilt).1 hnames⟩

/-- The response names `cg_1`, and the graph works on `cg_2`. -/
theorem startWorkflow_detached :
    ¬ ∀ (body : StartWorkflowRequest) (generatedId : String) (w : StartedWorkflow)
      (actions : List GatewayAction) (t : Gateway),
      startWorkflow sampleConfig (.blank sampleContract) body generatedId 0 = some w →
      (machine sampleConfig w.operationId w.manifest).exec w.gateway actions = some t →
      t.task.built = true → w.Identifies body t := by
  intro hclaim
  obtain ⟨w, t, hstart, hrun, hbuilt, hresponse, hcontract⟩ : ∃ w t,
      startWorkflow sampleConfig (.blank sampleContract) bareRequest "cg_1" 0 = some w ∧
      (machine sampleConfig w.operationId w.manifest).exec w.gateway
        [.task (.resume 1), .task (.generatedId "cg_2" 1)] = some t ∧
      t.task.built = true ∧ w.operationId = "cg_1" ∧
      (t.mem.contracts pipelineContract).operationId = "cg_2" := ⟨_, _, rfl, rfl, rfl, rfl, rfl⟩
  have hidentifies := hclaim bareRequest "cg_1" w _ t hstart hrun hbuilt
  rw [hidentifies.contract, hresponse] at hcontract
  exact absurd hcontract (by decide)

end Orchestrator
