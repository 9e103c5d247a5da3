import ContraGate.Restart

/-!
# Loading what was persisted

The workflow runs next to the row of its id. `_persist` may be called at any time: it computes the
columns from the record as it is then, and the upsert takes effect later, in any order with the
others. When the last thing that took effect is the record's current state, loading the table
gives the record back.
-/

/-- A workflow and the row of its id. -/
structure PersistedGateway where
  gateway : Gateway
  /-- The upserts that have been sent and have not taken effect. -/
  inFlight : List WorkflowColumns
  row : Option WorkflowColumns

/-- One step. -/
inductive PersistedAction
  | gateway (a : GatewayAction)
  /-- `_persist` computes the arguments of the upsert. -/
  | persist
  /-- An upsert reaches the database. -/
  | land (i : ℕ)

namespace PersistedGateway

variable (cfg : PipelineConfig) (approvalId : String) (manifest : Py.Dict)

def machine : Machine PersistedGateway PersistedAction where
  step s
    | .gateway a =>
      ((Gateway.machine cfg approvalId manifest).step s.gateway a).map fun gateway =>
        { s with gateway }
    | .persist =>
      (s.gateway.mem.store approvalId).map fun r =>
        { s with inFlight := s.inFlight ++ [.ofRecord s.gateway.mem r] }
    | .land i =>
      (s.inFlight[i]?).map fun row =>
        { s with
          inFlight := s.inFlight.eraseIdx i
          -- a refused upsert is logged
          row := if row.accepted then some (WorkflowColumns.upsert s.row row) else s.row }

/-- A workflow that has just been submitted, under an id that is new to the database. -/
def initial (gateway : Gateway) : PersistedGateway where
  gateway := gateway
  inFlight := []
  row := none

/-- The steps whose inputs are well-typed and finite: see `Gateway.wellTyped`. -/
def wellTyped (s : PersistedGateway) : PersistedAction → Bool
  | .gateway a => s.gateway.wellTyped a
  | .persist | .land _ => true

/-- The row is what `_persist` writes for the record as it is now; the upsert does not touch the
`created_at` of a row that exists. -/
def Persisted (s : PersistedGateway) (r : Ref) (row : WorkflowColumns) : Prop :=
  s.row = some row ∧
    row = { WorkflowColumns.ofRecord s.gateway.mem r with createdAt := row.createdAt }

variable {cfg approvalId manifest} {toFloat : ℚ → ℚ} {created : Time} {s t : PersistedGateway}
  {a : PersistedAction}

/-- The workflow can be loaded again, and all columns have the record's `created_at`. -/
structure Restartable (approvalId : String) (created : Time) (s : PersistedGateway) : Prop where
  wellFormed : s.gateway.WellFormed approvalId
  contracts : s.gateway.Holds approvalId HandoffContract.Reloadable
  record : s.gateway.RecordHeld approvalId created
  inFlight : ∀ row ∈ s.inFlight, row.createdAt = created
  row : ∀ row ∈ s.row, row.createdAt = created

theorem Restartable.step (hfeedback : cfg.feedback = Audit.triggerFeedbackLoopStub toFloat)
    (h : Restartable approvalId created s) (hguard : s.wellTyped a = true)
    (hstep : (machine cfg approvalId manifest).step s a = some t) :
    Restartable approvalId created t := by
  cases a with
  | gateway a =>
    obtain ⟨g, hg, rfl⟩ := Option.map_eq_some_iff.mp hstep
    have hcontracts := h.contracts.step h.wellFormed
      (fun _ _ _ hc => HandoffContract.Reloadable.of_intake hc)
      (fun _ _ _ hc hw => hw.reloadable hfeedback hguard h.contracts.stored hc) hg
    exact
      { wellFormed := (Gateway.machine_step h.wellFormed hg).1
        contracts := hcontracts
        record := h.record.step h.wellFormed hg
        inFlight := h.inFlight
        row := h.row }
  | persist =>
    obtain ⟨r, hr, rfl⟩ := Option.map_eq_some_iff.mp hstep
    refine { h with inFlight := fun row hrow => ?_ }
    rcases List.mem_append.mp hrow with hold | hnew
    · exact h.inFlight row hold
    · rw [List.mem_singleton.mp hnew]
      exact (h.record.record r hr).createdAt
  | land i =>
    obtain ⟨row, hi, rfl⟩ := Option.map_eq_some_iff.mp hstep
    have hcreated : row.createdAt = created := h.inFlight row (List.mem_of_getElem? hi)
    refine { h with
      inFlight := fun row' hrow' => h.inFlight row' (List.mem_of_mem_eraseIdx hrow')
      row := ?_ }
    dsimp only
    split
    · rintro row' ⟨⟩
      unfold WorkflowColumns.upsert
      split
      · exact hcreated
      · rename_i old hold
        exact h.row old hold
    · exact h.row

/-- A manifest without entries has no SQL. -/
theorem manifest_ne_nil {m : Memory} {generatedId : String} {now : Time} {g : Gateway}
    (hsubmit : Gateway.submitWorkflow cfg manifest m generatedId now = some g) :
    manifest ≠ [] := by
  rintro rfl
  obtain ⟨c, hc, -⟩ := Option.map_eq_some_iff.mp hsubmit
  cases hc

/-- A submitted workflow. -/
theorem restartable_of_submit {m : Memory} {generatedId : String} {now : Time} {g : Gateway}
    (hsubmit : Gateway.submitWorkflow cfg manifest m generatedId now = some g)
    (hid : (g.mem.contracts Gateway.initialContract).operationId = approvalId) :
    Restartable approvalId now (initial g) := by
  have hmanifest := manifest_ne_nil hsubmit
  obtain ⟨c, hc, rfl⟩ := Option.map_eq_some_iff.mp hsubmit
  obtain rfl : c.operationId = approvalId := by
    simpa [WorkflowStore.create] using hid
  have hstarted : Gateway.Started c.operationId (initial
      { mem := WorkflowStore.create (m.modifyContract Gateway.initialContract fun _ => c)
          Gateway.initialContract manifest now
        task := .statusRunning, endpoints := [], log := [] }).gateway := by
    refine ⟨⟨m.nextRecord, ?_, ?_, ?_⟩, ?_, rfl, rfl, rfl⟩
    iterate 3 simp [initial, WorkflowStore.create]
    simpa [initial, WorkflowStore.create] using (Intake.runIntake_fresh hc).1
  constructor
  · exact hstarted.wellFormed
  · -- the record points to the contract that the intake has built
    constructor
    · intro c' hc'
      have hstored : c' = c := by
        simpa [initial, Memory.contract?, Memory.record?, WorkflowStore.create] using hc'.symm
      exact hstored ▸ .of_intake hc
    · rintro ⟨⟩
  · constructor
    · intro r hr
      obtain rfl : m.nextRecord = r := by
        simpa [initial, WorkflowStore.create] using hr
      constructor <;> simp [initial, WorkflowStore.create, hmanifest]
    · rintro _ ⟨⟩
  · rintro _ ⟨⟩
  · rintro _ ⟨⟩

/-- A persisted row is that of the record as it is now. -/
theorem Persisted.eq_ofRecord {r : Ref} {row : WorkflowColumns} (h : Restartable approvalId created s)
    (hr : s.gateway.mem.store approvalId = some r) (hrow : s.Persisted r row) :
    row = .ofRecord s.gateway.mem r := by
  have hcreated : row.createdAt = (WorkflowColumns.ofRecord s.gateway.mem r).createdAt :=
    (h.row row hrow.1).trans (h.record.record r hr).createdAt.symm
  have heq := hrow.2
  rw [hcreated] at heq
  exact heq

/-- **Restart round trip.** In every run of the graph and the decision endpoints whose inputs are
well-typed and finite, whenever the row of the id is the record's current state, loading a table
with that row gives the record back: every field of it (but for the identity of the contract
object), and the contract. -/
theorem restart_round_trip (lax : Py.Lax) (loadTime : Time)
    (hfeedback : cfg.feedback = Audit.triggerFeedbackLoopStub toFloat) {m : Memory}
    {generatedId : String} {now : Time} {g : Gateway}
    (hsubmit : Gateway.submitWorkflow cfg manifest m generatedId now = some g)
    (hid : (g.mem.contracts Gateway.initialContract).operationId = approvalId)
    {actions : List PersistedAction}
    (hguard : (machine cfg approvalId manifest).Guarded (fun s a => s.wellTyped a = true)
      (initial g) actions)
    (hrun : (machine cfg approvalId manifest).exec (initial g) actions = some t)
    {r : Ref} (hr : t.gateway.mem.store approvalId = some r) {row : WorkflowColumns}
    (hrow : t.Persisted r row) {rows : List WorkflowColumns} (hrows : row ∈ rows)
    (hids : (rows.map (·.operationId)).Nodup) (empty : Memory) :
    ∃ q, WorkflowStore.Loaded (WorkflowStore.loadFromDb lax loadTime empty rows) approvalId
      (t.gateway.mem.records r) (t.gateway.mem.contracts (t.gateway.mem.records r).contract) q := by
  have h : Restartable approvalId now t := (machine cfg approvalId manifest).exec_invariant
    (fun s a t hs hG hstep => hs.step hfeedback hG hstep) (restartable_of_submit hsubmit hid) hguard
    hrun
  have hkept := h.record.record r hr
  obtain ⟨htyped, hreason⟩ := h.contracts.stored _ (Memory.contract?_of_store hr)
  have hoperation : row.operationId = approvalId := by
    rw [Persisted.eq_ofRecord h hr hrow]
    exact hkept.operationId
  rw [← hoperation]
  refine WorkflowStore.loaded_of_mem hrows hids fun m' => ?_
  rw [Persisted.eq_ofRecord h hr hrow]
  exact WorkflowStore.loaded_ofRecord htyped hreason
    (hkept.approvalId.trans hkept.operationId.symm) hkept.toolCallManifest hkept.executionResult m'

/-- `Gateway.sampleConfig` with the feedback loop of AUDIT. -/
def sampleConfig : PipelineConfig :=
  { Gateway.sampleConfig with feedback := Audit.triggerFeedbackLoopStub id }

/-- A `REJECT` while HUMAN_REVIEW polls. -/
def rejecting : List GatewayAction :=
  Gateway.toReview ++
    [.task (.review (.notified (.result .null) 2)), .task (.review (.resume 2)),
      .task (.review (.resume 2)), .task (.review (.resume 2)), .task (.review (.resume 2)),
      .postDecision (sampleDecision "REJECT") 3]

/-- The same, and the upsert that follows. -/
def rejected : List PersistedAction := rejecting.map .gateway ++ [.persist, .land 0]

theorem restart_round_trip_rejected :
    ∃ g t row, Gateway.submitWorkflow sampleConfig sampleManifest (.blank sampleContract) "cg_2" 0 =
        some g ∧
      (machine sampleConfig "cg_1" sampleManifest).exec (initial g) rejected = some t ∧
      t.Persisted 0 row ∧ (t.gateway.mem.contract? "cg_1").map (·.humanDecision) =
        some (some "REJECT") ∧
      ∃ q, WorkflowStore.Loaded
        (WorkflowStore.loadFromDb .strict 4 (.blank sampleContract) [row]) "cg_1"
        (t.gateway.mem.records 0) (t.gateway.mem.contracts (t.gateway.mem.records 0).contract) q := by
  have hreached : ∃ g t,
      Gateway.submitWorkflow sampleConfig sampleManifest (.blank sampleContract) "cg_2" 0 = some g ∧
      (g.mem.contracts Gateway.initialContract).operationId = "cg_1" ∧
      (machine sampleConfig "cg_1" sampleManifest).guardedBy
        (fun s a => decide (s.wellTyped a = true)) (initial g) rejected = true ∧
      (machine sampleConfig "cg_1" sampleManifest).exec (initial g) rejected = some t ∧
      t.row = some (.ofRecord t.gateway.mem 0) ∧ t.gateway.mem.store "cg_1" = some 0 ∧
      (t.gateway.mem.contract? "cg_1").map (·.humanDecision) = some (some "REJECT") :=
    ⟨_, _, rfl, rfl, rfl, rfl, rfl, rfl, rfl⟩
  obtain ⟨g, t, hsubmit, hid, hguard, hrun, hrow, hr, hdecision⟩ := hreached
  have hfeedback : sampleConfig.feedback = Audit.triggerFeedbackLoopStub id := rfl
  have hpersisted : t.Persisted 0 (.ofRecord t.gateway.mem 0) := ⟨hrow, rfl⟩
  exact ⟨g, t, _, hsubmit, hrun, hpersisted, hdecision,
    restart_round_trip .strict 4 hfeedback hsubmit hid (Machine.guarded_of_guardedBy _ hguard) hrun
      hr hpersisted (List.mem_singleton_self _) (List.nodup_singleton _) _⟩

end PersistedGateway
