import ContraGate.GraphTheorems

/-!
# What a step of the task writes to

A stretch of the background task, and every decision, writes to the record of one approval id and to
one contract, the pipeline's own or the stored one, and to nothing else (`Memory.Touches`).
-/

namespace Memory

/-- From `m` to `m'`, nothing has changed but the record of the id and one contract. -/
structure Touches (approvalId : String) (contract : Ref) (m m' : Memory) : Prop where
  store : m'.store = m.store
  nextRecord : m'.nextRecord = m.nextRecord
  contracts : ∀ c, c ≠ contract → m'.contracts c = m.contracts c
  records : ∀ r, m.store approvalId ≠ some r → m'.records r = m.records r
  stored : ∀ r, (m'.records r).contract = (m.records r).contract ∨
    (m'.records r).contract = contract

variable {m m' m'' : Memory} {id : String} {c r : Ref} {now : Time}

theorem Touches.refl (id : String) (c : Ref) (m : Memory) : Touches id c m m :=
  ⟨rfl, rfl, fun _ _ => rfl, fun _ _ => rfl, fun _ => .inl rfl⟩

theorem Touches.trans (h : Touches id c m m') (h' : Touches id c m' m'') : Touches id c m m'' where
  store := h'.store.trans h.store
  nextRecord := h'.nextRecord.trans h.nextRecord
  contracts d hd := (h'.contracts d hd).trans (h.contracts d hd)
  records q hq := (h'.records q (by rwa [h.store])).trans (h.records q hq)
  stored q := by
    rcases h'.stored q with heq | heq
    · rw [heq]
      exact h.stored q
    · exact .inr heq

theorem touches_modifyContract (m : Memory) (id : String) (c : Ref)
    (f : HandoffContract → HandoffContract) : Touches id c m (m.modifyContract c f) :=
  ⟨rfl, rfl, fun _ hd => m.modifyContract_of_ne f hd, fun _ _ => rfl, fun _ => .inl rfl⟩

theorem touches_modifyRecord (h : m.store id = some r) {f : WorkflowRecord → WorkflowRecord}
    (hf : ∀ record, (f record).contract = record.contract ∨ (f record).contract = c) :
    Touches id c m (m.modifyRecord r f) where
  store := rfl
  nextRecord := rfl
  contracts _ _ := rfl
  records q hq := m.modifyRecord_of_ne f fun heq => hq (by rw [h, heq])
  stored q := by
    by_cases hq : q = r
    · subst hq
      rw [modifyRecord_self]
      exact hf _
    · rw [m.modifyRecord_of_ne f hq]
      exact .inl rfl

/-- A contract is changed, and then the record. -/
theorem touches_modify (h : m.store id = some r) (f : HandoffContract → HandoffContract)
    {g : WorkflowRecord → WorkflowRecord}
    (hg : ∀ record, (g record).contract = record.contract ∨ (g record).contract = c) :
    Touches id c m ((m.modifyContract c f).modifyRecord r g) :=
  (m.touches_modifyContract id c f).trans (touches_modifyRecord (m := m.modifyContract c f) h hg)

theorem touches_updateStatus (m : Memory) (id : String) (c : Ref) (status : WorkflowStatus)
    (now : Time) : Touches id c m (WorkflowStore.updateStatus m id status now) := by
  cases h : m.store id with
  | none =>
    rw [WorkflowStore.updateStatus, h]
    exact .refl id c m
  | some r =>
    rw [WorkflowStore.updateStatus_eq h]
    exact touches_modifyRecord h fun _ => .inl rfl

theorem touches_setExecutionResult (m : Memory) (id : String) (c : Ref) (result : Py.Dict)
    (now : Time) : Touches id c m (WorkflowStore.setExecutionResult m id result now) := by
  cases h : m.store id with
  | none =>
    rw [WorkflowStore.setExecutionResult, h]
    exact .refl id c m
  | some r =>
    rw [WorkflowStore.setExecutionResult_eq h]
    exact touches_modifyRecord h fun _ => .inl rfl

theorem touches_updateContract (m : Memory) (id : String) (c : Ref) (now : Time) :
    Touches id c m (WorkflowStore.updateContract m id c now) := by
  cases h : m.store id with
  | none =>
    rw [WorkflowStore.updateContract, h]
    exact .refl id c m
  | some r =>
    rw [WorkflowStore.updateContract_eq h]
    apply touches_modify h
    exact fun _ => .inr rfl

/-- A decision writes to the stored contract. -/
theorem touches_decide (h : m.store id = some r) (d : Decision) (now : Time) :
    Touches id (m.records r).contract m (WorkflowStore.decide m id d now).1 := by
  unfold WorkflowStore.decide
  by_cases hpending : (m.contracts (m.records r).contract).approvalState = .pending
  · rw [WorkflowStore.recordDecision_of_pending h hpending]
    dsimp only
    apply touches_modify h
    exact fun _ => .inl rfl
  · rw [WorkflowStore.recordDecision_of_decided (contract?_of_store h) hpending]
    exact .refl id _ m

end Memory

namespace Graph

variable {cfg : PipelineConfig} {approvalId : String} {manifest : Py.Dict} {contract : Ref}
  {m : Memory} {t : TaskAt} {input : TaskInput}

theorem runExecution_touches {cfg : ExecutionConfig} {pc : ExecutionAt} {input : ExecutionInput}
    {o : Resumed ExecutionAt} (hid : (m.contracts contract).operationId = approvalId)
    (h : Execution.runExecution cfg contract m pc input = some o) :
    m.Touches approvalId contract o.mem := by
  unfold Execution.runExecution at h
  split at h
  case h_3 =>
    obtain rfl := Option.some.inj h
    unfold Execution.checkAndCall
    dsimp only
    split
    · dsimp only
      apply Memory.touches_modifyContract
    · split
      · exact .refl _ _ m
      · dsimp only
        apply Memory.touches_modifyContract
  case h_4 | h_5 | h_8 =>
    obtain rfl := Option.some.inj h
    dsimp only
    apply Memory.touches_modifyContract
  case h_7 =>
    obtain rfl := Option.some.inj h
    dsimp only
    rw [hid]
    exact m.touches_setExecutionResult approvalId contract _ _
  case h_9 => cases h
  all_goals
    obtain rfl := Option.some.inj h
    exact .refl _ _ m

theorem runHumanReview_touches {pc : ReviewPc} {input : ReviewInput} {o : Resumed ReviewPc}
    (hid : (m.contracts contract).operationId = approvalId)
    (h : HumanReview.runHumanReview contract m pc input = some o) :
    m.Touches approvalId contract o.mem := by
  unfold HumanReview.runHumanReview at h
  dsimp only at h
  rw [hid] at h
  split at h
  -- after the notification, the re-entry resets the contract
  case h_2 =>
    split at h <;> obtain rfl := Option.some.inj h
    · dsimp only
      rw [Memory.modifyContract_twice]
      apply Memory.touches_modifyContract
    · dsimp only
      apply Memory.touches_modifyContract
  case h_3 | h_8 | h_11 =>
    obtain rfl := Option.some.inj h
    exact m.touches_updateContract approvalId contract _
  case h_4 | h_9 | h_12 =>
    obtain rfl := Option.some.inj h
    exact m.touches_updateStatus approvalId contract _ _
  case h_7 | h_13 | h_16 =>
    split at h <;> obtain rfl := Option.some.inj h <;>
      first | exact .refl _ _ m | (dsimp only; apply Memory.touches_modifyContract)
  case h_10 | h_15 =>
    obtain rfl := Option.some.inj h
    dsimp only
    apply Memory.touches_modifyContract
  case h_17 => cases h
  all_goals
    obtain rfl := Option.some.inj h
    exact .refl _ _ m

/-- A stretch of the task writes to the record of its id, and to its own contract. -/
theorem runTask_touches {o : Resumed TaskAt}
    (hlink : t.built = true → (m.contracts contract).operationId = approvalId)
    (h : runTask cfg approvalId manifest contract m t input = some o) :
    m.Touches approvalId contract o.mem := by
  unfold runTask at h
  split at h
  case h_1 | h_16 | h_17 =>
    obtain rfl := Option.some.inj h
    exact m.touches_updateStatus approvalId contract _ _
  case h_2 =>
    split at h <;> obtain rfl := Option.some.inj h
    · dsimp only
      apply Memory.touches_modifyContract
    · exact .refl _ _ m
  case h_3 =>
    obtain ⟨o', ho', rfl⟩ := Option.map_eq_some_iff.mp h
    obtain ⟨-, ⟨hmem, -⟩ | ⟨-, c, hmem, -, -⟩⟩ := RiskGate.runRiskGate_outcome ho'
    · rw [within, hmem]
      exact .refl _ _ m
    · rw [within, hmem]
      apply Memory.touches_modifyContract
  case h_4 | h_9 =>
    split at h <;> obtain rfl := Option.some.inj h <;> exact .refl _ _ m
  case h_5 =>
    split at h
    · obtain rfl := Option.some.inj h
      dsimp only
      apply Memory.touches_modifyContract
    · cases h
  case h_8 =>
    obtain ⟨o', ho', rfl⟩ := Option.map_eq_some_iff.mp h
    exact runHumanReview_touches (hlink rfl) ho'
  case h_10 =>
    obtain ⟨o', ho', rfl⟩ := Option.map_eq_some_iff.mp h
    exact runExecution_touches (hlink rfl) ho'
  case h_13 =>
    obtain rfl := Option.some.inj h
    dsimp only
    apply Memory.touches_modifyContract
  case h_14 =>
    obtain rfl := Option.some.inj h
    exact m.touches_updateContract approvalId contract _
  case h_18 => cases h
  all_goals
    obtain rfl := Option.some.inj h
    exact .refl _ _ m

end Graph
