import ContraGate.Coroutine

/-!
# What each store operation does to the stored contract

One lemma per operation and per thing it touches. Later proofs about the store use these
and never unfold an operation. What they follow through a run is mostly three things: the
decision fields of the stored contract (`Memory.decision?`), whether the stored contract is
the pipeline's own object (`Memory.Aliased`), and what is left alone
(`Memory.SameDecisions`).
-/

namespace WorkflowStore

variable {m : Memory} {id : String} {r : Ref} {now : Time}

/-! ## `update_status` -/

theorem updateStatus_eq (h : m.store id = some r) (status : WorkflowStatus) (now : Time) :
    updateStatus m id status now =
      m.modifyRecord r fun record => { record with status, updatedAt := now } := by
  unfold updateStatus
  rw [h]

@[simp] theorem updateStatus_store (status : WorkflowStatus) :
    (updateStatus m id status now).store = m.store := by
  unfold updateStatus
  split <;> rfl

@[simp] theorem updateStatus_contracts (status : WorkflowStatus) :
    (updateStatus m id status now).contracts = m.contracts := by
  unfold updateStatus
  split <;> rfl

@[simp] theorem updateStatus_contract? (status : WorkflowStatus) :
    (updateStatus m id status now).contract? id = m.contract? id := by
  cases h : m.store id with
  | none => simp [updateStatus, h]
  | some r => simp [updateStatus_eq h, Memory.contract?, Memory.record?, h]

@[simp] theorem updateStatus_executed (status : WorkflowStatus) :
    (updateStatus m id status now).executed id = m.executed id := by
  cases h : m.store id with
  | none => simp [updateStatus, h]
  | some r =>
    rw [updateStatus_eq h, Memory.executed_modifyRecord]
    exact fun _ => rfl

/-! ## `set_execution_result` -/

theorem setExecutionResult_eq (h : m.store id = some r) (result : Py.Dict) (now : Time) :
    setExecutionResult m id result now =
      m.modifyRecord r fun record =>
        { record with
          executionResult := some result, executionCompleted := true, updatedAt := now } := by
  unfold setExecutionResult
  rw [h]

@[simp] theorem setExecutionResult_store (result : Py.Dict) :
    (setExecutionResult m id result now).store = m.store := by
  unfold setExecutionResult
  split <;> rfl

@[simp] theorem setExecutionResult_contracts (result : Py.Dict) :
    (setExecutionResult m id result now).contracts = m.contracts := by
  unfold setExecutionResult
  split <;> rfl

@[simp] theorem setExecutionResult_contract? (result : Py.Dict) :
    (setExecutionResult m id result now).contract? id = m.contract? id := by
  cases h : m.store id with
  | none => simp [setExecutionResult, h]
  | some r => simp [setExecutionResult_eq h, Memory.contract?, Memory.record?, h]

theorem setExecutionResult_executed (h : (m.store id).isSome) (result : Py.Dict) (now : Time) :
    (setExecutionResult m id result now).executed id = true := by
  obtain ⟨r, hr⟩ := Option.isSome_iff_exists.mp h
  have hstore : (setExecutionResult m id result now).store id = some r := by simp [hr]
  rw [Memory.executed_of_store hstore, setExecutionResult_eq hr]
  simp

/-! ## `update_contract` -/

/-- The contract that `update_contract` leaves in the store: the six assignments copy the
whole group of decision fields. -/
def merged (existing c : HandoffContract) : HandoffContract :=
  if existing.approvalState.terminal then
    { c with toDecisionFields := existing.toDecisionFields }
  else c

theorem merged_of_terminal {existing c : HandoffContract} (h : existing.approvalState.terminal) :
    (merged existing c).toDecisionFields = existing.toDecisionFields := by
  rw [merged, if_pos h]

@[simp] theorem merged_toIdentity (existing c : HandoffContract) :
    (merged existing c).toIdentity = c.toIdentity := by
  unfold merged
  split <;> rfl

@[simp] theorem merged_toPolicyGateOutputs (existing c : HandoffContract) :
    (merged existing c).toPolicyGateOutputs = c.toPolicyGateOutputs := by
  unfold merged
  split <;> rfl

theorem updateContract_eq (h : m.store id = some r) (contract : Ref) (now : Time) :
    updateContract m id contract now =
      (m.modifyContract contract
        (merged (m.contracts (m.records r).contract))).modifyRecord r
          fun record => { record with contract, updatedAt := now } := by
  unfold updateContract merged
  rw [h]
  by_cases hterm : (m.contracts (m.records r).contract).approvalState.terminal
  · simp only [hterm, if_true]
  · have hself : m.modifyContract contract (fun c => c) = m := by
      simp [Memory.modifyContract]
    simp [hterm, hself]

@[simp] theorem updateContract_store (contract : Ref) :
    (updateContract m id contract now).store = m.store := by
  cases h : m.store id with
  | none => simp [updateContract, h]
  | some r => rw [updateContract_eq h]; rfl

@[simp] theorem updateContract_executed (contract : Ref) :
    (updateContract m id contract now).executed id = m.executed id := by
  cases h : m.store id with
  | none => simp [updateContract, h]
  | some r =>
    rw [updateContract_eq h, Memory.executed_modifyRecord, Memory.executed_modifyContract]
    exact fun _ => rfl

@[simp] theorem updateContract_toIdentity (contract d : Ref) :
    ((updateContract m id contract now).contracts d).toIdentity = (m.contracts d).toIdentity := by
  cases h : m.store id with
  | none => simp [updateContract, h]
  | some r =>
    rw [updateContract_eq h, Memory.modifyRecord_contracts]
    by_cases hd : d = contract
    · subst hd; simp
    · rw [m.modifyContract_of_ne _ hd]

theorem updateContract_contract? {existing : HandoffContract} (h : m.contract? id = some existing)
    (contract : Ref) :
    (updateContract m id contract now).contract? id =
      some (merged existing (m.contracts contract)) := by
  cases hr : m.store id with
  | none => simp [Memory.contract?, Memory.record?, hr] at h
  | some r =>
    obtain rfl : m.contracts (m.records r).contract = existing := by
      simpa [Memory.contract?_of_store hr] using h
    have hstore : (updateContract m id contract now).store id = some r := by simp [hr]
    rw [Memory.contract?_of_store hstore, updateContract_eq hr]
    simp

/-! ## `record_decision` -/

theorem recordDecision_of_pending (h : m.store id = some r)
    (hpending : (m.contracts (m.records r).contract).approvalState = .pending)
    (d : Decision) (now : Time) :
    recordDecision m id d now =
      ((m.modifyContract (m.records r).contract fun c =>
          { c with toDecisionFields := d.write now c.toDecisionFields }).modifyRecord r
        fun record => { record with updatedAt := now }, true) := by
  simp [recordDecision, h, hpending]

theorem recordDecision_of_decided {c : HandoffContract} (h : m.contract? id = some c)
    (hdecided : c.approvalState ≠ .pending) (d : Decision) (now : Time) :
    recordDecision m id d now = (m, false) := by
  cases hr : m.store id with
  | none => simp [recordDecision, hr]
  | some r =>
    obtain rfl : m.contracts (m.records r).contract = c := by
      simpa [Memory.contract?_of_store hr] using h
    simp [recordDecision, hr, hdecided]

@[simp] theorem recordDecision_store (d : Decision) :
    (recordDecision m id d now).1.store = m.store := by
  unfold recordDecision
  split
  · rfl
  · dsimp only
    split <;> rfl

@[simp] theorem recordDecision_executed (d : Decision) :
    (recordDecision m id d now).1.executed id = m.executed id := by
  unfold recordDecision
  split
  · rfl
  · dsimp only
    split
    · rw [Memory.executed_modifyRecord, Memory.executed_modifyContract]
      exact fun _ => rfl
    · rfl

@[simp] theorem recordDecision_toIdentity (d : Decision) (c : Ref) :
    ((recordDecision m id d now).1.contracts c).toIdentity = (m.contracts c).toIdentity := by
  unfold recordDecision
  split
  · rfl
  · dsimp only
    split
    · rename_i r _ _
      rw [Memory.modifyRecord_contracts]
      by_cases hc : c = (m.records r).contract
      · subst hc; simp
      · rw [m.modifyContract_of_ne _ hc]
    · rfl

/-- A decision is accepted exactly when the stored contract is pending. -/
theorem recordDecision_accepted_iff (d : Decision) (now : Time) :
    (recordDecision m id d now).2 = true ↔
      ∃ c, m.contract? id = some c ∧ c.approvalState = .pending := by
  cases hr : m.store id with
  | none => simp [recordDecision, hr, Memory.contract?, Memory.record?]
  | some r =>
    rw [Memory.contract?_of_store hr]
    by_cases hpending : (m.contracts (m.records r).contract).approvalState = .pending
    · simp [recordDecision_of_pending hr hpending, hpending]
    · simp [recordDecision, hr, hpending]

/-- An accepted decision is what the stored contract then carries. -/
theorem recordDecision_contract? (d : Decision) (h : (recordDecision m id d now).2 = true) :
    ∃ c, m.contract? id = some c ∧ (recordDecision m id d now).1.contract? id =
      some { c with toDecisionFields := d.write now c.toDecisionFields } := by
  obtain ⟨c, hc, hpending⟩ := (recordDecision_accepted_iff d now).mp h
  refine ⟨c, hc, ?_⟩
  cases hr : m.store id with
  | none => simp [Memory.contract?, Memory.record?, hr] at hc
  | some r =>
    obtain rfl : m.contracts (m.records r).contract = c := by
      simpa [Memory.contract?_of_store hr] using hc
    have hstore : (recordDecision m id d now).1.store id = some r := by simp [hr]
    rw [Memory.contract?_of_store hstore, recordDecision_of_pending hr hpending]
    simp

/-- A refused decision changes nothing. -/
theorem recordDecision_refused (d : Decision) (h : (recordDecision m id d now).2 = false) :
    (recordDecision m id d now).1 = m := by
  unfold recordDecision at h ⊢
  split
  · rfl
  · rename_i r hr
    rw [hr] at h
    dsimp only at h ⊢
    split
    · rename_i hpending
      simp [hpending] at h
    · rfl

/-! ## The decision fields of the stored contract -/

@[simp] theorem updateStatus_decision? (status : WorkflowStatus) :
    (updateStatus m id status now).decision? id = m.decision? id := by
  simp [Memory.decision?]

@[simp] theorem setExecutionResult_decision? (result : Py.Dict) :
    (setExecutionResult m id result now).decision? id = m.decision? id := by
  simp [Memory.decision?]

/-- A decision is either accepted by a pending contract, or changes nothing. -/
theorem decide_cases (m : Memory) (id : String) (d : Decision) (now : Time) :
    (∃ f, m.decision? id = some f ∧ f.approvalState = .pending ∧
      (decide m id d now).1.decision? id = some (d.write now f) ∧
      (decide m id d now).2 = .decided d (some (d.write now f))) ∨
    ((∀ f, m.decision? id = some f → f.approvalState ≠ .pending) ∧
      (decide m id d now).1 = m ∧ (decide m id d now).2 = .decided d none) := by
  cases haccepted : (recordDecision m id d now).2 with
  | true =>
    obtain ⟨c, hc, hc'⟩ := recordDecision_contract? d haccepted
    obtain ⟨c'', hc'', hpending⟩ := (recordDecision_accepted_iff d now).mp haccepted
    obtain rfl : c = c'' := by simpa [hc] using hc''
    refine .inl ⟨c.toDecisionFields, by simp [Memory.decision?, hc], hpending, ?_, ?_⟩
    · simp [decide, Memory.decision?, hc']
    · simp [decide, Memory.decision?, hc', haccepted]
  | false =>
    refine .inr ⟨fun f hf hpending => ?_, recordDecision_refused d haccepted,
      by simp [decide, haccepted]⟩
    obtain ⟨c, hc, rfl⟩ := Option.map_eq_some_iff.mp hf
    have := (recordDecision_accepted_iff d now).mpr ⟨c, hc, hpending⟩
    rw [haccepted] at this
    cases this

/-! ## Which object is stored -/

theorem updateStatus_aliased {status : WorkflowStatus} {c : Ref} (h : m.Aliased id c) :
    (updateStatus m id status now).Aliased id c := by
  intro r hr
  rw [updateStatus_store] at hr
  rw [updateStatus_eq hr]
  simpa using h r hr

theorem updateContract_aliased (contract : Ref) :
    (updateContract m id contract now).Aliased id contract := by
  intro r hr
  rw [updateContract_store] at hr
  rw [updateContract_eq hr]
  simp

theorem decide_aliased {d : Decision} {c : Ref} (h : m.Aliased id c) :
    (decide m id d now).1.Aliased id c := by
  intro r hr
  have hr' : m.store id = some r := by simpa [decide] using hr
  by_cases hpending : (m.contracts (m.records r).contract).approvalState = .pending
  · simpa [decide, recordDecision_of_pending hr' hpending] using h r hr'
  · simpa [decide, recordDecision, hr', hpending] using h r hr'

end WorkflowStore

/-! ## What is left alone -/

namespace Memory

variable {m m' : Memory} {id : String} {c : Ref}

/-- `m'` has the same store as `m`, with the same statuses, and its contracts the same
decision fields, identities and policy results. -/
structure SameDecisions (m m' : Memory) : Prop where
  store : m'.store = m.store
  contract : ∀ r, (m'.records r).contract = (m.records r).contract
  status : ∀ r, (m'.records r).status = (m.records r).status
  decision : ∀ c, (m'.contracts c).toDecisionFields = (m.contracts c).toDecisionFields
  identity : ∀ c, (m'.contracts c).toIdentity = (m.contracts c).toIdentity
  policy : ∀ c, (m'.contracts c).toPolicyGateOutputs = (m.contracts c).toPolicyGateOutputs

theorem SameDecisions.refl (m : Memory) : SameDecisions m m :=
  ⟨rfl, fun _ => rfl, fun _ => rfl, fun _ => rfl, fun _ => rfl, fun _ => rfl⟩

/-- Writing other fields of one contract. -/
theorem sameDecisions_modifyContract (m : Memory) (c : Ref) (f : HandoffContract → HandoffContract)
    (hdecision : ∀ x, (f x).toDecisionFields = x.toDecisionFields)
    (hidentity : ∀ x, (f x).toIdentity = x.toIdentity)
    (hpolicy : ∀ x, (f x).toPolicyGateOutputs = x.toPolicyGateOutputs) :
    SameDecisions m (m.modifyContract c f) where
  store := rfl
  contract _ := rfl
  status _ := rfl
  decision d := by
    by_cases hd : d = c
    · subst hd; simp [hdecision]
    · rw [m.modifyContract_of_ne f hd]
  identity d := by
    by_cases hd : d = c
    · subst hd; simp [hidentity]
    · rw [m.modifyContract_of_ne f hd]
  policy d := by
    by_cases hd : d = c
    · subst hd; simp [hpolicy]
    · rw [m.modifyContract_of_ne f hd]

theorem sameDecisions_setExecutionResult (m : Memory) (id : String) (result : Py.Dict)
    (now : Time) : SameDecisions m (WorkflowStore.setExecutionResult m id result now) := by
  cases h : m.store id with
  | none =>
    have hnone : WorkflowStore.setExecutionResult m id result now = m := by
      simp [WorkflowStore.setExecutionResult, h]
    rw [hnone]
    exact SameDecisions.refl m
  | some r =>
    rw [WorkflowStore.setExecutionResult_eq h]
    constructor
    case store => rfl
    case contract =>
      intro q
      by_cases hq : q = r
      · subst hq; simp
      · rw [m.modifyRecord_of_ne _ hq]
    case status =>
      intro q
      by_cases hq : q = r
      · subst hq; simp
      · rw [m.modifyRecord_of_ne _ hq]
    all_goals exact fun _ => rfl

theorem SameDecisions.decision? (h : m.SameDecisions m') (id : String) :
    m'.decision? id = m.decision? id := by
  unfold Memory.decision? Memory.contract? Memory.record?
  rw [h.store]
  cases m.store id with
  | none => rfl
  | some r => simp [h.contract, h.decision]

theorem SameDecisions.aliased (h : m.SameDecisions m') (ha : m.Aliased id c) :
    m'.Aliased id c := by
  intro r hr
  rw [h.contract]
  exact ha r (h.store ▸ hr)

/-- When the stored contract is `c` itself, its decision fields are those of `c`. -/
theorem Aliased.decision? (ha : m.Aliased id c) :
    m.decision? id = (m.store id).map fun _ => (m.contracts c).toDecisionFields := by
  cases hr : m.store id with
  | none => simp [Memory.decision?, Memory.contract?, Memory.record?, hr]
  | some r => simp [Memory.decision?, Memory.contract?_of_store hr, ha r hr]

/-- `m'` has what the approval protocol never writes as `m` has it: which records there
are, their manifests and execution results, and the identities and policy results of all
contracts. -/
structure Kept (m m' : Memory) : Prop where
  store : m'.store = m.store
  manifest : ∀ r, (m'.records r).toolCallManifest = (m.records r).toolCallManifest
  result : ∀ r, (m'.records r).executionResult = (m.records r).executionResult
  completed : ∀ r, (m'.records r).executionCompleted = (m.records r).executionCompleted
  identity : ∀ c, (m'.contracts c).toIdentity = (m.contracts c).toIdentity
  policy : ∀ c, (m'.contracts c).toPolicyGateOutputs = (m.contracts c).toPolicyGateOutputs

theorem Kept.refl (m : Memory) : Kept m m :=
  ⟨rfl, fun _ => rfl, fun _ => rfl, fun _ => rfl, fun _ => rfl, fun _ => rfl⟩

theorem Kept.trans {m m' m'' : Memory} (h : Kept m m') (h' : Kept m' m'') : Kept m m'' where
  store := h'.store.trans h.store
  manifest r := (h'.manifest r).trans (h.manifest r)
  result r := (h'.result r).trans (h.result r)
  completed r := (h'.completed r).trans (h.completed r)
  identity c := (h'.identity c).trans (h.identity c)
  policy c := (h'.policy c).trans (h.policy c)

theorem kept_modifyContract (m : Memory) (c : Ref) (f : HandoffContract → HandoffContract)
    (hidentity : ∀ x, (f x).toIdentity = x.toIdentity)
    (hpolicy : ∀ x, (f x).toPolicyGateOutputs = x.toPolicyGateOutputs) :
    Kept m (m.modifyContract c f) := by
  refine ⟨rfl, fun _ => rfl, fun _ => rfl, fun _ => rfl, fun d => ?_, fun d => ?_⟩
  · by_cases hd : d = c
    · subst hd; simp [hidentity]
    · rw [m.modifyContract_of_ne f hd]
  · by_cases hd : d = c
    · subst hd; simp [hpolicy]
    · rw [m.modifyContract_of_ne f hd]

theorem kept_modifyRecord (m : Memory) (r : Ref) (f : WorkflowRecord → WorkflowRecord)
    (hmanifest : ∀ x, (f x).toolCallManifest = x.toolCallManifest)
    (hresult : ∀ x, (f x).executionResult = x.executionResult)
    (hcompleted : ∀ x, (f x).executionCompleted = x.executionCompleted) :
    Kept m (m.modifyRecord r f) := by
  refine ⟨rfl, fun q => ?_, fun q => ?_, fun q => ?_, fun _ => rfl, fun _ => rfl⟩ <;>
    by_cases hq : q = r
  · subst hq; simp [hmanifest]
  · rw [m.modifyRecord_of_ne f hq]
  · subst hq; simp [hresult]
  · rw [m.modifyRecord_of_ne f hq]
  · subst hq; simp [hcompleted]
  · rw [m.modifyRecord_of_ne f hq]

theorem kept_updateStatus (m : Memory) (id : String) (status : WorkflowStatus) (now : Time) :
    Kept m (WorkflowStore.updateStatus m id status now) := by
  unfold WorkflowStore.updateStatus
  split
  · exact .refl m
  · exact m.kept_modifyRecord _ _ (fun _ => rfl) (fun _ => rfl) (fun _ => rfl)

theorem kept_updateContract (m : Memory) (id : String) (contract : Ref) (now : Time) :
    Kept m (WorkflowStore.updateContract m id contract now) := by
  cases h : m.store id with
  | none => simpa [WorkflowStore.updateContract, h] using Kept.refl m
  | some r =>
    rw [WorkflowStore.updateContract_eq h]
    refine (m.kept_modifyContract contract _ ?_ ?_).trans (kept_modifyRecord _ _ _ ?_ ?_ ?_)
    · exact WorkflowStore.merged_toIdentity _
    · exact WorkflowStore.merged_toPolicyGateOutputs _
    all_goals exact fun _ => rfl

theorem kept_decide (m : Memory) (id : String) (d : Decision) (now : Time) :
    Kept m (WorkflowStore.decide m id d now).1 := by
  unfold WorkflowStore.decide WorkflowStore.recordDecision
  dsimp only
  split
  · exact .refl m
  · split
    · dsimp only
      refine (m.kept_modifyContract _ _ ?_ ?_).trans (kept_modifyRecord _ _ _ ?_ ?_ ?_)
      all_goals exact fun _ => rfl
    · exact .refl m

theorem Kept.executed (h : m.Kept m') (id : String) : m'.executed id = m.executed id := by
  unfold Memory.executed Memory.record?
  rw [h.store]
  cases m.store id with
  | none => rfl
  | some r => simp [h.completed]

theorem Kept.succeeded (h : m.Kept m') (id : String) : m'.succeeded id = m.succeeded id := by
  unfold Memory.succeeded Memory.record?
  rw [h.store]
  cases m.store id with
  | none => rfl
  | some r => simp [h.completed, h.result]

end Memory
