import ContraGate.StateVisits

/-!
# What one stretch of the task does to the provenance

In a state of the graph without an entry of it, a stretch goes on there, appends the entry, or
leaves the state without one. Every stretch keeps the entries there are.
-/

/-! ## A state that has no entry yet -/

/-- Whether a text is found does not depend on the text that stands in. -/
theorem Py.Dict.isSome_getD_str (d : Py.Dict) (key a b : String) :
    ((d.getD key (.str a)).str?).isSome = ((d.getD key (.str b)).str?).isSome := by
  unfold Py.Dict.getD
  cases List.lookup key d <;> rfl

theorem Py.Json.isSome_or_str (v : Py.Json) (a b : String) :
    ((v.or (.str a)).str?).isSome = ((v.or (.str b)).str?).isSome := by
  unfold Py.Json.or
  split <;> rfl

theorem Intake.runIntake_isSome_iff {cfg : IntakeConfig} {manifest : Py.Dict} {id : String}
    {now : Time} : (runIntake cfg manifest id now).isSome = true ↔ Accepts manifest := by
  constructor
  · intro h
    obtain ⟨c, hc⟩ := Option.isSome_iff_exists.mp h
    obtain ⟨rawSql, submittedBy, tenantId, operationId, rawIntent, hsql, hblank, hsubmittedBy,
      htenantId, hoperationId, hintent, -⟩ := runIntake_eq_some hc
    constructor
    · exact ⟨rawSql, hsql, hblank⟩
    · rw [Py.Dict.isSome_getD_str, hsubmittedBy, Option.isSome_some]
    · rw [Py.Dict.isSome_getD_str, htenantId, Option.isSome_some]
    · rw [Py.Json.isSome_or_str, hoperationId, Option.isSome_some]
    · rw [hintent, Option.isSome_some]
  · rintro ⟨⟨rawSql, hsql, hblank⟩, hsubmittedBy, htenantId, hoperationId, hintent⟩
    rw [Py.Dict.isSome_getD_str _ _ _ "unknown_agent"] at hsubmittedBy
    rw [Py.Dict.isSome_getD_str _ _ _ cfg.tenantId] at htenantId
    rw [Py.Json.isSome_or_str _ _ id] at hoperationId
    obtain ⟨submittedBy, hsubmittedBy⟩ := Option.isSome_iff_exists.mp hsubmittedBy
    obtain ⟨tenantId, htenantId⟩ := Option.isSome_iff_exists.mp htenantId
    obtain ⟨operationId, hoperationId⟩ := Option.isSome_iff_exists.mp hoperationId
    obtain ⟨rawIntent, hintent⟩ := Option.isSome_iff_exists.mp hintent
    unfold runIntake
    simp only [Option.bind_eq_bind, hsql, Option.bind_some, hblank, hsubmittedBy, htenantId,
      hoperationId, hintent, if_false, Bool.false_eq_true]
    rfl

theorem Intake.runIntake_trail {cfg : IntakeConfig} {manifest : Py.Dict} {id : String}
    {now : Time} {c : HandoffContract} (h : runIntake cfg manifest id now = some c) :
    ∃ entry, entry.agent = "INTAKE" ∧ c.workflowProvenance = [entry] := by
  obtain ⟨_, _, _, _, _, _, _, _, _, _, _, rfl⟩ := runIntake_eq_some h
  exact ⟨_, rfl, rfl⟩

theorem RiskGate.applyPolicyResult_isSome_iff {cost : Py.Float} {v : Py.Json} {now : Time}
    {c : HandoffContract} : (applyPolicyResult cost v now c).isSome = true ↔ PolicyReadable v := by
  constructor
  · intro h
    obtain ⟨c', hc'⟩ := Option.isSome_iff_exists.mp h
    obtain ⟨policy, violations, hdict, hviolations, -⟩ := applyPolicyResult_eq_some hc'
    exact ⟨policy, hdict, by rw [hviolations, Option.isSome_some]⟩
  · rintro ⟨policy, hdict, hviolations⟩
    obtain ⟨violations, hviolations⟩ := Option.isSome_iff_exists.mp hviolations
    obtain ⟨c', hc', -⟩ := exists_applyPolicyResult hdict hviolations cost now c
    rw [hc', Option.isSome_some]

theorem RiskGate.applyPolicyResult_trail {cost : Py.Float} {v : Py.Json} {now : Time}
    {c c' : HandoffContract} (h : applyPolicyResult cost v now c = some c') :
    ∃ entry, entry.agent = "RISK_GATE" ∧
      c'.workflowProvenance = c.workflowProvenance ++ [entry] := by
  simp only [applyPolicyResult, Option.bind_eq_bind, Option.bind_eq_some_iff,
    Option.some.injEq] at h
  obtain ⟨policy, -, violations, -, rfl⟩ := h
  dsimp only [HandoffContract.addProvenance]
  split_ifs <;> exact ⟨_, rfl, rfl⟩

theorem RiskGate.policyReadable_safeDefaults : PolicyReadable safeDefaults := ⟨_, rfl, rfl⟩

/-- What a step does that starts in a state of the graph without an entry of it: it goes on there,
appends the entry, or leaves the state without one. Only the last breaks the condition. -/
inductive VisitStep (contract : Ref) (n : GraphNode) (proceeds : Prop) (t : TaskAt) (m : Memory)
    (o : Resumed TaskAt) : Prop
  | silent (hproceeds : proceeds) (hnode : o.pc.node? = some n) (hpc : o.pc.unrecorded = true)
    (htrail : o.pc.trail (o.mem.contracts contract) = t.trail (m.contracts contract))
  | records (hproceeds : proceeds) (hpc : o.pc.isFailed = false)
    (hdone : o.pc.node? = some n → o.pc.unrecorded = false)
    (htrail : ∃ entry : ProvenanceEntry, entry.agent = n.agentName ∧
      o.pc.trail (o.mem.contracts contract) = t.trail (m.contracts contract) ++ [entry])
  | stops (hproceeds : ¬ proceeds) (hnode : o.pc.node? ≠ some n)
    (hintake : n = .intake → o.pc.isFailed = true)
    (htrail : n ≠ .intake →
      o.pc.trail (o.mem.contracts contract) = t.trail (m.contracts contract))

namespace Graph

variable {cfg : PipelineConfig} {approvalId : String} {manifest : Py.Dict} {contract : Ref}
  {m : Memory} {o : Resumed TaskAt}

theorem intake_visitStep {input : TaskInput}
    (h : runTask cfg approvalId manifest contract m .intake input = some o) :
    VisitStep contract .intake (Proceeds cfg manifest contract m .intake input) .intake m o := by
  cases input with
  | generatedId id now =>
    simp only [runTask] at h
    split at h
    · rename_i c hc
      obtain rfl := Option.some.inj h
      obtain ⟨entry, hagent, htrail⟩ := Intake.runIntake_trail hc
      have haccepts : Intake.Accepts manifest := Intake.runIntake_isSome_iff.mp (by rw [hc]; rfl)
      refine .records haccepts rfl (by rintro ⟨⟩) ⟨entry, hagent, ?_⟩
      dsimp only [TaskAt.trail]
      rw [Memory.modifyContract_self, htrail]
      rfl
    · rename_i hnone
      obtain rfl := Option.some.inj h
      refine .stops (fun haccepts => ?_) (by rintro ⟨⟩) (fun _ => rfl) (absurd rfl)
      have hsome : (Intake.runIntake cfg.toIntakeConfig manifest id now).isSome = true :=
        Intake.runIntake_isSome_iff.mpr haccepts
      rw [hnone] at hsome
      cases hsome
  | _ => simp [runTask] at h

/-- RISK_GATE applies the policy, or that raises. -/
theorem applyPolicy_visitStep {cost : Py.Float} {v : Py.Json} {now : Time} {proceeds : Prop}
    (hproceeds : proceeds ↔ RiskGate.PolicyReadable v) :
    VisitStep contract .riskGate proceeds (.riskGate (.evaluating cost)) m
      (within afterRiskGate (RiskGate.runRiskGate.apply contract m cost v now)) := by
  unfold RiskGate.runRiskGate.apply
  split
  · rename_i c hc
    obtain ⟨entry, hagent, htrail⟩ := RiskGate.applyPolicyResult_trail hc
    have hreadable := RiskGate.applyPolicyResult_isSome_iff.mp (by rw [hc]; rfl)
    refine .records (hproceeds.mpr hreadable) rfl (by rintro ⟨⟩) ⟨entry, hagent, ?_⟩
    dsimp only [within, TaskAt.trail, afterRiskGate]
    rw [Memory.modifyContract_self, htrail]
  · rename_i hnone
    refine .stops (fun h => ?_) (by rintro ⟨⟩) (by rintro ⟨⟩) (fun _ => rfl)
    have hsome : (RiskGate.applyPolicyResult cost v now (m.contracts contract)).isSome = true :=
      RiskGate.applyPolicyResult_isSome_iff.mpr (hproceeds.mp h)
    rw [hnone] at hsome
    cases hsome

theorem riskGate_visitStep {pc : RiskGateAt} {input : TaskInput}
    (h : runTask cfg approvalId manifest contract m (.riskGate pc) input = some o) :
    VisitStep contract .riskGate (Proceeds cfg manifest contract m (.riskGate pc) input)
      (.riskGate pc) m o := by
  cases input with
  | riskGate input =>
    obtain ⟨reply, now⟩ := input
    simp only [runTask] at h
    obtain ⟨o', ho', rfl⟩ := Option.map_eq_some_iff.mp h
    cases pc with
    | explaining =>
      cases reply with
      | result explain =>
        simp only [RiskGate.runRiskGate] at ho'
        split at ho'
        · rename_i cost hcost
          obtain rfl := Option.some.inj ho'
          exact .silent (by rw [Proceeds, TargetReply.Usable, hcost, Option.isSome_some]) rfl rfl rfl
        · rename_i hcost
          obtain rfl := Option.some.inj ho'
          refine .stops ?_ (by rintro ⟨⟩) (by rintro ⟨⟩) (fun _ => rfl)
          rw [Proceeds, TargetReply.Usable, hcost]
          rintro ⟨⟩
      | mcpCallError message =>
        obtain rfl := Option.some.inj ho'
        exact .silent trivial rfl rfl rfl
      | otherError =>
        obtain rfl := Option.some.inj ho'
        exact .stops id (by rintro ⟨⟩) (by rintro ⟨⟩) fun _ => rfl
    | evaluating cost =>
      cases reply with
      | result v =>
        obtain rfl := Option.some.inj ho'
        exact applyPolicy_visitStep Iff.rfl
      | mcpCallError message =>
        obtain rfl := Option.some.inj ho'
        exact applyPolicy_visitStep (iff_of_true trivial RiskGate.policyReadable_safeDefaults)
      | otherError =>
        obtain rfl := Option.some.inj ho'
        exact .stops id (by rintro ⟨⟩) (by rintro ⟨⟩) fun _ => rfl
    | returned => simp [RiskGate.runRiskGate] at ho'
    | raised => simp [RiskGate.runRiskGate] at ho'
  | _ => simp [runTask] at h

theorem humanReview_visitStep {pc : ReviewPc} {input : TaskInput} (hpc : pc.point = .notifying)
    (h : runTask cfg approvalId manifest contract m (.humanReview pc) input = some o) :
    VisitStep contract .humanReview (Proceeds cfg manifest contract m (.humanReview pc) input)
      (.humanReview pc) m o := by
  cases input with
  | review input =>
    simp only [runTask] at h
    obtain ⟨o', ho', rfl⟩ := Option.map_eq_some_iff.mp h
    cases input with
    | resume now => simp [HumanReview.runHumanReview, hpc] at ho'
    | notified r now =>
      cases r with
      | otherError =>
        simp only [HumanReview.runHumanReview, hpc] at ho'
        obtain rfl := Option.some.inj ho'
        exact .stops id (by rintro ⟨⟩) (by rintro ⟨⟩) fun _ => rfl
      | _ =>
        simp only [HumanReview.runHumanReview, hpc, Memory.modifyContract_self] at ho'
        split at ho'
        all_goals
          obtain rfl := Option.some.inj ho'
          refine .records trivial rfl (fun _ => rfl) ?_
          dsimp only [within, TaskAt.trail, afterHumanReview]
          simp only [Memory.modifyContract_self]
          exact ⟨_, rfl, rfl⟩
  | _ => simp [runTask] at h

/-- The checks of EXECUTION before the call. -/
theorem checkAndCall_visitStep {q : Ref} {now : Time} :
    VisitStep contract .execution
      (∃ r, some q = some r ∧ (m.records r).executionCompleted = false)
      (.execution (.got (some q))) m (within afterExecution
        (Execution.checkAndCall cfg.toExecutionConfig contract m (m.records q) now)) := by
  unfold Execution.checkAndCall
  dsimp only
  split
  · rename_i hcompleted
    refine .stops ?_ (by rintro ⟨⟩) (by rintro ⟨⟩) fun _ => ?_
    · rintro ⟨r, hr, hopen⟩
      obtain rfl := Option.some.inj hr
      rw [hcompleted] at hopen
      cases hopen
    · dsimp only [within, TaskAt.trail, afterExecution]
      rw [Memory.modifyContract_self]
  · rename_i hopen
    split
    · exact .silent ⟨q, rfl, Bool.eq_false_iff.mpr hopen⟩ rfl rfl rfl
    · refine .records ⟨q, rfl, Bool.eq_false_iff.mpr hopen⟩ rfl (by rintro ⟨⟩) ?_
      dsimp only [within, TaskAt.trail, afterExecution]
      rw [Memory.modifyContract_self]
      exact ⟨_, rfl, rfl⟩

/-- EXECUTION gets the reply of the target. -/
theorem reply_visitStep {reply : TargetReply} {now : Time}
    (h : runTask cfg approvalId manifest contract m (.execution .calling)
      (.execution (.reply reply now)) = some o) :
    VisitStep contract .execution (reply.Usable fun _ => True) (.execution .calling) m o := by
  cases reply with
  | result value | mcpCallError message =>
    obtain rfl := Option.some.inj h
    refine .silent trivial rfl rfl ?_
    dsimp only [within, TaskAt.trail, afterExecution]
    rw [Memory.modifyContract_self]
  | otherError =>
    obtain rfl := Option.some.inj h
    exact .stops id (by rintro ⟨⟩) (by rintro ⟨⟩) fun _ => rfl

theorem execution_visitStep {pc : ExecutionAt} {input : TaskInput}
    (h : runTask cfg approvalId manifest contract m (.execution pc) input = some o) :
    VisitStep contract .execution (Proceeds cfg manifest contract m (.execution pc) input)
      (.execution pc) m o := by
  cases input with
  | execution input =>
    cases input with
    | reply reply now =>
      cases pc with
      | calling => exact reply_visitStep h
      | got record => cases record <;> cases h
      | _ => cases h
    | resume now =>
      cases pc with
      | start =>
        obtain rfl := Option.some.inj h
        exact .silent trivial rfl rfl rfl
      | got record =>
        cases record with
        | none =>
          obtain rfl := Option.some.inj h
          refine .stops ?_ (by rintro ⟨⟩) (by rintro ⟨⟩) fun _ => rfl
          rintro ⟨r, hr, -⟩
          cases hr
        | some q =>
          obtain rfl := Option.some.inj h
          exact checkAndCall_visitStep
      | storing result =>
        obtain rfl := Option.some.inj h
        refine .silent trivial rfl rfl ?_
        exact congrArg Provenance.workflowProvenance
          (m.sameTrails_setExecutionResult _ _ _ contract)
      | stored =>
        obtain rfl := Option.some.inj h
        refine .records trivial rfl (by rintro ⟨⟩) ?_
        dsimp only [within, TaskAt.trail, afterExecution]
        rw [Memory.modifyContract_self]
        exact ⟨_, rfl, rfl⟩
      | calling | returned | raised => cases h
  | _ => simp [runTask] at h

theorem audit_visitStep {pc : AuditAt} {input : TaskInput}
    (h : runTask cfg approvalId manifest contract m (.audit pc) input = some o) :
    VisitStep contract .audit (Proceeds cfg manifest contract m (.audit pc) input)
      (.audit pc) m o := by
  cases input with
  | auditReply reply now =>
    cases reply with
    | otherError =>
      obtain rfl := Option.some.inj h
      exact .stops id nofun nofun fun _ => rfl
    | _ =>
      cases pc with
      | logging =>
        obtain rfl := Option.some.inj h
        exact .silent trivial rfl rfl rfl
      | remembering =>
        obtain rfl := Option.some.inj h
        refine .records trivial rfl nofun ?_
        dsimp only [TaskAt.trail]
        rw [Memory.modifyContract_self]
        unfold finishAudit
        split <;> exact ⟨_, rfl, rfl⟩
  | _ => simp [runTask] at h

/-- **A step in a state without an entry yet.** -/
theorem runTask_visitStep {t : TaskAt} {n : GraphNode} {input : TaskInput}
    (hnode : t.node? = some n) (hpc : t.unrecorded = true)
    (h : runTask cfg approvalId manifest contract m t input = some o) :
    VisitStep contract n (Proceeds cfg manifest contract m t input) t m o := by
  cases t with
  | intake =>
    obtain rfl := Option.some.inj hnode
    exact intake_visitStep h
  | riskGate pc =>
    obtain rfl := Option.some.inj hnode
    exact riskGate_visitStep h
  | humanReview pc =>
    obtain rfl := Option.some.inj hnode
    exact humanReview_visitStep (of_decide_eq_true hpc) h
  | execution pc =>
    obtain rfl := Option.some.inj hnode
    exact execution_visitStep h
  | audit pc =>
    obtain rfl := Option.some.inj hnode
    exact audit_visitStep h
  | agent node => cases hpc
  | _ => cases hnode

/-! ## Every other step -/

/-- HUMAN_REVIEW after its first entry: it only adds to the provenance, never notifies again and
never raises. -/
theorem runHumanReview_notified {pc : ReviewPc} {input : ReviewInput} {o : Resumed ReviewPc}
    (hpc : pc.point ≠ .notifying) (h : HumanReview.runHumanReview contract m pc input = some o) :
    (m.contracts contract).workflowProvenance <+: (o.mem.contracts contract).workflowProvenance ∧
      o.pc.point ≠ .notifying ∧ o.pc.point ≠ .raised := by
  have hstored (id : String) (now : Time) : (m.contracts contract).workflowProvenance <+:
      ((WorkflowStore.updateContract m id contract now).contracts contract).workflowProvenance := by
    rw [m.sameTrails_updateContract id contract now contract]
  have hstatus (id : String) (status : WorkflowStatus) (now : Time) :
      (m.contracts contract).workflowProvenance <+:
        ((WorkflowStore.updateStatus m id status now).contracts contract).workflowProvenance := by
    rw [m.sameTrails_updateStatus id status now contract]
  unfold HumanReview.runHumanReview at h
  dsimp only at h
  split at h
  case h_1 | h_2 => contradiction
  case h_3 | h_8 | h_11 =>
    obtain rfl := Option.some.inj h
    exact ⟨hstored _ _, nofun, nofun⟩
  case h_4 | h_9 | h_12 =>
    obtain rfl := Option.some.inj h
    exact ⟨hstatus _ _ _, nofun, nofun⟩
  case h_7 | h_13 | h_16 =>
    split at h
    all_goals
      obtain rfl := Option.some.inj h
      refine ⟨?_, nofun, nofun⟩
      first
      | exact List.prefix_rfl
      | dsimp only
        rw [Memory.modifyContract_self]
        first
        | exact List.prefix_rfl
        | exact List.prefix_append _ _
  case h_10 | h_15 =>
    obtain rfl := Option.some.inj h
    refine ⟨?_, nofun, nofun⟩
    dsimp only
    rw [Memory.modifyContract_self]
    exact List.prefix_append _ _
  case h_17 => cases h
  all_goals
    obtain rfl := Option.some.inj h
    exact ⟨List.prefix_rfl, nofun, nofun⟩

theorem afterHumanReview_trail (pc : ReviewPc) (c : HandoffContract) :
    (afterHumanReview pc).trail c = c.workflowProvenance := by
  unfold afterHumanReview
  split <;> rfl

/-- A write of an agent appends its entries and leaves the rest of the provenance alone. -/
theorem agentWrite_trail (write : AgentWrite) (c : HandoffContract) :
    (write.apply c).workflowProvenance = c.workflowProvenance ++ write.entries ∧
      (write.apply c).reanalysisCount = c.reanalysisCount ∧
      (write.apply c).staleFields = c.staleFields := by
  cases write with
  | provenance entries => exact ⟨rfl, rfl, rfl⟩
  | _ => exact ⟨(List.append_nil _).symm, rfl, rfl⟩

/-- A state without an entry keeps the entries of the others. -/
theorem trail_of_unrecorded {t : TaskAt} {n : GraphNode} {input : TaskInput}
    (hnode : t.node? = some n) (hpc : t.unrecorded = true)
    (h : runTask cfg approvalId manifest contract m t input = some o) :
    t.trail (m.contracts contract) <+: o.pc.trail (o.mem.contracts contract) := by
  cases runTask_visitStep hnode hpc h with
  | silent hproceeds hnode' hpc' htrail => rw [htrail]
  | records hproceeds hpc' hdone htrail =>
    obtain ⟨entry, -, htrail⟩ := htrail
    rw [htrail]
    exact List.prefix_append _ _
  | stops hproceeds hnode' hintake htrail =>
    by_cases hn : n = .intake
    · subst hn
      cases t with
      | intake => exact List.nil_prefix
      | _ => cases hnode
    · rw [htrail hn]

/-- HUMAN_REVIEW adds to the provenance. -/
theorem humanReview_trail {pc : ReviewPc} {input : TaskInput}
    (h : runTask cfg approvalId manifest contract m (.humanReview pc) input = some o) :
    (m.contracts contract).workflowProvenance <+: o.pc.trail (o.mem.contracts contract) := by
  by_cases hpoint : pc.point = .notifying
  · exact trail_of_unrecorded (t := .humanReview pc) rfl (decide_eq_true hpoint) h
  · cases input with
    | review input =>
      obtain ⟨o', ho', rfl⟩ := Option.map_eq_some_iff.mp h
      obtain ⟨hgrows, -, -⟩ := runHumanReview_notified hpoint ho'
      rw [within, afterHumanReview_trail]
      exact hgrows
    | _ => simp [runTask] at h

/-- So do the agents. -/
theorem agent_trail {node : AgentNode} {input : TaskInput}
    (h : runTask cfg approvalId manifest contract m (.agent node) input = some o) :
    (m.contracts contract).workflowProvenance <+: o.pc.trail (o.mem.contracts contract) := by
  cases input with
  | agentWrites write =>
    simp only [runTask] at h
    split at h
    · obtain rfl := Option.some.inj h
      dsimp only [TaskAt.trail]
      rw [Memory.modifyContract_self, (agentWrite_trail write _).1]
      exact List.prefix_append _ _
    · cases h
  | agentReturns now =>
    obtain rfl := Option.some.inj h
    cases node <;> exact List.prefix_rfl
  | agentRaises =>
    obtain rfl := Option.some.inj h
    exact List.prefix_rfl
  | _ => simp [runTask] at h

/-- **The provenance only grows.** -/
theorem runTask_trail {t : TaskAt} {input : TaskInput}
    (h : runTask cfg approvalId manifest contract m t input = some o) :
    t.trail (m.contracts contract) <+: o.pc.trail (o.mem.contracts contract) := by
  cases t with
  | intake | riskGate _ | execution _ | audit _ => exact trail_of_unrecorded rfl rfl h
  | humanReview pc => exact humanReview_trail h
  | agent node => exact agent_trail h
  | statusRunning => exact List.nil_prefix
  | finished status => simp [runTask] at h
  -- the edges and the writes of the background task
  | routeRiskGate | routeHumanReview =>
    cases input with
    | resume now =>
      simp only [runTask] at h
      split at h <;> obtain rfl := Option.some.inj h <;> exact List.prefix_rfl
    | _ => simp [runTask] at h
  | mapStatus =>
    cases input with
    | resume now =>
      obtain rfl := Option.some.inj h
      exact List.prefix_rfl
    | _ => simp [runTask] at h
  | syncContract =>
    cases input with
    | resume now =>
      obtain rfl := Option.some.inj h
      dsimp only [TaskAt.trail]
      rw [m.sameTrails_updateContract _ _ _ contract]
    | _ => simp [runTask] at h
  | syncStatus _ | failed =>
    cases input with
    | resume now =>
      obtain rfl := Option.some.inj h
      dsimp only [TaskAt.trail]
      rw [m.sameTrails_updateStatus _ _ _ contract]
    | _ => simp [runTask] at h

end Graph
