import ContraGate.TrailSteps

/-!
# The provenance trail

The trail only ever grows. Three things keep a visit of a state from appending to it: an exception
that leaves the state, an EXECUTION that finds the operation executed already, and an analyzer that
finds its fields fresh.
-/

/-! ## The agents -/

theorem AnalyzerAgent.analyze_trail {cfg : AnalyzerConfig} {reader : PostgresTools}
    {reply : LlmReply} {now : Time} {c c' : HandoffContract} (hskips : skips c = false)
    (h : analyze cfg reader reply now c = some c') :
    ∃ entry : ProvenanceEntry, entry.agent = "ANALYZER_AGENT" ∧
      c'.workflowProvenance = c.workflowProvenance ++ [entry] := by
  unfold analyze at h
  rw [hskips, if_neg Bool.false_ne_true] at h
  obtain ⟨facts, hfacts, rfl⟩ := Option.map_eq_some_iff.mp h
  obtain ⟨learned, -, hwrite⟩ := facts_of_gatherFacts hfacts
  have hparsed : (parsed cfg c).workflowProvenance = c.workflowProvenance := by
    unfold parsed
    rfl
  generalize parsed cfg c = start at hwrite hparsed
  obtain ⟨written, hwritten, hfacts⟩ := Option.bind_eq_some_iff.mp hwrite
  obtain ⟨_, _, _, rfl⟩ := exists_of_writeReversibility _ hwritten
  obtain rfl := Option.some.inj hfacts
  dsimp only [HandoffContract.addProvenance]
  rw [hparsed]
  exact ⟨_, rfl, rfl⟩

theorem ContextSimAgent.run_trail (memory : MemoryTools) (first second : SandboxTools) (now : Time)
    (c : HandoffContract) : ∃ entry : ProvenanceEntry, entry.agent = "CONTEXT_SIM_AGENT" ∧
      (run memory first second now c).workflowProvenance = c.workflowProvenance ++ [entry] := by
  unfold run SandboxClient.applyToContract
  dsimp only [HandoffContract.addProvenance]
  split_ifs <;> exact ⟨_, rfl, rfl⟩

theorem ContractAgent.run_trail {formats : ContractFormats} {first second : LlmReply}
    {hex : String} {now : Time} {c c' : HandoffContract}
    (h : run formats first second hex now c = some c') :
    ∃ entry : ProvenanceEntry, entry.agent = "CONTRACT_AGENT" ∧
      c'.workflowProvenance = c.workflowProvenance ++ [entry] := by
  obtain ⟨document, hassemble⟩ := run_eq_some_iff.mp h
  obtain ⟨riskTier, riskScore, -, -, rfl⟩ := assemble_eq_some_iff.mp hassemble
  have hclassify : (classify riskTier riskScore c).workflowProvenance = c.workflowProvenance := rfl
  rw [← hclassify]
  generalize classify riskTier riskScore c = classified
  dsimp only [write, HandoffContract.addProvenance]
  exact ⟨_, rfl, rfl⟩

/-- What a row of writes appends. -/
theorem AgentWrite.foldl_trail (writes : List AgentWrite) (c : HandoffContract) :
    (writes.foldl (fun c write => write.apply c) c).workflowProvenance =
      c.workflowProvenance ++ writes.flatMap AgentWrite.entries := by
  induction writes generalizing c with
  | nil => exact (List.append_nil _).symm
  | cons write writes ih =>
    rw [List.foldl_cons, ih, (Graph.agentWrite_trail write c).1, List.flatMap_cons,
      List.append_assoc]

/-- An agent that returns appends its entry, unless it is the analyzer and finds its fields
fresh. -/
theorem AgentVisit.entries {analyzer : AnalyzerConfig} {formats : ContractFormats}
    {c : HandoffContract} {writes : List AgentWrite} {node : AgentNode} {returns : Bool}
    (h : AgentVisit analyzer formats c writes node returns) :
    (returns = true ∧ (node = .analysis → AnalyzerAgent.skips c = false) →
      ∃ e ∈ writes.flatMap AgentWrite.entries, e.agent = (GraphNode.agent node).agentName) ∧
    (¬ (returns = true ∧ (node = .analysis → AnalyzerAgent.skips c = false)) →
      writes.flatMap AgentWrite.entries = []) := by
  -- the entries are what the function adds
  have hentries {c' : HandoffContract} {added : List ProvenanceEntry}
      (hwrites : writes.foldl (fun c write => write.apply c) c = c')
      (hadded : c'.workflowProvenance = c.workflowProvenance ++ added) :
      writes.flatMap AgentWrite.entries = added := by
    have hfold := AgentWrite.foldl_trail writes c
    rw [hwrites, hadded] at hfold
    exact (List.append_cancel_left hfold).symm
  cases h with
  | analysis h hwrites =>
    cases hskips : AnalyzerAgent.skips c with
    | true =>
      refine ⟨fun ⟨_, hfresh⟩ => absurd (hfresh rfl) nofun, fun _ => ?_⟩
      rw [AnalyzerAgent.analyze_of_skips hskips] at h
      exact hentries (hwrites.trans (Option.some.inj h).symm) (List.append_nil _).symm
    | false =>
      refine ⟨fun _ => ?_, fun hnot => absurd ⟨rfl, fun _ => rfl⟩ hnot⟩
      obtain ⟨entry, hagent, htrail⟩ := AnalyzerAgent.analyze_trail hskips h
      rw [hentries hwrites htrail]
      exact ⟨entry, List.mem_singleton_self _, hagent⟩
  | analysisRaises h hwrites => exact ⟨fun ⟨hreturns, _⟩ => absurd hreturns nofun, fun _ => hwrites⟩
  | contextSim hwrites =>
    rename_i memory first second now
    obtain ⟨entry, hagent, htrail⟩ := ContextSimAgent.run_trail memory first second now c
    rw [hentries hwrites htrail]
    exact ⟨fun _ => ⟨entry, List.mem_singleton_self _, hagent⟩,
      fun hnot => absurd ⟨rfl, nofun⟩ hnot⟩
  | contract h hwrites =>
    obtain ⟨entry, hagent, htrail⟩ := ContractAgent.run_trail h
    rw [hentries hwrites htrail]
    exact ⟨fun _ => ⟨entry, List.mem_singleton_self _, hagent⟩,
      fun hnot => absurd ⟨rfl, nofun⟩ hnot⟩
  | contractRaises h hwrites => exact ⟨fun ⟨hreturns, _⟩ => absurd hreturns nofun, fun _ => hwrites⟩

/-! ## Visits -/

namespace Gateway

variable {cfg : PipelineConfig} {analyzer : AnalyzerConfig} {formats : ContractFormats}
  {approvalId : String} {manifest : Py.Dict} {n : GraphNode} {s t u : Gateway}
  {a : GatewayAction} {during : List GatewayAction}

/-- A step of the task, as a stretch. -/
theorem runTask_of_step {input : TaskInput}
    (hstep : (machine cfg approvalId manifest).step s (.task input) = some u) :
    ∃ o, Graph.runTask cfg approvalId manifest pipelineContract s.mem s.task input = some o ∧
      u.mem = o.mem ∧ u.task = o.pc := by
  obtain ⟨o, ho, rfl⟩ := Option.map_eq_some_iff.mp (resumeTask_of_step hstep).1
  exact ⟨o, ho, rfl, rfl⟩

theorem trail_of_other (hstep : (machine cfg approvalId manifest).step s a = some u)
    (hother : ∀ input, a ≠ .task input) : u.trail = s.trail := by
  obtain ⟨htask, hsame⟩ := sameTrails_of_other hstep hother
  unfold trail TaskAt.trail
  rw [htask, hsame pipelineContract]

/-- Whatever happens, no entry is lost. -/
theorem trail_step (hstep : (machine cfg approvalId manifest).step s a = some u) :
    s.trail <+: u.trail := by
  by_cases hother : ∀ input, a ≠ .task input
  · rw [trail_of_other hstep hother]
  · obtain ⟨input, rfl⟩ := not_forall_not.mp hother
    obtain ⟨o, ho, hmem, htask⟩ := runTask_of_step hstep
    unfold trail
    rw [hmem, htask]
    exact Graph.runTask_trail ho

theorem trail_exec {actions : List GatewayAction}
    (hrun : (machine cfg approvalId manifest).exec s actions = some t) : s.trail <+: t.trail :=
  (machine cfg approvalId manifest).exec_preserves (I := fun u => s.trail <+: u.trail)
    (fun _ _ _ h hstep => h.trans (trail_step hstep)) List.prefix_rfl hrun

/-- Nothing happens inside a state that the task has left. -/
theorem during_eq_nil (hleft : s.task.node? ≠ some n)
    (hinside : (machine cfg approvalId manifest).Guarded (fun u _ => u.task.node? = some n) s
      during) : during = [] := by
  cases during with
  | nil => rfl
  | cons a as => exact absurd hinside.1 hleft

/-- After the first entry of HUMAN_REVIEW nothing can go wrong any more. -/
theorem proceeds_of_notified (hnode : s.task.node? = some .humanReview)
    (hdone : s.task.unrecorded = false)
    (hrun : (machine cfg approvalId manifest).exec s during = some t)
    (hinside : (machine cfg approvalId manifest).Guarded
      (fun u _ => u.task.node? = some .humanReview) s during)
    (hleft : t.task.node? ≠ some .humanReview) :
    (machine cfg approvalId manifest).Guarded (Proceeds cfg manifest) s during ∧
      t.task.isFailed = false := by
  induction during generalizing s with
  | nil =>
    obtain rfl := Option.some.inj hrun
    exact absurd hnode hleft
  | cons a as ih =>
    obtain ⟨u, hstep, hrest⟩ := (machine cfg approvalId manifest).exec_cons_eq_some.mp hrun
    have hinside' := hinside.2 u hstep
    by_cases hother : ∀ input, a ≠ .task input
    · have htask := (sameTrails_of_other hstep hother).1
      obtain ⟨hguard, hreturned⟩ := ih (htask ▸ hnode) (htask ▸ hdone) hrest hinside'
      refine ⟨Machine.guarded_cons _ hstep ?_ hguard, hreturned⟩
      cases a with
      | task input => exact absurd rfl (hother input)
      | _ => trivial
    · obtain ⟨input, rfl⟩ := not_forall_not.mp hother
      obtain ⟨o, ho, hmem, htask⟩ := runTask_of_step hstep
      obtain ⟨pc, hpc⟩ : ∃ pc, s.task = .humanReview pc := by
        cases h : s.task <;> rw [h] at hnode <;> first | exact ⟨_, rfl⟩ | cases hnode
      rw [hpc] at ho hdone
      have hpoint : pc.point ≠ .notifying := of_decide_eq_false hdone
      cases input with
      | review input =>
        obtain ⟨o', ho', rfl⟩ := Option.map_eq_some_iff.mp ho
        obtain ⟨-, hpoint', hraised⟩ := Graph.runHumanReview_notified hpoint ho'
        have hproceeds : Proceeds cfg manifest s (.task (.review input)) := by
          unfold Proceeds
          rw [hpc]
          cases input with
          | resume now => trivial
          | notified r now =>
            -- the notifier is not asked again
            unfold HumanReview.runHumanReview at ho'
            dsimp only at ho'
            split at ho' <;> contradiction
        dsimp only [Graph.within] at htask
        unfold Graph.afterHumanReview at htask
        split at htask
        · have hnil := during_eq_nil (by rw [htask]; nofun) hinside'
          subst hnil
          obtain rfl := Option.some.inj hrest
          exact ⟨Machine.guarded_cons _ hstep hproceeds trivial, by rw [htask]; rfl⟩
        · contradiction
        · obtain ⟨hguard, hreturned⟩ := ih (by rw [htask]; rfl)
            (by rw [htask]; exact decide_eq_false hpoint') hrest hinside'
          exact ⟨Machine.guarded_cons _ hstep hproceeds hguard, hreturned⟩
      | _ => simp [Graph.runTask] at ho

/-- Once a state has appended its entry, the rest of the visit keeps it and meets the condition. -/
theorem appends_of_recorded {entry : ProvenanceEntry} (hagent : entry.agent = n.agentName)
    (hnotAgent : ∀ node, n ≠ .agent node) (hrecorded : u.trail = s.trail ++ [entry])
    (hreturns : u.task.isFailed = false) (hdone : u.task.node? = some n → u.task.unrecorded = false)
    (hrun : (machine cfg approvalId manifest).exec u during = some t)
    (hinside : (machine cfg approvalId manifest).Guarded (fun u _ => u.task.node? = some n) u during)
    (hleft : t.task.node? ≠ some n) :
    Appends n s t ∧ (machine cfg approvalId manifest).Guarded (Proceeds cfg manifest) u during := by
  have hrest : (machine cfg approvalId manifest).Guarded (Proceeds cfg manifest) u during ∧
      t.task.isFailed = false := by
    by_cases hnode : u.task.node? = some n
    · have hreview : n = .humanReview :=
        (TaskAt.review_or_agent hnode (hdone hnode)).resolve_right fun ⟨node, h⟩ => hnotAgent node h
      subst hreview
      exact proceeds_of_notified hnode (hdone hnode) hrun hinside hleft
    · have hnil := during_eq_nil hnode hinside
      subst hnil
      obtain rfl := Option.some.inj hrun
      exact ⟨trivial, hreturns⟩
  obtain ⟨more, hmore⟩ := trail_exec hrun
  refine ⟨⟨hrest.2, entry :: more, ?_, entry, List.mem_cons_self, hagent⟩, hrest.1⟩
  rw [← hmore, hrecorded, List.append_assoc, List.singleton_append]

/-- A visit that ends without an entry appends nothing. -/
theorem not_appends_of_stops (hintake : n = .intake → t.task.isFailed = true)
    (hsame : n ≠ .intake → t.trail = s.trail) : ¬ Appends n s t := by
  rintro ⟨hreturned, added, hadded, e, he, -⟩
  by_cases hn : n = .intake
  · rw [hintake hn] at hreturned
    cases hreturned
  · rw [hsame hn] at hadded
    have hempty : added = [] := List.self_eq_append_right.mp hadded
    rw [hempty] at he
    cases he

/-- A stretch of a run from a state without an entry yet: it appends one exactly when every step
meets the condition. -/
theorem appends_iff_of_unrecorded (hnode : s.task.node? = some n)
    (hpc : s.task.unrecorded = true)
    (hrun : (machine cfg approvalId manifest).exec s during = some t)
    (hinside : (machine cfg approvalId manifest).Guarded (fun u _ => u.task.node? = some n) s
      during)
    (hleft : t.task.node? ≠ some n) :
    Appends n s t ↔ (machine cfg approvalId manifest).Guarded (Proceeds cfg manifest) s during := by
  induction during generalizing s with
  | nil =>
    obtain rfl := Option.some.inj hrun
    exact absurd hnode hleft
  | cons a as ih =>
    obtain ⟨u, hstep, hrest⟩ := (machine cfg approvalId manifest).exec_cons_eq_some.mp hrun
    have hinside' := hinside.2 u hstep
    rw [Machine.guarded_cons_iff _ hstep]
    by_cases hother : ∀ input, a ≠ .task input
    · have htask := (sameTrails_of_other hstep hother).1
      have hproceeds : Proceeds cfg manifest s a := by
        cases a with
        | task input => exact absurd rfl (hother input)
        | _ => trivial
      rw [← ih (htask ▸ hnode) (htask ▸ hpc) hrest hinside', and_iff_right hproceeds]
      unfold Appends
      rw [trail_of_other hstep hother]
    · obtain ⟨input, rfl⟩ := not_forall_not.mp hother
      obtain ⟨o, ho, hmem, htask⟩ := runTask_of_step hstep
      have htrail : u.trail = o.pc.trail (o.mem.contracts pipelineContract) := by
        unfold trail
        rw [hmem, htask]
      cases Graph.runTask_visitStep hnode hpc ho with
      | silent hproceeds hnode' hpc' hsame =>
        rw [← ih (htask ▸ hnode') (htask ▸ hpc') hrest hinside']
        unfold Appends
        rw [htrail, hsame]
        exact (and_iff_right hproceeds).symm
      | records hproceeds hreturns hdone hadded =>
        obtain ⟨entry, hagent, hadded⟩ := hadded
        have hnotAgent (node : AgentNode) : n ≠ .agent node := by
          rintro rfl
          rw [TaskAt.unrecorded_of_agent hnode] at hpc
          cases hpc
        rw [← htask] at hreturns hdone
        obtain ⟨happends, hguard⟩ := appends_of_recorded hagent hnotAgent (htrail.trans hadded)
          hreturns hdone hrest hinside' hleft
        exact iff_of_true happends ⟨hproceeds, hguard⟩
      | stops hproceeds hnode' hintake hsame =>
        have hnil := during_eq_nil (by rw [htask]; exact hnode') hinside'
        subst hnil
        obtain rfl := Option.some.inj hrest
        rw [← htask] at hintake
        exact iff_of_false (not_appends_of_stops hintake fun hn => htrail.trans (hsame hn))
          fun h => hproceeds h.1

/-- The condition on the steps of an agent. -/
theorem proceeds_agent_iff {node : AgentNode} {input : TaskInput} (hnode : s.task = .agent node) :
    Proceeds cfg manifest s (.task input) ↔ input ≠ .agentRaises ∧
      (node = .analysis → AnalyzerAgent.skips (s.mem.contracts pipelineContract) = false) := by
  unfold Proceeds
  rw [hnode]
  cases node <;> cases input <;> simp [Graph.Proceeds]

/-- A stretch of a run within an agent appends what the agent writes, and meets the condition if it
returns and the analyzer is not told that its fields are fresh. -/
structure AgentStretch (cfg : PipelineConfig) (approvalId : String) (manifest : Py.Dict)
    (node : AgentNode) (s : Gateway) (during : List GatewayAction) (t : Gateway) : Prop where
  trail : t.trail = s.trail ++ (agentWrites during).flatMap AgentWrite.entries
  proceeds : (machine cfg approvalId manifest).Guarded (Proceeds cfg manifest) s during ↔
    t.task.isFailed = false ∧
      (node = .analysis → AnalyzerAgent.skips (s.mem.contracts pipelineContract) = false)

theorem trail_of_agent {node : AgentNode} (hnode : s.task = .agent node) :
    s.trail = (s.mem.contracts pipelineContract).workflowProvenance := by
  unfold trail
  rw [hnode]
  rfl

/-- Decisions and endpoints in between. -/
theorem AgentStretch.other {node : AgentNode} {as : List GatewayAction}
    (hstep : (machine cfg approvalId manifest).step s a = some u)
    (hother : ∀ input, a ≠ .task input) (h : AgentStretch cfg approvalId manifest node u as t) :
    AgentStretch cfg approvalId manifest node s (a :: as) t := by
  have hsame := (sameTrails_of_other hstep hother).2
  have hskips : AnalyzerAgent.skips (u.mem.contracts pipelineContract) =
      AnalyzerAgent.skips (s.mem.contracts pipelineContract) := by
    unfold AnalyzerAgent.skips AnalyzerAgent.needsSelectiveReanalysis
    rw [hsame pipelineContract]
  constructor
  · rw [h.trail, trail_of_other hstep hother]
    cases a with
    | task input => exact absurd rfl (hother input)
    | _ => rfl
  · rw [Machine.guarded_cons_iff _ hstep, h.proceeds, hskips]
    cases a with
    | task input => exact absurd rfl (hother input)
    | _ => exact and_iff_right trivial

section Agent

variable {node : AgentNode} {as : List GatewayAction} (hnode : s.task = .agent node)

include hnode

/-- A write, and the rest of the stretch. -/
theorem AgentStretch.writes {write : AgentWrite}
    (hstep : (machine cfg approvalId manifest).step s (.task (.agentWrites write)) = some u)
    (h : u.task = .agent node → AgentStretch cfg approvalId manifest node u as t) :
    AgentStretch cfg approvalId manifest node s (.task (.agentWrites write) :: as) t := by
  obtain ⟨o, ho, hmem, htask⟩ := runTask_of_step hstep
  rw [hnode] at ho
  simp only [Graph.runTask] at ho
  split at ho
  · obtain rfl := Option.some.inj ho
    obtain ⟨htrail, hguard⟩ := h htask
    obtain ⟨hentries, hcount, hstale⟩ :=
      Graph.agentWrite_trail write (s.mem.contracts pipelineContract)
    have hcontract : u.mem.contracts pipelineContract =
        write.apply (s.mem.contracts pipelineContract) := by
      rw [hmem, Memory.modifyContract_self]
    have hskips : AnalyzerAgent.skips (u.mem.contracts pipelineContract) =
        AnalyzerAgent.skips (s.mem.contracts pipelineContract) := by
      unfold AnalyzerAgent.skips AnalyzerAgent.needsSelectiveReanalysis
      rw [hcontract, hcount, hstale]
    constructor
    · rw [htrail, trail_of_agent htask, hcontract, hentries, trail_of_agent hnode,
        List.append_assoc]
      rfl
    · rw [Machine.guarded_cons_iff _ hstep, proceeds_agent_iff hnode, hguard, hskips]
      exact ⟨fun h => h.2, fun h => ⟨⟨TaskInput.noConfusion, h.2⟩, h⟩⟩
  · cases ho

/-- The agent returns, and the visit is over. -/
theorem agentStretch_returns {now : Time}
    (hstep : (machine cfg approvalId manifest).step s (.task (.agentReturns now)) = some u) :
    u.task.node? ≠ some (.agent node) ∧
      AgentStretch cfg approvalId manifest node s [.task (.agentReturns now)] u := by
  obtain ⟨o, ho, hmem, htask⟩ := runTask_of_step hstep
  rw [hnode] at ho
  obtain rfl := Option.some.inj ho
  have hreturned : u.task.isFailed = false := by
    rw [htask]
    cases node <;> rfl
  refine ⟨by rw [htask]; cases node <;> rintro ⟨⟩, ?_, ?_⟩
  · rw [trail_of_agent hnode]
    unfold trail
    rw [htask, hmem]
    cases node <;> exact (List.append_nil _).symm
  · rw [Machine.guarded_cons_iff _ hstep, proceeds_agent_iff hnode]
    exact ⟨fun h => ⟨hreturned, h.1.2⟩, fun h => ⟨⟨nofun, h.2⟩, trivial⟩⟩

/-- The agent raises, and the visit is over. -/
theorem agentStretch_raises
    (hstep : (machine cfg approvalId manifest).step s (.task .agentRaises) = some u) :
    u.task.node? ≠ some (.agent node) ∧
      AgentStretch cfg approvalId manifest node s [.task .agentRaises] u := by
  obtain ⟨o, ho, hmem, htask⟩ := runTask_of_step hstep
  rw [hnode] at ho
  obtain rfl := Option.some.inj ho
  refine ⟨by rw [htask]; rintro ⟨⟩, ?_, ?_⟩
  · rw [trail_of_agent hnode]
    unfold trail
    rw [htask, hmem]
    exact (List.append_nil _).symm
  · rw [Machine.guarded_cons_iff _ hstep, proceeds_agent_iff hnode]
    refine iff_of_false (fun h => h.1.1 rfl) fun h => ?_
    rw [htask] at h
    cases h.1

end Agent

/-- A stretch of a run within an agent. -/
theorem agent_stretch {node : AgentNode} (hnode : s.task = .agent node)
    (hrun : (machine cfg approvalId manifest).exec s during = some t)
    (hinside : (machine cfg approvalId manifest).Guarded
      (fun u _ => u.task.node? = some (.agent node)) s during)
    (hleft : t.task.node? ≠ some (.agent node)) :
    AgentStretch cfg approvalId manifest node s during t := by
  induction during generalizing s with
  | nil =>
    obtain rfl := Option.some.inj hrun
    exact absurd (by rw [hnode]; rfl) hleft
  | cons a as ih =>
    obtain ⟨u, hstep, hrest⟩ := (machine cfg approvalId manifest).exec_cons_eq_some.mp hrun
    have hinside' := hinside.2 u hstep
    -- once the agent has returned or raised, nothing follows
    have hover (h : u.task.node? ≠ some (.agent node) ∧
        AgentStretch cfg approvalId manifest node s [a] u) :
        AgentStretch cfg approvalId manifest node s (a :: as) t := by
      have hnil := during_eq_nil h.1 hinside'
      subst hnil
      obtain rfl := Option.some.inj hrest
      exact h.2
    by_cases hother : ∀ input, a ≠ .task input
    · have htask := (sameTrails_of_other hstep hother).1
      exact .other hstep hother (ih (htask.trans hnode) hrest hinside')
    · obtain ⟨input, rfl⟩ := not_forall_not.mp hother
      cases input with
      | agentWrites write => exact .writes hnode hstep fun h => ih h hrest hinside'
      | agentReturns now => exact hover (agentStretch_returns hnode hstep)
      | agentRaises => exact hover (agentStretch_raises hnode hstep)
      | _ =>
        obtain ⟨o, ho, -, -⟩ := runTask_of_step hstep
        rw [hnode] at ho
        cases ho

/-- **The provenance is append-only, and a visit is recorded exactly when nothing keeps it from
proceeding.** In every run, from whatever state, no entry is lost; and a visit of a state of the
graph appends an entry of that state if and only if in each of its steps no exception leaves the
state, EXECUTION does not find the operation executed, and the analyzer does not find its fields
fresh. -/
theorem visit_appends_iff {before : List GatewayAction}
    (hrun : (machine cfg approvalId manifest).exec u before = some s)
    (hvisit : Visit cfg analyzer formats approvalId manifest n s during t) :
    u.trail <+: s.trail ∧ s.trail <+: t.trail ∧
      (Appends n s t ↔
        (machine cfg approvalId manifest).Guarded (Proceeds cfg manifest) s during) := by
  refine ⟨trail_exec hrun, trail_exec hvisit.run, ?_⟩
  by_cases hagent : ∃ node, n = .agent node
  · obtain ⟨node, rfl⟩ := hagent
    have hnode : s.task = .agent node := by
      have hnode := hvisit.node
      cases h : s.task <;> rw [h] at hnode <;> cases hnode
      rfl
    obtain ⟨htrail, hguard⟩ := agent_stretch hnode hvisit.run hvisit.inside hvisit.left
    obtain ⟨hrecorded, hunrecorded⟩ := (hvisit.agent node rfl).entries
    rw [hguard]
    unfold Appends
    rw [htrail]
    constructor
    · rintro ⟨hreturned, added, hadded, e, he, -⟩
      refine ⟨hreturned, ?_⟩
      by_contra hskips
      have hempty := hunrecorded fun h => hskips h.2
      rw [← List.append_cancel_left hadded, hempty] at he
      cases he
    · rintro ⟨hreturned, hfresh⟩
      exact ⟨hreturned, _, rfl, hrecorded ⟨by rw [hreturned]; rfl, hfresh⟩⟩
  · refine appends_iff_of_unrecorded hvisit.node ?_ hvisit.run hvisit.inside hvisit.left
    have hnode := hvisit.node
    have hentering := hvisit.entering
    cases h : s.task with
    | humanReview pc =>
      rw [h] at hentering
      exact hentering
    | agent node =>
      rw [h] at hnode
      exact absurd ⟨node, (Option.some.inj hnode).symm⟩ hagent
    | intake | riskGate _ | execution _ | audit _ => rfl
    | _ =>
      rw [h] at hnode
      cases hnode

/-! ## A run that is evaluated -/

/-- The workflow of `sampleManifest`, submitted when a run of the same operation has executed it
already. -/
def executedSample : Gateway :=
  { sample with mem := WorkflowStore.setExecutionResult sampleMemory "cg_1" [] 1 }

/-- An APPROVE that arrives before the review, and on to EXECUTION. -/
def toExecution : List GatewayAction :=
  toReview ++
    [.postDecision (sampleDecision "APPROVE") 2, .task (.review (.notified (.result .null) 3)),
      .task (.review (.resume 3)), .task (.review (.resume 3)), .task (.review (.resume 3)),
      .task (.review (.resume 3)), .task (.review (.resume 3)), .task (.resume 3)]

/-- EXECUTION of an operation that has been executed appends nothing. -/
theorem executed_not_appended (cfg : PipelineConfig) (analyzer : AnalyzerConfig)
    (formats : ContractFormats) (approvalId : String) (manifest : Py.Dict) (now : Time) {r : Ref}
    (htask : s.task = .execution .start)
    (hstore : s.mem.store (s.mem.contracts pipelineContract).operationId = some r)
    (hcompleted : (s.mem.records r).executionCompleted = true) :
    ∃ t, Visit cfg analyzer formats approvalId manifest .execution s
        [.task (.execution (.resume now)), .task (.execution (.resume now))] t ∧
      t.trail = s.trail := by
  have hget : (machine cfg approvalId manifest).step s (.task (.execution (.resume now))) =
      some { s with task := .execution (.got (some r)) } := by
    simp [machine, resumeTask, Graph.runTask, Execution.runExecution, htask, WorkflowStore.get,
      hstore, Graph.within, Graph.afterExecution]
  have hskip : (machine cfg approvalId manifest).step
        { s with task := .execution (.got (some r)) } (.task (.execution (.resume now))) =
      some { s with
        mem := s.mem.modifyContract pipelineContract fun c => { c with executionSuccess := some true }
        task := .audit .logging } := by
    simp [machine, resumeTask, Graph.runTask, Execution.runExecution, Execution.checkAndCall,
      hcompleted, Graph.within, Graph.afterExecution]
  refine ⟨{ s with
      mem := s.mem.modifyContract pipelineContract fun c => { c with executionSuccess := some true }
      task := .audit .logging },
    ⟨by rw [htask]; rfl, by rw [htask]; rfl, ?_, ?_, by rintro ⟨⟩, by rintro _ ⟨⟩⟩, ?_⟩
  · exact Machine.exec_cons_eq_some _ |>.mpr
      ⟨_, hget, Machine.exec_cons_eq_some _ |>.mpr ⟨_, hskip, rfl⟩⟩
  · exact Machine.guarded_cons _ hget (by rw [htask]; rfl) (Machine.guarded_cons _ hskip rfl trivial)
  · unfold trail
    rw [htask]
    dsimp only [TaskAt.trail]
    rw [Memory.modifyContract_self]

theorem visit_not_appending :
    ¬ ∀ (analyzer : AnalyzerConfig) (formats : ContractFormats) (before : List GatewayAction)
      (n : GraphNode) (s t : Gateway) (during : List GatewayAction),
      (machine sampleConfig "cg_1" sampleManifest).exec executedSample before = some s →
      Visit sampleConfig analyzer formats "cg_1" sampleManifest n s during t →
      Appends n s t := by
  intro hclaim
  obtain ⟨s, hrun, htask, hstore, hcompleted⟩ : ∃ s,
      (machine sampleConfig "cg_1" sampleManifest).exec executedSample toExecution = some s ∧
      s.task = .execution .start ∧
      s.mem.store (s.mem.contracts pipelineContract).operationId = some 0 ∧
      (s.mem.records 0).executionCompleted = true := ⟨_, rfl, rfl, rfl, rfl⟩
  obtain ⟨t, hvisit, htrail⟩ := executed_not_appended sampleConfig .ascii .plain "cg_1"
    sampleManifest 4 htask hstore hcompleted
  obtain ⟨-, added, hadded, e, he, -⟩ := hclaim _ _ _ _ _ _ _ hrun hvisit
  rw [htrail] at hadded
  rw [List.self_eq_append_right.mp hadded] at he
  cases he

/-- The INTAKE of the operation is recorded. -/
theorem visit_appends_iff_intake :
    ∃ s t : Gateway,
      (machine sampleConfig "cg_1" sampleManifest).exec sample [.task (.resume 1)] = some s ∧
      (machine sampleConfig "cg_1" sampleManifest).exec s [.task (.generatedId "cg_1" 1)] =
        some t ∧
      Appends .intake s t := by
  obtain ⟨s, t, hrun, hvisit, htask, htask'⟩ : ∃ s t : Gateway,
      (machine sampleConfig "cg_1" sampleManifest).exec sample [.task (.resume 1)] = some s ∧
      (machine sampleConfig "cg_1" sampleManifest).exec s [.task (.generatedId "cg_1" 1)] =
        some t ∧ s.task = .intake ∧ t.task = .riskGate .explaining := ⟨_, _, rfl, rfl, rfl, rfl⟩
  refine ⟨s, t, hrun, hvisit, ?_⟩
  have hintake : Visit sampleConfig .ascii .plain "cg_1" sampleManifest .intake s
      [.task (.generatedId "cg_1" 1)] t :=
    { node := by rw [htask]; rfl
      entering := by rw [htask]; rfl
      run := hvisit
      inside := ⟨congrArg TaskAt.node? htask, fun _ _ => trivial⟩
      left := by rw [htask']; nofun
      agent := nofun }
  refine (visit_appends_iff hrun hintake).2.2.mpr ⟨?_, fun _ _ => trivial⟩
  unfold Proceeds
  rw [htask]
  exact ⟨⟨"DELETE FROM t", rfl, rfl⟩, rfl, rfl, rfl, rfl⟩

end Gateway
