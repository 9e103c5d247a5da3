import ContraGate.Library.Components
import ContraGate.ProxyRuns
import ContraGate.TargetCalls

/-!
# The proxy refines its workflows

As one workflow sees it, the proxy is that workflow alone (`Proxy.component`): a run of the proxy
is, from the call on that brought the workflow, the run of the workflow on the actions addressed to
its id. So a result about every run of one workflow is a result about every workflow of the proxy,
and no workflow can be told from within which others run beside it.
-/

namespace Proxy

variable {cfg : PipelineConfig} {s t u : Proxy} {id : String} {w : Workflow}
  {before actions : List ProxyAction}

/-- A workflow that runs is never replaced. -/
theorem workflows_step {action : ProxyAction} (h : s.Sound cfg)
    (hstep : (machine cfg).step s action = some t) (hw : s.workflows id = some w) :
    t.workflows id = some w := by
  cases action with
  | submit call hex now =>
    rcases submit_cases hstep with rfl | ⟨c, -, -, hnone, rfl⟩
    · exact hw
    · obtain ⟨rfl, hruns⟩ := h.runs id w hw
      have hid : w.approvalId ≠ c.operationId := fun heq => by
        rw [← heq, hruns.owns.record] at hnone
        cases hnone
      simpa [withWorkflow, newWorkflow, hid] using hw
  | workflow id' a => rw [(stepFor_of_step h hstep).workflows, hw]

/-- **The proxy, as one of its workflows sees it, is that workflow alone.** -/
theorem component (cfg : PipelineConfig) (w : Workflow) :
    (machine cfg).Component
      (Gateway.machine cfg w.approvalId (w.manifest cfg.toExecutionConfig))
      (fun s => s.Sound cfg ∧ s.workflows w.approvalId = some w) (gateway w)
      (ProxyAction.seenBy w.approvalId) where
  invariant h hstep := ⟨sound_step h.1 hstep, workflows_step h.1 hstep h.2⟩
  own_step := by
    rintro s action t b ⟨hsound, hw⟩ hstep hseen
    cases action with
    | submit call hex now => cases hseen
    | workflow id a =>
      rw [ProxyAction.seenBy, Option.ite_none_right_eq_some] at hseen
      obtain ⟨rfl, hsame⟩ := hseen
      obtain rfl := Option.some.inj hsame
      exact own_step (hsound.runs _ w hw).2 hw hstep
  other_step := by
    rintro s action t ⟨hsound, hw⟩ hstep hseen
    cases action with
    | submit call hex now =>
      rcases submit_cases hstep with rfl | ⟨c, -, -, hnone, rfl⟩
      · rfl
      · exact seenBy_withWorkflow hsound hnone hw
    | workflow id a =>
      have hid : id ≠ w.approvalId := fun heq => by simp [ProxyAction.seenBy, heq] at hseen
      exact other_step hsound hw hid (stepFor_of_step hsound hstep)

theorem sound_exec (h : s.Sound cfg) (hrun : (machine cfg).exec s actions = some t) :
    t.Sound cfg :=
  Machine.exec_preserves _ (fun _ _ _ => sound_step) h hrun

/-- A workflow comes with a call, and starts with the manifest of that call in its record. -/
theorem submitted_of_step {action : ProxyAction} (h : s.Sound cfg)
    (hstep : (machine cfg).step s action = some t) (hbefore : s.workflows id = none)
    (hafter : t.workflows id = some w) :
    ∃ hex now c, action = .submit w.call hex now ∧ id = "cg_" ++ hex ∧ w.approvalId = id ∧
      Intake.runIntake cfg.toIntakeConfig
        (w.call.withHash (cfg.manifestHash w.call.toDict)) id now = some c ∧
      Gateway.Submitted id (w.manifest cfg.toExecutionConfig) (t.gateway w) := by
  cases action with
  | submit call hex now =>
    rcases submit_cases hstep with rfl | ⟨c, hc, hid, hnone, rfl⟩
    · rw [hbefore] at hafter
      cases hafter
    · have hcreated : id = c.operationId ∧ w = s.newWorkflow call c.operationId := by
        by_cases heq : id = c.operationId
        · subst heq
          exact ⟨rfl, by simpa [withWorkflow, newWorkflow] using hafter.symm⟩
        · simp [withWorkflow, newWorkflow, heq, hbefore] at hafter
      obtain ⟨rfl, rfl⟩ := hcreated
      refine ⟨hex, now, c, rfl, hid, rfl, hid ▸ hc, ?_⟩
      refine ⟨gateway_started (Intake.runIntake_fresh hc).1 hnone h, fun r hr => ?_⟩
      obtain rfl : s.mem.nextRecord = r := by
        simpa [gateway, withWorkflow, newWorkflow, Memory.seenBy, WorkflowStore.create] using hr
      simp [gateway, withWorkflow, newWorkflow, Memory.seenBy, Memory.recordsSeenBy,
        WorkflowStore.create]
  | workflow id' a =>
    rw [(stepFor_of_step h hstep).workflows, hbefore] at hafter
    cases hafter

/-- Where the run of a workflow begins in a run of the proxy. -/
structure Begins (cfg : PipelineConfig) (s : Proxy) (actions : List ProxyAction) (id : String)
    (w : Workflow) (u : Proxy) (after : List ProxyAction) : Prop where
  /-- The call of the workflow, and what is run before it. -/
  call : ∃ before hex now c, actions = before ++ .submit w.call hex now :: after ∧
    (machine cfg).exec s (before ++ [.submit w.call hex now]) = some u ∧ id = "cg_" ++ hex ∧
    Intake.runIntake cfg.toIntakeConfig
      (w.call.withHash (cfg.manifestHash w.call.toDict)) id now = some c
  approvalId : w.approvalId = id
  workflows : u.workflows id = some w
  submitted : Gateway.Submitted id (w.manifest cfg.toExecutionConfig) (u.gateway w)

/-- A workflow that is there at the end of a run has begun in it. -/
theorem begins_of_exec (hboot : s.Booted) (hrun : (machine cfg).exec s actions = some t)
    (hw : t.workflows id = some w) :
    ∃ u after, Begins cfg s actions id w u after ∧ u.Sound cfg ∧
      (machine cfg).exec u after = some t := by
  obtain ⟨before, action, after, u, v, rfl, hu, hv, hafter, hnone, hsome⟩ :=
    (machine cfg).exec_changes (P := fun s => (s.workflows id).isSome = true)
      (by simp [hboot.workflows]) (by simp [hw]) hrun
  have hsound := sound_exec hboot.sound hu
  obtain ⟨w', hw'⟩ := Option.isSome_iff_exists.mp hsome
  -- what has begun there is still there, so it is `w`
  have hkept := Machine.exec_preserves (machine cfg)
    (I := fun s => s.Sound cfg ∧ s.workflows id = some w')
    (fun _ _ _ h hstep => ⟨sound_step h.1 hstep, workflows_step h.1 hstep h.2⟩)
    ⟨sound_step hsound hv, hw'⟩ hafter
  obtain rfl : w = w' := Option.some.inj (hw.symm.trans hkept.2)
  obtain ⟨hex, now, c, rfl, hid, happroval, hc, hsubmitted⟩ :=
    submitted_of_step hsound hv (by simpa using hnone) hw'
  refine ⟨v, after, ⟨⟨before, hex, now, c, rfl, ?_, hid, hc⟩, happroval, hw', hsubmitted⟩,
    sound_step hsound hv, hafter⟩
  exact (machine cfg).exec_append_eq_some.mpr
    ⟨u, hu, (machine cfg).exec_cons_eq_some.mpr ⟨v, hv, rfl⟩⟩

/-- **Every workflow of the proxy runs alone.** In a run from the start of the process, a workflow
begins with the call that it was made for, in the state of a workflow just submitted, and what has
become of it at the end is what the workflow alone comes to on the actions addressed to its id. -/
theorem workflow_runs_alone (hboot : s.Booted) (hrun : (machine cfg).exec s actions = some t)
    (hw : t.workflows id = some w) :
    ∃ u after, Begins cfg s actions id w u after ∧
      (Gateway.machine cfg id (w.manifest cfg.toExecutionConfig)).exec (u.gateway w)
        (after.filterMap (ProxyAction.seenBy id)) = some (t.gateway w) := by
  obtain ⟨u, after, hbegins, hsound, hafter⟩ := begins_of_exec hboot hrun hw
  obtain rfl := hbegins.approvalId
  exact ⟨u, after, hbegins, (component cfg w).exec ⟨hsound, hbegins.workflows⟩ hafter⟩

/-- Both workflows are started, the second one first. -/
theorem workflow_runs_alone_two :
    ∃ t w, (machine Gateway.sampleConfig).exec sample
        (twoCalls ++ [.workflow "cg_2" (.task (.resume 1)), .workflow "cg_1" (.task (.resume 1))]) =
          some t ∧ t.workflows "cg_1" = some w ∧
      ∃ u after, Begins Gateway.sampleConfig sample
          (twoCalls ++
            [.workflow "cg_2" (.task (.resume 1)), .workflow "cg_1" (.task (.resume 1))])
          "cg_1" w u after ∧
        (Gateway.machine Gateway.sampleConfig "cg_1"
          (w.manifest Gateway.sampleConfig.toExecutionConfig)).exec (u.gateway w)
            (after.filterMap (ProxyAction.seenBy "cg_1")) = some (t.gateway w) := by
  have hrun : (machine Gateway.sampleConfig).exec sample (twoCalls ++
      [.workflow "cg_2" (.task (.resume 1)), .workflow "cg_1" (.task (.resume 1))]) = some _ := rfl
  exact ⟨_, _, hrun, rfl, workflow_runs_alone sample_booted hrun rfl⟩

/-- **Workflows do not interfere.** Two runs that are in a state where the workflow looks the same,
and that go on with the same actions for its id, whatever else they do, end in states where it
looks the same. -/
theorem workflows_do_not_interfere {s' t' u' : Proxy} {before' after after' : List ProxyAction}
    (hboot : s.Booted) (hboot' : s'.Booted) (hbefore : (machine cfg).exec s before = some u)
    (hbefore' : (machine cfg).exec s' before' = some u') (hw : u.workflows id = some w)
    (hw' : u'.workflows id = some w) (hlooks : u.gateway w = u'.gateway w)
    (hown : after.filterMap (ProxyAction.seenBy id) = after'.filterMap (ProxyAction.seenBy id))
    (hrun : (machine cfg).exec u after = some t) (hrun' : (machine cfg).exec u' after' = some t') :
    t.gateway w = t'.gateway w := by
  have hsound := sound_exec hboot.sound hbefore
  obtain ⟨rfl, -⟩ := hsound.runs id w hw
  exact (component cfg w).exec_congr ⟨hsound, hw⟩ ⟨sound_exec hboot'.sound hbefore', hw'⟩ hlooks
    hown hrun hrun'

/-- The proxy after two calls. -/
def bothSubmitted : Proxy := ((machine Gateway.sampleConfig).exec sample twoCalls).getD sample

def firstAlone : List ProxyAction := [.workflow "cg_1" (.task (.resume 1))]

/-- The other call is decided before the task of the first one starts. -/
def firstBeside : List ProxyAction :=
  [.workflow "cg_2" (.postDecision (sampleDecision "REJECT") 1),
    .workflow "cg_1" (.task (.resume 1)), .workflow "cg_2" (.endpointStatus 0 1)]

theorem workflows_do_not_interfere_two :
    ∃ w t t', (machine Gateway.sampleConfig).exec bothSubmitted firstAlone = some t ∧
      (machine Gateway.sampleConfig).exec bothSubmitted firstBeside = some t' ∧
      t.workflows "cg_1" = some w ∧ t.gateway w = t'.gateway w := by
  have hbefore : (machine Gateway.sampleConfig).exec sample twoCalls = some bothSubmitted := rfl
  have hw : bothSubmitted.workflows "cg_1" = some _ := rfl
  have hown : firstAlone.filterMap (ProxyAction.seenBy "cg_1") =
      firstBeside.filterMap (ProxyAction.seenBy "cg_1") := rfl
  exact ⟨_, _, _, rfl, rfl, rfl, workflows_do_not_interfere sample_booted sample_booted hbefore
    hbefore hw hw rfl hown rfl rfl⟩

end Proxy
