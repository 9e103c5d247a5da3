import ContraGate.ProxyIsolation

/-!
# What the target is asked for, over all workflows

Each workflow of the proxy runs alone, so what one workflow may ask the target for is what any of
them may ask for beside the others.
-/

namespace Proxy

variable {cfg : PipelineConfig} {s t : Proxy} {id : String} {w : Workflow}
  {actions : List ProxyAction}

/-- **The proxy calls as it was approved.** In every run from the start of the process, whichever
calls are intercepted, whatever is decided when and in whatever order the tasks go on, the target is
called for each workflow once at most, with the call that was intercepted for it, and under a
standing approval of that workflow. -/
theorem calls_as_approved (hboot : s.Booted) (hrun : (machine cfg).exec s actions = some t)
    (hw : t.workflows id = some w) : CallsAsApproved w.call.original (t.log id) := by
  obtain ⟨u, after, hbegins, hsound, hafter⟩ := begins_of_exec hboot hrun hw
  obtain rfl := hbegins.approvalId
  obtain ⟨_, _, _, _, -, -, -, hintake⟩ := hbegins.call
  exact Gateway.callsAsApproved (Intake.sql_ne_empty hintake) hbegins.submitted
    ((component cfg w).exec ⟨hsound, hbegins.workflows⟩ hafter)

/-- Two calls; the first one is approved and executed, the second one rejected. -/
def firstApproved : List ProxyAction :=
  twoCalls ++ (.workflow "cg_2" (.postDecision (sampleDecision "REJECT") 1)) ::
    Gateway.approved.map fun a => .workflow "cg_1" a

theorem calls_as_approved_first :
    ∃ t w call older, (machine Gateway.sampleConfig).exec sample firstApproved = some t ∧
      t.workflows "cg_1" = some w ∧ t.log "cg_1" = .sent call :: older ∧
      CallsAsApproved w.call.original (t.log "cg_1") := by
  have hrun : (machine Gateway.sampleConfig).exec sample firstApproved = some _ := rfl
  exact ⟨_, _, _, _, hrun, rfl, rfl, calls_as_approved sample_booted hrun rfl⟩

end Proxy
