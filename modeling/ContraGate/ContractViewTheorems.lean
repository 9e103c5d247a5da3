import ContraGate.ContractView
import ContraGate.ReviewedContract

/-!
# What is approved on the page is what is executed

The page shows nothing that the store did not hold at some moment of the run (`exec_known`), however
its fetches overtake each other. So if an assembled and pending contract is approved on it, and no
MODIFY is accepted after that contract was read, the operation that is executed is the one that was
on the page, and a permanent one has been acknowledged there (`executes_as_approved`).
-/

open Gateway

/-! ## The contract as JSON -/

namespace HandoffContract

/-- A field of the contract, in its JSON. -/
theorem field_modelDumpJson (c : HandoffContract) (f : ContractField) :
    Js.field c.modelDumpJson f.name = (ContractJson.codec .strict f).encode (f.get c) := by
  have hentries : c.modelDumpJson =
      .obj ((ContractJson.schema .strict 0).entries fun f => f.get c) := rfl
  rw [hentries]
  have hlookup := (ContractJson.schema .strict 0).lookup_entries (fun f => f.get c) f
  exact congrArg (Option.getD · .null) hlookup

theorem isText_reversibility (c : HandoffContract) :
    Js.isText (Js.field c.modelDumpJson "reversibility") "PERMANENT" =
      decide (c.reversibility = some .permanent) := by
  rw [show "reversibility" = ContractField.reversibility.name from rfl, field_modelDumpJson]
  show Js.isText ((ContractJson.codec .strict .reversibility).encode c.reversibility) _ = _
  cases c.reversibility with
  | none => rfl
  | some r => cases r <;> rfl

theorem contractAssembled_of_field {c : HandoffContract}
    (h : Js.truthy (Js.field c.modelDumpJson "contract_assembled") = true) :
    c.contractAssembled = true := by
  rwa [show "contract_assembled" = ContractField.contractAssembled.name from rfl,
    field_modelDumpJson] at h

theorem approvalState_of_field {c : HandoffContract}
    (h : Js.isText (Js.field c.modelDumpJson "approval_state") "PENDING" = true) :
    c.approvalState = .pending := by
  rw [show "approval_state" = ContractField.approvalState.name from rfl, field_modelDumpJson] at h
  change Js.isText ((ContractJson.codec .strict .approvalState).encode c.approvalState) _ = true
    at h
  cases hstate : c.approvalState with
  | pending => rfl
  | _ => rw [hstate] at h; exact absurd h (by decide)

end HandoffContract

/-! ## What the page shows -/

namespace ContractView

@[simp] theorem render_contractData (v : ContractView) :
    v.render.contractData = v.contractData := by
  unfold render
  split <;> rfl

@[simp] theorem sendEnded_contractData (v : ContractView) (mount : ℕ) (error : Option String) :
    (v.sendEnded mount error).contractData = v.contractData := by
  unfold sendEnded
  split <;> rfl

/-- The page shows an assembled contract that nobody has decided. -/
structure ShowsPending (v : ContractView) : Prop where
  assembled : Js.truthy (Js.field v.contract "contract_assembled") = true
  pending : Js.isText (Js.field v.contract "approval_state") "PENDING" = true

instance (v : ContractView) : Decidable v.ShowsPending :=
  decidable_of_iff (Js.truthy (Js.field v.contract "contract_assembled") = true ∧
    Js.isText (Js.field v.contract "approval_state") "PENDING" = true)
    ⟨fun h => ⟨h.1, h.2⟩, fun h => ⟨h.assembled, h.pending⟩⟩

end ContractView

namespace DecisionPage

variable {cfg : PipelineConfig} {agents : AgentSettings} {approvalId : String} {manifest : Py.Dict}
  {printable : Char → Bool} {s t u v w : DecisionPage} {a : DecisionPageAction}
  {P Q : Py.Json → Prop}

/-- What has been fetched, and what is shown, has the property. -/
structure Known (P : Py.Json → Prop) (s : DecisionPage) : Prop where
  fetched : ∀ json, .answered (.data json) ∈ s.fetches → P json
  shown : s.view.contractData = .null ∨ P s.view.contractData

theorem Known.mono (h : s.Known P) (hPQ : ∀ json, P json → Q json) : s.Known Q where
  fetched json hjson := hPQ json (h.fetched json hjson)
  shown := h.shown.imp_right (hPQ _)

/-- The page goes on, with the same contract and no new answer. -/
theorem Known.of_same (h : s.Known P) (hview : t.view.contractData = s.view.contractData)
    (hfetches : ∀ json, .answered (.data json) ∈ t.fetches → .answered (.data json) ∈ s.fetches) :
    t.Known P where
  fetched json hjson := h.fetched json (hfetches json hjson)
  shown := by rw [hview]; exact h.shown

theorem mem_follow {json : Py.Json} {view : ContractView} {value : String}
    {fetches : List ContractRequest}
    (h : .answered (.data json) ∈ fetches ++ follow view value) :
    .answered (.data json) ∈ fetches := by
  unfold follow at h
  split_ifs at h <;> simpa using h

theorem mem_onDecisionSent {json : Py.Json} {answer : DecisionAnswer}
    {fetches : List ContractRequest}
    (h : .answered (.data json) ∈ fetches ++ onDecisionSent answer) :
    .answered (.data json) ∈ fetches := by
  cases answer <;> simpa [onDecisionSent] using h

/-- In every step the page shows what has been fetched, and fetches what the store holds. -/
theorem known_step (h : s.Known P)
    (hserver : ∀ json, getFullContract approvalId s.server = .data json → P json)
    (hstep : (machine cfg agents approvalId manifest printable).step s a = some t) :
    t.Known P := by
  cases steps_of_step hstep with
  | server | input | click | answerSend => exact h.of_same rfl fun _ => id
  | status => exact h.of_same rfl fun _ => mem_follow
  | answerFetch hi =>
    refine ⟨fun json hjson => ?_, h.shown⟩
    rcases List.mem_or_eq_of_mem_set hjson with hold | hnew
    · exact h.fetched json hold
    · exact hserver json (ContractRequest.answered.inj hnew).symm
  -- an answer arrives, whenever it was read
  | fetched hi =>
    rename_i i answer
    refine ⟨fun json hjson => h.fetched json (List.mem_of_mem_eraseIdx hjson), ?_⟩
    cases answer with
    | data json =>
      refine .inr ?_
      rw [ContractView.fetched, ContractView.render_contractData]
      exact h.fetched json (List.mem_of_getElem? hi)
    | failed message =>
      rw [ContractView.fetched, ContractView.render_contractData]
      exact h.shown
  | fetchFails hi =>
    exact h.of_same (ContractView.render_contractData _) fun _ => List.mem_of_mem_eraseIdx
  | sent => exact h.of_same (ContractView.sendEnded_contractData ..) fun _ => mem_onDecisionSent
  | sendFails => exact h.of_same (ContractView.sendEnded_contractData ..) fun _ => id

/-- The store held the contract at some moment of the run. -/
def WasRead (cfg : PipelineConfig) (agents : AgentSettings) (approvalId : String)
    (manifest : Py.Dict) (printable : Char → Bool) (s : DecisionPage)
    (actions : List DecisionPageAction) (json : Py.Json) : Prop :=
  ∃ x, (machine cfg agents approvalId manifest printable).Visits s actions x ∧
    getFullContract approvalId x.server = .data json

/-- The page shows what the store held at some moment. -/
theorem exec_known {actions : List DecisionPageAction} (hopened : s.Opened)
    (hrun : (machine cfg agents approvalId manifest printable).exec s actions = some t) :
    t.Known (WasRead cfg agents approvalId manifest printable s actions) := by
  have hstart : s.Known (WasRead cfg agents approvalId manifest printable s []) := by
    refine ⟨fun json hjson => ?_, .inl (by rw [hopened.view])⟩
    rw [hopened.fetches] at hjson
    simp at hjson
  refine Machine.exec_history _
    (I := fun actions t => t.Known (WasRead cfg agents approvalId manifest printable s actions))
    hstart ?_ hrun
  intro actions a u v hu hknown hstep
  refine known_step (hknown.mono ?_) ?_ hstep
  · rintro json ⟨x, hx, hjson⟩
    exact ⟨x, hx.append [a], hjson⟩
  · intro json hjson
    exact ⟨u, (Machine.visits_of_exec hu).append [a], hjson⟩

/-! ## From the page to the target -/

/-- A step of the page is one of the workflow, or leaves it as it is. -/
theorem server_step (hstep : (machine cfg agents approvalId manifest printable).step s a = some t) :
    t.server = s.server ∨
      ∃ b, (Pipeline.machine cfg agents approvalId manifest).step s.server b = some t.server := by
  cases steps_of_step hstep with
  | server hb => exact .inr ⟨_, hb⟩
  | answerSend hi hb => exact .inr ⟨_, hb⟩
  | _ => exact .inl rfl

/-- Behind the page there is a run of the workflow. -/
theorem exec_server {actions : List DecisionPageAction}
    (hrun : (machine cfg agents approvalId manifest printable).exec s actions = some t) :
    ∃ steps, (Pipeline.machine cfg agents approvalId manifest).exec s.server steps =
      some t.server := by
  refine Machine.exec_preserves _ (I := fun t => ∃ steps,
    (Pipeline.machine cfg agents approvalId manifest).exec s.server steps = some t.server)
    ?_ ⟨[], rfl⟩ hrun
  rintro u a v ⟨steps, hsteps⟩ hstep
  rcases server_step hstep with hsame | ⟨b, hb⟩
  · exact ⟨steps, hsame ▸ hsteps⟩
  · refine ⟨steps ++ [b], Machine.exec_append_eq_some _ |>.mpr ⟨_, hsteps, ?_⟩⟩
    exact Machine.exec_cons_eq_some _ |>.mpr ⟨_, hb, rfl⟩

/-- What the endpoint sends is the stored contract. -/
theorem contract_of_getFullContract {g : Gateway} {json : Py.Json}
    (h : getFullContract approvalId g = .data json) :
    ∃ c, g.mem.contract? approvalId = some c ∧ Js.field json "contract" = c.modelDumpJson := by
  unfold getFullContract at h
  split at h
  · cases h
  · rename_i r hr
    obtain rfl := ContractAnswer.data.inj h
    exact ⟨_, Memory.contract?_of_store hr, rfl⟩

/-- The button is enabled where it is clicked. -/
theorem acknowledged_of_click
    (hstep : (machine cfg agents approvalId manifest printable).step s (.click .approve) = some t)
    (hpermanent : s.view.isPermanent = true) : s.view.panel.permanentAck = true := by
  cases steps_of_step hstep with
  | click hdecides henabled =>
    simp only [DecisionPanel.enabled, hpermanent, Bool.and_eq_true] at henabled
    simpa using henabled.1.2

/-- **What is approved on the page is what is executed.** In every run of a workflow and a page of
it: if somebody approves an assembled and pending contract on the page, and the target is called
later, then the page shows what the store held at some moment; and if no MODIFY is accepted after
that moment, the call is made on a contract that says the same of the operation, and if the
operation is permanent then the box was ticked. -/
theorem executes_as_approved {before after : List DecisionPageAction} {call : ToolCall}
    (hstarted : Started approvalId s.server) (hopened : s.Opened)
    (hinitial : (s.server.mem.contracts initialContract).contractAssembled = false)
    (hbefore : (machine cfg agents approvalId manifest printable).exec s before = some u)
    (hshows : u.view.ShowsPending)
    (hclick : (machine cfg agents approvalId manifest printable).step u (.click .approve) = some v)
    (hafter : (machine cfg agents approvalId manifest printable).exec v after = some t)
    (hstep : (machine cfg agents approvalId manifest printable).step t a = some w)
    (hsent : w.server.log = .sent call :: t.server.log) :
    ∃ x c, (machine cfg agents approvalId manifest printable).Visits s before x ∧
      x.server.mem.contract? approvalId = some c ∧ u.view.contract = c.modelDumpJson ∧
      ∀ newer, t.server.log = newer ++ x.server.log → NoModify newer →
        c.SameFindings (t.server.mem.contracts pipelineContract) ∧
          ((t.server.mem.contracts pipelineContract).reversibility = some .permanent →
            u.view.panel.permanentAck = true) := by
  have hshown : u.view.contractData ≠ .null := fun hnull => by
    have hassembled := hshows.assembled
    rw [ContractView.contract, hnull] at hassembled
    cases hassembled
  obtain ⟨x, ⟨before₁, before₂, rfl, hx⟩, hread⟩ :=
    (exec_known hopened hbefore).shown.resolve_left hshown
  obtain ⟨c, hc, hjson⟩ := contract_of_getFullContract hread
  have hcontract : u.view.contract = c.modelDumpJson := hjson
  have hassembled := HandoffContract.contractAssembled_of_field (hcontract ▸ hshows.assembled)
  have hpending := HandoffContract.approvalState_of_field (hcontract ▸ hshows.pending)
  refine ⟨x, c, ⟨before₁, before₂, rfl, hx⟩, hc, hcontract, fun newer hlog hmodify => ?_⟩
  -- the workflow up to the moment of reading, and from there on to the call
  obtain ⟨steps, hsteps⟩ := exec_server hx
  obtain ⟨u', hu', hrest⟩ := Machine.exec_append_eq_some _ |>.mp hbefore
  obtain rfl : x = u' := Option.some.inj (hx.symm.trans hu')
  have hx_to_t : (machine cfg agents approvalId manifest printable).exec x
      (before₂ ++ .click .approve :: after) = some t :=
    Machine.exec_append_eq_some _ |>.mpr
      ⟨u, hrest, Machine.exec_cons_eq_some _ |>.mpr ⟨v, hclick, hafter⟩⟩
  obtain ⟨steps', hsteps'⟩ := exec_server hx_to_t
  have hcall : t.server ≠ w.server := fun hsame => by
    rw [← hsame] at hsent
    exact List.cons_ne_self _ _ hsent.symm
  obtain ⟨b, hb⟩ := (server_step hstep).resolve_left hcall.symm
  obtain ⟨-, -, hsame⟩ := Pipeline.reviewed_to_call hstarted hinitial hsteps hc hassembled hpending
    hsteps' hlog hmodify hb hsent
  refine ⟨hsame, fun hpermanent => acknowledged_of_click hclick ?_⟩
  have hanalyzer : c.reversibility = some .permanent := by
    rw [← hpermanent]
    exact (congrArg AnalyzerOutputs.reversibility hsame.analyzer).symm
  rw [ContractView.isPermanent, hcontract, HandoffContract.isText_reversibility, hanalyzer]
  rfl

/-! ## A permanent operation that is approved on the page -/

/-- The page of the sample workflow. -/
def samplePage : DecisionPage where
  server := sample
  view := {}
  fetches := [.sent]
  sends := []

/-- In the review the contract is fetched, and what is asked for is entered. -/
def entered : List DecisionPageAction :=
  (Pipeline.approved.take 13).map .server ++
    [.answerFetch 0, .fetched 0, .input (.setReason "looked at the plan"),
      .input (.setPermanentAck true)]

/-- The decision is sent, and the review goes on to the execution. -/
def decided : List DecisionPageAction :=
  [.answerSend 0 2, .server (.other (.endpointStatus 0 2)), .sent 0] ++
    (Pipeline.approved.drop 15).map .server

/-- The pages of these runs. -/
abbrev sampleMachine : Machine DecisionPage DecisionPageAction :=
  machine sampleConfig Pipeline.sampleAgents "cg_1" sampleManifest fun _ => true

theorem executes_as_approved_clicked : ∃ u v t w call,
    sampleMachine.exec samplePage entered = some u ∧ u.view.isPermanent = true ∧
      sampleMachine.step u (.click .approve) = some v ∧ sampleMachine.exec v decided = some t ∧
      sampleMachine.step t (.server (.other (.task (.execution (.resume 3))))) = some w ∧
      w.server.log = .sent call :: t.server.log ∧
      ∃ x c, sampleMachine.Visits samplePage entered x ∧
        x.server.mem.contract? "cg_1" = some c ∧ u.view.contract = c.modelDumpJson ∧
        ∀ newer, t.server.log = newer ++ x.server.log → NoModify newer →
          c.SameFindings (t.server.mem.contracts pipelineContract) ∧
            ((t.server.mem.contracts pipelineContract).reversibility = some .permanent →
              u.view.panel.permanentAck = true) := by
  have hruns : (sampleMachine.exec samplePage entered).any (fun u =>
      u.view.isPermanent && decide u.view.ShowsPending &&
        (sampleMachine.step u (.click .approve)).any fun v =>
          (sampleMachine.exec v decided).any fun t =>
            Pipeline.aboutToCall sampleConfig.toExecutionConfig t.server) = true := by
    decide +kernel
  obtain ⟨u, hbefore, hu⟩ := Option.any_eq_true _ _ |>.mp hruns
  rw [Bool.and_eq_true, Bool.and_eq_true, decide_eq_true_eq] at hu
  obtain ⟨v, hclick, hv⟩ := Option.any_eq_true _ _ |>.mp hu.2
  obtain ⟨t, hafter, ht⟩ := Option.any_eq_true _ _ |>.mp hv
  obtain ⟨w, call, hw, hsent⟩ := Pipeline.step_aboutToCall ht 3
  have hstep : sampleMachine.step t (.server (.other (.task (.execution (.resume 3))))) =
      some { t with server := w } := Option.map_eq_some_iff.mpr ⟨w, hw, rfl⟩
  exact ⟨u, v, t, { t with server := w }, call, hbefore, hu.1.1, hclick, hafter, hstep, hsent,
    executes_as_approved sample_started ⟨rfl, rfl, rfl⟩ rfl hbefore hu.1.2 hclick hafter hstep
      hsent⟩

end DecisionPage
