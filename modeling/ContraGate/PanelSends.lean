import ContraGate.ContractViewTheorems

/-!
# What the panel sends

A panel has one decision under way at most, and what it sends is a decision that the endpoint takes
as valid, with one exception: the panel counts a reason in UTF-16 code units and the endpoint in
characters, so a reason with characters of two units can pass the panel and be refused.
-/

open Gateway

namespace DecisionPanel

/-- A reason that passes the panel has at least half as many characters as it asks for. -/
theorem reason_of_reasonOk {p : DecisionPanel} (h : p.reasonOk = true) :
    5 ≤ (Js.trim p.reason).length ∧
      ((Js.trim p.reason).toList.all Js.isUnit = true → 10 ≤ (Js.trim p.reason).length) := by
  have hunits : 10 ≤ Js.units (Js.trim p.reason).toList := of_decide_eq_true h
  rw [← String.length_toList]
  refine ⟨?_, fun hall => ?_⟩
  · have hle := Js.units_le (Js.trim p.reason).toList
    omega
  · rwa [Js.units_of_all hall] at hunits

/-- Only the length of the reason is in question. -/
theorem validDecision_payload (p : DecisionPanel) (button : DecisionButton) :
    validDecision (p.payload button) = decide (10 ≤ (p.payload button).reason.length) := by
  cases button <;> simp [validDecision, payload]

theorem reasonOk_of_enabled {isPermanent : Bool} {p : DecisionPanel} {button : DecisionButton}
    (h : p.enabled isPermanent button = true) : p.reasonOk = true ∧ p.submitting = false := by
  cases button <;> simp_all [enabled]

/-- Nothing that is entered ends the sending. -/
theorem submitting_input {isPermanent : Bool} {p q : DecisionPanel} {a : PanelInput}
    (h : p.input isPermanent a = some q) : q.submitting = p.submitting := by
  cases a with
  | toggleModify | togglePrereq =>
    obtain rfl := Option.some.inj h
    rfl
  | _ =>
    simp only [input] at h
    split_ifs at h
    obtain rfl := Option.some.inj h
    rfl

end DecisionPanel

/-- The decision was made with the panel, by a button that was enabled. -/
def DecisionRequest.FromPanel (request : DecisionRequest) : Prop :=
  ∃ (p : DecisionPanel) (button : DecisionButton),
    request.decision = p.payload button ∧ p.reasonOk = true

namespace DecisionPage

variable {cfg : PipelineConfig} {agents : AgentSettings} {approvalId : String} {manifest : Py.Dict}
  {printable : Char → Bool} {s t : DecisionPage} {a : DecisionPageAction}

/-- The decisions under way belong to different mounts, and the panel that is there knows its
own. -/
structure Sending (sends : List DecisionRequest) (v : ContractView) : Prop where
  nodup : (sends.map (·.mount)).Nodup
  mounted : ∀ request ∈ sends, request.mount ≤ v.mounts
  submitting : ∀ request ∈ sends, request.mount = v.mounts → v.panel.submitting = true
  fromPanel : ∀ request ∈ sends, request.FromPanel

namespace Sending

variable {sends : List DecisionRequest} {v w : ContractView}

theorem of_view (h : Sending sends v) (hmounts : w.mounts = v.mounts)
    (hsubmitting : w.panel.submitting = v.panel.submitting) : Sending sends w where
  nodup := h.nodup
  mounted request hr := by rw [hmounts]; exact h.mounted request hr
  submitting request hr hmount := by
    rw [hsubmitting]
    exact h.submitting request hr (hmount.trans hmounts)
  fromPanel := h.fromPanel

/-- A panel that is mounted anew has sent nothing. -/
theorem render (h : Sending sends v) : Sending sends v.render := by
  unfold ContractView.render
  split
  · exact h
  · refine ⟨h.nodup, fun request hr => ?_, fun request hr hmount => ?_, h.fromPanel⟩
    · exact Nat.le_succ_of_le (h.mounted request hr)
    · have hle := h.mounted request hr
      dsimp only at hmount
      omega

theorem fetched (h : Sending sends v) (answer : ContractAnswer) :
    Sending sends (v.fetched answer) := by
  cases answer with
  | data json =>
    have hsame : Sending sends
        { v with contractData := json, fetchError := none, loading := false } := h.of_view rfl rfl
    exact hsame.render
  | failed message =>
    have hsame : Sending sends { v with fetchError := some message, loading := false } :=
      h.of_view rfl rfl
    exact hsame.render

/-- The button sends, and is disabled from then on. -/
theorem click (h : Sending sends v) {button : DecisionButton}
    (henabled : v.panel.enabled v.isPermanent button = true) :
    Sending (sends ++ [⟨v.mounts, v.panel.payload button, none⟩])
      { v with panel := { v.panel with submitting := true, error := none } } := by
  obtain ⟨hreason, hidle⟩ := DecisionPanel.reasonOk_of_enabled henabled
  have hfree : v.mounts ∉ sends.map (·.mount) := fun hmem => by
    obtain ⟨request, hr, hmount⟩ := List.mem_map.mp hmem
    rw [h.submitting request hr hmount] at hidle
    cases hidle
  refine ⟨?_, fun request hr => ?_, fun _ _ _ => rfl, fun request hr => ?_⟩
  · rw [List.map_append]
    exact h.nodup.append (List.nodup_singleton _) (List.disjoint_singleton.mpr hfree)
  · rcases List.mem_append.mp hr with hr | hr
    · exact h.mounted request hr
    · obtain rfl := List.mem_singleton.mp hr
      exact le_rfl
  · rcases List.mem_append.mp hr with hr | hr
    · exact h.fromPanel request hr
    · obtain rfl := List.mem_singleton.mp hr
      exact ⟨v.panel, button, rfl, hreason⟩

/-- An answer is noted. -/
theorem set (h : Sending sends v) {i : ℕ} {request request' : DecisionRequest}
    (hget : sends[i]? = some request) (hmount : request'.mount = request.mount)
    (hdecision : request'.decision = request.decision) : Sending (sends.set i request') v := by
  have hmem : request ∈ sends := List.mem_of_getElem? hget
  have hmap : (sends.set i request').map (·.mount) = sends.map (·.mount) := by
    have hget' : (sends.map (·.mount))[i]? = some request.mount := by
      rw [List.getElem?_map, hget, Option.map_some]
    obtain ⟨hlt, hmount'⟩ := List.getElem?_eq_some_iff.mp hget'
    rw [List.map_set, hmount, ← hmount', List.set_getElem_self]
  refine ⟨hmap ▸ h.nodup, fun r hr => ?_, fun r hr hr' => ?_, fun r hr => ?_⟩
  all_goals rcases List.mem_or_eq_of_mem_set hr with hold | rfl
  · exact h.mounted r hold
  · exact hmount ▸ h.mounted request hmem
  · exact h.submitting r hold hr'
  · exact h.submitting request hmem (hmount.symm.trans hr')
  · exact h.fromPanel r hold
  · obtain ⟨p, button, heq, hreason⟩ := h.fromPanel request hmem
    exact ⟨p, button, hdecision.trans heq, hreason⟩

/-- A sending ends, and with it that of its panel. -/
theorem erase (h : Sending sends v) {i : ℕ} {request : DecisionRequest}
    (hget : sends[i]? = some request) (error : Option String) :
    Sending (sends.eraseIdx i) (v.sendEnded request.mount error) := by
  have hmounts : (v.sendEnded request.mount error).mounts = v.mounts := by
    unfold ContractView.sendEnded
    split <;> rfl
  have hsublist : (sends.eraseIdx i).Sublist sends := List.eraseIdx_sublist ..
  refine ⟨(hsublist.map _).nodup h.nodup, fun r hr => ?_, fun r hr hmount => ?_,
    fun r hr => h.fromPanel r (hsublist.mem hr)⟩
  · rw [hmounts]
    exact h.mounted r (hsublist.mem hr)
  · rw [hmounts] at hmount
    have hsubmitting := h.submitting r (hsublist.mem hr) hmount
    unfold ContractView.sendEnded
    split
    -- there is no other one of the same mount
    · rename_i hsame
      obtain ⟨j, hne, hj⟩ := List.mem_eraseIdx_iff_getElem?.mp hr
      have hmount' (k : ℕ) {r : DecisionRequest} (hk : sends[k]? = some r) :
          (sends.map (·.mount))[k]? = some r.mount := by rw [List.getElem?_map, hk, Option.map_some]
      obtain ⟨hjlt, hj'⟩ := List.getElem?_eq_some_iff.mp (hmount' j hj)
      obtain ⟨hilt, hi'⟩ := List.getElem?_eq_some_iff.mp (hmount' i hget)
      have heq := hj'.trans (hmount.trans (hsame.symm.trans hi'.symm))
      exact absurd (h.nodup.getElem_inj_iff.mp heq) hne
    · exact hsubmitting

end Sending

/-- Every step keeps it. -/
theorem sending_step (h : Sending s.sends s.view)
    (hstep : (machine cfg agents approvalId manifest printable).step s a = some t) :
    Sending t.sends t.view := by
  cases steps_of_step hstep with
  | server | answerFetch => exact h
  | status => exact h.of_view rfl rfl
  | fetched => exact h.fetched _
  | fetchFails => exact h.fetched (.failed _)
  | input hdecides hpanel => exact h.of_view rfl (DecisionPanel.submitting_input hpanel)
  | click hdecides henabled => exact h.click henabled
  | answerSend hi => exact h.set hi rfl rfl
  | sent hi => exact h.erase hi _
  | sendFails hi => exact h.erase hi _

/-- **What the page sends.** In every run of a page no panel has two decisions under way, whatever
is entered, clicked and answered when. The endpoint takes each of them as valid exactly if its
reason has ten characters; it has five at least, and ten if every character is one code unit. -/
theorem sends_valid {actions : List DecisionPageAction} (hopened : s.Opened)
    (hrun : (machine cfg agents approvalId manifest printable).exec s actions = some t) :
    (t.sends.map (·.mount)).Nodup ∧ ∀ request ∈ t.sends,
      (validDecision request.decision = true ↔ 10 ≤ request.decision.reason.length) ∧
        5 ≤ request.decision.reason.length ∧
        (request.decision.reason.toList.all Js.isUnit = true →
          validDecision request.decision = true) := by
  have hstart : Sending s.sends s.view := by
    rw [hopened.sends]
    exact ⟨List.nodup_nil, by simp, by simp, by simp⟩
  have hsending := Machine.exec_preserves _ (I := fun s => Sending s.sends s.view)
    (fun _ _ _ h hstep => sending_step h hstep) hstart hrun
  refine ⟨hsending.nodup, fun request hr => ?_⟩
  obtain ⟨p, button, hpayload, hreason⟩ := hsending.fromPanel request hr
  obtain ⟨hfive, hten⟩ := DecisionPanel.reason_of_reasonOk hreason
  have hsame : (p.payload button).reason = Js.trim p.reason := rfl
  rw [hpayload, DecisionPanel.validDecision_payload, decide_eq_true_eq, hsame]
  exact ⟨Iff.rfl, hfive, hten⟩

/-- Five characters of two code units each, before the workflow has a plan. -/
def thumbsDown : List DecisionPageAction :=
  [.answerFetch 0, .fetched 0, .input (.setReason " 👎👎👎👎👎 "), .click .reject]

/-- A decision is under way that the endpoint refuses as too short. -/
theorem sends_valid_thumbsDown : ∃ t request,
    sampleMachine.exec samplePage thumbsDown = some t ∧ request ∈ t.sends ∧
      5 ≤ request.decision.reason.length ∧ validDecision request.decision = false := by
  have hruns : (sampleMachine.exec samplePage thumbsDown).any (fun t =>
      t.sends.any fun request => !validDecision request.decision) = true := by decide +kernel
  obtain ⟨t, hrun, ht⟩ := Option.any_eq_true _ _ |>.mp hruns
  obtain ⟨request, hr, hinvalid⟩ := List.any_eq_true.mp ht
  rw [Bool.not_eq_true'] at hinvalid
  have hsends := (sends_valid ⟨rfl, rfl, rfl⟩ hrun).2 request hr
  exact ⟨t, request, hrun, hr, hsends.2.1, hinvalid⟩

end DecisionPage
