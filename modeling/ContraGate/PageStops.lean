import ContraGate.ApprovalPage

/-!
# When the page of an approval stops

A page stops at the first terminal status, and where the polls do not overlap it stops there for
good (`stops_for_good`). An older answer that arrives afterwards is shown like any other: it
brings back a status that is over, and the page does not wait for anything any more.
-/

namespace ApprovalPage

variable {cfg : PipelineConfig} {approvalId : String} {manifest : Py.Dict}
  {isoformat : Time → String} {s t : ApprovalPage} {a : PageAction}

/-- A poll is not made before the last one has been answered. -/
def Apart (s : ApprovalPage) : PageAction → Prop
  | .tick => s.requests = []
  | _ => True

instance (s : ApprovalPage) : ∀ a, Decidable (s.Apart a)
  | .tick => decidable_of_iff (s.requests.isEmpty = true) List.isEmpty_iff
  | .server _ | .message | .error | .answer _ | .arrive _ | .fail .. | .unmount => .isTrue trivial

/-- The page waits for the stream, or for one poll after the other, until it has stopped. -/
structure Watching (s : ApprovalPage) : Prop where
  few : s.requests.length ≤ 1
  streaming : s.hook.es = true → s.requests = [] ∧ s.hook.pollTimer = false
  resting : s.hook.mounted = true → s.hook.es = false → s.hook.pollTimer = false →
    s.requests = [] ∧ (s.hook.state.isTerminal = true ∨
      s.hook.state.error = some "Approval not found")
  terminal : s.hook.mounted = true → s.hook.state.isTerminal = true →
    s.hook.es = false ∧ s.hook.pollTimer = false

end ApprovalPage

namespace ApprovalPolling

variable {h : ApprovalPolling}

/-- An update stops the hook, or leaves it as it was. -/
theorem applyUpdate_cases (hmounted : h.mounted = true) (data : Py.Dict) :
    (∃ state, state.isTerminal = true ∧
      h.applyUpdate data = { h with state, es := false, pollTimer := false }) ∨
    ∃ state, state.isTerminal = false ∧ h.applyUpdate data = { h with state } := by
  unfold applyUpdate
  rw [if_pos hmounted]
  dsimp only
  split_ifs with hterminal
  · exact .inl ⟨_, hterminal, rfl⟩
  · exact .inr ⟨_, Bool.eq_false_iff.mpr hterminal, rfl⟩

/-- An answer stops the hook, or leaves it as it was. -/
theorem pollAnswered_cases (hmounted : h.mounted = true) (response : PollResponse) :
    (∃ state, (state.isTerminal = true ∨ state.error = some "Approval not found") ∧
      h.pollAnswered response = { h with state, es := false, pollTimer := false }) ∨
    (∃ state, state.isTerminal = false ∧ h.pollAnswered response = { h with state }) ∨
    h.pollAnswered response = h := by
  cases response with
  | ok data =>
    rcases applyUpdate_cases hmounted data with ⟨state, hterminal, heq⟩ | hupdate
    · exact .inl ⟨state, .inl hterminal, heq⟩
    · exact .inr (.inl hupdate)
  | notFound =>
    rw [pollAnswered, if_pos hmounted]
    exact .inl ⟨_, .inr rfl, rfl⟩
  | serverError => exact .inr (.inr rfl)

theorem pollAnswered_unmounted (hmounted : h.mounted = false) (response : PollResponse) :
    h.pollAnswered response = h := by
  cases response with
  | ok data => exact applyUpdate_unmounted hmounted data
  | notFound =>
    rw [pollAnswered, hmounted]
    rfl
  | serverError => rfl

theorem pollFailed_eq (hmounted : h.mounted = true) (message : String) :
    ∃ state, state.isTerminal = h.state.isTerminal ∧ h.pollFailed message = { h with state } := by
  rw [pollFailed, if_pos hmounted]
  exact ⟨{ h.state with error := some ("Poll error: " ++ message), isLoading := false }, rfl, rfl⟩

theorem pollFailed_unmounted (hmounted : h.mounted = false) (message : String) :
    h.pollFailed message = h := by
  rw [pollFailed, hmounted]
  rfl

theorem length_poll_le (h : ApprovalPolling) : h.poll.length ≤ 1 := by
  unfold poll
  split_ifs <;> decide

end ApprovalPolling

namespace ApprovalPage

variable {cfg : PipelineConfig} {approvalId : String} {manifest : Py.Dict}
  {isoformat : Time → String} {s t : ApprovalPage} {a : PageAction}

/-- The only poll is over. -/
theorem Watching.eraseIdx (h : s.Watching) {i : ℕ} (hi : i < s.requests.length) :
    s.requests.eraseIdx i = [] := by
  have hlength := List.length_eraseIdx_of_lt hi
  have hfew := h.few
  exact List.eq_nil_of_length_eq_zero (by omega)

/-- A poll is in flight, so there is a timer. -/
theorem Watching.polling (h : s.Watching) {i : ℕ} (hi : i < s.requests.length)
    (hmounted : s.hook.mounted = true) : s.hook.es = false ∧ s.hook.pollTimer = true := by
  have hne : s.requests ≠ [] := List.ne_nil_of_length_pos (by omega)
  have hes : s.hook.es = false := by
    by_contra hes
    exact hne (h.streaming (by simpa using hes)).1
  refine ⟨hes, ?_⟩
  by_contra htimer
  exact hne (h.resting hmounted hes (by simpa using htimer)).1

/-- The polls are over, and the hook is as it was. -/
theorem Watching.over (h : s.Watching)
    (htimer : s.hook.mounted = true → s.hook.pollTimer = true) :
    Watching { s with requests := [] } where
  few := Nat.zero_le _
  streaming hes := ⟨rfl, (h.streaming hes).2⟩
  resting hmounted _ hrests := by
    rw [show s.hook.pollTimer = false from hrests] at htimer
    cases htimer hmounted
  terminal := h.terminal

theorem Watching.arrive (h : s.Watching) {i : ℕ} (response : PollResponse)
    (hi : i < s.requests.length) :
    Watching
      { s with hook := s.hook.pollAnswered response, requests := s.requests.eraseIdx i } := by
  rw [h.eraseIdx hi]
  cases hmounted : s.hook.mounted with
  | false =>
    rw [ApprovalPolling.pollAnswered_unmounted hmounted]
    exact h.over fun hm => by rw [hm] at hmounted; cases hmounted
  | true =>
    obtain ⟨hes, htimer⟩ := h.polling hi hmounted
    rcases ApprovalPolling.pollAnswered_cases hmounted response with
      ⟨state, hstops, heq⟩ | ⟨state, hgoes, heq⟩ | heq
    · rw [heq]
      exact
        { few := Nat.zero_le _
          streaming := fun hes => by cases hes
          resting := fun _ _ _ => ⟨rfl, hstops⟩
          terminal := fun _ _ => ⟨rfl, rfl⟩ }
    · rw [heq]
      refine { h.over fun _ => htimer with resting := fun _ _ hrests => ?_, terminal := ?_ }
      · rw [show s.hook.pollTimer = false from hrests] at htimer
        cases htimer
      · intro _ hterminal
        rw [hgoes] at hterminal
        cases hterminal
    · rw [heq]
      exact h.over fun _ => htimer

theorem Watching.fail (h : s.Watching) {i : ℕ} (message : String)
    (hi : i < s.requests.length) :
    Watching
      { s with hook := s.hook.pollFailed message, requests := s.requests.eraseIdx i } := by
  rw [h.eraseIdx hi]
  cases hmounted : s.hook.mounted with
  | false =>
    rw [ApprovalPolling.pollFailed_unmounted hmounted]
    exact h.over fun hm => by rw [hm] at hmounted; cases hmounted
  | true =>
    obtain ⟨hes, htimer⟩ := h.polling hi hmounted
    obtain ⟨state, hsame, heq⟩ := ApprovalPolling.pollFailed_eq hmounted message
    rw [heq]
    refine { h.over fun _ => htimer with resting := fun _ _ hrests => ?_, terminal := ?_ }
    · rw [show s.hook.pollTimer = false from hrests] at htimer
      cases htimer
    · exact fun hm hterminal => h.terminal hm (hsame ▸ hterminal)

/-- The stream has an event for the page. -/
theorem Watching.message (h : s.Watching) (hes : s.hook.es = true) (event : Py.Dict) :
    Watching { s with received := s.received + 1, hook := s.hook.onmessage event } := by
  obtain ⟨hrequests, htimer⟩ := h.streaming hes
  have hsame : Watching { s with received := s.received + 1 } :=
    ⟨h.few, h.streaming, h.resting, h.terminal⟩
  unfold ApprovalPolling.onmessage
  split_ifs
  · cases hmounted : s.hook.mounted with
    | false =>
      rw [ApprovalPolling.applyUpdate_unmounted hmounted]
      exact hsame
    | true =>
      rcases ApprovalPolling.applyUpdate_cases hmounted event with
        ⟨state, hterminal, heq⟩ | ⟨state, hgoes, heq⟩
      · rw [heq]
        exact
          { few := h.few
            streaming := fun hes => by cases hes
            resting := fun _ _ _ => ⟨hrequests, .inl hterminal⟩
            terminal := fun _ _ => ⟨rfl, rfl⟩ }
      · rw [heq]
        refine { hsame with resting := fun _ hrests => ?_, terminal := fun _ hterminal => ?_ }
        · rw [show s.hook.es = false from hrests] at hes
          cases hes
        · rw [hgoes] at hterminal
          cases hterminal
  · exact hsame

/-- The connection is lost: from now on the page polls. -/
theorem Watching.error (h : s.Watching) (hes : s.hook.es = true) :
    Watching
      { s with hook := s.hook.onerror.1, requests := s.requests ++ s.hook.onerror.2 } := by
  obtain ⟨hrequests, htimer⟩ := h.streaming hes
  have honerror : s.hook.onerror =
      ({ s.hook with es := false, pollTimer := true }, s.hook.poll) := by
    rw [ApprovalPolling.onerror, ApprovalPolling.startPolling, if_neg (by simp [htimer])]
    rfl
  rw [honerror, hrequests]
  refine
    { few := by simpa using ApprovalPolling.length_poll_le s.hook
      streaming := fun hes => by cases hes
      resting := fun _ _ htimer => by cases htimer
      terminal := fun hmounted hterminal => ?_ }
  rw [(h.terminal hmounted hterminal).1] at hes
  cases hes

/-- A step keeps it, if the polls do not overlap. -/
theorem watching_step (h : s.Watching) (hapart : s.Apart a)
    (hstep : (machine cfg approvalId manifest isoformat).step s a = some t) : t.Watching := by
  cases steps_of_step hstep with
  | server => exact ⟨h.few, h.streaming, h.resting, h.terminal⟩
  | message hes => exact h.message hes _
  | error hes => exact h.error hes
  | tick htimer =>
    have hrequests : s.requests = [] := hapart
    rw [hrequests]
    refine
      { few := ApprovalPolling.length_poll_le s.hook
        streaming := fun hes => ?_
        resting := fun _ _ hrests => ?_
        terminal := h.terminal }
    · rw [(h.streaming hes).2] at htimer
      cases htimer
    · rw [show s.hook.pollTimer = false from hrests] at htimer
      cases htimer
  | answer hsent =>
    have hne : s.requests ≠ [] := fun hnil => by simp [hnil] at hsent
    refine
      { few := by simpa using h.few
        streaming := fun hes => absurd (h.streaming hes).1 hne
        resting := fun hmounted hes htimer => absurd (h.resting hmounted hes htimer).1 hne
        terminal := h.terminal }
  | arrive hresponse => exact h.arrive _ (List.getElem?_eq_some_iff.mp hresponse).1
  | fail hi => exact h.fail _ hi
  | unmount =>
    exact
      { few := h.few
        streaming := fun hes => by cases hes
        resting := fun hmounted => by cases hmounted
        terminal := fun hmounted => by cases hmounted }

/-- A page that has been opened watches. -/
theorem Opened.watching (h : s.Opened approvalId) : s.Watching := by
  obtain ⟨built, hhook, hrequests⟩ := h.mounted
  cases built with
  | true =>
    have hnone : s.requests = [] := hrequests
    refine
      { few := by rw [hnone]; decide
        streaming := fun _ => ⟨hnone, by rw [hhook]; rfl⟩
        resting := fun _ hes => ?_
        terminal := fun _ hterminal => ?_ }
    · rw [hhook] at hes
      cases hes
    · rw [hhook] at hterminal
      cases hterminal
  | false =>
    refine
      { few := by rw [hrequests]; decide
        streaming := fun hes => ?_
        resting := fun _ _ htimer => ?_
        terminal := fun _ hterminal => ?_ }
    · rw [hhook] at hes
      cases hes
    · rw [hhook] at htimer
      cases htimer
    · rw [hhook] at hterminal
      cases hterminal

/-- A page that has stopped waits for nothing. -/
theorem Watching.quiet (h : s.Watching) (hterminal : s.hook.state.isTerminal = true)
    (hmounted : s.hook.mounted = true) :
    s.hook.es = false ∧ s.hook.pollTimer = false ∧ s.requests = [] := by
  obtain ⟨hes, htimer⟩ := h.terminal hmounted hterminal
  exact ⟨hes, htimer, (h.resting hmounted hes htimer).1⟩

/-- A page that has stopped shows the same from then on. -/
theorem Watching.state_step (h : s.Watching) (hterminal : s.hook.state.isTerminal = true)
    (hstep : (machine cfg approvalId manifest isoformat).step s a = some t) :
    t.hook.state = s.hook.state := by
  have hleft {P : Prop} (hP : s.hook.mounted = false → P)
      (hwaits : s.hook.es = true ∨ s.requests ≠ []) : P := by
    cases hmounted : s.hook.mounted with
    | false => exact hP hmounted
    | true =>
      obtain ⟨hes, -, hrequests⟩ := h.quiet hterminal hmounted
      simp [hes, hrequests] at hwaits
  cases steps_of_step hstep with
  | server | tick | answer | unmount => rfl
  | message hes =>
    refine hleft (fun hmounted => ?_) (.inl hes)
    dsimp only
    unfold ApprovalPolling.onmessage
    split_ifs
    · rw [ApprovalPolling.applyUpdate_unmounted hmounted]
    · rfl
  | error => exact ApprovalPolling.startPolling_state _
  | arrive hresponse =>
    refine hleft (fun hmounted => ?_) (.inr fun hnil => by simp [hnil] at hresponse)
    dsimp only
    rw [ApprovalPolling.pollAnswered_unmounted hmounted]
  | fail hi =>
    refine hleft (fun hmounted => ?_) (.inr fun hnil => by simp [hnil] at hi)
    dsimp only
    rw [ApprovalPolling.pollFailed_unmounted hmounted]

/-- **The page stops for good, and not before the end.** If the polls do not overlap, what a page
shows does not change any more once it has shown a terminal status; and a page that is there goes
on listening or polling until then, or until the approval is not found. -/
theorem stops_for_good {before after : List PageAction} {u : ApprovalPage}
    (hopened : s.Opened approvalId)
    (hapart : (machine cfg approvalId manifest isoformat).Guarded Apart s (before ++ after))
    (hbefore : (machine cfg approvalId manifest isoformat).exec s before = some u)
    (hafter : (machine cfg approvalId manifest isoformat).exec u after = some t) :
    (u.hook.state.isTerminal = true → t.hook.state = u.hook.state) ∧
      (t.hook.mounted = true → t.hook.es = true ∨ t.hook.pollTimer = true ∨
        t.hook.state.isTerminal = true ∨ t.hook.state.error = some "Approval not found") := by
  have hwatching {s t : ApprovalPage} {actions : List PageAction} (hs : s.Watching)
      (hG : (machine cfg approvalId manifest isoformat).Guarded Apart s actions)
      (hrun : (machine cfg approvalId manifest isoformat).exec s actions = some t) : t.Watching :=
    (machine cfg approvalId manifest isoformat).exec_invariant
      (fun _ _ _ h hG hstep => watching_step h hG hstep) hs hG hrun
  have hu : u.Watching :=
    hwatching hopened.watching (Machine.guarded_of_append_left _ hapart) hbefore
  have hrest := (machine cfg approvalId manifest isoformat).guarded_of_append hapart hbefore
  constructor
  · intro hterminal
    have hkept := (machine cfg approvalId manifest isoformat).exec_invariant
      (I := fun v => v.Watching ∧ v.hook.state = u.hook.state)
      (fun v a w hv hG hstep => ⟨watching_step hv.1 hG hstep,
        (hv.1.state_step (hv.2 ▸ hterminal) hstep).trans hv.2⟩) ⟨hu, rfl⟩ hrest hafter
    exact hkept.2
  · intro hmounted
    have ht := hwatching hu hrest hafter
    by_cases hes : t.hook.es = true
    · exact .inl hes
    · by_cases htimer : t.hook.pollTimer = true
      · exact .inr (.inl htimer)
      · exact .inr (.inr (ht.resting hmounted (by simpa using hes) (by simpa using htimer)).2)

/-- The page has stopped, somebody decides again, and the page is left. -/
theorem stops_for_good_completing :
    ∃ u t, runSample completing = some u ∧
      runSample (completing ++ [.server (.gateway (.recordDecision (sampleDecision "REJECT") 9)),
        .unmount]) = some t ∧
      u.hook.state.isTerminal = true ∧ t.hook.state = u.hook.state := by
  have hsome : (runSample (completing ++
      [.server (.gateway (.recordDecision (sampleDecision "REJECT") 9)),
        .unmount])).isSome = true := by decide +kernel
  obtain ⟨t, ht⟩ := Option.isSome_iff_exists.mp hsome
  obtain ⟨u, hu, hrest⟩ := (Machine.exec_append_eq_some _).mp ht
  obtain ⟨u', hu', hshows⟩ := completing_run
  obtain rfl := Option.some.inj (hu.symm.trans hu')
  simp only [showsCompleted, Bool.and_eq_true] at hshows
  have hkept := stops_for_good samplePage_opened
    (Machine.guarded_of_guardedBy _ (by decide +kernel)) hu hrest
  exact ⟨u, t, hu, ht, hshows.1.1.2, hkept.1 hshows.1.1.2⟩

/-- The second poll is answered before the first: the page shows `RUNNING` again, and waits for
nothing. -/
example :
    (runSample ([.error, .answer 0, .tick] ++ StatusStream.endingInTime.map .server ++
        [.answer 1, .arrive 1, .arrive 0])).any (fun s =>
      s.hook.state.status.str? = some "RUNNING" && s.requests.isEmpty && s.hook.mounted &&
        !s.hook.es && !s.hook.pollTimer) = true := by
  decide +kernel

end ApprovalPage
