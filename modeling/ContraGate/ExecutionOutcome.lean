import Mathlib.Logic.Function.Iterate
import ContraGate.ExecutionOnce

/-!
# What a call of `run_execution` reports

Calls of `run_execution` for one operation id, one after the other; the target answers or fails
as it likes. `set_execution_result` marks the record as completed after a failure as after a
success, and a later call takes the mark for a success.
-/

/-- A call of `run_execution`: its contract, how the call to the target ends, if it is made, and
when it goes on from each of its awaits. -/
structure ExecutionCall where
  contract : Ref
  reply : TargetReply
  clock : ExecutionAt → Time

/-- The shared memory, where the last call stands, and what has happened so far, newest first. -/
structure ExecutionHistory where
  mem : Memory
  pc : ExecutionAt
  log : List Event

/-- What `run_execution` goes on with. -/
def ExecutionCall.input (call : ExecutionCall) : ExecutionAt → ExecutionInput
  | .calling => .reply call.reply (call.clock .calling)
  | pc => .resume (call.clock pc)

/-- The record stored under an id has an `execution_result` that says so. -/
def Memory.recordsSuccess (m : Memory) (approvalId : String) : Bool :=
  (m.record? approvalId).any fun record => record.executionResult.any isSuccess

theorem Memory.Kept.recordsSuccess {m m' : Memory} (h : m.Kept m') (approvalId : String) :
    m'.recordsSuccess approvalId = m.recordsSuccess approvalId := by
  unfold Memory.recordsSuccess Memory.record?
  rw [h.store]
  cases m.store approvalId with
  | none => rfl
  | some r => simp [h.result]

namespace ExecutionHistory

open Execution

/-- No call has been made. -/
def initial (m : Memory) : ExecutionHistory where
  mem := m
  pc := .start
  log := []

/-- A call of the target has succeeded. -/
def Succeeded (h : ExecutionHistory) : Prop := ∃ value, .replied (.result value) ∈ h.log

/-- A call of the target has raised `MCPCallError`. -/
def Refused (h : ExecutionHistory) : Prop := ∃ message, .replied (.mcpCallError message) ∈ h.log

/-- The target has been called in vain. -/
def Failed (h : ExecutionHistory) : Prop := h.Refused ∧ ¬ h.Succeeded

variable (cfg : ExecutionConfig)

/-- The next stretch of a call; one that has ended stays as it is. -/
def advance (call : ExecutionCall) (h : ExecutionHistory) : ExecutionHistory :=
  match runExecution cfg call.contract h.mem h.pc (call.input h.pc) with
  | some o => { mem := o.mem, pc := o.pc, log := o.events ++ h.log }
  | none => h

/-- A call from its start to its end, which are at most five stretches. -/
def runCall (h : ExecutionHistory) (call : ExecutionCall) : ExecutionHistory :=
  (advance cfg call)^[5] { h with pc := .start }

/-- Calls one after the other. -/
def machine : Machine ExecutionHistory ExecutionCall where
  step h call := some (runCall cfg h call)

/-- What is asked of a call that has just ended: if it returns, the contract says that the
operation was executed exactly when a call of the target has succeeded, and so does the record. -/
structure Reports (opId : String) (call : ExecutionCall) (h : ExecutionHistory) : Prop where
  contract : h.pc = .returned →
    ((h.mem.contracts call.contract).executionSuccess = some true ↔ h.Succeeded)
  record : h.pc = .returned → (h.mem.recordsSuccess opId = true ↔ h.Succeeded)

/-- What `run_execution` records of the end of a target call. -/
def success? : TargetReply → Option Bool
  | .result _ => some true
  | .mcpCallError _ => some false
  | .otherError => none

/-- How a call from `h` to `h'` ends. -/
inductive CallEnds (opId : String) (call : ExecutionCall) (h h' : ExecutionHistory) : Prop
  | missing (hstore : h.mem.store opId = none) (hkept : h.mem.Kept h'.mem)
      (hlog : h'.log = h.log) (hpc : h'.pc = .raised)
  /-- The idempotency check. -/
  | skipped (hflag : h.mem.executed opId = true) (hkept : h.mem.Kept h'.mem)
      (hlog : h'.log = h.log) (hpc : h'.pc = .returned)
      (hsuccess : (h'.mem.contracts call.contract).executionSuccess = some true)
  /-- The stale-state guard. -/
  | aborted (hflag : h.mem.executed opId = false) (hkept : h.mem.Kept h'.mem)
      (hlog : h'.log = h.log) (hpc : h'.pc = .returned)
      (hsuccess : (h'.mem.contracts call.contract).executionSuccess = some false)
  /-- The target call raises another error, which nothing records. -/
  | uncaught (sent : ToolCall) (hflag : h.mem.executed opId = false) (hkept : h.mem.Kept h'.mem)
      (hlog : h'.log = .replied .otherError :: .sent sent :: h.log) (hpc : h'.pc = .raised)
  | settled (sent : ToolCall) (success : Bool) (hflag : h.mem.executed opId = false)
      (hreply : success? call.reply = some success)
      (hexecuted : h'.mem.executed opId = true) (hrecord : h'.mem.recordsSuccess opId = success)
      (hlog : h'.log = .replied call.reply :: .sent sent :: h.log) (hpc : h'.pc = .returned)
      (hsuccess : (h'.mem.contracts call.contract).executionSuccess = some success)

/-! ## How a call ends -/

variable {cfg} {opId : String} {call : ExecutionCall} {h h' : ExecutionHistory}

/-- A call that has ended stays as it is. -/
theorem iterate_of_ended (hended : h.pc = .returned ∨ h.pc = .raised) (n : ℕ) :
    (advance cfg call)^[n] h = h := by
  apply Function.iterate_fixed
  unfold advance
  rcases hended with hpc | hpc <;> rw [hpc] <;> rfl

/-- From the record to the end of the call. -/
theorem runCall_eq (hid : (h.mem.contracts call.contract).operationId = opId) :
    runCall cfg h call = (advance cfg call)^[4] { h with pc := .got (h.mem.store opId) } := by
  unfold runCall
  rw [Function.iterate_succ_apply]
  congr 1
  subst hid
  rfl

theorem recordsSuccess_setExecutionResult {m : Memory} {r : Ref} (hstore : m.store opId = some r)
    (result : Py.Dict) (now : Time) :
    (WorkflowStore.setExecutionResult m opId result now).recordsSuccess opId =
      Memory.isSuccess result := by
  rw [WorkflowStore.setExecutionResult_eq hstore]
  simp [Memory.recordsSuccess, Memory.record?, hstore]

/-- A call that is waiting for the target and gets a reply that is recorded: `before` is what it
writes into its contract first. -/
theorem ends_of_replied (result : Py.Dict) (before : HandoffContract → HandoffContract) {r : Ref}
    {sent : ToolCall} {success : Bool}
    (hid : (h.mem.contracts call.contract).operationId = opId)
    (hstore : h.mem.store opId = some r) (hflag : h.mem.executed opId = false)
    (hreply : success? call.reply = some success) (hresult : Memory.isSuccess result = success)
    (hidentity : ∀ c, (before c).toIdentity = c.toIdentity)
    (hsuccess : ∀ c, (before c).executionSuccess = some success)
    (hreplied : advance cfg call { mem := h.mem, pc := .calling, log := .sent sent :: h.log } =
      { mem := h.mem.modifyContract call.contract before
        pc := .storing result
        log := .replied call.reply :: .sent sent :: h.log }) :
    CallEnds opId call h
      ((advance cfg call)^[3] { mem := h.mem, pc := .calling, log := .sent sent :: h.log }) := by
  set written := h.mem.modifyContract call.contract before with hwritten
  have hwrittenStore : written.store opId = some r := hstore
  -- the id is read again from the contract that has just been written
  have hwrittenId : (written.contracts call.contract).operationId = opId := by
    rw [hwritten, Memory.modifyContract_self, hidentity]
    exact hid
  set stored := WorkflowStore.setExecutionResult written opId result
    (call.clock (.storing result)) with hstored
  have hstores : ∀ log, advance cfg call { mem := written, pc := .storing result, log } =
      { mem := stored, pc := .stored, log } := by
    intro log
    rw [hstored, ← hwrittenId]
    rfl
  have hreturns : ∀ log, advance cfg call { mem := stored, pc := .stored, log } =
      { mem := stored.modifyContract call.contract fun c =>
          c.addProvenance (call.clock .stored) "EXECUTION" "execution_success,execution_timestamp"
        pc := .returned, log } := fun _ => rfl
  rw [Function.iterate_succ_apply, hreplied, Function.iterate_succ_apply, hstores,
    Function.iterate_succ_apply, hreturns, Function.iterate_zero_apply]
  refine .settled sent success hflag hreply ?_ ?_ rfl rfl ?_ <;> dsimp only
  · rw [Memory.executed_modifyContract]
    exact WorkflowStore.setExecutionResult_executed (by rw [hwrittenStore]; rfl) result _
  · show stored.recordsSuccess opId = success
    rw [hstored, recordsSuccess_setExecutionResult hwrittenStore, hresult]
  · rw [Memory.modifyContract_self, hstored, WorkflowStore.setExecutionResult_contracts, hwritten,
      Memory.modifyContract_self]
    exact hsuccess _

/-- From the call of the target to the end. -/
theorem ends_of_calling {r : Ref} (sent : ToolCall)
    (hid : (h.mem.contracts call.contract).operationId = opId)
    (hstore : h.mem.store opId = some r) (hflag : h.mem.executed opId = false) :
    CallEnds opId call h
      ((advance cfg call)^[3] { mem := h.mem, pc := .calling, log := .sent sent :: h.log }) := by
  obtain ⟨contract, reply, clock⟩ := call
  cases reply with
  | result value =>
    apply ends_of_replied (succeeded cfg value (clock .calling)) (fun c =>
      { c with executionSuccess := some true, executionTimestamp := some (clock .calling) })
      hid hstore hflag rfl rfl
    · exact fun _ => rfl
    · exact fun _ => rfl
    · rfl
  | mcpCallError message =>
    apply ends_of_replied (failed cfg message (clock .calling)) (fun c =>
      { c with executionSuccess := some false, executionTimestamp := some (clock .calling) })
      hid hstore hflag rfl rfl
    · exact fun _ => rfl
    · exact fun _ => rfl
    · rfl
  | otherError =>
    rw [Function.iterate_succ_apply, iterate_of_ended (.inr rfl)]
    exact .uncaught sent hflag (.refl _) rfl rfl

/-- How every call ends. -/
theorem runCall_ends (cfg : ExecutionConfig)
    (hid : (h.mem.contracts call.contract).operationId = opId) :
    CallEnds opId call h (runCall cfg h call) := by
  rw [runCall_eq hid]
  cases hstore : h.mem.store opId with
  | none =>
    -- there is no record
    rw [Function.iterate_succ_apply, iterate_of_ended (.inr rfl)]
    exact .missing hstore (.refl _) rfl rfl
  | some r =>
    have hflag := Memory.executed_of_store hstore
    have hchecked : advance cfg call { h with pc := .got (some r) } =
        let o := checkAndCall cfg call.contract h.mem (h.mem.records r)
          (call.clock (.got (some r)))
        { mem := o.mem, pc := o.pc, log := o.events ++ h.log } := rfl
    rw [Function.iterate_succ_apply, hchecked]
    unfold checkAndCall
    dsimp only
    split
    next hcompleted =>
      rw [iterate_of_ended (.inl rfl)]
      refine .skipped (hflag.trans hcompleted) ?_ rfl rfl ?_ <;> dsimp only
      · refine h.mem.kept_modifyContract _ _ ?_ ?_ <;> intro _ <;> rfl
      · rw [Memory.modifyContract_self]
    next hcompleted =>
      rw [Bool.not_eq_true] at hcompleted
      split
      next hintact => exact ends_of_calling _ hid hstore (hflag.trans hcompleted)
      next hstale =>
        rw [iterate_of_ended (.inl rfl)]
        refine .aborted (hflag.trans hcompleted) ?_ rfl rfl ?_ <;> dsimp only
        · refine h.mem.kept_modifyContract _ _ ?_ ?_ <;> intro _ <;> rfl
        · rw [Memory.modifyContract_self]
          rfl

/-- No call changes which operation a contract is for. -/
theorem runCall_identity (h : ExecutionHistory) (call : ExecutionCall) (c : Ref) :
    ((runCall cfg h call).mem.contracts c).toIdentity = (h.mem.contracts c).toIdentity := by
  have hadvance : ∀ h : ExecutionHistory,
      ((advance cfg call h).mem.contracts c).toIdentity = (h.mem.contracts c).toIdentity := by
    intro h
    unfold advance
    split
    next o hrun => exact (runExecution_frame hrun).identity c
    next => rfl
  have hiterate : ∀ n, ∀ h : ExecutionHistory, (((advance cfg call)^[n] h).mem.contracts c).toIdentity =
      (h.mem.contracts c).toIdentity := by
    intro n
    induction n with
    | zero => exact fun _ => rfl
    | succ n ih =>
      intro h
      rw [Function.iterate_succ_apply, ih, hadvance]
  exact hiterate 5 _

/-! ## What the record says -/

/-- The record is completed when a reply has been recorded, and its result says whether the target
has succeeded. -/
structure Recorded (opId : String) (m : Memory) (h : ExecutionHistory) : Prop where
  ids : ∀ c, (h.mem.contracts c).toIdentity = (m.contracts c).toIdentity
  completed : h.mem.executed opId = true ↔ h.Succeeded ∨ h.Refused
  success : h.mem.recordsSuccess opId = true ↔ h.Succeeded

variable {m : Memory}

theorem recorded_initial (hflag : m.executed opId = false)
    (hresult : m.recordsSuccess opId = false) : Recorded opId m (initial m) where
  ids _ := rfl
  completed := by simp [initial, hflag, Succeeded, Refused]
  success := by simp [initial, hresult, Succeeded]

/-- What has happened is told by the log. -/
theorem succeeded_congr (hlog : h'.log = h.log) : h'.Succeeded ↔ h.Succeeded := by
  unfold Succeeded
  rw [hlog]

theorem refused_congr (hlog : h'.log = h.log) : h'.Refused ↔ h.Refused := by
  unfold Refused
  rw [hlog]

/-- A target call adds its reply. -/
theorem succeeded_of_log {reply : TargetReply} {sent : ToolCall}
    (hlog : h'.log = .replied reply :: .sent sent :: h.log) :
    h'.Succeeded ↔ success? reply = some true ∨ h.Succeeded := by
  unfold Succeeded
  rw [hlog]
  cases reply <;> simp [success?]

theorem refused_of_log {reply : TargetReply} {sent : ToolCall}
    (hlog : h'.log = .replied reply :: .sent sent :: h.log) :
    h'.Refused ↔ success? reply = some false ∨ h.Refused := by
  unfold Refused
  rw [hlog]
  cases reply <;> simp [success?]

/-- Where the flag is not set, the target has neither succeeded nor refused. -/
theorem Recorded.of_not_executed (hrec : Recorded opId m h)
    (hflag : h.mem.executed opId = false) : ¬ h.Succeeded ∧ ¬ h.Refused := by
  have hneither : ¬ (h.Succeeded ∨ h.Refused) := by
    rw [← hrec.completed, hflag]
    simp
  exact not_or.mp hneither

/-- A call that leaves the record and the log alone. -/
theorem Recorded.of_kept (hrec : Recorded opId m h) (hkept : h.mem.Kept h'.mem)
    (hsucceeded : h'.Succeeded ↔ h.Succeeded) (hrefused : h'.Refused ↔ h.Refused) :
    Recorded opId m h' where
  ids c := (hkept.identity c).trans (hrec.ids c)
  completed := by rw [hkept.executed, hrec.completed, hsucceeded, hrefused]
  success := by rw [hkept.recordsSuccess, hrec.success, hsucceeded]

/-- Every call keeps the relation. -/
theorem Recorded.runCall (cfg : ExecutionConfig) (hrec : Recorded opId m h)
    (hid : (h.mem.contracts call.contract).operationId = opId) :
    Recorded opId m (runCall cfg h call) := by
  cases runCall_ends cfg hid with
  | missing hstore hkept hlog hpc
  | skipped hflag hkept hlog hpc hsuccess
  | aborted hflag hkept hlog hpc hsuccess =>
    exact hrec.of_kept hkept (succeeded_congr hlog) (refused_congr hlog)
  | uncaught sent hflag hkept hlog hpc =>
    apply hrec.of_kept hkept
    · rw [succeeded_of_log hlog]
      simp [success?]
    · rw [refused_of_log hlog]
      simp [success?]
  | settled sent success hflag hreply hexecuted hrecord hlog hpc hsuccess =>
    constructor
    · exact fun c => (runCall_identity h call c).trans (hrec.ids c)
    · rw [hexecuted, succeeded_of_log hlog, refused_of_log hlog, hreply]
      cases success <;> simp
    · obtain ⟨hnone, -⟩ := hrec.of_not_executed hflag
      rw [hrecord, succeeded_of_log hlog, hreply]
      cases success <;> simp [hnone]

/-! ## What is reported -/

/-- Nothing is asked of a call that raises. -/
theorem reports_of_raised (hpc : h.pc = .raised) : Reports opId call h := by
  constructor
  all_goals
    intro hreturned
    rw [hpc] at hreturned
    cases hreturned

/-- The record of a call that returns is right in any case. -/
theorem Recorded.reports_of_returned (hrec : Recorded opId m h) (hpc : h.pc = .returned) :
    Reports opId call h ↔
      ((h.mem.contracts call.contract).executionSuccess = some true ↔ h.Succeeded) := by
  constructor
  · exact fun hreports => hreports.contract hpc
  · exact fun hcontract => ⟨fun _ => hcontract, fun _ => hrec.success⟩

theorem Recorded.not_failed (hrec : Recorded opId m h) (hflag : h.mem.executed opId = false) :
    ¬ h.Failed := fun hfailed => (hrec.of_not_executed hflag).2 hfailed.1

/-- A call reports what has happened unless it starts after the target has been called in vain. -/
theorem Recorded.reports_iff (hrec : Recorded opId m h)
    (hid : (h.mem.contracts call.contract).operationId = opId) :
    Reports opId call (ExecutionHistory.runCall cfg h call) ↔ ¬ h.Failed := by
  have hafter := hrec.runCall cfg hid
  cases runCall_ends cfg hid with
  | missing hstore hkept hlog hpc =>
    have hflag : h.mem.executed opId = false := by simp [Memory.executed, Memory.record?, hstore]
    exact iff_of_true (reports_of_raised hpc) (hrec.not_failed hflag)
  | skipped hflag hkept hlog hpc hsuccess =>
    -- the flag alone says that the operation was executed
    have hreplied : h.Succeeded ∨ h.Refused := hrec.completed.mp hflag
    rw [hafter.reports_of_returned hpc, hsuccess, succeeded_congr hlog]
    unfold Failed
    tauto
  | aborted hflag hkept hlog hpc hsuccess =>
    obtain ⟨hnone, -⟩ := hrec.of_not_executed hflag
    refine iff_of_true ?_ (hrec.not_failed hflag)
    rw [hafter.reports_of_returned hpc, hsuccess, succeeded_congr hlog]
    simp [hnone]
  | uncaught sent hflag hkept hlog hpc =>
    exact iff_of_true (reports_of_raised hpc) (hrec.not_failed hflag)
  | settled sent success hflag hreply hexecuted hrecord hlog hpc hsuccess =>
    obtain ⟨hnone, -⟩ := hrec.of_not_executed hflag
    refine iff_of_true ?_ (hrec.not_failed hflag)
    rw [hafter.reports_of_returned hpc, hsuccess, succeeded_of_log hlog, hreply]
    simp [hnone]

/-! ## A second call after a failure -/

/-- A call of which the target ends in this way, if it is made. -/
def sampleCall (reply : TargetReply) : ExecutionCall where
  contract := 0
  reply
  clock _ := 0

/-- The target refuses the operation. The second call, which does not reach it, reports success;
the record still says that there was none. -/
theorem refused_then_reported :
    ¬ (machine ExecutionSystem.sampleConfig).Guarded
      (fun h call => Reports "cg_1" call (runCall ExecutionSystem.sampleConfig h call))
      (initial sampleMemory)
      [sampleCall (.mcpCallError "HTTP 500"), sampleCall (.mcpCallError "HTTP 500")] := by
  rintro ⟨-, hrest⟩
  have hsecond := (hrest _ rfl).1
  obtain ⟨value, hmem⟩ := (hsecond.contract rfl).mp rfl
  change _ ∈ [Event.replied (.mcpCallError "HTTP 500"), .sent _] at hmem
  simp at hmem

/-! ## When every call reports what has happened -/

/-- **When execution outcomes are reported faithfully.** In every sequence of calls for an
operation id whose record is as it was created, every call that returns reports success exactly
when some call of the target has succeeded by then, and the record agrees, if and only if no call
starts after the target has been called in vain. -/
theorem calls_report_iff {calls : List ExecutionCall} (hflag : m.executed opId = false)
    (hresult : m.recordsSuccess opId = false)
    (hids : ∀ call ∈ calls, (m.contracts call.contract).operationId = opId) :
    (machine cfg).Guarded (fun h call => Reports opId call (runCall cfg h call)) (initial m) calls ↔
      (machine cfg).Guarded (fun h _ => ¬ h.Failed) (initial m) calls := by
  have hid : ∀ (h : ExecutionHistory) (call : ExecutionCall), Recorded opId m h →
      (m.contracts call.contract).operationId = opId →
      (h.mem.contracts call.contract).operationId = opId := by
    intro h call hrec hcall
    rw [hrec.ids]
    exact hcall
  apply (machine cfg).guarded_congr_of_mem _ _ (recorded_initial hflag hresult) hids
  · intro h call h' hrec hcall hstep
    obtain rfl := Option.some.inj hstep
    exact hrec.runCall cfg (hid h call hrec hcall)
  · intro h call hrec hcall
    exact hrec.reports_iff (hid h call hrec hcall)

/-- A connection is lost, the next call succeeds, and a third one only looks at the record. -/
theorem calls_report_after_lost_connection :
    (machine ExecutionSystem.sampleConfig).Guarded
      (fun h call => Reports "cg_1" call (runCall ExecutionSystem.sampleConfig h call))
      (initial sampleMemory)
      [sampleCall .otherError, sampleCall (.result .null), sampleCall .otherError] := by
  refine (calls_report_iff rfl rfl (by decide)).mpr ?_
  refine Machine.guarded_cons _ rfl ?_ (Machine.guarded_cons _ rfl ?_
    (Machine.guarded_cons _ rfl ?_ trivial))
  all_goals rintro ⟨⟨message, hmem⟩, -⟩
  · cases hmem
  · change _ ∈ [Event.replied .otherError, .sent _] at hmem
    simp at hmem
  · change _ ∈ [Event.replied (.result .null), .sent _, .replied .otherError, .sent _] at hmem
    simp at hmem

end ExecutionHistory
