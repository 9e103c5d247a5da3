import Mathlib.Data.List.Induction
import ContraGate.AuditLog

/-!
# Whose records `list_operations` lists

No row is given a tenant, so all rows are those of `demo_tenant`, whatever tenant the operation
belongs to.
-/

open Py

namespace AuditLog

/-- A call of one of the tools that write, with the id and the time that it draws. -/
structure LogCall (F : Type) where
  tool : LogTool
  known : tool ∈ logTools
  recordId : String
  now : Time
  operationId : String
  agentName : String
  values : List (JsonData F)
  length_values : values.length = tool.keys.length

variable {F : Type} (cfg : AuditConfig F)

namespace LogCall

/-- The table after the call. -/
def run (table : AuditTable) (call : LogCall F) : AuditTable :=
  ((call.tool.call cfg table call.recordId call.now call.operationId call.agentName
    call.values).map Prod.fst).getD table

/-- The agent's name, if the tool has such a parameter. -/
def agent (call : LogCall F) : Option String :=
  if call.tool.agent then some call.agentName else none

/-- The dict of event data. -/
def eventData (call : LogCall F) : JsonData F := .obj (call.tool.keys.zip call.values)

/-- PostgreSQL can store what the call writes. -/
def Accepted (call : LogCall F) : Prop :=
  (Pg.isText call.operationId && call.agent.all Pg.isText) = true ∧
    (Jsonb.ofData cfg.floats call.eventData).isSome

end LogCall

/-- The table after these calls, which start with an empty one. -/
def tableAfter (calls : List (LogCall F)) : AuditTable := calls.foldl (LogCall.run cfg) []

/-- `list_operations` lists exactly the records of the operations of a tenant. -/
def ListsExactly (tenantOf : String → String) (tenantId : String) (calls : List (LogCall F))
    (limit : ℤ) : Prop :=
  ∃ listing, listOperations (tableAfter cfg calls) tenantId limit = some listing ∧
    listing.records.Perm
      (((tableAfter cfg calls).filter fun row => tenantOf row.operationId = tenantId).map record)

/-! ## The table -/

variable {cfg} {call : LogCall F} {calls : List (LogCall F)} {row : AuditRow}

/-- One call adds one row for its operation, in the name of `demo_tenant`, or none. -/
theorem run_cases (cfg : AuditConfig F) (table : AuditTable) (call : LogCall F) :
    (call.Accepted cfg ∧ ∃ row : AuditRow, row.operationId = call.operationId ∧
      row.tenantId = "demo_tenant" ∧ call.run cfg table = table ++ [row]) ∨
    (¬ call.Accepted cfg ∧ call.run cfg table = table) := by
  unfold LogCall.run LogTool.call LogCall.Accepted LogCall.eventData LogCall.agent append
  by_cases htexts : (Pg.isText call.operationId &&
      (if call.tool.agent then some call.agentName else none).all Pg.isText) = true
  · rw [if_pos htexts]
    cases hstored : Jsonb.ofData cfg.floats (.obj (call.tool.keys.zip call.values)) with
    | none =>
      right
      exact ⟨fun h => Bool.false_ne_true h.2, rfl⟩
    | some stored =>
      left
      exact ⟨⟨htexts, rfl⟩, _, rfl, rfl, rfl⟩
  · right
    rw [if_neg htexts]
    exact ⟨fun h => htexts h.1, rfl⟩

theorem tableAfter_concat (calls : List (LogCall F)) (call : LogCall F) :
    tableAfter cfg (calls ++ [call]) = call.run cfg (tableAfter cfg calls) := by
  unfold tableAfter
  rw [List.foldl_append, List.foldl_cons, List.foldl_nil]

/-- The operations in the table are those of the accepted calls. -/
theorem exists_mem_tableAfter_iff (calls : List (LogCall F)) (operationId : String) :
    (∃ row ∈ tableAfter cfg calls, row.operationId = operationId) ↔
      ∃ call ∈ calls, call.Accepted cfg ∧ call.operationId = operationId := by
  induction calls using List.reverseRecOn with
  | nil => simp [tableAfter]
  | append_singleton calls call ih =>
    rw [tableAfter_concat]
    rcases run_cases cfg (tableAfter cfg calls) call with
      ⟨haccepted, row, hoperation, -, htable⟩ | ⟨hrefused, htable⟩
    · rw [htable]
      simp only [List.mem_append, List.mem_singleton, or_and_right, exists_or, exists_eq_left, ih,
        hoperation, haccepted, true_and]
    · rw [htable, ih]
      simp only [List.mem_append, List.mem_singleton, or_and_right, exists_or, exists_eq_left,
        hrefused, false_and, or_false]

theorem tenantId_of_mem_tableAfter (h : row ∈ tableAfter cfg calls) :
    row.tenantId = "demo_tenant" := by
  induction calls using List.reverseRecOn with
  | nil => cases h
  | append_singleton calls call ih =>
    rw [tableAfter_concat] at h
    rcases run_cases cfg (tableAfter cfg calls) call with
      ⟨-, added, -, htenant, htable⟩ | ⟨-, htable⟩
    · rw [htable] at h
      rcases List.mem_append.mp h with h | h
      · exact ih h
      · rw [List.mem_singleton.mp h, htenant]
    · exact ih (htable ▸ h)

/-! ## The listing -/

/-- With a limit that is large enough, all rows of the tenant are listed. -/
theorem listOperations_of_large (table : AuditTable) (tenantId : String) (limit : ℤ)
    (htenant : (Pg.isText tenantId && Pg.isLimit limit) = true) (hlimit : table.length ≤ limit) :
    ∃ listing, listOperations table tenantId limit = some listing ∧
      listing.records.Perm ((table.filter (·.tenantId == tenantId)).map record) := by
  have hoffset : Pg.isLimit 0 = true := by decide
  unfold listOperations
  rw [if_pos (by rw [htenant, hoffset, Bool.and_self])]
  refine ⟨_, rfl, ?_⟩
  dsimp only
  have hlength : (sortDesc AuditRow.loggedAt (table.filter (·.tenantId == tenantId))).length ≤
      limit.toNat := by
    rw [length_sortDesc]
    have hfilter := List.length_filter_le (·.tenantId == tenantId) table
    omega
  rw [Int.toNat_zero, List.drop_zero, List.take_of_length_le hlength]
  exact (List.mergeSort_perm _ _).map _

/-- The rows of one tenant are all of them or none. -/
theorem filter_tenantId_tableAfter (calls : List (LogCall F)) (tenantId : String) :
    (tableAfter cfg calls).filter (·.tenantId == tenantId) =
      if tenantId = "demo_tenant" then tableAfter cfg calls else [] := by
  split_ifs with h
  · rw [List.filter_eq_self]
    intro row hrow
    rw [tenantId_of_mem_tableAfter hrow, h]
    rfl
  · rw [List.filter_eq_nil_iff]
    intro row hrow
    rw [tenantId_of_mem_tableAfter hrow, beq_iff_eq]
    exact Ne.symm h

/-- What holds of the operations of all rows holds of those of the accepted calls. -/
theorem forall_accepted_iff {calls : List (LogCall F)} {P : String → Prop} :
    (∀ call ∈ calls, call.Accepted cfg → P call.operationId) ↔
      ∀ row ∈ tableAfter cfg calls, P row.operationId := by
  constructor
  · intro h row hrow
    obtain ⟨call, hcall, haccepted, hoperation⟩ :=
      (exists_mem_tableAfter_iff calls row.operationId).mp ⟨row, hrow, rfl⟩
    rw [← hoperation]
    exact h call hcall haccepted
  · intro h call hcall haccepted
    obtain ⟨row, hrow, hoperation⟩ :=
      (exists_mem_tableAfter_iff calls call.operationId).mpr ⟨call, hcall, haccepted, rfl⟩
    rw [← hoperation]
    exact h row hrow

/-- **The listing is that of the tenant exactly when the accepted calls are for operations of this
tenant, if it is `demo_tenant`, and for operations of others, if not.** -/
theorem listOperations_scoped_iff (cfg : AuditConfig F) (tenantOf : String → String)
    (tenantId : String) (calls : List (LogCall F)) (limit : ℤ)
    (hlimit : (tableAfter cfg calls).length ≤ limit) :
    ListsExactly cfg tenantOf tenantId calls limit ↔
      (Pg.isText tenantId && Pg.isLimit limit) = true ∧ ∀ call ∈ calls, call.Accepted cfg →
        (tenantOf call.operationId = tenantId ↔ tenantId = "demo_tenant") := by
  rw [forall_accepted_iff (P := fun id => tenantOf id = tenantId ↔ tenantId = "demo_tenant")]
  by_cases htenant : (Pg.isText tenantId && Pg.isLimit limit) = true
  · obtain ⟨listing, hlisting, hrecords⟩ := listOperations_of_large _ _ _ htenant hlimit
    rw [filter_tenantId_tableAfter] at hrecords
    constructor
    · rintro ⟨listing', hlisting', hperm⟩
      obtain rfl : listing' = listing := by
        rw [hlisting] at hlisting'
        exact (Option.some.inj hlisting').symm
      refine ⟨htenant, ?_⟩
      have hlength := (hrecords.symm.trans hperm).length_eq
      simp only [List.length_map] at hlength
      by_cases hdemo : tenantId = "demo_tenant"
      · -- no row was filtered out
        rw [if_pos hdemo] at hlength
        have hall := List.length_filter_eq_length_iff.mp hlength.symm
        intro row hrow
        exact iff_of_true (by simpa using hall row hrow) hdemo
      · rw [if_neg hdemo, List.length_nil] at hlength
        have hnone := List.filter_eq_nil_iff.mp (List.length_eq_zero_iff.mp hlength.symm)
        intro row hrow
        exact iff_of_false (by simpa using hnone row hrow) hdemo
    · rintro ⟨-, hrows⟩
      refine ⟨listing, hlisting, hrecords.trans ?_⟩
      by_cases hdemo : tenantId = "demo_tenant"
      · rw [if_pos hdemo, List.filter_eq_self.mpr]
        exact fun row hrow => decide_eq_true ((hrows row hrow).mpr hdemo)
      · have hnone : ((tableAfter cfg calls).filter
            fun row => tenantOf row.operationId = tenantId) = [] :=
          List.filter_eq_nil_iff.mpr fun row hrow htrue =>
            hdemo ((hrows row hrow).mp (of_decide_eq_true htrue))
        rw [if_neg hdemo, hnone]
  · refine iff_of_false ?_ fun h => htenant h.1
    rintro ⟨listing, hlisting, -⟩
    unfold listOperations at hlisting
    rw [if_neg fun h => htenant (Bool.and_eq_true _ _ ▸ h).1] at hlisting
    cases hlisting

/-- A policy rejection that is logged for the operation `cg_1`. -/
def rejectionCall : LogCall SampleFloat where
  tool := logAutoReject
  known := by simp [logTools]
  recordId := "1b4e28ba-2fa1-11d2-883f-0016d3cca427"
  now := 0
  operationId := "cg_1"
  agentName := ""
  values := [.str "no_drop", .str "DROP TABLE", .str "2026-01-31T12:00:00"]
  length_values := rfl

theorem listOperations_scoped_iff_demo :
    ListsExactly sampleAuditConfig (fun _ => "demo_tenant") "demo_tenant" [rejectionCall] 50 :=
  (listOperations_scoped_iff sampleAuditConfig (fun _ => "demo_tenant") "demo_tenant"
    [rejectionCall] 50 (by decide)).mpr ⟨by decide, fun _ _ _ => iff_of_true rfl rfl⟩

/-- The rejection of another tenant's operation is not listed for that tenant. -/
theorem listOperations_misses :
    ¬ ∀ (cfg : AuditConfig SampleFloat) (tenantOf : String → String) (tenantId : String)
      (calls : List (LogCall SampleFloat)) (limit : ℤ), (tableAfter cfg calls).length ≤ limit →
      ListsExactly cfg tenantOf tenantId calls limit := by
  intro hall
  obtain ⟨listing, hlisting, hperm⟩ :=
    hall sampleAuditConfig (fun _ => "acme") "acme" [rejectionCall] 50 (by decide)
  obtain ⟨listing', hlisting', hempty⟩ := listOperations_of_large
    (tableAfter sampleAuditConfig [rejectionCall]) "acme" 50 (by decide) (by decide)
  obtain rfl : listing = listing' := Option.some.inj (hlisting.symm.trans hlisting')
  rw [filter_tenantId_tableAfter, if_neg (by decide)] at hempty
  exact absurd (hempty.symm.trans hperm).length_eq (by decide)

end AuditLog
