import ContraGate.OperationMemory

/-!
# What one tenant sees of the operation memory

Every query filters by tenant, so a tenant should see a server with its own rows only. Two things
are shared: the unique key of `operation_memory`, through which `store_operation` reaches a row of
another tenant, and the cache of embeddings, which shows while the provider is down. As long as no
call meets them, what the others call does not show.
-/

open Py

namespace OperationMemory

variable {V : Type} {cfg : MemoryServerConfig V}

/-! ## Filters -/

section Filters

variable {α : Type} {p q selected : α → Bool} {change : α → α} {rows : List α}

theorem updateWhere_eq_self (h : ∀ row ∈ rows, selected row = false) :
    updateWhere selected change rows = rows := by
  unfold updateWhere
  refine (List.map_congr_left fun row hrow => ?_).trans (List.map_id rows)
  rw [h row hrow, if_neg Bool.false_ne_true, id]

/-- A change that does not move a row across the filter. -/
theorem filter_updateWhere (h : ∀ row ∈ rows, selected row = true → p (change row) = p row) :
    (updateWhere selected change rows).filter p = updateWhere selected change (rows.filter p) := by
  unfold updateWhere
  rw [List.filter_map]
  refine congrArg _ (List.filter_congr fun row hrow => ?_)
  rw [Function.comp_apply]
  split
  · rename_i hselected
    exact h row hrow hselected
  · rfl

/-- A change of other rows, which stay others. -/
theorem filter_updateWhere_of_other
    (h : ∀ row ∈ rows, selected row = true → p row = false ∧ p (change row) = false) :
    (updateWhere selected change rows).filter p = rows.filter p := by
  rw [filter_updateWhere fun row hrow hselected => by
    rw [(h row hrow hselected).1, (h row hrow hselected).2]]
  refine updateWhere_eq_self fun row hrow => ?_
  obtain ⟨hmem, hp⟩ := List.mem_filter.mp hrow
  by_contra hselected
  rw [(h row hmem (Bool.not_eq_false _ ▸ hselected)).1] at hp
  cases hp

theorem any_filter_of_imp (h : ∀ row ∈ rows, q row = true → p row = true) :
    (rows.filter p).any q = rows.any q := by
  rw [Bool.eq_iff_iff, List.any_eq_true, List.any_eq_true]
  constructor
  · rintro ⟨row, hrow, hq⟩
    exact ⟨row, (List.mem_filter.mp hrow).1, hq⟩
  · rintro ⟨row, hrow, hq⟩
    exact ⟨row, List.mem_filter.mpr ⟨hrow, h row hrow hq⟩, hq⟩

theorem find?_filter_of_imp (h : ∀ row, q row = true → p row = true) :
    (rows.filter p).find? q = rows.find? q := by
  rw [List.find?_filter]
  refine congrArg (fun q => rows.find? q) (funext fun row => ?_)
  rw [Bool.eq_iff_iff]
  rw [decide_eq_true_eq]
  exact ⟨And.right, fun hq => ⟨h row hq, hq⟩⟩

end Filters

/-! ## The tables of one tenant -/

/-- The rows of a tenant. -/
def view (tenant : String) (s : OperationMemory V) : OperationMemory V where
  memory := s.memory.filter (·.tenantId == tenant)
  confidence := s.confidence.filter (·.tenantId == tenant)
  patterns := s.patterns.filter (·.tenantId == tenant)
  cache := s.cache.filter (·.2 == tenant)

/-- The call meets nothing that the tenant shares with others: a row under the same operation id is
the tenant's exactly if the call is, and without the provider the tenant finds only what it has
searched for itself. -/
def Separate (tenant : String) (s : OperationMemory V) (c : TimedCall) : Prop :=
  match c.call with
  | .storeOperation args => ∀ row ∈ s.memory, row.operationId = args.operationId →
      (row.tenantId = tenant ↔ args.tenantId = tenant)
  | .semanticSearch intent tenantId _ => tenantId = tenant → c.online = false →
      s.cached intent = true → (intent, tenant) ∈ s.cache
  | _ => True

/-- The calls of a tenant. -/
def ofTenant (tenant : String) (c : TimedCall) : Bool := c.call.tenantId == tenant

/-- Those of them that only read. -/
def readOf (tenant : String) (c : TimedCall) : Bool := ofTenant tenant c && c.call.isRead

variable {tenant : String} {s : OperationMemory V}

theorem proposedRow_tenantId {args : StoreArguments} {now : Time} {row : MemoryRow V}
    (h : proposedRow cfg args now = some row) : row.tenantId = args.tenantId := by
  unfold proposedRow at h
  split at h
  · obtain ⟨embedding, -, rfl⟩ := Option.map_eq_some_iff.mp h
    rfl
  · cases h

/-! ## Each tool -/

theorem view_setMemory {rows rows' : List (MemoryRow V)}
    (h : rows.filter (·.tenantId == tenant) = rows') :
    view tenant { s with memory := rows } = { view tenant s with memory := rows' } := by
  subst h
  rfl

theorem view_setConfidence {rows rows' : List ConfidenceRow}
    (h : rows.filter (·.tenantId == tenant) = rows') :
    view tenant { s with confidence := rows } = { view tenant s with confidence := rows' } := by
  subst h
  rfl

theorem storeOperation_own {args : StoreArguments} {now : Time} (htenant : args.tenantId = tenant)
    (hseparate : ∀ row ∈ s.memory, row.operationId = args.operationId →
      (row.tenantId = tenant ↔ args.tenantId = tenant)) :
    storeOperation cfg (s.view tenant) args now =
      ((storeOperation cfg s args now).1.view tenant, (storeOperation cfg s args now).2) := by
  unfold storeOperation
  cases hrow : proposedRow cfg args now with
  | none => rfl
  | some row =>
    have hany : (s.view tenant).memory.any (·.operationId == args.operationId) =
        s.memory.any (·.operationId == args.operationId) := by
      refine any_filter_of_imp fun other hother hid => ?_
      exact beq_iff_eq.mpr ((hseparate other hother (beq_iff_eq.mp hid)).mpr htenant)
    dsimp only
    rw [hany]
    split
    · refine Prod.ext (view_setMemory ?_).symm rfl
      exact filter_updateWhere fun _ _ _ => rfl
    · have hrowTenant : (row.tenantId == tenant) = true :=
        beq_iff_eq.mpr ((proposedRow_tenantId hrow).trans htenant)
      simp [view, List.filter_append, hrowTenant]

theorem storeOperation_other {args : StoreArguments} {now : Time} (htenant : args.tenantId ≠ tenant)
    (hseparate : ∀ row ∈ s.memory, row.operationId = args.operationId →
      (row.tenantId = tenant ↔ args.tenantId = tenant)) :
    (storeOperation cfg s args now).1.view tenant = s.view tenant := by
  unfold storeOperation
  cases hrow : proposedRow cfg args now with
  | none => rfl
  | some row =>
    dsimp only
    split
    · refine view_setMemory (filter_updateWhere_of_other fun other hother hid => ?_)
      have hne : other.tenantId ≠ tenant := fun h =>
        htenant ((hseparate other hother (beq_iff_eq.mp hid)).mp h)
      exact ⟨beq_eq_false_iff_ne.mpr hne, beq_eq_false_iff_ne.mpr hne⟩
    · have hrowTenant : (row.tenantId == tenant) = false :=
        beq_eq_false_iff_ne.mpr ((proposedRow_tenantId hrow).trans_ne htenant)
      simp [view, List.filter_append, hrowTenant]

theorem isOperation_tenant {operationId : String} {row : MemoryRow V}
    (h : isOperation operationId tenant row = true) : (row.tenantId == tenant) = true :=
  (Bool.and_eq_true _ _ ▸ h).2

theorem updateDecision_own (operationId decision reason timestamp : String) :
    updateDecision cfg (s.view tenant) operationId tenant decision reason timestamp =
      ((updateDecision cfg s operationId tenant decision reason timestamp).1.view tenant,
        (updateDecision cfg s operationId tenant decision reason timestamp).2) := by
  have hany : (s.view tenant).memory.any (isOperation operationId tenant) =
      s.memory.any (isOperation operationId tenant) :=
    any_filter_of_imp fun _ _ h => isOperation_tenant h
  unfold updateDecision
  dsimp only
  rw [hany]
  split
  · rfl
  · split
    · refine Prod.ext (view_setMemory ?_).symm rfl
      exact filter_updateWhere fun _ _ _ => rfl
    · rfl

theorem updateDecision_other {tenantId : String} (htenant : tenantId ≠ tenant)
    (operationId decision reason timestamp : String) :
    (updateDecision cfg s operationId tenantId decision reason timestamp).1.view tenant =
      s.view tenant := by
  unfold updateDecision
  dsimp only
  split
  · rfl
  · split
    · refine view_setMemory (filter_updateWhere_of_other fun row _ h => ?_)
      have hne : (row.tenantId == tenant) = false :=
        beq_eq_false_iff_ne.mpr ((beq_iff_eq.mp (isOperation_tenant h)).trans_ne htenant)
      exact ⟨hne, hne⟩
    · rfl

theorem updateOutcome_own (operationId : String) (actualRows : ℤ) :
    updateOutcome cfg (s.view tenant) operationId tenant actualRows =
      ((updateOutcome cfg s operationId tenant actualRows).1.view tenant,
        (updateOutcome cfg s operationId tenant actualRows).2) := by
  have hfind : (s.view tenant).memory.find? (isOperation operationId tenant) =
      s.memory.find? (isOperation operationId tenant) :=
    find?_filter_of_imp fun _ h => isOperation_tenant h
  unfold updateOutcome
  dsimp only
  rw [hfind]
  split
  · refine Prod.ext (view_setMemory ?_).symm rfl
    exact filter_updateWhere fun _ _ _ => rfl
  · rfl

theorem updateOutcome_other {tenantId : String} (htenant : tenantId ≠ tenant)
    (operationId : String) (actualRows : ℤ) :
    (updateOutcome cfg s operationId tenantId actualRows).1.view tenant = s.view tenant := by
  unfold updateOutcome
  dsimp only
  split
  · refine view_setMemory (filter_updateWhere_of_other fun row _ h => ?_)
    have hne : (row.tenantId == tenant) = false :=
      beq_eq_false_iff_ne.mpr ((beq_iff_eq.mp (isOperation_tenant h)).trans_ne htenant)
    exact ⟨hne, hne⟩
  · rfl

theorem isScore_tenant {table operationType : String} {row : ConfidenceRow}
    (h : isScore table operationType tenant row = true) : (row.tenantId == tenant) = true :=
  (Bool.and_eq_true _ _ ▸ h).2

theorem find?_score (s : OperationMemory V) (table operationType tenant : String) :
    (s.view tenant).confidence.find? (isScore table operationType tenant) =
      s.confidence.find? (isScore table operationType tenant) :=
  find?_filter_of_imp fun _ h => isScore_tenant h

theorem getConfidenceScores_own (table operationType : String) :
    getConfidenceScores cfg (s.view tenant) table operationType tenant =
      getConfidenceScores cfg s table operationType tenant := by
  unfold getConfidenceScores
  rw [find?_score]

theorem adjusted_tenantId {delta : Py.Float} {now : Time} {row row' : ConfidenceRow}
    (h : adjusted cfg delta now row = some row') : row'.tenantId = row.tenantId := by
  obtain ⟨sum, -, rfl⟩ := Option.map_eq_some_iff.mp h
  rfl

theorem updateConfidenceScore_own (table operationType : String) (delta : Py.Float) (now : Time) :
    updateConfidenceScore cfg (s.view tenant) table operationType delta tenant now =
      ((updateConfidenceScore cfg s table operationType delta tenant now).1.view tenant,
        (updateConfidenceScore cfg s table operationType delta tenant now).2) := by
  unfold updateConfidenceScore
  dsimp only
  split
  · rw [find?_score]
    split
    · simp [view, List.filter_append]
    · rename_i row hfind
      split
      · rfl
      · rename_i row' hadjusted
        have hrow := List.find?_some hfind
        have hrow' : (row'.tenantId == tenant) = true := by
          rw [adjusted_tenantId hadjusted]
          exact isScore_tenant hrow
        rw [view_setConfidence (filter_updateWhere fun other _ h => by
          rw [hrow', isScore_tenant h])]
        rfl
  · rfl

theorem updateConfidenceScore_other {tenantId : String} (htenant : tenantId ≠ tenant)
    (table operationType : String) (delta : Py.Float) (now : Time) :
    (updateConfidenceScore cfg s table operationType delta tenantId now).1.view tenant =
      s.view tenant := by
  have hne {row : ConfidenceRow} (h : (row.tenantId == tenantId) = true) :
      (row.tenantId == tenant) = false :=
    beq_eq_false_iff_ne.mpr ((beq_iff_eq.mp h).trans_ne htenant)
  unfold updateConfidenceScore
  dsimp only
  split
  · split
    · have hother : (tenantId == tenant) = false := beq_eq_false_iff_ne.mpr htenant
      simp [view, List.filter_append, hother]
    · rename_i row hfind
      split
      · rfl
      · rename_i row' hadjusted
        have hrow' : (row'.tenantId == tenantId) = true := by
          rw [adjusted_tenantId hadjusted]
          exact isScore_tenant (List.find?_some hfind)
        exact view_setConfidence (filter_updateWhere_of_other fun other _ h =>
          ⟨hne (isScore_tenant h), hne hrow'⟩)
  · rfl

theorem checkAutoRejectPattern_own (tables : List String) (operationType : String)
    (lookbackDays : ℤ) (now : Time) :
    checkAutoRejectPattern cfg (s.view tenant) tables operationType tenant lookbackDays now =
      checkAutoRejectPattern cfg s tables operationType tenant lookbackDays now := by
  have hfilter (since : Time) : ((s.view tenant).patterns.filter fun p =>
        p.tenantId == tenant && p.operationType == operationType &&
          p.affectedTables.any tables.contains && since < p.rejectedAt) =
      s.patterns.filter fun p => p.tenantId == tenant && p.operationType == operationType &&
        p.affectedTables.any tables.contains && since < p.rejectedAt := by
    rw [view, List.filter_filter]
    refine List.filter_congr fun p _ => ?_
    cases p.tenantId == tenant <;> simp
  unfold checkAutoRejectPattern
  simp only [hfilter]

theorem rows_view (s : OperationMemory V) (tenant : String) :
    (s.view tenant).memory.filter (·.tenantId == tenant) =
      s.memory.filter (·.tenantId == tenant) := by
  rw [view, List.filter_filter]
  simp only [Bool.and_self]

theorem view_cacheText (s : OperationMemory V) (intent tenantId tenant : String) :
    view tenant { s with cache := s.cache ++ [(intent, tenantId)] } =
      if tenantId = tenant then
        { s.view tenant with cache := (s.view tenant).cache ++ [(intent, tenantId)] }
      else s.view tenant := by
  unfold view
  split_ifs with h <;> simp [List.filter_append, h]

theorem semanticSearch_own {intent : String} {topK : ℤ} {online : Bool}
    (hseparate : online = false → s.cached intent = true → (intent, tenant) ∈ s.cache) :
    semanticSearch cfg (s.view tenant) intent tenant topK online =
      ((semanticSearch cfg s intent tenant topK online).1.view tenant,
        (semanticSearch cfg s intent tenant topK online).2) := by
  have hcached : ((s.view tenant).cached intent || online) = (s.cached intent || online) := by
    cases online with
    | true => rw [Bool.or_true, Bool.or_true]
    | false =>
      rw [Bool.or_false, Bool.or_false, Bool.eq_iff_iff]
      unfold cached view
      rw [List.any_eq_true, List.any_eq_true]
      constructor
      · rintro ⟨entry, hentry, htext⟩
        exact ⟨entry, (List.mem_filter.mp hentry).1, htext⟩
      · intro h
        exact ⟨(intent, tenant), List.mem_filter.mpr ⟨hseparate rfl (List.any_eq_true.mpr h), by simp⟩,
          by simp⟩
  have hview := view_cacheText s intent tenant tenant
  rw [if_pos rfl] at hview
  unfold semanticSearch
  dsimp only
  rw [hcached, rows_view]
  split
  · split
    · split
      · rw [hview]
      · rw [hview]
    · rw [hview]
  · split <;> rfl

theorem semanticSearch_other {tenantId : String} (htenant : tenantId ≠ tenant) (intent : String)
    (topK : ℤ) (online : Bool) :
    (semanticSearch cfg s intent tenantId topK online).1.view tenant = s.view tenant := by
  have hview := view_cacheText s intent tenantId tenant
  rw [if_neg htenant] at hview
  unfold semanticSearch
  dsimp only
  split
  · split
    · split
      · exact hview
      · exact hview
    · exact hview
  · split <;> rfl

/-! ## The server -/

/-- A tenant that meets nothing shared sees a server with its own rows. -/
theorem unwinds (cfg : MemoryServerConfig V) (tenant : String) :
    (server cfg).Unwinds (server cfg) (Separate tenant) (ofTenant tenant) (view tenant) where
  own_step {s c} hseparate hown := by
    have htenant : c.call.tenantId = tenant := beq_iff_eq.mp hown
    obtain ⟨call, now, online⟩ := c
    cases call with
    | storeOperation args => exact storeOperation_own htenant hseparate
    | semanticSearch intent tenantId topK =>
      obtain rfl : tenantId = tenant := htenant
      exact semanticSearch_own (hseparate rfl)
    | updateDecision operationId tenantId decision reason timestamp =>
      obtain rfl : tenantId = tenant := htenant
      exact updateDecision_own operationId decision reason timestamp
    | updateOutcome operationId tenantId actualRows executionSuccess =>
      obtain rfl : tenantId = tenant := htenant
      exact updateOutcome_own operationId actualRows
    | getConfidenceScores table operationType tenantId =>
      obtain rfl : tenantId = tenant := htenant
      exact Prod.ext rfl (getConfidenceScores_own table operationType)
    | updateConfidenceScore table operationType delta tenantId =>
      obtain rfl : tenantId = tenant := htenant
      exact updateConfidenceScore_own table operationType delta now
    | checkAutoRejectPattern tables operationType tenantId lookbackDays =>
      obtain rfl : tenantId = tenant := htenant
      exact Prod.ext rfl (checkAutoRejectPattern_own tables operationType lookbackDays now)
  other_step {s c} hseparate hother := by
    have htenant : c.call.tenantId ≠ tenant := beq_eq_false_iff_ne.mp hother
    obtain ⟨call, now, online⟩ := c
    cases call with
    | storeOperation args => exact storeOperation_other htenant hseparate
    | semanticSearch intent tenantId topK => exact semanticSearch_other htenant intent topK online
    | updateDecision operationId tenantId decision reason timestamp =>
      exact updateDecision_other htenant operationId decision reason timestamp
    | updateOutcome operationId tenantId actualRows executionSuccess =>
      exact updateOutcome_other htenant operationId actualRows
    | getConfidenceScores table operationType tenantId => rfl
    | updateConfidenceScore table operationType delta tenantId =>
      exact updateConfidenceScore_other htenant table operationType delta now
    | checkAutoRejectPattern tables operationType tenantId lookbackDays => rfl

/-- **Two runs that differ in the calls of another tenant only give a tenant's reads the same
results**, if in both of them no call meets what the tenants share. -/
theorem reads_isolated (cfg : MemoryServerConfig V) (a b : String) (hab : a ≠ b)
    (s : OperationMemory V) (calls calls' : List TimedCall)
    (hsame : (calls.filter fun c => !ofTenant b c) = calls'.filter fun c => !ofTenant b c)
    (hguard : (server cfg).Guarded (Separate a) s calls)
    (hguard' : (server cfg).Guarded (Separate a) s calls') :
    (server cfg).answers (readOf a) s calls = (server cfg).answers (readOf a) s calls' := by
  -- the calls of `a` are among those that are not of `b`
  have hown (calls : List TimedCall) : calls.filter (ofTenant a) =
      (calls.filter fun c => !ofTenant b c).filter (ofTenant a) := by
    rw [List.filter_filter]
    refine List.filter_congr fun c _ => ?_
    unfold ofTenant
    by_cases h : c.call.tenantId = a <;> simp [h, hab]
  refine Server.answers_congr (unwinds cfg a) (fun c h => (Bool.and_eq_true _ _ ▸ h).1) ?_ hguard
    hguard'
  rw [hown calls, hown calls', hsame]

/-! ## Two tenants -/

@[irreducible] def sampleEmbedding : List Py.Float := List.replicate 1536 (.finite 1)

theorem length_sampleEmbedding : sampleEmbedding.length = 1536 := by
  unfold sampleEmbedding
  exact List.length_replicate

/-- All texts have one embedding. -/
def sampleMemoryServer : MemoryServerConfig Unit where
  embedding _ := sampleEmbedding
  toVector values := if values.length = 1536 then some () else none
  distance _ _ := .finite 0
  similarity _ _ := .finite 1
  ilike _ _ := false
  toTime _ := none
  isoformat _ := ""
  lookback now days := some (now - days * (24 * 60 * 60 * 1000000))
  toFloat := id
  initialConfidence _ := none
  addConfidence _ _ := none

def emptyMemory : OperationMemory Unit where
  memory := []
  confidence := []
  patterns := []
  cache := []

/-- The row of an outcome. -/
def outcomeRow (operationId tenantId outcome : String) : MemoryRow Unit where
  operationId := operationId
  tenantId := tenantId
  intentSummary := "Delete old orders"
  intentEmbedding := some ()
  affectedTables := ["orders"]
  operationType := "DELETE"
  estimatedRows := 7
  actualRows := none
  outcome := outcome
  decisionReason := ""
  blastRadiusDelta := none
  reanalysisCount := 0
  submittedAt := 0
  decidedAt := some 0

/-- An outcome is stored. -/
def storeCall (operationId tenantId outcome : String) : TimedCall where
  call := .storeOperation
    { operationId, tenantId, intentSummary := "Delete old orders", affectedTables := ["orders"]
      operationType := "DELETE", estimatedRows := 7, outcome, decisionReason := ""
      embedding := some sampleEmbedding }
  now := 0
  online := true

def searchCall (tenantId : String) : TimedCall where
  call := .semanticSearch "Delete old orders" tenantId 20
  now := 0
  online := true

theorem toVector_sampleEmbedding : sampleMemoryServer.toVector sampleEmbedding = some () :=
  if_pos length_sampleEmbedding

theorem embeddingValue_sample :
    embeddingValue sampleMemoryServer (some sampleEmbedding) = some (some ()) := by
  cases h : sampleEmbedding with
  | nil =>
    have hlength := length_sampleEmbedding
    rw [h] at hlength
    cases hlength
  | cons x values =>
    change (sampleMemoryServer.toVector (x :: values)).map some = _
    rw [← h, toVector_sampleEmbedding, Option.map_some]

/-- The call stores its row, or changes the rows under its operation id. -/
theorem step_storeCall (s : OperationMemory Unit) {operationId tenantId outcome : String}
    (htexts : [operationId, tenantId, outcome].all Pg.isText = true)
    (houtcome : admittedOutcomes.contains outcome = true) :
    (step sampleMemoryServer s (storeCall operationId tenantId outcome)).1.memory =
      if s.memory.any (·.operationId == operationId) then
        updateWhere (·.operationId == operationId)
          (onConflict (outcomeRow operationId tenantId outcome)) s.memory
      else s.memory ++ [outcomeRow operationId tenantId outcome] := by
  have hrow : proposedRow sampleMemoryServer
      { operationId, tenantId, intentSummary := "Delete old orders", affectedTables := ["orders"]
        operationType := "DELETE", estimatedRows := 7, outcome, decisionReason := ""
        embedding := some sampleEmbedding } 0 =
      some (outcomeRow operationId tenantId outcome) := by
    have hsummary : Pg.isText "Delete old orders" = true := by decide
    have htype : Pg.isText "DELETE" = true := by decide
    have hreason : Pg.isText "" = true := by decide
    have htable : Pg.isText "orders" = true := by decide
    have hrows : Pg.isInt4 7 = true ∧ Pg.isInt4 0 = true := by decide
    simp only [List.all_cons, List.all_nil, Bool.and_true, Bool.and_eq_true] at htexts
    unfold proposedRow
    rw [if_pos (by simp [textsOf, htexts, List.contains_iff_mem.mp houtcome, hsummary, htype, hreason,
      htable, hrows]), embeddingValue_sample]
    rfl
  change (storeOperation sampleMemoryServer s _ 0).1.memory = _
  unfold storeOperation
  rw [hrow]
  dsimp only
  split <;> rfl

/-- The search finds the tenant's row. -/
theorem step_searchCall {s : OperationMemory Unit} {tenantId : String} {row : MemoryRow Unit}
    (htext : Pg.isText tenantId = true) (hembedding : row.intentEmbedding = some ())
    (hrows : s.memory.filter (·.tenantId == tenantId) = [row]) :
    (step sampleMemoryServer s (searchCall tenantId)).2 =
      .returned (searchResult [candidate row (.finite 1)] "vector") := by
  have hlimit : Pg.isLimit 20 = true := by decide
  change (semanticSearch sampleMemoryServer s _ tenantId 20 true).2 = _
  unfold semanticSearch
  dsimp only
  rw [Bool.or_true, if_pos rfl, hrows]
  have hquery : sampleMemoryServer.toVector (sampleMemoryServer.embedding "Delete old orders") =
      some () := toVector_sampleEmbedding
  rw [hquery]
  dsimp only
  rw [htext, hlimit, if_pos (Bool.and_self true)]
  simp [vectorSearch, hembedding, sortDesc, sampleMemoryServer]

theorem memory_storeCall {operationId tenantId outcome : String}
    (htexts : [operationId, tenantId, outcome].all Pg.isText = true)
    (houtcome : admittedOutcomes.contains outcome = true) :
    ((server sampleMemoryServer).step emptyMemory (storeCall operationId tenantId outcome)).1.memory =
      [outcomeRow operationId tenantId outcome] := by
  rw [server, step_storeCall emptyMemory htexts houtcome]
  rfl

theorem reads_isolated_two :
    (server sampleMemoryServer).answers (readOf "acme") emptyMemory
        [storeCall "cg_1" "acme" "APPROVED", storeCall "cg_2" "globex" "REJECTED",
          searchCall "acme"] =
      (server sampleMemoryServer).answers (readOf "acme") emptyMemory
        [storeCall "cg_1" "acme" "APPROVED", searchCall "acme"] :=
  reads_isolated sampleMemoryServer "acme" "globex" (by decide) emptyMemory _ _ rfl
    ⟨fun _ h => (nomatch h), fun row hrow hid => by
      rw [memory_storeCall (by decide) (by decide), List.mem_singleton] at hrow
      rw [hrow] at hid
      exact absurd hid (by decide), fun _ h => (nomatch h), trivial⟩
    ⟨fun _ h => (nomatch h), fun _ h => (nomatch h), trivial⟩

/-- `globex` stores an outcome under the operation id of `acme`, which finds it in its search. -/
theorem reads_not_isolated :
    ¬ ∀ (cfg : MemoryServerConfig Unit) (a b : String), a ≠ b →
      ∀ (s : OperationMemory Unit) (calls calls' : List TimedCall),
        ((calls.filter fun c => !ofTenant b c) = calls'.filter fun c => !ofTenant b c) →
        (server cfg).answers (readOf a) s calls = (server cfg).answers (readOf a) s calls' := by
  intro hall
  have hreads := hall sampleMemoryServer "acme" "globex" (by decide) emptyMemory
    [storeCall "cg_1" "acme" "APPROVED", storeCall "cg_1" "globex" "REJECTED", searchCall "acme"]
    [storeCall "cg_1" "acme" "APPROVED", searchCall "acme"] rfl
  have hfirst : ((server sampleMemoryServer).step emptyMemory
      (storeCall "cg_1" "acme" "APPROVED")).1.memory = [outcomeRow "cg_1" "acme" "APPROVED"] :=
    memory_storeCall (by decide) (by decide)
  generalize hs : ((server sampleMemoryServer).step emptyMemory
    (storeCall "cg_1" "acme" "APPROVED")).1 = s at hfirst
  have hsecond : (step sampleMemoryServer s (storeCall "cg_1" "globex" "REJECTED")).1.memory =
      [onConflict (outcomeRow "cg_1" "globex" "REJECTED") (outcomeRow "cg_1" "acme" "APPROVED")] := by
    rw [step_storeCall s (by decide) (by decide), hfirst]
    rfl
  generalize hs' : (step sampleMemoryServer s (storeCall "cg_1" "globex" "REJECTED")).1 = s'
    at hsecond
  have hanswers : [(step sampleMemoryServer s' (searchCall "acme")).2] =
      [(step sampleMemoryServer s (searchCall "acme")).2] := by
    rw [← hs', ← hs]
    exact hreads
  rw [@step_searchCall _ _ (onConflict _ _) (by decide) rfl (by rw [hsecond]; rfl),
    step_searchCall (by decide) rfl (by rw [hfirst]; rfl)] at hanswers
  simp [searchResult, candidate, onConflict, outcomeRow] at hanswers

end OperationMemory
