import ContraGate.AuditLog

/-!
# What the checksum of an audit row shows

The checksum is that of a dict without the tenant and the time, and it is recomputed from what
`json.loads` makes of the stored event data. So it misses every change of the two columns, and the
changes of the event data that are read as the same; and it fails for an unmodified row whose event
data does not come back as it was.
-/

open Py

namespace AuditLog

variable {F : Type} (cfg : AuditConfig F)

/-- What `verify_checksum` says about the row: `none` when it raises or finds no row. -/
def reportedValid (table : AuditTable) (recordId : String) : Option Bool :=
  match verifyChecksum cfg table recordId with
  | some (.checked valid _ _) => some valid
  | _ => none

/-- The row that stands in the table for the appended one is reported valid if it is that row, and
invalid if it is any other. -/
structure Evident (table : AuditTable) (appended current : AuditRow) : Prop where
  unmodified : current = appended → reportedValid cfg table appended.id = some true
  modified : current ≠ appended → reportedValid cfg table appended.id = some false

/-- The row that stands in the table is read as the appended one: the columns that the checksum
covers are the same, and the event data is, up to the order of keys. -/
def ReadsAs (appended current : AuditRow) (eventData : JsonData F) : Prop :=
  current.operationId = appended.operationId ∧ current.eventType = appended.eventType ∧
    current.agentName = appended.agentName ∧
    ∃ data, Jsonb.loads cfg.floats current.eventData = some data ∧
      data.canonical = eventData.canonical

variable {cfg}

/-- The dicts that are hashed tell the columns apart. -/
theorem canonical_checkedData_inj {id o o' e e' : String} {a a' : Option String}
    {d d' : JsonData F} :
    (checkedData id o e a d).canonical = (checkedData id o' e' a' d').canonical ↔
      o = o' ∧ e = e' ∧ a = a' ∧ d.canonical = d'.canonical := by
  have hagent (a : Option String) : (a.elim .null .str : JsonData F).canonical =
      a.elim .null .str := by
    cases a <;> rfl
  unfold checkedData
  simp only [JsonData.canonical, JsonData.canonicalEntries, JsonData.canonicalEntry, hagent]
  constructor
  · intro h
    -- the same keys in the same order
    have hentries := JsonData.eq_of_sortKeys_eq (by simp) (by rfl) (JsonData.obj.inj h)
    simp only [List.cons.injEq, Prod.mk.injEq, JsonData.str.injEq, true_and, and_true] at hentries
    obtain ⟨ho, he, ha, hd⟩ := hentries
    refine ⟨ho, he, ?_, hd⟩
    cases a <;> cases a' <;> simp_all
  · rintro ⟨rfl, rfl, rfl, hd⟩
    rw [hd]

theorem computeChecksum_inj (hsha : Function.Injective cfg.sha256) {v w : JsonData F} :
    computeChecksum cfg v = computeChecksum cfg w ↔ v.canonical = w.canonical := by
  unfold computeChecksum
  rw [hsha.eq_iff]
  exact JsonData.dumps_inj

variable {table table' : AuditTable} {recordId operationId eventType : String} {now : Time}
  {eventData : JsonData F} {agentName : Option String} {reply : Logged}
  {appended current : AuditRow}

/-- What is reported about a row that was appended, whatever became of it. -/
theorem reportedValid_eq (hsha : Function.Injective cfg.sha256)
    (hchecksum : current.checksum = computeChecksum cfg
      (checkedData appended.id appended.operationId appended.eventType appended.agentName eventData))
    (hfind : table.find? (·.id == appended.id) = some current) :
    (reportedValid cfg table appended.id = some true ↔
      ReadsAs cfg appended current eventData) ∧
    (reportedValid cfg table appended.id = some false ↔
      (Jsonb.loads cfg.floats current.eventData).isSome ∧
        ¬ ReadsAs cfg appended current eventData) := by
  have hid : current.id = appended.id := by simpa using List.find?_some hfind
  unfold reportedValid verifyChecksum ReadsAs
  simp only [hfind]
  cases hloads : Jsonb.loads cfg.floats current.eventData with
  | none => simp
  | some data =>
    have hvalid : (computeChecksum cfg (checkedData current.id current.operationId
          current.eventType current.agentName data) == current.checksum) = true ↔
        current.operationId = appended.operationId ∧ current.eventType = appended.eventType ∧
          current.agentName = appended.agentName ∧ data.canonical = eventData.canonical := by
      rw [beq_iff_eq, hchecksum, computeChecksum_inj hsha, hid, canonical_checkedData_inj]
    simp only [Option.map_some, Option.some.injEq, exists_eq_left', Option.isSome_some, true_and,
      ← hvalid, Bool.not_eq_true]

/-- What is known about a row that was appended. -/
theorem append_spec (happend : append cfg table recordId now operationId eventType eventData
      agentName = some (table ++ [appended], reply)) :
    appended.checksum = computeChecksum cfg (checkedData appended.id appended.operationId
      appended.eventType appended.agentName eventData) ∧
    Jsonb.ofData cfg.floats eventData = some appended.eventData := by
  obtain ⟨-, stored, hstored, htable, -⟩ := append_eq_some_iff.mp happend
  have happended := List.singleton_inj.mp (List.append_cancel_left htable)
  rw [happended]
  exact ⟨rfl, hstored⟩

/-- **A row is evident exactly when, unmodified, each float of its event data comes back and,
modified, it can be read and is not read as it was.** -/
theorem verifyChecksum_evident_iff (cfg : AuditConfig F) (hsha : Function.Injective cfg.sha256)
    (hdistinct : eventData.DistinctKeys)
    (happend : append cfg table recordId now operationId eventType eventData agentName =
      some (table ++ [appended], reply))
    (hfind : table'.find? (·.id == appended.id) = some current)
    (hchecksum : current.checksum = appended.checksum) :
    Evident cfg table' appended current ↔
      (current = appended ∧ ∀ x ∈ eventData.floatsIn, Keeps cfg.floats x) ∨
      (current ≠ appended ∧ (Jsonb.loads cfg.floats current.eventData).isSome ∧
        ¬ ReadsAs cfg appended current eventData) := by
  obtain ⟨happended, hstored⟩ := append_spec happend
  obtain ⟨hvalid, hinvalid⟩ := reportedValid_eq hsha (hchecksum.trans happended) hfind
  rw [← hinvalid]
  by_cases hcurrent : current = appended
  · -- the unmodified row is read as it was when its event data comes back
    have hreads : ReadsAs cfg appended current eventData ↔
        ∀ x ∈ eventData.floatsIn, Keeps cfg.floats x := by
      obtain ⟨data, hdata, hkeeps⟩ := Jsonb.exists_loads hdistinct hstored
      rw [← hkeeps, hcurrent]
      simp only [ReadsAs, hdata, true_and, Option.some.injEq, exists_eq_left']
    constructor
    · intro h
      exact .inl ⟨hcurrent, hreads.mp (hvalid.mp (h.unmodified hcurrent))⟩
    · rintro (⟨-, hfloats⟩ | ⟨hmodified, -⟩)
      · exact ⟨fun _ => hvalid.mpr (hreads.mpr hfloats), fun h => absurd hcurrent h⟩
      · exact absurd hcurrent hmodified
  · constructor
    · intro h
      exact .inr ⟨hcurrent, h.modified hcurrent⟩
    · rintro (⟨hunmodified, -⟩ | ⟨-, hfalse⟩)
      · exact absurd hunmodified hcurrent
      · exact ⟨fun h => absurd h hcurrent, fun _ => hfalse⟩

/-! ## Two rows -/

/-- The execution of `cg_1` deviated by one half from the estimate. -/
def deviation : JsonData SampleFloat := .obj [("blast_radius_delta", .float .half)]

/-- Its row. -/
def deviationRow : AuditRow where
  id := "1b4e28ba-2fa1-11d2-883f-0016d3cca427"
  operationId := "cg_1"
  tenantId := "demo_tenant"
  eventType := "EXECUTION"
  agentName := none
  eventData := .obj [("blast_radius_delta", .numeric ⟨5, 1⟩)]
  checksum := computeChecksum sampleAuditConfig
    (checkedData "1b4e28ba-2fa1-11d2-883f-0016d3cca427" "cg_1" "EXECUTION" none deviation)
  loggedAt := 0

theorem ofData_deviation :
    Jsonb.ofData sampleFloats deviation = some deviationRow.eventData := by
  have hkey : Pg.isText "blast_radius_delta" = true := by decide
  have hhalf : Numeric.ofNumber (SampleFloat.decimal .half).repr = ⟨5, 1⟩ := by decide
  simp [deviation, deviationRow, Jsonb.ofData, Jsonb.ofEntries, Jsonb.ofEntry, Jsonb.stored,
    Jsonb.lastOfKey, hkey, sampleFloats, hhalf]

theorem append_deviation : append sampleAuditConfig [] deviationRow.id 0 "cg_1" "EXECUTION"
    deviation = some ([] ++ [deviationRow],
      { logged := true, recordId := deviationRow.id, checksum := deviationRow.checksum }) :=
  append_eq_some_iff.mpr ⟨by decide, _, ofData_deviation, rfl, rfl⟩

theorem distinctKeys_deviation : deviation.DistinctKeys := by
  simp [deviation, JsonData.DistinctKeys, JsonData.DistinctKeysEntries, JsonData.DistinctKeysEntry]

theorem keeps_deviation : ∀ x ∈ deviation.floatsIn, Keeps sampleFloats x := by
  simp only [deviation, JsonData.floatsIn, JsonData.floatsInEntries, JsonData.floatsInEntry,
    List.append_nil, List.forall_mem_singleton]
  refine ⟨by decide, ?_⟩
  change SampleFloat.half.decimal.magnitude < 10 ^ 16
  rw [SampleFloat.magnitude_half]
  norm_num

theorem verifyChecksum_evident_iff_deviation :
    Evident sampleAuditConfig [deviationRow] deviationRow deviationRow :=
  (verifyChecksum_evident_iff sampleAuditConfig Function.injective_id distinctKeys_deviation
    append_deviation (by simp) rfl).mpr (.inl ⟨rfl, keeps_deviation⟩)

/-- A row that is put under another tenant is still reported valid. -/
theorem verifyChecksum_misses_tenant :
    ¬ ∀ (cfg : AuditConfig SampleFloat), Function.Injective cfg.sha256 →
      ∀ (table table' : AuditTable) (recordId : String) (now : Time)
        (operationId eventType : String) (eventData : JsonData SampleFloat)
        (agentName : Option String) (appended current : AuditRow) (reply : Logged),
        eventData.DistinctKeys →
        append cfg table recordId now operationId eventType eventData agentName =
          some (table ++ [appended], reply) →
        table'.find? (·.id == appended.id) = some current →
        current.checksum = appended.checksum → Evident cfg table' appended current := by
  intro hall
  have hfind : [{ deviationRow with tenantId := "acme" }].find? (·.id == deviationRow.id) =
      some { deviationRow with tenantId := "acme" } := by simp
  have hevident := hall sampleAuditConfig Function.injective_id [] _ _ 0 "cg_1" "EXECUTION"
    deviation none deviationRow _ _ distinctKeys_deviation append_deviation hfind rfl
  have hinvalid := hevident.modified fun h => absurd (congrArg AuditRow.tenantId h) (by decide)
  -- the tenant is no part of what is hashed
  obtain ⟨data, hdata, hkeeps⟩ := Jsonb.exists_loads distinctKeys_deviation ofData_deviation
  have hreads : ReadsAs sampleAuditConfig deviationRow { deviationRow with tenantId := "acme" }
      deviation := ⟨rfl, rfl, rfl, data, hdata, hkeeps.mpr keeps_deviation⟩
  have hvalid := (reportedValid_eq Function.injective_id rfl hfind).1.mpr hreads
  rw [hinvalid] at hvalid
  cases hvalid

end AuditLog
