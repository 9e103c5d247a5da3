import ContraGate.CascadeTriggers

/-!
# The trigger analysis across the MCP boundary

`list_triggers` returns two lists, of all triggers and of the non-transactional ones, and the
analyzer joins them by the names of the triggers. A name is unique on one table, but the query of
`detect_triggers` finds the triggers of all tables with a name, in whatever schema they are. So
triggers that share a name are taken for one another.
-/

namespace TriggerAnalysis

/-- What is true of every analysis that `detect_triggers` returns. -/
structure Coherent (analysis : TriggerAnalysis) : Prop where
  nonTransactional : analysis.nonTransactionalTriggers =
    analysis.triggers.filter (·.invokesNonTransactional)
  sideEffects : analysis.hasPermanentSideEffects = !analysis.nonTransactionalTriggers.isEmpty
  calls : ∀ t ∈ analysis.triggers, t.estimatedExternalCalls = none
  detected : ReaderTools.FromDetector analysis

/-- Triggers with the name of a non-transactional one are like it: non-transactional, and for the
same event. -/
def NamesDetermine (analysis : TriggerAnalysis) : Prop :=
  ∀ t ∈ analysis.triggers, t.invokesNonTransactional = true →
    ∀ t' ∈ analysis.triggers, t'.name = t.name →
      t'.invokesNonTransactional = true ∧ t'.event = t.event

/-- The reply is decoded to the analysis, and the external triggers are, in order, its
non-transactional ones, each with what belongs to it. -/
structure Survives (analysis : TriggerAnalysis) (reply : Py.Json) : Prop where
  decoded : AnalyzerTools.buildTriggerAnalysisFromMcp analysis.table reply = some analysis
  external : ∃ external, AnalyzerTools.buildExternalTriggers reply = some external ∧
    List.Forall₂ ListedAs analysis.nonTransactionalTriggers external

open ReaderTools

variable {analysis : TriggerAnalysis}

theorem Coherent.mem_nonTransactional (h : analysis.Coherent) {t : TriggerInfo} :
    t ∈ analysis.nonTransactionalTriggers ↔
      t ∈ analysis.triggers ∧ t.invokesNonTransactional = true := by
  rw [h.nonTransactional, List.mem_filter]

/-- The flags are decoded when no other trigger has the name of a non-transactional one. -/
theorem Coherent.infosOf_eq_iff (h : analysis.Coherent) :
    infosOf analysis = analysis.triggers ↔
      ∀ t ∈ analysis.triggers, t.invokesNonTransactional = true →
        ∀ t' ∈ analysis.triggers, t'.name = t.name →
          t'.invokesNonTransactional = true := by
  set names := analysis.nonTransactionalTriggers.map (·.name) with hnames
  have hnamed : ∀ name, names.contains name = true ↔ ∃ t ∈ analysis.triggers,
      t.invokesNonTransactional = true ∧ t.name = name := by
    intro name
    rw [List.contains_iff_mem, hnames, List.mem_map]
    simp only [h.mem_nonTransactional, and_assoc]
  have hinfo : ∀ t ∈ analysis.triggers, infoOf names t = t ↔
      (names.contains t.name = true → t.invokesNonTransactional = true) := by
    intro t ht
    have hcalls := h.calls t ht
    obtain ⟨name, table, event, timing, function, invokes, extension, calls, endpoint⟩ := t
    obtain rfl : calls = none := hcalls
    cases invokes <;> simp [infoOf]
  have hmap : infosOf analysis = analysis.triggers ↔
      ∀ t ∈ analysis.triggers, infoOf names t = t := by
    conv_lhs => rhs; rw [← List.map_id analysis.triggers]
    exact List.map_eq_map_iff
  rw [hmap]
  constructor
  · intro hsame t ht hinvokes t' ht' hname
    apply (hinfo t' ht').mp (hsame t' ht')
    exact (hnamed _).mpr ⟨t, ht, hinvokes, hname.symm⟩
  · intro hflags t' ht'
    apply (hinfo t' ht').mpr
    intro hcontains
    obtain ⟨t, ht, hinvokes, hname⟩ := (hnamed _).mp hcontains
    exact hflags t ht hinvokes t' ht' hname.symm

/-- The reply is decoded to the analysis when the flags are. -/
theorem Coherent.decoded_iff (h : analysis.Coherent) :
    AnalyzerTools.buildTriggerAnalysisFromMcp analysis.table analysis.toJson = some analysis ↔
      infosOf analysis = analysis.triggers := by
  rw [buildTriggerAnalysis_toJson h.detected, Option.some.injEq]
  constructor
  · exact fun hsame => congrArg TriggerAnalysis.triggers hsame
  · intro hinfos
    rw [hinfos, ← h.nonTransactional, h.sideEffects, Bool.or_self, ← h.sideEffects]

/-- The event in the contract is that of a trigger with the name. -/
theorem exists_event {triggers : List TriggerInfo} (h : ∀ t ∈ triggers, t.Declared)
    {t : TriggerInfo} (ht : t ∈ triggers) :
    ∃ t' ∈ triggers, t'.name = t.name ∧
      .str (externalOf (eventsOf triggers) t).event = t'.event := by
  obtain ⟨t', ht', hname, hlookup⟩ := Py.Dict.exists_lookup_foldl_set TriggerInfo.name
    TriggerInfo.event [] ⟨t, ht, rfl⟩
  obtain ⟨event, hevent⟩ := (h t' ht').event
  refine ⟨t', ht', hname, ?_⟩
  unfold externalOf eventsOf Py.Dict.getD
  rw [hlookup, hevent]
  rfl

/-- Everything but the event is the trigger's own. -/
theorem Coherent.listedAs_iff (h : analysis.Coherent) {events : Py.Dict} {t : TriggerInfo}
    (ht : t ∈ analysis.nonTransactionalTriggers) :
    ListedAs t (externalOf events t) ↔ .str (externalOf events t).event = t.event := by
  obtain ⟨ext, -, hext⟩ := h.detected.extensions t ht
  exact ListedAs.self_iff (h.detected.declared t (h.detected.nonTransactional t ht)) hext

/-- The external triggers are listed when each has its own event. -/
theorem Coherent.external_iff (h : analysis.Coherent) :
    (∃ external, AnalyzerTools.buildExternalTriggers analysis.toJson = some external ∧
        List.Forall₂ ListedAs analysis.nonTransactionalTriggers external) ↔
      ∀ t ∈ analysis.nonTransactionalTriggers,
        .str (externalOf (eventsOf analysis.triggers) t).event = t.event := by
  rw [buildExternalTriggers_toJson h.detected]
  have hlisted : List.Forall₂ ListedAs analysis.nonTransactionalTriggers
      (analysis.nonTransactionalTriggers.map (externalOf (eventsOf analysis.triggers))) ↔
      ∀ t ∈ analysis.nonTransactionalTriggers,
        .str (externalOf (eventsOf analysis.triggers) t).event = t.event := by
    rw [List.forall₂_map_right_iff, List.forall₂_same]
    exact forall₂_congr fun t ht => h.listedAs_iff ht
  rw [← hlisted]
  constructor
  · rintro ⟨external, hexternal, hforall⟩
    obtain rfl := Option.some.inj hexternal
    exact hforall
  · exact fun hforall => ⟨_, rfl, hforall⟩

/-- An analysis survives when the names determine what is joined by them. -/
theorem Coherent.survives_iff (h : analysis.Coherent) :
    analysis.Survives analysis.toJson ↔ analysis.NamesDetermine := by
  constructor
  · rintro ⟨hdecoded, hexternal⟩ t ht hinvokes t' ht' hname
    have hinvokes' := h.infosOf_eq_iff.mp (h.decoded_iff.mp hdecoded) t ht hinvokes t' ht' hname
    have hevents := h.external_iff.mp hexternal
    have hown := hevents t (h.mem_nonTransactional.mpr ⟨ht, hinvokes⟩)
    have hown' := hevents t' (h.mem_nonTransactional.mpr ⟨ht', hinvokes'⟩)
    -- the event that is found depends on the name alone
    have hfound : (externalOf (eventsOf analysis.triggers) t').event =
        (externalOf (eventsOf analysis.triggers) t).event := by
      unfold externalOf
      rw [hname]
    exact ⟨hinvokes', hown'.symm.trans ((congrArg Py.Json.str hfound).trans hown)⟩
  · intro hnames
    constructor
    · apply h.decoded_iff.mpr
      apply h.infosOf_eq_iff.mpr
      exact fun t ht hinvokes t' ht' hname => (hnames t ht hinvokes t' ht' hname).1
    · apply h.external_iff.mpr
      intro t ht
      obtain ⟨hmem, hinvokes⟩ := h.mem_nonTransactional.mp ht
      obtain ⟨t', ht', hname, hevent⟩ := exists_event h.detected.declared hmem
      rw [hevent]
      exact (hnames t hmem hinvokes t' ht' hname).2

end TriggerAnalysis

namespace TriggerDetector

variable (text : TriggerText) (conn : TriggerCatalog)

/-- The function of the trigger calls a non-transactional extension that is installed. -/
def callsNonTransactional (row : TriggerRow) : Bool :=
  (detectExtension text (row.functionDef.getD "") defaultNonTransactionalExtensions
    conn.installedExtensions).isSome

/-- Triggers with the name of a non-transactional one are non-transactional, and fire on the same
events. -/
def NamesDetermine (rows : List TriggerRow) : Prop :=
  ∀ row ∈ rows, callsNonTransactional text conn row = true →
    ∀ row' ∈ rows, row'.triggerName = row.triggerName →
      callsNonTransactional text conn row' = true ∧ decodeEvent row'.tgtype = decodeEvent row.tgtype

variable {text conn} {table : String}

theorem coherent_detectTriggers : (detectTriggers text conn table).Coherent where
  nonTransactional := rfl
  sideEffects := rfl
  calls := by
    intro t ht
    obtain ⟨row, -, rfl⟩ := List.mem_map.mp ht
    rfl
  detected := ReaderTools.fromDetector_detectTriggers text conn table

/-- The triggers of an analysis are those of the rows. -/
theorem namesDetermine_detectTriggers :
    (detectTriggers text conn table).NamesDetermine ↔
      NamesDetermine text conn (conn.triggers table) := by
  have htriggers : (detectTriggers text conn table).triggers =
      (conn.triggers table).map (triggerInfo text conn defaultNonTransactionalExtensions) := rfl
  unfold TriggerAnalysis.NamesDetermine
  rw [htriggers]
  simp only [List.forall_mem_map, triggerInfo, Py.Json.str.injEq]
  exact Iff.rfl

end TriggerDetector

namespace ReaderTools

open TriggerDetector

variable (cfg : ReaderConfig) (db : ReaderDatabase) (table : String)

/-- What `detect_triggers` finds comes through `list_triggers` and the two decoders. -/
def TriggersSurvive : Prop :=
  ∃ reply, listTriggers cfg db [("table", .str table)] = .returned reply ∧
    (detectTriggers cfg.toTriggerText db.toTriggerCatalog table).Survives reply

/-- The tool returns the analysis. -/
theorem triggersSurvive_iff_survives :
    TriggersSurvive cfg db table ↔
      (detectTriggers cfg.toTriggerText db.toTriggerCatalog table).Survives
        (detectTriggers cfg.toTriggerText db.toTriggerCatalog table).toJson := by
  have hreply : listTriggers cfg db [("table", .str table)] =
      .returned (detectTriggers cfg.toTriggerText db.toTriggerCatalog table).toJson := rfl
  unfold TriggersSurvive
  rw [hreply]
  constructor
  · rintro ⟨reply, hreturned, hsurvives⟩
    obtain rfl := ToolOutcome.returned.inj hreturned
    exact hsurvives
  · exact fun hsurvives => ⟨_, rfl, hsurvives⟩

/-- A table `orders` in two schemas. The trigger of the live one calls its webhook; the one of the
same name in the archive only writes a row. -/
def archivedOrders : ReaderDatabase :=
  { withWebhooks [] with
    triggers := fun table => if table = "orders" then [webhook table, { webhook table with
      functionName := "keep"
      functionDef := some "BEGIN INSERT INTO kept VALUES (OLD.id); END" }] else [] }

/-- The trigger of the archive is decoded as one that calls a webhook. -/
theorem archive_taken_for_webhook : ¬ TriggersSurvive plainReader archivedOrders "orders" := by
  rw [triggersSurvive_iff_survives, coherent_detectTriggers.survives_iff,
    namesDetermine_detectTriggers]
  intro hnames
  have harchive := hnames (webhook "orders") (by simp [archivedOrders]) (by decide) _
    (List.mem_cons_of_mem _ (List.mem_singleton_self _)) rfl
  revert harchive
  decide

/-- **When the trigger analysis survives the MCP boundary.** The analysis and the external
triggers that the analyzer decodes from the reply of `list_triggers` are those of
`detect_triggers` exactly when all triggers with the name of a non-transactional one are
non-transactional, too, and fire on the same events. -/
theorem triggersSurvive_iff :
    TriggersSurvive cfg db table ↔
      NamesDetermine cfg.toTriggerText db.toTriggerCatalog (db.triggers table) := by
  rw [triggersSurvive_iff_survives, coherent_detectTriggers.survives_iff]
  exact namesDetermine_detectTriggers

end ReaderTools
