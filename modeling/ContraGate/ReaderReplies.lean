import ContraGate.AnalyzerTheorems
import ContraGate.CascadePaths
import ContraGate.Library.Fallible
import ContraGate.Library.PyDict
import ContraGate.ReaderTools

/-!
# What the analyzer reads in the replies of a healthy reader

Each tool's result is read back as what the tool computed. The row estimate of a table that was
never analyzed is the exception: its age is infinite, which the server cannot encode.
-/

namespace Py.Json

@[simp] theorem encodable_ofText? (text : Option String) : (ofText? text).encodable = true := by
  cases text <;> simp [ofText?, encodable]

/-- An array is encodable when its items are. -/
theorem encodableItems_map {α : Type} {f : α → Json} {items : List α}
    (h : ∀ item ∈ items, (f item).encodable = true) :
    encodableItems (items.map f) = true := by
  induction items with
  | nil => simp [encodableItems]
  | cons item items ih =>
    rw [List.map_cons, encodableItems, Bool.and_eq_true]
    exact ⟨h item List.mem_cons_self, ih fun i hi => h i (List.mem_cons_of_mem _ hi)⟩

end Py.Json

namespace ReaderTools

variable {cfg : ReaderConfig} {db : ReaderDatabase} {table condition : String}

/-! ## The replies -/

/-- `condition or None`. -/
def orNone (condition : String) : Option String := if condition = "" then none else some condition

theorem reader_estimateRowCount :
    reader cfg db "estimate_row_count"
        [("table", .str table), ("condition", if condition = "" then .null else .str condition)] =
      replyOf (.returned
        (RowEstimator.estimateRows db.toTableStatistics table (orNone condition)).toJson) := by
  by_cases hcondition : condition = "" <;> simp [hcondition, orNone] <;> rfl

theorem reader_getFkGraph :
    reader cfg db "get_fk_graph" [("table", .str table)] =
      replyOf (.returned (CascadeTracer.traceCascades cfg.arith db.catalog table none).toJson) :=
  rfl

theorem reader_listTriggers :
    reader cfg db "list_triggers" [("table", .str table)] =
      replyOf (.returned
        (TriggerDetector.detectTriggers cfg.toTriggerText db.toTriggerCatalog table).toJson) :=
  rfl

theorem reader_checkSoftDelete :
    reader cfg db "check_soft_delete" [("table", .str table)] =
      replyOf (.returned (.obj
        [("has_soft_delete", .bool (db.softDeleteColumn table).isSome),
         ("column_name", .ofText? (db.softDeleteColumn table))])) :=
  rfl

theorem replyOf_of_encodable {result : Py.Json} (h : result.encodable = true) :
    replyOf (.returned result) = .result result := by
  rw [replyOf, if_pos h]

theorem encodable_trigger {t : TriggerInfo} (h : t.Declared) :
    t.toJson.encodable = true ∧ t.toShortJson.encodable = true := by
  have hcalls : (ExplainResult.optionalJson t.estimatedExternalCalls).encodable = true := by
    cases t.estimatedExternalCalls <;> simp [ExplainResult.optionalJson, Py.Json.encodable]
  obtain ⟨⟨_, h1⟩, ⟨_, h2⟩, ⟨_, h3⟩, ⟨_, h4⟩, ⟨_, h5⟩, ⟨_, h6⟩, ⟨_, h7⟩⟩ := h
  simp [TriggerInfo.toJson, TriggerInfo.toShortJson, Py.Json.encodable, hcalls, h1, h2, h3, h4, h5,
    h6, h7]

/-- The texts of an analysis are those that a detector makes. -/
structure FromDetector (analysis : TriggerAnalysis) : Prop where
  declared : ∀ t ∈ analysis.triggers, t.Declared
  nonTransactional : ∀ t ∈ analysis.nonTransactionalTriggers, t ∈ analysis.triggers
  /-- Every non-transactional trigger names its extension. -/
  extensions : ∀ t ∈ analysis.nonTransactionalTriggers,
    ∃ ext, ext ≠ "" ∧ t.nonTransactionalExtension = .str ext

/-- None of the default extensions has an empty name. -/
theorem fromDetector_detectTriggers (text : TriggerText) (conn : TriggerCatalog) (table : String) :
    FromDetector (TriggerDetector.detectTriggers text conn table) where
  declared _ ht := TriggerDetector.declared_of_mem ht
  nonTransactional _ ht := (List.mem_filter.mp ht).1
  extensions := by
    intro t ht
    obtain ⟨ext, hext, hsome⟩ := TriggerDetector.extension_of_nonTransactional ht
    refine ⟨ext, ?_, hsome⟩
    rintro rfl
    revert hext
    decide

theorem encodable_analysis {analysis : TriggerAnalysis} (h : FromDetector analysis) :
    analysis.toJson.encodable = true := by
  have htriggers : Py.Json.encodableItems (analysis.triggers.map TriggerInfo.toJson) = true :=
    Py.Json.encodableItems_map fun t ht => (encodable_trigger (h.declared t ht)).1
  have hshort : Py.Json.encodableItems
      (analysis.nonTransactionalTriggers.map TriggerInfo.toShortJson) = true :=
    Py.Json.encodableItems_map fun t ht =>
      (encodable_trigger (h.declared t (h.nonTransactional t ht))).2
  simp [TriggerAnalysis.toJson, Py.Json.encodable, htriggers, hshort]

/-- A graph is encodable when its confidences are finite. -/
theorem encodable_graph {graph : CascadeGraph}
    (h : ∀ lvl ∈ graph.levels, ∃ q, lvl.confidence = .finite q) :
    graph.toJson.encodable = true := by
  have hlevels : Py.Json.encodableItems (graph.levels.map CascadeLevel.toJson) = true := by
    apply Py.Json.encodableItems_map
    intro lvl hlvl
    obtain ⟨q, hq⟩ := h lvl hlvl
    simp [CascadeLevel.toJson, Py.Json.encodable, hq]
  simp [CascadeGraph.toJson, Py.Json.encodable, hlevels]

/-! ## Reading them -/

open AnalyzerAgent

/-- The rows are counted, or the default is taken. -/
theorem countAffectedRows_reader (cfg : ReaderConfig) (db : ReaderDatabase)
    (table condition : String) :
    ∃ (rows : ℤ) (confidence : Py.Json),
      countAffectedRows (reader cfg db) table condition = some (.int rows, confidence) := by
  by_cases htable : table = ""
  · exact ⟨0, .float (.finite 0), by simp [countAffectedRows, htable]; rfl⟩
  · unfold countAffectedRows callTool
    rw [if_neg htable, reader_estimateRowCount, replyOf]
    split_ifs
    · exact ⟨_, _, rfl⟩
    · exact ⟨_, _, rfl⟩

/-- The rows of an analyzed table are those of the estimate with the condition. -/
theorem countAffectedRows_of_analyzed {q : ℚ} (htable : table ≠ "")
    (hage : (RowEstimator.fetchStats db.toTableStatistics table).2 = some (.finite q)) :
    countAffectedRows (reader cfg db) table condition =
      some
        (.int (RowEstimator.estimateRows db.toTableStatistics table
            (orNone condition)).estimatedRows,
          .float (RowEstimator.estimateRows db.toTableStatistics table
            (orNone condition)).confidence) := by
  obtain ⟨p, hp⟩ := RowEstimator.estimateRows_confidence db.toTableStatistics table
    (orNone condition)
  have hhours : (RowEstimator.estimateRows db.toTableStatistics table
      (orNone condition)).statsAgeHours = .finite q := by
    show (RowEstimator.fetchStats db.toTableStatistics table).2.getD (.inf false) = .finite q
    rw [hage]
    rfl
  have hencodable : (RowEstimator.estimateRows db.toTableStatistics table
      (orNone condition)).toJson.encodable = true := by
    simp [RowEstimate.toJson, Py.Json.encodable, hp, hhours]
  unfold countAffectedRows callTool
  rw [if_neg htable, reader_estimateRowCount, replyOf_of_encodable hencodable]
  rfl

theorem detectTriggers_reader :
    AnalyzerAgent.detectTriggers (reader cfg db) table =
      some (TriggerDetector.detectTriggers cfg.toTriggerText db.toTriggerCatalog table).toJson := by
  unfold AnalyzerAgent.detectTriggers callTool
  rw [reader_listTriggers,
    replyOf_of_encodable (encodable_analysis (fromDetector_detectTriggers _ _ _))]

theorem checkSoftDelete_reader :
    AnalyzerAgent.checkSoftDelete (reader cfg db) table =
      some (db.softDeleteColumn table).isSome := by
  unfold AnalyzerAgent.checkSoftDelete callTool
  rw [reader_checkSoftDelete, replyOf_of_encodable (by simp [Py.Json.encodable,
    Py.Json.encodableEntries, Py.Json.encodableEntry])]
  rfl

/-- What a level becomes in the contract. -/
def entryOf (lvl : CascadeLevel) : CascadeEntry where
  table := lvl.tableName
  estimatedRows := lvl.estimatedRows
  cascadeAction := lvl.cascadeAction
  depth := lvl.depth

theorem buildCascadeEntries_graph (acfg : AnalyzerConfig) (graph : CascadeGraph) :
    AnalyzerTools.buildCascadeEntries acfg graph.toJson = some (graph.levels.map entryOf) := by
  show (graph.levels.map CascadeLevel.toJson).mapM (AnalyzerTools.cascadeEntry acfg) = _
  rw [List.mapM_map]
  exact Fallible.mapM_of_forall fun _ _ => rfl

/-- The names of events in a dictionary of texts. -/
def AllTexts (events : Py.Dict) : Prop := ∀ entry ∈ events, ∃ text, entry.2 = .str text

theorem AllTexts.set {events : Py.Dict} (h : AllTexts events) (name text : String) :
    AllTexts (Py.Dict.set events name (.str text)) := by
  unfold Py.Dict.set
  intro entry hentry
  split_ifs at hentry
  · obtain ⟨old, hold, rfl⟩ := List.mem_map.mp hentry
    split_ifs
    · exact ⟨text, rfl⟩
    · exact h old hold
  · rcases List.mem_append.mp hentry with hold | hnew
    · exact h entry hold
    · obtain rfl := List.mem_singleton.mp hnew
      exact ⟨text, rfl⟩

theorem AllTexts.getD {events : Py.Dict} (h : AllTexts events) (name : String) :
    ∃ text, Py.Dict.getD events name (.str "UNKNOWN") = .str text := by
  unfold Py.Dict.getD
  cases hlookup : events.lookup name with
  | none => exact ⟨_, rfl⟩
  | some value =>
    have hmem : (name, value) ∈ events := by
      obtain ⟨l₁, l₂, rfl, -⟩ := List.lookup_eq_some_iff.mp hlookup
      simp
    exact h _ hmem

/-- `event_by_name` for the triggers of a reply. -/
def eventsOf (triggers : List TriggerInfo) : Py.Dict :=
  triggers.foldl (fun events t => Py.Dict.set events t.name t.event) []

theorem eventByName_triggers {triggers : List TriggerInfo} (h : ∀ t ∈ triggers, t.Declared) :
    AnalyzerTools.eventByName (triggers.map TriggerInfo.toJson) = some (eventsOf triggers) := by
  unfold AnalyzerTools.eventByName eventsOf
  generalize ([] : Py.Dict) = start
  induction triggers generalizing start with
  | nil => rfl
  | cons t triggers ih =>
    obtain ⟨ht, hrest⟩ := List.forall_mem_cons.mp h
    have hset : AnalyzerTools.addEvent start t.toJson =
        some (Py.Dict.set start t.name t.event) := by
      obtain ⟨name, hname⟩ := ht.triggerName
      rw [TriggerInfo.name, TriggerInfo.toJson, hname]
      rfl
    rw [List.map_cons, List.foldlM_cons, hset]
    exact ih hrest (Py.Dict.set start t.name t.event)

theorem allTexts_eventsOf {triggers : List TriggerInfo} (h : ∀ t ∈ triggers, t.Declared) :
    AllTexts (eventsOf triggers) := by
  unfold eventsOf
  refine List.foldlRecOn triggers _ (fun entry hentry => ?_) fun events hall t ht => ?_
  · cases hentry
  · obtain ⟨text, htext⟩ := (h t ht).event
    rw [htext]
    exact hall.set _ _

/-- The external trigger that an entry of `non_transactional_triggers` becomes. -/
def externalOf (events : Py.Dict) (t : TriggerInfo) : ExternalTrigger where
  triggerName := t.name
  event := ((Py.Dict.getD events t.name (.str "UNKNOWN")).str?).getD "UNKNOWN"
  extension := t.nonTransactionalExtension.str?.getD "unknown"
  targetEndpoint := t.targetEndpoint.str?

/-- The last of the triggers with its name is for the same event. -/
def OwnEvent (triggers : List TriggerInfo) (t : TriggerInfo) : Prop :=
  (triggers.filter (·.name == t.name)).getLast?.map (·.event) = some t.event

/-- A trigger is listed with its own event when no later one of its name has another. -/
theorem externalOf_event_iff {triggers : List TriggerInfo} (h : ∀ t ∈ triggers, t.Declared)
    {t : TriggerInfo} (ht : t ∈ triggers) :
    .str (externalOf (eventsOf triggers) t).event = t.event ↔ OwnEvent triggers t := by
  have hlookup := Py.Dict.lookup_foldl_set TriggerInfo.name TriggerInfo.event [] triggers t.name
  have hmem : t ∈ triggers.filter (·.name == t.name) :=
    List.mem_filter.mpr ⟨ht, beq_self_eq_true _⟩
  obtain ⟨last, hlast⟩ := Option.isSome_iff_exists.mp
    (List.getLast?_isSome.mpr (List.ne_nil_of_mem hmem))
  obtain ⟨text, htext⟩ := (h last (List.mem_filter.mp (List.mem_of_getLast? hlast)).1).event
  unfold OwnEvent externalOf eventsOf Py.Dict.getD
  rw [hlookup, hlast, Option.map_some, Option.some.injEq, htext]
  rfl

theorem optionalText_ofText? (text : Option String) :
    AnalyzerTools.optionalText (.ofText? text) = some text := by
  cases text <;> rfl

theorem externalTrigger_toShortJson {events : Py.Dict} (hevents : AllTexts events)
    {t : TriggerInfo} (hdeclared : t.Declared)
    (ht : ∃ ext, ext ≠ "" ∧ t.nonTransactionalExtension = .str ext) :
    AnalyzerTools.externalTrigger events t.toShortJson = some (externalOf events t) := by
  obtain ⟨ext, hne, hext⟩ := ht
  obtain ⟨text, htext⟩ := hevents.getD t.name
  obtain ⟨endpoint, hendpoint⟩ := hdeclared.targetEndpoint
  have hor : (Py.Json.str ext).or (.str "unknown") = .str ext := by
    simp [Py.Json.or, Py.Json.truthy, hne]
  have hdict : AnalyzerTools.externalTrigger events t.toShortJson =
      t.triggerName.str?.bind fun name =>
        ((Py.Dict.getD events name (.str "UNKNOWN")).str?).bind fun event =>
          ((t.nonTransactionalExtension.or (.str "unknown")).str?).bind fun extension =>
            (AnalyzerTools.optionalText t.targetEndpoint).bind fun endpoint =>
              some { triggerName := name, event, extension, targetEndpoint := endpoint } := rfl
  have hendpoint' : t.targetEndpoint.str? = endpoint := by
    rw [hendpoint]
    cases endpoint <;> rfl
  unfold externalOf
  rw [hdict, hdeclared.triggerName_eq, hendpoint', hext, hor, hendpoint, optionalText_ofText?, htext]
  simp only [Py.Json.str?, Option.bind_some, htext, Option.getD_some]

/-- The external triggers are the non-transactional ones of the analysis. -/
theorem buildExternalTriggers_toJson {analysis : TriggerAnalysis} (h : FromDetector analysis) :
    AnalyzerTools.buildExternalTriggers analysis.toJson =
      some (analysis.nonTransactionalTriggers.map (externalOf (eventsOf analysis.triggers))) := by
  have hread : ∀ t ∈ analysis.nonTransactionalTriggers,
      AnalyzerTools.externalTrigger (eventsOf analysis.triggers) t.toShortJson =
        some (externalOf (eventsOf analysis.triggers) t) := fun t ht =>
    externalTrigger_toShortJson (allTexts_eventsOf h.declared)
      (h.declared t (h.nonTransactional t ht)) (h.extensions t ht)
  have hunfold : AnalyzerTools.buildExternalTriggers analysis.toJson =
      (AnalyzerTools.eventByName (analysis.triggers.map TriggerInfo.toJson)).bind fun events =>
        (analysis.nonTransactionalTriggers.map TriggerInfo.toShortJson).mapM
          (AnalyzerTools.externalTrigger events) := rfl
  rw [hunfold, eventByName_triggers h.declared, Option.bind_some, List.mapM_map]
  exact Fallible.mapM_of_forall hread

/-- What the entry of a trigger becomes, where `names` are those of the non-transactional ones. -/
def infoOf (names : List String) (t : TriggerInfo) : TriggerInfo :=
  { t with
    invokesNonTransactional := t.invokesNonTransactional || names.contains t.name
    estimatedExternalCalls := none }

theorem contains_text (names : List String) (name : String) :
    (names.map Py.Key.text).contains (.text name) = names.contains name := by
  rw [Bool.eq_iff_iff, List.contains_iff_mem, List.contains_iff_mem, List.mem_map]
  exact ⟨fun ⟨_, hmem, heq⟩ => Py.Key.text.inj heq ▸ hmem, fun hmem => ⟨name, hmem, rfl⟩⟩

theorem triggerInfo_toJson (table : String) (names : List String) {t : TriggerInfo}
    (ht : t.Declared) :
    AnalyzerTools.triggerInfo table (names.map .text) t.toJson = some (infoOf names t) := by
  have hdict : AnalyzerTools.triggerInfo table (names.map .text) t.toJson =
      (if (Py.Json.bool t.invokesNonTransactional).truthy then some true
        else t.triggerName.key?.map (names.map Py.Key.text).contains).bind fun invokes =>
          some { t with invokesNonTransactional := invokes, estimatedExternalCalls := none } := rfl
  have hkey : t.triggerName.key? = some (.text t.name) := by
    rw [ht.triggerName_eq]
    rfl
  rw [hdict, hkey, Option.map_some, contains_text]
  cases hinvokes : t.invokesNonTransactional <;> simp [infoOf, hinvokes, Py.Json.truthy]

/-- The triggers of the analysis that a reply becomes. -/
def infosOf (analysis : TriggerAnalysis) : List TriggerInfo :=
  analysis.triggers.map (infoOf (analysis.nonTransactionalTriggers.map (·.name)))

/-- Every entry of a reply is read. -/
theorem buildTriggerAnalysis_toJson {analysis : TriggerAnalysis} (h : FromDetector analysis)
    (table : String) :
    AnalyzerTools.buildTriggerAnalysisFromMcp table analysis.toJson =
      some
        { table, triggers := infosOf analysis
          hasPermanentSideEffects := analysis.hasPermanentSideEffects ||
            !((infosOf analysis).filter (·.invokesNonTransactional)).isEmpty
          nonTransactionalTriggers :=
            (infosOf analysis).filter (·.invokesNonTransactional) } := by
  have hnames : AnalyzerTools.nonTransactionalNames
      (analysis.nonTransactionalTriggers.map TriggerInfo.toShortJson) =
        some ((analysis.nonTransactionalTriggers.map (·.name)).map .text) := by
    unfold AnalyzerTools.nonTransactionalNames
    rw [List.mapM_map, List.map_map]
    refine Fallible.mapM_of_forall fun t ht => ?_
    show t.triggerName.key? = some (.text t.name)
    rw [(h.declared t (h.nonTransactional t ht)).triggerName_eq]
    rfl
  have hinfos : (analysis.triggers.map TriggerInfo.toJson).mapM (AnalyzerTools.triggerInfo table
      ((analysis.nonTransactionalTriggers.map (·.name)).map .text)) = some (infosOf analysis) := by
    rw [List.mapM_map]
    exact Fallible.mapM_of_forall fun t ht => triggerInfo_toJson table _ (h.declared t ht)
  have hunfold : AnalyzerTools.buildTriggerAnalysisFromMcp table analysis.toJson =
      (AnalyzerTools.nonTransactionalNames
        (analysis.nonTransactionalTriggers.map TriggerInfo.toShortJson)).bind fun names =>
          ((analysis.triggers.map TriggerInfo.toJson).mapM
            (AnalyzerTools.triggerInfo table names)).bind fun infos =>
              some
                { table, triggers := infos
                  hasPermanentSideEffects :=
                    (Py.Json.bool analysis.hasPermanentSideEffects).truthy ||
                      !(infos.filter (·.invokesNonTransactional)).isEmpty
                  nonTransactionalTriggers := infos.filter (·.invokesNonTransactional) } := rfl
  rw [hunfold, hnames, Option.bind_some, hinfos]
  cases hflag : analysis.hasPermanentSideEffects <;> simp [Py.Json.truthy]

end ReaderTools
