import ContraGate.CascadeCondition
import ContraGate.FailClosed

/-!
# External effects on cascaded tables

`analyze` asks for the triggers of the primary table only, so the contract says nothing of a
non-transactional trigger on a table that the deletion cascades to; and where the rows of the
primary table can be restored, it calls such a deletion reversible.
-/

namespace TriggerAnalysis

open ReaderTools

/-- The trigger as a contract lists it. -/
structure ListedAs (t : TriggerInfo) (listed : ExternalTrigger) : Prop where
  triggerName : t.triggerName = .str listed.triggerName
  event : t.event = .str listed.event
  extension : t.nonTransactionalExtension = .str listed.extension
  targetEndpoint : t.targetEndpoint = .ofText? listed.targetEndpoint

/-- In its own entry everything but the event is the trigger's. -/
theorem ListedAs.self_iff {events : Py.Dict} {t : TriggerInfo} {ext : String}
    (hdeclared : t.Declared) (hext : t.nonTransactionalExtension = .str ext) :
    ListedAs t (externalOf events t) ↔ .str (externalOf events t).event = t.event := by
  obtain ⟨endpoint, hendpoint⟩ := hdeclared.targetEndpoint
  constructor
  · exact fun hlisted => hlisted.event.symm
  · intro hevent
    refine ⟨hdeclared.triggerName_eq, hevent.symm, by rw [externalOf, hext]; rfl, ?_⟩
    rw [externalOf, hendpoint]
    cases endpoint <;> rfl

end TriggerAnalysis

namespace ReaderTools

open AnalyzerAgent TriggerAnalysis

variable (acfg : AnalyzerConfig) (cfg : ReaderConfig) (db : ReaderDatabase)

/-- The non-transactional triggers that fire on a `DELETE` of the table. -/
def deleteTriggers (table : String) : List TriggerInfo :=
  (((db.triggers table).filter (·.tgtype.testBit 3)).map
    (TriggerDetector.triggerInfo cfg.toTriggerText db.toTriggerCatalog
      TriggerDetector.defaultNonTransactionalExtensions)).filter (·.invokesNonTransactional)

/-- The tables that the operation deletes from, as the contract says. -/
def touchedTables (c : HandoffContract) : List String :=
  (if c.primaryTable = "" then [] else [c.primaryTable]) ++ c.cascade.map (·.table)

/-- The trigger of the table appears among the external triggers of the contract. They name no
table: they are triggers of the primary table. -/
structure Appears (c : HandoffContract) (table : String) (t : TriggerInfo) : Prop where
  primary : table = c.primaryTable
  listed : ∃ e ∈ c.externalTriggers, ListedAs t e

/-- The contract lists the external effects of the deletion, and does not call it reversible if
there are any. -/
structure SurfacesEffects (c : HandoffContract) : Prop where
  appears : ∀ table ∈ touchedTables c, ∀ t ∈ deleteTriggers cfg db table, Appears c table t
  notReversible : (∃ table ∈ touchedTables c, deleteTriggers cfg db table ≠ []) →
    c.reversibility = some .partiallyReversible ∨ c.reversibility = some .permanent

/-- The deletion cascades from `root` to the table, in five steps at most. -/
def CascadesTo (root table : String) : Prop :=
  ∃ p, p ≠ [] ∧ db.catalog.graph.IsSimple root p ∧ p.length ≤ 5 ∧
    db.catalog.graph.dest root p = table

/-- The deletion has no external effects but those of triggers of the primary table, each of which
is found under its own event. Where the analysis knows no table, the contract keeps what it had. -/
def EffectsOnPrimary (p : HandoffContract) : Prop :=
  if p.primaryTable = "" then
    ∀ table ∈ p.cascade.map (·.table), ∀ t ∈ deleteTriggers cfg db table, Appears p table t
  else
    (∀ table, CascadesTo db p.primaryTable table → deleteTriggers cfg db table = []) ∧
      ∀ t ∈ deleteTriggers cfg db p.primaryTable,
        OwnEvent (detectedTriggers cfg db p.primaryTable) t

variable {acfg cfg db} {c p : HandoffContract} {facts : ReaderFacts} {table : String}

/-- What fires on `DELETE` is detected. -/
theorem nonTransactional_of_deleteTriggers {t : TriggerInfo}
    (h : t ∈ deleteTriggers cfg db table) : t ∈ nonTransactional cfg db table := by
  obtain ⟨hmem, hinvokes⟩ := List.mem_filter.mp h
  obtain ⟨row, hrow, rfl⟩ := List.mem_map.mp hmem
  exact List.mem_filter.mpr ⟨List.mem_map_of_mem (List.mem_of_mem_filter hrow), hinvokes⟩

/-- The tables of the graph are those that the deletion cascades to. -/
theorem mem_fkGraph_tables {root : String} :
    table ∈ ((fkGraph cfg db root).levels.map entryOf).map (·.table) ↔
      CascadesTo db root table := by
  have hlevels : (fkGraph cfg db root).levels.map CascadeTracer.place =
      (db.catalog.graph.freshWalks 5 [root] root).map
        (CascadeTracer.placeOf db.catalog root 1) := CascadeTracer.trace_levels rfl
  have htables : ((fkGraph cfg db root).levels.map entryOf).map (·.table) =
      (db.catalog.graph.freshWalks 5 [root] root).map (db.catalog.graph.dest root) := by
    have hfst := congrArg (List.map Prod.fst) hlevels
    rw [List.map_map, List.map_map] at hfst
    rw [List.map_map]
    exact hfst
  rw [htables, List.mem_map]
  unfold CascadesTo
  refine exists_congr fun walk => ?_
  rw [Multigraph.mem_freshWalks, Multigraph.isSimple_iff_fresh]
  tauto

theorem mem_detectedTriggers {t : TriggerInfo} (h : t ∈ deleteTriggers cfg db table) :
    t ∈ detectedTriggers cfg db table :=
  List.mem_of_mem_filter (nonTransactional_of_deleteTriggers h)

/-- No table cascades to itself. -/
theorem CascadesTo.ne {root : String} (h : CascadesTo db root table) : table ≠ root := by
  obtain ⟨walk, hne, hsimple, -, rfl⟩ := h
  obtain ⟨hroot, -⟩ := List.nodup_cons.mp hsimple.nodup
  exact fun heq => hroot (heq ▸ Multigraph.dest_mem_visited hne)

/-- A trigger of the primary table is listed when it is found under its own event. -/
theorem listed_iff_ownEvent {rows : Py.Number} {external : List ExternalTrigger} {t : TriggerInfo}
    (ht : t ∈ deleteTriggers cfg db table)
    (hexternal : AnalyzerTools.estimateApiFanout ((nonTransactional cfg db table).map
      (externalOf (eventsOf (detectedTriggers cfg db table)))) rows = some external) :
    (∃ e ∈ external, ListedAs t e) ↔ OwnEvent (detectedTriggers cfg db table) t := by
  have hmem := nonTransactional_of_deleteTriggers ht
  have hdeclared : ∀ t' ∈ detectedTriggers cfg db table, t'.Declared := fun _ h =>
    TriggerDetector.declared_of_mem h
  obtain ⟨ext, -, hext⟩ := TriggerDetector.extension_of_nonTransactional hmem
  rw [← externalOf_event_iff hdeclared (mem_detectedTriggers ht),
    AnalyzerTools.eq_of_estimateApiFanout hexternal, List.map_map]
  constructor
  · rintro ⟨e, he, hlisted⟩
    obtain ⟨t', -, rfl⟩ := List.mem_map.mp he
    -- the event that is found depends on the name alone
    have hname : t.triggerName = .str t'.name := hlisted.triggerName
    have hevent : t.event =
        .str (externalOf (eventsOf (detectedTriggers cfg db table)) t').event := hlisted.event
    have hsame : t'.name = t.name := by
      rw [TriggerInfo.name, TriggerInfo.name, hname]
      rfl
    unfold externalOf at hevent ⊢
    rw [hevent, hsame]
  · intro hevent
    obtain ⟨hname, hevent, hextension, hendpoint⟩ :=
      (ListedAs.self_iff (hdeclared t (mem_detectedTriggers ht)) hext).mpr hevent
    exact ⟨_, List.mem_map_of_mem hmem, hname, hevent, hextension, hendpoint⟩

/-- A deletion whose table is not known can have no soft-delete column, and one whose table has
non-transactional triggers has permanent side effects. -/
theorem reversibility_of_detected {c : HandoffContract} (hfacts : Detected acfg cfg db p facts)
    (hdelete : p.operationType = .delete) (hwrote : Wrote acfg p facts c)
    (h : p.primaryTable = "" ∨ nonTransactional cfg db p.primaryTable ≠ []) :
    c.reversibility = some .partiallyReversible ∨ c.reversibility = some .permanent := by
  have hside : facts.hasSoftDelete = false ∨
      facts.triggerAnalysis.hasPermanentSideEffects = true := by
    by_cases htable : p.primaryTable = ""
    · left
      have hunknown : ¬ Changes p := fun hchanges => hchanges.1 htable
      have hsoft := hfacts.of.hasSoftDelete
      rw [if_neg hunknown] at hsoft
      exact (Option.some.inj hsoft).symm
    · exact .inr (hfacts.sideEffects htable (h.resolve_left htable))
  obtain ⟨written, hwritten, heq⟩ := Option.map_eq_some_iff.mp hwrote.reversibility
  obtain ⟨classified, hclassified, hrest⟩ := Option.bind_eq_some_iff.mp hwritten
  obtain rfl := Option.some.inj hrest
  have hclass : c.reversibility = classified.reversibility := heq.symm
  rw [hclass, writeReversibility_eq hclassified, hdelete]
  rcases hside with hsoft | heffects
  · rw [hsoft]
    exact .inr rfl
  · rw [heffects]
    cases facts.hasSoftDelete with
    | false => exact .inr rfl
    | true => exact .inl rfl

theorem mem_touchedTables {c : HandoffContract} :
    table ∈ touchedTables c ↔
      c.primaryTable ≠ "" ∧ table = c.primaryTable ∨ table ∈ c.cascade.map (·.table) := by
  unfold touchedTables
  rw [List.mem_append]
  by_cases htable : c.primaryTable = "" <;> simp [htable]

/-- Where no table is known, the effects are surfaced when they were listed before. -/
theorem surfacesEffects_of_unknown {c : HandoffContract} (hfacts : Detected acfg cfg db p facts)
    (hdelete : p.operationType = .delete) (hwrote : Wrote acfg p facts c)
    (htable : p.primaryTable = "") :
    SurfacesEffects cfg db c ↔ EffectsOnPrimary cfg db p := by
  have hcascade : c.cascade = p.cascade := by
    rw [hwrote.cascade, hfacts.cascade, if_neg fun hchanges => hchanges.1 htable]
  have htouched : ∀ table, table ∈ touchedTables c ↔ table ∈ p.cascade.map (·.table) := by
    intro table
    rw [mem_touchedTables, hwrote.primaryTable, hcascade]
    simp [htable]
  have happears : ∀ table t, Appears c table t ↔ Appears p table t := by
    intro table t
    have hexternal : c.externalTriggers = p.externalTriggers :=
      hwrote.external.trans (hfacts.unknown htable)
    constructor
    · exact fun h => ⟨h.primary.trans hwrote.primaryTable, hexternal ▸ h.listed⟩
    · exact fun h => ⟨h.primary.trans hwrote.primaryTable.symm, hexternal ▸ h.listed⟩
  unfold EffectsOnPrimary
  rw [if_pos htable]
  constructor
  · intro h table hmem t ht
    exact (happears table t).mp (h.appears table ((htouched table).mpr hmem) t ht)
  · intro h
    refine ⟨fun table hmem t ht => ?_, fun _ => ?_⟩
    · exact (happears table t).mpr (h table ((htouched table).mp hmem) t ht)
    · exact reversibility_of_detected hfacts hdelete hwrote (.inl htable)

/-- Where the table is known, they are surfaced when they are on it alone. -/
theorem surfacesEffects_of_known {c : HandoffContract} (hfacts : Detected acfg cfg db p facts)
    (hdelete : p.operationType = .delete) (hwrote : Wrote acfg p facts c)
    (htable : p.primaryTable ≠ "") :
    SurfacesEffects cfg db c ↔ EffectsOnPrimary cfg db p := by
  have hchanges : Changes p := ⟨htable, by rw [hdelete]; decide⟩
  have htouched : ∀ table, table ∈ touchedTables c ↔
      table = p.primaryTable ∨ CascadesTo db p.primaryTable table := by
    intro table
    rw [mem_touchedTables, hwrote.primaryTable, hwrote.cascade, hfacts.cascade, if_pos hchanges,
      mem_fkGraph_tables]
    simp [htable]
  have hlisted : ∀ t ∈ deleteTriggers cfg db p.primaryTable,
      (∃ e ∈ c.externalTriggers, ListedAs t e) ↔
        OwnEvent (detectedTriggers cfg db p.primaryTable) t := by
    intro t ht
    rw [hwrote.external]
    exact listed_iff_ownEvent ht (hfacts.external htable)
  unfold EffectsOnPrimary
  rw [if_neg htable]
  constructor
  · intro h
    constructor
    · intro table hcascades
      rw [List.eq_nil_iff_forall_not_mem]
      intro t ht
      have happears := h.appears table ((htouched table).mpr (.inr hcascades)) t ht
      exact hcascades.ne (happears.primary.trans hwrote.primaryTable)
    · intro t ht
      exact (hlisted t ht).mp (h.appears _ ((htouched _).mpr (.inl rfl)) t ht).listed
  · rintro ⟨hnone, hown⟩
    constructor
    · intro table hmem t ht
      rcases (htouched table).mp hmem with rfl | hcascades
      · exact ⟨hwrote.primaryTable.symm, (hlisted t ht).mpr (hown t ht)⟩
      · rw [hnone table hcascades] at ht
        cases ht
    · rintro ⟨table, hmem, hne⟩
      refine reversibility_of_detected hfacts hdelete hwrote (.inr ?_)
      rcases (htouched table).mp hmem with rfl | hcascades
      · obtain ⟨t, ht⟩ := List.exists_mem_of_ne_nil _ hne
        exact List.ne_nil_of_mem (nonTransactional_of_deleteTriggers ht)
      · exact absurd (hnone table hcascades) hne

/-- The effects are surfaced exactly when they are on the primary table. -/
theorem surfacesEffects_iff {c : HandoffContract} (hfacts : Detected acfg cfg db p facts)
    (hdelete : p.operationType = .delete) (hwrote : Wrote acfg p facts c) :
    SurfacesEffects cfg db c ↔ EffectsOnPrimary cfg db p := by
  by_cases htable : p.primaryTable = ""
  · exact surfacesEffects_of_unknown hfacts hdelete hwrote htable
  · exact surfacesEffects_of_known hfacts hdelete hwrote htable

/-- A `DELETE` is classified as such. -/
theorem parsed_of_delete {contract : HandoffContract} (acfg : AnalyzerConfig)
    (hverb : verb contract.rawSql = "DELETE") :
    (parsed acfg contract).operationType = .delete := by
  rw [parsed_operationType, classify_of_verb acfg (by rw [hverb]; decide), if_pos hverb]

/-! ## A webhook on a cascaded table -/

/-- A trigger that calls an endpoint for every deleted row. -/
def webhook (table : String) : TriggerRow where
  triggerName := "on_delete"
  tableName := table
  tgtype := 9
  functionName := "notify"
  functionDef := some "BEGIN PERFORM net.http_post('https://hooks.example/gone'); END"

/-- The users can be restored; deleting one deletes the orders. These tables have the webhook. -/
def withWebhooks (tables : List String) : ReaderDatabase :=
  { usersAndOrders 1 with
    triggers := fun table => if table ∈ tables then [webhook table] else []
    installedExtensions := ["pg_net"]
    softDeleteColumn := fun table => if table = "users" then some "deleted_at" else none }

theorem parsed_deleteUser : (parsed plainAnalyzer deleteUser).primaryTable = "users" := by
  unfold parsed
  rw [parse_deleteUser]
  rfl

theorem cascadesTo_orders (tables : List String) :
    CascadesTo (withWebhooks tables) "users" "orders" :=
  have hnodup : ["users", "orders"].Nodup := by decide
  ⟨[(0, ⟨"orders", "user_id", "id", "CASCADE"⟩)], by simp, ⟨.cons rfl (.nil _), hnodup⟩,
    by decide, rfl⟩

/-- Only `orders` has the webhook: the contract does not mention it. -/
theorem effects_not_surfaced :
    ¬ ∃ c, analyze plainAnalyzer (reader plainReader (withWebhooks ["orders"])) none 0 deleteUser =
        some c ∧ SurfacesEffects plainReader (withWebhooks ["orders"]) c := by
  rintro ⟨c, hc, hsurfaces⟩
  obtain ⟨facts, c', hfacts, hanalyze, hwrote⟩ := analyze_reader plainAnalyzer
    plainReader_keepsFinite (withWebhooks ["orders"]) none 0 skips_deleteUser
  obtain rfl := Option.some.inj (hanalyze.symm.trans hc)
  have hprimary := (surfacesEffects_iff hfacts
    (parsed_of_delete plainAnalyzer (by decide)) hwrote).mp hsurfaces
  unfold EffectsOnPrimary at hprimary
  rw [parsed_deleteUser, if_neg (by decide)] at hprimary
  have hnone := hprimary.1 "orders" (cascadesTo_orders _)
  revert hnone
  decide

/-! ## When external effects are surfaced -/

/-- **When external effects are surfaced.** After the analysis of a `DELETE` every
non-transactional trigger that fires on a table the contract touches appears in it, and it does
not call the deletion reversible if there is one, exactly when no cascaded table has such a trigger
and those of the primary table are found under their own events. -/
theorem effects_surfaced_iff (hfinite : cfg.arith.KeepsFinite) (reply : LlmReply) (now : Time)
    {contract : HandoffContract} (hverb : verb contract.rawSql = "DELETE") :
    (∃ c, analyze acfg (reader cfg db) reply now contract = some c ∧ SurfacesEffects cfg db c) ↔
      if skips contract then SurfacesEffects cfg db contract
      else EffectsOnPrimary cfg db (parsed acfg contract) := by
  cases hskips : skips contract with
  | true =>
    rw [analyze_of_skips hskips, if_pos rfl]
    constructor
    · rintro ⟨c, hc, h⟩
      obtain rfl := Option.some.inj hc
      exact h
    · exact fun h => ⟨contract, rfl, h⟩
  | false =>
    obtain ⟨facts, c', hfacts, hanalyze, hwrote⟩ := analyze_reader acfg hfinite db reply now hskips
    have hsurfaces := surfacesEffects_iff hfacts (parsed_of_delete acfg hverb) hwrote
    rw [hanalyze, if_neg (by simp), ← hsurfaces]
    constructor
    · rintro ⟨c, hc, h⟩
      obtain rfl := Option.some.inj hc
      exact h
    · exact fun h => ⟨c', rfl, h⟩

/-- Only the users have the webhook, and they have no other trigger. -/
theorem effects_surfaced_own_webhook :
    ∃ c, analyze plainAnalyzer (reader plainReader (withWebhooks ["users"])) none 0 deleteUser =
        some c ∧ SurfacesEffects plainReader (withWebhooks ["users"]) c := by
  refine (effects_surfaced_iff plainReader_keepsFinite none 0 (by decide)).mpr ?_
  rw [if_neg (by simp [skips_deleteUser])]
  unfold EffectsOnPrimary
  rw [parsed_deleteUser, if_neg (by decide)]
  constructor
  · intro table hcascades
    have hrows : (withWebhooks ["users"]).triggers table = [] :=
      if_neg (by simpa using hcascades.ne)
    unfold deleteTriggers
    rw [hrows]
    rfl
  · intro t ht
    have hsingle : detectedTriggers plainReader (withWebhooks ["users"]) "users" =
        [TriggerDetector.triggerInfo plainReader.toTriggerText
          (withWebhooks ["users"]).toTriggerCatalog
          TriggerDetector.defaultNonTransactionalExtensions (webhook "users")] := rfl
    have hmem := mem_detectedTriggers ht
    rw [hsingle, List.mem_singleton] at hmem
    rw [hsingle, hmem]
    simp [OwnEvent]

end ReaderTools
