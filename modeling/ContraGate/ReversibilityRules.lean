import ContraGate.HandoffSchema
import ContraGate.Library.PyText

/-!
# Reversibility (`sql_analysis_lib/reversibility_rules.py`)

`classify_reversibility` combines what the statement does to the rows with what its triggers do
outside the transaction. It raises a `ValueError` on an operation it does not know, and a
`TypeError` when it has to list extensions that are no texts.
-/

/-- `TriggerInfo` of `sql_analysis_lib/trigger_detector.py`. Nothing checks its texts, so they are
whatever they were made from; `null` is `None`. -/
structure TriggerInfo where
  triggerName : Py.Json
  tableName : Py.Json
  event : Py.Json
  timing : Py.Json
  functionName : Py.Json
  invokesNonTransactional : Bool
  nonTransactionalExtension : Py.Json
  estimatedExternalCalls : Option ℤ
  targetEndpoint : Py.Json

/-- The texts are of the declared types, as they are when a detector makes them. -/
structure TriggerInfo.Declared (t : TriggerInfo) : Prop where
  triggerName : ∃ text, t.triggerName = .str text
  tableName : ∃ text, t.tableName = .str text
  event : ∃ text, t.event = .str text
  timing : ∃ text, t.timing = .str text
  functionName : ∃ text, t.functionName = .str text
  nonTransactionalExtension : ∃ text?, t.nonTransactionalExtension = .ofText? text?
  targetEndpoint : ∃ text?, t.targetEndpoint = .ofText? text?

/-- The name of a trigger whose name is a text. -/
def TriggerInfo.name (t : TriggerInfo) : String := t.triggerName.str?.getD ""

theorem TriggerInfo.Declared.triggerName_eq {t : TriggerInfo} (h : t.Declared) :
    t.triggerName = .str t.name := by
  obtain ⟨text, htext⟩ := h.triggerName
  rw [TriggerInfo.name, htext]
  rfl

/-- `TriggerAnalysis`. -/
structure TriggerAnalysis where
  table : String
  triggers : List TriggerInfo
  hasPermanentSideEffects : Bool
  nonTransactionalTriggers : List TriggerInfo

/-- `ReversibilityClass.value`. -/
def ReversibilityClass.value : ReversibilityClass → String
  | reversibleAutomated => "REVERSIBLE_AUTOMATED"
  | reversiblePitr => "REVERSIBLE_PITR"
  | partiallyReversible => "PARTIAL"
  | permanent => "PERMANENT"

structure ReversibilityResult where
  classification : ReversibilityClass
  reason : String
  automatedRecoverySql : Option String := none
  pitrAvailable : Bool
  pitrWindowHours : Option Py.Float
  permanentComponents : List String := []

/-- How `classify_reversibility` raises. -/
inductive ReversibilityError
  | valueError (message : String)
  | typeError

namespace ReversibilityRules

variable (texts : Py.ValueText)

/-- `_DDL_OPERATIONS`. -/
def ddlOperations : List String :=
  ["DROP", "TRUNCATE", "ALTER", "CREATE", "DDL", "drop", "truncate", "alter", "create", "ddl"]

/-- `_KNOWN_DML_OPERATIONS`. -/
def knownDmlOperations : List String :=
  ["SELECT", "INSERT", "UPDATE", "DELETE", "READ", "select", "insert", "update", "delete", "read"]

/-- `str(pitr_window_hours)`. -/
def hoursText (pitrWindowHours : Option Py.Float) : String :=
  (pitrWindowHours.map texts.float).getD "None"

/-- The text of the error about the window of the point-in-time recovery. -/
def windowError (pitrWindowHours : Option Py.Float) : String :=
  "pitr_confirmed=True requires pitr_window_hours to be a positive number of hours, got " ++
    hoursText texts pitrWindowHours ++
    ". A zero or None window cannot guarantee point-in-time recovery."

/-- The text of the error about an operation that is not known. -/
def unknownOperationError (operationType : String) : String :=
  s!"Unknown operation type '{operationType}'. " ++
    "Cannot safely classify reversibility for unrecognized operations — " ++
    "failing closed to prevent false REVERSIBLE_AUTOMATED classifications. " ++
    "Recognized types: SELECT, INSERT, UPDATE, DELETE, " ++
    "DROP, TRUNCATE, ALTER, CREATE, DDL (and case variants)."

/-- What the statement does to the rows: a class with its reason, or `none` for a change that
cannot be undone. -/
def databaseChange (operationType : String) (hasSoftDeleteColumn pitrConfirmed : Bool)
    (pitrWindowHours : Option Py.Float) (estimatedRows : Py.Number) :
    Except ReversibilityError (Option (ReversibilityClass × String)) :=
  let op := String.ofList (Py.upper operationType.toList)
  let rows := estimatedRows.toJson.display texts
  if op ∈ ["SELECT", "READ"] then
    .ok (some (.reversibleAutomated, "Read-only operation; no data modification"))
  else if op = "INSERT" then
    .ok (some (.reversibleAutomated,
      s!"INSERT rows can be deleted by primary key ({rows} row(s) estimated)"))
  else if op ∈ ["DELETE", "UPDATE"] then
    if hasSoftDeleteColumn then
      .ok (some (.reversibleAutomated,
        "Soft-delete column present; rows can be restored " ++
          s!"by updating deleted_at/is_deleted ({rows} row(s))"))
    else if pitrConfirmed then
      .ok (some (.reversiblePitr,
        "PITR snapshot available (window: " ++ hoursText texts pitrWindowHours ++
          "h); restore via point-in-time recovery"))
    else .ok none
  else if operationType ∈ knownDmlOperations then
    .ok (some (.reversibleAutomated,
      s!"Known DML operation ({operationType}) classified as reversible"))
  else .error (.valueError (unknownOperationError operationType))

/-- The component that names a trigger. -/
def triggerComponent (t : TriggerInfo) : String :=
  "trigger:" ++ t.triggerName.display texts ++ ":" ++
    (t.nonTransactionalExtension.or (.str "unknown")).display texts

/-- `classify_reversibility`. -/
def classifyReversibility (operationType table : String) (hasSoftDeleteColumn : Bool)
    (triggerAnalysis : TriggerAnalysis) (pitrConfirmed : Bool) (pitrWindowHours : Option Py.Float)
    (estimatedRows : Py.Number) : Except ReversibilityError ReversibilityResult :=
  let op := String.ofList (Py.upper operationType.toList)
  let rows := estimatedRows.toJson.display texts
  let result (classification : ReversibilityClass) (reason : String)
      (permanentComponents : List String) : ReversibilityResult :=
    { classification, reason, pitrAvailable := pitrConfirmed, pitrWindowHours, permanentComponents }
  if pitrConfirmed ∧ pitrWindowHours.all (fun hours => (Py.Float.finite 0).ge hours) then
    .error (.valueError (windowError texts pitrWindowHours))
  else if operationType ∈ ddlOperations then
    .ok (result .permanent
      s!"DDL operation ({operationType}) is irreversible; no automated recovery possible" [op])
  else
    let triggers := triggerAnalysis.nonTransactionalTriggers
    let components := triggers.map (triggerComponent texts)
    match databaseChange texts operationType hasSoftDeleteColumn pitrConfirmed pitrWindowHours
        estimatedRows with
    | .error exc => .error exc
    | .ok none =>
      let components := components ++ [s!"no_recovery_path_for_{table}"]
      if triggerAnalysis.hasPermanentSideEffects then
        .ok (result .permanent
          (s!"No recovery path for {op} on {table} ({rows} row(s)); additionally " ++
            s!"{triggers.length} non-transactional trigger(s) produce permanent external effects")
          components)
      else
        .ok (result .permanent s!"No recovery path for {op} on {table} ({rows} row(s))" components)
    | .ok (some (dbClass, dbReason)) =>
      if triggerAnalysis.hasPermanentSideEffects then
        -- `join` takes texts only
        match triggers.mapM fun t => (t.nonTransactionalExtension.or (.str "?")).str? with
        | none => .error .typeError
        | some extensions =>
          .ok (result .partiallyReversible
            (s!"Database change is {dbClass.value} but {triggers.length} trigger(s) cause " ++
              "permanent external effects (" ++ ", ".intercalate extensions ++ ")")
            components)
      else .ok (result dbClass dbReason [])

end ReversibilityRules
