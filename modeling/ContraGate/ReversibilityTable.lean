import ContraGate.Library.Fallible
import ContraGate.Library.PyDict
import ContraGate.ReversibilityRules

/-!
# The documented priority table of the reversibility

The module docstring of `reversibility_rules.py` lists which class an operation gets, and says
that its type may be written in any case. Here the table is a definition of its own, over the
upper case of the type, and `classify_reversibility` is compared with it. The one difference is
the membership test for DDL, which is made on the type as it is written.
-/

/-- What the table distinguishes about a type. -/
inductive OperationKind
  /-- Always permanent. -/
  | ddl
  /-- Changes rows that are there: `DELETE` and `UPDATE`. -/
  | change
  /-- Reads rows, or adds some. -/
  | harmless
deriving DecidableEq

namespace ReversibilityRules

/-! ## The table -/

def ddlNames : List String := ["DROP", "TRUNCATE", "ALTER", "CREATE", "DDL"]

/-- The kind of a type in upper case, if it is a known one. -/
def kind? (op : String) : Option OperationKind :=
  if op ∈ ddlNames then some .ddl
  else if op ∈ ["DELETE", "UPDATE"] then some .change
  else if op ∈ ["SELECT", "READ", "INSERT"] then some .harmless
  else none

/-- The class that the table gives to a kind. -/
def tableClass (kind : OperationKind) (hasSoftDeleteColumn hasEffects pitrConfirmed : Bool) :
    ReversibilityClass :=
  match kind with
  | .ddl => .permanent
  | .change =>
    if !hasSoftDeleteColumn && !pitrConfirmed then .permanent
    else if hasEffects then .partiallyReversible
    else if hasSoftDeleteColumn then .reversibleAutomated
    else .reversiblePitr
  | .harmless => if hasEffects then .partiallyReversible else .reversibleAutomated

/-- A point-in-time recovery is confirmed without a window, or with one that is not positive. -/
def InvalidWindow (pitrConfirmed : Bool) (pitrWindowHours : Option Py.Float) : Prop :=
  pitrConfirmed = true ∧ pitrWindowHours.all (fun hours => (Py.Float.finite 0).ge hours) = true

instance (pitrConfirmed : Bool) (pitrWindowHours : Option Py.Float) :
    Decidable (InvalidWindow pitrConfirmed pitrWindowHours) := inferInstanceAs (Decidable (_ ∧ _))

/-- `operation_type.upper()`. -/
def upperType (operationType : String) : String := String.ofList (Py.upper operationType.toList)

/-- The class that the table asks for; `none` is an exception. -/
def specified (operationType : String) (hasSoftDeleteColumn hasEffects pitrConfirmed : Bool)
    (pitrWindowHours : Option Py.Float) : Option ReversibilityClass :=
  if InvalidWindow pitrConfirmed pitrWindowHours then none
  else (kind? (upperType operationType)).map fun kind =>
    tableClass kind hasSoftDeleteColumn hasEffects pitrConfirmed

/-- A component that names a trigger. -/
def Names (component : String) (trigger : String) : Prop :=
  trigger.toList <:+: component.toList

/-- The outcome is what the documentation says of an operation with these inputs. -/
structure FollowsTable (texts : Py.ValueText) (outcome : Except ReversibilityError ReversibilityResult)
    (operationType : String) (hasSoftDeleteColumn : Bool) (triggerAnalysis : TriggerAnalysis)
    (pitrConfirmed : Bool) (pitrWindowHours : Option Py.Float) : Prop where
  classification : outcome.toOption.map (·.classification) =
    specified operationType hasSoftDeleteColumn (!triggerAnalysis.nonTransactionalTriggers.isEmpty)
      pitrConfirmed pitrWindowHours
  error : outcome ≠ .error .typeError
  recovery : ∀ result ∈ outcome.toOption, result.automatedRecoverySql = none
  components : ∀ result ∈ outcome.toOption, kind? (upperType operationType) ≠ some .ddl →
    result.classification ∈ [.permanent, .partiallyReversible] →
    ∀ t ∈ triggerAnalysis.nonTransactionalTriggers,
      ∃ component ∈ result.permanentComponents, Names component (t.triggerName.display texts)

/-- The extensions are texts or `None`, as they are declared. -/
def DeclaredExtensions (triggerAnalysis : TriggerAnalysis) : Prop :=
  ∀ t ∈ triggerAnalysis.nonTransactionalTriggers, t.nonTransactionalExtension.isText = true

/-! ## The code's sets of types -/

variable (texts : Py.ValueText) {operationType table : String} {hasSoftDeleteColumn : Bool}
  {triggerAnalysis : TriggerAnalysis} {pitrConfirmed : Bool} {pitrWindowHours : Option Py.Float}
  {estimatedRows : Py.Number}

/-- The types of `_DDL_OPERATIONS` are the DDL types in one case. -/
theorem upperType_of_ddlOperations (h : operationType ∈ ddlOperations) :
    upperType operationType ∈ ddlNames := by
  have hall : ∀ op ∈ ddlOperations, upperType op ∈ ddlNames := by decide
  exact hall operationType h

theorem upperType_of_knownDmlOperations (h : operationType ∈ knownDmlOperations) :
    upperType operationType ∈ ["SELECT", "INSERT", "UPDATE", "DELETE", "READ"] := by
  have hall : ∀ op ∈ knownDmlOperations,
      upperType op ∈ ["SELECT", "INSERT", "UPDATE", "DELETE", "READ"] := by decide
  exact hall operationType h

theorem kind?_eq_ddl_iff {op : String} : kind? op = some .ddl ↔ op ∈ ddlNames := by
  unfold kind?
  split_ifs with h <;> simp [h]

/-- What the change of the database is by itself, by the kind of the type. A DDL type that gets
here is not known. -/
theorem databaseChange_eq :
    (databaseChange texts operationType hasSoftDeleteColumn pitrConfirmed pitrWindowHours
        estimatedRows).toOption.map (fun change => change.map Prod.fst) =
      match kind? (upperType operationType) with
      | some .harmless => some (some .reversibleAutomated)
      | some .change =>
        some (if hasSoftDeleteColumn then some .reversibleAutomated
          else if pitrConfirmed then some .reversiblePitr else none)
      | some .ddl | none => none := by
  have hknown : operationType ∈ knownDmlOperations → _ := upperType_of_knownDmlOperations
  unfold databaseChange
  rw [← upperType]
  generalize upperType operationType = op at hknown ⊢
  dsimp only
  by_cases hread : op ∈ ["SELECT", "READ"]
  · rw [if_pos hread]
    have hkind : kind? op = some .harmless := by
      rcases List.mem_pair.mp hread with rfl | rfl <;> decide
    rw [hkind]
    rfl
  · rw [if_neg hread]
    by_cases hinsert : op = "INSERT"
    · rw [if_pos hinsert, hinsert]
      rfl
    · rw [if_neg hinsert]
      by_cases hchange : op ∈ ["DELETE", "UPDATE"]
      · rw [if_pos hchange]
        have hkind : kind? op = some .change := by
          rcases List.mem_pair.mp hchange with rfl | rfl <;> decide
        rw [hkind]
        split_ifs <;> rfl
      · -- all known types are handled above
        have hother : operationType ∉ knownDmlOperations := by
          intro hmem
          have := hknown hmem
          simp only [List.mem_cons, List.not_mem_nil, or_false] at this hread hchange
          tauto
        have hkind : kind? op = some .ddl ∨ kind? op = none := by
          unfold kind?
          simp only [List.mem_cons, List.not_mem_nil, or_false] at hread hchange
          split_ifs with hddl hother <;> simp_all
        rw [if_neg hchange, if_neg hother]
        rcases hkind with hkind | hkind <;> rw [hkind] <;> rfl

/-- A change that can be undone has one of the two reversible classes. -/
theorem databaseChange_reversible {dbClass : ReversibilityClass} {reason : String}
    (h : databaseChange texts operationType hasSoftDeleteColumn pitrConfirmed pitrWindowHours
      estimatedRows = .ok (some (dbClass, reason))) :
    dbClass = .reversibleAutomated ∨ dbClass = .reversiblePitr := by
  have heq : some (some dbClass) = _ :=
    (congrArg (fun result => result.toOption.map fun change => change.map Prod.fst) h).symm.trans
      (databaseChange_eq texts)
  split at heq
  · exact .inl (Option.some.inj (Option.some.inj heq))
  · have heq := Option.some.inj heq
    split_ifs at heq
    · exact .inl (Option.some.inj heq)
    · exact .inr (Option.some.inj heq)
  · cases heq
  · cases heq

/-! ## The outcome -/

/-- `text or default` is a text. -/
theorem str?_or_of_isText {v : Py.Json} (default : String) (h : v.isText = true) :
    (v.or (.str default)).str? = some (((v.or (.str default)).str?).getD "") := by
  unfold Py.Json.or
  cases v with
  | null => rfl
  | str s => split <;> rfl
  | _ => cases h

/-- Declared extensions can be listed. -/
theorem classifyReversibility_ne_typeError (h : DeclaredExtensions triggerAnalysis) :
    classifyReversibility texts operationType table hasSoftDeleteColumn triggerAnalysis
      pitrConfirmed pitrWindowHours estimatedRows ≠ .error .typeError := by
  have hextensions := Fallible.mapM_of_forall fun t ht => str?_or_of_isText "?" (h t ht)
  have hchange : databaseChange texts operationType hasSoftDeleteColumn pitrConfirmed
      pitrWindowHours estimatedRows ≠ .error .typeError := by
    unfold databaseChange
    dsimp only
    split_ifs <;> exact nofun
  unfold classifyReversibility
  dsimp only
  rw [hextensions]
  split
  · exact nofun
  split
  · exact nofun
  rcases hresult : databaseChange texts operationType hasSoftDeleteColumn pitrConfirmed
    pitrWindowHours estimatedRows with exc | (- | ⟨dbClass, reason⟩)
  · dsimp only
    rw [hresult] at hchange
    exact fun heq => hchange (congrArg Except.error (Except.error.inj heq))
  · dsimp only
    split_ifs <;> exact nofun
  · dsimp only
    split_ifs <;> exact nofun

/-- How the change of the database and the effects of the triggers are combined. -/
theorem classifyReversibility_of_change (hwindow : ¬ InvalidWindow pitrConfirmed pitrWindowHours)
    (hddl : operationType ∉ ddlOperations)
    (hlisted : classifyReversibility texts operationType table hasSoftDeleteColumn triggerAnalysis
      pitrConfirmed pitrWindowHours estimatedRows ≠ .error .typeError) :
    (classifyReversibility texts operationType table hasSoftDeleteColumn triggerAnalysis
        pitrConfirmed pitrWindowHours estimatedRows).toOption.map (·.classification) =
      ((databaseChange texts operationType hasSoftDeleteColumn pitrConfirmed pitrWindowHours
        estimatedRows).toOption.map (fun change => change.map Prod.fst)).map fun change =>
          match change with
          | none => .permanent
          | some dbClass =>
            if triggerAnalysis.hasPermanentSideEffects then .partiallyReversible else dbClass := by
  unfold InvalidWindow at hwindow
  unfold classifyReversibility at hlisted ⊢
  dsimp only at hlisted ⊢
  rw [if_neg hwindow, if_neg hddl] at hlisted ⊢
  generalize databaseChange texts operationType hasSoftDeleteColumn pitrConfirmed pitrWindowHours
    estimatedRows = change at hlisted ⊢
  rcases change with message | (- | ⟨dbClass, reason⟩)
  · rfl
  · dsimp only
    split_ifs <;> rfl
  · dsimp only at hlisted ⊢
    show _ = some (if triggerAnalysis.hasPermanentSideEffects = true then
      ReversibilityClass.partiallyReversible else dbClass)
    by_cases heffects : triggerAnalysis.hasPermanentSideEffects = true
    · rw [if_pos heffects] at hlisted ⊢
      rw [if_pos heffects]
      -- the extensions could be listed
      generalize (triggerAnalysis.nonTransactionalTriggers.mapM fun t =>
        (t.nonTransactionalExtension.or (.str "?")).str?) = extensions at hlisted ⊢
      cases extensions with
      | none => exact absurd rfl hlisted
      | some extensions => rfl
    · rw [if_neg heffects, if_neg heffects]
      rfl

theorem classification_of_invalid (hwindow : InvalidWindow pitrConfirmed pitrWindowHours) :
    (classifyReversibility texts operationType table hasSoftDeleteColumn triggerAnalysis
        pitrConfirmed pitrWindowHours estimatedRows).toOption.map (·.classification) = none := by
  unfold InvalidWindow at hwindow
  unfold classifyReversibility
  dsimp only
  rw [if_pos hwindow]
  rfl

theorem classification_of_ddl (hwindow : ¬ InvalidWindow pitrConfirmed pitrWindowHours)
    (hddl : operationType ∈ ddlOperations) :
    (classifyReversibility texts operationType table hasSoftDeleteColumn triggerAnalysis
        pitrConfirmed pitrWindowHours estimatedRows).toOption.map (·.classification) =
      some .permanent := by
  unfold InvalidWindow at hwindow
  unfold classifyReversibility
  dsimp only
  rw [if_neg hwindow, if_pos hddl]
  rfl

/-- Every result says that there is no recovery SQL, and one that is permanent or partial and not
for DDL lists the triggers. -/
theorem result_spec {result : ReversibilityResult}
    (h : classifyReversibility texts operationType table hasSoftDeleteColumn triggerAnalysis
      pitrConfirmed pitrWindowHours estimatedRows = .ok result) :
    result.automatedRecoverySql = none ∧
      (operationType ∉ ddlOperations →
        result.classification ∈ [.permanent, .partiallyReversible] →
        ∀ t ∈ triggerAnalysis.nonTransactionalTriggers,
          triggerComponent texts t ∈ result.permanentComponents) := by
  have hlisted : ∀ t ∈ triggerAnalysis.nonTransactionalTriggers, ∀ more : List String,
      triggerComponent texts t ∈
        triggerAnalysis.nonTransactionalTriggers.map (triggerComponent texts) ++ more :=
    fun t ht more => List.mem_append_left _ (List.mem_map_of_mem ht)
  unfold classifyReversibility at h
  dsimp only at h
  split at h
  · cases h
  · split at h
    · rename_i hddl
      obtain rfl := Except.ok.inj h
      exact ⟨rfl, fun hnot => absurd hddl hnot⟩
    · rcases hchange : databaseChange texts operationType hasSoftDeleteColumn pitrConfirmed
        pitrWindowHours estimatedRows with message | (- | ⟨dbClass, reason⟩)
      · rw [hchange] at h
        cases h
      -- the change itself is permanent: the triggers come first in the list
      · rw [hchange] at h
        dsimp only at h
        split at h <;> obtain rfl := Except.ok.inj h <;>
          exact ⟨rfl, fun _ _ t ht => hlisted t ht _⟩
      · rw [hchange] at h
        dsimp only at h
        split at h
        · split at h
          · cases h
          · obtain rfl := Except.ok.inj h
            exact ⟨rfl, fun _ _ t ht => List.mem_map_of_mem ht⟩
        -- without effects the class is that of the change, which is neither
        · obtain rfl := Except.ok.inj h
          refine ⟨rfl, fun _ (hclass : dbClass ∈ _) => ?_⟩
          rcases databaseChange_reversible texts hchange with rfl | rfl <;>
            exact absurd hclass (by decide)

/-- The component of a trigger names it. -/
theorem names_component (t : TriggerInfo) :
    Names (triggerComponent texts t) (t.triggerName.display texts) :=
  ⟨"trigger:".toList,
    (":" ++ (t.nonTransactionalExtension.or (.str "unknown")).display texts).toList, by
    simp only [triggerComponent, String.toList_append, List.append_assoc]⟩

/-- The class that the table gives, composed as the code composes it. -/
theorem tableClass_eq (kind : OperationKind) (hkind : kind ≠ .ddl) (effects : Bool) :
    tableClass kind hasSoftDeleteColumn effects pitrConfirmed =
      match kind with
      | .ddl => .permanent
      | .harmless => if effects then .partiallyReversible else .reversibleAutomated
      | .change =>
        if hasSoftDeleteColumn then
          if effects then .partiallyReversible else .reversibleAutomated
        else if pitrConfirmed then
          if effects then .partiallyReversible else .reversiblePitr
        else .permanent := by
  cases kind with
  | ddl => exact absurd rfl hkind
  | harmless => rfl
  | change => cases hasSoftDeleteColumn <;> cases pitrConfirmed <;> cases effects <;> rfl

/-- Outside the code's DDL set the table is followed, with the DDL types as unknown ones. -/
theorem classification_of_not_ddl (hwindow : ¬ InvalidWindow pitrConfirmed pitrWindowHours)
    (hddl : operationType ∉ ddlOperations) (hextensions : DeclaredExtensions triggerAnalysis)
    (heffects : triggerAnalysis.hasPermanentSideEffects =
      !triggerAnalysis.nonTransactionalTriggers.isEmpty) :
    (classifyReversibility texts operationType table hasSoftDeleteColumn triggerAnalysis
        pitrConfirmed pitrWindowHours estimatedRows).toOption.map (·.classification) =
      if upperType operationType ∈ ddlNames then none
      else specified operationType hasSoftDeleteColumn
        (!triggerAnalysis.nonTransactionalTriggers.isEmpty) pitrConfirmed pitrWindowHours := by
  rw [classifyReversibility_of_change texts hwindow hddl
    (classifyReversibility_ne_typeError texts hextensions), databaseChange_eq, heffects]
  generalize (!triggerAnalysis.nonTransactionalTriggers.isEmpty) = effects
  unfold specified
  rw [if_neg hwindow]
  cases hkind : kind? (upperType operationType) with
  | none =>
    have hname : upperType operationType ∉ ddlNames := fun h => by
      rw [kind?_eq_ddl_iff.mpr h] at hkind
      cases hkind
    rw [if_neg hname]
    rfl
  | some kind =>
    by_cases hname : upperType operationType ∈ ddlNames
    · rw [kind?_eq_ddl_iff.mpr hname] at hkind
      obtain rfl := Option.some.inj hkind
      rw [if_pos hname]
      rfl
    · have hne : kind ≠ .ddl := fun h => hname (kind?_eq_ddl_iff.mp (h ▸ hkind))
      rw [if_neg hname, Option.map_some, tableClass_eq kind hne]
      cases kind with
      | ddl => exact absurd rfl hne
      | harmless => rfl
      | change =>
        dsimp only
        split_ifs <;> rfl

/-- Whatever the classification, the other parts hold. -/
theorem followsTable_iff_classification (hextensions : DeclaredExtensions triggerAnalysis) :
    FollowsTable texts
        (classifyReversibility texts operationType table hasSoftDeleteColumn triggerAnalysis
          pitrConfirmed pitrWindowHours estimatedRows)
        operationType hasSoftDeleteColumn triggerAnalysis pitrConfirmed pitrWindowHours ↔
      (classifyReversibility texts operationType table hasSoftDeleteColumn triggerAnalysis
          pitrConfirmed pitrWindowHours estimatedRows).toOption.map (·.classification) =
        specified operationType hasSoftDeleteColumn
          (!triggerAnalysis.nonTransactionalTriggers.isEmpty) pitrConfirmed pitrWindowHours := by
  constructor
  · exact fun h => h.classification
  · intro hclassification
    cases hout : classifyReversibility texts operationType table hasSoftDeleteColumn triggerAnalysis
        pitrConfirmed pitrWindowHours estimatedRows with
    | error message =>
      rw [hout] at hclassification
      refine ⟨hclassification, ?_, nofun, nofun⟩
      rw [← hout]
      exact classifyReversibility_ne_typeError texts hextensions
    | ok result =>
      obtain ⟨hrecovery, hlisted⟩ := result_spec texts hout
      rw [hout] at hclassification
      refine ⟨hclassification, nofun, ?_, ?_⟩
      · rintro _ ⟨⟩
        exact hrecovery
      · rintro _ ⟨⟩ hkind hclass t ht
        have hddl : operationType ∉ ddlOperations := fun h =>
          hkind (kind?_eq_ddl_iff.mpr (upperType_of_ddlOperations h))
        exact ⟨_, hlisted hddl hclass t ht, names_component texts t⟩

/-- **The priority table is followed unless a DDL type is written in mixed case**: such a type is
refused, as if it were not known. -/
theorem followsTable_iff (hextensions : DeclaredExtensions triggerAnalysis)
    (heffects : triggerAnalysis.hasPermanentSideEffects = true ↔
      triggerAnalysis.nonTransactionalTriggers ≠ []) :
    FollowsTable texts
        (classifyReversibility texts operationType table hasSoftDeleteColumn triggerAnalysis
          pitrConfirmed pitrWindowHours estimatedRows)
        operationType hasSoftDeleteColumn triggerAnalysis pitrConfirmed pitrWindowHours ↔
      InvalidWindow pitrConfirmed pitrWindowHours ∨ upperType operationType ∉ ddlNames ∨
        operationType ∈ ddlOperations := by
  have heffects : triggerAnalysis.hasPermanentSideEffects =
      !triggerAnalysis.nonTransactionalTriggers.isEmpty := by
    rw [Bool.eq_iff_iff, heffects]
    simp
  rw [followsTable_iff_classification texts hextensions]
  by_cases hwindow : InvalidWindow pitrConfirmed pitrWindowHours
  · refine iff_of_true ?_ (.inl hwindow)
    rw [classification_of_invalid texts hwindow, specified, if_pos hwindow]
  · by_cases hddl : operationType ∈ ddlOperations
    · refine iff_of_true ?_ (.inr (.inr hddl))
      rw [classification_of_ddl texts hwindow hddl, specified, if_neg hwindow,
        kind?_eq_ddl_iff.mpr (upperType_of_ddlOperations hddl)]
      rfl
    · rw [classification_of_not_ddl texts hwindow hddl hextensions heffects]
      by_cases hname : upperType operationType ∈ ddlNames
      · rw [if_pos hname]
        have hnone : ¬ (InvalidWindow pitrConfirmed pitrWindowHours ∨
            upperType operationType ∉ ddlNames ∨ operationType ∈ ddlOperations) :=
          not_or.mpr ⟨hwindow, not_or.mpr ⟨not_not_intro hname, hddl⟩⟩
        refine iff_of_false ?_ hnone
        unfold specified
        rw [if_neg hwindow, kind?_eq_ddl_iff.mpr hname]
        exact Option.some_ne_none _ ∘ Eq.symm
      · rw [if_neg hname]
        exact iff_of_true rfl (.inr (.inl hname))

/-- No trigger fires. -/
def noTriggers (table : String) : TriggerAnalysis where
  table
  triggers := []
  hasPermanentSideEffects := false
  nonTransactionalTriggers := []

theorem declared_noTriggers {table : String} : DeclaredExtensions (noTriggers table) :=
  List.forall_mem_nil _

/-- A `delete` on a table without a soft-delete column. -/
theorem followsTable_iff_delete :
    FollowsTable .decimals
      (classifyReversibility .decimals "delete" "users" false (noTriggers "users") false none
        (.int 5))
      "delete" false (noTriggers "users") false none :=
  (followsTable_iff .decimals declared_noTriggers (by decide)).mpr (.inr (.inl (by decide)))

/-- `Drop` is a DDL type, and it is refused. -/
theorem mixedCase_refused :
    ¬ ∀ (texts : Py.ValueText) (operationType table : String) (hasSoftDeleteColumn : Bool)
      (triggerAnalysis : TriggerAnalysis) (pitrConfirmed : Bool)
      (pitrWindowHours : Option Py.Float) (estimatedRows : Py.Number),
      DeclaredExtensions triggerAnalysis →
      (triggerAnalysis.hasPermanentSideEffects = true ↔
        triggerAnalysis.nonTransactionalTriggers ≠ []) →
      FollowsTable texts
        (classifyReversibility texts operationType table hasSoftDeleteColumn triggerAnalysis
          pitrConfirmed pitrWindowHours estimatedRows)
        operationType hasSoftDeleteColumn triggerAnalysis pitrConfirmed pitrWindowHours := by
  intro hall
  have hdrop := (hall .decimals "Drop" "users" false (noTriggers "users") false none (.int 0)
    declared_noTriggers (by decide)).classification
  revert hdrop
  decide

end ReversibilityRules
