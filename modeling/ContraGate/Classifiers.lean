import ContraGate.HandoffSchema
import ContraGate.Library.PyText

/-!
# The statement classifiers

The operation type is told from the first word of the text, in the INTAKE state
(`orchestrator/states/intake.py`), in the interception endpoint (`proxy/main.py`) and, for
writes only, in the quick gate (`proxy/risk_gate.py`). The patterns `^\s*(..|..)\b` match
exactly when the whole first word is one of their keywords, case ignored.
-/

/-- `OperationType.value`. -/
def OperationType.value : OperationType → String
  | ddl => "DDL"
  | delete => "DELETE"
  | update => "UPDATE"
  | insert => "INSERT"
  | select => "SELECT"
  | unknown => "UNKNOWN"

/-- `SourceType.value`. -/
def SourceType.value : SourceType → String
  | internalSystem => "internal_system"
  | externalUserInput => "external_user_input"
  | externalAgent => "external_agent"

namespace Classifiers

variable (wide : Char → Bool)

/-- The keyword that a pattern `^\s*(..|..)\b` with `IGNORECASE` matches, as it is written. -/
def keyword? (keywords : List String) (sql : String) : Option (List Char) :=
  let word := Py.leadingWord wide sql.toList
  if keywords.any fun keyword => Py.matchesWord keyword.toList word then some word else none

/-- The keywords of `_DML_PATTERN` in `intake.py`. -/
def dmlKeywords : List String :=
  ["SELECT", "INSERT", "UPDATE", "DELETE", "TRUNCATE", "DROP", "ALTER", "CREATE"]

/-- `_detect_operation_type`. -/
def detectOperationType (rawSql : String) : OperationType :=
  match keyword? wide dmlKeywords rawSql with
  | none => .unknown
  | some word =>
    let kw := String.ofList (Py.upper word)
    if kw = "SELECT" then .select
    else if kw = "INSERT" then .insert
    else if kw = "UPDATE" then .update
    else if kw = "DELETE" then .delete
    else if kw ∈ ["TRUNCATE", "DROP", "ALTER", "CREATE"] then .ddl
    else .unknown

/-- `op_type` of `intercept_tool_call`. -/
def interceptedType (sql : String) : String :=
  let word := Py.leadingWord wide sql.toList
  let opType := if word = [] then "UNKNOWN" else String.ofList (Py.upper word)
  if opType ∈ ["SELECT", "INSERT", "UPDATE", "DELETE"] then opType else "DDL"

/-- `is_write` of `quick_check`. -/
def isWrite (sql : String) : Bool :=
  (keyword? wide ["INSERT", "UPDATE", "DELETE", "TRUNCATE", "DROP", "ALTER", "CREATE"] sql).isSome

/-! ## The classifiers on one text -/

/-- The first word of the text, in upper case. -/
def firstKeyword (sql : String) : List Char := Py.upper (Py.leadingWord wide sql.toList)

variable {wide} {sql : String}

/-- A keyword is matched when it is the first word in upper case. -/
theorem keyword?_of_firstKeyword {keywords : List String} {keyword : String}
    (hmem : keyword ∈ keywords) (hexpand : Py.isUnexpanded keyword.toList = true)
    (h : firstKeyword wide sql = keyword.toList) :
    keyword? wide keywords sql = some (Py.leadingWord wide sql.toList) := by
  have hmatch := Py.matchesWord_of_upper hexpand h
  unfold keyword?
  exact if_pos (List.any_eq_true.mpr ⟨keyword, hmem, hmatch⟩)

/-- The type that a first word in upper case stands for. -/
def keywordType (word : List Char) : OperationType :=
  if word = "SELECT".toList then .select
  else if word = "INSERT".toList then .insert
  else if word = "UPDATE".toList then .update
  else if word = "DELETE".toList then .delete
  else if word ∈ ["TRUNCATE", "DROP", "ALTER", "CREATE"].map String.toList then .ddl
  else .unknown

theorem keywordType_eq_unknown {word : List Char} (h : word ∉ dmlKeywords.map String.toList) :
    keywordType word = .unknown := by
  have hne : ∀ keyword ∈ dmlKeywords, word ≠ keyword.toList := fun keyword hmem heq =>
    h (heq ▸ List.mem_map_of_mem hmem)
  unfold keywordType
  rw [if_neg (hne "SELECT" (by decide)), if_neg (hne "INSERT" (by decide)),
    if_neg (hne "UPDATE" (by decide)), if_neg (hne "DELETE" (by decide)), if_neg]
  intro hddl
  obtain ⟨keyword, hmem, heq⟩ := List.mem_map.mp hddl
  exact hne keyword (List.mem_of_mem_drop (i := 4) hmem) heq.symm

/-- INTAKE reads the type off the first word: the other texts that its pattern matches have no
keyword as their upper case. -/
theorem detectOperationType_eq :
    detectOperationType wide sql = keywordType (firstKeyword wide sql) := by
  by_cases hkeyword : firstKeyword wide sql ∈ dmlKeywords.map String.toList
  · obtain ⟨keyword, hmem, heq⟩ := List.mem_map.mp hkeyword
    have hexpand : ∀ keyword ∈ dmlKeywords, Py.isUnexpanded keyword.toList = true := by decide
    have hmatch := keyword?_of_firstKeyword hmem (hexpand keyword hmem) heq.symm
    have hall : ∀ keyword ∈ dmlKeywords, ∀ word : String, word = keyword →
        (if word = "SELECT" then OperationType.select
          else if word = "INSERT" then .insert
          else if word = "UPDATE" then .update
          else if word = "DELETE" then .delete
          else if word ∈ ["TRUNCATE", "DROP", "ALTER", "CREATE"] then .ddl
          else .unknown) = keywordType keyword.toList := by
      simp only [forall_eq]
      decide
    unfold detectOperationType
    rw [hmatch]
    dsimp only
    rw [← firstKeyword, ← heq]
    exact hall keyword hmem _ String.ofList_toList
  · rw [keywordType_eq_unknown hkeyword]
    have hne : ∀ keyword ∈ dmlKeywords, String.ofList (firstKeyword wide sql) ≠ keyword := by
      intro keyword hmem heq
      refine hkeyword (List.mem_map.mpr ⟨keyword, hmem, ?_⟩)
      rw [← heq, String.toList_ofList]
    unfold detectOperationType
    cases hmatch : keyword? wide dmlKeywords sql with
    | none => rfl
    | some word =>
      have hword : word = Py.leadingWord wide sql.toList := by
        unfold keyword? at hmatch
        dsimp only at hmatch
        split_ifs at hmatch
        exact (Option.some.inj hmatch).symm
      dsimp only
      rw [hword, ← firstKeyword, if_neg (hne "SELECT" (by decide)),
        if_neg (hne "INSERT" (by decide)), if_neg (hne "UPDATE" (by decide)),
        if_neg (hne "DELETE" (by decide)), if_neg]
      exact fun hddl => hne _ (List.mem_of_mem_drop (i := 4) hddl) rfl

theorem detectOperationType_select_iff :
    detectOperationType wide sql = .select ↔ firstKeyword wide sql = "SELECT".toList := by
  rw [detectOperationType_eq]
  unfold keywordType
  by_cases h : firstKeyword wide sql = "SELECT".toList
  · rw [if_pos h]
    exact iff_of_true rfl h
  · rw [if_neg h]
    refine iff_of_false ?_ h
    split_ifs <;> decide

/-- `DROP` and `TRUNCATE` have no type of their own in INTAKE. -/
theorem detectOperationType_ddl
    (h : firstKeyword wide sql = "DROP".toList ∨ firstKeyword wide sql = "TRUNCATE".toList) :
    detectOperationType wide sql = .ddl := by
  rw [detectOperationType_eq]
  rcases h with h | h <;> rw [h] <;> rfl

theorem interceptedType_of_firstKeyword {keyword : String} (hne : keyword.toList ≠ [])
    (h : firstKeyword wide sql = keyword.toList) :
    interceptedType wide sql =
      if keyword ∈ ["SELECT", "INSERT", "UPDATE", "DELETE"] then keyword else "DDL" := by
  have hword : Py.leadingWord wide sql.toList ≠ [] := by
    intro hempty
    rw [firstKeyword, hempty] at h
    exact hne h.symm
  unfold interceptedType
  dsimp only
  rw [if_neg hword, ← firstKeyword, h, String.ofList_toList]

theorem interceptedType_select_iff :
    interceptedType wide sql = "SELECT" ↔ firstKeyword wide sql = "SELECT".toList := by
  constructor
  · intro h
    unfold interceptedType at h
    dsimp only at h
    by_cases hword : Py.leadingWord wide sql.toList = []
    · rw [if_pos hword, if_neg (by decide)] at h
      exact absurd h (by decide)
    · rw [if_neg hword] at h
      split_ifs at h
      · rw [firstKeyword, ← h, String.toList_ofList]
      · exact absurd h (by decide)
  · intro h
    rw [interceptedType_of_firstKeyword (by decide) h]
    rfl

/-- Nor in the proxy. -/
theorem interceptedType_ddl
    (h : firstKeyword wide sql = "DROP".toList ∨ firstKeyword wide sql = "TRUNCATE".toList) :
    interceptedType wide sql = "DDL" := by
  rcases h with h | h <;> rw [interceptedType_of_firstKeyword (by decide) h] <;> rfl

/-- A text that begins with `SELECT` is no write. -/
theorem isWrite_of_select (h : firstKeyword wide sql = "SELECT".toList) :
    isWrite wide sql = false := by
  have hselect : Py.matchesWord "SELECT".toList (Py.leadingWord wide sql.toList) = true :=
    (Py.matchesWord_iff_upper (by decide) (by decide) _).mpr h
  have hnone : (["INSERT", "UPDATE", "DELETE", "TRUNCATE", "DROP", "ALTER", "CREATE"].any
      fun keyword => Py.matchesWord keyword.toList (Py.leadingWord wide sql.toList)) = false := by
    cases hword : Py.leadingWord wide sql.toList with
    | nil =>
      rw [hword] at hselect
      cases hselect
    | cons c word =>
      rw [hword] at hselect
      have hfirst : Py.matchesLetter 'S' c = true := (Bool.and_eq_true_iff.mp hselect).1
      -- the long s counts as an S for `IGNORECASE`, and begins no other keyword
      have hothers : ("IUDTAC".toList.all fun k => !Py.matchesLetter k c) = true := by
        have hc : c = 'S' ∨ c = 's' ∨ c = 'ſ' := by
          simpa [Py.matchesLetter, or_assoc] using hfirst
        rcases hc with rfl | rfl | rfl <;> decide
      have hmismatch : ∀ keyword ∈ ["INSERT", "UPDATE", "DELETE", "TRUNCATE", "DROP", "ALTER",
          "CREATE"], ∃ k rest, keyword.toList = k :: rest ∧ k ∈ "IUDTAC".toList := by
        simp
      rw [List.any_eq_false]
      intro keyword hmem hmatch
      obtain ⟨k, rest, hk, hkmem⟩ := hmismatch keyword hmem
      have hfalse : Py.matchesLetter k c = false := by
        simpa using List.all_eq_true.mp hothers k hkmem
      rw [hk, Py.matchesWord, hfalse] at hmatch
      cases hmatch
  unfold isWrite keyword?
  dsimp only
  rw [hnone]
  rfl

end Classifiers
