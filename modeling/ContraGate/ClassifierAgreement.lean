import ContraGate.AnalyzerTools

/-!
# The statement classifiers compared

INTAKE, the proxy and the analyzer each read the operation type off the text. INTAKE and the
proxy take the first run of word characters; the analyzer does so for DDL only, and otherwise
takes everything up to the first white space. `SELECT(1)` is where they part.
-/

namespace AnalyzerTools

variable {cfg : AnalyzerConfig} {sql : String}

/-- The keywords that the analyzer compares with `split()[0]`. -/
def verbs : List String := ["SELECT", "INSERT", "UPDATE", "DELETE"]

/-- White space or the end is what follows the first word. -/
def StandsAlone (wide : Char → Bool) (sql : String) : Prop :=
  ((sql.toList.dropWhile Py.isSpace).dropWhile (Py.isWord wide)).head?.all Py.isSpace = true

instance (wide : Char → Bool) (sql : String) : Decidable (StandsAlone wide sql) :=
  inferInstanceAs (Decidable (_ = true))

/-- The classifiers give one type, and the proxy its value when it is a known one. -/
structure Agree (cfg : AnalyzerConfig) (sql : String) : Prop where
  analyzer : Classifiers.detectOperationType cfg.wide sql = classifyOperationType cfg sql
  proxy : classifyOperationType cfg sql ≠ .unknown →
    Classifiers.interceptedType cfg.wide sql = (classifyOperationType cfg sql).value

/-! ## The two first words -/

/-- The shorter of the two words is the beginning of the longer. -/
theorem firstWord_eq_append (hspaces : Py.SpacesApart cfg.wide) (text : List Char) :
    Py.firstWord text = Py.leadingWord cfg.wide text ++
      ((text.dropWhile Py.isSpace).dropWhile (Py.isWord cfg.wide)).takeWhile
        fun c => !Py.isSpace c := by
  unfold Py.firstWord Py.leadingWord
  generalize text.dropWhile Py.isSpace = text
  have hword : ∀ c ∈ text.takeWhile (Py.isWord cfg.wide), (!Py.isSpace c) = true := by
    intro c hc
    have hc := List.mem_takeWhile_imp hc
    cases hspace : Py.isSpace c with
    | false => rfl
    | true => rw [hspaces c hspace] at hc; cases hc
  conv_lhs => rw [← List.takeWhile_append_dropWhile (p := Py.isWord cfg.wide) (l := text)]
  rw [List.takeWhile_append_of_pos hword]

theorem standsAlone_iff (hspaces : Py.SpacesApart cfg.wide) :
    StandsAlone cfg.wide sql ↔
      Py.firstWord sql.toList = Py.leadingWord cfg.wide sql.toList := by
  rw [firstWord_eq_append hspaces, List.append_right_eq_self]
  unfold StandsAlone
  cases (sql.toList.dropWhile Py.isSpace).dropWhile (Py.isWord cfg.wide) with
  | nil => exact iff_of_true rfl rfl
  | cons c rest =>
    rw [List.takeWhile_cons]
    cases hspace : Py.isSpace c <;> simp [hspace]

/-- A word of the analyzer that is one of the keywords is the one of the other two. -/
theorem firstWord_of_verb (hspaces : Py.SpacesApart cfg.wide) {verb : String} (hverb : verb ∈ verbs)
    (h : Py.upper (Py.firstWord sql.toList) = verb.toList) :
    Py.firstWord sql.toList = Py.leadingWord cfg.wide sql.toList := by
  have hall : ∀ verb ∈ verbs, Py.isUnexpanded verb.toList = true ∧
      verb.toList.all Py.isCapital = true := by decide
  obtain ⟨hexpand, hletters⟩ := hall verb hverb
  have hword : ∀ c ∈ Py.firstWord sql.toList, Py.isWord cfg.wide c = true :=
    Py.isWord_of_matchesWord hletters (Py.matchesWord_of_upper hexpand h)
  -- the rest of the longer word begins with no word character
  rw [← standsAlone_iff hspaces]
  rw [firstWord_eq_append hspaces] at hword
  unfold StandsAlone
  have hhead := List.head?_dropWhile_not (Py.isWord cfg.wide) (sql.toList.dropWhile Py.isSpace)
  cases hrest : (sql.toList.dropWhile Py.isSpace).dropWhile (Py.isWord cfg.wide) with
  | nil => rfl
  | cons c rest =>
    rw [hrest] at hhead hword
    cases hspace : Py.isSpace c with
    | true => exact hspace
    | false =>
      have hc := hword c (by simp [hspace])
      rw [hhead] at hc
      cases hc

/-! ## The analyzer's type -/

theorem ddlKeyword?_iff :
    (Classifiers.keyword? cfg.wide ["DROP", "TRUNCATE", "ALTER", "CREATE"] sql).isSome = true ↔
      Classifiers.firstKeyword cfg.wide sql ∈
        ["TRUNCATE", "DROP", "ALTER", "CREATE"].map String.toList := by
  have hall : ∀ keyword ∈ ["DROP", "TRUNCATE", "ALTER", "CREATE"],
      Py.isPlain keyword.toList = true ∧ Py.isUnexpanded keyword.toList = true := by decide
  have hany : ((["DROP", "TRUNCATE", "ALTER", "CREATE"].any fun keyword =>
      Py.matchesWord keyword.toList (Py.leadingWord cfg.wide sql.toList)) = true) ↔
      Classifiers.firstKeyword cfg.wide sql ∈
        ["TRUNCATE", "DROP", "ALTER", "CREATE"].map String.toList := by
    rw [List.any_eq_true, List.mem_map]
    constructor
    · rintro ⟨keyword, hmem, hmatch⟩
      obtain ⟨hplain, hexpand⟩ := hall keyword hmem
      refine ⟨keyword, ?_, ((Py.matchesWord_iff_upper hplain hexpand _).mp hmatch).symm⟩
      revert hmem
      simp only [List.mem_cons]
      tauto
    · rintro ⟨keyword, hmem, heq⟩
      have hmem' : keyword ∈ ["DROP", "TRUNCATE", "ALTER", "CREATE"] := by
        revert hmem
        simp only [List.mem_cons]
        tauto
      obtain ⟨hplain, hexpand⟩ := hall keyword hmem'
      exact ⟨keyword, hmem', (Py.matchesWord_iff_upper hplain hexpand _).mpr heq.symm⟩
  unfold Classifiers.keyword?
  dsimp only
  rw [← hany]
  split_ifs with h <;> simp [h]

theorem firstKeyword_strip (hspaces : Py.SpacesApart cfg.wide) :
    Classifiers.firstKeyword cfg.wide (String.ofList (Py.strip sql.toList)) =
      Classifiers.firstKeyword cfg.wide sql := by
  unfold Classifiers.firstKeyword
  rw [String.toList_ofList, Py.leadingWord_strip hspaces]

/-- DDL is told from the first run of word characters, the other types from the text up to the
first white space. -/
theorem classifyOperationType_eq (hspaces : Py.SpacesApart cfg.wide) :
    classifyOperationType cfg sql =
      if Classifiers.firstKeyword cfg.wide sql ∈
        ["TRUNCATE", "DROP", "ALTER", "CREATE"].map String.toList then .ddl
      else if Py.upper (Py.firstWord sql.toList) ∈ verbs.map String.toList then
        Classifiers.keywordType (Py.upper (Py.firstWord sql.toList))
      else .unknown := by
  unfold classifyOperationType
  dsimp only
  rw [Py.firstWord_strip]
  by_cases hddl : Classifiers.firstKeyword cfg.wide sql ∈
      ["TRUNCATE", "DROP", "ALTER", "CREATE"].map String.toList
  · rw [if_pos hddl, if_pos]
    rw [ddlKeyword?_iff, firstKeyword_strip hspaces]
    exact hddl
  · rw [if_neg hddl, if_neg (by rwa [ddlKeyword?_iff, firstKeyword_strip hspaces])]
    generalize Py.upper (Py.firstWord sql.toList) = verb
    by_cases hverb : verb ∈ verbs.map String.toList
    · rw [if_pos hverb]
      obtain ⟨verb, hmem, rfl⟩ := List.mem_map.mp hverb
      rw [String.ofList_toList]
      revert verb
      decide
    · have hne : ∀ keyword ∈ verbs, String.ofList verb ≠ keyword := by
        intro keyword hmem heq
        refine hverb (List.mem_map.mpr ⟨keyword, hmem, ?_⟩)
        rw [← heq, String.toList_ofList]
      rw [if_neg hverb, if_neg (hne "DELETE" (by decide)), if_neg (hne "UPDATE" (by decide)),
        if_neg (hne "INSERT" (by decide)), if_neg (hne "SELECT" (by decide))]

/-! ## The comparison -/

/-- The proxy's type is the value of INTAKE's, when that is a known one. -/
theorem interceptedType_eq_value (h : Classifiers.detectOperationType cfg.wide sql ≠ .unknown) :
    Classifiers.interceptedType cfg.wide sql =
      (Classifiers.detectOperationType cfg.wide sql).value := by
  rw [Classifiers.detectOperationType_eq] at h ⊢
  have hkeyword : Classifiers.firstKeyword cfg.wide sql ∈
      Classifiers.dmlKeywords.map String.toList := by
    by_contra hnot
    exact h (Classifiers.keywordType_eq_unknown hnot)
  obtain ⟨keyword, hmem, heq⟩ := List.mem_map.mp hkeyword
  have hall : ∀ keyword ∈ Classifiers.dmlKeywords, keyword.toList ≠ [] ∧
      (if keyword ∈ ["SELECT", "INSERT", "UPDATE", "DELETE"] then keyword else "DDL") =
        (Classifiers.keywordType keyword.toList).value := by decide
  obtain ⟨hne, hvalue⟩ := hall keyword hmem
  rw [Classifiers.interceptedType_of_firstKeyword hne heq.symm, hvalue, ← heq]

/-- **The classifiers agree unless a `SELECT`, `INSERT`, `UPDATE` or `DELETE` is followed by
something else than white space.** -/
theorem agree_iff (hspaces : Py.SpacesApart cfg.wide) :
    Agree cfg sql ↔
      Classifiers.firstKeyword cfg.wide sql ∉ verbs.map String.toList ∨
        StandsAlone cfg.wide sql := by
  have hagree : Agree cfg sql ↔
      Classifiers.detectOperationType cfg.wide sql = classifyOperationType cfg sql :=
    ⟨fun h => h.analyzer, fun h => ⟨h, fun hknown => h ▸ interceptedType_eq_value (h ▸ hknown)⟩⟩
  have hddl : ∀ word ∈ ["TRUNCATE", "DROP", "ALTER", "CREATE"].map String.toList,
      word ∈ Classifiers.dmlKeywords.map String.toList := by decide
  have hverbs : ∀ word ∈ verbs.map String.toList,
      word ∈ Classifiers.dmlKeywords.map String.toList := by decide
  rw [hagree, standsAlone_iff hspaces, Classifiers.detectOperationType_eq,
    classifyOperationType_eq hspaces]
  by_cases halone : Py.firstWord sql.toList = Py.leadingWord cfg.wide sql.toList
  · -- with one word there is one type
    refine iff_of_true ?_ (.inr halone)
    rw [halone, ← Classifiers.firstKeyword]
    generalize Classifiers.firstKeyword cfg.wide sql = word
    by_cases hmem : word ∈ Classifiers.dmlKeywords.map String.toList
    · revert word
      decide
    · rw [Classifiers.keywordType_eq_unknown hmem, if_neg fun h => hmem (hddl word h)]
      split_ifs <;> rfl
  · -- the analyzer's word is none of the four
    have hverb : Py.upper (Py.firstWord sql.toList) ∉ verbs.map String.toList := by
      intro hmem
      obtain ⟨verb, hmem, heq⟩ := List.mem_map.mp hmem
      exact halone (firstWord_of_verb hspaces hmem heq.symm)
    rw [if_neg hverb, or_iff_left halone]
    generalize Classifiers.firstKeyword cfg.wide sql = word
    by_cases hmem : word ∈ Classifiers.dmlKeywords.map String.toList
    · revert word
      decide
    · rw [Classifiers.keywordType_eq_unknown hmem, if_neg fun h => hmem (hddl word h)]
      exact iff_of_true rfl fun h => hmem (hverbs word h)

/-- A statement that begins with a comment has no keyword. -/
theorem agree_iff_comment : Agree .ascii "/* nightly */ DELETE FROM logs" :=
  (agree_iff Py.spacesApart_ascii).mpr (.inl (by decide))

/-- `SELECT(1)` is a `SELECT` for INTAKE and the proxy, and unknown to the analyzer. -/
theorem parenthesis_disagrees :
    ¬ ∀ (cfg : AnalyzerConfig) (sql : String), Py.SpacesApart cfg.wide → Agree cfg sql := by
  intro hall
  have h := (hall .ascii "SELECT(1)" Py.spacesApart_ascii).analyzer
  revert h
  decide

end AnalyzerTools
