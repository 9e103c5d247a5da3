import ContraGate.Library.PySearch
import ContraGate.ReversibilityRules

/-!
# The trigger detector (`sql_analysis_lib/trigger_detector.py`)

A trigger is classified by the text of its function: it is non-transactional when that text calls
a function of an extension that is installed. All patterns for such a call have one form, the
name of the function and an opening parenthesis.
-/

/-- A row of the trigger query. -/
structure TriggerRow where
  triggerName : String
  tableName : String
  tgtype : ℕ
  functionName : String
  functionDef : Option String

/-- The triggers of a database and its extensions. -/
structure TriggerCatalog where
  /-- The rows of the query of `detect_triggers`. -/
  triggers : String → List TriggerRow
  /-- The rows of `SELECT extname FROM pg_extension`. -/
  installedExtensions : List String

/-- What of Python the detector depends on. -/
structure TriggerText where
  /-- The characters beyond ASCII that are letters or digits. -/
  wide : Char → Bool
  cases : Py.CaseMap

namespace TriggerDetector

/-- `_DEFAULT_NON_TRANSACTIONAL_EXTENSIONS`. -/
def defaultNonTransactionalExtensions : List String := ["pg_net", "dblink"]

/-- `_EXTENSION_PATTERNS`, with the names that the patterns call. -/
def extensionPatterns : List (String × List String) :=
  [("pg_net", ["net.http_post", "net.http_get", "net.http_delete", "net.http_collect_response"]),
   ("dblink", ["dblink", "dblink_exec", "dblink_send_query", "dblink_connect"])]

/-- `_decode_timing`. -/
def decodeTiming (tgtype : ℕ) : String :=
  if tgtype.testBit 6 then "INSTEAD OF"
  else if tgtype.testBit 1 then "BEFORE"
  else "AFTER"

/-- `_decode_event`. -/
def decodeEvent (tgtype : ℕ) : String :=
  let events := (if tgtype.testBit 2 then ["INSERT"] else []) ++
    (if tgtype.testBit 3 then ["DELETE"] else []) ++
    (if tgtype.testBit 4 then ["UPDATE"] else []) ++
    (if tgtype.testBit 5 then ["TRUNCATE"] else [])
  if events.isEmpty then "UNKNOWN" else " OR ".intercalate events

example : decodeEvent 12 = "INSERT OR DELETE" := by decide

/-- The text begins with `name\s*\(`. -/
def callFront (name text : List Char) : Bool :=
  match text.dropPrefix? name with
  | some rest => (rest.dropWhile Py.isSpace).head? = some '('
  | none => false

/-- `re.search(r"\bname\s*\(", text)`; `inWord` says whether the text stands behind a character
of a word. -/
def searchCall (wide : Char → Bool) (name : List Char) : Bool → List Char → Bool
  | _, [] => false
  | inWord, c :: text =>
    (inWord != Py.isWord wide c && callFront name (c :: text)) ||
      searchCall wide name (Py.isWord wide c) text

/-- `_detect_extension`. -/
def detectExtension (text : TriggerText) (functionDef : String)
    (extensions installedExtensions : List String) : Option String :=
  let funcLower := text.cases.lower functionDef.toList
  extensions.find? fun ext =>
    installedExtensions.contains ext &&
      ((extensionPatterns.lookup ext).getD [ext]).any fun name =>
        searchCall text.wide name.toList false funcLower

/-- `https?://[^\s'\",)]+` at the front of a text. -/
def urlFront (text : List Char) : Option (List Char) :=
  let inUrl (c : Char) : Bool := !(Py.isSpace c || c == '\'' || c == '"' || c == ',' || c == ')')
  let behind (scheme : String) : Option (List Char) :=
    match text.dropPrefix? scheme.toList with
    | some rest =>
      match rest.takeWhile inUrl with
      | [] => none
      | c :: host => some (scheme.toList ++ c :: host)
    | none => none
  (behind "https://").or (behind "http://")

/-- `_extract_endpoint`: the first URL in the text. -/
def extractEndpoint (functionDef : String) : Option String :=
  (functionDef.toList.tails.findSome? urlFront).map fun url =>
    String.ofList (url.rdropWhile fun c => c == '\'' || c == '"')

example : extractEndpoint "net.http_post('https://x.io/hook', 1)" = some "https://x.io/hook" := by
  decide

variable (text : TriggerText) (conn : TriggerCatalog)

/-- The `TriggerInfo` of a row. -/
def triggerInfo (extensions : List String) (row : TriggerRow) : TriggerInfo :=
  let funcDef := row.functionDef.getD ""
  let ext := detectExtension text funcDef extensions conn.installedExtensions
  { triggerName := .str row.triggerName
    tableName := .str row.tableName
    event := .str (decodeEvent row.tgtype)
    timing := .str (decodeTiming row.tgtype)
    functionName := .str row.functionName
    invokesNonTransactional := ext.isSome
    nonTransactionalExtension := .ofText? ext
    estimatedExternalCalls := none
    targetEndpoint := .ofText? (if ext.isSome then extractEndpoint funcDef else none) }

/-- `detect_triggers`. -/
def detectTriggers (table : String)
    (nonTransactionalExtensions : List String := defaultNonTransactionalExtensions) :
    TriggerAnalysis :=
  let infos := (conn.triggers table).map (triggerInfo text conn nonTransactionalExtensions)
  let nonTransactional := infos.filter (·.invokesNonTransactional)
  { table
    triggers := infos
    hasPermanentSideEffects := !nonTransactional.isEmpty
    nonTransactionalTriggers := nonTransactional }

variable {text conn} {extensions installed : List String} {table : String} {row : TriggerRow}

/-- The detector makes texts. -/
theorem declared_triggerInfo : (triggerInfo text conn extensions row).Declared :=
  ⟨⟨_, rfl⟩, ⟨_, rfl⟩, ⟨_, rfl⟩, ⟨_, rfl⟩, ⟨_, rfl⟩, ⟨_, rfl⟩, ⟨_, rfl⟩⟩

theorem declared_of_mem {info : TriggerInfo}
    (h : info ∈ (detectTriggers text conn table extensions).triggers) : info.Declared := by
  obtain ⟨row, -, rfl⟩ := List.mem_map.mp h
  exact declared_triggerInfo

/-- Only an extension of the list is detected, and only if it is installed. -/
theorem mem_of_detectExtension {functionDef ext : String}
    (h : detectExtension text functionDef extensions installed = some ext) :
    ext ∈ extensions ∧ ext ∈ installed := by
  refine ⟨List.mem_of_find?_eq_some h, ?_⟩
  have hfound := List.find?_some h
  rw [Bool.and_eq_true] at hfound
  exact List.contains_iff_mem.mp hfound.1

/-- A non-transactional trigger names an extension of the list. -/
theorem extension_of_nonTransactional {info : TriggerInfo}
    (h : info ∈ (detectTriggers text conn table extensions).nonTransactionalTriggers) :
    ∃ ext ∈ extensions, info.nonTransactionalExtension = .str ext := by
  obtain ⟨hinfo, hinvokes⟩ := List.mem_filter.mp h
  obtain ⟨row, -, rfl⟩ := List.mem_map.mp hinfo
  obtain ⟨ext, hext⟩ := Option.isSome_iff_exists.mp hinvokes
  refine ⟨ext, (mem_of_detectExtension hext).1, ?_⟩
  show Py.Json.ofText? (detectExtension ..) = _
  rw [hext]
  rfl

end TriggerDetector
