import ContraGate.Library.PrefixCode
import ContraGate.McpServer

/-!
# The API key check (`mcp_servers/base/auth.py`)

`_constant_time_compare` counts characters and compares bytes, and only as many bytes as the
shorter encoding has. That is equality of texts because UTF-8 is prefix-free: texts with equally
many characters of which one encoding is the beginning of the other are the same.
-/

namespace AuthConfig

open PrefixCode

/-- What `result |= x ^ y` has gathered is zero when all pairs are equal. -/
theorem foldl_or_xor_eq_zero {pairs : List (UInt8 × UInt8)} {result : UInt8} :
    pairs.foldl (fun result byte => result ||| (byte.1 ^^^ byte.2)) result = 0 ↔
      result = 0 ∧ ∀ pair ∈ pairs, pair.1 = pair.2 := by
  induction pairs generalizing result with
  | nil => simp
  | cons pair pairs ih =>
    rw [List.foldl_cons, ih, UInt8.or_eq_zero_iff, UInt8.xor_eq_zero_iff, List.forall_mem_cons,
      and_assoc]

/-- The loop asks whether the bytes agree as far as both encodings go. -/
theorem constantTimeCompare_iff_agree {a b : String} :
    constantTimeCompare a b = true ↔ a.length = b.length ∧
      Agree (a.toList.flatMap String.utf8EncodeChar) (b.toList.flatMap String.utf8EncodeChar) := by
  unfold constantTimeCompare
  rw [toList_toUTF8, toList_toUTF8, agree_iff_zip]
  split
  next hlength => exact iff_of_false (by simp) fun h => hlength h.1
  next hlength =>
    rw [beq_iff_eq, foldl_or_xor_eq_zero]
    simp [not_not.mp hlength]

theorem constantTimeCompare_iff {a b : String} : constantTimeCompare a b = true ↔ a = b := by
  rw [constantTimeCompare_iff_agree]
  constructor
  · rintro ⟨hlength, hagree⟩
    apply String.toList_injective
    apply utf8_prefixFree.eq_of_agree _ hagree
    rw [String.length_toList, String.length_toList]
    exact hlength
  · rintro rfl
    exact ⟨rfl, .refl _⟩

/-- Which keys are accepted. -/
theorem validateApiKey_iff {auth : AuthConfig} {key : String} :
    auth.validateApiKey key = true ↔
      auth.useMockAuth = true ∨ auth.validKey = "" ∨ key = auth.validKey := by
  unfold validateApiKey
  rw [Bool.or_eq_true, Bool.or_eq_true, decide_eq_true_eq, constantTimeCompare_iff, or_assoc]

/-- **The comparison of keys is exact.** It is equality of texts, so outside the mock mode and
with a configured key exactly that key is accepted. -/
theorem keyComparison_exact :
    (∀ a b : String, constantTimeCompare a b = true ↔ a = b) ∧
      ∀ auth : AuthConfig, auth.useMockAuth = false → auth.validKey ≠ "" →
        ∀ key, auth.validateApiKey key = true ↔ key = auth.validKey := by
  refine ⟨fun a b => constantTimeCompare_iff, fun auth hmock hkey key => ?_⟩
  rw [validateApiKey_iff]
  simp [hmock, hkey]

/-- A configured key, of five characters and six bytes. -/
def sampleKeys : AuthConfig where
  useMockAuth := false
  validKey := "clés1"

/-- Of two keys with as many characters only the configured one is accepted. -/
theorem keyComparison_exact_sample :
    sampleKeys.validateApiKey "clés1" = true ∧ ¬ sampleKeys.validateApiKey "cles1" = true := by
  have hexact := keyComparison_exact.2 sampleKeys rfl (by decide)
  exact ⟨(hexact _).mpr rfl, fun h => absurd ((hexact _).mp h) (by decide)⟩

end AuthConfig

namespace McpServer

variable {server : McpServer} {apiKey tool : String} {arguments : Py.Dict}

theorem respond_statusCode_ne (outcome : ToolOutcome) : (respond outcome).statusCode ≠ 401 := by
  cases outcome with
  | returned result =>
    simp only [respond]
    split <;> simp [envelope, httpException]
  | foreign typeName => simp [respond, httpException]
  | raised message => simp [respond, httpException]

/-- The route answers 401 to every wrong key, and to no other call. -/
theorem callTool_unauthorized_iff :
    (server.callTool apiKey tool arguments).statusCode = 401 ↔
      server.requireAuth = true ∧ server.useMockAuth = false ∧ server.validKey ≠ "" ∧
        apiKey ≠ server.validKey := by
  have hrejected : server.requireAuth && !server.validateApiKey apiKey ↔
      server.requireAuth = true ∧ server.useMockAuth = false ∧ server.validKey ≠ "" ∧
        apiKey ≠ server.validKey := by
    rw [Bool.and_eq_true, Bool.not_eq_true', ← Bool.not_eq_true, AuthConfig.validateApiKey_iff]
    simp
  rw [← hrejected]
  unfold callTool
  split
  next h => exact iff_of_true rfl h
  next h =>
    refine iff_of_false ?_ h
    split
    · simp [httpException]
    · exact respond_statusCode_ne _

end McpServer
