import ContraGate.HandoffSchema
import ContraGate.Library.JsonCodec
import ContraGate.Library.PyFormat

/-!
# The feedback loop of AUDIT (`_trigger_feedback_loop_stub` in `orchestrator/states/audit.py`)

After an operation with a simulated row count, the accuracy of the estimate is recorded and the
confidence in it lowered. Float arithmetic is the exact result, rounded: `toFloat` says how. (Where
the loop raises, on a confidence that is no number or a quotient too large for a float, AUDIT ends
as it does for any other error.)
-/

namespace Audit

variable (toFloat : ℚ → ℚ)

/-- `round(x, places)`. -/
def round (places : ℕ) (x : ℚ) : ℚ := toFloat (Py.roundHalfEven (x * 10 ^ places) / 10 ^ places)

/-- `round(x, places)` of any float. -/
def roundFloat (places : ℕ) : Py.Float → Py.Float
  | .finite x => .finite (round toFloat places x)
  | x => x

/-- A number as an operand of float arithmetic. -/
def asFloat : Py.Number → Py.Float
  | .float x => x
  | .bool b => .finite (if b then 1 else 0)
  | .int n => .finite (toFloat n)

/-- `(actual - estimated) / estimated` of floats, for a positive estimate. -/
def relativeError : Py.Float → Py.Float → Py.Float
  | .finite actual, .finite estimated =>
    .finite (toFloat (toFloat (actual - estimated) / estimated))
  | .inf negative, .finite _ => .inf negative
  | _, _ => .nan

/-- `(actual - estimated) / estimated`; the quotient of integers is rounded once. -/
def accuracy (actual estimated : Py.Number) : Py.Float :=
  match actual.whole?, estimated.whole? with
  | some a, some e => .finite (toFloat ((a - e) / e))
  | _, _ => relativeError toFloat (asFloat toFloat actual) (asFloat toFloat estimated)

/-- `abs(delta) <= 0.1`. -/
def isClose (delta : Py.Float) : Bool :=
  match delta with
  | .finite x => |x| ≤ toFloat (1 / 10)
  | _ => false

/-- `max(0.0, min(1.0, round(current_confidence + adjustment, 3)))`; `min(1.0, nan)` is `1.0`. -/
def newConfidence (adjustment : ℚ) : Py.Float → Py.Float
  | .finite x => .finite (max 0 (min 1 (round toFloat 3 (toFloat (x + adjustment)))))
  | .nan => .finite 1
  | .inf negative => .finite (if negative then 0 else 1)

/-- `current_confidence`, if it can be calculated with. -/
def currentConfidence (c : HandoffContract) : Option Py.Float :=
  match c.rowConfidence with
  | .null => some (.finite (toFloat (8 / 10)))
  | v => v.num?.map (asFloat toFloat)

/-- `_trigger_feedback_loop_stub`: the accuracy delta and the row confidence that it leaves. -/
def triggerFeedbackLoopStub (c : HandoffContract) : Option (Py.Float × Py.Json) :=
  match c.actualPrimaryRows with
  | none => none
  | some actual =>
    if (Py.Float.finite 0).ge c.estimatedPrimaryRows.value then none
    else
      let delta := accuracy toFloat actual c.estimatedPrimaryRows
      let rounded := roundFloat toFloat 4 delta
      if isClose toFloat delta then some (rounded, c.rowConfidence)
      else
        -- an underestimate counts for more
        let adjustment := if (Py.Float.finite 0).lt delta then -(5 / 100) else -(2 / 100)
        (currentConfidence toFloat c).map fun current =>
          (rounded, .float (newConfidence toFloat (toFloat adjustment) current))

theorem isFinite_newConfidence (adjustment : ℚ) (x : Py.Float) :
    (newConfidence toFloat adjustment x).isFinite = true := by
  cases x <;> rfl

/-- What the feedback loop writes is finite, if what it reads has the declared types. -/
theorem isFinite_triggerFeedbackLoopStub {c : HandoffContract} {delta : Py.Float}
    {confidence : Py.Json} (hestimated : c.estimatedPrimaryRows.isInt = true)
    (hactual : ∀ x ∈ c.actualPrimaryRows, x.isInt = true)
    (hc : c.rowConfidence.isFiniteFloat = true)
    (h : triggerFeedbackLoopStub toFloat c = some (delta, confidence)) :
    delta.isFinite = true ∧ confidence.isFiniteFloat = true := by
  unfold triggerFeedbackLoopStub at h
  split at h
  · cases h
  · rename_i actual hsome
    obtain ⟨a, rfl⟩ := Py.Number.isInt_iff.mp (hactual actual hsome)
    obtain ⟨e, he⟩ := Py.Number.isInt_iff.mp hestimated
    have hfinite : (roundFloat toFloat 4 (accuracy toFloat (.int a) (.int e))).isFinite = true := rfl
    rw [he] at h
    dsimp only at h
    split_ifs at h
    · obtain ⟨rfl, rfl⟩ := Prod.mk.inj (Option.some.inj h)
      exact ⟨hfinite, hc⟩
    all_goals
      obtain ⟨current, -, heq⟩ := Option.map_eq_some_iff.mp h
      obtain ⟨rfl, rfl⟩ := Prod.mk.inj heq
      exact ⟨hfinite, isFinite_newConfidence ..⟩

end Audit
