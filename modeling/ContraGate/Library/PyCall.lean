import ContraGate.Library.PyValue

/-!
# Calling a Python function with keyword arguments

`f(**arguments)`: every argument must be a parameter of `f`, and every parameter without a
default needs an argument.
-/

namespace Py

/-- The `TypeError` of a call. -/
inductive KeywordError
  /-- `got an unexpected keyword argument ..` -/
  | unexpected (name : String)
  /-- `missing .. required positional arguments: ..` -/
  | missing (names : List String)

/-- The values of the parameters, each with its default if it has one. -/
def bindKeywords (parameters : List (String × Option Json)) (arguments : Dict) :
    Except KeywordError (List Json) :=
  match arguments.find? fun argument => !parameters.any (·.1 == argument.1) with
  | some argument => .error (.unexpected argument.1)
  | none =>
    match parameters.filter fun p => p.2.isNone && (arguments.lookup p.1).isNone with
    | [] => .ok (parameters.map fun p => (arguments.lookup p.1).getD (p.2.getD .null))
    | missing => .error (.missing (missing.map (·.1)))

/-- An argument that is no parameter is refused. -/
theorem bindKeywords_of_unexpected {parameters : List (String × Option Json)} {arguments : Dict}
    {name : String} (hgiven : name ∈ arguments.map (·.1)) (hnone : name ∉ parameters.map (·.1)) :
    ∃ refused, bindKeywords parameters arguments = .error (.unexpected refused) := by
  unfold bindKeywords
  split
  · exact ⟨_, rfl⟩
  · rename_i hall
    obtain ⟨argument, hargument, rfl⟩ := List.mem_map.mp hgiven
    have hbound := List.find?_eq_none.mp hall argument hargument
    rw [Bool.not_eq_true', Bool.not_eq_false, List.any_eq_true] at hbound
    obtain ⟨parameter, hparameter, hname⟩ := hbound
    exact absurd (List.mem_map.mpr ⟨parameter, hparameter, eq_of_beq hname⟩) hnone

end Py
