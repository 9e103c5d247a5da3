import ContraGate.FieldReads
import ContraGate.Gateway

/-!
# The graph with its three agents (`orchestrator/graph.py`)

In `Gateway` an agent may write anything into the fields of its node. Here the nodes ANALYSIS,
CONTEXT_AND_SIM and CONTRACT run the agents that the source runs there, on whatever the servers and
the LLM reply.

An agent is one step. While it waits, only a decision can be written to its contract, and no agent
reads one (`AgentCall.run_decided`), so its reads may be put where it returns.
-/

/-- Settings of the agents. -/
structure AgentSettings where
  analyzer : AnalyzerConfig
  formats : ContractFormats

/-- The call that a node makes, with everything that is replied to it. -/
inductive AgentCall
  /-- `run_analysis`; `written` is what an exception that leaves it leaves in its fields. -/
  | runAnalysis (reader : PostgresTools) (reply : LlmReply) (written : AnalyzerOutputs)
  | runContextSim (memory : MemoryTools) (first second : SandboxTools)
  /-- `run_contract`, likewise. -/
  | runContract (first second : LlmReply) (hex : String) (written : ContractAgentOutputs)

namespace AgentCall

/-- The node that makes the call. -/
def node : AgentCall → AgentNode
  | runAnalysis .. => .analysis
  | runContextSim .. => .contextSim
  | runContract .. => .contract

/-- The contract after the call, and whether the call has returned. -/
def run (agents : AgentSettings) (now : Time) (c : HandoffContract) :
    AgentCall → HandoffContract × Bool
  | runAnalysis reader reply written =>
    match AnalyzerAgent.analyze agents.analyzer reader reply now c with
    | some c' => (c', true)
    | none => ({ c with toAnalyzerOutputs := written }, false)
  | runContextSim memory first second => (ContextSimAgent.run memory first second now c, true)
  | runContract first second hex written =>
    match ContractAgent.run agents.formats first second hex now c with
    | some c' => (c', true)
    | none => ({ c with toContractAgentOutputs := written }, false)

/-- No agent reads the decision. -/
theorem run_decided (agents : AgentSettings) (now : Time) (c : HandoffContract)
    (d : DecisionFields) (call : AgentCall) :
    call.run agents now (c.decided d) =
      ((call.run agents now c).1.decided d, (call.run agents now c).2) := by
  cases call with
  | runAnalysis reader reply written =>
    dsimp only [run]
    rw [AnalyzerAgent.analyze_decided]
    cases AnalyzerAgent.analyze agents.analyzer reader reply now c <;> rfl
  | runContextSim memory first second =>
    dsimp only [run]
    rw [ContextSimAgent.run_decided]
  | runContract first second hex written =>
    dsimp only [run]
    rw [ContractAgent.run_decided]
    cases ContractAgent.run agents.formats first second hex now c <;> rfl

end AgentCall

/-- The step is one of an agent. -/
def GatewayAction.ofAgent : GatewayAction → Bool
  | .task (.agentWrites _) | .task (.agentReturns _) | .task .agentRaises => true
  | _ => false

/-- One step: a node runs its agent, or anything else happens. -/
inductive PipelineAction
  | agent (call : AgentCall) (now : Time)
  | other (a : GatewayAction)

namespace Pipeline

open Gateway

variable (cfg : PipelineConfig) (agents : AgentSettings) (approvalId : String) (manifest : Py.Dict)

/-- A node runs its agent. -/
def runNode (s : Gateway) (call : AgentCall) (now : Time) : Gateway :=
  let result := call.run agents now (s.mem.contracts pipelineContract)
  { s with
    mem := s.mem.modifyContract pipelineContract fun _ => result.1
    task := if result.2 then Graph.afterAgent cfg now call.node else .failed }

/-- The workflow `approvalId`, submitted with `manifest`. -/
def machine : Machine Gateway PipelineAction where
  step s
    | .agent call now =>
      match s.task with
      | .agent node => if node = call.node then some (runNode cfg agents s call now) else none
      | _ => none
    | .other a => if a.ofAgent then none else (Gateway.machine cfg approvalId manifest).step s a

/-! ## A concrete pipeline, for runs that are evaluated -/

def sampleAgents : AgentSettings where
  analyzer := .ascii
  formats := .plain

/-- A memory store that is down. -/
def sampleMemoryTools : MemoryTools where
  semanticSearch _ _ _ := .error "down"
  filterByTableOverlap _ _ := .error "down"
  rerankByOutcome _ := .error "down"

/-- From the start to HUMAN_REVIEW, with no server and no LLM that replies. -/
def toReview : List PipelineAction :=
  [.other (.task (.resume 1)), .other (.task (.generatedId "cg_1" 1)),
    .other (.task (.riskGate ⟨.result .null, 1⟩)),
    .other (.task (.riskGate ⟨.mcpCallError "", 1⟩)), .other (.task (.resume 1)),
    .agent (.runAnalysis (fun _ _ => .mcpCallError "") none {}) 1,
    .agent (.runContextSim sampleMemoryTools (fun _ _ => .otherError) fun _ _ => .otherError) 1,
    .agent (.runContract none none "1" {}) 1]

end Pipeline
