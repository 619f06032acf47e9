import AgentRuntime.State.RunRecord

/-!
# Settings

The part of `settings.py` that the graph and the chat runtime read. A field that the source validates
carries its bounds, so a value of `Settings` is one that the validator admits.
-/

namespace AgentRuntime

/-- The model backend (source `llm_backend`). -/
inductive LlmBackend where
  | echo | ollama
deriving DecidableEq, Repr

/-- source `Settings`, with the validator's bounds as fields -/
structure Settings where
  llmBackend : LlmBackend := .echo
  modelPlanner : String
  modelSimple : String := "qwen3.5:2b"
  modelGeneral : String
  modelSearch : String := "qwen3.5:9b"
  modelReasoning : String := "deepseek-r1:8b"
  modelFastReasoning : String := "phi4-mini-reasoning:latest"
  modelHeavy : String := "gemma4:26b-a4b-it-qat"
  modelSynthesis : String := "gemma4:12b-it-qat"
  modelWriter : String := "gemma4:e4b-it-qat"
  modelClassifier : String := "gemma4:e2b-it-qat"
  modelVision : String := "qwen3-vl:4b"
  modelFallback : String
  embeddingModel : String := "qwen3-embedding:0.6b"
  mcpEnabled : Bool := false
  agentMaxIterations : Nat := 4
  agentMaxResearchRounds : Nat := 2
  agentMaxReplans : Nat := 1
  researchMaxQueriesPerTask : Nat := 3
  executionMaxDuration : Time := seconds 180
  executionMaxModelCalls : Nat := 8
  executionMaxToolCalls : Nat := 10
  executionMaxVerifierRounds : Nat := 3
  finalVerificationEnabled : Bool := true
  finalMaxRevisionRounds : Nat := 1
  runLeaseTtlSeconds : Nat := 30
  runLeaseHeartbeatSeconds : Nat := 10
  iterations_bounds : 1 ≤ agentMaxIterations ∧ agentMaxIterations ≤ 10 := by decide
  researchRounds_le : agentMaxResearchRounds ≤ 5 := by decide
  replans_le : agentMaxReplans ≤ 3 := by decide
  queries_bounds : 1 ≤ researchMaxQueriesPerTask ∧ researchMaxQueriesPerTask ≤ 8 := by decide
  duration_bounds : seconds 5 ≤ executionMaxDuration ∧ executionMaxDuration ≤ seconds 1800 := by
    decide
  modelCalls_bounds : 1 ≤ executionMaxModelCalls ∧ executionMaxModelCalls ≤ 50 := by decide
  toolCalls_le : executionMaxToolCalls ≤ 100 := by decide
  verifierRounds_bounds : 1 ≤ executionMaxVerifierRounds ∧ executionMaxVerifierRounds ≤ 10 := by
    decide
  revisionRounds_le : finalMaxRevisionRounds ≤ 3 := by decide
  leaseTtl_bounds : 5 ≤ runLeaseTtlSeconds ∧ runLeaseTtlSeconds ≤ 3600 := by decide
  leaseHeartbeat_bounds : 1 ≤ runLeaseHeartbeatSeconds ∧ runLeaseHeartbeatSeconds ≤ 1200 := by
    decide
  heartbeat_lt_ttl : runLeaseHeartbeatSeconds < runLeaseTtlSeconds := by decide

/-- The text of a backend, as the source stores it. -/
def LlmBackend.text : LlmBackend → String
  | .echo => "echo"
  | .ollama => "ollama"

end AgentRuntime
