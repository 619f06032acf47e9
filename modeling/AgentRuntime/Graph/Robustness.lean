import AgentRuntime.Graph.Evidence
import AgentRuntime.Graph.Build
import AgentRuntime.Graph.Routing

/-!
# Research on any data

The node `_research` with readers that may raise. Where they do not, it is the node of the graph. The metadata
of the request, the port and the parameters of an address, a date near the ends of the calendar, a lone
surrogate, deep nesting: each can end the node with an exception, and nothing else can.
-/

namespace AgentRuntime.Graph
open Orchestration Python

/-- What `_research` calls for its queries. -/
structure ToolSide (ρ : Type) where
  /-- source `select_tools` -/
  selectTools : ToolRequest → RuntimeInventory → (metadata : JsonObject) → (limit : Nat) →
    Except GraphError (List ToolRoutingDecision)
  /-- source `ToolExecutor.execute`, by the positions of the query and of the candidate -/
  execute : Nat → Nat → ToolRoutingDecision → JsonObject → ExecutionBudget →
    Except Tools.ToolError ρ × ExecutionBudget
  /-- source `evidence_from_tool_result` -/
  read : ρ → (evidenceId runId taskId : String) → Option String → (toolName query : String) →
    Except GraphError EvidenceItem
  /-- `result.error` -/
  error : ρ → Option String

section Loops

variable {ρ : Type} (agent : ChatAgent) (tools : ToolSide ρ) (round : ResearchRound)

/-- The inner loop of `_research`. -/
def tryCandidatesReading (queryIndex : Nat) (query : String) :
    List ToolRoutingDecision → Nat → Findings → ExecutionBudget →
      Except ResearchStop Findings × ExecutionBudget
  | [], _, findings, budget => (.ok findings, budget)
  | candidate :: rest, index, findings, budget =>
    let failed (error : String) : Findings :=
      { findings with failures := findings.failures ++ [(candidate.name, error)] }
    match tools.execute queryIndex index candidate round.metadata budget with
    | (.error (.executionDenied message), budget) | (.error (.approvalRequired message), budget) =>
      tryCandidatesReading queryIndex query rest (index + 1) (failed message) budget
    | (.error (.budgetExceeded exc), budget) => (.error (.exceeded exc), budget)
    | (.error .timeout, budget) => (.error (.escaped (.raised "TimeoutError")), budget)
    | (.error .cancelled, budget) => (.error (.escaped .cancelled), budget)
    | (.error (.client type), budget) => (.error (.escaped (.raised type)), budget)
    | (.ok result, budget) =>
      let evidenceId := "research-" ++ round.taskId ++ "-" ++ toString round.rounds ++ "-" ++
        toString queryIndex
      match tools.read result evidenceId round.runId round.taskId
        (some (agent.router.queryFingerprint query)) candidate.name query with
      | .error error => (.error (.escaped error), budget)
      | .ok record =>
        if record.eligibleForClaimSupport then
          (.ok { findings with
            evidence := findings.evidence ++ [record]
            successfulTools := findings.successfulTools ++ [candidate.name] }, budget)
        else
          let error := match tools.error result with
            | some error => if error = "" then "tool failed" else error
            | none => "tool failed"
          tryCandidatesReading queryIndex query rest (index + 1) (failed error) budget

/-- The outer loop of `_research`. -/
def runQueriesReading (candidates : String → Except GraphError (List ToolRoutingDecision)) :
    List String → Nat → Findings → ExecutionBudget → Except ResearchStop Findings × ExecutionBudget
  | [], _, findings, budget => (.ok findings, budget)
  | query :: rest, index, findings, budget =>
    match candidates query with
    | .error error => (.error (.escaped error), budget)
    | .ok decisions =>
      match tryCandidatesReading agent tools round index query decisions 0 findings budget with
      | (.error stop, budget) => (.error stop, budget)
      | (.ok findings, budget) => runQueriesReading candidates rest (index + 1) findings budget

end Loops

namespace ChatAgent

variable {ρ : Type} (agent : ChatAgent)

/-- The actions that the last verification requires. -/
def requiredActions (state : AgentGraphState) : List String :=
  match state.verification with
  | some report => report.requiredActions
  | none => []

/-- What the loops of `_research` read of the round. -/
def researchRound (state : AgentGraphState) (task : PlanTask) : ResearchRound where
  runId := state.evidenceRunId
  taskId := if task.id = "" then "task-" ++ toString state.taskIndex else task.id
  rounds := state.researchRounds + 1
  metadata := state.metadata

/-- The tools for a query of the round. -/
def candidates {ρ : Type} (tools : ToolSide ρ) (state : AgentGraphState) (task : PlanTask) (query : String) :
    Except GraphError (List ToolRoutingDecision) :=
  tools.selectTools ⟨state.message, task, requiredActions state, query⟩ state.inventory state.metadata 3

/-- source `_research`, with readers that may raise -/
def researchReading (tools : ToolSide ρ) (now : Time) (state : AgentGraphState) (budget : ExecutionBudget) :
    Metered AgentGraphState :=
  let rounds := state.researchRounds + 1
  let budget := setResearchRounds rounds budget
  if !agent.settings.mcpEnabled then
    (.ok ({ state with researchRounds := rounds }.stop
      "external evidence is required but MCP is disabled"), budget)
  else if agent.settings.agentMaxResearchRounds < rounds then
    (.ok (state.stop "maximum research rounds exceeded"), budget)
  else
    match state.currentTask with
    | .error error => (.error error, budget)
    | .ok task =>
      let round := researchRound state task
      let queries := agent.router.buildResearchQueries now state.message task (requiredActions state)
        agent.settings.researchMaxQueriesPerTask
      match runQueriesReading agent tools round (candidates tools state task) queries 1
        ⟨state.evidence, [], []⟩ budget with
      | (.error (.exceeded exc), budget) => (.ok (state.stop exc.message), budget)
      | (.error (.escaped error), budget) => (.error error, budget)
      | (.ok findings, budget) => (concludeResearch state round queries findings, budget)

/-- The tools of the graph, where neither the router nor the readers raise. -/
def toolSide (world : World) : ToolSide Tools.MCPToolResult where
  selectTools request inventory metadata limit :=
    .ok (agent.router.selectTools request.userRequest request.task request.requiredActions inventory metadata
      limit request.query)
  execute query candidate decision metadata budget :=
    let execution := Tools.execute agent.lower (world.tools query candidate) decision.name
      decision.arguments metadata budget
    (execution.result, execution.budget)
  read result evidenceId runId taskId queryId toolName query :=
    .ok (evidenceFromToolResult agent.reader result evidenceId runId taskId queryId toolName query)
  error result := result.error

section SameNode

variable {agent} {world : World} {round : ResearchRound}

lemma tryCandidatesReading_graph {queryIndex : Nat} {query : String} (decisions : List ToolRoutingDecision)
    (index : Nat) (findings : Findings) (budget : ExecutionBudget) :
    tryCandidatesReading agent (agent.toolSide world) round queryIndex query decisions index findings budget =
      tryCandidates agent round queryIndex query (world.tools queryIndex) decisions index findings budget := by
  induction decisions generalizing index findings budget with
  | nil => rfl
  | cons candidate rest ih =>
    simp only [tryCandidatesReading, tryCandidates, toolSide]
    generalize Tools.execute agent.lower (world.tools queryIndex index) candidate.name candidate.arguments
      round.metadata budget = execution
    obtain ⟨result, budget, calls⟩ := execution
    cases result with
    | error error =>
      cases error with
      | executionDenied message | approvalRequired message => exact ih _ _ _
      | _ => rfl
    | ok result =>
      dsimp only
      split
      · rfl
      · exact ih _ _ _

lemma runQueriesReading_graph {candidates : String → List ToolRoutingDecision} (queries : List String)
    (index : Nat) (findings : Findings) (budget : ExecutionBudget) :
    runQueriesReading agent (agent.toolSide world) round (fun query => .ok (candidates query)) queries index
        findings budget =
      runQueries agent round candidates world.tools queries index findings budget := by
  induction queries generalizing index findings budget with
  | nil => rfl
  | cons query rest ih =>
    simp only [runQueriesReading, runQueries, tryCandidatesReading_graph]
    generalize tryCandidates _ _ _ _ _ _ _ _ _ = tried
    obtain ⟨answer, budget⟩ := tried
    cases answer with
    | error stop => rfl
    | ok findings => exact ih _ _ _

/-- Where the readers do not raise, it is the node of the graph. -/
lemma researchReading_graph {state : AgentGraphState} {budget : ExecutionBudget} :
    agent.researchReading (agent.toolSide world) world.now state budget =
      agent.research world state budget := by
  have selected (task : PlanTask) : candidates (agent.toolSide world) state task = fun query =>
      .ok (agent.router.selectTools state.message task (requiredActions state) state.inventory state.metadata
        3 query) := rfl
  simp only [researchReading, research, selected, runQueriesReading_graph]
  rfl

end SameNode

end ChatAgent

section Handed

variable {ρ : Type}

/-- What the executor hands to a round: its results in order, and whether the meter refused an attempt. -/
structure Handed (ρ : Type) where
  results : List ρ
  exceeded : Bool
  budget : ExecutionBudget

/-- The results for the candidates of a query, up to the first that is `ok`. A refusal is no result. -/
def handedCandidates (tools : ToolSide ρ) (ok : ρ → Bool) (metadata : JsonObject) (queryIndex : Nat) :
    List ToolRoutingDecision → Nat → ExecutionBudget → Handed ρ
  | [], _, budget => ⟨[], false, budget⟩
  | candidate :: rest, index, budget =>
    match tools.execute queryIndex index candidate metadata budget with
    | (.error (.executionDenied _), budget) | (.error (.approvalRequired _), budget) =>
      handedCandidates tools ok metadata queryIndex rest (index + 1) budget
    | (.error _, budget) => ⟨[], true, budget⟩
    | (.ok result, budget) =>
      if ok result then ⟨[result], false, budget⟩
      else
        let later := handedCandidates tools ok metadata queryIndex rest (index + 1) budget
        ⟨result :: later.results, later.exceeded, later.budget⟩

/-- The results for the queries of a round, where tools can be selected. -/
def handedQueries (tools : ToolSide ρ) (ok : ρ → Bool) (metadata : JsonObject)
    (candidates : String → Except GraphError (List ToolRoutingDecision)) :
    List String → Nat → ExecutionBudget → Handed ρ
  | [], _, budget => ⟨[], false, budget⟩
  | query :: rest, index, budget =>
    match candidates query with
    | .error _ => ⟨[], false, budget⟩
    | .ok decisions =>
      let handed := handedCandidates tools ok metadata index decisions 0 budget
      if handed.exceeded then handed
      else
        let later := handedQueries tools ok metadata candidates rest (index + 1) handed.budget
        ⟨handed.results ++ later.results, later.exceeded, later.budget⟩

/-- The executor returns, refuses, or is refused by the meter: it raises nothing that the node does not
    catch. -/
def ToolSide.Returns (tools : ToolSide ρ) : Prop :=
  ∀ query index candidate metadata budget error,
    (tools.execute query index candidate metadata budget).1 = .error error →
      error ≠ .timeout ∧ error ≠ .cancelled ∧ ∀ type, error ≠ .client type

/-- A result supports claims when it is `ok`, and reading it depends on nothing else. Whether tools can be
    selected depends on the inventory and the metadata. -/
structure ToolSide.Reads (tools : ToolSide ρ) (ok : ρ → Bool) (Readable : ρ → Prop)
    (selects : RuntimeInventory → JsonObject → Bool) : Prop where
  eligible : ∀ result evidenceId runId taskId queryId toolName query record,
    tools.read result evidenceId runId taskId queryId toolName query = .ok record →
      record.eligibleForClaimSupport = ok result
  readable : ∀ result evidenceId runId taskId queryId toolName query,
    (∃ record, tools.read result evidenceId runId taskId queryId toolName query = .ok record) ↔
      Readable result
  selectable : ∀ request inventory metadata limit,
    (∃ decisions, tools.selectTools request inventory metadata limit = .ok decisions) ↔
      selects inventory metadata = true

/-- What a loop comes to for what was handed to it. -/
inductive LoopEnds (Readable : ρ → Prop) (handed : Handed ρ) :
    Except ResearchStop Findings × ExecutionBudget → Prop where
  | completed {findings : Findings} :
    (∀ result ∈ handed.results, Readable result) → handed.exceeded = false →
    LoopEnds Readable handed (.ok findings, handed.budget)
  | exceeded {exc : BudgetExceeded} :
    (∀ result ∈ handed.results, Readable result) → handed.exceeded = true →
    LoopEnds Readable handed (.error (.exceeded exc), handed.budget)
  | raised {result : ρ} {error : GraphError} {budget : ExecutionBudget} :
    result ∈ handed.results → ¬ Readable result →
    LoopEnds Readable handed (.error (.escaped error), budget)

variable {agent : ChatAgent} {tools : ToolSide ρ} {ok : ρ → Bool} {Readable : ρ → Prop}
  {selects : RuntimeInventory → JsonObject → Bool} {round : ResearchRound}

/-- Readable results that were handed over before change nothing. -/
lemma LoopEnds.append {front : List ρ} (readable : ∀ result ∈ front, Readable result) {later : Handed ρ}
    {answer : Except ResearchStop Findings × ExecutionBudget} (ends : LoopEnds Readable later answer) :
    LoopEnds Readable ⟨front ++ later.results, later.exceeded, later.budget⟩ answer := by
  have all (rest : ∀ result ∈ later.results, Readable result) :
      ∀ result ∈ front ++ later.results, Readable result := by
    intro result mem
    obtain mem | mem := List.mem_append.mp mem
    · exact readable result mem
    · exact rest result mem
  cases ends with
  | completed rest going => exact .completed (all rest) going
  | exceeded rest refused => exact .exceeded (all rest) refused
  | raised mem unreadable => exact .raised (List.mem_append_right front mem) unreadable

lemma tryCandidatesReading_ends (returns : tools.Returns) (reads : tools.Reads ok Readable selects)
    {queryIndex : Nat} {query : String} (decisions : List ToolRoutingDecision) (index : Nat)
    (findings : Findings) (budget : ExecutionBudget) :
    LoopEnds Readable (handedCandidates tools ok round.metadata queryIndex decisions index budget)
      (tryCandidatesReading agent tools round queryIndex query decisions index findings budget) := by
  induction decisions generalizing index findings budget with
  | nil => exact .completed (List.forall_mem_nil _) rfl
  | cons candidate rest ih =>
    have caught := returns queryIndex index candidate round.metadata budget
    simp only [tryCandidatesReading, handedCandidates]
    generalize tools.execute queryIndex index candidate round.metadata budget = execution at caught ⊢
    obtain ⟨answer, budget⟩ := execution
    cases answer with
    | error error =>
      cases error with
      | executionDenied message | approvalRequired message => exact ih _ _ _
      | budgetExceeded exc => exact .exceeded (List.forall_mem_nil _) rfl
      | timeout => exact absurd rfl (caught _ rfl).1
      | cancelled => exact absurd rfl (caught _ rfl).2.1
      | client type => exact absurd rfl ((caught _ rfl).2.2 type)
    | ok result =>
      dsimp only
      have eligible := reads.eligible result
      have readable := reads.readable result
      generalize reading : tools.read result _ _ _ _ _ _ = answer
      cases answer with
      | error error =>
        have unreadable : ¬ Readable result := by
          intro given
          obtain ⟨record, read⟩ := (readable _ _ _ _ _ _).mpr given
          cases reading.symm.trans read
        refine .raised ?_ unreadable
        split <;> exact List.mem_cons_self
      | ok record =>
        have front : ∀ other ∈ [result], Readable other :=
          List.forall_mem_singleton.mpr ((readable _ _ _ _ _ _).mp ⟨record, reading⟩)
        dsimp only
        rw [eligible _ _ _ _ _ _ _ reading]
        cases ok result with
        | true => exact .completed front rfl
        | false => exact .append front (ih _ _ _)

/-- The loops end as the results that the executor hands over allow. -/
lemma runQueriesReading_ends (returns : tools.Returns) (reads : tools.Reads ok Readable selects)
    {candidates : String → Except GraphError (List ToolRoutingDecision)} (queries : List String)
    (selected : queries ≠ [] → ∀ query, ∃ decisions, candidates query = .ok decisions)
    (index : Nat) (findings : Findings) (budget : ExecutionBudget) :
    LoopEnds Readable (handedQueries tools ok round.metadata candidates queries index budget)
      (runQueriesReading agent tools round candidates queries index findings budget) := by
  induction queries generalizing index findings budget with
  | nil => exact .completed (List.forall_mem_nil _) rfl
  | cons query rest ih =>
    have all := selected (List.cons_ne_nil query rest)
    obtain ⟨decisions, chosen⟩ := all query
    have tried := @tryCandidatesReading_ends ρ agent tools ok Readable selects round returns reads index query
      decisions 0 findings budget
    simp only [runQueriesReading, handedQueries, chosen]
    generalize tryCandidatesReading agent tools round index query decisions 0 findings budget =
      answer at tried ⊢
    cases tried with
    | completed readable going =>
      simp only [going, Bool.false_eq_true, if_false]
      exact .append readable (ih (fun _ => all) _ _ _)
    | exceeded readable refused =>
      simp only [refused, if_true]
      exact .exceeded readable refused
    | raised mem unreadable =>
      refine .raised ?_ unreadable
      split
      · exact mem
      · exact List.mem_append_left _ mem

/-- Where no tools can be selected, the first query ends the loop. -/
lemma runQueriesReading_stops {candidates : String → Except GraphError (List ToolRoutingDecision)}
    {queries : List String} (nonempty : queries ≠ [])
    (fails : ∀ query, ¬ ∃ decisions, candidates query = .ok decisions)
    (index : Nat) (findings : Findings) (budget : ExecutionBudget) :
    ∃ error, runQueriesReading agent tools round candidates queries index findings budget =
      (.error (.escaped error), budget) := by
  cases queries with
  | nil => exact absurd rfl nonempty
  | cons query rest =>
    rw [runQueriesReading]
    cases chosen : candidates query with
    | error error => exact ⟨error, rfl⟩
    | ok decisions => exact absurd ⟨decisions, chosen⟩ (fails query)

/-- What is handed over is what the executor returned. -/
lemma handedCandidates_mem {metadata : JsonObject} {queryIndex index : Nat} {decisions : List ToolRoutingDecision}
    {budget : ExecutionBudget} {result : ρ}
    (mem : result ∈ (handedCandidates tools ok metadata queryIndex decisions index budget).results) :
    ∃ index candidate budget, (tools.execute queryIndex index candidate metadata budget).1 = .ok result := by
  induction decisions generalizing index budget with
  | nil => cases mem
  | cons candidate rest ih =>
    rw [handedCandidates] at mem
    split at mem
    · exact ih mem
    · exact ih mem
    · cases mem
    · next other budget' executed =>
      have returned : (tools.execute queryIndex index candidate metadata budget).1 = .ok other := by
        rw [executed]
      split at mem
      · cases List.mem_singleton.mp mem
        exact ⟨index, candidate, budget, returned⟩
      · cases mem with
        | head => exact ⟨index, candidate, budget, returned⟩
        | tail _ mem => exact ih mem

lemma handedQueries_mem {metadata : JsonObject}
    {candidates : String → Except GraphError (List ToolRoutingDecision)} {queries : List String} {index : Nat}
    {budget : ExecutionBudget} {result : ρ}
    (mem : result ∈ (handedQueries tools ok metadata candidates queries index budget).results) :
    ∃ query index candidate budget, (tools.execute query index candidate metadata budget).1 = .ok result := by
  induction queries generalizing index budget with
  | nil => cases mem
  | cons query rest ih =>
    rw [handedQueries] at mem
    split at mem
    · cases mem
    · dsimp only at mem
      split at mem
      · exact ⟨index, handedCandidates_mem mem⟩
      · obtain mem | mem := List.mem_append.mp mem
        · exact ⟨index, handedCandidates_mem mem⟩
        · exact ih mem

end Handed

/-- The reader of a result that has been read. -/
def Reading.reader (reading : Reading) : EvidenceReader where
  result _ _ _ := reading
  content _ := emptyReading
  entryId _ _ := ""

/-- source `evidence_from_tool_result` -/
def Interpreter.evidenceFromToolResult (python : Interpreter) (now : Time) (result : ToolResult)
    (evidenceId runId taskId : String) (queryId : Option String) (toolName query : String) :
    Except GraphError EvidenceItem :=
  (python.read now result query).map fun reading =>
    Graph.evidenceFromToolResult reading.reader
      { tool := toolName, ok := result.ok, data := .null, error := result.error.map PyStr.shown }
      evidenceId runId taskId queryId toolName query

/-- Tools are selected, and what an executor returns is read, as Python does. -/
def Interpreter.toolSide (python : Interpreter) (text : PythonText) (now : Time)
    (execute : Nat → Nat → ToolRoutingDecision → JsonObject → ExecutionBudget →
      Except Tools.ToolError ToolResult × ExecutionBudget) : ToolSide ToolResult where
  selectTools request inventory metadata limit :=
    (Routing.selectTools text request inventory metadata limit).map (List.map RankedTool.decision)
  execute := execute
  read := python.evidenceFromToolResult now
  error result := result.error.map PyStr.shown

/-- Tools can be selected: there is none to make arguments up for, or the number of pages is finite. -/
def selectable (text : PythonText) (inventory : RuntimeInventory) (metadata : JsonObject) : Bool :=
  !(Routing.buildsArguments text inventory && Routing.infinite (metadata.get? "pages"))

/-- `metadata.setdefault("research_failures", []).extend` is there: the field is missing, or a list. -/
def listsFailures (metadata : JsonObject) : Bool :=
  match metadata.get? "research_failures" with
  | none | some (.arr _) => true
  | some _ => false

namespace ChatAgent

variable {agent : ChatAgent} {python : Interpreter} {state : AgentGraphState} {budget : ExecutionBudget}

lemma reads_results (python : Interpreter) (text : PythonText) (now : Time)
    (execute : Nat → Nat → ToolRoutingDecision → JsonObject → ExecutionBudget →
      Except Tools.ToolError ToolResult × ExecutionBudget) :
    (python.toolSide text now execute).Reads ToolResult.ok python.Readable (selectable text) where
  eligible result evidenceId runId taskId queryId toolName query record reading := by
    simp only [Interpreter.toolSide, Interpreter.evidenceFromToolResult] at reading
    cases read : python.read now result query with
    | error error =>
      rw [read] at reading
      cases reading
    | ok found =>
      rw [read] at reading
      cases reading
      rfl
  readable result evidenceId runId taskId queryId toolName query := by
    rw [← @Interpreter.read_ok python now result query]
    simp only [Interpreter.toolSide, Interpreter.evidenceFromToolResult]
    cases python.read now result query <;> simp [Except.map]
  selectable request inventory metadata limit := by
    rw [selectable, Bool.not_eq_true', ← @Routing.selectTools_ok text request inventory metadata limit]
    simp only [Interpreter.toolSide]
    cases Routing.selectTools text request inventory metadata limit <;> simp [Except.map]

lemma concludeResearch_returns {round : ResearchRound} {queries : List String} {findings : Findings} :
    (∃ state', concludeResearch state round queries findings = .ok state') ↔
      listsFailures round.metadata = true := by
  simp only [concludeResearch, recordFailures, listsFailures]
  cases round.metadata.get? "research_failures" with
  | none => cases findings.successfulTools.eraseDups <;> simp
  | some value =>
    cases value with
    | arr earlier => cases findings.successfulTools.eraseDups <;> simp
    | _ => simp

/-- The queries of a round. -/
def researchQueries (agent : ChatAgent) (now : Time) (state : AgentGraphState) (task : PlanTask) : List String :=
  agent.router.buildResearchQueries now state.message task (requiredActions state)
    agent.settings.researchMaxQueriesPerTask

/-- What the executor hands to a round. -/
def handed {ρ : Type} (agent : ChatAgent) (tools : ToolSide ρ) (ok : ρ → Bool) (now : Time)
    (state : AgentGraphState) (task : PlanTask) (budget : ExecutionBudget) : Handed ρ :=
  handedQueries tools ok state.metadata (candidates tools state task) (agent.researchQueries now state task) 1
    (setResearchRounds (state.researchRounds + 1) budget)

/-- What the loops of a round come to. -/
def runRound {ρ : Type} (agent : ChatAgent) (tools : ToolSide ρ) (now : Time) (state : AgentGraphState)
    (task : PlanTask) (budget : ExecutionBudget) : Except ResearchStop Findings × ExecutionBudget :=
  runQueriesReading agent tools (researchRound state task) (candidates tools state task)
    (agent.researchQueries now state task) 1 ⟨state.evidence, [], []⟩
    (setResearchRounds (state.researchRounds + 1) budget)

/-- What `_research` makes of its loops. -/
def finishRound (state : AgentGraphState) (round : ResearchRound) (queries : List String) :
    Except ResearchStop Findings × ExecutionBudget → Metered AgentGraphState
  | (.error (.exceeded exc), budget) => (.ok (state.stop exc.message), budget)
  | (.error (.escaped error), budget) => (.error error, budget)
  | (.ok findings, budget) => (concludeResearch state round queries findings, budget)

section Returns

variable {ρ : Type} {tools : ToolSide ρ} {ok : ρ → Bool} {Readable : ρ → Prop}
variable {selects : RuntimeInventory → JsonObject → Bool} {now : Time} {task : PlanTask}

lemma researchReading_round (enabled : agent.settings.mcpEnabled = true)
    (limit : ¬ agent.settings.agentMaxResearchRounds < state.researchRounds + 1)
    (current : state.currentTask = .ok task) : agent.researchReading tools now state budget =
      finishRound state (researchRound state task) (agent.researchQueries now state task)
        (agent.runRound tools now state task budget) := by
  simp only [researchReading, enabled, Bool.not_true, Bool.false_eq_true, if_false, limit, current]
  rfl

lemma finishRound_ok {round : ResearchRound} {queries : List String} {handed : Handed ρ}
    {answer : Except ResearchStop Findings × ExecutionBudget} (ends : LoopEnds Readable handed answer) :
    (∃ state' budget', finishRound state round queries answer = (.ok state', budget')) ↔
      (∀ result ∈ handed.results, Readable result) ∧
        (handed.exceeded = true ∨ listsFailures round.metadata = true) := by
  cases ends with
  | @completed findings readable going =>
    have concludes := @concludeResearch_returns state round queries findings
    simp only [finishRound, going, Bool.false_eq_true, false_or, ← concludes, Prod.mk.injEq]
    refine ⟨?_, ?_⟩
    · rintro ⟨state', _, concluded, -⟩
      exact ⟨readable, state', concluded⟩
    · rintro ⟨-, state', concluded⟩
      exact ⟨state', _, concluded, rfl⟩
  | exceeded readable refused => exact ⟨fun _ => ⟨readable, .inl refused⟩, fun _ => ⟨_, _, rfl⟩⟩
  | raised mem unreadable =>
    refine ⟨fun returned => ?_, fun all => absurd (all.1 _ mem) unreadable⟩
    simp only [finishRound, Prod.mk.injEq, reduceCtorEq, false_and, exists_false] at returned

/-- Without a server, or beyond the rounds that are allowed, the node returns at once. -/
lemma researchReading_idle
    (idle : agent.settings.mcpEnabled = false ∨
      agent.settings.agentMaxResearchRounds < state.researchRounds + 1) :
    ∃ state' budget', agent.researchReading tools now state budget = (.ok state', budget') := by
  cases enabled : agent.settings.mcpEnabled with
  | false =>
    simp only [researchReading, enabled, Bool.not_false, if_true, Prod.mk.injEq, Except.ok.injEq]
    exact ⟨_, _, rfl, rfl⟩
  | true =>
    have limit := idle.resolve_left (Bool.eq_false_iff.not_left.mpr enabled)
    simp only [researchReading, enabled, Bool.not_true, Bool.false_eq_true, if_false, limit, if_true,
      Prod.mk.injEq, Except.ok.injEq]
    exact ⟨_, _, rfl, rfl⟩

/-- A round that reads something returns when tools can be selected for its queries, it can read what is
    handed to it, and it can keep the failures. -/
lemma runRound_ok (returns : tools.Returns) (reads : tools.Reads ok Readable selects) :
    (∃ state' budget', finishRound state (researchRound state task) (agent.researchQueries now state task)
        (agent.runRound tools now state task budget) = (.ok state', budget')) ↔
      (agent.researchQueries now state task ≠ [] → selects state.inventory state.metadata = true) ∧
        (∀ result ∈ (agent.handed tools ok now state task budget).results, Readable result) ∧
        ((agent.handed tools ok now state task budget).exceeded = true ∨
          listsFailures state.metadata = true) := by
  have selectable (query : String) : (∃ decisions, candidates tools state task query = .ok decisions) ↔
      selects state.inventory state.metadata = true := reads.selectable _ _ _ _
  by_cases selected : agent.researchQueries now state task ≠ [] → selects state.inventory state.metadata = true
  · have ends : LoopEnds Readable (agent.handed tools ok now state task budget)
        (agent.runRound tools now state task budget) :=
      @runQueriesReading_ends ρ agent tools ok Readable selects (researchRound state task) returns reads
        (candidates tools state task) (agent.researchQueries now state task)
        (fun some query => (selectable query).mpr (selected some)) 1 _ _
    rw [finishRound_ok ends]
    exact ⟨fun readable => ⟨selected, readable⟩, And.right⟩
  · obtain ⟨nonempty, fails⟩ := Classical.not_imp.mp selected
    obtain ⟨error, stops⟩ := @runQueriesReading_stops ρ agent tools (researchRound state task)
      (candidates tools state task) (agent.researchQueries now state task) nonempty
      (fun query some => fails ((selectable query).mp some)) 1 ⟨state.evidence, [], []⟩
      (setResearchRounds (state.researchRounds + 1) budget)
    rw [runRound, stops]
    constructor
    · intro returned
      simp only [finishRound, Prod.mk.injEq, reduceCtorEq, false_and, exists_false] at returned
    · intro all
      exact absurd all.1 selected

/-- When a round of research returns, for any way to read the results. -/
lemma researchReading_ok (returns : tools.Returns) (reads : tools.Reads ok Readable selects) :
    (∃ state' budget', agent.researchReading tools now state budget = (.ok state', budget')) ↔
      agent.settings.mcpEnabled = false ∨ agent.settings.agentMaxResearchRounds < state.researchRounds + 1 ∨
        ∃ task, state.currentTask = .ok task ∧
          (agent.researchQueries now state task ≠ [] → selects state.inventory state.metadata = true) ∧
          (∀ result ∈ (agent.handed tools ok now state task budget).results, Readable result) ∧
          ((agent.handed tools ok now state task budget).exceeded = true ∨
            listsFailures state.metadata = true) := by
  by_cases idle : agent.settings.mcpEnabled = false ∨
    agent.settings.agentMaxResearchRounds < state.researchRounds + 1
  · rw [← or_assoc]
    exact ⟨fun _ => .inl idle, fun _ => researchReading_idle idle⟩
  · rw [← or_assoc, or_iff_right idle]
    obtain ⟨off, limit⟩ := not_or.mp idle
    have enabled := Bool.of_not_eq_false off
    cases current : state.currentTask with
    | error error =>
      have stops : agent.researchReading tools now state budget =
          (.error error, setResearchRounds (state.researchRounds + 1) budget) := by
        simp only [researchReading, enabled, Bool.not_true, Bool.false_eq_true, if_false, limit, current]
      simp [stops]
    | ok task =>
      rw [researchReading_round enabled limit current, runRound_ok returns reads]
      simp

end Returns

/-- A round of research returns a state exactly when it reads nothing, or when there is a task, tools can be
    selected, every result that is handed to it is readable, and the field for the failures in the metadata
    is missing or a list, if it comes to that. -/
theorem research_returns {python : Interpreter} {text : PythonText} {now : Time}
    {execute : Nat → Nat → ToolRoutingDecision → JsonObject → ExecutionBudget →
      Except Tools.ToolError ToolResult × ExecutionBudget}
    (returns : (python.toolSide text now execute).Returns) :
    let tools := python.toolSide text now execute
    let handed (task : PlanTask) := agent.handed tools ToolResult.ok now state task budget
    (∃ state' budget', agent.researchReading tools now state budget = (.ok state', budget')) ↔
      agent.settings.mcpEnabled = false ∨ agent.settings.agentMaxResearchRounds < state.researchRounds + 1 ∨
        ∃ task, state.currentTask = .ok task ∧
          (agent.researchQueries now state task ≠ [] → selectable text state.inventory state.metadata = true) ∧
          (∀ result ∈ (handed task).results, python.Readable result) ∧
          ((handed task).exceeded = true ∨ listsFailures state.metadata = true) :=
  researchReading_ok returns (reads_results python text now execute)

section Samples

/-- Python for texts that need none of its tables, with the hash of `timeout`. -/
def plainInterpreter : Interpreter where
  lower text := text
  unquote text := text
  netlocAccepted _ := true
  frames := 900
  dumpsNesting := 900
  strNesting := 900
  floatText _ := "0.0"
  str _ := []
  fromisoformat _ := none
  search _ _ := false
  sha256 _ := "f77d1bb58da886e3cbeebbf35a0b3d217b003506792268052c6a730fbc5ec9bc"
  sha256_given _ := by decide

/-- The result of a tool that did not answer in time. -/
def timeoutResult : ToolResult := ⟨false, .null, some (.ofString "timeout")⟩

/-- An executor whose tools do not answer in time. -/
def timeoutExecutor (_ _ : Nat) (_ : ToolRoutingDecision) (_ : JsonObject) (budget : ExecutionBudget) :
    Except Tools.ToolError ToolResult × ExecutionBudget := (.ok timeoutResult, budget)

/-- An agent with an MCP server. -/
def researchAgent : ChatAgent := sampleAgent { sampleSettings .ollama with mcpEnabled := true }

/-- A task of research, with one tool in the inventory. -/
def researchState (metadata : JsonObject) : AgentGraphState :=
  { sampleState researchAgent.settings with
    plan := some ⟨"goal", [⟨"news", "find news", [], [], []⟩], List.cons_ne_nil _ _⟩
    inventory := ⟨[], [Routing.regionalSearch]⟩
    metadata := metadata }

/-- The executor of the examples raises nothing. -/
lemma timeoutExecutor_returns :
    (plainInterpreter.toolSide Routing.asciiText 0 timeoutExecutor).Returns := by
  intro query index candidate metadata budget error failed
  cases failed

/-- The round of the examples reads what is handed to it. -/
lemma timeoutResult_readable {tools : ToolSide ToolResult} {task : PlanTask} {state : AgentGraphState}
    (executes : tools.execute = timeoutExecutor) :
    ∀ result ∈ (researchAgent.handed tools ToolResult.ok 0 state task budget).results,
      plainInterpreter.Readable result := by
  intro result mem
  obtain ⟨query, index, candidate, budget, returned⟩ := handedQueries_mem mem
  rw [executes] at returned
  cases returned
  have printable : plainInterpreter.Printable none := by
    intro value given
    cases given
  exact {
    payload := Nat.zero_le _
    uriDepth := by decide +kernel
    dateDepth := by decide +kernel
    titleDepth := by decide +kernel
    artifactDepth := by decide +kernel
    uri := by
      intro text parsed given
      cases given
    date := by
      intro text parsed given
      cases given
    title := printable
    artifact := printable
    text := by decide +kernel }

theorem research_returns_sample :
    let tools := plainInterpreter.toolSide Routing.asciiText 0 timeoutExecutor
    let budget := ExecutionBudget.fresh 0 180 8 10 3
    ∃ state' budget', researchAgent.researchReading tools 0 (researchState []) budget =
      (.ok state', budget') := by
  intro tools budget
  apply (research_returns timeoutExecutor_returns).mpr
  right
  right
  refine ⟨⟨"news", "find news", [], [], []⟩, rfl, ?_, timeoutResult_readable rfl, .inr rfl⟩
  intro _
  decide +kernel

/-- With a text in place of the list of failures, the round ends with an exception. -/
theorem research_raises :
    ¬ ∀ (agent : ChatAgent) (python : Interpreter) (text : PythonText) (now : Time) execute
        (state : AgentGraphState) (budget : ExecutionBudget) (task : PlanTask),
      (python.toolSide text now execute).Returns → state.currentTask = .ok task →
        ∃ state' budget', agent.researchReading (python.toolSide text now execute) now state budget =
          (.ok state', budget') := by
  intro returns
  have returned := returns researchAgent plainInterpreter Routing.asciiText 0 timeoutExecutor
    (researchState [("research_failures", .str "none")]) (.fresh 0 180 8 10 3)
    ⟨"news", "find news", [], [], []⟩ timeoutExecutor_returns rfl
  rw [researchReading_ok timeoutExecutor_returns (reads_results _ _ _ _)] at returned
  obtain off | limit | ⟨task, current, -, -, exceeded | lists⟩ := returned
  · revert off
    decide +kernel
  · revert limit
    decide +kernel
  · cases current
    revert exceeded
    decide +kernel
  · revert lists
    decide +kernel

end Samples

end ChatAgent

end AgentRuntime.Graph
