import AgentRuntime.Graph.Models
import AgentRuntime.Graph.Selector
import AgentRuntime.Graph.State

/-!
# The nodes of the graph

Port of the node methods of `ChatAgent` in `graph.py`. A node takes the state and the meter, and what
the outside world answers while it runs (`World`): it returns a new state, or raises. The state updates
that nodes share are named functions on `AgentGraphState`. For each node a lemma lists what its
execution can come to, so that later proofs never unfold a node.
-/

namespace AgentRuntime.Graph
open Orchestration Text

/-- The graph's runtime, as its nodes use it (source `ChatAgent`). -/
structure ChatAgent where
  settings : Settings
  router : RuntimeRouter
  reader : EvidenceReader
  /-- the lowering of letter case in the names of tools and models -/
  lower : String → String

/-- What the outside world answers while one node runs: the time of its first check, the model server
    for each kind of operation, and the tools, by query and candidate. -/
structure World where
  now : Time
  plans : Operation ExecutionPlan
  results : Operation WorkerResult
  reports : Operation VerificationReport
  finalReports : Operation FinalVerificationReport
  texts : Operation String
  tools : Nat → Nat → Tools.Environment

namespace AgentGraphState

/-- source `_current_task`: `state["plan"]["tasks"][state.get("task_index", 0)]` -/
def currentTask (state : AgentGraphState) : Except GraphError PlanTask :=
  match state.plan with
  | none => .error (.raised "KeyError")
  | some plan =>
    match plan.tasks[state.taskIndex]? with
    | some task => .ok task
    | none => .error (.raised "IndexError")

/-- source `_set_next_action` -/
def setNextAction (router : RuntimeRouter) (state : AgentGraphState) :
    Except GraphError AgentGraphState :=
  match state.currentTask with
  | .error error => .error error
  | .ok task =>
    let decision := router.classifyTask state.message task
    let action : NextAction :=
      if decision.requiresExternalEvidence && !state.researchedTaskIds.contains task.id then .research
      else .worker
    .ok { state with nextAction := action, routing := some ⟨decision, action⟩ }

/-- The state with a first plan, in `_plan`. -/
def planned (state : AgentGraphState) (plan : ExecutionPlan) (model : String)
    (evidence : List EvidenceItem) : AgentGraphState :=
  { state with
    plan := some plan
    taskIndex := 0
    taskResults := []
    workerResult := none
    verification := none
    evidence := evidence
    iterations := 0
    researchRounds := 0
    replans := 0
    terminationReason := none
    response := ""
    selectedModels := state.withSelectedModel "plan" model
    selectedTool := none
    selectedTools := ∅
    researchedTaskIds := []
    researchQueries := ∅ }

/-- The state with another plan, in `_replan`. -/
def replanned (state : AgentGraphState) (plan : ExecutionPlan) (model : String) (replans : Nat) :
    AgentGraphState :=
  { state with
    plan := some plan
    taskIndex := 0
    taskResults := []
    workerResult := none
    verification := none
    evidence := []
    researchRounds := 0
    replans := replans
    researchedTaskIds := []
    researchQueries := ∅
    selectedModels := state.withSelectedModel "replan" model }

/-- The state with a worker's result, in `_worker` and `_revise`. -/
def worked (state : AgentGraphState) (node : String) (result : WorkerResult) (model : String) :
    AgentGraphState :=
  { state with
    workerResult := some result
    iterations := state.iterations + 1
    selectedModels := state.withSelectedModel node model
    model := some model }

/-- The state with a verification, in `_verify`. -/
def verified (state : AgentGraphState) (report : VerificationReport)
    (grounding : List ClaimGroundingResult) (model : String) : AgentGraphState :=
  { state with
    verification := some report
    grounding := grounding
    selectedModels := state.withSelectedModel "verify" model }

/-- The state past the current task, in `_advance`. -/
def advanced (state : AgentGraphState) (task : PlanTask) : AgentGraphState :=
  { state with
    taskResults := state.taskResults ++
      [⟨task, state.workerResult, state.verification, state.grounding, state.evidence⟩]
    taskIndex := state.taskIndex + 1
    verification := none
    workerResult := none
    grounding := []
    evidence := []
    researchRounds := 0
    selectedTool := none
    nextAction := .worker }

/-- The state with a final response, in `_finalize`. -/
def finalized (state : AgentGraphState) (response : String) (backend : LlmBackend) (model : String)
    (verificationRequired : Bool) : AgentGraphState :=
  { state with
    response := response
    backend := backend
    model := some model
    finalVerificationRequired := verificationRequired
    finalVerification := none
    finalRevisionRounds := 0
    selectedModels := state.withSelectedModel "finalize" model }

/-- The state with a final verification, in `_verify_final`. -/
def finallyVerified (state : AgentGraphState) (report : FinalVerificationReport) (model : String) :
    AgentGraphState :=
  { state with
    finalVerification := some report
    selectedModels := state.withSelectedModel "verify_final" model }

/-- The state with a revised response, in `_revise_final`. -/
def finallyRevised (state : AgentGraphState) (response : String) (rounds : Nat) (model : String) :
    AgentGraphState :=
  { state with
    response := response
    finalRevisionRounds := rounds
    finalVerification := none
    selectedModels := state.withSelectedModel "revise_final" model }

end AgentGraphState

section Research

/-- What a research round has found so far. -/
structure Findings where
  evidence : List EvidenceItem
  failures : List (String × String) := []
  successfulTools : List String := []

/-- What ends a research round early: a refusal of the meter, or an error that escapes the node. -/
inductive ResearchStop where
  | exceeded (exc : BudgetExceeded)
  | escaped (error : GraphError)

/-- What the loops of `_research` read of the round. -/
structure ResearchRound where
  runId : String
  taskId : String
  rounds : Nat
  metadata : JsonObject

/-- The candidates of one query are tried in order until one finds evidence, in the inner loop of
    `_research`. -/
def tryCandidates (agent : ChatAgent) (round : ResearchRound) (queryIndex : Nat) (query : String)
    (tools : Nat → Tools.Environment) :
    List ToolRoutingDecision → Nat → Findings → ExecutionBudget →
      Except ResearchStop Findings × ExecutionBudget
  | [], _, findings, budget => (.ok findings, budget)
  | candidate :: rest, index, findings, budget =>
    let failed (error : String) : Findings :=
      { findings with failures := findings.failures ++ [(candidate.name, error)] }
    let execution := Tools.execute agent.lower (tools index) candidate.name candidate.arguments
      round.metadata budget
    match execution.result with
    | .error (.executionDenied message) | .error (.approvalRequired message) =>
      tryCandidates agent round queryIndex query tools rest (index + 1) (failed message)
        execution.budget
    | .error (.budgetExceeded exc) => (.error (.exceeded exc), execution.budget)
    | .error .timeout => (.error (.escaped (.raised "TimeoutError")), execution.budget)
    | .error .cancelled => (.error (.escaped .cancelled), execution.budget)
    | .error (.client type) => (.error (.escaped (.raised type)), execution.budget)
    | .ok result =>
      let evidenceId := "research-" ++ round.taskId ++ "-" ++ toString round.rounds ++ "-" ++
        toString queryIndex
      let record := evidenceFromToolResult agent.reader result evidenceId round.runId round.taskId
        (some (agent.router.queryFingerprint query)) candidate.name query
      if record.eligibleForClaimSupport then
        (.ok { findings with
          evidence := findings.evidence ++ [record]
          successfulTools := findings.successfulTools ++ [candidate.name] }, execution.budget)
      else
        let error := match result.error with
          | some error => if error = "" then "tool failed" else error
          | none => "tool failed"
        tryCandidates agent round queryIndex query tools rest (index + 1) (failed error)
          execution.budget

/-- The queries are run in order, in the outer loop of `_research`. -/
def runQueries (agent : ChatAgent) (round : ResearchRound) (candidates : String → List ToolRoutingDecision)
    (tools : Nat → Nat → Tools.Environment) :
    List String → Nat → Findings → ExecutionBudget → Except ResearchStop Findings × ExecutionBudget
  | [], _, findings, budget => (.ok findings, budget)
  | query :: rest, index, findings, budget =>
    match tryCandidates agent round index query (tools index) (candidates query) 0 findings budget with
    | (.error stop, budget) => (.error stop, budget)
    | (.ok findings, budget) =>
      runQueries agent round candidates tools rest (index + 1) findings budget

/-- `metadata.setdefault("research_failures", []).extend(failures)` -/
def recordFailures (metadata : JsonObject) (failures : List (String × String)) :
    Except GraphError JsonObject :=
  let entries := failures.map fun (tool, error) =>
    Json.obj [("tool", .str tool), ("error", .str error)]
  match metadata.get? "research_failures" with
  | none => .ok (metadata.set "research_failures" (.arr entries))
  | some (.arr earlier) => .ok (metadata.set "research_failures" (.arr (earlier ++ entries)))
  | some _ => .error (.raised "AttributeError")

end Research

namespace ChatAgent

variable (agent : ChatAgent) (world : World)

/-- source `_select_model`: the model of the role among the live ones, or the error of the selector -/
def selectModel (role : Role) (inventory : RuntimeInventory) : Except GraphError String :=
  match ModelSelector.resolve agent.settings agent.lower role.text inventory with
  | .ok model => .ok model
  | .error _ => .error (.raised "RuntimeError")

/-- A structured operation of a role: its model is selected, and the operation is run on it. The value
    comes with the model. -/
def roleOperation {α : Type} (schema : String) (role : Role) (state : AgentGraphState)
    (op : Operation α) (budget : ExecutionBudget) : Metered (α × String) :=
  match agent.selectModel role state.inventory with
  | .error error => (.error error, budget)
  | .ok model =>
    match structuredOperation agent.settings schema model op budget with
    | (.error error, budget) => (.error error, budget)
    | (.ok value, budget) => (.ok (value, model), budget)

/-- source `_plan` -/
def plan (state : AgentGraphState) (budget : ExecutionBudget) : Metered AgentGraphState :=
  let adopt (plan : ExecutionPlan) (model : String) :=
    let evidence := evidenceFromMetadata agent.reader state.metadata state.evidenceRunId "request"
    (state.planned plan model evidence).setNextAction agent.router
  match budget.check world.now with
  | .error exc => (.ok (state.stop exc.message), budget)
  | .ok () =>
    match agent.settings.llmBackend with
    | .echo =>
      let task : PlanTask :=
        { id := "t1"
          objective := state.message
          completionCriteria := ["Answer directly and completely"] }
      (adopt ⟨state.message, [task], by simp⟩ "echo", budget)
    | .ollama =>
      match agent.roleOperation "ExecutionPlan" .planner state world.plans budget with
      | (.error (.structuredOutput _ attempted), budget) =>
        (.ok (state.stop (structuredOutputReason "plan" attempted)), budget)
      | (.error error, budget) => (.error error, budget)
      | (.ok (plan, model), budget) => (adopt plan model, budget)

/-- source `_worker` -/
def worker (state : AgentGraphState) (budget : ExecutionBudget) : Metered AgentGraphState :=
  match budget.check world.now with
  | .error exc => (.ok (state.stop exc.message), budget)
  | .ok () =>
    match state.currentTask with
    | .error error => (.error error, budget)
    | .ok task =>
      let routing := agent.router.classifyTask state.message task
      match agent.settings.llmBackend with
      | .echo =>
        let result : WorkerResult :=
          { answer := "Echo mode is active.\n\nMessage received: " ++ state.message }
        (.ok (state.worked "worker" result "echo"), budget)
      | .ollama =>
        match agent.roleOperation "WorkerResult" routing.workerRole state world.results budget with
        | (.error (.structuredOutput _ attempted), budget) =>
          (.ok (state.stop (structuredOutputReason "worker" attempted)), budget)
        | (.error error, budget) => (.error error, budget)
        | (.ok (result, model), budget) => (.ok (state.worked "worker" result model), budget)

/-- source `_termination_report` -/
def terminationReport (exc : BudgetExceeded) : VerificationReport :=
  { verdict := .terminate
    taskComplete := false
    issues := [{ code := "budget_exhausted", description := exc.message, severity := .high }] }

/-- The meter after `budget.verifier_rounds += 1`. -/
def countVerifierRound (budget : ExecutionBudget) : ExecutionBudget :=
  { budget with state.verifierRounds := budget.state.verifierRounds + 1 }

/-- The issues of claims that are not supported, in `_verify`. -/
def groundingIssues (grounding : List ClaimGroundingResult) : List String :=
  (grounding.filter fun item => item.status ≠ .supported).map fun item =>
    "claim_grounding:" ++ item.claimId ++ ":" ++ item.status.text

/-- A pass is downgraded to a revision while claims are not grounded, in `_verify`. -/
def downgraded (report : VerificationReport) (issues : List String) : VerificationReport :=
  if !issues.isEmpty && report.verdict = .pass then
    { report with
      verdict := .revise
      taskComplete := false
      issues := report.issues ++ issues.map fun item =>
        { code := item, description := item, severity := .high } }
  else report

/-- source `_verify` -/
def verify (state : AgentGraphState) (budget : ExecutionBudget) : Metered AgentGraphState :=
  let exhausted (exc : BudgetExceeded) : AgentGraphState :=
    { state.stop exc.message with verification := some (terminationReport exc) }
  let budget := countVerifierRound budget
  match budget.check world.now with
  | .error exc => (.ok (exhausted exc), budget)
  | .ok () =>
    match state.workerResult with
    | none => (.error (.raised "ValidationError"), budget)
    | some workerResult =>
      match state.currentTask with
      | .error error => (.error error, budget)
      | .ok task =>
        let taskId := if task.id = "" then "task" else task.id
        let grounding :=
          groundClaims workerResult.claims state.evidence state.evidenceRunId taskId
        let issues := deterministicOutputIssues workerResult.answer ++ groundingIssues grounding
        let routing := agent.router.classifyTask state.message task
        let finish (report : VerificationReport) (model : String) : AgentGraphState :=
          state.verified (downgraded report (groundingIssues grounding)) grounding model
        match agent.settings.llmBackend with
        | .echo =>
          let report : VerificationReport :=
            { verdict := if issues.isEmpty then .pass else .revise
              taskComplete := issues.isEmpty
              issues := issues.map fun item => { code := item, description := item } }
          (.ok (finish report "echo"), budget)
        | .ollama =>
          match agent.roleOperation "VerificationReport" routing.verifierRole state world.reports
              budget with
          | (.error (.budgetExceeded exc), budget) => (.ok (exhausted exc), budget)
          | (.error error, budget) => (.error error, budget)
          | (.ok (report, model), budget) => (.ok (finish report model), budget)

/-- The meter after `budget.state.revision_rounds += 1`. -/
def countRevisionRound (budget : ExecutionBudget) : ExecutionBudget :=
  { budget with state.revisionRounds := budget.state.revisionRounds + 1 }

/-- source `_revise` -/
def revise (state : AgentGraphState) (budget : ExecutionBudget) : Metered AgentGraphState :=
  let budget := countRevisionRound budget
  match budget.check world.now with
  | .error exc => (.ok (state.stop exc.message), budget)
  | .ok () =>
    match state.currentTask with
    | .error error => (.error error, budget)
    | .ok task =>
      let routing := agent.router.classifyTask state.message task
      match agent.settings.llmBackend with
      | .echo =>
        match state.workerResult with
        | none => (.error (.raised "ValidationError"), budget)
        | some result => (.ok (state.worked "revise" result "echo"), budget)
      | .ollama =>
        match agent.roleOperation "WorkerResult" routing.workerRole state world.results budget with
        | (.error error, budget) => (.error error, budget)
        | (.ok (result, model), budget) => (.ok (state.worked "revise" result model), budget)

/-- The meter after `budget.state.research_rounds = rounds`. -/
def setResearchRounds (rounds : Nat) (budget : ExecutionBudget) : ExecutionBudget :=
  { budget with state.researchRounds := rounds }

/-- The end of `_research`, when its queries have been run. -/
def concludeResearch (state : AgentGraphState) (round : ResearchRound) (queries : List String)
    (findings : Findings) : Except GraphError AgentGraphState :=
  match recordFailures round.metadata findings.failures with
  | .error error => .error error
  | .ok metadata =>
    let queried : AgentGraphState :=
      { state with
        metadata := metadata
        researchRounds := round.rounds
        researchQueries := state.researchQueries.insert round.taskId queries
        evidence := findings.evidence }
    match findings.successfulTools.eraseDups with
    | [] => .ok (queried.stop
        "all compatible read-only MCP research attempts failed; no current evidence was retrieved")
    | tool :: tools => .ok
      { queried with
        researchedTaskIds := (state.researchedTaskIds ++ [round.taskId]).eraseDups
        selectedTool := some tool
        selectedTools := state.selectedTools.insert round.taskId (tool :: tools)
        evidence := deduplicateEvidence findings.evidence
        nextAction := .worker }

/-- source `_research` -/
def research (state : AgentGraphState) (budget : ExecutionBudget) : Metered AgentGraphState :=
  let rounds := state.researchRounds + 1
  let budget := setResearchRounds rounds budget
  if !agent.settings.mcpEnabled then
    (.ok ({ state with researchRounds := rounds }.stop
      "external evidence is required but MCP is disabled"), budget)
  else if agent.settings.agentMaxResearchRounds < rounds then
    (.ok (state.stop "maximum research rounds exceeded"), budget)
  else
    match state.currentTask with
    | .error error => (.error error, budget)
    | .ok task =>
      let requiredActions := match state.verification with
        | some report => report.requiredActions
        | none => []
      let round : ResearchRound :=
        { runId := state.evidenceRunId
          taskId := if task.id = "" then "task-" ++ toString state.taskIndex else task.id
          rounds := rounds
          metadata := state.metadata }
      let queries := agent.router.buildResearchQueries world.now state.message task requiredActions
        agent.settings.researchMaxQueriesPerTask
      let candidates (query : String) := agent.router.selectTools state.message task requiredActions
        state.inventory state.metadata 3 query
      match runQueries agent round candidates world.tools queries 1 ⟨state.evidence, [], []⟩ budget with
      | (.error (.exceeded exc), budget) => (.ok (state.stop exc.message), budget)
      | (.error (.escaped error), budget) => (.error error, budget)
      | (.ok findings, budget) => (concludeResearch state round queries findings, budget)

/-- The meter after `budget.state.replans = replans`. -/
def setReplans (replans : Nat) (budget : ExecutionBudget) : ExecutionBudget :=
  { budget with state.replans := replans }

/-- source `_replan` -/
def replan (state : AgentGraphState) (budget : ExecutionBudget) : Metered AgentGraphState :=
  let replans := state.replans + 1
  let budget := setReplans replans budget
  let adopt (plan : ExecutionPlan) (model : String) :=
    (state.replanned plan model replans).setNextAction agent.router
  if agent.settings.agentMaxReplans < replans then
    (.ok ({ state with replans := replans }.stop "maximum replans exceeded"), budget)
  else
    match agent.settings.llmBackend with
    | .echo =>
      match state.plan with
      | none => (.error (.raised "ValidationError"), budget)
      | some plan => (adopt plan "echo", budget)
    | .ollama =>
      match agent.roleOperation "ExecutionPlan" .planner state world.plans budget with
      | (.error error, budget) => (.error error, budget)
      | (.ok (plan, model), budget) => (adopt plan model, budget)

/-- source `_advance` -/
def advance (state : AgentGraphState) (budget : ExecutionBudget) : Metered AgentGraphState :=
  match state.currentTask with
  | .error error => (.error error, budget)
  | .ok task =>
    let updated := state.advanced task
    if updated.taskIndex < updated.tasks.length then (updated.setNextAction agent.router, budget)
    else (.ok updated, budget)

/-- source `_terminate` -/
def terminate (state : AgentGraphState) : AgentGraphState :=
  { state with
    response := partialResponse state
    backend := agent.settings.llmBackend
    model := some agent.settings.modelGeneral }

/-- The answer of the last task, or of the current one when none is recorded, in `_finalize`. -/
def lastAnswer (state : AgentGraphState) : Except GraphError String :=
  match state.taskResults.getLast? with
  | some result =>
    match result.workerResult with
    | some result => .ok result.answer
    | none => .error (.raised "KeyError")
  | none => .ok ((state.workerResult.map WorkerResult.answer).getD "")

/-- source `_finalize` -/
def finalize (state : AgentGraphState) (budget : ExecutionBudget) : Metered AgentGraphState :=
  let backend := agent.settings.llmBackend
  if state.stopped then (.ok (agent.terminate state), budget)
  else if backend = .ollama ∧ 1 < state.taskResults.length then
    match agent.selectModel .synthesis state.inventory with
    | .error error => (.error error, budget)
    | .ok model =>
      match textOperation world.texts budget with
      | (.error .cancelled, budget) => (.error .cancelled, budget)
      | (.error error, budget) =>
        (.ok (agent.terminate (state.stop ("final synthesis failed: " ++ error.typeName))), budget)
      | (.ok response, budget) =>
        (.ok (state.finalized response backend model agent.settings.finalVerificationEnabled), budget)
  else
    match lastAnswer state with
    | .error error => (.error error, budget)
    | .ok answer =>
      let model := match state.model with
        | some model => if model = "" then agent.settings.modelGeneral else model
        | none => agent.settings.modelGeneral
      (.ok (state.finalized answer backend model false), budget)

/-- source `_verify_final` -/
def verifyFinal (state : AgentGraphState) (budget : ExecutionBudget) : Metered AgentGraphState :=
  match budget.check world.now with
  | .error exc => (.ok (state.stop exc.message), budget)
  | .ok () =>
    match agent.roleOperation "FinalVerificationReport" .reasoning state world.finalReports budget with
    | (.error (.structuredOutput _ attempted), budget) =>
      (.ok (state.stop (structuredOutputReason "final verification" attempted)), budget)
    | (.error error, budget) => (.error error, budget)
    | (.ok (report, model), budget) =>
      let updated := state.finallyVerified report model
      if report.verdict ≠ .pass ∧
          agent.settings.finalMaxRevisionRounds ≤ state.finalRevisionRounds then
        (.ok (updated.stop "final answer could not be independently verified"), budget)
      else (.ok updated, budget)

/-- The meter after `budget.state.final_revision_rounds = rounds`. -/
def setFinalRevisionRounds (rounds : Nat) (budget : ExecutionBudget) : ExecutionBudget :=
  { budget with state.finalRevisionRounds := rounds }

/-- source `_revise_final` -/
def reviseFinal (state : AgentGraphState) (budget : ExecutionBudget) : Metered AgentGraphState :=
  let rounds := state.finalRevisionRounds + 1
  let budget := setFinalRevisionRounds rounds budget
  match budget.check world.now with
  | .error exc => (.ok (state.stop exc.message), budget)
  | .ok () =>
    match agent.selectModel .synthesis state.inventory with
    | .error error => (.error error, budget)
    | .ok model =>
      match textOperation world.texts budget with
      | (.error .cancelled, budget) => (.error .cancelled, budget)
      | (.error error, budget) =>
        (.ok ({ state with finalRevisionRounds := rounds }.stop
          ("final answer revision failed: " ++ error.typeName)), budget)
      | (.ok response, budget) => (.ok (state.finallyRevised response rounds model), budget)

end ChatAgent

end AgentRuntime.Graph
