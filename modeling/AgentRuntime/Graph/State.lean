import AgentRuntime.Graph.Services
import AgentRuntime.Lib.Dict

/-!
# The graph's state

Port of `graphs/state.py`, `graphs/routes.py` and of the parts of `graph.py` that read a state without
calling anything: the fresh state of a run, the current task, the routes out of a node and the partial
response of a stopped run. A channel that the source leaves empty (`{}` or `None`) is `none` here; what
only prompts and logs read is left out.
-/

namespace AgentRuntime.Graph
open Orchestration Text

/-- What the next task needs first (source `next_action`, empty before the first plan). -/
inductive NextAction where
  | unset | research | worker
deriving DecidableEq, Repr

/-- source `routing` -/
structure Routing where
  decision : TaskRoutingDecision
  nextAction : NextAction

/-- One entry of `task_results`, as `_advance` records it. -/
structure TaskResult where
  task : PlanTask
  workerResult : Option WorkerResult
  verification : Option VerificationReport
  grounding : List ClaimGroundingResult
  evidence : List EvidenceItem

/-- source `AgentGraphState` -/
structure AgentGraphState where
  message : String
  metadata : JsonObject := []
  runId : String := ""
  executionMeterState : Option ExecutionMeterState := none
  inventory : RuntimeInventory
  routing : Option Routing := none
  selectedModels : Dict String := ∅
  selectedTool : Option String := none
  /-- the tools that found evidence for a task; the source stores a single one by itself -/
  selectedTools : Dict (List String) := ∅
  researchedTaskIds : List String := []
  researchQueries : Dict (List String) := ∅
  plan : Option ExecutionPlan := none
  taskIndex : Nat := 0
  taskResults : List TaskResult := []
  workerResult : Option WorkerResult := none
  verification : Option VerificationReport := none
  grounding : List ClaimGroundingResult := []
  evidence : List EvidenceItem := []
  iterations : Nat := 0
  researchRounds : Nat := 0
  replans : Nat := 0
  nextAction : NextAction := .unset
  response : String := ""
  backend : LlmBackend
  model : Option String := none
  terminationReason : Option String := none
  finalVerificationRequired : Bool := false
  finalVerification : Option FinalVerificationReport := none
  finalRevisionRounds : Nat := 0

/-- source `build_fresh_run_state`, with the run's id that the chat runtime adds -/
def buildFreshRunState (message runId : String) (metadata : JsonObject)
    (inventory : RuntimeInventory) (backend : LlmBackend) : AgentGraphState :=
  { message, metadata, runId, inventory, backend }

namespace AgentGraphState

/-- `bool(state.get("termination_reason"))`: a nonempty reason is recorded. -/
def stopped (state : AgentGraphState) : Bool :=
  match state.terminationReason with
  | some reason => reason ≠ ""
  | none => false

/-- The tasks of the plan in force. -/
def tasks (state : AgentGraphState) : List PlanTask :=
  match state.plan with
  | some plan => plan.tasks
  | none => []

/-- `str(state.get("run_id") or "request")` -/
def evidenceRunId (state : AgentGraphState) : String :=
  if state.runId = "" then "request" else state.runId

/-- source `_with_selected_model` -/
def withSelectedModel (state : AgentGraphState) (node model : String) : Dict String :=
  let selected := state.selectedModels.insert node model
  match state.tasks[state.taskIndex]? with
  | some task => if task.id = "" then selected else selected.insert (node ++ ":" ++ task.id) model
  | none => selected

/-- Record why the run stops (`_state_update(state, termination_reason=...)`). -/
def stop (state : AgentGraphState) (reason : String) : AgentGraphState :=
  { state with terminationReason := some reason }

@[simp] lemma stop_stopped (state : AgentGraphState) (reason : String) :
    (state.stop reason).stopped = decide (reason ≠ "") := rfl

end AgentGraphState

section PartialResponse

/-- The stripped answer of a worker's result, if there is one. -/
def strippedAnswer : Option WorkerResult → String
  | some result => strip result.answer
  | none => ""

/-- The section of a completed task, if it has an answer. -/
def completedSection (index : Nat) (item : TaskResult) : List String :=
  let answer := strippedAnswer item.workerResult
  if answer = "" then [] else ["Completed task " ++ toString index ++ ":\n" ++ answer]

/-- The completed sections of a partial response, with the tasks numbered from `index`. -/
def completedSections (index : Nat) : List TaskResult → List String
  | [] => []
  | item :: items => completedSection index item ++ completedSections (index + 1) items

/-- The section of a candidate response, if there is one. -/
def candidateSection (response : String) : List String :=
  let candidate := strip response
  if candidate = "" then [] else ["Candidate final answer (not fully verified):\n" ++ candidate]

/-- The section of the current task's output, if no other section has it. -/
def currentSection (sections : List String) (current : String) : List String :=
  if current ≠ "" ∧ ∀ text ∈ sections, ¬ Contains text current then
    ["In-progress task output (not fully verified):\n" ++ current]
  else []

/-- The sections of a partial response. -/
def partialSections (state : AgentGraphState) : List String :=
  let sections := completedSections 1 state.taskResults ++ candidateSection state.response
  sections ++ currentSection sections (strippedAnswer state.workerResult)

/-- source `_partial_response` -/
def partialResponse (state : AgentGraphState) : String :=
  let reason := match state.terminationReason with
    | some reason => if reason = "" then "execution stopped" else reason
    | none => "execution stopped"
  let sections := partialSections state
  if sections = [] then
    "Execution stopped safely before a verified answer could be produced: " ++ reason ++ "."
  else
    "\n\n".intercalate sections ++ ("\n\nExecution stopped safely before all work was completed: " ++
      reason ++ ". Treat any in-progress output as unverified.")

end PartialResponse

section Routes

/-- The nodes of the graph, by the names under which `_build_graph` adds them. -/
inductive Node where
  | plan | research | worker | verify | revise | replan | advance | finalize | verifyFinal
  | reviseFinal | terminate
deriving DecidableEq, Repr

/-- The keys that a conditional edge's function returns. -/
inductive Route where
  | research | worker | terminate | proceed | advance | revise | replan | finalize | complete
  | verifyFinal | reviseFinal
deriving DecidableEq, Repr

/-- Stop immediately when a prior node recorded a terminal condition
    (source `after_budgeted_step`). -/
def afterBudgetedStep (state : AgentGraphState) : Route :=
  if state.stopped then .terminate else .proceed

/-- Route the first planned task (source `after_plan`). -/
def afterPlan (state : AgentGraphState) : Route :=
  if state.stopped then .terminate
  else if state.nextAction = .research then .research else .worker

/-- Fail closed and advance only a complete, explicitly passing task
    (source `after_verification`). -/
def afterVerification (state : AgentGraphState) : Route :=
  if state.stopped then .terminate
  else
    match state.verification with
    | none => .terminate
    | some report =>
      match report.verdict with
      | .pass => if report.taskComplete then .advance else .revise
      | .revise => .revise
      | .research => .research
      | .replan => .replan
      | .terminate => .terminate

/-- Route the next task (source `after_advance`). -/
def afterAdvance (state : AgentGraphState) : Route :=
  if state.stopped then .terminate
  else if state.tasks.length ≤ state.taskIndex then .finalize
  else if state.nextAction = .research then .research else .worker

/-- source `_after_finalize` -/
def afterFinalize (state : AgentGraphState) : Route :=
  if state.stopped then .terminate
  else if state.finalVerificationRequired then .verifyFinal else .complete

/-- source `_after_final_verification` -/
def afterFinalVerification (settings : Settings) (state : AgentGraphState) : Route :=
  if state.stopped then .terminate
  else
    let accepted : Bool := match state.finalVerification with
      | some report => decide (report.verdict = .pass) && report.answerComplete
      | none => false
    if accepted then .complete
    else if state.finalRevisionRounds < settings.finalMaxRevisionRounds then .reviseFinal
    else .terminate

end Routes

end AgentRuntime.Graph
