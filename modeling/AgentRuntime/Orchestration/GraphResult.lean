import AgentRuntime.Graph.Control
import AgentRuntime.Graph.Refusals
import AgentRuntime.Graph.Termination

/-!
# The result of the graph

Port of `_invoke_graph_safely` and `_safe_failure_result` in `orchestration/chat_runtime.py`: an
invocation that reached the end returns its state; one that was left by an exception becomes a safe
failure, whose response is a fixed sentence with the reason. The response of a run that stopped in the
graph keeps the answers recorded so far; the fixed sentence does not.
-/

namespace AgentRuntime.Orchestration
open AgentRuntime.Graph AgentRuntime.Graph.ChatAgent Text Transition

/-- What the graph returns, as far as the response to the caller depends on it. -/
structure GraphResult where
  response : String
  backend : LlmBackend
  model : Option String
  terminationReason : Option String
  taskResults : List TaskResult
  /-- source `_run_status`, which is set to `failed` or left out -/
  runFailed : Bool := false
  /-- source `_run_error_code` -/
  runErrorCode : Option String := none

/-- source `_fallback_message` -/
def fallbackMessage (reason : String) : String :=
  "Execution stopped safely before a verified answer could be produced: " ++ reason ++ "."

/-- source `_safe_failure_result` -/
def safeFailureResult (backend : LlmBackend) (reason errorCode : String) : GraphResult :=
  { response := fallbackMessage reason
    backend := backend
    model := none
    terminationReason := some reason
    taskResults := []
    runFailed := true
    runErrorCode := some errorCode }

/-- The result of an invocation that reached the end is its state. -/
def stateResult (state : AgentGraphState) : GraphResult :=
  { response := state.response
    backend := state.backend
    model := state.model
    terminationReason := state.terminationReason
    taskResults := state.taskResults }

/-- source `_invoke_graph_safely`: nothing while the invocation goes on; only a cancellation is raised -/
def invokeGraphSafely (agent : ChatAgent) (c : Configuration) : Option (Except GraphError GraphResult) :=
  let failure (reason errorCode : String) :=
    some (.ok (safeFailureResult agent.settings.llmBackend reason errorCode))
  match c.position with
  | .node _ => none
  | .finished => some (.ok (stateResult c.state))
  | .aborted (.budgetExceeded exc) => failure exc.message "budget_exhausted"
  | .aborted (.structuredOutput schema attempted) =>
    failure ("structured output failed for " ++ schema ++ " after " ++ toString attempted.length ++
      " bounded attempt(s)") "structured_output_failed"
  | .aborted .cancelled => some (.error .cancelled)
  | .aborted (.raised type) => failure ("agent execution failed: " ++ type) "agent_execution_failed"

/-- The text of the response that `_execute_run` builds from a result. -/
def responseText (result : GraphResult) : String :=
  if result.response = "" then fallbackMessage "empty response" else result.response

/-- The text contains the answer of every result, up to the space around it. -/
def KeepsAnswers (results : List TaskResult) (text : String) : Prop :=
  ∀ item ∈ results, ∀ result, item.workerResult = some result → Contains text (strip result.answer)

/-- The fixed sentence is not empty. -/
lemma fallbackMessage_ne (reason : String) : fallbackMessage reason ≠ "" := by
  intro empty
  exact absurd (String.append_eq_empty_iff.mp empty).2 (by decide +kernel)

section PartialResponse

/-- Every nonempty answer stands in a section. -/
lemma completedSections_keep {items : List TaskResult} {item : TaskResult} {result : WorkerResult}
    (index : Nat) (mem : item ∈ items) (worked : item.workerResult = some result)
    (nonempty : strip result.answer ≠ "") :
    ∃ text ∈ completedSections index items, Contains text (strip result.answer) := by
  induction items generalizing index with
  | nil => cases mem
  | cons head items ih =>
    simp only [completedSections, List.mem_append]
    cases mem with
    | head =>
      refine ⟨_, .inl ?_, (Contains.refl (strip result.answer)).around
        ("Completed task " ++ toString index ++ ":\n") ""⟩
      simp [completedSection, strippedAnswer, worked, nonempty]
    | tail _ mem =>
      obtain ⟨text, inside, contains⟩ := ih (index + 1) mem
      exact ⟨text, .inr inside, contains⟩

/-- The partial response keeps the answer of every recorded result. -/
lemma partialResponse_keeps (state : AgentGraphState) :
    KeepsAnswers state.taskResults (partialResponse state) := by
  intro item mem result worked
  by_cases empty : strip result.answer = ""
  · rw [empty]
    exact List.nil_infix
  · obtain ⟨text, inside, contains⟩ := completedSections_keep 1 mem worked empty
    have kept : text ∈ partialSections state :=
      List.mem_append_left _ (List.mem_append_left _ inside)
    exact (section_in_response kept).trans contains

end PartialResponse

section Runs

variable {agent : ChatAgent} {events : List (Event Configuration World)}
variable {start final : Configuration}

/-- The run stopped early: with a recorded reason, or because a refusal of the meter escaped. -/
def StoppedEarly (final : Configuration) : Prop :=
  (final.position = .finished ∧ final.state.stopped = true) ∨
    ∃ exc, final.position = .aborted (.budgetExceeded exc)

/-- The meter refuses inside the model operation of the node that the step executes. -/
def RefusalEscapes (agent : ChatAgent) (e : Event Configuration World) (exc : BudgetExceeded) :
    Prop :=
  ∃ node, e.pre.position = .node node ∧
    RefusedInside agent e.label e.pre.state e.pre.budget exc node

/-- A refusal that escapes is the end of the run, in the state before the node. -/
lemma refusalEscapes_last (run : Run agent.Step start events final)
    {e : Event Configuration World} {exc : BudgetExceeded} (mem : e ∈ events)
    (escapes : RefusalEscapes agent e exc) :
    final.position = .aborted (.budgetExceeded exc) ∧ final.state = e.pre.state := by
  obtain ⟨node, position, refused⟩ := escapes
  have raised := refusedInside_run refused
  obtain ⟨before, after, rfl⟩ := List.append_of_mem mem
  obtain ⟨middle, -, rest⟩ := run.split
  obtain ⟨rfl, st, rest⟩ := rest.head
  obtain ⟨node', position', -, ⟨state, budget, returned, -⟩ | ⟨error, budget, failed, post⟩⟩ :=
    step_cases st
  all_goals
    rw [position] at position'
    cases position'
  · rw [returned] at raised
    cases raised
  · rw [failed] at raised
    cases raised
    have ended : e.post.position = .aborted (.budgetExceeded exc) := by rw [post]
    rw [(run_over rest (.inr ⟨_, ended⟩)).2]
    exact ⟨ended, by rw [post]⟩

/-- A run that finished with a reason to stop returns the partial response of its last state. -/
lemma finished_keeps (run : Run agent.Step start events final) (going : start.ended = false)
    (finished : final.position = .finished) (stopped : final.state.stopped = true) :
    final.state.response ≠ "" ∧ KeepsAnswers final.state.taskResults final.state.response := by
  obtain rfl | ⟨before, last, rfl⟩ := events.eq_nil_or_concat'
  · cases run
    simp [Configuration.ended, finished] at going
  · obtain ⟨middle, -, rest⟩ := run.split
    obtain ⟨rfl, st, rest⟩ := rest.head
    cases rest
    have terminate : last.pre.position = .node .terminate :=
      st.move.finishes_stopped finished stopped
    obtain ⟨-, other⟩ | ⟨world, -, final_eq⟩ := run_terminate (.single st) terminate
    · rw [other, terminate] at finished
      cases finished
    · rw [final_eq]
      exact ⟨partialResponse_ne last.pre.state, partialResponse_keeps last.pre.state⟩

/-- A refusal that ends a fresh run escaped from a model operation, or nothing was recorded. -/
lemma aborted_refusal {state : AgentGraphState} {now : Time} (fresh : state.taskResults = [])
    (run : Run agent.Step (agent.start state now) events final) {exc : BudgetExceeded}
    (aborted : final.position = .aborted (.budgetExceeded exc)) :
    final.state.taskResults = [] ∨ ∃ e ∈ events, RefusalEscapes agent e exc := by
  obtain rfl | ⟨before, last, rfl⟩ := events.eq_nil_or_concat'
  · cases run
    exact .inl fresh
  · have mem : last ∈ before ++ [last] := List.mem_append_right _ (.head _)
    -- only the start is at `plan`, and it has no results
    have unplanned : last.pre.position = .node .plan → last.pre.state.taskResults = [] := by
      refine (run.invariant_mem (I := fun c => c.position = .node .plan →
        c.state.taskResults = []) (G := fun _ => True) ?_ (fun _ _ => trivial) (fun _ => fresh)
        mem).1
      exact fun e st _ _ position => absurd position st.move.leaves_plan
    obtain ⟨middle, -, rest⟩ := run.split
    obtain ⟨rfl, st, rest⟩ := rest.head
    cases rest
    obtain ⟨node, position, -, ⟨state', budget, -, post⟩ | ⟨error, budget, raised, post⟩⟩ :=
      step_cases st
    · rw [post] at aborted
      exact absurd aborted edge_not_refused
    · rw [post] at aborted
      cases aborted
      obtain rfl | refused := run_refused (congrArg Prod.fst raised)
      · rw [post]
        exact .inl (unplanned position)
      · exact .inr ⟨last, mem, node, position, refused⟩

/-- A run that stops early answers the caller with the answer of every recorded task, exactly when no
    refusal of the meter escaped from inside the model operation of a worker, a revision, another plan
    or the final verification; or else the answers happen to be part of the fixed failure sentence. -/
theorem answers_kept_iff {message runId : String} {metadata : JsonObject}
    {inventory : RuntimeInventory} {now : Time}
    (run : Run agent.Step (agent.start
      (buildFreshRunState message runId metadata inventory agent.settings.llmBackend) now) events final)
    (stopped : StoppedEarly final) :
    ∃ result, invokeGraphSafely agent final = some (.ok result) ∧
      (KeepsAnswers final.state.taskResults (responseText result) ↔
        ∀ e ∈ events, ∀ exc, RefusalEscapes agent e exc →
          KeepsAnswers e.pre.state.taskResults (fallbackMessage exc.message)) := by
  obtain ⟨finished, stopped⟩ | ⟨exc, aborted⟩ := stopped
  · obtain ⟨nonempty, keeps⟩ := finished_keeps run rfl finished stopped
    have text : responseText (stateResult final.state) = final.state.response := if_neg nonempty
    refine ⟨stateResult final.state, by simp only [invokeGraphSafely, finished], ?_⟩
    rw [text]
    refine ⟨fun _ e mem exc escapes => ?_, fun _ => keeps⟩
    have aborted := (refusalEscapes_last run mem escapes).1
    rw [finished] at aborted
    cases aborted
  · let result := safeFailureResult agent.settings.llmBackend exc.message "budget_exhausted"
    have text : responseText result = fallbackMessage exc.message :=
      if_neg (fallbackMessage_ne exc.message)
    refine ⟨result, by simp only [invokeGraphSafely, aborted, result], ?_⟩
    rw [text]
    constructor
    · intro keeps e mem exc' escapes
      obtain ⟨aborted', state⟩ := refusalEscapes_last run mem escapes
      rw [aborted] at aborted'
      cases aborted'
      rwa [← state]
    · intro condition
      obtain none_recorded | ⟨e, mem, escapes⟩ := aborted_refusal rfl run aborted
      · rw [none_recorded]
        exact List.forall_mem_nil _
      · rw [(refusalEscapes_last run mem escapes).2]
        exact condition e mem exc escapes

/-- A world for examples whose clock passes the deadline after the first task. -/
def lateWorld (n : Nat) (_ : Configuration) : World :=
  { sampleWorld 1 ⟨.pass, true, [], []⟩ ⟨.pass, true, [], [], fun _ => rfl⟩ with
    now := if n < 4 then 0 else seconds 200 }

/-- The second worker's check is refused after the deadline, and the first answer is returned. -/
theorem answers_kept_iff_late :
    let agent := sampleAgent (sampleSettings .ollama)
    let start := agent.start (sampleState (sampleSettings .ollama)) 0
    let final := agent.after lateWorld start 6
    ∃ result, invokeGraphSafely agent final = some (.ok result) ∧
      (KeepsAnswers final.state.taskResults (responseText result) ↔
        ∀ e ∈ agent.trace lateWorld start 6, ∀ exc, RefusalEscapes agent e exc →
          KeepsAnswers e.pre.state.taskResults (fallbackMessage exc.message)) :=
  answers_kept_iff (trace_run _ _ 5 (by decide +kernel)) (.inl (by decide +kernel))

/-- Settings with a budget of three model calls. -/
def scarceSettings : Settings :=
  { sampleSettings .ollama with
    executionMaxModelCalls := 3
    modelCalls_bounds := by decide }

/-- With three model calls, the second worker's call is refused inside its operation, and the answer
    of the first task is lost. -/
theorem answers_lost :
    ¬ ∀ (agent : ChatAgent) (message runId : String) (metadata : JsonObject)
      (inventory : RuntimeInventory) (now : Time) (events : List (Event Configuration World))
      (final : Configuration),
      agent.settings.llmBackend = .ollama →
      Run agent.Step (agent.start
        (buildFreshRunState message runId metadata inventory agent.settings.llmBackend) now)
        events final →
      (∃ exc, final.position = .aborted (.budgetExceeded exc)) →
      ∃ result, invokeGraphSafely agent final = some (.ok result) ∧
        KeepsAnswers final.state.taskResults (responseText result) := by
  intro claim
  let agent := sampleAgent scarceSettings
  let start := agent.start (sampleState scarceSettings) 0
  let world (_ : Nat) (_ : Configuration) :=
    sampleWorld 1 ⟨.pass, true, [], []⟩ ⟨.pass, true, [], [], fun _ => rfl⟩
  let final := agent.after world start 5
  have aborted : final.position = .aborted (.budgetExceeded ⟨"model call budget exceeded"⟩) := by
    decide +kernel
  obtain ⟨result, returned, keeps⟩ := claim agent "question" "run" [] ⟨[], []⟩ 0 _ final rfl
    (trace_run _ _ 4 (by decide +kernel)) ⟨_, aborted⟩
  have sentence : responseText result = fallbackMessage "model call budget exceeded" := by
    rw [invokeGraphSafely, aborted] at returned
    cases returned
    exact if_neg (fallbackMessage_ne _)
  rw [sentence] at keeps
  have recorded : ∃ item ∈ final.state.taskResults, item.workerResult = some { answer := "an answer" } := by
    decide +kernel
  obtain ⟨item, mem, worked⟩ := recorded
  exact absurd (keeps item mem _ worked) (by decide +kernel)

end Runs

end AgentRuntime.Orchestration
