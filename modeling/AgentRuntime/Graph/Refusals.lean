import AgentRuntime.Graph.Build

/-!
# Refusals of the meter

Where a refusal of the meter goes. The check before a node's work, the attempts of the verifier, the tool
calls of a research round and the synthesis record it as a reason to stop; a refusal inside the model
operation of a worker, a revision, another plan or the final verification escapes the graph. `plan` lets
it escape as well, but then nothing is recorded yet.
-/

namespace AgentRuntime.Graph
open Orchestration

namespace ChatAgent

/-- The meter refuses inside the model operation of the node, after the node's own checks: when the
    operation is opened, or when one of its attempts is begun. -/
def RefusedInside (agent : ChatAgent) (world : World) (state : AgentGraphState)
    (budget : ExecutionBudget) (exc : BudgetExceeded) : Node → Prop
  | .worker =>
    agent.settings.llmBackend = .ollama ∧ budget.check world.now = .ok () ∧
      ∃ task, state.currentTask = .ok task ∧
        (agent.roleOperation "WorkerResult" (agent.router.classifyTask state.message task).workerRole
          state world.results budget).1 = .error (.budgetExceeded exc)
  | .revise =>
    agent.settings.llmBackend = .ollama ∧ (countRevisionRound budget).check world.now = .ok () ∧
      ∃ task, state.currentTask = .ok task ∧
        (agent.roleOperation "WorkerResult" (agent.router.classifyTask state.message task).workerRole
          state world.results (countRevisionRound budget)).1 = .error (.budgetExceeded exc)
  | .replan =>
    agent.settings.llmBackend = .ollama ∧ state.replans + 1 ≤ agent.settings.agentMaxReplans ∧
      (agent.roleOperation "ExecutionPlan" .planner state world.plans
        (setReplans (state.replans + 1) budget)).1 = .error (.budgetExceeded exc)
  | .verifyFinal =>
    budget.check world.now = .ok () ∧
      (agent.finalReport world state budget).1 = .error (.budgetExceeded exc)
  | _ => False

variable {agent : ChatAgent} {world : World} {state state' : AgentGraphState}
variable {budget budget' : ExecutionBudget} {exc : BudgetExceeded}

/-- Looking up the current task is not refused by the meter. -/
lemma currentTask_error {error : GraphError} (h : state.currentTask = .error error) :
    error ≠ .budgetExceeded exc := by
  simp only [AgentGraphState.currentTask] at h
  split at h
  · cases h
    exact GraphError.noConfusion
  · split at h <;> cases h
    exact GraphError.noConfusion

/-- Choosing the next action is not refused by the meter. -/
lemma setNextAction_error {router : RuntimeRouter} {error : GraphError}
    (h : state.setNextAction router = .error error) : error ≠ .budgetExceeded exc := by
  simp only [AgentGraphState.setNextAction] at h
  split at h
  · next failed =>
    cases h
    exact currentTask_error failed
  · cases h

/-- A result that is known to be an error. -/
lemma metered_error {α : Type} {metered : Metered α} {error : GraphError}
    (h : metered.1 = .error error) : metered = (.error error, metered.2) := Prod.ext h rfl

/-- A worker raises a refusal exactly when it comes from inside its operation. -/
lemma worker_refused :
    (agent.worker world state budget).1 = .error (.budgetExceeded exc) ↔
      RefusedInside agent world state budget exc .worker := by
  constructor
  · intro h
    simp only [worker] at h
    split at h
    · cases h
    · next passed =>
      split at h
      · next failed => exact absurd (Except.error.inj h) (currentTask_error failed)
      · next task current =>
        split at h
        · cases h
        · next backend =>
          split at h
          · cases h
          · next refused =>
            cases h
            exact ⟨backend, passed, task, current, congrArg Prod.fst refused⟩
          · cases h
  · rintro ⟨ollama, passed, task, current, refused⟩
    simp only [worker, passed, current, ollama]
    rw [metered_error refused]

/-- A revision raises a refusal exactly when it comes from inside its operation. -/
lemma revise_refused :
    (agent.revise world state budget).1 = .error (.budgetExceeded exc) ↔
      RefusedInside agent world state budget exc .revise := by
  constructor
  · intro h
    simp only [revise] at h
    split at h
    · cases h
    · next passed =>
      split at h
      · next failed => exact absurd (Except.error.inj h) (currentTask_error failed)
      · next task current =>
        split at h
        · split at h <;> cases h
        · next backend =>
          split at h
          · next refused =>
            cases h
            exact ⟨backend, passed, task, current, congrArg Prod.fst refused⟩
          · cases h
  · rintro ⟨ollama, passed, task, current, refused⟩
    simp only [revise, passed, current, ollama]
    rw [metered_error refused]

/-- Replanning raises a refusal exactly when it comes from inside its operation. -/
lemma replan_refused :
    (agent.replan world state budget).1 = .error (.budgetExceeded exc) ↔
      RefusedInside agent world state budget exc .replan := by
  constructor
  · intro h
    simp only [replan] at h
    split at h
    · cases h
    · next within =>
      split at h
      · split at h
        · cases h
        · exact absurd rfl (setNextAction_error h)
      · next backend =>
        split at h
        · next refused =>
          cases h
          exact ⟨backend, Nat.not_lt.mp within, congrArg Prod.fst refused⟩
        · exact absurd rfl (setNextAction_error h)
  · rintro ⟨ollama, within, refused⟩
    simp only [replan, Nat.not_lt.mpr within, if_false, ollama]
    rw [metered_error refused]

/-- The final verification raises a refusal exactly when it comes from inside its operation. -/
lemma verifyFinal_refused :
    (agent.verifyFinal world state budget).1 = .error (.budgetExceeded exc) ↔
      RefusedInside agent world state budget exc .verifyFinal := by
  constructor
  · intro h
    simp only [verifyFinal] at h
    split at h
    · cases h
    · next passed =>
      split at h
      · cases h
      · next refused =>
        cases h
        exact ⟨passed, congrArg Prod.fst refused⟩
      · split at h <;> cases h
  · rintro ⟨passed, refused⟩
    simp only [verifyFinal, passed]
    rw [show agent.roleOperation _ _ _ _ _ = _ from metered_error refused]

/-- Verification never raises a refusal: its check and its operation record it. -/
lemma verify_not_refused :
    (agent.verify world state budget).1 ≠ .error (.budgetExceeded exc) := by
  intro h
  simp only [verify] at h
  split at h
  · cases h
  · split at h
    · cases h
    · split at h
      · next failed => exact absurd (Except.error.inj h) (currentTask_error failed)
      · split at h
        · cases h
        · split at h
          · cases h
          · next other _ => exact other _ (Except.error.inj h)
          · cases h

/-- What escapes a research round is no refusal. -/
lemma tryCandidates_escaped {round : ResearchRound} {queryIndex : Nat} {query : String}
    {tools : Nat → Tools.Environment} {candidates : List ToolRoutingDecision} {index : Nat}
    {findings : Findings} {error : GraphError}
    (h : (tryCandidates agent round queryIndex query tools candidates index findings budget).1 =
      .error (.escaped error)) :
    error ≠ .budgetExceeded exc := by
  induction candidates generalizing index findings budget with
  | nil => cases h
  | cons candidate rest ih =>
    simp only [tryCandidates] at h
    split at h
    · exact ih h
    · exact ih h
    · cases h
    · cases h
      exact GraphError.noConfusion
    · cases h
      exact GraphError.noConfusion
    · cases h
      exact GraphError.noConfusion
    · split at h
      · cases h
      · exact ih h

/-- Research never raises a refusal: the node records it. -/
lemma research_not_refused :
    (agent.research world state budget).1 ≠ .error (.budgetExceeded exc) := by
  have queries : ∀ {round candidates tools list index findings budget error},
      (runQueries agent round candidates tools list index findings budget).1 =
        .error (.escaped error) → error ≠ .budgetExceeded exc := by
    intro round candidates tools list
    induction list with
    | nil => exact fun h => nomatch h
    | cons query rest ih =>
      intro index findings budget error h
      simp only [runQueries] at h
      split at h
      · next tried =>
        cases h
        exact tryCandidates_escaped (congrArg Prod.fst tried)
      · exact ih h
  intro h
  simp only [research] at h
  split at h
  · cases h
  · split at h
    · cases h
    · split at h
      · next failed => exact absurd (Except.error.inj h) (currentTask_error failed)
      · split at h
        · cases h
        · next escaped =>
          exact queries (congrArg Prod.fst escaped) (Except.error.inj h)
        · simp only [concludeResearch, recordFailures] at h
          split at h
          · next failed =>
            split at failed
            · cases failed
            · cases failed
            · cases failed
              cases h
          · split at h <;> cases h

/-- Advancing never raises a refusal. -/
lemma advance_not_refused : (agent.advance state budget).1 ≠ .error (.budgetExceeded exc) := by
  intro h
  simp only [advance] at h
  split at h
  · next failed => exact absurd (Except.error.inj h) (currentTask_error failed)
  · split at h
    · exact absurd rfl (setNextAction_error h)
    · cases h

/-- Finalizing never raises a refusal: the node stops the run itself. -/
lemma finalize_not_refused :
    (agent.finalize world state budget).1 ≠ .error (.budgetExceeded exc) := by
  intro h
  simp only [finalize] at h
  split at h
  · cases h
  · split at h
    · split at h
      · next unselected => cases (selectModel_error unselected).symm.trans (Except.error.inj h)
      · split at h <;> cases h
    · split at h
      · next failed =>
        simp only [lastAnswer] at failed
        split at failed
        · split at failed <;> cases failed
          cases h
        · cases failed
      · cases h

/-- A refusal escapes from `plan`, or from inside the model operation of a node. -/
lemma run_refused {node : Node}
    (h : (agent.run world state budget node).1 = .error (.budgetExceeded exc)) :
    node = .plan ∨ RefusedInside agent world state budget exc node := by
  cases node with
  | plan => exact .inl rfl
  | research => exact absurd h research_not_refused
  | worker => exact .inr (worker_refused.mp h)
  | verify => exact absurd h verify_not_refused
  | revise => exact .inr (revise_refused.mp h)
  | replan => exact .inr (replan_refused.mp h)
  | advance => exact absurd h advance_not_refused
  | finalize => exact absurd h finalize_not_refused
  | verifyFinal => exact .inr (verifyFinal_refused.mp h)
  | reviseFinal =>
    obtain cancelled | unselected := (reviseFinal_error (metered_error h)).1
    · cases cancelled
    · cases unselected
  | terminate => cases h

/-- A refusal inside the model operation of a node escapes from it. -/
lemma refusedInside_run {node : Node} (h : RefusedInside agent world state budget exc node) :
    (agent.run world state budget node).1 = .error (.budgetExceeded exc) := by
  cases node with
  | worker => exact worker_refused.mpr h
  | revise => exact revise_refused.mpr h
  | replan => exact replan_refused.mpr h
  | verifyFinal => exact verifyFinal_refused.mpr h
  | _ => exact absurd h id

end ChatAgent

end AgentRuntime.Graph
