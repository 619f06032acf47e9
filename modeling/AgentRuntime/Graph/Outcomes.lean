import AgentRuntime.Graph.Nodes

/-!
# Outcomes of the nodes

What one execution of a node can come to: for each node a lemma on the meter it leaves and one on the
state it returns, so that the proofs about runs never unfold a node. The conditions under which the
verifier itself ends the run and under which a final revision fails are given names here, since the
results about runs are stated with them.
-/

namespace AgentRuntime.Graph
open Orchestration

/-- The plan, the current task and the recorded results are the same. -/
structure SameProgress (before after : AgentGraphState) : Prop where
  plan : after.plan = before.plan
  taskIndex : after.taskIndex = before.taskIndex
  taskResults : after.taskResults = before.taskResults

/-- The state is at the first task of a plan, with nothing recorded. -/
structure AtFirstTask (state : AgentGraphState) : Prop where
  plan : ∃ plan, state.plan = some plan
  taskIndex : state.taskIndex = 0
  taskResults : state.taskResults = []

/-- Stopping changes the reason only. -/
lemma SameProgress.stop (state : AgentGraphState) (reason : String) :
    SameProgress state (state.stop reason) := ⟨rfl, rfl, rfl⟩

/-- A worker's result changes nothing of the progress. -/
lemma SameProgress.worked (state : AgentGraphState) (node : String) (result : WorkerResult)
    (model : String) : SameProgress state (state.worked node result model) := ⟨rfl, rfl, rfl⟩

/-- A verification changes nothing of the progress. -/
lemma SameProgress.verified (state : AgentGraphState) (report : VerificationReport)
    (grounding : List ClaimGroundingResult) (model : String) :
    SameProgress state (state.verified report grounding model) := ⟨rfl, rfl, rfl⟩

/-- A final response changes nothing of the progress. -/
lemma SameProgress.finalized (state : AgentGraphState) (response : String) (backend : LlmBackend)
    (model : String) (required : Bool) :
    SameProgress state (state.finalized response backend model required) := ⟨rfl, rfl, rfl⟩

/-- A final verification changes nothing of the progress. -/
lemma SameProgress.finallyVerified (state : AgentGraphState) (report : FinalVerificationReport)
    (model : String) : SameProgress state (state.finallyVerified report model) := ⟨rfl, rfl, rfl⟩

/-- A final revision changes nothing of the progress. -/
lemma SameProgress.finallyRevised (state : AgentGraphState) (response : String) (rounds : Nat)
    (model : String) : SameProgress state (state.finallyRevised response rounds model) :=
  ⟨rfl, rfl, rfl⟩

/-- A reason about structured output is not empty. -/
lemma structuredOutputReason_ne (what : String) (models : List String) :
    structuredOutputReason what models ≠ "" := by
  intro empty
  have length := congrArg String.length empty
  simp only [structuredOutputReason, String.length_append] at length
  simp at length

/-- The reason of a failed synthesis or revision is not empty. -/
lemma failureReason_ne (what type : String) (nonempty : what ≠ "") :
    what ++ type ≠ "" := by
  intro empty
  exact nonempty (String.append_eq_empty_iff.mp empty).1

namespace AgentGraphState

/-- Choosing the next action changes nothing else. -/
lemma setNextAction_ok {router : RuntimeRouter} {state state' : AgentGraphState}
    (h : state.setNextAction router = .ok state') :
    ∃ action routing, state' = { state with nextAction := action, routing := routing } := by
  simp only [setNextAction] at h
  split at h
  · cases h
  · cases h
    exact ⟨_, _, rfl⟩

/-- The current task is the one at the index, of the plan in force. -/
lemma currentTask_ok {state : AgentGraphState} {task : PlanTask} :
    state.currentTask = .ok task ↔ state.tasks[state.taskIndex]? = some task := by
  simp only [currentTask, tasks]
  cases state.plan with
  | none => simp
  | some plan =>
    simp only
    cases plan.tasks[state.taskIndex]? <;> simp

end AgentGraphState

namespace ChatAgent

variable {agent : ChatAgent} {world : World} {state state' : AgentGraphState}
variable {budget budget' : ExecutionBudget}

section Operations

/-- Selecting a model raises the selector's error only. -/
lemma selectModel_error {role : Role} {inventory : RuntimeInventory} {error : GraphError}
    (h : agent.selectModel role inventory = .error error) : error = .raised "RuntimeError" := by
  simp only [selectModel] at h
  split at h <;> cases h
  rfl

/-- Without a list of live models, every role has one. -/
lemma selectModel_unlisted {inventory : RuntimeInventory} (agent : ChatAgent) (role : Role)
    (unlisted : inventory.modelNames = []) : ∃ model, agent.selectModel role inventory = .ok model := by
  simp only [selectModel, ModelSelector.resolve, unlisted, List.isEmpty_nil, if_true]
  exact ⟨_, rfl⟩

/-- A structured operation of a role gives a value when its model is selected and the operation on that
    model gives one. -/
lemma roleOperation_ok {α : Type} {schema model : String} {role : Role} {op : Operation α} {value : α}
    (h : agent.roleOperation schema role state op budget = (.ok (value, model), budget')) :
    agent.selectModel role state.inventory = .ok model ∧
      structuredOperation agent.settings schema model op budget = (.ok value, budget') := by
  simp only [roleOperation] at h
  split at h
  · cases h
  · next selected =>
    split at h
    · cases h
    · next answered =>
      cases h
      exact ⟨selected, answered⟩

/-- A structured operation of a role is refused by the meter inside the operation. -/
lemma roleOperation_refused {α : Type} {schema : String} {role : Role} {op : Operation α}
    {exc : BudgetExceeded}
    (h : agent.roleOperation schema role state op budget = (.error (.budgetExceeded exc), budget')) :
    ∃ model, structuredOperation agent.settings schema model op budget =
      (.error (.budgetExceeded exc), budget') := by
  simp only [roleOperation] at h
  split at h
  · next failed =>
    cases h
    cases selectModel_error failed
  · split at h
    · next failed =>
      cases h
      exact ⟨_, failed⟩
    · cases h

/-- A value of a role takes at least one attempt. -/
lemma roleOperation_spends {α : Type} {schema model : String} {role : Role} {op : Operation α}
    {value : α} (h : agent.roleOperation schema role state op budget = (.ok (value, model), budget')) :
    budget.state.physicalModelAttempts + 1 ≤ budget'.state.physicalModelAttempts :=
  structuredOperation_spends (roleOperation_ok h).2

/-- A refusal in a structured operation of a role has a text. -/
lemma roleOperation_message {α : Type} {schema : String} {role : Role} {op : Operation α}
    {exc : BudgetExceeded}
    (h : agent.roleOperation schema role state op budget = (.error (.budgetExceeded exc), budget')) :
    exc.message ≠ "" := by
  obtain ⟨model, refused⟩ := roleOperation_refused h
  exact structuredOperation_message refused

lemma roleOperation_meters {α : Type} (schema : String) (role : Role) (op : Operation α) :
    Meters budget (agent.roleOperation schema role state op budget).2 := by
  simp only [roleOperation]
  split
  · exact .refl
  · next model _ =>
    have op := structuredOperation_meters agent.settings schema model op budget
    split <;> next h => rwa [h] at op

end Operations

section Plan

/-- A first plan is adopted, or the run stops. -/
lemma plan_ok (h : agent.plan world state budget = (.ok state', budget')) :
    (∃ reason, reason ≠ "" ∧ state' = state.stop reason) ∨
      AtFirstTask state' ∧ state'.stopped = false := by
  have adopted : ∀ {plan model evidence},
      (state.planned plan model evidence).setNextAction agent.router = .ok state' →
        AtFirstTask state' ∧ state'.stopped = false := by
    intro plan model evidence next
    obtain ⟨action, routing, rfl⟩ := AgentGraphState.setNextAction_ok next
    exact ⟨⟨⟨plan, rfl⟩, rfl, rfl⟩, rfl⟩
  simp only [plan] at h
  split at h
  · next exc refused =>
    cases h
    exact .inl ⟨_, ExecutionBudget.check_message refused, rfl⟩
  · split at h
    · exact .inr (adopted (Prod.mk.inj h).1)
    · split at h
      · cases h
        exact .inl ⟨_, structuredOutputReason_ne _ _, rfl⟩
      · cases h
      · exact .inr (adopted (Prod.mk.inj h).1)

lemma plan_meters : Meters budget (agent.plan world state budget).2 := by
  simp only [plan]
  split
  · exact .refl
  · split
    · exact .refl
    · have op : Meters budget
          (agent.roleOperation "ExecutionPlan" .planner state world.plans budget).2 :=
        roleOperation_meters ..
      split <;> next h => rwa [h] at op

/-- Another plan is adopted, or the run stops. -/
lemma replan_ok (h : agent.replan world state budget = (.ok state', budget')) :
    SameProgress state state' ∧ state'.stopped = true ∨
      AtFirstTask state' ∧ state'.stopped = state.stopped := by
  have adopted : ∀ {plan model replans},
      (state.replanned plan model replans).setNextAction agent.router = .ok state' →
        AtFirstTask state' ∧ state'.stopped = state.stopped := by
    intro plan model replans next
    obtain ⟨action, routing, rfl⟩ := AgentGraphState.setNextAction_ok next
    exact ⟨⟨⟨plan, rfl⟩, rfl, rfl⟩, rfl⟩
  simp only [replan] at h
  split at h
  · cases h
    exact .inl ⟨⟨rfl, rfl, rfl⟩, rfl⟩
  · split at h
    · split at h
      · cases h
      · exact .inr (adopted (Prod.mk.inj h).1)
    · split at h
      · cases h
      · exact .inr (adopted (Prod.mk.inj h).1)

lemma replan_meters : Meters budget (agent.replan world state budget).2 := by
  have counted : Meters budget (setReplans (state.replans + 1) budget) := .single (.rounds ..)
  simp only [replan]
  split
  · exact counted
  · split
    · split <;> exact counted
    · have op : Meters (setReplans (state.replans + 1) budget) (agent.roleOperation "ExecutionPlan"
          .planner state world.plans (setReplans (state.replans + 1) budget)).2 :=
        roleOperation_meters ..
      split <;> next h =>
        rw [h] at op
        exact counted.trans op

end Plan

section Work

/-- The worker returns a result, or the run stops. -/
lemma worker_ok (h : agent.worker world state budget = (.ok state', budget')) :
    (∃ reason, reason ≠ "" ∧ state' = state.stop reason) ∨
      ∃ result model, state' = state.worked "worker" result model := by
  simp only [worker] at h
  split at h
  · next exc refused =>
    cases h
    exact .inl ⟨_, ExecutionBudget.check_message refused, rfl⟩
  · split at h
    · cases h
    · split at h
      · cases h
        exact .inr ⟨_, _, rfl⟩
      · split at h
        · cases h
          exact .inl ⟨_, structuredOutputReason_ne _ _, rfl⟩
        · cases h
        · cases h
          exact .inr ⟨_, _, rfl⟩

lemma worker_meters : Meters budget (agent.worker world state budget).2 := by
  simp only [worker]
  split
  · exact .refl
  · split
    · exact .refl
    · split
      · exact .refl
      · next task _ _ _ =>
        have op : Meters budget (agent.roleOperation "WorkerResult"
            (agent.router.classifyTask state.message task).workerRole state world.results budget).2 :=
          roleOperation_meters ..
        split <;> next h => rwa [h] at op

/-- A revision returns a result, or the run stops. -/
lemma revise_ok (h : agent.revise world state budget = (.ok state', budget')) :
    (∃ reason, reason ≠ "" ∧ state' = state.stop reason) ∨
      ∃ result model, state' = state.worked "revise" result model := by
  simp only [revise] at h
  split at h
  · next exc refused =>
    cases h
    exact .inl ⟨_, ExecutionBudget.check_message refused, rfl⟩
  · split at h
    · cases h
    · split at h
      · split at h
        · cases h
        · cases h
          exact .inr ⟨_, _, rfl⟩
      · split at h
        · cases h
        · cases h
          exact .inr ⟨_, _, rfl⟩

lemma revise_meters : Meters budget (agent.revise world state budget).2 := by
  have counted : Meters budget (countRevisionRound budget) := .single (.rounds ..)
  simp only [revise]
  split
  · exact counted
  · split
    · exact counted
    · split
      · split <;> exact counted
      · next task _ _ _ =>
        have op : Meters (countRevisionRound budget) (agent.roleOperation "WorkerResult"
            (agent.router.classifyTask state.message task).workerRole state world.results
            (countRevisionRound budget)).2 :=
          roleOperation_meters ..
        split <;> next h =>
          rw [h] at op
          exact counted.trans op

end Work

section Verify

/-- The model's report on the current task, as the verifier's operation returns it. -/
def verifierReport (agent : ChatAgent) (world : World) (state : AgentGraphState)
    (budget : ExecutionBudget) (task : PlanTask) : Metered (VerificationReport × String) :=
  agent.roleOperation "VerificationReport" (agent.router.classifyTask state.message task).verifierRole
    state world.reports (countVerifierRound budget)

/-- The model that verifies the current task answers with the verdict `terminate`. -/
def VerdictTerminates (agent : ChatAgent) (world : World) (state : AgentGraphState)
    (budget : ExecutionBudget) : Prop :=
  agent.settings.llmBackend = .ollama ∧ ∃ task report model,
    state.currentTask = .ok task ∧
      (verifierReport agent world state budget task).1 = .ok (report, model) ∧
      report.verdict = .terminate

/-- Downgrading changes no other verdict than a pass. -/
lemma downgraded_terminate {report : VerificationReport} {issues : List String} :
    (downgraded report issues).verdict = .terminate ↔ report.verdict = .terminate := by
  simp only [downgraded]
  split
  · next h =>
    have pass : report.verdict = .pass := by
      simp only [Bool.and_eq_true, decide_eq_true_eq] at h
      exact h.2
    simp [pass]
  · rfl

/-- A pass survives only when every claim is grounded. -/
lemma downgraded_pass {report : VerificationReport} {grounding : List ClaimGroundingResult}
    (h : (downgraded report (groundingIssues grounding)).verdict = .pass) :
    ∀ item ∈ grounding, item.status = .supported := by
  simp only [downgraded] at h
  split at h
  · cases h
  · next kept =>
    have noIssues : groundingIssues grounding = [] := by
      simpa [h] using kept
    intro item mem
    by_contra other
    have issue : item ∈ grounding.filter fun item => item.status ≠ .supported := by
      simp [mem, other]
    simp only [groundingIssues, List.map_eq_nil_iff] at noIssues
    rw [noIssues] at issue
    cases issue

/-- Verification records a report within the verifier's rounds, or the run stops. A recorded pass has
    all its claims supported, and a recorded `terminate` is the model's. -/
lemma verify_ok (h : agent.verify world state budget = (.ok state', budget')) :
    (∃ exc : BudgetExceeded, exc.message ≠ "" ∧
      state' = { state.stop exc.message with verification := some (terminationReport exc) }) ∨
      ∃ report grounding model, state' = state.verified report grounding model ∧
        budget.state.verifierRounds < budget.maxVerifierRounds ∧
        (report.verdict = .pass → ∀ item ∈ grounding, item.status = .supported) ∧
        (report.verdict = .terminate ↔ VerdictTerminates agent world state budget) := by
  simp only [verify] at h
  split at h
  · next exc refused =>
    cases h
    exact .inl ⟨exc, ExecutionBudget.check_message refused, rfl⟩
  · next passed =>
    have rounds : budget.state.verifierRounds < budget.maxVerifierRounds :=
      (ExecutionBudget.check_ok.mp passed).2.2.2
    split at h
    · cases h
    · split at h
      · cases h
      · next task current =>
        split at h
        · next backend =>
          cases h
          refine .inr ⟨_, _, _, rfl, rounds, downgraded_pass, ?_⟩
          constructor
          · intro terminate
            -- the echo backend passes or asks for a revision
            have echoed : ∀ complete : Bool,
                (if complete then Verdict.pass else Verdict.revise) ≠ Verdict.terminate := by decide
            exact absurd (downgraded_terminate.mp terminate) (echoed _)
          · rintro ⟨ollama, -⟩
            rw [backend] at ollama
            cases ollama
        · next backend =>
          split at h
          · next refused =>
            cases h
            exact .inl ⟨_, roleOperation_message refused, rfl⟩
          · cases h
          · next report model _ answered =>
            cases h
            refine .inr ⟨_, _, _, rfl, rounds, downgraded_pass, ?_⟩
            constructor
            · intro terminate
              exact ⟨backend, task, report, model, current, congrArg Prod.fst answered,
                downgraded_terminate.mp terminate⟩
            · rintro ⟨-, task', report', model', current', answered', terminate⟩
              rw [current] at current'
              cases current'
              simp only [verifierReport, answered] at answered'
              cases answered'
              exact downgraded_terminate.mpr terminate

/-- A verification counts one round of the verifier, and operates the meter. -/
lemma verify_meters : Meters (countVerifierRound budget) (agent.verify world state budget).2 := by
  simp only [verify]
  split
  · exact .refl
  · split
    · exact .refl
    · split
      · exact .refl
      · split
        · exact .refl
        · next task _ _ _ =>
          have op : Meters (countVerifierRound budget) (agent.roleOperation "VerificationReport"
              (agent.router.classifyTask state.message task).verifierRole state world.reports
              (countVerifierRound budget)).2 :=
            roleOperation_meters ..
          split <;> next h => rwa [h] at op

end Verify

section Research

variable {round : ResearchRound}

lemma tryCandidates_meters {queryIndex : Nat} {query : String} {tools : Nat → Tools.Environment}
    {candidates : List ToolRoutingDecision} {index : Nat} {findings : Findings} :
    ToolMeters budget
      (tryCandidates agent round queryIndex query tools candidates index findings budget).2 := by
  induction candidates generalizing index findings budget with
  | nil => exact .refl
  | cons candidate rest ih =>
    have call := execute_meters agent.lower (tools index) candidate.name candidate.arguments
      round.metadata budget
    simp only [tryCandidates]
    split
    · exact call.trans ih
    · exact call.trans ih
    · exact call
    · exact call
    · exact call
    · exact call
    · split
      · exact call
      · exact call.trans ih

lemma runQueries_meters {candidates : String → List ToolRoutingDecision}
    {tools : Nat → Nat → Tools.Environment} {queries : List String} {index : Nat}
    {findings : Findings} :
    ToolMeters budget (runQueries agent round candidates tools queries index findings budget).2 := by
  induction queries generalizing index findings budget with
  | nil => exact .refl
  | cons query rest ih =>
    have tried : ToolMeters budget (tryCandidates agent round index query (tools index)
        (candidates query) 0 findings budget).2 := tryCandidates_meters
    simp only [runQueries]
    split
    · next h => rwa [h] at tried
    · next h =>
      rw [h] at tried
      exact tried.trans ih

/-- A refusal that ends the candidates of a query has a text. -/
lemma tryCandidates_message {queryIndex : Nat} {query : String} {tools : Nat → Tools.Environment}
    {candidates : List ToolRoutingDecision} {index : Nat} {findings : Findings}
    {exc : BudgetExceeded}
    (h : (tryCandidates agent round queryIndex query tools candidates index findings budget).1 =
      .error (.exceeded exc)) :
    exc.message ≠ "" := by
  induction candidates generalizing index findings budget with
  | nil => cases h
  | cons candidate rest ih =>
    simp only [tryCandidates] at h
    split at h
    · exact ih h
    · exact ih h
    · next refused =>
      cases h
      exact execute_message refused
    · cases h
    · cases h
    · cases h
    · split at h
      · cases h
      · exact ih h

/-- A refusal that ends a research round has a text. -/
lemma runQueries_message {candidates : String → List ToolRoutingDecision}
    {tools : Nat → Nat → Tools.Environment} {queries : List String} {index : Nat}
    {findings : Findings} {exc : BudgetExceeded}
    (h : runQueries agent round candidates tools queries index findings budget =
      (.error (.exceeded exc), budget')) :
    exc.message ≠ "" := by
  induction queries generalizing index findings budget with
  | nil => cases h
  | cons query rest ih =>
    simp only [runQueries] at h
    split at h
    · next stop _ tried =>
      cases h
      exact tryCandidates_message (congrArg Prod.fst tried)
    · exact ih h

/-- The end of a research round keeps the progress, and stops the run or goes on as before. -/
lemma concludeResearch_ok {queries : List String} {findings : Findings}
    (h : concludeResearch state round queries findings = .ok state') :
    SameProgress state state' ∧ (state'.stopped = true ∨ state'.stopped = state.stopped) := by
  simp only [concludeResearch] at h
  split at h
  · cases h
  · split at h
    · cases h
      exact ⟨⟨rfl, rfl, rfl⟩, .inl rfl⟩
    · cases h
      exact ⟨⟨rfl, rfl, rfl⟩, .inr rfl⟩

/-- Research keeps the progress, and stops the run or goes on as before. -/
lemma research_ok (h : agent.research world state budget = (.ok state', budget')) :
    SameProgress state state' ∧ (state'.stopped = true ∨ state'.stopped = state.stopped) := by
  simp only [research] at h
  split at h
  · cases h
    exact ⟨⟨rfl, rfl, rfl⟩, .inl rfl⟩
  · split at h
    · cases h
      exact ⟨⟨rfl, rfl, rfl⟩, .inl rfl⟩
    · split at h
      · cases h
      · split at h
        · next exc _ refused =>
          cases h
          exact ⟨⟨rfl, rfl, rfl⟩, .inl (by simpa using runQueries_message refused)⟩
        · cases h
        · exact concludeResearch_ok (Prod.mk.inj h).1

lemma research_meters : Meters budget (agent.research world state budget).2 := by
  have counted : Meters budget (setResearchRounds (state.researchRounds + 1) budget) :=
    .single (.rounds ..)
  simp only [research]
  split
  · exact counted
  · split
    · exact counted
    · split
      · exact counted
      · refine counted.trans ?_
        split <;> next h => exact (congrArg Prod.snd h) ▸ runQueries_meters.meters

end Research

section Advance

/-- Advancing records the current task with what is known about it, and moves past it. -/
lemma advance_ok (h : agent.advance state budget = (.ok state', budget')) :
    ∃ task, state.currentTask = .ok task ∧ state'.plan = state.plan ∧
      state'.taskIndex = state.taskIndex + 1 ∧ state'.stopped = state.stopped ∧
      state'.taskResults = state.taskResults ++
        [⟨task, state.workerResult, state.verification, state.grounding, state.evidence⟩] := by
  simp only [advance] at h
  split at h
  · cases h
  · next task current =>
    refine ⟨task, current, ?_⟩
    split at h
    · obtain ⟨action, routing, rfl⟩ := AgentGraphState.setNextAction_ok (Prod.mk.inj h).1
      exact ⟨rfl, rfl, rfl, rfl⟩
    · cases h
      exact ⟨rfl, rfl, rfl, rfl⟩

/-- Advancing calls nothing. -/
lemma advance_budget : (agent.advance state budget).2 = budget := by
  simp only [advance]
  split
  · rfl
  · split <;> rfl

end Advance

section Final

/-- Finalizing sets a response that is still to be verified exactly when several results were
    synthesized and final verification is on, or the run stops. -/
lemma finalize_ok (h : agent.finalize world state budget = (.ok state', budget')) :
    SameProgress state state' ∧ state'.stopped = true ∨
      ∃ response model required, state.stopped = false ∧
        state' = state.finalized response agent.settings.llmBackend model required ∧
        (required = true ↔ agent.settings.llmBackend = .ollama ∧ 1 < state.taskResults.length ∧
          agent.settings.finalVerificationEnabled = true) := by
  simp only [finalize] at h
  split at h
  · next stopped =>
    cases h
    exact .inl ⟨⟨rfl, rfl, rfl⟩, stopped⟩
  · next unstopped =>
    have unstopped := Bool.eq_false_iff.mpr unstopped
    split at h
    · next several =>
      split at h
      · cases h
      · split at h
        · cases h
        · next error _ _ _ =>
          cases h
          refine .inl ⟨⟨rfl, rfl, rfl⟩, ?_⟩
          exact decide_eq_true
            (failureReason_ne "final synthesis failed: " error.typeName (by decide))
        · cases h
          exact .inr ⟨_, _, _, unstopped, rfl, by simp [several]⟩
    · next single =>
      split at h
      · cases h
      · cases h
        refine .inr ⟨_, _, _, unstopped, rfl, ?_⟩
        simp only [Bool.false_eq_true, false_iff]
        intro synthesizes
        exact single ⟨synthesizes.1, synthesizes.2.1⟩

lemma finalize_meters : Meters budget (agent.finalize world state budget).2 := by
  simp only [finalize]
  split
  · exact .refl
  · split
    · split
      · exact .refl
      · have op := textOperation_meters world.texts budget
        split <;> next h => rwa [h] at op
    · split <;> exact .refl

/-- The model's report on the response, as the final verifier's operation returns it. -/
def finalReport (agent : ChatAgent) (world : World) (state : AgentGraphState)
    (budget : ExecutionBudget) : Metered (FinalVerificationReport × String) :=
  agent.roleOperation "FinalVerificationReport" .reasoning state world.finalReports budget

/-- A final verification records the model's report on the response, or the run stops. -/
lemma verifyFinal_ok (h : agent.verifyFinal world state budget = (.ok state', budget')) :
    (SameProgress state state' ∧ state'.stopped = true) ∨
      ∃ report model, state' = state.finallyVerified report model ∧
        (agent.finalReport world state budget).1 = .ok (report, model) ∧
        (report.verdict = .pass ∨
          state.finalRevisionRounds < agent.settings.finalMaxRevisionRounds) := by
  simp only [verifyFinal] at h
  split at h
  · next exc refused =>
    cases h
    refine .inl ⟨⟨rfl, rfl, rfl⟩, ?_⟩
    simpa using ExecutionBudget.check_message refused
  · split at h
    · cases h
      refine .inl ⟨⟨rfl, rfl, rfl⟩, ?_⟩
      simpa using structuredOutputReason_ne _ _
    · cases h
    · split at h
      · cases h
        exact .inl ⟨⟨rfl, rfl, rfl⟩, rfl⟩
      · next report model _ answered accepted =>
        cases h
        refine .inr ⟨_, _, rfl, congrArg Prod.fst answered, ?_⟩
        by_contra other
        rw [not_or, Nat.not_lt] at other
        exact accepted other

lemma verifyFinal_meters : Meters budget (agent.verifyFinal world state budget).2 := by
  simp only [verifyFinal]
  split
  · exact .refl
  · have op : Meters budget (agent.roleOperation "FinalVerificationReport" .reasoning state
        world.finalReports budget).2 :=
      roleOperation_meters ..
    split
    · next h => rwa [h] at op
    · next h => rwa [h] at op
    · next h =>
      rw [h] at op
      split <;> exact op

/-- The final revision cannot be made: the check before it is refused, or its synthesis, on the model
    that is selected for it, raises. -/
def RevisionFails (agent : ChatAgent) (world : World) (state : AgentGraphState)
    (budget : ExecutionBudget) : Prop :=
  let budget := setFinalRevisionRounds (state.finalRevisionRounds + 1) budget
  (∃ exc, budget.check world.now = .error exc) ∨
    (∃ model, agent.selectModel .synthesis state.inventory = .ok model) ∧
      ∃ error, (textOperation world.texts budget).1 = .error error ∧ error ≠ .cancelled

/-- A final revision sets a new response in one more round, or fails and stops the run. -/
lemma reviseFinal_ok (h : agent.reviseFinal world state budget = (.ok state', budget')) :
    (RevisionFails agent world state budget ∧ SameProgress state state' ∧ state'.stopped = true) ∨
      ¬ RevisionFails agent world state budget ∧ ∃ response model,
        state' = state.finallyRevised response (state.finalRevisionRounds + 1) model := by
  simp only [reviseFinal] at h
  split at h
  · next exc refused =>
    cases h
    refine .inl ⟨.inl ⟨exc, refused⟩, ⟨rfl, rfl, rfl⟩, ?_⟩
    simpa using ExecutionBudget.check_message refused
  · next passed =>
    split at h
    · cases h
    · next model selected =>
      split at h
      · cases h
      · next error _ other failed =>
        cases h
        refine .inl ⟨.inr ⟨⟨model, selected⟩, error, congrArg Prod.fst failed, other⟩,
          ⟨rfl, rfl, rfl⟩, ?_⟩
        exact decide_eq_true
          (failureReason_ne "final answer revision failed: " error.typeName (by decide))
      · next answered =>
        cases h
        refine .inr ⟨?_, _, _, rfl⟩
        rintro (⟨exc, refused⟩ | ⟨-, error, failed, -⟩)
        · rw [refused] at passed
          cases passed
        · rw [answered] at failed
          cases failed

/-- A final revision raises only when no model is selected for it or it is cancelled, and then it has
    not failed. -/
lemma reviseFinal_error {error : GraphError}
    (h : agent.reviseFinal world state budget = (.error error, budget')) :
    (error = .cancelled ∨ error = .raised "RuntimeError") ∧
      ¬ RevisionFails agent world state budget := by
  simp only [reviseFinal] at h
  split at h
  · cases h
  · next passed =>
    split at h
    · next unselected =>
      cases h
      refine ⟨.inr (selectModel_error unselected), ?_⟩
      rintro (⟨exc, refused⟩ | ⟨⟨model, selected⟩, -⟩)
      · rw [refused] at passed
        cases passed
      · rw [unselected] at selected
        cases selected
    · split at h
      · next cancelled =>
        cases h
        refine ⟨.inl rfl, ?_⟩
        rintro (⟨exc, refused⟩ | ⟨-, error, failed, other⟩)
        · rw [refused] at passed
          cases passed
        · rw [cancelled] at failed
          cases failed
          exact other rfl
      · cases h
      · cases h

lemma reviseFinal_meters : Meters budget (agent.reviseFinal world state budget).2 := by
  have counted : Meters budget (setFinalRevisionRounds (state.finalRevisionRounds + 1) budget) :=
    .single (.rounds ..)
  simp only [reviseFinal]
  split
  · exact counted
  · split
    · exact counted
    · have op := textOperation_meters world.texts
        (setFinalRevisionRounds (state.finalRevisionRounds + 1) budget)
      split <;> next h =>
        rw [h] at op
        exact counted.trans op

end Final

end ChatAgent

end AgentRuntime.Graph
