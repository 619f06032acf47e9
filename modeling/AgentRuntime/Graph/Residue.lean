import AgentRuntime.Graph.Shapes

/-!
# What is left in the state

A fresh run starts from what an earlier execution left in the state, with the channels of its input
overwritten. Two channels that nodes write are not in the input: the grounding of the claims and the
snapshot of the meter. No node reads the snapshot. Only `advance` reads the grounding, and it follows a
verification that has just written it. So two runs from states that differ in these channels do the same.
-/

namespace AgentRuntime.Graph
open Orchestration Transition

/-- What nodes write and the input of a fresh run does not overwrite. -/
structure Residue where
  grounding : List ClaimGroundingResult
  executionMeterState : Option ExecutionMeterState

/-- The state with something else left in it. -/
def AgentGraphState.withResidue (state : AgentGraphState) (residue : Residue) : AgentGraphState :=
  { state with
    grounding := residue.grounding
    executionMeterState := residue.executionMeterState }

/-- Two nodes return states that are equal up to what is left in them, or raise the same. The states in
    `grounded` have the same grounding. -/
inductive SameReturn (grounded : AgentGraphState → Prop) :
    Metered AgentGraphState → Metered AgentGraphState → Prop where
  | returned {state : AgentGraphState} (residue : Residue) {budget : ExecutionBudget}
      (same : grounded state → residue.grounding = state.grounding) :
    SameReturn grounded (.ok state, budget) (.ok (state.withResidue residue), budget)
  | raised {error : GraphError} {budget : ExecutionBudget} :
    SameReturn grounded (.error error, budget) (.error error, budget)

lemma SameReturn.mono {grounded grounded' : AgentGraphState → Prop} {r r' : Metered AgentGraphState}
    (same : SameReturn grounded r r') (less : ∀ state, grounded' state → grounded state) :
    SameReturn grounded' r r' := by
  cases same with
  | returned residue same => exact .returned residue fun read => same (less _ read)
  | raised => exact .raised

namespace ChatAgent

variable {agent : ChatAgent} {world : World} {state state' : AgentGraphState}
  {budget budget' : ExecutionBudget} {residue : Residue}

section Nodes

/-- Deciding about the next task reads nothing that is left. -/
lemma setNextAction_residue (router : RuntimeRouter) (state : AgentGraphState) (residue : Residue)
    (budget : ExecutionBudget) :
    SameReturn (fun _ => False) (state.setNextAction router, budget)
      ((state.withResidue residue).setNextAction router, budget) := by
  have current : (state.withResidue residue).currentTask = state.currentTask := rfl
  simp only [AgentGraphState.setNextAction, current]
  cases state.currentTask with
  | error error => exact .raised
  | ok task => exact .returned residue False.elim

/-- Selecting the model of a role reads the inventory only. -/
lemma roleOperation_residue {α : Type} (schema : String) (role : Role) (op : Operation α) :
    agent.roleOperation schema role (state.withResidue residue) op budget =
      agent.roleOperation schema role state op budget := rfl

lemma currentTask_residue : (state.withResidue residue).currentTask = state.currentTask := rfl

lemma plan_residue : SameReturn (fun _ => False) (agent.plan world state budget)
    (agent.plan world (state.withResidue residue) budget) := by
  simp only [plan, roleOperation_residue]
  cases budget.check world.now with
  | error exc => exact .returned residue False.elim
  | ok =>
    cases agent.settings.llmBackend with
    | echo => exact setNextAction_residue agent.router _ residue budget
    | ollama =>
      cases agent.roleOperation "ExecutionPlan" .planner state world.plans budget with
      | mk answer budget =>
        cases answer with
        | error error =>
          cases error with
          | structuredOutput schema attempted => exact .returned residue False.elim
          | _ => exact .raised
        | ok planned => exact setNextAction_residue agent.router _ residue budget

lemma worker_residue : SameReturn (fun _ => False) (agent.worker world state budget)
    (agent.worker world (state.withResidue residue) budget) := by
  simp only [worker, currentTask_residue, roleOperation_residue]
  cases budget.check world.now with
  | error exc => exact .returned residue False.elim
  | ok =>
    cases state.currentTask with
    | error error => exact .raised
    | ok task =>
      cases agent.settings.llmBackend with
      | echo => exact .returned residue False.elim
      | ollama =>
        dsimp only [AgentGraphState.withResidue]
        cases agent.roleOperation "WorkerResult"
          (agent.router.classifyTask state.message task).workerRole state world.results budget with
        | mk answer budget =>
          cases answer with
          | error error =>
            cases error with
            | structuredOutput schema attempted => exact .returned residue False.elim
            | _ => exact .raised
          | ok result => exact .returned residue False.elim

/-- `_verify` writes the grounding, unless it stops. -/
lemma verify_residue : SameReturn (fun state => state.stopped = false) (agent.verify world state budget)
      (agent.verify world (state.withResidue residue) budget) := by
  have message : (state.withResidue residue).message = state.message := rfl
  have result : (state.withResidue residue).workerResult = state.workerResult := rfl
  have evidence : (state.withResidue residue).evidence = state.evidence := rfl
  have runId : (state.withResidue residue).evidenceRunId = state.evidenceRunId := rfl
  simp only [verify, currentTask_residue, roleOperation_residue, message, result, evidence, runId]
  cases refused : (countVerifierRound budget).check world.now with
  | error exc =>
    refine .returned residue fun going => absurd ?_ (Bool.eq_false_iff.mp going)
    exact decide_eq_true (ExecutionBudget.check_message refused)
  | ok =>
    cases state.workerResult with
    | none => exact .raised
    | some result =>
      cases state.currentTask with
      | error error => exact .raised
      | ok task =>
        cases agent.settings.llmBackend with
        | echo =>
          exact @SameReturn.returned _ (state.verified _ _ _) ⟨_, residue.executionMeterState⟩ _ fun _ => rfl
        | ollama =>
          dsimp only
          cases operated : agent.roleOperation "VerificationReport"
            (agent.router.classifyTask state.message task).verifierRole state world.reports
            (countVerifierRound budget) with
          | mk answer budget =>
            cases answer with
            | error error =>
              cases error with
              | budgetExceeded exc =>
                refine .returned residue fun going => absurd ?_ (Bool.eq_false_iff.mp going)
                exact decide_eq_true (roleOperation_message operated)
              | _ => exact .raised
            | ok verified =>
              exact @SameReturn.returned _ (state.verified _ _ _) ⟨_, residue.executionMeterState⟩ _ fun _ => rfl

lemma revise_residue : SameReturn (fun _ => False) (agent.revise world state budget)
    (agent.revise world (state.withResidue residue) budget) := by
  simp only [revise, currentTask_residue, roleOperation_residue]
  cases (countRevisionRound budget).check world.now with
  | error exc => exact .returned residue False.elim
  | ok =>
    cases state.currentTask with
    | error error => exact .raised
    | ok task =>
      cases agent.settings.llmBackend with
      | echo =>
        dsimp only [AgentGraphState.withResidue]
        cases state.workerResult with
        | none => exact .raised
        | some result => exact .returned residue False.elim
      | ollama =>
        dsimp only [AgentGraphState.withResidue]
        cases agent.roleOperation "WorkerResult" (agent.router.classifyTask state.message task).workerRole
          state world.results (countRevisionRound budget) with
        | mk answer budget =>
          cases answer with
          | error error => exact .raised
          | ok result => exact .returned residue False.elim

lemma research_residue : SameReturn (fun _ => False) (agent.research world state budget)
    (agent.research world (state.withResidue residue) budget) := by
  simp only [research, currentTask_residue]
  cases agent.settings.mcpEnabled with
  | false => exact .returned residue False.elim
  | true =>
    simp only [Bool.not_true, Bool.false_eq_true, if_false]
    by_cases exceeded : agent.settings.agentMaxResearchRounds < state.researchRounds + 1
    · have exceeded' : agent.settings.agentMaxResearchRounds <
          (state.withResidue residue).researchRounds + 1 := exceeded
      simp only [if_pos exceeded, if_pos exceeded']
      exact .returned residue False.elim
    · have exceeded' : ¬ agent.settings.agentMaxResearchRounds <
          (state.withResidue residue).researchRounds + 1 := exceeded
      simp only [if_neg exceeded, if_neg exceeded']
      cases state.currentTask with
      | error error => exact .raised
      | ok task =>
        dsimp only [AgentGraphState.withResidue, AgentGraphState.evidenceRunId]
        generalize runQueries _ _ _ _ _ _ _ _ = queried
        obtain ⟨answer, budget⟩ := queried
        cases answer with
        | error stop =>
          cases stop with
          | exceeded exc => exact .returned residue False.elim
          | escaped error => exact .raised
        | ok findings =>
          simp only [concludeResearch]
          cases recordFailures state.metadata findings.failures with
          | error error => exact .raised
          | ok metadata =>
            cases findings.successfulTools.eraseDups with
            | nil => exact .returned residue False.elim
            | cons tool tools => exact .returned residue False.elim

lemma replan_residue : SameReturn (fun _ => False) (agent.replan world state budget)
    (agent.replan world (state.withResidue residue) budget) := by
  have replans : (state.withResidue residue).replans = state.replans := rfl
  have plan : (state.withResidue residue).plan = state.plan := rfl
  simp only [replan, roleOperation_residue, replans, plan]
  by_cases exceeded : agent.settings.agentMaxReplans < state.replans + 1
  · simp only [if_pos exceeded]
    exact .returned residue False.elim
  · simp only [if_neg exceeded]
    cases agent.settings.llmBackend with
    | echo =>
      cases state.plan with
      | none => exact .raised
      | some plan => exact setNextAction_residue agent.router _ residue _
    | ollama =>
      dsimp only
      cases agent.roleOperation "ExecutionPlan" .planner state world.plans
        (setReplans (state.replans + 1) budget) with
      | mk answer budget =>
        cases answer with
        | error error => exact .raised
        | ok planned => exact setNextAction_residue agent.router _ residue budget

/-- `_advance` records the grounding. -/
lemma advance_residue (same : residue.grounding = state.grounding) :
    SameReturn (fun _ => False) (agent.advance state budget)
      (agent.advance (state.withResidue residue) budget) := by
  simp only [advance, currentTask_residue]
  cases state.currentTask with
  | error error => exact .raised
  | ok task =>
    have advanced : (state.withResidue residue).advanced task =
        (state.advanced task).withResidue ⟨[], residue.executionMeterState⟩ := by
      simp only [AgentGraphState.advanced, AgentGraphState.withResidue, same]
    have tasks (left : Residue) : ((state.advanced task).withResidue left).tasks =
      (state.advanced task).tasks := rfl
    have index (left : Residue) : ((state.advanced task).withResidue left).taskIndex =
      (state.advanced task).taskIndex := rfl
    simp only [advanced, tasks, index]
    by_cases more : (state.advanced task).taskIndex < (state.advanced task).tasks.length
    · simp only [if_pos more]
      exact setNextAction_residue agent.router _ _ budget
    · simp only [if_neg more]
      exact .returned _ False.elim

lemma finalize_residue : SameReturn (fun _ => False) (agent.finalize world state budget)
    (agent.finalize world (state.withResidue residue) budget) := by
  have halted : (state.withResidue residue).stopped = state.stopped := rfl
  have answer : lastAnswer (state.withResidue residue) = lastAnswer state := rfl
  have results : (state.withResidue residue).taskResults = state.taskResults := rfl
  have inventory : (state.withResidue residue).inventory = state.inventory := rfl
  simp only [finalize, halted, answer, results, inventory]
  cases state.stopped with
  | true => exact .returned residue False.elim
  | false =>
    simp only [Bool.false_eq_true, if_false]
    by_cases synthesis : agent.settings.llmBackend = .ollama ∧ 1 < state.taskResults.length
    · simp only [if_pos synthesis]
      cases agent.selectModel .synthesis state.inventory with
      | error error => exact .raised
      | ok model =>
        cases textOperation world.texts budget with
        | mk answer budget =>
          cases answer with
          | error error =>
            cases error with
            | cancelled => exact .raised
            | _ => exact .returned residue False.elim
          | ok response => exact .returned residue False.elim
    · simp only [if_neg synthesis]
      cases lastAnswer state with
      | error error => exact .raised
      | ok answer => exact .returned residue False.elim

lemma verifyFinal_residue : SameReturn (fun _ => False) (agent.verifyFinal world state budget)
    (agent.verifyFinal world (state.withResidue residue) budget) := by
  have rounds : (state.withResidue residue).finalRevisionRounds = state.finalRevisionRounds := rfl
  simp only [verifyFinal, roleOperation_residue, rounds]
  cases budget.check world.now with
  | error exc => exact .returned residue False.elim
  | ok =>
    cases agent.roleOperation "FinalVerificationReport" .reasoning state world.finalReports budget with
    | mk answer budget =>
      cases answer with
      | error error =>
        cases error with
        | structuredOutput schema attempted => exact .returned residue False.elim
        | _ => exact .raised
      | ok verified =>
        by_cases last : verified.1.verdict ≠ .pass ∧
          agent.settings.finalMaxRevisionRounds ≤ state.finalRevisionRounds
        · simp only [if_pos last]
          exact .returned residue False.elim
        · simp only [if_neg last]
          exact .returned residue False.elim

lemma reviseFinal_residue : SameReturn (fun _ => False) (agent.reviseFinal world state budget)
    (agent.reviseFinal world (state.withResidue residue) budget) := by
  have rounds : (state.withResidue residue).finalRevisionRounds = state.finalRevisionRounds := rfl
  have inventory : (state.withResidue residue).inventory = state.inventory := rfl
  simp only [reviseFinal, rounds, inventory]
  cases (setFinalRevisionRounds (state.finalRevisionRounds + 1) budget).check world.now with
  | error exc => exact .returned residue False.elim
  | ok =>
    cases agent.selectModel .synthesis state.inventory with
    | error error => exact .raised
    | ok model =>
      cases textOperation world.texts (setFinalRevisionRounds (state.finalRevisionRounds + 1) budget) with
      | mk answer budget =>
        cases answer with
        | error error =>
          cases error with
          | cancelled => exact .raised
          | _ => exact .returned residue False.elim
        | ok response => exact .returned residue False.elim

end Nodes

/-- A node does the same with something else left in the state, if `advance` finds the same grounding. -/
lemma run_residue {node : Node} (same : node = .advance → residue.grounding = state.grounding) :
    SameReturn (fun state => node = .verify ∧ state.stopped = false) (agent.run world state budget node)
      (agent.run world (state.withResidue residue) budget node) := by
  have other (r r' : Metered AgentGraphState) (distinct : node ≠ .verify)
      (same : SameReturn (fun _ => False) r r') :
      SameReturn (fun state => node = .verify ∧ state.stopped = false) r r' :=
    same.mono fun _ verify => distinct verify.1
  cases node with
  | plan => exact other _ _ nofun plan_residue
  | research => exact other _ _ nofun research_residue
  | worker => exact other _ _ nofun worker_residue
  | verify => exact verify_residue.mono fun _ => And.right
  | revise => exact other _ _ nofun revise_residue
  | replan => exact other _ _ nofun replan_residue
  | advance => exact other _ _ nofun (advance_residue (same rfl))
  | finalize => exact other _ _ nofun finalize_residue
  | verifyFinal => exact other _ _ nofun verifyFinal_residue
  | reviseFinal => exact other _ _ nofun reviseFinal_residue
  | terminate => exact other _ _ nofun (.returned residue False.elim)

lemma edge_residue {node : Node} : agent.edge node (state.withResidue residue) = agent.edge node state := by
  cases node <;> rfl

/-- Only a verification that goes on leads to `advance`. -/
lemma edge_to_advance {node : Node} (edge : agent.edge node state = .node .advance) :
    node = .verify ∧ state.stopped = false := by
  obtain ⟨going, rfl | rfl | rfl⟩ := edge_reads edge rfl
  · rw [(edge_budgeted agent going).2.1] at edge
    cases edge
  · rw [(edge_budgeted agent going).2.2.1] at edge
    cases edge
  · exact ⟨rfl, going⟩

/-- The second invocation is at the same node with the same meter, in a state that is equal up to what is
    left in it. -/
structure Alike (c d : Configuration) : Prop where
  position : d.position = c.position
  budget : d.budget = c.budget
  state : ∃ residue, d.state = c.state.withResidue residue
  grounding : c.position = .node .advance → d.state.grounding = c.state.grounding

/-- Invocations that are alike take the same steps. -/
lemma Alike.step {c c' d : Configuration} (alike : Alike c d) (st : agent.Step c world c') :
    ∃ d', agent.Step d world d' ∧ Alike c' d' := by
  obtain ⟨node, position, rfl⟩ := st
  refine ⟨agent.execute node world d, ⟨node, alike.position.trans position, rfl⟩, ?_⟩
  obtain ⟨residue, left⟩ := alike.state
  have same : node = .advance → residue.grounding = c.state.grounding := by
    rintro rfl
    exact (congrArg AgentGraphState.grounding left).symm.trans (alike.grounding position)
  have same := @run_residue agent world c.state c.budget residue node same
  simp only [execute, left, alike.budget]
  generalize agent.run world c.state c.budget node = answer at same ⊢
  generalize agent.run world (c.state.withResidue residue) c.budget node = answer' at same ⊢
  cases same with
  | returned residue same =>
    exact ⟨edge_residue, rfl, ⟨⟨_, _⟩, rfl⟩, fun advance => same (edge_to_advance advance)⟩
  | raised => exact ⟨rfl, rfl, ⟨residue, rfl⟩, fun advance => by cases advance⟩

end ChatAgent

end AgentRuntime.Graph
