import AgentRuntime.Graph.Control

/-!
# Fail-closed completion

What a run that reaches the end without a reason to stop has shown: every task of the plan in force has
one result, which passed its verification with all claims supported, and a synthesized response passed
the final verification. The invariant `Sound` ties the recorded results to the plan at every position.
The one way around it is a verdict `terminate` of the verifier, which ends the run and records no reason.
-/

namespace AgentRuntime.Graph
open Orchestration Transition

/-- The result passed its verification, and all its claims are supported. -/
def Passed (result : TaskResult) : Prop :=
  (∃ report, result.verification = some report ∧ report.verdict = .pass ∧
    report.taskComplete = true) ∧
  ∀ item ∈ result.grounding, item.status = .supported

/-- The last final verification of the run passed the response that is returned. -/
def FinallyVerified (agent : ChatAgent) (events : List (Event Configuration World))
    (state : AgentGraphState) : Prop :=
  ∃ before e after report model, events = before ++ e :: after ∧
    e.pre.position = .node .verifyFinal ∧ (∀ e' ∈ after, e'.pre.position ≠ .node .verifyFinal) ∧
    (agent.finalReport e.label e.pre.state e.pre.budget).1 = .ok (report, model) ∧
    report.verdict = .pass ∧ report.answerComplete = true ∧
    state.finalVerification = some report ∧ e.pre.state.response = state.response

/-- What a run must have shown when it completes in this state. -/
structure FailClosed (agent : ChatAgent) (events : List (Event Configuration World))
    (state : AgentGraphState) : Prop where
  planned : ∃ plan, state.plan = some plan ∧ state.taskResults.map TaskResult.task = plan.tasks
  passed : ∀ result ∈ state.taskResults, Passed result
  verified : agent.settings.llmBackend = .ollama → agent.settings.finalVerificationEnabled = true →
    1 < state.taskResults.length → FinallyVerified agent events state

/-- The results so far are those of the tasks before the current one, in plan order, and all passed. -/
structure Recorded (state : AgentGraphState) : Prop where
  planned : ∃ plan, state.plan = some plan
  index_le : state.taskIndex ≤ state.tasks.length
  results : state.taskResults.map TaskResult.task = state.tasks.take state.taskIndex
  passed : ∀ result ∈ state.taskResults, Passed result

/-- There is a current task. -/
def AtTask (state : AgentGraphState) : Prop :=
  Recorded state ∧ state.taskIndex < state.tasks.length

/-- All tasks have their results. -/
def AtEnd (state : AgentGraphState) : Prop :=
  Recorded state ∧ state.taskIndex = state.tasks.length

/-- The current task has passed. -/
def CurrentPassed (state : AgentGraphState) : Prop :=
  ∀ task, Passed ⟨task, state.workerResult, state.verification, state.grounding, state.evidence⟩

/-- The recorded results are in step with the position. A run is at `terminate` with a reason, or with
    a task left. -/
def Sound (state : AgentGraphState) : Position → Prop
  | .node .research | .node .worker | .node .verify | .node .revise | .node .replan => AtTask state
  | .node .advance => AtTask state ∧ CurrentPassed state
  | .node .finalize | .node .verifyFinal | .node .reviseFinal => AtEnd state
  | .node .terminate => state.stopped = true ∨ AtTask state
  | .node .plan | .finished | .aborted _ => True

section Recorded

variable {state state' : AgentGraphState}

/-- The tasks follow the plan. -/
lemma SameProgress.tasks (same : SameProgress state state') : state'.tasks = state.tasks := by
  simp only [AgentGraphState.tasks, same.plan]

/-- Results stay recorded while nothing of the progress changes. -/
lemma Recorded.same (same : SameProgress state state') (recorded : Recorded state) :
    Recorded state' where
  planned := same.plan ▸ recorded.planned
  index_le := by
    rw [same.taskIndex, same.tasks]
    exact recorded.index_le
  results := by
    rw [same.taskResults, same.tasks, same.taskIndex]
    exact recorded.results
  passed := by
    rw [same.taskResults]
    exact recorded.passed

/-- The current task stays while nothing of the progress changes. -/
lemma AtTask.same (same : SameProgress state state') (task : AtTask state) : AtTask state' := by
  refine ⟨task.1.same same, ?_⟩
  rw [same.taskIndex, same.tasks]
  exact task.2

/-- All results stay while nothing of the progress changes. -/
lemma AtEnd.same (same : SameProgress state state') (complete : AtEnd state) : AtEnd state' := by
  refine ⟨complete.1.same same, ?_⟩
  rw [same.taskIndex, same.tasks]
  exact complete.2

/-- A plan that was just adopted is at its first task. -/
lemma AtFirstTask.atTask (first : AtFirstTask state) : AtTask state := by
  obtain ⟨⟨plan, planned⟩, index, results⟩ := first
  have tasks : state.tasks = plan.tasks := by
    simp only [AgentGraphState.tasks, planned]
  refine ⟨⟨⟨plan, planned⟩, ?_, ?_, ?_⟩, ?_⟩
  · rw [index]
    exact Nat.zero_le _
  · rw [results, index]
    rfl
  · rw [results]
    intro result mem
    cases mem
  · rw [index, tasks]
    exact List.length_pos_iff.mpr plan.nonempty

/-- When all tasks have their results, these are the results of the plan. -/
lemma AtEnd.results (complete : AtEnd state) :
    ∃ plan, state.plan = some plan ∧ state.taskResults.map TaskResult.task = plan.tasks := by
  obtain ⟨recorded, last⟩ := complete
  obtain ⟨plan, planned⟩ := recorded.planned
  refine ⟨plan, planned, ?_⟩
  rw [recorded.results, last, List.take_length]
  simp only [AgentGraphState.tasks, planned]

/-- While a task is left, the results are not those of the plan. -/
lemma AtTask.unfinished (task : AtTask state) {plan : ExecutionPlan}
    (planned : state.plan = some plan) :
    state.taskResults.map TaskResult.task ≠ plan.tasks := by
  intro finished
  have length := congrArg List.length (finished.symm.trans task.1.results)
  have tasks : state.tasks = plan.tasks := by
    simp only [AgentGraphState.tasks, planned]
  have left := task.2
  rw [List.length_take, tasks] at length
  rw [tasks] at left
  omega

/-- Advancing records the result of a task that has passed. -/
lemma Recorded.advance {task : PlanTask} (atTask : AtTask state) (passed : CurrentPassed state)
    (current : state.tasks[state.taskIndex]? = some task) (plan : state'.plan = state.plan)
    (index : state'.taskIndex = state.taskIndex + 1)
    (results : state'.taskResults = state.taskResults ++
      [⟨task, state.workerResult, state.verification, state.grounding, state.evidence⟩]) :
    Recorded state' := by
  have tasks : state'.tasks = state.tasks := by
    simp only [AgentGraphState.tasks, plan]
  refine ⟨plan ▸ atTask.1.planned, ?_, ?_, ?_⟩
  · rw [tasks, index]
    exact atTask.2
  · rw [results, index, tasks, List.map_append, atTask.1.results, List.take_add_one, current]
    rfl
  · rw [results]
    intro result mem
    obtain earlier | last := List.mem_append.mp mem
    · exact atTask.1.passed result earlier
    · rw [List.mem_singleton] at last
      exact last ▸ passed task

end Recorded

namespace ChatAgent

variable {agent : ChatAgent} {world : World} {state state' : AgentGraphState}
variable {budget budget' : ExecutionBudget}

section Sound

/-- A snapshot of the meter changes nothing about the results. -/
lemma sound_withSnapshot {position : Position} (sound : Sound state position) :
    Sound (state.withSnapshot budget) position := by
  have same : SameProgress state (state.withSnapshot budget) := ⟨rfl, rfl, rfl⟩
  cases position with
  | finished | aborted => trivial
  | node n =>
    cases n with
    | plan => trivial
    | research | worker | verify | revise | replan => exact AtTask.same same sound
    | advance => exact ⟨sound.1.same same, sound.2⟩
    | finalize | verifyFinal | reviseFinal => exact AtEnd.same same sound
    | terminate => exact sound.imp id (AtTask.same same)

/-- A node that stops the run is sound. -/
lemma sound_stopped {n : Node} (stopped : state.stopped = true) (advance : n ≠ .advance)
    (reviseFinal : n ≠ .reviseFinal) (terminate : n ≠ .terminate) :
    Sound state (agent.edge n state) := by
  rw [edge_stopped stopped advance reviseFinal terminate]
  exact .inl stopped

/-- Planning leads to a sound state. -/
lemma plan_sound (h : agent.plan world state budget = (.ok state', budget')) :
    Sound state' (agent.edge .plan state') := by
  obtain ⟨reason, ne, rfl⟩ | ⟨first, going⟩ := plan_ok h
  · exact sound_stopped (decide_eq_true ne) (by decide) (by decide) (by decide)
  · obtain edge | edge := edge_plan agent going <;> rw [edge] <;> exact first.atTask

/-- A node whose edge only asks whether the run goes on keeps the task. -/
lemma budgeted_sound (agent : ChatAgent) {n : Node}
    (budgeted : n = .research ∨ n = .worker ∨ n = .revise ∨ n = .replan) (task : AtTask state) :
    Sound state (agent.edge n state) := by
  cases going : state.stopped with
  | true =>
    refine sound_stopped going ?_ ?_ ?_ <;> rintro rfl <;> exact absurd budgeted (by decide)
  | false =>
    obtain ⟨research, worker, revise, replan⟩ := edge_budgeted agent going
    obtain rfl | rfl | rfl | rfl := budgeted
    · rwa [research]
    · rwa [worker]
    · rwa [revise]
    · rwa [replan]

/-- A worker or a revision leaves the current task as it was. -/
lemma atTask_worked
    (h : (∃ reason, reason ≠ "" ∧ state' = state.stop reason) ∨
      ∃ node result model, state' = state.worked node result model) (task : AtTask state) :
    AtTask state' := by
  obtain ⟨reason, -, rfl⟩ | ⟨node, result, model, rfl⟩ := h
  · exact task.same (.stop state reason)
  · exact task.same (.worked state node result model)

/-- Another plan is at its first task, or the run stops at the current one. -/
lemma atTask_replan (h : agent.replan world state budget = (.ok state', budget'))
    (task : AtTask state) : AtTask state' := by
  obtain ⟨same, -⟩ | ⟨first, -⟩ := replan_ok h
  · exact task.same same
  · exact first.atTask

/-- Verification leads to `advance` only with a task that has passed. -/
lemma verify_sound (h : agent.verify world state budget = (.ok state', budget'))
    (task : AtTask state) : Sound state' (agent.edge .verify state') := by
  obtain ⟨exc, ne, rfl⟩ | ⟨report, grounding, model, rfl, -, supported, -⟩ := verify_ok h
  · exact sound_stopped (decide_eq_true ne) (by decide) (by decide) (by decide)
  · have task := task.same (.verified state report grounding model)
    cases going : (state.verified report grounding model).stopped with
    | true => exact sound_stopped going (by decide) (by decide) (by decide)
    | false =>
      rw [edge_verify going rfl]
      cases value : report.verdict with
      | pass =>
        cases completes : report.taskComplete with
        | true => exact ⟨task, fun _ => ⟨⟨report, rfl, value, completes⟩, supported value⟩⟩
        | false => exact task
      | terminate => exact .inr task
      | _ => exact task

/-- Advancing leads to the next task, or to the end with the results of all of them. -/
lemma advance_sound (h : agent.advance state budget = (.ok state', budget')) (task : AtTask state)
    (passed : CurrentPassed state) : Sound state' (agent.edge .advance state') := by
  obtain ⟨current, at_task, plan, index, -, results⟩ := advance_ok h
  have recorded : Recorded state' :=
    .advance task passed (AgentGraphState.currentTask_ok.mp at_task) plan index results
  cases going : state'.stopped with
  | true =>
    simp only [edge, afterAdvance, going, if_true]
    trivial
  | false =>
    obtain ⟨last, edge⟩ | ⟨more, edge | edge⟩ := edge_advance agent going <;> rw [edge]
    · exact ⟨recorded, Nat.le_antisymm recorded.index_le last⟩
    · exact ⟨recorded, more⟩
    · exact ⟨recorded, more⟩

/-- Finalizing keeps the results of all tasks. -/
lemma finalize_sound (h : agent.finalize world state budget = (.ok state', budget'))
    (complete : AtEnd state) : Sound state' (agent.edge .finalize state') := by
  obtain ⟨-, stopped⟩ | ⟨response, model, required, going, rfl, -⟩ := finalize_ok h
  · exact sound_stopped stopped (by decide) (by decide) (by decide)
  · have complete := complete.same
      (.finalized state response agent.settings.llmBackend model required)
    have going : (state.finalized response agent.settings.llmBackend model required).stopped =
        false := going
    rw [edge_finalize going]
    split
    · exact complete
    · trivial

/-- The final verification keeps the results of all tasks. -/
lemma verifyFinal_sound (h : agent.verifyFinal world state budget = (.ok state', budget'))
    (complete : AtEnd state) : Sound state' (agent.edge .verifyFinal state') := by
  obtain ⟨-, stopped⟩ | ⟨report, model, rfl, -, accepted⟩ := verifyFinal_ok h
  · exact sound_stopped stopped (by decide) (by decide) (by decide)
  · cases going : (state.finallyVerified report model).stopped with
    | true => exact sound_stopped going (by decide) (by decide) (by decide)
    | false =>
      rw [edge_verifyFinal going rfl]
      split
      · trivial
      · next other =>
        have left : (state.finallyVerified report model).finalRevisionRounds <
            agent.settings.finalMaxRevisionRounds := accepted.resolve_left other
        rw [if_pos left]
        exact complete.same (.finallyVerified state report model)

/-- A final revision keeps the results of all tasks. -/
lemma atEnd_reviseFinal (h : agent.reviseFinal world state budget = (.ok state', budget'))
    (complete : AtEnd state) : AtEnd state' := by
  obtain ⟨-, same, -⟩ | ⟨-, response, model, rfl⟩ := reviseFinal_ok h
  · exact complete.same same
  · exact complete.same (.finallyRevised state response _ model)

/-- Every step keeps the recorded results in step with the position. -/
theorem Step.sound {c c' : Configuration} (st : agent.Step c world c')
    (sound : Sound c.state c.position) : Sound c'.state c'.position := by
  obtain ⟨position, state, budget⟩ := c
  obtain ⟨node, rfl, -, ⟨state', budget', returned, rfl⟩ | ⟨error, budget', -, rfl⟩⟩ :=
    step_cases st
  · refine sound_withSnapshot ?_
    cases node with
    | plan => exact plan_sound returned
    | research => exact budgeted_sound agent (.inl rfl) (sound.same (research_ok returned).1)
    | worker =>
      refine budgeted_sound agent (.inr (.inl rfl)) (atTask_worked ?_ sound)
      exact (worker_ok returned).imp id fun ⟨result, model, e⟩ => ⟨_, result, model, e⟩
    | verify => exact verify_sound returned sound
    | revise =>
      refine budgeted_sound agent (.inr (.inr (.inl rfl))) (atTask_worked ?_ sound)
      exact (revise_ok returned).imp id fun ⟨result, model, e⟩ => ⟨_, result, model, e⟩
    | replan => exact budgeted_sound agent (.inr (.inr (.inr rfl))) (atTask_replan returned sound)
    | advance => exact advance_sound returned sound.1 sound.2
    | finalize => exact finalize_sound returned sound
    | verifyFinal => exact verifyFinal_sound returned sound
    | reviseFinal => exact atEnd_reviseFinal returned sound
    | terminate => trivial
  · trivial

end Sound

section Runs

variable {now : Time} {events : List (Event Configuration World)} {final : Configuration}

/-- The step executes `verify`, and the model answers with the verdict `terminate`. -/
def TerminalVerdict (agent : ChatAgent) (e : Event Configuration World) : Prop :=
  e.pre.position = .node .verify ∧ VerdictTerminates agent e.label e.pre.state e.pre.budget

/-- Whoever has the results of all tasks has one result for each task of the plan, all passed. -/
lemma atEnd_failClosed (complete : AtEnd state)
    (verified : agent.settings.llmBackend = .ollama →
      agent.settings.finalVerificationEnabled = true → 1 < state.taskResults.length →
      FinallyVerified agent events state) :
    FailClosed agent events state :=
  ⟨complete.results, complete.1.passed, verified⟩

/-- A run that completes at `finalize` needs no final verification. -/
lemma finalize_failClosed (h : agent.finalize world state budget = (.ok state', budget'))
    (going : state'.stopped = false) (finished : agent.edge .finalize state' = .finished)
    (complete : AtEnd state) : FailClosed agent events (state'.withSnapshot budget') := by
  obtain ⟨-, stopped⟩ | ⟨response, model, required, -, rfl, required_iff⟩ := finalize_ok h
  · rw [stopped] at going
    cases going
  · have same : SameProgress state ((state.finalized response agent.settings.llmBackend model
      required).withSnapshot budget') := ⟨rfl, rfl, rfl⟩
    refine atEnd_failClosed (complete.same same) fun ollama enabled several => ?_
    have required := required_iff.mpr ⟨ollama, several, enabled⟩
    subst required
    rw [edge_finalize going] at finished
    cases finished

/-- A run that completes at `verify_final` returns the response that was passed there. -/
lemma verifyFinal_failClosed {c' : Configuration}
    (h : agent.verifyFinal world state budget = (.ok state', budget'))
    (going : state'.stopped = false) (finished : agent.edge .verifyFinal state' = .finished)
    (complete : AtEnd state) :
    FailClosed agent (events ++ [⟨⟨.node .verifyFinal, state, budget⟩, world, c'⟩])
      (state'.withSnapshot budget') := by
  obtain ⟨-, stopped⟩ | ⟨report, model, rfl, answered, -⟩ := verifyFinal_ok h
  · rw [stopped] at going
    cases going
  · have same : SameProgress state ((state.finallyVerified report model).withSnapshot budget') :=
      ⟨rfl, rfl, rfl⟩
    have pass : report.verdict = .pass := by
      rw [edge_verifyFinal going rfl] at finished
      by_contra other
      rw [if_neg other] at finished
      split at finished <;> cases finished
    refine atEnd_failClosed (complete.same same) fun _ _ _ => ?_
    exact ⟨events, _, [], report, model, rfl, rfl, List.forall_mem_nil _, answered, pass,
      report.pass_requires_complete pass, rfl, rfl⟩

/-- The last step of a complete run closes it: it is at `finalize` or at `verify_final`. -/
lemma Step.failClosed {c c' : Configuration} (st : agent.Step c world c')
    (sound : Sound c.state c.position) (finished : c'.position = .finished)
    (going : c'.state.stopped = false) (other : c.position ≠ .node .terminate) :
    FailClosed agent (events ++ [⟨c, world, c'⟩]) c'.state := by
  have last := st.move.finishes finished
  obtain ⟨position, state, budget⟩ := c
  obtain ⟨node, rfl, -, ⟨state', budget', returned, rfl⟩ | ⟨error, budget', -, rfl⟩⟩ :=
    step_cases st
  · obtain at_finalize | at_verifyFinal | at_terminate := last
    · cases at_finalize
      exact finalize_failClosed returned going finished sound
    · cases at_verifyFinal
      exact verifyFinal_failClosed returned going finished sound
    · exact absurd at_terminate other
  · cases finished

/-- The recorded results are in step with the position throughout a run. -/
lemma run_sound (run : Run agent.Step (agent.start state now) events final)
    {e : Event Configuration World} (mem : e ∈ events) :
    Sound e.pre.state e.pre.position ∧ Sound e.post.state e.post.position := by
  refine run.invariant_mem (I := fun c => Sound c.state c.position) (G := fun _ => True)
    ?_ (fun _ _ => trivial) ?_ mem
  · exact fun _ st _ sound => st.sound sound
  · trivial

/-- A verdict `terminate` ends the run with the current task unfinished. -/
lemma terminalVerdict_unfinished (run : Run agent.Step (agent.start state now) events final)
    (finished : final.position = .finished) (completed : final.state.stopped = false)
    {e : Event Configuration World} (mem : e ∈ events) (verdict : agent.TerminalVerdict e) :
    ¬ FailClosed agent events final.state := by
  have sound := (run_sound run mem).2
  have ends := (run.step_of_mem mem).move.verdict_ends verdict.1 verdict.2
  obtain ⟨before, after, rfl⟩ := List.append_of_mem mem
  obtain ⟨middle, -, rest⟩ := run.split
  have rest := rest.head.2.2
  obtain terminate | aborted := ends
  · obtain ⟨rfl, rfl⟩ | ⟨world, rfl, rfl⟩ := run_terminate rest terminate
    · rw [show e.post.position = .node .terminate from terminate] at finished
      cases finished
    · rw [show e.post.position = .node .terminate from terminate] at sound
      obtain stopped | task := sound
      · exact absurd (stopped.symm.trans completed) nofun
      · rintro ⟨⟨plan, planned, results⟩, -, -⟩
        exact task.unfinished planned results
  · obtain ⟨rfl, rfl⟩ := run_over rest (.inr aborted)
    obtain ⟨error, aborted⟩ := aborted
    rw [show e.post.position = _ from aborted] at finished
    cases finished

/-- A run that reached the end with no reason to stop has shown what fail-closed completion asks for,
    exactly when no verdict of its verifications was `terminate`. -/
theorem failClosed_iff (run : Run agent.Step (agent.start state now) events final)
    (finished : final.position = .finished) (completed : final.state.stopped = false) :
    FailClosed agent events final.state ↔ ∀ e ∈ events, ¬ agent.TerminalVerdict e := by
  constructor
  · exact fun closed e mem verdict =>
      terminalVerdict_unfinished run finished completed mem verdict closed
  · intro regular
    obtain rfl | ⟨before, last, rfl⟩ := events.eq_nil_or_concat'
    · cases run
      cases finished
    · have mem : last ∈ before ++ [last] := List.mem_append_right _ (.head _)
      obtain ⟨middle, earlier, rest⟩ := run.split
      obtain ⟨rfl, st, rest⟩ := rest.head
      cases rest
      -- only a verdict `terminate` leads to `terminate` with no reason
      have stops : last.pre.position = .node .terminate → last.pre.state.stopped = true := by
        refine earlier.invariant (I := fun c => c.position = .node .terminate →
          c.state.stopped = true) (G := fun e => ¬ agent.TerminalVerdict e)
          (fun e st regular _ => st.move.terminates_stopped regular) (fun e mem => ?_) nofun
        exact regular e (List.mem_append_left _ mem)
      refine st.failClosed (run_sound run mem).1 finished completed fun terminate => ?_
      obtain ⟨-, other⟩ | ⟨world, -, e⟩ := run_terminate (.single st) terminate
      · rw [other, terminate] at finished
        cases finished
      · rw [e] at completed
        exact absurd ((stops terminate).symm.trans completed) nofun

/-- Two tasks whose synthesis passes the final verification complete the run. -/
theorem failClosed_iff_verified :
    let agent := sampleAgent (sampleSettings .ollama)
    let start := agent.start (sampleState (sampleSettings .ollama)) 0
    let world (_ : Nat) (_ : Configuration) :=
      sampleWorld 1 ⟨.pass, true, [], []⟩ ⟨.pass, true, [], [], fun _ => rfl⟩
    FailClosed agent (agent.trace world start 9) (agent.after world start 9).state ↔
      ∀ e ∈ agent.trace world start 9, ¬ agent.TerminalVerdict e :=
  failClosed_iff (trace_run _ _ 8 (by decide +kernel)) (by decide +kernel) (by decide +kernel)

/-- A verifier that gives up on the only task completes the run with no reason and no result. -/
theorem completes_unfinished :
    ¬ ∀ (agent : ChatAgent) (state : AgentGraphState) (now : Time)
      (events : List (Event Configuration World)) (final : Configuration),
      Run agent.Step (agent.start state now) events final → final.position = .finished →
      final.state.stopped = false → FailClosed agent events final.state := by
  intro claim
  let agent := sampleAgent (sampleSettings .ollama)
  let start := agent.start (sampleState (sampleSettings .ollama)) 0
  let world (_ : Nat) (_ : Configuration) :=
    sampleWorld 0 ⟨.terminate, false, [], []⟩ ⟨.pass, true, [], [], fun _ => rfl⟩
  have run : Run agent.Step start (agent.trace world start 4) (agent.after world start 4) :=
    trace_run _ _ 3 (by decide +kernel)
  have finished : (agent.after world start 4).position = .finished := by decide +kernel
  have completed : (agent.after world start 4).state.stopped = false := by decide +kernel
  refine terminalVerdict_unfinished run finished completed
    (mem_trace world start (show 2 < 4 by decide)) ⟨by decide +kernel, rfl, ?_⟩
    (claim _ _ _ _ _ run finished completed)
  exact ⟨⟨"t0", "first", [], [], []⟩, ⟨.terminate, false, [], []⟩, "phi4-mini-reasoning:latest",
    by decide +kernel, by decide +kernel, rfl⟩

end Runs

end ChatAgent

end AgentRuntime.Graph
