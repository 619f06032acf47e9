import AgentRuntime.Graph.Completion
import AgentRuntime.Graph.Research
import AgentRuntime.Graph.Segments

/-!
# The shape of the state

What the nodes take for granted about the state they are given: that there is a current task, and a result
of the worker. And what the edges take for granted: that the label a routing function returns is a key of
the map it is registered with. `after_advance` can return a label that its map does not have; the states
behind `advance` never make it do so.
-/

namespace AgentRuntime.Graph
open Orchestration Transition

/-- The node looks up the current task first. -/
def Node.looksUpTask : Node → Bool
  | .research | .worker | .verify | .revise | .advance => true
  | _ => false

/-- The node reads the result of the worker. -/
def Node.readsResult : Node → Bool
  | .verify | .revise | .advance => true
  | _ => false

namespace ChatAgent

variable (agent : ChatAgent)

/-- The routing function that `_build_graph` registers for a node, if its edge is conditional. -/
def router? (agent : ChatAgent) : Node → Option (AgentGraphState → Route)
  | .plan => some afterPlan
  | .research | .worker | .revise | .replan => some afterBudgetedStep
  | .verify => some afterVerification
  | .advance => some afterAdvance
  | .finalize => some afterFinalize
  | .verifyFinal => some (afterFinalVerification agent.settings)
  | .reviseFinal | .terminate => none

/-- The map that the routing function is registered with. -/
def edgeMap : Node → List (Route × Position)
  | .plan => [(.research, .node .research), (.worker, .node .worker), (.terminate, .node .terminate)]
  | .research | .replan => [(.proceed, .node .worker), (.terminate, .node .terminate)]
  | .worker | .revise => [(.proceed, .node .verify), (.terminate, .node .terminate)]
  | .verify =>
    [(.advance, .node .advance), (.revise, .node .revise), (.research, .node .research),
      (.replan, .node .replan), (.terminate, .node .terminate)]
  | .advance => [(.research, .node .research), (.worker, .node .worker), (.finalize, .node .finalize)]
  | .finalize =>
    [(.complete, .finished), (.verifyFinal, .node .verifyFinal), (.terminate, .node .terminate)]
  | .verifyFinal =>
    [(.complete, .finished), (.reviseFinal, .node .reviseFinal), (.terminate, .node .terminate)]
  | .reviseFinal | .terminate => []

variable {agent} {world : World} {state state' : AgentGraphState} {budget budget' : ExecutionBudget}

/-- A conditional edge follows the label of its routing function. -/
lemma edge_follows {node : Node} {router : AgentGraphState → Route}
    (registered : agent.router? node = some router) :
    agent.edge node state = follow (edgeMap node) (router state) := by
  cases node with
  | reviseFinal | terminate => cases registered
  | _ =>
    cases registered
    rfl

/-- Only `after_advance` returns a label that its map does not have, in a stopped state. -/
lemma label_listed {node : Node} {router : AgentGraphState → Route}
    (registered : agent.router? node = some router)
    (going : node = .advance → state.stopped = false) : router state ∈ (edgeMap node).map Prod.fst := by
  cases node with
  | reviseFinal | terminate => cases registered
  | plan =>
    cases registered
    unfold afterPlan
    split
    · decide
    · split <;> decide
  | research | worker | revise | replan =>
    cases registered
    unfold afterBudgetedStep
    split <;> decide
  | verify =>
    cases registered
    unfold afterVerification
    split
    · decide
    · split
      · decide
      · split
        · split <;> decide
        all_goals decide
  | advance =>
    cases registered
    rw [afterAdvance, going rfl, if_neg Bool.false_ne_true]
    split
    · decide
    · split <;> decide
  | finalize =>
    cases registered
    unfold afterFinalize
    split
    · decide
    · split <;> decide
  | verifyFinal =>
    cases registered
    unfold afterFinalVerification
    split
    · decide
    · dsimp only
      split
      all_goals
        split
        · decide
        · split <;> decide

/-- The state has what the node at the position takes for granted. -/
structure Shaped (state : AgentGraphState) (position : Position) : Prop where
  sound : Sound state position
  result : ∀ node, position = .node node → node.readsResult = true → state.workerResult ≠ none
  going : position = .node .advance → state.stopped = false

/-- What follows the label of a routing function is in its map. -/
lemma mem_of_follow {targets : List (Route × Position)} {route : Route} {node : Node}
    (follows : follow targets route = .node node) : (route, .node node) ∈ targets := by
  rw [follow] at follows
  cases found : targets.lookup route with
  | none =>
    rw [found] at follows
    cases follows
  | some position =>
    rw [found] at follows
    cases follows
    obtain ⟨before, after, rfl, -⟩ := List.lookup_eq_some_iff.mp found
    simp

/-- The other maps name no node that reads the worker's result. -/
lemma edgeMap_quiet {node : Node} (other : node ∉ [.worker, .revise, .verify]) :
    (edgeMap node).all (fun entry => match entry.2 with
      | .node next => !next.readsResult
      | _ => true) = true := by
  cases node with
  | worker | revise | verify => exact absurd other (by decide)
  | _ => rfl

/-- Only the worker, a revision and a verification lead to a node that reads the worker's result, and only
    when the run goes on. -/
lemma edge_reads {node next : Node} (edge : agent.edge node state = .node next)
    (reads : next.readsResult = true) :
    state.stopped = false ∧ (node = .worker ∨ node = .revise ∨ node = .verify) := by
  have source : node = .worker ∨ node = .revise ∨ node = .verify := by
    cases node with
    | worker | revise | verify => decide
    | reviseFinal =>
      cases edge
      cases reads
    | terminate => cases edge
    | _ =>
      rw [edge_follows rfl] at edge
      have quiet : (!next.readsResult) = true :=
        List.all_eq_true.mp (edgeMap_quiet (by decide)) _ (mem_of_follow edge)
      rw [reads] at quiet
      cases quiet
  refine ⟨?_, source⟩
  cases stopped : state.stopped with
  | false => rfl
  | true =>
    have terminates : agent.edge node state = .node .terminate := by
      refine edge_stopped stopped ?_ ?_ ?_ <;> rintro rfl <;> exact absurd source (by decide)
    rw [terminates] at edge
    cases edge
    cases reads

/-- `_advance` finds the task it comes to. -/
lemma advance_total (agent : ChatAgent) (budget : ExecutionBudget)
    (within : state.taskIndex < state.tasks.length) :
    ∃ state', agent.advance state budget = (.ok state', budget) := by
  have current : state.currentTask = .ok state.tasks[state.taskIndex] :=
    AgentGraphState.currentTask_ok.mpr (List.getElem?_eq_getElem within)
  simp only [advance, current]
  split
  · next more =>
    have next : (state.advanced state.tasks[state.taskIndex]).currentTask = .ok _ :=
      AgentGraphState.currentTask_ok.mpr (List.getElem?_eq_getElem more)
    obtain ⟨state', decided⟩ := AgentGraphState.setNextAction_total agent.router next
    exact ⟨state', by rw [decided]⟩
  · exact ⟨_, rfl⟩

variable {c c' : Configuration}

/-- Every step keeps the state in shape. -/
lemma Step.shaped (st : agent.Step c world c') (shaped : Shaped c.state c.position) :
    Shaped c'.state c'.position := by
  refine ⟨st.sound shaped.sound, fun next position reads => ?_, fun position => ?_⟩
  · obtain ⟨node, at_node, -, ⟨state', budget, returned, rfl⟩ | ⟨error, budget, -, rfl⟩⟩ := step_cases st
    · obtain ⟨going, source⟩ := edge_reads position reads
      obtain rfl | rfl | rfl := source
      · obtain ⟨reason, ne, rfl⟩ | ⟨result, model, rfl⟩ := worker_ok returned
        · exact absurd (decide_eq_true ne) (Bool.eq_false_iff.mp going)
        · exact Option.some_ne_none _
      · obtain ⟨reason, ne, rfl⟩ | ⟨result, model, rfl⟩ := revise_ok returned
        · exact absurd (decide_eq_true ne) (Bool.eq_false_iff.mp going)
        · exact Option.some_ne_none _
      · have result := shaped.result .verify at_node rfl
        obtain ⟨exc, -, rfl⟩ | ⟨report, grounding, model, rfl, -⟩ := verify_ok returned
        · exact result
        · exact result
    · cases position
  · exact st.move.entered_going (.inr position)

end ChatAgent

namespace DurableRun

variable {agent : ChatAgent} {state : AgentGraphState} {now : Time}
  {events : List (Event DurableRun DurableStep)} {r : DurableRun}

/-- The current state and the last checkpoint are in shape. -/
def Shaped (r : DurableRun) : Prop :=
  ChatAgent.Shaped r.current.state r.current.position ∧
    ChatAgent.Shaped r.checkpoint.state r.checkpoint.position

lemma Step.shaped {r' : DurableRun} {step : DurableStep} (st : Step agent r step r') (shaped : Shaped r) :
    Shaped r' := by
  cases step with
  | node world =>
    simp only [Step, take] at st
    split at st
    · next node position =>
      cases st
      have step : agent.Step r.current world (agent.execute node world r.current) := ⟨node, position, rfl⟩
      have next := step.shaped shaped.1
      refine ⟨next, ?_⟩
      simp only [save]
      split
      · exact shaped.2
      · exact next
    · cases st
    · cases st
  | resume now =>
    cases st
    exact ⟨shaped.2, shaped.2⟩

lemma shaped_start : Shaped (start agent state now) := by
  have first : ChatAgent.Shaped state (.node .plan) := ⟨trivial, by rintro _ ⟨⟩ ⟨⟩, nofun⟩
  exact ⟨first, first⟩

/-- In every state that a run reaches, through any answers and any resumes: there is a current task at every
    node that looks it up, and a result at every node that reads it; `advance` finds its tasks; and after a node
    that returns, the label of its routing function is in the map. -/
theorem shapes_kept (run : Run (Step agent) (start agent state now) events r) {node : Node}
    (position : r.current.position = .node node) :
    (node.looksUpTask = true → r.current.state.taskIndex < r.current.state.tasks.length) ∧
      (node.readsResult = true → ∃ result, r.current.state.workerResult = some result) ∧
      (node = .advance → ∃ state', agent.advance r.current.state r.current.budget =
        (.ok state', r.current.budget)) ∧
      ∀ world state' budget, agent.run world r.current.state r.current.budget node = (.ok state', budget) →
        ∀ router, agent.router? node = some router →
          router state' ∈ (ChatAgent.edgeMap node).map Prod.fst := by
  have shaped := run.invariant (I := Shaped) (G := fun _ => True) (fun _ st _ shaped => st.shaped shaped)
    (fun _ _ => trivial) shaped_start
  obtain ⟨⟨sound, result, going⟩, -⟩ := shaped
  rw [position] at sound going
  refine ⟨fun looks => ?_, fun reads => ?_, fun advance => ?_, fun world state' budget returned router
    registered => ?_⟩
  · cases node with
    | research | worker | verify | revise => exact sound.2
    | advance => exact sound.1.2
    | _ => cases looks
  · exact Option.ne_none_iff_exists'.mp (result node position reads)
  · subst advance
    exact ChatAgent.advance_total agent _ sound.1.2
  · refine ChatAgent.label_listed registered fun advance => ?_
    subst advance
    obtain ⟨-, -, -, -, stopped, -⟩ := ChatAgent.advance_ok returned
    exact stopped.trans (going rfl)

/-- After the plan, an answer and its verification, a task and a result of the worker are there to record. -/
theorem shapes_kept_sample :
    let agent := sampleAgent (sampleSettings .echo)
    let world := sampleWorld 1 ⟨.pass, true, [], []⟩ ⟨.pass, true, [], [], fun _ => rfl⟩
    let r := (play (take agent) (start agent (sampleState (sampleSettings .echo)) 0)
      [.node world, .node world, .node world]).2
    r.current.state.taskIndex < r.current.state.tasks.length ∧
      ∃ result, r.current.state.workerResult = some result := by
  intro agent world r
  have run := play_run (by decide +kernel : possible (take agent)
    (start agent (sampleState (sampleSettings .echo)) 0) [.node world, .node world, .node world] = true)
  have position : r.current.position = .node .advance := by decide +kernel
  obtain ⟨index, result, -⟩ := shapes_kept run position
  exact ⟨index rfl, result rfl⟩

end DurableRun

end AgentRuntime.Graph
