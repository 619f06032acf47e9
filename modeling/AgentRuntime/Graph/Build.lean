import AgentRuntime.Graph.Outcomes
import AgentRuntime.Lib.Run

/-!
# The compiled graph

Port of `_build_graph` in `graph.py`: the eleven nodes, their edges, and the invocation of the compiled
graph as a labelled step relation. A configuration is a position, the state as last checkpointed and the
request's meter. One step executes the node at the position; its label is what the outside world answers
meanwhile. The framework follows the declared edges and imposes no limit of its own.
-/

namespace AgentRuntime.Graph
open Orchestration Transition

/-- Where an invocation is: at a node that is executed next, at the end of the graph, or left by an
    exception. -/
inductive Position where
  | node (node : Node)
  | finished
  | aborted (error : GraphError)
deriving DecidableEq

/-- An invocation of the graph between two nodes. -/
structure Configuration where
  position : Position
  state : AgentGraphState
  budget : ExecutionBudget

namespace Configuration

/-- The invocation is over. -/
def ended (c : Configuration) : Bool :=
  match c.position with
  | .node _ => false
  | .finished | .aborted _ => true

end Configuration

/-- The state with a snapshot of the meter, as every state update of a node takes one
    (source `_state_update`). -/
def AgentGraphState.withSnapshot (state : AgentGraphState) (budget : ExecutionBudget) :
    AgentGraphState :=
  { state with executionMeterState := some budget.state }

namespace ChatAgent

/-- Follow a conditional edge: a key that the edge does not list is an error. -/
def follow (targets : List (Route × Position)) (route : Route) : Position :=
  (targets.lookup route).getD (.aborted (.raised "KeyError"))

/-- The edges out of a node, as `_build_graph` declares them. -/
def edge (agent : ChatAgent) : Node → AgentGraphState → Position
  | .plan, state =>
    follow [(.research, .node .research), (.worker, .node .worker), (.terminate, .node .terminate)]
      (afterPlan state)
  | .research, state =>
    follow [(.proceed, .node .worker), (.terminate, .node .terminate)] (afterBudgetedStep state)
  | .worker, state =>
    follow [(.proceed, .node .verify), (.terminate, .node .terminate)] (afterBudgetedStep state)
  | .revise, state =>
    follow [(.proceed, .node .verify), (.terminate, .node .terminate)] (afterBudgetedStep state)
  | .replan, state =>
    follow [(.proceed, .node .worker), (.terminate, .node .terminate)] (afterBudgetedStep state)
  | .verify, state =>
    follow
      [(.advance, .node .advance), (.revise, .node .revise), (.research, .node .research),
        (.replan, .node .replan), (.terminate, .node .terminate)]
      (afterVerification state)
  | .advance, state =>
    follow [(.research, .node .research), (.worker, .node .worker), (.finalize, .node .finalize)]
      (afterAdvance state)
  | .finalize, state =>
    follow
      [(.complete, .finished), (.verifyFinal, .node .verifyFinal), (.terminate, .node .terminate)]
      (afterFinalize state)
  | .verifyFinal, state =>
    follow
      [(.complete, .finished), (.reviseFinal, .node .reviseFinal), (.terminate, .node .terminate)]
      (afterFinalVerification agent.settings state)
  | .reviseFinal, _ => .node .verifyFinal
  | .terminate, _ => .finished

/-- The function of a node. -/
def run (agent : ChatAgent) (world : World) (state : AgentGraphState) (budget : ExecutionBudget) :
    Node → Metered AgentGraphState
  | .plan => agent.plan world state budget
  | .research => agent.research world state budget
  | .worker => agent.worker world state budget
  | .verify => agent.verify world state budget
  | .revise => agent.revise world state budget
  | .replan => agent.replan world state budget
  | .advance => agent.advance state budget
  | .finalize => agent.finalize world state budget
  | .verifyFinal => agent.verifyFinal world state budget
  | .reviseFinal => agent.reviseFinal world state budget
  | .terminate => (.ok (agent.terminate state), budget)

/-- Execute one node; an exception leaves the state as it was checkpointed. -/
def execute (agent : ChatAgent) (node : Node) (world : World) (c : Configuration) : Configuration :=
  match agent.run world c.state c.budget node with
  | (.ok state, budget) => ⟨agent.edge node state, state.withSnapshot budget, budget⟩
  | (.error error, budget) => ⟨.aborted error, c.state, budget⟩

/-- One step of an invocation executes the node at its position. -/
def Step (agent : ChatAgent) (c : Configuration) (world : World) (c' : Configuration) : Prop :=
  ∃ node, c.position = .node node ∧ c' = agent.execute node world c

/-- An invocation starts at the node `plan`, with a fresh meter (sources `_build_graph` and
    `_execute_run`). -/
def start (agent : ChatAgent) (state : AgentGraphState) (now : Time) : Configuration :=
  { position := .node .plan
    state := state
    budget := .fresh now agent.settings.executionMaxDuration agent.settings.executionMaxModelCalls
      agent.settings.executionMaxToolCalls agent.settings.executionMaxVerifierRounds }

variable {agent : ChatAgent} {state : AgentGraphState}

/-- The meter that the operations of a node start from: `verify` has counted its round. -/
def counted (node : Node) (budget : ExecutionBudget) : ExecutionBudget :=
  if node = .verify then countVerifierRound budget else budget

/-- A node operates the meter, and only `verify` counts a round of the verifier. -/
lemma run_meters {world : World} {budget : ExecutionBudget} {node : Node} :
    Meters (counted node budget) (agent.run world state budget node).2 := by
  cases node with
  | plan => exact plan_meters
  | research => exact research_meters
  | worker => exact worker_meters
  | verify => exact verify_meters
  | revise => exact revise_meters
  | replan => exact replan_meters
  | advance =>
    rw [run, advance_budget]
    exact .refl
  | finalize => exact finalize_meters
  | verifyFinal => exact verifyFinal_meters
  | reviseFinal => exact reviseFinal_meters
  | terminate => exact .refl

lemma run_frame {world : World} {budget : ExecutionBudget} {node : Node} :
    Frame (counted node budget) (agent.run world state budget node).2 := run_meters.frame

/-- A step returns a state and follows an edge, or is left by an exception. -/
lemma step_cases {c c' : Configuration} {world : World} (h : agent.Step c world c') :
    ∃ node, c.position = .node node ∧ Frame (counted node c.budget) c'.budget ∧
      ((∃ state budget, agent.run world c.state c.budget node = (.ok state, budget) ∧
          c' = ⟨agent.edge node state, state.withSnapshot budget, budget⟩) ∨
        ∃ error budget, agent.run world c.state c.budget node = (.error error, budget) ∧
          c' = ⟨.aborted error, c.state, budget⟩) := by
  obtain ⟨node, position, rfl⟩ := h
  have frame : Frame (counted node c.budget) (agent.run world c.state c.budget node).2 := run_frame
  refine ⟨node, position, ?_⟩
  simp only [execute]
  split
  · next returned =>
    rw [returned] at frame
    exact ⟨frame, .inl ⟨_, _, returned, rfl⟩⟩
  · next raised =>
    rw [raised] at frame
    exact ⟨frame, .inr ⟨_, _, raised, rfl⟩⟩

section Edges

/-- A stopped state leads to `terminate` from a node whose edge asks for it. -/
lemma edge_stopped {node : Node} (stopped : state.stopped = true) (advance : node ≠ .advance)
    (reviseFinal : node ≠ .reviseFinal) (terminate : node ≠ .terminate) :
    agent.edge node state = .node .terminate := by
  cases node with
  | advance => exact absurd rfl advance
  | reviseFinal => exact absurd rfl reviseFinal
  | terminate => exact absurd rfl terminate
  | _ =>
    simp only [edge, afterPlan, afterBudgetedStep, afterVerification, afterFinalize,
      afterFinalVerification, stopped, if_true]
    rfl

/-- After planning, the first task is researched or worked on. -/
lemma edge_plan (agent : ChatAgent) (going : state.stopped = false) :
    agent.edge .plan state = .node .research ∨ agent.edge .plan state = .node .worker := by
  simp only [edge, afterPlan, going, Bool.false_eq_true, if_false]
  split
  · exact .inl rfl
  · exact .inr rfl

/-- A budgeted step goes on to its next node. -/
lemma edge_budgeted (agent : ChatAgent) (going : state.stopped = false) :
    agent.edge .research state = .node .worker ∧ agent.edge .worker state = .node .verify ∧
      agent.edge .revise state = .node .verify ∧ agent.edge .replan state = .node .worker := by
  simp only [edge, afterBudgetedStep, going, Bool.false_eq_true, if_false]
  exact ⟨rfl, rfl, rfl, rfl⟩

/-- After verification, the report's verdict decides. -/
lemma edge_verify {report : VerificationReport} (going : state.stopped = false)
    (verification : state.verification = some report) :
    agent.edge .verify state = .node (match report.verdict with
      | .pass => if report.taskComplete then .advance else .revise
      | .revise => .revise
      | .research => .research
      | .replan => .replan
      | .terminate => .terminate) := by
  simp only [edge, afterVerification, going, Bool.false_eq_true, if_false, verification]
  cases report.verdict with
  | pass => cases report.taskComplete <;> rfl
  | _ => rfl

/-- After advancing, the next task follows, or the response is finalized. -/
lemma edge_advance (agent : ChatAgent) (going : state.stopped = false) :
    (state.tasks.length ≤ state.taskIndex ∧ agent.edge .advance state = .node .finalize) ∨
      state.taskIndex < state.tasks.length ∧ (agent.edge .advance state = .node .research ∨
        agent.edge .advance state = .node .worker) := by
  simp only [edge, afterAdvance, going, Bool.false_eq_true, if_false]
  split
  · next last => exact .inl ⟨last, rfl⟩
  · next more =>
    refine .inr ⟨Nat.not_le.mp more, ?_⟩
    split
    · exact .inl rfl
    · exact .inr rfl

/-- After finalizing, the response is verified when that is required, else the run is complete. -/
lemma edge_finalize (going : state.stopped = false) :
    agent.edge .finalize state =
      if state.finalVerificationRequired then .node .verifyFinal else .finished := by
  simp only [edge, afterFinalize, going, Bool.false_eq_true, if_false]
  cases state.finalVerificationRequired <;> rfl

/-- After a final verification, a pass completes the run, and anything else is revised while rounds
    are left. -/
lemma edge_verifyFinal {report : FinalVerificationReport} (going : state.stopped = false)
    (verification : state.finalVerification = some report) :
    agent.edge .verifyFinal state =
      if report.verdict = .pass then .finished
      else if state.finalRevisionRounds < agent.settings.finalMaxRevisionRounds then
        .node .reviseFinal
      else .node .terminate := by
  simp only [edge, afterFinalVerification, going, Bool.false_eq_true, if_false, verification]
  by_cases pass : report.verdict = .pass
  · simp [pass, report.pass_requires_complete pass, follow]
  · simp only [pass, decide_false, Bool.false_and, Bool.false_eq_true, if_false]
    split <;> rfl

/-- An edge leads to no refusal of the meter. -/
lemma edge_not_refused {node : Node} {exc : BudgetExceeded} :
    agent.edge node state ≠ .aborted (.budgetExceeded exc) := by
  have follows : ∀ {targets : List (Route × Position)} {route : Route},
      (∀ target ∈ targets, target.2 ≠ .aborted (.budgetExceeded exc)) →
        follow targets route ≠ .aborted (.budgetExceeded exc) := by
    intro targets route others
    simp only [follow]
    cases found : targets.lookup route with
    | none => nofun
    | some position =>
      obtain ⟨before, after, rfl, -⟩ := List.lookup_eq_some_iff.mp found
      exact others (route, position) (by simp)
  cases node with
  | reviseFinal | terminate => nofun
  | _ => exact follows (by simp)

end Edges

section Invocation

/-- The configuration after the next node, in a world that answers; an ended invocation stays. -/
def next (agent : ChatAgent) (world : World) (c : Configuration) : Configuration :=
  match c.position with
  | .node node => agent.execute node world c
  | .finished | .aborted _ => c

/-- The configuration after so many nodes, when the world answers each node as `world` says, which may
    depend on all that has happened. -/
def after (agent : ChatAgent) (world : Nat → Configuration → World) (c : Configuration) :
    Nat → Configuration
  | 0 => c
  | n + 1 => agent.next (world n (agent.after world c n)) (agent.after world c n)

/-- The events of the first nodes of an invocation. -/
def trace (agent : ChatAgent) (world : Nat → Configuration → World) (c : Configuration) :
    Nat → List (Event Configuration World)
  | 0 => []
  | n + 1 => agent.trace world c n ++
      [⟨agent.after world c n, world n (agent.after world c n), agent.after world c (n + 1)⟩]

/-- There is one event for each node. -/
lemma length_trace (world : Nat → Configuration → World) (c : Configuration) (n : Nat) :
    (agent.trace world c n).length = n := by
  induction n with
  | zero => rfl
  | succ n ih => simp [trace, ih]

/-- A run from a configuration that is over has no steps. -/
lemma run_over {c final : Configuration} {events : List (Event Configuration World)}
    (run : Run agent.Step c events final)
    (ended : c.position = .finished ∨ ∃ error, c.position = .aborted error) :
    events = [] ∧ final = c := by
  cases run with
  | nil => exact ⟨rfl, rfl⟩
  | cons st _ =>
    obtain ⟨node, position, -⟩ := st
    obtain finished | ⟨error, aborted⟩ := ended
    · rw [position] at finished
      cases finished
    · rw [position] at aborted
      cases aborted

/-- A run from `terminate` executes that node at most. -/
lemma run_terminate {c final : Configuration} {events : List (Event Configuration World)}
    (run : Run agent.Step c events final) (position : c.position = .node .terminate) :
    (events = [] ∧ final = c) ∨ ∃ world, events = [⟨c, world, final⟩] ∧
      final = ⟨.finished, (agent.terminate c.state).withSnapshot c.budget, c.budget⟩ := by
  cases run with
  | nil => exact .inl ⟨rfl, rfl⟩
  | cons st rest =>
    obtain ⟨node, at_node, rfl⟩ := st
    rw [position] at at_node
    cases at_node
    obtain ⟨rfl, rfl⟩ := run_over rest (.inl rfl)
    exact .inr ⟨_, rfl, rfl⟩

/-- An ended invocation stays ended. -/
lemma next_ended {world : World} {c : Configuration} (ended : c.ended = true) :
    (agent.next world c).ended = true := by
  simp only [next]
  split
  · next position => simp [Configuration.ended, position] at ended
  · exact ended
  · exact ended

/-- The node at the position of an invocation that goes on is executed. -/
lemma next_step {world : World} {c : Configuration} (going : c.ended = false) :
    agent.Step c world (agent.next world c) := by
  simp only [next]
  split
  · next node position => exact ⟨node, position, rfl⟩
  · next position => simp [Configuration.ended, position] at going
  · next position => simp [Configuration.ended, position] at going

/-- The first nodes of an invocation are a run when it has not ended before the last of them. -/
lemma trace_run (world : Nat → Configuration → World) (c : Configuration) (n : Nat)
    (going : (agent.after world c n).ended = false) :
    Run agent.Step c (agent.trace world c (n + 1)) (agent.after world c (n + 1)) := by
  induction n with
  | zero => exact .single (next_step going)
  | succ n ih =>
    have before : (agent.after world c n).ended = false := by
      rw [Bool.eq_false_iff] at going ⊢
      exact fun ended => going (next_ended ended)
    exact (ih before).append (.single (next_step going))

/-- The event of each of the first nodes is in the trace. -/
lemma mem_trace (world : Nat → Configuration → World) (c : Configuration) {i n : Nat} (h : i < n) :
    ⟨agent.after world c i, world i (agent.after world c i), agent.after world c (i + 1)⟩ ∈
      agent.trace world c n := by
  induction n with
  | zero => exact absurd h (Nat.not_lt_zero i)
  | succ n ih =>
    obtain earlier | rfl := Nat.lt_succ_iff_lt_or_eq.mp h
    · exact List.mem_append_left _ (ih earlier)
    · exact List.mem_append_right _ (.head _)

end Invocation

end ChatAgent

section Samples

/-- An operation that the model server answers with one value at the first call. -/
def Operation.always {α : Type} (value : α) : Operation α :=
  { now := 0, attempt := fun _ => { now := 0, reply := .valid value } }

/-- An agent for examples: no task needs evidence, and one model serves every role. -/
def sampleAgent (settings : Settings) : ChatAgent where
  settings := settings
  router :=
    { classifyTask := fun _ _ => ⟨false, .general, .fastReasoning, "general task"⟩
      buildResearchQueries := fun _ message _ _ _ => [message]
      selectTools := fun _ _ _ _ _ _ _ => []
      queryFingerprint := id }
  reader :=
    { result := fun _ _ _ => emptyReading
      content := fun _ => emptyReading
      entryId := fun _ _ => "user" }
  lower := id

/-- A world for examples: a plan of one task and `more` others, an answer to each, and reports. -/
def sampleWorld (more : Nat) (report : VerificationReport) (finalReport : FinalVerificationReport) :
    World where
  now := 0
  plans := .always
    { goal := "goal"
      tasks := ⟨"t0", "first", [], [], []⟩ :: List.replicate more ⟨"t1", "next", [], [], []⟩
      nonempty := nofun }
  results := .always { answer := "an answer" }
  reports := .always report
  finalReports := .always finalReport
  texts := .always "a synthesis"
  tools := fun _ _ => Tools.openWorld "search"

/-- Settings for examples, with enough model calls for a few tasks. -/
def sampleSettings (backend : LlmBackend) : Settings :=
  { llmBackend := backend
    modelPlanner := "planner"
    modelGeneral := "general"
    modelFallback := "fallback"
    executionMaxModelCalls := 20 }

/-- A fresh state for examples. -/
def sampleState (settings : Settings) : AgentGraphState :=
  buildFreshRunState "question" "run" [] ⟨[], []⟩ settings.llmBackend

end Samples

end AgentRuntime.Graph
