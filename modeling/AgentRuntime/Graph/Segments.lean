import AgentRuntime.Graph.Limits

/-!
# Runs of several segments

A durable run is executed in segments: a request is interrupted, between two nodes or inside one, and a
later request resumes the run with its token. Then the graph goes on from its last checkpoint, which has
a snapshot of the meter in its state. `_execute_run` does not read the snapshot: it makes a fresh meter
for every request, so each segment has the whole budget again.
-/

namespace AgentRuntime.Graph
open ChatAgent Orchestration Transition

/-- Counted attempts and rounds. -/
structure Work where
  models : Nat
  tools : Nat
  rounds : Nat
deriving DecidableEq

namespace Work

/-- What a meter has counted. -/
def of (budget : ExecutionBudget) : Work :=
  ⟨budget.state.physicalModelAttempts, budget.state.toolAttempts, budget.state.verifierRounds⟩

def add (a b : Work) : Work := ⟨a.models + b.models, a.tools + b.tools, a.rounds + b.rounds⟩

def none : Work := ⟨0, 0, 0⟩

@[simp] lemma none_add (a : Work) : none.add a = a := by simp [none, add]

@[simp] lemma add_none (a : Work) : a.add none = a := by simp [none, add]

/-- The work is within the budgets of the settings; the round of the verifier that is refused counts. -/
structure Within (settings : Settings) (work : Work) : Prop where
  models : work.models ≤ settings.executionMaxModelCalls
  tools : work.tools ≤ settings.executionMaxToolCalls
  rounds : work.rounds ≤ settings.executionMaxVerifierRounds + 1

end Work

/-- The last checkpoint of a run: the state, and the position at which the graph goes on. -/
structure Checkpoint where
  position : Position
  state : AgentGraphState

/-- A durable run: the segment in execution, the last checkpoint, and the work of the earlier segments. -/
structure DurableRun where
  current : Configuration
  checkpoint : Checkpoint
  earlier : Work

/-- What happens to a durable run: a node is executed, or the request is interrupted and the run is
    resumed at this time. An interruption inside a node is the execution of a node that is left by an
    exception, followed by a resume. -/
inductive DurableStep where
  | node (world : World)
  | resume (now : Time)

namespace DurableRun

variable (agent : ChatAgent)

/-- The first request starts the run. -/
def start (state : AgentGraphState) (now : Time) : DurableRun where
  current := agent.start state now
  checkpoint := ⟨.node .plan, state⟩
  earlier := .none

/-- The work of all segments. -/
def total (r : DurableRun) : Work := r.earlier.add (.of r.current.budget)

/-- A node that is left by an exception writes no checkpoint. -/
def save (checkpoint : Checkpoint) (c : Configuration) : Checkpoint :=
  match c.position with
  | .aborted _ => checkpoint
  | position => ⟨position, c.state⟩

/-- The run after a step, where it can be made. A resume starts a fresh meter, and the graph goes on from
    the checkpoint (source `_execute_run`). -/
def take (r : DurableRun) : DurableStep → Option DurableRun
  | .node world =>
    match r.current.position with
    | .node node =>
      let current := agent.execute node world r.current
      some { r with current := current, checkpoint := save r.checkpoint current }
    | .finished | .aborted _ => none
  | .resume now => some
    { current := { agent.start r.checkpoint.state now with position := r.checkpoint.position }
      checkpoint := r.checkpoint
      earlier := r.total }

def Step (r : DurableRun) (step : DurableStep) (r' : DurableRun) : Prop := r.take agent step = some r'

/-- The graph has come to its end, or no segment so far has counted an attempt or a round. -/
def Harmless (r : DurableRun) : Prop := r.checkpoint.position = .finished ∨ r.total = .none

/-- What holds of every segment: its meter has the limits of the settings and is within them, and the
    graph can go on from the checkpoint under its limits. -/
structure Inv (r : DurableRun) : Prop where
  maxModelCalls : r.current.budget.maxModelCalls = agent.settings.executionMaxModelCalls
  maxToolCalls : r.current.budget.maxToolCalls = agent.settings.executionMaxToolCalls
  limited : agent.Limited r.current
  resumable : Control.WithinLimits agent.settings.executionMaxVerifierRounds
    agent.settings.finalMaxRevisionRounds
    ⟨r.checkpoint.position, 0, r.checkpoint.state.finalRevisionRounds, r.checkpoint.state.stopped⟩
  segment : (Work.of r.current.budget).Within agent.settings

variable {agent} {r r' : DurableRun}

/-- A node of a durable run is a step of the graph. -/
lemma step_node {world : World} (st : r.Step agent (.node world) r') :
    agent.Step r.current world r'.current ∧ r'.checkpoint = save r.checkpoint r'.current ∧
      r'.earlier = r.earlier := by
  simp only [Step, take] at st
  split at st
  · next node position =>
    cases st
    exact ⟨⟨node, position, rfl⟩, rfl, rfl⟩
  · cases st
  · cases st

lemma withinLimits_fresh {V F v r : Nat} {b : Bool} {position : Position}
    (within : Control.WithinLimits V F ⟨position, v, r, b⟩) :
    Control.WithinLimits V F ⟨position, 0, r, b⟩ := by
  cases position with
  | node n => cases n <;> simp_all [Control.WithinLimits]
  | _ => trivial

/-- A node counts a round of the verifier only within the limit and one. -/
lemma rounds_within {world : World} {c c' : Configuration} (st : agent.Step c world c')
    (limited : agent.Limited c)
    (rounds : c.budget.state.verifierRounds ≤ agent.settings.executionMaxVerifierRounds + 1) :
    c'.budget.state.verifierRounds ≤ agent.settings.executionMaxVerifierRounds + 1 := by
  obtain ⟨node, position, frame, -⟩ := ChatAgent.step_cases st
  rw [frame.verifierRounds, ChatAgent.counted]
  split
  · next verify =>
    have within := limited.2
    rw [Control.WithinLimits, show c.control.position = .node .verify from verify ▸ position] at within
    exact Nat.succ_le_succ within
  · exact rounds

lemma Inv.start (agent : ChatAgent) (state : AgentGraphState) (now : Time) :
    Inv agent (start agent state now) :=
  ⟨rfl, rfl, ChatAgent.limited_start, Nat.zero_le _, ⟨Nat.zero_le _, Nat.zero_le _, Nat.zero_le _⟩⟩

lemma Inv.step {step : DurableStep} (inv : Inv agent r) (st : r.Step agent step r') : Inv agent r' := by
  cases step with
  | node world =>
    obtain ⟨moved, checkpoint, -⟩ := step_node st
    have spends := moved.spends
    have limited := (moved.limited inv.limited).1
    refine ⟨spends.maxModelCalls.trans inv.maxModelCalls, spends.maxToolCalls.trans inv.maxToolCalls,
      limited, ?_, ?_, ?_, rounds_within moved inv.limited inv.segment.rounds⟩
    · rw [checkpoint, save]
      split
      · exact inv.resumable
      · exact withinLimits_fresh limited.2
    · exact inv.maxModelCalls ▸ spends.models_within (inv.maxModelCalls ▸ inv.segment.models)
    · exact inv.maxToolCalls ▸ spends.tools_within (inv.maxToolCalls ▸ inv.segment.tools)
  | resume now =>
    cases st
    exact ⟨rfl, rfl, ⟨rfl, inv.resumable⟩, inv.resumable,
      ⟨Nat.zero_le _, Nat.zero_le _, Nat.zero_le _⟩⟩

/-- While only harmless resumes happen, the segments together have worked no more than one may: the
    earlier ones have counted nothing, or the graph has come to its end. -/
structure Continuous (agent : ChatAgent) (r : DurableRun) : Prop where
  inv : Inv agent r
  total : r.total.Within agent.settings
  earlier : r.earlier = .none ∨ r.checkpoint.position = .finished ∧ r.current.position = .finished

lemma Continuous.step {step : DurableStep} (continuous : Continuous agent r)
    (st : r.Step agent step r') (harmless : (∃ now, step = .resume now) → r.Harmless) :
    Continuous agent r' := by
  have inv := continuous.inv.step st
  cases step with
  | node world =>
    obtain ⟨⟨node, position, -⟩, -, earlier⟩ := step_node st
    obtain none | ⟨-, finished⟩ := continuous.earlier
    · rw [none] at earlier
      refine ⟨inv, ?_, .inl earlier⟩
      rw [DurableRun.total, earlier, Work.none_add]
      exact inv.segment
    · rw [finished] at position
      cases position
  | resume now =>
    cases st
    refine ⟨inv, ?_, ?_⟩
    · have total : Work.add r.total .none = r.total := Work.add_none _
      exact total.symm ▸ continuous.total
    · obtain finished | none := harmless ⟨now, rfl⟩
      · exact .inr ⟨finished, finished⟩
      · exact .inl none

section Runs

variable {state : AgentGraphState} {now : Time} {events : List (Event DurableRun DurableStep)}
  {final : DurableRun}

/-- The event interrupts the run and resumes it. -/
def Resumes (e : Event DurableRun DurableStep) : Prop := ∃ now, e.label = .resume now

/-- In a run that is resumed only at its end, or before any attempt or round is counted, all segments
    together keep to the budgets. -/
theorem budget_continuous (run : Run (Step agent) (start agent state now) events final)
    (harmless : ∀ e ∈ events, Resumes e → e.pre.Harmless) : final.total.Within agent.settings := by
  have continuous : Continuous agent final :=
    run.invariant (fun e st harmless continuous => continuous.step st harmless) harmless
      ⟨.start agent state now, (Inv.start agent state now).segment, .inl rfl⟩
  exact continuous.total

end Runs

section Samples

/-- Settings with a model behind the agent, which may be called once. -/
def oneCallSettings : Settings :=
  { sampleSettings .ollama with executionMaxModelCalls := 1, modelCalls_bounds := by decide }

/-- The plan is made, the request is interrupted, the run is resumed, and the worker is executed. -/
def interruptedRun : List DurableStep :=
  let world := sampleWorld 0 ⟨.pass, true, [], []⟩ ⟨.pass, true, [], [], fun _ => rfl⟩
  [.node world, .resume 10, .node world]

/-- Two model calls are made in two segments, where the settings allow one. -/
theorem budget_not_continuous : ¬ ∀ (agent : ChatAgent) (state : AgentGraphState) (now : Time)
    (events : List (Event DurableRun DurableStep)) (final : DurableRun),
      Run (Step agent) (start agent state now) events final → final.total.Within agent.settings := by
  intro claim
  let agent := sampleAgent oneCallSettings
  let first := start agent (sampleState oneCallSettings) 0
  have run : Run (Step agent) first _ _ :=
    play_run (by decide +kernel : possible (take agent) first interruptedRun = true)
  have calls : (play (take agent) first interruptedRun).2.total.models = 2 := by decide +kernel
  have within := (claim agent _ 0 _ _ run).models
  rw [calls] at within
  exact absurd within (by decide)

/-- An interruption before anything is counted is harmless. -/
theorem budget_continuous_sample :
    let agent := sampleAgent oneCallSettings
    let world := sampleWorld 0 ⟨.pass, true, [], []⟩ ⟨.pass, true, [], [], fun _ => rfl⟩
    (play (take agent) (start agent (sampleState oneCallSettings) 0)
      [.resume 10, .node world]).2.total.Within oneCallSettings := by
  intro agent world
  have run := play_run (by decide +kernel : possible (take agent)
    (start agent (sampleState oneCallSettings) 0) [.resume 10, .node world] = true)
  refine budget_continuous run fun e mem resumes => ?_
  cases mem with
  | head => exact .inr rfl
  | tail _ mem =>
    cases mem with
    | head =>
      obtain ⟨_, other⟩ := resumes
      cases other
    | tail _ mem => cases mem

end Samples

end DurableRun

end AgentRuntime.Graph
