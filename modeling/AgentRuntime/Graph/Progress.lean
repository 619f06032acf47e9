import AgentRuntime.Graph.Control

/-!
# Every invocation ends

Ranks on the control skeleton. `Control.rank` falls with every move, so it bounds the number of executed
nodes; `Control.verifyRank` and `Control.finalRank` never rise and fall with every `verify` and every
`verify_final`. The limits of the source enter once, as the value of each rank at the start.
-/

namespace AgentRuntime.Graph
open Orchestration Transition

section Ranks

variable (V F : Nat)

/-- How many nodes can still be executed. A cycle through `verify` costs at most four nodes and a round
    of the verifier, a cycle through `revise_final` two nodes and a round of the final revision; once a
    reason to stop is recorded, `verify_final` leads to `terminate`. -/
def Control.rank (c : Control) : Nat :=
  match c.position with
  | .node .plan => 4 * (V - c.verifierRounds) + 2 * F + 8
  | .node .research => 4 * (V - c.verifierRounds) + 2 * F + 7
  | .node .worker => 4 * (V - c.verifierRounds) + 2 * F + 6
  | .node .verify => 4 * (V - c.verifierRounds) + 2 * F + 5
  | .node .revise => 4 * (V - c.verifierRounds) + 2 * F + 6
  | .node .replan => 4 * (V - c.verifierRounds) + 2 * F + 7
  | .node .advance => 4 * (V - c.verifierRounds) + 2 * F + 8
  | .node .finalize => 2 * F + 3
  | .node .verifyFinal => if c.stopped then 2 else 2 * (F - c.revisionRounds) + 2
  | .node .reviseFinal => 2 * (F - c.revisionRounds) + 1
  | .node .terminate => 1
  | .finished | .aborted _ => 0

/-- How often `verify` can still be executed. -/
def Control.verifyRank (c : Control) : Nat :=
  match c.position with
  | .node .finalize | .node .verifyFinal | .node .reviseFinal | .node .terminate => 0
  | .node _ => V + 1 - c.verifierRounds
  | .finished | .aborted _ => 0

/-- How often `verify_final` can still be executed. -/
def Control.finalRank (c : Control) : Nat :=
  match c.position with
  | .node .verifyFinal => if c.stopped then 1 else F - c.revisionRounds + 1
  | .node .reviseFinal => F - c.revisionRounds
  | .node .terminate => 0
  | .node _ => F + 1
  | .finished | .aborted _ => 0

/-- The rounds are within their limits where a round can follow. -/
def Control.WithinLimits (c : Control) : Prop :=
  match c.position with
  | .node .finalize | .node .verifyFinal | .node .terminate => True
  | .node .reviseFinal => c.revisionRounds < F
  | .node _ => c.verifierRounds ≤ V
  | .finished | .aborted _ => True

variable {V F} {terminates fails : Prop} {c c' : Control}

/-- Moves stay within the limits. -/
lemma Move.withinLimits (m : Move V F terminates fails c c') (within : c.WithinLimits V F) :
    c'.WithinLimits V F := by
  cases m with
  | plan next => obtain rfl | rfl := next <;> exact within
  | verify rounds _ next => obtain rfl | rfl | rfl | rfl := next <;> exact rounds
  | advance next =>
    obtain rfl | rfl | rfl := next
    · exact within
    · exact within
    · trivial
  | verifyFinal left => exact left
  | _ => trivial

/-- A node that is executed has a rank, and room for `terminate` where its edge leads there. -/
lemma Control.rank_node {n : Node} {v r : Nat} {b : Bool} :
    1 ≤ Control.rank V F ⟨.node n, v, r, b⟩ ∧
      (n ≠ .reviseFinal → n ≠ .terminate → 2 ≤ Control.rank V F ⟨.node n, v, r, b⟩) := by
  cases n <;> simp only [Control.rank]
  case reviseFinal => exact ⟨by omega, fun h _ => absurd rfl h⟩
  case terminate => exact ⟨by omega, fun _ h => absurd rfl h⟩
  case verifyFinal => split <;> exact ⟨by omega, fun _ _ => by omega⟩
  all_goals exact ⟨by omega, fun _ _ => by omega⟩

/-- Every move lowers the rank. -/
lemma Move.rank_lt (m : Move V F terminates fails c c') (within : c.WithinLimits V F) :
    c'.rank V F + 1 ≤ c.rank V F := by
  cases m with
  | raise => exact Control.rank_node.1
  | stop _ reviseFinal terminate => exact Control.rank_node.2 reviseFinal terminate
  | plan next => obtain rfl | rfl := next <;> simp only [Control.rank] <;> omega
  | verify rounds _ next =>
    obtain rfl | rfl | rfl | rfl := next <;> simp only [Control.rank] <;> omega
  | advance next => obtain rfl | rfl | rfl := next <;> simp only [Control.rank] <;> omega
  | complete last => exact Control.rank_node.1
  | finalize =>
    simp only [Control.rank, Bool.false_eq_true, if_false]
    omega
  | verifyFinal left =>
    simp only [Control.rank, Bool.false_eq_true, if_false]
    omega
  | revisionFails =>
    simp only [Control.WithinLimits] at within
    simp only [Control.rank, if_true]
    omega
  | reviseFinal =>
    simp only [Control.WithinLimits] at within
    simp only [Control.rank]
    split <;> omega
  | _ =>
    simp only [Control.rank]
    omega

/-- No move raises the rank of `verify`, and its execution lowers it. -/
lemma Move.verifyRank_le (m : Move V F terminates fails c c') (within : c.WithinLimits V F) :
    c'.verifyRank V + (if c.position = .node .verify then 1 else 0) ≤ c.verifyRank V := by
  have executed : ∀ {n v r b}, Control.WithinLimits V F ⟨.node n, v, r, b⟩ →
      (if Position.node n = .node .verify then 1 else 0) ≤
        Control.verifyRank V ⟨.node n, v, r, b⟩ := by
    intro n v r b within
    split
    · next position =>
      cases position
      simp only [Control.WithinLimits] at within
      simp only [Control.verifyRank]
      omega
    · exact Nat.zero_le _
  cases m with
  | raise | stop | complete => simpa only [Control.verifyRank, Nat.zero_add] using executed within
  | verdict => simpa only [Control.verifyRank, Nat.zero_add] using executed within
  | terminate => simp [Control.verifyRank]
  | plan next => obtain rfl | rfl := next <;> simp [Control.verifyRank]
  | advance next => obtain rfl | rfl | rfl := next <;> simp [Control.verifyRank]
  | verify rounds _ next =>
    obtain rfl | rfl | rfl | rfl := next <;>
      simp only [Control.verifyRank, if_true] <;> omega
  | _ => simp [Control.verifyRank]

/-- No move raises the rank of `verify_final`, and its execution lowers it. -/
lemma Move.finalRank_le (m : Move V F terminates fails c c') (within : c.WithinLimits V F) :
    c'.finalRank F + (if c.position = .node .verifyFinal then 1 else 0) ≤ c.finalRank F := by
  have executed : ∀ n v r b, (if Position.node n = .node .verifyFinal then 1 else 0) ≤
      Control.finalRank F ⟨.node n, v, r, b⟩ := by
    intro n v r b
    split
    · next position =>
      cases position
      simp only [Control.finalRank]
      split <;> omega
    · exact Nat.zero_le _
  cases m with
  | raise | stop | complete =>
    simpa only [Control.finalRank, Nat.zero_add] using executed _ 0 _ _
  | verifyFinal => simp [Control.finalRank]
  | revisionFails =>
    simp only [Control.WithinLimits] at within
    simp [Control.finalRank]
    omega
  | reviseFinal =>
    simp only [Control.WithinLimits] at within
    simp only [Control.finalRank, reduceCtorEq, Position.node.injEq, if_false]
    split <;> omega
  | plan next => obtain rfl | rfl := next <;> simp [Control.finalRank]
  | verify _ _ next => obtain rfl | rfl | rfl | rfl := next <;> simp [Control.finalRank]
  | advance next => obtain rfl | rfl | rfl := next <;> simp [Control.finalRank]
  | _ => simp [Control.finalRank]

end Ranks

namespace ChatAgent

variable {agent : ChatAgent} {state : AgentGraphState} {now : Time}

/-- The limits of a run: the verifier's limit is the settings', and the rounds are within. -/
def Limited (agent : ChatAgent) (c : Configuration) : Prop :=
  c.budget.maxVerifierRounds = agent.settings.executionMaxVerifierRounds ∧
    c.control.WithinLimits agent.settings.executionMaxVerifierRounds
      agent.settings.finalMaxRevisionRounds

/-- The limits hold at the start. -/
lemma limited_start : agent.Limited (agent.start state now) := ⟨rfl, Nat.zero_le _⟩

/-- The event executes the node. -/
def Executes (node : Node) (e : Event Configuration World) : Bool :=
  decide (e.pre.position = .node node)

/-- A step under the limits is a move under the limits of the settings, and keeps them. -/
lemma Step.limited {c c' : Configuration} {world : World} (st : agent.Step c world c')
    (limited : agent.Limited c) :
    agent.Limited c' ∧
      Move agent.settings.executionMaxVerifierRounds agent.settings.finalMaxRevisionRounds
        (VerdictTerminates agent world c.state c.budget) (RevisionFails agent world c.state c.budget)
        c.control c'.control := by
  obtain ⟨limit, within⟩ := limited
  have move := st.move
  rw [limit] at move
  exact ⟨⟨st.maxVerifierRounds.trans limit, move.withinLimits within⟩, move⟩

/-- Bounded execution: for all settings, plans, model outputs and tool results, an invocation that
    starts with a fresh meter executes `verify`, `verify_final` and all nodes together within the
    limits, and it ends after as many nodes as that bound, however the world answers. -/
theorem execution_bounded (agent : ChatAgent) (state : AgentGraphState) (now : Time) :
    let V := agent.settings.executionMaxVerifierRounds
    let F := agent.settings.finalMaxRevisionRounds
    (∀ events final, Run agent.Step (agent.start state now) events final →
      events.countP (Executes .verify) ≤ V + 1 ∧
      events.countP (Executes .verifyFinal) ≤ F + 1 ∧
      events.length ≤ 4 * (V + 1) + 2 * F + 4) ∧
    ∀ world, (agent.after world (agent.start state now) (4 * (V + 1) + 2 * F + 4)).ended = true := by
  intro V F
  have init : agent.Limited (agent.start state now) := limited_start
  have bound : ∀ {events final}, Run agent.Step (agent.start state now) events final →
      events.length + final.control.rank V F ≤ 4 * V + 2 * F + 8 := by
    intro events final run
    refine run.length_le (fun c => c.control.rank V F) (I := agent.Limited) ?_ init
    intro e st limited
    obtain ⟨kept, move⟩ := st.limited limited
    exact ⟨kept, move.rank_lt limited.2⟩
  refine ⟨fun events final run => ⟨?_, ?_, ?_⟩, fun world => ?_⟩
  · have counted := run.countP_le (fun c => c.control.verifyRank V) (Executes .verify)
      (I := agent.Limited) (fun e st limited => ?_) init
    · exact (Nat.le_add_right _ _).trans counted
    · obtain ⟨kept, move⟩ := st.limited limited
      refine ⟨kept, ?_⟩
      simp only [Executes, decide_eq_true_eq]
      exact move.verifyRank_le limited.2
  · have counted := run.countP_le (fun c => c.control.finalRank F) (Executes .verifyFinal)
      (I := agent.Limited) (fun e st limited => ?_) init
    · exact (Nat.le_add_right _ _).trans counted
    · obtain ⟨kept, move⟩ := st.limited limited
      refine ⟨kept, ?_⟩
      simp only [Executes, decide_eq_true_eq]
      exact move.finalRank_le limited.2
  · have := bound run
    omega
  · by_contra going
    have bounded := bound (trace_run world (agent.start state now) _ (Bool.eq_false_iff.mpr going))
    rw [length_trace] at bounded
    -- one more node would use up more than the rank at the start
    omega

end ChatAgent

end AgentRuntime.Graph
