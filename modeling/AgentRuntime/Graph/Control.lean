import AgentRuntime.Graph.Build

/-!
# The control skeleton

What the control flow of the graph depends on, as a machine of its own: the position, the rounds of the
verifier and of the final revision, and whether a reason to stop is recorded. `Move` lists its moves
under a limit for each kind of round, with one constructor for each way out of a node; every step of the
graph is a move (`Step.move`). Two ranks on the machine, one of them by node count, then bound every
invocation.
-/

namespace AgentRuntime.Graph
open Orchestration

/-- What the control flow depends on. -/
structure Control where
  position : Position
  verifierRounds : Nat
  revisionRounds : Nat
  stopped : Bool

/-- The control skeleton of a configuration. -/
def Configuration.control (c : Configuration) : Control where
  position := c.position
  verifierRounds := c.budget.state.verifierRounds
  revisionRounds := c.state.finalRevisionRounds
  stopped := c.state.stopped

/-- The moves of the control skeleton under the limits `V` and `F`. `terminates` says that the verdict
    of this step is `terminate`, and `fails` that its final revision cannot be made. -/
inductive Move (V F : Nat) (terminates fails : Prop) : Control → Control → Prop where
  | raise {n v r b v' r' b' error} :
    Move V F terminates fails ⟨.node n, v, r, b⟩ ⟨.aborted error, v', r', b'⟩
  | stop {n v r b v' r'} :
    n ≠ .advance → n ≠ .reviseFinal → n ≠ .terminate →
    Move V F terminates fails ⟨.node n, v, r, b⟩ ⟨.node .terminate, v', r', true⟩
  | plan {n' v r b r'} :
    n' = .research ∨ n' = .worker →
    Move V F terminates fails ⟨.node .plan, v, r, b⟩ ⟨.node n', v, r', false⟩
  | research {v r b r'} :
    Move V F terminates fails ⟨.node .research, v, r, b⟩ ⟨.node .worker, v, r', false⟩
  | worker {v r b r'} :
    Move V F terminates fails ⟨.node .worker, v, r, b⟩ ⟨.node .verify, v, r', false⟩
  | verify {n' v r b r'} :
    v < V → ¬ terminates →
    n' = .advance ∨ n' = .revise ∨ n' = .research ∨ n' = .replan →
    Move V F terminates fails ⟨.node .verify, v, r, b⟩ ⟨.node n', v + 1, r', false⟩
  | verdict {v r b r'} :
    v < V → terminates →
    Move V F terminates fails ⟨.node .verify, v, r, b⟩ ⟨.node .terminate, v + 1, r', false⟩
  | revise {v r b r'} :
    Move V F terminates fails ⟨.node .revise, v, r, b⟩ ⟨.node .verify, v, r', false⟩
  | replan {v r b r'} :
    Move V F terminates fails ⟨.node .replan, v, r, b⟩ ⟨.node .worker, v, r', false⟩
  | advance {n' v r b r'} :
    n' = .research ∨ n' = .worker ∨ n' = .finalize →
    Move V F terminates fails ⟨.node .advance, v, r, b⟩ ⟨.node n', v, r', false⟩
  | finalize {v r b} :
    Move V F terminates fails ⟨.node .finalize, v, r, b⟩ ⟨.node .verifyFinal, v, 0, false⟩
  | complete {n v r b r'} :
    n = .finalize ∨ n = .verifyFinal →
    Move V F terminates fails ⟨.node n, v, r, b⟩ ⟨.finished, v, r', false⟩
  | verifyFinal {v r} :
    r < F →
    Move V F terminates fails ⟨.node .verifyFinal, v, r, false⟩ ⟨.node .reviseFinal, v, r, false⟩
  | revisionFails {v r b r'} :
    fails →
    Move V F terminates fails ⟨.node .reviseFinal, v, r, b⟩ ⟨.node .verifyFinal, v, r', true⟩
  | reviseFinal {v r b} :
    ¬ fails →
    Move V F terminates fails ⟨.node .reviseFinal, v, r, b⟩ ⟨.node .verifyFinal, v, r + 1, b⟩
  | terminate {v r b b'} :
    Move V F terminates fails ⟨.node .terminate, v, r, b⟩ ⟨.finished, v, r, b'⟩

/-- The end is reached from `finalize`, `verify_final` or `terminate`. -/
lemma Move.finishes {V F : Nat} {terminates fails : Prop} {c c' : Control}
    (m : Move V F terminates fails c c') (finished : c'.position = .finished) :
    c.position = .node .finalize ∨ c.position = .node .verifyFinal ∨
      c.position = .node .terminate := by
  cases m with
  | complete last => exact last.elim (fun e => .inl (e ▸ rfl)) (fun e => .inr (.inl (e ▸ rfl)))
  | terminate => exact .inr (.inr rfl)
  | _ => cases finished

/-- The end is reached with a reason to stop only from `terminate`. -/
lemma Move.finishes_stopped {V F : Nat} {terminates fails : Prop} {c c' : Control}
    (m : Move V F terminates fails c c') (finished : c'.position = .finished)
    (stopped : c'.stopped = true) : c.position = .node .terminate := by
  cases m with
  | complete => cases stopped
  | terminate => rfl
  | _ => cases finished

/-- No move leads back to `plan`. -/
lemma Move.leaves_plan {V F : Nat} {terminates fails : Prop} {c c' : Control}
    (m : Move V F terminates fails c c') : c'.position ≠ .node .plan := by
  intro position
  cases m with
  | plan next => obtain rfl | rfl := next <;> cases position
  | verify _ _ next => obtain rfl | rfl | rfl | rfl := next <;> cases position
  | advance next => obtain rfl | rfl | rfl := next <;> cases position
  | _ => cases position

/-- A move leads to `terminate` with a reason to stop, or by the verdict `terminate`. -/
lemma Move.terminates_stopped {V F : Nat} {terminates fails : Prop} {c c' : Control}
    (m : Move V F terminates fails c c') (other : ¬ (c.position = .node .verify ∧ terminates))
    (position : c'.position = .node .terminate) : c'.stopped = true := by
  cases m with
  | stop => rfl
  | plan next => obtain rfl | rfl := next <;> cases position
  | verify _ _ next => obtain rfl | rfl | rfl | rfl := next <;> cases position
  | verdict _ terminates => exact absurd ⟨rfl, terminates⟩ other
  | advance next => obtain rfl | rfl | rfl := next <;> cases position
  | _ => cases position

/-- The verdict `terminate` leads to `terminate`, unless the step is left by an exception. -/
lemma Move.verdict_ends {V F : Nat} {terminates fails : Prop} {c c' : Control}
    (m : Move V F terminates fails c c') (position : c.position = .node .verify)
    (verdict : terminates) :
    c'.position = .node .terminate ∨ ∃ error, c'.position = .aborted error := by
  cases m with
  | raise => exact .inr ⟨_, rfl⟩
  | stop | verdict => exact .inl rfl
  | verify _ other => exact absurd verdict other
  | complete last => obtain rfl | rfl := last <;> cases position
  | _ => cases position

section Refinement

variable {agent : ChatAgent} {world : World} {state state' : AgentGraphState}
variable {budget budget' : ExecutionBudget} {V F : Nat} {terminates fails : Prop} {v v' r : Nat}
variable {b : Bool}

namespace ChatAgent

/-- A node that stops the run moves to `terminate`. -/
lemma move_stopped {n : Node} {r' : Nat} (stopped : state'.stopped = true)
    (advance : n ≠ .advance) (reviseFinal : n ≠ .reviseFinal) (terminate : n ≠ .terminate) :
    Move V F terminates fails ⟨.node n, v, r, b⟩ ⟨agent.edge n state', v', r', state'.stopped⟩ := by
  rw [edge_stopped stopped advance reviseFinal terminate, stopped]
  exact .stop advance reviseFinal terminate

/-- The moves out of `plan`. -/
lemma plan_move (h : agent.plan world state budget = (.ok state', budget')) :
    Move V F terminates fails ⟨.node .plan, v, r, b⟩
      ⟨agent.edge .plan state', v, state'.finalRevisionRounds, state'.stopped⟩ := by
  obtain ⟨reason, ne, rfl⟩ | ⟨-, going⟩ := plan_ok h
  · exact move_stopped (decide_eq_true ne) (by decide) (by decide) (by decide)
  · obtain edge | edge := edge_plan agent going <;> rw [edge, going]
    · exact .plan (.inl rfl)
    · exact .plan (.inr rfl)

/-- The moves out of a node whose edge only asks whether the run goes on. -/
lemma budgeted_move {n : Node}
    (budgeted : n = .research ∨ n = .worker ∨ n = .revise ∨ n = .replan) :
    Move V F terminates fails ⟨.node n, v, r, b⟩
      ⟨agent.edge n state', v, state'.finalRevisionRounds, state'.stopped⟩ := by
  cases going : state'.stopped with
  | true =>
    refine going ▸ move_stopped going ?_ ?_ ?_ <;> rintro rfl <;>
      exact absurd budgeted (by decide)
  | false =>
    obtain ⟨research, worker, revise, replan⟩ := edge_budgeted agent going
    obtain rfl | rfl | rfl | rfl := budgeted
    · rw [research]
      exact .research
    · rw [worker]
      exact .worker
    · rw [revise]
      exact .revise
    · rw [replan]
      exact .replan

/-- The moves out of `verify`. -/
lemma verify_move (h : agent.verify world state budget = (.ok state', budget')) :
    Move budget.maxVerifierRounds F (VerdictTerminates agent world state budget) fails
      ⟨.node .verify, budget.state.verifierRounds, r, b⟩
      ⟨agent.edge .verify state', budget.state.verifierRounds + 1, state'.finalRevisionRounds,
        state'.stopped⟩ := by
  obtain ⟨exc, ne, rfl⟩ | ⟨report, grounding, model, rfl, rounds, -, verdict⟩ := verify_ok h
  · exact move_stopped (decide_eq_true ne) (by decide) (by decide) (by decide)
  · cases going : (state.verified report grounding model).stopped with
    | true => exact going ▸ move_stopped going (by decide) (by decide) (by decide)
    | false =>
      rw [edge_verify going rfl]
      cases value : report.verdict with
      | terminate => exact .verdict rounds (verdict.mp value)
      | pass =>
        refine .verify rounds (fun t => absurd (verdict.mpr t) (by simp [value])) ?_
        cases report.taskComplete <;> simp
      | _ => exact .verify rounds (fun t => absurd (verdict.mpr t) (by simp [value])) (by simp)

/-- The moves out of `advance`. -/
lemma advance_move :
    Move V F terminates fails ⟨.node .advance, v, r, b⟩
      ⟨agent.edge .advance state', v, state'.finalRevisionRounds, state'.stopped⟩ := by
  cases going : state'.stopped with
  | true =>
    have edge : agent.edge .advance state' = .aborted (.raised "KeyError") := by
      simp only [edge, afterAdvance, going, if_true]
      rfl
    rw [edge]
    exact .raise
  | false =>
    obtain ⟨-, edge⟩ | ⟨-, edge | edge⟩ := edge_advance agent going <;> rw [edge]
    · exact .advance (.inr (.inr rfl))
    · exact .advance (.inl rfl)
    · exact .advance (.inr (.inl rfl))

/-- The moves out of `finalize`. -/
lemma finalize_move (h : agent.finalize world state budget = (.ok state', budget')) :
    Move V F terminates fails ⟨.node .finalize, v, r, b⟩
      ⟨agent.edge .finalize state', v, state'.finalRevisionRounds, state'.stopped⟩ := by
  obtain ⟨-, stopped⟩ | ⟨response, model, required, going, rfl, -⟩ := finalize_ok h
  · exact move_stopped stopped (by decide) (by decide) (by decide)
  · have going : (state.finalized response agent.settings.llmBackend model required).stopped =
        false := going
    rw [edge_finalize going, going]
    cases required with
    | true => exact .finalize
    | false => exact .complete (.inl rfl)

/-- The moves out of `verify_final`. -/
lemma verifyFinal_move (h : agent.verifyFinal world state budget = (.ok state', budget')) :
    Move V agent.settings.finalMaxRevisionRounds terminates fails
      ⟨.node .verifyFinal, v, state.finalRevisionRounds, state.stopped⟩
      ⟨agent.edge .verifyFinal state', v, state'.finalRevisionRounds, state'.stopped⟩ := by
  obtain ⟨-, stopped⟩ | ⟨report, model, rfl, -, accepted⟩ := verifyFinal_ok h
  · exact move_stopped stopped (by decide) (by decide) (by decide)
  · cases going : (state.finallyVerified report model).stopped with
    | true => exact going ▸ move_stopped going (by decide) (by decide) (by decide)
    | false =>
      rw [edge_verifyFinal going rfl]
      split
      · exact .complete (.inr rfl)
      · next other =>
        have left : (state.finallyVerified report model).finalRevisionRounds <
            agent.settings.finalMaxRevisionRounds := accepted.resolve_left other
        rw [if_pos left, show state.stopped = false from going]
        exact .verifyFinal left

/-- The moves out of `revise_final`. -/
lemma reviseFinal_move (h : agent.reviseFinal world state budget = (.ok state', budget')) :
    Move V F terminates (RevisionFails agent world state budget)
      ⟨.node .reviseFinal, v, state.finalRevisionRounds, state.stopped⟩
      ⟨agent.edge .reviseFinal state', v, state'.finalRevisionRounds, state'.stopped⟩ := by
  obtain ⟨fails, -, stopped⟩ | ⟨succeeds, response, model, rfl⟩ := reviseFinal_ok h
  · rw [stopped]
    exact .revisionFails fails
  · exact .reviseFinal succeeds

variable {c c' : Configuration}

/-- A step leaves the verifier's limit as it was. -/
lemma Step.maxVerifierRounds (st : agent.Step c world c') :
    c'.budget.maxVerifierRounds = c.budget.maxVerifierRounds := by
  obtain ⟨node, -, frame, -⟩ := step_cases st
  rw [frame.maxVerifierRounds, counted]
  split <;> rfl

/-- Every step of the graph is a move of its control skeleton. -/
theorem Step.move (st : agent.Step c world c') :
    Move c.budget.maxVerifierRounds agent.settings.finalMaxRevisionRounds
      (VerdictTerminates agent world c.state c.budget) (RevisionFails agent world c.state c.budget)
      c.control c'.control := by
  obtain ⟨position, state, before⟩ := c
  obtain ⟨node, rfl, frame, ⟨state', budget, returned, rfl⟩ | ⟨error, budget, -, rfl⟩⟩ :=
    step_cases st
  · have rounds : budget.state.verifierRounds = (counted node before).state.verifierRounds :=
      frame.verifierRounds
    simp only [Configuration.control, rounds]
    cases node with
    | plan => exact plan_move returned
    | research => exact budgeted_move (.inl rfl)
    | worker => exact budgeted_move (.inr (.inl rfl))
    | verify => exact verify_move returned
    | revise => exact budgeted_move (.inr (.inr (.inl rfl)))
    | replan => exact budgeted_move (.inr (.inr (.inr rfl)))
    | advance => exact advance_move
    | finalize => exact finalize_move returned
    | verifyFinal => exact verifyFinal_move returned
    | reviseFinal => exact reviseFinal_move returned
    | terminate =>
      cases returned
      exact .terminate
  · exact .raise

end ChatAgent

end Refinement

end AgentRuntime.Graph
