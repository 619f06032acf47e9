import AgentRuntime.Graph.Exhaustion
import AgentRuntime.Graph.Progress

/-!
# The limits of the agent loop

The three limits that the settings document for the loop: on iterations of the worker, on research rounds
and on replans. `_research` and `_replan` compare their counters with the settings; nothing reads
`agent_max_iterations`, so the loop is bounded only by the rounds of the verifier and, with a model
behind it, by the model calls: the plan takes one, and each iteration one for the work and one for its
verification.
-/

namespace AgentRuntime.Graph
open Orchestration Transition

namespace ChatAgent

/-- The event is an iteration of the worker or of a revision. -/
def Works (e : Event Configuration World) : Bool := Executes .worker e || Executes .revise e

/-- The event is a research round that issues tool calls. -/
def IssuesCalls (agent : ChatAgent) (e : Event Configuration World) : Bool :=
  Executes .research e && !(agent.researchTrials e.label e.pre.state e.pre.budget).isEmpty

/-- The event leaves the current task of the plan. -/
def LeavesTask (e : Event Configuration World) : Bool := Executes .advance e || Executes .replan e

/-- The event is a replan whose plan the run goes on with. -/
def AdoptsPlan (e : Event Configuration World) : Bool :=
  Executes .replan e && decide (e.post.position = .node .worker)

/-- The run keeps to the limits of the loop: on iterations, on research rounds between one change of the
    task and the next, and on replans. -/
structure LoopLimits (agent : ChatAgent) (events : List (Event Configuration World)) : Prop where
  works : events.countP Works ≤ agent.settings.agentMaxIterations
  research : ∀ before task after, events = before ++ task ++ after →
    (∀ e ∈ task, LeavesTask e = false) →
      task.countP agent.IssuesCalls ≤ agent.settings.agentMaxResearchRounds
  replans : events.countP AdoptsPlan ≤ agent.settings.agentMaxReplans

/-- How many iterations the other budgets leave room for. -/
def workLimit (settings : Settings) : Nat :=
  match settings.llmBackend with
  | .echo => settings.executionMaxVerifierRounds + 1
  | .ollama =>
    min (settings.executionMaxVerifierRounds + 1) ((settings.executionMaxModelCalls + 1) / 2)

end ChatAgent

section Moves

variable {V F : Nat} {terminates fails : Prop} {c c' : Control}

/-- How many iterations the rounds of the verifier leave room for. -/
def Control.workRank (V : Nat) (c : Control) : Nat :=
  match c.position with
  | .node .plan | .node .research | .node .worker | .node .revise | .node .replan | .node .advance =>
    V + 1 - c.verifierRounds
  | .node .verify => V - c.verifierRounds
  | _ => 0

/-- No move raises the rank of the work, and an iteration lowers it. -/
lemma Move.workRank_le (m : Move V F terminates fails c c') (within : c.WithinLimits V F) :
    c'.workRank V + (if c.position = .node .worker ∨ c.position = .node .revise then 1 else 0) ≤
      c.workRank V := by
  have executed : ∀ {n v r b}, Control.WithinLimits V F ⟨.node n, v, r, b⟩ →
      (if Position.node n = .node .worker ∨ Position.node n = .node .revise then 1 else 0) ≤
        Control.workRank V ⟨.node n, v, r, b⟩ := by
    intro n v r b within
    split
    · next position =>
      obtain position | position := position <;> cases position <;>
        simp only [Control.WithinLimits] at within <;> simp only [Control.workRank] <;> omega
    · exact Nat.zero_le _
  cases m with
  | raise | stop | complete => simpa only [Control.workRank, Nat.zero_add] using executed within
  | plan next => obtain rfl | rfl := next <;> simp [Control.workRank]
  | advance next => obtain rfl | rfl | rfl := next <;> simp [Control.workRank]
  | verify rounds _ next =>
    obtain rfl | rfl | rfl | rfl := next <;> simp [Control.workRank]
  | worker | revise =>
    simp only [Control.WithinLimits] at within
    simp [Control.workRank]
    omega
  | _ => simp [Control.workRank]

/-- The attempts that a run with a model has made before this position, after so many iterations. -/
def Due (works attempts : Nat) : Position → Prop
  | .node .plan => works = 0
  | .node .research | .node .worker | .node .revise | .node .replan | .node .advance =>
    2 * works + 1 ≤ attempts
  | .node .verify => 2 * works ≤ attempts
  | _ => True

/-- Each iteration takes an attempt, as its plan and its verification do. -/
lemma Move.due (m : Move V F terminates fails c c') {works attempts attempts' : Nat}
    (due : Due works attempts c.position) (grows : attempts ≤ attempts')
    (spends : c.position = .node .plan ∨ c.position = .node .worker ∨ c.position = .node .verify ∨
      c.position = .node .revise → c'.stopped = false → (∀ error, c'.position ≠ .aborted error) →
        attempts + 1 ≤ attempts') :
    Due (works + if c.position = .node .worker ∨ c.position = .node .revise then 1 else 0) attempts'
      c'.position := by
  cases m with
  | plan next =>
    have spent := spends (.inl rfl) rfl (fun _ => nofun)
    simp only [Due] at due
    obtain rfl | rfl := next <;> simp [Due] <;> omega
  | research | replan =>
    simp only [Due] at due
    simp [Due]
    omega
  | worker =>
    have spent := spends (.inr (.inl rfl)) rfl (fun _ => nofun)
    simp only [Due] at due
    simp [Due]
    omega
  | revise =>
    have spent := spends (.inr (.inr (.inr rfl))) rfl (fun _ => nofun)
    simp only [Due] at due
    simp [Due]
    omega
  | verify _ _ next =>
    have spent := spends (.inr (.inr (.inl rfl))) rfl (fun _ => nofun)
    simp only [Due] at due
    obtain rfl | rfl | rfl | rfl := next <;> simp [Due] <;> omega
  | advance next =>
    simp only [Due] at due
    obtain rfl | rfl | rfl := next <;> simp [Due]
    all_goals omega
  | _ => trivial

/-- The position is inside the loop over the tasks. -/
def Position.Looping : Position → Prop
  | .node .research | .node .worker | .node .verify | .node .revise | .node .replan
  | .node .advance => True
  | _ => False

/-- The loop is entered from its nodes and from `plan`, without a reason to stop. -/
lemma Move.enters_loop (m : Move V F terminates fails c c') (looping : c'.position.Looping) :
    (c.position = .node .plan ∨ c.position.Looping) ∧ c'.stopped = false := by
  cases m with
  | plan => exact ⟨.inl rfl, rfl⟩
  | research | worker | verify | revise | replan | advance => exact ⟨.inr trivial, rfl⟩
  | _ => exact looping.elim

/-- So many events were counted: at most the limit, and inside the loop no more than the counter has. -/
structure Counted (limit count counter : Nat) (position : Position) : Prop where
  le : count ≤ limit
  counted : position.Looping → count ≤ counter
  fresh : position = .node .plan → count = 0

/-- A counter that is raised for each counted event, below the limit, keeps the events counted. -/
lemma Move.counted (m : Move V F terminates fails c c') {limit count counter counter' : Nat}
    (counted : Counted limit count counter c.position) {p : Prop} [Decidable p]
    (below : p → c.position.Looping ∧ counter + 1 ≤ limit)
    (raised : c.position.Looping → c'.position.Looping → counter + (if p then 1 else 0) ≤ counter') :
    Counted limit (count + if p then 1 else 0) counter' c'.position := by
  refine ⟨?_, fun looping => ?_, fun plan => absurd plan m.leaves_plan⟩
  · split
    · next counts =>
      obtain ⟨looping, below⟩ := below counts
      have := counted.counted looping
      omega
    · exact counted.le
  · obtain ⟨plan | inside, -⟩ := m.enters_loop looping
    · have none := counted.fresh plan
      rw [if_neg fun counts => by simpa [plan, Position.Looping] using (below counts).1]
      omega
    · have := counted.counted inside
      have := raised inside looping
      omega

end Moves

namespace ChatAgent

variable {agent : ChatAgent} {world : World} {state state' : AgentGraphState}
variable {budget budget' : ExecutionBudget} {c c' : Configuration} {now : Time}
variable {events : List (Event Configuration World)} {final : Configuration}

section Attempts

/-- A step spends attempts within the limits of the meter. -/
lemma Step.spends (st : agent.Step c world c') : Spends c.budget c'.budget := by
  have counted : ∀ node, Spends c.budget (counted node c.budget) := by
    intro node
    rw [ChatAgent.counted]
    split
    · exact ⟨rfl, rfl, Nat.le_refl _, Nat.le_refl _, id, id⟩
    · exact .refl _
  obtain ⟨node, position, rfl⟩ := st
  have meters : Meters (ChatAgent.counted node c.budget)
      (agent.run world c.state c.budget node).2 := run_meters
  simp only [execute]
  split
  · next returned =>
    rw [returned] at meters
    exact (counted node).trans meters.spends
  · next raised =>
    rw [raised] at meters
    exact (counted node).trans meters.spends

lemma plan_spends (ollama : agent.settings.llmBackend = .ollama)
    (h : agent.plan world state budget = (.ok state', budget')) (going : state'.stopped = false) :
    budget.state.physicalModelAttempts + 1 ≤ budget'.state.physicalModelAttempts := by
  simp only [plan, ollama] at h
  split at h
  · next refused =>
    cases h
    rw [AgentGraphState.stop_stopped, decide_eq_false_iff_not] at going
    exact absurd (ExecutionBudget.check_message refused) going
  · split at h
    · cases h
      rw [AgentGraphState.stop_stopped, decide_eq_false_iff_not] at going
      exact absurd (structuredOutputReason_ne _ _) going
    · cases h
    · next answered =>
      obtain ⟨-, rfl⟩ := Prod.mk.inj h
      exact roleOperation_spends answered

lemma worker_spends (ollama : agent.settings.llmBackend = .ollama)
    (h : agent.worker world state budget = (.ok state', budget')) (going : state'.stopped = false) :
    budget.state.physicalModelAttempts + 1 ≤ budget'.state.physicalModelAttempts := by
  simp only [worker, ollama] at h
  split at h
  · next refused =>
    cases h
    rw [AgentGraphState.stop_stopped, decide_eq_false_iff_not] at going
    exact absurd (ExecutionBudget.check_message refused) going
  · split at h
    · cases h
    · split at h
      · cases h
        rw [AgentGraphState.stop_stopped, decide_eq_false_iff_not] at going
        exact absurd (structuredOutputReason_ne _ _) going
      · cases h
      · next answered =>
        obtain ⟨-, rfl⟩ := Prod.mk.inj h
        exact roleOperation_spends answered

lemma revise_spends (ollama : agent.settings.llmBackend = .ollama)
    (h : agent.revise world state budget = (.ok state', budget')) (going : state'.stopped = false) :
    budget.state.physicalModelAttempts + 1 ≤ budget'.state.physicalModelAttempts := by
  simp only [revise, ollama] at h
  split at h
  · next refused =>
    cases h
    rw [AgentGraphState.stop_stopped, decide_eq_false_iff_not] at going
    exact absurd (ExecutionBudget.check_message refused) going
  · split at h
    · cases h
    · split at h
      · cases h
      · next answered =>
        obtain ⟨-, rfl⟩ := Prod.mk.inj h
        have spent := roleOperation_spends answered
        exact spent

lemma verify_spends (ollama : agent.settings.llmBackend = .ollama)
    (h : agent.verify world state budget = (.ok state', budget')) (going : state'.stopped = false) :
    budget.state.physicalModelAttempts + 1 ≤ budget'.state.physicalModelAttempts := by
  have exhausted {exc : BudgetExceeded} {report : VerificationReport} (text : exc.message ≠ "")
      (going : ({ state.stop exc.message with verification := some report }).stopped = false) :
      False := by
    rw [AgentGraphState.stopped] at going
    exact absurd text (decide_eq_false_iff_not.mp going)
  simp only [verify, ollama] at h
  split at h
  · next refused =>
    cases h
    exact (exhausted (ExecutionBudget.check_message refused) going).elim
  · split at h
    · cases h
    · split at h
      · cases h
      · split at h
        · next refused =>
          cases h
          exact (exhausted (roleOperation_message refused) going).elim
        · cases h
        · next answered =>
          obtain ⟨-, rfl⟩ := Prod.mk.inj h
          have spent := roleOperation_spends answered
          exact spent

/-- With a model behind it, a plan, an iteration or a verification that the run goes on from has made an
    attempt. -/
lemma Step.spends_model (st : agent.Step c world c') (ollama : agent.settings.llmBackend = .ollama)
    (node : c.position = .node .plan ∨ c.position = .node .worker ∨ c.position = .node .verify ∨
      c.position = .node .revise)
    (going : c'.state.stopped = false) (returned : ∀ error, c'.position ≠ .aborted error) :
    c.budget.state.physicalModelAttempts + 1 ≤ c'.budget.state.physicalModelAttempts := by
  obtain ⟨n, position, -, ⟨state', budget, answered, rfl⟩ | ⟨error, budget, -, rfl⟩⟩ := step_cases st
  · rw [position] at node
    obtain plan | worker | verify | revise := node
    · cases plan
      exact plan_spends ollama answered going
    · cases worker
      exact worker_spends ollama answered going
    · cases verify
      exact verify_spends ollama answered going
    · cases revise
      exact revise_spends ollama answered going
  · exact absurd rfl (returned error)

end Attempts

section Works

lemma works_iff {e : Event Configuration World} :
    Works e = true ↔ e.pre.position = .node .worker ∨ e.pre.position = .node .revise := by
  simp [Works, Executes]

/-- The rounds of the verifier bound the iterations. -/
lemma works_le_rounds (run : Run agent.Step (agent.start state now) events final) :
    events.countP Works ≤ agent.settings.executionMaxVerifierRounds + 1 := by
  have counted := run.countP_le
    (fun c => c.control.workRank agent.settings.executionMaxVerifierRounds) Works
    (I := agent.Limited) (fun e st limited => ?_) limited_start
  · exact (Nat.le_add_right _ _).trans counted
  · obtain ⟨kept, move⟩ := st.limited limited
    refine ⟨kept, ?_⟩
    simp only [works_iff]
    exact move.workRank_le limited.2

/-- The attempts of a run so far: within the limit, and enough for its iterations. -/
structure Paid (agent : ChatAgent) (past : List (Event Configuration World)) (c : Configuration) :
    Prop where
  limit : c.budget.maxModelCalls = agent.settings.executionMaxModelCalls
  within : c.budget.state.physicalModelAttempts ≤ agent.settings.executionMaxModelCalls
  due : Due (past.countP Works) c.budget.state.physicalModelAttempts c.position
  works : 2 * past.countP Works ≤ agent.settings.executionMaxModelCalls + 1

lemma Paid.start : Paid agent [] (agent.start state now) :=
  ⟨rfl, Nat.zero_le _, rfl, Nat.zero_le _⟩

lemma Paid.step {past : List (Event Configuration World)} {e : Event Configuration World}
    (ollama : agent.settings.llmBackend = .ollama) (st : agent.Step e.pre e.label e.post)
    (paid : Paid agent past e.pre) : Paid agent (past ++ [e]) e.post := by
  have spends := st.spends
  have within := spends.models_within (paid.limit ▸ paid.within)
  rw [paid.limit] at within
  have count : (past ++ [e]).countP Works = past.countP Works +
      if e.pre.position = .node .worker ∨ e.pre.position = .node .revise then 1 else 0 := by
    simp only [List.countP_append, List.countP_singleton, works_iff]
  refine ⟨spends.maxModelCalls.trans paid.limit, within, ?_, ?_⟩
  · rw [count]
    exact st.move.due paid.due spends.models_le (st.spends_model ollama)
  · rw [count]
    split
    · next position =>
      have due := paid.due
      have before := paid.within
      obtain position | position := position <;> rw [position, Due] at due <;> omega
    · exact paid.works

/-- With a model behind it, the model calls bound the iterations. -/
lemma works_le_calls (ollama : agent.settings.llmBackend = .ollama)
    (run : Run agent.Step (agent.start state now) events final) :
    events.countP Works ≤ (agent.settings.executionMaxModelCalls + 1) / 2 := by
  have paid : Paid agent events final :=
    run.invariant_history (fun _ _ st paid => paid.step ollama st) .start
  have := paid.works
  omega

/-- The other budgets bound the iterations. -/
lemma works_le (run : Run agent.Step (agent.start state now) events final) :
    events.countP Works ≤ workLimit agent.settings := by
  rw [workLimit]
  split
  · exact works_le_rounds run
  · next ollama => exact Nat.le_min.mpr ⟨works_le_rounds run, works_le_calls ollama run⟩

end Works

section Rounds

/-- The tools of a research round are tried within its limit. -/
lemma researchTrials_within (tried : agent.researchTrials world state budget ≠ []) :
    state.researchRounds + 1 ≤ agent.settings.agentMaxResearchRounds := by
  simp only [researchTrials] at tried
  split at tried
  · exact absurd rfl tried
  · split at tried
    · exact absurd rfl tried
    · next within => exact Nat.not_lt.mp within

/-- A research round that the run goes on from is counted. -/
lemma research_counts (h : agent.research world state budget = (.ok state', budget'))
    (going : state'.stopped = false) : state'.researchRounds = state.researchRounds + 1 := by
  have stops {state : AgentGraphState} {reason : String} (text : reason ≠ "")
      (going : (state.stop reason).stopped = false) : False := by
    rw [AgentGraphState.stop_stopped, decide_eq_false_iff_not] at going
    exact going text
  simp only [research] at h
  split at h
  · cases h
    exact (stops (by decide) going).elim
  · split at h
    · cases h
      exact (stops (by decide) going).elim
    · split at h
      · cases h
      · split at h
        · next refused =>
          cases h
          exact (stops (runQueries_message refused) going).elim
        · cases h
        · simp only [concludeResearch] at h
          split at h
          · cases h
          · split at h
            · cases h
              exact (stops (by decide) going).elim
            · cases h
              rfl

lemma advance_replans (h : agent.advance state budget = (.ok state', budget')) :
    state'.replans = state.replans := by
  simp only [advance] at h
  split at h
  · cases h
  · split at h
    · obtain ⟨action, routing, rfl⟩ := AgentGraphState.setNextAction_ok (Prod.mk.inj h).1
      rfl
    · cases h
      rfl

lemma research_replans (h : agent.research world state budget = (.ok state', budget')) :
    state'.replans = state.replans := by
  simp only [research] at h
  split at h
  · cases h
    rfl
  · split at h
    · cases h
      rfl
    · split at h
      · cases h
      · split at h
        · cases h
          rfl
        · cases h
        · simp only [concludeResearch] at h
          split at h
          · cases h
          · split at h <;> cases h <;> rfl

/-- Inside the loop, research rounds are counted until the task is left. -/
lemma Step.researchRounds (st : agent.Step c world c') (inside : c.position.Looping)
    (stays : c'.position.Looping) (kept : c.position ≠ .node .advance ∧ c.position ≠ .node .replan) :
    c'.state.researchRounds =
      c.state.researchRounds + if c.position = .node .research then 1 else 0 := by
  have going : c'.state.stopped = false := (st.move.enters_loop stays).2
  obtain ⟨n, position, -, ⟨state', budget, returned, rfl⟩ | ⟨error, budget, -, rfl⟩⟩ := step_cases st
  · rw [position] at inside kept ⊢
    cases n with
    | research =>
      have counted : state'.researchRounds = c.state.researchRounds + 1 := research_counts returned going
      exact counted
    | worker =>
      obtain ⟨reason, -, rfl⟩ | ⟨result, model, rfl⟩ := worker_ok returned <;> rfl
    | revise =>
      obtain ⟨reason, -, rfl⟩ | ⟨result, model, rfl⟩ := revise_ok returned <;> rfl
    | verify =>
      obtain ⟨exc, -, rfl⟩ | ⟨report, grounding, model, rfl, -⟩ := verify_ok returned <;> rfl
    | advance => exact absurd rfl kept.1
    | replan => exact absurd rfl kept.2
    | _ => exact inside.elim
  · exact stays.elim

/-- Inside the loop, replans are counted. -/
lemma Step.replans (st : agent.Step c world c') (inside : c.position.Looping)
    (stays : c'.position.Looping) :
    c'.state.replans = c.state.replans + if c.position = .node .replan then 1 else 0 := by
  have going : c'.state.stopped = false := (st.move.enters_loop stays).2
  obtain ⟨n, position, -, ⟨state', budget, returned, rfl⟩ | ⟨error, budget, -, rfl⟩⟩ := step_cases st
  · rw [position] at inside ⊢
    cases n with
    | research =>
      have kept : state'.replans = c.state.replans := research_replans returned
      exact kept
    | worker =>
      obtain ⟨reason, -, rfl⟩ | ⟨result, model, rfl⟩ := worker_ok returned <;> rfl
    | revise =>
      obtain ⟨reason, -, rfl⟩ | ⟨result, model, rfl⟩ := revise_ok returned <;> rfl
    | verify =>
      obtain ⟨exc, -, rfl⟩ | ⟨report, grounding, model, rfl, -⟩ := verify_ok returned <;> rfl
    | advance =>
      have kept : state'.replans = c.state.replans := advance_replans returned
      exact kept
    | replan =>
      obtain stopped | ⟨-, plan, model, -, next⟩ := replan_adopts returned
      · exact absurd (going.symm.trans stopped) Bool.false_ne_true
      · obtain ⟨action, routing, rfl⟩ := AgentGraphState.setNextAction_ok next
        rfl
    | _ => exact inside.elim
  · exact stays.elim

/-- While a task is not left, the rounds that issue calls keep to the limit. -/
lemma research_le {task : List (Event Configuration World)} {before after : Configuration}
    (run : Run agent.Step before task after) (kept : ∀ e ∈ task, LeavesTask e = false) :
    task.countP agent.IssuesCalls ≤ agent.settings.agentMaxResearchRounds := by
  suffices counted : Counted agent.settings.agentMaxResearchRounds (task.countP agent.IssuesCalls)
      after.state.researchRounds after.position from counted.le
  refine run.invariant_history
    (I := fun past c => (∀ e ∈ past, LeavesTask e = false) →
      Counted agent.settings.agentMaxResearchRounds (past.countP agent.IssuesCalls)
        c.state.researchRounds c.position) ?_
    (fun _ => ⟨Nat.zero_le _, fun _ => Nat.zero_le _, fun _ => rfl⟩) kept
  intro past e st counted kept
  obtain ⟨kept, leaves⟩ := List.forall_mem_append.mp kept
  have counted := counted kept
  have kept : e.pre.position ≠ .node .advance ∧ e.pre.position ≠ .node .replan := by
    simpa [LeavesTask, Executes] using leaves
  have issues (h : agent.IssuesCalls e = true) : e.pre.position = .node .research ∧
      agent.researchTrials e.label e.pre.state e.pre.budget ≠ [] := by
    simpa [IssuesCalls, Executes] using h
  rw [List.countP_append, List.countP_singleton]
  refine st.move.counted counted (fun h => ?_) (fun inside stays => ?_)
  · obtain ⟨position, tried⟩ := issues h
    exact ⟨by rw [show e.pre.control.position = _ from position]; trivial, researchTrials_within tried⟩
  · rw [st.researchRounds inside stays kept]
    split
    · next h => rw [if_pos (issues h).1]
    · exact Nat.le_add_right _ _

/-- The adopted plans keep to the limit. -/
lemma replans_le (run : Run agent.Step (agent.start state now) events final) :
    events.countP AdoptsPlan ≤ agent.settings.agentMaxReplans := by
  suffices counted : Counted agent.settings.agentMaxReplans (events.countP AdoptsPlan)
      final.state.replans final.position from counted.le
  refine run.invariant_history
    (I := fun past c => Counted agent.settings.agentMaxReplans (past.countP AdoptsPlan)
      c.state.replans c.position) ?_ ⟨Nat.zero_le _, fun _ => Nat.zero_le _, fun _ => rfl⟩
  intro past e st counted
  have adopts (h : AdoptsPlan e = true) : e.pre.position = .node .replan ∧
      e.post.position = .node .worker := by
    simpa [AdoptsPlan, Executes] using h
  rw [List.countP_append, List.countP_singleton]
  refine st.move.counted counted (fun h => ?_) (fun inside stays => ?_)
  · obtain ⟨position, goes⟩ := adopts h
    refine ⟨by rw [show e.pre.control.position = _ from position]; trivial, ?_⟩
    obtain ⟨n, at_node, -, ⟨state', budget, returned, post⟩ | ⟨error, budget, -, post⟩⟩ :=
      step_cases st
    · have going : e.post.state.stopped = false := (st.move.enters_worker goes).1
      rw [position] at at_node
      cases at_node
      obtain stopped | ⟨left, -⟩ := replan_adopts returned
      · rw [post] at going
        exact absurd (going.symm.trans stopped) Bool.false_ne_true
      · exact left
    · rw [post] at goes
      cases goes
  · rw [st.replans inside stays]
    split
    · next h => rw [if_pos (adopts h).1]
    · exact Nat.le_add_right _ _

end Rounds

section Attained

/-- A request whose echo repeats its own beginning. -/
def repeatingMessage : String :=
  let again := "0123456789Echo mode is active.\n\nMessage received: "
  again ++ again ++ again ++ "0123456789"

/-- What the request repeats. -/
def repeatedPart : String := "0123456789Echo mode is active.\n\nMessage received: "

/-- A long text whose first characters come four times over is found to repeat itself. -/
lemma issues_of_repeats {text : String} (long : 100 < (Text.stripIf Text.isSpace text.toList).length)
    (repeats : 3 < Text.count ((Text.stripIf Text.isSpace text.toList).take 50)
      (Text.stripIf Text.isSpace text.toList)) :
    deterministicOutputIssues text = ["possible_repetition"] := by
  have enough : ¬ (Text.stripIf Text.isSpace text.toList).length < 20 := by omega
  rw [deterministicOutputIssues, if_neg enough, if_pos]
  · rfl
  · rw [Bool.and_eq_true, decide_eq_true_iff, decide_eq_true_iff]
    exact ⟨repeats, long⟩

/-- The echo of the request is the beginning of its answer four times over. -/
lemma repeatingMessage_repeats : deterministicOutputIssues
    ("Echo mode is active.\n\nMessage received: " ++ repeatingMessage) = ["possible_repetition"] := by
  have chars : ("Echo mode is active.\n\nMessage received: " ++ repeatingMessage).toList =
      "Echo mode is active.\n\nMessage received: ".toList ++ (repeatedPart.toList ++
        repeatedPart.toList ++ repeatedPart.toList ++ "0123456789".toList) := by
    show ("Echo mode is active.\n\nMessage received: " ++
      (repeatedPart ++ repeatedPart ++ repeatedPart ++ "0123456789")).toList = _
    rw [String.toList_append, String.toList_append, String.toList_append, String.toList_append]
  apply issues_of_repeats
  · rw [chars]
    decide +kernel
  · rw [chars]
    decide +kernel

/-- The verifier asks for a revision each time. -/
def revisingWorld : World :=
  sampleWorld 0 ⟨.revise, false, [], []⟩ ⟨.pass, true, [], [], fun _ => rfl⟩

/-- The invocation before its plan. -/
def revisingStart (settings : Settings) : Configuration :=
  (sampleAgent settings).start
    (buildFreshRunState repeatingMessage "run" [] ⟨[], []⟩ settings.llmBackend) 0

/-- The only task of the plan. -/
def revisedTask (settings : Settings) : PlanTask :=
  match settings.llmBackend with
  | .echo =>
    { id := "t1"
      objective := repeatingMessage
      completionCriteria := ["Answer directly and completely"] }
  | .ollama => ⟨"t0", "first", [], [], []⟩

/-- What the worker and each revision answer. -/
def revisedResult (settings : Settings) : WorkerResult :=
  match settings.llmBackend with
  | .echo => { answer := "Echo mode is active.\n\nMessage received: " ++ repeatingMessage }
  | .ollama => { answer := "an answer" }

/-- The meter of an invocation that was started with the settings, at these rounds and attempts. -/
structure MeterAt (settings : Settings) (rounds attempts : Nat) (budget : ExecutionBudget) : Prop where
  maxModelCalls : budget.maxModelCalls = settings.executionMaxModelCalls
  maxToolCalls : budget.maxToolCalls = settings.executionMaxToolCalls
  maxVerifierRounds : budget.maxVerifierRounds = settings.executionMaxVerifierRounds
  deadline : 0 < budget.state.deadlineAt
  rounds : budget.state.verifierRounds = rounds
  models : budget.state.physicalModelAttempts =
    if settings.llmBackend = .ollama then attempts else 0
  tools : budget.state.toolAttempts = 0

/-- The invocation in its loop, after so many iterations: at the next one, or at the verification of the
    last one. -/
structure Revising (settings : Settings) (n attempts : Nat) (c : Configuration) : Prop where
  task : c.state.currentTask = .ok (revisedTask settings)
  unlisted : c.state.inventory.modelNames = []
  message : c.state.message = repeatingMessage
  going : c.state.stopped = false
  meter : MeterAt settings n attempts c.budget

variable {settings : Settings} {n attempts : Nat}

lemma MeterAt.check (meter : MeterAt settings n attempts budget)
    (rounds : n ≤ settings.executionMaxVerifierRounds)
    (calls : settings.llmBackend = .ollama → attempts ≤ settings.executionMaxModelCalls) :
    budget.check 0 = .ok () := by
  rw [ExecutionBudget.check_ok, meter.maxModelCalls, meter.maxToolCalls, meter.maxVerifierRounds,
    meter.rounds, meter.models, meter.tools]
  refine ⟨meter.deadline, ?_, Nat.zero_le _, rounds⟩
  split
  · next ollama => exact calls ollama
  · exact Nat.zero_le _

/-- An answer at the first call is one more attempt. -/
lemma MeterAt.answered {α : Type} (meter : MeterAt settings n attempts budget)
    (ollama : settings.llmBackend = .ollama) (rounds : n ≤ settings.executionMaxVerifierRounds)
    (left : attempts < settings.executionMaxModelCalls) (schema : String) (role : Role)
    (unlisted : state.inventory.modelNames = []) (value : α) :
    ∃ model budget', (sampleAgent settings).roleOperation schema role state (.always value) budget =
      (.ok (value, model), budget') ∧ MeterAt settings n (attempts + 1) budget' := by
  obtain ⟨model, selected⟩ := selectModel_unlisted (sampleAgent settings) role unlisted
  have open' : budget.check 0 = .ok () := meter.check rounds fun _ => Nat.le_of_lt left
  have models : budget.state.physicalModelAttempts = attempts := by
    rw [meter.models, if_pos ollama]
  have opened : ({ budget with
      state.logicalModelOperations := budget.state.logicalModelOperations + 1 } :
        ExecutionBudget).check 0 = .ok () := open'
  have below : ¬ budget.maxModelCalls ≤ budget.state.physicalModelAttempts := by
    rw [meter.maxModelCalls, models]
    exact Nat.not_le.mpr left
  refine ⟨model, ExecutionBudget.finishModelAttempt true 0 0 { budget with
    state.logicalModelOperations := budget.state.logicalModelOperations + 1
    state.physicalModelAttempts := budget.state.physicalModelAttempts + 1
    state.fallbackAttempts := budget.state.fallbackAttempts + if 0 < 0 then 1 else 0 }, ?_, ?_⟩
  · simp only [roleOperation, selected, structuredOperation, Operation.always, invokeModel,
      ExecutionBudget.recordLogicalModelOperation, open', invokeJson, structuredModels,
      invokeJsonFrom, chat, ExecutionBudget.beginModelAttempt, opened, if_neg below]
  · refine ⟨meter.maxModelCalls, meter.maxToolCalls, meter.maxVerifierRounds, meter.deadline,
      meter.rounds, ?_, meter.tools⟩
    rw [if_pos ollama]
    exact congrArg (· + 1) models

/-- Without a model there are no attempts. -/
lemma MeterAt.echo {attempts' : Nat} (meter : MeterAt settings n attempts budget)
    (backend : settings.llmBackend = .echo) : MeterAt settings n attempts' budget := by
  have other : ¬ settings.llmBackend = .ollama := by simp [backend]
  refine { meter with models := ?_ }
  rw [meter.models, if_neg other, if_neg other]

lemma MeterAt.revision (meter : MeterAt settings n attempts budget) :
    MeterAt settings n attempts (countRevisionRound budget) := { meter with }

lemma execute_ok {node : Node} (h : agent.run world c.state c.budget node = (.ok state', budget')) :
    agent.execute node world c = ⟨agent.edge node state', state'.withSnapshot budget', budget'⟩ := by
  simp only [execute, h]

/-- The plan leads to the first iteration. -/
lemma plan_revising (settings : Settings) :
    ∃ c, (sampleAgent settings).Step (revisingStart settings) revisingWorld c ∧
    c.position = .node .worker ∧ Revising settings 0 1 c := by
  have meter : MeterAt settings 0 0 (revisingStart settings).budget := by
    refine ⟨rfl, rfl, rfl, ?_, rfl, (ite_self _).symm, rfl⟩
    have bounds := settings.duration_bounds.1
    have positive : (0 : Int) < seconds 5 := by decide
    show (0 : Int) < 0 + settings.executionMaxDuration
    rw [Int.zero_add]
    exact Int.lt_of_lt_of_le positive bounds
  have checked := meter.check (Nat.zero_le _) fun _ => Nat.zero_le _
  obtain ⟨state', budget', planned, meter, edge, task, unlisted, message, going⟩ : ∃ state' budget',
      (sampleAgent settings).run revisingWorld (revisingStart settings).state
        (revisingStart settings).budget .plan = (.ok state', budget') ∧
      MeterAt settings 0 1 budget' ∧ (sampleAgent settings).edge .plan state' = .node .worker ∧
      state'.currentTask = .ok (revisedTask settings) ∧ state'.inventory.modelNames = [] ∧
      state'.message = repeatingMessage ∧ state'.stopped = false := by
    cases backend : settings.llmBackend with
    | echo =>
      have echo : (sampleAgent settings).settings.llmBackend = .echo := backend
      simp only [run, plan, show revisingWorld.now = 0 from rfl, checked, echo, revisedTask, backend]
      exact ⟨_, _, rfl, meter.echo backend, rfl, rfl, rfl, rfl, rfl⟩
    | ollama =>
      have ollama : (sampleAgent settings).settings.llmBackend = .ollama := backend
      obtain ⟨model, budget', answered, meter⟩ := meter.answered backend (Nat.zero_le _)
        settings.modelCalls_bounds.1 "ExecutionPlan" .planner
        (show (revisingStart settings).state.inventory.modelNames = [] from rfl)
        (⟨"goal", [⟨"t0", "first", [], [], []⟩], List.cons_ne_nil _ _⟩ : ExecutionPlan)
      simp only [run, plan, show revisingWorld.now = 0 from rfl, checked, ollama, revisedTask, backend]
      split
      · next failed => cases answered.symm.trans failed
      · next failed => cases answered.symm.trans failed
      · next returned =>
        cases answered.symm.trans returned
        exact ⟨_, _, rfl, meter, rfl, rfl, rfl, rfl, rfl⟩
  refine ⟨_, ⟨.plan, rfl, rfl⟩, ?_⟩
  rw [execute_ok planned]
  exact ⟨edge, task, unlisted, message, going, meter⟩

/-- An iteration leads to its verification. -/
lemma work_revising (loop : Revising settings n attempts c)
    (position : c.position = .node .worker ∨
      c.position = .node .revise ∧ c.state.workerResult = some (revisedResult settings))
    (rounds : n ≤ settings.executionMaxVerifierRounds)
    (calls : settings.llmBackend = .ollama → attempts < settings.executionMaxModelCalls) :
    ∃ c', (sampleAgent settings).Step c revisingWorld c' ∧ c'.position = .node .verify ∧
      c'.state.workerResult = some (revisedResult settings) ∧ Revising settings n (attempts + 1) c' := by
  obtain ⟨node, name, model, budget', at_node, edge, returned, meter⟩ : ∃ node name model budget',
      c.position = .node node ∧
        (sampleAgent settings).edge node (c.state.worked name (revisedResult settings) model) =
          .node .verify ∧
        (sampleAgent settings).run revisingWorld c.state c.budget node =
          (.ok (c.state.worked name (revisedResult settings) model), budget') ∧
        MeterAt settings n (attempts + 1) budget' := by
    have edges {name model : String} := edge_budgeted (sampleAgent settings)
      (show (c.state.worked name (revisedResult settings) model).stopped = false from loop.going)
    have checked {budget : ExecutionBudget} (meter : MeterAt settings n attempts budget) :
        budget.check revisingWorld.now = .ok () :=
      meter.check rounds fun ollama => Nat.le_of_lt (calls ollama)
    cases backend : settings.llmBackend with
    | echo =>
      have echo : (sampleAgent settings).settings.llmBackend = .echo := backend
      obtain worker | ⟨revise, result⟩ := position
      -- the first iteration comes from the worker, every later one from a revision
      · refine ⟨.worker, "worker", "echo", _, worker, edges.2.1, ?_, loop.meter.echo backend⟩
        simp only [run, ChatAgent.worker, checked loop.meter, loop.task, echo, loop.message,
          revisedResult, backend]
      · refine ⟨.revise, "revise", "echo", _, revise, edges.2.2.1, ?_,
          loop.meter.revision.echo backend⟩
        simp only [run, ChatAgent.revise, checked loop.meter.revision, loop.task, echo, result]
    | ollama =>
      have ollama : (sampleAgent settings).settings.llmBackend = .ollama := backend
      have value : revisedResult settings = { answer := "an answer" } := by
        simp only [revisedResult, backend]
      obtain worker | ⟨revise, -⟩ := position
      · obtain ⟨model, budget', answered, meter⟩ := loop.meter.answered backend rounds (calls backend)
          "WorkerResult" .general loop.unlisted (revisedResult settings)
        refine ⟨.worker, "worker", model, budget', worker, edges.2.1, ?_, meter⟩
        rw [value] at answered ⊢
        simp only [run, ChatAgent.worker, checked loop.meter, loop.task, ollama]
        split
        · next failed => cases answered.symm.trans failed
        · next failed => cases answered.symm.trans failed
        · next returned =>
          cases answered.symm.trans returned
          rfl
      · obtain ⟨model, budget', answered, meter⟩ := loop.meter.revision.answered backend rounds
          (calls backend) "WorkerResult" .general loop.unlisted (revisedResult settings)
        refine ⟨.revise, "revise", model, budget', revise, edges.2.2.1, ?_, meter⟩
        rw [value] at answered ⊢
        simp only [run, ChatAgent.revise, checked loop.meter.revision, loop.task, ollama]
        split
        · next failed => cases answered.symm.trans failed
        · next returned =>
          cases answered.symm.trans returned
          rfl
  refine ⟨_, ⟨node, at_node, rfl⟩, ?_⟩
  rw [execute_ok returned]
  exact ⟨edge, rfl, loop.task, loop.unlisted, loop.message, loop.going, meter⟩

/-- The verification of an iteration leads to the next one. -/
lemma verify_revising (loop : Revising settings n attempts c) (position : c.position = .node .verify)
    (result : c.state.workerResult = some (revisedResult settings))
    (rounds : n < settings.executionMaxVerifierRounds)
    (calls : settings.llmBackend = .ollama → attempts < settings.executionMaxModelCalls) :
    ∃ c', (sampleAgent settings).Step c revisingWorld c' ∧ c'.position = .node .revise ∧
      c'.state.workerResult = some (revisedResult settings) ∧
      Revising settings (n + 1) (attempts + 1) c' := by
  have counted : MeterAt settings (n + 1) attempts (countVerifierRound c.budget) :=
    { loop.meter with rounds := congrArg (· + 1) loop.meter.rounds }
  have checked : (countVerifierRound c.budget).check revisingWorld.now = .ok () :=
    counted.check rounds fun ollama => Nat.le_of_lt (calls ollama)
  obtain ⟨report, grounding, model, budget', revise, returned, meter⟩ :
      ∃ report grounding model budget', report.verdict = .revise ∧
        (sampleAgent settings).run revisingWorld c.state c.budget .verify =
          (.ok (c.state.verified report grounding model), budget') ∧
        MeterAt settings (n + 1) (attempts + 1) budget' := by
    cases backend : settings.llmBackend with
    | echo =>
      have echo : (sampleAgent settings).settings.llmBackend = .echo := backend
      have value : revisedResult settings =
          { answer := "Echo mode is active.\n\nMessage received: " ++ repeatingMessage } := by
        simp only [revisedResult, backend]
      have repeats := repeatingMessage_repeats
      simp only [run, verify, checked, result, loop.task, echo, value, repeats]
      exact ⟨_, _, "echo", _, by simp [downgraded, groundingIssues, groundClaims], rfl,
        counted.echo backend⟩
    | ollama =>
      have ollama : (sampleAgent settings).settings.llmBackend = .ollama := backend
      obtain ⟨model, budget', answered, meter⟩ := counted.answered backend rounds (calls backend)
        "VerificationReport" .fastReasoning loop.unlisted (⟨.revise, false, [], []⟩ : VerificationReport)
      simp only [run, verify, checked, result, loop.task, ollama]
      split
      · next failed => cases answered.symm.trans failed
      · next failed => cases answered.symm.trans failed
      · next returned =>
        cases answered.symm.trans returned
        exact ⟨_, _, model, _, by simp [downgraded], rfl, meter⟩
  refine ⟨_, ⟨.verify, position, rfl⟩, ?_⟩
  rw [execute_ok returned]
  refine ⟨?_, result, loop.task, loop.unlisted, loop.message, loop.going, meter⟩
  rw [edge_verify (show (c.state.verified report grounding model).stopped = false from loop.going) rfl,
    revise]

/-- As long as the other budgets last, the loop comes to its next iteration. -/
lemma revising_reached (rounds : n ≤ settings.executionMaxVerifierRounds)
    (calls : settings.llmBackend = .ollama → 2 * n + 1 ≤ settings.executionMaxModelCalls) :
    ∃ events c, Run (sampleAgent settings).Step (revisingStart settings) events c ∧
      events.countP Works = n ∧ (c.position = .node .worker ∨
        c.position = .node .revise ∧ c.state.workerResult = some (revisedResult settings)) ∧
      Revising settings n (2 * n + 1) c := by
  induction n with
  | zero =>
    obtain ⟨c, st, position, loop⟩ := plan_revising settings
    exact ⟨_, c, .single st, rfl, .inl position, loop⟩
  | succ n ih =>
    obtain ⟨events, c, run, works, position, loop⟩ := ih (Nat.le_of_succ_le rounds) fun ollama => by
      have := calls ollama
      omega
    obtain ⟨c1, st1, verify, result, loop⟩ := work_revising loop position
      (Nat.le_of_succ_le rounds) fun ollama => by
        have := calls ollama
        omega
    obtain ⟨c2, st2, revise, result, loop⟩ := verify_revising loop verify result rounds
      fun ollama => by
        have := calls ollama
        omega
    refine ⟨_, c2, (run.append (.single st1)).append (.single st2), ?_, .inr ⟨revise, result⟩, loop⟩
    have worked : Works ⟨c, revisingWorld, c1⟩ = true := works_iff.mpr (position.imp id And.left)
    have verified : Works ⟨c1, revisingWorld, c2⟩ = false := by
      simp [Works, Executes, verify]
    simp [works, worked, verified]

/-- The other budgets are used up by some run. -/
lemma workLimit_reached (settings : Settings) : ∃ events final,
    Run (sampleAgent settings).Step (revisingStart settings) events final ∧
      events.countP Works = workLimit settings := by
  have last {n : Nat} (rounds : n ≤ settings.executionMaxVerifierRounds)
      (calls : settings.llmBackend = .ollama → 2 * n + 1 ≤ settings.executionMaxModelCalls) :
      ∃ events final, Run (sampleAgent settings).Step (revisingStart settings) events final ∧
        events.countP Works = n + 1 := by
    obtain ⟨events, c, run, works, position, -⟩ := revising_reached rounds calls
    obtain ⟨node, at_node⟩ : ∃ node, c.position = .node node := by
      obtain position | ⟨position, -⟩ := position
      · exact ⟨_, position⟩
      · exact ⟨_, position⟩
    have st : (sampleAgent settings).Step c revisingWorld
        ((sampleAgent settings).execute node revisingWorld c) := ⟨node, at_node, rfl⟩
    refine ⟨_, _, run.append (.single st), ?_⟩
    have worked : Works ⟨c, revisingWorld, (sampleAgent settings).execute node revisingWorld c⟩ = true :=
      works_iff.mpr (position.imp id And.left)
    simp [works, worked]
  have bounds := settings.verifierRounds_bounds
  have calls := settings.modelCalls_bounds
  rw [workLimit]
  cases backend : settings.llmBackend with
  | echo => exact last (Nat.le_refl _) (by simp [backend])
  | ollama =>
    obtain ⟨events, final, run, works⟩ := last (n := min settings.executionMaxVerifierRounds
      ((settings.executionMaxModelCalls - 1) / 2)) (Nat.min_le_left _ _) fun _ => by omega
    refine ⟨events, final, run, ?_⟩
    rw [works]
    dsimp only
    omega

end Attained

/-- Every run with these settings keeps to the limits of the loop exactly when the other budgets leave
    room for no more iterations than the settings allow. -/
theorem loopLimits_iff (settings : Settings) :
    (∀ (agent : ChatAgent) (state : AgentGraphState) (now : Time)
      (events : List (Event Configuration World)) (final : Configuration),
        agent.settings = settings → Run agent.Step (agent.start state now) events final →
          agent.LoopLimits events) ↔
      workLimit settings ≤ settings.agentMaxIterations := by
  constructor
  · intro limits
    obtain ⟨events, final, run, works⟩ := workLimit_reached settings
    exact works ▸ (limits (sampleAgent settings) _ _ events final rfl run).works
  · rintro enough agent state now events final rfl run
    refine ⟨(works_le run).trans enough, ?_, replans_le run⟩
    rintro before task after rfl kept
    obtain ⟨_, run, -⟩ := run.split
    obtain ⟨_, -, run⟩ := run.split
    exact research_le run kept

/-- The default settings but for one iteration of the loop. -/
def oneIterationSettings : Settings :=
  { sampleSettings .echo with agentMaxIterations := 1, iterations_bounds := by decide }

/-- One iteration is allowed, and the loop makes four. -/
theorem iterations_not_limited : ¬ ∀ (settings : Settings) (agent : ChatAgent)
    (state : AgentGraphState) (now : Time) (events : List (Event Configuration World))
    (final : Configuration), agent.settings = settings →
      Run agent.Step (agent.start state now) events final → agent.LoopLimits events := by
  intro claim
  obtain ⟨events, final, run, works⟩ := workLimit_reached oneIterationSettings
  have limited := (claim oneIterationSettings _ _ _ events final rfl run).works
  rw [works] at limited
  exact absurd limited (by decide)

end ChatAgent

end AgentRuntime.Graph
