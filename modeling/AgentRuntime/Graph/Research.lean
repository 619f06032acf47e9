import AgentRuntime.Graph.Completion

/-!
# Research before work

The decision of `_set_next_action` is recorded in the state, and consulted only by the edges out of
`plan` and `advance`; the edge out of `replan` leads to the worker whatever was decided. Research is
recorded under the task's id, which a planner may give to several tasks. So a run enters the worker for
a task that needs evidence only after its research exactly when no replan leads to such a task and no
task takes over the id of one that was researched before.
-/

namespace AgentRuntime.Graph
open Orchestration Transition

/-- The task needs external evidence for the request (`RuntimeRouter.classify_task`). -/
def NeedsEvidence (agent : ChatAgent) (state : AgentGraphState) (task : PlanTask) : Prop :=
  (agent.router.classifyTask state.message task).requiresExternalEvidence = true

/-- The current task needs external evidence. -/
def CurrentNeedsEvidence (agent : ChatAgent) (state : AgentGraphState) : Prop :=
  ∃ task, state.currentTask = .ok task ∧ NeedsEvidence agent state task

/-- Among the events, a research round for the task at the index has succeeded, and no plan was adopted
    since. -/
def Researched (events : List (Event Configuration World)) (index : Nat) : Prop :=
  ∃ before r since, events = before ++ r :: since ∧
    r.pre.position = .node .research ∧ r.post.position = .node .worker ∧
    r.pre.state.taskIndex = index ∧
    ∀ e ∈ since, e.pre.position ≠ .node .plan ∧ e.pre.position ≠ .node .replan

/-- Whenever the worker is entered for a task that needs evidence, that task was researched under the
    plan in force. -/
def ResearchFirst (agent : ChatAgent) (events : List (Event Configuration World)) : Prop :=
  ∀ before e after, events = before ++ e :: after → e.post.position = .node .worker →
    CurrentNeedsEvidence agent e.post.state → Researched (before ++ [e]) e.post.state.taskIndex

namespace ChatAgent

/-- The plan that `_replan` gets: the planner's answer, or the plan in force in echo mode. -/
def replacementPlan (agent : ChatAgent) (world : World) (state : AgentGraphState)
    (budget : ExecutionBudget) : Option ExecutionPlan :=
  match agent.settings.llmBackend with
  | .echo => state.plan
  | .ollama =>
    ((agent.roleOperation "ExecutionPlan" .planner state world.plans
      (setReplans (state.replans + 1) budget)).1.map Prod.fst).toOption

/-- Within the limit of replans, `_replan` gets a plan whose first task needs evidence. -/
def ReplansToEvidence (agent : ChatAgent) (e : Event Configuration World) : Prop :=
  e.pre.position = .node .replan ∧ e.pre.state.replans < agent.settings.agentMaxReplans ∧
    ∃ plan task, agent.replacementPlan e.label e.pre.state e.pre.budget = some plan ∧
      plan.tasks[0]? = some task ∧ NeedsEvidence agent e.pre.state task

/-- `_advance` comes to a task that needs evidence, under an id for which research is recorded. -/
def AdvancesToSharedId (agent : ChatAgent) (e : Event Configuration World) : Prop :=
  e.pre.position = .node .advance ∧
    ∃ task, e.pre.state.tasks[e.pre.state.taskIndex + 1]? = some task ∧
      NeedsEvidence agent e.pre.state task ∧ task.id ∈ e.pre.state.researchedTaskIds

/-- The step passes over the research of the task that it leads to. -/
def SkipsResearch (agent : ChatAgent) (e : Event Configuration World) : Prop :=
  agent.ReplansToEvidence e ∨ agent.AdvancesToSharedId e

end ChatAgent

section Moves

variable {V F : Nat} {terminates fails : Prop} {c c' : Control}

lemma Move.entered_going (m : Move V F terminates fails c c')
    (position : c'.position = .node .replan ∨ c'.position = .node .advance) :
    c'.stopped = false := by
  cases m with
  | raise | stop => exact position.elim nofun nofun
  | terminate | reviseFinal | revisionFails => exact position.elim nofun nofun
  | _ => rfl

lemma Move.enters_worker (m : Move V F terminates fails c c')
    (position : c'.position = .node .worker) :
    c'.stopped = false ∧ (c.position = .node .plan ∨ c.position = .node .research ∨
      c.position = .node .replan ∨ c.position = .node .advance) := by
  cases m with
  | plan => exact ⟨rfl, .inl rfl⟩
  | research => exact ⟨rfl, .inr (.inl rfl)⟩
  | replan => exact ⟨rfl, .inr (.inr (.inl rfl))⟩
  | advance => exact ⟨rfl, .inr (.inr (.inr rfl))⟩
  | verify _ _ next => obtain rfl | rfl | rfl | rfl := next <;> cases position
  | _ => cases position

end Moves

namespace AgentGraphState

variable {router : RuntimeRouter} {state state' : AgentGraphState}

/-- The next action is research exactly when the task needs evidence and none is recorded under its
    id. -/
lemma setNextAction_decides (h : state.setNextAction router = .ok state') :
    ∃ task, state.currentTask = .ok task ∧ (state'.nextAction = .research ↔
      (router.classifyTask state.message task).requiresExternalEvidence = true ∧
        task.id ∉ state.researchedTaskIds) := by
  simp only [setNextAction] at h
  split at h
  · cases h
  · next task current =>
    cases h
    refine ⟨task, current, ?_⟩
    simp only
    split
    · next decided => simpa using decided
    · next other => simpa using other

lemma setNextAction_total (router : RuntimeRouter) {task : PlanTask}
    (current : state.currentTask = .ok task) : ∃ state', state.setNextAction router = .ok state' := by
  simp only [setNextAction, current]
  exact ⟨_, rfl⟩

end AgentGraphState

namespace ChatAgent

variable {agent : ChatAgent} {world : World} {state state' : AgentGraphState}
variable {budget budget' : ExecutionBudget}

section Nodes

lemma edge_decided (agent : ChatAgent) {node : Node} (decides : node = .plan ∨ node = .advance)
    (position : agent.edge node state = .node .worker) : state.nextAction ≠ .research := by
  intro research
  obtain rfl | rfl := decides
  · simp only [edge, afterPlan, research, if_true] at position
    split at position <;> cases position
  · simp only [edge, afterAdvance, research, if_true] at position
    split at position
    · cases position
    · split at position <;> cases position

lemma edge_advance_worker (agent : ChatAgent) (going : state.stopped = false)
    (more : state.taskIndex < state.tasks.length) (decided : state.nextAction ≠ .research) :
    agent.edge .advance state = .node .worker := by
  simp only [edge, afterAdvance, going, Bool.false_eq_true, if_false, if_neg (Nat.not_le.mpr more),
    if_neg decided]
  rfl

/-- A first plan forgets what was researched. -/
lemma plan_decides (h : agent.plan world state budget = (.ok state', budget')) :
    state'.stopped = true ∨ (state'.nextAction ≠ .research → ¬ CurrentNeedsEvidence agent state') := by
  have adopted : ∀ {plan model evidence},
      (state.planned plan model evidence).setNextAction agent.router = .ok state' →
        state'.nextAction ≠ .research → ¬ CurrentNeedsEvidence agent state' := by
    intro plan model evidence next other ⟨task, current, needs⟩
    obtain ⟨task', current', decided⟩ := AgentGraphState.setNextAction_decides next
    obtain ⟨action, routing, rfl⟩ := AgentGraphState.setNextAction_ok next
    cases current'.symm.trans current
    exact other (decided.mpr ⟨needs, List.not_mem_nil⟩)
  simp only [plan] at h
  split at h
  · next exc refused =>
    cases h
    exact .inl (decide_eq_true (ExecutionBudget.check_message refused))
  · split at h
    · exact .inr (adopted (Prod.mk.inj h).1)
    · split at h
      · cases h
        exact .inl (by simpa using structuredOutputReason_ne _ _)
      · cases h
      · exact .inr (adopted (Prod.mk.inj h).1)

/-- `_replan` stops the run, or adopts the plan that it gets. -/
lemma replan_adopts (h : agent.replan world state budget = (.ok state', budget')) :
    state'.stopped = true ∨ state.replans < agent.settings.agentMaxReplans ∧ ∃ plan model,
      agent.replacementPlan world state budget = some plan ∧
        (state.replanned plan model (state.replans + 1)).setNextAction agent.router = .ok state' := by
  simp only [replan] at h
  split at h
  · cases h
    exact .inl rfl
  · next within =>
    have left : state.replans < agent.settings.agentMaxReplans := Nat.not_lt.mp within
    split at h
    · next backend =>
      split at h
      · cases h
      · next plan planned =>
        refine .inr ⟨left, plan, _, ?_, (Prod.mk.inj h).1⟩
        simp only [replacementPlan, backend, planned]
    · next backend =>
      split at h
      · cases h
      · next plan _ _ answered =>
        refine .inr ⟨left, plan, _, ?_, (Prod.mk.inj h).1⟩
        simp only [replacementPlan, backend, answered, Except.map, Except.toOption]

/-- Within the limit, `_replan` decides about the first task of the plan that it gets. -/
lemma replan_of_plan {plan : ExecutionPlan} (left : state.replans < agent.settings.agentMaxReplans)
    (replacement : agent.replacementPlan world state budget = some plan) :
    ∃ model budget', agent.replan world state budget =
      ((state.replanned plan model (state.replans + 1)).setNextAction agent.router, budget') := by
  have within : ¬ agent.settings.agentMaxReplans < state.replans + 1 := Nat.not_lt.mpr left
  simp only [replan, if_neg within]
  cases backend : agent.settings.llmBackend with
  | echo =>
    simp only [replacementPlan, backend] at replacement
    simp only [replacement]
    exact ⟨_, _, rfl⟩
  | ollama =>
    simp only [replacementPlan, backend] at replacement
    cases called : agent.roleOperation "ExecutionPlan" .planner state world.plans
        (setReplans (state.replans + 1) budget) with
    | mk answer after =>
      rw [called] at replacement
      cases answer with
      | error => cases replacement
      | ok =>
        cases replacement
        exact ⟨_, _, rfl⟩

/-- `_advance` decides about the next task of the plan. -/
lemma advance_to_next (agent : ChatAgent) (budget : ExecutionBudget) {task : PlanTask}
    (found : state.tasks[state.taskIndex + 1]? = some task) :
    ∃ state', agent.advance state budget = (.ok state', budget) := by
  have more : state.taskIndex + 1 < state.tasks.length := (List.getElem?_eq_some_iff.mp found).1
  have current : state.currentTask = .ok (state.tasks[state.taskIndex]) :=
    AgentGraphState.currentTask_ok.mpr (List.getElem?_eq_getElem _)
  have next : (state.advanced (state.tasks[state.taskIndex])).currentTask = .ok task :=
    AgentGraphState.currentTask_ok.mpr found
  obtain ⟨state', decided⟩ := AgentGraphState.setNextAction_total agent.router next
  refine ⟨state', ?_⟩
  simp only [advance, current]
  rw [if_pos (show (state.advanced _).taskIndex < (state.advanced _).tasks.length from more), decided]

/-- `_advance` comes to the end of the plan, or decides about its next task. -/
lemma advance_decides (h : agent.advance state budget = (.ok state', budget')) :
    state'.tasks = state.tasks ∧ state'.message = state.message ∧
      (state'.taskIndex < state'.tasks.length → ∃ task,
        state.tasks[state.taskIndex + 1]? = some task ∧ (state'.nextAction = .research ↔
          NeedsEvidence agent state task ∧ task.id ∉ state.researchedTaskIds)) := by
  simp only [advance] at h
  split at h
  · cases h
  · next task current =>
    split at h
    · have next := (Prod.mk.inj h).1
      obtain ⟨task', current', decided⟩ := AgentGraphState.setNextAction_decides next
      obtain ⟨action, routing, rfl⟩ := AgentGraphState.setNextAction_ok next
      exact ⟨rfl, rfl, fun _ => ⟨task', AgentGraphState.currentTask_ok.mp current', decided⟩⟩
    · next last =>
      cases h
      exact ⟨rfl, rfl, fun more => absurd more last⟩

end Nodes

section Steps

variable {c c' : Configuration}

/-- Between two plans, the tasks are taken in order. -/
lemma Step.taskIndex_le (st : agent.Step c world c')
    (kept : c.position ≠ .node .plan ∧ c.position ≠ .node .replan) :
    c.state.taskIndex ≤ c'.state.taskIndex := by
  -- every node but `advance` stays at its task
  have same : ∀ {state' budget}, SameProgress c.state state' →
      c.state.taskIndex ≤ (AgentGraphState.withSnapshot state' budget).taskIndex :=
    fun progress => progress.taskIndex.ge
  obtain ⟨node, position, -, ⟨state', budget, returned, rfl⟩ | ⟨error, budget, -, rfl⟩⟩ :=
    step_cases st
  · cases node with
    | plan => exact absurd position kept.1
    | replan => exact absurd position kept.2
    | research => exact same (research_ok returned).1
    | worker =>
      obtain ⟨reason, -, rfl⟩ | ⟨result, model, rfl⟩ := worker_ok returned
      · exact same (.stop _ _)
      · exact same (.worked _ _ _ _)
    | verify =>
      obtain ⟨exc, -, rfl⟩ | ⟨report, grounding, model, rfl, -⟩ := verify_ok returned
      · exact same ⟨rfl, rfl, rfl⟩
      · exact same (.verified _ _ _ _)
    | revise =>
      obtain ⟨reason, -, rfl⟩ | ⟨result, model, rfl⟩ := revise_ok returned
      · exact same (.stop _ _)
      · exact same (.worked _ _ _ _)
    | advance =>
      obtain ⟨task, -, -, index, -⟩ := advance_ok returned
      exact index ▸ Nat.le_succ _
    | finalize =>
      obtain ⟨progress, -⟩ | ⟨response, model, required, -, rfl, -⟩ := finalize_ok returned
      · exact same progress
      · exact same (.finalized _ _ _ _ _)
    | verifyFinal =>
      obtain ⟨progress, -⟩ | ⟨report, model, rfl, -⟩ := verifyFinal_ok returned
      · exact same progress
      · exact same (.finallyVerified _ _ _)
    | reviseFinal =>
      obtain ⟨-, progress, -⟩ | ⟨-, response, model, rfl⟩ := reviseFinal_ok returned
      · exact same progress
      · exact same (.finallyRevised _ _ _ _)
    | terminate =>
      cases returned
      exact Nat.le_refl _
  · exact Nat.le_refl _

/-- The worker is entered for a task that needs evidence only from its research, or by a step that
    passes over it. -/
lemma Step.worker_entered (st : agent.Step c world c') (position : c'.position = .node .worker)
    (needs : CurrentNeedsEvidence agent c'.state) :
    (c.position = .node .research ∧ c'.state.taskIndex = c.state.taskIndex) ∨
      agent.SkipsResearch ⟨c, world, c'⟩ := by
  obtain ⟨going, origin⟩ := st.move.enters_worker position
  obtain ⟨node, at_node, -, ⟨state', budget, returned, rfl⟩ | ⟨error, budget, -, rfl⟩⟩ :=
    step_cases st
  · have going : state'.stopped = false := going
    rw [show c.control.position = .node node from at_node] at origin
    -- the nodes with an edge to the worker
    obtain plan | research | replan | advance := origin
    · cases plan
      obtain stopped | decided := plan_decides returned
      · exact absurd (going.symm.trans stopped) Bool.false_ne_true
      · exact absurd needs (decided (edge_decided agent (.inl rfl) position))
    · cases research
      exact .inl ⟨at_node, (research_ok returned).1.taskIndex⟩
    · cases replan
      obtain stopped | ⟨left, plan, model, replacement, next⟩ := replan_adopts returned
      · exact absurd (going.symm.trans stopped) Bool.false_ne_true
      · obtain ⟨task, current, needs⟩ := needs
        obtain ⟨action, routing, rfl⟩ := AgentGraphState.setNextAction_ok next
        exact .inr (.inl ⟨at_node, left, plan, task, replacement,
          AgentGraphState.currentTask_ok.mp current, needs⟩)
    · cases advance
      obtain ⟨task, current, needs⟩ := needs
      obtain ⟨tasks, message, more⟩ := advance_decides returned
      obtain ⟨-, -, -, index, -⟩ := advance_ok returned
      have current : state'.tasks[state'.taskIndex]? = some task :=
        AgentGraphState.currentTask_ok.mp current
      obtain ⟨task', found, decided⟩ := more (List.getElem?_eq_some_iff.mp current).1
      rw [index, tasks, found] at current
      cases current
      have needs : NeedsEvidence agent c.state task := by
        simpa only [NeedsEvidence, AgentGraphState.withSnapshot, message] using needs
      refine .inr (.inr ⟨at_node, task, found, needs, ?_⟩)
      by_contra fresh
      exact edge_decided agent (.inr rfl) position (decided.mpr ⟨needs, fresh⟩)
  · cases position

/-- A step that passes over research enters the worker for a task that needs evidence. -/
lemma Step.skips (st : agent.Step c world c') (going : c.state.stopped = false)
    (skips : agent.SkipsResearch ⟨c, world, c'⟩) :
    c'.position = .node .worker ∧ CurrentNeedsEvidence agent c'.state ∧
      (c.position = .node .replan ∨
        c.position = .node .advance ∧ c'.state.taskIndex = c.state.taskIndex + 1) := by
  obtain ⟨node, at_node, rfl⟩ := st
  obtain ⟨position, left, plan, task, replacement, first, needs⟩ |
    ⟨position, task, found, needs, shared⟩ := skips
  · cases at_node.symm.trans position
    obtain ⟨model, budget', returned⟩ := replan_of_plan left replacement
    have current : (c.state.replanned plan model (c.state.replans + 1)).currentTask = .ok task :=
      AgentGraphState.currentTask_ok.mpr first
    obtain ⟨state', next⟩ := AgentGraphState.setNextAction_total agent.router current
    rw [next] at returned
    obtain ⟨action, routing, rfl⟩ := AgentGraphState.setNextAction_ok next
    simp only [execute, run, returned]
    exact ⟨(edge_budgeted agent going).2.2.2, ⟨task, current, needs⟩, .inl at_node⟩
  · cases at_node.symm.trans position
    obtain ⟨state', returned⟩ := advance_to_next agent c.budget found
    obtain ⟨tasks, message, more⟩ := advance_decides returned
    obtain ⟨-, -, -, index, stopped, -⟩ := advance_ok returned
    have within : state'.taskIndex < state'.tasks.length := by
      rw [index, tasks]
      exact (List.getElem?_eq_some_iff.mp found).1
    have current : state'.currentTask = .ok task := by
      rw [AgentGraphState.currentTask_ok, index, tasks]
      exact found
    obtain ⟨task', found', decided⟩ := more within
    cases found.symm.trans found'
    have edge := edge_advance_worker agent (stopped.trans going) within
      fun research => (decided.mp research).2 shared
    simp only [execute, run, returned]
    refine ⟨edge, ⟨task, current, ?_⟩, .inr ⟨at_node, index⟩⟩
    simpa only [NeedsEvidence, AgentGraphState.withSnapshot, message] using needs

end Steps

section Runs

variable {now : Time} {events : List (Event Configuration World)} {c final : Configuration}

lemma run_taskIndex_le (run : Run agent.Step c events final)
    (kept : ∀ e ∈ events, e.pre.position ≠ .node .plan ∧ e.pre.position ≠ .node .replan) :
    c.state.taskIndex ≤ final.state.taskIndex :=
  run.invariant (I := fun c' => c.state.taskIndex ≤ c'.state.taskIndex)
    (fun _ st keeps earlier => earlier.trans (Step.taskIndex_le st keeps)) kept (Nat.le_refl _)

/-- No step of a run passes over research when the run keeps research first. -/
lemma researchFirst_keeps (run : Run agent.Step (agent.start state now) events final)
    (first : ResearchFirst agent events) {e : Event Configuration World} (mem : e ∈ events) :
    ¬ agent.SkipsResearch e := by
  intro skips
  have st := run.step_of_mem mem
  have going : e.pre.position = .node .replan ∨ e.pre.position = .node .advance →
      e.pre.state.stopped = false := by
    refine (run.invariant_mem (I := fun c => c.position = .node .replan ∨
      c.position = .node .advance → c.state.stopped = false) (G := fun _ => True) ?_
      (fun _ _ => trivial) (fun position => position.elim nofun nofun) mem).1
    exact fun e st _ _ position => st.move.entered_going position
  have origin : e.pre.position = .node .replan ∨ e.pre.position = .node .advance :=
    skips.imp And.left And.left
  obtain ⟨position, needs, passed⟩ := st.skips (going origin) skips
  obtain ⟨before, after, rfl⟩ := List.append_of_mem mem
  obtain ⟨earlier, r, since, split, research, worked, index, kept⟩ :=
    first before e after rfl position needs
  obtain rfl | ⟨since, last, rfl⟩ := List.eq_nil_or_concat' since
  · obtain ⟨-, same⟩ := List.append_inj' split rfl
    cases same
    rw [research] at origin
    exact origin.elim nofun nofun
  · rw [← List.cons_append, ← List.append_assoc] at split
    obtain ⟨rfl, same⟩ := List.append_inj' split rfl
    cases same
    obtain replan | ⟨-, next⟩ := passed
    · exact (kept e (List.mem_append_right _ (.head _))).2 replan
    · -- the research was for an earlier task: the index has only risen since
      obtain ⟨middle, before, rest⟩ := run.split
      obtain ⟨pre, -, during⟩ := before.split
      obtain rfl := during.head.1
      obtain rfl := rest.head.1
      have later := run_taskIndex_le during fun e' mem' => by
        obtain rfl | mem' := List.mem_cons.mp mem'
        · exact ⟨research ▸ nofun, research ▸ nofun⟩
        · exact kept e' (List.mem_append_left _ mem')
      omega

/-- Research first: in a run of the graph, the worker is entered for a task that needs external evidence
    only after research for that task under the plan in force, exactly when no replan gets a plan whose
    first task needs evidence and no task that needs evidence is advanced to under an id for which
    research is recorded. -/
theorem research_first_iff (run : Run agent.Step (agent.start state now) events final) :
    ResearchFirst agent events ↔ ∀ e ∈ events, ¬ agent.SkipsResearch e := by
  constructor
  · exact fun first e mem => researchFirst_keeps run first mem
  · rintro keeps before e after rfl position needs
    have mem : e ∈ before ++ e :: after := List.mem_append_right _ (.head _)
    have st := run.step_of_mem mem
    obtain ⟨research, index⟩ | skips := st.worker_entered position needs
    · exact ⟨before, e, [], rfl, research, position, index.symm, List.forall_mem_nil _⟩
    · exact absurd skips (keeps e mem)

end Runs

section Samples

/-- An agent for examples: the tasks with the id `t1` need evidence, and one tool is a candidate. -/
def evidenceAgent : ChatAgent :=
  let agent := sampleAgent { sampleSettings .ollama with mcpEnabled := true }
  { agent with router :=
    { agent.router with
      classifyTask := fun _ task => ⟨task.id = "t1", .general, .fastReasoning, "sample"⟩
      selectTools := fun _ _ _ _ _ _ _ => [⟨"search", []⟩] } }

/-- The task `t1` follows in the plan, and is researched before the worker is entered for it. -/
theorem research_first_iff_evidence :
    let world := sampleWorld 1 ⟨.pass, true, [], []⟩ ⟨.pass, true, [], [], fun _ => rfl⟩
    let start := evidenceAgent.start (sampleState evidenceAgent.settings) 0
    let events := evidenceAgent.trace (fun _ _ => world) start 6
    ResearchFirst evidenceAgent events ↔ ∀ e ∈ events, ¬ evidenceAgent.SkipsResearch e :=
  research_first_iff (trace_run _ _ 5 (by decide +kernel))

/-- The verifier asks for another plan, and the planner answers with one whose first task is `t1`. -/
def replanningWorld (n : Nat) (_ : Configuration) : World :=
  let world := sampleWorld 0 ⟨.replan, false, [], []⟩ ⟨.pass, true, [], [], fun _ => rfl⟩
  if n = 3 then
    { world with plans := .always ⟨"goal", [⟨"t1", "next", [], [], []⟩], nofun⟩ }
  else world

/-- After that replan, the worker is entered without research. -/
theorem works_before_research :
    ¬ ∀ (agent : ChatAgent) (state : AgentGraphState) (now : Time)
      (events : List (Event Configuration World)) (final : Configuration),
      Run agent.Step (agent.start state now) events final → ResearchFirst agent events := by
  intro claim
  let start := evidenceAgent.start (sampleState evidenceAgent.settings) 0
  have run : Run evidenceAgent.Step start (evidenceAgent.trace replanningWorld start 4)
      (evidenceAgent.after replanningWorld start 4) := trace_run _ _ 3 (by decide +kernel)
  refine researchFirst_keeps run (claim _ _ _ _ _ run)
    (mem_trace replanningWorld start (show 3 < 4 by decide)) (.inl ⟨by decide +kernel,
      by decide +kernel, ⟨"goal", [⟨"t1", "next", [], [], []⟩], nofun⟩, _, by decide +kernel, rfl, ?_⟩)
  show decide ("t1" = "t1") = true
  rfl

end Samples

end ChatAgent

end AgentRuntime.Graph
