import AgentRuntime.Graph.Control

/-!
# Live models only

The names that a run passes to the model server (`OllamaClient.chat`). The first name of an operation is
the selector's, which is live and compatible with the role. The second one, which only a structured
operation has, comes from the settings, whatever is live: so a run keeps to live models exactly when no
structured operation of it falls back to a model that is not.
-/

namespace AgentRuntime.Graph
open Orchestration Transition

/-- An operation on the model server: the role that its model is selected for, and its answers. -/
inductive ModelRequest : Type 1 where
  | structured {α : Type} (role : Role) (op : Operation α)
  | text (role : Role) (op : Operation String)

/-- The names that the loop of `invoke_json` passes to `chat`, in order. -/
def namesFrom {α : Type} (attempt : Nat → ModelAttempt α) :
    List String → Nat → ExecutionBudget → List String
  | [], _, _ => []
  | model :: rest, attempts, budget =>
    model :: match chat (attempt attempts) attempts budget with
      | (.ok none, budget) => namesFrom attempt rest (attempts + 1) budget
      | _ => []

namespace ModelRequest

def role : ModelRequest → Role
  | .structured role _ => role
  | .text role _ => role

/-- The names that an operation passes to `chat`, in order, when this model is selected for it. -/
def names (settings : Settings) (model : String) (budget : ExecutionBudget) : ModelRequest → List String
  | .structured _ op =>
    match budget.recordLogicalModelOperation op.now with
    | .error _ => []
    | .ok budget => namesFrom op.attempt (structuredModels settings model) 0 budget
  | .text _ op =>
    match budget.recordLogicalModelOperation op.now with
    | .error _ => []
    | .ok _ => [model]

/-- The first answer to a structured operation is empty or does not validate. -/
def FallsBack (budget : ExecutionBudget) : ModelRequest → Prop
  | .structured _ op => ∃ opened after, budget.recordLogicalModelOperation op.now = .ok opened ∧
      chat (op.attempt 0) 0 opened = (.ok none, after)
  | .text _ _ => False

end ModelRequest

/-- The fallback that the settings give for a model: `model_general` or `model_fallback`, the first that
    is given and is another model. -/
def fallbackModel (settings : Settings) (model : String) : Option String :=
  (structuredModels settings model)[1]?

section Names

variable {request : ModelRequest} {settings : Settings} {model name : String}
variable {budget : ExecutionBudget}

lemma structuredModels_eq (settings : Settings) (model : String) :
    structuredModels settings model = model :: (fallbackModel settings model).toList := by
  simp only [fallbackModel, structuredModels, List.getElem?_cons_succ]
  generalize List.filter _ _ = others
  cases others <;> rfl

/-- An operation passes the name of the model that is selected for it, and of the fallback at most, when
    it falls back. -/
lemma ModelRequest.of_mem_names (mem : name ∈ request.names settings model budget) :
    name = model ∨ request.FallsBack budget ∧ fallbackModel settings model = some name := by
  cases request with
  | text role op =>
    simp only [names] at mem
    split at mem
    · cases mem
    · exact .inl (List.mem_singleton.mp mem)
  | structured role op =>
    simp only [names] at mem
    split at mem
    · cases mem
    · next opened recorded =>
      rw [structuredModels_eq] at mem
      simp only [namesFrom] at mem
      obtain rfl | mem := List.mem_cons.mp mem
      · exact .inl rfl
      · split at mem
        · next after unusable =>
          cases fallback : fallbackModel settings model with
          | none =>
            rw [fallback] at mem
            cases mem
          | some second =>
            rw [fallback] at mem
            simp only [Option.toList, namesFrom] at mem
            refine .inr ⟨⟨opened, after, recorded, unusable⟩, ?_⟩
            obtain rfl | mem := List.mem_cons.mp mem
            · rfl
            · split at mem <;> cases mem
        · cases mem

/-- An operation that falls back passes the name of the fallback. -/
lemma ModelRequest.FallsBack.mem_names (falls : request.FallsBack budget)
    (fallback : fallbackModel settings model = some name) : name ∈ request.names settings model budget := by
  cases request with
  | text => cases falls
  | structured role op =>
    obtain ⟨opened, after, recorded, unusable⟩ := falls
    simp only [names, recorded, structuredModels_eq, fallback, Option.toList, namesFrom, unusable]
    exact .tail _ (.head _)

/-- Each attempt in the loop of `invoke_json` is for a name that it passes. -/
lemma invokeJsonFrom_attempts {α : Type} {schema : String} {models rest : List String}
    {attempt : Nat → ModelAttempt α} {attempts : Nat} :
    (invokeJsonFrom schema models attempt rest attempts budget).2.state.physicalModelAttempts ≤
      budget.state.physicalModelAttempts + (namesFrom attempt rest attempts budget).length := by
  induction rest generalizing attempts budget with
  | nil => exact Nat.le_refl _
  | cons model rest ih =>
    have called := chat_attempts (attempt attempts) attempts budget
    simp only [invokeJsonFrom, namesFrom]
    split
    · next h => simpa [h] using called
    · next h => simpa [h] using called
    · next h =>
      simp only [h] at called ⊢
      refine ih.trans ?_
      simp only [List.length_cons]
      omega

end Names

namespace ChatAgent

/-- The operation on the model server that a node comes to, if it does, with the meter at that moment. -/
def modelRequest (agent : ChatAgent) (world : World) (state : AgentGraphState)
    (budget : ExecutionBudget) : Node → Option (ModelRequest × ExecutionBudget)
  | .plan =>
    match budget.check world.now, agent.settings.llmBackend with
    | .ok (), .ollama => some (.structured .planner world.plans, budget)
    | _, _ => none
  | .worker =>
    match budget.check world.now, state.currentTask, agent.settings.llmBackend with
    | .ok (), .ok task, .ollama =>
      some (.structured (agent.router.classifyTask state.message task).workerRole world.results, budget)
    | _, _, _ => none
  | .verify =>
    let budget := countVerifierRound budget
    match budget.check world.now, state.workerResult, state.currentTask, agent.settings.llmBackend with
    | .ok (), some _, .ok task, .ollama =>
      some (.structured (agent.router.classifyTask state.message task).verifierRole world.reports, budget)
    | _, _, _, _ => none
  | .revise =>
    let budget := countRevisionRound budget
    match budget.check world.now, state.currentTask, agent.settings.llmBackend with
    | .ok (), .ok task, .ollama =>
      some (.structured (agent.router.classifyTask state.message task).workerRole world.results, budget)
    | _, _, _ => none
  | .replan =>
    match agent.settings.llmBackend with
    | .ollama =>
      if agent.settings.agentMaxReplans < state.replans + 1 then none
      else some (.structured .planner world.plans, setReplans (state.replans + 1) budget)
    | .echo => none
  | .finalize =>
    if state.stopped then none
    else if agent.settings.llmBackend = .ollama ∧ 1 < state.taskResults.length then
      some (.text .synthesis world.texts, budget)
    else none
  | .verifyFinal =>
    match budget.check world.now with
    | .ok () => some (.structured .reasoning world.finalReports, budget)
    | .error _ => none
  | .reviseFinal =>
    let budget := setFinalRevisionRounds (state.finalRevisionRounds + 1) budget
    match budget.check world.now with
    | .ok () => some (.text .synthesis world.texts, budget)
    | .error _ => none
  | .research | .advance | .terminate => none

/-- What an operation passes to `chat`: the role and the name, in order. -/
def callsOf (agent : ChatAgent) (inventory : RuntimeInventory) (request : ModelRequest)
    (budget : ExecutionBudget) : List (Role × String) :=
  match agent.selectModel request.role inventory with
  | .error _ => []
  | .ok model => (request.names agent.settings model budget).map fun name => (request.role, name)

/-- What a node passes to `chat`. -/
def chatCalls (agent : ChatAgent) (world : World) (state : AgentGraphState)
    (budget : ExecutionBudget) (node : Node) : List (Role × String) :=
  match agent.modelRequest world state budget node with
  | none => []
  | some (request, budget) => agent.callsOf state.inventory request budget

variable {agent : ChatAgent} {world : World} {state state' : AgentGraphState}
variable {budget budget' : ExecutionBudget}

section Attempts

lemma structuredOperation_attempts {α : Type} (schema model : String) (role : Role) (op : Operation α) :
    (structuredOperation agent.settings schema model op budget).2.state.physicalModelAttempts ≤
      budget.state.physicalModelAttempts +
        ((ModelRequest.structured role op).names agent.settings model budget).length := by
  simp only [structuredOperation, invokeModel, ModelRequest.names]
  cases recorded : budget.recordLogicalModelOperation op.now with
  | error => exact Nat.le_refl _
  | ok opened =>
    have called : (invokeJson agent.settings schema model op.attempt opened).2.state.physicalModelAttempts
        ≤ opened.state.physicalModelAttempts +
          (namesFrom op.attempt (structuredModels agent.settings model) 0 opened).length :=
      invokeJsonFrom_attempts
    rwa [show opened.state.physicalModelAttempts = budget.state.physicalModelAttempts by
      rw [ExecutionBudget.recordLogicalModelOperation_ok recorded]] at called

lemma roleOperation_attempts {α : Type} (schema : String) (role : Role) (state : AgentGraphState)
    (op : Operation α) (budget : ExecutionBudget) :
    (agent.roleOperation schema role state op budget).2.state.physicalModelAttempts ≤
      budget.state.physicalModelAttempts +
        (agent.callsOf state.inventory (.structured role op) budget).length := by
  simp only [roleOperation, callsOf, ModelRequest.role]
  cases agent.selectModel role state.inventory with
  | error => exact Nat.le_refl _
  | ok model =>
    have called : (structuredOperation agent.settings schema model op budget).2.state.physicalModelAttempts
        ≤ budget.state.physicalModelAttempts +
          ((ModelRequest.structured role op).names agent.settings model budget).length :=
      structuredOperation_attempts ..
    simp only [List.length_map]
    split <;> next h => rwa [h] at called

lemma textOperation_attempts (role : Role) (op : Operation String) (model : String)
    (budget : ExecutionBudget) :
    (textOperation op budget).2.state.physicalModelAttempts ≤ budget.state.physicalModelAttempts +
      ((ModelRequest.text role op).names agent.settings model budget).length := by
  simp only [textOperation, invokeModel, ModelRequest.names]
  cases recorded : budget.recordLogicalModelOperation op.now with
  | error => exact Nat.le_refl _
  | ok opened =>
    have called := chat_attempts (op.attempt 0) 0 opened
    rw [show opened.state.physicalModelAttempts = budget.state.physicalModelAttempts by
      rw [ExecutionBudget.recordLogicalModelOperation_ok recorded]] at called
    simp only [invokeText]
    split <;> next h => rwa [h] at called

lemma research_attempts :
    (agent.research world state budget).2.state.physicalModelAttempts =
      budget.state.physicalModelAttempts := by
  simp only [research]
  split
  · rfl
  · split
    · rfl
    · split
      · rfl
      · have kept {after : ExecutionBudget}
            (meters : ToolMeters (setResearchRounds (state.researchRounds + 1) budget) after) :
            after.state.physicalModelAttempts = budget.state.physicalModelAttempts := meters.models
        split <;> next h => exact kept ((congrArg Prod.snd h) ▸ runQueries_meters)

/-- Each attempt that a node begins is for a call in its list. -/
theorem run_attempts_le (node : Node) :
    (agent.run world state budget node).2.state.physicalModelAttempts ≤
      budget.state.physicalModelAttempts + (agent.chatCalls world state budget node).length := by
  cases node with
  | plan =>
    simp only [run, plan, chatCalls, modelRequest]
    cases budget.check world.now with
    | error => exact Nat.le_add_right ..
    | ok =>
      cases agent.settings.llmBackend with
      | echo => exact Nat.le_add_right ..
      | ollama =>
        have called := agent.roleOperation_attempts "ExecutionPlan" .planner state world.plans budget
        simp only
        split <;> next h => rwa [h] at called
  | worker =>
    simp only [run, worker, chatCalls, modelRequest]
    cases budget.check world.now with
    | error => exact Nat.le_add_right ..
    | ok =>
      cases state.currentTask with
      | error => exact Nat.le_add_right ..
      | ok task =>
        cases agent.settings.llmBackend with
        | echo => exact Nat.le_add_right ..
        | ollama =>
          have called := agent.roleOperation_attempts "WorkerResult"
            (agent.router.classifyTask state.message task).workerRole state world.results budget
          simp only
          split <;> next h => rwa [h] at called
  | verify =>
    simp only [run, verify, chatCalls, modelRequest]
    cases (countVerifierRound budget).check world.now with
    | error => exact Nat.le_add_right ..
    | ok =>
      cases state.workerResult with
      | none => exact Nat.le_add_right ..
      | some result =>
        cases state.currentTask with
        | error => exact Nat.le_add_right ..
        | ok task =>
          cases agent.settings.llmBackend with
          | echo => exact Nat.le_add_right ..
          | ollama =>
            have called := agent.roleOperation_attempts "VerificationReport"
              (agent.router.classifyTask state.message task).verifierRole state world.reports
              (countVerifierRound budget)
            simp only
            split <;> next h => rwa [h] at called
  | revise =>
    simp only [run, revise, chatCalls, modelRequest]
    cases (countRevisionRound budget).check world.now with
    | error => exact Nat.le_add_right ..
    | ok =>
      cases state.currentTask with
      | error => exact Nat.le_add_right ..
      | ok task =>
        cases agent.settings.llmBackend with
        | echo => cases state.workerResult <;> exact Nat.le_add_right ..
        | ollama =>
          have called := agent.roleOperation_attempts "WorkerResult"
            (agent.router.classifyTask state.message task).workerRole state world.results
            (countRevisionRound budget)
          simp only
          split <;> next h => rwa [h] at called
  | replan =>
    simp only [run, replan, chatCalls, modelRequest]
    by_cases over' : agent.settings.agentMaxReplans < state.replans + 1
    · rw [if_pos over']
      exact Nat.le_add_right ..
    -- there is a replan left
    · rw [if_neg over']
      cases agent.settings.llmBackend with
      | echo => cases state.plan <;> exact Nat.le_add_right ..
      | ollama =>
        have called := agent.roleOperation_attempts "ExecutionPlan" .planner state world.plans
          (setReplans (state.replans + 1) budget)
        simp only [if_neg over']
        split <;> next h => rwa [h] at called
  | finalize =>
    simp only [run, finalize, chatCalls, modelRequest]
    split
    · exact Nat.le_add_right ..
    · split
      · simp only [callsOf, ModelRequest.role]
        cases agent.selectModel .synthesis state.inventory with
        | error => exact Nat.le_add_right ..
        | ok model =>
          have called := agent.textOperation_attempts .synthesis world.texts model budget
          simp only [List.length_map]
          split <;> next h => rwa [h] at called
      · split <;> exact Nat.le_add_right ..
  | verifyFinal =>
    simp only [run, verifyFinal, chatCalls, modelRequest]
    cases budget.check world.now with
    | error => exact Nat.le_add_right ..
    | ok =>
      have called := agent.roleOperation_attempts "FinalVerificationReport" .reasoning state
        world.finalReports budget
      simp only
      split
      · next h => rwa [h] at called
      · next h => rwa [h] at called
      · next h =>
        rw [h] at called
        split <;> exact called
  | reviseFinal =>
    simp only [run, reviseFinal, chatCalls, modelRequest]
    cases (setFinalRevisionRounds (state.finalRevisionRounds + 1) budget).check world.now with
    | error => exact Nat.le_add_right ..
    | ok =>
      simp only [callsOf, ModelRequest.role]
      cases agent.selectModel .synthesis state.inventory with
      | error => exact Nat.le_add_right ..
      | ok model =>
        have called := agent.textOperation_attempts .synthesis world.texts model
          (setFinalRevisionRounds (state.finalRevisionRounds + 1) budget)
        simp only [List.length_map]
        split <;> next h => rwa [h] at called
  | research => exact research_attempts.le.trans (Nat.le_add_right ..)
  | advance =>
    rw [run, advance_budget]
    exact Nat.le_add_right ..
  | terminate => exact Nat.le_add_right ..

end Attempts

section Live

variable {now : Time} {events : List (Event Configuration World)} {final c c' : Configuration}

/-- Every name that the run passes to `chat` is in the inventory and compatible with its role: a model
    that chats and does not embed (`Role.compatible_iff`). -/
def LiveModelsOnly (agent : ChatAgent) (inventory : RuntimeInventory)
    (events : List (Event Configuration World)) : Prop :=
  ∀ e ∈ events, ∀ node, e.pre.position = .node node →
    ∀ call ∈ agent.chatCalls e.label e.pre.state e.pre.budget node,
      call.2 ∈ inventory.modelNames ∧
        ModelSelector.compatible agent.lower call.1.text call.2 = true

/-- In the step, a structured operation of the role gets an empty or invalid answer of the model that is
    selected for it, and the settings give this fallback for that model. -/
def FallsBackTo (agent : ChatAgent) (e : Event Configuration World) (role : Role)
    (fallback : String) : Prop :=
  ∃ node request budget model, e.pre.position = .node node ∧
    agent.modelRequest e.label e.pre.state e.pre.budget node = some (request, budget) ∧
    request.role = role ∧ agent.selectModel role e.pre.state.inventory = .ok model ∧
    request.FallsBack budget ∧ fallbackModel agent.settings model = some fallback

/-- What is selected from a list of live models is one of them, and compatible with the role. -/
lemma selectModel_live {role : Role} {inventory : RuntimeInventory} {model : String}
    (listed : inventory.modelNames ≠ []) (selected : agent.selectModel role inventory = .ok model) :
    model ∈ inventory.modelNames ∧ ModelSelector.compatible agent.lower role.text model = true := by
  simp only [selectModel] at selected
  split at selected
  · next resolved =>
    cases selected
    exact ModelSelector.resolve_live listed role.text_ne resolved
  · cases selected

/-- What a step passes to `chat` is what is selected for its role, or the fallback. -/
lemma chatCalls_cases {e : Event Configuration World} {node : Node} {call : Role × String}
    (position : e.pre.position = .node node)
    (mem : call ∈ agent.chatCalls e.label e.pre.state e.pre.budget node) :
    agent.selectModel call.1 e.pre.state.inventory = .ok call.2 ∨
      agent.FallsBackTo e call.1 call.2 := by
  simp only [chatCalls] at mem
  split at mem
  · cases mem
  · next request budget found =>
    simp only [callsOf] at mem
    split at mem
    · cases mem
    · next model selected =>
      obtain ⟨name, passed, rfl⟩ := List.mem_map.mp mem
      obtain rfl | ⟨falls, fallback⟩ := ModelRequest.of_mem_names passed
      · exact .inl selected
      · exact .inr ⟨node, request, budget, model, position, found, rfl, selected, falls, fallback⟩

/-- A step that falls back passes the fallback to `chat`. -/
lemma FallsBackTo.called {e : Event Configuration World} {role : Role} {fallback : String}
    (falls : agent.FallsBackTo e role fallback) :
    ∃ node, e.pre.position = .node node ∧
      (role, fallback) ∈ agent.chatCalls e.label e.pre.state e.pre.budget node := by
  obtain ⟨node, request, budget, model, position, found, rfl, selected, falls, fallback⟩ := falls
  refine ⟨node, position, ?_⟩
  simp only [chatCalls, found, callsOf, selected]
  exact List.mem_map.mpr ⟨_, falls.mem_names fallback, rfl⟩

/-- No node changes the inventory. -/
lemma run_inventory {node : Node} (h : agent.run world state budget node = (.ok state', budget')) :
    state'.inventory = state.inventory := by
  -- a node that decides what comes next changes routing and action only
  have decided {before : AgentGraphState} (next : before.setNextAction agent.router = .ok state')
      (same : before.inventory = state.inventory) : state'.inventory = state.inventory := by
    obtain ⟨action, routing, rfl⟩ := AgentGraphState.setNextAction_ok next
    exact same
  cases node with
  | plan =>
    simp only [run, plan] at h
    split at h
    · cases h
      rfl
    · split at h
      · exact decided (Prod.mk.inj h).1 rfl
      · split at h
        · cases h
          rfl
        · cases h
        · exact decided (Prod.mk.inj h).1 rfl
  | research =>
    simp only [run, research] at h
    split at h
    · cases h
      rfl
    · split at h
      · cases h
        rfl
      · split at h
        · cases h
        · split at h
          · cases h
            rfl
          · cases h
          · simp only [concludeResearch] at h
            split at h
            · cases h
            · split at h <;> cases h <;> rfl
  | worker =>
    obtain ⟨reason, -, rfl⟩ | ⟨result, model, rfl⟩ := worker_ok h <;> rfl
  | verify =>
    obtain ⟨exc, -, rfl⟩ | ⟨report, grounding, model, rfl, -⟩ := verify_ok h <;> rfl
  | revise =>
    obtain ⟨reason, -, rfl⟩ | ⟨result, model, rfl⟩ := revise_ok h <;> rfl
  | replan =>
    simp only [run, replan] at h
    split at h
    · cases h
      rfl
    · split at h
      · split at h
        · cases h
        · exact decided (Prod.mk.inj h).1 rfl
      · split at h
        · cases h
        · exact decided (Prod.mk.inj h).1 rfl
  | advance =>
    simp only [run, advance] at h
    split at h
    · cases h
    · split at h
      · exact decided (Prod.mk.inj h).1 rfl
      · cases h
        rfl
  | finalize =>
    simp only [run, finalize] at h
    split at h
    · cases h
      rfl
    · split at h
      · split at h
        · cases h
        · split at h <;> cases h <;> rfl
      · split at h <;> cases h
        rfl
  | verifyFinal =>
    simp only [run, verifyFinal] at h
    split at h
    · cases h
      rfl
    · split at h
      · cases h
        rfl
      · cases h
      · split at h <;> cases h <;> rfl
  | reviseFinal =>
    simp only [run, reviseFinal] at h
    split at h
    · cases h
      rfl
    · split at h
      · cases h
      · split at h <;> cases h <;> rfl
  | terminate =>
    cases h
    rfl

lemma Step.inventory (st : agent.Step c world c') : c'.state.inventory = c.state.inventory := by
  obtain ⟨node, -, -, ⟨state', budget', returned, rfl⟩ | ⟨error, budget', -, rfl⟩⟩ := step_cases st
  · exact (run_inventory returned : state'.inventory = c.state.inventory)
  · rfl

/-- A run whose inventory lists a model passes only live models that are compatible with their roles to
    `chat`, exactly when every fallback that a structured operation of it comes to is one. -/
theorem live_models_only_iff (listed : state.inventory.modelNames ≠ [])
    (run : Run agent.Step (agent.start state now) events final) :
    agent.LiveModelsOnly state.inventory events ↔
      ∀ e ∈ events, ∀ role fallback, agent.FallsBackTo e role fallback →
        fallback ∈ state.inventory.modelNames ∧
          ModelSelector.compatible agent.lower role.text fallback = true := by
  constructor
  · intro live e mem role fallback falls
    obtain ⟨node, position, called⟩ := falls.called
    exact live e mem node position _ called
  · intro fallbacks e mem node position call called
    have same : e.pre.state.inventory = state.inventory := by
      refine (run.invariant_mem (I := fun c => c.state.inventory = state.inventory)
        (G := fun _ => True) ?_ (fun _ _ => trivial) rfl mem).1
      exact fun e st _ earlier => (Step.inventory st).trans earlier
    obtain selected | falls := chatCalls_cases position called
    · rw [same] at selected
      exact selectModel_live listed selected
    · exact fallbacks e mem _ _ falls

end Live

section Samples

/-- Settings for examples: the planner is `live`, and the general model is not installed. -/
def liveSettings : Settings :=
  { sampleSettings .ollama with
    modelPlanner := "live"
    modelGeneral := "absent"
    modelFallback := "live"
    executionMaxModelCalls := 8
    modelCalls_bounds := by decide }

/-- A fresh state for examples: `live` is the only model of the inventory. -/
def liveState : AgentGraphState :=
  buildFreshRunState "question" "run" [] ⟨[[("name", .str "live")]], []⟩ .ollama

/-- The planner's first answer does not validate. -/
def unusablePlan : World :=
  { sampleWorld 0 ⟨.pass, true, [], []⟩ ⟨.pass, true, [], [], fun _ => rfl⟩ with
    plans := ⟨0, fun _ => { now := 0, reply := .invalid }⟩ }

/-- The same settings with a general model that is installed. -/
def spareSettings : Settings := { liveSettings with modelGeneral := "spare" }

/-- A fresh state for examples: `live` and `spare` are the models of the inventory. -/
def spareState : AgentGraphState :=
  buildFreshRunState "question" "run" [] ⟨[[("name", .str "live")], [("name", .str "spare")]], []⟩ .ollama

lemma spare_fallback {model fallback : String} (given : fallbackModel spareSettings model = some fallback) :
    fallback = "spare" ∨ fallback = "live" := by
  simp only [fallbackModel, structuredModels, List.getElem?_cons_succ] at given
  have mem := List.mem_of_mem_filter (List.mem_of_mem_take (List.mem_of_getElem? given))
  have general : Text.strip spareSettings.modelGeneral = "spare" := by decide
  have other : Text.strip spareSettings.modelFallback = "live" := by decide
  rw [general, other] at mem
  simpa using mem

/-- The planner falls back to the general model, and both are live. -/
theorem live_models_only_iff_planned :
    let agent := sampleAgent spareSettings
    let events := agent.trace (fun _ _ => unusablePlan) (agent.start spareState 0) 1
    agent.LiveModelsOnly spareState.inventory events ∧ ∃ e ∈ events, agent.FallsBackTo e .planner "spare" := by
  intro agent events
  constructor
  · apply (live_models_only_iff (by decide +kernel) (trace_run _ _ 0 (by decide +kernel))).mpr
    rintro e - role fallback ⟨node, request, budget, model, -, -, -, -, -, general⟩
    obtain rfl | rfl := spare_fallback general
    · exact ⟨by decide +kernel, by cases role <;> decide +kernel⟩
    · exact ⟨by decide +kernel, by cases role <;> decide +kernel⟩
  · refine ⟨_, @mem_trace agent (fun _ _ => unusablePlan) (agent.start spareState 0) 0 1 (by decide), ?_⟩
    have called : (Role.planner, "spare") ∈ agent.chatCalls unusablePlan spareState
        (agent.start spareState 0).budget .plan := by
      decide +kernel
    obtain selected | falls := @chatCalls_cases agent ⟨agent.start spareState 0, unusablePlan,
      agent.after (fun _ _ => unusablePlan) (agent.start spareState 0) 1⟩ .plan _ rfl called
    · have live : agent.selectModel .planner spareState.inventory = .ok "live" := by decide +kernel
      injection live.symm.trans selected with same
      exact absurd same (by decide)
    · exact falls

/-- Then the general model is called, which is not among the live ones. -/
theorem calls_absent_model :
    ¬ ∀ (agent : ChatAgent) (state : AgentGraphState) (now : Time)
      (events : List (Event Configuration World)) (final : Configuration),
      agent.settings.llmBackend = .ollama → state.inventory.modelNames ≠ [] →
      Run agent.Step (agent.start state now) events final →
      agent.LiveModelsOnly state.inventory events := by
  intro claim
  let agent := sampleAgent liveSettings
  let start := agent.start liveState 0
  have run : Run agent.Step start (agent.trace (fun _ _ => unusablePlan) start 1)
      (agent.after (fun _ _ => unusablePlan) start 1) := trace_run _ _ 0 (by decide +kernel)
  have live := claim _ _ _ _ _ rfl (by decide +kernel) run _
    (mem_trace (fun _ _ => unusablePlan) start (show 0 < 1 by decide)) .plan (by decide +kernel)
    (.planner, "absent") (by decide +kernel)
  exact absurd live.1 (by decide +kernel)

end Samples

end ChatAgent

end AgentRuntime.Graph
