import AgentRuntime.Graph.Residue
import AgentRuntime.Orchestration.GraphResult
import AgentRuntime.State.RunRecord

/-!
# Fresh runs on used threads

Port of `graphs/state.py` with all its channels, of `build_fresh_run_state`, and of the parts of
`_execute_run` that start a fresh invocation and read its result. The framework keeps the channels of a
thread's last checkpoint and overwrites those that the input has. So a fresh run inherits what the thread's
earlier executions left in the other channels, of which only the grounding is ever read, and only after it
has been written.
-/

namespace AgentRuntime.Orchestration
open AgentRuntime.Graph Transition

/-- The channels of the graph's state, in the order of source `AgentGraphState`. -/
inductive Channel where
  | message | systemPrompt | systemPromptSource | requestDomain | metadata | history | requestId
  | conversationId | runId | executionThreadId | stateSchemaVersion | resumeRequested | resumed
  | executionMeterState
  | inventory | routing | selectedModels | selectedTool | selectedTools | researchedTaskIds
  | researchQueries
  | plan | taskIndex | taskResults | workerResult | verification | grounding | evidence | toolErrors
  | iterations | researchRounds | replans | nextAction | response | backend | model
  | terminationReason | finalVerificationRequired | finalVerification | finalRevisionRounds
  | runStatus | runErrorCode
deriving DecidableEq

/-- The values of all channels: what the graph acts on, and what prompts, logs and `_execute_run` read. A
    channel without a value has the default that its readers put in its place. -/
structure ChannelValues extends AgentGraphState where
  systemPrompt : String
  systemPromptSource : String
  requestDomain : String
  history : List JsonObject
  requestId : String
  conversationId : String
  executionThreadId : String
  stateSchemaVersion : Nat
  resumeRequested : Bool
  resumed : Bool
  toolErrors : List JsonObject := []
  /-- source `_run_status` -/
  runStatus : Option String := none
  /-- source `_run_error_code` -/
  runErrorCode : Option String := none

/-- What `_execute_run` knows when it starts a fresh invocation. -/
structure FreshRequest where
  message : String
  systemPrompt : String
  systemPromptSource : String
  requestDomain : String
  metadata : JsonObject
  history : List JsonObject
  requestId : String
  inventory : RuntimeInventory
  identity : State.RunIdentity

section Input

/-- The channels that the input of a fresh invocation has (source `build_fresh_run_state`, whose other key,
    `execution_budget`, is no channel), and those that `_execute_run` adds. -/
def inputChannels : List Channel :=
  [.message, .systemPrompt, .systemPromptSource, .requestDomain, .metadata, .history, .requestId,
    .inventory, .routing, .selectedModels, .selectedTool, .selectedTools, .researchedTaskIds,
    .researchQueries, .plan, .taskIndex, .taskResults, .workerResult, .verification, .evidence,
    .iterations, .researchRounds, .replans, .nextAction, .response, .backend, .model,
    .terminationReason, .finalVerificationRequired, .finalVerification, .finalRevisionRounds] ++
  [.conversationId, .runId, .executionThreadId, .stateSchemaVersion, .resumeRequested, .resumed]

/-- The input of a fresh invocation: the values of its channels. -/
def graphInput (request : FreshRequest) (backend : LlmBackend) : ChannelValues where
  toAgentGraphState := buildFreshRunState request.message request.identity.runId request.metadata
    request.inventory backend
  systemPrompt := request.systemPrompt
  systemPromptSource := request.systemPromptSource
  requestDomain := request.requestDomain
  history := request.history
  requestId := request.requestId
  conversationId := request.identity.conversationId
  executionThreadId := request.identity.executionThreadId
  stateSchemaVersion := request.identity.stateSchemaVersion
  resumeRequested := request.identity.resumeRequested
  resumed := request.identity.resumed

/-- A channel of the input overwrites the one of the checkpoint. -/
def overwritten {α : Type} (channel : Channel) (stale input : α) : α :=
  if channel ∈ inputChannels then input else stale

/-- The framework's state for an input: a thread without a checkpoint has no values before it. -/
def overwrite (stale : Option ChannelValues) (input : ChannelValues) : ChannelValues :=
  match stale with
  | none => input
  | some stale =>
    { message := overwritten .message stale.message input.message
      systemPrompt := overwritten .systemPrompt stale.systemPrompt input.systemPrompt
      systemPromptSource :=
        overwritten .systemPromptSource stale.systemPromptSource input.systemPromptSource
      requestDomain := overwritten .requestDomain stale.requestDomain input.requestDomain
      metadata := overwritten .metadata stale.metadata input.metadata
      history := overwritten .history stale.history input.history
      requestId := overwritten .requestId stale.requestId input.requestId
      conversationId := overwritten .conversationId stale.conversationId input.conversationId
      runId := overwritten .runId stale.runId input.runId
      executionThreadId :=
        overwritten .executionThreadId stale.executionThreadId input.executionThreadId
      stateSchemaVersion :=
        overwritten .stateSchemaVersion stale.stateSchemaVersion input.stateSchemaVersion
      resumeRequested := overwritten .resumeRequested stale.resumeRequested input.resumeRequested
      resumed := overwritten .resumed stale.resumed input.resumed
      executionMeterState :=
        overwritten .executionMeterState stale.executionMeterState input.executionMeterState
      inventory := overwritten .inventory stale.inventory input.inventory
      routing := overwritten .routing stale.routing input.routing
      selectedModels := overwritten .selectedModels stale.selectedModels input.selectedModels
      selectedTool := overwritten .selectedTool stale.selectedTool input.selectedTool
      selectedTools := overwritten .selectedTools stale.selectedTools input.selectedTools
      researchedTaskIds :=
        overwritten .researchedTaskIds stale.researchedTaskIds input.researchedTaskIds
      researchQueries := overwritten .researchQueries stale.researchQueries input.researchQueries
      plan := overwritten .plan stale.plan input.plan
      taskIndex := overwritten .taskIndex stale.taskIndex input.taskIndex
      taskResults := overwritten .taskResults stale.taskResults input.taskResults
      workerResult := overwritten .workerResult stale.workerResult input.workerResult
      verification := overwritten .verification stale.verification input.verification
      grounding := overwritten .grounding stale.grounding input.grounding
      evidence := overwritten .evidence stale.evidence input.evidence
      toolErrors := overwritten .toolErrors stale.toolErrors input.toolErrors
      iterations := overwritten .iterations stale.iterations input.iterations
      researchRounds := overwritten .researchRounds stale.researchRounds input.researchRounds
      replans := overwritten .replans stale.replans input.replans
      nextAction := overwritten .nextAction stale.nextAction input.nextAction
      response := overwritten .response stale.response input.response
      backend := overwritten .backend stale.backend input.backend
      model := overwritten .model stale.model input.model
      terminationReason :=
        overwritten .terminationReason stale.terminationReason input.terminationReason
      finalVerificationRequired := overwritten .finalVerificationRequired
        stale.finalVerificationRequired input.finalVerificationRequired
      finalVerification :=
        overwritten .finalVerification stale.finalVerification input.finalVerification
      finalRevisionRounds :=
        overwritten .finalRevisionRounds stale.finalRevisionRounds input.finalRevisionRounds
      runStatus := overwritten .runStatus stale.runStatus input.runStatus
      runErrorCode := overwritten .runErrorCode stale.runErrorCode input.runErrorCode }

/-- The state that a fresh run starts from is the input, with what is left in it. -/
lemma overwrite_residue (stale : Option ChannelValues) (input : ChannelValues) :
    ∃ residue, (overwrite stale input).toAgentGraphState =
      input.toAgentGraphState.withResidue residue := by
  cases stale with
  | none => exact ⟨⟨input.grounding, input.executionMeterState⟩, rfl⟩
  | some stale => exact ⟨⟨stale.grounding, stale.executionMeterState⟩, rfl⟩

end Input

/-- An invocation of the graph with all channels. -/
structure Invocation where
  position : Position
  state : ChannelValues
  budget : ExecutionBudget

namespace Invocation

/-- What the graph acts on. -/
def configuration (i : Invocation) : Configuration :=
  ⟨i.position, i.state.toAgentGraphState, i.budget⟩

/-- A node hands the other channels on. -/
def proceed (i : Invocation) (c : Configuration) : Invocation :=
  ⟨c.position, { i.state with toAgentGraphState := c.state }, c.budget⟩

/-- The invocation after the node at its position. -/
def take (agent : ChatAgent) (i : Invocation) (world : World) : Option Invocation :=
  match i.position with
  | .node node => some (i.proceed (agent.execute node world i.configuration))
  | .finished | .aborted _ => none

def Step (agent : ChatAgent) (i : Invocation) (world : World) (i' : Invocation) : Prop :=
  i.take agent world = some i'

/-- The invocation for an input, or for no input: with a fresh meter (source `_execute_run`). -/
def start (agent : ChatAgent) (position : Position) (state : ChannelValues) (now : Time) : Invocation :=
  ⟨position, state, (agent.start state.toAgentGraphState now).budget⟩

/-- A fresh invocation on a thread with this last checkpoint. -/
def fresh (agent : ChatAgent) (stale : Option ChannelValues) (request : FreshRequest) (now : Time) :
    Invocation :=
  start agent (.node .plan) (overwrite stale (graphInput request agent.settings.llmBackend)) now

end Invocation

/-- What `_execute_run` makes of the result of the graph. -/
structure RunOutcome where
  response : String
  terminationReason : Option String
  taskResults : List TaskResult
  selectedModels : Dict String
  selectedTool : Option String
  selectedTools : Dict (List String)
  status : State.RunStatus
  errorCode : Option String

/-- The end of source `_execute_run`. The result of an invocation that reached the end of the graph has all
    channels, `_run_status` too; a safe failure has no selections. -/
def runOutcome (agent : ChatAgent) (i : Invocation) : Option (Except GraphError RunOutcome) :=
  match invokeGraphSafely agent i.configuration with
  | none => none
  | some (.error error) => some (.error error)
  | some (.ok result) =>
    let reached : Bool := decide (i.position = .finished)
    let runStatus := if reached then i.state.runStatus else if result.runFailed then some "failed" else none
    some (.ok
      { response := responseText result
        terminationReason := result.terminationReason
        taskResults := result.taskResults
        selectedModels := if reached then i.state.selectedModels else ∅
        selectedTool := if reached then i.state.selectedTool else none
        selectedTools := if reached then i.state.selectedTools else ∅
        status := if runStatus = some "failed" then .failed else .completed
        errorCode := if reached then i.state.runErrorCode else result.runErrorCode })

/-- An execution thread: its last checkpoint, if there is one, and the invocation in execution. -/
structure ExecutionThread where
  checkpoint : Option (Position × ChannelValues) := none
  current : Option Invocation := none

/-- What happens on an execution thread. A request starts a fresh invocation or resumes the last one, in
    whatever state the last one is; an agent executes a node. After a restart the agent may be another. -/
inductive ThreadStep where
  | fresh (agent : ChatAgent) (request : FreshRequest) (now : Time)
  | resume (agent : ChatAgent) (now : Time)
  | node (agent : ChatAgent) (world : World)

namespace ExecutionThread

/-- The state of the last checkpoint. -/
def stale (t : ExecutionThread) : Option ChannelValues := t.checkpoint.map Prod.snd

/-- The checkpoint of an invocation; a node that is left by an exception writes none. -/
def save (checkpoint : Option (Position × ChannelValues)) (i : Invocation) :
    Option (Position × ChannelValues) :=
  match i.position with
  | .aborted _ => checkpoint
  | position => some (position, i.state)

/-- The thread after a step, where it can be made. -/
def take (t : ExecutionThread) : ThreadStep → Option ExecutionThread
  | .fresh agent request now =>
    let i := Invocation.fresh agent t.stale request now
    some ⟨some (i.position, i.state), some i⟩
  | .resume agent now =>
    t.checkpoint.map fun (position, state) =>
      { t with current := some (Invocation.start agent position state now) }
  | .node agent world =>
    t.current.bind fun i => (i.take agent world).map fun i' => ⟨save t.checkpoint i', some i'⟩

def Step (t : ExecutionThread) (step : ThreadStep) (t' : ExecutionThread) : Prop := t.take step = some t'

/-- What earlier executions of the graph leave on an execution thread. -/
def Left (stale : Option ChannelValues) : Prop :=
  ∃ events t, Run Step {} events t ∧ t.stale = stale

end ExecutionThread

/-- No run status and no error code are in the channels. -/
def ChannelValues.Unmarked (values : ChannelValues) : Prop :=
  values.runStatus = none ∧ values.runErrorCode = none

section Marks

lemma overwrite_unmarked {stale : Option ChannelValues} (unmarked : ∀ values ∈ stale, values.Unmarked)
    (request : FreshRequest) (backend : LlmBackend) :
    (overwrite stale (graphInput request backend)).Unmarked := by
  cases stale with
  | none => exact ⟨rfl, rfl⟩
  | some values => exact unmarked values rfl

/-- A step is a step of the graph. -/
lemma Invocation.step_iff {agent : ChatAgent} {world : World} {i i' : Invocation} :
    Step agent i world i' ↔
      ∃ node, i.position = .node node ∧ i' = i.proceed (agent.execute node world i.configuration) := by
  simp only [Step, take]
  cases i.position with
  | node node => simp [eq_comm]
  | _ => simp

lemma Invocation.Step.unmarked {agent : ChatAgent} {world : World} {i i' : Invocation}
    (st : Step agent i world i') (unmarked : i.state.Unmarked) : i'.state.Unmarked := by
  obtain ⟨node, position, rfl⟩ := step_iff.mp st
  exact unmarked

/-- The channels of the last checkpoint and of the invocation in execution are unmarked. -/
structure ExecutionThread.Unmarked (t : ExecutionThread) : Prop where
  checkpoint : ∀ values ∈ t.stale, values.Unmarked
  current : ∀ i ∈ t.current, i.state.Unmarked

/-- No node writes a run status: `_execute_run` gets one only from a safe failure, which is not
    checkpointed. -/
lemma ExecutionThread.Step.unmarked {t t' : ExecutionThread} {step : ThreadStep} (st : t.Step step t')
    (unmarked : t.Unmarked) : t'.Unmarked := by
  cases step with
  | fresh agent request now =>
    cases st
    have started := overwrite_unmarked unmarked.checkpoint request agent.settings.llmBackend
    exact ⟨by rintro _ ⟨⟩; exact started, by rintro _ ⟨⟩; exact started⟩
  | resume agent now =>
    obtain ⟨⟨position, values⟩, at_checkpoint, rfl⟩ := Option.map_eq_some_iff.mp st
    refine ⟨unmarked.checkpoint, ?_⟩
    rintro _ ⟨⟩
    exact unmarked.checkpoint values (by simp [stale, at_checkpoint])
  | node agent world =>
    obtain ⟨i, current, taken⟩ := Option.bind_eq_some_iff.mp st
    obtain ⟨i', executed, rfl⟩ := Option.map_eq_some_iff.mp taken
    have next := Invocation.Step.unmarked executed (unmarked.current i current)
    refine ⟨?_, by rintro _ ⟨⟩; exact next⟩
    intro values mem
    simp only [stale, save] at mem
    split at mem
    · exact unmarked.checkpoint values mem
    · cases mem
      exact next

lemma ExecutionThread.Left.unmarked {stale : Option ChannelValues} (left : Left stale) :
    ∀ values ∈ stale, values.Unmarked := by
  obtain ⟨events, t, run, rfl⟩ := left
  have first : Unmarked {} :=
    ⟨fun values mem => absurd mem (Option.not_mem_none values),
      fun i mem => absurd mem (Option.not_mem_none i)⟩
  have last : Unmarked t := run.invariant (G := fun _ => True)
    (fun _ st _ unmarked => Step.unmarked st unmarked) (fun _ _ => trivial) first
  exact last.checkpoint

end Marks

section TwoRuns

open AgentRuntime.Graph.ChatAgent (Alike)

variable {agent : ChatAgent} {world : World}

/-- Two invocations that start from what was left on two threads. -/
structure SameInvocation (i j : Invocation) : Prop where
  alike : Alike i.configuration j.configuration
  unmarked : i.state.Unmarked
  unmarked' : j.state.Unmarked

lemma sameInvocation_fresh {stale stale' : Option ChannelValues}
    (unmarked : ∀ values ∈ stale, values.Unmarked) (unmarked' : ∀ values ∈ stale', values.Unmarked)
    (request : FreshRequest) (now : Time) :
    SameInvocation (.fresh agent stale request now) (.fresh agent stale' request now) := by
  refine ⟨⟨rfl, rfl, ?_, nofun⟩, overwrite_unmarked unmarked _ _, overwrite_unmarked unmarked' _ _⟩
  obtain ⟨residue, left⟩ := overwrite_residue stale (graphInput request agent.settings.llmBackend)
  obtain ⟨residue', left'⟩ := overwrite_residue stale' (graphInput request agent.settings.llmBackend)
  refine ⟨residue', ?_⟩
  simp only [Invocation.configuration, Invocation.fresh, Invocation.start, left, left']
  rfl

/-- The same world leads two such invocations the same way. -/
lemma SameInvocation.step {i i' j : Invocation} (same : SameInvocation i j)
    (st : Invocation.Step agent i world i') :
    ∃ j', Invocation.Step agent j world j' ∧ SameInvocation i' j' := by
  have unmarked := st.unmarked same.unmarked
  obtain ⟨node, position, rfl⟩ := Invocation.step_iff.mp st
  obtain ⟨d, st', alike⟩ := same.alike.step ⟨node, position, rfl⟩
  obtain ⟨node', position', rfl⟩ := st'
  have next : Invocation.Step agent j world _ := Invocation.step_iff.mpr ⟨node', position', rfl⟩
  exact ⟨_, next, alike, unmarked, next.unmarked same.unmarked'⟩

/-- What `_execute_run` makes of them is the same. -/
lemma SameInvocation.outcome {i j : Invocation} (same : SameInvocation i j) :
    runOutcome agent j = runOutcome agent i := by
  have position : j.position = i.position := same.alike.position
  obtain ⟨residue, left⟩ := same.alike.state
  have result : invokeGraphSafely agent j.configuration = invokeGraphSafely agent i.configuration := by
    have returned : stateResult j.configuration.state = stateResult i.configuration.state := by
      rw [left]
      rfl
    have position : j.configuration.position = i.configuration.position := same.alike.position
    simp only [invokeGraphSafely, position, returned]
  have left : j.state.toAgentGraphState = i.state.toAgentGraphState.withResidue residue := left
  have models : j.state.selectedModels = i.state.selectedModels := by rw [left]; rfl
  have tool : j.state.selectedTool = i.state.selectedTool := by rw [left]; rfl
  have tools : j.state.selectedTools = i.state.selectedTools := by rw [left]; rfl
  have status : j.state.runStatus = i.state.runStatus := same.unmarked'.1.trans same.unmarked.1.symm
  have code : j.state.runErrorCode = i.state.runErrorCode := same.unmarked'.2.trans same.unmarked.2.symm
  simp only [runOutcome, result, position, models, tool, tools, status, code]

lemma map_eq_of_forall₂ {α β γ : Type*} {f : α → γ} {g : β → γ} {xs : List α} {ys : List β}
    (same : List.Forall₂ (fun x y => g y = f x) xs ys) : ys.map g = xs.map f := by
  induction same with
  | nil => rfl
  | cons head _ ih => exact congrArg₂ List.cons head ih

/-- The node that a step executes. -/
def Invocation.node (e : Event Invocation World) : Position := e.pre.position

/-- A fresh run does not depend on what earlier executions left on its thread: for another thread there is a
    run with the same answers of the outside world, and every such run executes the same nodes in the same
    order and has the same outcome. -/
theorem fresh_runs_agree {stale stale' : Option ChannelValues} (left : ExecutionThread.Left stale)
    (left' : ExecutionThread.Left stale') (request : FreshRequest) (now : Time)
    {events : List (Event Invocation World)} {final : Invocation}
    (run : Run (Invocation.Step agent) (.fresh agent stale request now) events final) :
    (∃ events' final', Run (Invocation.Step agent) (.fresh agent stale' request now) events' final' ∧
      events'.map Event.label = events.map Event.label) ∧
    ∀ events' final', Run (Invocation.Step agent) (.fresh agent stale' request now) events' final' →
      events'.map Event.label = events.map Event.label →
        events'.map Invocation.node = events.map Invocation.node ∧
          runOutcome agent final' = runOutcome agent final := by
  have same : SameInvocation (.fresh agent stale request now) (.fresh agent stale' request now) :=
    sameInvocation_fresh left.unmarked left'.unmarked request now
  obtain ⟨events', final', run', ended, steps⟩ := run.simulate (R := SameInvocation) (G := fun _ => True)
    (Q := fun e f => f.label = e.label ∧ Invocation.node f = Invocation.node e)
    (fun e j st _ same => by
      obtain ⟨j', st', next⟩ := same.step st
      exact ⟨j', st', next, rfl, same.alike.position⟩) (fun _ _ => trivial) same
  have labels : events'.map Event.label = events.map Event.label :=
    map_eq_of_forall₂ (steps.imp fun _ _ => And.left)
  have nodes : events'.map Invocation.node = events.map Invocation.node :=
    map_eq_of_forall₂ (steps.imp fun _ _ => And.right)
  refine ⟨⟨events', final', run', labels⟩, fun other last otherRun others => ?_⟩
  obtain ⟨rfl, rfl⟩ := otherRun.deterministic run'
    (fun _ _ _ _ st st' => Option.some.inj (st.symm.trans st')) (others.trans labels.symm)
  exact ⟨nodes, ended.outcome⟩

end TwoRuns

section Samples

/-- A question on an execution thread. -/
def freshRequest : FreshRequest where
  message := "question"
  systemPrompt := "prompt"
  systemPromptSource := "request"
  requestDomain := "general"
  metadata := []
  history := []
  requestId := "request"
  inventory := ⟨[], []⟩
  identity := State.sampleIdentity "11111111-1111-4111-8111-111111111111" State.sampleRun_length

/-- An execution that is cut off after a verification leaves its grounding, and the next one on the thread
    comes to what it comes to on a new thread. -/
theorem fresh_runs_agree_sample :
    let agent := sampleAgent (sampleSettings .echo)
    let world := sampleWorld 0 ⟨.pass, true, [], []⟩ ⟨.pass, true, [], [], fun _ => rfl⟩
    let earlier : List ThreadStep :=
      [.fresh agent freshRequest 0, .node agent world, .node agent world, .node agent world]
    let used := (play ExecutionThread.take {} earlier).2.stale
    let worlds := [world, world, world, world, world]
    runOutcome agent (play (Invocation.take agent) (.fresh agent used freshRequest 5) worlds).2 =
      runOutcome agent (play (Invocation.take agent) (.fresh agent none freshRequest 5) worlds).2 := by
  intro agent world earlier used worlds
  have left : ExecutionThread.Left used :=
    ⟨_, _, play_run (by decide +kernel : possible ExecutionThread.take {} earlier = true), rfl⟩
  have onNew := play_run (by decide +kernel :
    possible (Invocation.take agent) (.fresh agent none freshRequest 5) worlds = true)
  have onUsed := play_run (by decide +kernel :
    possible (Invocation.take agent) (.fresh agent used freshRequest 5) worlds = true)
  exact ((fresh_runs_agree ⟨[], {}, .nil, rfl⟩ left freshRequest 5 onNew).2 _ _ onUsed
    (by rw [play_labels, play_labels])).2

end Samples

end AgentRuntime.Orchestration
