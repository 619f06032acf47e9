import AgentRuntime.Orchestration.ChatRuntime

/-!
# Processes that share a run repository

Any number of requests, each handled in a process of its own choice, over one shared run repository.
Every process has a `ConversationGate`. A turn lets one handler go on from its await, or its heartbeat
renew the lease; turns of different handlers interleave in any order, on a clock that does not go back.
-/

namespace AgentRuntime.Orchestration
open State Transition

/-- The owner of every conversation inside one process (source `ConversationGate`). -/
abbrev ConversationGate := Dict String

namespace ConversationGate

/-- The gate is entered; nothing when the conversation has an owner (source `hold`). -/
def enter (gate : ConversationGate) (identity : RunIdentity) : Option ConversationGate :=
  if (gate.lookup identity.conversationId).isSome then none
  else some (gate.insert identity.conversationId identity.runId)

/-- The gate is left (source `hold`, its `finally`). -/
def leave (gate : ConversationGate) (identity : RunIdentity) : ConversationGate :=
  if gate.lookup identity.conversationId = some identity.runId then
    gate.erase identity.conversationId
  else gate

end ConversationGate

/-- Which task of a handler goes on. -/
inductive Action where
  | resume
  | heartbeat
deriving DecidableEq

/-- A handler goes on from its await, through the gate of its process (source
    `_ainvoke_with_identity`). -/
def advance (agent : ChatRuntimeAgent) (request : Request) (action : Action) (input : Input)
    (gate : ConversationGate) (s : agent.store.σ) (phase : Phase) :
    Phase × ConversationGate × agent.store.σ :=
  match action, phase with
  | .heartbeat, phase =>
    let (phase', s') := heartbeat agent input s phase
    (phase', gate, s')
  | .resume, .start =>
    match gate.enter request.identity with
    | none =>
      (.done (.error (.identity .conversationBusy
        "Another run is already active for this conversation")), gate, s)
    | some gate' => (if request.identity.resumed then .reading else .creating false, gate', s)
  | .resume, .leaving result => (.done result, gate.leave request.identity, s)
  | .resume, phase =>
    let (phase', s') := resume agent request input s phase
    (phase', gate, s')

/-- The shared repository, and every process and handler. -/
structure System (agent : ChatRuntimeAgent) where
  clock : Time
  store : agent.store.σ
  gates : Nat → ConversationGate
  phases : Nat → Phase

/-- One handler goes on. -/
structure Turn where
  handler : Nat
  action : Action := .resume
  input : Input

namespace System

variable {agent : ChatRuntimeAgent} (requests : Nat → Request)

/-- No request has been handled. -/
def start (agent : ChatRuntimeAgent) (clock : Time) : System agent where
  clock := clock
  store := agent.store.empty
  gates _ := ∅
  phases _ := .start

/-- The system after a turn. -/
def take (s : System agent) (turn : Turn) : System agent :=
  let request := requests turn.handler
  let result := advance agent request turn.action turn.input (s.gates request.process) s.store
    (s.phases turn.handler)
  { clock := turn.input.now
    store := result.2.2
    gates := Function.update s.gates request.process result.2.1
    phases := Function.update s.phases turn.handler result.1 }

/-- One turn, on a clock that does not go back; there is a heartbeat during an execution only. -/
def Step (s : System agent) (turn : Turn) (s' : System agent) : Prop :=
  s.clock ≤ turn.input.now ∧
    (turn.action = .heartbeat → (s.phases turn.handler).beats = true) ∧
    s' = s.take requests turn

/-- The system after some turns. -/
def after (s : System agent) : List Turn → System agent
  | [] => s
  | turn :: turns => after (s.take requests turn) turns

/-- The events of some turns. -/
def history (s : System agent) : List Turn → List (Event (System agent) Turn)
  | [] => []
  | turn :: turns => ⟨s, turn, s.take requests turn⟩ :: history (s.take requests turn) turns

/-- Turns at instants that do not go back are a run. -/
lemma run_history (s : System agent) (turns : List Turn)
    (ordered : (s.clock :: turns.map fun turn => turn.input.now).Pairwise (· ≤ ·))
    (resumed : ∀ turn ∈ turns, turn.action = .resume) :
    Run (Step requests) s (history requests s turns) (after requests s turns) := by
  induction turns generalizing s with
  | nil => exact .nil
  | cons turn turns ih =>
    rw [List.map_cons, List.pairwise_cons] at ordered
    refine .cons ⟨ordered.1 _ (.head _), fun beat => ?_, rfl⟩
      (ih _ ordered.2 fun turn' mem => resumed turn' (.tail _ mem))
    cases beat.symm.trans (resumed turn (.head _))

/-- The events of some turns and of more turns after them. -/
lemma history_append (s : System agent) (turns turns' : List Turn) :
    history requests s (turns ++ turns') =
      history requests s turns ++ history requests (after requests s turns) turns' := by
  induction turns generalizing s with
  | nil => rfl
  | cons turn turns ih => exact congrArg _ (ih _)

lemma after_append (s : System agent) (turns turns' : List Turn) :
    after requests s (turns ++ turns') = after requests (after requests s turns) turns' := by
  induction turns generalizing s with
  | nil => rfl
  | cons turn turns ih => exact ih _

end System

section Samples

/-- A handling agent for examples, with the process-local repository. -/
def sampleRuntime : ChatRuntimeAgent where
  settings := Graph.sampleSettings .echo
  backend := .memory
  backends := []

/-- Requests for examples: the same request is sent to two processes. -/
def sampleRequest (handler : Nat) : Request where
  process := handler
  message := "question"
  identity := sampleIdentity "11111111-1111-4111-8111-111111111111" sampleRun_length

/-- Every await ends with a result, and the graph with an answer. -/
def sampleInput : Input where
  now := 0
  processNow := 0
  drawn := ⟨"22222222-2222-4222-8222-222222222222", by decide +kernel⟩
  result :=
    { response := "an answer"
      backend := .echo
      model := none
      terminationReason := none
      taskResults := [] }

/-- Turns for examples: the handlers go on in this order. -/
def sampleTurns (handlers : List Nat) : List Turn :=
  handlers.map fun handler => { handler := handler, input := sampleInput }

/-- The turns of a handler that handles a first send to its end. -/
def wholeHandling (handler : Nat) : List Nat := List.replicate 12 handler

end Samples

end AgentRuntime.Orchestration
