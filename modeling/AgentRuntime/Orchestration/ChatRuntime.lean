import AgentRuntime.Orchestration.GraphResult
import AgentRuntime.Orchestration.RunIdentity
import AgentRuntime.State.Store

/-!
# The handling of one request

Port of `_ainvoke_with_identity`, `_preflight_existing_run` and the methods they await in
`orchestration/chat_runtime.py`. A handler is a coroutine: a `Phase` is the await at which it is
suspended, with the local variables that are still needed, and `resume` is what it does when that await
ends, up to the next one. Each await ends in one of the ways of `Delivery`: with the result, with an
exception of the connection, or with a cancellation of the request; in the last two the call may have
been made or not.

The heartbeat of the lease is a second task next to the handler, whose steps are `heartbeat`. What the
graph, the checkpointer and the server's clocks answer is `Input`. The other fields of the response's
metadata are given as `report`; nothing reads them back.
-/

namespace AgentRuntime.Orchestration
open State Text

section Execution

/-- source `response.metadata.setdefault("persistence", {})["history_persisted"] = persisted`, which
    raises when the field is no object -/
def setHistoryPersisted (persisted : Bool) (metadata : JsonObject) : Option JsonObject :=
  match metadata.get? "persistence" with
  | none => some (metadata.set "persistence" (.obj [("history_persisted", .bool persisted)]))
  | some (.obj fields) =>
    some (metadata.set "persistence"
      (.obj (JsonObject.set "history_persisted" (.bool persisted) fields)))
  | some _ => none

/-- The response with the flag in its metadata. -/
def ChatResponse.withHistoryPersisted (persisted : Bool) (response : ChatResponse) :
    Option ChatResponse :=
  (setHistoryPersisted persisted response.metadata).map fun metadata => { response with metadata }

/-- The statuses of an execution (source, the `Literal` of `_RunExecution.status`). -/
inductive ExecutionStatus where
  | completed | failed
deriving DecidableEq, Repr

/-- The status as an outcome. -/
def ExecutionStatus.toOutcomeStatus : ExecutionStatus → OutcomeStatus
  | .completed => .completed
  | .failed => .failed

/-- source `_RunExecution` -/
structure RunExecution where
  response : ChatResponse
  status : ExecutionStatus
  terminationReason : Option String
  errorCode : Option String

/-- source `ChatRuntimeAgent`: the settings, the backend of the run repository, and the fields that name
    the backends in the metadata of a response -/
structure ChatRuntimeAgent where
  settings : Settings
  backend : Backend
  backends : JsonObject

/-- source `self.run_repository` -/
abbrev ChatRuntimeAgent.store (agent : ChatRuntimeAgent) : Store := agent.backend.store

/-- source `_execute_run`, from the result of the graph on -/
def executeRun (agent : ChatRuntimeAgent) (identity : RunIdentity) (result : GraphResult)
    (report : JsonObject) (drawn : Uuid) : RunExecution where
  response := ChatResponse.fill drawn identity.conversationId (some identity.conversationId)
    (some identity.runId) (some (identity.conversationId ++ ":" ++ identity.runId))
    (responseText result) result.backend.text result.model
    (report.set "persistence" (.obj (agent.backends ++ [("history_persisted", .bool false)])))
  status := if result.runFailed then .failed else .completed
  terminationReason := result.terminationReason
  errorCode := result.runErrorCode

end Execution

section Preflight

/-- What the preflight of a run decides. -/
inductive Preflight where
  | refused (error : RequestError)
  | replay (response : ChatResponse) (committed : Bool)
  | proceed

/-- The statuses whose stored response is replayed. -/
def replayed : List RunStatus := [.completed, .failed, .cancelled]

/-- The stored response of a run that is over. -/
def replayablePayload (record : RunRecord) : Option JsonObject :=
  if record.status ∈ replayed then record.responsePayload else none

/-- source `_preflight_existing_run`, up to the history of a replayed response -/
def preflightExistingRun (identity : RunIdentity) (record : RunRecord)
    (created resumeMigrated : Bool) (processNow : Time) (drawn : Uuid) : Preflight :=
  if identity.resumed ∧ identity.resumeTokenVersion ≠ record.resumeTokenVersion then
    .refused (.identity .resumeTokenRevoked "The resume token has been revoked")
  else
    match replayablePayload record with
    | some payload =>
      match ChatResponse.modelValidate drawn payload with
      | none => .refused (.raised "ValidationError")
      | some response => .replay response record.historyCommittedAt.isSome
    | none =>
      if identity.resumed ∧ resumeMigrated ∧ record.status = .pending then .proceed
      else if created then
        if identity.resumed then
          .refused (.identity .resumeRunNotFound
            "No durable run record exists for the requested resumable run")
        else .proceed
      else
        let leaseExpired := record.leaseExpiresAt.any fun expiresAt => expiresAt ≤ processNow
        if identity.resumed then
          if record.status = .interrupted then .proceed
          else if record.status = .running ∧ leaseExpired then .proceed
          else .refused (.identity .runNotResumable
            ("Run status '" ++ record.status.text ++ "' cannot be resumed"))
        else if record.status = .running then
          if leaseExpired then
            .refused (.identity .runConflict
              "The previous owner lease expired; resume with the server-issued token")
          else .refused (.identity .conversationBusy "The run is already active")
        else if record.status = .pending then .proceed
        else .refused (.identity .runConflict
          "The run already exists; use its resume token only when it is interrupted")

end Preflight

section Awaits

/-- How the await at which a handler is suspended ends. -/
inductive Delivery where
  | returned
  | failed (type : String) (made : Bool)
  | cancelled (made : Bool)
deriving DecidableEq

/-- The repository call is made. -/
def Delivery.made : Delivery → Bool
  | .returned => true
  | .failed _ made => made
  | .cancelled made => made

/-- The end of an await that only answers. -/
def Delivery.answer : Delivery → Except RequestError Unit
  | .returned => .ok ()
  | .failed type _ => .error (.raised type)
  | .cancelled _ => .error .cancelled

/-- The end of an await on a repository call. -/
def awaited {σ α : Type} (delivery : Delivery) (call : σ → Effect σ α) (s : σ) :
    Except RequestError α × σ :=
  match delivery with
  | .returned =>
    match call s with
    | (.ok value, s') => (.ok value, s')
    | (.error error, s') => (.error (.repository error), s')
  | .failed type made => (.error (.raised type), if made then (call s).2 else s)
  | .cancelled made => (.error .cancelled, if made then (call s).2 else s)

/-- What the outside world answers at an await. -/
structure Input where
  delivery : Delivery := .returned
  /-- the repository's clock -/
  now : Time
  /-- the clock of the process -/
  processNow : Time
  /-- what `uuid4` draws -/
  drawn : Uuid
  /-- the checkpoint of the execution thread, with its identifier -/
  checkpoint : Option (Option String) := none
  /-- the result of the graph -/
  result : GraphResult
  /-- the fields of the metadata that the graph and the server report -/
  report : JsonObject := []

end Awaits

/-- A request with its identity, in the process that handles it. -/
structure Request where
  process : Nat
  message : String
  identity : RunIdentity

/-- The await at which a handler is suspended, with the local variables that are still needed. -/
inductive Phase where
  /-- the conversation gate -/
  | start
  /-- `run_repository.get` of a run to resume -/
  | reading
  /-- the checkpoint of a run to resume that has no record -/
  | migrating
  /-- `run_repository.create_or_get` -/
  | creating (resumeMigrated : Bool)
  /-- `memory.append_turn` of a replayed response -/
  | replaying (response : ChatResponse)
  /-- `run_repository.reconcile_history_committed` of a replayed response -/
  | reconciling (response : ChatResponse)
  /-- the checkpoint of a run that is to be executed -/
  | inspecting (created : Bool)
  /-- `run_repository.acquire` -/
  | acquiring
  /-- `memory.get` and the inventory, before the graph is started -/
  | preparing (lease current : RunLease)
  /-- `graph.ainvoke` -/
  | executing (lease current : RunLease)
  /-- the checkpoint identifier after the execution -/
  | locating (lease : RunLease) (execution : RunExecution)
  /-- `run_repository.mark_terminal` of the outcome -/
  | persisting (lease : RunLease) (execution : RunExecution) (checkpointId : Option String)
  /-- `memory.append_turn` of the outcome -/
  | appending (lease : RunLease) (execution : RunExecution)
  /-- `run_repository.mark_history_committed` -/
  | committing (lease : RunLease) (response : ChatResponse)
  /-- `run_repository.mark_terminal` of an interruption -/
  | interrupting (lease : RunLease) (reason : String) (error : RequestError)
  /-- `run_repository.release` -/
  | releasing (lease : RunLease) (result : Except RequestError ChatResponse)
  /-- the end of the conversation gate -/
  | leaving (result : Except RequestError ChatResponse)
  | done (result : Except RequestError ChatResponse)

section Handler

variable (agent : ChatRuntimeAgent) (request : Request)

/-- The handler goes on after the lookup of the record. -/
def afterLookup (record : RunRecord) (created resumeMigrated : Bool) (input : Input) : Phase :=
  match preflightExistingRun request.identity record created resumeMigrated input.processNow
    input.drawn with
  | .refused error => .leaving (.error error)
  | .replay response true => .leaving (.ok response)
  | .replay response false => .replaying response
  -- the checkpoint of a migrated run is known to exist
  | .proceed => if resumeMigrated then .acquiring else .inspecting created

/-- The handler goes on when it knows whether a checkpoint exists. -/
def afterInspection (created checkpointExists : Bool) : Phase :=
  if request.identity.resumed ∧ ¬ checkpointExists then
    .leaving (.error (.identity .resumeRunNotFound
      "No checkpoint exists for the requested resumable run"))
  else if ¬ request.identity.resumed ∧ request.identity.clientSuppliedRunId ∧ created ∧
      checkpointExists then
    .leaving (.error (.identity .runConflict
      "The supplied run_id already has checkpoint state; use resume=true with its server-issued resume token"))
  else .acquiring

/-- The `except` arms and the `finally` of a handler that holds the lease. -/
def unwind (lease : RunLease) (terminalPersisted : Bool) (error : RequestError) : Phase :=
  match error with
  | .cancelled => .interrupting lease "request_cancelled" error
  | .repository (.identity .staleLease _) => .releasing lease (.error error)
  | _ =>
    if terminalPersisted then .releasing lease (.error error)
    else .interrupting lease "runtime_interrupted" error

/-- The outcome that is persisted for an execution. -/
def RunExecution.outcome (execution : RunExecution) (checkpointId : Option String) : Outcome where
  status := execution.status.toOutcomeStatus
  responsePayload := some execution.response.modelDump
  terminationReason := execution.terminationReason
  errorCode := execution.errorCode
  checkpointId := checkpointId

/-- The outcome of `_mark_interrupted_safely`. -/
def interruption (reason : String) : Outcome where
  status := .interrupted
  responsePayload := none
  terminationReason := some reason
  errorCode := some reason

/-- The handler goes on from its await, up to the next one. The gate is entered and left elsewhere. -/
def resume (input : Input) (s : agent.store.σ) : Phase → Phase × agent.store.σ
  | .reading =>
    match awaited input.delivery (agent.store.repo.get request.identity.runId) s with
    | (.error error, s') => (.leaving (.error error), s')
    | (.ok none, s') => (.migrating, s')
    | (.ok (some record), s') =>
      -- the source compares the same fields here
      match validateRecordIdentity record request.identity with
      | .ok () => (afterLookup request record false false input, s')
      | .error _ =>
        (.leaving (.error (.identity .runConflict
          "The resumable run identity does not match the durable record")), s')
  | .migrating =>
    match input.delivery.answer with
    | .error error => (.leaving (.error error), s)
    | .ok () =>
      if input.checkpoint.isSome then (.creating true, s)
      else (.leaving (.error (.identity .resumeRunNotFound
        "No checkpoint exists for the requested resumable run")), s)
  | .creating resumeMigrated =>
    match awaited input.delivery (agent.store.repo.createOrGet input.now request.identity) s with
    | (.error error, s') => (.leaving (.error error), s')
    | (.ok (record, created), s') => (afterLookup request record created resumeMigrated input, s')
  | .replaying response =>
    match input.delivery.answer with
    | .error .cancelled => (.leaving (.error .cancelled), s)
    | answer =>
      -- `_append_history_safely` turns every other exception into `False`
      match response.withHistoryPersisted answer.isOk with
      | none => (.leaving (.error (.raised "TypeError")), s)
      | some response =>
        if answer.isOk then (.reconciling response, s) else (.leaving (.ok response), s)
  | .reconciling response =>
    match awaited input.delivery (agent.store.repo.reconcileHistoryCommitted input.now
        request.identity.runId (some response.modelDump)) s with
    | (.error error, s') => (.leaving (.error error), s')
    | (.ok _, s') => (.leaving (.ok response), s')
  | .inspecting created =>
    match input.delivery.answer with
    | .ok () => (afterInspection request created input.checkpoint.isSome, s)
    | .error .cancelled => (.leaving (.error .cancelled), s)
    | .error error =>
      if request.identity.resumed ∨ (request.identity.clientSuppliedRunId ∧ ¬ created) then
        (.leaving (.error error), s)
      else (afterInspection request created false, s)
  | .acquiring =>
    match awaited input.delivery (agent.store.repo.acquire input.now request.identity
        input.drawn.val agent.settings.runLeaseTtlSeconds) s with
    | (.error error, s') => (.leaving (.error error), s')
    | (.ok lease, s') => (.preparing lease lease, s')
  | .preparing lease current =>
    match input.delivery.answer with
    | .error error => (unwind lease false error, s)
    | .ok () => (.executing lease current, s)
  | .executing lease _ =>
    match input.delivery.answer with
    | .error error => (unwind lease false error, s)
    | .ok () =>
      (.locating lease (executeRun agent request.identity input.result input.report input.drawn), s)
  | .locating lease execution =>
    match input.delivery.answer with
    | .error .cancelled => (unwind lease false .cancelled, s)
    | .error _ => (.persisting lease execution none, s)
    | .ok () => (.persisting lease execution input.checkpoint.join, s)
  | .persisting lease execution checkpointId =>
    match awaited input.delivery (agent.store.repo.markTerminal input.now lease
        (execution.outcome checkpointId)) s with
    | (.error error, s') => (unwind lease false error, s')
    | (.ok _, s') => (.appending lease execution, s')
  | .appending lease execution =>
    match input.delivery.answer with
    | .error .cancelled => (unwind lease true .cancelled, s)
    | answer =>
      match execution.response.withHistoryPersisted answer.isOk with
      | none => (unwind lease true (.raised "TypeError"), s)
      | some response =>
        if answer.isOk then (.committing lease response, s)
        else (.releasing lease (.ok response), s)
  | .committing lease response =>
    match awaited input.delivery (agent.store.repo.markHistoryCommitted input.now lease
        (some response.modelDump)) s with
    | (.error error, s') => (unwind lease true error, s')
    | (.ok _, s') => (.releasing lease (.ok response), s')
  | .interrupting lease reason error =>
    match awaited input.delivery (agent.store.repo.markTerminal input.now lease
        (interruption reason)) s with
    -- only a cancellation leaves `_mark_interrupted_safely`
    | (.error .cancelled, s') => (.releasing lease (.error .cancelled), s')
    | (_, s') => (.releasing lease (.error error), s')
  | .releasing lease result =>
    match awaited input.delivery (agent.store.repo.release input.now lease) s with
    | (.error error, s') => (.leaving (.error error), s')
    | (.ok (), s') => (.leaving result, s')
  | phase => (phase, s)

/-- The handler has a heartbeat. -/
def Phase.beats : Phase → Bool
  | .preparing _ _ => true
  | .executing _ _ => true
  | _ => false

/-- source `_lease_heartbeat`: the lease is renewed while the run is executed, and a heartbeat that
    raises ends the execution -/
def heartbeat (input : Input) (s : agent.store.σ) : Phase → Phase × agent.store.σ
  | .preparing lease current =>
    match awaited input.delivery (agent.store.repo.renew input.now current
        agent.settings.runLeaseTtlSeconds) s with
    | (.error error, s') => (unwind lease false error, s')
    | (.ok renewed, s') => (.preparing lease renewed, s')
  | .executing lease current =>
    match awaited input.delivery (agent.store.repo.renew input.now current
        agent.settings.runLeaseTtlSeconds) s with
    | (.error error, s') => (unwind lease false error, s')
    | (.ok renewed, s') => (.executing lease renewed, s')
  | phase => (phase, s)

end Handler

end AgentRuntime.Orchestration
