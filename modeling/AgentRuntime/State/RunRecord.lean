import AgentRuntime.Lib.Dict
import AgentRuntime.Data.Json

/-!
# Run records, leases and identities

Port of the data of `state/run_repository.py` and `schemas/run.py`: the durable record of a run, the
lease of a conversation, the server-authoritative identity of an execution, and the errors that the
repositories raise. A `RunIdentity` carries the bounds that its schema validates as fields, so that
no other identity can be built. Time is counted in microseconds, and text stands where the source
keeps a UUID as text.
-/

namespace AgentRuntime

/-- An instant, as both repositories read it from their clock (source `datetime`). -/
abbrev Time := Int

/-- The microseconds of `timedelta(seconds=...)` and of `... * INTERVAL '1 second'`. -/
def seconds (n : Int) : Time := n * 1000000

namespace State

/-- The status of a run (source `RunStatus`). -/
inductive RunStatus where
  | pending | running | interrupted | completed | failed | cancelled | expired | reconciling
deriving DecidableEq, Repr

/-- The literal that a status is in the source. -/
def RunStatus.text : RunStatus → String
  | .pending => "pending"
  | .running => "running"
  | .interrupted => "interrupted"
  | .completed => "completed"
  | .failed => "failed"
  | .cancelled => "cancelled"
  | .expired => "expired"
  | .reconciling => "reconciling"

/-- The statuses that no execution continues from (source `_TERMINAL_STATUSES`). -/
def terminalStatuses : List RunStatus := [.completed, .failed, .cancelled, .expired]

/-- The statuses that `mark_terminal` is given (source, the `Literal` of its `status`). -/
inductive OutcomeStatus where
  | completed | failed | cancelled | interrupted
deriving DecidableEq, Repr

/-- An outcome as the status of a record. -/
def OutcomeStatus.toRunStatus : OutcomeStatus → RunStatus
  | .completed => .completed
  | .failed => .failed
  | .cancelled => .cancelled
  | .interrupted => .interrupted

/-- The durable record of one run (source `RunRecord`). -/
structure RunRecord where
  runId : String
  conversationId : String
  executionThreadId : String
  requestHash : String
  requestHashVersion : Nat
  stateSchemaVersion : Nat
  status : RunStatus
  fencingToken : Option Nat := none
  leaseOwner : Option String := none
  leaseExpiresAt : Option Time := none
  checkpointId : Option String := none
  responsePayload : Option JsonObject := none
  terminationReason : Option String := none
  errorCode : Option String := none
  createdAt : Option Time := none
  updatedAt : Option Time := none
  startedAt : Option Time := none
  completedAt : Option Time := none
  historyCommittedAt : Option Time := none
  resumeTokenVersion : Nat := 1

/-- The lease of a conversation, held by one run (source `RunLease`). -/
structure RunLease where
  conversationId : String
  runId : String
  ownerId : String
  fencingToken : Nat
  expiresAt : Time
deriving DecidableEq, Repr

/-- Server-authoritative identity for one graph execution (source `RunIdentity`). -/
structure RunIdentity where
  conversationId : String
  runId : String
  executionThreadId : String
  checkpointNamespace : String
  stateSchemaVersion : Nat
  requestHash : String
  requestHashVersion : Nat
  resumeTokenVersion : Nat
  resumeTokenKeyId : Option String
  resumeRequested : Bool
  resumed : Bool
  clientSuppliedRunId : Bool
  conversation_length : 1 ≤ conversationId.length ∧ conversationId.length ≤ 200
  run_length : runId.length = 36
  thread_length : 1 ≤ executionThreadId.length ∧ executionThreadId.length ≤ 237
  namespace_length : 1 ≤ checkpointNamespace.length ∧ checkpointNamespace.length ≤ 100
  schema_version : 1 ≤ stateSchemaVersion
  hash_length : requestHash.length = 64
  hash_version : 1 ≤ requestHashVersion ∧ requestHashVersion ≤ 1000
  token_version : 1 ≤ resumeTokenVersion
  key_length : ∀ key ∈ resumeTokenKeyId, key.length ≤ 100

/-- An identity for runs on fixed inputs. -/
def sampleIdentity (runId : String) (length : runId.length = 36 := by decide) : RunIdentity where
  conversationId := "support"
  runId := runId
  executionThreadId := "support:" ++ runId
  checkpointNamespace := "chat"
  stateSchemaVersion := 1
  requestHash := "9f86d081884c7d659a2feaa0c55ad015a3bf4f1b2b0b822cd15d6c15b0f00a08"
  requestHashVersion := 1
  resumeTokenVersion := 1
  resumeTokenKeyId := none
  resumeRequested := false
  resumed := false
  clientSuppliedRunId := true
  conversation_length := by decide
  run_length := length
  thread_length := by
    rw [String.length_append, length]
    decide
  namespace_length := by decide
  schema_version := by decide
  hash_length := by decide
  hash_version := by decide
  token_version := by decide
  key_length := nofun

lemma sampleRun_length : "11111111-1111-4111-8111-111111111111".length = 36 := by decide

/-- The first version of the schema, of a hash and of a token. -/
lemma firstVersion : 1 ≤ 1 := Nat.le_refl 1

lemma firstHashVersion : 1 ≤ 1 ∧ 1 ≤ 1000 := by decide

/-- The identity errors of `orchestration/run_identity.py`. -/
inductive IdentityErrorClass where
  | conversationBusy
  | runConflict
  | staleLease
  | runNotResumable
  | resumeTokenInvalid
  | resumeTokenRevoked
  | resumeTokenExpired
  | resumeRunNotFound
  | incompatibleRunState
deriving DecidableEq, Repr

/-- What a repository call raises: an identity error with its message, the `KeyError` of a dictionary
    access, or an error of the database or its driver. -/
inductive RepositoryError where
  | identity (cls : IdentityErrorClass) (message : String)
  | keyError (key : String)
  | database
deriving DecidableEq, Repr

/-- The class of an error, which is what a caller's `except` arms look at. -/
inductive ErrorClass where
  | identity (cls : IdentityErrorClass)
  | keyError
  | database
deriving DecidableEq, Repr

/-- The class of a raised error. -/
def RepositoryError.cls : RepositoryError → ErrorClass
  | .identity cls _ => .identity cls
  | .keyError _ => .keyError
  | .database => .database

/-- The record must be the one of this identity (source `_validate_record_identity`). -/
def validateRecordIdentity (record : RunRecord) (identity : RunIdentity) :
    Except RepositoryError Unit :=
  if record.conversationId ≠ identity.conversationId then
    .error (.identity .runConflict "The run_id belongs to a different conversation")
  else if record.executionThreadId ≠ identity.executionThreadId then
    .error (.identity .runConflict "The run_id has a different execution identity")
  else if record.requestHash ≠ identity.requestHash ∨
      record.requestHashVersion ≠ identity.requestHashVersion then
    .error (.identity .runConflict
      "The supplied run_id is already bound to a different request payload")
  else if record.stateSchemaVersion ≠ identity.stateSchemaVersion then
    .error (.identity .runConflict "The run_id uses an incompatible state schema")
  else .ok ()

/-- The record agrees with the identity in every field that `_validate_record_identity` compares. -/
structure RunRecord.Matches (record : RunRecord) (identity : RunIdentity) : Prop where
  conversation : record.conversationId = identity.conversationId
  thread : record.executionThreadId = identity.executionThreadId
  hash : record.requestHash = identity.requestHash
  hashVersion : record.requestHashVersion = identity.requestHashVersion
  schema : record.stateSchemaVersion = identity.stateSchemaVersion

/-- Validation succeeds on the matching records. -/
lemma validateRecordIdentity_ok {record : RunRecord} {identity : RunIdentity} :
    validateRecordIdentity record identity = .ok () ↔ record.Matches identity := by
  constructor
  · intro h
    simp only [validateRecordIdentity] at h
    split_ifs at h with h1 h2 h3 h4
    push Not at h1 h2 h3 h4
    exact ⟨h1, h2, h3.1, h3.2, h4⟩
  · rintro ⟨h1, h2, h3, h4, h5⟩
    simp [validateRecordIdentity, h1, h2, h3, h4, h5]

/-- Validation fails with a run conflict only. -/
lemma validateRecordIdentity_error {record : RunRecord} {identity : RunIdentity} {error}
    (h : validateRecordIdentity record identity = .error error) :
    error.cls = .identity .runConflict := by
  simp only [validateRecordIdentity] at h
  split_ifs at h <;> cases h <;> rfl

/-- The record that `create_or_get` inserts for a new run. -/
def RunRecord.create (identity : RunIdentity) (now : Time) : RunRecord where
  runId := identity.runId
  conversationId := identity.conversationId
  executionThreadId := identity.executionThreadId
  requestHash := identity.requestHash
  requestHashVersion := identity.requestHashVersion
  stateSchemaVersion := identity.stateSchemaVersion
  status := .pending
  createdAt := some now
  updatedAt := some now
  resumeTokenVersion := identity.resumeTokenVersion

/-- A fresh record matches the identity it was created for. -/
lemma RunRecord.create_matches (identity : RunIdentity) (now : Time) :
    (RunRecord.create identity now).Matches identity :=
  ⟨rfl, rfl, rfl, rfl, rfl⟩

/-- Two leases name the same grant (source `MemoryRunRepository._same_owner`). -/
def sameOwner (current supplied : RunLease) : Bool :=
  current.conversationId = supplied.conversationId
    && current.runId = supplied.runId
    && current.ownerId = supplied.ownerId
    && current.fencingToken = supplied.fencingToken

lemma sameOwner_iff {current supplied : RunLease} :
    sameOwner current supplied = true ↔
      current.conversationId = supplied.conversationId ∧ current.runId = supplied.runId ∧
        current.ownerId = supplied.ownerId ∧ current.fencingToken = supplied.fencingToken := by
  simp [sameOwner, and_assoc]

end State

end AgentRuntime
