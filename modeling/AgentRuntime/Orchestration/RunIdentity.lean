import AgentRuntime.Orchestration.Chat
import AgentRuntime.State.RunRecord

/-!
# The identity of a request

Port of `RunIdentityService` in `orchestration/run_identity.py`, as far as it normalizes a request that
does not resume a run: the request hash over the canonical request, and the identity with the
conversation and the run that the request supplies or the server draws. Normalization, lower case,
Python's `repr` of a float and SHA-256 are parameters; all that is used of them is that a digest has 64
characters.
-/

namespace AgentRuntime.Orchestration
open State Text

/-- What a request raises: an error of the repository or an identity error, a cancellation, or an
    exception of the named type. -/
inductive RequestError where
  | repository (error : RepositoryError)
  | cancelled
  | raised (type : String)
deriving DecidableEq

/-- An identity error that the request handling itself raises. -/
def RequestError.identity (cls : IdentityErrorClass) (message : String) : RequestError :=
  .repository (.identity cls message)

/-- source `_RESERVED_METADATA_KEYS` -/
def reservedMetadataKeys : List String :=
  ["conversation_id", "execution_thread_id", "resume", "resume_token", "run_id", "thread_id"]

/-- source `_REQUEST_HASH_DOMAIN` -/
def requestHashDomain : String := "langchain-langraph-chat-request-v1\x00"

section Canonical

variable (nfc : String → String)

mutual

/-- source `_canonical_json_value` -/
def canonicalJsonValue : Json → Except RequestError Json
  | .float bits => if isFinite bits then .ok (.float bits) else .error (.raised "ValueError")
  | .str value => .ok (.str (nfc value))
  | .arr items => do
    let items ← canonicalItems items
    pure (.arr items)
  | .obj fields => do
    let fields ← canonicalFields [] fields
    pure (.obj fields)
  | value => .ok value

def canonicalItems : List Json → Except RequestError (List Json)
  | [] => .ok []
  | item :: items => do
    let item ← canonicalJsonValue item
    let items ← canonicalItems items
    pure (item :: items)

/-- The fields of the comprehension, in which a later key overwrites an earlier one. -/
def canonicalFields (object : JsonObject) : JsonObject → Except RequestError JsonObject
  | [] => .ok object
  | (key, value) :: fields => do
    let value ← canonicalJsonValue value
    canonicalFields (object.set (nfc key) value) fields

end

end Canonical

/-- source `RunIdentityService`, with the bounds of its settings -/
structure RunIdentityService where
  checkpointNamespace : String
  stateSchemaVersion : Nat
  requestHashVersion : Nat
  activeKeyId : String
  nfc : String → String
  lower : String → String
  floatRepr : BitVec 64 → String
  sha256 : String → String
  namespace_length : 1 ≤ checkpointNamespace.length ∧ checkpointNamespace.length ≤ 100
  schema_version : 1 ≤ stateSchemaVersion
  hash_version : 1 ≤ requestHashVersion ∧ requestHashVersion ≤ 1000
  key_length : activeKeyId.length ≤ 100
  sha256_length : ∀ text, (sha256 text).length = 64

/-- The conversation that a request names: `request.conversation_id or request.thread_id`. -/
def ChatRequest.conversation (request : ChatRequest) : Option String :=
  request.conversationId <|> request.threadId

lemma ChatRequest.conversation_length (request : ChatRequest) {id : String}
    (named : request.conversation = some id) : 1 ≤ id.length ∧ id.length ≤ 200 := by
  have valid : id ≠ "" ∧ id.length ≤ 200 := by
    simp only [ChatRequest.conversation] at named
    cases given : request.conversationId with
    | some _ =>
      rw [given] at named
      cases named
      exact request.conversation_valid _ given
    | none =>
      rw [given] at named
      exact request.thread_valid _ named
  refine ⟨Nat.one_le_iff_ne_zero.mpr fun zero => valid.1 ?_, valid.2⟩
  exact String.length_eq_zero_iff.mp zero

/-- The identifiers that the server draws for a request. -/
structure Draws where
  conversation : Uuid
  run : Uuid

namespace RunIdentityService

variable (service : RunIdentityService)

/-- source `RunIdentityService.sanitized_metadata` -/
def sanitizedMetadata (request : ChatRequest) : JsonObject :=
  request.metadata.filter fun (key, _) => service.lower key ∉ reservedMetadataKeys

/-- source `RunIdentityService.request_hash` -/
def requestHash (request : ChatRequest) : Except RequestError String := do
  let metadata ← canonicalJsonValue service.nfc (.obj (service.sanitizedMetadata request))
  let canonical : Json := .obj
    [("version", .int service.requestHashVersion),
     ("message", .str (service.nfc request.message)),
     ("system_prompt", match request.systemPrompt with
      | some prompt => .str (service.nfc prompt)
      | none => .null),
     ("metadata", metadata)]
  pure (service.sha256 (requestHashDomain ++ canonical.dumps service.floatRepr))

lemma requestHash_length {request : ChatRequest} {hash : String}
    (hashed : service.requestHash request = .ok hash) : hash.length = 64 := by
  simp only [requestHash] at hashed
  cases canonical : canonicalJsonValue service.nfc (.obj (service.sanitizedMetadata request)) with
  | error error =>
    rw [canonical] at hashed
    cases hashed
  | ok metadata =>
    rw [canonical] at hashed
    cases hashed
    exact service.sha256_length _

/-- The conversation of a fresh run. -/
def conversationOf (request : ChatRequest) (draws : Draws) : String :=
  request.conversation.getD draws.conversation.val

/-- The identifier of a fresh run. -/
def runOf (request : ChatRequest) (draws : Draws) : String :=
  request.runId.getD draws.run.val

lemma conversationOf_length (request : ChatRequest) (draws : Draws) :
    1 ≤ (conversationOf request draws).length ∧ (conversationOf request draws).length ≤ 200 := by
  simp only [conversationOf]
  cases named : request.conversation with
  | some id => exact request.conversation_length named
  | none =>
    have length := canonicalUuid_length draws.conversation.property
    simp only [Option.getD_none]
    omega

lemma runOf_length (request : ChatRequest) (draws : Draws) :
    (runOf request draws).length = 36 := by
  simp only [runOf]
  cases given : request.runId with
  | some id => exact canonicalUuid_length (request.run_valid id given)
  | none => exact canonicalUuid_length draws.run.property

/-- source `RunIdentity(...)` at the end of `normalize` -/
def identityOf (request : ChatRequest) (draws : Draws) (requestHash : String)
    (length : requestHash.length = 64) : RunIdentity where
  conversationId := conversationOf request draws
  runId := runOf request draws
  executionThreadId := conversationOf request draws ++ ":" ++ runOf request draws
  checkpointNamespace := service.checkpointNamespace
  stateSchemaVersion := service.stateSchemaVersion
  requestHash := requestHash
  requestHashVersion := service.requestHashVersion
  resumeTokenVersion := 1
  resumeTokenKeyId := some service.activeKeyId
  resumeRequested := false
  resumed := false
  clientSuppliedRunId := request.runId.isSome
  conversation_length := conversationOf_length request draws
  run_length := runOf_length request draws
  thread_length := by
    have conversation := conversationOf_length request draws
    have run := runOf_length request draws
    simp only [String.length_append]
    have colon : ":".length = 1 := by decide
    omega
  namespace_length := service.namespace_length
  schema_version := service.schema_version
  hash_length := length
  hash_version := service.hash_version
  token_version := firstVersion
  key_length := by
    rintro key ⟨⟩
    exact service.key_length

/-- source `RunIdentityService.normalize`, for a request that does not resume a run -/
def freshIdentity (request : ChatRequest) (draws : Draws) : Except RequestError RunIdentity :=
  match hashed : service.requestHash request with
  | .error error => .error error
  | .ok requestHash =>
    .ok (service.identityOf request draws requestHash (service.requestHash_length hashed))

end RunIdentityService

end AgentRuntime.Orchestration
