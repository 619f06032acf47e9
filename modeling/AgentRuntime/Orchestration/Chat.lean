import AgentRuntime.Data.Json
import AgentRuntime.Data.Text

/-!
# Chat requests and responses

Port of `schemas/chat.py`. A `ChatRequest` is one that the validators let through, with their bounds as
fields; a `ChatResponse` is one whose identity the validator has filled in. A response is stored as the
JSON object of `model_dump(mode="json")` and read back by `model_validate`, which accepts every object
that is the same up to what a document column does not keep.
-/

namespace AgentRuntime.Orchestration
open Text

/-- A UUID in the text that `str(uuid4())` gives. -/
abbrev Uuid := { text : String // canonicalUuid text = true }

lemma Uuid.ne_empty (uuid : Uuid) : uuid.val ≠ "" := by
  intro empty
  have length := canonicalUuid_length uuid.property
  rw [empty] at length
  cases length

/-- Public chat request (source `ChatRequest`), after validation. -/
structure ChatRequest where
  message : String
  threadId : Option String := none
  conversationId : Option String := none
  runId : Option String := none
  resume : Bool := false
  resumeToken : Option String := none
  systemPrompt : Option String := none
  metadata : JsonObject := []
  message_length : 1 ≤ message.length ∧ message.length ≤ 20000
  thread_valid : ∀ id ∈ threadId, id ≠ "" ∧ id.length ≤ 200
  conversation_valid : ∀ id ∈ conversationId, id ≠ "" ∧ id.length ≤ 200
  run_valid : ∀ id ∈ runId, canonicalUuid id = true
  ids_match : ∀ thread ∈ threadId, ∀ conversation ∈ conversationId, thread = conversation
  token_valid : ∀ token ∈ resumeToken, token ≠ "" ∧ token.length ≤ 4096
  resume_token : resume = resumeToken.isSome

section Validation

/-- source `normalize_optional_text`, of a value that is a text -/
def normalizeOptionalText (value : Option String) : Option String :=
  match value with
  | none => none
  | some text => if strip text = "" then none else some (strip text)

lemma normalizeOptionalText_some {value : Option String} {text : String}
    (kept : normalizeOptionalText value = some text) : text ≠ "" ∧ strip text = text := by
  cases value with
  | none => cases kept
  | some given =>
    simp only [normalizeOptionalText] at kept
    split at kept
    · cases kept
    · next filled =>
      cases kept
      exact ⟨filled, strip_strip given⟩

/-- The fields of a request as they arrive, each of its type. -/
structure RawChatRequest where
  message : String
  threadId : Option String := none
  conversationId : Option String := none
  runId : Option String := none
  resume : Bool := false
  resumeToken : Option String := none
  systemPrompt : Option String := none
  metadata : JsonObject := []

namespace RawChatRequest

variable (raw : RawChatRequest)

/-- The run that a request names, or nothing when it is no UUID (source `validate_run_id`); `uuidOf` is `UUID`. -/
def run (uuidOf : String → Option Uuid) : Option (Option Uuid) :=
  match normalizeOptionalText raw.runId with
  | none => some none
  | some text => (uuidOf text).map some

/-- What the bounds of the fields and `validate_identity_contract` ask. -/
structure Accepted : Prop where
  message_bounds : 1 ≤ raw.message.length ∧ raw.message.length ≤ 20000
  message_filled : strip raw.message ≠ ""
  thread_bound : ∀ id ∈ normalizeOptionalText raw.threadId, id.length ≤ 200
  conversation_bound : ∀ id ∈ normalizeOptionalText raw.conversationId, id.length ≤ 200
  ids_match : ∀ thread ∈ normalizeOptionalText raw.threadId,
    ∀ conversation ∈ normalizeOptionalText raw.conversationId, thread = conversation
  token_bound : ∀ token ∈ normalizeOptionalText raw.resumeToken, token.length ≤ 4096
  resume_token : raw.resume = (normalizeOptionalText raw.resumeToken).isSome

instance : Decidable raw.Accepted :=
  decidable_of_iff
    ((1 ≤ raw.message.length ∧ raw.message.length ≤ 20000) ∧ strip raw.message ≠ "" ∧
      (∀ id ∈ normalizeOptionalText raw.threadId, id.length ≤ 200) ∧
      (∀ id ∈ normalizeOptionalText raw.conversationId, id.length ≤ 200) ∧
      (∀ thread ∈ normalizeOptionalText raw.threadId,
        ∀ conversation ∈ normalizeOptionalText raw.conversationId, thread = conversation) ∧
      (∀ token ∈ normalizeOptionalText raw.resumeToken, token.length ≤ 4096) ∧
      raw.resume = (normalizeOptionalText raw.resumeToken).isSome)
    ⟨fun h => ⟨h.1, h.2.1, h.2.2.1, h.2.2.2.1, h.2.2.2.2.1, h.2.2.2.2.2.1, h.2.2.2.2.2.2⟩,
      fun h => ⟨h.1, h.2, h.3, h.4, h.5, h.6, h.7⟩⟩

variable {raw}

/-- The fields that are accepted, with the run that they name. -/
def Accepted.request (accepted : raw.Accepted) (run : Option Uuid) : ChatRequest where
  message := strip raw.message
  threadId := normalizeOptionalText raw.threadId
  conversationId := normalizeOptionalText raw.conversationId
  runId := run.map Subtype.val
  resume := raw.resume
  resumeToken := normalizeOptionalText raw.resumeToken
  systemPrompt := normalizeOptionalText raw.systemPrompt
  metadata := raw.metadata
  message_length := by
    refine ⟨Nat.one_le_iff_ne_zero.mpr fun zero => ?_, ?_⟩
    · exact accepted.message_filled (String.length_eq_zero_iff.mp zero)
    · exact (length_strip_le raw.message).trans accepted.message_bounds.2
  thread_valid id given := ⟨(normalizeOptionalText_some given).1, accepted.thread_bound id given⟩
  conversation_valid id given := ⟨(normalizeOptionalText_some given).1, accepted.conversation_bound id given⟩
  run_valid := by
    intro id given
    obtain ⟨uuid, -, rfl⟩ := Option.map_eq_some_iff.mp given
    exact uuid.property
  ids_match := accepted.ids_match
  token_valid token given := ⟨(normalizeOptionalText_some given).1, accepted.token_bound token given⟩
  resume_token := accepted.resume_token

variable (raw)

/-- source `ChatRequest(...)`, or nothing for a `ValidationError` -/
def validate (uuidOf : String → Option Uuid) : Option ChatRequest :=
  match raw.run uuidOf with
  | none => none
  | some run => if accepted : raw.Accepted then some (accepted.request run) else none

variable {raw} {uuidOf : String → Option Uuid} {request : ChatRequest}

lemma validate_eq_some : raw.validate uuidOf = some request ↔
    ∃ (run : Option Uuid) (accepted : raw.Accepted), raw.run uuidOf = some run ∧
      accepted.request run = request := by
  rw [validate]
  split
  · next none => simp [none]
  · next run some =>
    rw [some]
    split
    · next accepted =>
      constructor
      · intro same
        exact ⟨run, accepted, rfl, Option.some.inj same⟩
      · rintro ⟨_, _, ⟨⟩, same⟩
        rw [same]
    · next refused =>
      constructor
      · intro none
        cases none
      · rintro ⟨_, accepted, -⟩
        exact absurd accepted refused

/-- The identifier of a conversation that is let through has no blanks at its ends. -/
lemma validate_conversation (validated : raw.validate uuidOf = some request) :
    ∀ id ∈ request.conversationId <|> request.threadId, strip id = id := by
  obtain ⟨run, accepted, -, rfl⟩ := validate_eq_some.mp validated
  intro id given
  rw [Option.mem_def, Option.orElse_eq_orElse, Option.orElse_eq_or, Option.or_eq_some_iff] at given
  rcases given with named | ⟨-, named⟩
  · exact (normalizeOptionalText_some named).2
  · exact (normalizeOptionalText_some named).2

end RawChatRequest

end Validation

/-- `value or default` -/
def orText (value : Option String) (default : String) : String :=
  match value with
  | some text => if text = "" then default else text
  | none => default

lemma orText_some {text : String} (nonempty : text ≠ "") (default : String) :
    orText (some text) default = text := if_neg nonempty

lemma orText_ne {default : String} (nonempty : default ≠ "") (value : Option String) :
    orText value default ≠ "" := by
  simp only [orText]
  split
  · split
    · exact nonempty
    · next given => exact given
  · exact nonempty

/-- The response to a chat request (source `ChatResponse`), with its identity filled in. -/
structure ChatResponse where
  threadId : String
  conversationId : String
  runId : String
  executionThreadId : String
  response : String
  backend : String
  model : Option String
  metadata : JsonObject
  conversation_filled : conversationId = "" → threadId = ""
  run_filled : runId ≠ ""
  execution_filled : executionThreadId ≠ ""

namespace ChatResponse

/-- source `ChatResponse.fill_compatibility_identity` -/
def fill (drawn : Uuid) (threadId : String) (conversationId runId executionThreadId : Option String)
    (response backend : String) (model : Option String) (metadata : JsonObject) : ChatResponse :=
  let conversation := orText conversationId threadId
  let run := orText runId drawn.val
  { threadId := threadId
    conversationId := conversation
    runId := run
    executionThreadId := orText executionThreadId (conversation ++ ":" ++ run)
    response := response
    backend := backend
    model := model
    metadata := metadata
    conversation_filled := by
      simp only [conversation, orText]
      split
      · split
        · exact id
        · next given => exact fun empty => absurd empty given
      · exact id
    run_filled := orText_ne drawn.ne_empty runId
    execution_filled := by
      refine orText_ne (fun empty => ?_) executionThreadId
      exact absurd (String.append_eq_empty_iff.mp (String.append_eq_empty_iff.mp empty).1).2
        (by decide) }

/-- source `response.model_dump(mode="json")` -/
def modelDump (response : ChatResponse) : JsonObject :=
  [("thread_id", .str response.threadId),
   ("conversation_id", .str response.conversationId),
   ("run_id", .str response.runId),
   ("execution_thread_id", .str response.executionThreadId),
   ("response", .str response.response),
   ("backend", .str response.backend),
   ("model", match response.model with
    | some model => .str model
    | none => .null),
   ("metadata", .obj response.metadata)]

/-- A field of type `str`. -/
def textField (object : JsonObject) (key : String) : Option String :=
  match object.get? key with
  | some (.str text) => some text
  | _ => none

/-- A field of type `str | None`, which may be missing. -/
def optionalField (object : JsonObject) (key : String) : Option (Option String) :=
  match object.get? key with
  | none => some none
  | some .null => some none
  | some (.str text) => some (some text)
  | some _ => none

/-- The field `metadata`, which is empty when it is missing. -/
def metadataField (object : JsonObject) : Option JsonObject :=
  match object.get? "metadata" with
  | none => some []
  | some (.obj fields) => some fields
  | some _ => none

/-- source `ChatResponse.model_validate`; `drawn` is the identifier for a response without one -/
def modelValidate (drawn : Uuid) (object : JsonObject) : Option ChatResponse := do
  let threadId ← textField object "thread_id"
  let conversationId ← optionalField object "conversation_id"
  let runId ← optionalField object "run_id"
  let executionThreadId ← optionalField object "execution_thread_id"
  let response ← textField object "response"
  let backend ← textField object "backend"
  let model ← optionalField object "model"
  let metadata ← metadataField object
  pure (fill drawn threadId conversationId runId executionThreadId response backend model metadata)

/-- The responses differ in their metadata only. -/
structure SameReply (r r' : ChatResponse) : Prop where
  threadId : r.threadId = r'.threadId
  conversationId : r.conversationId = r'.conversationId
  runId : r.runId = r'.runId
  executionThreadId : r.executionThreadId = r'.executionThreadId
  response : r.response = r'.response
  backend : r.backend = r'.backend
  model : r.model = r'.model

lemma SameReply.refl (r : ChatResponse) : SameReply r r := ⟨rfl, rfl, rfl, rfl, rfl, rfl, rfl⟩

lemma SameReply.trans {r1 r2 r3 : ChatResponse} (h1 : SameReply r1 r2) (h2 : SameReply r2 r3) :
    SameReply r1 r3 where
  threadId := h1.threadId.trans h2.threadId
  conversationId := h1.conversationId.trans h2.conversationId
  runId := h1.runId.trans h2.runId
  executionThreadId := h1.executionThreadId.trans h2.executionThreadId
  response := h1.response.trans h2.response
  backend := h1.backend.trans h2.backend
  model := h1.model.trans h2.model

section RoundTrip

variable {response : ChatResponse} {payload : JsonObject}

lemma textField_same (same : Json.Same (.obj response.modelDump) (.obj payload))
    (key : String) {text : String} (given : response.modelDump.get? key = some (.str text)) :
    textField payload key = some text := by
  simp only [textField, same.text given]

lemma optionalField_same (same : Json.Same (.obj response.modelDump) (.obj payload))
    (key : String) {text : String} (given : response.modelDump.get? key = some (.str text)) :
    optionalField payload key = some (some text) := by
  simp only [optionalField, same.text given]

lemma modelField_same (same : Json.Same (.obj response.modelDump) (.obj payload)) :
    optionalField payload "model" = some response.model := by
  cases model : response.model with
  | none =>
    have given : response.modelDump.get? "model" = some .null := by simp [modelDump, model]
    obtain ⟨value, found, same⟩ := same.field given
    cases same
    simp only [optionalField, found]
  | some text => exact optionalField_same same "model" (by simp [modelDump, model])

/-- A stored response validates to the same response, with the metadata as the store kept it. -/
theorem modelValidate_same (drawn : Uuid)
    (same : Json.Same (.obj response.modelDump) (.obj payload)) :
    ∃ stored, modelValidate drawn payload = some stored ∧ SameReply stored response ∧
      Json.Same (.obj response.metadata) (.obj stored.metadata) := by
  have given : response.modelDump.get? "metadata" = some (.obj response.metadata) := by
    simp [modelDump]
  obtain ⟨value, found, kept⟩ := same.field given
  have metadata : ∃ fields, metadataField payload = some fields ∧
      Json.Same (.obj response.metadata) (.obj fields) := by
    cases kept with
    | obj missing fields => exact ⟨_, by simp only [metadataField, found], .obj missing fields⟩
  obtain ⟨fields, validated, kept⟩ := metadata
  have conversation : orText (some response.conversationId) response.threadId =
      response.conversationId := by
    simp only [orText]
    split
    · next empty => rw [empty, response.conversation_filled empty]
    · rfl
  refine ⟨fill drawn response.threadId (some response.conversationId) (some response.runId)
      (some response.executionThreadId) response.response response.backend response.model fields,
    ?_, ⟨rfl, conversation, orText_some response.run_filled _,
      orText_some response.execution_filled _, rfl, rfl, rfl⟩, kept⟩
  have threadId := textField_same same "thread_id" rfl
  have conversationId := optionalField_same same "conversation_id" rfl
  have runId := optionalField_same same "run_id" rfl
  have executionThreadId := optionalField_same same "execution_thread_id" rfl
  have reply := textField_same same "response" rfl
  have backend := textField_same same "backend" rfl
  simp only [modelValidate, threadId, conversationId, runId, executionThreadId, reply, backend,
    modelField_same same, validated]
  rfl

end RoundTrip

end ChatResponse

end AgentRuntime.Orchestration
