import AgentRuntime.Data.JsonOrder
import AgentRuntime.Lib.Base64
import AgentRuntime.Lib.Fallible
import AgentRuntime.Orchestration.RunIdentity
import Mathlib.Algebra.Order.Ring.Int

/-!
# Resume tokens

Port of the tokens of `RunIdentityService` in `orchestration/run_identity.py`: how one is issued, read back and
checked against the request that presents it. HMAC-SHA256 is a parameter, and so are the conversions of Python's
library that nothing here depends on: `int` of a text, `str` of a list, a dictionary or a float, and `UUID`.
What is used of them is that `UUID` takes the text of a UUID, and that a digest has no blanks. A text here holds no
lone surrogate, and a payload is not nested deeper than `json.loads` goes.
-/

namespace AgentRuntime.Orchestration
open State Text

section Bytes

/-- `text.encode("utf-8")` -/
def encodeUtf8 (text : String) : List UInt8 := text.toList.flatMap String.utf8EncodeChar

/-- `bytes.decode("utf-8")`, or nothing for a `UnicodeDecodeError` -/
def decodeUtf8 (bytes : List UInt8) : Option String :=
  bytes.toByteArray.utf8Decode?.map fun chars => String.ofList chars.toList

/-- `text.encode("ascii")` of a text that is ASCII -/
def asciiBytes (text : List Char) : List UInt8 := text.map fun c => UInt8.ofNat c.toNat

/-- source `_b64decode`, or nothing for a `ValueError` -/
def b64decode (value : List Char) : Option (List UInt8) :=
  if value.all fun c => c.toNat < 128 then Base64.decode (Base64.pad value) else none

lemma decodeUtf8_encodeUtf8 (text : String) : decodeUtf8 (encodeUtf8 text) = some text := by
  have bytes : (encodeUtf8 text).toByteArray = text.toList.utf8Encode := rfl
  rw [decodeUtf8, bytes, List.utf8Decode?_utf8Encode, Option.map_some, List.toList_toArray, String.ofList_toList]

lemma length_encodeUtf8 (text : String) : (encodeUtf8 text).length = text.utf8ByteSize := by
  have bytes : (encodeUtf8 text).toByteArray = text.toByteArray := String.utf8Encode_toList
  rw [← List.size_toByteArray, bytes, String.size_toByteArray]

end Bytes

section Conversions

/-- `math.trunc(value)` of a finite float -/
def truncFloat (bits : BitVec 64) : Int :=
  let exponent := (bits.extractLsb 62 52).toNat
  let fraction := (bits.extractLsb 51 0).toNat
  let mantissa := if exponent = 0 then fraction else 2 ^ 52 + fraction
  let whole := if 1075 ≤ exponent then mantissa * 2 ^ (exponent - 1075) else mantissa / 2 ^ (1075 - max exponent 1)
  if bits.msb then -whole else whole

/-- `payload.get(key, default) or default` -/
def fieldOr (payload : JsonObject) (key : String) (default : Json) : Json :=
  match payload.get? key with
  | some value => if value.truthy then value else default
  | none => default

end Conversions

/-- source `RunIdentityService`, with what it keeps for its tokens -/
structure TokenService extends RunIdentityService where
  ttlSeconds : Nat
  keys : List (String × List UInt8)
  hmac : List UInt8 → List UInt8 → List UInt8
  floats : FloatCodec
  intOfText : String → Option Int
  strOf : Json → String
  uuidOf : String → Option Uuid
  active : (keys.lookup activeKeyId).isSome
  active_filled : activeKeyId ≠ ""
  active_stripped : strip activeKeyId = activeKeyId
  floats_repr : floats.repr = floatRepr
  uuidOf_canonical : ∀ uuid : Uuid, uuidOf uuid.val = some uuid
  sha256_solid : ∀ text, ∀ c ∈ (sha256 text).toList, isSpace c = false

namespace TokenService

variable (service : TokenService)

/-- `int(value)` -/
def intOf : Json → Except RequestError Int
  | .null => .error (.raised "TypeError")
  | .bool value => .ok (if value then 1 else 0)
  | .int value => .ok value
  | .float bits =>
    if isFinite bits then .ok (truncFloat bits)
    else if bits.extractLsb 51 0 = 0 then .error (.raised "OverflowError")
    else .error (.raised "ValueError")
  | .str text =>
    match service.intOfText text with
    | some value => .ok value
    | none => .error (.raised "ValueError")
  | .arr _ => .error (.raised "TypeError")
  | .obj _ => .error (.raised "TypeError")

/-- `str(value)` -/
def str : Json → String
  | .null => "None"
  | .bool value => if value then "True" else "False"
  | .int value => toString value
  | .str text => text
  | value => service.strOf value

/-- `str(payload.get(key) or "").strip()` -/
def textField (payload : JsonObject) (key : String) : String :=
  strip (service.str (fieldOr payload key (.str "")))

/-- source `self._keys[self._active_key_id]` -/
def activeKey : List UInt8 := (service.keys.lookup service.activeKeyId).get service.active

/-- The payload of the token of an identity that is issued at an instant. -/
def tokenPayload (identity : RunIdentity) (now : Int) : JsonObject :=
  [("v", .int 2),
   ("kid", .str service.activeKeyId),
   ("conversation_id", .str identity.conversationId),
   ("run_id", .str identity.runId),
   ("execution_thread_id", .str identity.executionThreadId),
   ("checkpoint_namespace", .str identity.checkpointNamespace),
   ("state_schema_version", .int identity.stateSchemaVersion),
   ("request_hash", .str identity.requestHash),
   ("request_hash_version", .int identity.requestHashVersion),
   ("resume_token_version", .int identity.resumeTokenVersion),
   ("iat", .int now),
   ("exp", .int (now + service.ttlSeconds))]

/-- The payload as it is signed. -/
def encodedPayload (identity : RunIdentity) (now : Int) : List Char :=
  Base64.encode (encodeUtf8 ((Json.obj (service.tokenPayload identity now)).dumps service.floatRepr))

/-- source `issue_resume_token` -/
def issueResumeToken (identity : RunIdentity) (now : Int) : String :=
  let payload := service.encodedPayload identity now
  let signature := Base64.encode (service.hmac service.activeKey (asciiBytes payload))
  String.ofList (payload ++ '.' :: signature)

/-- source `_legacy_request_hash`, of a request whose floats are finite -/
def legacyRequestHash (request : ChatRequest) : String :=
  let canonical : Json := .obj
    [("message", .str request.message),
     ("system_prompt", match request.systemPrompt with
      | some prompt => .str prompt
      | none => .null),
     ("metadata", .obj (service.sanitizedMetadata request))]
  service.sha256 (canonical.dumps service.floatRepr)

def tokenInvalid (message : String) : RequestError := .identity .resumeTokenInvalid message

/-- The condition, or else the error. -/
def require (condition : Prop) [Decidable condition] (error : RequestError) : Except RequestError Unit :=
  if condition then .ok () else .error error

lemma require_ok {condition : Prop} [Decidable condition] {error : RequestError} {u : Unit} :
    require condition error = .ok u ↔ condition := by
  rw [require]
  split <;> simp_all

/-- The two parts of a token, up to the first dot and behind it. -/
def splitToken (token : String) : Option (List Char × List Char) :=
  match token.toList.span fun c => c ≠ '.' with
  | (_, []) => none
  | (payload, _ :: signature) => some (payload, signature)

/-- The payload of a token's first part, before its signature is checked. -/
def readPayload (encoded : List Char) : Option Json := do
  let raw ← b64decode encoded
  let text ← decodeUtf8 raw
  Json.parse service.floats text

/-- The keys that a signature can be of: the one that the payload names, or else every one. -/
def candidates (payload : JsonObject) : List (String × List UInt8) :=
  match service.keys.lookup (service.textField payload "kid") with
  | some secret => [(service.textField payload "kid", secret)]
  | none => service.keys

/-- The loop of `_decode_token`: the name of the key that the signature is of. -/
def verifyToken (encoded : List Char) (payload : JsonObject) (signature : List UInt8) :
    Except RequestError (JsonObject × String) :=
  match (service.candidates payload).find? fun key =>
      service.hmac key.2 (asciiBytes encoded) = signature with
  | some (keyId, _) => .ok (payload, keyId)
  | none => .error (tokenInvalid "Resume token signature is invalid")

/-- source `_decode_token` -/
def decodeToken (token : String) : Except RequestError (JsonObject × String) :=
  match splitToken token with
  | none => .error (tokenInvalid "Malformed resume token")
  | some (encoded, encodedSignature) =>
    match service.readPayload encoded, b64decode encodedSignature with
    | some (.obj payload), some signature => service.verifyToken encoded payload signature
    | some _, some _ => .error (tokenInvalid "Resume token payload must be an object")
    | _, _ => .error (tokenInvalid "Malformed resume token")

/-- source `RunIdentity(...)` at the end of `_identity_from_token` -/
def resumedIdentity (conversationId runId executionThreadId requestHash keyId : String)
    (clientSuppliedRunId : Bool) (version : Int) : Except RequestError RunIdentity :=
  if h : (1 ≤ conversationId.length ∧ conversationId.length ≤ 200) ∧ runId.length = 36 ∧
      (1 ≤ executionThreadId.length ∧ executionThreadId.length ≤ 237) ∧ requestHash.length = 64 ∧ 1 ≤ version ∧
      keyId.length ≤ 100 then .ok
    { conversationId := conversationId
      runId := runId
      executionThreadId := executionThreadId
      checkpointNamespace := service.checkpointNamespace
      stateSchemaVersion := service.stateSchemaVersion
      requestHash := requestHash
      requestHashVersion := service.requestHashVersion
      resumeTokenVersion := version.toNat
      resumeTokenKeyId := some keyId
      resumeRequested := true
      resumed := true
      clientSuppliedRunId := clientSuppliedRunId
      conversation_length := h.1
      run_length := h.2.1
      thread_length := h.2.2.1
      namespace_length := service.namespace_length
      schema_version := service.schema_version
      hash_length := h.2.2.2.1
      hash_version := service.hash_version
      token_version := by
        have := h.2.2.2.2.1
        omega
      key_length := by
        rintro key ⟨⟩
        exact h.2.2.2.2.2 }
  else .error (.raised "ValidationError")

/-- The fields of a token that are read with `str`. -/
def textFields : List String :=
  ["conversation_id", "run_id", "execution_thread_id", "checkpoint_namespace", "request_hash"]

/-- source `_identity_from_token`, behind the call of `_decode_token`: `printable` tells the values that `str` gets
    through within the recursion limit, and `legacyHash` is what `_legacy_request_hash` gives -/
def identityFromFields (printable : Json → Bool) (legacyHash : Except RequestError String) (request : ChatRequest)
    (requestHash : String) (now : Int) (payload : JsonObject) (keyId : String) :
    Except RequestError RunIdentity := do
  let format ← service.intOf ((payload.get? "v").getD (.int 0))
  require (format = 1 ∨ format = 2) (tokenInvalid "Unsupported resume token version")
  let expires ← service.intOf (fieldOr payload "exp" (.int 0))
  require (now < expires) (.identity .resumeTokenExpired "The resume token has expired")
  let schemaVersion ← service.intOf (fieldOr payload "state_schema_version" (.int 0))
  require (schemaVersion = service.stateSchemaVersion) (.identity .incompatibleRunState
    "The resumable run uses an incompatible state schema version")
  let hashVersion ← service.intOf (fieldOr payload "request_hash_version" (.int service.requestHashVersion))
  require (format = 2 → hashVersion = service.requestHashVersion) (.identity .incompatibleRunState
    "The resumable run uses an incompatible request hash version")
  require (∀ key ∈ textFields, printable (fieldOr payload key (.str "")) = true) (.raised "RecursionError")
  let conversationId := service.textField payload "conversation_id"
  let runId := service.textField payload "run_id"
  let executionThreadId := service.textField payload "execution_thread_id"
  let checkpointNamespace := service.textField payload "checkpoint_namespace"
  let tokenRequestHash := service.textField payload "request_hash"
  require (conversationId ≠ "" ∧ runId ≠ "" ∧ executionThreadId ≠ "" ∧ checkpointNamespace ≠ "" ∧
    tokenRequestHash ≠ "") (tokenInvalid "Resume token is missing required identity data")
  require ((service.uuidOf runId).isSome = true) (tokenInvalid "run_id must be a valid UUID")
  require (executionThreadId = conversationId ++ ":" ++ runId)
    (tokenInvalid "Resume token execution identity is invalid")
  require (checkpointNamespace = service.checkpointNamespace) (.identity .incompatibleRunState
    "The resumable run uses an incompatible checkpoint namespace")
  let expectedRequestHash ← (if format = 1 then legacyHash else .ok requestHash)
  require (tokenRequestHash = expectedRequestHash)
    (tokenInvalid "The resume token is not valid for this request payload")
  require (∀ id ∈ request.conversation, id = conversationId)
    (tokenInvalid "The resume token does not match the supplied conversation ID")
  require (∀ id ∈ request.runId, id = runId)
    (tokenInvalid "The resume token does not match the supplied run ID")
  let version ← service.intOf (fieldOr payload "resume_token_version" (.int 1))
  service.resumedIdentity conversationId runId executionThreadId requestHash keyId request.runId.isSome version

/-- The same without the limits of an interpreter. -/
def identityFromPayload (request : ChatRequest) (requestHash : String) (now : Int) (payload : JsonObject)
    (keyId : String) : Except RequestError RunIdentity :=
  service.identityFromFields (fun _ => true) (.ok (service.legacyRequestHash request)) request requestHash now
    payload keyId

/-- source `_identity_from_token` -/
def identityFromToken (request : ChatRequest) (requestHash : String) (now : Int) :
    Except RequestError RunIdentity := do
  let (payload, keyId) ← service.decodeToken (request.resumeToken.getD "")
  service.identityFromPayload request requestHash now payload keyId

/-- source `normalize` -/
def normalize (request : ChatRequest) (draws : Draws) (now : Int) : Except RequestError RunIdentity :=
  if request.resume then do
    let requestHash ← service.requestHash request
    service.identityFromToken request requestHash now
  else service.freshIdentity request draws

section Binding

variable {service : TokenService} {request : ChatRequest} {hash token : String} {now : Int}
variable {identity : RunIdentity} {payload : JsonObject} {keyId : String}

/-- What the payload of a token says of its run agrees with the identity, the service and the request. The first
    token format has a hash of its own, whose version nothing reads. -/
structure Bound (service : TokenService) (request : ChatRequest) (hash : String) (now : Int)
    (payload : JsonObject) (identity : RunIdentity) : Prop where
  resumed : identity.resumed = true
  alive : ∃ expires, service.intOf (fieldOr payload "exp" (.int 0)) = .ok expires ∧ now < expires
  conversation : identity.conversationId = service.textField payload "conversation_id"
  run : identity.runId = service.textField payload "run_id"
  thread : identity.executionThreadId = service.textField payload "execution_thread_id"
  checkpoints : identity.checkpointNamespace = service.textField payload "checkpoint_namespace"
  schema : service.intOf (fieldOr payload "state_schema_version" (.int 0)) = .ok identity.stateSchemaVersion
  version : service.intOf (fieldOr payload "resume_token_version" (.int 1)) = .ok identity.resumeTokenVersion
  thread_of : identity.executionThreadId = identity.conversationId ++ ":" ++ identity.runId
  own_checkpoints : identity.checkpointNamespace = service.checkpointNamespace
  own_schema : identity.stateSchemaVersion = service.stateSchemaVersion
  own_hash : identity.requestHash = hash
  own_hash_version : identity.requestHashVersion = service.requestHashVersion
  uuid : (service.uuidOf identity.runId).isSome = true
  hash : (service.intOf ((payload.get? "v").getD (.int 0)) = .ok 2 ∧
      service.intOf (fieldOr payload "request_hash_version" (.int service.requestHashVersion)) =
        .ok service.requestHashVersion ∧
      service.textField payload "request_hash" = hash) ∨
    (service.intOf ((payload.get? "v").getD (.int 0)) = .ok 1 ∧
      service.textField payload "request_hash" = service.legacyRequestHash request)
  conversations : ∀ id ∈ request.conversation, id = identity.conversationId
  runs : ∀ id ∈ request.runId, id = identity.runId

lemma resumedIdentity_ok {conversationId runId executionThreadId requestHash : String} {supplied : Bool}
    {version : Int} (built : service.resumedIdentity conversationId runId executionThreadId requestHash keyId
      supplied version = .ok identity) :
    identity.resumed = true ∧ identity.conversationId = conversationId ∧ identity.runId = runId ∧
      identity.executionThreadId = executionThreadId ∧
      identity.checkpointNamespace = service.checkpointNamespace ∧
      identity.stateSchemaVersion = service.stateSchemaVersion ∧ identity.requestHash = requestHash ∧
      identity.requestHashVersion = service.requestHashVersion ∧
      (identity.resumeTokenVersion : Int) = version ∧ identity.resumeTokenKeyId = some keyId := by
  rw [resumedIdentity] at built
  split at built
  · next valid =>
    cases built
    have positive := valid.2.2.2.2.1
    exact ⟨rfl, rfl, rfl, rfl, rfl, rfl, rfl, rfl, Int.toNat_of_nonneg (by omega), rfl⟩
  · cases built

/-- An identity from a payload is bound to what the payload says. -/
lemma identityFromPayload_bound
    (accepted : service.identityFromPayload request hash now payload keyId = .ok identity) :
    identity.resumeTokenKeyId = some keyId ∧ Bound service request hash now payload identity := by
  simp only [identityFromPayload, identityFromFields, Fallible.bind_eq_ok, require_ok] at accepted
  obtain ⟨format, format_eq, -, known, expires, expires_eq, -, alive, schema, schema_eq, -, own_schema,
    hash_version, hash_version_eq, -, own_version, -, -, -, -, -, uuid, -, thread_of, -, own_namespace, expected,
    expected_eq, -, hash_eq, -, conversations, -, runs, version, version_eq, built⟩ := accepted
  obtain ⟨resumed, conversation, run, thread, namespace_eq, schema', own_hash, own_hash_version, version', key⟩ :=
    resumedIdentity_ok built
  refine ⟨key, ?_⟩
  exact
    { resumed := resumed
      alive := ⟨expires, expires_eq, alive⟩
      conversation := conversation
      run := run
      thread := thread
      checkpoints := namespace_eq.trans own_namespace.symm
      schema := by rw [schema_eq, own_schema, schema']
      version := by rw [version_eq, version']
      thread_of := by rw [thread, conversation, run, thread_of]
      own_checkpoints := namespace_eq
      own_schema := schema'
      own_hash := own_hash
      own_hash_version := own_hash_version
      uuid := by rw [run, uuid]
      hash := by
        obtain rfl | rfl := known
        · cases expected_eq
          exact .inr ⟨format_eq, hash_eq⟩
        · cases expected_eq
          exact .inl ⟨format_eq, by rw [hash_version_eq, own_version rfl], hash_eq⟩
      conversations := fun id given => (conversations id given).trans conversation.symm
      runs := fun id given => (runs id given).trans run.symm }

/-- An identity from a token is bound to what the token says. -/
lemma identityFromToken_bound (accepted : service.identityFromToken request hash now = .ok identity) :
    ∃ payload keyId, service.decodeToken (request.resumeToken.getD "") = .ok (payload, keyId) ∧
      identity.resumeTokenKeyId = some keyId ∧ Bound service request hash now payload identity := by
  rw [identityFromToken, Fallible.bind_eq_ok] at accepted
  obtain ⟨⟨payload, keyId⟩, decoded, accepted⟩ := accepted
  exact ⟨payload, keyId, decoded, identityFromPayload_bound accepted⟩

/-- A token's signature is the one of its first part under the key. -/
def Signs (service : TokenService) (token : String) (segment : List Char) (secret : List UInt8) : Prop :=
  ∃ encodedSignature, token = String.ofList (segment ++ '.' :: encodedSignature) ∧
    b64decode encodedSignature = some (service.hmac secret (asciiBytes segment))

lemma splitToken_some {segment signature : List Char} (parts : splitToken token = some (segment, signature)) :
    token = String.ofList (segment ++ '.' :: signature) := by
  rw [splitToken, List.span_eq_takeWhile_dropWhile] at parts
  split at parts
  · cases parts
  · next first c rest spans =>
    cases parts
    obtain ⟨rfl, behind⟩ := Prod.mk.inj spans
    have dot : c = '.' := by
      have head := List.head?_dropWhile_not (fun c => decide (c ≠ '.')) token.toList
      rw [behind] at head
      simpa using head
    subst dot
    rw [← behind, List.takeWhile_append_dropWhile, String.ofList_toList]

lemma mem_of_lookup {key : String} {secret : List UInt8} {keys : List (String × List UInt8)}
    (found : keys.lookup key = some secret) : (key, secret) ∈ keys := by
  induction keys with
  | nil => cases found
  | cons entry keys ih =>
    rw [List.lookup_cons] at found
    split at found
    · next same =>
      cases found
      rw [eq_of_beq same]
      exact .head _
    · exact .tail _ (ih found)

/-- A signature that is verified is the one under a key, under the one that the payload names if there is such. -/
lemma verifyToken_ok {encoded : List Char} {payload' : JsonObject} {signature : List UInt8}
    (verified : service.verifyToken encoded payload signature = .ok (payload', keyId)) :
    payload' = payload ∧ ∃ secret, service.hmac secret (asciiBytes encoded) = signature ∧
      (keyId, secret) ∈ service.keys ∧
      ∀ named, service.keys.lookup (service.textField payload "kid") = some named →
        keyId = service.textField payload "kid" ∧ secret = named := by
  rw [verifyToken] at verified
  split at verified
  · next key secret found =>
    cases verified
    have same := List.find?_some found
    have candidate := List.mem_of_find?_eq_some found
    refine ⟨rfl, secret, of_decide_eq_true same, ?_⟩
    rw [candidates] at candidate
    split at candidate
    · next named lookup =>
      obtain ⟨rfl, rfl⟩ := Prod.mk.inj (List.mem_singleton.mp candidate)
      refine ⟨mem_of_lookup lookup, ?_⟩
      intro named' lookup'
      exact ⟨rfl, Option.some.inj (lookup.symm.trans lookup')⟩
    · next none =>
      refine ⟨candidate, ?_⟩
      intro named lookup
      cases none.symm.trans lookup
  · cases verified

/-- What is decoded from a token was signed with one of the keys, with the one that it names if there is such. -/
lemma decodeToken_signed (decoded : service.decodeToken token = .ok (payload, keyId)) :
    ∃ segment secret, Signs service token segment secret ∧ service.readPayload segment = some (.obj payload) ∧
      (keyId, secret) ∈ service.keys ∧
      ∀ named, service.keys.lookup (service.textField payload "kid") = some named →
        keyId = service.textField payload "kid" ∧ secret = named := by
  rw [decodeToken] at decoded
  split at decoded
  · cases decoded
  · next encoded encodedSignature parts =>
    split at decoded
    · next _ _ signature read signed =>
      obtain ⟨rfl, secret, rfl, mem, names⟩ := verifyToken_ok decoded
      exact ⟨encoded, secret, ⟨encodedSignature, splitToken_some parts, signed⟩, read, mem, names⟩
    · cases decoded
    · cases decoded

/-- What a resume is given is bound to the payload of its token. -/
lemma resume_bound {draws : Draws} (resumes : request.resume = true)
    (accepted : service.normalize request draws now = .ok identity) :
    ∃ payload keyId hash, service.decodeToken (request.resumeToken.getD "") = .ok (payload, keyId) ∧
      identity.resumeTokenKeyId = some keyId ∧ service.requestHash request = .ok hash ∧
      Bound service request hash now payload identity := by
  rw [normalize, if_pos resumes, Fallible.bind_eq_ok] at accepted
  obtain ⟨hash, hashed, accepted⟩ := accepted
  obtain ⟨payload, keyId, decoded, key, bound⟩ := identityFromToken_bound accepted
  exact ⟨payload, keyId, hash, decoded, key, hashed, bound⟩

end Binding

end TokenService

end AgentRuntime.Orchestration
