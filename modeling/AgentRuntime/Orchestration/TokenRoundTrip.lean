import AgentRuntime.Orchestration.ResumeToken
import AgentRuntime.Orchestration.Revocation

/-!
# Issued tokens are taken back

What becomes of a token that was issued, when a request presents it to the service or to the service after its
keys were rotated. The identity that it was issued for is one that `normalize` gave for a request that passed
validation, so its texts have no blanks at their ends, which is what the reader strips.
-/

namespace AgentRuntime.Orchestration
open State Text Transition

section Encoded

lemma alphabet_plain : ∀ c ∈ Base64.alphabet, c.toNat < 128 ∧ c ≠ '.' ∧ isSpace c = false := by
  have all : (Base64.alphabet.all fun c => decide (c.toNat < 128 ∧ c ≠ '.' ∧ isSpace c = false)) = true := by decide
  simpa only [List.all_eq_true, decide_eq_true_eq] using all

/-- What was encoded is read. -/
lemma b64decode_encode (bytes : List UInt8) : b64decode (Base64.encode bytes) = some bytes := by
  have ascii : ((Base64.encode bytes).all fun c => c.toNat < 128) = true := by
    rw [List.all_eq_true]
    intro c mem
    exact decide_eq_true (alphabet_plain c (Base64.mem_encode mem)).1
  rw [b64decode, if_pos ascii, Base64.decode_encode]

/-- A token is cut at its only dot. -/
lemma splitToken_encode (bytes : List UInt8) (signature : List Char) :
    TokenService.splitToken (String.ofList (Base64.encode bytes ++ '.' :: signature)) =
      some (Base64.encode bytes, signature) := by
  have apart : ∀ c ∈ Base64.encode bytes, (decide (c ≠ '.')) = true := by
    intro c mem
    exact decide_eq_true (alphabet_plain c (Base64.mem_encode mem)).2.1
  rw [TokenService.splitToken, String.toList_ofList, List.span_eq_takeWhile_dropWhile,
    List.takeWhile_append_of_pos apart, List.dropWhile_append_of_pos apart]
  simp

/-- A member of an object whose keys are distinct is what the object has under its key. -/
lemma get?_of_mem {object : JsonObject} {key : String} {value : Json} (mem : (key, value) ∈ object)
    (distinct : (object.map Prod.fst).Nodup) : object.get? key = some value := by
  induction object with
  | nil => cases mem
  | cons field object ih =>
    obtain ⟨k, v⟩ := field
    rw [List.map_cons, List.nodup_cons] at distinct
    rw [JsonObject.get?_cons]
    cases mem with
    | head => rw [if_pos rfl]
    | tail _ mem =>
      rw [if_neg, ih mem distinct.2]
      intro same
      apply distinct.1
      rw [← same]
      exact List.mem_map.mpr ⟨(key, value), mem, rfl⟩

end Encoded

namespace TokenService

variable {service service' : TokenService} {identity resumed : RunIdentity} {now later : Int}

section Payload

/-- The payload of an issued token as it is read back: with its members by key. -/
def readBack (service : TokenService) (identity : RunIdentity) (now : Int) : JsonObject :=
  (service.tokenPayload identity now).mergeSort memberLe

lemma tokenPayload_keys : ((service.tokenPayload identity now).map Prod.fst).Nodup := by
  show ["v", "kid", "conversation_id", "run_id", "execution_thread_id", "checkpoint_namespace",
    "state_schema_version", "request_hash", "request_hash_version", "resume_token_version", "iat", "exp"].Nodup
  decide

lemma tokenPayload_valid : (Json.obj (service.tokenPayload identity now)).Valid := by
  refine .obj tokenPayload_keys ?_
  simp only [tokenPayload, List.forall_mem_cons]
  exact ⟨.int, .str, .str, .str, .str, .str, .int, .str, .int, .int, .int, .int, List.forall_mem_nil _⟩

lemma tokenPayload_sorted :
    (Json.obj (service.tokenPayload identity now)).sorted = .obj (service.readBack identity now) := by
  rw [sorted_obj]
  rfl

lemma readBack_valid : (Json.obj (service.readBack identity now)).Valid := by
  rw [← tokenPayload_sorted]
  exact tokenPayload_valid.sorted

/-- The text that is signed is the one of the payload with its members by key. -/
lemma dumps_payload : (Json.obj (service.tokenPayload identity now)).dumps service.floatRepr =
    (Json.obj (service.readBack identity now)).text service.floats .compact := by
  rw [← service.floats_repr, dumps_sorted, tokenPayload_sorted]

/-- The signed payload is read back. -/
lemma readPayload_encoded (floats : service'.floats = service.floats) :
    service'.readPayload (service.encodedPayload identity now) = some (.obj (service.readBack identity now)) := by
  rw [readPayload, encodedPayload, b64decode_encode, Option.bind_eq_bind, Option.bind_some, decodeUtf8_encodeUtf8,
    Option.bind_eq_bind, Option.bind_some, dumps_payload, floats, parse_text service.floats .compact readBack_valid]

/-- A field of the payload is read as it was written. -/
lemma get?_readBack {key : String} {value : Json} (mem : (key, value) ∈ service.tokenPayload identity now) :
    (service.readBack identity now).get? key = some value := by
  have perm : (service.readBack identity now).Perm (service.tokenPayload identity now) := List.mergeSort_perm _ _
  apply get?_of_mem (perm.mem_iff.mpr mem)
  rw [(perm.map Prod.fst).nodup_iff]
  exact tokenPayload_keys

end Payload

section Fields

variable {key text : String}

lemma textField_issued (mem : (key, .str text) ∈ service.tokenPayload identity now) :
    service'.textField (service.readBack identity now) key = strip text := by
  rw [textField, fieldOr, get?_readBack mem]
  by_cases filled : text = ""
  · simp [Json.truthy, filled, str]
  · simp [Json.truthy, filled, str]

/-- A number that is not zero is read, whatever stands in for a zero. -/
lemma intOf_issued {n : Nat} (mem : (key, .int n) ∈ service.tokenPayload identity now) (positive : 1 ≤ n)
    (default : Json) : service'.intOf (fieldOr (service.readBack identity now) key default) = .ok (n : Int) := by
  have truthy : (Json.int n).truthy = true := by
    simp only [Json.truthy, decide_eq_true_eq]
    omega
  rw [fieldOr, get?_readBack mem]
  simp only [truthy, if_true]
  rfl

lemma expires_issued : service'.intOf (fieldOr (service.readBack identity now) "exp" (.int 0)) =
    .ok (now + service.ttlSeconds) := by
  have expires : (service.readBack identity now).get? "exp" = some (.int (now + service.ttlSeconds)) :=
    get?_readBack (by simp [tokenPayload])
  rw [fieldOr, expires]
  by_cases zero : now + service.ttlSeconds = 0
  · simp [Json.truthy, zero, intOf]
  · simp [Json.truthy, zero, intOf]

lemma format_issued : service'.intOf (((service.readBack identity now).get? "v").getD (.int 0)) = .ok 2 := by
  have format : (service.readBack identity now).get? "v" = some (.int 2) := get?_readBack (by simp [tokenPayload])
  rw [format]
  rfl

end Fields

section Held

/-- What is known of an identity that `normalize` gave. -/
structure Held (service : TokenService) (identity : RunIdentity) : Prop where
  conversation : strip identity.conversationId = identity.conversationId
  run : strip identity.runId = identity.runId
  uuid : (service.uuidOf identity.runId).isSome = true
  thread : identity.executionThreadId = identity.conversationId ++ ":" ++ identity.runId
  checkpoints : identity.checkpointNamespace = service.checkpointNamespace
  schema : identity.stateSchemaVersion = service.stateSchemaVersion
  hash : strip identity.requestHash = identity.requestHash
  hash_version : identity.requestHashVersion = service.requestHashVersion

/-- No text of the identity is empty. -/
lemma Held.filled (held : Held service identity) : identity.conversationId ≠ "" ∧ identity.runId ≠ "" ∧
    identity.conversationId ++ ":" ++ identity.runId ≠ "" ∧ service.checkpointNamespace ≠ "" ∧
    identity.requestHash ≠ "" := by
  have nonempty {text : String} (length : 1 ≤ text.length) : text ≠ "" := by
    rintro rfl
    cases length
  have run := identity.run_length
  have hash := identity.hash_length
  rw [← held.thread]
  exact ⟨nonempty identity.conversation_length.1, nonempty (by omega), nonempty identity.thread_length.1,
    nonempty service.namespace_length.1, nonempty (by omega)⟩

lemma requestHash_solid {request : ChatRequest} {hash : String} (hashed : service.requestHash request = .ok hash) :
    strip hash = hash := by
  rw [RunIdentityService.requestHash, Fallible.bind_eq_ok] at hashed
  obtain ⟨metadata, -, hashed⟩ := hashed
  cases hashed
  exact strip_solid (service.sha256_solid _)

variable {raw : RawChatRequest} {request : ChatRequest} {draws : Draws}

lemma freshIdentity_held (validated : raw.validate service.uuidOf = some request)
    (fresh : service.freshIdentity request draws = .ok identity) : Held service identity := by
  rw [RunIdentityService.freshIdentity] at fresh
  split at fresh
  · cases fresh
  · next hash hashed =>
    cases fresh
    have canonical : canonicalUuid (RunIdentityService.runOf request draws) = true := by
      rw [RunIdentityService.runOf]
      cases given : request.runId with
      | some id => exact request.run_valid id given
      | none => exact draws.run.property
    refine ⟨?_, strip_solid (canonicalUuid_solid canonical), ?_, rfl, rfl, rfl, requestHash_solid hashed, rfl⟩
    · show strip (RunIdentityService.conversationOf request draws) = RunIdentityService.conversationOf request draws
      rw [RunIdentityService.conversationOf]
      cases named : request.conversation with
      | some id => exact RawChatRequest.validate_conversation validated id named
      | none => exact strip_solid (canonicalUuid_solid draws.conversation.property)
    · show (service.uuidOf (RunIdentityService.runOf request draws)).isSome = true
      rw [service.uuidOf_canonical ⟨_, canonical⟩]
      rfl

lemma Bound.held {hash : String} {payload : JsonObject} (bound : Bound service request hash now payload identity)
    (hashed : service.requestHash request = .ok hash) : Held service identity where
  conversation := by rw [bound.conversation, textField, strip_strip]
  run := by rw [bound.run, textField, strip_strip]
  uuid := bound.uuid
  thread := bound.thread_of
  checkpoints := bound.own_checkpoints
  schema := bound.own_schema
  hash := by rw [bound.own_hash, requestHash_solid hashed]
  hash_version := bound.own_hash_version

lemma normalize_fresh (fresh : request.resume = false) :
    service.normalize request draws now = service.freshIdentity request draws := by
  rw [normalize, fresh]
  simp only [Bool.false_eq_true, if_false]

/-- What `normalize` gives for a request that passed validation. -/
lemma normalize_held (validated : raw.validate service.uuidOf = some request)
    (normalized : service.normalize request draws now = .ok identity) : Held service identity := by
  cases resumes : request.resume with
  | true =>
    obtain ⟨payload, keyId, hash, -, -, hashed, bound⟩ := resume_bound resumes normalized
    exact bound.held hashed
  | false =>
    rw [normalize_fresh resumes] at normalized
    exact freshIdentity_held validated normalized

end Held

section Rotation

/-- The service after its keys were rotated: the key that was active is kept under its name, and nothing else that
    a token depends on has changed. -/
structure Rotated (service service' : TokenService) : Prop where
  kept : service'.keys.lookup service.activeKeyId = some service.activeKey
  hmac : service'.hmac = service.hmac
  floats : service'.floats = service.floats
  uuidOf : service'.uuidOf = service.uuidOf
  checkpoints : service'.checkpointNamespace = service.checkpointNamespace
  schema : service'.stateSchemaVersion = service.stateSchemaVersion
  hash_version : service'.requestHashVersion = service.requestHashVersion
  requestHash : service'.requestHash = service.requestHash

/-- A service that has not changed is one after a rotation. -/
lemma Rotated.refl (service : TokenService) : service.Rotated service where
  kept := (Option.some_get service.active).symm
  hmac := rfl
  floats := rfl
  uuidOf := rfl
  checkpoints := rfl
  schema := rfl
  hash_version := rfl
  requestHash := rfl

/-- The identity is the one that a token was issued for, as the identity of a resume. -/
structure Resumes (identity resumed : RunIdentity) : Prop where
  flagged : resumed.resumed = true
  conversation : resumed.conversationId = identity.conversationId
  run : resumed.runId = identity.runId
  thread : resumed.executionThreadId = identity.executionThreadId
  checkpoints : resumed.checkpointNamespace = identity.checkpointNamespace
  schema : resumed.stateSchemaVersion = identity.stateSchemaVersion
  hash : resumed.requestHash = identity.requestHash
  version : resumed.resumeTokenVersion = identity.resumeTokenVersion

variable {request : ChatRequest} {draws : Draws} {hash : String}

lemma splitToken_issued : splitToken (service.issueResumeToken identity now) =
    some (service.encodedPayload identity now,
      Base64.encode (service.hmac service.activeKey (asciiBytes (service.encodedPayload identity now)))) :=
  splitToken_encode _ _

/-- A token that was issued is decoded to its payload and the name of the key that signed it. -/
lemma decodeToken_issued (rotated : Rotated service service') :
    service'.decodeToken (service.issueResumeToken identity now) =
      .ok (service.readBack identity now, service.activeKeyId) := by
  have named : service'.textField (service.readBack identity now) "kid" = strip service.activeKeyId :=
    textField_issued (by simp [tokenPayload])
  rw [service.active_stripped] at named
  have candidates : service'.candidates (service.readBack identity now) =
      [(service.activeKeyId, service.activeKey)] := by
    rw [TokenService.candidates, named, rotated.kept]
  simp only [decodeToken, splitToken_issued, readPayload_encoded rotated.floats, b64decode_encode, verifyToken,
    candidates, rotated.hmac, List.find?_cons, decide_true]

/-- What the texts of an issued token are read as. -/
lemma texts_issued (held : Held service identity) : let payload := service.readBack identity now
    service'.textField payload "conversation_id" = identity.conversationId ∧
    service'.textField payload "run_id" = identity.runId ∧
    service'.textField payload "execution_thread_id" = identity.conversationId ++ ":" ++ identity.runId ∧
    service'.textField payload "checkpoint_namespace" = strip service.checkpointNamespace ∧
    service'.textField payload "request_hash" = identity.requestHash := by
  have conversation : service'.textField (service.readBack identity now) "conversation_id" =
      strip identity.conversationId := textField_issued (by simp [tokenPayload])
  have run : service'.textField (service.readBack identity now) "run_id" = strip identity.runId :=
    textField_issued (by simp [tokenPayload])
  have thread : service'.textField (service.readBack identity now) "execution_thread_id" =
      strip identity.executionThreadId := textField_issued (by simp [tokenPayload])
  have checkpoints : service'.textField (service.readBack identity now) "checkpoint_namespace" =
      strip identity.checkpointNamespace := textField_issued (by simp [tokenPayload])
  have hash : service'.textField (service.readBack identity now) "request_hash" = strip identity.requestHash :=
    textField_issued (by simp [tokenPayload])
  obtain ⟨filled, filled', -⟩ := held.filled
  refine ⟨?_, ?_, ?_, ?_, ?_⟩
  · rw [conversation, held.conversation]
  · rw [run, held.run]
  · rw [thread, held.thread]
    exact strip_append held.conversation held.run ":" filled filled'
  · rw [checkpoints, held.checkpoints]
  · rw [hash, held.hash]

/-- What a resume with an issued token is given, and on what conditions. -/
lemma identityFromToken_issued (rotated : Rotated service service') (held : Held service identity)
    (presents : request.resumeToken = some (service.issueResumeToken identity now))
    (accepted : service'.identityFromToken request hash later = .ok resumed) :
    Resumes identity resumed ∧ later < now + service.ttlSeconds ∧
      strip service.checkpointNamespace = service.checkpointNamespace ∧ hash = identity.requestHash ∧
      (∀ id ∈ request.conversation, id = identity.conversationId) ∧ ∀ id ∈ request.runId, id = identity.runId := by
  obtain ⟨payload, keyId, decoded, -, bound⟩ := identityFromToken_bound accepted
  rw [presents, Option.getD_some, decodeToken_issued rotated] at decoded
  cases decoded
  obtain ⟨conversation, run, thread, checkpoints, own_hash⟩ := @texts_issued service service' identity now held
  have conversation := bound.conversation.trans conversation
  have run := bound.run.trans run
  have checkpoints := bound.checkpoints.trans checkpoints
  have hash_eq : hash = identity.requestHash := by
    obtain ⟨-, -, same⟩ | ⟨format, -⟩ := bound.hash
    · rw [← same, own_hash]
    · rw [format_issued] at format
      cases format
  have version : resumed.resumeTokenVersion = identity.resumeTokenVersion := by
    have read : service'.intOf (fieldOr (service.readBack identity now) "resume_token_version" (.int 1)) =
        .ok (identity.resumeTokenVersion : Int) := intOf_issued (by simp [tokenPayload]) identity.token_version _
    have same := bound.version.symm.trans read
    injection same with same
    exact Int.ofNat.inj same
  have alive : later < now + service.ttlSeconds := by
    obtain ⟨expires, read, alive⟩ := bound.alive
    rw [expires_issued] at read
    cases read
    exact alive
  have stripped : strip service.checkpointNamespace = service.checkpointNamespace := by
    -- the text that was read is stripped, the setting that it is compared with is not
    rw [← checkpoints, bound.own_checkpoints, rotated.checkpoints]
  refine ⟨⟨bound.resumed, conversation, run, ?_, ?_, ?_, ?_, version⟩, alive, stripped, hash_eq, ?_, ?_⟩
  · rw [bound.thread_of, conversation, run, held.thread]
  · rw [checkpoints, stripped, held.checkpoints]
  · rw [bound.own_schema, rotated.schema, held.schema]
  · rw [bound.own_hash, hash_eq]
  · rw [← conversation]
    exact bound.conversations
  · rw [← run]
    exact bound.runs

/-- On these conditions it is given. -/
lemma identityFromToken_gives (rotated : Rotated service service') (held : Held service identity)
    (presents : request.resumeToken = some (service.issueResumeToken identity now))
    (alive : later < now + service.ttlSeconds)
    (stripped : strip service.checkpointNamespace = service.checkpointNamespace)
    (hash_eq : hash = identity.requestHash)
    (conversations : ∀ id ∈ request.conversation, id = identity.conversationId)
    (runs : ∀ id ∈ request.runId, id = identity.runId) :
    ∃ resumed, service'.identityFromToken request hash later = .ok resumed := by
  obtain ⟨conversation, run, thread, checkpoints, own_hash⟩ := @texts_issued service service' identity now held
  have schema : service'.intOf (fieldOr (service.readBack identity now) "state_schema_version" (.int 0)) =
      .ok (identity.stateSchemaVersion : Int) := intOf_issued (by simp [tokenPayload]) identity.schema_version _
  have hash_version : service'.intOf (fieldOr (service.readBack identity now) "request_hash_version"
      (.int service'.requestHashVersion)) = .ok (identity.requestHashVersion : Int) :=
    intOf_issued (by simp [tokenPayload]) identity.hash_version.1 _
  have version : service'.intOf (fieldOr (service.readBack identity now) "resume_token_version" (.int 1)) =
      .ok (identity.resumeTokenVersion : Int) := intOf_issued (by simp [tokenPayload]) identity.token_version _
  have bounds : (1 ≤ identity.conversationId.length ∧ identity.conversationId.length ≤ 200) ∧
      identity.runId.length = 36 ∧
      (1 ≤ (identity.conversationId ++ ":" ++ identity.runId).length ∧
        (identity.conversationId ++ ":" ++ identity.runId).length ≤ 237) ∧
      hash.length = 64 ∧ 1 ≤ (identity.resumeTokenVersion : Int) ∧ service.activeKeyId.length ≤ 100 := by
    rw [← held.thread, hash_eq]
    exact ⟨identity.conversation_length, identity.run_length, identity.thread_length, identity.hash_length,
      Int.ofNat_le.mpr identity.token_version, service.key_length⟩
  obtain ⟨resumed, built⟩ : ∃ resumed, service'.resumedIdentity identity.conversationId identity.runId
      (identity.conversationId ++ ":" ++ identity.runId) hash service.activeKeyId request.runId.isSome
      identity.resumeTokenVersion = .ok resumed := ⟨_, dif_pos bounds⟩
  refine ⟨resumed, ?_⟩
  rw [identityFromToken, presents, Option.getD_some, decodeToken_issued rotated, Fallible.bind_eq_ok]
  refine ⟨(service.readBack identity now, service.activeKeyId), rfl, ?_⟩
  simp only [identityFromPayload, identityFromFields, Fallible.bind_eq_ok, require_ok]
  -- the checks in the order in which they are made
  refine ⟨2, format_issued, (), .inr rfl, _, expires_issued, (), alive, _, schema, (), ?_, _, hash_version, (),
    ?_, (), fun _ _ => trivial, (), ?_, (), ?_, (), ?_, (), ?_, hash, rfl, (), ?_, (), ?_, (), ?_, _, version, ?_⟩
  · rw [held.schema, rotated.schema]
  · intro
    rw [held.hash_version, rotated.hash_version]
  · rw [conversation, run, thread, checkpoints, own_hash, stripped]
    exact held.filled
  · rw [run, rotated.uuidOf, held.uuid]
  · rw [thread, conversation, run]
  · rw [checkpoints, stripped, rotated.checkpoints]
  · rw [own_hash, hash_eq]
  · rwa [conversation]
  · rwa [run]
  · rwa [conversation, run, thread]

end Rotation

section Resume

variable {raw raw' : RawChatRequest} {origin request : ChatRequest} {draws draws' : Draws} {earlier : Int}

/-- A token that was issued is taken exactly until it expires, by a request with the payload that it was issued
    for and with no other identifiers, if the namespace has no blanks at its ends; and the run is the one that it
    was issued for. -/
theorem issued_accepted_iff (rotated : Rotated service service')
    (validated : raw.validate service.uuidOf = some origin)
    (normalized : service.normalize origin draws earlier = .ok identity)
    (presents : request.resumeToken = some (service.issueResumeToken identity now)) :
    ((∃ resumed, service'.normalize request draws' later = .ok resumed) ↔
      later < now + service.ttlSeconds ∧ strip service.checkpointNamespace = service.checkpointNamespace ∧
      service'.requestHash request = .ok identity.requestHash ∧
      (∀ id ∈ request.conversation, id = identity.conversationId) ∧ ∀ id ∈ request.runId, id = identity.runId) ∧
    ∀ resumed, service'.normalize request draws' later = .ok resumed → Resumes identity resumed := by
  have held := normalize_held validated normalized
  have resumes : request.resume = true := by
    rw [request.resume_token, presents]
    rfl
  simp only [normalize, if_pos resumes, Fallible.bind_eq_ok]
  refine ⟨⟨?_, ?_⟩, ?_⟩
  · rintro ⟨resumed, hash, hashed, accepted⟩
    obtain ⟨-, alive, stripped, rfl, conversations, runs⟩ := identityFromToken_issued rotated held presents accepted
    exact ⟨alive, stripped, hashed, conversations, runs⟩
  · rintro ⟨alive, stripped, hashed, conversations, runs⟩
    obtain ⟨resumed, accepted⟩ :=
      identityFromToken_gives rotated held presents alive stripped rfl conversations runs
    exact ⟨resumed, _, hashed, accepted⟩
  · rintro resumed ⟨hash, -, accepted⟩
    exact (identityFromToken_issued rotated held presents accepted).1

end Resume

section Binding

variable {request : ChatRequest} {draws : Draws}

/-- A resume is given the identity of a run only by a token whose signature is the one of its payload under one of
    the keys, under the one that the payload names if there is such; and then everything that the payload says
    agrees with the identity, the service and the request. -/
theorem token_binds (resumes : request.resume = true)
    (accepted : service.normalize request draws now = .ok identity) :
    ∃ segment payload keyId secret hash, Signs service (request.resumeToken.getD "") segment secret ∧
      service.readPayload segment = some (.obj payload) ∧
      (keyId, secret) ∈ service.keys ∧ identity.resumeTokenKeyId = some keyId ∧
      (∀ named, service.keys.lookup (service.textField payload "kid") = some named →
        keyId = service.textField payload "kid" ∧ secret = named) ∧
      service.requestHash request = .ok hash ∧ Bound service request hash now payload identity := by
  obtain ⟨payload, keyId, hash, decoded, key, hashed, bound⟩ := resume_bound resumes accepted
  obtain ⟨segment, secret, signs, read, mem, names⟩ := decodeToken_signed decoded
  exact ⟨segment, payload, keyId, secret, hash, signs, read, mem, key, names, hashed, bound⟩

end Binding

section Admission

variable {agent : ChatRuntimeAgent} {s : Server agent} {request : ChatRequest} {draws : Draws}

/-- The token is signed with one of the keys only if the server has issued it. -/
def Unforged (service : TokenService) (s : Server agent) (token : String) : Prop :=
  ∀ segment keyId secret, (keyId, secret) ∈ service.keys → Signs service token segment secret →
    ∃ identity now, Held service identity ∧ issuedFor identity ∈ s.issued ∧
      segment = service.encodedPayload identity now

/-- What `normalize` gives is admitted by the server, as long as no token is forged. -/
theorem normalize_admitted (unforged : ∀ token ∈ request.resumeToken, Unforged service s token)
    (normalized : service.normalize request draws later = .ok resumed) : s.Admitted resumed := by
  rw [Server.Admitted]
  cases presents : request.resumeToken with
  | some token =>
    have resumes : request.resume = true := by
      rw [request.resume_token, presents]
      rfl
    obtain ⟨payload, keyId, hash, decoded, -, -, bound⟩ := resume_bound resumes normalized
    rw [presents, Option.getD_some] at decoded
    obtain ⟨segment, secret, signs, read, mem, -⟩ := decodeToken_signed decoded
    obtain ⟨identity, now, held, issued, rfl⟩ := unforged token presents _ _ _ mem signs
    rw [readPayload_encoded rfl] at read
    cases read
    obtain ⟨-, run, -⟩ := @texts_issued service service identity now held
    have version : service.intOf (fieldOr (service.readBack identity now) "resume_token_version" (.int 1)) =
        .ok (identity.resumeTokenVersion : Int) := intOf_issued (by simp [tokenPayload]) identity.token_version _
    have same := bound.version.symm.trans version
    injection same with same
    rw [if_pos bound.resumed, issuedFor, bound.run, run, Int.ofNat.inj same]
    exact issued
  | none =>
    have fresh : request.resume = false := by
      rw [request.resume_token, presents]
      rfl
    rw [normalize_fresh fresh, RunIdentityService.freshIdentity] at normalized
    split at normalized
    · cases normalized
    · cases normalized
      rfl

variable {requests : Nat → Request} {final : Server agent} {clock : Time} {e : Event (Server agent) Act}
variable {before after : List (Event (Server agent) Act)} {raw : RawChatRequest} {origin : ChatRequest}
variable {draws' : Draws} {earlier : Int}

/-- The text of a token that was issued is of no use to anybody once a revocation of its run's tokens has taken
    effect: whatever request presents it, and whenever, it is refused or its identity does not pass. -/
theorem revoked_token_refused (rotated : Rotated service service')
    (validated : raw.validate service.uuidOf = some origin)
    (normalized : service.normalize origin draws earlier = .ok identity)
    (run : Run (Server.Step requests) (.start agent clock) (before ++ e :: after) final)
    (issued : e.pre.issues requests e.label = some (issuedFor identity))
    (revoked : ∃ e' ∈ after, Server.revokes identity.runId e' = true)
    (presents : request.resumeToken = some (service.issueResumeToken identity now))
    (accepted : service'.normalize request draws' later = .ok resumed) : ¬ final.Passes resumed := by
  obtain ⟨flagged, -, same_run, -, -, -, -, version⟩ :=
    (issued_accepted_iff rotated validated normalized presents).2 resumed accepted
  have same : issuedFor identity = issuedFor resumed := by rw [issuedFor, issuedFor, same_run, version]
  rw [← same_run] at revoked
  exact Server.revoked_stays_refused run flagged (issued.trans (congrArg some same)) revoked

end Admission

end TokenService

section Samples

/-- The canonical request of the examples. -/
def sampleHelloCanonical : Json :=
  .obj [("version", .int 1), ("message", .str "hello"), ("system_prompt", .null), ("metadata", .obj [])]

/-- The payload of the token of the examples. -/
def samplePayload : JsonObject :=
  [("v", .int 2),
   ("kid", .str "primary"),
   ("conversation_id", .str "support"),
   ("run_id", .str "11111111-1111-4111-8111-111111111111"),
   ("execution_thread_id", .str "support:11111111-1111-4111-8111-111111111111"),
   ("checkpoint_namespace", .str "execution-state-v1"),
   ("state_schema_version", .int 1),
   ("request_hash", .str "c58ec20d20582b539de86dbbdcb1654d1afad54aca9f0d7e3f0d0d06743fdc61"),
   ("request_hash_version", .int 1),
   ("resume_token_version", .int 1),
   ("iat", .int 1700000000),
   ("exp", .int 1700003600)]

/-- The members of the text that is signed in the examples. -/
def sampleMembers : List String :=
  ["\"checkpoint_namespace\":\"execution-state-v1\"",
   "\"conversation_id\":\"support\"",
   "\"execution_thread_id\":\"support:11111111-1111-4111-8111-111111111111\"",
   "\"exp\":1700003600",
   "\"iat\":1700000000",
   "\"kid\":\"primary\"",
   "\"request_hash\":\"c58ec20d20582b539de86dbbdcb1654d1afad54aca9f0d7e3f0d0d06743fdc61\"",
   "\"request_hash_version\":1",
   "\"resume_token_version\":1",
   "\"run_id\":\"11111111-1111-4111-8111-111111111111\"",
   "\"state_schema_version\":1",
   "\"v\":2"]

/-- The text that is signed in the examples. -/
def sampleText : String := "\x7b" ++ ",".intercalate sampleMembers ++ "\x7d"

/-- A member of the payload of the examples. -/
def sampleMember (key : String) : String × Json := (key, (samplePayload.get? key).getD .null)

/-- The payload of the examples with its members by key. -/
def sampleSorted : JsonObject :=
  ["checkpoint_namespace", "conversation_id", "execution_thread_id", "exp", "iat", "kid", "request_hash",
    "request_hash_version", "resume_token_version", "run_id", "state_schema_version", "v"].map sampleMember

lemma sample_sorted : samplePayload.mergeSort memberLe = sampleSorted := by
  have members : samplePayload = ["v", "kid", "conversation_id", "run_id", "execution_thread_id",
      "checkpoint_namespace", "state_schema_version", "request_hash", "request_hash_version",
      "resume_token_version", "iat", "exp"].map sampleMember := rfl
  have perm : samplePayload.Perm sampleSorted := by
    rw [members, sampleSorted]
    exact List.Perm.map _ (by decide)
  rw [sort_members perm (by decide), List.mergeSort_of_pairwise]
  rw [sampleSorted, List.pairwise_map]
  decide

/-- The payload is signed with its members by key. -/
lemma sample_dumps : (Json.obj samplePayload).dumps sampleFloats.repr = sampleText := by
  rw [dumps_obj, sample_sorted, sampleText]
  have written : sampleSorted.map (fun field => quote field.1 ++ ":" ++ field.2.dumps sampleFloats.repr) =
      sampleMembers := by
    decide +kernel
  rw [written]

/-- The hash of the request of the examples. -/
def sampleDigest : String := "c58ec20d20582b539de86dbbdcb1654d1afad54aca9f0d7e3f0d0d06743fdc61"

/-- HMAC-SHA256 of the payload of the examples. -/
def sampleSignature : List UInt8 :=
  [175, 46, 183, 210, 15, 41, 176, 102, 22, 162, 216, 0, 49, 154, 60, 16, 167, 35, 216, 126, 97, 237, 24, 171, 226,
    6, 154, 24, 246, 147, 144, 36]

def sampleSha256 (text : String) : String :=
  if text = requestHashDomain ++ sampleHelloCanonical.dumps sampleFloats.repr then sampleDigest
  else String.ofList (List.replicate 64 '0')

lemma sampleSha256_length (text : String) : (sampleSha256 text).length = 64 := by
  rw [sampleSha256]
  split
  · decide
  · rw [String.length_ofList, List.length_replicate]

lemma sampleSha256_solid (text : String) : ∀ c ∈ (sampleSha256 text).toList, isSpace c = false := by
  have zero : isSpace '0' = false := by decide
  rw [sampleSha256]
  split
  · have all : (sampleDigest.toList.all fun c => !isSpace c) = true := by decide
    simpa only [List.all_eq_true, Bool.not_eq_true'] using all
  · rw [String.toList_ofList]
    intro c mem
    rw [List.eq_of_mem_replicate mem, zero]

/-- `UUID`, of the texts that `str` of a UUID gives. -/
def sampleUuidOf (text : String) : Option Uuid :=
  if canonical : canonicalUuid text = true then some ⟨text, canonical⟩ else none

lemma sampleUuidOf_canonical (uuid : Uuid) : sampleUuidOf uuid.val = some uuid := by
  rw [sampleUuidOf, dif_pos uuid.property]

lemma sample_namespace_length : 1 ≤ "execution-state-v1".length ∧ "execution-state-v1".length ≤ 100 := by
  decide

lemma primary_length : "primary".length ≤ 100 := by decide

lemma primary_filled : "primary" ≠ "" := by decide

lemma primary_stripped : strip "primary" = "primary" := by decide

lemma primary_active : ([("primary", encodeUtf8 "test-secret")].lookup "primary").isSome = true := by decide

/-- HMAC-SHA256, at the payload of the examples. -/
def sampleHmac (key message : List UInt8) : List UInt8 :=
  if key = encodeUtf8 "test-secret" ∧ message = asciiBytes (Base64.encode (encodeUtf8 sampleText)) then
    sampleSignature
  else List.replicate 32 0

lemma sampleHmac_signs {key message : List UInt8} (secret : key = encodeUtf8 "test-secret")
    (signed : message = asciiBytes (Base64.encode (encodeUtf8 sampleText))) :
    sampleHmac key message = sampleSignature := by
  rw [sampleHmac, if_pos ⟨secret, signed⟩]

/-- A service with one key. -/
def sampleTokens : TokenService where
  checkpointNamespace := "execution-state-v1"
  stateSchemaVersion := 1
  requestHashVersion := 1
  activeKeyId := "primary"
  nfc := id
  lower text := String.ofList (text.toList.map Char.toLower)
  floatRepr := sampleFloats.repr
  sha256 := sampleSha256
  namespace_length := sample_namespace_length
  schema_version := State.firstVersion
  hash_version := State.firstHashVersion
  key_length := primary_length
  sha256_length := sampleSha256_length
  ttlSeconds := 3600
  keys := [("primary", encodeUtf8 "test-secret")]
  hmac := sampleHmac
  floats := sampleFloats
  intOfText _ := none
  strOf _ := ""
  uuidOf := sampleUuidOf
  active := primary_active
  active_filled := primary_filled
  active_stripped := primary_stripped
  floats_repr := rfl
  uuidOf_canonical := sampleUuidOf_canonical
  sha256_solid := sampleSha256_solid

lemma next_length : "next".length ≤ 100 := by decide

lemma next_filled : "next" ≠ "" := by decide

lemma next_stripped : strip "next" = "next" := by decide

lemma next_active : ([("next", encodeUtf8 "new-secret"), ("primary", encodeUtf8 "test-secret")].lookup
    "next").isSome = true := by
  decide

/-- The service after a second key was made the active one. -/
def sampleRotated : TokenService :=
  { sampleTokens with
    activeKeyId := "next"
    keys := [("next", encodeUtf8 "new-secret"), ("primary", encodeUtf8 "test-secret")]
    key_length := next_length
    active := next_active
    active_filled := next_filled
    active_stripped := next_stripped }

lemma sample_rotated : sampleTokens.Rotated sampleRotated where
  kept := by decide
  hmac := rfl
  floats := rfl
  uuidOf := rfl
  checkpoints := rfl
  schema := rfl
  hash_version := rfl
  requestHash := rfl

/-- The first request of the examples, and the one that resumes its run. -/
def sampleSent : RawChatRequest where
  message := "hello"
  conversationId := some "support"
  runId := some "11111111-1111-4111-8111-111111111111"

lemma sampleSent_accepted : sampleSent.Accepted := by decide

lemma sampleUuid_canonical : canonicalUuid "11111111-1111-4111-8111-111111111111" = true := by decide

def sampleUuid : Uuid := ⟨"11111111-1111-4111-8111-111111111111", sampleUuid_canonical⟩

def sampleOrigin : ChatRequest := sampleSent_accepted.request (some sampleUuid)

lemma sample_named : sampleSent.run sampleUuidOf = some (some sampleUuid) := by
  have kept : normalizeOptionalText sampleSent.runId = some sampleUuid.val := by decide
  rw [RawChatRequest.run, kept]
  exact congrArg (Option.map some) (sampleUuidOf_canonical sampleUuid)

lemma sample_validated : sampleSent.validate sampleTokens.uuidOf = some sampleOrigin :=
  RawChatRequest.validate_eq_some.mpr ⟨some sampleUuid, sampleSent_accepted, sample_named, rfl⟩

lemma sample_hashed : sampleTokens.requestHash sampleOrigin = .ok sampleDigest := by
  have digest : sampleTokens.sha256 (requestHashDomain ++ sampleHelloCanonical.dumps sampleFloats.repr) =
      sampleDigest := if_pos rfl
  rw [← digest]
  rfl

lemma sampleDigest_length : sampleDigest.length = 64 := by decide

lemma samplePrimary_length : ∀ key ∈ some "primary", key.length ≤ 100 := by
  rintro _ ⟨⟩
  exact primary_length

/-- The identity of the first request of the examples. -/
def sampleIssued : RunIdentity :=
  { sampleIdentity "11111111-1111-4111-8111-111111111111" sampleRun_length with
    checkpointNamespace := "execution-state-v1"
    requestHash := sampleDigest
    resumeTokenKeyId := some "primary"
    namespace_length := sample_namespace_length
    hash_length := sampleDigest_length
    key_length := samplePrimary_length }

def sampleDraws : Draws where
  conversation := sampleUuid
  run := sampleUuid

lemma sample_normalized : sampleTokens.normalize sampleOrigin sampleDraws 1700000000 = .ok sampleIssued := by
  have fresh : sampleOrigin.resume = false := rfl
  rw [TokenService.normalize_fresh fresh, RunIdentityService.freshIdentity]
  split
  · next error failed =>
    rw [sample_hashed] at failed
    cases failed
  · next hash hashed =>
    rw [sample_hashed] at hashed
    cases hashed
    rfl

/-- The token of the examples. -/
def sampleToken : String := sampleTokens.issueResumeToken sampleIssued 1700000000

lemma sample_payload : sampleTokens.tokenPayload sampleIssued 1700000000 = samplePayload := rfl

lemma sample_encoded : sampleTokens.encodedPayload sampleIssued 1700000000 =
    Base64.encode (encodeUtf8 sampleText) := by
  rw [TokenService.encodedPayload, sample_payload]
  exact congrArg (fun text => Base64.encode (encodeUtf8 text)) sample_dumps

lemma sampleToken_eq : sampleToken = String.ofList (Base64.encode (encodeUtf8 sampleText) ++ '.' ::
    Base64.encode sampleSignature) := by
  have active : sampleTokens.activeKey = encodeUtf8 "test-secret" := by decide
  rw [sampleToken, TokenService.issueResumeToken, sample_encoded]
  have hmac : sampleTokens.hmac = sampleHmac := rfl
  rw [hmac, sampleHmac_signs active rfl]

lemma sampleToken_length : sampleToken.length ≤ 4096 := by
  have text : sampleText.utf8ByteSize = 403 := by
    simp only [sampleText, sampleMembers, String.intercalate_cons_cons, String.intercalate_singleton,
      String.utf8ByteSize_append]
    decide +kernel
  rw [sampleToken_eq, String.length_ofList, List.length_append, List.length_cons, Base64.length_encode,
    Base64.length_encode, length_encodeUtf8, text]
  have signature : sampleSignature.length = 32 := rfl
  omega

namespace TokenService

lemma sampleToken_filled : sampleToken ≠ "" := by
  intro empty
  have chars := congrArg String.toList (sampleToken_eq.symm.trans empty)
  rw [String.toList_ofList] at chars
  simp at chars

lemma sampleToken_valid : ∀ token ∈ some sampleToken, token ≠ "" ∧ token.length ≤ 4096 := by
  rintro _ ⟨⟩
  exact ⟨sampleToken_filled, sampleToken_length⟩

/-- A request that presents the token of the examples. -/
def samplePresented : ChatRequest :=
  { sampleOrigin with
    resume := true
    resumeToken := some sampleToken
    token_valid := sampleToken_valid
    resume_token := rfl }

lemma sample_taken : ∃ resumed, sampleRotated.normalize samplePresented sampleDraws 1700000010 = .ok resumed := by
  have presents : samplePresented.resumeToken = some (sampleTokens.issueResumeToken sampleIssued 1700000000) := rfl
  have conversation : samplePresented.conversation = some "support" := by decide
  refine (issued_accepted_iff sample_rotated sample_validated sample_normalized presents).1.mpr ?_
  refine ⟨by decide, by decide, sample_hashed, ?_, ?_⟩
  · rw [conversation]
    rintro _ ⟨⟩
    rfl
  · rintro _ ⟨⟩
    rfl

theorem token_binds_sample : ∃ resumed segment payload keyId secret hash,
    Signs sampleRotated sampleToken segment secret ∧ sampleRotated.readPayload segment = some (.obj payload) ∧
      (keyId, secret) ∈ sampleRotated.keys ∧ sampleRotated.requestHash samplePresented = .ok hash ∧
      Bound sampleRotated samplePresented hash 1700000010 payload resumed := by
  obtain ⟨resumed, accepted⟩ := sample_taken
  obtain ⟨segment, payload, keyId, secret, hash, signs, read, mem, -, -, hashed, bound⟩ := token_binds rfl accepted
  exact ⟨resumed, segment, payload, keyId, secret, hash, signs, read, mem, hashed, bound⟩

theorem revoked_token_sample : ∃ resumed,
    sampleRotated.normalize samplePresented sampleDraws 1700000010 = .ok resumed ∧
      ¬ (Server.after sampleRequest issuing.post sampleRevoke).Passes resumed := by
  obtain ⟨resumed, accepted⟩ := sample_taken
  have run := Run.append issuing_run Server.sampleRevoke_run
  rw [← List.append_cons] at run
  have presents : samplePresented.resumeToken = some (sampleTokens.issueResumeToken sampleIssued 1700000000) := rfl
  exact ⟨resumed, accepted, revoked_token_refused sample_rotated sample_validated sample_normalized run
    issuing_issues Server.sampleRevoke_revokes presents accepted⟩

end TokenService

end Samples

end AgentRuntime.Orchestration
