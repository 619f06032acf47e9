import AgentRuntime.Orchestration.Hashable

/-!
# How normalization fails

The handlers of the API answer an identity error with its status, and everything else as a fault of the server.
What `normalize` raises is an identity error as long as the request has a hash, its token is not nested too deeply
to be read, and a signed token has nothing in it that its checks trip over. The tokens that a service like this one
issues have nothing of the kind, but for the name of a key that is too long for an identity.
-/

namespace AgentRuntime.Orchestration
open State Text Python Fallible

/-- An error that the API answers with its own status. -/
def IsIdentity (error : RequestError) : Prop := ∃ cls message, error = .identity cls message

lemma isIdentity (cls : IdentityErrorClass) (message : String) : IsIdentity (.identity cls message) :=
  ⟨cls, message, rfl⟩

lemma not_isIdentity (type : String) : ¬ IsIdentity (.raised type) := by
  rintro ⟨cls, message, ⟨⟩⟩

namespace TokenService

variable {service : TokenService} {condition : Prop} [Decidable condition]

/-- A check that is refused with an identity error. -/
lemma require_clean {cls : IdentityErrorClass} {message : String} :
    FailsOnly IsIdentity (require condition (.identity cls message)) := by
  rw [require]
  split
  · exact failsOnly_ok
  · exact failsOnly_error.mpr (isIdentity cls message)

/-- A check that raises another error. -/
lemma require_raises {type : String} :
    FailsOnly IsIdentity (require condition (.raised type)) ↔ condition := by
  rw [require]
  split
  · next holds => exact iff_of_true failsOnly_ok holds
  · next fails => exact iff_of_false (fun clean => not_isIdentity type (failsOnly_error.mp clean)) fails

/-- What `int` raises is no identity error. -/
lemma intOf_clean {value : Json} : FailsOnly IsIdentity (service.intOf value) ↔
    ∃ n, service.intOf value = .ok n := by
  constructor
  · intro clean
    cases read : service.intOf value with
    | ok n => exact ⟨n, rfl⟩
    | error error =>
      obtain ⟨cls, message, rfl⟩ := clean error read
      cases value with
      | null | arr | obj => cases read
      | bool | int => cases read
      | float bits =>
        rw [intOf] at read
        split at read
        · cases read
        · split at read <;> cases read
      | str text =>
        rw [intOf] at read
        split at read <;> cases read
  · rintro ⟨n, read⟩
    rw [read]
    exact failsOnly_ok

end TokenService

namespace PythonService
open TokenService (textFields tokenInvalid require_clean require_raises require_ok)

variable {service : PythonService} {request : PythonRequest} {draws : Draws} {now : Int}
variable {hash keyId token : String} {error : RequestError} {payload : JsonObject}

section Fields

/-- The format of the token is known. -/
structure Known (service : PythonService) (payload : JsonObject) : Prop where
  format : ∃ format, service.intOf ((payload.get? "v").getD (.int 0)) = .ok format ∧ (format = 1 ∨ format = 2)

/-- And it has not expired. -/
structure Alive (service : PythonService) (now : Int) (payload : JsonObject) : Prop
    extends Known service payload where
  alive : ∃ expires, service.intOf (fieldOr payload "exp" (.int 0)) = .ok expires ∧ now < expires

/-- And its schema is the one of the service. -/
structure OwnSchema (service : PythonService) (now : Int) (payload : JsonObject) : Prop
    extends Alive service now payload where
  schema : service.intOf (fieldOr payload "state_schema_version" (.int 0)) = .ok service.stateSchemaVersion

/-- And so is the version of its hash, of which the first format says nothing. -/
structure OwnVersions (service : PythonService) (now : Int) (payload : JsonObject) : Prop
    extends OwnSchema service now payload where
  hash_version : ∃ version,
    service.intOf (fieldOr payload "request_hash_version" (.int service.requestHashVersion)) = .ok version ∧
      (service.intOf ((payload.get? "v").getD (.int 0)) = .ok 2 → version = service.requestHashVersion)

/-- And it names a run of this service. -/
structure OwnRun (service : PythonService) (now : Int) (payload : JsonObject) : Prop
    extends OwnVersions service now payload where
  filled : service.textField payload "conversation_id" ≠ "" ∧ service.textField payload "run_id" ≠ "" ∧
    service.textField payload "execution_thread_id" ≠ "" ∧
      service.textField payload "checkpoint_namespace" ≠ "" ∧
    service.textField payload "request_hash" ≠ ""
  uuid : (service.uuidOf (service.textField payload "run_id")).isSome = true
  thread : service.textField payload "execution_thread_id" =
    service.textField payload "conversation_id" ++ ":" ++ service.textField payload "run_id"
  checkpoints : service.textField payload "checkpoint_namespace" = service.checkpointNamespace

/-- And it was issued for this request: it passes every check. -/
structure Passes (service : PythonService) (request : PythonRequest) (hash : String) (now : Int)
    (payload : JsonObject) : Prop extends OwnRun service now payload where
  hash : (service.intOf ((payload.get? "v").getD (.int 0)) = .ok 2 ∧
    service.textField payload "request_hash" = hash) ∨
    (service.intOf ((payload.get? "v").getD (.int 0)) = .ok 1 ∧
      service.legacyRequestHash request = .ok (service.textField payload "request_hash"))
  conversations : ∀ id ∈ request.plain.conversation, id = service.textField payload "conversation_id"
  runs : ∀ id ∈ request.plain.runId, id = service.textField payload "run_id"

/-- The checks of a resume do not trip over the fields of a signed token: as far as they get to them, the versions
    and the expiry are integers, the texts can be read, and the fields of a token that passes every check have the
    bounds of an identity. -/
structure Tame (service : PythonService) (request : PythonRequest) (hash : String) (now : Int)
    (payload : JsonObject) (keyId : String) : Prop where
  format : ∃ format, service.intOf ((payload.get? "v").getD (.int 0)) = .ok format
  expires : Known service payload → ∃ expires, service.intOf (fieldOr payload "exp" (.int 0)) = .ok expires
  schema : Alive service now payload →
    ∃ version, service.intOf (fieldOr payload "state_schema_version" (.int 0)) = .ok version
  hash_version : OwnSchema service now payload → ∃ version,
    service.intOf (fieldOr payload "request_hash_version" (.int service.requestHashVersion)) = .ok version
  texts : OwnVersions service now payload →
    ∀ key ∈ textFields, service.printable (fieldOr payload key (.str "")) = true
  legacy : OwnRun service now payload → service.intOf ((payload.get? "v").getD (.int 0)) = .ok 1 →
    ∃ hash, service.legacyRequestHash request = .ok hash
  version : Passes service request hash now payload →
    ∃ version, service.intOf (fieldOr payload "resume_token_version" (.int 1)) = .ok version ∧ 1 ≤ version
  bounds : Passes service request hash now payload →
    (service.textField payload "conversation_id").length ≤ 200 ∧
      (service.textField payload "run_id").length = 36 ∧
      (service.textField payload "execution_thread_id").length ≤ 237 ∧ keyId.length ≤ 100

lemma legacyRequestHash_clean :
    FailsOnly IsIdentity (service.legacyRequestHash request) ↔
      ∃ hash, service.legacyRequestHash request = .ok hash := by
  rw [legacyRequestHash]
  split
  · exact iff_of_true failsOnly_ok ⟨_, rfl⟩
  · refine iff_of_false (fun clean => not_isIdentity _ (failsOnly_error.mp clean)) ?_
    rintro ⟨hash, ⟨⟩⟩

lemma resumedIdentity_clean {conversation run thread : String} {supplied : Bool} {version : Int}
    (hash_length : hash.length = 64) (filled : conversation ≠ "" ∧ thread ≠ "") :
    FailsOnly IsIdentity (service.resumedIdentity conversation run thread hash keyId supplied version) ↔
      1 ≤ version ∧ conversation.length ≤ 200 ∧ run.length = 36 ∧ thread.length ≤ 237 ∧ keyId.length ≤ 100 := by
  have positive {text : String} (filled : text ≠ "") : 1 ≤ text.length :=
    Nat.one_le_iff_ne_zero.mpr fun empty => filled (String.length_eq_zero_iff.mp empty)
  rw [TokenService.resumedIdentity]
  split
  · next bounds =>
    obtain ⟨⟨-, long⟩, run_length, ⟨-, thread_length⟩, -, issued, short⟩ := bounds
    exact iff_of_true failsOnly_ok ⟨issued, long, run_length, thread_length, short⟩
  · next bounds =>
    rw [failsOnly_error]
    refine iff_of_false (not_isIdentity _) ?_
    rintro ⟨issued, long, run_length, thread_length, short⟩
    exact bounds ⟨⟨positive filled.1, long⟩, run_length, ⟨positive filled.2, thread_length⟩, hash_length,
      issued, short⟩

/-- When a signed token is taken or refused cleanly. -/
lemma identityFromPayload_clean (hash_length : hash.length = 64) :
    FailsOnly IsIdentity (service.identityFromPayload request hash now payload keyId) ↔
      Tame service request hash now payload keyId := by
  simp only [identityFromPayload, TokenService.identityFromFields, failsOnly_bind, tokenInvalid, require_clean,
    require_raises, require_ok, TokenService.intOf_clean, true_and, forall_const]
  constructor
  · rintro ⟨format_int, chain⟩
    -- what the chain says behind each of its conditions
    have to_schema := fun format format_eq known expires expires_eq alive =>
      (chain format format_eq known).2 expires expires_eq alive
    have to_version := fun format format_eq known expires expires_eq alive schema =>
      (to_schema format format_eq known expires expires_eq alive).2 _ schema rfl
    have to_texts := fun format (format_eq : service.intOf ((payload.get? "v").getD (.int 0)) = .ok format)
        known expires expires_eq alive schema (version : Int) version_eq
        (own : service.intOf ((payload.get? "v").getD (.int 0)) = .ok 2 → version = service.requestHashVersion) =>
      (to_version format format_eq known expires expires_eq alive schema).2 version version_eq
        fun second => own (by rw [format_eq, second])
    have passed (passes : Passes service request hash now payload) :
        ∃ version, service.intOf (fieldOr payload "resume_token_version" (.int 1)) = .ok version ∧ 1 ≤ version ∧
          (service.textField payload "conversation_id").length ≤ 200 ∧
          (service.textField payload "run_id").length = 36 ∧
          (service.textField payload "execution_thread_id").length ≤ 237 ∧ keyId.length ≤ 100 := by
      obtain ⟨⟨⟨⟨⟨⟨format, format_eq, known⟩, expires, expires_eq, alive⟩, schema⟩, version, version_eq, own⟩,
        filled, uuid, thread, checkpoints⟩, hash_eq, conversations, runs⟩ := passes
      obtain ⟨texts, chain⟩ :=
        to_texts format format_eq known expires expires_eq alive schema version version_eq own
      obtain ⟨-, chain⟩ := chain texts filled uuid thread checkpoints
      have expected : (if format = 1 then service.legacyRequestHash request else .ok hash) =
          .ok (service.textField payload "request_hash") := by
        rw [format_eq] at hash_eq
        obtain ⟨⟨⟩, same⟩ | ⟨⟨⟩, same⟩ := hash_eq
        · rw [same]
          rfl
        · exact same
      obtain ⟨⟨version, version_eq⟩, chain⟩ := chain _ expected rfl conversations runs
      exact ⟨version, version_eq, (resumedIdentity_clean hash_length ⟨filled.1, filled.2.2.1⟩).mp
        (chain version version_eq)⟩
    refine
      { format := format_int
        expires := ?_
        schema := ?_
        hash_version := ?_
        texts := ?_
        legacy := ?_
        version := ?_
        bounds := ?_ }
    · rintro ⟨format, format_eq, known⟩
      exact (chain format format_eq known).1
    · rintro ⟨⟨format, format_eq, known⟩, expires, expires_eq, alive⟩
      exact (to_schema format format_eq known expires expires_eq alive).1
    · rintro ⟨⟨⟨format, format_eq, known⟩, expires, expires_eq, alive⟩, schema⟩
      exact (to_version format format_eq known expires expires_eq alive schema).1
    · rintro ⟨⟨⟨⟨format, format_eq, known⟩, expires, expires_eq, alive⟩, schema⟩, version, version_eq, own⟩
      exact (to_texts format format_eq known expires expires_eq alive schema version version_eq own).1
    · rintro ⟨⟨⟨⟨⟨format, format_eq, known⟩, expires, expires_eq, alive⟩, schema⟩, version, version_eq, own⟩,
        filled, uuid, thread, checkpoints⟩ first
      obtain ⟨texts, chain⟩ :=
        to_texts format format_eq known expires expires_eq alive schema version version_eq own
      obtain ⟨clean, -⟩ := chain texts filled uuid thread checkpoints
      cases format_eq.symm.trans first
      exact legacyRequestHash_clean.mp clean
    · intro passes
      obtain ⟨version, version_eq, issued, -⟩ := passed passes
      exact ⟨version, version_eq, issued⟩
    · intro passes
      obtain ⟨-, -, -, bounds⟩ := passed passes
      exact bounds
  · intro tame
    refine ⟨tame.format, fun format format_eq known => ?_⟩
    have is_known : Known service payload := ⟨format, format_eq, known⟩
    refine ⟨tame.expires is_known, fun expires expires_eq alive => ?_⟩
    have is_alive : Alive service now payload := ⟨is_known, expires, expires_eq, alive⟩
    refine ⟨tame.schema is_alive, fun schema schema_eq own => ?_⟩
    have own_schema : OwnSchema service now payload := ⟨is_alive, by rw [schema_eq, own]⟩
    refine ⟨tame.hash_version own_schema, fun version version_eq own_version => ?_⟩
    have own_versions : OwnVersions service now payload := ⟨own_schema, version, version_eq, fun second =>
      own_version (Except.ok.inj (format_eq.symm.trans second))⟩
    refine ⟨tame.texts own_versions, fun _ filled uuid thread checkpoints => ?_⟩
    have own_run : OwnRun service now payload := ⟨own_versions, filled, uuid, thread, checkpoints⟩
    constructor
    · split
      · next first => exact legacyRequestHash_clean.mpr (tame.legacy own_run (by rw [format_eq, first]))
      · exact failsOnly_ok
    · intro expected expected_eq same conversations runs
      have passes : Passes service request hash now payload := by
        refine ⟨own_run, ?_, conversations, runs⟩
        obtain rfl | rfl := known
        · exact .inr ⟨format_eq, by rw [same]; exact expected_eq⟩
        · cases expected_eq
          exact .inl ⟨format_eq, same⟩
      obtain ⟨version, version_eq, issued⟩ := tame.version passes
      refine ⟨⟨version, version_eq⟩, fun version' version_eq' => ?_⟩
      cases version_eq.symm.trans version_eq'
      exact (resumedIdentity_clean hash_length ⟨filled.1, filled.2.2.1⟩).mpr ⟨issued, tame.bounds passes⟩

end Fields

/-- The token can be read within the recursion limit: `json.loads` gets through its payload, and `str` through the
    name of its key. -/
def Readable (service : PythonService) (token : String) : Prop :=
  ∀ encoded encodedSignature text, TokenService.splitToken token = some (encoded, encodedSignature) →
    payloadText encoded = some text →
    (∀ container, service.limits.loads service.floats text ≠ .error (.limit (.nesting container))) ∧
    ∀ payload signature, service.limits.loads service.floats text = .ok (.obj payload) →
      b64decode encodedSignature = some signature → service.printable (fieldOr payload "kid" (.str "")) = true

lemma verifyToken_error {service : TokenService} {encoded : List Char} {signature : List UInt8}
    (failed : service.verifyToken encoded payload signature = .error error) : IsIdentity error := by
  rw [TokenService.verifyToken] at failed
  split at failed
  · cases failed
  · cases failed
    exact isIdentity _ _

/-- A token that can be read is decoded or refused cleanly. -/
lemma decodeToken_error (readable : service.Readable token)
    (failed : service.decodeToken token = .error error) :
    IsIdentity error := by
  rw [decodeToken] at failed
  split at failed
  · cases failed
    exact isIdentity _ _
  · next parts =>
    split at failed
    · cases failed
      exact isIdentity _ _
    · next text =>
      obtain ⟨shallow, named⟩ := readable _ _ _ parts text
      split at failed
      · next container deep => exact absurd deep (shallow container)
      · cases failed
        exact isIdentity _ _
      · next loaded =>
        split at failed
        · cases failed
          exact isIdentity _ _
        · next signed =>
          rw [if_pos (named _ _ loaded signed)] at failed
          exact verifyToken_error failed
        · cases failed
          exact isIdentity _ _

/-- With any other one the recursion limit is hit. -/
lemma decodeToken_unreadable (deep : ¬ service.Readable token) :
    service.decodeToken token = .error (.raised "RecursionError") := by
  simp only [Readable, not_forall] at deep
  obtain ⟨encoded, encodedSignature, text, parts, read, deep⟩ := deep
  simp only [decodeToken, parts, read]
  obtain deep | deep := not_and_or.mp deep
  · simp only [not_forall, not_not] at deep
    obtain ⟨container, deep⟩ := deep
    simp only [deep]
  · simp only [not_forall] at deep
    obtain ⟨payload, signature, loaded, signed, deep⟩ := deep
    simp only [loaded, signed, if_neg deep]

/-- Which tokens are decoded or refused cleanly. -/
lemma decodeToken_clean : FailsOnly IsIdentity (service.decodeToken token) ↔ service.Readable token := by
  constructor
  · intro clean
    by_contra deep
    exact not_isIdentity _ (clean _ (decodeToken_unreadable deep))
  · intro readable error failed
    exact decodeToken_error readable failed

/-- What is decoded from a token is its payload, and one of the keys is named. -/
lemma decodeToken_ok (decoded : service.decodeToken token = .ok (payload, keyId)) :
    ∃ segment signature text secret, TokenService.splitToken token = some (segment, signature) ∧
      payloadText segment = some text ∧ service.limits.loads service.floats text = .ok (.obj payload) ∧
      (keyId, secret) ∈ service.keys := by
  rw [decodeToken] at decoded
  split at decoded
  · cases decoded
  · next segment signature parts =>
    split at decoded
    · cases decoded
    · next text read =>
      split at decoded
      · cases decoded
      · cases decoded
      · next loaded =>
        split at decoded
        · cases decoded
        · split at decoded
          · obtain ⟨rfl, secret, -, mem, -⟩ := TokenService.verifyToken_ok decoded
            exact ⟨segment, signature, text, secret, parts, read, loaded, mem⟩
          · cases decoded
        · cases decoded

section Issued

variable {service' : TokenService} {identity : RunIdentity} {issued : Int} {text : String}

lemma text_issued (read : payloadText (service'.encodedPayload identity issued) = some text) :
    text = (Json.obj (service'.readBack identity issued)).text service'.floats .compact := by
  rw [payloadText, TokenService.encodedPayload, b64decode_encode, Option.bind_eq_bind, Option.bind_some,
    decodeUtf8_encodeUtf8, TokenService.dumps_payload] at read
  exact (Option.some.inj read).symm

/-- The payload of an issued token is the one that it was issued with. -/
lemma payload_issued
    (floats : service.floats = service'.floats)
    (read : payloadText (service'.encodedPayload identity issued) = some text)
    (loaded : service.limits.loads service.floats text = .ok (.obj payload)) :
    payload = service'.readBack identity issued := by
  rw [text_issued read, floats, loads_text service.limits service'.floats .compact TokenService.readBack_valid]
    at loaded
  cases checked : (Json.obj (service'.readBack identity issued)).check service.limits with
  | error error =>
    rw [checked] at loaded
    cases loaded
  | ok =>
    rw [checked] at loaded
    cases loaded
    rfl

/-- A number breaks no limit on brackets. -/
lemma convert_shallow {limits : JsonLimits} {count : Nat} {container : String} :
    limits.convert count ≠ .error (.limit (.nesting container)) := by
  rw [JsonLimits.convert]
  split
  · rintro ⟨⟩
  · split <;> rintro ⟨⟩

lemma checkFields_shallow {limits : JsonLimits} {fields : JsonObject} {container : String}
    (flat : ∀ field ∈ fields, field.2.check limits ≠ .error (.limit (.nesting container))) :
    checkFields limits fields ≠ .error (.limit (.nesting container)) := by
  induction fields with
  | nil => nofun
  | cons field fields ih =>
    obtain ⟨key, value⟩ := field
    rw [List.forall_mem_cons] at flat
    rw [checkFields]
    split
    · next error failed =>
      rintro ⟨⟩
      exact flat.1 failed
    · exact ih flat.2

/-- The members of an issued payload are no lists and no dictionaries. -/
lemma issued_shallow {limits : JsonLimits} {container : String} :
    ∀ field ∈ service'.readBack identity issued,
      field.2.check limits ≠ .error (.limit (.nesting container)) := by
  intro field mem
  have perm : (service'.readBack identity issued).Perm (service'.tokenPayload identity issued) :=
    List.mergeSort_perm _ _
  have members : ∀ field ∈ service'.tokenPayload identity issued,
      (∃ value, field.2 = .int value) ∨ ∃ value, field.2 = .str value := by
    simp [TokenService.tokenPayload]
  obtain ⟨value, same⟩ | ⟨value, same⟩ := members field (perm.mem_iff.mp mem)
  · rw [same]
    exact convert_shallow
  · rw [same]
    rintro ⟨⟩

/-- `str` gets through every text of an issued token. -/
lemma printable_issued {key text : String} (has : (key, .str text) ∈ service'.tokenPayload identity issued) :
    service.printable (fieldOr (service'.readBack identity issued) key (.str "")) = true := by
  obtain ⟨shown, same⟩ : ∃ shown, fieldOr (service'.readBack identity issued) key (.str "") = .str shown := by
    rw [fieldOr, TokenService.get?_readBack has]
    split
    · next value found =>
      cases found
      split
      · exact ⟨_, rfl⟩
      · exact ⟨_, rfl⟩
    · exact ⟨_, rfl⟩
  rw [same]
  exact decide_eq_true (Nat.le_add_right 1 _)

/-- An issued token can be read wherever a request has a hash. -/
lemma issued_readable (floats : service.floats = service'.floats) (hashable : service.Hashable request) :
    service.Readable (service'.issueResumeToken identity issued) := by
  intro encoded encodedSignature text parts read
  cases parts.symm.trans TokenService.splitToken_issued
  constructor
  · intro container deep
    obtain ⟨inner, inside, -⟩ := hashable.writable
    rw [text_issued read, floats,
      loads_text service.limits service'.floats .compact TokenService.readBack_valid,
      Json.check, inside] at deep
    cases checked : checkFields inner (service'.readBack identity issued) with
    | error error =>
      simp only [checked, Except.map] at deep
      cases deep
      exact checkFields_shallow issued_shallow checked
    | ok =>
      simp only [checked, Except.map] at deep
      cases deep
  · intro payload signature loaded signed
    cases payload_issued floats read loaded
    exact @printable_issued _ _ _ _ _ service'.activeKeyId (by simp [TokenService.tokenPayload])

/-- The checks of a resume do not trip over an issued token, but over a long name of its key. -/
lemma issued_tame (held : TokenService.Held service' identity) (short : keyId.length ≤ 100) :
    Tame service request hash now (service'.readBack identity issued) keyId := by
  obtain ⟨conversation, run, thread, -⟩ :=
    @TokenService.texts_issued service' service.toTokenService identity issued held
  exact
    { format := ⟨2, TokenService.format_issued⟩
      expires := fun _ => ⟨_, TokenService.expires_issued⟩
      schema := fun _ => ⟨_,
        TokenService.intOf_issued (by simp [TokenService.tokenPayload]) identity.schema_version _⟩
      hash_version := fun _ =>
        ⟨_, TokenService.intOf_issued (by simp [TokenService.tokenPayload]) identity.hash_version.1 _⟩
      texts := fun _ key mem => by
        simp only [textFields, List.mem_cons, List.not_mem_nil, or_false] at mem
        obtain rfl | rfl | rfl | rfl | rfl := mem
        all_goals exact printable_issued (by simp [TokenService.tokenPayload]; rfl)
      legacy := fun _ first => by cases TokenService.format_issued.symm.trans first
      version := fun _ => ⟨_,
        TokenService.intOf_issued (by simp [TokenService.tokenPayload]) identity.token_version _,
        Int.ofNat_le.mpr identity.token_version⟩
      bounds := fun _ => by
        rw [conversation, run, thread, ← held.thread]
        exact ⟨identity.conversation_length.2, identity.run_length, identity.thread_length.2, short⟩ }

end Issued

lemma normalize_fresh (fresh : request.plain.resume = false) (hashed : service.requestHash request = .ok hash) :
    ∃ identity, service.normalize request draws now = .ok identity := by
  rw [normalize]
  split
  · next same => cases hashed.symm.trans same
  · rw [fresh]
    exact ⟨_, rfl⟩

lemma normalize_resumed (presents : request.plain.resumeToken = some token)
    (hashed : service.requestHash request = .ok hash) :
    service.normalize request draws now = (service.decodeToken token >>= fun decoded =>
      service.identityFromPayload request hash now decoded.1 decoded.2) := by
  have resumes : request.plain.resume = true := by
    rw [request.plain.resume_token, presents]
    rfl
  rw [normalize]
  split
  · next same => cases hashed.symm.trans same
  · next same =>
    cases hashed.symm.trans same
    rw [if_pos resumes, presents]
    rfl

lemma normalize_resumed_clean (presents : request.plain.resumeToken = some token)
    (hashed : service.requestHash request = .ok hash) :
    FailsOnly IsIdentity (service.normalize request draws now) ↔
      service.Readable token ∧ ∀ payload keyId, service.decodeToken token = .ok (payload, keyId) →
        Tame service request hash now payload keyId := by
  rw [normalize_resumed presents hashed, failsOnly_bind, decodeToken_clean, Prod.forall]
  simp only [identityFromPayload_clean (service.requestHash_length hashed)]

/-- A token that a service like this one issued is always taken or refused cleanly, with any request that has a
    hash, as long as the names of the keys are short enough for an identity. -/
theorem issued_fails_cleanly {service' : TokenService} {identity : RunIdentity} {issued : Int}
    (floats : service.floats = service'.floats) (held : TokenService.Held service' identity)
    (hashable : service.Hashable request) (short : ∀ key ∈ service.keys, key.1.length ≤ 100)
    (presents : request.plain.resumeToken = some (service'.issueResumeToken identity issued)) :
    FailsOnly IsIdentity (service.normalize request draws now) := by
  obtain ⟨hash, hashed⟩ := requestHash_ok.mpr hashable
  refine (normalize_resumed_clean presents hashed).mpr ⟨issued_readable floats hashable, ?_⟩
  intro payload keyId decoded
  obtain ⟨segment, signature, text, secret, parts, read, loaded, mem⟩ := decodeToken_ok decoded
  cases parts.symm.trans TokenService.splitToken_issued
  cases payload_issued floats read loaded
  exact issued_tame held (short _ mem)

section Samples

end Samples

end PythonService

end AgentRuntime.Orchestration
