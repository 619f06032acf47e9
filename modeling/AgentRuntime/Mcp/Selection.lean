import AgentRuntime.Mcp.Protocol

/-!
# Selection of a response

Which of the messages of an answer `select_response` takes for the response to a request. The scan ends at
the first message with an id that is equal to the one of the request, as Python compares numbers, and at
anything before it that looks like a response of another protocol; what the server says besides changes
nothing. The id of the response is the integer that was sent, unless it is a boolean or a float.
-/

namespace AgentRuntime.Mcp

/-- A message that may be a response: it has the envelope, no method, and a result or an error. -/
def candidate (payload : JsonObject) : Bool :=
  isJsonRpc payload && !hasKey payload "method" && resemblesResponse payload

/-- `payload.get("id")` -/
def idOf (payload : JsonObject) : Json := (payload.get? "id").getD .null

/-- The response has exactly one of a result and an error that is not null, and the error is an object. -/
structure WellFormed (payload : JsonObject) : Prop where
  outcome : hasKey payload "result" ≠ (errorOf payload).isSome
  object : ∀ error, errorOf payload = some error → ∃ fields, error = .obj fields

/-- The response in a message. -/
def responseOf (payload : JsonObject) : JSONRPCResponse where
  requestId := idOf payload
  result := (payload.get? "result").getD .null
  error := errorOf payload

/-- The scan ends at the message. -/
def ends (id : Int) : Json → Bool
  | .obj payload =>
    (!isJsonRpc payload && hasKey payload "id" && resemblesResponse payload) ||
      (candidate payload && idEquals id (idOf payload))
  | _ => false

/-- The id of the message is the integer. -/
def exactId (id : Int) (payload : JsonObject) : Bool :=
  match payload.get? "id" with
  | some (.int value) => value = id
  | _ => false

/-- The message is a response to the request, with the integer that was sent for its id. -/
def answers (id : Int) : Json → Bool
  | .obj payload => candidate payload && exactId id payload
  | _ => false

/-- A notification or a request of the server. -/
def fromServer : Json → Bool
  | .obj payload => isJsonRpc payload && hasKey payload "method"
  | _ => false

/-- The second list is the first one with notifications and requests of the server in it. -/
inductive Interleaved : List Json → List Json → Prop where
  | nil :
    Interleaved [] []
  | kept {message messages messages'} :
    Interleaved messages messages' →
    Interleaved (message :: messages) (message :: messages')
  | inserted {message messages messages'} :
    fromServer message = true →
    Interleaved messages messages' →
    Interleaved messages (message :: messages')

/-- The response is the first one to the request, and has exactly one outcome. -/
def ComesFrom (messages : List Json) (id : Int) (response : JSONRPCResponse) : Prop :=
  ∃ payload, messages.find? (answers id) = some (.obj payload) ∧
    hasKey payload "result" ≠ (errorOf payload).isSome ∧ response = responseOf payload

/-- Where the scan ends at a response that is well formed, its id is the integer that was sent. -/
def EndsExactly (messages : List Json) (id : Int) : Prop :=
  ∀ payload, messages.find? (ends id) = some (.obj payload) → isJsonRpc payload = true →
    WellFormed payload → exactId id payload = true

section Scan

variable {pyRepr : Json → String} {id : Int} {ids : List Json} {messages messages' : List Json}
  {payload : JsonObject} {response : JSONRPCResponse}

lemma get?_id (equals : idEquals id (idOf payload) = true) : payload.get? "id" = some (idOf payload) := by
  unfold idOf at equals ⊢
  cases h : payload.get? "id" with
  | none =>
    rw [h] at equals
    cases equals
  | some value => rfl

lemma exactId_iff : exactId id payload = true ↔ idOf payload = .int id := by
  unfold exactId idOf
  cases payload.get? "id" with
  | none => exact ⟨nofun, nofun⟩
  | some value =>
    cases value with
    | int value => simp
    | _ => exact ⟨nofun, nofun⟩

/-- A message with the id is validated as a response exactly if it is well formed. -/
lemma validate_candidate (found : candidate payload = true)
    (equals : idEquals id (idOf payload) = true) :
    validateResponse pyRepr payload id = .ok response ↔
      WellFormed payload ∧ response = responseOf payload := by
  simp only [candidate, Bool.and_eq_true, Bool.not_eq_true'] at found
  obtain ⟨⟨envelope, method⟩, -⟩ := found
  unfold validateResponse
  rw [envelope, method, get?_id equals]
  simp only [Bool.not_true, Bool.false_eq_true, if_false, equals]
  split
  · next both => exact ⟨nofun, fun ⟨formed, _⟩ => absurd both formed.outcome⟩
  · next one =>
    split
    · next fields error =>
      rw [Except.ok.injEq, eq_comm]
      refine ⟨fun h => ⟨⟨one, fun value is => ?_⟩, h⟩, And.right⟩
      exact ⟨fields, Option.some.inj (is.symm.trans error)⟩
    · next none =>
      rw [Except.ok.injEq, eq_comm]
      refine ⟨fun h => ⟨⟨one, fun value is => ?_⟩, h⟩, And.right⟩
      cases is.symm.trans none
    · next value other error =>
      refine ⟨nofun, fun ⟨formed, _⟩ => ?_⟩
      obtain ⟨fields, rfl⟩ := formed.object value error
      exact absurd rfl (other fields)

/-- The message at which the scan ends is validated. -/
lemma select_ends {message : Json} (last : ends id message = true) :
    ∃ payload, message = .obj payload ∧
      selectFrom pyRepr id ids (message :: messages) = validateResponse pyRepr payload id := by
  cases message with
  | obj payload =>
    refine ⟨payload, rfl, ?_⟩
    simp only [ends, candidate, idOf, Bool.or_eq_true, Bool.and_eq_true, Bool.not_eq_true'] at last
    rw [selectFrom]
    obtain ⟨⟨envelope, hasId⟩, outcome⟩ | ⟨⟨⟨envelope, method⟩, outcome⟩, equals⟩ := last
    · simp [envelope, hasId, outcome]
    · simp [envelope, method, outcome, equals]
  | _ => cases last

/-- Where the scan does not end it goes on with the messages behind. -/
lemma select_passes {message : Json} (passes : ends id message = false) : ∃ ids', ∀ messages,
    selectFrom pyRepr id ids (message :: messages) = selectFrom pyRepr id ids' messages := by
  cases message with
  | obj payload =>
    simp only [ends, candidate, idOf] at passes
    cases envelope : isJsonRpc payload with
    | false =>
      refine ⟨ids, fun messages => ?_⟩
      rw [selectFrom]
      simp_all
    | true =>
      cases skipped : hasKey payload "method" || !resemblesResponse payload with
      | true =>
        refine ⟨ids, fun messages => ?_⟩
        rw [selectFrom]
        simp [envelope, skipped]
      | false =>
        refine ⟨ids ++ [(JsonObject.get? payload "id").getD .null], fun messages => ?_⟩
        rw [selectFrom]
        simp_all
  | _ => exact ⟨ids, fun _ => rfl⟩

/-- The scan does not see what the server says besides. -/
lemma select_server {message : Json} (server : fromServer message = true) :
    selectFrom pyRepr id ids (message :: messages) = selectFrom pyRepr id ids messages := by
  cases message with
  | obj payload =>
    obtain ⟨envelope, method⟩ := Bool.and_eq_true_iff.mp server
    rw [selectFrom]
    simp [envelope, method]
  | _ => cases server

lemma Interleaved.select (interleaved : Interleaved messages messages') :
    selectFrom pyRepr id ids messages' = selectFrom pyRepr id ids messages := by
  induction interleaved generalizing ids with
  | nil => rfl
  | @kept message messages messages' _ ih =>
    cases last : ends id message with
    | true =>
      obtain ⟨payload, rfl, validated⟩ := select_ends last
      obtain ⟨_, ⟨rfl⟩, validated'⟩ := select_ends last
      rw [validated, validated']
    | false =>
      obtain ⟨ids', passed⟩ := select_passes last
      rw [passed, passed, ih]
  | inserted server _ ih => rw [select_server server, ih]

/-- A response is the message at which the scan ends, validated. -/
lemma select_ok : selectFrom pyRepr id ids messages = .ok response ↔
    ∃ payload, messages.find? (ends id) = some (.obj payload) ∧
      validateResponse pyRepr payload id = .ok response := by
  induction messages generalizing ids with
  | nil =>
    rw [selectFrom]
    constructor
    · intro h
      split at h <;> cases h
    · rintro ⟨_, found, -⟩
      cases found
  | cons message messages ih =>
    cases last : ends id message with
    | true =>
      obtain ⟨payload, rfl, validated⟩ := select_ends last
      rw [validated, List.find?_cons_of_pos last]
      refine ⟨fun h => ⟨payload, rfl, h⟩, ?_⟩
      rintro ⟨_, same, h⟩
      cases same
      exact h
    | false =>
      obtain ⟨ids', passed⟩ := select_passes last
      rw [passed, List.find?_cons_of_neg (by simp [last])]
      exact ih

/-- The response that is returned is the well-formed one at which the scan ends. -/
lemma selectResponse_ok : selectResponse pyRepr messages id = .ok response ↔
    ∃ payload, messages.find? (ends id) = some (.obj payload) ∧ isJsonRpc payload = true ∧
      WellFormed payload ∧ response = responseOf payload := by
  rw [selectResponse, select_ok]
  refine exists_congr fun payload => and_congr_right fun found => ?_
  have last := List.find?_some found
  simp only [ends, Bool.or_eq_true, Bool.and_eq_true, Bool.not_eq_true'] at last
  cases envelope : isJsonRpc payload with
  | false =>
    rw [validateResponse, envelope]
    exact ⟨nofun, fun h => absurd h.1 Bool.false_ne_true⟩
  | true =>
    obtain ⟨⟨other, -⟩, -⟩ | ⟨found, equals⟩ := last
    · cases envelope.symm.trans other
    · rw [validate_candidate found equals]
      exact (and_iff_right rfl).symm

/-- The scan ends at a response with the id that was sent. -/
lemma ends_of_answers {message : Json} (answer : answers id message = true) :
    ends id message = true := by
  cases message with
  | obj payload =>
    obtain ⟨found, exact⟩ := Bool.and_eq_true_iff.mp answer
    rw [ends, found, exactId_iff.mp exact]
    simp [idEquals]
  | _ => cases answer

/-- A response comes from the first message that answers the request, and nothing that the server says
    besides changes the outcome, exactly where the scan does not end at a well-formed response with another
    id that is equal to the one of the request. -/
theorem selects_exactly (pyRepr : Json → String) (messages : List Json) (id : Int) :
    ((∀ response, selectResponse pyRepr messages id = .ok response → ComesFrom messages id response) ∧
      ∀ messages', Interleaved messages messages' →
        selectResponse pyRepr messages' id = selectResponse pyRepr messages id) ↔
    EndsExactly messages id := by
  constructor
  · rintro ⟨sound, -⟩ payload found envelope formed
    obtain ⟨payload', first, -, same⟩ :=
      sound _ (selectResponse_ok.mpr ⟨payload, found, envelope, formed, rfl⟩)
    have answer := List.find?_some first
    obtain ⟨-, exact⟩ := Bool.and_eq_true_iff.mp answer
    exact exactId_iff.mpr ((congrArg JSONRPCResponse.requestId same).trans (exactId_iff.mp exact))
  · intro exactly
    refine ⟨fun response selected => ?_, fun messages' interleaved => interleaved.select⟩
    obtain ⟨payload, found, envelope, formed, rfl⟩ := selectResponse_ok.mp selected
    have exact := exactly payload found envelope formed
    have last := List.find?_some found
    simp only [ends, envelope, Bool.not_true, Bool.false_and, Bool.false_or] at last
    refine ⟨payload, ?_, formed.outcome, rfl⟩
    obtain ⟨-, before, after, rfl, passed⟩ := List.find?_eq_some_iff_append.mp found
    refine List.find?_eq_some_iff_append.mpr ⟨?_, before, after, rfl, fun message mem => ?_⟩
    · exact Bool.and_eq_true_iff.mpr ⟨(Bool.and_eq_true_iff.mp last).1, exact⟩
    · have passes := passed message mem
      rw [Bool.not_eq_true'] at passes ⊢
      exact Bool.eq_false_iff.mpr fun answer => by
        rw [ends_of_answers answer] at passes
        cases passes

/-- A response for examples: its id is the float 1.0. -/
def floatResponse : JsonObject :=
  [("jsonrpc", .str "2.0"), ("id", .float 0x3ff0000000000000), ("result", .str "other")]

/-- A response whose id is a float is taken for the one to a request. -/
theorem selects_float : ¬ ∀ (pyRepr : Json → String) (messages : List Json) (id : Int)
    (response : JSONRPCResponse), selectResponse pyRepr messages id = .ok response →
      ComesFrom messages id response := by
  intro sound
  have last : ends 1 (.obj floatResponse) = true := by decide +kernel
  obtain ⟨payload, first, -⟩ := sound (fun _ => "") [.obj floatResponse] 1 (responseOf floatResponse)
    (selectResponse_ok.mpr
      ⟨floatResponse, List.find?_cons_of_pos last, rfl, ⟨by decide, nofun⟩, rfl⟩)
  cases first

end Scan

end AgentRuntime.Mcp
