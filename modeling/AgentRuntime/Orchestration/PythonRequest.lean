import AgentRuntime.Data.Python
import AgentRuntime.Lib.Members
import AgentRuntime.Orchestration.TokenRoundTrip

/-!
# Requests as Python holds them

The normalization of a request once more, with everything that Python lets into it. The metadata of a request is
`dict[str, Any]`, and neither its texts nor the system prompt are checked for lone surrogates, so values come here
that JSON or UTF-8 cannot spell, and the recursion limit counts. The bounds of the other texts reject lone
surrogates, and the texts of a token are ones without them. An exception of the hash is given by the name of its
class.
-/

namespace AgentRuntime.Orchestration
open State Text Python

/-- A value of the metadata. The keys of a mapping are given as their `str`. -/
inductive MetadataValue where
  | none
  | bool (value : Bool)
  | int (value : Int)
  | float (bits : BitVec 64)
  | str (text : PyStr)
  | sequence (items : List MetadataValue)
  | mapping (fields : List (PyStr × MetadataValue))
  /-- a value of another type -/
  | other (type : String)

/-- Induction over a value: a sequence after its items, a mapping after its members. -/
@[elab_as_elim]
theorem MetadataValue.ind {P : MetadataValue → Prop} (none : P .none) (bool : ∀ value, P (.bool value))
    (int : ∀ value, P (.int value)) (float : ∀ bits, P (.float bits)) (str : ∀ text, P (.str text))
    (sequence : ∀ items, (∀ item ∈ items, P item) → P (.sequence items))
    (mapping : ∀ fields : List (PyStr × MetadataValue), (∀ field ∈ fields, P field.2) → P (.mapping fields))
    (other : ∀ type, P (.other type)) : (value : MetadataValue) → P value
  | .none => none
  | .bool value => bool value
  | .int value => int value
  | .float bits => float bits
  | .str text => str text
  | .sequence items => sequence items fun item mem => by
    have smaller := List.sizeOf_lt_of_mem mem
    exact MetadataValue.ind none bool int float str sequence mapping other item
  | .mapping fields => mapping fields fun field mem => by
    have smaller := List.sizeOf_lt_of_mem mem
    have part : sizeOf field.2 < sizeOf field := by
      obtain ⟨key, value⟩ := field
      simp only [Prod.mk.sizeOf_spec]
      omega
    exact MetadataValue.ind none bool int float str sequence mapping other field.2
  | .other type => other type

section Canonical

variable (nfc : PyStr → PyStr)

mutual

/-- source `_canonical_json_value`, with the calls that the recursion limit leaves; `_normalize_text` and
    `isinstance` take one more -/
def canonicalValue : Nat → MetadataValue → Except String MetadataValue
  | 0, _ => .error "RecursionError"
  | _ + 1, .none => .ok .none
  | _ + 1, .bool value => .ok (.bool value)
  | _ + 1, .int value => .ok (.int value)
  | _ + 1, .float bits => if isFinite bits then .ok (.float bits) else .error "ValueError"
  | 1, _ => .error "RecursionError"
  | _ + 2, .str text => .ok (.str (nfc text))
  | frames + 2, .mapping fields => do
    let fields ← canonicalMapping (frames + 1) [] fields
    pure (.mapping fields)
  | frames + 2, .sequence items => do
    let items ← canonicalSequence (frames + 1) items
    pure (.sequence items)
  | _ + 2, .other _ => .error "TypeError"

def canonicalSequence (frames : Nat) : List MetadataValue → Except String (List MetadataValue)
  | [] => .ok []
  | item :: items => do
    let item ← canonicalValue frames item
    let items ← canonicalSequence frames items
    pure (item :: items)

/-- The members of the comprehension, in which a later key overwrites an earlier one. -/
def canonicalMapping (frames : Nat) (object : List (PyStr × MetadataValue)) :
    List (PyStr × MetadataValue) → Except String (List (PyStr × MetadataValue))
  | [] => .ok object
  | (key, value) :: fields => do
    let value ← canonicalValue frames value
    canonicalMapping frames (Members.set (nfc key) value object) fields

end

end Canonical

section Dumps

/-- The class of an exception of the `json` module. -/
def JsonError.typeName : JsonError → String
  | .decode => "JSONDecodeError"
  | .limit broken => broken.typeName

mutual

/-- What `json.dumps(..., sort_keys=True)` raises for a value whose floats are finite, if anything. -/
def MetadataValue.written (limits : JsonLimits) : MetadataValue → Except String Unit
  | .int value => (limits.convert (digitCount value)).mapError JsonError.typeName
  | .sequence items => do
    let limits ← (limits.inside "array").mapError JsonError.typeName
    writtenItems limits items
  | .mapping fields => do
    let limits ← (limits.inside "object").mapError JsonError.typeName
    let sorted := (writtenFields limits fields).mergeSort fun x y => PyStr.le x.1 y.1
    let _ ← sorted.mapM Prod.snd
    pure ()
  | .other _ => .error "TypeError"
  | _ => .ok ()

def writtenItems (limits : JsonLimits) : List MetadataValue → Except String Unit
  | [] => .ok ()
  | item :: items => do
    item.written limits
    writtenItems limits items

def writtenFields (limits : JsonLimits) : List (PyStr × MetadataValue) → List (PyStr × Except String Unit)
  | [] => []
  | (key, value) :: fields => (key, value.written limits) :: writtenFields limits fields

end

mutual

/-- The JSON of the value can be encoded in UTF-8: no text in it has a lone surrogate. -/
def MetadataValue.encodable : MetadataValue → Bool
  | .str text => PyStr.encodable text
  | .sequence items => encodableItems items
  | .mapping fields => encodableFields fields
  | _ => true

def encodableItems : List MetadataValue → Bool
  | [] => true
  | item :: items => item.encodable && encodableItems items

def encodableFields : List (PyStr × MetadataValue) → Bool
  | [] => true
  | (key, value) :: fields => PyStr.encodable key && value.encodable && encodableFields fields

end

mutual

/-- The value as the JSON that it is written as. -/
def MetadataValue.shown : MetadataValue → Json
  | .bool value => .bool value
  | .int value => .int value
  | .float bits => .float bits
  | .str text => .str (PyStr.shown text)
  | .sequence items => .arr (shownItems items)
  | .mapping fields => .obj (shownFields fields)
  | _ => .null

def shownItems : List MetadataValue → List Json
  | [] => []
  | item :: items => item.shown :: shownItems items

def shownFields : List (PyStr × MetadataValue) → JsonObject
  | [] => []
  | (key, value) :: fields => (PyStr.shown key, value.shown) :: shownFields fields

end

mutual

/-- How many calls `str` makes within each other to represent the value. -/
def reprCalls : Json → Nat
  | .arr items => 1 + reprCallsItems items
  | .obj fields => 1 + reprCallsFields fields
  | _ => 1

def reprCallsItems : List Json → Nat
  | [] => 0
  | item :: items => max (reprCalls item) (reprCallsItems items)

def reprCallsFields : JsonObject → Nat
  | [] => 0
  | (_, value) :: fields => max (reprCalls value) (reprCallsFields fields)

end

end Dumps

/-- A request that passed validation: its system prompt and its metadata in place of the ones of `plain`. -/
structure PythonRequest where
  plain : ChatRequest
  systemPrompt : Option PyStr
  metadata : List (PyStr × MetadataValue)

/-- The request with the texts that JSON can spell. -/
def PythonRequest.shown (request : PythonRequest) : ChatRequest :=
  { request.plain with
    systemPrompt := request.systemPrompt.map PyStr.shown
    metadata := shownFields request.metadata }

/-- The service in an interpreter: the limits of the `json` module, the calls that the recursion limit leaves to
    `_canonical_json_value`, the ones that it leaves to `str` behind the first, and `unicodedata.normalize` and
    `str.lower` of any text. `sys.set_int_max_str_digits` takes no limit below 640. -/
structure PythonService extends TokenService where
  limits : JsonLimits
  frames : Nat
  strCalls : Nat
  nfcText : PyStr → PyStr
  lowerText : PyStr → PyStr
  nfcText_encodable : ∀ text, (nfcText text).encodable = text.encodable
  nfcText_ofString : ∀ text, nfcText (.ofString text) = .ofString (nfc text)
  lowerText_ofString : ∀ text, lowerText (.ofString text) = .ofString (lower text)
  digits_floor : ∀ limit ∈ limits.digits, 640 ≤ limit

namespace PythonService
open TokenService (tokenInvalid)

variable (service : PythonService)

/-- source `sanitized_metadata` -/
def sanitizedMetadata (request : PythonRequest) : List (PyStr × MetadataValue) :=
  request.metadata.filter fun (key, _) => service.lowerText key ∉ reservedMetadataKeys.map PyStr.ofString

/-- The dictionary of which `request_hash` takes the hash. -/
def canonicalRequest (request : PythonRequest) (metadata : MetadataValue) : MetadataValue :=
  .mapping
    [(.ofString "version", .int service.requestHashVersion),
     (.ofString "message", .str (service.nfcText (.ofString request.plain.message))),
     (.ofString "system_prompt", match request.systemPrompt with
      | some prompt => .str (service.nfcText prompt)
      | none => .none),
     (.ofString "metadata", metadata)]

/-- `json.dumps(value, ensure_ascii=False, sort_keys=True, ...)`, once it is encoded in UTF-8 -/
def encodedText (value : MetadataValue) : Except String String := do
  value.written service.limits
  if value.encodable then pure (value.shown.dumps service.floatRepr) else .error "UnicodeEncodeError"

/-- The text that `request_hash` takes the hash of. -/
def canonicalText (request : PythonRequest) : Except String String := do
  let metadata ← canonicalValue service.nfcText service.frames (.mapping (service.sanitizedMetadata request))
  service.encodedText (service.canonicalRequest request metadata)

/-- source `request_hash` -/
def requestHash (request : PythonRequest) : Except RequestError String :=
  match service.canonicalText request with
  | .ok text => .ok (service.sha256 (requestHashDomain ++ text))
  | .error type => .error (.raised type)

lemma requestHash_length {request : PythonRequest} {hash : String}
    (hashed : service.requestHash request = .ok hash) : hash.length = 64 := by
  rw [requestHash] at hashed
  split at hashed
  · cases hashed
    exact service.sha256_length _
  · cases hashed

/-- The dictionary of which `_legacy_request_hash` takes the hash. -/
def legacyRequest (request : PythonRequest) : MetadataValue :=
  .mapping
    [(.ofString "message", .str (.ofString request.plain.message)),
     (.ofString "system_prompt", match request.systemPrompt with
      | some prompt => .str prompt
      | none => .none),
     (.ofString "metadata", .mapping (service.sanitizedMetadata request))]

/-- source `_legacy_request_hash`, of a request that has a hash -/
def legacyRequestHash (request : PythonRequest) : Except RequestError String :=
  match service.encodedText (service.legacyRequest request) with
  | .ok text => .ok (service.sha256 text)
  | .error type => .error (.raised type)

/-- `str` gets through the value within the recursion limit. -/
def printable (value : Json) : Bool := reprCalls value ≤ 1 + service.strCalls

/-- The text of a token's payload, or nothing for an exception that `_decode_token` catches. -/
def payloadText (encoded : List Char) : Option String := do
  let raw ← b64decode encoded
  decodeUtf8 raw

/-- source `_decode_token`, which catches a `ValueError` of `json.loads`, and no `RecursionError` -/
def decodeToken (token : String) : Except RequestError (JsonObject × String) :=
  match TokenService.splitToken token with
  | none => .error (tokenInvalid "Malformed resume token")
  | some (encoded, encodedSignature) =>
    match payloadText encoded with
    | none => .error (tokenInvalid "Malformed resume token")
    | some text =>
      match service.limits.loads service.floats text with
      | .error (.limit (.nesting _)) => .error (.raised "RecursionError")
      | .error _ => .error (tokenInvalid "Malformed resume token")
      | .ok value =>
        match b64decode encodedSignature, value with
        | none, _ => .error (tokenInvalid "Malformed resume token")
        | some signature, .obj payload =>
          if service.printable (fieldOr payload "kid" (.str "")) then
            service.verifyToken encoded payload signature
          else .error (.raised "RecursionError")
        | some _, _ => .error (tokenInvalid "Resume token payload must be an object")

/-- source `_identity_from_token`, behind the call of `_decode_token` -/
def identityFromPayload (request : PythonRequest) (requestHash : String) (now : Int) (payload : JsonObject)
    (keyId : String) : Except RequestError RunIdentity :=
  service.identityFromFields service.printable (service.legacyRequestHash request) request.shown requestHash now
    payload keyId

/-- source `normalize` -/
def normalize (request : PythonRequest) (draws : Draws) (now : Int) : Except RequestError RunIdentity :=
  match hashed : service.requestHash request with
  | .error error => .error error
  | .ok requestHash =>
    if request.plain.resume then do
      let (payload, keyId) ← service.decodeToken (request.plain.resumeToken.getD "")
      service.identityFromPayload request requestHash now payload keyId
    else .ok (service.identityOf request.plain draws requestHash (service.requestHash_length hashed))

end PythonService

end AgentRuntime.Orchestration
