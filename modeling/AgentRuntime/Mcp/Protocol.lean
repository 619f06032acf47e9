import AgentRuntime.Data.JsonText
import AgentRuntime.Data.Text
import Mathlib.Algebra.Order.Ring.Int

/-!
# MCP messages

Port of `mcp/errors.py` and `mcp/protocol.py`: the errors of the MCP client, the JSON-RPC envelopes that
it sends, and the selection of a response among the messages of a reply. Python's `repr` of a JSON value
is a parameter of the functions whose error names one.
-/

namespace AgentRuntime.Mcp

/-- The errors of the MCP client (source `mcp/errors.py`), a refusal of the execution meter, a
    cancellation, and an exception of another type. -/
inductive McpError where
  | transport (message : String)
  | httpStatus (statusCode : Nat) (message : String)
  | protocol (message : String)
  | mismatch (message : String)
  | session (message : String)
  | sessionExpired (message : String)
  | client (message : String)
  | budgetExceeded (message : String)
  | cancelled
  | raised (type message : String)
deriving DecidableEq, Repr

namespace McpError

/-- The error is the fault of an answer: it is neither an HTTP status nor a cancellation. -/
def OfAnswer : McpError → Prop
  | .httpStatus _ _ | .cancelled => False
  | _ => True

/-- The exception for a limit that `json.loads` breaks. -/
def ofLimit (broken : BrokenLimit) : McpError := .raised broken.typeName broken.message

/-- `type(exc).__name__` -/
def typeName : McpError → String
  | .transport _ => "MCPTransportError"
  | .httpStatus _ _ => "MCPHTTPStatusError"
  | .protocol _ => "MCPProtocolError"
  | .mismatch _ => "MCPResponseMismatchError"
  | .session _ => "MCPSessionError"
  | .sessionExpired _ => "MCPSessionExpiredError"
  | .client _ => "MCPClientError"
  | .budgetExceeded _ => "BudgetExceeded"
  | .cancelled => "CancelledError"
  | .raised type _ => type

/-- `str(exc)` -/
def message : McpError → String
  | .transport message | .httpStatus _ message | .protocol message | .mismatch message
  | .session message | .sessionExpired message | .client message | .budgetExceeded message
  | .raised _ message => message
  | .cancelled => ""

/-- source `_format_exception` -/
def format (error : McpError) : String :=
  let text := Text.strip error.message
  if text = "" then error.typeName else error.typeName ++ ": " ++ text

end McpError

/-- source `request_envelope` -/
def requestEnvelope (requestId : Nat) (method : String) (params : JsonObject) : JsonObject :=
  [("jsonrpc", .str "2.0"), ("id", .int requestId), ("method", .str method), ("params", .obj params)]

/-- source `notification_envelope` -/
def notificationEnvelope (method : String) (params : JsonObject) : JsonObject :=
  [("jsonrpc", .str "2.0"), ("method", .str method), ("params", .obj params)]

/-- source `response_envelope` -/
def responseEnvelope (requestId result : Json) : JsonObject :=
  [("jsonrpc", .str "2.0"), ("id", requestId), ("result", result)]

/-- source `error_envelope`, without data -/
def errorEnvelope (requestId : Json) (code : Int) (message : String) : JsonObject :=
  [("jsonrpc", .str "2.0"), ("id", requestId),
   ("error", .obj [("code", .int code), ("message", .str message)])]

/-- `value == n` for a float given by its bits: the magnitude of a normal float is its mantissa times two
    to the power of its exponent less 1075. -/
def floatEquals (bits : BitVec 64) (n : Int) : Bool :=
  let exponent := (bits.extractLsb 62 52).toNat
  let fraction := (bits.extractLsb 51 0).toNat
  if exponent = 0 then fraction = 0 && n = 0
  else isFinite bits && bits.msb = decide (n < 0) &&
    (2 ^ 52 + fraction) * 2 ^ exponent = n.natAbs * 2 ^ 1075

/-- `value == n`: a boolean is a number, and a float may be integral. -/
def idEquals (n : Int) : Json → Bool
  | .int value => value = n
  | .bool value => value.toNat = n
  | .float bits => floatEquals bits n
  | _ => false

/-- source `JSONRPCResponse` -/
structure JSONRPCResponse where
  requestId : Json
  result : Json
  error : Option Json

/-- The message has the envelope of JSON-RPC 2.0. -/
def isJsonRpc (payload : JsonObject) : Bool :=
  match payload.get? "jsonrpc" with
  | some (.str version) => version = "2.0"
  | _ => false

/-- `"key" in payload` -/
def hasKey (payload : JsonObject) (key : String) : Bool := (payload.get? key).isSome

/-- The error of a response, where it is not null. -/
def errorOf (payload : JsonObject) : Option Json :=
  match payload.get? "error" with
  | some .null => none
  | error => error

section Responses

variable (pyRepr : Json → String)

/-- source `validate_response` -/
def validateResponse (payload : JsonObject) (expectedId : Int) : Except McpError JSONRPCResponse :=
  if !isJsonRpc payload then
    .error (.protocol "MCP response has an invalid or missing jsonrpc version.")
  else if hasKey payload "method" then
    .error (.protocol "A JSON-RPC request/notification is not a response.")
  else
    match payload.get? "id" with
    | none => .error (.protocol "MCP response is missing its JSON-RPC id.")
    | some responseId =>
      if !idEquals expectedId responseId then
        .error (.mismatch ("MCP response id " ++ pyRepr responseId ++ " did not match request id " ++
          toString expectedId ++ "."))
      else if hasKey payload "result" = (errorOf payload).isSome then
        .error (.protocol "MCP response must contain exactly one of result or error.")
      else
        match errorOf payload with
        | some (.obj _) | none =>
          .ok
            { requestId := responseId
              result := (payload.get? "result").getD .null
              error := errorOf payload }
        | some _ => .error (.protocol "MCP JSON-RPC error must be a JSON object.")

/-- The message looks like a response. -/
def resemblesResponse (payload : JsonObject) : Bool :=
  hasKey payload "result" || hasKey payload "error"

/-- source `select_response`; `responseIds` are the ids of the responses passed on the way -/
def selectFrom (expectedId : Int) (responseIds : List Json) :
    List Json → Except McpError JSONRPCResponse
  | [] =>
    if responseIds = [] then
      .error (.protocol ("MCP stream contained no JSON-RPC response for request id " ++
        toString expectedId ++ "."))
    else
      .error (.mismatch ("MCP response ids " ++ pyRepr (.arr responseIds) ++
        " did not include request id " ++ toString expectedId ++ "."))
  | .obj payload :: messages =>
    if !isJsonRpc payload then
      -- what otherwise resembles a response fails its validation
      if hasKey payload "id" && resemblesResponse payload then
        validateResponse pyRepr payload expectedId
      else selectFrom expectedId responseIds messages
    else if hasKey payload "method" || !resemblesResponse payload then
      selectFrom expectedId responseIds messages
    else
      let responseId := (JsonObject.get? payload "id").getD .null
      if idEquals expectedId responseId then validateResponse pyRepr payload expectedId
      else selectFrom expectedId (responseIds ++ [responseId]) messages
  | _ :: messages => selectFrom expectedId responseIds messages

/-- source `select_response` -/
def selectResponse (messages : List Json) (expectedId : Int) : Except McpError JSONRPCResponse :=
  selectFrom pyRepr expectedId [] messages

end Responses

/-- What is wrong with the messages of an answer is their fault. -/
lemma selectFrom_error {pyRepr : Json → String} {expectedId : Int} {responseIds : List Json}
    {messages : List Json} {error : McpError}
    (failed : selectFrom pyRepr expectedId responseIds messages = .error error) : error.OfAnswer := by
  have validate (payload : JsonObject) (failed : validateResponse pyRepr payload expectedId = .error error) :
      error.OfAnswer := by
    unfold validateResponse at failed
    split at failed
    · cases failed
      trivial
    · split at failed
      · cases failed
        trivial
      · split at failed
        · cases failed
          trivial
        · split at failed
          · cases failed
            trivial
          · split at failed
            · cases failed
              trivial
            · split at failed
              · cases failed
              · cases failed
              · cases failed
                trivial
  -- the response ids seen so far grow along the messages
  induction messages generalizing responseIds with
  | nil =>
    rw [selectFrom] at failed
    split at failed
    · cases failed
      trivial
    · cases failed
      trivial
  | cons message messages ih =>
    cases message with
    | obj payload =>
      rw [selectFrom] at failed
      split at failed
      · split at failed
        · exact validate payload failed
        · exact ih failed
      · split at failed
        · exact ih failed
        · dsimp only at failed
          split at failed
          · exact validate payload failed
          · exact ih failed
    | _ => exact ih failed

end AgentRuntime.Mcp
