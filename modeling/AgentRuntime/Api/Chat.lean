import AgentRuntime.Mcp.Sse
import AgentRuntime.Orchestration.System

/-!
# The chat endpoints

Port of `api/routes/chat.py`, of the identity errors' statuses in `orchestration/run_identity.py`, of
`api/exception_handlers.py` and of `astream_events` in `orchestration/chat_runtime.py`. A stream is a coroutine
next to the handlers: it announces the run, lets a handler of its own handle the request, sends a sign of life
whenever it has slept, and ends with the handler's result. The client may disconnect, or the stream be cancelled,
at any of its awaits.
-/

namespace AgentRuntime.Api
open State Orchestration Transition

section Errors

/-- source `status_code` of the identity errors -/
def statusCode : IdentityErrorClass → Nat
  | .conversationBusy => 409
  | .runConflict => 409
  | .staleLease => 409
  | .runNotResumable => 409
  | .resumeTokenInvalid => 401
  | .resumeTokenRevoked => 401
  | .resumeTokenExpired => 410
  | .resumeRunNotFound => 404
  | .incompatibleRunState => 409

/-- source `error_code` of the identity errors -/
def errorCode : IdentityErrorClass → String
  | .conversationBusy => "conversation_busy"
  | .runConflict => "run_conflict"
  | .staleLease => "stale_lease"
  | .runNotResumable => "run_not_resumable"
  | .resumeTokenInvalid => "invalid_resume_token"
  | .resumeTokenRevoked => "resume_revoked"
  | .resumeTokenExpired => "resume_expired"
  | .resumeRunNotFound => "resumable_run_not_found"
  | .incompatibleRunState => "incompatible_run_state"

/-- source `safe_error`, of an exception that is not to be exposed -/
def safeError : String := "Dependency unavailable."

/-- An answer of the server, with its body. -/
structure HttpResponse where
  statusCode : Nat
  body : JsonObject

/-- source `request_error_to_http_exception`, as the client sees it -/
def requestErrorToHttpException (cls : IdentityErrorClass) (message : String) : HttpResponse where
  statusCode := statusCode cls
  body := [("detail", .obj [("code", .str (errorCode cls)), ("message", .str message)])]

/-- source `unhandled_exception_handler` -/
def unhandledException : HttpResponse where
  statusCode := 500
  body := [("detail", .str "Internal server error.")]

/-- source `chat`, on what `ainvoke` returns or raises; there is no answer to a request that is cancelled -/
def chat : Except RequestError ChatResponse → Option HttpResponse
  | .ok response => some ⟨200, response.modelDump⟩
  | .error (.repository (.identity cls message)) => some (requestErrorToHttpException cls message)
  | .error .cancelled => none
  | .error _ => some unhandledException

end Errors

section Items

/-- An event of the stream (source `event`), whose timestamp is not sent. -/
structure Item where
  event : String
  data : JsonObject

/-- What `astream_events` starts with: what `normalize` raises, if it does, and the resume token. -/
structure Opening where
  refused : Option RequestError := none
  resumeToken : String
  tokenTtlSeconds : Int

/-- source `event("request_started", ...)` -/
def requestStarted (opening : Opening) (identity : RunIdentity) : Item where
  event := "request_started"
  data :=
    [("thread_id", .str identity.conversationId),
     ("conversation_id", .str identity.conversationId),
     ("run_id", .str identity.runId),
     ("execution_thread_id", .str identity.executionThreadId),
     ("resumed", .bool identity.resumed),
     ("resume_token", .str opening.resumeToken),
     ("resume_token_expires_in_seconds", .int opening.tokenTtlSeconds)]

/-- source `event("planning_started", ...)` -/
def planningStarted (identity : RunIdentity) : Item where
  event := "planning_started"
  data := [("conversation_id", .str identity.conversationId), ("run_id", .str identity.runId)]

/-- source `event("working", ...)` -/
def working (identity : RunIdentity) : Item where
  event := "working"
  data :=
    [("stage", .str "agent_graph"),
     ("conversation_id", .str identity.conversationId),
     ("run_id", .str identity.runId)]

/-- source `event("completed", ...)` -/
def completed (response : ChatResponse) : Item where
  event := "completed"
  data := [("response", .obj response.modelDump)]

/-- The event that the route sends of an exception; a cancellation has none. -/
def errorItems : RequestError → List Item
  | .repository (.identity cls message) =>
    [{ event := "error"
       data := [("code", .str (errorCode cls)), ("status_code", .int (statusCode cls)),
         ("message", .str message)] }]
  | .cancelled => []
  | _ => [{ event := "error", data := [("message", .str safeError)] }]

/-- What the stream ends with. -/
def ending : Except RequestError ChatResponse → List Item
  | .ok response => [completed response]
  | .error error => errorItems error

/-- The end of a stream for what the other endpoint answers. -/
def endingOf (response : HttpResponse) : Item :=
  if response.statusCode = 200 then { event := "completed", data := [("response", .obj response.body)] }
  else
    match response.body with
    | [("detail", .obj [("code", code), ("message", message)])] =>
      { event := "error"
        data := [("code", code), ("status_code", .int response.statusCode), ("message", message)] }
    | _ => { event := "error", data := [("message", .str safeError)] }

/-- Both endpoints tell the same of a result: the response, or the code, the status and the message of an identity
    error; nothing of any other exception, and nothing at all when the request is cancelled. -/
theorem ending_of_chat (result : Except RequestError ChatResponse) :
    ending result = ((chat result).map endingOf).toList := by
  cases result with
  | ok response => rfl
  | error error =>
    cases error with
    | cancelled => rfl
    | raised type => rfl
    | repository error =>
      cases error with
      | identity cls message => cases cls <;> rfl
      | keyError key => rfl
      | database => rfl

/-- The events before the end, with some signs of life. -/
def announced (opening : Opening) (identity : RunIdentity) (count : Nat) : List Item :=
  requestStarted opening identity :: planningStarted identity :: List.replicate count (working identity)

/-- The body that is sent (source `encode_sse` of each event). -/
def body (floats : FloatCodec) (items : List Item) : List Char :=
  items.flatMap fun item =>
    (Mcp.sseText item.event ((Json.obj item.data).text floats { ascii := false })).toList

end Items

section Streams

/-- Where a stream is suspended. -/
inductive Stage where
  /-- before the first event -/
  | opening
  /-- after `request_started` -/
  | started
  /-- before the handler is looked at -/
  | polling
  /-- `asyncio.sleep` -/
  | sleeping
  | closed
deriving DecidableEq

/-- The handlers, and a stream next to them. -/
structure Streamed (agent : ChatRuntimeAgent) where
  system : System agent
  stage : Stage := .opening
  /-- the handler's task was created -/
  task : Bool := false
  sent : List Item := []

/-- What goes on: a handler, or the stream, whose client may have disconnected, or its cancellation. -/
inductive Move where
  | turn (turn : Turn)
  | next (disconnected : Bool)
  | cancel

namespace Streamed

variable {agent : ChatRuntimeAgent} (requests : Nat → Request) (opening : Opening) (handler : Nat)

/-- An event is sent, unless the client has disconnected. -/
def emit (s : Streamed agent) (disconnected : Bool) (item : Item) (stage : Stage) : Streamed agent :=
  if disconnected then { s with stage := .closed }
  else { s with sent := s.sent ++ [item], stage }

/-- The stream ends with an exception. -/
def fail (s : Streamed agent) (error : RequestError) : Streamed agent :=
  { s with sent := s.sent ++ errorItems error, stage := .closed }

/-- The stream goes on to its next await (source `events` over `astream_events`). -/
def next (s : Streamed agent) (disconnected : Bool) : Streamed agent :=
  match s.stage with
  | .opening =>
    match opening.refused with
    | none => s.emit disconnected (requestStarted opening (requests handler).identity) .started
    | some error => s.fail error
  | .started => s.emit disconnected (planningStarted (requests handler).identity) .polling
  | .polling =>
    match s.system.phases handler with
    | .done (.ok response) => s.emit disconnected (completed response) .closed
    | .done (.error error) => s.fail error
    | _ => { s with stage := .sleeping, task := true }
  | .sleeping => s.emit disconnected (working (requests handler).identity) .polling
  | .closed => s

/-- Something goes on; the handler of the stream does when its task was created. -/
inductive Step (s : Streamed agent) : Move → Streamed agent → Prop where
  | turn {turn system} :
    System.Step requests s.system turn system →
    (turn.handler = handler → s.task = true) →
    Step s (.turn turn) { s with system }
  | next {disconnected} :
    Step s (.next disconnected) (s.next requests opening handler disconnected)
  | cancel :
    Step s .cancel { s with stage := .closed }

/-- No request has been handled, and nothing was sent. -/
def start (agent : ChatRuntimeAgent) (now : Time) : Streamed agent where
  system := .start agent now

end Streamed

end Streams

end AgentRuntime.Api
