import AgentRuntime.Mcp.Results
import AgentRuntime.Mcp.Session
import AgentRuntime.Mcp.Sse

/-!
# The MCP client

Port of `mcp/client.py` and `mcp/transport.py`. A call is cut at its awaits: what it does between two
awaits is one function here. Between the awaits stand the locks, the wait until a message can be handed
to the HTTP client (the execution meter may refuse it there), and the exchange itself. The client keeps a
log of the messages that were handed to the HTTP client, with the credentials that they carry.
-/

namespace AgentRuntime.Mcp
open Text State Tools

/-- The settings that the client reads. -/
structure MCPSettings where
  mcpEnabled : Bool := false
  mcpFollowRedirects : Bool := true
  mcpSessionEnabled : Bool := true
  mcpInitializeOnStartup : Bool := true
  mcpProtocolVersion : String := "2025-06-18"
  mcpClientName : String := "langchain-langraph-app"
  inventoryCacheTtlSeconds : Nat := 60
  inventoryStaleIfErrorSeconds : Nat := 300

/-- source `app.__version__` -/
def appVersion : String := "0.5.0"

/-- source `MCPClient`, what does not change: its settings, and Python's `repr` and floats -/
structure MCPClient where
  settings : MCPSettings
  floats : FloatCodec
  limits : JsonLimits
  pyRepr : Json → String

/-- A message on its way: what `_post` is given. The headers are the ones of the session at that moment;
    its generation, and whether it was initialized, are noted. -/
structure Post where
  payload : JsonObject
  sessionId : Option String
  protocolVersion : String
  generation : Nat
  initialized : Bool
  allowEmpty : Bool

/-- A message that was handed to the HTTP client, or that it sent again for a redirect. -/
structure Transmission where
  call : Nat
  post : Post
  redirected : Bool

/-- source `MCPClient`, what changes -/
structure ClientState where
  session : MCPSessionManager
  toolsLock : FifoLock Nat := {}
  toolsCache : Option (List JsonObject) := none
  toolsCachedAt : Time := 0
  requestId : Nat := 0
  sent : List Transmission := []

/-- The answer to a request, while the requests of the server in it are answered. -/
structure Reading where
  messages : List JsonObject
  remaining : List JsonObject
  headers : Headers

/-- An exchange of `_send_for_session`: its request (a notification has no id), and the reply that is
    being sent to a request of the server in the answer. -/
structure Exchange where
  method : String
  requestId : Option Nat
  request : Post
  reply : Option (Post × Reading) := none

/-- The message of the exchange that is on its way. -/
def Exchange.post (exchange : Exchange) : Post :=
  match exchange.reply with
  | some (post, _) => post
  | none => exchange.request

/-- Where a message is: it waits to be handed to the HTTP client, or that has it (and still sends its body
    after the redirects so far). -/
inductive Delivery where
  | queued
  | inFlight (withBody : Bool)
deriving DecidableEq

/-- What a call does with the result of its request. -/
inductive Task where
  | initializeSession
  | listTools (allowStale : Bool) (now : Time) (oldCache : Option (List JsonObject))
      (oldCachedAt : Time)
  | callTool (name : String) (arguments : JsonObject)

/-- What the exchange is for: the two exchanges of a handshake, the request of the call, or the same
    request after an expired session was recovered. -/
inductive Stage where
  | initializing (why : Purpose)
  | notifying (why : Purpose)
  | sending (observedGeneration : Nat)
  | resending

/-- What a call returns. -/
inductive ClientResult where
  | nothing
  | tools (tools : List JsonObject)
  | tool (result : MCPToolResult)

/-- Where a call stands. -/
inductive Phase where
  | idle
  | waitingTools (forceRefresh allowStale : Bool)
  | waitingSession (task : Task) (why : Purpose)
  | exchanging (task : Task) (stage : Stage) (exchange : Exchange) (delivery : Delivery)
  | closing (deleted : Bool)
  | done (result : Except McpError ClientResult)

/-- A call of a public method of the client. -/
inductive Operation where
  | start
  | initializeSession
  | listTools (forceRefresh allowStale : Bool)
  | callTool (name arguments : Json)
  | invalidateToolsCache
  | aclose

/-- How the HTTP client ends an exchange. `statusText` is the text of the error that
    `raise_for_status` raises for a status other than 2xx. -/
inductive HttpOutcome where
  | response (statusCode : Nat) (headers : Headers) (text statusText : String)
  | timeout (type message : String)
  | httpError (type message : String)
  | raised (type message : String)

/-- What lets a call go on. -/
inductive ClientInput where
  | call (operation : Operation)
  | woken
  | opened (refused : Option String)
  | redirected (statusCode : Nat)
  | answered (outcome : HttpOutcome)
  | cancelled

namespace Task

/-- The method of the request, for a task that has one. -/
def method : Task → String
  | .initializeSession => ""
  | .listTools .. => "tools/list"
  | .callTool .. => "tools/call"

/-- The parameters of the request. -/
def params : Task → JsonObject
  | .callTool name arguments => [("name", .str name), ("arguments", .obj arguments)]
  | _ => []

end Task

/-- `not content.strip()`, for the bytes of the text -/
def isBlank (text : String) : Bool :=
  text.toList.all fun c => c ∈ [' ', '\t', '\n', '\r', '\x0b', '\x0c']

/-- The JSON value is the text. -/
def isText (text : String) : Option Json → Bool
  | some (.str value) => value = text
  | _ => false

namespace MCPClient

variable (client : MCPClient)

/-- source `MCPClient.__init__` -/
def fresh : ClientState where
  session := .new client.settings.mcpProtocolVersion client.settings.mcpClientName appVersion

/-- source `MCPHTTPTransport.post`, from the end of the exchange -/
def decodePost (allowEmpty : Bool) : HttpOutcome → Except McpError (List JsonObject × Headers)
  | .response statusCode headers text statusText =>
    if statusCode < 200 ∨ 300 ≤ statusCode then
      let line := (strip text).toList.map fun c => if c = '\n' then ' ' else c
      let body := String.ofList (line.take 500)
      .error (.httpStatus statusCode (statusText ++ if body = "" then "" else "; response=" ++ body))
    else if allowEmpty && (statusCode = 202 || isBlank text) then .ok ([], headers)
    else if isBlank text then .error (.protocol "MCP request returned an empty response body.")
    else
      (decodeJsonMessages client.limits client.floats text ((headers.lookup "content-type").getD "")).map
        fun messages => (messages, headers)
  | .timeout type message => .error (.transport ("MCP HTTP timeout (" ++ type ++ "): " ++ message))
  | .httpError type message => .error (.transport (type ++ ": " ++ message))
  | .raised type message => .error (.raised type message)

/-- The message with the headers of the session as it is (source `_headers`). -/
def postOf (s : ClientState) (payload : JsonObject) (allowEmpty : Bool) : Post where
  payload := payload
  sessionId := s.session.state.sessionId
  protocolVersion := s.session.state.protocolVersion.getD client.settings.mcpProtocolVersion
  generation := s.session.generation
  initialized := s.session.state.initialized
  allowEmpty := allowEmpty

/-- source `invalidate_tools_cache` -/
def invalidate (s : ClientState) : ClientState := { s with toolsCache := none, toolsCachedAt := 0 }

/-- source `_tools_fresh` -/
def toolsFresh (s : ClientState) (now : Time) (forceRefresh : Bool) : Bool :=
  !forceRefresh && s.toolsCache.isSome &&
    now - s.toolsCachedAt ≤ seconds client.settings.inventoryCacheTtlSeconds

/-- source `_send_for_session`, up to its first await -/
def sendForSession (s : ClientState) (task : Task) (stage : Stage) (method : String)
    (params : JsonObject) (notification : Bool) : ClientState × Phase :=
  if notification then
    (s, .exchanging task stage
      { method := method
        requestId := none
        request := client.postOf s (notificationEnvelope method params) true } .queued)
  else
    let requestId := s.requestId + 1
    ({ s with requestId := requestId }, .exchanging task stage
      { method := method
        requestId := some requestId
        request := client.postOf s (requestEnvelope requestId method params) false } .queued)

/-- The result of a call in the tool's name: an exception of `parse_tool_result` is an error of the tool. -/
def toolResult (name : String) (result : Json) : Tools.MCPToolResult :=
  match parseToolResult client.limits client.floats client.pyRepr name result with
  | .ok parsed => parsed
  | .error error => { tool := name, ok := false, data := .null, error := some error.format }

variable (id : Nat)

/-- The call ends with a result, or with an error of `_rpc` (source `list_tools` and `call_tool`, after
    `_rpc`). A cancellation is no `Exception`. -/
def finish (s : ClientState) (now : Time) (task : Task) (result : Except McpError Json) :
    ClientState × Phase :=
  match task with
  | .initializeSession => (s, .done (result.map fun _ => .nothing))
  | .listTools allowStale start oldCache oldCachedAt =>
    let s := { s with toolsLock := s.toolsLock.leave id }
    match result.bind (toolsOf client.pyRepr) with
    | .ok tools => ({ s with toolsCache := some tools, toolsCachedAt := now }, .done (.ok (.tools tools)))
    | .error .cancelled => (s, .done (.error .cancelled))
    | .error error =>
      match oldCache with
      | some tools =>
        if allowStale &&
            start - oldCachedAt ≤ seconds client.settings.inventoryStaleIfErrorSeconds then
          (s, .done (.ok (.tools tools)))
        else (s, .done (.error error))
      | none => (s, .done (.error error))
  | .callTool name _ =>
    match result with
    | .ok result => (s, .done (.ok (.tool (client.toolResult name result))))
    | .error .cancelled => (s, .done (.error .cancelled))
    | .error error =>
      (s, .done (.ok (.tool { tool := name, ok := false, data := .null, error := some error.format })))

/-- The session is there: the request is sent, or sent again after a recovery, or it is not (source
    `_rpc`, after `initialize` and after `recover_expired`). -/
def proceed (s : ClientState) (now : Time) (task : Task) (why : Purpose) : ClientState × Phase :=
  match task, why with
  | .initializeSession, _ => client.finish id s now task (.ok .null)
  | .listTools .., .recover _ =>
    client.sendForSession s task .resending task.method task.params false
  | .callTool .., .recover _ =>
    client.finish id s now task (.error (.sessionExpired ("MCP session expired during " ++
      task.method ++ "; the operation was not automatically replayed because its completion is " ++
      "ambiguous.")))
  | _, .ensure =>
    client.sendForSession s task (.sending s.session.generation) task.method task.params false

/-- The call has the lock of the session (source `ensure_initialized` and `recover_expired`). -/
def enterSession (s : ClientState) (now : Time) (task : Task) (why : Purpose) :
    ClientState × Phase :=
  if s.session.serves why then
    client.proceed id { s with session := s.session.leave id } now task why
  else
    let s := { s with session := s.session.prepare why }
    client.sendForSession s task (.initializing why) "initialize" s.session.initializeParams false

/-- The call wants the lock of the session. -/
def acquireSession (s : ClientState) (now : Time) (task : Task) (why : Purpose) :
    ClientState × Phase :=
  let free := s.session.lock.queue = []
  let s := { s with session := s.session.join id }
  if free then client.enterSession id s now task why else (s, .waitingSession task why)

/-- source `ensure_initialized` -/
def ensureInitialized (s : ClientState) (now : Time) (task : Task) : ClientState × Phase :=
  if s.session.state.initialized then client.proceed id s now task .ensure
  else client.acquireSession id s now task .ensure

/-- source `_rpc` and `initialize`, up to their first await -/
def rpc (s : ClientState) (now : Time) (task : Task) : ClientState × Phase :=
  if client.settings.mcpSessionEnabled then client.ensureInitialized id s now task
  else client.proceed id s now task .ensure

/-- The handshake ends with an error. -/
def failHandshake (s : ClientState) (now : Time) (task : Task) (error : McpError) :
    ClientState × Phase :=
  client.finish id { s with session := (s.session.failed error).leave id } now task (.error error)

/-- An exchange ends (source `_initialize_locked` and `_rpc`, after `_send_for_session`). -/
def settle (s : ClientState) (now : Time) (task : Task) (stage : Stage)
    (result : Except McpError (Json × Headers)) : ClientState × Phase :=
  match stage with
  | .initializing why =>
    match result.bind fun (result, headers) =>
        s.session.initializeReceived client.pyRepr result headers with
    | .ok session =>
      client.sendForSession { s with session := session } task (.notifying why)
        "notifications/initialized" [] true
    | .error error => client.failHandshake id s now task error
  | .notifying why =>
    match result with
    | .ok _ =>
      client.proceed id { s with session := s.session.initialized.leave id } now task why
    | .error error => client.failHandshake id s now task error
  | .sending observedGeneration =>
    match result with
    | .error (.httpStatus statusCode message) =>
      let expired := client.settings.mcpSessionEnabled && s.session.state.sessionId.isSome &&
        (statusCode = 404 || statusCode = 410)
      if expired then
        client.acquireSession id (invalidate s) now task (.recover observedGeneration)
      else client.finish id s now task (.error (.httpStatus statusCode message))
    | result => client.finish id s now task (result.map Prod.fst)
  | .resending => client.finish id s now task (result.map Prod.fst)

/-- The payload of the reply to a request of the server (source `_respond_to_server_request`); nothing
    for a message that is none. -/
def replyTo (message : JsonObject) : Option JsonObject :=
  match message.get? "method", message.get? "id" with
  | some (.str method), some requestId =>
    let reply := if method = "ping" then responseEnvelope requestId (.obj [])
      else errorEnvelope requestId (-32601)
        ("Client does not support server method " ++ client.pyRepr (.str method) ++ ".")
    match requestId with
    | .int _ | .bool _ | .str _ => some reply
    | _ => none
  | _, _ => none

/-- The messages of an answer up to the next one that is replied to (source `_send_for_session`). -/
def readMessages (s : ClientState) :
    List JsonObject → ClientState × Option (JsonObject × List JsonObject)
  | [] => (s, none)
  | message :: messages =>
    let s := if isText "notifications/tools/list_changed" (message.get? "method") then invalidate s
      else s
    match client.replyTo message with
    | some payload => (s, some (payload, messages))
    | none => readMessages s messages

/-- The result of a request in the messages of its answer. -/
def resultOf (exchange : Exchange) (reading : Reading) : Except McpError (Json × Headers) := do
  let response ← selectResponse client.pyRepr (reading.messages.map .obj) (exchange.requestId.getD 0)
  match response.error with
  | some error =>
    throw (.client ("MCP JSON-RPC error for " ++ exchange.method ++ ": " ++ client.pyRepr error))
  | none => pure (response.result, reading.headers)

/-- The answer is read on. -/
def read (s : ClientState) (now : Time) (task : Task) (stage : Stage) (exchange : Exchange)
    (reading : Reading) : ClientState × Phase :=
  match client.readMessages s reading.remaining with
  | (s, some (payload, remaining)) =>
    (s, .exchanging task stage
      { exchange with
        reply := some (client.postOf s payload true, { reading with remaining := remaining }) }
      .queued)
  | (s, none) => client.settle id s now task stage (client.resultOf exchange reading)

/-- The HTTP client ends the exchange of the message on its way. -/
def answered (s : ClientState) (now : Time) (task : Task) (stage : Stage) (exchange : Exchange)
    (outcome : HttpOutcome) : ClientState × Phase :=
  match client.decodePost exchange.post.allowEmpty outcome with
  | .error error => client.settle id s now task stage (.error error)
  | .ok (messages, headers) =>
    match exchange.reply, exchange.requestId with
    | some (_, reading), _ => client.read id s now task stage { exchange with reply := none } reading
    | none, none => client.settle id s now task stage (.ok (.null, headers))
    | none, some _ =>
      if messages = [] then
        client.settle id s now task stage (.error (.protocol
          ("MCP method " ++ exchange.method ++ " returned an empty response.")))
      else
        client.read id s now task stage exchange
          { messages := messages, remaining := messages, headers := headers }

/-- The call has the lock of the tool list (source `list_tools`, under the lock). -/
def enterTools (s : ClientState) (now : Time) (forceRefresh allowStale : Bool) :
    ClientState × Phase :=
  if client.toolsFresh s now forceRefresh then
    ({ s with toolsLock := s.toolsLock.leave id }, .done (.ok (.tools (s.toolsCache.getD []))))
  else client.rpc id s now (.listTools allowStale now s.toolsCache s.toolsCachedAt)

/-- source `list_tools`, up to its first await -/
def listTools (s : ClientState) (now : Time) (forceRefresh allowStale : Bool) :
    ClientState × Phase :=
  if client.toolsFresh s now forceRefresh then (s, .done (.ok (.tools (s.toolsCache.getD []))))
  else
    let free := s.toolsLock.queue = []
    let s := { s with toolsLock := s.toolsLock.join id }
    if free then client.enterTools id s now forceRefresh allowStale
    else (s, .waitingTools forceRefresh allowStale)

/-- A call of a tool that is refused before it is made. -/
def refuse (s : ClientState) (tool message : String) : ClientState × Phase :=
  (s, .done (.ok (.tool { tool := tool, ok := false, data := .null, error := some message })))

/-- source `call_tool`, up to its first await -/
def callTool (s : ClientState) (now : Time) (name arguments : Json) : ClientState × Phase :=
  match name with
  | .str tool =>
    if strip tool = "" then refuse s tool "MCP tool name must be a non-empty string."
    else
      match arguments with
      | .null => client.rpc id s now (.callTool tool [])
      | .obj arguments => client.rpc id s now (.callTool tool arguments)
      | _ => refuse s tool "MCP tool arguments must be a JSON object."
  | name => refuse s (pyStr client.pyRepr name) "MCP tool name must be a non-empty string."

/-- A call, up to its first await. -/
def begin (s : ClientState) (now : Time) : Operation → ClientState × Phase
  | .start =>
    if client.settings.mcpEnabled && client.settings.mcpSessionEnabled &&
        client.settings.mcpInitializeOnStartup then client.rpc id s now .initializeSession
    else (s, .done (.ok .nothing))
  | .initializeSession => client.rpc id s now .initializeSession
  | .listTools forceRefresh allowStale => client.listTools id s now forceRefresh allowStale
  | .callTool name arguments => client.callTool id s now name arguments
  | .invalidateToolsCache => (invalidate s, .done (.ok .nothing))
  | .aclose => (s, .closing s.session.state.sessionId.isNone)

/-- The message is handed to the HTTP client. -/
def handOver (s : ClientState) (post : Post) (redirected : Bool) : ClientState :=
  { s with sent := s.sent ++ [{ call := id, post := post, redirected := redirected }] }

/-- The HTTP client follows a redirect. It sends the request again, with its body for 307 and 308 only;
    without a body it is another request. -/
def redirect (s : ClientState) (task : Task) (stage : Stage) (exchange : Exchange)
    (withBody : Bool) (statusCode : Nat) : ClientState × Phase :=
  let kept := withBody && (statusCode = 307 || statusCode = 308)
  (if kept then handOver id s exchange.post true else s,
    .exchanging task stage exchange (.inFlight kept))

/-- source `aclose`, after one of its awaits -/
def close (s : ClientState) (deleted : Bool) : HttpOutcome → ClientState × Phase
  | .raised type message => (s, .done (.error (.raised type message)))
  | _ =>
    if deleted then (invalidate { s with session := s.session.reset }, .done (.ok .nothing))
    else (s, .closing true)

/-- A call goes on from its await, where it can. -/
def advance (s : ClientState) (now : Time) : Phase → ClientInput → Option (ClientState × Phase)
  | .idle, .call operation => some (client.begin id s now operation)
  | .waitingTools forceRefresh allowStale, .woken =>
    if s.toolsLock.Holds id then some (client.enterTools id s now forceRefresh allowStale) else none
  | .waitingTools _ _, .cancelled =>
    some ({ s with toolsLock := s.toolsLock.leave id }, .done (.error .cancelled))
  | .waitingSession task why, .woken =>
    if s.session.lock.Holds id then some (client.enterSession id s now task why) else none
  | .waitingSession task _, .cancelled =>
    some (client.finish id { s with session := s.session.leave id } now task (.error .cancelled))
  | .exchanging task stage exchange .queued, .opened none =>
    some (handOver id s exchange.post false, .exchanging task stage exchange (.inFlight true))
  | .exchanging task stage _ .queued, .opened (some message) =>
    some (client.settle id s now task stage (.error (.budgetExceeded message)))
  | .exchanging task stage exchange (.inFlight withBody), .redirected statusCode =>
    if client.settings.mcpFollowRedirects && [301, 302, 303, 307, 308].contains statusCode then
      some (redirect id s task stage exchange withBody statusCode)
    else none
  | .exchanging task stage exchange (.inFlight _), .answered outcome =>
    some (client.answered id s now task stage exchange outcome)
  | .exchanging task stage _ _, .cancelled =>
    some (client.settle id s now task stage (.error .cancelled))
  | .closing deleted, .answered outcome => some (close s deleted outcome)
  | .closing _, .cancelled => some (s, .done (.error .cancelled))
  | _, _ => none

end MCPClient

end AgentRuntime.Mcp
