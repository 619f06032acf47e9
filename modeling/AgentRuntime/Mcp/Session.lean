import AgentRuntime.Lib.FifoLock
import AgentRuntime.Mcp.Protocol

/-!
# MCP sessions

Port of `mcp/session.py`. The methods of the session manager are cut at their awaits: what a caller does
between two awaits is one function here, and the exchanges of the handshake are made by the caller's
sender. An `asyncio.Lock` is a queue of callers; the first of them holds the lock.
-/

namespace AgentRuntime.Mcp

/-- source `SUPPORTED_PROTOCOL_VERSIONS` -/
def supportedProtocolVersions : List String := ["2025-06-18", "2025-03-26", "2024-11-05"]

/-- The headers of an HTTP message; their names are in lower case. -/
abbrev Headers := List (String × String)

/-- source `MCPSessionState` -/
structure MCPSessionState where
  initialized : Bool := false
  sessionId : Option String := none
  protocolVersion : Option String := none
  serverInfo : Option JsonObject := none
  capabilities : Option JsonObject := none

/-- source `MCPSessionManager` -/
structure MCPSessionManager where
  requestedProtocolVersion : String
  clientName : String
  clientVersion : String
  supportedVersions : List String
  state : MCPSessionState := {}
  lock : FifoLock Nat := {}
  generation : Nat := 0

/-- What a caller wants of the session manager: that the session is initialized, or that the session
    which it observed expired is replaced. -/
inductive Purpose where
  | ensure
  | recover (observedGeneration : Nat)
deriving DecidableEq

namespace MCPSessionManager

/-- source `MCPSessionManager.__init__` -/
def new (protocolVersion clientName clientVersion : String)
    (supportedVersions : List String := []) : MCPSessionManager where
  requestedProtocolVersion := protocolVersion
  clientName := clientName
  clientVersion := clientVersion
  supportedVersions :=
    if supportedVersions = [] then protocolVersion :: supportedProtocolVersions
    else supportedVersions

/-- source `_reset_unlocked` -/
def reset (manager : MCPSessionManager) : MCPSessionManager :=
  { manager with state := {}, generation := manager.generation + 1 }

/-- The session in force is one that the caller can use. -/
def serves (manager : MCPSessionManager) : Purpose → Bool
  | .ensure => manager.state.initialized
  | .recover observedGeneration =>
    manager.state.initialized && manager.generation ≠ observedGeneration

/-- What a caller that the session does not serve does under the lock before its handshake. -/
def prepare (manager : MCPSessionManager) : Purpose → MCPSessionManager
  | .ensure => manager
  | .recover _ => manager.reset

def join (manager : MCPSessionManager) (caller : Nat) : MCPSessionManager :=
  { manager with lock := manager.lock.join caller }

def leave (manager : MCPSessionManager) (caller : Nat) : MCPSessionManager :=
  { manager with lock := manager.lock.leave caller }

/-- The parameters of the `initialize` request. -/
def initializeParams (manager : MCPSessionManager) : JsonObject :=
  [("protocolVersion", .str manager.requestedProtocolVersion),
   ("capabilities", .obj []),
   ("clientInfo", .obj
     [("name", .str manager.clientName), ("version", .str manager.clientVersion)])]

/-- `value if isinstance(value, dict) else None` -/
def dictOrNone : Option Json → Option JsonObject
  | some (.obj fields) => some fields
  | _ => none

/-- The answer to `initialize` (source `_initialize_locked`, up to the notification). -/
def initializeReceived (pyRepr : Json → String) (manager : MCPSessionManager) (result : Json)
    (headers : Headers) : Except McpError MCPSessionManager :=
  match result with
  | .obj fields =>
    match JsonObject.get? fields "protocolVersion" with
    | some (.str negotiated) =>
      if negotiated = "" then
        .error (.session "MCP initialize result is missing protocolVersion.")
      else if !manager.supportedVersions.contains negotiated then
        .error (.session ("MCP server selected unsupported protocol version " ++
          pyRepr (.str negotiated) ++ "."))
      else
        .ok { manager with
          state :=
            { initialized := false
              sessionId := (headers.lookup "mcp-session-id").filter (· ≠ "")
              protocolVersion := some negotiated
              serverInfo := dictOrNone (JsonObject.get? fields "serverInfo")
              capabilities := dictOrNone (JsonObject.get? fields "capabilities") } }
    | _ => .error (.session "MCP initialize result is missing protocolVersion.")
  | _ => .error (.session "MCP initialize returned an invalid result.")

/-- The notification was sent (source `_initialize_locked`, its end). -/
def initialized (manager : MCPSessionManager) : MCPSessionManager :=
  { manager with
    state := { manager.state with initialized := true }
    generation := manager.generation + 1 }

/-- The handshake ended with an exception; a cancellation is no `Exception`. -/
def failed (manager : MCPSessionManager) : McpError → MCPSessionManager
  | .cancelled => manager
  | _ => manager.reset

end MCPSessionManager

end AgentRuntime.Mcp
