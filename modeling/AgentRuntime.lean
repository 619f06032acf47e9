import AgentRuntime.Lib.Run
import AgentRuntime.Lib.Dict
import AgentRuntime.Data.Json
import AgentRuntime.State.RunRecord
import AgentRuntime.State.RunRepository
import AgentRuntime.State.Memory
import AgentRuntime.State.Postgres
import AgentRuntime.Lib.Fencing
import AgentRuntime.State.Store
import AgentRuntime.State.Leases
import AgentRuntime.State.Equivalence
import AgentRuntime.Data.Text
import AgentRuntime.Orchestration.ExecutionMeter
import AgentRuntime.Tools.Policies
import AgentRuntime.Tools.Executor
import AgentRuntime.Graph.Schemas
import AgentRuntime.Settings
import AgentRuntime.Graph.Services
import AgentRuntime.Graph.Models
import AgentRuntime.Graph.State
import AgentRuntime.Graph.Nodes
import AgentRuntime.Graph.Build
import AgentRuntime.Graph.Control
import AgentRuntime.Graph.Progress
import AgentRuntime.Graph.Stopping
import AgentRuntime.Graph.Termination
import AgentRuntime.Graph.Completion
import AgentRuntime.Graph.Refusals
import AgentRuntime.Orchestration.GraphResult
import AgentRuntime.Orchestration.Chat
import AgentRuntime.Orchestration.RunIdentity
import AgentRuntime.Orchestration.ChatRuntime
import AgentRuntime.Orchestration.System
import AgentRuntime.Orchestration.Effects
import AgentRuntime.Orchestration.Invariants
import AgentRuntime.Lib.WriteOnce
import AgentRuntime.Orchestration.Durability
import AgentRuntime.Orchestration.Unwinding
import AgentRuntime.Orchestration.Drain
import AgentRuntime.Orchestration.Answers
import AgentRuntime.Orchestration.Retries
import AgentRuntime.Orchestration.Revocation
import AgentRuntime.State.Holders
import AgentRuntime.State.Availability
import AgentRuntime.Orchestration.History
import AgentRuntime.Orchestration.Heartbeats
import AgentRuntime.Orchestration.Recovery
import AgentRuntime.Graph.Research
import AgentRuntime.Data.JsonText
import AgentRuntime.Data.JsonRoundTrip
import AgentRuntime.Mcp.Protocol
import AgentRuntime.Mcp.Sse
import AgentRuntime.Data.JsonCut
import AgentRuntime.Lib.FifoLock
import AgentRuntime.Mcp.Session
import AgentRuntime.Mcp.SingleFlight
import AgentRuntime.Mcp.Results
import AgentRuntime.Mcp.Client
import AgentRuntime.Mcp.Traffic
import AgentRuntime.Mcp.Expiry
import AgentRuntime.Data.JsonOrder
import AgentRuntime.Orchestration.RequestHash
import AgentRuntime.Graph.Context
import AgentRuntime.Graph.Provenance
import AgentRuntime.Lib.Semaphore
import AgentRuntime.Llm.ResourceManager
import AgentRuntime.Llm.Progress
import AgentRuntime.Llm.Counters
import AgentRuntime.Orchestration.Metering
import AgentRuntime.Graph.Exhaustion
import AgentRuntime.Graph.Limits
import AgentRuntime.Graph.Segments
import AgentRuntime.Graph.Selector
import AgentRuntime.Graph.LiveModels
import AgentRuntime.Llm.ModelList
import AgentRuntime.Mcp.ToolList
import AgentRuntime.Inventory.Service
import AgentRuntime.Inventory.Loads
import AgentRuntime.Inventory.Staleness
import AgentRuntime.Inventory.Invalidation
import AgentRuntime.Mcp.Handshake
import AgentRuntime.Graph.ContextBounds
import AgentRuntime.Graph.Omissions
import AgentRuntime.Mcp.Selection
import AgentRuntime.Graph.Deduplication
import AgentRuntime.Conversation.Memory
import AgentRuntime.Conversation.Lifetime
import AgentRuntime.Conversation.Redis
import AgentRuntime.Conversation.Isolation
import AgentRuntime.Conversation.RedisCalls
import AgentRuntime.Conversation.Repeats
import AgentRuntime.Conversation.Postgres
import AgentRuntime.Conversation.Turns
import AgentRuntime.Conversation.RedisThread
import AgentRuntime.Conversation.PostgresThread
import AgentRuntime.Conversation.Agreement
import AgentRuntime.Graph.Shapes
import AgentRuntime.Graph.Residue
import AgentRuntime.Orchestration.FreshRuns
import AgentRuntime.Data.Python
import AgentRuntime.Graph.Uri
import AgentRuntime.Lib.Fallible
import AgentRuntime.Graph.Evidence
import AgentRuntime.Graph.Routing
import AgentRuntime.Graph.Robustness
import AgentRuntime.Orchestration.Gate
import AgentRuntime.Lib.Ledger
import AgentRuntime.State.Runtime
import AgentRuntime.State.Lifecycle
import AgentRuntime.Mcp.Timeouts
import AgentRuntime.Lib.Ladder
import AgentRuntime.Lib.Base64
import AgentRuntime.Lib.EventStream
import AgentRuntime.Orchestration.ResumeToken
import AgentRuntime.Orchestration.TokenRoundTrip
import AgentRuntime.Orchestration.PythonRequest
import AgentRuntime.Orchestration.Hashable
import AgentRuntime.Orchestration.SpelledRequest
import AgentRuntime.Orchestration.TokenErrors
import AgentRuntime.Orchestration.TokenSize
import AgentRuntime.Agents.Compaction
import AgentRuntime.Api.Chat
import AgentRuntime.Api.Stream
import AgentRuntime.Lib.Members
import AgentRuntime.Orchestration.PythonRequest
import AgentRuntime.Orchestration.Hashable
import AgentRuntime.Orchestration.Hashable
