import AgentRuntime.Conversation.Lifetime
import AgentRuntime.Data.JsonText
import AgentRuntime.Data.Text
import AgentRuntime.State.Postgres

/-!
# The calls of the runtime on a thread

What the runtime asks of a conversation store: the history of a thread, a turn for a run, and an empty thread.
A thread itself answers these calls; a store shows one when it gives the same answers. The store in memory
does as long as the session of the thread is not idle for too long.
-/

namespace AgentRuntime.Conversation
open State Transition Text

/-- The last messages of a thread, and whether a turn is new to it. -/
def Thread.perform (maxMessages : Nat) (thread : Thread) : ThreadOperation → StoreResult × Thread
  | .get => (.messages (lastOf maxMessages thread.messages), thread)
  | .append messages => (.appended, thread.append messages)
  | .appendTurn runId userMessage assistantMessage =>
    let (added, thread') := thread.appendTurn runId userMessage assistantMessage
    (.committed added, thread')
  | .clear => (.cleared, {})

/-- A message as `_append_history_safely` builds it. -/
structure RuntimeMessage where
  role : String
  content : String
  conversationId : String
  runId : String

/-- A call of the runtime. -/
inductive RuntimeCall where
  | get
  | appendTurn (runId : String) (userMessage assistantMessage : RuntimeMessage)
  | clear

namespace RuntimeMessage

variable (message : RuntimeMessage)

def metadata : JsonObject :=
  [("conversation_id", .str message.conversationId), ("run_id", .str message.runId)]

def toMessage : Message :=
  [("role", .str message.role), ("content", .str message.content), ("metadata", .obj message.metadata)]

/-- There is no NUL character in a text of the message. -/
def storable : Bool :=
  storableText message.role && storableText message.content && storableText message.conversationId &&
    storableText message.runId

lemma valid : (Json.obj message.toMessage).Valid := by
  have inner : ["conversation_id", "run_id"].Nodup := by decide
  have outer : ["role", "content", "metadata"].Nodup := by decide
  have metadata : (Json.obj message.metadata).Valid :=
    .obj inner (by simp [RuntimeMessage.metadata, Json.Valid.str])
  exact .obj outer (by simp [toMessage, Json.Valid.str, metadata])

end RuntimeMessage

namespace RuntimeCall

def operation : RuntimeCall → ThreadOperation
  | .get => .get
  | .appendTurn runId userMessage assistantMessage =>
    .appendTurn runId userMessage.toMessage assistantMessage.toMessage
  | .clear => .clear

/-- The call with the key of the store in memory. -/
def on (key : String) : RuntimeCall → StoreOperation
  | .get => .get key
  | .appendTurn runId userMessage assistantMessage =>
    .appendTurn key runId userMessage.toMessage assistantMessage.toMessage
  | .clear => .clear (some key)

/-- The run id is a canonical UUID. -/
def canonical : RuntimeCall → Bool
  | .appendTurn runId _ _ => canonicalUuid runId
  | _ => true

/-- There is no NUL character in a text of the call. -/
def storable : RuntimeCall → Bool
  | .appendTurn _ userMessage assistantMessage => userMessage.storable && assistantMessage.storable
  | _ => true

end RuntimeCall

namespace BoundedInMemoryStore

variable {limits : MemoryLimits} {key : String}

/-- The event is the call, and does not find the session idle for too long. -/
def Makes (limits : MemoryLimits) (key : String) (e : MemoryEvent) (call : RuntimeCall) : Prop :=
  e.label.operation = call.on key ∧ ¬ IdlesOut limits key e

/-- The thread is the one of the session, and there are not too many sessions. -/
structure Follows (limits : MemoryLimits) (key : String) (store : BoundedInMemoryStore) (thread : Thread) :
    Prop where
  shows : Shows limits store key thread
  sessions : store.data.keys.length ≤ limits.maxSessions

lemma Follows.start : Follows limits key {} {} := ⟨Holds.start.shows key, Nat.zero_le _⟩

/-- A call on the only thread does not make it go. -/
lemma on_stays {mid : BoundedInMemoryStore} {call : RuntimeCall} {result : StoreResult} :
    ¬ ∃ other, appendsTo (call.on key) result = some other ∧ Evicted limits mid other key := by
  rintro ⟨other, appends, evicted⟩
  refine evicted.ne ?_
  cases call with
  | appendTurn => cases result with
    | committed added =>
      cases added with
      | true => exact Option.some.inj appends
      | false => cases appends
    | _ => cases appends
  | _ => cases appends

/-- The store in memory answers the calls on a thread as the thread does. -/
lemma Follows.step {e : MemoryEvent} {call : RuntimeCall} {thread : Thread} (named : key ≠ "")
    (canonical : call.canonical = true) (follows : Follows limits key e.pre thread)
    (st : Step limits e.pre e.label e.post) (makes : Makes limits key e call) :
    result limits e = (thread.perform limits.maxMessages call.operation).1 ∧
      Follows limits key e.post (thread.perform limits.maxMessages call.operation).2 := by
  obtain ⟨meant, busy⟩ := makes
  have dropped := @purged_drops limits e.pre e.label
  have effect := st.effect follows.sessions
  have sessions := effect.sessions dropped follows.sessions
  have shows := follows.shows.kept dropped busy
  have same : e.label.operation.purges = false → purged limits e.pre e.label = e.pre := fun quiet => by
    rw [purged, quiet]
    rfl
  rw [meant] at effect same
  -- the call acts on what the purge has left
  generalize result limits e = result, e.post = post, purged limits e.pre e.label = mid
    at effect sessions shows same ⊢
  cases call with
  | clear =>
    have cleared := @effect.clears _ _ _ _ _ _ _ key rfl
    cases effect with
    | ignored _ quiet => exact absurd rfl (quiet key)
    | cleared => exact ⟨rfl, cleared.1, sessions⟩
  | get =>
    have after := (shows.effect effect (fun h => h) same).2 on_stays
    refine ⟨?_, after, sessions⟩
    cases effect with
    | ignored _ _ reads => exact absurd (reads key rfl).1 named
    | missed _ absent =>
      rw [shows.absent absent]
      exact congrArg StoreResult.messages (lastOf_nil _).symm
    | hit _ found => exact congrArg StoreResult.messages (shows.messages _ found)
  | appendTurn runId userMessage assistantMessage =>
    have given : key = key ∧ key ≠ "" ∧ runId ≠ "" := by
      refine ⟨rfl, named, ?_⟩
      rintro rfl
      exact absurd (show canonicalUuid "" = true from canonical) (by decide)
    have after := (shows.effect effect (fun h => h) same).2 on_stays
    rw [RuntimeCall.on, Thread.after, if_pos given] at after
    refine ⟨?_, after, sessions⟩
    cases effect with
    | ignored quiet => simp [RuntimeCall.on, StoreOperation.purges, given] at quiet
    | skipped _ known =>
      simp only [RuntimeCall.operation, Thread.perform, Thread.appendTurn]
      rw [if_pos ((shows.runs runId).mp known)]
    | turn _ new =>
      simp only [RuntimeCall.operation, Thread.perform, Thread.appendTurn]
      rw [if_neg fun known => new ((shows.runs runId).mpr known)]

end BoundedInMemoryStore

end AgentRuntime.Conversation
