import AgentRuntime.Conversation.Thread
import AgentRuntime.Lib.Dict
import AgentRuntime.State.RunRecord
import Mathlib.Data.Finset.Insert

/-!
# The conversation store in memory

Port of `state/in_memory.py`. Every method runs under the lock of the store and has no await there, so a
call is one step. The `OrderedDict` of the sessions is a dictionary whose newest entry comes first: writing
an entry and moving it to the end is one insertion.
-/

namespace AgentRuntime.Conversation
open State

/-- The limits of a store; `__init__` refuses others. -/
structure MemoryLimits where
  ttlSeconds : Nat
  maxSessions : Nat
  maxMessages : Nat
  ttl_pos : 0 < ttlSeconds := by decide
  sessions_pos : 0 < maxSessions := by decide
  messages_pos : 0 < maxMessages := by decide

/-- source `BoundedInMemoryStore.__init__` -/
def MemoryLimits.check (ttlSeconds maxSessions maxMessages : Int) : Except String MemoryLimits :=
  if ttl : ttlSeconds ≤ 0 then .error "ttl_seconds must be positive"
  else if sessions : maxSessions ≤ 0 then .error "max_sessions must be positive"
  else if messages : maxMessages ≤ 0 then .error "max_messages must be positive"
  else
    .ok
      { ttlSeconds := ttlSeconds.toNat
        maxSessions := maxSessions.toNat
        maxMessages := maxMessages.toNat
        ttl_pos := by omega
        sessions_pos := by omega
        messages_pos := by omega }

/-- A session, with the time of its last touch. -/
structure Session where
  touchedAt : Time
  messages : List Message

/-- source `BoundedInMemoryStore` -/
structure BoundedInMemoryStore where
  data : Dict Session := ∅
  committedRuns : Dict (Finset String) := ∅

/-- A call of a method of a conversation store. -/
inductive StoreOperation where
  | get (key : String)
  | append (key : String) (messages : List Message)
  | appendTurn (key runId : String) (userMessage assistantMessage : Message)
  | clear (key : Option String)
  | health

/-- A call, and the time of the clock at it. -/
structure StoreCall where
  now : Time
  operation : StoreOperation

namespace BoundedInMemoryStore

variable (limits : MemoryLimits)

/-- The session was idle for more than the time to live. -/
def expired (now : Time) (session : Session) : Bool :=
  session.touchedAt < now - seconds limits.ttlSeconds

/-- The session of the key is gone, and the runs that were committed to it. -/
def remove (store : BoundedInMemoryStore) (key : String) : BoundedInMemoryStore where
  data := store.data.erase key
  committedRuns := store.committedRuns.erase key

/-- source `_purge` -/
def purge (now : Time) (store : BoundedInMemoryStore) : BoundedInMemoryStore :=
  let expiredKeys := store.data.keys.filter fun key => (store.data.lookup key).any (expired limits now)
  expiredKeys.foldl remove store

/-- The session that was touched least recently is gone. -/
def popOldest (store : BoundedInMemoryStore) : BoundedInMemoryStore :=
  match store.data.keys.getLast? with
  | some key => store.remove key
  | none => store

/-- The loop of `_append_locked`: sessions go until no more than the limit are left. -/
def evict (store : BoundedInMemoryStore) : BoundedInMemoryStore :=
  popOldest^[store.data.keys.length - limits.maxSessions] store

/-- source `_append_locked`, after its purge -/
def appendLocked (key : String) (messages : List Message) (now : Time)
    (store : BoundedInMemoryStore) : BoundedInMemoryStore :=
  let current := match store.data.lookup key with
    | some session => session.messages
    | none => []
  let updated := lastOf limits.maxMessages (current ++ messages)
  evict limits
    { store with data := store.data.insert key { touchedAt := now, messages := updated } }

/-- source `get` -/
def get (key : String) (now : Time) (store : BoundedInMemoryStore) :
    StoreResult × BoundedInMemoryStore :=
  if key = "" then (.messages [], store)
  else
    let store := purge limits now store
    match store.data.lookup key with
    | none => (.messages [], store)
    | some session =>
      (.messages session.messages,
        { store with
          data := store.data.insert key { touchedAt := now, messages := session.messages } })

/-- source `append` -/
def append (key : String) (messages : List Message) (now : Time) (store : BoundedInMemoryStore) :
    StoreResult × BoundedInMemoryStore :=
  if key = "" then (.refused "conversation key must not be empty", store)
  else if messages = [] then (.appended, store)
  else (.appended, appendLocked limits key messages now (purge limits now store))

/-- source `append_turn` -/
def appendTurn (key runId : String) (userMessage assistantMessage : Message) (now : Time)
    (store : BoundedInMemoryStore) : StoreResult × BoundedInMemoryStore :=
  if key = "" ∨ runId = "" then (.refused "conversation key and run_id must not be empty", store)
  else
    let store := purge limits now store
    let committed := (store.committedRuns.lookup key).getD ∅
    -- `setdefault` leaves the empty set in the dictionary
    let store := { store with committedRuns := store.committedRuns.insert key committed }
    if runId ∈ committed then (.committed false, store)
    else
      let store := appendLocked limits key [userMessage, assistantMessage] now store
      let store := match store.committedRuns.lookup key with
        | some runs => { store with committedRuns := store.committedRuns.insert key (insert runId runs) }
        | none => store
      (.committed true, store)

/-- source `clear` -/
def clear (key : Option String) (store : BoundedInMemoryStore) : StoreResult × BoundedInMemoryStore :=
  match key with
  | none => (.cleared, {})
  | some key => (.cleared, store.remove key)

/-- source `health`, the number of sessions in it -/
def health (now : Time) (store : BoundedInMemoryStore) : StoreResult × BoundedInMemoryStore :=
  let store := purge limits now store
  (.available store.data.keys.length, store)

/-- A call of a method. -/
def perform (store : BoundedInMemoryStore) (call : StoreCall) : StoreResult × BoundedInMemoryStore :=
  match call.operation with
  | .get key => get limits key call.now store
  | .append key messages => append limits key messages call.now store
  | .appendTurn key runId userMessage assistantMessage =>
    appendTurn limits key runId userMessage assistantMessage call.now store
  | .clear key => clear key store
  | .health => health limits call.now store

end BoundedInMemoryStore

end AgentRuntime.Conversation
