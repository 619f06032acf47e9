import AgentRuntime.Conversation.Thread
import AgentRuntime.Data.JsonText
import AgentRuntime.Data.Text
import AgentRuntime.Lib.Command
import AgentRuntime.Lib.Glob
import Mathlib.Data.Finset.Insert

/-!
# The conversation store in Redis

Port of `state/redis.py`, over the commands of Redis that it uses. A key holds a list or a set and can have
a time at which it expires; a command does not see a key whose time has passed, and a command for a list
fails on a set and the other way round. A pipeline with `MULTI` and a script are one step. The client was
started; its connection is not modelled.
-/

namespace AgentRuntime.Conversation
open State

/-- What a key can hold, of the types that the store uses. -/
inductive RedisValue where
  | list (items : List String)
  | set (members : Finset String)

/-- What is at a key. -/
structure RedisEntry where
  value : RedisValue
  expiresAt : Option Time := none

/-- The keys of a Redis server. -/
abbrev Keyspace := Dict RedisEntry

/-- Commands that a Redis server performs. -/
abbrev Redis := Command Keyspace StoreError

namespace Redis

def wrongType : StoreError :=
  .responseError "WRONGTYPE Operation against a key holding the wrong kind of value"

/-- The entry has not expired. -/
def live (now : Time) (entry : RedisEntry) : Bool := entry.expiresAt.all fun time => now ≤ time

/-- What a command sees at a key. -/
def find (now : Time) (key : String) (keyspace : Keyspace) : Option RedisEntry :=
  (keyspace.lookup key).filter (live now)

def put (key : String) (entry : Option RedisEntry) (keyspace : Keyspace) : Keyspace :=
  match entry with
  | none => keyspace.erase key
  | some entry => keyspace.insert key entry

variable {α : Type}

/-- A command that reads one key. -/
def query (now : Time) (key : String) (f : Option RedisEntry → Except StoreError α) : Redis α :=
  .ofFunction fun keyspace => (f (find now key keyspace), keyspace)

/-- A command that reads and writes one key. -/
def update (now : Time) (key : String)
    (f : Option RedisEntry → Except StoreError (α × Option RedisEntry)) : Redis α :=
  .ofFunction fun keyspace =>
    match f (find now key keyspace) with
    | .ok (answer, entry) => (.ok answer, put key entry keyspace)
    | .error error => (.error error, keyspace)

/-- The items of a list; a key that does not exist is an empty list. -/
def itemsOf : Option RedisEntry → Except StoreError (List String)
  | none => .ok []
  | some ⟨.list items, _⟩ => .ok items
  | some ⟨.set _, _⟩ => .error wrongType

/-- The members of a set; a key that does not exist is an empty set. -/
def membersOf : Option RedisEntry → Except StoreError (Finset String)
  | none => .ok ∅
  | some ⟨.list _, _⟩ => .error wrongType
  | some ⟨.set members, _⟩ => .ok members

/-- The items from one index to another, where -1 is the last one. -/
def slice {α : Type} (first last : Int) (items : List α) : List α :=
  let index (i : Int) : Int := if i < 0 then i + items.length else i
  (items.take (index last + 1).toNat).drop (index first).toNat

section Commands

variable (now : Time) (key : String)

def rpush (values : List String) : Redis Nat :=
  update now key fun entry => do
    let items ← itemsOf entry
    pure ((items ++ values).length,
      some { value := .list (items ++ values), expiresAt := entry.bind RedisEntry.expiresAt })

/-- A list without items is no key. -/
def ltrim (first last : Int) : Redis Unit :=
  update now key fun entry => do
    let kept := slice first last (← itemsOf entry)
    pure ((), if kept = [] then none
      else some { value := .list kept, expiresAt := entry.bind RedisEntry.expiresAt })

def lrange (first last : Int) : Redis (List String) :=
  query now key fun entry => do
    pure (slice first last (← itemsOf entry))

/-- A time to live that is not positive removes the key. -/
def expire (ttlSeconds : Int) : Redis Bool :=
  update now key fun
    | none => pure (false, none)
    | some entry =>
      pure (true, if ttlSeconds ≤ 0 then none
        else some { entry with expiresAt := some (now + seconds ttlSeconds) })

def sismember (member : String) : Redis Bool :=
  query now key fun entry => do
    pure (decide (member ∈ (← membersOf entry)))

def sadd (member : String) : Redis Unit :=
  update now key fun entry => do
    let members ← membersOf entry
    pure ((), some { value := .set (insert member members), expiresAt := entry.bind RedisEntry.expiresAt })

def existsKey : Redis Bool := query now key fun entry => pure entry.isSome

end Commands

/-- `DEL` -/
def delete (keys : List String) : Redis Unit :=
  .ofFunction fun keyspace => (.ok (), keys.foldl (fun keyspace key => keyspace.erase key) keyspace)

/-- The keys that a complete iteration of `SCAN` with a pattern gives. -/
def scanIter (now : Time) (pattern : String) : Redis (List String) :=
  .ofFunction fun keyspace =>
    (.ok (keyspace.keys.filter fun key => (find now key keyspace).isSome && Glob.isMatch pattern key),
      keyspace)

end Redis

/-- source `RedisConversationStore`; `floats` is Python's reading and writing of floats -/
structure RedisConversationStore where
  keyPrefix : String
  ttlSeconds : Nat
  maxMessages : Nat
  floats : FloatCodec

namespace RedisConversationStore
open Redis

/-- source `RedisConversationStore.__init__` -/
def create (keyPrefix : String) (ttlSeconds maxMessages : Nat) (floats : FloatCodec) :
    RedisConversationStore where
  keyPrefix := String.ofList (keyPrefix.toList.reverse.dropWhile (· = ':')).reverse
  ttlSeconds := ttlSeconds
  maxMessages := maxMessages
  floats := floats

variable (store : RedisConversationStore)

/-- source `_key` -/
def key (threadId : String) : String := store.keyPrefix ++ ":" ++ threadId

/-- source `_turns_key` -/
def turnsKey (threadId : String) : String := store.keyPrefix ++ ":turns:" ++ threadId

/-- source `_turn_key` -/
def turnKey (threadId runId : String) : String :=
  store.keyPrefix ++ ":turn:" ++ threadId ++ ":" ++ runId

/-- `json.dumps(dict(message), ensure_ascii=False)` -/
def encode (message : Message) : String := (Json.obj message).text store.floats { ascii := false }

/-- The loop of `get`: what is not an object is left out. -/
def decode : List String → Except StoreError (List Message)
  | [] => .ok []
  | value :: values =>
    match Json.parse store.floats value with
    | none => .error .jsonDecodeError
    | some (.obj message) => do
      let messages ← decode values
      pure (message :: messages)
    | some _ => decode values

/-- source `get` -/
def get (threadId : String) (now : Time) : Redis StoreResult := do
  let values ← lrange now (store.key threadId) (-store.maxMessages) (-1)
  match store.decode values with
  | .ok messages => pure (.messages messages)
  | .error error => throw error

/-- source `append` -/
def append (threadId : String) (messages : List Message) (now : Time) : Redis StoreResult :=
  if messages = [] then pure .appended
  else do
    let key := store.key threadId
    .transaction
      [ discard (rpush now key (messages.map store.encode)),
        ltrim now key (-store.maxMessages) (-1),
        discard (expire now key store.ttlSeconds) ]
    pure .appended

/-- The condition of `_APPEND_TURN_SCRIPT`: the run is in the set, or has a marker of an earlier version. -/
def isCommitted (turnsKey turnKey runId : String) (now : Time) : Redis Bool := do
  let member ← sismember now turnsKey runId
  if member then pure true else existsKey now turnKey

/-- source `_APPEND_TURN_SCRIPT`, with its `KEYS` and `ARGV` -/
def appendTurnScript (key turnsKey turnKey : String) (ttlSeconds : Nat) (runId : String)
    (userMessage assistantMessage : String) (maxMessages : Nat) (now : Time) : Redis Bool := do
  let committed ← isCommitted turnsKey turnKey runId now
  if committed then
    sadd now turnsKey runId
    discard (expire now turnsKey ttlSeconds)
    pure false
  else
    sadd now turnsKey runId
    discard (expire now turnsKey ttlSeconds)
    discard (rpush now key [userMessage, assistantMessage])
    ltrim now key (-maxMessages) (-1)
    discard (expire now key ttlSeconds)
    pure true

/-- source `append_turn` -/
def appendTurn (threadId runId : String) (userMessage assistantMessage : Message) (now : Time) :
    Redis StoreResult := do
  let added ← appendTurnScript (store.key threadId) (store.turnsKey threadId)
    (store.turnKey threadId runId) store.ttlSeconds runId (store.encode userMessage)
    (store.encode assistantMessage) store.maxMessages now
  pure (.committed added)

/-- source `clear` -/
def clear (threadId : String) (now : Time) : Redis StoreResult := do
  let markerKeys ← scanIter now (store.turnKey threadId "*")
  delete (store.key threadId :: store.turnsKey threadId :: markerKeys)
  pure .cleared

/-- A call of a method. -/
def perform (call : ThreadCall) : Redis StoreResult :=
  match call.operation with
  | .get => store.get call.threadId call.now
  | .append messages => store.append call.threadId messages call.now
  | .appendTurn runId userMessage assistantMessage =>
    store.appendTurn call.threadId runId userMessage assistantMessage call.now
  | .clear => store.clear call.threadId call.now

end RedisConversationStore

end AgentRuntime.Conversation
