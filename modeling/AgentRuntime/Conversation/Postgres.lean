import AgentRuntime.Conversation.Thread
import AgentRuntime.Mcp.Results
import AgentRuntime.State.Postgres

/-!
# The conversation store in PostgreSQL

Port of `state/postgres.py` over the tables that its `start` creates. A method is one transaction, which a
refused value or a violated constraint rolls back. The rows of a table are in the order of their insertion;
their sequence numbers do not come to the end of `BIGINT`. The store was started.
-/

namespace AgentRuntime.Conversation

/-- A row of `app_conversation_messages`. -/
structure MessageRow where
  threadId : String
  sequenceNo : Nat
  role : String
  content : String
  metadata : JsonObject
  runId : Option String := none
  messageKind : Option String := none

/-- The tables `app_conversation_messages` and `app_conversation_turn_commits`, the second by the columns of
    its primary key. -/
structure ConversationTables where
  messages : List MessageRow := []
  turnCommits : List (String × String) := []

/-- source `PostgresConversationStore`, with its driver; `pyRepr` is Python's `repr` -/
structure PostgresConversationStore where
  maxMessages : Nat
  driver : State.Driver
  pyRepr : Json → String

namespace ConversationTables

variable (tables : ConversationTables) (threadId : String)

/-- The rows of a thread. -/
def rowsOf : List MessageRow := tables.messages.filter fun row => row.threadId = threadId

/-- `ORDER BY sequence_no DESC LIMIT ...` -/
def latest (limit : Nat) : List MessageRow :=
  ((tables.rowsOf threadId).mergeSort fun a b => decide (b.sequenceNo ≤ a.sequenceNo)).take limit

/-- source `_next_sequence` -/
def nextSequence : Nat := ((tables.rowsOf threadId).map MessageRow.sequenceNo).foldr max 0 + 1

/-- source `_trim` -/
def trim (limit : Nat) : ConversationTables :=
  { tables with
    messages := tables.messages.filter fun row =>
      !(row.threadId = threadId &&
        !((tables.latest threadId limit).map MessageRow.sequenceNo).contains row.sequenceNo) }

end ConversationTables

/-- The row violates one of the two `UNIQUE` constraints. -/
def MessageRow.conflicts (row : MessageRow) (rows : List MessageRow) : Bool :=
  rows.any fun other => other.threadId = row.threadId &&
    (other.sequenceNo = row.sequenceNo ||
      other.runId.isSome && other.messageKind.isSome && other.runId = row.runId &&
        other.messageKind = row.messageKind)

/-- `INSERT ... ON CONFLICT DO NOTHING`, row by row -/
def insertOrIgnore (rows : List MessageRow) : List MessageRow → List MessageRow
  | [] => rows
  | row :: more => insertOrIgnore (if row.conflicts rows then rows else rows ++ [row]) more

/-- `INSERT`, row by row -/
def insertRows (rows : List MessageRow) : List MessageRow → Except StoreError (List MessageRow)
  | [] => pure rows
  | row :: more => if row.conflicts rows then .error .uniqueViolation else insertRows (rows ++ [row]) more

namespace PostgresConversationStore

variable (store : PostgresConversationStore)

/-- A text as a parameter of a statement. -/
def textParameter (text : String) : Except StoreError String :=
  if State.storableText text then pure text else .error .dataError

def uuidParameter (text : String) : Except StoreError String :=
  match store.driver.uuid text with
  | some canonical => pure canonical
  | none => .error .dataError

def jsonbParameter (object : JsonObject) : Except StoreError JsonObject :=
  match store.driver.jsonb object with
  | some stored => pure stored
  | none => .error .dataError

/-- `str(message.get(key, default))` -/
def fieldText (message : Message) (key default : String) : String :=
  match JsonObject.get? message key with
  | some value => Mcp.pyStr store.pyRepr value
  | none => default

/-- `message.get("metadata") or {}`; what is no object is read back as the empty one -/
def metadataOf (message : Message) : JsonObject :=
  match JsonObject.get? message "metadata" with
  | some (.obj metadata) => metadata
  | _ => []

/-- The record that an `INSERT` is given for a message. -/
def record (threadId : String) (sequenceNo : Nat) (message : Message) (defaultRole : String)
    (runId messageKind : Option String) : Except StoreError MessageRow := do
  let role ← textParameter (store.fieldText message "role" defaultRole)
  let content ← textParameter (store.fieldText message "content" "")
  let metadata ← store.jsonbParameter (metadataOf message)
  pure { threadId, sequenceNo, role, content, metadata, runId, messageKind }

/-- The records of the messages of a call of `append`. -/
def records (threadId : String) : Nat → List Message → Except StoreError (List MessageRow)
  | _, [] => pure []
  | sequenceNo, message :: messages => do
    let row ← store.record threadId sequenceNo message "assistant" none none
    let rows ← records threadId (sequenceNo + 1) messages
    pure (row :: rows)

/-- The message that `get` returns for a row; the text of a JSON column is never empty. -/
def messageOf (row : MessageRow) : Message :=
  [("role", .str row.role), ("content", .str row.content), ("metadata", .obj row.metadata)]

/-- source `get` -/
def get (threadId : String) (tables : ConversationTables) :
    Except StoreError (StoreResult × ConversationTables) := do
  let threadId ← textParameter threadId
  pure (.messages ((tables.latest threadId store.maxMessages).reverse.map messageOf), tables)

/-- source `append` -/
def append (threadId : String) (messages : List Message) (tables : ConversationTables) :
    Except StoreError (StoreResult × ConversationTables) :=
  if messages = [] then pure (.appended, tables)
  else do
    let threadId ← textParameter threadId
    let records ← store.records threadId (tables.nextSequence threadId) messages
    let rows ← insertRows tables.messages records
    pure (.appended, { tables with messages := rows }.trim threadId store.maxMessages)

/-- source `append_turn` -/
def appendTurn (threadId runId : String) (userMessage assistantMessage : Message)
    (tables : ConversationTables) : Except StoreError (StoreResult × ConversationTables) := do
  let threadId ← textParameter threadId
  let runId ← store.uuidParameter runId
  if (threadId, runId) ∈ tables.turnCommits then pure (.committed false, tables)
  else
    let next := tables.nextSequence threadId
    let user ← store.record threadId next userMessage "user" (some runId) (some "user")
    let assistant ← store.record threadId (next + 1) assistantMessage "assistant" (some runId)
      (some "assistant")
    let tables' : ConversationTables :=
      { messages := insertOrIgnore tables.messages [user, assistant]
        turnCommits := tables.turnCommits ++ [(threadId, runId)] }
    pure (.committed true, tables'.trim threadId store.maxMessages)

/-- source `clear` -/
def clear (threadId : String) (tables : ConversationTables) :
    Except StoreError (StoreResult × ConversationTables) := do
  let threadId ← textParameter threadId
  pure (.cleared,
    { messages := tables.messages.filter fun row => row.threadId ≠ threadId
      turnCommits := tables.turnCommits.filter fun commit => commit.1 ≠ threadId })

/-- The transaction of a method. -/
def statements (call : ThreadCall) (tables : ConversationTables) :
    Except StoreError (StoreResult × ConversationTables) :=
  match call.operation with
  | .get => store.get call.threadId tables
  | .append messages => store.append call.threadId messages tables
  | .appendTurn runId userMessage assistantMessage =>
    store.appendTurn call.threadId runId userMessage assistantMessage tables
  | .clear => clear call.threadId tables

/-- A call of a method; a transaction is rolled back when a statement of it fails. -/
def perform (call : ThreadCall) (tables : ConversationTables) :
    Except StoreError StoreResult × ConversationTables :=
  match store.statements call tables with
  | .ok (answer, tables') => (.ok answer, tables')
  | .error error => (.error error, tables)

end PostgresConversationStore

end AgentRuntime.Conversation
