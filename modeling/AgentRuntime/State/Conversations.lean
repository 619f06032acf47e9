import AgentRuntime.Lib.Dict

/-!
# The conversation store

Port of `append_turn` of `state/base.py` and of its PostgreSQL implementation in `state/postgres.py`.
-/

namespace AgentRuntime.State

/-- The arguments of `append_turn`. -/
structure ChatTurn where
  threadId : String
  runId : String
  userMessage : String
  assistantMessage : String
deriving DecidableEq, Repr

/-- Conversation-history abstraction (source `ConversationStore`): `append_turn` tells whether it has
    added the turn. -/
structure ConversationStore where
  τ : Type
  empty : τ
  appendTurn (turn : ChatTurn) : τ → Bool × τ

/-- source `PostgresConversationStore`: the tables `app_conversation_turn_commits` and
    `app_conversation_messages` -/
structure PostgresConversationStore where
  commits : List (String × String) := []
  messages : Dict (List (String × String)) := ∅

namespace PostgresConversationStore

/-- source `PostgresConversationStore.append_turn`, with `_trim` -/
def appendTurn (maxMessages : Nat) (turn : ChatTurn) (store : PostgresConversationStore) :
    Bool × PostgresConversationStore :=
  if (turn.threadId, turn.runId) ∈ store.commits then (false, store)
  else
    let messages := (store.messages.lookup turn.threadId).getD [] ++
      [("user", turn.userMessage), ("assistant", turn.assistantMessage)]
    (true,
      { commits := store.commits ++ [(turn.threadId, turn.runId)]
        messages := store.messages.insert turn.threadId
          (messages.drop (messages.length - maxMessages)) })

end PostgresConversationStore

/-- The PostgreSQL conversation store. -/
def postgresConversations (maxMessages : Nat) : ConversationStore where
  τ := PostgresConversationStore
  empty := {}
  appendTurn := PostgresConversationStore.appendTurn maxMessages

end AgentRuntime.State
