import AgentRuntime.State.RunRecord
import Mathlib.Data.List.Forall2

/-!
# Threads of a conversation

What a conversation store keeps for one thread, as its callers see it: the messages that were appended to
it since it was cleared, of which the last ones are shown, and the runs whose turns were appended.
-/

namespace AgentRuntime.Conversation

/-- A message of a conversation, a `dict[str, Any]`. -/
abbrev Message := JsonObject

/-- `items[-count:]` for a positive count -/
def lastOf {α : Type} (count : Nat) (items : List α) : List α := items.drop (items.length - count)

/-- A thread: the messages that were appended to it, and the runs whose turns were. -/
structure Thread where
  messages : List Message := []
  runs : List String := []

/-- What a call of a store returns, or the message of its `ValueError`. -/
inductive StoreResult where
  | messages (messages : List Message)
  | appended
  | committed (added : Bool)
  | cleared
  | available (sessions : Nat)
  | refused (message : String)

/-- The errors of the servers and drivers behind a store, and of what it reads from them. -/
inductive StoreError where
  | responseError (message : String)
  | jsonDecodeError
  | dataError
  | uniqueViolation
deriving DecidableEq

/-- A call of a method of a conversation store (source `ConversationStore`) on one thread. -/
inductive ThreadOperation where
  | get
  | append (messages : List Message)
  | appendTurn (runId : String) (userMessage assistantMessage : Message)
  | clear

/-- A call on a thread, and the time of the server's clock at it. -/
structure ThreadCall where
  now : Time
  threadId : String
  operation : ThreadOperation

namespace Thread

def append (thread : Thread) (messages : List Message) : Thread :=
  { thread with messages := thread.messages ++ messages }

/-- A turn is appended once for each run. -/
def appendTurn (thread : Thread) (runId : String) (userMessage assistantMessage : Message) :
    Bool × Thread :=
  if runId ∈ thread.runs then (false, thread)
  else
    (true,
      { messages := thread.messages ++ [userMessage, assistantMessage]
        runs := thread.runs ++ [runId] })

end Thread

section LastOf

variable {α : Type} (count : Nat)

@[simp] lemma lastOf_nil : lastOf count ([] : List α) = [] := List.drop_nil

lemma length_lastOf (items : List α) : (lastOf count items).length = min count items.length := by
  rw [lastOf, List.length_drop]
  omega

lemma lastOf_of_le {items : List α} (le : items.length ≤ count) : lastOf count items = items := by
  rw [lastOf, Nat.sub_eq_zero_of_le le, List.drop_zero]

/-- What is appended to the last items has the same last items as what is appended to all. -/
lemma lastOf_append (items later : List α) :
    lastOf count (lastOf count items ++ later) = lastOf count (items ++ later) := by
  have kept : lastOf count items ++ later = (items ++ later).drop (items.length - count) :=
    (List.drop_append_of_le_length (Nat.sub_le _ _)).symm
  rw [kept, lastOf, List.length_drop, List.drop_drop, lastOf, List.length_append]
  congr 1
  omega

lemma lastOf_lastOf (items : List α) : lastOf count (lastOf count items) = lastOf count items := by
  have appended := lastOf_append count items []
  rwa [List.append_nil, List.append_nil] at appended

lemma lastOf_map {β : Type} (f : α → β) (items : List α) :
    lastOf count (items.map f) = (lastOf count items).map f := by
  rw [lastOf, lastOf, List.length_map, List.map_drop]

lemma forall₂_lastOf {β : Type} {R : α → β → Prop} {items : List α} {others : List β}
    (related : List.Forall₂ R items others) :
    List.Forall₂ R (lastOf count items) (lastOf count others) := by
  rw [lastOf, lastOf, related.length_eq]
  exact List.forall₂_drop _ related

end LastOf

end AgentRuntime.Conversation
