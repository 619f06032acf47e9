import AgentRuntime.Conversation.RedisCalls
import AgentRuntime.Conversation.Turns

/-!
# A thread in Redis

The keys of one conversation, as long as none of them expires: the list has the last messages of its thread,
and the set has the runs. The calls of the runtime answer as the thread does.
-/

namespace AgentRuntime.Conversation
open State Transition

namespace Redis

/-- No key has expired. -/
def Alive (now : Time) (keyspace : Keyspace) : Prop :=
  ∀ key entry, keyspace.lookup key = some entry → live now entry = true

section Alive

variable {now : Time} {keyspace : Keyspace}

lemma Alive.find (alive : Alive now keyspace) (key : String) :
    find now key keyspace = keyspace.lookup key := by
  rw [Redis.find]
  cases found : keyspace.lookup key with
  | none => rfl
  | some entry => rw [Option.filter_some, if_pos (alive key entry found)]

lemma Alive.put (alive : Alive now keyspace) {key : String} {entry : Option RedisEntry}
    (new : ∀ e ∈ entry, live now e = true) : Alive now (put key entry keyspace) := by
  intro k e found
  rw [lookup_put] at found
  split at found
  · exact new e found
  · exact alive k e found

end Alive

end Redis

namespace RedisConversationStore
open Redis

variable {store : RedisConversationStore} {threadId : String}

/-- The conversation has these items and these runs, and no markers; nothing has expired. -/
structure View (store : RedisConversationStore) (threadId : String) (now : Time) (items : List String)
    (runs : Finset String) (keyspace : Keyspace) : Prop where
  items : itemsOf (keyspace.lookup (store.key threadId)) = .ok items
  runs : membersOf (keyspace.lookup (store.turnsKey threadId)) = .ok runs
  unmarked : ∀ runId, keyspace.lookup (store.turnKey threadId runId) = none
  alive : Alive now keyspace

section View

variable {now : Time} {items : List String} {runs : Finset String} {keyspace : Keyspace}

/-- Nothing has expired, and there are no markers. -/
def Unmarked (store : RedisConversationStore) (threadId : String) (now : Time) (keyspace : Keyspace) :
    Prop :=
  (∀ runId, keyspace.lookup (store.turnKey threadId runId) = none) ∧ Alive now keyspace

/-- What a call puts at a key of the conversation is no marker and has not expired. -/
lemma Unmarked.free {key : String} (own : ∀ runId, store.turnKey threadId runId ≠ key) :
    FreeAt now (Unmarked store threadId now) key := by
  rintro keyspace entry ⟨unmarked, alive⟩ new
  refine ⟨fun runId => ?_, alive.put new⟩
  rw [lookup_put, if_neg (own runId)]
  exact unmarked runId

/-- A call sees all that a keyspace has in which nothing has expired. -/
lemma View.seen_iff : View store threadId now items runs keyspace ↔
    Seen store threadId now (Unmarked store threadId now) items runs (fun _ => false) keyspace := by
  constructor
  · intro view
    refine ⟨?_, ?_, fun runId => ?_, view.unmarked, view.alive⟩
    · rw [view.alive.find]
      exact view.items
    · rw [view.alive.find]
      exact view.runs
    · rw [view.alive.find, view.unmarked]
      rfl
  · rintro ⟨items, runs, -, unmarked, alive⟩
    rw [alive.find] at items runs
    exact ⟨items, runs, unmarked, alive⟩

end View

section Calls

variable {now : Time} {items : List String} {runs : Finset String}

lemma View.script (ttl : 0 < store.ttlSeconds) (limit : 0 < store.maxMessages) (runId user assistant : String) :
    (appendTurnScript (store.key threadId) (store.turnsKey threadId) (store.turnKey threadId runId)
      store.ttlSeconds runId user assistant store.maxMessages now).Returns
      (View store threadId now items runs) fun added keyspace =>
        added = decide (runId ∉ runs) ∧ View store threadId now
          (if runId ∈ runs then items else lastOf store.maxMessages (items ++ [user, assistant]))
          (insert runId runs) keyspace := by
  have key : FreeAt now (Unmarked store threadId now) (store.key threadId) :=
    Unmarked.free fun runId => (key_ne_turn runId).symm
  have turns : FreeAt now (Unmarked store threadId now) (store.turnsKey threadId) :=
    Unmarked.free fun runId => (turnsKey_ne_turnKey store _ _ runId).symm
  intro keyspace view
  rw [View.seen_iff] at view
  by_cases known : runId ∈ runs
  · have found : (decide (runId ∈ runs) || false) = true := by simp [known]
    obtain ⟨added, after, eq, rfl, seen⟩ := Seen.script_found ttl turns found user assistant keyspace view
    refine ⟨_, after, eq, by simp [known], ?_⟩
    rw [if_pos known]
    exact View.seen_iff.mpr seen
  · have unknown : (decide (runId ∈ runs) || false) = false := by simp [known]
    obtain ⟨added, after, eq, rfl, seen⟩ :=
      Seen.script_added ttl limit key turns unknown user assistant keyspace view
    refine ⟨_, after, eq, by simp [known], ?_⟩
    rw [if_neg known]
    exact View.seen_iff.mpr seen

/-- What was written is read back. -/
lemma decode_encode {messages : List Message} (valid : ∀ message ∈ messages, (Json.obj message).Valid) :
    store.decode (messages.map store.encode) = .ok messages := by
  induction messages with
  | nil => rfl
  | cons message messages ih =>
    have read := parse_text store.floats { ascii := false } (valid message List.mem_cons_self)
    rw [List.map_cons, decode, encode, read]
    dsimp only
    rw [ih fun message mem => valid message (List.mem_cons_of_mem _ mem)]
    rfl

/-- The keyspace has the thread. -/
structure Follows (store : RedisConversationStore) (threadId : String) (keyspace : Keyspace)
    (thread : Thread) : Prop where
  items : itemsOf (keyspace.lookup (store.key threadId)) =
    .ok ((lastOf store.maxMessages thread.messages).map store.encode)
  runs : membersOf (keyspace.lookup (store.turnsKey threadId)) = .ok thread.runs.toFinset
  unmarked : ∀ runId, keyspace.lookup (store.turnKey threadId runId) = none
  valid : ∀ message ∈ thread.messages, (Json.obj message).Valid

lemma Follows.start : Follows store threadId ∅ {} where
  items := by
    rw [lastOf_nil]
    rfl
  runs := rfl
  unmarked _ := rfl
  valid _ mem := absurd mem List.not_mem_nil

/-- The event is the call, at a time when nothing has expired. -/
def Makes (threadId : String) (e : Event Keyspace ThreadCall) (call : RuntimeCall) : Prop :=
  e.label.threadId = threadId ∧ e.label.operation = call.operation ∧ Alive e.label.now e.pre

/-- The store in Redis answers the calls on a thread as the thread does. -/
lemma Follows.step {e : Event Keyspace ThreadCall} {call : RuntimeCall} {thread : Thread}
    (ttl : 0 < store.ttlSeconds) (limit : 0 < store.maxMessages)
    (follows : Follows store threadId e.pre thread) (st : Step store e.pre e.label e.post)
    (makes : Makes threadId e call) :
    store.answer e.label e.pre = .ok (thread.perform store.maxMessages call.operation).1 ∧
      Follows store threadId e.post (thread.perform store.maxMessages call.operation).2 := by
  obtain ⟨pre, ⟨now, t, operation⟩, post⟩ := e
  obtain ⟨rfl, rfl, alive⟩ := makes
  have view : View store t now _ _ pre := ⟨follows.items, follows.runs, follows.unmarked, alive⟩
  have shown : ∀ message ∈ lastOf store.maxMessages thread.messages, (Json.obj message).Valid :=
    fun message mem => follows.valid message (List.mem_of_mem_drop mem)
  cases call with
  | get =>
    have get : (store.get t now).perform pre =
        (.ok (.messages (lastOf store.maxMessages thread.messages)), pre) := by
      rw [(View.seen_iff.mp view).get limit, lastOf_map, lastOf_lastOf, decode_encode shown]
      rfl
    refine ⟨congrArg Prod.fst get, ?_⟩
    cases (congrArg Prod.snd get).symm.trans st
    exact follows
  | appendTurn runId userMessage assistantMessage =>
    obtain ⟨added, keyspace, eq, rfl, after⟩ := View.script ttl limit runId
      (store.encode userMessage.toMessage) (store.encode assistantMessage.toMessage) pre view
    have turn : (store.appendTurn t runId userMessage.toMessage assistantMessage.toMessage
        now).perform pre = (.ok (.committed (decide (runId ∉ thread.runs.toFinset))), keyspace) := by
      rw [appendTurn, Command.perform_bind, eq]
      rfl
    cases (congrArg Prod.snd turn).symm.trans st
    have answer := congrArg Prod.fst turn
    have runs := after.runs
    have items := after.items
    simp only [List.mem_toFinset] at answer items
    simp only [RuntimeCall.operation, Thread.perform, Thread.appendTurn]
    by_cases known : runId ∈ thread.runs
    -- the script finds the run in its set and pushes nothing
    · rw [Finset.insert_eq_of_mem (List.mem_toFinset.mpr known)] at runs
      rw [if_pos known] at items
      rw [if_pos known]
      refine ⟨answer.trans (by rw [decide_eq_false (not_not.mpr known)]), items, runs, after.unmarked,
        follows.valid⟩
    · rw [if_neg known] at items
      rw [if_neg known]
      refine ⟨answer.trans (by rw [decide_eq_true known]), ?_, ?_, after.unmarked, ?_⟩
      · rw [items, ← lastOf_map, lastOf_append, ← lastOf_map, List.map_append]
        rfl
      · rw [runs]
        refine congrArg Except.ok (Finset.ext fun run => ?_)
        simp only [Finset.mem_insert, List.mem_toFinset, List.mem_append, List.mem_singleton]
        exact or_comm
      · intro message mem
        simp only [List.mem_append, List.mem_cons, List.not_mem_nil, or_false] at mem
        obtain mem | rfl | rfl := mem
        · exact follows.valid message mem
        · exact userMessage.valid
        · exact assistantMessage.valid
  | clear =>
    refine ⟨rfl, ?_⟩
    have cleared : ((store.clear t now).perform pre).2 = post := st
    subst cleared
    refine ⟨?_, ?_, fun runId => ?_, fun _ mem => absurd mem List.not_mem_nil⟩
    · refine (congrArg itemsOf ((lookup_clear _).trans (if_pos (.inl rfl)))).trans ?_
      exact congrArg (fun items => Except.ok (items.map store.encode)) (lastOf_nil _).symm
    · exact congrArg membersOf ((lookup_clear _).trans (if_pos (.inr (.inl rfl))))
    · refine (lookup_clear _).trans ?_
      split
      · rfl
      · exact follows.unmarked runId

end Calls

end RedisConversationStore

end AgentRuntime.Conversation
