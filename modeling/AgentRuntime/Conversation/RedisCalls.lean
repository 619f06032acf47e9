import AgentRuntime.Conversation.Isolation

/-!
# What a call in Redis sees of its conversation

A command sees the list, the set and the markers of a conversation as far as they have not expired. The
calls that append compute on what is seen, and leave a list and a set that expire after the time to live.
-/

namespace AgentRuntime.Conversation
open State Command

namespace Redis

section Live

variable {now : Time} {key : String} {keyspace : Keyspace} {entry : RedisEntry}

/-- The time at which an entry expires is kept. -/
lemma live_kept {entry : Option RedisEntry} (alive : ∀ e ∈ entry, live now e = true) (value : RedisValue) :
    live now { value, expiresAt := entry.bind RedisEntry.expiresAt } = true := by
  cases entry with
  | none => rfl
  | some entry => exact alive entry rfl

lemma live_expires {ttlSeconds : Nat} (value : RedisValue) :
    live now { value, expiresAt := some (now + seconds ttlSeconds) } = true := by
  have later : (0 : Int) ≤ seconds ttlSeconds := Int.mul_nonneg (Int.natCast_nonneg _) (by decide)
  exact decide_eq_true (Int.le_add_of_nonneg_right later)

/-- What is found has not expired. -/
lemma find_live (found : find now key keyspace = some entry) : live now entry = true :=
  (Option.mem_filter_iff.mp found).2

/-- What is found is there. -/
lemma lookup_of_find (found : find now key keyspace = some entry) : keyspace.lookup key = some entry :=
  (Option.mem_filter_iff.mp found).1

/-- An entry that has not expired is found where it was put. -/
lemma find_put {new : Option RedisEntry} (alive : ∀ e ∈ new, live now e = true) (k : String) :
    find now k (put key new keyspace) = if k = key then new else find now k keyspace := by
  rw [find, lookup_put]
  split
  · cases new with
    | none => rfl
    | some entry => rw [Option.filter_some, if_pos (alive entry rfl)]
  · rfl

end Live

lemma slice_last {α : Type} {count : Nat} (positive : 0 < count) (items : List α) :
    slice (-count) (-1) items = lastOf count items := by
  have all : ((-1 : Int) + items.length + 1).toNat = items.length := by omega
  have first : (-(count : Int) + items.length).toNat = items.length - count := by omega
  have negative : -(count : Int) < 0 := by omega
  simp only [slice, if_pos negative, show (-1 : Int) < 0 by decide, if_true, all, first, List.take_length]
  rfl

end Redis

namespace RedisConversationStore
open Redis

variable {store : RedisConversationStore} {threadId : String}

/-- What a call at a time sees of the conversation: these items, these runs and these markers. Beside it,
    a property that the keyspace has. -/
structure Seen (store : RedisConversationStore) (threadId : String) (now : Time) (good : Keyspace → Prop)
    (items : List String) (runs : Finset String) (marked : String → Bool) (keyspace : Keyspace) :
    Prop where
  items : itemsOf (find now (store.key threadId) keyspace) = .ok items
  runs : membersOf (find now (store.turnsKey threadId) keyspace) = .ok runs
  marked : ∀ runId, (find now (store.turnKey threadId runId) keyspace).isSome = marked runId
  good : good keyspace

/-- A property of the keyspace that no entry breaks that is put at the key and has not expired. -/
def FreeAt (now : Time) (good : Keyspace → Prop) (key : String) : Prop :=
  ∀ keyspace entry, good keyspace → (∀ e ∈ entry, live now e = true) → good (put key entry keyspace)

lemma alone : store.Apart [threadId] := by
  intro t ht u hu other
  rw [List.mem_singleton] at ht hu
  exact (other (ht.trans hu.symm)).elim

lemma key_ne_turns : store.key threadId ≠ store.turnsKey threadId :=
  key_ne_turnsKey alone (List.mem_singleton_self _) (List.mem_singleton_self _)

lemma key_ne_turn (runId : String) : store.key threadId ≠ store.turnKey threadId runId :=
  key_ne_turnKey alone (List.mem_singleton_self _) (List.mem_singleton_self _) runId

section Commands

variable {now : Time} {good : Keyspace → Prop} {items : List String} {runs : Finset String}
variable {marked : String → Bool} {α : Type} {ttlSeconds : Nat}

/-- A command on the list. -/
lemma Seen.updateKey (free : FreeAt now good (store.key threadId))
    {f : Option RedisEntry → Except StoreError (α × Option RedisEntry)} {items' : List String}
    (writes : ∀ entry, itemsOf entry = .ok items → (∀ e ∈ entry, live now e = true) →
      ∃ a new, f entry = .ok (a, new) ∧ itemsOf new = .ok items' ∧ ∀ e ∈ new, live now e = true) :
    (update now (store.key threadId) f).Returns (Seen store threadId now good items runs marked)
      fun _ => Seen store threadId now good items' runs marked := by
  intro keyspace seen
  obtain ⟨a, new, eq, after, alive⟩ := writes _ seen.items fun e found => find_live found
  refine ⟨a, put (store.key threadId) new keyspace, ?_, ?_, ?_, fun runId => ?_,
    free keyspace new seen.good alive⟩
  · rw [update, Command.perform_ofFunction, eq]
  · rwa [find_put alive, if_pos rfl]
  · rw [find_put alive, if_neg key_ne_turns.symm]
    exact seen.runs
  · rw [find_put alive, if_neg (key_ne_turn runId).symm]
    exact seen.marked runId

/-- A command on the set. -/
lemma Seen.updateTurns (free : FreeAt now good (store.turnsKey threadId))
    {f : Option RedisEntry → Except StoreError (α × Option RedisEntry)} {runs' : Finset String}
    (writes : ∀ entry, membersOf entry = .ok runs → (∀ e ∈ entry, live now e = true) →
      ∃ a new, f entry = .ok (a, new) ∧ membersOf new = .ok runs' ∧ ∀ e ∈ new, live now e = true) :
    (update now (store.turnsKey threadId) f).Returns (Seen store threadId now good items runs marked)
      fun _ => Seen store threadId now good items runs' marked := by
  intro keyspace seen
  obtain ⟨a, new, eq, after, alive⟩ := writes _ seen.runs fun e found => find_live found
  refine ⟨a, put (store.turnsKey threadId) new keyspace, ?_, ?_, ?_, fun runId => ?_,
    free keyspace new seen.good alive⟩
  · rw [update, Command.perform_ofFunction, eq]
  · rw [find_put alive, if_neg key_ne_turns]
    exact seen.items
  · rwa [find_put alive, if_pos rfl]
  · rw [find_put alive, if_neg (turnsKey_ne_turnKey store _ _ runId).symm]
    exact seen.marked runId

lemma Seen.rpush (free : FreeAt now good (store.key threadId)) (values : List String) :
    (rpush now (store.key threadId) values).Returns (Seen store threadId now good items runs marked)
      fun _ => Seen store threadId now good (items ++ values) runs marked := by
  refine Seen.updateKey free fun entry before alive => ?_
  rw [before]
  refine ⟨_, _, rfl, rfl, ?_⟩
  rintro _ ⟨⟩
  exact live_kept alive _

lemma Seen.ltrim (free : FreeAt now good (store.key threadId)) {count : Nat} (positive : 0 < count) :
    (ltrim now (store.key threadId) (-count) (-1)).Returns
      (Seen store threadId now good items runs marked)
      fun _ => Seen store threadId now good (lastOf count items) runs marked := by
  refine Seen.updateKey free fun entry before alive => ?_
  rw [before]
  refine ⟨_, _, rfl, ?_, fun e new => ?_⟩
  · rw [← slice_last positive]
    split
    · next none => rw [none]; rfl
    · rfl
  · split at new
    · cases new
    · cases new
      exact live_kept alive _

lemma Seen.expireKey (free : FreeAt now good (store.key threadId)) (positive : 0 < ttlSeconds) :
    (expire now (store.key threadId) ttlSeconds).Returns
      (Seen store threadId now good items runs marked)
      fun _ => Seen store threadId now good items runs marked := by
  refine Seen.updateKey free fun entry before alive => ?_
  cases entry with
  | none => exact ⟨_, _, rfl, before, nofun⟩
  | some entry =>
    refine ⟨_, _, rfl, ?_, fun e new => ?_⟩
    · rw [if_neg (by omega)]
      obtain ⟨value, _⟩ := entry
      cases value <;> exact before
    · rw [if_neg (by omega)] at new
      cases new
      exact live_expires _

lemma Seen.sadd (free : FreeAt now good (store.turnsKey threadId)) (member : String) :
    (sadd now (store.turnsKey threadId) member).Returns (Seen store threadId now good items runs marked)
      fun _ => Seen store threadId now good items (insert member runs) marked := by
  refine Seen.updateTurns free fun entry before alive => ?_
  rw [before]
  refine ⟨_, _, rfl, rfl, ?_⟩
  rintro _ ⟨⟩
  exact live_kept alive _

lemma Seen.expireTurns (free : FreeAt now good (store.turnsKey threadId)) (positive : 0 < ttlSeconds) :
    (expire now (store.turnsKey threadId) ttlSeconds).Returns
      (Seen store threadId now good items runs marked)
      fun _ => Seen store threadId now good items runs marked := by
  refine Seen.updateTurns free fun entry before alive => ?_
  cases entry with
  | none => exact ⟨_, _, rfl, before, nofun⟩
  | some entry =>
    refine ⟨_, _, rfl, ?_, fun e new => ?_⟩
    · rw [if_neg (by omega)]
      obtain ⟨value, _⟩ := entry
      cases value <;> exact before
    · rw [if_neg (by omega)] at new
      cases new
      exact live_expires _

/-- The script's check finds a run in the set or by its marker. -/
lemma Seen.isCommitted (runId : String) :
    (isCommitted (store.turnsKey threadId) (store.turnKey threadId runId) runId now).Returns
      (Seen store threadId now good items runs marked)
      fun committed keyspace => committed = (decide (runId ∈ runs) || marked runId) ∧
        Seen store threadId now good items runs marked keyspace := by
  intro keyspace seen
  have member : (sismember now (store.turnsKey threadId) runId).perform keyspace =
      (.ok (decide (runId ∈ runs)), keyspace) := by
    rw [sismember, query, Command.perform_ofFunction, seen.runs]
    rfl
  have found : (existsKey now (store.turnKey threadId runId)).perform keyspace =
      (.ok (marked runId), keyspace) := by
    rw [existsKey, query, Command.perform_ofFunction, ← seen.marked]
    rfl
  refine ⟨_, keyspace, ?_, rfl, seen⟩
  rw [RedisConversationStore.isCommitted, Command.perform_bind, member]
  by_cases known : runId ∈ runs
  · simp only [known, decide_true, if_true, Command.perform_pure, Bool.true_or]
  · simpa only [known, decide_false, Bool.false_eq_true, if_false, Bool.false_or] using found

/-- The script for a run that it finds: the set is touched, the list is not. -/
lemma Seen.script_found (ttl : 0 < store.ttlSeconds) (free : FreeAt now good (store.turnsKey threadId))
    {runId : String} (known : (decide (runId ∈ runs) || marked runId) = true) (user assistant : String) :
    (appendTurnScript (store.key threadId) (store.turnsKey threadId) (store.turnKey threadId runId)
      store.ttlSeconds runId user assistant store.maxMessages now).Returns
      (Seen store threadId now good items runs marked) fun added keyspace =>
        added = false ∧ Seen store threadId now good items (insert runId runs) marked keyspace := by
  refine (Seen.isCommitted runId).bind fun committed => ?_
  rintro keyspace ⟨rfl, seen⟩
  revert keyspace
  simp only [known, if_true]
  exact (Seen.sadd free runId).bind fun _ => (Seen.expireTurns free ttl).discard.bind fun _ =>
    .pure _ fun _ seen => ⟨rfl, seen⟩

/-- The script for a run that it does not find. -/
lemma Seen.script_added (ttl : 0 < store.ttlSeconds) (limit : 0 < store.maxMessages)
    (freeKey : FreeAt now good (store.key threadId)) (free : FreeAt now good (store.turnsKey threadId))
    {runId : String} (unknown : (decide (runId ∈ runs) || marked runId) = false)
    (user assistant : String) :
    (appendTurnScript (store.key threadId) (store.turnsKey threadId) (store.turnKey threadId runId)
      store.ttlSeconds runId user assistant store.maxMessages now).Returns
      (Seen store threadId now good items runs marked) fun added keyspace =>
        added = true ∧ Seen store threadId now good (lastOf store.maxMessages (items ++ [user, assistant]))
          (insert runId runs) marked keyspace := by
  refine (Seen.isCommitted runId).bind fun committed => ?_
  rintro keyspace ⟨rfl, seen⟩
  revert keyspace
  simp only [unknown, Bool.false_eq_true, if_false]
  exact (Seen.sadd free runId).bind fun _ => (Seen.expireTurns free ttl).discard.bind fun _ =>
    (Seen.rpush freeKey _).discard.bind fun _ => (Seen.ltrim freeKey limit).bind fun _ =>
    (Seen.expireKey freeKey ttl).discard.bind fun _ => .pure _ fun _ seen => ⟨rfl, seen⟩

/-- The commands of `append`. -/
lemma Seen.append (ttl : 0 < store.ttlSeconds) (limit : 0 < store.maxMessages)
    (free : FreeAt now good (store.key threadId)) {messages : List Message} (nonempty : messages ≠ []) :
    (store.append threadId messages now).Returns (Seen store threadId now good items runs marked)
      fun answer keyspace => answer = .appended ∧ Seen store threadId now good
        (lastOf store.maxMessages (items ++ messages.map store.encode)) runs marked keyspace := by
  rw [RedisConversationStore.append, if_neg nonempty]
  exact (Returns.transaction_cons (Seen.rpush free _).discard
    (.transaction_cons (Seen.ltrim free limit)
      (.transaction_cons (Seen.expireKey free ttl).discard .transaction_nil))).bind
    fun _ => .pure _ fun _ seen => ⟨rfl, seen⟩

/-- `get` shows the last of the items that are seen. -/
lemma Seen.get (limit : 0 < store.maxMessages) {keyspace : Keyspace}
    (seen : Seen store threadId now good items runs marked keyspace) :
    (store.get threadId now).perform keyspace =
      ((store.decode (lastOf store.maxMessages items)).map .messages, keyspace) := by
  have read : (lrange now (store.key threadId) (-store.maxMessages) (-1)).perform keyspace =
      (.ok (lastOf store.maxMessages items), keyspace) := by
    rw [lrange, query, Command.perform_ofFunction, seen.items]
    simp only [bind, Except.bind, pure, Except.pure]
    rw [slice_last limit]
  rw [RedisConversationStore.get, Command.perform_bind, read]
  dsimp only
  cases store.decode (lastOf store.maxMessages items) <;> rfl

end Commands

end RedisConversationStore

end AgentRuntime.Conversation
