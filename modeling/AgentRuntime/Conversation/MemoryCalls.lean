import AgentRuntime.Conversation.Memory

/-!
# Calls of the store in memory

What a call of `BoundedInMemoryStore` can do: it drops sessions that were idle for too long or are cleared,
touches one session or none, and drops the oldest one where that was one too many.
-/

namespace AgentRuntime.Conversation
open State

namespace BoundedInMemoryStore

/-- Exactly these keys are gone, with the runs that were committed to them. -/
structure Drops (gone : String → Prop) (store store' : BoundedInMemoryStore) : Prop where
  lost : ∀ key, gone key →
    store'.data.lookup key = none ∧ store'.committedRuns.lookup key = none
  kept : ∀ key, ¬ gone key → store'.data.lookup key = store.data.lookup key ∧
    store'.committedRuns.lookup key = store.committedRuns.lookup key
  order : store'.data.keys.Sublist store.data.keys

section Drops

variable {gone gone' : String → Prop} {store store' store'' : BoundedInMemoryStore}

lemma Drops.refl : Drops (fun _ => False) store store where
  lost _ h := h.elim
  kept _ _ := ⟨rfl, rfl⟩
  order := .refl _

lemma Drops.congr (drops : Drops gone store store') (same : ∀ key, gone' key ↔ gone key) :
    Drops gone' store store' where
  lost key h := drops.lost key ((same key).mp h)
  kept key h := drops.kept key fun g => h ((same key).mpr g)
  order := drops.order

lemma Drops.trans (drops : Drops gone store store') (drops' : Drops gone' store' store'') :
    Drops (fun key => gone key ∨ gone' key) store store'' where
  lost key h := by
    by_cases g' : gone' key
    · exact drops'.lost key g'
    · obtain ⟨data, runs⟩ := drops'.kept key g'
      rw [data, runs]
      exact drops.lost key (h.resolve_right g')
  kept key h := by
    obtain ⟨h, h'⟩ := not_or.mp h
    obtain ⟨data, runs⟩ := drops'.kept key h'
    rw [data, runs]
    exact drops.kept key h
  order := drops'.order.trans drops.order

/-- A session that is there was kept. -/
lemma Drops.lookup_some (drops : Drops gone store store') {key : String} {session : Session}
    (found : store'.data.lookup key = some session) :
    ¬ gone key ∧ store.data.lookup key = some session := by
  have kept : ¬ gone key := fun g => by
    rw [(drops.lost key g).1] at found
    cases found
  exact ⟨kept, (drops.kept key kept).1 ▸ found⟩

lemma remove_drops (store : BoundedInMemoryStore) (key : String) :
    Drops (fun key' => key' = key) store (store.remove key) where
  lost key' h := by
    subst h
    exact ⟨AList.lookup_erase .., AList.lookup_erase ..⟩
  kept key' h := ⟨AList.lookup_erase_ne h, AList.lookup_erase_ne h⟩
  order := by
    rw [remove, AList.keys_erase]
    exact List.erase_sublist

lemma foldl_remove_drops (keys : List String) (store : BoundedInMemoryStore) :
    Drops (fun key => key ∈ keys) store (keys.foldl remove store) := by
  induction keys generalizing store with
  | nil => exact Drops.refl.congr fun key => ⟨fun h => absurd h List.not_mem_nil, False.elim⟩
  | cons key keys ih =>
    exact ((remove_drops store key).trans (ih _)).congr fun _ => List.mem_cons

end Drops

section Loops

variable (limits : MemoryLimits) {store : BoundedInMemoryStore}

/-- The session of the key is there, and was idle for too long. -/
def Idle (now : Time) (store : BoundedInMemoryStore) (key : String) : Prop :=
  ∃ session, store.data.lookup key = some session ∧ expired limits now session = true

lemma purge_drops (now : Time) (store : BoundedInMemoryStore) :
    Drops (Idle limits now store) store (purge limits now store) := by
  refine (foldl_remove_drops _ store).congr fun key => ?_
  rw [List.mem_filter, Option.any_eq_true]
  constructor
  · rintro ⟨session, found, idle⟩
    refine ⟨?_, session, found, idle⟩
    rw [← AList.mem_keys, ← AList.lookup_isSome, found]
    rfl
  · exact And.right

lemma keys_popOldest (store : BoundedInMemoryStore) :
    store.popOldest.data.keys = store.data.keys.dropLast := by
  unfold popOldest
  cases last : store.data.keys.getLast? with
  | none =>
    rw [List.getLast?_eq_none_iff.mp last]
    rfl
  | some key =>
    obtain ⟨keys, split⟩ := List.getLast?_eq_some_iff.mp last
    have once := store.data.keys_nodup
    change (store.remove key).data.keys = _
    rw [remove, AList.keys_erase, split, List.dropLast_concat]
    rw [split] at once
    have new : key ∉ keys := (List.nodup_append_comm.mp once).notMem
    rw [List.erase_append_right _ new, List.erase_cons_head, List.append_nil]

lemma popOldest_drops (store : BoundedInMemoryStore) :
    Drops (fun key => store.data.keys.getLast? = some key) store store.popOldest := by
  unfold popOldest
  cases store.data.keys.getLast? with
  | none => exact Drops.refl.congr fun _ => ⟨nofun, False.elim⟩
  | some key =>
    exact (remove_drops store key).congr fun key' =>
      ⟨fun h => (Option.some.inj h).symm, fun h => congrArg some h.symm⟩

/-- With at most one session too many, at most the oldest one goes. -/
lemma evict_drops (few : store.data.keys.length ≤ limits.maxSessions + 1) :
    (evict limits store).data.keys.length ≤ limits.maxSessions ∧
      Drops (fun key => limits.maxSessions < store.data.keys.length ∧
        store.data.keys.getLast? = some key) store (evict limits store) := by
  unfold evict
  by_cases within : store.data.keys.length ≤ limits.maxSessions
  · rw [Nat.sub_eq_zero_of_le within]
    refine ⟨within, Drops.refl.congr fun key => ⟨fun h => ?_, False.elim⟩⟩
    exact absurd h.1 (Nat.not_lt.mpr within)
  · have one : store.data.keys.length - limits.maxSessions = 1 := by omega
    rw [one, Function.iterate_one]
    constructor
    · rw [keys_popOldest, List.length_dropLast]
      omega
    · exact (popOldest_drops store).congr fun key => and_iff_right (Nat.not_le.mp within)

/-- The session is touched. -/
def write (store : BoundedInMemoryStore) (key : String) (session : Session) : BoundedInMemoryStore :=
  { store with data := store.data.insert key session }

/-- The run is committed to the session. -/
def commit (store : BoundedInMemoryStore) (key runId : String) : BoundedInMemoryStore :=
  { store with
    committedRuns :=
      store.committedRuns.insert key (insert runId ((store.committedRuns.lookup key).getD ∅)) }

@[simp] lemma commit_data (store : BoundedInMemoryStore) (key runId : String) :
    (store.commit key runId).data = store.data := rfl

/-- The messages of a session, none if it is not there. -/
def messagesOf (store : BoundedInMemoryStore) (key : String) : List Message :=
  match store.data.lookup key with
  | some session => session.messages
  | none => []

/-- A session is added where there are as many as there may be, and the key is the one that was touched
    least recently. -/
def Evicted (store : BoundedInMemoryStore) (added key : String) : Prop :=
  added ∉ store.data ∧ store.data.keys.length = limits.maxSessions ∧
    store.data.keys.getLast? = some key

variable {limits} in
lemma Evicted.ne {added key : String} (evicted : Evicted limits store added key) : key ≠ added := by
  rintro rfl
  exact evicted.1 (AList.mem_keys.mpr (List.mem_of_getLast? evicted.2.2))

/-- The session that is appended to is the newest, and stays within the limit of its messages; one too
    many makes the oldest one go. -/
lemma appendLocked_drops (key : String) (messages : List Message) (now : Time)
    (within : store.data.keys.length ≤ limits.maxSessions) :
    (appendLocked limits key messages now store).data.keys.length ≤ limits.maxSessions ∧
      Drops (Evicted limits store key)
        (store.write key ⟨now, lastOf limits.maxMessages (store.messagesOf key ++ messages)⟩)
        (appendLocked limits key messages now store) := by
  have keysOf (session : Session) :
      (store.write key session).data.keys = key :: store.data.keys.erase key := AList.keys_insert _
  generalize written : store.write key
    ⟨now, lastOf limits.maxMessages (store.messagesOf key ++ messages)⟩ = next
  have keys : next.data.keys = key :: store.data.keys.erase key := written ▸ keysOf _
  have same : appendLocked limits key messages now store = evict limits next := written ▸ rfl
  have positive := limits.sessions_pos
  rw [same]
  by_cases known : key ∈ store.data
  · have length : next.data.keys.length = store.data.keys.length := by
      rw [keys, List.length_cons, List.length_erase_of_mem (AList.mem_keys.mp known)]
      have := List.length_pos_of_mem (AList.mem_keys.mp known)
      omega
    obtain ⟨few, drops⟩ := @evict_drops limits next (by omega)
    refine ⟨few, drops.congr fun key' => ⟨fun h => absurd known h.1, fun h => ?_⟩⟩
    omega
  · rw [List.erase_of_not_mem fun mem => known (AList.mem_keys.mpr mem)] at keys
    have length : next.data.keys.length = store.data.keys.length + 1 := by
      rw [keys, List.length_cons]
    obtain ⟨few, drops⟩ := @evict_drops limits next (by omega)
    refine ⟨few, drops.congr fun key' => ?_⟩
    rw [Evicted, and_iff_right known, length, keys]
    cases others : store.data.keys with
    | nil =>
      rw [List.length_nil]
      omega
    | cons first rest =>
      rw [List.getLast?_cons_cons]
      rw [others] at within
      refine and_congr_left fun _ => ?_
      omega

end Loops

end BoundedInMemoryStore

namespace StoreOperation

/-- The call looks for sessions that were idle for too long. -/
def purges : StoreOperation → Bool
  | .get key => key ≠ ""
  | .append key messages => key ≠ "" && messages ≠ []
  | .appendTurn key runId _ _ => key ≠ "" && runId ≠ ""
  | .clear _ => false
  | .health => true

/-- The call clears the session of the key. -/
def Clears (key : String) : StoreOperation → Prop
  | .clear none => True
  | .clear (some key') => key' = key
  | _ => False

end StoreOperation

namespace BoundedInMemoryStore

variable (limits : MemoryLimits)

/-- The store behind what a call clears or finds to be idle. -/
def purged (store : BoundedInMemoryStore) (call : StoreCall) : BoundedInMemoryStore :=
  if call.operation.purges then purge limits call.now store else store

/-- Everything that a call can do; `mid` is the store behind its purge. -/
inductive Effect (store mid : BoundedInMemoryStore) (now : Time) :
    StoreOperation → StoreResult → BoundedInMemoryStore → Prop where
  | ignored {operation result} :
    operation.purges = false →
    (∀ key, ¬ operation.Clears key) →
    (∀ key, operation = .get key → key = "" ∧ result = .messages []) →
    (∀ added, result ≠ .committed added) →
    Effect store mid now operation result store
  | cleared {key store'} :
    Drops (fun key' => StoreOperation.Clears key' (.clear key)) store store' →
    Effect store mid now (.clear key) .cleared store'
  | missed {key} :
    key ≠ "" →
    mid.data.lookup key = none →
    Effect store mid now (.get key) (.messages []) mid
  | hit {key session} :
    key ≠ "" →
    mid.data.lookup key = some session →
    Effect store mid now (.get key) (.messages session.messages)
      (mid.write key ⟨now, session.messages⟩)
  | appended {key messages store'} :
    key ≠ "" →
    messages ≠ [] →
    store'.data.keys.length ≤ limits.maxSessions →
    Drops (Evicted limits mid key)
      (mid.write key ⟨now, lastOf limits.maxMessages (mid.messagesOf key ++ messages)⟩) store' →
    Effect store mid now (.append key messages) .appended store'
  | skipped {key runId userMessage assistantMessage store'} :
    key ≠ "" ∧ runId ≠ "" →
    runId ∈ (mid.committedRuns.lookup key).getD ∅ →
    Drops (fun _ => False) mid store' →
    Effect store mid now (.appendTurn key runId userMessage assistantMessage) (.committed false) store'
  | turn {key runId userMessage assistantMessage store'} :
    key ≠ "" ∧ runId ≠ "" →
    runId ∉ (mid.committedRuns.lookup key).getD ∅ →
    store'.data.keys.length ≤ limits.maxSessions →
    Drops (Evicted limits mid key)
      ((mid.write key ⟨now, lastOf limits.maxMessages
        (mid.messagesOf key ++ [userMessage, assistantMessage])⟩).commit key runId) store' →
    Effect store mid now (.appendTurn key runId userMessage assistantMessage) (.committed true) store'
  | looked {sessions} :
    Effect store mid now .health (.available sessions) mid

section Calls

variable {limits} {store mid : BoundedInMemoryStore} {now : Time}

/-- The set of runs that `setdefault` leaves is the one that was there, or empty. -/
lemma setdefault_drops (store : BoundedInMemoryStore) (key : String) (runs : Finset String)
    (same : store.committedRuns.lookup key = some runs) :
    Drops (fun _ => False) store { store with committedRuns := store.committedRuns.insert key runs } where
  lost _ h := h.elim
  kept key' _ := by
    refine ⟨rfl, ?_⟩
    rw [Dict.lookup_insert_ite]
    split
    · next own => rw [own, same]
    · rfl
  order := .refl _

lemma appendTurn_effect {key runId : String} {userMessage assistantMessage : Message}
    (given : key ≠ "" ∧ runId ≠ "")
    (within : (purge limits now store).data.keys.length ≤ limits.maxSessions) :
    Effect limits store (purge limits now store) now
      (.appendTurn key runId userMessage assistantMessage)
      (appendTurn limits key runId userMessage assistantMessage now store).1
      (appendTurn limits key runId userMessage assistantMessage now store).2 := by
  rw [appendTurn, if_neg (not_or.mpr given)]
  generalize purge limits now store = mid at within ⊢
  dsimp only
  split
  · next known =>
    refine .skipped given known (setdefault_drops mid key _ ?_)
    cases found : mid.committedRuns.lookup key with
    | none =>
      rw [found] at known
      exact absurd known (Finset.notMem_empty _)
    | some runs => rfl
  · next new =>
    obtain ⟨few, drops⟩ := @appendLocked_drops limits
      { mid with
        committedRuns := mid.committedRuns.insert key ((mid.committedRuns.lookup key).getD ∅) }
      key [userMessage, assistantMessage] now within
    generalize appendLocked limits key [userMessage, assistantMessage] now _ = after at few drops ⊢
    have own : after.committedRuns.lookup key = some ((mid.committedRuns.lookup key).getD ∅) := by
      rw [(drops.kept key fun h => h.ne rfl).2]
      exact AList.lookup_insert _
    rw [own]
    refine .turn given new few ⟨fun key' h => ?_, fun key' h => ?_, drops.order⟩
    · obtain ⟨data, runs⟩ := drops.lost key' h
      refine ⟨data, ?_⟩
      rw [Dict.lookup_insert_ite, if_neg h.ne]
      exact runs
    · obtain ⟨data, runs⟩ := drops.kept key' h
      refine ⟨data, ?_⟩
      rw [commit, Dict.lookup_insert_ite, Dict.lookup_insert_ite]
      by_cases same : key' = key
      · rw [if_pos same, if_pos same]
        rfl
      · rw [if_neg same, if_neg same, runs]
        exact AList.lookup_insert_ne same

lemma get_effect {key : String} (given : key ≠ "") :
    Effect limits store (purge limits now store) now (.get key) (get limits key now store).1
      (get limits key now store).2 := by
  rw [get, if_neg given]
  dsimp only
  split
  · next missed => exact .missed given missed
  · next session found => exact .hit given found

lemma clear_drops (key : Option String) :
    Drops (fun key' => StoreOperation.Clears key' (.clear key)) store (clear key store).2 := by
  cases key with
  | none => exact ⟨fun _ _ => ⟨rfl, rfl⟩, fun _ h => absurd trivial h, List.nil_sublist _⟩
  | some key => exact (remove_drops store key).congr fun key' => eq_comm

/-- Every call does one of these things, where no more sessions are there than may be. -/
theorem perform_effect {call : StoreCall} (within : store.data.keys.length ≤ limits.maxSessions) :
    Effect limits store (purged limits store call) call.now call.operation
      (perform limits store call).1 (perform limits store call).2 := by
  have purgeWithin : (purge limits call.now store).data.keys.length ≤ limits.maxSessions :=
    (purge_drops limits call.now store).order.length_le.trans within
  obtain ⟨now, operation⟩ := call
  cases operation with
  | get key =>
    by_cases given : key = ""
    · subst given
      exact .ignored rfl (fun _ h => h) (fun key same => by cases same; exact ⟨rfl, rfl⟩) nofun
    · rw [purged, if_pos (by simp [StoreOperation.purges, given])]
      exact get_effect given
  | append key messages =>
    change Effect limits store _ now _ (append limits key messages now store).1
      (append limits key messages now store).2
    rw [append]
    by_cases given : key = ""
    · rw [if_pos given]
      exact .ignored (by simp [StoreOperation.purges, given]) (fun _ h => h) nofun nofun
    · rw [if_neg given]
      by_cases none : messages = []
      · rw [if_pos none]
        exact .ignored (by simp [StoreOperation.purges, none]) (fun _ h => h) nofun nofun
      · rw [if_neg none, purged, if_pos (by simp [StoreOperation.purges, given, none])]
        obtain ⟨few, drops⟩ := appendLocked_drops limits key messages now purgeWithin
        exact .appended given none few drops
  | appendTurn key runId userMessage assistantMessage =>
    by_cases given : key ≠ "" ∧ runId ≠ ""
    · rw [purged, if_pos (by simp [StoreOperation.purges, given])]
      exact appendTurn_effect given purgeWithin
    · change Effect limits store _ now _
        (appendTurn limits key runId userMessage assistantMessage now store).1
        (appendTurn limits key runId userMessage assistantMessage now store).2
      rw [appendTurn, if_pos ((not_and_or.mp given).imp not_not.mp not_not.mp)]
      refine .ignored ?_ (fun _ h => h) nofun nofun
      simpa [StoreOperation.purges] using given
  | clear key =>
    have drops := @clear_drops store key
    cases key with
    | none => exact .cleared drops
    | some key => exact .cleared drops
  | health => exact .looked

end Calls

end BoundedInMemoryStore

end AgentRuntime.Conversation
