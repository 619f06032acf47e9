import AgentRuntime.Conversation.MemoryCalls
import AgentRuntime.Lib.Run
import Mathlib.Data.List.Dedup

/-!
# Lifetimes of the sessions in memory

The sessions of `BoundedInMemoryStore` over any sequence of calls. A session ends when it is cleared, when
it was idle for too long, or when it is the one touched least recently and one too many is added. Until
then the store shows the last of the messages that were appended to it, and appends the turn of a run
once.
-/

namespace AgentRuntime.Conversation
open State Transition

/-- A call of the store in memory. -/
abbrev MemoryEvent := Event BoundedInMemoryStore StoreCall

/-- What a call adds to the thread of the key. -/
def Thread.after (key : String) (thread : Thread) : StoreOperation → Thread
  | .append key' messages => if key' = key ∧ key' ≠ "" then thread.append messages else thread
  | .appendTurn key' runId userMessage assistantMessage =>
    if key' = key ∧ key' ≠ "" ∧ runId ≠ "" then
      (thread.appendTurn runId userMessage assistantMessage).2
    else thread
  | _ => thread

namespace BoundedInMemoryStore

variable (limits : MemoryLimits)

def Step (store : BoundedInMemoryStore) (call : StoreCall) (store' : BoundedInMemoryStore) : Prop :=
  (perform limits store call).2 = store'

/-- What the call of the event returns. -/
def result (e : MemoryEvent) : StoreResult := (perform limits e.pre e.label).1

/-- The session that a call with this result has appended to. -/
def appendsTo (operation : StoreOperation) (result : StoreResult) : Option String :=
  match operation, result with
  | .append key _, _ => if operation.purges then some key else none
  | .appendTurn key _ _ _, .committed true => some key
  | _, _ => none

/-- The session that the call of the event appends to. -/
def added (e : MemoryEvent) : Option String := appendsTo e.label.operation (result limits e)

/-- The session that a call with this result has touched: it reads it, where it is behind the purge, or
    appends to it. -/
def touches (mid : BoundedInMemoryStore) (operation : StoreOperation) (result : StoreResult) :
    Option String :=
  match operation with
  | .get key => if key ≠ "" ∧ key ∈ mid.data then some key else none
  | operation => appendsTo operation result

/-- The session that the call of the event touches. -/
def touched (e : MemoryEvent) : Option String :=
  touches (purged limits e.pre e.label) e.label.operation (result limits e)

/-- The session was idle for more than the time to live when the call came. -/
def IdlesOut (key : String) (e : MemoryEvent) : Prop :=
  e.label.operation.purges = true ∧ Idle limits e.label.now e.pre key

/-- The call adds a session where there are as many as there may be, and this one was touched least
    recently. -/
def MakesWay (key : String) (e : MemoryEvent) : Prop :=
  ∃ other, added limits e = some other ∧ Evicted limits (purged limits e.pre e.label) other key

/-- The session of the key ends. -/
def Ends (key : String) (e : MemoryEvent) : Prop :=
  e.label.operation.Clears key ∨ IdlesOut limits key e ∨ MakesWay limits key e

open Classical in
/-- What was appended to the session of the key since it was last created. -/
noncomputable def history (key : String) (es : List MemoryEvent) : Thread :=
  es.foldl (fun thread e =>
    Thread.after key (if Ends limits key e then {} else thread) e.label.operation) {}

/-- The time is the one of the last touch of the session. -/
def LastTouch (es : List MemoryEvent) (key : String) (time : Time) : Prop :=
  ∃ before e after, es = before ++ e :: after ∧ touched limits e = some key ∧ e.label.now = time ∧
    ∀ f ∈ after, touched limits f ≠ some key

section Ignored

variable {mid : BoundedInMemoryStore} {operation : StoreOperation} {result : StoreResult}

lemma appendsTo_ignored (ignored : operation.purges = false)
    (uncommitted : ∀ added, result ≠ .committed added) : appendsTo operation result = none := by
  unfold appendsTo
  split
  · exact if_neg (Bool.eq_false_iff.mp ignored)
  · exact absurd rfl (uncommitted true)
  · rfl

/-- An operation that appends to no session makes none go. -/
lemma appendsTo_none {gone : String → Prop} {claim : Prop} (none : appendsTo operation result = none) :
    (∃ other, appendsTo operation result = some other ∧ gone other) → claim := by
  rintro ⟨other, appends, -⟩
  cases none.symm.trans appends

lemma touches_ignored (ignored : operation.purges = false)
    (uncommitted : ∀ added, result ≠ .committed added) : touches mid operation result = none := by
  cases operation with
  | get key =>
    have empty : key = "" := by simpa [StoreOperation.purges] using ignored
    exact if_neg fun given => given.1 empty
  | _ => exact appendsTo_ignored ignored uncommitted

end Ignored

/-- The store shows the thread of the key. -/
structure Shows (store : BoundedInMemoryStore) (key : String) (thread : Thread) : Prop where
  absent : store.data.lookup key = none → thread = {}
  messages : ∀ session, store.data.lookup key = some session →
    session.messages = lastOf limits.maxMessages thread.messages
  runs : ∀ runId, runId ∈ (store.committedRuns.lookup key).getD ∅ ↔ runId ∈ thread.runs

section Shows

variable {limits} {store store' : BoundedInMemoryStore} {key : String} {thread : Thread}
  {gone : String → Prop}

lemma Shows.kept (shows : Shows limits store key thread) (drops : Drops gone store store')
    (stays : ¬ gone key) : Shows limits store' key thread := by
  obtain ⟨data, runs⟩ := drops.kept key stays
  refine ⟨fun none => shows.absent (data ▸ none), fun session found => ?_, fun runId => ?_⟩
  · exact shows.messages session (data ▸ found)
  · rw [runs]
    exact shows.runs runId

lemma Shows.lost (drops : Drops gone store store') (goes : gone key) : Shows limits store' key {} := by
  obtain ⟨data, runs⟩ := drops.lost key goes
  refine ⟨fun _ => rfl, fun session found => ?_, fun runId => ?_⟩
  · cases data.symm.trans found
  · rw [runs]
    exact ⟨fun mem => absurd mem (Finset.notMem_empty _), fun mem => absurd mem List.not_mem_nil⟩

/-- The messages of a session are the last ones of its thread. -/
lemma Shows.messagesOf (shows : Shows limits store key thread) :
    store.messagesOf key = lastOf limits.maxMessages thread.messages := by
  unfold BoundedInMemoryStore.messagesOf
  cases found : store.data.lookup key with
  | none =>
    rw [shows.absent found]
    exact (lastOf_nil _).symm
  | some session => exact shows.messages session found

/-- A touch of the session with these messages. -/
lemma Shows.write (shows : Shows limits store key thread) {session : Session} {thread' : Thread}
    (messages : session.messages = lastOf limits.maxMessages thread'.messages)
    (runs : thread'.runs = thread.runs) : Shows limits (store.write key session) key thread' where
  absent none := by
    rw [BoundedInMemoryStore.write, AList.lookup_insert] at none
    cases none
  messages session' found := by
    rw [BoundedInMemoryStore.write, AList.lookup_insert] at found
    cases found
    exact messages
  runs runId := by
    rw [runs]
    exact shows.runs runId

lemma Shows.append (shows : Shows limits store key thread) (messages : List Message) (now : Time) :
    Shows limits
      (store.write key ⟨now, lastOf limits.maxMessages (store.messagesOf key ++ messages)⟩) key
      (thread.append messages) := by
  refine shows.write ?_ rfl
  rw [shows.messagesOf, lastOf_append]
  rfl

/-- Another session is touched. -/
lemma Shows.other (shows : Shows limits store key thread) {other : String} (ne : key ≠ other)
    (session : Session) : Shows limits (store.write other session) key thread where
  absent none := by
    rw [BoundedInMemoryStore.write, AList.lookup_insert_ne ne] at none
    exact shows.absent none
  messages session' found := by
    rw [BoundedInMemoryStore.write, AList.lookup_insert_ne ne] at found
    exact shows.messages session' found
  runs := shows.runs

lemma Shows.commit (shows : Shows limits store key thread) (runId : String)
    (absent : store.data.lookup key ≠ none) :
    Shows limits (store.commit key runId) key { thread with runs := thread.runs ++ [runId] } where
  absent none := absurd none absent
  messages := shows.messages
  runs runId' := by
    rw [BoundedInMemoryStore.commit, AList.lookup_insert, Option.getD_some, Finset.mem_insert,
      shows.runs, List.mem_append, List.mem_singleton, or_comm]

lemma Shows.otherCommit (shows : Shows limits store key thread) {other : String} (ne : key ≠ other)
    (runId : String) : Shows limits (store.commit other runId) key thread where
  absent := shows.absent
  messages := shows.messages
  runs runId' := by
    rw [BoundedInMemoryStore.commit, AList.lookup_insert_ne ne]
    exact shows.runs runId'

/-- What a call appends, for a call that does not look for idle sessions. -/
lemma after_ignored {operation : StoreOperation} (ignored : operation.purges = false)
    (key : String) (thread : Thread) : Thread.after key thread operation = thread := by
  cases operation with
  | append key' messages =>
    rw [Thread.after]
    split
    · next own =>
      have none : messages = [] := by simpa [StoreOperation.purges, own.2] using ignored
      rw [none, Thread.append, List.append_nil]
    · rfl
  | appendTurn key' runId userMessage assistantMessage =>
    refine if_neg fun own => ?_
    simp [StoreOperation.purges, own.2] at ignored
  | _ => rfl

/-- What a call leaves of a thread that is shown behind its purge. -/
lemma Shows.effect {mid : BoundedInMemoryStore} {now : Time} {operation : StoreOperation}
    {result : StoreResult} (effect : Effect limits store mid now operation result store')
    (quiet : ¬ operation.Clears key) (same : operation.purges = false → mid = store)
    (shows : Shows limits mid key thread) :
    ((∃ other, appendsTo operation result = some other ∧ Evicted limits mid other key) →
      Shows limits store' key (Thread.after key {} operation)) ∧
    ((¬ ∃ other, appendsTo operation result = some other ∧ Evicted limits mid other key) →
      Shows limits store' key (Thread.after key thread operation)) := by
  cases effect with
  | ignored ignored _ _ uncommitted =>
    rw [after_ignored ignored, after_ignored ignored, ← same ignored]
    exact ⟨appendsTo_none (appendsTo_ignored ignored uncommitted), fun _ => shows⟩
  | cleared drops => exact ⟨appendsTo_none rfl, fun _ => (same rfl ▸ shows).kept drops quiet⟩
  | missed => exact ⟨appendsTo_none rfl, fun _ => shows⟩
  | looked => exact ⟨appendsTo_none rfl, fun _ => shows⟩
  | @hit other session given found =>
    refine ⟨appendsTo_none rfl, fun _ => ?_⟩
    by_cases own : key = other
    -- the session is touched, and moves to the end
    · subst own
      exact shows.write (shows.messages session found) rfl
    · exact shows.other own _
  | @appended other messages _ given some few drops =>
    have appends : appendsTo (.append other messages) .appended = Option.some other :=
      if_pos (by simp [StoreOperation.purges, given, some])
    rw [appends]
    constructor
    -- the session that the append begins takes the place of this one
    · rintro ⟨_, ⟨rfl⟩, evicted⟩
      rw [Thread.after, if_neg fun own => evicted.ne own.1.symm]
      exact Shows.lost drops evicted
    · intro stays
      have stays : ¬ Evicted limits mid other key := fun evicted => stays ⟨other, rfl, evicted⟩
      rw [Thread.after]
      split
      · next own =>
        obtain ⟨rfl, -⟩ := own
        exact (shows.append messages now).kept drops stays
      · next ne => exact (shows.other (fun own => ne ⟨own.symm, given⟩) _).kept drops stays
  | @skipped other runId _ _ _ given known drops =>
    refine ⟨appendsTo_none rfl, fun _ => ?_⟩
    have kept := shows.kept drops fun h => h
    rw [Thread.after]
    split
    · next own =>
      obtain ⟨rfl, -⟩ := own
      rw [Thread.appendTurn, if_pos ((shows.runs runId).mp known)]
      exact kept
    · exact kept
  | @turn other runId userMessage assistantMessage _ given new few drops =>
    constructor
    · rintro ⟨_, ⟨rfl⟩, evicted⟩
      rw [Thread.after, if_neg fun own => evicted.ne own.1.symm]
      exact Shows.lost drops evicted
    · intro stays
      have stays : ¬ Evicted limits mid other key := fun evicted => stays ⟨other, rfl, evicted⟩
      rw [Thread.after]
      split
      · next own =>
        obtain ⟨rfl, -⟩ := own
        rw [Thread.appendTurn, if_neg fun known => new ((shows.runs runId).mpr known)]
        refine ((shows.append [userMessage, assistantMessage] now).commit runId ?_).kept drops stays
        rw [BoundedInMemoryStore.write, AList.lookup_insert]
        intro absent
        cases absent
      · next ne =>
        have other : key ≠ other := fun own => ne ⟨own.symm, given⟩
        exact ((shows.other other _).otherCommit other runId).kept drops stays

end Shows

section Effects

variable {limits} {store mid store' : BoundedInMemoryStore} {now : Time} {operation : StoreOperation}
  {result : StoreResult} {gone : String → Prop}

/-- Only sessions have committed runs. -/
def Tidy (store : BoundedInMemoryStore) : Prop :=
  ∀ key, store.data.lookup key = none → store.committedRuns.lookup key = none

lemma Tidy.drops (tidy : Tidy store) (drops : Drops gone store store') : Tidy store' := by
  intro key none
  by_cases goes : gone key
  · exact (drops.lost key goes).2
  · obtain ⟨data, runs⟩ := drops.kept key goes
    rw [runs]
    exact tidy key (data ▸ none)

lemma Tidy.write (tidy : Tidy store) (key : String) (session : Session) :
    Tidy (store.write key session) := by
  intro key' none
  rw [BoundedInMemoryStore.write, Dict.lookup_insert_ite] at none
  split at none
  · cases none
  · exact tidy key' none

lemma Tidy.commit (tidy : Tidy store) {key : String} (there : store.data.lookup key ≠ none)
    (runId : String) : Tidy (store.commit key runId) := by
  intro key' none
  rw [BoundedInMemoryStore.commit, Dict.lookup_insert_ite]
  split
  · next own => exact absurd (own ▸ none) there
  · exact tidy key' none

lemma write_lookup (store : BoundedInMemoryStore) (key : String) (session : Session) :
    (store.write key session).data.lookup key ≠ none := by
  rw [write, AList.lookup_insert]
  exact nofun

lemma Effect.tidy (effect : Effect limits store mid now operation result store') (tidy : Tidy store)
    (tidyMid : Tidy mid) : Tidy store' := by
  cases effect with
  | ignored => exact tidy
  | cleared drops => exact tidy.drops drops
  | missed | looked => exact tidyMid
  | hit => exact tidyMid.write _ _
  | appended _ _ _ drops => exact (tidyMid.write _ _).drops drops
  | skipped _ _ drops => exact tidyMid.drops drops
  | turn _ _ _ drops => exact ((tidyMid.write _ _).commit (write_lookup _ _ _) _).drops drops

/-- A session behind a call was touched by it, or is as it was before. -/
lemma Effect.lookup (effect : Effect limits store mid now operation result store')
    (dropped : Drops gone store mid) {key : String} {session : Session}
    (found : store'.data.lookup key = some session) :
    (touches mid operation result = some key ∧ session.touchedAt = now) ∨
      (touches mid operation result ≠ some key ∧ store.data.lookup key = some session) := by
  have kept {key : String} {session : Session} (found : mid.data.lookup key = some session) :
      store.data.lookup key = some session := (dropped.lookup_some found).2
  have written {key' : String} {session' : Session}
      (found : (mid.write key' session').data.lookup key = some session) (now' : session'.touchedAt = now)
      (is : touches mid operation result = some key') :
      (touches mid operation result = some key ∧ session.touchedAt = now) ∨
        (touches mid operation result ≠ some key ∧ store.data.lookup key = some session) := by
    rw [is]
    rw [write, Dict.lookup_insert_ite] at found
    split at found
    · next own =>
      cases found
      exact .inl ⟨congrArg some own.symm, now'⟩
    · next other => exact .inr ⟨fun same => other (Option.some.inj same).symm, kept found⟩
  cases effect with
  | ignored ignored _ _ uncommitted =>
    refine .inr ⟨fun is => ?_, found⟩
    cases (touches_ignored ignored uncommitted).symm.trans is
  | cleared drops => exact .inr ⟨(Option.some_ne_none key).symm, (drops.lookup_some found).2⟩
  | @missed key' given absent =>
    refine .inr ⟨fun is => ?_, kept found⟩
    rw [touches, if_neg fun there => ?_] at is
    · cases is
    · exact AList.lookup_eq_none.mp absent there.2
  | @hit key' session' given there =>
    refine written found rfl (if_pos ⟨given, ?_⟩)
    exact AList.lookup_isSome.mp (there ▸ rfl)
  | @appended key' messages _ given some _ drops =>
    refine written (drops.lookup_some found).2 rfl (if_pos ?_)
    simp [StoreOperation.purges, given, some]
  | skipped _ _ drops => exact .inr ⟨(Option.some_ne_none key).symm, kept (drops.lookup_some found).2⟩
  | turn _ _ _ drops =>
    have found := (drops.lookup_some found).2
    exact written found rfl rfl
  | looked => exact .inr ⟨(Option.some_ne_none key).symm, kept found⟩

/-- The keys behind a call are the ones before it, in their order, but for the one that it touches, which
    comes first. -/
lemma Effect.keys (effect : Effect limits store mid now operation result store')
    (dropped : Drops gone store mid) :
    (touches mid operation result = none ∧ store'.data.keys.Sublist store.data.keys) ∨
      ∃ key, touches mid operation result = some key ∧
        store'.data.keys.Sublist (key :: store.data.keys.erase key) := by
  have written (key : String) (session : Session) :
      (mid.write key session).data.keys.Sublist (key :: store.data.keys.erase key) := by
    rw [write, AList.keys_insert]
    exact (dropped.order.erase key).cons_cons key
  cases effect with
  | ignored ignored _ _ uncommitted => exact .inl ⟨touches_ignored ignored uncommitted, .refl _⟩
  | cleared drops => exact .inl ⟨rfl, drops.order⟩
  | @missed key' given absent =>
    refine .inl ⟨if_neg fun there => ?_, dropped.order⟩
    exact AList.lookup_eq_none.mp absent there.2
  | @hit key' session' given there =>
    refine .inr ⟨key', if_pos ⟨given, ?_⟩, written _ _⟩
    exact AList.lookup_isSome.mp (there ▸ rfl)
  | @appended key' messages _ given some _ drops =>
    refine .inr ⟨key', if_pos ?_, drops.order.trans (written _ _)⟩
    simp [StoreOperation.purges, given, some]
  | skipped _ _ drops => exact .inl ⟨rfl, drops.order.trans dropped.order⟩
  | turn _ _ _ drops => exact .inr ⟨_, rfl, drops.order.trans (written _ _)⟩
  | looked => exact .inl ⟨rfl, dropped.order⟩

lemma Effect.sessions (effect : Effect limits store mid now operation result store')
    (dropped : Drops gone store mid) (within : store.data.keys.length ≤ limits.maxSessions) :
    store'.data.keys.length ≤ limits.maxSessions := by
  have withinMid := dropped.order.length_le.trans within
  cases effect with
  | ignored => exact within
  | cleared drops => exact drops.order.length_le.trans within
  | missed | looked => exact withinMid
  | @hit key session _ found =>
    have there : key ∈ mid.data.keys := AList.mem_keys.mp (AList.lookup_isSome.mp (found ▸ rfl))
    rw [write, AList.keys_insert, List.length_cons, List.length_erase_of_mem there]
    have some := List.length_pos_of_mem there
    omega
  | appended _ _ few _ => exact few
  | skipped _ _ drops => exact drops.order.length_le.trans withinMid
  | turn _ _ few _ => exact few

lemma Drops.there (drops : Drops gone store store') {key : String} (stays : ¬ gone key)
    (there : store.data.lookup key ≠ none) : store'.data.lookup key ≠ none :=
  (drops.kept key stays).1 ▸ there

lemma write_there {key : String} (there : store.data.lookup key ≠ none) (other : String)
    (session : Session) : (store.write other session).data.lookup key ≠ none := by
  rw [write, Dict.lookup_insert_ite]
  split
  · exact nofun
  · exact there

/-- A session that is there behind the purge stays, if the call neither clears it nor adds another one for
    which it makes way. -/
lemma Effect.stays (effect : Effect limits store mid now operation result store') {key : String}
    (quiet : ¬ operation.Clears key) (there : store.data.lookup key ≠ none)
    (thereMid : mid.data.lookup key ≠ none)
    (stays : ¬ ∃ other, appendsTo operation result = some other ∧ Evicted limits mid other key) :
    store'.data.lookup key ≠ none := by
  cases effect with
  | ignored => exact there
  | cleared drops => exact drops.there quiet there
  | missed | looked => exact thereMid
  | hit => exact write_there thereMid _ _
  | @appended other messages _ given some _ drops =>
    have appends : appendsTo (.append other messages) .appended = Option.some other :=
      if_pos (by simp [StoreOperation.purges, given, some])
    exact drops.there (fun evicted => stays ⟨other, appends, evicted⟩) (write_there thereMid _ _)
  | skipped _ _ drops => exact drops.there (fun h => h) thereMid
  | turn _ _ _ drops =>
    refine drops.there (fun evicted => stays ⟨_, rfl, evicted⟩) ?_
    rw [commit_data]
    exact write_there thereMid _ _

/-- A call that clears the session of the key leaves nothing of it. -/
lemma Effect.clears (effect : Effect limits store mid now operation result store') {key : String}
    (clears : operation.Clears key) :
    Shows limits store' key {} ∧ Thread.after key {} operation = {} := by
  cases effect with
  | ignored _ quiet => exact absurd clears (quiet key)
  | cleared drops => exact ⟨Shows.lost drops clears, rfl⟩
  | _ => exact clears.elim

end Effects

section Runs

variable {limits} {es : List MemoryEvent} {store : BoundedInMemoryStore} {e : MemoryEvent}

section History

variable {key : String}

lemma history_ends (es : List MemoryEvent) (ends : Ends limits key e) :
    history limits key (es ++ [e]) = Thread.after key {} e.label.operation := by
  rw [history, List.foldl_append, List.foldl_cons, List.foldl_nil, if_pos ends]

lemma history_lasts (es : List MemoryEvent) (lasts : ¬ Ends limits key e) :
    history limits key (es ++ [e]) = Thread.after key (history limits key es) e.label.operation := by
  rw [history, history, List.foldl_append, List.foldl_cons, List.foldl_nil, if_neg lasts]

end History

/-- What holds of the store after these calls. -/
structure Holds (limits : MemoryLimits) (es : List MemoryEvent) (store : BoundedInMemoryStore) :
    Prop where
  sessions : store.data.keys.length ≤ limits.maxSessions
  tidy : Tidy store
  shows : ∀ key, Shows limits store key (history limits key es)
  order : store.data.keys.reverse.Sublist (es.filterMap (touched limits)).dedup
  times : ∀ key session, store.data.lookup key = some session →
    LastTouch limits es key session.touchedAt

lemma Holds.start : Holds limits [] {} where
  sessions := Nat.zero_le _
  tidy _ _ := rfl
  shows _ :=
    { absent := fun _ => rfl
      messages := nofun
      runs := fun _ => ⟨fun mem => absurd mem (Finset.notMem_empty _),
        fun mem => absurd mem List.not_mem_nil⟩ }
  order := List.nil_sublist _
  times := nofun

lemma purged_drops (store : BoundedInMemoryStore) (call : StoreCall) :
    Drops (fun key => call.operation.purges = true ∧ Idle limits call.now store key) store
      (purged limits store call) := by
  unfold purged
  split
  · next purges =>
    exact (purge_drops limits call.now store).congr fun _ => and_iff_right purges
  · next other => exact Drops.refl.congr fun _ => ⟨fun h => other h.1, False.elim⟩

lemma Step.effect (st : Step limits e.pre e.label e.post)
    (within : e.pre.data.keys.length ≤ limits.maxSessions) :
    Effect limits e.pre (purged limits e.pre e.label) e.label.now e.label.operation (result limits e)
      e.post := by
  have effect := @perform_effect limits e.pre e.label within
  rwa [st] at effect

/-- The last of a list that ends with a key comes behind the others, which keep their order. -/
lemma dedup_concat (keys : List String) (key : String) :
    (keys ++ [key]).dedup = keys.dedup.filter (· ≠ key) ++ [key] := by
  induction keys with
  | nil => rfl
  | cons first keys ih =>
    rw [List.cons_append, List.dedup_cons, List.dedup_cons, ih]
    by_cases again : first ∈ keys
    · rw [if_pos again, if_pos (List.mem_append_left _ again)]
    · rw [if_neg again]
      by_cases own : first = key
      · subst own
        have others : keys.dedup.filter (· ≠ first) = keys.dedup :=
          List.filter_eq_self.mpr fun other mem => decide_eq_true fun same =>
            again (same ▸ List.mem_dedup.mp mem)
        rw [if_pos (List.mem_append_right _ (.head _)), List.filter_cons_of_neg (by simp), others]
      · have new : first ∉ keys ++ [key] := by
          rw [List.mem_append, List.mem_singleton]
          exact not_or.mpr ⟨again, own⟩
        rw [if_neg new, List.filter_cons_of_pos (by simpa using own), List.cons_append]

lemma Holds.step (holds : Holds limits es e.pre) (st : Step limits e.pre e.label e.post) :
    Holds limits (es ++ [e]) e.post := by
  have effect := st.effect holds.sessions
  have dropped := @purged_drops limits e.pre e.label
  refine ⟨?_, effect.tidy holds.tidy (holds.tidy.drops dropped), fun key => ?_, ?_, ?_⟩
  · exact effect.sessions dropped holds.sessions
  · by_cases clears : e.label.operation.Clears key
    · obtain ⟨shows, after⟩ := effect.clears clears
      rw [history_ends es (.inl clears), after]
      exact shows
    · have same : e.label.operation.purges = false → purged limits e.pre e.label = e.pre :=
        fun quiet => if_neg (Bool.eq_false_iff.mp quiet)
      by_cases idle : IdlesOut limits key e
      -- first the purge drops sessions, then the call can evict one
      · obtain ⟨away, stays⟩ := (Shows.lost dropped idle).effect effect clears same
        rw [history_ends es (.inr (.inl idle))]
        by_cases way : MakesWay limits key e
        · exact away way
        · exact stays way
      · obtain ⟨away, stays⟩ := ((holds.shows key).kept dropped idle).effect effect clears same
        by_cases way : MakesWay limits key e
        · rw [history_ends es (.inr (.inr way))]
          exact away way
        · rw [history_lasts es (not_or.mpr ⟨clears, not_or.mpr ⟨idle, way⟩⟩)]
          exact stays way
  · rw [List.filterMap_append]
    obtain ⟨untouched, keys⟩ | ⟨key, touch, keys⟩ := effect.keys dropped
    · have untouched : touched limits e = none := untouched
      rw [List.filterMap_cons_none untouched, List.filterMap_nil, List.append_nil]
      exact keys.reverse.trans holds.order
    · have touch : touched limits e = some key := touch
      rw [List.filterMap_cons_some touch, List.filterMap_nil, dedup_concat]
      have last := keys.reverse
      rw [List.reverse_cons, e.pre.data.keys_nodup.erase_eq_filter, ← List.filter_reverse] at last
      refine last.trans (List.Sublist.append_right ?_ _)
      have same : (fun other : String => other != key) = fun other => decide (other ≠ key) := by
        funext other
        by_cases own : other = key <;> simp [own]
      rw [same]
      exact holds.order.filter _
  · intro key session found
    obtain ⟨is, now⟩ | ⟨other, before⟩ := effect.lookup dropped found
    · exact ⟨es, e, [], rfl, is, now.symm, fun _ mem => absurd mem List.not_mem_nil⟩
    · obtain ⟨before, f, after, rfl, is, now, since⟩ := holds.times key session before
      refine ⟨before, f, after ++ [e], by simp, is, now, fun g mem => ?_⟩
      obtain mem | mem := List.mem_append.mp mem
      · exact since g mem
      · rw [List.mem_singleton.mp mem]
        exact other

lemma Holds.run (run : Run (Step limits) {} es store) : Holds limits es store :=
  run.invariant_history (I := Holds limits) (fun _ _ st holds => holds.step st) .start

/-- The call of the event appends the turn of the run. -/
def AppendsTurn (limits : MemoryLimits) (key runId : String) (e : MemoryEvent) : Prop :=
  ∃ userMessage assistantMessage,
    e.label.operation = .appendTurn key runId userMessage assistantMessage ∧
      result limits e = .committed true

lemma history_nameless (es : List MemoryEvent) : history limits "" es = {} := by
  have after (operation : StoreOperation) : Thread.after "" {} operation = {} := by
    cases operation with
    | append key messages => exact if_neg fun own => own.2 own.1
    | appendTurn key => exact if_neg fun own => own.2.1 own.1
    | _ => rfl
  induction es using List.reverseRecOn with
  | nil => rfl
  | append_singleton es e ih =>
    by_cases ends : Ends limits "" e
    · rw [history_ends es ends, after]
    · rw [history_lasts es ends, ih, after]

/-- A call that reads a session returns the last messages of its thread. -/
lemma Holds.get (holds : Holds limits es e.pre) (st : Step limits e.pre e.label e.post) {key : String}
    (get : e.label.operation = .get key) : result limits e =
      .messages (lastOf limits.maxMessages (history limits key (es ++ [e])).messages) := by
  have shows := (holds.step st).shows key
  have effect := st.effect holds.sessions
  rw [get] at effect
  generalize result limits e = result, e.post = post at effect shows ⊢
  cases effect with
  | ignored _ _ reads =>
    obtain ⟨rfl, rfl⟩ := reads key rfl
    rw [history_nameless, lastOf_nil]
  | missed _ absent => rw [shows.absent absent, lastOf_nil]
  | hit given found => rw [← shows.messages _ (AList.lookup_insert _)]

lemma after_runs (key : String) (thread : Thread) (operation : StoreOperation) :
    thread.runs ⊆ (Thread.after key thread operation).runs := by
  unfold Thread.after
  split
  · split
    · exact List.Subset.refl _
    · exact List.Subset.refl _
  · split
    · rw [Thread.appendTurn]
      split
      · exact List.Subset.refl _
      · exact List.subset_append_left _ _
    · exact List.Subset.refl _
  · exact List.Subset.refl _

/-- A run whose turn was appended stays committed until the session ends. -/
lemma history_commits {key runId : String} {later : List MemoryEvent}
    (committed : runId ∈ (history limits key es).runs)
    (lasts : ∀ g ∈ later, ¬ Ends limits key g) :
    runId ∈ (history limits key (es ++ later)).runs := by
  induction later using List.reverseRecOn with
  | nil => rwa [List.append_nil]
  | append_singleton later g ih =>
    rw [← List.append_assoc, history_lasts _ (lasts g (by simp))]
    exact after_runs _ _ _ (ih fun g mem => lasts g (List.mem_append_left _ mem))

/-- A turn is appended to a session to which the turn of its run was not, and then it was. -/
lemma Holds.turn (holds : Holds limits es e.pre) (st : Step limits e.pre e.label e.post)
    {key runId : String} (appends : AppendsTurn limits key runId e) :
    (¬ Ends limits key e → runId ∉ (history limits key es).runs) ∧
      runId ∈ (history limits key (es ++ [e])).runs := by
  obtain ⟨userMessage, assistantMessage, turn, committed⟩ := appends
  have effect := st.effect holds.sessions
  have dropped := @purged_drops limits e.pre e.label
  rw [committed, turn] at effect
  generalize e.post = post, purged limits e.pre e.label = mid at effect dropped
  cases effect with
  | ignored _ _ _ uncommitted => exact absurd rfl (uncommitted true)
  | turn given new _ _ =>
    constructor
    · intro lasts known
      have shows := (holds.shows key).kept dropped fun idle => lasts (.inr (.inl idle))
      exact new ((shows.runs runId).mpr known)
    · have after (thread : Thread) :
          runId ∈ (Thread.after key thread e.label.operation).runs := by
        rw [turn, Thread.after, if_pos ⟨rfl, given⟩, Thread.appendTurn]
        split
        · next known => exact known
        · exact List.mem_append_right _ (.head _)
      by_cases ends : Ends limits key e
      · rw [history_ends es ends]
        exact after _
      · rw [history_lasts es ends]
        exact after _

/-- A session that a call makes disappear has ended. -/
lemma Holds.disappears (holds : Holds limits es e.pre) (st : Step limits e.pre e.label e.post)
    {key : String} (there : key ∈ e.pre.data) (gone : key ∉ e.post.data) : Ends limits key e := by
  by_contra lasts
  obtain ⟨quiet, lasts⟩ := not_or.mp lasts
  obtain ⟨busy, stays⟩ := not_or.mp lasts
  have there : e.pre.data.lookup key ≠ none := fun none => AList.lookup_eq_none.mp none there
  have thereMid := (@purged_drops limits e.pre e.label).there busy there
  exact (st.effect holds.sessions).stays quiet there thereMid stays (AList.lookup_eq_none.mpr gone)

/-- The sessions of the store in memory, after any calls: there are never more than the limit, with no more
    messages than the limit, in the order of their last touches; only they have committed runs; they
    disappear only by a `clear`, because they were idle for too long, or as the ones touched least recently;
    `get` returns the last messages that were appended since the session was created; and the turn of a run
    is appended again only after the session has ended. -/
theorem sessions_kept (run : Run (Step limits) {} es store) :
    (store.data.keys.length ≤ limits.maxSessions ∧ ∀ key session,
      store.data.lookup key = some session → session.messages.length ≤ limits.maxMessages) ∧
    (store.data.keys.reverse.Sublist (es.filterMap (touched limits)).dedup ∧ ∀ key session,
      store.data.lookup key = some session → LastTouch limits es key session.touchedAt) ∧
    (∀ key ∈ store.committedRuns, key ∈ store.data) ∧
    (∀ e ∈ es, ∀ key ∈ e.pre.data, key ∉ e.post.data → Ends limits key e) ∧
    (∀ before e after, es = before ++ e :: after → ∀ key, e.label.operation = .get key →
      result limits e =
        .messages (lastOf limits.maxMessages (history limits key (before ++ [e])).messages)) ∧
    ∀ key runId before e between f after, es = before ++ e :: between ++ f :: after →
      AppendsTurn limits key runId e → AppendsTurn limits key runId f →
        ∃ g ∈ between ++ [f], Ends limits key g := by
  have holds := Holds.run run
  refine ⟨⟨holds.sessions, ?_⟩, ⟨holds.order, holds.times⟩, ?_, ?_, ?_, ?_⟩
  · intro key session found
    rw [(holds.shows key).messages session found, length_lastOf]
    exact Nat.min_le_left _ _
  · intro key committed
    by_contra absent
    have none := holds.tidy key (AList.lookup_eq_none.mpr absent)
    exact AList.lookup_eq_none.mp none committed
  · intro e mem key there gone
    obtain ⟨before, after, rfl⟩ := List.append_of_mem mem
    obtain ⟨_, past, later⟩ := run.split
    obtain ⟨rfl, st, -⟩ := later.head
    exact (Holds.run past).disappears st there gone
  · rintro before e after rfl key get
    obtain ⟨_, past, later⟩ := run.split
    obtain ⟨rfl, st, -⟩ := later.head
    exact (Holds.run past).get st get
  · rintro key runId before e between f after rfl first second
    obtain ⟨_, past, later⟩ := run.split
    obtain ⟨rfl, st, -⟩ := later.head
    obtain ⟨_, start, tail⟩ := past.split
    obtain ⟨rfl, begins, -⟩ := tail.head
    by_contra lasts
    have lasts : ∀ g ∈ between ++ [f], ¬ Ends limits key g :=
      fun g mem ends => lasts ⟨g, mem, ends⟩
    have committed := ((Holds.run start).turn begins first).2
    have still := history_commits committed fun g mem => lasts g (List.mem_append_left _ mem)
    have new := ((Holds.run past).turn st second).1 (lasts f (by simp))
    rw [List.append_assoc] at still
    exact new still

end Runs

section Samples

/-- Limits for examples: one session at a time. -/
def oneSession : MemoryLimits where
  ttlSeconds := 3600
  maxSessions := 1
  maxMessages := 2

/-- The turn of a run. -/
def turnOf (key runId : String) (now : Time) : StoreCall where
  now := now
  operation := .appendTurn key runId [("content", .str runId)] [("content", .str "answer")]

/-- Two turns, of which the store shows the second one, the first turn again, a turn of another session, and
    the first turn once more. -/
def keptCalls : List StoreCall :=
  [turnOf "a" "first" 0, turnOf "a" "second" 1, ⟨2, .get "a"⟩, turnOf "a" "first" 3,
    turnOf "b" "first" 4, turnOf "a" "first" 5]

def keptEvents : List MemoryEvent := trace (fun store call => (perform oneSession store call).2) {} keptCalls

/-- The first turn is appended again because the turn of the other session has made its session disappear. -/
theorem sessions_kept_sample :
    keptEvents.map (result oneSession) =
      [.committed true, .committed true,
        .messages [[("content", .str "second")], [("content", .str "answer")]], .committed false,
        .committed true, .committed true] ∧
    (keptCalls.foldl (fun store call => (perform oneSession store call).2) {}).data.keys.length ≤ 1 ∧
    .messages [[("content", .str "second")], [("content", .str "answer")]] =
      StoreResult.messages (lastOf 2 (history oneSession "a" (keptEvents.take 3)).messages) ∧
    ∃ e ∈ keptEvents.tail, Ends oneSession "a" e := by
  obtain ⟨sizes, -, -, -, shows, once⟩ := sessions_kept
    (trace_run (fun store call => (perform oneSession store call).2) {} keptCalls)
  refine ⟨rfl, sizes.1, ?_, ?_⟩
  · exact shows (keptEvents.take 2) ⟨_, _, _⟩ (keptEvents.drop 3) rfl "a" rfl
  · exact once "a" "first" [] ⟨_, _, _⟩ ((keptEvents.drop 1).take 4) ⟨_, _, _⟩ [] rfl ⟨_, _, rfl, rfl⟩ ⟨_, _,
      rfl, rfl⟩

end Samples

end BoundedInMemoryStore

end AgentRuntime.Conversation
