import AgentRuntime.Conversation.RedisCalls

/-!
# Turns in Redis over time

The list of a thread with the turns that its messages came with. A call that appends keeps the list for the
time to live from then on; the set of the runs is kept from the last call of `append_turn` only. So the set
can expire before the list, and then the script appends the turn of a run that the list still has.
-/

namespace AgentRuntime.Conversation
open State Transition

/-- Which message of a turn. -/
inductive TurnMessage where
  | user
  | assistant
deriving DecidableEq

/-- An item of the list of a thread; of a turn, also its run and which of its messages it is. -/
structure HistoryEntry where
  text : String
  origin : Option (String × TurnMessage) := none

/-- The keyspace at the time of the last call, and the entries of the list at the thread's key. -/
structure Timeline where
  keyspace : Keyspace
  now : Time
  entries : List HistoryEntry

/-- How often the message of a run's turn is among the entries. -/
def timesShown (runId : String) (message : TurnMessage) (entries : List HistoryEntry) : Nat :=
  entries.countP fun entry => entry.origin = some (runId, message)

/-- Both messages of the run's turn are among the entries more than once. -/
def Repeats (runId : String) (entries : List HistoryEntry) : Prop :=
  1 < timesShown runId .user entries ∧ 1 < timesShown runId .assistant entries

instance (runId : String) (entries : List HistoryEntry) : Decidable (Repeats runId entries) :=
  inferInstanceAs (Decidable (_ ∧ _))

namespace RedisConversationStore
open Redis

variable (store : RedisConversationStore) (threadId : String)

/-- The entries of the list, if it has not expired. -/
def listed (now : Time) (line : Timeline) : List HistoryEntry :=
  if (find now (store.key threadId) line.keyspace).isSome then line.entries else []

/-- The entries that `get` shows. -/
def visible (now : Time) (line : Timeline) : List HistoryEntry :=
  lastOf store.maxMessages (store.listed threadId now line)

/-- The entries of a run's turn. -/
def turnEntries (runId : String) (userMessage assistantMessage : Message) : List HistoryEntry :=
  [ { text := store.encode userMessage, origin := some (runId, .user) },
    { text := store.encode assistantMessage, origin := some (runId, .assistant) } ]

/-- The entries that a call with this answer has appended. -/
def additions (operation : ThreadOperation) (answer : Except StoreError StoreResult) :
    List HistoryEntry :=
  match operation, answer with
  | .append messages, .ok _ => messages.map fun message => { text := store.encode message }
  | .appendTurn runId userMessage assistantMessage, .ok (.committed true) =>
    store.turnEntries runId userMessage assistantMessage
  | _, _ => []

/-- The entries after a call. -/
def entriesAfter (line : Timeline) (call : ThreadCall) : List HistoryEntry :=
  let added := store.additions call.operation (store.answer call line.keyspace)
  match call.operation with
  | .clear => []
  | _ =>
    if added = [] then line.entries
    else lastOf store.maxMessages (store.listed call.threadId call.now line ++ added)

/-- What a call leaves. -/
def next (line : Timeline) (call : ThreadCall) : Timeline where
  keyspace := ((store.perform call).perform line.keyspace).2
  now := call.now
  entries := store.entriesAfter line call

/-- A call on the thread, at a time that is not before the last one. -/
def Passes (line : Timeline) (call : ThreadCall) (line' : Timeline) : Prop :=
  call.threadId = threadId ∧ line.now ≤ call.now ∧ line' = store.next line call

/-- There is no list at the thread's key, and none at the key of its runs. -/
def Fresh (line : Timeline) : Prop :=
  line.keyspace.lookup (store.key threadId) = none ∧
    (∃ runs, membersOf (line.keyspace.lookup (store.turnsKey threadId)) = .ok runs) ∧ line.entries = []

/-- The script's check finds the run. -/
def Recorded (now : Time) (runId : String) (keyspace : Keyspace) : Prop :=
  ((isCommitted (store.turnsKey threadId) (store.turnKey threadId runId) runId now).perform keyspace).1 =
    .ok true

/-- The call appends the turn of a run whose record has expired, while the list has the run's turn so far
    towards its end that it stays with two more entries. -/
def Forgets (e : Event Timeline ThreadCall) : Prop :=
  ∃ runId userMessage assistantMessage,
    e.label.operation = .appendTurn runId userMessage assistantMessage ∧
    ¬ store.Recorded threadId e.label.now runId e.pre.keyspace ∧
    0 < timesShown runId .user
      (lastOf (store.maxMessages - 2) (store.listed threadId e.label.now e.pre))

section Entries

variable {runId : String} {message : TurnMessage} {entries others : List HistoryEntry}

lemma timesShown_append : timesShown runId message (entries ++ others) =
    timesShown runId message entries + timesShown runId message others := List.countP_append

lemma timesShown_le (sub : entries.Sublist others) :
    timesShown runId message entries ≤ timesShown runId message others := sub.countP_le

lemma lastOf_suffix (count : Nat) (entries : List HistoryEntry) : lastOf count entries <:+ entries :=
  List.drop_suffix _ _

/-- Among the last entries, the user's message of a turn is there only with the assistant's. -/
def Paired (entries : List HistoryEntry) : Prop :=
  ∀ runId later, later <:+ entries → timesShown runId .user later ≤ timesShown runId .assistant later

lemma Paired.nil : Paired [] := by
  intro runId later suffix
  rw [List.suffix_nil.mp suffix]
  exact Nat.le_refl 0

lemma Paired.suffix (paired : Paired others) (suffix : entries <:+ others) : Paired entries :=
  fun runId _ later => paired runId _ (later.trans suffix)

lemma Paired.append (paired : Paired entries) (paired' : Paired others) : Paired (entries ++ others) := by
  intro runId later suffix
  obtain inside | whole := List.suffix_or_suffix_of_suffix suffix (List.suffix_append entries others)
  · exact paired' runId later inside
  · obtain ⟨before, rfl⟩ := whole
    have front : before <:+ entries := List.suffix_append_self_iff.mp suffix
    have first := paired runId before front
    have second := paired' runId others (List.suffix_refl _)
    rw [timesShown_append, timesShown_append]
    omega

/-- A text that is no part of a turn. -/
lemma timesShown_plain {texts : List HistoryEntry} (plain : ∀ entry ∈ texts, entry.origin = none) :
    timesShown runId message texts = 0 := by
  rw [timesShown, List.countP_eq_zero]
  intro entry mem
  rw [plain entry mem]
  exact of_decide_eq_false rfl

variable {store : RedisConversationStore} {userMessage assistantMessage : Message}

lemma timesShown_turn : timesShown runId message (store.turnEntries runId userMessage assistantMessage) = 1 := by
  cases message with
  | user => simp [timesShown, turnEntries]
  | assistant => simp [timesShown, turnEntries]

lemma timesShown_other {other : String} (ne : other ≠ runId) :
    timesShown runId message (store.turnEntries other userMessage assistantMessage) = 0 := by
  simp [timesShown, turnEntries, ne]

lemma Paired.turn : Paired (store.turnEntries runId userMessage assistantMessage) := by
  intro run later suffix
  rw [turnEntries, List.suffix_cons_iff, List.suffix_cons_iff, List.suffix_nil] at suffix
  obtain rfl | rfl | rfl := suffix
  · change timesShown run .user (store.turnEntries runId userMessage assistantMessage) ≤
      timesShown run .assistant (store.turnEntries runId userMessage assistantMessage)
    by_cases same : runId = run
    · subst same
      rw [timesShown_turn, timesShown_turn]
    · rw [timesShown_other same, timesShown_other same]
  · simp [timesShown]
  · exact Nat.le_refl 0

end Entries

section Steps

variable {store : RedisConversationStore} {threadId : String} {line line' : Timeline}
variable {call : ThreadCall} {now : Time}

/-- The entries are those of the list, and no more than are shown; the user's messages of turns are there
    with the assistant's. -/
structure Stored (store : RedisConversationStore) (threadId : String) (line : Timeline) : Prop where
  items : itemsOf (line.keyspace.lookup (store.key threadId)) = .ok (line.entries.map HistoryEntry.text)
  runs : ∃ runs, membersOf (line.keyspace.lookup (store.turnsKey threadId)) = .ok runs
  short : line.entries.length ≤ store.maxMessages
  paired : Paired line.entries

lemma Stored.start (fresh : store.Fresh threadId line) : Stored store threadId line := by
  obtain ⟨noList, runs, noEntries⟩ := fresh
  refine ⟨?_, runs, ?_, ?_⟩
  · rw [noList, noEntries]
    rfl
  · rw [noEntries]
    exact Nat.zero_le _
  · rw [noEntries]
    exact .nil

/-- What is listed is the list or, when it has expired, nothing. -/
lemma listed_suffix : store.listed threadId now line <:+ line.entries := by
  rw [listed]
  split
  · exact List.suffix_refl _
  · exact List.nil_suffix

lemma Stored.listed (stored : Stored store threadId line) (now : Time) :
    itemsOf (find now (store.key threadId) line.keyspace) =
      .ok ((store.listed threadId now line).map HistoryEntry.text) := by
  rw [RedisConversationStore.listed]
  cases found : find now (store.key threadId) line.keyspace with
  | none => rfl
  | some entry =>
    rw [Option.isSome_some, if_pos rfl, ← stored.items, lookup_of_find found]

/-- What is listed is shown whole. -/
lemma Stored.visible (stored : Stored store threadId line) (now : Time) :
    store.visible threadId now line = store.listed threadId now line :=
  lastOf_of_le _ (listed_suffix.length_le.trans stored.short)

/-- What a call sees. -/
lemma Stored.seen (stored : Stored store threadId line) (now : Time) {good : Keyspace → Prop}
    (holds : good line.keyspace) :
    ∃ runs, Seen store threadId now good ((store.listed threadId now line).map HistoryEntry.text) runs
      (fun runId => (find now (store.turnKey threadId runId) line.keyspace).isSome) line.keyspace := by
  obtain ⟨runs, members⟩ := stored.runs
  cases found : find now (store.turnsKey threadId) line.keyspace with
  | none => exact ⟨∅, stored.listed now, by rw [found]; rfl, fun _ => rfl, holds⟩
  | some entry =>
    refine ⟨runs, stored.listed now, ?_, fun _ => rfl, holds⟩
    rw [found, ← members, lookup_of_find found]

/-- Items that are seen are in the list. -/
lemma stored_of_seen {keyspace : Keyspace} {items : List String} (nonempty : items ≠ [])
    (seen : itemsOf (find now (store.key threadId) keyspace) = .ok items) :
    itemsOf (keyspace.lookup (store.key threadId)) = .ok items ∧
      (find now (store.key threadId) keyspace).isSome = true := by
  cases found : find now (store.key threadId) keyspace with
  | none =>
    rw [found] at seen
    cases seen
    exact absurd rfl nonempty
  | some entry =>
    rw [found] at seen
    rw [lookup_of_find found]
    exact ⟨seen, rfl⟩

/-- A run that is seen is in the set. -/
lemma stored_of_member {keyspace : Keyspace} {runs : Finset String} {runId : String}
    (seen : membersOf (find now (store.turnsKey threadId) keyspace) = .ok (insert runId runs)) :
    membersOf (keyspace.lookup (store.turnsKey threadId)) = .ok (insert runId runs) := by
  cases found : find now (store.turnsKey threadId) keyspace with
  | none =>
    rw [found] at seen
    exact absurd (Except.ok.inj seen).symm (Finset.insert_ne_empty runId runs)
  | some entry =>
    rw [found] at seen
    rw [lookup_of_find found]
    exact seen

/-- What is seen, whatever else is known of the keyspace. -/
lemma Seen.weaken {good : Keyspace → Prop} {items : List String} {runs : Finset String}
    {marked : String → Bool} {keyspace : Keyspace}
    (seen : Seen store threadId now good items runs marked keyspace) :
    Seen store threadId now (fun _ => True) items runs marked keyspace :=
  ⟨seen.items, seen.runs, seen.marked, trivial⟩

/-- The script's check, by what it sees. -/
lemma Seen.recorded_iff {good : Keyspace → Prop} {items : List String} {runs : Finset String}
    {marked : String → Bool} {keyspace : Keyspace} (runId : String)
    (seen : Seen store threadId now good items runs marked keyspace) :
    store.Recorded threadId now runId keyspace ↔ (decide (runId ∈ runs) || marked runId) = true := by
  obtain ⟨committed, _, eq, rfl, -⟩ := Seen.isCommitted runId keyspace seen
  rw [Recorded, eq]
  exact ⟨Except.ok.inj, congrArg Except.ok⟩

/-- The call appends these entries. -/
inductive Adds (store : RedisConversationStore) (threadId : String) (line : Timeline)
    (call : ThreadCall) : List HistoryEntry → Prop where
  | messages {messages : List Message} :
    call.operation = .append messages →
    messages ≠ [] →
    Adds store threadId line call (messages.map fun message => { text := store.encode message })
  | turn {runId : String} {userMessage assistantMessage : Message} :
    call.operation = .appendTurn runId userMessage assistantMessage →
    ¬ store.Recorded threadId call.now runId line.keyspace →
    Adds store threadId line call (store.turnEntries runId userMessage assistantMessage)

/-- The entries of messages are no parts of turns. -/
lemma plain_messages (messages : List Message) :
    ∀ entry ∈ messages.map fun message => ({ text := store.encode message } : HistoryEntry),
      entry.origin = none := by
  intro entry mem
  obtain ⟨message, -, rfl⟩ := List.mem_map.mp mem
  rfl

lemma Adds.paired {added : List HistoryEntry} (adds : Adds store threadId line call added) :
    Paired added := by
  cases adds with
  | messages _ _ =>
    intro runId later suffix
    rw [timesShown_plain fun entry mem => plain_messages _ entry (suffix.subset mem)]
    exact Nat.zero_le _
  | turn _ _ => exact .turn

lemma Adds.ne_nil {added : List HistoryEntry} (adds : Adds store threadId line call added) :
    added ≠ [] := by
  cases adds with
  | messages _ nonempty => exact fun none => nonempty (List.map_eq_nil_iff.mp none)
  | turn _ _ => exact List.cons_ne_nil _ _

/-- The list after a call that appended. -/
lemma Adds.stored {added : List HistoryEntry} (adds : Adds store threadId line call added)
    (line' : Timeline) (limit : 0 < store.maxMessages) (stored : Stored store threadId line)
    (seen : itemsOf (find call.now (store.key threadId) line'.keyspace) = .ok (lastOf store.maxMessages
      ((store.listed threadId call.now line).map HistoryEntry.text ++ added.map HistoryEntry.text)))
    (runs : ∃ runs, membersOf (line'.keyspace.lookup (store.turnsKey threadId)) = .ok runs)
    (entries : line'.entries = lastOf store.maxMessages (store.listed threadId call.now line ++ added)) :
    Stored store threadId line' ∧ (find call.now (store.key threadId) line'.keyspace).isSome = true := by
  rw [← List.map_append, lastOf_map, ← entries] at seen
  have nonempty : line'.entries.map HistoryEntry.text ≠ [] := by
    intro none
    have length := congrArg List.length none
    rw [entries, List.length_map, length_lastOf, List.length_append] at length
    have some := List.length_pos_iff.mpr adds.ne_nil
    rw [List.length_nil] at length
    omega
  obtain ⟨items, found⟩ := stored_of_seen nonempty seen
  refine ⟨⟨items, runs, ?_, ?_⟩, found⟩
  · rw [entries, length_lastOf]
    exact Nat.min_le_left _ _
  · rw [entries]
    exact ((stored.paired.suffix listed_suffix).append adds.paired).suffix (lastOf_suffix _ _)

/-- What a call does to the entries: it appends some, or it leaves them or clears them, and then a turn
    that it was to append has been found. -/
def Leads (store : RedisConversationStore) (threadId : String) (line : Timeline) (call : ThreadCall)
    (line' : Timeline) : Prop :=
  (line'.entries <:+ line.entries ∧ ∀ runId userMessage assistantMessage,
    call.operation = .appendTurn runId userMessage assistantMessage →
      store.Recorded threadId call.now runId line.keyspace) ∨
  ∃ added, Adds store threadId line call added ∧
    line'.entries = lastOf store.maxMessages (store.listed threadId call.now line ++ added) ∧
    (find call.now (store.key threadId) line'.keyspace).isSome = true

/-- This is what is at the key. -/
def HasAt (key : String) (entry : Option RedisEntry) (keyspace : Keyspace) : Prop :=
  keyspace.lookup key = entry

/-- What is written at one key leaves another as it is. -/
lemma HasAt.free {key other : String} {list : Option RedisEntry} (ne : key ≠ other) :
    FreeAt now (HasAt key list) other := by
  intro keyspace entry same _
  rw [HasAt, lookup_put, if_neg ne]
  exact same

/-- What a call leaves that does not clear the thread. -/
lemma next_of_perform {answer : Except StoreError StoreResult} {keyspace : Keyspace}
    (performed : (store.perform call).perform line.keyspace = (answer, keyspace))
    (keeps : call.operation ≠ .clear) :
    let added := store.additions call.operation answer
    store.next line call =
      { keyspace := keyspace
        now := call.now
        entries := if added = [] then line.entries
          else lastOf store.maxMessages (store.listed call.threadId call.now line ++ added) } := by
  intro added
  have answered : store.answer call line.keyspace = answer := congrArg Prod.fst performed
  have entries : store.entriesAfter line call = if added = [] then line.entries
      else lastOf store.maxMessages (store.listed call.threadId call.now line ++ added) := by
    rw [entriesAfter, answered]
    split
    · next clears => exact absurd clears keeps
    · rfl
  rw [next, entries, performed]

/-- A call that shows the history leaves it. -/
lemma get_leads (limit : 0 < store.maxMessages) (stored : Stored store threadId line) :
    let call : ThreadCall := ⟨now, threadId, .get⟩
    Stored store threadId (store.next line call) ∧ Leads store threadId line call (store.next line call) := by
  intro call
  have here : HasAt (store.key threadId) (line.keyspace.lookup (store.key threadId)) line.keyspace := rfl
  obtain ⟨runs, seen⟩ := stored.seen now here
  have left : store.next line call = { line with now } :=
    next_of_perform (seen.get limit) ThreadOperation.noConfusion
  rw [left]
  refine ⟨⟨stored.items, stored.runs, stored.short, stored.paired⟩, .inl ⟨List.suffix_refl _, ?_⟩⟩
  intro runId userMessage assistantMessage operation
  cases operation

/-- A call that clears the thread leaves nothing of it. -/
lemma clear_leads :
    let call : ThreadCall := ⟨now, threadId, .clear⟩
    Stored store threadId (store.next line call) ∧ Leads store threadId line call (store.next line call) := by
  intro call
  refine ⟨⟨?_, ⟨∅, ?_⟩, Nat.zero_le _, .nil⟩, .inl ⟨List.nil_suffix, ?_⟩⟩
  · exact congrArg itemsOf ((lookup_clear _).trans (if_pos (.inl rfl)))
  · exact congrArg membersOf ((lookup_clear _).trans (if_pos (.inr (.inl rfl))))
  · intro runId userMessage assistantMessage operation
    cases operation

/-- Messages are appended to what is listed. -/
lemma append_leads (ttl : 0 < store.ttlSeconds) (limit : 0 < store.maxMessages)
    (stored : Stored store threadId line) (messages : List Message) :
    let call : ThreadCall := ⟨now, threadId, .append messages⟩
    Stored store threadId (store.next line call) ∧ Leads store threadId line call (store.next line call) := by
  intro call
  by_cases nothing : messages = []
  · subst nothing
    have performed : (store.perform call).perform line.keyspace = (.ok .appended, line.keyspace) := rfl
    rw [next_of_perform performed ThreadOperation.noConfusion]
    refine ⟨⟨stored.items, stored.runs, stored.short, stored.paired⟩, .inl ⟨List.suffix_refl _, ?_⟩⟩
    intro runId userMessage assistantMessage operation
    cases operation
  · let set := line.keyspace.lookup (store.turnsKey threadId)
    have set_here : HasAt (store.turnsKey threadId) set line.keyspace := rfl
    obtain ⟨runs, seen⟩ := stored.seen now set_here
    obtain ⟨answer, keyspace, appends, rfl, seen'⟩ :=
      Seen.append ttl limit (HasAt.free key_ne_turns.symm) nothing _ seen
    have performed : (store.perform call).perform line.keyspace = (.ok .appended, keyspace) := appends
    let added : List HistoryEntry := messages.map fun message => { text := store.encode message }
    have adds : Adds store threadId line call added := .messages rfl nothing
    have texts : added.map HistoryEntry.text = messages.map store.encode := List.map_map
    let line' : Timeline :=
      ⟨keyspace, now, lastOf store.maxMessages (store.listed threadId now line ++ added)⟩
    have left : store.next line call = line' := (next_of_perform performed ThreadOperation.noConfusion).trans
      (congrArg (Timeline.mk keyspace now) (if_neg adds.ne_nil))
    rw [← texts] at seen'
    have typed : membersOf (keyspace.lookup (store.turnsKey threadId)) = membersOf set :=
      congrArg membersOf seen'.good
    have runs' : ∃ runs, membersOf (keyspace.lookup (store.turnsKey threadId)) = .ok runs := by
      rw [typed]
      exact stored.runs
    rw [left]
    obtain ⟨stored', found⟩ := adds.stored line' limit stored seen'.items runs' rfl
    exact ⟨stored', .inr ⟨added, adds, rfl, found⟩⟩

/-- A turn is appended when the script does not find its run. -/
lemma turn_leads (ttl : 0 < store.ttlSeconds) (limit : 0 < store.maxMessages)
    (stored : Stored store threadId line) (runId : String) (userMessage assistantMessage : Message) :
    let call : ThreadCall := ⟨now, threadId, .appendTurn runId userMessage assistantMessage⟩
    Stored store threadId (store.next line call) ∧ Leads store threadId line call (store.next line call) := by
  intro call
  let list := line.keyspace.lookup (store.key threadId)
  have list_here : HasAt (store.key threadId) list line.keyspace := rfl
  obtain ⟨runs, seen⟩ := stored.seen now list_here
  have recorded := seen.recorded_iff runId
  have performed {added : Bool} {keyspace : Keyspace}
      (script : (appendTurnScript (store.key threadId) (store.turnsKey threadId)
        (store.turnKey threadId runId) store.ttlSeconds runId (store.encode userMessage)
        (store.encode assistantMessage) store.maxMessages now).perform line.keyspace =
          (.ok added, keyspace)) :
      (store.perform call).perform line.keyspace = (.ok (.committed added), keyspace) := by
    rw [show store.perform call = store.appendTurn threadId runId userMessage assistantMessage now from rfl,
      appendTurn, Command.perform_bind, script]
    rfl
  by_cases known : store.Recorded threadId now runId line.keyspace
  -- the marker of the run, or its member of the set, is still alive
  · obtain ⟨added, keyspace, script, rfl, seen'⟩ := Seen.script_found ttl (HasAt.free key_ne_turns)
      (recorded.mp known) (store.encode userMessage) (store.encode assistantMessage) _ seen
    rw [next_of_perform (performed script) ThreadOperation.noConfusion]
    refine ⟨⟨?_, ⟨_, stored_of_member seen'.runs⟩, stored.short, stored.paired⟩,
      .inl ⟨List.suffix_refl _, ?_⟩⟩
    · exact (congrArg itemsOf seen'.good).trans stored.items
    · intro _ _ _ operation
      cases operation
      exact known
  · have unknown := Bool.eq_false_iff.mpr (recorded.not.mp known)
    have free (key : String) : FreeAt now (fun _ => True) key := fun _ _ _ _ => trivial
    obtain ⟨added, keyspace, script, rfl, seen'⟩ := Seen.script_added ttl limit (free _) (free _)
      unknown (store.encode userMessage) (store.encode assistantMessage) _ seen.weaken
    have adds : Adds store threadId line call (store.turnEntries runId userMessage assistantMessage) :=
      .turn rfl known
    let line' : Timeline := ⟨keyspace, now, lastOf store.maxMessages
      (store.listed threadId now line ++ store.turnEntries runId userMessage assistantMessage)⟩
    have left : store.next line call = line' :=
      (next_of_perform (performed script) ThreadOperation.noConfusion).trans
      (congrArg (Timeline.mk keyspace now) (if_neg adds.ne_nil))
    rw [left]
    obtain ⟨stored', found⟩ := adds.stored line' limit stored seen'.items
      ⟨_, stored_of_member seen'.runs⟩ rfl
    exact ⟨stored', .inr ⟨_, adds, rfl, found⟩⟩

/-- A call on the thread. -/
lemma Passes.leads (ttl : 0 < store.ttlSeconds) (limit : 0 < store.maxMessages)
    (stored : Stored store threadId line) (st : store.Passes threadId line call line') :
    Stored store threadId line' ∧ Leads store threadId line call line' := by
  obtain ⟨now, t, operation⟩ := call
  obtain ⟨rfl, -, rfl⟩ := st
  cases operation with
  | get => exact get_leads limit stored
  | append messages => exact append_leads ttl limit stored messages
  | appendTurn runId userMessage assistantMessage =>
    exact turn_leads ttl limit stored runId userMessage assistantMessage
  | clear => exact clear_leads

end Steps

section Runs

variable {store : RedisConversationStore} {threadId runId : String} {start final : Timeline}
variable {events : List (Event Timeline ThreadCall)} {e : Event Timeline ThreadCall}

/-- Where what was added is shown, it is behind the entries that are left. -/
lemma lastOf_added {count : Nat} {added : List HistoryEntry} (fits : added.length ≤ count)
    (entries : List HistoryEntry) :
    lastOf count (entries ++ added) = lastOf (count - added.length) entries ++ added := by
  rw [lastOf, lastOf, ← List.drop_append_of_le_length (Nat.sub_le _ _), List.length_append]
  congr 1
  omega

/-- A run's turn is shown once more than the list has it where it stays. -/
lemma timesShown_added (store : RedisConversationStore) (runId : String)
    (userMessage assistantMessage : Message) (count : Nat) (entries : List HistoryEntry) :
    timesShown runId .user
        (lastOf count (entries ++ store.turnEntries runId userMessage assistantMessage)) ≤
      timesShown runId .user (lastOf (count - 2) entries) + 1 := by
  have turn : timesShown runId .user (store.turnEntries runId userMessage assistantMessage) = 1 :=
    timesShown_turn
  by_cases fits : 2 ≤ count
  · rw [lastOf_added fits, timesShown_append, turn]
    rfl
  · have inside : lastOf count (entries ++ store.turnEntries runId userMessage assistantMessage) <:+
        store.turnEntries runId userMessage assistantMessage := by
      apply List.suffix_of_suffix_length_le (lastOf_suffix _ _) (List.suffix_append _ _)
      rw [length_lastOf]
      exact (Nat.min_le_left _ _).trans (Nat.le_of_not_le fits)
    have le : timesShown runId .user _ ≤ timesShown runId .user _ := timesShown_le inside.sublist
    omega

/-- A call that forgets no turn shows none again. -/
lemma once_kept (leads : Leads store threadId e.pre e.label e.post) (remembers : ¬ store.Forgets threadId e)
    (once : ∀ runId, timesShown runId .user e.pre.entries ≤ 1) (runId : String) :
    timesShown runId .user e.post.entries ≤ 1 := by
  have listed : timesShown runId .user (store.listed threadId e.label.now e.pre) ≤ 1 :=
    (timesShown_le listed_suffix.sublist).trans (once runId)
  obtain ⟨kept, -⟩ | ⟨added, adds, entries, -⟩ := leads
  · exact (timesShown_le kept.sublist).trans (once runId)
  · rw [entries]
    have shown : timesShown runId .user _ ≤ timesShown runId .user _ := timesShown_le
      (lastOf_suffix store.maxMessages (store.listed threadId e.label.now e.pre ++ added)).sublist
    rw [timesShown_append] at shown
    cases adds with
    | messages _ _ =>
      rw [timesShown_plain (plain_messages _)] at shown
      omega
    | @turn other userMessage assistantMessage operation unknown =>
      by_cases same : other = runId
      · subst same
        have none : ¬ 0 < timesShown other .user
            (lastOf (store.maxMessages - 2) (store.listed threadId e.label.now e.pre)) :=
          fun some => remembers ⟨other, _, _, operation, unknown, some⟩
        have more := store.timesShown_added other userMessage assistantMessage store.maxMessages
          (store.listed threadId e.label.now e.pre)
        omega
      · rw [timesShown_other same] at shown
        omega

/-- A call that forgets a turn shows it twice. -/
lemma repeats_of_forgets (stored : Stored store threadId e.pre) (stored' : Stored store threadId e.post)
    (leads : Leads store threadId e.pre e.label e.post) (forgets : store.Forgets threadId e) :
    ∃ runId, Repeats runId (store.visible threadId e.label.now e.post) := by
  obtain ⟨runId, userMessage, assistantMessage, operation, unknown, there⟩ := forgets
  refine ⟨runId, ?_⟩
  obtain ⟨-, known⟩ | ⟨added, adds, entries, found⟩ := leads
  · exact absurd (known runId userMessage assistantMessage operation) unknown
  · let list := store.listed threadId e.label.now e.pre
    have fits : 2 ≤ store.maxMessages := by
      by_contra short
      have none : lastOf (store.maxMessages - 2) list = [] := by
        apply List.eq_nil_of_length_eq_zero
        rw [length_lastOf]
        omega
      rw [none] at there
      exact absurd there (Nat.lt_irrefl 0)
    cases adds with
    | messages appends _ =>
      rw [operation] at appends
      cases appends
    | turn appends _ =>
      rw [operation] at appends
      cases appends
      have shown : store.visible threadId e.label.now e.post = lastOf (store.maxMessages - 2) list ++
          store.turnEntries runId userMessage assistantMessage := by
        rw [stored'.visible, listed, if_pos found, entries]
        exact lastOf_added fits list
      have there : 0 < timesShown runId .user (lastOf (store.maxMessages - 2) list) := there
      have both := stored.paired.suffix listed_suffix runId _ (lastOf_suffix (store.maxMessages - 2) list)
      rw [shown, Repeats, timesShown_append, timesShown_append, timesShown_turn, timesShown_turn]
      omega

/-- At every time after a call, `get` shows the entries of the list. No run's turn is shown twice after any
    call, exactly when no call appends the turn of a run whose record has expired before its turn. -/
theorem turns_once_iff (ttl : 0 < store.ttlSeconds) (limit : 0 < store.maxMessages)
    (fresh : store.Fresh threadId start) (run : Run (store.Passes threadId) start events final) :
    (∀ e ∈ events, ∀ now, store.answer ⟨now, threadId, .get⟩ e.post.keyspace =
      (store.decode ((store.visible threadId now e.post).map HistoryEntry.text)).map .messages) ∧
    ((∀ e ∈ events, ∀ now, e.label.now ≤ now → ∀ runId,
        ¬ Repeats runId (store.visible threadId now e.post)) ↔
      ∀ e ∈ events, ¬ store.Forgets threadId e) := by
  have stored (e) (mem : e ∈ events) : Stored store threadId e.pre ∧ Stored store threadId e.post :=
    run.invariant_mem (G := fun _ => True) (fun e st _ stored => (Passes.leads ttl limit stored st).1)
      (fun _ _ => trivial) (.start fresh) mem
  refine ⟨?_, ?_, ?_⟩
  · intro e mem now
    obtain ⟨runs, seen⟩ := (stored e mem).2.seen now (show HasAt "" _ _ from rfl)
    rw [visible, ← lastOf_map]
    exact congrArg Prod.fst (seen.get limit)
  · intro once e mem forgets
    obtain ⟨before, after⟩ := stored e mem
    have leads := (Passes.leads ttl limit before (run.step_of_mem mem)).2
    obtain ⟨runId, repeated⟩ := repeats_of_forgets before after leads forgets
    exact once e mem e.label.now (Int.le_refl _) runId repeated
  · intro remembers e mem now _ runId repeated
    have once : Stored store threadId e.post ∧ ∀ runId, timesShown runId .user e.post.entries ≤ 1 := by
      refine (run.invariant_mem (G := fun e => ¬ store.Forgets threadId e)
        (I := fun line => Stored store threadId line ∧ ∀ runId, timesShown runId .user line.entries ≤ 1)
        ?_ remembers ⟨.start fresh, fun runId => ?_⟩ mem).2
      · intro e st remembered holds
        obtain ⟨stored, leads⟩ := Passes.leads ttl limit holds.1 st
        exact ⟨stored, once_kept leads remembered holds.2⟩
      · rw [fresh.2.2]
        exact Nat.zero_le 1
    have shown : store.visible threadId now e.post <:+ e.post.entries :=
      (lastOf_suffix _ _).trans listed_suffix
    have le := (timesShown_le shown.sublist).trans (once.2 runId)
    exact absurd repeated.1 (Nat.not_lt_of_le le)

end Runs

section Samples

/-- A thread that nothing was appended to. -/
def noTimeline : Timeline := ⟨∅, 0, []⟩

lemma fresh_noTimeline (threadId : String) : sampleStore.Fresh threadId noTimeline :=
  ⟨rfl, ⟨∅, rfl⟩, rfl⟩

/-- The turn of a run is asked for twice, the second time while the set has the run. -/
theorem turns_once_sample :
    let line := sampleStore.next noTimeline (sampleTurn "a")
    let retry : ThreadCall := ⟨seconds 10, "a", (sampleTurn "a").operation⟩
    let events : List (Event Timeline ThreadCall) :=
      [⟨noTimeline, sampleTurn "a", line⟩, ⟨line, retry, sampleStore.next line retry⟩]
    (∀ e ∈ events, ∀ now, sampleStore.answer ⟨now, "a", .get⟩ e.post.keyspace =
      (sampleStore.decode ((sampleStore.visible "a" now e.post).map HistoryEntry.text)).map .messages) ∧
    ((∀ e ∈ events, ∀ now, e.label.now ≤ now → ∀ runId,
        ¬ Repeats runId (sampleStore.visible "a" now e.post)) ↔
      ∀ e ∈ events, ¬ sampleStore.Forgets "a" e) :=
  turns_once_iff (by decide) (by decide) (fresh_noTimeline "a")
    (.cons ⟨rfl, by decide, rfl⟩ (.cons ⟨rfl, by decide, rfl⟩ .nil))

/-- A message that is appended half an hour after the turn keeps the list, but not the set. -/
def sampleNote : ThreadCall := ⟨seconds 2000, "a", .append [[("content", .str "note")]]⟩

/-- The turn of the run is asked for again when the set has expired. -/
def sampleLate : ThreadCall := ⟨seconds 4000, "a", (sampleTurn "a").operation⟩

/-- Then the list has both messages of the turn twice. -/
theorem turn_repeated :
    ¬ ∀ (store : RedisConversationStore) (threadId : String) (start final : Timeline)
      (events : List (Event Timeline ThreadCall)), 0 < store.ttlSeconds → 0 < store.maxMessages →
      store.Fresh threadId start → Run (store.Passes threadId) start events final →
      ∀ e ∈ events, ∀ now, e.label.now ≤ now → ∀ runId,
        ¬ Repeats runId (store.visible threadId now e.post) := by
  intro claim
  let line := sampleStore.next noTimeline (sampleTurn "a")
  let line' := sampleStore.next line sampleNote
  have run : Run (sampleStore.Passes "a") noTimeline
      [⟨noTimeline, sampleTurn "a", line⟩, ⟨line, sampleNote, line'⟩,
        ⟨line', sampleLate, sampleStore.next line' sampleLate⟩] (sampleStore.next line' sampleLate) :=
    .cons ⟨rfl, by decide, rfl⟩ (.cons ⟨rfl, by decide, rfl⟩ (.cons ⟨rfl, by decide, rfl⟩ .nil))
  have repeated : Repeats "r" (sampleStore.visible "a" (seconds 4000) (sampleStore.next line' sampleLate)) := by
    decide +kernel
  exact claim _ _ _ _ _ (by decide) (by decide) (fresh_noTimeline "a") run
    _ (.tail _ (.tail _ (.head _))) (seconds 4000) (Int.le_refl _) "r" repeated

end Samples

end RedisConversationStore

end AgentRuntime.Conversation
