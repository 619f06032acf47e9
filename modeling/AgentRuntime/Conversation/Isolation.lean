import AgentRuntime.Conversation.Redis
import AgentRuntime.Data.JsonRoundTrip
import AgentRuntime.Lib.Run
import Mathlib.Data.Set.Lattice
import Mathlib.Order.CompletePartialOrder

/-!
# Conversations in Redis are apart

Each conversation has a key for its messages and one for its runs; its calls write no others, but `clear`,
which also deletes what a pattern matches. They read, besides, the marker keys of earlier versions, which
nothing writes. So calls on different conversations do not notice each other, as long as the names of
these keys do not collide.
-/

namespace AgentRuntime.Conversation
open State Transition

namespace Redis

/-- What is at a key. -/
abbrev entryAt (key : String) (keyspace : Keyspace) : Option RedisEntry := keyspace.lookup key

section Footprints

variable {α : Type} {now : Time} {key : String} {keys : Set String} {keyspace keyspace' : Keyspace}

lemma lookup_put (entry : Option RedisEntry) (k : String) :
    (put key entry keyspace).lookup k = if k = key then entry else keyspace.lookup k := by
  cases entry with
  | none => rw [put, Dict.lookup_erase_ite]
  | some entry => rw [put, Dict.lookup_insert_ite]

lemma find_congr (same : keyspace.lookup key = keyspace'.lookup key) :
    find now key keyspace = find now key keyspace' := by
  rw [find, same, find]

lemma writes_query (f : Option RedisEntry → Except StoreError α) :
    (query now key f).Writes entryAt keys := fun _ _ _ => rfl

lemma reads_query (f : Option RedisEntry → Except StoreError α) (mem : key ∈ keys) :
    (query now key f).Reads entryAt keys := fun _ _ same =>
  ⟨congrArg f (find_congr (same key mem)), same⟩

lemma writes_update (f : Option RedisEntry → Except StoreError (α × Option RedisEntry))
    (mem : key ∈ keys) : (update now key f).Writes entryAt keys := by
  intro keyspace k out
  rw [update, Command.perform_ofFunction]
  cases f (find now key keyspace) with
  | ok result =>
    have other : k ≠ key := fun e => out (e ▸ mem)
    exact (lookup_put _ k).trans (if_neg other)
  | error error => rfl

lemma reads_update (f : Option RedisEntry → Except StoreError (α × Option RedisEntry))
    (mem : key ∈ keys) : (update now key f).Reads entryAt keys := by
  intro keyspace keyspace' same
  rw [update, Command.perform_ofFunction, Command.perform_ofFunction,
    find_congr (same key mem)]
  cases f (find now key keyspace') with
  | ok result =>
    refine ⟨rfl, fun k mem => ?_⟩
    change (put key result.2 keyspace).lookup k = (put key result.2 keyspace').lookup k
    rw [lookup_put, lookup_put, show keyspace.lookup k = keyspace'.lookup k from same k mem]
  | error error => exact ⟨rfl, same⟩

/-- Deleted keys are gone, and the others are as they were. -/
lemma lookup_delete (deleted : List String) (k : String) :
    ((delete deleted).perform keyspace).2.lookup k =
      if k ∈ deleted then none else keyspace.lookup k := by
  rw [delete, Command.perform_ofFunction]
  induction deleted generalizing keyspace with
  | nil => rfl
  | cons key deleted ih =>
    rw [List.foldl_cons, ih, Dict.lookup_erase_ite]
    by_cases first : k = key
    · simp [first]
    · simp [first]

end Footprints

section Fits

variable (lists sets : Set String)

/-- The entry has the type that is meant for its key. -/
def FitsAt (key : String) (entry : RedisEntry) : Prop :=
  match entry.value with
  | .list _ => key ∈ lists
  | .set _ => key ∈ sets

/-- There are lists and sets only at the keys that are meant for them. -/
def Fits (keyspace : Keyspace) : Prop :=
  ∀ key entry, keyspace.lookup key = some entry → FitsAt lists sets key entry

/-- The errors that are not the server's. -/
def ownErrors : Set StoreError := {.jsonDecodeError}

variable {lists sets} {α : Type} {now : Time} {key : String} {keyspace : Keyspace}
  {entry : Option RedisEntry}

lemma Fits.find (fits : Fits lists sets keyspace) :
    ∀ e ∈ find now key keyspace, FitsAt lists sets key e := fun e found =>
  fits key e (Option.mem_filter_iff.mp found).1

lemma keeps_query {f : Option RedisEntry → Except StoreError α}
    (answers : ∀ entry, (∀ e ∈ entry, FitsAt lists sets key e) → ∃ a, f entry = .ok a) :
    (query now key f).Keeps (Fits lists sets) ownErrors := by
  intro keyspace fits
  obtain ⟨a, answer⟩ := answers _ fits.find
  rw [query, Command.perform_ofFunction, answer]
  exact ⟨nofun, fits⟩

lemma keeps_update {f : Option RedisEntry → Except StoreError (α × Option RedisEntry)}
    (answers : ∀ entry, (∀ e ∈ entry, FitsAt lists sets key e) →
      ∃ a new, f entry = .ok (a, new) ∧ ∀ e ∈ new, FitsAt lists sets key e) :
    (update now key f).Keeps (Fits lists sets) ownErrors := by
  intro keyspace fits
  obtain ⟨a, new, answer, newFits⟩ := answers _ fits.find
  rw [update, Command.perform_ofFunction, answer]
  refine ⟨nofun, fun k e found => ?_⟩
  rw [lookup_put] at found
  split at found
  · next same =>
    cases same
    exact newFits e found
  · exact fits k e found

lemma keeps_delete (deleted : List String) :
    (delete deleted).Keeps (Fits lists sets) ownErrors := by
  refine fun keyspace fits => ⟨nofun, fun k e found => ?_⟩
  rw [lookup_delete] at found
  split at found
  · cases found
  · exact fits k e found

lemma itemsOf_fits (apart : Disjoint lists sets) (mem : key ∈ lists)
    (fits : ∀ e ∈ entry, FitsAt lists sets key e) : ∃ items, itemsOf entry = .ok items := by
  rcases entry with _ | ⟨_ | members, expiresAt⟩
  · exact ⟨[], rfl⟩
  · exact ⟨_, rfl⟩
  · exact (Set.disjoint_left.mp apart mem (fits _ rfl)).elim

lemma membersOf_fits (apart : Disjoint lists sets) (mem : key ∈ sets)
    (fits : ∀ e ∈ entry, FitsAt lists sets key e) : ∃ members, membersOf entry = .ok members := by
  rcases entry with _ | ⟨items | _, expiresAt⟩
  · exact ⟨∅, rfl⟩
  · exact (Set.disjoint_left.mp apart (fits _ rfl) mem).elim
  · exact ⟨_, rfl⟩

lemma keeps_rpush (apart : Disjoint lists sets) (mem : key ∈ lists) (values : List String) :
    (rpush now key values).Keeps (Fits lists sets) ownErrors := by
  refine keeps_update fun entry fits => ?_
  obtain ⟨items, eq⟩ := itemsOf_fits apart mem fits
  rw [eq]
  refine ⟨_, _, rfl, ?_⟩
  rintro _ ⟨⟩
  exact mem

lemma keeps_ltrim (apart : Disjoint lists sets) (mem : key ∈ lists) (first last : Int) :
    (ltrim now key first last).Keeps (Fits lists sets) ownErrors := by
  refine keeps_update fun entry fits => ?_
  obtain ⟨items, eq⟩ := itemsOf_fits apart mem fits
  rw [eq]
  refine ⟨_, _, rfl, fun e new => ?_⟩
  split at new
  · cases new
  · cases new
    exact mem

lemma keeps_lrange (apart : Disjoint lists sets) (mem : key ∈ lists) (first last : Int) :
    (lrange now key first last).Keeps (Fits lists sets) ownErrors := by
  refine keeps_query fun entry fits => ?_
  obtain ⟨items, eq⟩ := itemsOf_fits apart mem fits
  rw [eq]
  exact ⟨_, rfl⟩

lemma keeps_expire (ttlSeconds : Int) :
    (expire now key ttlSeconds).Keeps (Fits lists sets) ownErrors := by
  refine keeps_update fun entry fits => ?_
  cases entry with
  | none => exact ⟨_, _, rfl, nofun⟩
  | some entry =>
    refine ⟨_, _, rfl, fun e new => ?_⟩
    split at new
    · cases new
    · cases new
      exact fits entry rfl

lemma keeps_sismember (apart : Disjoint lists sets) (mem : key ∈ sets) (member : String) :
    (sismember now key member).Keeps (Fits lists sets) ownErrors := by
  refine keeps_query fun entry fits => ?_
  obtain ⟨members, eq⟩ := membersOf_fits apart mem fits
  rw [eq]
  exact ⟨_, rfl⟩

lemma keeps_sadd (apart : Disjoint lists sets) (mem : key ∈ sets) (member : String) :
    (sadd now key member).Keeps (Fits lists sets) ownErrors := by
  refine keeps_update fun entry fits => ?_
  obtain ⟨members, eq⟩ := membersOf_fits apart mem fits
  rw [eq]
  refine ⟨_, _, rfl, ?_⟩
  rintro _ ⟨⟩
  exact mem

lemma keeps_existsKey : (existsKey now key).Keeps (Fits lists sets) ownErrors :=
  keeps_query fun _ _ => ⟨_, rfl⟩

end Fits

end Redis

namespace RedisConversationStore
open Redis

variable (store : RedisConversationStore)

/-- The keys that a conversation has for itself. -/
def ownKeys (threadId : String) : Set String := {store.key threadId, store.turnsKey threadId}

/-- The keys of the markers of a conversation. -/
def markerKeys (threadId : String) : Set String := Set.range (store.turnKey threadId)

/-- What the calls on a conversation depend on. -/
def readKeys (threadId : String) : Set String := store.ownKeys threadId ∪ store.markerKeys threadId

section Footprints

variable {store} {threadId : String} {now : Time} {lists sets : Set String}

lemma key_own : store.key threadId ∈ store.ownKeys threadId := .inl rfl

lemma turnsKey_own : store.turnsKey threadId ∈ store.ownKeys threadId := .inr rfl

lemma writes_isCommitted {keys : Set String} (runId : String) :
    (isCommitted (store.turnsKey threadId) (store.turnKey threadId runId) runId now).Writes entryAt
      keys := by
  refine .bind (writes_query _) fun member => ?_
  split
  · exact .pure true
  · exact writes_query _

lemma reads_isCommitted (runId : String) :
    (isCommitted (store.turnsKey threadId) (store.turnKey threadId runId) runId now).Reads entryAt
      (store.readKeys threadId) := by
  refine .bind (reads_query _ (.inl turnsKey_own)) fun member => ?_
  split
  · exact .pure true
  · exact reads_query _ (.inr ⟨runId, rfl⟩)

lemma keeps_isCommitted (apart : Disjoint lists sets) (turnsKey : store.turnsKey threadId ∈ sets)
    (runId : String) :
    (isCommitted (store.turnsKey threadId) (store.turnKey threadId runId) runId now).Keeps
      (Fits lists sets) ownErrors := by
  refine .bind (keeps_sismember apart turnsKey _) fun member => ?_
  split
  · exact .pure true
  · exact keeps_existsKey

lemma writes_script (runId user assistant : String) :
    (appendTurnScript (store.key threadId) (store.turnsKey threadId) (store.turnKey threadId runId)
      store.ttlSeconds runId user assistant store.maxMessages now).Writes entryAt
      (store.ownKeys threadId) := by
  refine (writes_isCommitted runId).bind fun committed => ?_
  cases committed with
  | true =>
    exact (writes_update _ turnsKey_own).bind fun _ =>
      (writes_update _ turnsKey_own).discard.bind fun _ => .pure false
  | false =>
    exact (writes_update _ turnsKey_own).bind fun _ =>
      (writes_update _ turnsKey_own).discard.bind fun _ =>
      (writes_update _ key_own).discard.bind fun _ =>
      (writes_update _ key_own).bind fun _ =>
      (writes_update _ key_own).discard.bind fun _ => .pure true

lemma reads_script (runId user assistant : String) :
    (appendTurnScript (store.key threadId) (store.turnsKey threadId) (store.turnKey threadId runId)
      store.ttlSeconds runId user assistant store.maxMessages now).Reads entryAt
      (store.readKeys threadId) := by
  have key : store.key threadId ∈ store.readKeys threadId := .inl key_own
  have turnsKey : store.turnsKey threadId ∈ store.readKeys threadId := .inl turnsKey_own
  refine (reads_isCommitted runId).bind fun committed => ?_
  cases committed with
  | true =>
    exact (reads_update _ turnsKey).bind fun _ =>
      (reads_update _ turnsKey).discard.bind fun _ => .pure false
  | false =>
    exact (reads_update _ turnsKey).bind fun _ =>
      (reads_update _ turnsKey).discard.bind fun _ =>
      (reads_update _ key).discard.bind fun _ =>
      (reads_update _ key).bind fun _ =>
      (reads_update _ key).discard.bind fun _ => .pure true

lemma keeps_script (apart : Disjoint lists sets) (key : store.key threadId ∈ lists)
    (turnsKey : store.turnsKey threadId ∈ sets) (runId user assistant : String) :
    (appendTurnScript (store.key threadId) (store.turnsKey threadId) (store.turnKey threadId runId)
      store.ttlSeconds runId user assistant store.maxMessages now).Keeps (Fits lists sets)
      ownErrors := by
  refine (keeps_isCommitted apart turnsKey runId).bind fun committed => ?_
  cases committed with
  | true =>
    exact (keeps_sadd apart turnsKey _).bind fun _ => (keeps_expire _).discard.bind fun _ => .pure false
  | false =>
    exact (keeps_sadd apart turnsKey _).bind fun _ =>
      (keeps_expire _).discard.bind fun _ =>
      (keeps_rpush apart key _).discard.bind fun _ =>
      (keeps_ltrim apart key _ _).bind fun _ =>
      (keeps_expire _).discard.bind fun _ => .pure true

variable {keyspace : Keyspace} {call : ThreadCall}

lemma lookup_clear (k : String) :
    ((store.clear threadId now).perform keyspace).2.lookup k =
      if k = store.key threadId ∨ k = store.turnsKey threadId ∨
        k ∈ keyspace.keys ∧ ((find now k keyspace).isSome &&
          Glob.isMatch (store.turnKey threadId "*") k) = true then none
      else keyspace.lookup k := by
  have deleted := @lookup_delete keyspace
    (store.key threadId :: store.turnsKey threadId :: keyspace.keys.filter fun key =>
      (find now key keyspace).isSome && Glob.isMatch (store.turnKey threadId "*") key) k
  simp only [List.mem_cons, List.mem_filter] at deleted
  exact deleted

/-- A call changes the keys of its conversation, and those that its pattern matches. -/
lemma writes_perform :
    (store.perform call).Writes entryAt (store.ownKeys call.threadId ∪
      {k | Glob.isMatch (store.turnKey call.threadId "*") k = true}) := by
  obtain ⟨now, threadId, operation⟩ := call
  have sub : store.ownKeys threadId ⊆ store.ownKeys threadId ∪
      {k | Glob.isMatch (store.turnKey threadId "*") k = true} := Set.subset_union_left
  cases operation with
  | get =>
    refine (writes_query _).bind fun values => ?_
    cases store.decode values with
    | ok messages => exact .pure _
    | error error => exact .throw error
  | append messages =>
    change (store.append threadId messages now).Writes entryAt _
    rw [append]
    split
    · exact .pure _
    · refine .mono (.bind (.transaction fun c mem => ?_) fun _ => .pure _) sub
      simp only [List.mem_cons, List.not_mem_nil, or_false] at mem
      obtain rfl | rfl | rfl := mem
      · exact (writes_update _ key_own).discard
      · exact writes_update _ key_own
      · exact (writes_update _ key_own).discard
  | appendTurn runId userMessage assistantMessage =>
    exact .mono ((writes_script _ _ _).bind fun _ => .pure _) sub
  | clear =>
    intro keyspace k out
    refine (lookup_clear k).trans (if_neg ?_)
    rintro (own | own | ⟨-, matching⟩)
    · exact out (.inl (.inl own))
    · exact out (.inl (.inr own))
    · exact out (.inr (Bool.and_eq_true_iff.mp matching).2)

/-- What a call answers depends on the keys of its conversation. -/
lemma answer_congr {keyspace' : Keyspace}
    (same : ∀ k ∈ store.readKeys call.threadId, keyspace.lookup k = keyspace'.lookup k) :
    ((store.perform call).perform keyspace).1 = ((store.perform call).perform keyspace').1 := by
  obtain ⟨now, threadId, operation⟩ := call
  have key : store.key threadId ∈ store.readKeys threadId := .inl key_own
  cases operation with
  | get =>
    have reads : (store.get threadId now).Reads entryAt (store.readKeys threadId) := by
      refine (reads_query _ key).bind fun values => ?_
      cases store.decode values with
      | ok messages => exact .pure _
      | error error => exact .throw error
    exact (reads _ _ same).1
  | append messages =>
    have reads : (store.append threadId messages now).Reads entryAt (store.readKeys threadId) := by
      rw [append]
      split
      · exact .pure _
      · refine .bind (.transaction fun c mem => ?_) fun _ => .pure _
        simp only [List.mem_cons, List.not_mem_nil, or_false] at mem
        obtain rfl | rfl | rfl := mem
        · exact (reads_update _ key).discard
        · exact reads_update _ key
        · exact (reads_update _ key).discard
    exact (reads _ _ same).1
  | appendTurn runId userMessage assistantMessage =>
    have reads : (store.appendTurn threadId runId userMessage assistantMessage now).Reads entryAt
        (store.readKeys threadId) := (reads_script _ _ _).bind fun _ => .pure _
    exact (reads _ _ same).1
  | clear => rfl

lemma decode_error {values : List String} {error : StoreError}
    (failed : store.decode values = .error error) : error ∈ ownErrors := by
  induction values with
  | nil => cases failed
  | cons value values ih =>
    rw [decode] at failed
    split at failed
    · cases failed
      rfl
    · cases rest : store.decode values with
      | ok messages =>
        rw [rest] at failed
        cases failed
      | error other =>
        rw [rest] at failed
        cases failed
        exact ih rest
    · exact ih failed

lemma keeps_perform (apart : Disjoint lists sets) (key : store.key call.threadId ∈ lists)
    (turnsKey : store.turnsKey call.threadId ∈ sets) :
    (store.perform call).Keeps (Fits lists sets) ownErrors := by
  obtain ⟨now, threadId, operation⟩ := call
  cases operation with
  | get =>
    refine (keeps_lrange apart key _ _).bind fun values => ?_
    cases decoded : store.decode values with
    | ok messages => exact .pure _
    | error error => exact .throw (decode_error decoded)
  | append messages =>
    change (store.append threadId messages now).Keeps _ _
    rw [append]
    split
    · exact .pure _
    · refine .bind (.transaction fun c mem => ?_) fun _ => .pure _
      simp only [List.mem_cons, List.not_mem_nil, or_false] at mem
      obtain rfl | rfl | rfl := mem
      · exact (keeps_rpush apart key _).discard
      · exact keeps_ltrim apart key _ _
      · exact (keeps_expire _).discard
  | appendTurn runId userMessage assistantMessage =>
    exact (keeps_script apart key turnsKey _ _ _).bind fun _ => .pure _
  | clear =>
    refine .bind (fun _ fits => ⟨nofun, fits⟩) fun markers => ?_
    exact .bind (keeps_delete _) fun _ => .pure _

end Footprints

section Names

variable (t u : String)

/-- A name that a call on `t` uses, or matches, can be the key of `u`: the key of its runs, of a marker, or a key
    that its pattern matches. -/
def Collides : Prop :=
  u = "turns:" ++ t ∨ (∃ runId, u = "turn:" ++ t ++ ":" ++ runId) ∨
    Glob.isMatch (store.turnKey t "*") (store.key u) = true ∨
    Glob.isMatch (store.turnKey t "*") (store.turnsKey u) = true

/-- No two of the conversations collide. -/
def Apart (ids : List String) : Prop := ∀ t ∈ ids, ∀ u ∈ ids, t ≠ u → ¬ store.Collides t u

lemma key_turns : store.key ("turns:" ++ t) = store.turnsKey t := by
  apply String.toList_inj.mp
  simp [key, turnsKey]

lemma key_turn (runId : String) : store.key ("turn:" ++ t ++ ":" ++ runId) = store.turnKey t runId := by
  apply String.toList_inj.mp
  simp [key, turnKey]

lemma key_injective {t u : String} (eq : store.key t = store.key u) : t = u :=
  (String.append_right_inj _).mp eq

lemma turnsKey_injective {t u : String} (eq : store.turnsKey t = store.turnsKey u) : t = u :=
  (String.append_right_inj _).mp eq

lemma turnsKey_ne_turnKey (runId : String) : store.turnsKey u ≠ store.turnKey t runId := by
  intro eq
  rw [← key_turns, ← key_turn] at eq
  have chars := congrArg String.toList (key_injective store eq)
  simp at chars

variable {store t u} in
/-- With a prefix that is no pattern, only names that begin as those of the store's other keys collide. -/
lemma Collides.reserved (plain : Glob.plain (store.keyPrefix ++ ":turn:") = true) (collides : store.Collides t u) :
    "turns:".toList <+: u.toList ∨ "turn:".toList <+: u.toList := by
  have pattern : store.turnKey t "*" = store.keyPrefix ++ ":turn:" ++ (t ++ ":*") := by
    apply String.toList_inj.mp
    simp [turnKey]
  obtain rfl | ⟨runId, rfl⟩ | matching | matching := collides
  · exact .inl (by simp)
  · exact .inr (by simp)
  · rw [pattern] at matching
    have begins := Glob.prefix_of_isMatch plain matching
    exact .inr (by simpa [key] using begins)
  · rw [pattern] at matching
    have begins := Glob.prefix_of_isMatch plain matching
    simp [turnsKey] at begins

end Names

section Apart

variable {store} {ids : List String} {t u : String} {keyspace : Keyspace}

lemma key_ne_turnsKey (apart : store.Apart ids) (ht : t ∈ ids) (hu : u ∈ ids) :
    store.key t ≠ store.turnsKey u := by
  intro eq
  rw [← key_turns] at eq
  have same := key_injective store eq
  refine apart u hu t ht ?_ (.inl same)
  rintro rfl
  simpa using congrArg String.length same

lemma key_ne_turnKey (apart : store.Apart ids) (ht : t ∈ ids) (hu : u ∈ ids) (runId : String) :
    store.key t ≠ store.turnKey u runId := by
  intro eq
  rw [← key_turn] at eq
  have same := key_injective store eq
  refine apart u hu t ht ?_ (.inr (.inl ⟨runId, same⟩))
  rintro rfl
  have lengths := congrArg String.length same
  simp only [String.length_append] at lengths
  have letters : "turn:".length = 5 := rfl
  omega

/-- The lists are at the keys of conversations, the sets at those for their runs. -/
def Good (store : RedisConversationStore) (ids : List String) : Keyspace → Prop :=
  Fits (store.key '' {t | t ∈ ids}) (store.turnsKey '' {t | t ∈ ids})

lemma disjoint_keys (apart : store.Apart ids) :
    Disjoint (store.key '' {t | t ∈ ids}) (store.turnsKey '' {t | t ∈ ids}) := by
  rw [Set.disjoint_left]
  rintro _ ⟨t, ht, rfl⟩ ⟨u, hu, eq⟩
  exact key_ne_turnsKey apart ht hu eq.symm

/-- There are no markers. -/
lemma Good.no_marker (good : Good store ids keyspace) (apart : store.Apart ids) (hu : u ∈ ids)
    (runId : String) : keyspace.lookup (store.turnKey u runId) = none := by
  cases found : keyspace.lookup (store.turnKey u runId) with
  | none => rfl
  | some entry =>
    have fits := good _ entry found
    rw [FitsAt] at fits
    split at fits
    · obtain ⟨t, ht, eq⟩ := fits
      exact (key_ne_turnKey apart ht hu runId eq).elim
    · obtain ⟨t, -, eq⟩ := fits
      exact (turnsKey_ne_turnKey store _ _ runId eq).elim

lemma Good.step (good : Good store ids keyspace) (apart : store.Apart ids) {call : ThreadCall}
    (mem : call.threadId ∈ ids) : (∀ error, ((store.perform call).perform keyspace).1 = .error error →
      error ∈ ownErrors) ∧ Good store ids ((store.perform call).perform keyspace).2 :=
  keeps_perform (disjoint_keys apart) ⟨_, mem, rfl⟩ ⟨_, mem, rfl⟩ keyspace good

/-- A call on one conversation leaves what the calls on another depend on. -/
lemma Good.untouched (good : Good store ids keyspace) (apart : store.Apart ids) {call : ThreadCall}
    (mem : call.threadId ∈ ids) (hu : u ∈ ids) (other : call.threadId ≠ u) :
    ∀ k ∈ store.readKeys u, ((store.perform call).perform keyspace).2.lookup k = keyspace.lookup k := by
  have collides := apart _ mem u hu other
  rintro _ ((rfl | rfl) | ⟨runId, rfl⟩)
  · refine writes_perform keyspace _ ?_
    rintro ((own | own) | matching)
    · exact other (key_injective store own).symm
    · exact key_ne_turnsKey apart hu mem own
    · exact collides (.inr (.inr (.inl matching)))
  · refine writes_perform keyspace _ ?_
    rintro ((own | own) | matching)
    · exact key_ne_turnsKey apart mem hu own.symm
    · exact other (turnsKey_injective store own).symm
    · exact collides (.inr (.inr (.inr matching)))
  · rw [(good.step apart mem).2.no_marker apart hu runId, good.no_marker apart hu runId]

end Apart

section Runs

/-- A call on the server. -/
def Step (keyspace : Keyspace) (call : ThreadCall) (keyspace' : Keyspace) : Prop :=
  ((store.perform call).perform keyspace).2 = keyspace'

/-- What a call answers, at a moment. -/
def answer (call : ThreadCall) (keyspace : Keyspace) : Except StoreError StoreResult :=
  ((store.perform call).perform keyspace).1

/-- The run counts as committed: its turn is not appended. -/
def CountsCommitted (threadId runId : String) (now : Time) (keyspace : Keyspace) : Prop :=
  ∀ userMessage assistantMessage,
    store.answer ⟨now, threadId, .appendTurn runId userMessage assistantMessage⟩ keyspace =
      .ok (.committed false)

/-- The conversations of a run. -/
def conversations (es : List (Event Keyspace ThreadCall)) : List String := es.map fun e => e.label.threadId

variable {store} {es : List (Event Keyspace ThreadCall)} {keyspace : Keyspace}

/-- In every run on conversations that do not collide, calls on one of them do not change what the calls on
    another answer, and no call of it is refused by the server. -/
theorem isolated (run : Run (Step store) ∅ es keyspace) {e : Event Keyspace ThreadCall} (mem : e ∈ es)
    {u : String} (other : e.label.threadId ≠ u) (apart : store.Apart (u :: conversations es)) :
    (∀ now, store.answer ⟨now, u, .get⟩ e.post = store.answer ⟨now, u, .get⟩ e.pre) ∧
      (∀ runId now, store.CountsCommitted u runId now e.post ↔ store.CountsCommitted u runId now e.pre) ∧
      ∀ call, call.threadId = u → store.answer call e.post = store.answer call e.pre ∧
        ∀ message, store.answer call e.post ≠ .error (.responseError message) := by
  have within : ∀ e ∈ es, e.label.threadId ∈ u :: conversations es := fun e mem =>
    List.mem_cons_of_mem _ (List.mem_map_of_mem mem)
  have hu : u ∈ u :: conversations es := List.mem_cons_self
  have kept : ∀ e : Event Keyspace ThreadCall, Step store e.pre e.label e.post →
      e.label.threadId ∈ u :: conversations es →
        Good store (u :: conversations es) e.pre → Good store (u :: conversations es) e.post := by
    intro e st named good
    rw [← show ((store.perform e.label).perform e.pre).2 = e.post from st]
    exact (good.step apart named).2
  obtain ⟨goodPre, goodPost⟩ := run.invariant_mem kept within (fun _ _ found => nomatch found) mem
  have same : ∀ call, call.threadId = u → store.answer call e.post = store.answer call e.pre := by
    rintro call rfl
    refine answer_congr ?_
    rw [← show ((store.perform e.label).perform e.pre).2 = e.post from run.step_of_mem mem]
    exact goodPre.untouched apart (within e mem) hu other
  refine ⟨fun now => same _ rfl, fun runId now => ?_, fun call named => ⟨same call named, ?_⟩⟩
  · exact forall₂_congr fun userMessage assistantMessage => by rw [same _ rfl]
  · intro message refused
    have own := (goodPost.step apart (named ▸ hu)).1 _ refused
    cases own

end Runs

section Samples

/-- The store with the default prefix. -/
def sampleStore : RedisConversationStore := create "langgraph" 3600 30 sampleFloats

/-- A turn of a conversation. -/
def sampleTurn (threadId : String) : ThreadCall :=
  ⟨0, threadId, .appendTurn "r" [("content", .str "question")] [("content", .str "answer")]⟩

/-- The number of messages in an answer. -/
def historyLength : Except StoreError StoreResult → Option Nat
  | .ok (.messages messages) => some messages.length
  | _ => none

/-- The keyspace after some calls. -/
def after (calls : List ThreadCall) : Keyspace :=
  calls.foldl (fun keyspace call => ((sampleStore.perform call).perform keyspace).2) ∅

/-- Clearing `a` deletes the messages of `turn:a:b`. -/
theorem clear_deletes_other : ¬ ∀ (store : RedisConversationStore) (es : List (Event Keyspace ThreadCall))
    (keyspace : Keyspace), Run (Step store) ∅ es keyspace → ∀ e ∈ es, ∀ u, e.label.threadId ≠ u → ∀ now,
      store.answer ⟨now, u, .get⟩ e.post = store.answer ⟨now, u, .get⟩ e.pre := by
  intro claim
  have same := claim sampleStore _ _
    (.cons (rfl : Step sampleStore ∅ (sampleTurn "turn:a:b") _) (.cons (l := ⟨0, "a", .clear⟩) rfl .nil))
    _ (.tail _ (.head _)) "turn:a:b" (by decide) 0
  have lengths := congrArg historyLength same
  revert lengths
  decide +kernel

example : sampleStore.answer ⟨0, "turns:a", .get⟩ (after [sampleTurn "a"]) = .error wrongType := rfl

/-- Two conversations that do not collide. -/
lemma sample_apart : sampleStore.Apart ["b", "b", "a"] := by
  have clear : Glob.plain (sampleStore.keyPrefix ++ ":turn:") = true := by decide +kernel
  have free : ∀ u ∈ ["b", "b", "a"], ¬ ("turns:".toList <+: u.toList ∨ "turn:".toList <+: u.toList) := by
    decide +kernel
  exact fun t _ u hu _ collides => free u hu (collides.reserved clear)

/-- A turn of `a` leaves the one of `b` as it was. -/
theorem isolated_sample :
    (∀ now, sampleStore.answer ⟨now, "b", .get⟩ (after [sampleTurn "b", sampleTurn "a"]) =
        sampleStore.answer ⟨now, "b", .get⟩ (after [sampleTurn "b"])) ∧
      (∀ runId now, sampleStore.CountsCommitted "b" runId now (after [sampleTurn "b", sampleTurn "a"]) ↔
        sampleStore.CountsCommitted "b" runId now (after [sampleTurn "b"])) ∧
      ∀ call, call.threadId = "b" →
        sampleStore.answer call (after [sampleTurn "b", sampleTurn "a"]) =
          sampleStore.answer call (after [sampleTurn "b"]) ∧
        ∀ message, sampleStore.answer call (after [sampleTurn "b", sampleTurn "a"]) ≠
          .error (.responseError message) :=
  isolated (.cons (l := sampleTurn "b") rfl (.cons (l := sampleTurn "a") rfl .nil)) (.tail _ (.head _))
    (by decide) sample_apart

end Samples

end RedisConversationStore

end AgentRuntime.Conversation
