import AgentRuntime.Conversation.Postgres
import AgentRuntime.Conversation.Turns
import AgentRuntime.Lib.Run

/-!
# A thread in PostgreSQL

The rows of a thread are numbered in the order of its messages, and no more are kept than are shown; a row of
the second table stands for each run whose turn was appended. The calls of the runtime answer as the thread
does, as long as no text of theirs has a NUL character.
-/

namespace AgentRuntime.Conversation
open State Transition Text

section Rows

/-- The numbers of the rows increase. -/
def Ordered (rows : List MessageRow) : Prop := rows.Pairwise (·.sequenceNo < ·.sequenceNo)

variable {rows : List MessageRow}

/-- A number names one row. -/
lemma Ordered.unique (ordered : Ordered rows) {row other : MessageRow} (mem : row ∈ rows) (mem' : other ∈ rows)
    (same : row.sequenceNo = other.sequenceNo) : row = other := by
  have distinct : (rows.map MessageRow.sequenceNo).Nodup :=
    List.pairwise_map.mpr (ordered.imp fun lt => Nat.ne_of_lt lt)
  exact List.inj_on_of_nodup_map distinct mem mem' same

/-- Rows that are sorted by falling numbers are in the reverse order. -/
lemma Ordered.sort (ordered : Ordered rows) :
    (rows.mergeSort fun a b => decide (b.sequenceNo ≤ a.sequenceNo)) = rows.reverse := by
  have sorted : (rows.mergeSort fun a b => decide (b.sequenceNo ≤ a.sequenceNo)).Pairwise
      fun a b => decide (b.sequenceNo ≤ a.sequenceNo) = true :=
    List.pairwise_mergeSort (fun a b c hab hbc => decide_eq_true
      ((of_decide_eq_true hbc).trans (of_decide_eq_true hab)))
      (fun a b => by simpa using Nat.le_total b.sequenceNo a.sequenceNo) rows
  have reversed : rows.reverse.Pairwise fun a b => decide (b.sequenceNo ≤ a.sequenceNo) = true :=
    List.pairwise_reverse.mpr (ordered.imp fun lt => decide_eq_true (Nat.le_of_lt lt))
  have perm := List.mergeSort_perm rows fun a b => decide (b.sequenceNo ≤ a.sequenceNo)
  refine List.Perm.eq_of_pairwise (fun a b ha hb hab hba => ?_) sorted reversed
    (perm.trans rows.reverse_perm.symm)
  refine ordered.unique (perm.mem_iff.mp ha) (List.mem_reverse.mp hb) ?_
  exact Nat.le_antisymm (of_decide_eq_true hba) (of_decide_eq_true hab)

/-- The rows with the last numbers are the last rows. -/
lemma Ordered.filter_last (ordered : Ordered rows) (count : Nat) :
    rows.filter (fun row => ((lastOf count rows).map MessageRow.sequenceNo).contains row.sequenceNo) =
      lastOf count rows := by
  have split : rows = rows.take (rows.length - count) ++ lastOf count rows :=
    (List.take_append_drop _ _).symm
  have apart := ordered
  rw [split] at apart
  obtain ⟨-, -, before⟩ := List.pairwise_append.mp apart
  conv_lhs => rw [split, List.filter_append]
  have none : (rows.take (rows.length - count)).filter (fun row =>
      ((lastOf count rows).map MessageRow.sequenceNo).contains row.sequenceNo) = [] := by
    refine List.filter_eq_nil_iff.mpr fun row mem kept => ?_
    obtain ⟨other, mem', same⟩ := List.mem_map.mp (List.contains_iff_mem.mp kept)
    exact absurd same (Nat.ne_of_gt (before row mem other mem'))
  have all : (lastOf count rows).filter (fun row =>
      ((lastOf count rows).map MessageRow.sequenceNo).contains row.sequenceNo) = lastOf count rows :=
    List.filter_eq_self.mpr fun row mem => List.contains_iff_mem.mpr (List.mem_map_of_mem mem)
  rw [← split, none, all, List.nil_append]

end Rows

namespace ConversationTables

variable {tables : ConversationTables} {threadId : String}

lemma rowsOf_all (own : ∀ row ∈ tables.messages, row.threadId = threadId) :
    tables.rowsOf threadId = tables.messages :=
  List.filter_eq_self.mpr fun row mem => decide_eq_true (own row mem)

/-- The rows that `get` selects. -/
lemma latest_all (own : ∀ row ∈ tables.messages, row.threadId = threadId)
    (ordered : Ordered tables.messages) (limit : Nat) :
    tables.latest threadId limit = (lastOf limit tables.messages).reverse := by
  rw [latest, rowsOf_all own, ordered.sort, List.take_reverse, lastOf]

/-- The rows that `_trim` keeps. -/
lemma trim_all (own : ∀ row ∈ tables.messages, row.threadId = threadId)
    (ordered : Ordered tables.messages) (limit : Nat) :
    tables.trim threadId limit = { tables with messages := lastOf limit tables.messages } := by
  rw [trim, latest_all own ordered]
  congr 1
  refine Eq.trans (List.filter_congr fun row mem => ?_) (ordered.filter_last limit)
  rw [decide_eq_true (own row mem), Bool.true_and, Bool.not_not, List.map_reverse, List.contains_reverse]

/-- The next number is greater than those of the thread. -/
lemma lt_nextSequence {row : MessageRow} (mem : row ∈ tables.rowsOf threadId) :
    row.sequenceNo < tables.nextSequence threadId := by
  have bound : ∀ (numbers : List Nat), ∀ n ∈ numbers, n ≤ numbers.foldr max 0 := by
    intro numbers n mem
    induction numbers with
    | nil => cases mem
    | cons m numbers ih =>
      cases mem with
      | head => exact Nat.le_max_left _ _
      | tail _ mem => exact (ih mem).trans (Nat.le_max_right _ _)
  exact Nat.lt_succ_of_le (bound _ _ (List.mem_map_of_mem mem))

end ConversationTables

namespace PostgresConversationStore

variable (store : PostgresConversationStore)

def Step (tables : ConversationTables) (call : ThreadCall) (tables' : ConversationTables) : Prop :=
  (store.perform call tables).2 = tables'

/-- What a call answers, at a moment. -/
def answer (call : ThreadCall) (tables : ConversationTables) : Except StoreError StoreResult :=
  (store.perform call tables).1

/-- What the driver is known to accept: canonical UUIDs, and the documents of the runtime in which there is no NUL
    character. -/
structure Accepting (driver : Driver) : Prop where
  uuids : ∀ text, canonicalUuid text = true → driver.uuid text = some text
  documents : ∀ message : RuntimeMessage, message.storable = true →
    ∃ stored, driver.jsonb message.metadata = some stored

/-- The row has the message, but for the order of the fields of its metadata. -/
def Stores (row : MessageRow) (message : Message) : Prop :=
  Json.Same (.obj message) (.obj (messageOf row))

/-- The tables have the thread. -/
structure Follows (store : PostgresConversationStore) (threadId : String) (tables : ConversationTables)
    (thread : Thread) : Prop where
  own : ∀ row ∈ tables.messages, row.threadId = threadId
  ordered : Ordered tables.messages
  messages : List.Forall₂ Stores tables.messages (lastOf store.maxMessages thread.messages)
  commits : ∀ runId, (threadId, runId) ∈ tables.turnCommits ↔ runId ∈ thread.runs
  runs : ∀ row ∈ tables.messages, ∀ runId, row.runId = some runId → runId ∈ thread.runs

lemma Follows.start (threadId : String) : Follows store threadId {} {} where
  own _ mem := absurd mem List.not_mem_nil
  ordered := .nil
  messages := by
    rw [lastOf_nil]
    exact .nil
  commits _ := ⟨fun mem => absurd mem List.not_mem_nil, fun mem => absurd mem List.not_mem_nil⟩
  runs _ mem := absurd mem List.not_mem_nil

/-- The answer is the expected one, with messages that are equal as dictionaries. -/
def SameAnswer (answer : Except StoreError StoreResult) (expected : StoreResult) : Prop :=
  match answer, expected with
  | .ok (.messages messages), .messages expected =>
    List.Forall₂ (fun message message' => Json.Same (.obj message) (.obj message')) expected messages
  | .ok answer, expected => answer = expected
  | .error _, _ => False

/-- The event is the call. -/
def Makes (threadId : String) (e : Event ConversationTables ThreadCall) (call : RuntimeCall) : Prop :=
  e.label.threadId = threadId ∧ e.label.operation = call.operation

section Calls

variable {store} {threadId : String} {tables : ConversationTables} {thread : Thread}

lemma textParameter_storable {text : String} (storable : storableText text = true) :
    textParameter text = .ok text := if_pos storable

/-- The row of a message of the runtime. -/
lemma record_runtime (accepting : Accepting store.driver) {message : RuntimeMessage}
    (storable : message.storable = true) (sequenceNo : Nat) (defaultRole : String)
    (runId messageKind : Option String) :
    ∃ row, store.record threadId sequenceNo message.toMessage defaultRole runId messageKind = .ok row ∧
      row.threadId = threadId ∧ row.sequenceNo = sequenceNo ∧ row.runId = runId ∧
      row.messageKind = messageKind ∧ Stores row message.toMessage := by
  obtain ⟨stored, accepted⟩ := accepting.documents message storable
  simp only [RuntimeMessage.storable, Bool.and_eq_true] at storable
  obtain ⟨⟨⟨role, content⟩, -⟩, -⟩ := storable
  have same := store.driver.jsonb_same accepted
  refine ⟨⟨threadId, sequenceNo, message.role, message.content, stored, runId, messageKind⟩,
    ?_, rfl, rfl, rfl, rfl, ?_⟩
  · have role : textParameter (store.fieldText message.toMessage "role" defaultRole) =
        .ok message.role := textParameter_storable role
    have content : textParameter (store.fieldText message.toMessage "content" "") =
        .ok message.content := textParameter_storable content
    have metadata : store.jsonbParameter (metadataOf message.toMessage) = .ok stored := by
      change store.jsonbParameter message.metadata = .ok stored
      rw [jsonbParameter, accepted]
      rfl
    rw [record, role, content, metadata]
    rfl
  · exact .cons (.refl _) (.cons (.refl _) (.cons same (.refl _)))

/-- The rows of a new turn come behind the others, and violate no constraint. -/
lemma Follows.insert (follows : Follows store threadId tables thread) {runId : String}
    (new : runId ∉ thread.runs) {user assistant : MessageRow}
    (hu : user.threadId = threadId ∧ user.sequenceNo = tables.nextSequence threadId ∧
      user.runId = some runId ∧ user.messageKind = some "user")
    (ha : assistant.threadId = threadId ∧ assistant.sequenceNo = tables.nextSequence threadId + 1 ∧
      assistant.runId = some runId ∧ assistant.messageKind = some "assistant") :
    insertOrIgnore tables.messages [user, assistant] = tables.messages ++ [user, assistant] ∧
      Ordered (tables.messages ++ [user, assistant]) := by
  obtain ⟨userThread, userNo, userRun, userKind⟩ := hu
  obtain ⟨assistantThread, assistantNo, assistantRun, assistantKind⟩ := ha
  have below : ∀ row ∈ tables.messages, row.sequenceNo < tables.nextSequence threadId :=
    fun row mem => ConversationTables.lt_nextSequence
      (by rwa [ConversationTables.rowsOf_all follows.own])
  have fresh : ∀ row ∈ tables.messages, ∀ number, tables.nextSequence threadId ≤ number →
      ¬ (row.sequenceNo = number ∨ row.runId = some runId) := by
    rintro row mem number le (same | same)
    · have := below row mem
      omega
    · exact new (follows.runs row mem runId same)
  have first : user.conflicts tables.messages = false := by
    rw [MessageRow.conflicts, List.any_eq_false]
    intro row mem
    have apart := not_or.mp (fresh row mem _ (Nat.le_refl _))
    simp [userNo, userRun, apart.1, apart.2]
  have second : assistant.conflicts (tables.messages ++ [user]) = false := by
    rw [MessageRow.conflicts, List.any_append, Bool.or_eq_false_iff, List.any_eq_false]
    constructor
    · intro row mem
      have apart := not_or.mp (fresh row mem _ (Nat.le_succ _))
      simp [assistantNo, assistantRun, apart.1, apart.2]
    · simp [userNo, userRun, userKind, assistantNo, assistantRun, assistantKind]
  constructor
  · rw [insertOrIgnore, first, if_neg Bool.false_ne_true, insertOrIgnore, second,
      if_neg Bool.false_ne_true, insertOrIgnore, List.append_assoc]
    rfl
  · refine List.pairwise_append.mpr ⟨follows.ordered, ?_, fun row mem other mem' => ?_⟩
    · simp [userNo, assistantNo]
    · have lower := below row mem
      simp only [List.mem_cons, List.not_mem_nil, or_false] at mem'
      obtain rfl | rfl := mem' <;> omega

/-- A transaction that succeeds is the step. -/
lemma answered {call : ThreadCall} {pre tables post : ConversationTables} {answer expected : StoreResult}
    (ok : store.statements call pre = .ok (answer, tables)) (st : Step store pre call post)
    (same : SameAnswer (.ok answer) expected) (follows : Follows store threadId tables thread) :
    SameAnswer (store.answer call pre) expected ∧ Follows store threadId post thread := by
  have perform : store.perform call pre = (.ok answer, tables) := by
    rw [PostgresConversationStore.perform, ok]
  have after : tables = post := (congrArg Prod.snd perform).symm.trans st
  refine ⟨?_, after ▸ follows⟩
  rw [PostgresConversationStore.answer, perform]
  exact same

/-- The store in PostgreSQL answers the calls on a thread as the thread does. -/
lemma Follows.step (accepting : Accepting store.driver) (named : storableText threadId = true)
    {e : Event ConversationTables ThreadCall} {call : RuntimeCall} (canonical : call.canonical = true)
    (storable : call.storable = true) (follows : Follows store threadId e.pre thread)
    (st : Step store e.pre e.label e.post) (makes : Makes threadId e call) :
    SameAnswer (store.answer e.label e.pre) (thread.perform store.maxMessages call.operation).1 ∧
      Follows store threadId e.post (thread.perform store.maxMessages call.operation).2 := by
  obtain ⟨pre, ⟨now, t, operation⟩, post⟩ := e
  obtain ⟨rfl, rfl⟩ := makes
  have thread_ok : textParameter t = .ok t := textParameter_storable named
  have short : pre.messages.length ≤ store.maxMessages := by
    rw [follows.messages.length_eq, length_lastOf]
    exact Nat.min_le_left _ _
  cases call with
  | get =>
    have get : store.get t pre = .ok (.messages (pre.messages.map messageOf), pre) := by
      rw [PostgresConversationStore.get, thread_ok]
      simp only [bind, Except.bind, pure, Except.pure]
      rw [ConversationTables.latest_all follows.own follows.ordered, List.reverse_reverse,
        lastOf_of_le _ short]
    exact answered get st (List.forall₂_map_right_iff.mpr follows.messages.flip) follows
  | appendTurn runId userMessage assistantMessage =>
    have run : store.uuidParameter runId = .ok runId := by
      rw [uuidParameter, accepting.uuids runId canonical]
      rfl
    simp only [RuntimeCall.operation, Thread.perform, Thread.appendTurn]
    by_cases known : runId ∈ thread.runs
    -- the run is committed already, so the transaction inserts nothing
    · have skipped : store.appendTurn t runId userMessage.toMessage assistantMessage.toMessage pre =
          .ok (.committed false, pre) := by
        rw [appendTurn, thread_ok, run]
        exact if_pos ((follows.commits runId).mpr known)
      rw [if_pos known]
      exact answered skipped st rfl follows
    -- both rows are inserted, and what exceeds the limit is deleted
    · obtain ⟨storableUser, storableAssistant⟩ := Bool.and_eq_true_iff.mp storable
      obtain ⟨user, userRecord, userThread, userNo, userRun, userKind, storesUser⟩ :=
        @record_runtime store t accepting _ storableUser (pre.nextSequence t) "user" (some runId) (some "user")
      obtain ⟨assistant, assistantRecord, assistantThread, assistantNo, assistantRun, assistantKind,
        storesAssistant⟩ := @record_runtime store t accepting _ storableAssistant
          (pre.nextSequence t + 1) "assistant" (some runId) (some "assistant")
      obtain ⟨inserted, ordered⟩ := follows.insert known ⟨userThread, userNo, userRun, userKind⟩
        ⟨assistantThread, assistantNo, assistantRun, assistantKind⟩
      have own : ∀ row ∈ pre.messages ++ [user, assistant], row.threadId = t := by
        intro row mem
        simp only [List.mem_append, List.mem_cons, List.not_mem_nil, or_false] at mem
        obtain mem | rfl | rfl := mem
        · exact follows.own row mem
        · exact userThread
        · exact assistantThread
      have turn : store.appendTurn t runId userMessage.toMessage assistantMessage.toMessage pre =
          .ok (.committed true,
            { messages := lastOf store.maxMessages (pre.messages ++ [user, assistant])
              turnCommits := pre.turnCommits ++ [(t, runId)] }) := by
        rw [appendTurn, thread_ok, run]
        simp only [bind, Except.bind, pure, Except.pure]
        rw [if_neg fun committed => known ((follows.commits runId).mp committed), userRecord]
        dsimp only
        rw [assistantRecord]
        dsimp only
        rw [inserted, ConversationTables.trim_all own ordered]
      rw [if_neg known]
      refine answered turn st rfl ⟨fun row mem => own row (List.mem_of_mem_drop mem), ordered.drop, ?_,
        fun run => ?_, fun row mem run named => ?_⟩
      · have all := List.rel_append follows.messages (.cons storesUser (.cons storesAssistant .nil))
        exact lastOf_append _ thread.messages _ ▸ forall₂_lastOf _ all
      · rw [List.mem_append, follows.commits run, List.mem_append]
        simp
      · have there := List.mem_of_mem_drop mem
        simp only [List.mem_append, List.mem_cons, List.not_mem_nil, or_false] at there
        obtain there | rfl | rfl := there
        · exact List.mem_append_left _ (follows.runs row there run named)
        · cases userRun.symm.trans named
          exact List.mem_append_right _ (List.mem_singleton_self _)
        · cases assistantRun.symm.trans named
          exact List.mem_append_right _ (List.mem_singleton_self _)
  | clear =>
    have none : pre.messages.filter (fun row => row.threadId ≠ t) = [] :=
      List.filter_eq_nil_iff.mpr fun row mem => by simpa using follows.own row mem
    have cleared : clear t pre = .ok (.cleared,
        { messages := []
          turnCommits := pre.turnCommits.filter (fun commit => commit.1 ≠ t) }) := by
      rw [clear, thread_ok, ← none]
      rfl
    refine answered cleared st rfl
      ⟨fun _ mem => absurd mem List.not_mem_nil, .nil, ?_, fun run => ?_, fun _ mem => absurd mem List.not_mem_nil⟩
    · rw [show (Thread.perform store.maxMessages thread RuntimeCall.clear.operation).2 = {} from rfl,
        lastOf_nil]
      exact .nil
    · simp [RuntimeCall.operation, Thread.perform]

end Calls

end PostgresConversationStore

end AgentRuntime.Conversation
