import AgentRuntime.Orchestration.System

/-!
# What a turn can do

The one place where the handlers are unfolded. `Change` is everything that a handler can do to the
records and the fencing tokens at an await, whichever way the await ends; `Advance` adds how its local
variables move: where it learns of its record, where it gets a lease, and which responses it holds. Every
invariant of the system follows from `advance_spec`.
-/

namespace AgentRuntime.Orchestration
open State Transition

namespace Phase

/-- The lease that the handler holds. -/
def lease? : Phase → Option RunLease
  | .preparing lease _ => some lease
  | .executing lease _ => some lease
  | .locating lease _ => some lease
  | .persisting lease _ _ => some lease
  | .appending lease _ => some lease
  | .committing lease _ => some lease
  | .interrupting lease _ _ => some lease
  | .releasing lease _ => some lease
  | _ => none

/-- The lease under which the handler has still to persist an outcome. -/
def unpersisted? : Phase → Option RunLease
  | .preparing lease _ => some lease
  | .executing lease _ => some lease
  | .locating lease _ => some lease
  | .persisting lease _ _ => some lease
  | _ => none

/-- The handler has found the record of its run. -/
def knows : Phase → Bool
  | .replaying _ => true
  | .reconciling _ => true
  | .inspecting _ => true
  | .acquiring => true
  | phase => phase.lease?.isSome

/-- The stored response that the handler is about to write again. -/
def stored? : Phase → Option ChatResponse
  | .replaying response => some response
  | .reconciling response => some response
  | .appending _ execution => some execution.response
  | .committing _ response => some response
  | _ => none

/-- The response that the handler is about to write. -/
def response? : Phase → Option ChatResponse
  | .locating _ execution => some execution.response
  | .persisting _ execution _ => some execution.response
  | phase => phase.stored?

/-- The handler is about to persist its outcome. -/
def persists : Phase → Bool
  | .persisting _ _ _ => true
  | _ => false

lemma lease?_of_unpersisted? {p : Phase} {lease : RunLease} (h : p.unpersisted? = some lease) :
    p.lease? = some lease := by
  cases p <;> first | exact h | cases h

lemma knows_of_lease? {p : Phase} {lease : RunLease} (h : p.lease? = some lease) :
    p.knows = true := by
  cases p <;> first | rfl | cases h

lemma response?_of_stored? {p : Phase} {response : ChatResponse}
    (h : p.stored? = some response) : p.response? = some response := by
  cases p <;> first | exact h | cases h

end Phase

/-- The metadata has the object that the history flag is written to. -/
def Tagged (metadata : JsonObject) : Prop :=
  ∃ fields, metadata.get? "persistence" = some (.obj fields)

lemma tagged_withHistoryPersisted {persisted : Bool} {response response' : ChatResponse}
    (h : response.withHistoryPersisted persisted = some response') :
    Tagged response'.metadata ∧ ChatResponse.SameReply response' response := by
  obtain ⟨metadata, set, rfl⟩ := Option.map_eq_some_iff.mp h
  refine ⟨?_, ⟨rfl, rfl, rfl, rfl, rfl, rfl, rfl⟩⟩
  simp only [setHistoryPersisted] at set
  split at set
  · cases set
    exact ⟨_, JsonObject.get?_set_self _ _ _⟩
  · cases set
    exact ⟨_, JsonObject.get?_set_self _ _ _⟩
  · cases set

lemma tagged_executeRun (agent : ChatRuntimeAgent) (identity : RunIdentity) (result : GraphResult)
    (report : JsonObject) (drawn : Uuid) :
    Tagged (executeRun agent identity result report drawn).response.metadata :=
  ⟨_, JsonObject.get?_set_self _ _ _⟩

lemma Tagged.withHistoryPersisted {response : ChatResponse} (tagged : Tagged response.metadata)
    (persisted : Bool) : ∃ response', response.withHistoryPersisted persisted = some response' := by
  obtain ⟨fields, h⟩ := tagged
  exact ⟨_, by simp only [ChatResponse.withHistoryPersisted, setHistoryPersisted, h]; rfl⟩

/-- A replay of the record gives this response. -/
def Replays (record : RunRecord) (response : ChatResponse) : Prop :=
  ∃ payload drawn, replayablePayload record = some payload ∧
    ChatResponse.modelValidate drawn payload = some response

section Spec

variable (agent : ChatRuntimeAgent) (request : Request) (input : Input)

/-- The record of a run. -/
abbrev recordOf (s : agent.store.σ) (key : String) : Option RunRecord :=
  agent.store.contract.record s key

/-- The last fencing token of a conversation. -/
abbrev tokenOf (s : agent.store.σ) (conversationId : String) : Nat :=
  agent.store.contract.token s conversationId

/-- The key of the run that a request is about. -/
abbrev keyOf : String := agent.store.contract.key request.identity.runId

/-- What a handler can do to the repository at an await. -/
inductive Change : Phase → agent.store.σ → agent.store.σ → Prop where
  | idle {p s s'} :
    recordOf agent s' = recordOf agent s →
    tokenOf agent s' = tokenOf agent s →
    Change p s s'
  | create {migrated s s' r} :
    recordOf agent s (keyOf agent request) = none →
    r.Matches request.identity →
    r.status = .pending →
    r.responsePayload = none →
    recordOf agent s' = Function.update (recordOf agent s) (keyOf agent request) (some r) →
    tokenOf agent s' = tokenOf agent s →
    Change (.creating migrated) s s'
  | acquire {s s' r} {lease : RunLease} :
    input.delivery.made = true →
    recordOf agent s (keyOf agent request) = some r →
    lease.fencingToken = tokenOf agent s request.identity.conversationId + 1 →
    recordOf agent s' = Function.update (recordOf agent s) (keyOf agent request)
      (some (r.acquired lease input.now)) →
    tokenOf agent s' =
      Function.update (tokenOf agent s) request.identity.conversationId lease.fencingToken →
    Change .acquiring s s'
  | renew {p s s'} :
    (∀ k, recordOf agent s' k = recordOf agent s k ∨ ∃ r expiresAt,
      recordOf agent s k = some r ∧ recordOf agent s' k = some (r.renewed expiresAt input.now)) →
    tokenOf agent s' = tokenOf agent s →
    Change p s s'
  | persist {lease : RunLease} {execution : RunExecution} {checkpointId s s' r payload} :
    agent.store.contract.takes s input.now lease (execution.outcome checkpointId) →
    recordOf agent s (agent.store.contract.key lease.runId) = some r →
    Keeps (some execution.response.modelDump) payload →
    recordOf agent s' = Function.update (recordOf agent s) (agent.store.contract.key lease.runId)
      (some (r.withOutcome (execution.outcome checkpointId) payload input.now)) →
    tokenOf agent s' = tokenOf agent s →
    Change (.persisting lease execution checkpointId) s s'
  | interrupt {lease : RunLease} {reason error s s' r} :
    input.delivery.made = true →
    agent.store.contract.takes s input.now lease (interruption reason) →
    recordOf agent s (agent.store.contract.key lease.runId) = some r →
    recordOf agent s' = Function.update (recordOf agent s) (agent.store.contract.key lease.runId)
      (some (r.withOutcome (interruption reason) none input.now)) →
    tokenOf agent s' = tokenOf agent s →
    Change (.interrupting lease reason error) s s'
  | commit {p s s' k r kept committedAt} {response : ChatResponse} :
    p.stored? = some response →
    (k = keyOf agent request ∨ ∃ lease, p.lease? = some lease ∧
      k = agent.store.contract.key lease.runId) →
    recordOf agent s k = some r →
    Keeps (some response.modelDump) kept →
    recordOf agent s' = Function.update (recordOf agent s) k
      (some (r.historyCommitted kept committedAt input.now)) →
    tokenOf agent s' = tokenOf agent s →
    Change p s s'

/-- The call of the repository that a task of the handler is suspended on. -/
def callOf : Action → Phase → Option Call
  | .heartbeat, .preparing _ current => some (.renew current agent.settings.runLeaseTtlSeconds)
  | .heartbeat, .executing _ current => some (.renew current agent.settings.runLeaseTtlSeconds)
  | .heartbeat, _ => none
  | .resume, .reading => some (.get request.identity.runId)
  | .resume, .creating _ => some (.createOrGet request.identity)
  | .resume, .reconciling response =>
    some (.reconcileHistoryCommitted request.identity.runId (some response.modelDump))
  | .resume, .acquiring =>
    some (.acquire request.identity input.drawn.val agent.settings.runLeaseTtlSeconds)
  | .resume, .persisting lease execution checkpointId =>
    some (.markTerminal lease (execution.outcome checkpointId))
  | .resume, .committing lease response =>
    some (.markHistoryCommitted lease (some response.modelDump))
  | .resume, .interrupting lease reason _ => some (.markTerminal lease (interruption reason))
  | .resume, .releasing lease _ => some (.release lease)
  | .resume, _ => none

/-- The lease was granted to the request between the two states. -/
structure Granted (s s' : agent.store.σ) (lease : RunLease) : Prop where
  key : agent.store.contract.key lease.runId = keyOf agent request
  conversation : lease.conversationId = request.identity.conversationId
  next : lease.fencingToken = tokenOf agent s request.identity.conversationId + 1
  last : tokenOf agent s' request.identity.conversationId = lease.fencingToken
  acquired : ∃ r, recordOf agent s' (keyOf agent request) = some r ∧ r.status = .running

/-- The handler has just persisted the response. -/
def Persisted (p : Phase) (s' : agent.store.σ) (response : ChatResponse) : Prop :=
  ∃ lease execution checkpointId r payload, p = .persisting lease execution checkpointId ∧
    response = execution.response ∧
    recordOf agent s' (agent.store.contract.key lease.runId) = some r ∧
    r.status = execution.status.toOutcomeStatus.toRunStatus ∧ r.responsePayload = payload ∧
    Keeps (some response.modelDump) payload

/-- Everything that a handler can do at an await. -/
structure Advance (p : Phase) (s : agent.store.σ) (p' : Phase) (s' : agent.store.σ) : Prop where
  change : Change agent request input p s s'
  knows : p'.knows = true → p.knows = true ∨
    ∃ r, recordOf agent s' (keyOf agent request) = some r ∧ r.Matches request.identity
  lease : ∀ lease, p'.lease? = some lease →
    p.lease? = some lease ∨ Granted agent request s s' lease
  unpersisted : ∀ lease, p'.unpersisted? = some lease →
    (p.unpersisted? = some lease ∧ p.persists = false) ∨ Granted agent request s s' lease
  stored : ∀ response, p'.stored? = some response →
    (∃ response', p.stored? = some response' ∧ ChatResponse.SameReply response response') ∨
    (∃ r, recordOf agent s' (keyOf agent request) = some r ∧ Replays r response) ∨
    Persisted agent p s' response
  response : ∀ response, p'.response? = some response →
    Tagged response.metadata ∨ p.response? = some response ∨
    ∃ r, recordOf agent s' (keyOf agent request) = some r ∧ Replays r response

end Spec

section Calls

variable {agent : ChatRuntimeAgent} {request : Request} {input : Input} {s s' : agent.store.σ}

/-- The end of an await: the call was made or not, and a result that arrives is its result. -/
lemma awaited_cases {σ α : Type} {delivery : Delivery} {call : σ → Effect σ α} {s s' : σ}
    {result : Except RequestError α} (h : awaited delivery call s = (result, s')) :
    (s' = s ∨ (delivery.made = true ∧ s' = (call s).2)) ∧
      ∀ value, result = .ok value → call s = (.ok value, s') := by
  cases delivery with
  | returned =>
    simp only [awaited] at h
    split at h
    · next value t called =>
      obtain ⟨rfl, rfl⟩ := Prod.mk.inj h
      refine ⟨.inr ⟨rfl, by rw [called]⟩, fun value' e => ?_⟩
      cases e
      exact called
    · next error t called =>
      obtain ⟨rfl, rfl⟩ := Prod.mk.inj h
      exact ⟨.inr ⟨rfl, by rw [called]⟩, nofun⟩
  | failed type made =>
    obtain ⟨rfl, rfl⟩ := Prod.mk.inj h
    refine ⟨?_, nofun⟩
    cases made
    · exact .inl rfl
    · exact .inr ⟨rfl, rfl⟩
  | cancelled made =>
    obtain ⟨rfl, rfl⟩ := Prod.mk.inj h
    refine ⟨?_, nofun⟩
    cases made
    · exact .inl rfl
    · exact .inr ⟨rfl, rfl⟩

/-- A call that is made takes effect, whether or not its result arrives. -/
lemma awaited_made {σ α : Type} {delivery : Delivery} (made : delivery.made = true)
    (call : σ → Effect σ α) (s : σ) : (awaited delivery call s).2 = (call s).2 := by
  cases delivery with
  | returned =>
    simp only [awaited]
    split <;> next called => rw [called]
  | failed type _ =>
    cases made
    rfl
  | cancelled _ =>
    cases made
    rfl

/-- What a call can do, it can do at an await, whether or not its result arrives. -/
lemma change_of_awaited {α : Type} {call : agent.store.σ → Effect agent.store.σ α}
    {result : Except RequestError α} {p : Phase} (h : awaited input.delivery call s = (result, s'))
    (made : ∀ result' t, call s = (result', t) → input.delivery.made = true →
      Change agent request input p s t) : Change agent request input p s s' := by
  obtain ⟨rfl | ⟨delivered, rfl⟩, -⟩ := awaited_cases h
  · exact .idle rfl rfl
  · exact made _ _ rfl delivered

lemma change_get {result} {p : Phase}
    (h : awaited input.delivery (agent.store.repo.get request.identity.runId) s = (result, s')) :
    s' = s ∧ Change agent request input p s s' := by
  have same : s' = s := by
    obtain ⟨rfl | ⟨-, rfl⟩, -⟩ := awaited_cases h
    · rfl
    · exact (agent.store.contract.get_spec rfl).1
  exact ⟨same, same ▸ .idle rfl rfl⟩

lemma change_createOrGet {result} {resumeMigrated : Bool}
    (h : awaited input.delivery (agent.store.repo.createOrGet input.now request.identity) s =
      (result, s')) : Change agent request input (.creating resumeMigrated) s s' := by
  refine change_of_awaited h fun result' t called _ => ?_
  obtain ⟨-, -, rfl, -⟩ | ⟨r, -, -, -, rfl⟩ | ⟨r, none, m, pending, empty, -, records, tokens⟩ :=
    agent.store.contract.createOrGet_spec called
  · exact .idle rfl rfl
  · exact .idle rfl rfl
  · exact .create none m pending empty records tokens

lemma change_acquire {result ownerId ttlSeconds}
    (h : awaited input.delivery
      (agent.store.repo.acquire input.now request.identity ownerId ttlSeconds) s = (result, s')) :
    Change agent request input .acquiring s s' := by
  refine change_of_awaited h fun result' t called made => ?_
  obtain ⟨-, -, rfl⟩ | ⟨r, lease, found, -, -, -, token, records, tokens⟩ :=
    agent.store.contract.acquire_spec called
  · exact .idle rfl rfl
  · exact .acquire made found token records tokens

lemma change_renew {result lease ttlSeconds} {p : Phase}
    (h : awaited input.delivery (agent.store.repo.renew input.now lease ttlSeconds) s =
      (result, s')) : Change agent request input p s s' := by
  refine change_of_awaited h fun result' t called _ => ?_
  obtain ⟨-, records, tokens⟩ | ⟨expiresAt, -, tokens, records⟩ :=
    agent.store.contract.renew_spec called
  · exact .idle records tokens
  · refine .renew (fun k => ?_) tokens
    obtain same | ⟨r, before, after⟩ := records k
    · exact .inl same
    · exact .inr ⟨r, expiresAt, before, after⟩

lemma change_release {result lease} {p : Phase}
    (h : awaited input.delivery (agent.store.repo.release input.now lease) s = (result, s')) :
    Change agent request input p s s' := by
  refine change_of_awaited h fun result' t called _ => ?_
  obtain ⟨records, tokens⟩ := agent.store.contract.release_spec called
  exact .idle records tokens

lemma change_persist {result lease execution checkpointId}
    (h : awaited input.delivery (agent.store.repo.markTerminal input.now lease
      (execution.outcome checkpointId)) s = (result, s')) :
    Change agent request input (.persisting lease execution checkpointId) s s' := by
  refine change_of_awaited h fun result' t called _ => ?_
  obtain ⟨-, -, rfl⟩ | ⟨takes, r, payload, found, kept, -, records, tokens⟩ :=
    agent.store.contract.markTerminal_spec called
  · exact .idle rfl rfl
  · exact .persist takes found kept records tokens

lemma change_interrupt {result lease reason error}
    (h : awaited input.delivery (agent.store.repo.markTerminal input.now lease
      (interruption reason)) s = (result, s')) :
    Change agent request input (.interrupting lease reason error) s s' := by
  refine change_of_awaited h fun result' t called delivered => ?_
  obtain ⟨-, -, rfl⟩ | ⟨takes, r, payload, found, kept, -, records, tokens⟩ :=
    agent.store.contract.markTerminal_spec called
  · exact .idle rfl rfl
  · cases kept.none rfl
    exact .interrupt delivered takes found records tokens

lemma change_commit {result lease} {response : ChatResponse}
    (h : awaited input.delivery (agent.store.repo.markHistoryCommitted input.now lease
      (some response.modelDump)) s = (result, s')) :
    Change agent request input (.committing lease response) s s' := by
  refine change_of_awaited h fun result' t called _ => ?_
  obtain ⟨-, -, rfl⟩ | ⟨r, kept, committedAt, found, -, keeps, -, records, tokens⟩ :=
    agent.store.contract.markHistoryCommitted_spec called
  · exact .idle rfl rfl
  · exact .commit rfl (.inr ⟨lease, rfl, rfl⟩) found (keeps nofun) records tokens

lemma change_reconcile {result} {response : ChatResponse}
    (h : awaited input.delivery (agent.store.repo.reconcileHistoryCommitted input.now
      request.identity.runId (some response.modelDump)) s = (result, s')) :
    Change agent request input (.reconciling response) s s' := by
  refine change_of_awaited h fun result' t called _ => ?_
  obtain ⟨-, -, rfl, -⟩ | ⟨r, kept, committedAt, found, -, keeps, -, records, tokens⟩ :=
    agent.store.contract.reconcileHistoryCommitted_spec called
  · exact .idle rfl rfl
  · exact .commit rfl (.inl rfl) found (keeps nofun) records tokens

end Calls

section Spec

variable {agent : ChatRuntimeAgent} {request : Request} {input : Input}
variable {p p' : Phase} {s s' : agent.store.σ}

/-- A handler that gives up, or has not found its record yet, holds nothing. -/
lemma Advance.outside (change : Change agent request input p s s') (unknown : p'.knows = false)
    (empty : p'.response? = none) : Advance agent request input p s p' s' where
  change := change
  knows h := by
    rw [unknown] at h
    cases h
  lease l h := by
    rw [Phase.knows_of_lease? h] at unknown
    cases unknown
  unpersisted l h := by
    rw [Phase.knows_of_lease? (Phase.lease?_of_unpersisted? h)] at unknown
    cases unknown
  stored response h := by
    rw [Phase.response?_of_stored? h] at empty
    cases empty
  response response h := by
    rw [empty] at h
    cases h

lemma unwind_phase (lease : RunLease) (terminalPersisted : Bool) (error : RequestError) :
    (unwind lease terminalPersisted error).lease? = some lease ∧
      (unwind lease terminalPersisted error).unpersisted? = none ∧
      (unwind lease terminalPersisted error).response? = none := by
  simp only [unwind]
  split
  · exact ⟨rfl, rfl, rfl⟩
  · exact ⟨rfl, rfl, rfl⟩
  · split
    · exact ⟨rfl, rfl, rfl⟩
    · exact ⟨rfl, rfl, rfl⟩

/-- A handler that goes on with its lease and is not about to persist any more. -/
lemma Advance.released {lease : RunLease} (change : Change agent request input p s s')
    (held : p.lease? = some lease) (holds : p'.lease? = some lease)
    (persisted : p'.unpersisted? = none) (empty : p'.response? = none) :
    Advance agent request input p s p' s' where
  change := change
  knows _ := .inl (Phase.knows_of_lease? held)
  lease l h := .inl (held.trans (holds.symm.trans h))
  unpersisted l h := by
    rw [persisted] at h
    cases h
  stored response h := by
    rw [Phase.response?_of_stored? h] at empty
    cases empty
  response response h := by
    rw [empty] at h
    cases h

lemma Advance.unwound {lease : RunLease} (change : Change agent request input p s s')
    (held : p.lease? = some lease) (terminalPersisted : Bool) (error : RequestError) :
    Advance agent request input p s (unwind lease terminalPersisted error) s' := by
  obtain ⟨holds, persisted, empty⟩ := unwind_phase lease terminalPersisted error
  exact .released change held holds persisted empty

/-- A handler that goes on with its lease, still to persist an outcome. -/
lemma Advance.working {lease : RunLease} (change : Change agent request input p s s')
    (held : p.unpersisted? = some lease) (persists : p.persists = false)
    (holds : p'.unpersisted? = some lease) (stored : p'.stored? = none)
    (response : ∀ response, p'.response? = some response →
      Tagged response.metadata ∨ p.response? = some response) :
    Advance agent request input p s p' s' where
  change := change
  knows _ := .inl (Phase.knows_of_lease? (Phase.lease?_of_unpersisted? held))
  lease l h := by
    cases (Phase.lease?_of_unpersisted? holds).symm.trans h
    exact .inl (Phase.lease?_of_unpersisted? held)
  unpersisted l h := by
    cases holds.symm.trans h
    exact .inl ⟨held, persists⟩
  stored response h := by
    rw [stored] at h
    cases h
  response r h := (response r h).imp_right .inl

lemma preflight_replays {identity : RunIdentity} {r : RunRecord} {created resumeMigrated : Bool}
    {processNow : Time} {drawn : Uuid} {response : ChatResponse} {committed : Bool}
    (h : preflightExistingRun identity r created resumeMigrated processNow drawn =
      .replay response committed) : Replays r response := by
  simp only [preflightExistingRun] at h
  split at h
  · cases h
  · split at h
    · next payload found =>
      split at h
      · cases h
      · next response' validated =>
        cases h
        exact ⟨payload, drawn, found, validated⟩
    · split_ifs at h

lemma Advance.lookup {r : RunRecord} (change : Change agent request input p s s')
    (found : recordOf agent s' (keyOf agent request) = some r) (m : r.Matches request.identity)
    (created resumeMigrated : Bool) :
    Advance agent request input p s (afterLookup request r created resumeMigrated input) s' := by
  simp only [afterLookup]
  split
  · exact .outside change rfl rfl
  · exact .outside change rfl rfl
  · next response replay =>
    have replays := preflight_replays replay
    refine ⟨change, fun _ => .inr ⟨r, found, m⟩, nofun, nofun, ?_, ?_⟩
    · rintro _ ⟨⟩
      exact .inr (.inl ⟨r, found, replays⟩)
    · rintro _ ⟨⟩
      exact .inr (.inr ⟨r, found, replays⟩)
  · split
    · exact ⟨change, fun _ => .inr ⟨r, found, m⟩, nofun, nofun, nofun, nofun⟩
    · exact ⟨change, fun _ => .inr ⟨r, found, m⟩, nofun, nofun, nofun, nofun⟩

lemma Advance.inspected (change : Change agent request input p s s') (known : p.knows = true)
    (created checkpointExists : Bool) :
    Advance agent request input p s (afterInspection request created checkpointExists) s' := by
  simp only [afterInspection]
  split
  · exact .outside change rfl rfl
  · split
    · exact .outside change rfl rfl
    · exact ⟨change, fun _ => .inl known, nofun, nofun, nofun, nofun⟩

lemma creating_advance {resumeMigrated : Bool}
    (h : resume agent request input s (.creating resumeMigrated) = (p', s')) :
    Advance agent request input (.creating resumeMigrated) s p' s' := by
  unfold resume at h
  dsimp only at h
  split at h
  · next called =>
    obtain ⟨rfl, rfl⟩ := Prod.mk.inj h
    exact .outside (change_createOrGet called) rfl rfl
  · next r created t called =>
    obtain ⟨rfl, rfl⟩ := Prod.mk.inj h
    have returned := (awaited_cases called).2 _ rfl
    obtain ⟨_, e, -⟩ | ⟨r', found, m, e, rfl⟩ | ⟨r', -, m, -, -, e, records, -⟩ :=
      agent.store.contract.createOrGet_spec returned
    · cases e
    · cases e
      exact .lookup (change_createOrGet called) found m false resumeMigrated
    · cases e
      refine .lookup (change_createOrGet called) ?_ m true resumeMigrated
      exact (congrFun records _).trans (Function.update_self _ _ _)

lemma acquiring_advance (h : resume agent request input s .acquiring = (p', s')) :
    Advance agent request input .acquiring s p' s' := by
  unfold resume at h
  dsimp only at h
  split at h
  · next called =>
    obtain ⟨rfl, rfl⟩ := Prod.mk.inj h
    exact .outside (change_acquire called) rfl rfl
  · next lease t called =>
    obtain ⟨rfl, rfl⟩ := Prod.mk.inj h
    have returned := (awaited_cases called).2 _ rfl
    obtain ⟨_, e, -⟩ | ⟨r, lease', -, e, key, conversation, token, records, tokens⟩ :=
      agent.store.contract.acquire_spec returned
    · cases e
    · cases e
      have granted : Granted agent request s t lease :=
        ⟨key, conversation, token, (congrFun tokens _).trans (Function.update_self _ _ _),
          _, (congrFun records _).trans (Function.update_self _ _ _), rfl⟩
      refine ⟨change_acquire called, fun _ => .inl rfl, ?_, ?_, nofun, nofun⟩
      · rintro _ ⟨⟩
        exact .inr granted
      · rintro _ ⟨⟩
        exact .inr granted

lemma persisting_advance {lease : RunLease} {execution : RunExecution}
    {checkpointId : Option String}
    (h : resume agent request input s (.persisting lease execution checkpointId) = (p', s')) :
    Advance agent request input (.persisting lease execution checkpointId) s p' s' := by
  unfold resume at h
  dsimp only at h
  split at h
  · next called =>
    obtain ⟨rfl, rfl⟩ := Prod.mk.inj h
    exact .unwound (change_persist called) rfl false _
  · next t called =>
    obtain ⟨rfl, rfl⟩ := Prod.mk.inj h
    have returned := (awaited_cases called).2 _ rfl
    obtain ⟨-, ⟨error, e⟩, -⟩ | ⟨-, r, payload, -, kept, -, records, -⟩ :=
      agent.store.contract.markTerminal_spec returned
    · cases e
    · refine ⟨change_persist called, fun _ => .inl rfl, fun l hl => .inl hl, nofun, ?_, ?_⟩
      · rintro _ ⟨⟩
        exact .inr (.inr ⟨lease, execution, checkpointId, _, payload, rfl, rfl,
          (congrFun records _).trans (Function.update_self _ _ _), rfl, rfl, kept⟩)
      · rintro _ ⟨⟩
        exact .inr (.inl rfl)

lemma appending_advance {lease : RunLease} {execution : RunExecution}
    (h : resume agent request input s (.appending lease execution) = (p', s')) :
    Advance agent request input (.appending lease execution) s p' s' := by
  unfold resume at h
  dsimp only at h
  split at h
  · obtain ⟨rfl, rfl⟩ := Prod.mk.inj h
    exact .unwound (.idle rfl rfl) rfl true _
  · split at h
    · obtain ⟨rfl, rfl⟩ := Prod.mk.inj h
      exact .unwound (.idle rfl rfl) rfl true _
    · next response flagged =>
      obtain ⟨tagged, same⟩ := tagged_withHistoryPersisted flagged
      split at h
      · obtain ⟨rfl, rfl⟩ := Prod.mk.inj h
        refine ⟨.idle rfl rfl, fun _ => .inl rfl, fun l hl => .inl hl, nofun, ?_, ?_⟩
        · rintro _ ⟨⟩
          exact .inl ⟨_, rfl, same⟩
        · rintro _ ⟨⟩
          exact .inl tagged
      · obtain ⟨rfl, rfl⟩ := Prod.mk.inj h
        exact .released (.idle rfl rfl) rfl rfl rfl rfl

lemma replaying_advance {response : ChatResponse}
    (h : resume agent request input s (.replaying response) = (p', s')) :
    Advance agent request input (.replaying response) s p' s' := by
  unfold resume at h
  dsimp only at h
  split at h
  · obtain ⟨rfl, rfl⟩ := Prod.mk.inj h
    exact .outside (.idle rfl rfl) rfl rfl
  · split at h
    · obtain ⟨rfl, rfl⟩ := Prod.mk.inj h
      exact .outside (.idle rfl rfl) rfl rfl
    · next response' flagged =>
      obtain ⟨tagged, same⟩ := tagged_withHistoryPersisted flagged
      split at h
      · obtain ⟨rfl, rfl⟩ := Prod.mk.inj h
        refine ⟨.idle rfl rfl, fun _ => .inl rfl, nofun, nofun, ?_, ?_⟩
        · rintro _ ⟨⟩
          exact .inl ⟨_, rfl, same⟩
        · rintro _ ⟨⟩
          exact .inl tagged
      · obtain ⟨rfl, rfl⟩ := Prod.mk.inj h
        exact .outside (.idle rfl rfl) rfl rfl

lemma inspecting_advance {created : Bool}
    (h : resume agent request input s (.inspecting created) = (p', s')) :
    Advance agent request input (.inspecting created) s p' s' := by
  unfold resume at h
  dsimp only at h
  split at h
  · obtain ⟨rfl, rfl⟩ := Prod.mk.inj h
    exact .inspected (.idle rfl rfl) rfl _ _
  · obtain ⟨rfl, rfl⟩ := Prod.mk.inj h
    exact .outside (.idle rfl rfl) rfl rfl
  · split at h
    · obtain ⟨rfl, rfl⟩ := Prod.mk.inj h
      exact .outside (.idle rfl rfl) rfl rfl
    · obtain ⟨rfl, rfl⟩ := Prod.mk.inj h
      exact .inspected (.idle rfl rfl) rfl _ _

lemma reading_advance (h : resume agent request input s .reading = (p', s')) :
    Advance agent request input .reading s p' s' := by
  unfold resume at h
  dsimp only at h
  split at h
  · next called =>
    obtain ⟨rfl, rfl⟩ := Prod.mk.inj h
    exact .outside (change_get called).2 rfl rfl
  · next called =>
    obtain ⟨rfl, rfl⟩ := Prod.mk.inj h
    exact .outside (change_get called).2 rfl rfl
  · next r t called =>
    have change := (change_get (p := .reading) called).2
    split at h
    · next valid =>
      obtain ⟨rfl, rfl⟩ := Prod.mk.inj h
      obtain ⟨same, ⟨error, e⟩ | e⟩ :=
        agent.store.contract.get_spec ((awaited_cases called).2 _ rfl)
      · cases e
      · subst same
        exact .lookup change (Except.ok.inj e).symm (validateRecordIdentity_ok.mp valid) _ _
    · obtain ⟨rfl, rfl⟩ := Prod.mk.inj h
      exact .outside change rfl rfl

/-- Everything that a handler can do when its await ends. -/
lemma resume_advance (h : resume agent request input s p = (p', s')) :
    Advance agent request input p s p' s' := by
  have idle {q : Phase} : Change agent request input q s s := .idle rfl rfl
  cases p with
  | start =>
    obtain ⟨rfl, rfl⟩ := Prod.mk.inj h
    exact .outside idle rfl rfl
  | reading => exact reading_advance h
  | migrating =>
    unfold resume at h
    dsimp only at h
    split at h
    · obtain ⟨rfl, rfl⟩ := Prod.mk.inj h
      exact .outside idle rfl rfl
    · split at h
      · obtain ⟨rfl, rfl⟩ := Prod.mk.inj h
        exact .outside idle rfl rfl
      · obtain ⟨rfl, rfl⟩ := Prod.mk.inj h
        exact .outside idle rfl rfl
  | creating resumeMigrated => exact creating_advance h
  | replaying response => exact replaying_advance h
  | reconciling response =>
    unfold resume at h
    dsimp only at h
    split at h
    · next called =>
      obtain ⟨rfl, rfl⟩ := Prod.mk.inj h
      exact .outside (change_reconcile called) rfl rfl
    · next called =>
      obtain ⟨rfl, rfl⟩ := Prod.mk.inj h
      exact .outside (change_reconcile called) rfl rfl
  | inspecting created => exact inspecting_advance h
  | acquiring => exact acquiring_advance h
  | preparing lease current =>
    unfold resume at h
    dsimp only at h
    split at h
    · obtain ⟨rfl, rfl⟩ := Prod.mk.inj h
      exact .unwound idle rfl false _
    · obtain ⟨rfl, rfl⟩ := Prod.mk.inj h
      exact .working idle rfl rfl rfl rfl nofun
  | executing lease current =>
    unfold resume at h
    dsimp only at h
    split at h
    · obtain ⟨rfl, rfl⟩ := Prod.mk.inj h
      exact .unwound idle rfl false _
    · obtain ⟨rfl, rfl⟩ := Prod.mk.inj h
      refine .working idle rfl rfl rfl rfl ?_
      rintro _ ⟨⟩
      exact .inl (tagged_executeRun _ _ _ _ _)
  | locating lease execution =>
    unfold resume at h
    dsimp only at h
    split at h
    · obtain ⟨rfl, rfl⟩ := Prod.mk.inj h
      exact .unwound idle rfl false _
    · obtain ⟨rfl, rfl⟩ := Prod.mk.inj h
      exact .working idle rfl rfl rfl rfl fun _ held => .inr held
    · obtain ⟨rfl, rfl⟩ := Prod.mk.inj h
      exact .working idle rfl rfl rfl rfl fun _ held => .inr held
  | persisting lease execution checkpointId => exact persisting_advance h
  | appending lease execution => exact appending_advance h
  | committing lease response =>
    unfold resume at h
    dsimp only at h
    split at h
    · next called =>
      obtain ⟨rfl, rfl⟩ := Prod.mk.inj h
      exact .unwound (change_commit called) rfl true _
    · next called =>
      obtain ⟨rfl, rfl⟩ := Prod.mk.inj h
      exact .released (change_commit called) rfl rfl rfl rfl
  | interrupting lease reason error =>
    unfold resume at h
    dsimp only at h
    split at h
    · next called =>
      obtain ⟨rfl, rfl⟩ := Prod.mk.inj h
      exact .released (change_interrupt called) rfl rfl rfl rfl
    · next called =>
      obtain ⟨rfl, rfl⟩ := Prod.mk.inj h
      exact .released (change_interrupt called) rfl rfl rfl rfl
  | releasing lease result =>
    unfold resume at h
    dsimp only at h
    split at h
    · next called =>
      obtain ⟨rfl, rfl⟩ := Prod.mk.inj h
      exact .outside (change_release called) rfl rfl
    · next called =>
      obtain ⟨rfl, rfl⟩ := Prod.mk.inj h
      exact .outside (change_release called) rfl rfl
  | leaving result =>
    obtain ⟨rfl, rfl⟩ := Prod.mk.inj h
    exact .outside idle rfl rfl
  | done result =>
    obtain ⟨rfl, rfl⟩ := Prod.mk.inj h
    exact .outside idle rfl rfl

/-- Everything that the heartbeat of a handler can do; elsewhere than in an execution there is none. -/
lemma heartbeat_advance (h : heartbeat agent input s p = (p', s')) :
    (p' = p ∧ s' = s) ∨ Advance agent request input p s p' s' := by
  cases p with
  | preparing lease current =>
    unfold heartbeat at h
    dsimp only at h
    split at h
    · next called =>
      obtain ⟨rfl, rfl⟩ := Prod.mk.inj h
      exact .inr (.unwound (change_renew called) rfl false _)
    · next called =>
      obtain ⟨rfl, rfl⟩ := Prod.mk.inj h
      exact .inr (.working (change_renew called) rfl rfl rfl rfl nofun)
  | executing lease current =>
    unfold heartbeat at h
    dsimp only at h
    split at h
    · next called =>
      obtain ⟨rfl, rfl⟩ := Prod.mk.inj h
      exact .inr (.unwound (change_renew called) rfl false _)
    · next called =>
      obtain ⟨rfl, rfl⟩ := Prod.mk.inj h
      exact .inr (.working (change_renew called) rfl rfl rfl rfl nofun)
  | _ =>
    obtain ⟨rfl, rfl⟩ := Prod.mk.inj h
    exact .inl ⟨rfl, rfl⟩

section SingleCall

lemma call_of_awaited {α : Type} {delivery : Delivery} {a : Action} {p : Phase}
    {call : agent.store.σ → Effect agent.store.σ α} {result : Except RequestError α}
    (h : awaited delivery call s = (result, s')) (c : Call) (f : α → Reply)
    (same : agent.store.repo.exec input.now c s = (call s).reply f)
    (own : callOf agent request input a p = some c) :
    s' = s ∨ ∃ c, callOf agent request input a p = some c ∧
      s' = (agent.store.repo.exec input.now c s).2 := by
  obtain ⟨rfl | ⟨-, rfl⟩, -⟩ := awaited_cases h
  · exact .inl rfl
  · exact .inr ⟨c, own, by rw [same, Effect.reply_snd]⟩

/-- A handler makes one call of the repository at most when it goes on. -/
lemma resume_call (h : resume agent request input s p = (p', s')) :
    s' = s ∨ ∃ call, callOf agent request input .resume p = some call ∧
      s' = (agent.store.repo.exec input.now call s).2 := by
  cases p with
  | reading =>
    unfold resume at h
    dsimp only at h
    split at h
    · next called => exact (Prod.mk.inj h).2 ▸ call_of_awaited called (.get _) _ rfl rfl
    · next called => exact (Prod.mk.inj h).2 ▸ call_of_awaited called (.get _) _ rfl rfl
    · next t called =>
      have made : t = s ∨ ∃ call, callOf agent request input .resume .reading = some call ∧
          t = (agent.store.repo.exec input.now call s).2 :=
        call_of_awaited called (.get _) _ rfl rfl
      split at h
      · exact (Prod.mk.inj h).2 ▸ made
      · exact (Prod.mk.inj h).2 ▸ made
  | creating resumeMigrated =>
    unfold resume at h
    dsimp only at h
    split at h
    · next called => exact (Prod.mk.inj h).2 ▸ call_of_awaited called (.createOrGet _) _ rfl rfl
    · next called => exact (Prod.mk.inj h).2 ▸ call_of_awaited called (.createOrGet _) _ rfl rfl
  | reconciling response =>
    unfold resume at h
    dsimp only at h
    split at h
    · next called =>
      exact (Prod.mk.inj h).2 ▸ call_of_awaited called (.reconcileHistoryCommitted _ _) _ rfl rfl
    · next called =>
      exact (Prod.mk.inj h).2 ▸ call_of_awaited called (.reconcileHistoryCommitted _ _) _ rfl rfl
  | acquiring =>
    unfold resume at h
    dsimp only at h
    split at h
    · next called => exact (Prod.mk.inj h).2 ▸ call_of_awaited called (.acquire _ _ _) _ rfl rfl
    · next called => exact (Prod.mk.inj h).2 ▸ call_of_awaited called (.acquire _ _ _) _ rfl rfl
  | persisting lease execution checkpointId =>
    unfold resume at h
    dsimp only at h
    split at h
    · next called => exact (Prod.mk.inj h).2 ▸ call_of_awaited called (.markTerminal _ _) _ rfl rfl
    · next called => exact (Prod.mk.inj h).2 ▸ call_of_awaited called (.markTerminal _ _) _ rfl rfl
  | committing lease response =>
    unfold resume at h
    dsimp only at h
    split at h
    · next called =>
      exact (Prod.mk.inj h).2 ▸ call_of_awaited called (.markHistoryCommitted _ _) _ rfl rfl
    · next called =>
      exact (Prod.mk.inj h).2 ▸ call_of_awaited called (.markHistoryCommitted _ _) _ rfl rfl
  | interrupting lease reason error =>
    unfold resume at h
    dsimp only at h
    split at h
    · next called => exact (Prod.mk.inj h).2 ▸ call_of_awaited called (.markTerminal _ _) _ rfl rfl
    · next called => exact (Prod.mk.inj h).2 ▸ call_of_awaited called (.markTerminal _ _) _ rfl rfl
  | releasing lease result =>
    unfold resume at h
    dsimp only at h
    split at h
    · next called => exact (Prod.mk.inj h).2 ▸ call_of_awaited called (.release _) _ rfl rfl
    · next called => exact (Prod.mk.inj h).2 ▸ call_of_awaited called (.release _) _ rfl rfl
  | _ =>
    -- the other awaits are not on the repository
    left
    unfold resume at h
    dsimp only at h
    repeat' split at h
    all_goals exact (Prod.mk.inj h).2.symm

end SingleCall

/-- Everything that a turn of a handler can do to it and to the repository. -/
theorem advance_spec {action : Action} {gate gate' : ConversationGate}
    (h : advance agent request action input gate s p = (p', gate', s')) :
    (p' = p ∧ s' = s) ∨ Advance agent request input p s p' s' := by
  have idle {q : Phase} : Change agent request input q s s := .idle rfl rfl
  cases action with
  | heartbeat =>
    obtain ⟨rfl, -, rfl⟩ : _ ∧ _ ∧ _ := by simpa only [advance, Prod.mk.injEq] using h
    exact heartbeat_advance rfl
  | resume =>
    unfold advance at h
    dsimp only at h
    split at h
    · cases ‹Action.resume = Action.heartbeat›
    · split at h
      · obtain ⟨rfl, -, rfl⟩ : _ ∧ _ ∧ _ := by simpa only [Prod.mk.injEq] using h
        exact .inr (.outside idle rfl rfl)
      · obtain ⟨rfl, -, rfl⟩ : _ ∧ _ ∧ _ := by simpa only [Prod.mk.injEq] using h
        refine .inr ?_
        split
        · exact .outside idle rfl rfl
        · exact .outside idle rfl rfl
    · obtain ⟨rfl, -, rfl⟩ : _ ∧ _ ∧ _ := by simpa only [Prod.mk.injEq] using h
      exact .inr (.outside idle rfl rfl)
    · obtain ⟨rfl, -, rfl⟩ : _ ∧ _ ∧ _ := by simpa only [Prod.mk.injEq] using h
      exact .inr (resume_advance rfl)

/-- A turn makes one call of the repository at most. -/
lemma advance_call {action : Action} {gate gate' : ConversationGate}
    (h : advance agent request action input gate s p = (p', gate', s')) :
    s' = s ∨ ∃ call, callOf agent request input action p = some call ∧
      s' = (agent.store.repo.exec input.now call s).2 := by
  cases action with
  | heartbeat =>
    obtain ⟨-, -, rfl⟩ : _ ∧ _ ∧ _ := by simpa only [advance, Prod.mk.injEq] using h
    cases p with
    | preparing lease current =>
      simp only [heartbeat]
      split
      · next called => exact call_of_awaited called (.renew _ _) _ rfl rfl
      · next called => exact call_of_awaited called (.renew _ _) _ rfl rfl
    | executing lease current =>
      simp only [heartbeat]
      split
      · next called => exact call_of_awaited called (.renew _ _) _ rfl rfl
      · next called => exact call_of_awaited called (.renew _ _) _ rfl rfl
    | _ => exact .inl rfl
  | resume =>
    unfold advance at h
    dsimp only at h
    split at h
    · cases ‹Action.resume = Action.heartbeat›
    · split at h
      · exact .inl (Prod.mk.inj (Prod.mk.inj h).2).2.symm
      · exact .inl (Prod.mk.inj (Prod.mk.inj h).2).2.symm
    · exact .inl (Prod.mk.inj (Prod.mk.inj h).2).2.symm
    · exact (Prod.mk.inj (Prod.mk.inj h).2).2 ▸ resume_call rfl

end Spec

section Steps

variable {agent : ChatRuntimeAgent} {requests : Nat → Request} {s s' : System agent} {turn : Turn}

/-- Everything that a turn can do to the system. -/
lemma System.step_cases (st : System.Step requests s turn s') :
    ∃ p', s'.phases = Function.update s.phases turn.handler p' ∧
      ((p' = s.phases turn.handler ∧ s'.store = s.store) ∨
        Advance agent (requests turn.handler) turn.input (s.phases turn.handler) s.store p'
          s'.store) := by
  obtain ⟨-, -, rfl⟩ := st
  exact ⟨_, rfl, advance_spec rfl⟩

/-- Every turn is one call of a history of the repository, or none. -/
lemma System.step_call (st : System.Step requests s turn s') :
    s'.store = s.store ∨ ∃ call,
      callOf agent (requests turn.handler) turn.input turn.action (s.phases turn.handler) =
        some call ∧ s'.store = (agent.store.repo.exec turn.input.now call s.store).2 := by
  obtain ⟨-, -, rfl⟩ := st
  exact advance_call rfl

/-- Without a heartbeat the task that goes on is the handler. -/
lemma System.step_action (st : System.Step requests s turn s')
    (quiet : (s.phases turn.handler).beats = false) : turn.action = .resume := by
  cases action : turn.action with
  | resume => rfl
  | heartbeat => cases quiet.symm.trans (st.2.1 action)

/-- A handler inside the gate goes on from its await. -/
lemma System.step_resume (st : System.Step requests s turn s') (action : turn.action = .resume)
    (entered : s.phases turn.handler ≠ .start)
    (staying : ∀ result, s.phases turn.handler ≠ .leaving result) :
    resume agent (requests turn.handler) turn.input s.store (s.phases turn.handler) =
      (s'.phases turn.handler, s'.store) := by
  obtain ⟨-, -, rfl⟩ := st
  simp only [System.take, Function.update_self, action]
  cases phase : s.phases turn.handler with
  | start => exact absurd phase entered
  | leaving result => exact absurd phase (staying result)
  | _ => rfl

end Steps

end AgentRuntime.Orchestration
