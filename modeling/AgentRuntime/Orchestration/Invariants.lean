import AgentRuntime.Orchestration.Effects

/-!
# What holds of every system of handlers

The invariants of any interleaving of handlers, from the empty repository on: a handler that goes past
the lookup has a record of its identity, the leases that are held have different tokens in a
conversation, all of them handed out, and every stored payload is a response that validates.
-/

namespace AgentRuntime.Orchestration
open State Transition

section Records

variable (agent : ChatRuntimeAgent) (request : Request) (input : Input)

/-- How a turn of a handler can rewrite the record of a run. -/
inductive Rewrite (p : Phase) (s : agent.store.σ) (k : String) : RunRecord → RunRecord → Prop where
  | same {r} :
    Rewrite p s k r r
  | acquire {r lease} :
    p = .acquiring →
    k = keyOf agent request →
    input.delivery.made = true →
    Rewrite p s k r (r.acquired lease input.now)
  | renew {r expiresAt} :
    Rewrite p s k r (r.renewed expiresAt input.now)
  | persist {lease : RunLease} {execution : RunExecution} {checkpointId r payload} :
    p = .persisting lease execution checkpointId →
    k = agent.store.contract.key lease.runId →
    agent.store.contract.takes s input.now lease (execution.outcome checkpointId) →
    Keeps (some execution.response.modelDump) payload →
    Rewrite p s k r (r.withOutcome (execution.outcome checkpointId) payload input.now)
  | interrupt {lease : RunLease} {reason error r} :
    p = .interrupting lease reason error →
    k = agent.store.contract.key lease.runId →
    input.delivery.made = true →
    agent.store.contract.takes s input.now lease (interruption reason) →
    Rewrite p s k r (r.withOutcome (interruption reason) none input.now)
  | commit {response : ChatResponse} {r kept committedAt} :
    p.stored? = some response →
    (k = keyOf agent request ∨ ∃ lease, p.lease? = some lease ∧
      k = agent.store.contract.key lease.runId) →
    Keeps (some response.modelDump) kept →
    Rewrite p s k r (r.historyCommitted kept committedAt input.now)

end Records

section Records

variable {agent : ChatRuntimeAgent} {request : Request} {input : Input} {p : Phase}
variable {s s' : agent.store.σ}

lemma Rewrite.matches {k : String} {r r' : RunRecord} {identity : RunIdentity}
    (rewrite : Rewrite agent request input p s k r r') (m : r.Matches identity) :
    r'.Matches identity := by
  cases rewrite <;> exact ⟨m.conversation, m.thread, m.hash, m.hashVersion, m.schema⟩

/-- What becomes of the record of any run: it is rewritten, created, or there is none still. -/
lemma Change.record (change : Change agent request input p s s') (k : String) :
    (∃ r r', recordOf agent s k = some r ∧ recordOf agent s' k = some r' ∧
      Rewrite agent request input p s k r r') ∨
    (recordOf agent s k = none ∧ (recordOf agent s' k = none ∨
      ∃ r, recordOf agent s' k = some r ∧ r.status = .pending ∧ r.responsePayload = none)) := by
  -- every change but a renewal writes one record
  have written {key : String} {r r' : RunRecord} (found : recordOf agent s key = some r)
      (records : recordOf agent s' = Function.update (recordOf agent s) key (some r'))
      (rewrite : k = key → Rewrite agent request input p s k r r') :
      (∃ r r', recordOf agent s k = some r ∧ recordOf agent s' k = some r' ∧
        Rewrite agent request input p s k r r') ∨
      (recordOf agent s k = none ∧ (recordOf agent s' k = none ∨
        ∃ r, recordOf agent s' k = some r ∧ r.status = .pending ∧ r.responsePayload = none)) := by
    rw [records, Function.update_apply]
    split
    · next e => exact .inl ⟨r, r', e ▸ found, rfl, rewrite e⟩
    · cases other : recordOf agent s k with
      | none => exact .inr ⟨rfl, .inl rfl⟩
      | some r => exact .inl ⟨r, r, rfl, rfl, .same⟩
  cases change with
  | idle records _ =>
    rw [records]
    cases other : recordOf agent s k with
    | none => exact .inr ⟨rfl, .inl rfl⟩
    | some r => exact .inl ⟨r, r, rfl, rfl, .same⟩
  | @create _ _ _ r none _ pending empty records _ =>
    rw [records, Function.update_apply]
    split
    · next e => exact .inr ⟨e ▸ none, .inr ⟨r, rfl, pending, empty⟩⟩
    · cases other : recordOf agent s k with
      | none => exact .inr ⟨rfl, .inl rfl⟩
      | some r => exact .inl ⟨r, r, rfl, rfl, .same⟩
  | acquire made found _ records _ => exact written found records fun e => .acquire rfl e made
  | renew records _ =>
    obtain same | ⟨r, expiresAt, before, after⟩ := records k
    · rw [same]
      cases other : recordOf agent s k with
      | none => exact .inr ⟨rfl, .inl rfl⟩
      | some r => exact .inl ⟨r, r, rfl, rfl, .same⟩
    · exact .inl ⟨r, _, before, after, .renew⟩
  | persist takes found kept records _ =>
    exact written found records fun e => .persist rfl e takes kept
  | interrupt made takes found records _ =>
    exact written found records fun e => .interrupt rfl e made takes
  | commit stored key found kept records _ =>
    exact written found records fun e => .commit stored (e ▸ key) kept

/-- Tokens are handed out in increasing order. -/
lemma Change.token_le (change : Change agent request input p s s') (conversationId : String) :
    tokenOf agent s conversationId ≤ tokenOf agent s' conversationId := by
  have same (tokens : tokenOf agent s' = tokenOf agent s) :
      tokenOf agent s conversationId ≤ tokenOf agent s' conversationId :=
    Nat.le_of_eq (congrFun tokens _).symm
  cases change with
  | idle _ tokens => exact same tokens
  | create _ _ _ _ _ tokens => exact same tokens
  | acquire _ _ token _ tokens =>
    rw [tokens, Function.update_apply]
    split
    · next e =>
      rw [token, e]
      exact Nat.le_succ _
    · exact Nat.le_refl _
  | renew _ tokens => exact same tokens
  | persist _ _ _ _ tokens => exact same tokens
  | interrupt _ _ _ _ tokens => exact same tokens
  | commit _ _ _ _ _ tokens => exact same tokens

end Records

/-- The payload is a stored response that can be replayed. -/
def Replayable (payload : JsonObject) : Prop :=
  ∃ response : ChatResponse, Json.Same (.obj response.modelDump) (.obj payload) ∧
    Tagged response.metadata

lemma Tagged.same {metadata stored : JsonObject} (tagged : Tagged metadata)
    (same : Json.Same (.obj metadata) (.obj stored)) : Tagged stored := by
  obtain ⟨fields, h⟩ := tagged
  obtain ⟨value, found, same⟩ := same.field h
  cases same
  exact ⟨_, found⟩

/-- A kept response is replayable. -/
lemma replayable_of_keeps {response : ChatResponse} {payload : Option JsonObject}
    (keeps : Keeps (some response.modelDump) payload) (tagged : Tagged response.metadata) :
    ∃ object, payload = some object ∧ Json.Same (.obj response.modelDump) (.obj object) ∧
      Replayable object := by
  obtain ⟨object, rfl, same⟩ := keeps.object _ rfl nofun
  exact ⟨object, rfl, same, response, same, tagged⟩

/-- The response that is replayed is the stored one, up to its metadata. -/
lemma Replayable.validated {payload : JsonObject} (replayable : Replayable payload) {drawn : Uuid}
    {response : ChatResponse} (validated : ChatResponse.modelValidate drawn payload = some response) :
    Tagged response.metadata ∧ ∃ stored : ChatResponse,
      Json.Same (.obj stored.modelDump) (.obj payload) ∧ ChatResponse.SameReply response stored := by
  obtain ⟨stored, same, tagged⟩ := replayable
  obtain ⟨response', validated', reply, metadata⟩ :=
    ChatResponse.modelValidate_same drawn same
  cases validated.symm.trans validated'
  exact ⟨tagged.same metadata, stored, same, reply⟩

/-- The statuses that handlers give a record. -/
def handled : List RunStatus := [.pending, .running, .interrupted, .completed, .failed]

/-- What holds of every system of handlers. -/
structure Inv {agent : ChatRuntimeAgent} (requests : Nat → Request) (s : System agent) : Prop where
  store : agent.store.contract.inv s.store
  known : ∀ i, (s.phases i).knows = true →
    ∃ r, recordOf agent s.store (keyOf agent (requests i)) = some r ∧
      r.Matches (requests i).identity
  held : ∀ i lease, (s.phases i).lease? = some lease →
    agent.store.contract.key lease.runId = keyOf agent (requests i) ∧
      lease.conversationId = (requests i).identity.conversationId ∧
      lease.fencingToken ≤ tokenOf agent s.store (requests i).identity.conversationId
  distinct : ∀ i j lease lease', i ≠ j → (s.phases i).lease? = some lease →
    (s.phases j).lease? = some lease' →
    (requests i).identity.conversationId = (requests j).identity.conversationId →
    lease.fencingToken ≠ lease'.fencingToken
  statuses : ∀ k r, recordOf agent s.store k = some r → r.status ∈ handled
  responses : ∀ i response, (s.phases i).response? = some response → Tagged response.metadata
  payloads : ∀ k r payload, recordOf agent s.store k = some r → r.responsePayload = some payload →
    Replayable payload

section Preserved

variable {agent : ChatRuntimeAgent} {requests : Nat → Request} {s s' : System agent} {turn : Turn}

lemma Change.known {request : Request} {input : Input} {p : Phase} {t t' : agent.store.σ}
    (change : Change agent request input p t t') {k : String} {identity : RunIdentity}
    (known : ∃ r, recordOf agent t k = some r ∧ r.Matches identity) :
    ∃ r, recordOf agent t' k = some r ∧ r.Matches identity := by
  obtain ⟨r, found, m⟩ := known
  obtain ⟨r', r'', before, after, rewrite⟩ | ⟨none, -⟩ := change.record k
  · cases found.symm.trans before
    exact ⟨r'', after, rewrite.matches m⟩
  · cases found.symm.trans none

lemma Change.statuses {request : Request} {input : Input} {p : Phase} {t t' : agent.store.σ}
    (change : Change agent request input p t t')
    (statuses : ∀ k r, recordOf agent t k = some r → r.status ∈ handled) :
    ∀ k r, recordOf agent t' k = some r → r.status ∈ handled := by
  intro k r found
  obtain ⟨r', r'', before, after, rewrite⟩ | ⟨-, none | ⟨r', after, pending, -⟩⟩ :=
    change.record k
  · cases found.symm.trans after
    cases rewrite with
    | same => exact statuses k _ before
    | acquire => simp [RunRecord.acquired, handled]
    | renew => exact statuses k r' before
    | @persist _ execution =>
      simp only [RunRecord.withOutcome, RunExecution.outcome]
      cases execution.status <;>
        simp [ExecutionStatus.toOutcomeStatus, OutcomeStatus.toRunStatus, handled]
    | interrupt => simp [RunRecord.withOutcome, interruption, OutcomeStatus.toRunStatus, handled]
    | commit => exact statuses k r' before
  · cases found.symm.trans none
  · cases found.symm.trans after
    simp [pending, handled]

lemma Change.payloads {request : Request} {input : Input} {p : Phase} {t t' : agent.store.σ}
    (change : Change agent request input p t t')
    (tagged : ∀ response, p.response? = some response → Tagged response.metadata)
    (payloads : ∀ k r payload, recordOf agent t k = some r → r.responsePayload = some payload →
      Replayable payload) :
    ∀ k r payload, recordOf agent t' k = some r → r.responsePayload = some payload →
      Replayable payload := by
  intro k r payload found stored
  obtain ⟨r', r'', before, after, rewrite⟩ | ⟨-, none | ⟨r', after, -, empty⟩⟩ := change.record k
  · cases found.symm.trans after
    cases rewrite with
    | same => exact payloads k _ payload before stored
    | acquire => exact payloads k r' payload before stored
    | renew => exact payloads k r' payload before stored
    | @persist _ execution _ _ _ phase _ _ keeps =>
      obtain ⟨object, rfl, -, replayable⟩ :=
        replayable_of_keeps keeps (tagged execution.response (by rw [phase]; rfl))
      cases stored
      exact replayable
    | interrupt => cases stored
    | @commit response _ _ _ held _ keeps =>
      obtain ⟨object, rfl, -, replayable⟩ :=
        replayable_of_keeps keeps (tagged response (Phase.response?_of_stored? held))
      cases stored
      exact replayable
  · cases found.symm.trans none
  · cases found.symm.trans after
    cases empty.symm.trans stored

lemma Inv.start (now : Time) : Inv requests (System.start agent now) where
  store := agent.store.empty_inv
  known _ := nofun
  held _ _ := nofun
  distinct _ _ _ _ _ := nofun
  statuses k r found := by
    cases (agent.store.empty_record k).symm.trans found
  responses _ _ := nofun
  payloads k r payload found := by
    cases (agent.store.empty_record k).symm.trans found

/-- The phase of a handler after a turn: of the one that went on, or of another. -/
lemma phase_cases {phases phases' : Nat → Phase} {i : Nat} {p' : Phase}
    (e : phases' = Function.update phases i p') (j : Nat) :
    (j = i ∧ phases' j = p') ∨ (j ≠ i ∧ phases' j = phases j) := by
  subst e
  by_cases same : j = i
  · subst same
    exact .inl ⟨rfl, Function.update_self _ _ _⟩
  · exact .inr ⟨same, Function.update_of_ne same _ _⟩

/-- The token of a lease that was just granted is above every token that is held. -/
lemma Inv.granted_lt (inv : Inv requests s) {i : Nat} {t' : agent.store.σ} {lease : RunLease}
    (granted : Granted agent (requests i) s.store t' lease) {j : Nat} {lease' : RunLease}
    (held : (s.phases j).lease? = some lease')
    (conversation : (requests j).identity.conversationId = (requests i).identity.conversationId) :
    lease'.fencingToken < lease.fencingToken := by
  have le := (inv.held j lease' held).2.2
  rw [conversation] at le
  rw [granted.next]
  exact Nat.lt_succ_of_le le

/-- A turn keeps what holds of every system. -/
lemma Inv.step (inv : Inv requests s) (st : System.Step requests s turn s') :
    Inv requests s' := by
  have store : agent.store.contract.inv s'.store := by
    obtain same | ⟨call, -, exec⟩ := System.step_call st
    · rw [same]
      exact inv.store
    · rw [exec]
      exact agent.store.contract.inv_exec inv.store
  obtain ⟨p', phases, ⟨rfl, same⟩ | adv⟩ := System.step_cases st
  · rw [Function.update_eq_self] at phases
    obtain ⟨clock, t, gates, ps⟩ := s
    obtain ⟨clock', t', gates', ps'⟩ := s'
    simp only at same phases
    subst same phases
    exact ⟨inv.store, inv.known, inv.held, inv.distinct, inv.statuses, inv.responses, inv.payloads⟩
  · refine ⟨store, fun j known => ?_, fun j lease held => ?_,
      fun j k lease lease' ne held held' conversation => ?_, adv.change.statuses inv.statuses,
      fun j response held => ?_, adv.change.payloads (inv.responses turn.handler) inv.payloads⟩
    · obtain ⟨rfl, e⟩ | ⟨ne, e⟩ := phase_cases phases j
      · obtain before | found := adv.knows (e ▸ known)
        · exact adv.change.known (inv.known _ before)
        · exact found
      · exact adv.change.known (inv.known j (e ▸ known))
    · obtain ⟨rfl, e⟩ | ⟨ne, e⟩ := phase_cases phases j
      · obtain before | granted := adv.lease lease (e ▸ held)
        · obtain ⟨key, conversation, le⟩ := inv.held _ lease before
          exact ⟨key, conversation, le.trans (adv.change.token_le _)⟩
        · exact ⟨granted.key, granted.conversation, Nat.le_of_eq granted.last.symm⟩
      · obtain ⟨key, conversation, le⟩ := inv.held j lease (e ▸ held)
        exact ⟨key, conversation, le.trans (adv.change.token_le _)⟩
    -- of two leases one at most is new, and it has the last token
    · obtain ⟨rfl, e⟩ | ⟨nej, e⟩ := phase_cases phases j
      · obtain ⟨rfl, -⟩ | ⟨-, e'⟩ := phase_cases phases k
        · exact absurd rfl ne
        · obtain before | granted := adv.lease lease (e ▸ held)
          · exact inv.distinct _ k lease lease' ne before (e' ▸ held') conversation
          · exact (inv.granted_lt granted (e' ▸ held') conversation.symm).ne'
      · obtain ⟨rfl, e'⟩ | ⟨-, e'⟩ := phase_cases phases k
        · obtain before | granted := adv.lease lease' (e' ▸ held')
          · exact inv.distinct j _ lease lease' ne (e ▸ held) before conversation
          · exact (inv.granted_lt granted (e ▸ held) conversation).ne
        · exact inv.distinct j k lease lease' ne (e ▸ held) (e' ▸ held') conversation
    · obtain ⟨rfl, e⟩ | ⟨ne, e⟩ := phase_cases phases j
      · obtain tagged | before | ⟨r, found, payload, drawn, stored, validated⟩ :=
          adv.response response (e ▸ held)
        · exact tagged
        · exact inv.responses _ response before
        · simp only [replayablePayload] at stored
          split at stored
          · have replayable :=
              adv.change.payloads (inv.responses turn.handler) inv.payloads _ r payload found stored
            exact (replayable.validated validated).1
          · cases stored
      · exact inv.responses j response (e ▸ held)

/-- The invariants hold throughout a run from the empty repository. -/
lemma Inv.run {now : Time} {events : List (Event (System agent) Turn)} {final : System agent}
    (run : Run (System.Step requests) (System.start agent now) events final) :
    Inv requests final :=
  run.invariant (G := fun _ => True) (fun _ st _ inv => inv.step st) (fun _ _ => trivial)
    (.start now)

end Preserved

end AgentRuntime.Orchestration
